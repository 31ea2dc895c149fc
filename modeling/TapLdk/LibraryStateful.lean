import Mathlib
import TapLdk.LibraryExcept

/-! Fallible methods that keep what they have written when they fail: computations over
`ExceptT` and `StateM`, calls on a part of the state, and what each step of one leaves behind. -/
namespace TapLdk.LibraryStateful
open TapLdk.LibraryExcept

/-- A method on a mutable state that may return early with an error. -/
abbrev Stateful (σ ε α : Type) := ExceptT ε (StateM σ) α

namespace Stateful

variable {σ τ ε ε' α β : Type}

/-- The result of a call and the state it leaves behind. -/
def call (x : Stateful σ ε α) (s : σ) : Except ε α × σ := x.run.run s

def ofCall (f : σ → Except ε α × σ) : Stateful σ ε α := ExceptT.mk (StateT.mk f)

/-- A check or a computation that does not touch the state. -/
def lift (x : Except ε α) : Stateful σ ε α := ofCall fun s => (x, s)

/-- A call on a part of the state that leaves it as it was when it fails. -/
def transact (get : σ → τ) (set : τ → σ → σ) (f : ε' → ε) (m : τ → Except ε' (α × τ)) :
    Stateful σ ε α :=
  ofCall fun s => match m (get s) with
    | .ok (a, t) => (.ok a, set t s)
    | .error e => (.error (f e), s)

/-- A call on a part of the state that keeps its changes when it fails. -/
def onPart (get : σ → τ) (set : τ → σ → σ) (f : ε' → ε) (m : τ → Except ε' α × τ) :
    Stateful σ ε α :=
  ofCall fun s => ((m (get s)).1.mapError f, set (m (get s)).2 s)

@[simp] theorem call_ofCall (f : σ → Except ε α × σ) (s : σ) : (ofCall f).call s = f s := rfl

@[simp] theorem call_pure (a : α) (s : σ) : (pure a : Stateful σ ε α).call s = (.ok a, s) := rfl

@[simp] theorem call_lift (x : Except ε α) (s : σ) : (lift x).call s = (x, s) := rfl

theorem call_bind (x : Stateful σ ε α) (f : α → Stateful σ ε β) (s : σ) :
    (x >>= f).call s = match x.call s with
      | (.ok a, t) => (f a).call t
      | (.error e, t) => (.error e, t) := by
  change (ExceptT.bindCont f (x.call s).1).run (x.call s).2 = _
  rcases x.call s with ⟨a | e, t⟩ <;> rfl

/-- A method stops at its first error, or goes on from the state the first step left. -/
theorem call_bind_cases (x : Stateful σ ε α) (f : α → Stateful σ ε β) (s : σ) :
    (∃ e, (x.call s).1 = .error e ∧ (x >>= f).call s = (.error e, (x.call s).2)) ∨
      ∃ a, (x.call s).1 = .ok a ∧ (x >>= f).call s = (f a).call (x.call s).2 := by
  rw [call_bind]
  rcases x.call s with ⟨e | a, t⟩
  · exact .inl ⟨e, rfl, rfl⟩
  · exact .inr ⟨a, rfl, rfl⟩

theorem call_bind_of_ok {x : Stateful σ ε α} {f : α → Stateful σ ε β} {s t : σ} {a : α}
    (h : x.call s = (.ok a, t)) : (x >>= f).call s = (f a).call t := by
  rw [call_bind, h]

theorem call_bind_of_error {x : Stateful σ ε α} {f : α → Stateful σ ε β} {s t : σ} {e : ε}
    (h : x.call s = (.error e, t)) : (x >>= f).call s = (.error e, t) := by
  rw [call_bind, h]

theorem call_transact_of_ok {get : σ → τ} {set : τ → σ → σ} {f : ε' → ε}
    {m : τ → Except ε' (α × τ)} {s : σ} {a : α} {t : τ} (h : m (get s) = .ok (a, t)) :
    (transact get set f m).call s = (.ok a, set t s) := by
  rw [transact, call_ofCall, h]

theorem call_transact_of_error {get : σ → τ} {set : τ → σ → σ} {f : ε' → ε}
    {m : τ → Except ε' (α × τ)} {s : σ} {e : ε'} (h : m (get s) = .error e) :
    (transact get set f m).call s = (.error (f e), s) := by
  rw [transact, call_ofCall, h]

theorem call_bind_eq_ok {x : Stateful σ ε α} {f : α → Stateful σ ε β} {s u : σ} {b : β} :
    (x >>= f).call s = (.ok b, u) ↔
      ∃ a t, x.call s = (.ok a, t) ∧ (f a).call t = (.ok b, u) := by
  rw [call_bind]
  rcases x.call s with ⟨e | a, t⟩ <;> simp

theorem call_onPart_eq_ok {get : σ → τ} {set : τ → σ → σ} {f : ε' → ε} {m : τ → Except ε' α × τ}
    {s u : σ} {a : α} : (onPart get set f m).call s = (.ok a, u) ↔
      (m (get s)).1 = .ok a ∧ set (m (get s)).2 s = u := by
  rw [onPart, call_ofCall, Prod.mk.injEq, mapError_eq_ok]

theorem call_transact_eq_ok {get : σ → τ} {set : τ → σ → σ} {f : ε' → ε}
    {m : τ → Except ε' (α × τ)} {s u : σ} {a : α} : (transact get set f m).call s = (.ok a, u) ↔
      ∃ t, m (get s) = .ok (a, t) ∧ set t s = u := by
  rw [transact, call_ofCall]
  cases m (get s) with
  | error e => simp
  | ok r => simp [Prod.ext_iff]

/-- A transaction succeeds and writes its part, or fails and writes nothing. -/
theorem call_transact_cases (get : σ → τ) (set : τ → σ → σ) (f : ε' → ε)
    (m : τ → Except ε' (α × τ)) (s : σ) :
    (∃ e, m (get s) = .error e ∧ (transact get set f m).call s = (.error (f e), s)) ∨
      ∃ a t, m (get s) = .ok (a, t) ∧ (transact get set f m).call s = (.ok a, set t s) := by
  cases h : m (get s) with
  | error e => exact .inl ⟨e, rfl, call_transact_of_error h⟩
  | ok r => exact .inr ⟨r.1, r.2, rfl, call_transact_of_ok h⟩

/-- The state before a method and the one after it are related. -/
def Steps (R : σ → σ → Prop) (x : Stateful σ ε α) : Prop := ∀ s, R s (x.call s).2

section Steps

variable {R : σ → σ → Prop}

theorem Steps.bind (htrans : ∀ s t u, R s t → R t u → R s u) {x : Stateful σ ε α}
    {f : α → Stateful σ ε β} (hx : Steps R x) (hf : ∀ a, Steps R (f a)) : Steps R (x >>= f) := by
  intro s
  rcases call_bind_cases x f s with ⟨e, -, hcall⟩ | ⟨a, -, hcall⟩
  · rw [hcall]
    exact hx s
  · rw [hcall]
    exact htrans _ _ _ (hx s) (hf a _)

theorem steps_pure (hrefl : ∀ s, R s s) (a : α) : Steps R (pure a : Stateful σ ε α) := hrefl

theorem steps_transact (hrefl : ∀ s, R s s) {get : σ → τ} {set : τ → σ → σ} {f : ε' → ε}
    {m : τ → Except ε' (α × τ)} (h : ∀ s a t, m (get s) = .ok (a, t) → R s (set t s)) :
    Steps R (transact get set f m) := by
  intro s
  rcases call_transact_cases get set f m s with ⟨e, -, hcall⟩ | ⟨a, t, hm, hcall⟩
  · rw [hcall]
    exact hrefl s
  · rw [hcall]
    exact h s a t hm

theorem steps_onPart {get : σ → τ} {set : τ → σ → σ} {f : ε' → ε} {m : τ → Except ε' α × τ}
    (h : ∀ s, R s (set (m (get s)).2 s)) : Steps R (onPart get set f m) := h

end Steps

end Stateful

end TapLdk.LibraryStateful
