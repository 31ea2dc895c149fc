import Mathlib
import TapLdk.LibraryExcept

/-! Computations that ask for parts of what is there: every request is recorded, and one that
cannot be met panics. A tracked computation that follows a fallible one asks only for what is
there, and ends as that one does. -/
namespace TapLdk.LibraryRequests
open TapLdk.LibraryExcept

/-- How much is asked for, of how much there is. -/
structure Request where
  asked : ℕ
  allowed : ℕ
deriving DecidableEq

def Request.Granted (r : Request) : Prop := r.asked ≤ r.allowed

instance (r : Request) : Decidable r.Granted := inferInstanceAs (Decidable (_ ≤ _))

inductive Outcome (ε α : Type) where
  | ok (a : α)
  | error (e : ε)
  | panic
deriving DecidableEq

def Outcome.ofExcept {ε α : Type} : Except ε α → Outcome ε α
  | .ok a => .ok a
  | .error e => .error e

/-- The requests that a computation makes, in order, and how it ends. -/
structure Tracked (ε α : Type) where
  requests : List Request
  outcome : Outcome ε α

namespace Tracked

variable {ε ε' α β : Type}

def bind (x : Tracked ε α) (f : α → Tracked ε β) : Tracked ε β :=
  match x.outcome with
  | .ok a => ⟨x.requests ++ (f a).requests, (f a).outcome⟩
  | .error e => ⟨x.requests, .error e⟩
  | .panic => ⟨x.requests, .panic⟩

instance : Monad (Tracked ε) where
  pure a := ⟨[], .ok a⟩
  bind := bind

/-- A computation that asks for nothing. -/
def lift (y : Except ε α) : Tracked ε α := ⟨[], .ofExcept y⟩

/-- A slice, an index or a sum, which panics beyond what there is. -/
def request (asked allowed : ℕ) : Tracked ε Unit :=
  ⟨[⟨asked, allowed⟩], if asked ≤ allowed then .ok () else .panic⟩

/-- A capacity for so many elements, of so many that are to come: beyond the largest allocation
it panics, below that it is given even when fewer come. -/
def withCapacity (elementSize largest count toCome : ℕ) : Tracked ε Unit :=
  ⟨[⟨count, toCome⟩], if elementSize * count ≤ largest then .ok () else .panic⟩

def mapError (f : ε → ε') (x : Tracked ε α) : Tracked ε' α :=
  ⟨x.requests, match x.outcome with
    | .ok a => .ok a
    | .error e => .error (f e)
    | .panic => .panic⟩

/-- It does not panic, and every request is for what is there. -/
def Safe (x : Tracked ε α) : Prop := x.outcome ≠ .panic ∧ ∀ r ∈ x.requests, r.Granted

/-- Every request is for what is there, and the end is that of a computation without requests. -/
def Follows (x : Tracked ε α) (y : Except ε α) : Prop :=
  (∀ r ∈ x.requests, r.Granted) ∧ x.outcome = .ofExcept y

theorem Follows.safe {x : Tracked ε α} {y : Except ε α} (h : Follows x y) : Safe x := by
  refine ⟨?_, h.1⟩
  rw [h.2]
  cases y <;> exact nofun

theorem follows_lift (y : Except ε α) : Follows (lift y) y := ⟨by simp [lift], rfl⟩

theorem follows_pure (a : α) : Follows (pure a : Tracked ε α) (pure a) := ⟨nofun, rfl⟩

theorem follows_request {asked allowed : ℕ} (h : asked ≤ allowed) :
    Follows (request asked allowed : Tracked ε Unit) (.ok ()) :=
  ⟨by simpa [request, Request.Granted] using h, if_pos h⟩

theorem Follows.bind {x : Tracked ε α} {y : Except ε α} {f : α → Tracked ε β}
    {g : α → Except ε β} (h : Follows x y) (hf : ∀ a, y = .ok a → Follows (f a) (g a)) :
    Follows (x >>= f) (y >>= g) := by
  change Follows (Tracked.bind x f) _
  obtain ⟨hgranted, houtcome⟩ := h
  rw [Tracked.bind, houtcome]
  cases y with
  | error e => exact ⟨hgranted, rfl⟩
  | ok a =>
    obtain ⟨hgranted', houtcome'⟩ := hf a rfl
    refine ⟨fun r hr => ?_, houtcome'⟩
    rcases List.mem_append.mp hr with hr | hr
    · exact hgranted r hr
    · exact hgranted' r hr

/-- A check in front of both. -/
theorem Follows.check {bad : Prop} [Decidable bad] {e : ε} {x : Tracked ε α} {y : Except ε α}
    (h : ¬ bad → Follows x y) :
    Follows (lift (rejectIf bad e) >>= fun _ => x) (rejectIf bad e >>= fun _ => y) :=
  (follows_lift _).bind fun _ hok => h (rejectIf_eq_ok.mp hok)

/-- A step that only one of them takes, and that is known to end well. -/
theorem Follows.step {x : Tracked ε α} {a : α} {f : α → Tracked ε β} {y : Except ε β}
    (h : Follows x (.ok a)) (hf : Follows (f a) y) : Follows (x >>= f) y := by
  refine @Follows.bind ε α β x (.ok a) f (fun _ => y) h fun b hb => ?_
  cases hb
  exact hf

/-- A request that what was checked before makes good. -/
theorem Follows.request {asked allowed : ℕ} {x : Tracked ε α} {y : Except ε α}
    (hgranted : asked ≤ allowed) (h : Follows x y) :
    Follows (Tracked.request asked allowed >>= fun _ => x) y :=
  (follows_request hgranted).step h

theorem Follows.mapError {x : Tracked ε α} {y : Except ε α} (h : Follows x y) (f : ε → ε') :
    Follows (x.mapError f) (y.mapError f) := by
  refine ⟨h.1, ?_⟩
  rw [Tracked.mapError, h.2]
  cases y <;> rfl

/-- What comes after a computation has to be safe where that one ends well. -/
theorem safe_bind_iff {x : Tracked ε α} {y : Except ε α} {f : α → Tracked ε β}
    (h : Follows x y) : Safe (x >>= f) ↔ ∀ a, y = .ok a → Safe (f a) := by
  change Safe (Tracked.bind x f) ↔ _
  obtain ⟨hgranted, houtcome⟩ := h
  rw [Tracked.bind, houtcome]
  cases y with
  | error e => exact iff_of_true ⟨nofun, hgranted⟩ nofun
  | ok a =>
    simp only [Outcome.ofExcept, Safe, List.mem_append, Except.ok.injEq, forall_eq']
    exact and_congr_right fun _ => ⟨fun hall r hr => hall r (.inr hr),
      fun hall r hr => hr.elim (hgranted r) (hall r)⟩

/-- A capacity request is safe when it is for no more elements than come, and these fit. -/
theorem safe_withCapacity_bind_iff {elementSize largest count toCome : ℕ} {x : Tracked ε α}
    {y : Except ε α} (h : Follows x y) :
    Safe (withCapacity elementSize largest count toCome >>= fun _ => x) ↔
      count ≤ toCome ∧ elementSize * count ≤ largest := by
  change Safe (Tracked.bind _ _) ↔ _
  rw [Tracked.bind, withCapacity]
  split_ifs with hfits
  · simp only [Safe, List.mem_append, List.mem_singleton, forall_eq_or_imp, hfits, and_true]
    exact ⟨fun hsafe => hsafe.2.1, fun hcount => ⟨h.safe.1, hcount, h.1⟩⟩
  · simp [Safe, hfits]

end Tracked
end TapLdk.LibraryRequests
