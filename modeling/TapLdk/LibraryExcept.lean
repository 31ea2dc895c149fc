import Mathlib

/-! Guard sequences over `Except`: what each step of a successful run established, and
the induction rule for a fallible left fold. Nothing here mentions a particular program. -/
namespace TapLdk.LibraryExcept

variable {ε ε' α β σ : Type}

/-- An early `return Err(e)` under a condition. -/
def rejectIf (bad : Prop) [Decidable bad] (e : ε) : Except ε Unit :=
  if bad then .error e else .ok ()

/-- `Option::ok_or`. -/
def okOr (x : Option α) (e : ε) : Except ε α :=
  match x with
  | some a => .ok a
  | none => .error e

@[simp] theorem bind_eq_ok {x : Except ε α} {f : α → Except ε β} {b : β} :
    (x >>= f) = .ok b ↔ ∃ a, x = .ok a ∧ f a = .ok b := by
  cases x <;> simp [bind, Except.bind]

/-- A check followed by the rest of a method. -/
theorem check_bind_eq_ok {x : Except ε Unit} {f : Unit → Except ε β} {b : β} :
    (x >>= f) = .ok b ↔ x = .ok () ∧ f () = .ok b := by
  rw [bind_eq_ok]
  exact ⟨fun ⟨_, hx, hf⟩ => ⟨hx, hf⟩, fun ⟨hx, hf⟩ => ⟨(), hx, hf⟩⟩

@[simp] theorem ok_bind {a : α} {f : α → Except ε β} : (Except.ok a >>= f) = f a := rfl

@[simp] theorem error_bind {e : ε} {f : α → Except ε β} :
    ((Except.error e : Except ε α) >>= f) = .error e := rfl

@[simp] theorem bind_ok {x : Except ε α} : (x >>= fun a => Except.ok a) = x := by
  cases x <;> rfl

@[simp] theorem pure_eq_ok (a : α) : (pure a : Except ε α) = .ok a := rfl

@[simp] theorem rejectIf_eq_ok {bad : Prop} [Decidable bad] {e : ε} {u : Unit} :
    rejectIf bad e = .ok u ↔ ¬ bad := by
  by_cases h : bad <;> simp [rejectIf, h]

theorem rejectIf_false {bad : Prop} [Decidable bad] {e : ε} (h : ¬ bad) :
    rejectIf bad e = .ok () := rejectIf_eq_ok.mpr h

@[simp] theorem okOr_eq_ok {x : Option α} {e : ε} {a : α} : okOr x e = .ok a ↔ x = some a := by
  cases x <;> simp [okOr]

@[simp] theorem mapError_eq_ok {x : Except ε α} {f : ε → ε'} {a : α} :
    x.mapError f = .ok a ↔ x = .ok a := by
  cases x <;> simp [Except.mapError]

theorem toOption_eq_some {x : Except ε α} {a : α} (h : x.toOption = some a) : x = .ok a := by
  cases x with
  | error e => cases h
  | ok b => rw [Option.some.inj h]

/-- A loop of checks succeeds exactly when every check does. -/
@[simp] theorem forM_eq_ok {xs : List α} {f : α → Except ε Unit} {u : Unit} :
    xs.forM f = .ok u ↔ ∀ x ∈ xs, f x = .ok () := by
  induction xs with
  | nil => simp [List.forM]
  | cons x xs ih =>
    change (f x >>= fun _ => xs.forM f) = .ok u ↔ _
    rw [bind_eq_ok]
    simp only [ih, List.mem_cons, forall_eq_or_imp]
    constructor
    · rintro ⟨⟨⟩, hx, hxs⟩
      exact ⟨hx, hxs⟩
    · rintro ⟨hx, hxs⟩
      exact ⟨(), hx, hxs⟩

/-- What a successful fallible fold establishes, from what each of its steps preserves;
`P` sees the elements already consumed. -/
theorem foldlM_induction {f : σ → α → Except ε σ} (P : List α → σ → Prop) {init : σ}
    (h0 : P [] init)
    (hstep : ∀ done x s s', P done s → f s x = .ok s' → P (done ++ [x]) s')
    {xs : List α} {out : σ} (h : xs.foldlM f init = .ok out) : P xs out := by
  suffices hg : ∀ (rest done : List α) (s : σ), P done s →
      rest.foldlM f s = .ok out → P (done ++ rest) out by
    simpa using hg xs [] init h0 h
  intro rest
  induction rest with
  | nil =>
    intro done s hs ho
    simp only [List.foldlM_nil, pure_eq_ok, Except.ok.injEq] at ho
    subst ho
    simpa using hs
  | cons x rest ih =>
    intro done s hs ho
    simp only [List.foldlM_cons, bind_eq_ok] at ho
    obtain ⟨s', hx, hr⟩ := ho
    simpa using ih (done ++ [x]) s' (hstep done x s s' hs hx) hr

/-- A fold succeeds when no step of it can fail. -/
theorem foldlM_total {f : σ → α → Except ε σ} {xs : List α} (init : σ)
    (h : ∀ s, ∀ x ∈ xs, ∃ s', f s x = .ok s') : ∃ out, xs.foldlM f init = .ok out := by
  induction xs generalizing init with
  | nil => exact ⟨init, by simp⟩
  | cons x xs ih =>
    obtain ⟨s', hx⟩ := h init x (List.mem_cons_self ..)
    obtain ⟨out, hout⟩ := ih s' fun s y hy => h s y (List.mem_cons_of_mem _ hy)
    exact ⟨out, by rw [List.foldlM_cons, hx, ok_bind, hout]⟩

/-- What a fold establishes when each step either preserves it or fails in a known way. -/
theorem foldlM_cases (f : σ → α → Except ε σ) (xs : List α) (init : σ) (P : List α → σ → Prop)
    (Q : ε → Prop) (h0 : P [] init)
    (hstep : ∀ done x rest s, xs = done ++ x :: rest → P done s →
      (∃ s', f s x = .ok s' ∧ P (done ++ [x]) s') ∨ ∃ e, f s x = .error e ∧ Q e) :
    (∃ out, xs.foldlM f init = .ok out ∧ P xs out) ∨ ∃ e, xs.foldlM f init = .error e ∧ Q e := by
  suffices hg : ∀ (rest done : List α) (s : σ), xs = done ++ rest → P done s →
      (∃ out, rest.foldlM f s = .ok out ∧ P xs out) ∨ ∃ e, rest.foldlM f s = .error e ∧ Q e by
    exact hg xs [] init rfl h0
  intro rest
  induction rest with
  | nil =>
    intro done s hxs hs
    rw [List.append_nil] at hxs
    exact .inl ⟨s, rfl, hxs ▸ hs⟩
  | cons x rest ih =>
    intro done s hxs hs
    rcases hstep done x rest s hxs hs with ⟨s', hx, hs'⟩ | ⟨e, hx, he⟩
    · rw [List.foldlM_cons, hx, ok_bind]
      exact ih (done ++ [x]) s' (by simpa using hxs) hs'
    · rw [List.foldlM_cons, hx, error_bind]
      exact .inr ⟨e, rfl, he⟩

/-- A fold over an extended list is the fold over the list followed by one step. -/
theorem foldlM_concat {f : σ → α → Except ε σ} (xs : List α) (x : α) (init : σ) :
    (xs ++ [x]).foldlM f init = xs.foldlM f init >>= fun s => f s x := by
  rw [List.foldlM_append]
  congr
  funext s
  simp

theorem mapM_eq_ok {f : α → Except ε β} {xs : List α} {ys : List β} :
    xs.mapM f = .ok ys ↔ List.Forall₂ (fun x y => f x = .ok y) xs ys := by
  induction xs generalizing ys with
  | nil => simp [eq_comm]
  | cons x xs ih =>
    simp only [List.mapM_cons, bind_eq_ok, ih, pure_eq_ok, Except.ok.injEq,
      List.forall₂_cons_left_iff]
    constructor
    · rintro ⟨y, hy, ys', hys, rfl⟩
      exact ⟨y, ys', hy, hys, rfl⟩
    · rintro ⟨y, ys', hy, hys, rfl⟩
      exact ⟨y, hy, ys', hys, rfl⟩

theorem forall₂_exists {R : α → β → Prop} {xs : List α} {ys : List β}
    (h : List.Forall₂ R xs ys) {x : α} (hx : x ∈ xs) : ∃ y ∈ ys, R x y := by
  obtain ⟨i, hi, rfl⟩ := List.mem_iff_getElem.mp hx
  have hi' : i < ys.length := h.length_eq ▸ hi
  exact ⟨ys[i], List.getElem_mem hi', h.get hi hi'⟩

end TapLdk.LibraryExcept
