import Mathlib

/-! Runs of a deterministic machine that answers every input and may refuse it: the
induction rules for properties of all reachable states, with or without a condition on
the steps taken, and counting the steps that satisfy a test. -/
namespace TapLdk.LibraryRuns

variable {σ ι ο : Type}

/-- A machine: the state it starts in and the state each input leads to. -/
structure Machine (σ ι : Type) where
  start : σ
  next : σ → ι → σ

namespace Machine

/-- The state a list of inputs leads to. -/
def run (M : Machine σ ι) (is : List ι) : σ := is.foldl M.next M.start

@[simp] theorem run_nil (M : Machine σ ι) : M.run [] = M.start := rfl

theorem run_concat (M : Machine σ ι) (is : List ι) (i : ι) :
    M.run (is ++ [i]) = M.next (M.run is) i := by
  simp [run]

/-- Every step of the run is taken in a state and on an input that `C` admits. -/
def Guarded (M : Machine σ ι) (C : σ → ι → Prop) (is : List ι) : Prop :=
  ∀ before i after, is = before ++ i :: after → C (M.run before) i

theorem guarded_of_concat {M : Machine σ ι} {C : σ → ι → Prop} {is : List ι} {i : ι}
    (h : M.Guarded C (is ++ [i])) : M.Guarded C is ∧ C (M.run is) i := by
  refine ⟨fun before j after hj => ?_, h is i [] rfl⟩
  exact h before j (after ++ [i]) (by simp [hj])

theorem guarded_nil (M : Machine σ ι) (C : σ → ι → Prop) : M.Guarded C [] := by
  intro before i after h
  simp at h

theorem guarded_concat {M : Machine σ ι} {C : σ → ι → Prop} {is : List ι} {i : ι}
    (h : M.Guarded C is) (hi : C (M.run is) i) : M.Guarded C (is ++ [i]) := by
  intro before j after hj
  rcases List.eq_nil_or_concat after with rfl | ⟨after', k, rfl⟩
  · obtain ⟨rfl, rfl⟩ := List.append_inj' hj rfl |>.imp id List.singleton_inj.mp
    exact hi
  · have hj' : is ++ [i] = (before ++ j :: after') ++ [k] := by simpa using hj
    exact h before j after' (List.append_inj' hj' rfl).1

/-- A property of the inputs consumed and the state reached that one step preserves
holds of every run. -/
theorem run_induction (M : Machine σ ι) (P : List ι → σ → Prop) (h0 : P [] M.start)
    (hstep : ∀ is s i, P is s → P (is ++ [i]) (M.next s i)) (is : List ι) : P is (M.run is) := by
  induction is using List.reverseRecOn with
  | nil => exact h0
  | append_singleton is i ih => rw [run_concat]; exact hstep is _ i ih

/-- The same for the runs whose every step `C` admits. -/
theorem guarded_induction (M : Machine σ ι) (C : σ → ι → Prop) (P : List ι → σ → Prop)
    (h0 : P [] M.start)
    (hstep : ∀ is s i, P is s → C s i → P (is ++ [i]) (M.next s i)) (is : List ι)
    (h : M.Guarded C is) : P is (M.run is) := by
  induction is using List.reverseRecOn with
  | nil => exact h0
  | append_singleton is i ih =>
    obtain ⟨hg, hc⟩ := guarded_of_concat h
    rw [run_concat]
    exact hstep is _ i (ih hg) hc

theorem guarded_concat_iff {M : Machine σ ι} {C : σ → ι → Prop} {is : List ι} {i : ι} :
    M.Guarded C (is ++ [i]) ↔ M.Guarded C is ∧ C (M.run is) i := by
  constructor
  · exact guarded_of_concat
  · rintro ⟨h, hi⟩
    exact guarded_concat h hi

/-- Two conditions that agree after every run that one of them admits admit the same runs. -/
theorem guarded_congr {M : Machine σ ι} {C D : σ → ι → Prop}
    (h : ∀ is i, M.Guarded C is → (C (M.run is) i ↔ D (M.run is) i)) (is : List ι) :
    M.Guarded C is ↔ M.Guarded D is := by
  induction is using List.reverseRecOn with
  | nil => simp only [guarded_nil]
  | append_singleton is i ih =>
    rw [guarded_concat_iff, guarded_concat_iff, ← ih]
    exact and_congr_right fun hg => h is i hg

/-- How many steps of the run pass a test on the state and the input. -/
def count (M : Machine σ ι) (p : σ → ι → Bool) (is : List ι) : ℕ :=
  (is.foldl (fun acc i => (M.next acc.1 i, acc.2 + (p acc.1 i).toNat)) (M.start, 0)).2

theorem count_state (M : Machine σ ι) (p : σ → ι → Bool) (is : List ι) :
    (is.foldl (fun acc i => (M.next acc.1 i, acc.2 + (p acc.1 i).toNat)) (M.start, 0)).1 =
      M.run is := by
  induction is using List.reverseRecOn with
  | nil => rfl
  | append_singleton is i ih => rw [run_concat, List.foldl_append, ← ih]; rfl

@[simp] theorem count_nil (M : Machine σ ι) (p : σ → ι → Bool) : M.count p [] = 0 := rfl

theorem count_concat (M : Machine σ ι) (p : σ → ι → Bool) (is : List ι) (i : ι) :
    M.count p (is ++ [i]) = M.count p is + (p (M.run is) i).toNat := by
  rw [← count_state M p is]
  simp [count]

/-- What the steps of a run hand out, in order. -/
def emitted (M : Machine σ ι) (out : σ → ι → Option ο) (is : List ι) : List ο :=
  (is.foldl (fun acc i => (M.next acc.1 i, acc.2 ++ (out acc.1 i).toList)) (M.start, [])).2

theorem emitted_state (M : Machine σ ι) (out : σ → ι → Option ο) (is : List ι) :
    (is.foldl (fun acc i => (M.next acc.1 i, acc.2 ++ (out acc.1 i).toList)) (M.start, [])).1 =
      M.run is := by
  induction is using List.reverseRecOn with
  | nil => rfl
  | append_singleton is i ih => rw [run_concat, List.foldl_append, ← ih]; rfl

@[simp] theorem emitted_nil (M : Machine σ ι) (out : σ → ι → Option ο) :
    M.emitted out [] = [] := rfl

theorem emitted_concat (M : Machine σ ι) (out : σ → ι → Option ο) (is : List ι) (i : ι) :
    M.emitted out (is ++ [i]) = M.emitted out is ++ (out (M.run is) i).toList := by
  rw [← emitted_state M out is]
  simp [emitted]

/-- A part of the state that moves as another machine does, on the inputs each step feeds it,
is where that machine's run leads. -/
theorem run_component {τ κ : Type} {M : Machine σ ι} {N : Machine τ κ} (part : σ → τ)
    {feed : σ → ι → Option κ} (hstart : part M.start = N.start)
    (hnext : ∀ s i, part (M.next s i) = (feed s i).elim (part s) (N.next (part s)))
    (is : List ι) : part (M.run is) = N.run (M.emitted feed is) := by
  induction is using List.reverseRecOn with
  | nil => exact hstart
  | append_singleton is i ih =>
    rw [run_concat, hnext, emitted_concat]
    cases feed (M.run is) i with
    | none => simpa using ih
    | some k =>
      rw [Option.toList_some, run_concat, ← ih]
      rfl

/-- A part of the state that moves as another machine does takes as many steps that pass a
test as there are steps that feed it one. -/
theorem count_component {τ κ : Type} {M : Machine σ ι} {N : Machine τ κ} (part : σ → τ)
    {feed : σ → ι → Option κ} (hstart : part M.start = N.start)
    (hnext : ∀ s i, part (M.next s i) = (feed s i).elim (part s) (N.next (part s)))
    (p : τ → κ → Bool) (is : List ι) :
    N.count p (M.emitted feed is) = M.count (fun s i => (feed s i).any (p (part s))) is := by
  induction is using List.reverseRecOn with
  | nil => rfl
  | append_singleton is i ih =>
    rw [emitted_concat, count_concat, ← ih]
    cases feed (M.run is) i with
    | none => simp
    | some k =>
      rw [Option.toList_some, count_concat, ← run_component part hstart hnext is]
      rfl

/-- No step of `js`, taken after `is`, passes a test. -/
def Quiet (M : Machine σ ι) (p : σ → ι → Bool) (is js : List ι) : Prop :=
  ∀ before j after, js = before ++ j :: after → p (M.run (is ++ before)) j = false

theorem quiet_nil (M : Machine σ ι) (p : σ → ι → Bool) (is : List ι) : M.Quiet p is [] := by
  intro before j after h
  simp at h

theorem quiet_concat {M : Machine σ ι} {p : σ → ι → Bool} {is js : List ι} {j : ι} :
    M.Quiet p is (js ++ [j]) ↔ M.Quiet p is js ∧ p (M.run (is ++ js)) j = false := by
  constructor
  · intro h
    refine ⟨fun before k after hk => ?_, h js j [] rfl⟩
    exact h before k (after ++ [j]) (by simp [hk])
  · rintro ⟨hjs, hj⟩ before k after hk
    rcases List.eq_nil_or_concat after with rfl | ⟨after', l, rfl⟩
    · obtain ⟨rfl, rfl⟩ := List.append_inj' hk rfl |>.imp id List.singleton_inj.mp
      exact hj
    · have hk' : js ++ [j] = (before ++ k :: after') ++ [l] := by simpa using hk
      exact hjs before k after' (List.append_inj' hk' rfl).1

/-- What the steps that fail a test preserve survives all of them. -/
theorem quiet_induction {M : Machine σ ι} {p : σ → ι → Bool} (P : σ → Prop)
    (hstep : ∀ s i, p s i = false → P s → P (M.next s i)) {is js : List ι} (h : P (M.run is))
    (hquiet : M.Quiet p is js) : P (M.run (is ++ js)) := by
  induction js using List.reverseRecOn with
  | nil => rwa [List.append_nil]
  | append_singleton js j ih =>
    obtain ⟨hjs, hj⟩ := quiet_concat.mp hquiet
    rw [← List.append_assoc, run_concat]
    exact hstep _ j hj (ih hjs)

theorem count_le_append (M : Machine σ ι) (p : σ → ι → Bool) (is js : List ι) :
    M.count p is ≤ M.count p (is ++ js) := by
  induction js using List.reverseRecOn with
  | nil => rw [List.append_nil]
  | append_singleton js j ih =>
    rw [← List.append_assoc, count_concat]
    omega

/-- The count stands still exactly over steps that fail the test. -/
theorem count_append_eq_iff (M : Machine σ ι) (p : σ → ι → Bool) (is js : List ι) :
    M.count p (is ++ js) = M.count p is ↔ M.Quiet p is js := by
  induction js using List.reverseRecOn with
  | nil => simp [quiet_nil]
  | append_singleton js j ih =>
    have hle := count_le_append M p is js
    rw [quiet_concat, ← ih, ← List.append_assoc, count_concat]
    cases p (M.run (is ++ js)) j with
    | false => simp
    | true =>
      simp only [Bool.toNat_true, Bool.true_eq_false, and_false, iff_false]
      omega

end Machine
end TapLdk.LibraryRuns
