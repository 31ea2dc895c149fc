import Mathlib

/-! Sparse binary trees over keys that are read one bit at a time: the full recursion over a
list of entries, the entries under a key's prefix, sums over a subtree, and paths of hashed
messages, which are equal or collide when their roots do. -/
namespace TapLdk.LibrarySparseTree

/-- The bits of a key, and how the nodes of a full binary tree are built. -/
structure Scheme (K N : Type) where
  bit : K → ℕ → Bool
  branch : N → N → N
  emptyLeaf : N

namespace Scheme

variable {K N : Type} (S : Scheme K N)

/-- The root of a subtree of some height without leaves. -/
def emptyNode : ℕ → N
  | 0 => S.emptyLeaf
  | height + 1 => S.branch (emptyNode height) (emptyNode height)

/-- The root over entries at a depth, so many levels above the leaves: split by the next bit. -/
def node : ℕ → ℕ → List (K × N) → N
  | 0, _, entries => (entries.head?.map (·.2)).getD S.emptyLeaf
  | height + 1, depth, entries =>
    if entries.isEmpty then S.emptyNode (height + 1)
    else S.branch (node height (depth + 1) (entries.filter fun e => !S.bit e.1 depth))
      (node height (depth + 1) (entries.filter fun e => S.bit e.1 depth))

/-- Two keys read the same down to a depth. -/
def Agree (depth : ℕ) (key key' : K) : Prop := ∀ i < depth, S.bit key i = S.bit key' i

instance (depth : ℕ) (key key' : K) : Decidable (S.Agree depth key key') :=
  inferInstanceAs (Decidable (∀ i < depth, S.bit key i = S.bit key' i))

/-- The entries in the subtree at a depth that a key belongs to. -/
def under (depth : ℕ) (key : K) (entries : List (K × N)) : List (K × N) :=
  entries.filter fun e => S.Agree depth key e.1

/-- The parent of a node on a key's path and of its sibling. -/
def join (key : K) (depth : ℕ) (own sibling : N) : N :=
  if S.bit key depth then S.branch sibling own else S.branch own sibling

@[simp] theorem node_nil (height depth : ℕ) : S.node height depth [] = S.emptyNode height := by
  cases height <;> simp [node, emptyNode]

theorem node_succ (height depth : ℕ) (entries : List (K × N)) :
    S.node (height + 1) depth entries =
      S.branch (S.node height (depth + 1) (entries.filter fun e => !S.bit e.1 depth))
        (S.node height (depth + 1) (entries.filter fun e => S.bit e.1 depth)) := by
  cases entries with
  | nil => simp [emptyNode]
  | cons e entries => simp [node]

theorem agree_succ {depth : ℕ} {key key' : K} :
    S.Agree (depth + 1) key key' ↔ S.Agree depth key key' ∧ S.bit key' depth = S.bit key depth := by
  unfold Agree
  constructor
  · intro h
    exact ⟨fun i hi => h i (by omega), (h depth (by omega)).symm⟩
  · rintro ⟨h, hlast⟩ i hi
    rcases Nat.lt_succ_iff_lt_or_eq.mp hi with hi | rfl
    · exact h i hi
    · exact hlast.symm

theorem agree_trans {depth : ℕ} {a b c : K} (hab : S.Agree depth a b) (hac : S.Agree depth a c) :
    S.Agree depth b c :=
  fun i hi => (hab i hi).symm.trans (hac i hi)

@[simp] theorem under_zero (key : K) (entries : List (K × N)) : S.under 0 key entries = entries := by
  simp [under, Agree]

section Sums

variable {S} {sum : N → ℕ}

theorem sum_filter_add (sum : N → ℕ) (p : K × N → Bool) (entries : List (K × N)) :
    ((entries.filter fun e => !p e).map fun e => sum e.2).sum +
      ((entries.filter p).map fun e => sum e.2).sum = (entries.map fun e => sum e.2).sum := by
  induction entries with
  | nil => rfl
  | cons e entries ih =>
    cases hp : p e <;> simp only [hp, List.filter_cons, Bool.not_true, Bool.not_false, ite_true,
      Bool.false_eq_true, ite_false, List.map_cons, List.sum_cons] <;> omega

theorem sum_filter_le (p : K × N → Bool) (entries : List (K × N)) :
    ((entries.filter p).map fun e => sum e.2).sum ≤ (entries.map fun e => sum e.2).sum := by
  rw [← sum_filter_add sum p entries]
  exact Nat.le_add_left _ _

/-- Entries that differ within the bits left sum up to the sum of their node. -/
theorem sum_node (hbranch : ∀ l r, sum (S.branch l r) = sum l + sum r)
    (hempty : sum S.emptyLeaf = 0) {height depth : ℕ} {entries : List (K × N)}
    (hagree : ∀ e ∈ entries, ∀ e' ∈ entries, S.Agree depth e.1 e'.1)
    (hdiffer : entries.Pairwise fun e e' => ¬ S.Agree (depth + height) e.1 e'.1) :
    sum (S.node height depth entries) = (entries.map fun e => sum e.2).sum := by
  induction height generalizing depth entries with
  | zero =>
    cases hdiffer with
    | nil => simpa [node] using hempty
    | @cons e rest hrest _ =>
      cases rest with
      | nil => simp [node]
      | cons e' rest => exact absurd (hagree e (by simp) e' (by simp)) (hrest e' (by simp))
  | succ height ih =>
    have hhalf (b : Bool) : sum (S.node height (depth + 1)
        (entries.filter fun e => S.bit e.1 depth == b)) =
          ((entries.filter fun e => S.bit e.1 depth == b).map fun e => sum e.2).sum := by
      apply ih
      · intro e he e' he'
        simp only [List.mem_filter, beq_iff_eq] at he he'
        exact S.agree_succ.mpr ⟨hagree e he.1 e' he'.1, he'.2.trans he.2.symm⟩
      · rw [show depth + 1 + height = depth + (height + 1) by omega]
        exact hdiffer.filter _
    have hsplit := sum_filter_add sum (fun e => S.bit e.1 depth) entries
    have hfalse := hhalf false
    have htrue := hhalf true
    simp only [beq_false, beq_true] at hfalse htrue
    rw [node_succ, hbranch, hfalse, htrue, hsplit]

end Sums

end Scheme

section Paths

variable {M D : Type} (hash : M → D) (child : Bool → M → D)

/-- Each message of a path is hashed into the one above it, on the side that the path takes. -/
def Linked : List Bool → List M → Prop
  | side :: sides, x :: y :: rest => hash y = child side x ∧ Linked sides (y :: rest)
  | [], [_] => True
  | _, _ => False

/-- The first two messages of two paths that differ and have one hash. -/
def firstCollision [DecidableEq M] [DecidableEq D] : List M → List M → Option (M × M)
  | x :: xs, y :: ys => if x ≠ y ∧ hash x = hash y then some (x, y) else firstCollision xs ys
  | _, _ => none

variable {hash child}

theorem firstCollision_spec [DecidableEq M] [DecidableEq D] {xs ys : List M} {x y : M}
    (h : firstCollision hash xs ys = some (x, y)) : x ≠ y ∧ hash x = hash y := by
  induction xs generalizing ys with
  | nil => simp [firstCollision] at h
  | cons a xs ih =>
    cases ys with
    | nil => simp [firstCollision] at h
    | cons b ys =>
      rw [firstCollision] at h
      split at h
      · next hab =>
        cases h
        exact hab
      · exact ih h

/-- Two paths down the same sides with one root hash are the same, or they collide. -/
theorem paths_eq_or_collision [DecidableEq M] [DecidableEq D] {sides : List Bool} {x y : M}
    {xs ys : List M} (hxs : Linked hash child sides (x :: xs))
    (hys : Linked hash child sides (y :: ys)) (hroot : hash x = hash y) :
    x :: xs = y :: ys ∨ (firstCollision hash (x :: xs) (y :: ys)).isSome := by
  induction sides generalizing x y xs ys with
  | nil =>
    cases xs with
    | cons => exact absurd hxs (by simp [Linked])
    | nil =>
      cases ys with
      | cons => exact absurd hys (by simp [Linked])
      | nil =>
        by_cases hxy : x = y
        · exact .inl (by rw [hxy])
        · exact .inr (by simp [firstCollision, hxy, hroot])
  | cons side sides ih =>
    cases xs with
    | nil => exact absurd hxs (by simp [Linked])
    | cons x' xs =>
      cases ys with
      | nil => exact absurd hys (by simp [Linked])
      | cons y' ys =>
        by_cases hxy : x = y
        · subst hxy
          have hnext : hash x' = hash y' := hxs.1.trans hys.1.symm
          rcases ih hxs.2 hys.2 hnext with heq | hcol
          · exact .inl (by rw [heq])
          · exact .inr (by simpa [firstCollision] using hcol)
        · exact .inr (by simp [firstCollision, hxy, hroot])

end Paths

end TapLdk.LibrarySparseTree
