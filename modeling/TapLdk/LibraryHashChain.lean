import Mathlib
import TapLdk.LibrarySparseTree

/-! Hash chains over a list: each link hashes the link before it joined with an item. Two
chains of one length that end alike are the same, or the messages they hash collide. -/
namespace TapLdk.LibraryHashChain
open TapLdk.LibrarySparseTree

variable {D M α : Type} (hash : M → D) (join : D → α → M)

/-- The last link of the chain that starts at `link`. -/
def chainEnd (link : D) (items : List α) : D :=
  items.foldl (fun link item => hash (join link item)) link

/-- The messages that are hashed along the chain. -/
def chainMessages : D → List α → List M
  | _, [] => []
  | link, item :: items => join link item :: chainMessages (hash (join link item)) items

variable {hash join}

@[simp] theorem chainEnd_nil (link : D) : chainEnd hash join link ([] : List α) = link := rfl

@[simp] theorem chainEnd_cons (link : D) (item : α) (items : List α) :
    chainEnd hash join link (item :: items) =
      chainEnd hash join (hash (join link item)) items := rfl

variable [DecidableEq M] [DecidableEq D]

theorem firstCollision_cons_isSome {x y : M} {xs ys : List M}
    (h : (firstCollision hash xs ys).isSome) :
    (firstCollision hash (x :: xs) (y :: ys)).isSome := by
  rw [firstCollision]
  split
  · rfl
  · exact h

/-- The chain is bound by its last link and its length, from the last item back to the first. -/
theorem chain_eq_or_collision
    (hjoin : ∀ {l l' : D} {a a' : α}, join l a = join l' a' → l = l' ∧ a = a')
    {l l' : D} {xs ys : List α} (hlength : xs.length = ys.length)
    (hend : chainEnd hash join l xs = chainEnd hash join l' ys) :
    (l = l' ∧ xs = ys) ∨
      (firstCollision hash (chainMessages hash join l xs) (chainMessages hash join l' ys)).isSome := by
  induction xs generalizing l l' ys with
  | nil =>
    obtain rfl := List.eq_nil_of_length_eq_zero hlength.symm
    exact .inl ⟨hend, rfl⟩
  | cons x xs ih =>
    cases ys with
    | nil => exact absurd hlength (by simp)
    | cons y ys =>
      rw [chainEnd_cons, chainEnd_cons] at hend
      rcases ih (by simpa using hlength) hend with ⟨hlink, rfl⟩ | hcollision
      · by_cases hmessage : join l x = join l' y
        · obtain ⟨rfl, rfl⟩ := hjoin hmessage
          exact .inl ⟨rfl, rfl⟩
        · right
          rw [chainMessages, chainMessages, firstCollision, if_pos ⟨hmessage, hlink⟩]
          rfl
      · exact .inr (firstCollision_cons_isSome hcollision)

end TapLdk.LibraryHashChain
