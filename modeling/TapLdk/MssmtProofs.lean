import Mathlib
import TapLdk.MssmtOperations

/-! Proofs of the Merkle-sum sparse Merkle tree: the siblings that the prover reads from the
levels, the root that the verifier folds from a leaf, and the messages hashed on the way. -/
namespace TapLdk.MssmtProofs
open TapLdk.LibraryExcept TapLdk.LibraryMaps TapLdk.LibraryBytes TapLdk.LibrarySha256
open TapLdk.LibrarySparseTree TapLdk.Mssmt TapLdk.MssmtLevels TapLdk.MssmtNaive
open TapLdk.MssmtOperations

structure MssmtProof where
  siblings : List MssmtNode
deriving DecidableEq

/-- The sibling that the prover reads at a depth. -/
def siblingAt (tree : MssmtTree) (key : Bytes32) (depth : ℕ) : MssmtNode :=
  ((tree.levels.getD (depth + 1) ∅)[siblingPrefix key depth]?).getD (emptyTree (depth + 1))

/-- The siblings of a key's path, the deepest first. -/
def proof (tree : MssmtTree) (key : Bytes32) : MssmtProof :=
  ⟨((List.range maxTreeLevels).map (siblingAt tree key)).reverse⟩

namespace MssmtProof

/-- One step of the verifier, from the sibling at an index of the proof. -/
def stepUp (key : Bytes32) (current : MssmtNode) (entry : MssmtNode × ℕ) :
    Except MssmtError MssmtNode :=
  let depth := maxTreeLevels - 1 - entry.2
  if bitAt key depth = 0 then branchNode current entry.1 else branchNode entry.1 current

def rootFor (proof : MssmtProof) (key : Bytes32) (leaf : MssmtLeaf) :
    Except MssmtError MssmtNode := do
  rejectIf (proof.siblings.length ≠ maxTreeLevels)
    (.invalidProofLength maxTreeLevels proof.siblings.length)
  proof.siblings.zipIdx.foldlM (stepUp key) leaf.node

def verify (proof : MssmtProof) (key : Bytes32) (leaf : MssmtLeaf) (root : MssmtNode) :
    Except MssmtError Bool := do
  pure ((← proof.rootFor key leaf) = root)

end MssmtProof

theorem keyBit_eq_false {key : Bytes32} {depth : ℕ} : keyBit key depth = false ↔ bitAt key depth = 0 := by
  simp [keyBit]

/-- The verifier's step from a stored node and its stored sibling reaches the node above. -/
theorem stepUp_stored {tree : MssmtTree} (h : Rebuilt tree) (key : Bytes32) {index depth : ℕ}
    (hdepth : depth + (index + 1) = maxTreeLevels) :
    MssmtProof.stepUp key (nodeAt (depth + 1) (tree.levels.getD (depth + 1) ∅) key)
      (siblingAt tree key depth, index) = .ok (nodeAt depth (tree.levels.getD depth ∅) key) := by
  have hlt : depth < maxTreeLevels := by omega
  have hparent := h.parent hlt key
  have hown := childKey_own key hlt
  have hother := childKey_other key hlt
  have hsibling (side : Bool) (hside : childKey key depth side = siblingPrefix key depth) :
      nodeAt (depth + 1) (tree.levels.getD (depth + 1) ∅) (childKey key depth side) =
        siblingAt tree key depth := by
    rw [nodeAt_childKey hlt, hside, siblingAt]
  have hself (side : Bool) (hside : childKey key depth side = prefixKey key (depth + 1)) :
      nodeAt (depth + 1) (tree.levels.getD (depth + 1) ∅) (childKey key depth side) =
        nodeAt (depth + 1) (tree.levels.getD (depth + 1) ∅) key := by
    rw [hside, nodeAt, nodeAt, prefixKey_idem]
  simp only [MssmtProof.stepUp]
  rw [show maxTreeLevels - 1 - index = depth by omega]
  rw [parentOf] at hparent
  cases hbit : keyBit key depth with
  | false =>
    rw [hbit] at hown hother
    rw [if_pos (keyBit_eq_false.mp hbit), ← hself false hown, ← hsibling true hother, hparent]
  | true =>
    rw [hbit] at hown hother
    have hne : bitAt key depth ≠ 0 := fun hzero => by
      rw [keyBit_eq_false.mpr hzero] at hbit
      cases hbit
    rw [if_neg hne, ← hself true hown, ← hsibling false hother, hparent]

theorem proof_length (tree : MssmtTree) (key : Bytes32) :
    (proof tree key).siblings.length = maxTreeLevels := by
  simp [proof]

theorem proof_getElem (tree : MssmtTree) (key : Bytes32) {index : ℕ}
    (h : index < (proof tree key).siblings.length) :
    (proof tree key).siblings[index] = siblingAt tree key (maxTreeLevels - 1 - index) := by
  simp [proof]

/-- The entry of an indexed list that follows a part of it. -/
theorem zipIdx_split {α : Type} {list : List α} {done rest : List (α × ℕ)} {entry : α × ℕ}
    (h : list.zipIdx = done ++ entry :: rest) :
    entry.2 = done.length ∧ ∃ hlt : done.length < list.length, list[done.length] = entry.1 := by
  have hlen := congrArg List.length h
  simp only [List.length_zipIdx, List.length_append, List.length_cons] at hlen
  have hlt : done.length < list.length := by omega
  have hlt' : done.length < list.zipIdx.length := by rwa [List.length_zipIdx]
  have hget : list.zipIdx[done.length] = entry := by
    simp [h]
  rw [List.getElem_zipIdx] at hget
  subst hget
  exact ⟨by simp, hlt, rfl⟩

/-- The leaf that a tree has at a key: the empty leaf where it stores none. -/
def leafAt (tree : MssmtTree) (key : Bytes32) : MssmtLeaf := (tree.get key).getD .empty

theorem nodeAt_bottom {tree : MssmtTree} (h : Rebuilt tree) (key : Bytes32) :
    nodeAt maxTreeLevels (tree.levels.getD maxTreeLevels ∅) key = (leafAt tree key).node := by
  have hlevel := (h.levels maxTreeLevels le_rfl).nodes key
  rw [Nat.sub_self, ← (bottom_represents tree.leaves).nodes] at hlevel
  have hempty : emptyTree maxTreeLevels = MssmtLeaf.empty.node := by
    simp [emptyTree, emptySubtree]
  rw [exact_injective hlevel, nodeAt, prefixKey_full, leafAt, MssmtTree.get, hempty]
  cases hleaf : tree.leaves[key]? with
  | none => simp [hleaf]
  | some leaf => simp [hleaf]

/-- The fold of the verifier over a tree's own proof climbs the tree. -/
theorem rootFor_proof {tree : MssmtTree} (h : Rebuilt tree) (key : Bytes32) :
    (proof tree key).rootFor key (leafAt tree key) = .ok tree.root := by
  have hfold := foldlM_cases (MssmtProof.stepUp key) (proof tree key).siblings.zipIdx
    (leafAt tree key).node
    (fun done current => ∀ depth, depth + done.length = maxTreeLevels →
      current = nodeAt depth (tree.levels.getD depth ∅) key) (fun _ => False)
    (fun depth hdepth => by
      obtain rfl : depth = maxTreeLevels := hdepth
      exact (nodeAt_bottom h key).symm)
    (fun done entry rest current hsplit hcurrent => by
      obtain ⟨hindex, hlt, hentry⟩ := zipIdx_split hsplit
      rw [proof_getElem] at hentry
      rw [proof_length] at hlt
      obtain ⟨depth, hdepth⟩ : ∃ depth, depth + (done.length + 1) = maxTreeLevels :=
        ⟨maxTreeLevels - (done.length + 1), by omega⟩
      rw [show maxTreeLevels - 1 - done.length = depth by omega] at hentry
      have hstep := stepUp_stored h key hdepth
      rw [← hcurrent (depth + 1) (by omega), hentry, ← hindex] at hstep
      refine .inl ⟨_, hstep, fun depth' hdepth' => ?_⟩
      rw [List.length_append, List.length_singleton] at hdepth'
      rw [show depth' = depth by omega])
  rcases hfold with ⟨root, hok, hroot⟩ | ⟨_, _, hfalse⟩
  · have htop := hroot 0 (by rw [List.length_zipIdx, proof_length, Nat.zero_add])
    rw [MssmtProof.rootFor, rejectIf_false (by simp [proof_length]), ok_bind, hok, htop, h.root]
    rw [nodeAt, nodeAt, prefixKey_zero, prefixKey_zero]
  · exact hfalse.elim

/-- The proof that a tree gives for a key, present or absent, recomputes its root. -/
theorem proof_complete {tree : MssmtTree} (h : Built tree) (key : Bytes32) :
    (proof tree key).rootFor key ((tree.get key).getD .empty) = .ok tree.root :=
  rootFor_proof (built_spec h).1 key

/-- A tree with one leaf, at the zero key. -/
def oneLeaf : MssmtTree := (TreeOp.insert Bytes32.ZERO ⟨[1], 5⟩).after .new

theorem oneLeaf_built : Built oneLeaf := .perform _ .new

theorem oneLeaf_get : oneLeaf.get Bytes32.ZERO = some ⟨[1], 5⟩ := by
  have hwrite : (TreeOp.insert Bytes32.ZERO ⟨[1], 5⟩).write MssmtTree.new.leaves =
      (∅ : BTreeMap Bytes32 MssmtLeaf).insert Bytes32.ZERO ⟨[1], 5⟩ := by
    simp [TreeOp.write, MssmtLeaf.isEmpty, MssmtTree.new]
  have htotal : leafTotal ((TreeOp.insert Bytes32.ZERO ⟨[1], 5⟩).write MssmtTree.new.leaves) = 5 := by
    rw [hwrite, leafTotal, total_insert (by simp), total_empty]
    rfl
  have hleaves := after_leaves (lt_of_eq_of_lt htotal (by decide))
  rw [oneLeaf, MssmtTree.get, hleaves, hwrite, get_insert_self]

theorem proof_complete_oneLeaf :
    (proof oneLeaf Bytes32.ZERO).rootFor Bytes32.ZERO ⟨[1], 5⟩ = .ok oneLeaf.root := by
  have hcomplete := proof_complete oneLeaf_built Bytes32.ZERO
  rw [oneLeaf_get, Option.getD_some] at hcomplete
  exact hcomplete

end TapLdk.MssmtProofs
