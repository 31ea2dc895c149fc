import Mathlib
import TapLdk.LibraryExcept
import TapLdk.LibraryMaps
import TapLdk.LibrarySha256

/-! The Merkle-sum sparse Merkle tree: 256 levels of nodes keyed by the low bits of a
32-byte key, rebuilt from the leaf map, and the root of a tree with one leaf. -/
namespace TapLdk.Mssmt
open TapLdk.LibraryExcept TapLdk.LibraryMaps TapLdk.LibraryBytes TapLdk.LibrarySha256

abbrev Bytes32 := FixedBytes 32

instance : Std.TransOrd Bytes32 := inferInstance

def Bytes32.ZERO : Bytes32 := FixedBytes.zero 32

def maxTreeLevels : ℕ := 256

structure MssmtNode where
  hash : Bytes32
  sum : UInt64
deriving DecidableEq

structure MssmtLeaf where
  value : Bytes
  sum : UInt64
deriving DecidableEq

inductive MssmtError where
  | amountOverflow
  | duplicateKey (key : Bytes32)
  | emptyLeafInsertion (key : Bytes32)
  | invalidProofLength (expected actual : ℕ)
  | invalidCompressedProofLength (expected actual : ℕ)
  | truncatedProof
  | tooManyNodes
  | compressedProofNodeCount (expected actual : ℕ)
deriving DecidableEq

namespace MssmtLeaf

def empty : MssmtLeaf := ⟨[], 0⟩

def isEmpty (leaf : MssmtLeaf) : Bool := leaf.value.isEmpty && leaf.sum == 0

def node (leaf : MssmtLeaf) : MssmtNode := ⟨sha256 (leaf.value ++ u64Bytes leaf.sum), leaf.sum⟩

end MssmtLeaf

/-- The hash of a branch over two child hashes. -/
def branchHash (left right : Bytes32) (sum : UInt64) : Bytes32 :=
  sha256 (left.bytes ++ right.bytes ++ u64Bytes sum)

def branchNode (left right : MssmtNode) : Except MssmtError MssmtNode := do
  let sum ← okOr (checkedAdd left.sum right.sum) .amountOverflow
  pure ⟨branchHash left.hash right.hash sum, sum⟩

/-- The root of an empty subtree of the given height. -/
def emptySubtree : ℕ → MssmtNode
  | 0 => MssmtLeaf.empty.node
  | height + 1 => ⟨branchHash (emptySubtree height).hash (emptySubtree height).hash 0, 0⟩

/-- The entry of the table of empty nodes at a depth. -/
def emptyTree (depth : ℕ) : MssmtNode := emptySubtree (maxTreeLevels - depth)

def bitAt (key : Bytes32) (depth : ℕ) : UInt8 :=
  (key.bytes.getD (depth / 8) 0 >>> UInt8.ofNat (depth % 8)) &&& 1

/-- What `prefix_key` leaves of the byte at an index. -/
def maskByte (prefixBits index : ℕ) (byte : UInt8) : UInt8 :=
  if index * 8 + 8 ≤ prefixBits then byte
  else if prefixBits ≤ index * 8 then 0
  else byte &&& UInt8.ofNat (2 ^ (prefixBits - index * 8) - 1)

def prefixKey (key : Bytes32) (prefixBits : ℕ) : Bytes32 :=
  ⟨key.bytes.mapIdx (maskByte prefixBits), by rw [List.length_mapIdx, key.length_eq]⟩

/-- The prefix of a key that turns the other way at a depth. -/
def siblingPrefix (key : Bytes32) (depth : ℕ) : Bytes32 :=
  ⟨(prefixKey key (depth + 1)).bytes.modify (depth / 8) (· ^^^ (1 <<< UInt8.ofNat (depth % 8))), by
    rw [List.length_modify, FixedBytes.length_eq]⟩

structure ChildPair where
  left : Option MssmtNode
  right : Option MssmtNode

abbrev NodeMap := BTreeMap Bytes32 MssmtNode

/-- File one node of a level under its parent. -/
def addChild (depth : ℕ) (grouped : BTreeMap Bytes32 ChildPair) (entry : Bytes32 × MssmtNode) :
    Except MssmtError (BTreeMap Bytes32 ChildPair) := do
  let parentKey := prefixKey entry.1 depth
  let children := (grouped[parentKey]?).getD ⟨none, none⟩
  if bitAt entry.1 depth = 0 then
    rejectIf children.left.isSome (.duplicateKey entry.1)
    pure (grouped.insert parentKey { children with left := some entry.2 })
  else
    rejectIf children.right.isSome (.duplicateKey entry.1)
    pure (grouped.insert parentKey { children with right := some entry.2 })

/-- A parent that is the empty node of its depth is not stored. -/
def addParent (depth : ℕ) (parents : NodeMap) (entry : Bytes32 × ChildPair) :
    Except MssmtError NodeMap := do
  let parent ← branchNode (entry.2.left.getD (emptyTree (depth + 1)))
    (entry.2.right.getD (emptyTree (depth + 1)))
  pure (if parent ≠ emptyTree depth then parents.insert entry.1 parent else parents)

/-- The nodes at `depth` from those at `depth + 1`. -/
def parentLevel (depth : ℕ) (current : NodeMap) : Except MssmtError NodeMap := do
  let grouped ← current.toList.foldlM (addChild depth) ∅
  grouped.toList.foldlM (addParent depth) ∅

/-- The levels at and above `depth`, the root's level first. -/
def buildLevels : ℕ → NodeMap → Except MssmtError (List NodeMap)
  | 0, current => pure [current]
  | depth + 1, current => do
    let above ← buildLevels depth (← parentLevel depth current)
    pure (above ++ [current])

structure MssmtTree where
  leaves : BTreeMap Bytes32 MssmtLeaf
  levels : List NodeMap
  root : MssmtNode

namespace MssmtTree

def new : MssmtTree := ⟨∅, List.replicate (maxTreeLevels + 1) ∅, emptyTree 0⟩

def get (tree : MssmtTree) (key : Bytes32) : Option MssmtLeaf := tree.leaves[key]?

def rebuild (leaves : BTreeMap Bytes32 MssmtLeaf) : Except MssmtError MssmtTree := do
  let bottom : NodeMap := leaves.map fun _ leaf => leaf.node
  let levels ← buildLevels maxTreeLevels bottom
  let top := levels.headD ∅
  pure ⟨leaves, levels, (top[Bytes32.ZERO]?).getD (emptyTree 0)⟩

/-- Add one leaf of the list that `from_leaves` is given. -/
def addLeaf (map : BTreeMap Bytes32 MssmtLeaf) (entry : Bytes32 × MssmtLeaf) :
    Except MssmtError (BTreeMap Bytes32 MssmtLeaf) := do
  rejectIf entry.2.isEmpty (.emptyLeafInsertion entry.1)
  rejectIf (map[entry.1]?).isSome (.duplicateKey entry.1)
  pure (map.insert entry.1 entry.2)

def fromLeaves (leaves : List (Bytes32 × MssmtLeaf)) : Except MssmtError MssmtTree := do
  rebuild (← leaves.foldlM addLeaf ∅)

/-- The nodes below the root. Only the first bit of a key tells them apart. -/
def rootChildren (tree : MssmtTree) : MssmtNode × MssmtNode :=
  let level := tree.levels.getD 1 ∅
  let rightKey : Bytes32 := ⟨1 :: List.replicate 31 0, rfl⟩
  ((level[Bytes32.ZERO]?).getD (emptyTree 1), (level[rightKey]?).getD (emptyTree 1))

def insert (tree : MssmtTree) (key : Bytes32) (leaf : MssmtLeaf) : Except MssmtError MssmtTree :=
  rebuild (if leaf.isEmpty then tree.leaves.erase key else tree.leaves.insert key leaf)

def delete (tree : MssmtTree) (key : Bytes32) : Except MssmtError MssmtTree :=
  tree.insert key MssmtLeaf.empty

end MssmtTree

theorem maskByte_maskByte (depth index : ℕ) (byte : UInt8) :
    maskByte depth index (maskByte (depth + 1) index byte) = maskByte depth index byte := by
  unfold maskByte
  by_cases h1 : index * 8 + 8 ≤ depth
  · rw [if_pos h1, if_pos h1, if_pos (by omega)]
  by_cases h2 : depth ≤ index * 8
  · rw [if_neg h1, if_pos h2, if_neg h1, if_pos h2]
  rw [if_neg h1, if_neg h2, if_neg h1, if_neg h2]
  by_cases h3 : index * 8 + 8 ≤ depth + 1
  · rw [if_pos h3]
  have hmask : ∀ k < 7, UInt8.ofNat (2 ^ (k + 1) - 1) &&& UInt8.ofNat (2 ^ k - 1) =
      UInt8.ofNat (2 ^ k - 1) := by decide
  rw [if_neg h3, if_neg (by omega), UInt8.and_assoc,
    show depth + 1 - index * 8 = depth - index * 8 + 1 by omega, hmask _ (by omega)]

@[simp] theorem prefixKey_prefixKey (key : Bytes32) (depth : ℕ) :
    prefixKey (prefixKey key (depth + 1)) depth = prefixKey key depth := by
  refine FixedBytes.ext ?_
  simp only [prefixKey, List.mapIdx_mapIdx]
  congr 1
  funext index byte
  exact maskByte_maskByte depth index byte

@[simp] theorem prefixKey_full (key : Bytes32) : prefixKey key maxTreeLevels = key := by
  refine FixedBytes.ext (List.ext_getElem (by simp [prefixKey]) fun i h1 h2 => ?_)
  have hi : i < 32 := key.length_eq ▸ h2
  simp only [prefixKey, List.getElem_mapIdx, maskByte, maxTreeLevels]
  rw [if_pos (by omega)]

@[simp] theorem prefixKey_zero (key : Bytes32) : prefixKey key 0 = Bytes32.ZERO := by
  refine FixedBytes.ext (List.eq_replicate_iff.mpr ⟨(prefixKey key 0).length_eq, fun b hb => ?_⟩)
  obtain ⟨i, hi, rfl⟩ := List.mem_iff_getElem.mp hb
  simp [prefixKey, maskByte]

/-- A prefix longer than the depth keeps the bit at the depth. -/
@[simp] theorem bitAt_prefixKey {key : Bytes32} {depth : ℕ} (h : depth < maxTreeLevels) :
    bitAt (prefixKey key (depth + 1)) depth = bitAt key depth := by
  have hbit : ∀ k < 7, UInt8.ofNat (2 ^ (k + 1) - 1) >>> UInt8.ofNat k &&& 1 = 1 := by decide
  have hlen : depth / 8 < key.bytes.length := by
    rw [key.length_eq]
    unfold maxTreeLevels at h
    omega
  simp only [bitAt, prefixKey]
  rw [List.getD_eq_getElem _ _ (by rwa [List.length_mapIdx]), List.getElem_mapIdx,
    List.getD_eq_getElem _ _ hlen, maskByte]
  by_cases h1 : depth / 8 * 8 + 8 ≤ depth + 1
  · rw [if_pos h1]
  rw [if_neg h1, if_neg (by omega), UInt8.shiftRight_and, UInt8.and_assoc,
    show depth + 1 - depth / 8 * 8 = depth % 8 + 1 by omega, hbit _ (by omega)]

/-- The parent at `depth` of the only stored node below it. -/
def climb (key : Bytes32) (depth : ℕ) (node empty : MssmtNode) : MssmtNode :=
  if bitAt key depth = 0 then ⟨branchHash node.hash empty.hash node.sum, node.sum⟩
  else ⟨branchHash empty.hash node.hash node.sum, node.sum⟩

/-- The root above the only stored node, at `depth`, beside empty siblings. -/
def pathRoot (key : Bytes32) : ℕ → MssmtNode → MssmtNode → MssmtNode
  | 0, node, _ => node
  | depth + 1, node, empty =>
    pathRoot key depth (climb key depth node empty) ⟨branchHash empty.hash empty.hash 0, 0⟩

@[simp] theorem emptySubtree_sum (height : ℕ) : (emptySubtree height).sum = 0 := by
  cases height <;> rfl

theorem emptyTree_branch {depth : ℕ} (h : depth < maxTreeLevels) :
    emptyTree depth =
      ⟨branchHash (emptyTree (depth + 1)).hash (emptyTree (depth + 1)).hash 0, 0⟩ := by
  rw [emptyTree, emptyTree,
    show maxTreeLevels - depth = maxTreeLevels - (depth + 1) + 1 by omega, emptySubtree]

@[simp] theorem climb_sum (key : Bytes32) (depth : ℕ) (node empty : MssmtNode) :
    (climb key depth node empty).sum = node.sum := by
  unfold climb
  split <;> rfl

@[simp] theorem pathRoot_sum (key : Bytes32) (depth : ℕ) (node empty : MssmtNode) :
    (pathRoot key depth node empty).sum = node.sum := by
  induction depth generalizing node empty with
  | zero => rfl
  | succ depth ih => rw [pathRoot, ih, climb_sum]

/-- The stored node and its empty sibling after `count` more levels, at `depth`. -/
def climbs (key : Bytes32) (depth : ℕ) : ℕ → MssmtNode × MssmtNode → MssmtNode × MssmtNode
  | 0, pair => pair
  | count + 1, (node, empty) =>
    climbs key depth count
      (climb key (depth + count) node empty, ⟨branchHash empty.hash empty.hash 0, 0⟩)

theorem pathRoot_climbs (key : Bytes32) (depth count : ℕ) (pair : MssmtNode × MssmtNode) :
    pathRoot key (depth + count) pair.1 pair.2 =
      pathRoot key depth (climbs key depth count pair).1 (climbs key depth count pair).2 := by
  induction count generalizing pair with
  | zero => rfl
  | succ count ih =>
    obtain ⟨node, empty⟩ := pair
    exact ih (climb key (depth + count) node empty, ⟨branchHash empty.hash empty.hash 0, 0⟩)

theorem pathRoot_of_climbs {key : Bytes32} {depth count top : ℕ}
    {node empty node' empty' : MssmtNode} (htop : depth + count = top)
    (h : climbs key depth count (node, empty) = (node', empty')) :
    pathRoot key top node empty = pathRoot key depth node' empty' := by
  have hpath := pathRoot_climbs key depth count (node, empty)
  rw [h, htop] at hpath
  exact hpath

/-- The value of the hash of a branch over children of two values. -/
def branchNumber (left right sum : ℕ) : ℕ :=
  sha256Number 72 (Nat.add (Nat.mul (Nat.add (Nat.mul (Nat.mod left (Nat.pow 256 32))
    (Nat.pow 256 32)) (Nat.mod right (Nat.pow 256 32))) (Nat.pow 256 8)) sum)

theorem branchHash_digestOf (left right : ℕ) (sum : UInt64) :
    branchHash (digestOf left) (digestOf right) sum =
      digestOf (branchNumber left right sum.toNat) := by
  have hlength : ((digestOf left).bytes ++ (digestOf right).bytes ++ u64Bytes sum).length = 72 := by
    simp [FixedBytes.length_eq, u64Bytes]
  have hvalue : beValue ((digestOf left).bytes ++ (digestOf right).bytes ++ u64Bytes sum) =
      (left % 256 ^ 32 * 256 ^ 32 + right % 256 ^ 32) * 256 ^ 8 + sum.toNat := by
    simp only [beValue_append, beValue_digestOf, FixedBytes.length_eq, u64Bytes, beBytes_length,
      beValue_beBytes]
    rw [Nat.mod_eq_of_lt (show sum.toNat < 256 ^ 8 from sum.toNat_lt)]
  rw [branchHash, sha256_eq, hlength, hvalue]
  rfl

/-- The climb of a node and its empty sibling of two values. -/
def climbsNumber (key : Bytes32) (sum depth : ℕ) : ℕ → ℕ → ℕ → ℕ × ℕ
  | 0, node, empty => (node, empty)
  | count + 1, node, empty =>
    force (if bitAt key (depth + count) = 0 then branchNumber node empty sum
      else branchNumber empty node sum) fun node' =>
      force (branchNumber empty empty 0) fun empty' =>
        climbsNumber key sum depth count node' empty'

theorem climbs_digestOf (key : Bytes32) (sum : UInt64) (depth count node empty : ℕ) :
    climbs key depth count (⟨digestOf node, sum⟩, ⟨digestOf empty, 0⟩) =
      (⟨digestOf (climbsNumber key sum.toNat depth count node empty).1, sum⟩,
        ⟨digestOf (climbsNumber key sum.toNat depth count node empty).2, 0⟩) := by
  induction count generalizing node empty with
  | zero => rfl
  | succ count ih =>
    rw [climbs, climb, climbsNumber, force_eq, force_eq, ← ih]
    split <;> simp [branchHash_digestOf]

/-- The value of the hash of a leaf. -/
def MssmtLeaf.number (leaf : MssmtLeaf) : ℕ :=
  sha256Number (leaf.value ++ u64Bytes leaf.sum).length (beValue (leaf.value ++ u64Bytes leaf.sum))

theorem MssmtLeaf.node_eq (leaf : MssmtLeaf) : leaf.node = ⟨digestOf leaf.number, leaf.sum⟩ := by
  rw [MssmtLeaf.node, sha256_eq, MssmtLeaf.number]

theorem climbs_of_number {key : Bytes32} {sum : UInt64} {depth count node empty node' empty' : ℕ}
    (h : climbsNumber key sum.toNat depth count node empty = (node', empty')) :
    climbs key depth count (⟨digestOf node, sum⟩, ⟨digestOf empty, 0⟩) =
      (⟨digestOf node', sum⟩, ⟨digestOf empty', 0⟩) := by
  rw [climbs_digestOf, h]

/-- A climb from a leaf starts at the numbers of its hash and of the empty one. -/
theorem climbs_of_leaf {key : Bytes32} {leaf : MssmtLeaf} {depth count node' empty' : ℕ}
    (h : climbsNumber key leaf.sum.toNat depth count leaf.number MssmtLeaf.empty.number =
      (node', empty')) :
    climbs key depth count (leaf.node, MssmtLeaf.empty.node) =
      (⟨digestOf node', leaf.sum⟩, ⟨digestOf empty', 0⟩) := by
  rw [leaf.node_eq, MssmtLeaf.empty.node_eq]
  exact climbs_of_number h

/-- A stored node has a positive sum, so its parent is not the empty node. -/
theorem parentLevel_single (key : Bytes32) {depth : ℕ} {node : MssmtNode} (hsum : node.sum ≠ 0)
    (h : depth < maxTreeLevels) :
    parentLevel depth ((∅ : NodeMap).insert (prefixKey key (depth + 1)) node) =
      .ok ((∅ : NodeMap).insert (prefixKey key depth)
        (climb key depth node (emptyTree (depth + 1)))) := by
  have hempty : (emptyTree (depth + 1)).sum = 0 := emptySubtree_sum _
  have hne : climb key depth node (emptyTree (depth + 1)) ≠ emptyTree depth := by
    intro heq
    have hs := congrArg MssmtNode.sum heq
    rw [climb_sum, emptyTree_branch h] at hs
    exact hsum hs
  unfold climb at hne ⊢
  by_cases hb : bitAt key depth = 0
  · rw [if_pos hb] at hne ⊢
    simp [parentLevel, addChild, addParent, branchNode, rejectIf, okOr, hb, h, hempty,
      checkedAdd_zero, hne]
  · rw [if_neg hb] at hne ⊢
    simp [parentLevel, addChild, addParent, branchNode, rejectIf, okOr, hb, h, hempty,
      zero_checkedAdd, hne]

theorem buildLevels_single (key : Bytes32) {depth : ℕ} {node : MssmtNode} (hsum : node.sum ≠ 0)
    (h : depth ≤ maxTreeLevels) :
    ∃ rest, buildLevels depth ((∅ : NodeMap).insert (prefixKey key depth) node) =
      .ok ((∅ : NodeMap).insert Bytes32.ZERO (pathRoot key depth node (emptyTree depth)) :: rest) := by
  induction depth generalizing node with
  | zero => exact ⟨[], by simp [buildLevels, pathRoot]⟩
  | succ depth ih =>
    have hlt : depth < maxTreeLevels := by omega
    have hparent := parentLevel_single key hsum hlt
    have hclimb : (climb key depth node (emptyTree (depth + 1))).sum ≠ 0 := by rwa [climb_sum]
    obtain ⟨rest, hrest⟩ := ih hclimb (by omega)
    refine ⟨rest ++ [(∅ : NodeMap).insert (prefixKey key (depth + 1)) node], ?_⟩
    rw [buildLevels, hparent, ok_bind, hrest, emptyTree_branch hlt]
    rfl

theorem climbs_add (key : Bytes32) (depth a b : ℕ) (pair : MssmtNode × MssmtNode) :
    climbs key depth (a + b) pair = climbs key depth a (climbs key (depth + a) b pair) := by
  induction b generalizing pair with
  | zero => rfl
  | succ b ih =>
    obtain ⟨node, empty⟩ := pair
    rw [← Nat.add_assoc, climbs, ih, climbs, Nat.add_assoc]

theorem climbs_empty (key : Bytes32) {depth count : ℕ} (node : MssmtNode)
    (h : depth + count ≤ maxTreeLevels) :
    (climbs key depth count (node, emptyTree (depth + count))).2 = emptyTree depth := by
  induction count generalizing node with
  | zero => rfl
  | succ count ih =>
    have hempty : (⟨branchHash (emptyTree (depth + (count + 1))).hash
        (emptyTree (depth + (count + 1))).hash 0, 0⟩ : MssmtNode) = emptyTree (depth + count) :=
      (emptyTree_branch (show depth + count < maxTreeLevels by omega)).symm
    rw [climbs, hempty]
    exact ih _ (by omega)

/-- The second level of the only stored node holds where its climb arrives. -/
theorem buildLevels_second (key : Bytes32) (count : ℕ) {node : MssmtNode} (hsum : node.sum ≠ 0)
    (h : 1 + count ≤ maxTreeLevels) :
    ∃ levels, buildLevels (1 + count) ((∅ : NodeMap).insert (prefixKey key (1 + count)) node) =
      .ok levels ∧ 2 ≤ levels.length ∧ levels.getD 1 ∅ = (∅ : NodeMap).insert (prefixKey key 1)
        (climbs key 1 count (node, emptyTree (1 + count))).1 := by
  induction count generalizing node with
  | zero =>
    have hparent := parentLevel_single key hsum (show 0 < maxTreeLevels by omega)
    refine ⟨_, by rw [buildLevels, hparent, ok_bind, buildLevels]; rfl, by simp, by simp [climbs]⟩
  | succ count ih =>
    have hlt : 1 + count < maxTreeLevels := by omega
    have hparent := parentLevel_single key hsum hlt
    have hclimb : (climb key (1 + count) node (emptyTree (1 + count + 1))).sum ≠ 0 := by
      rwa [climb_sum]
    obtain ⟨levels, hlevels, hlength, hsecond⟩ := ih hclimb (by omega)
    refine ⟨levels ++ [(∅ : NodeMap).insert (prefixKey key (1 + count + 1)) node], ?_, ?_, ?_⟩
    · rw [← Nat.add_assoc, buildLevels, hparent, ok_bind, hlevels]
      rfl
    · rw [List.length_append]
      omega
    · rw [List.getD_append _ _ _ _ (by omega), hsecond, climbs, emptyTree_branch hlt]
      rfl

/-- The levels of the tree of one leaf with a positive sum. -/
theorem fromLeaves_single_levels (key : Bytes32) {leaf : MssmtLeaf} (hsum : leaf.sum ≠ 0) :
    MssmtTree.fromLeaves [(key, leaf)] =
      (buildLevels maxTreeLevels ((∅ : NodeMap).insert (prefixKey key maxTreeLevels) leaf.node) >>=
        fun levels => .ok ⟨(∅ : BTreeMap _ _).insert key leaf, levels,
          ((levels.headD ∅)[Bytes32.ZERO]?).getD (emptyTree 0)⟩) := by
  have hadd : MssmtTree.addLeaf ∅ (key, leaf) = .ok ((∅ : BTreeMap _ _).insert key leaf) := by
    simp [MssmtTree.addLeaf, MssmtLeaf.isEmpty, hsum, rejectIf]
  have hmap : ((∅ : BTreeMap Bytes32 MssmtLeaf).insert key leaf).map (fun _ l => l.node) =
      (∅ : NodeMap).insert (prefixKey key maxTreeLevels) leaf.node := by
    rw [prefixKey_full]
    refine Std.ExtTreeMap.ext_getElem? fun j => ?_
    by_cases hj : j = key
    · subst hj
      simp
    · simp [get_insert_ne hj]
  have hfrom : MssmtTree.fromLeaves [(key, leaf)] =
      MssmtTree.rebuild ((∅ : BTreeMap _ _).insert key leaf) := by
    simp [MssmtTree.fromLeaves, hadd]
  rw [hfrom, MssmtTree.rebuild, hmap]
  rfl

/-- The tree of one leaf with a positive sum exists, and its root is the path from the leaf. -/
theorem fromLeaves_single (key : Bytes32) {leaf : MssmtLeaf} (hsum : leaf.sum ≠ 0) :
    ∃ tree, MssmtTree.fromLeaves [(key, leaf)] = .ok tree ∧
      tree.root = pathRoot key maxTreeLevels leaf.node MssmtLeaf.empty.node := by
  have hnode : leaf.node.sum ≠ 0 := hsum
  obtain ⟨rest, hrest⟩ := buildLevels_single key hnode le_rfl
  rw [fromLeaves_single_levels key hsum, hrest]
  exact ⟨_, rfl, by simp [emptyTree, emptySubtree]⟩

/-- Where the only leaf of a tree is on the right of the root, the left child is empty. -/
theorem rootChildren_single (key : Bytes32) {leaf : MssmtLeaf} {tree : MssmtTree}
    (hsum : leaf.sum ≠ 0) (htree : MssmtTree.fromLeaves [(key, leaf)] = .ok tree)
    (hright : prefixKey key 1 = ⟨1 :: List.replicate 31 0, rfl⟩) :
    tree.rootChildren = ((climbs key 1 255 (leaf.node, MssmtLeaf.empty.node)).2,
      (climbs key 1 255 (leaf.node, MssmtLeaf.empty.node)).1) := by
  have hnode : leaf.node.sum ≠ 0 := hsum
  have hempty : emptyTree (1 + 255) = MssmtLeaf.empty.node := rfl
  have hchild := climbs_empty key leaf.node (show 1 + 255 ≤ maxTreeLevels by decide)
  obtain ⟨levels, hlevels, -, hsecond⟩ := buildLevels_second key 255 hnode (by decide)
  rw [fromLeaves_single_levels key hsum, show maxTreeLevels = 1 + 255 from rfl, hlevels] at htree
  obtain rfl := Except.ok.inj htree
  rw [hright] at hsecond
  rw [hempty] at hsecond hchild
  have hne : Bytes32.ZERO ≠ (⟨1 :: List.replicate 31 0, rfl⟩ : Bytes32) := by decide
  simp only [MssmtTree.rootChildren, hsecond, get_insert_self, get_insert_ne hne, hchild]
  simp

end TapLdk.Mssmt
