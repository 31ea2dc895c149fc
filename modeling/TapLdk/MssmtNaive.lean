import Mathlib
import TapLdk.MssmtLevels

/-! The naive Merkle-sum tree over a map of leaves, with exact sums, and the rebuilt levels
that hold its nodes: rebuilding succeeds when the sum of the leaves fits in 64 bits. -/
namespace TapLdk.MssmtNaive
open TapLdk.LibraryExcept TapLdk.LibraryMaps TapLdk.LibraryBytes TapLdk.LibrarySha256
open TapLdk.LibrarySparseTree TapLdk.Mssmt TapLdk.MssmtLevels

/-- A node with a sum of any size. -/
@[ext] structure SumNode where
  hash : Bytes32
  sum : ℕ
deriving DecidableEq

def exact (node : MssmtNode) : SumNode := ⟨node.hash, node.sum.toNat⟩

/-- The naive tree: the two halves of the keys on either side, and their sums added. -/
def sumTree : Scheme Bytes32 SumNode where
  bit := keyBit
  branch l r := ⟨branchHash l.hash r.hash (UInt64.ofNat (l.sum + r.sum)), l.sum + r.sum⟩
  emptyLeaf := exact MssmtLeaf.empty.node

/-- The leaves of a map, as the naive tree takes them. -/
def entriesOf (leaves : BTreeMap Bytes32 MssmtLeaf) : List (Bytes32 × SumNode) :=
  leaves.toList.map fun e => (e.1, exact e.2.node)

/-- The root of the naive tree of 256 levels. -/
def naiveRoot (leaves : BTreeMap Bytes32 MssmtLeaf) : SumNode :=
  sumTree.node maxTreeLevels 0 (entriesOf leaves)

/-- The sum of the leaves. -/
def leafTotal (leaves : BTreeMap Bytes32 MssmtLeaf) : ℕ :=
  total (fun _ leaf => leaf.sum.toNat) leaves

theorem exact_injective {a b : MssmtNode} (h : exact a = exact b) : a = b := by
  cases a
  cases b
  simp only [exact, SumNode.mk.injEq, UInt64.toNat_inj] at h
  rw [h.1, h.2]

theorem branchNode_eq_ok {l r node : MssmtNode} :
    branchNode l r = .ok node ↔ exact node = sumTree.branch (exact l) (exact r) := by
  simp only [branchNode, bind_eq_ok, okOr_eq_ok, checkedAdd_eq_some, pure_eq_ok, Except.ok.injEq]
  constructor
  · rintro ⟨sum, hsum, rfl⟩
    have hbranch : sumTree.branch (exact l) (exact r) = ⟨branchHash l.hash r.hash
        (UInt64.ofNat (l.sum.toNat + r.sum.toNat)), l.sum.toNat + r.sum.toNat⟩ := rfl
    rw [hbranch, ← hsum, UInt64.ofNat_toNat]
    rfl
  · intro h
    have hsum : node.sum.toNat = l.sum.toNat + r.sum.toNat := congrArg SumNode.sum h
    have hhash := congrArg SumNode.hash h
    simp only [exact, sumTree, ← hsum, UInt64.ofNat_toNat] at hhash
    exact ⟨node.sum, hsum, by rw [← hhash]⟩

theorem branchNode_eq_error {l r : MssmtNode} {e : MssmtError} (h : branchNode l r = .error e) :
    e = .amountOverflow ∧ 2 ^ 64 ≤ l.sum.toNat + r.sum.toNat := by
  have hadd : checkedAdd l.sum r.sum = none := by
    cases hc : checkedAdd l.sum r.sum with
    | none => rfl
    | some sum => simp [branchNode, hc, okOr] at h
  constructor
  · simp only [branchNode, hadd, okOr, error_bind, Except.error.injEq] at h
    exact h.symm
  · by_contra! hlt
    have hsome := checkedAdd_eq_some.mpr (UInt64.toNat_ofNat_of_lt' hlt)
    rw [hadd] at hsome
    cases hsome

theorem exact_emptySubtree (height : ℕ) :
    exact (emptySubtree height) = sumTree.emptyNode height := by
  induction height with
  | zero => rfl
  | succ height ih =>
    rw [Scheme.emptyNode, ← ih]
    simp [exact, sumTree, emptySubtree]

/-- No two entries have one key. -/
def Separate (entries : List (Bytes32 × SumNode)) : Prop :=
  entries.Pairwise fun e e' => ¬ sumTree.Agree maxTreeLevels e.1 e'.1

def sumOf (entries : List (Bytes32 × SumNode)) : ℕ := (entries.map fun e => e.2.sum).sum

theorem agree_iff {key key' : Bytes32} : sumTree.Agree maxTreeLevels key key' ↔ key = key' :=
  ⟨key_ext, fun h _ _ => h ▸ rfl⟩

theorem separate_entriesOf (leaves : BTreeMap Bytes32 MssmtLeaf) : Separate (entriesOf leaves) := by
  have hnodup := List.nodup_iff_pairwise_ne.mp (keys_nodup leaves)
  rw [List.pairwise_map] at hnodup
  apply List.pairwise_map.mpr
  apply hnodup.imp
  intro e e' hne hagree
  exact hne (agree_iff.mp hagree)

theorem sumOf_entriesOf (leaves : BTreeMap Bytes32 MssmtLeaf) :
    sumOf (entriesOf leaves) = leafTotal leaves := by
  simp [sumOf, entriesOf, leafTotal, total, exact, MssmtLeaf.node, Function.comp_def]

/-- The node above the entries under a prefix has their exact sum. -/
theorem node_under_sum {height depth : ℕ} (h : depth + height = maxTreeLevels)
    {entries : List (Bytes32 × SumNode)} (hsep : Separate entries) (key : Bytes32) :
    (sumTree.node height depth (sumTree.under depth key entries)).sum =
      sumOf (sumTree.under depth key entries) := by
  apply Scheme.sum_node (fun _ _ => rfl) rfl
  · intro e he e' he'
    simp only [Scheme.under, List.mem_filter, decide_eq_true_eq] at he he'
    exact sumTree.agree_trans he.2 he'.2
  · rw [h]
    exact hsep.filter _

theorem sumOf_under_le (depth : ℕ) (key : Bytes32) (entries : List (Bytes32 × SumNode)) :
    sumOf (sumTree.under depth key entries) ≤ sumOf entries :=
  Scheme.sum_filter_le _ entries

theorem under_childKey {depth : ℕ} (h : depth < maxTreeLevels) (key : Bytes32) (side : Bool)
    (entries : List (Bytes32 × SumNode)) :
    sumTree.under (depth + 1) (childKey key depth side) entries =
      (sumTree.under depth key entries).filter fun e => keyBit e.1 depth == side := by
  simp only [Scheme.under, List.filter_filter]
  apply List.filter_congr
  intro e _
  have hagree : sumTree.Agree depth (childKey key depth side) e.1 ↔
      sumTree.Agree depth key e.1 := by
    apply forall₂_congr
    intro i hi
    change keyBit _ i = keyBit _ i ↔ keyBit _ i = keyBit _ i
    rw [keyBit_childKey key h (hi.trans h), if_neg (by omega), decide_eq_true hi, Bool.true_and]
  rw [Bool.eq_iff_iff]
  simp only [decide_eq_true_eq, Scheme.agree_succ, hagree, Bool.and_eq_true, beq_iff_eq]
  rw [and_comm, show sumTree.bit (childKey key depth side) depth = side from childKey_side h side]
  rfl

/-- A level's map holds the nodes of the naive tree at its depth. -/
structure Represents (height depth : ℕ) (level : NodeMap) (entries : List (Bytes32 × SumNode)) :
    Prop where
  canonical : Canonical depth level
  nodes : ∀ key, exact (nodeAt depth level key) =
    sumTree.node height depth (sumTree.under depth key entries)

theorem Represents.children {height depth : ℕ} {level : NodeMap}
    {entries : List (Bytes32 × SumNode)} (hrep : Represents height (depth + 1) level entries)
    (h : depth < maxTreeLevels) (key : Bytes32) :
    sumTree.node (height + 1) depth (sumTree.under depth key entries) =
      sumTree.branch (exact (nodeAt (depth + 1) level (childKey key depth false)))
        (exact (nodeAt (depth + 1) level (childKey key depth true))) := by
  rw [hrep.nodes, hrep.nodes, under_childKey h, under_childKey h, Scheme.node_succ]
  simp only [beq_false, beq_true]
  rfl

/-- One level up, the parents are the naive tree's, or the sum of all leaves does not fit. -/
theorem parentLevel_represents {height depth : ℕ} (h : depth + 1 + height = maxTreeLevels)
    {current : NodeMap} {entries : List (Bytes32 × SumNode)} (hsep : Separate entries)
    (hrep : Represents height (depth + 1) current entries) :
    (∃ parents, parentLevel depth current = .ok parents ∧
      Represents (height + 1) depth parents entries) ∨
    parentLevel depth current = .error .amountOverflow ∧ 2 ^ 64 ≤ sumOf entries := by
  have hlt : depth < maxTreeLevels := by omega
  rcases parentLevel_cases hlt hrep.canonical with ⟨parents, hok, hc, hnodes⟩ | ⟨e, herror, key, he⟩
  · refine .inl ⟨parents, hok, hc, fun key => ?_⟩
    rw [hrep.children hlt key]
    exact branchNode_eq_ok.mp (hnodes key)
  · obtain ⟨rfl, hover⟩ := branchNode_eq_error he
    refine .inr ⟨herror, hover.trans ?_⟩
    have hsum := node_under_sum (show depth + (height + 1) = maxTreeLevels by omega) hsep key
    rw [hrep.children hlt key] at hsum
    exact hsum.le.trans (sumOf_under_le depth key entries)

/-- The leaves of the map are the bottom level. -/
theorem bottom_represents (leaves : BTreeMap Bytes32 MssmtLeaf) :
    Represents 0 maxTreeLevels (leaves.map fun _ leaf => leaf.node) (entriesOf leaves) := by
  constructor
  · intro key node _
    exact prefixKey_full key
  · intro key
    have hmem (e : Bytes32 × SumNode) :
        e ∈ sumTree.under maxTreeLevels key (entriesOf leaves) ↔
          ∃ leaf, leaves[key]? = some leaf ∧ (key, exact leaf.node) = e := by
      simp only [Scheme.under, List.mem_filter, decide_eq_true_eq, agree_iff, entriesOf,
        List.mem_map, Prod.exists, mem_toList_iff]
      constructor
      · rintro ⟨⟨k, leaf, hget, rfl⟩, rfl⟩
        exact ⟨leaf, hget, rfl⟩
      · rintro ⟨leaf, hget, rfl⟩
        exact ⟨⟨key, leaf, hget, rfl⟩, rfl⟩
    rw [nodeAt, prefixKey_full, Scheme.node]
    cases hunder : sumTree.under maxTreeLevels key (entriesOf leaves) with
    | nil =>
      rw [hunder] at hmem
      have hnone : leaves[key]? = none := by
        by_contra hsome
        obtain ⟨leaf, hleaf⟩ := Option.ne_none_iff_exists'.mp hsome
        exact absurd ((hmem _).mpr ⟨leaf, hleaf, rfl⟩) (List.not_mem_nil)
      have hempty : emptyTree maxTreeLevels = MssmtLeaf.empty.node := by
        simp [emptyTree, emptySubtree]
      simp [hnone, hempty, sumTree]
    | cons e rest =>
      rw [hunder] at hmem
      obtain ⟨leaf, hleaf, rfl⟩ := (hmem e).mp (List.mem_cons_self ..)
      simp [hleaf]

/-- The levels above a level represent the naive tree too. -/
theorem buildLevels_represents {height depth : ℕ} (h : depth + height = maxTreeLevels)
    {current : NodeMap} {entries : List (Bytes32 × SumNode)} (hsep : Separate entries)
    (hrep : Represents height depth current entries) :
    (∃ levels, buildLevels depth current = .ok levels ∧ levels.length = depth + 1 ∧
      levels.getD depth ∅ = current ∧
      ∀ d ≤ depth, Represents (maxTreeLevels - d) d (levels.getD d ∅) entries) ∨
    buildLevels depth current = .error .amountOverflow ∧ 2 ^ 64 ≤ sumOf entries := by
  induction depth generalizing height current with
  | zero =>
    refine .inl ⟨[current], rfl, rfl, rfl, fun d hd => ?_⟩
    obtain rfl : d = 0 := by omega
    rw [show maxTreeLevels - 0 = height by omega]
    exact hrep
  | succ depth ih =>
    rw [buildLevels]
    rcases parentLevel_represents h hsep hrep with ⟨parents, hparents, hup⟩ | ⟨herror, hover⟩
    · rw [hparents, ok_bind]
      rcases ih (by omega) hup with ⟨above, habove, hlength, -, hall⟩ | ⟨herror, hover⟩
      · rw [habove, ok_bind]
        have hlast : (above ++ [current]).getD (depth + 1) ∅ = current := by
          simp [← hlength]
        refine .inl ⟨above ++ [current], rfl, by simp [hlength], hlast, fun d hd => ?_⟩
        rcases Nat.le_succ_iff.mp hd with hd | rfl
        · rw [List.getD_append _ _ _ _ (by omega)]
          exact hall d hd
        · rw [hlast, show maxTreeLevels - (depth + 1) = height by omega]
          exact hrep
      · rw [herror, error_bind]
        exact .inr ⟨rfl, hover⟩
    · rw [herror, error_bind]
      exact .inr ⟨rfl, hover⟩

/-- What a rebuilt tree is: its levels hold the nodes of the naive tree over its leaves. -/
structure Rebuilt (tree : MssmtTree) : Prop where
  length : tree.levels.length = maxTreeLevels + 1
  levels : ∀ d ≤ maxTreeLevels,
    Represents (maxTreeLevels - d) d (tree.levels.getD d ∅) (entriesOf tree.leaves)
  root : tree.root = nodeAt 0 (tree.levels.getD 0 ∅) Bytes32.ZERO

/-- A tree is rebuilt from leaves whose sum fits, and from no others. -/
theorem rebuild_cases (leaves : BTreeMap Bytes32 MssmtLeaf) :
    (∃ tree, MssmtTree.rebuild leaves = .ok tree ∧ tree.leaves = leaves ∧ Rebuilt tree) ∨
    MssmtTree.rebuild leaves = .error .amountOverflow ∧ 2 ^ 64 ≤ leafTotal leaves := by
  rw [← sumOf_entriesOf]
  rcases buildLevels_represents (Nat.add_zero _) (separate_entriesOf leaves)
    (bottom_represents leaves) with ⟨levels, hlevels, hlength, -, hall⟩ | ⟨herror, hover⟩
  · refine .inl ⟨⟨leaves, levels, nodeAt 0 (levels.getD 0 ∅) Bytes32.ZERO⟩, ?_, rfl, hlength, hall,
      rfl⟩
    rw [MssmtTree.rebuild, hlevels, ok_bind, nodeAt, prefixKey_zero]
    cases levels <;> rfl
  · refine .inr ⟨?_, hover⟩
    rw [MssmtTree.rebuild, herror, error_bind]

/-- The root of a rebuilt tree is the naive root. -/
theorem Rebuilt.naive {tree : MssmtTree} (h : Rebuilt tree) :
    exact tree.root = naiveRoot tree.leaves := by
  rw [h.root, (h.levels 0 (Nat.zero_le _)).nodes, Scheme.under_zero, naiveRoot, Nat.sub_zero]

theorem naiveRoot_sum (leaves : BTreeMap Bytes32 MssmtLeaf) :
    (naiveRoot leaves).sum = leafTotal leaves := by
  have hsum := node_under_sum (Nat.zero_add maxTreeLevels) (separate_entriesOf leaves) Bytes32.ZERO
  rwa [Scheme.under_zero, sumOf_entriesOf] at hsum

theorem Rebuilt.sum {tree : MssmtTree} (h : Rebuilt tree) :
    tree.root.sum.toNat = leafTotal tree.leaves := by
  rw [← naiveRoot_sum, ← h.naive]
  rfl

theorem Rebuilt.total_lt {tree : MssmtTree} (h : Rebuilt tree) : leafTotal tree.leaves < 2 ^ 64 :=
  h.sum ▸ tree.root.sum.toNat_lt

/-- Trees with the same leaves have the same root. -/
theorem Rebuilt.root_eq {tree tree' : MssmtTree} (h : Rebuilt tree) (h' : Rebuilt tree')
    (heq : tree.leaves = tree'.leaves) : tree.root = tree'.root := by
  apply exact_injective
  rw [h.naive, h'.naive, heq]

/-- The parent of two sibling nodes of a rebuilt tree is the node above them. -/
theorem Rebuilt.parent {tree : MssmtTree} (h : Rebuilt tree) {depth : ℕ}
    (hdepth : depth < maxTreeLevels) (key : Bytes32) :
    parentOf depth (tree.levels.getD (depth + 1) ∅) key =
      .ok (nodeAt depth (tree.levels.getD depth ∅) key) := by
  have hbelow := h.levels (depth + 1) hdepth
  rw [parentOf, branchNode_eq_ok, (h.levels depth (by omega)).nodes, ← hbelow.children hdepth,
    show maxTreeLevels - depth = maxTreeLevels - (depth + 1) + 1 by omega]

end TapLdk.MssmtNaive
