import Mathlib
import TapLdk.Mssmt
import TapLdk.LibrarySparseTree

/-! The level maps of the Merkle-sum sparse Merkle tree hold the nodes of the naive full tree:
the bits of prefixed keys, one level from the level below it, and all levels from the leaves. -/
namespace TapLdk.MssmtLevels
open TapLdk.LibraryExcept TapLdk.LibraryMaps TapLdk.LibraryBytes TapLdk.LibrarySha256
open TapLdk.LibrarySparseTree TapLdk.Mssmt

/-- The side that a key takes below a depth. -/
def keyBit (key : Bytes32) (depth : ℕ) : Bool := bitAt key depth != 0

theorem keyBit_testBit (key : Bytes32) (depth : ℕ) :
    keyBit key depth = (key.bytes.getD (depth / 8) 0).toNat.testBit (depth % 8) := by
  have hmod : depth % 8 < 8 := Nat.mod_lt _ (by omega)
  have hbit : (key.bytes.getD (depth / 8) 0 >>> UInt8.ofNat (depth % 8) &&& 1).toNat =
      (key.bytes.getD (depth / 8) 0).toNat >>> (depth % 8) &&& 1 := by
    simp [UInt8.toNat_and, UInt8.toNat_shiftRight, Nat.mod_eq_of_lt hmod]
  rw [keyBit, bitAt, Nat.testBit, Nat.and_comm 1, ← hbit, Bool.eq_iff_iff]
  simp [← UInt8.toNat_inj]

theorem byte_ext {a b : UInt8} (h : ∀ i < 8, a.toNat.testBit i = b.toNat.testBit i) : a = b := by
  apply UInt8.toNat_inj.mp
  apply Nat.eq_of_testBit_eq
  intro i
  by_cases hi : i < 8
  · exact h i hi
  · have hpow : 2 ^ 8 ≤ 2 ^ i := Nat.pow_le_pow_right (by omega) (by omega)
    rw [Nat.testBit_eq_false_of_lt (lt_of_lt_of_le a.toNat_lt hpow),
      Nat.testBit_eq_false_of_lt (lt_of_lt_of_le b.toNat_lt hpow)]

/-- A key is its 256 bits. -/
theorem key_ext {key key' : Bytes32} (h : ∀ i < maxTreeLevels, keyBit key i = keyBit key' i) :
    key = key' := by
  apply FixedBytes.ext
  apply List.ext_getElem (by rw [key.length_eq, key'.length_eq])
  intro j hj hj'
  have hj32 : j < 32 := key.length_eq ▸ hj
  apply byte_ext
  intro i hi
  have hbit := h (j * 8 + i) (by unfold maxTreeLevels; omega)
  rw [keyBit_testBit, keyBit_testBit, show (j * 8 + i) / 8 = j by omega,
    show (j * 8 + i) % 8 = i by omega, List.getD_eq_getElem _ _ hj,
    List.getD_eq_getElem _ _ hj'] at hbit
  exact hbit

theorem maskByte_testBit (bits index : ℕ) (byte : UInt8) {i : ℕ} (hi : i < 8) :
    (maskByte bits index byte).toNat.testBit i =
      (decide (index * 8 + i < bits) && byte.toNat.testBit i) := by
  unfold maskByte
  by_cases h1 : index * 8 + 8 ≤ bits
  · rw [if_pos h1, decide_eq_true (by omega), Bool.true_and]
  rw [if_neg h1]
  by_cases h2 : bits ≤ index * 8
  · rw [if_pos h2, decide_eq_false (by omega)]
    simp
  have hpow : 2 ^ (bits - index * 8) ≤ 2 ^ 7 := Nat.pow_le_pow_right (by omega) (by omega)
  have hmask : (UInt8.ofNat (2 ^ (bits - index * 8) - 1)).toNat = 2 ^ (bits - index * 8) - 1 :=
    UInt8.toNat_ofNat_of_lt' (lt_of_le_of_lt (Nat.sub_le _ _) (lt_of_le_of_lt hpow (by decide)))
  rw [if_neg h2, UInt8.toNat_and, Nat.testBit_and, hmask, Nat.testBit_two_pow_sub_one,
    Bool.and_comm]
  congr 2
  rw [eq_iff_iff]
  omega

theorem keyBit_prefixKey (key : Bytes32) (bits : ℕ) {i : ℕ} (hi : i < maxTreeLevels) :
    keyBit (prefixKey key bits) i = (decide (i < bits) && keyBit key i) := by
  have hlen : i / 8 < key.bytes.length := by
    rw [key.length_eq]
    unfold maxTreeLevels at hi
    omega
  rw [keyBit_testBit, keyBit_testBit, prefixKey,
    List.getD_eq_getElem _ _ (by rwa [List.length_mapIdx]), List.getElem_mapIdx,
    List.getD_eq_getElem _ _ hlen, maskByte_testBit _ _ _ (by omega),
    show i / 8 * 8 + i % 8 = i by omega]

theorem keyBit_siblingPrefix (key : Bytes32) {depth i : ℕ} (hdepth : depth < maxTreeLevels)
    (hi : i < maxTreeLevels) : keyBit (siblingPrefix key depth) i =
      if i = depth then !keyBit key depth else decide (i < depth) && keyBit key i := by
  have hlen : i / 8 < (prefixKey key (depth + 1)).bytes.length := by
    rw [FixedBytes.length_eq]
    unfold maxTreeLevels at hi
    omega
  have hbit := keyBit_prefixKey key (depth + 1) hi
  rw [keyBit_testBit, List.getD_eq_getElem _ _ hlen] at hbit
  have hflip : ((1 : UInt8) <<< UInt8.ofNat (depth % 8)).toNat = 2 ^ (depth % 8) := by
    have hall : ∀ k < 8, ((1 : UInt8) <<< UInt8.ofNat k).toNat = 2 ^ k := by decide
    exact hall _ (by omega)
  rw [keyBit_testBit, siblingPrefix, List.getD_eq_getElem _ _ (by rwa [List.length_modify]),
    List.getElem_modify]
  by_cases hbyte : depth / 8 = i / 8
  · rw [if_pos hbyte, UInt8.toNat_xor, Nat.testBit_xor, hbit, hflip, Nat.testBit_two_pow]
    by_cases heq : i = depth
    · subst heq
      simp
    · rw [if_neg heq, decide_eq_false (show ¬ depth % 8 = i % 8 by omega), Bool.xor_false]
      congr 2
      rw [eq_iff_iff]
      omega
  · have heq : i ≠ depth := by
      rintro rfl
      exact hbyte rfl
    rw [if_neg hbyte, if_neg heq, hbit]
    congr 2
    rw [eq_iff_iff]
    omega

/-- The key of a child of the subtree at a depth that a key belongs to. -/
def childKey (key : Bytes32) (depth : ℕ) (side : Bool) : Bytes32 :=
  if side then siblingPrefix (prefixKey key depth) depth else prefixKey key depth

theorem keyBit_childKey (key : Bytes32) {depth i : ℕ} (hdepth : depth < maxTreeLevels)
    (hi : i < maxTreeLevels) (side : Bool) : keyBit (childKey key depth side) i =
      if i = depth then side else decide (i < depth) && keyBit key i := by
  cases side with
  | true =>
    rw [childKey, if_pos rfl, keyBit_siblingPrefix _ hdepth hi]
    by_cases heq : i = depth
    · rw [if_pos heq, if_pos heq, keyBit_prefixKey _ _ hdepth]
      simp
    · rw [if_neg heq, if_neg heq, keyBit_prefixKey _ _ hi]
      cases decide (i < depth) <;> simp
  | false =>
    rw [childKey, if_neg (by simp), keyBit_prefixKey _ _ hi]
    by_cases heq : i = depth
    · rw [if_pos heq, decide_eq_false (by omega), Bool.false_and]
    · rw [if_neg heq]

/-- A key's own child is its longer prefix. -/
theorem childKey_own (key : Bytes32) {depth : ℕ} (h : depth < maxTreeLevels) :
    childKey key depth (keyBit key depth) = prefixKey key (depth + 1) := by
  apply key_ext
  intro i hi
  rw [keyBit_childKey key h hi, keyBit_prefixKey key _ hi]
  by_cases heq : i = depth
  · subst heq
    simp
  · rw [if_neg heq]
    congr 2
    rw [eq_iff_iff]
    omega

/-- The other child is the sibling that proofs look up. -/
theorem childKey_other (key : Bytes32) {depth : ℕ} (h : depth < maxTreeLevels) :
    childKey key depth (!keyBit key depth) = siblingPrefix key depth := by
  apply key_ext
  intro i hi
  rw [keyBit_childKey key h hi, keyBit_siblingPrefix key h hi]

theorem prefixKey_childKey (key : Bytes32) {depth : ℕ} (h : depth < maxTreeLevels) (side : Bool) :
    prefixKey (childKey key depth side) depth = prefixKey key depth := by
  apply key_ext
  intro i hi
  rw [keyBit_prefixKey _ _ hi, keyBit_prefixKey _ _ hi, keyBit_childKey key h hi]
  by_cases hlt : i < depth
  · rw [if_neg (by omega), decide_eq_true hlt, Bool.true_and, Bool.true_and]
  · rw [decide_eq_false hlt, Bool.false_and, Bool.false_and]

@[simp] theorem prefixKey_childKey_succ (key : Bytes32) {depth : ℕ} (h : depth < maxTreeLevels)
    (side : Bool) : prefixKey (childKey key depth side) (depth + 1) = childKey key depth side := by
  apply key_ext
  intro i hi
  rw [keyBit_prefixKey _ _ hi, keyBit_childKey key h hi]
  by_cases heq : i = depth
  · rw [if_pos heq, decide_eq_true (by omega), Bool.true_and]
  · rw [if_neg heq]
    by_cases hlt : i < depth
    · rw [decide_eq_true hlt, decide_eq_true (by omega), Bool.true_and]
    · rw [decide_eq_false hlt, Bool.false_and, Bool.and_false]

@[simp] theorem prefixKey_idem (key : Bytes32) (depth : ℕ) :
    prefixKey (prefixKey key depth) depth = prefixKey key depth := by
  apply key_ext
  intro i hi
  rw [keyBit_prefixKey _ _ hi, keyBit_prefixKey _ _ hi]
  cases decide (i < depth) <;> simp

/-- The children of a subtree depend on its prefix only. -/
theorem childKey_prefixKey {key key' : Bytes32} {depth : ℕ}
    (h : prefixKey key depth = prefixKey key' depth) (side : Bool) :
    childKey key depth side = childKey key' depth side := by
  rw [childKey, childKey, h]

theorem childKey_side {key : Bytes32} {depth : ℕ} (h : depth < maxTreeLevels) (side : Bool) :
    keyBit (childKey key depth side) depth = side := by
  rw [keyBit_childKey key h h, if_pos rfl]

/-- Every key of a level is a prefix of the level's length. -/
def Canonical (depth : ℕ) (level : NodeMap) : Prop :=
  ∀ key node, level[key]? = some node → prefixKey key depth = key

/-- The children that a level's map has under the prefix of a key. -/
def childrenOf (depth : ℕ) (current : NodeMap) (key : Bytes32) : ChildPair :=
  ⟨current[childKey key depth false]?, current[childKey key depth true]?⟩

/-- The groups hold the nodes filed so far, under prefixes. -/
structure Grouped (depth : ℕ) (filed : NodeMap) (grouped : BTreeMap Bytes32 ChildPair) : Prop where
  canonical : ∀ key children, grouped[key]? = some children → prefixKey key depth = key
  children : ∀ key, (grouped[prefixKey key depth]?).getD ⟨none, none⟩ = childrenOf depth filed key

/-- A node that is not filed yet goes on the empty side of its parent. -/
theorem addChild_grouped {depth : ℕ} (h : depth < maxTreeLevels) {filed : NodeMap}
    {grouped : BTreeMap Bytes32 ChildPair} (hg : Grouped depth filed grouped) {key : Bytes32}
    {node : MssmtNode} (hkey : prefixKey key (depth + 1) = key) (hnew : filed[key]? = none) :
    ∃ grouped', addChild depth grouped (key, node) = .ok grouped' ∧
      Grouped depth (filed.insert key node) grouped' := by
  have hown : childKey key depth (keyBit key depth) = key := by
    rw [childKey_own key h, hkey]
  have hother (key' : Bytes32) (side : Bool) (hne : childKey key' depth side ≠ key) :
      (filed.insert key node)[childKey key' depth side]? = filed[childKey key' depth side]? :=
    get_insert_ne hne
  have hgrouped (children : ChildPair) (hchildren : children =
      childrenOf depth (filed.insert key node) key) :
      Grouped depth (filed.insert key node) (grouped.insert (prefixKey key depth) children) := by
    constructor
    · intro key' children' hget
      rcases get_insert_eq_some hget with ⟨rfl, -⟩ | ⟨-, hget⟩
      · exact prefixKey_idem key depth
      · exact hg.canonical key' children' hget
    · intro key'
      by_cases hpre : prefixKey key' depth = prefixKey key depth
      · rw [hpre, get_insert_self, Option.getD_some, hchildren, childrenOf, childrenOf,
          childKey_prefixKey hpre, childKey_prefixKey hpre]
      · have hne (side : Bool) : childKey key' depth side ≠ key := by
          intro heq
          rw [← heq, prefixKey_childKey key' h] at hpre
          exact hpre rfl
        rw [get_insert_ne hpre, hg.children, childrenOf, childrenOf, hother _ _ (hne false),
          hother _ _ (hne true)]
  have hfiled := hg.children key
  unfold addChild
  simp only [hfiled]
  cases hbit : keyBit key depth with
  | false =>
    rw [hbit] at hown
    have hzero : bitAt key depth = 0 := by simpa [keyBit] using hbit
    have hsome : childKey key depth true ≠ key := by
      intro heq
      rw [← heq, childKey_side h] at hbit
      cases hbit
    refine ⟨_, by rw [if_pos hzero, childrenOf, hown, hnew]; rfl, hgrouped _ ?_⟩
    rw [childrenOf, hown, get_insert_self, hother _ _ hsome]
  | true =>
    rw [hbit] at hown
    have hone : bitAt key depth ≠ 0 := by simpa [keyBit] using hbit
    have hsome : childKey key depth false ≠ key := by
      intro heq
      rw [← heq, childKey_side h] at hbit
      cases hbit
    refine ⟨_, by rw [if_neg hone, childrenOf, hown, hnew]; rfl, hgrouped _ ?_⟩
    rw [childrenOf, hown, get_insert_self, hother _ _ hsome]

/-- Grouping a level never meets two nodes for one place. -/
theorem grouped_level {depth : ℕ} (h : depth < maxTreeLevels) {current : NodeMap}
    (hc : Canonical (depth + 1) current) :
    ∃ grouped, current.toList.foldlM (addChild depth) ∅ = .ok grouped ∧
      Grouped depth current grouped := by
  have hfold := foldlM_cases (addChild depth) current.toList ∅
    (fun done grouped => Grouped depth (insertAll ∅ done) grouped) (fun _ => False)
    ⟨by simp, by simp [insertAll, childrenOf]⟩
    (fun done entry rest grouped hsplit hg => by
      have hmem : entry ∈ current.toList := by simp [hsplit]
      have hnodup := keys_nodup current
      rw [hsplit, List.map_append, List.map_cons, List.nodup_append] at hnodup
      have hnew : entry.1 ∉ done.map (·.1) := fun hin =>
        hnodup.2.2 _ hin _ (List.mem_cons_self ..) rfl
      have hnone : (insertAll ∅ done)[entry.1]? = none := by
        rw [get_insertAll_of_not_mem hnew]
        simp
      obtain ⟨grouped', hstep, hg'⟩ := addChild_grouped h hg
        (hc entry.1 entry.2 (mem_toList_iff.mp hmem)) hnone
      exact .inl ⟨grouped', hstep, by rwa [insertAll_concat]⟩)
  rcases hfold with ⟨grouped, hok, hg⟩ | ⟨_, _, hfalse⟩
  · exact ⟨grouped, hok, by rwa [insertAll_toList] at hg⟩
  · exact hfalse.elim

theorem branchNode_empty {depth : ℕ} (h : depth < maxTreeLevels) :
    branchNode (emptyTree (depth + 1)) (emptyTree (depth + 1)) = .ok (emptyTree depth) := by
  have hsum : (emptyTree (depth + 1)).sum = 0 := emptySubtree_sum _
  rw [branchNode, hsum, checkedAdd_zero, emptyTree_branch h]
  rfl

/-- The node that a level has under the prefix of a key. -/
def nodeAt (depth : ℕ) (level : NodeMap) (key : Bytes32) : MssmtNode :=
  (level[prefixKey key depth]?).getD (emptyTree depth)

theorem nodeAt_childKey {depth : ℕ} (h : depth < maxTreeLevels) (level : NodeMap) (key : Bytes32)
    (side : Bool) : nodeAt (depth + 1) level (childKey key depth side) =
      (level[childKey key depth side]?).getD (emptyTree (depth + 1)) := by
  rw [nodeAt, prefixKey_childKey_succ key h]

/-- The parent of the two children that a level has under the prefix of a key. -/
def parentOf (depth : ℕ) (level : NodeMap) (key : Bytes32) : Except MssmtError MssmtNode :=
  branchNode (nodeAt (depth + 1) level (childKey key depth false))
    (nodeAt (depth + 1) level (childKey key depth true))

/-- The parents filed so far, with those that are the empty node left out. -/
structure Parents (depth : ℕ) (current parents : NodeMap) (done : List (Bytes32 × ChildPair)) :
    Prop where
  canonical : Canonical depth parents
  filed : ∀ entry ∈ done, parentOf depth current entry.1 =
    .ok ((parents[entry.1]?).getD (emptyTree depth))
  absent : ∀ key, key ∉ done.map (·.1) → parents[key]? = none

theorem addParent_parents {depth : ℕ} {current parents : NodeMap}
    {done : List (Bytes32 × ChildPair)} (hp : Parents depth current parents done)
    {entry : Bytes32 × ChildPair} (hkey : prefixKey entry.1 depth = entry.1)
    (hnew : entry.1 ∉ done.map (·.1))
    (hparent : branchNode (entry.2.left.getD (emptyTree (depth + 1)))
      (entry.2.right.getD (emptyTree (depth + 1))) = parentOf depth current entry.1)
    {parent : MssmtNode} (hok : parentOf depth current entry.1 = .ok parent) :
    ∃ parents', addParent depth parents entry = .ok parents' ∧
      Parents depth current parents' (done ++ [entry]) := by
  have hnone := hp.absent entry.1 hnew
  have hold (e : Bytes32 × ChildPair) (he : e ∈ done) : e.1 ≠ entry.1 := fun heq =>
    hnew (heq ▸ List.mem_map_of_mem he)
  refine ⟨if parent ≠ emptyTree depth then parents.insert entry.1 parent else parents, ?_, ?_⟩
  · rw [addParent, hparent, hok]
    rfl
  by_cases hempty : parent = emptyTree depth
  · rw [if_neg (by simpa using hempty)]
    refine ⟨hp.canonical, fun e he => ?_, fun key hkey => hp.absent key ?_⟩
    · rcases List.mem_append.mp he with he | he
      · exact hp.filed e he
      · rw [List.mem_singleton.mp he, hnone, hok, hempty]
        rfl
    · intro hin
      rw [List.map_append] at hkey
      exact hkey (List.mem_append_left _ hin)
  · rw [if_pos hempty]
    refine ⟨fun key node hget => ?_, fun e he => ?_, fun key hnot => ?_⟩
    · rcases get_insert_eq_some hget with ⟨rfl, -⟩ | ⟨-, hget⟩
      · exact hkey
      · exact hp.canonical key node hget
    · rcases List.mem_append.mp he with he | he
      · rw [get_insert_ne (hold e he)]
        exact hp.filed e he
      · rw [List.mem_singleton.mp he, get_insert_self, hok]
        rfl
    · have hne : key ≠ entry.1 := by
        rintro rfl
        exact hnot (by simp)
      rw [List.map_append] at hnot
      rw [get_insert_ne hne]
      exact hp.absent key fun hin => hnot (List.mem_append_left _ hin)

/-- The level above holds the parents of all prefixes, or one of them does not fit. -/
theorem parentLevel_cases {depth : ℕ} (h : depth < maxTreeLevels) {current : NodeMap}
    (hc : Canonical (depth + 1) current) :
    (∃ parents, parentLevel depth current = .ok parents ∧ Canonical depth parents ∧
      ∀ key, parentOf depth current key = .ok (nodeAt depth parents key)) ∨
    ∃ e, parentLevel depth current = .error e ∧ ∃ key, parentOf depth current key = .error e := by
  obtain ⟨grouped, hgrouped, hg⟩ := grouped_level h hc
  have hparent (entry : Bytes32 × ChildPair) (hmem : entry ∈ grouped.toList) :
      branchNode (entry.2.left.getD (emptyTree (depth + 1)))
        (entry.2.right.getD (emptyTree (depth + 1))) = parentOf depth current entry.1 := by
    have hget := mem_toList_iff.mp hmem
    have hchildren := hg.children entry.1
    rw [hg.canonical _ _ hget, hget, Option.getD_some] at hchildren
    rw [parentOf, nodeAt_childKey h, nodeAt_childKey h, hchildren, childrenOf]
  have hfold := foldlM_cases (addParent depth) grouped.toList ∅
    (fun done parents => Parents depth current parents done)
    (fun e => ∃ key, parentOf depth current key = .error e)
    ⟨by simp [Canonical], by simp, by simp⟩
    (fun done entry rest parents hsplit hp => by
      have hmem : entry ∈ grouped.toList := by simp [hsplit]
      have hnodup := keys_nodup grouped
      rw [hsplit, List.map_append, List.map_cons, List.nodup_append] at hnodup
      have hnew : entry.1 ∉ done.map (·.1) := fun hin =>
        hnodup.2.2 _ hin _ (List.mem_cons_self ..) rfl
      cases hok : parentOf depth current entry.1 with
      | ok parent =>
        exact .inl (addParent_parents hp (hg.canonical _ _ (mem_toList_iff.mp hmem)) hnew
          (hparent entry hmem) hok)
      | error e =>
        refine .inr ⟨e, ?_, entry.1, hok⟩
        rw [addParent, hparent entry hmem, hok, error_bind])
  rw [parentLevel, hgrouped, ok_bind]
  rcases hfold with ⟨parents, hok, hp⟩ | ⟨e, herror, hkey⟩
  · refine .inl ⟨parents, hok, hp.canonical, fun key => ?_⟩
    have hpre (side : Bool) := childKey_prefixKey (prefixKey_idem key depth) side
    have hchildren := hg.children key
    cases hget : grouped[prefixKey key depth]? with
    | some children =>
      have hfiled := hp.filed _ (mem_toList_iff.mpr hget)
      rw [parentOf, hpre, hpre] at hfiled
      exact hfiled
    | none =>
      rw [hget, Option.getD_none, childrenOf] at hchildren
      obtain ⟨hleft, hright⟩ := ChildPair.mk.inj hchildren
      have habsent : prefixKey key depth ∉ grouped.toList.map (·.1) := by
        intro hin
        obtain ⟨entry, hmem, heq⟩ := List.mem_map.mp hin
        rw [← heq, mem_toList_iff.mp hmem] at hget
        cases hget
      rw [parentOf, nodeAt_childKey h, nodeAt_childKey h, ← hleft, ← hright, nodeAt,
        hp.absent _ habsent]
      exact branchNode_empty h
  · exact .inr ⟨e, herror, hkey⟩

end TapLdk.MssmtLevels
