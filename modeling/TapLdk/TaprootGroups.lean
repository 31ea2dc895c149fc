import Mathlib
import TapLdk.MssmtOperations
import TapLdk.TaprootCommitment

/-! What the construction of a Taproot Asset commitment yields: the assets of one group under
distinct keys with their tree, the groups of a list of assets, and the tree over the groups. -/
namespace TapLdk.TaprootGroups
open TapLdk.LibraryExcept TapLdk.LibraryMaps TapLdk.LibraryBytes TapLdk.LibrarySha256
open TapLdk.Mssmt TapLdk.MssmtNaive TapLdk.MssmtOperations TapLdk.Asset TapLdk.TaprootCommitment

theorem foldlM_addLeaf_eq_ok {list : List (Bytes32 × MssmtLeaf)} {m : BTreeMap Bytes32 MssmtLeaf} :
    list.foldlM MssmtTree.addLeaf ∅ = .ok m ↔ (list.map (·.1)).Nodup ∧
      (∀ e ∈ list, e.2.isEmpty = false) ∧ insertAll ∅ list = m := by
  refine ⟨fun h => ?_, fun ⟨hnodup, hfull, hm⟩ => hm ▸ foldlM_addLeaf hnodup hfull⟩
  refine foldlM_induction (fun done m => (done.map (·.1)).Nodup ∧
    (∀ e ∈ done, e.2.isEmpty = false) ∧ insertAll ∅ done = m) ⟨List.nodup_nil, by simp, rfl⟩ ?_ h
  rintro done e m m' ⟨hnodup, hfull, rfl⟩ hadd
  simp only [MssmtTree.addLeaf, bind_eq_ok, rejectIf_eq_ok, exists_const, pure_eq_ok,
    Except.ok.injEq, Option.isSome_iff_ne_none, ne_eq, not_not] at hadd
  obtain ⟨hleaf, hnone, rfl⟩ := hadd
  have hnew : e.1 ∉ done.map (·.1) := by
    intro hmem
    obtain ⟨e', he', heq⟩ := List.mem_map.mp hmem
    have hget := get_insertAll_of_mem (m := ∅) hnodup he'
    rw [heq, hnone] at hget
    cases hget
  refine ⟨?_, fun e' he' => ?_, insertAll_concat _ _ _⟩
  · simpa using hnodup.concat hnew
  · rcases List.mem_append.mp he' with hold | hlast
    · exact hfull e' hold
    · rw [List.mem_singleton.mp hlast]
      exact Bool.eq_false_iff.mpr hleaf

theorem fromLeaves_eq_ok {list : List (Bytes32 × MssmtLeaf)} {tree : MssmtTree} :
    MssmtTree.fromLeaves list = .ok tree ↔ (list.map (·.1)).Nodup ∧
      (∀ e ∈ list, e.2.isEmpty = false) ∧ MssmtTree.rebuild (insertAll ∅ list) = .ok tree := by
  rw [MssmtTree.fromLeaves, bind_eq_ok]
  simp only [foldlM_addLeaf_eq_ok]
  constructor
  · rintro ⟨m, ⟨hnodup, hfull, rfl⟩, htree⟩
    exact ⟨hnodup, hfull, htree⟩
  · rintro ⟨hnodup, hfull, htree⟩
    exact ⟨_, ⟨hnodup, hfull, rfl⟩, htree⟩

theorem fromLeaves_perm {list list' : List (Bytes32 × MssmtLeaf)} {tree : MssmtTree}
    (hp : list.Perm list') (h : MssmtTree.fromLeaves list = .ok tree) :
    MssmtTree.fromLeaves list' = .ok tree := by
  rw [fromLeaves_eq_ok] at h ⊢
  obtain ⟨hnodup, hfull, htree⟩ := h
  refine ⟨(hp.map _).nodup_iff.mp hnodup, fun e he => hfull e (hp.mem_iff.mpr he), ?_⟩
  rw [← insertAll_perm hp hnodup]
  exact htree

theorem fromLeaves_spec {list : List (Bytes32 × MssmtLeaf)} {tree : MssmtTree}
    (h : MssmtTree.fromLeaves list = .ok tree) :
    tree.leaves = insertAll ∅ list ∧ Rebuilt tree ∧ tree.root.sum.toNat = listTotal list := by
  have hok := h
  rw [fromLeaves_eq_ok] at h
  obtain ⟨hnodup, hfull, -⟩ := h
  rcases fromLeaves_cases hnodup hfull with ⟨tree', htree, hleaves, hre⟩ | ⟨herror, -⟩
  · rw [hok, Except.ok.injEq] at htree
    subst htree
    exact ⟨hleaves, hre, by rw [hre.sum, hleaves, leafTotal_insertAll hnodup]⟩
  · rw [hok] at herror
    cases herror

/-- The entry of an asset in the map of its group. -/
def keyed (asset : TapAsset) : Bytes32 × TapAsset := (asset.assetCommitmentKey, asset)

/-- The entry of an asset in the tree of its group. -/
def keyedLeaf (asset : TapAsset) : Bytes32 × MssmtLeaf :=
  (asset.assetCommitmentKey, asset.assetLeaf)

/-- The latest version of some assets. -/
def latest (assets : List TapAsset) : AssetVersion :=
  if assets.any (·.version == .v1) then .v1 else .v0

theorem foldl_max (version : AssetVersion) (assets : List TapAsset) :
    assets.foldl (fun v asset => v.max asset.version) version =
      if version = .v1 then .v1 else latest assets := by
  induction assets generalizing version with
  | nil => cases version <;> rfl
  | cons asset assets ih =>
    rw [List.foldl_cons, ih]
    cases version <;> cases hv : asset.version <;> simp [AssetVersion.max, AssetVersion.asU8, latest, hv]

theorem foldlM_addAsset {tapKey : Bytes32} {assetType : AssetType} {group group' : AssetGroup}
    {assets : List TapAsset} :
    assets.foldlM (addAsset tapKey assetType) group = .ok group' ↔
      (∀ a ∈ assets, a.tapCommitmentKey = tapKey ∧ a.assetType = assetType) ∧
      (assets.map (·.assetCommitmentKey)).Nodup ∧
      (∀ a ∈ assets, group.assets[a.assetCommitmentKey]? = none) ∧
      group' = ⟨assets.foldl (fun v asset => v.max asset.version) group.version,
        insertAll group.assets (assets.map keyed), group.leaves ++ assets.map keyedLeaf⟩ := by
  induction assets generalizing group with
  | nil => simp [insertAll, eq_comm]
  | cons a assets ih =>
    simp only [List.foldlM_cons, addAsset, bind_eq_ok, rejectIf_eq_ok, exists_const, pure_eq_ok,
      Except.ok.injEq, Option.isSome_iff_ne_none, ne_eq, not_not, List.map_cons, List.nodup_cons,
      List.forall_mem_cons]
    have hrest (hnot : a.assetCommitmentKey ∉ assets.map (·.assetCommitmentKey)) (b : TapAsset)
        (hb : b ∈ assets) : (group.assets.insert a.assetCommitmentKey a)[b.assetCommitmentKey]? =
          group.assets[b.assetCommitmentKey]? :=
      get_insert_ne fun heq => hnot (heq ▸ List.mem_map_of_mem hb)
    constructor
    · rintro ⟨mid, ⟨htap, htype, hnone, rfl⟩, h⟩
      obtain ⟨hall, hnodup, hfresh, rfl⟩ := ih.mp h
      have hnot : a.assetCommitmentKey ∉ assets.map (·.assetCommitmentKey) := by
        intro hmem
        obtain ⟨b, hb, heq⟩ := List.mem_map.mp hmem
        have hget := hfresh b hb
        rw [heq, get_insert_self] at hget
        cases hget
      exact ⟨⟨⟨htap, htype⟩, hall⟩, ⟨hnot, hnodup⟩,
        ⟨hnone, fun b hb => (hrest hnot b hb) ▸ hfresh b hb⟩, by simp [insertAll, keyed, keyedLeaf]⟩
    · rintro ⟨⟨⟨htap, htype⟩, hall⟩, ⟨hnot, hnodup⟩, ⟨hnone, hfresh⟩, rfl⟩
      refine ⟨_, ⟨htap, htype, hnone, rfl⟩, ih.mpr ⟨hall, hnodup, fun b hb => ?_, ?_⟩⟩
      · exact (hrest hnot b hb).trans (hfresh b hb)
      · simp [insertAll, keyed, keyedLeaf]

/-- What a group of assets and its commitment have to do with each other. -/
structure GroupOf (assets : List TapAsset) (commitment : AssetCommitment) : Prop where
  ne_nil : assets ≠ []
  uniform : ∀ a ∈ assets, a.tapCommitmentKey = commitment.tapKey ∧
    a.assetType = commitment.assetType
  version : commitment.version = latest assets
  nodup : (assets.map (·.assetCommitmentKey)).Nodup
  stored : commitment.assets = insertAll ∅ (assets.map keyed)
  tree : MssmtTree.fromLeaves (assets.map keyedLeaf) = .ok commitment.tree
  root : commitment.treeRoot = commitment.tree.root
  identifier : commitment.rootIdentifier =
    assetCommitmentRootIdentifier commitment.tapKey commitment.tree

theorem new_eq_ok {assets : List TapAsset} {commitment : AssetCommitment} :
    AssetCommitment.new assets = .ok commitment ↔ GroupOf assets commitment := by
  simp only [AssetCommitment.new, bind_eq_ok, okOr_eq_ok, foldlM_addAsset, mapError_eq_ok,
    pure_eq_ok, Except.ok.injEq]
  have hversion (first : TapAsset) (hfirst : assets.head? = some first) :
      assets.foldl (fun v asset => v.max asset.version) first.version = latest assets := by
    have hmem := List.mem_of_head? hfirst
    rw [foldl_max]
    cases hv : first.version with
    | v0 => rfl
    | v1 =>
      have hany : assets.any (·.version == .v1) = true :=
        List.any_eq_true.mpr ⟨first, hmem, by rw [hv]; rfl⟩
      rw [if_pos rfl, latest, if_pos hany]
  constructor
  · rintro ⟨first, hfirst, _, ⟨hall, hnodup, -, rfl⟩, tree, htree, rfl⟩
    exact ⟨fun h => by simp [h] at hfirst, hall, hversion first hfirst, hnodup, rfl, htree, rfl, rfl⟩
  · intro h
    obtain ⟨first, rest, hcons⟩ := List.exists_cons_of_ne_nil h.ne_nil
    have hfirst : assets.head? = some first := by
      rw [hcons]
      rfl
    obtain ⟨htap, htype⟩ := h.uniform first (List.mem_of_head? hfirst)
    have hall := h.uniform
    rw [← htap, ← htype] at hall
    refine ⟨first, hfirst, _, ⟨hall, h.nodup, by simp, rfl⟩, commitment.tree, h.tree, ?_⟩
    obtain ⟨version, tapKey, assetType, treeRoot, rootIdentifier, stored, tree⟩ := commitment
    simp only [AssetCommitment.mk.injEq]
    exact ⟨(hversion first hfirst).trans h.version.symm, htap, htype, h.root.symm,
      by rw [htap]; exact h.identifier.symm, h.stored.symm, trivial⟩

/-- A group in any order has the same commitment. -/
theorem GroupOf.perm {assets assets' : List TapAsset} {commitment : AssetCommitment}
    (h : GroupOf assets commitment) (hp : assets.Perm assets') : GroupOf assets' commitment where
  ne_nil := by
    rintro rfl
    exact h.ne_nil hp.eq_nil
  uniform a ha := h.uniform a (hp.mem_iff.mpr ha)
  version := by
    rw [h.version, latest, latest, hp.any_eq]
  nodup := (hp.map _).nodup_iff.mp h.nodup
  stored := by
    have hkeys : ((assets.map keyed).map (·.1)).Nodup := by
      rw [List.map_map]
      exact h.nodup
    rw [h.stored, insertAll_perm (hp.map _) hkeys]
  tree := fromLeaves_perm (hp.map _) h.tree
  root := h.root
  identifier := h.identifier

/-- The tree of a group has a leaf for each of its assets, and the sum of their amounts. -/
theorem GroupOf.leaves {assets : List TapAsset} {commitment : AssetCommitment}
    (h : GroupOf assets commitment) :
    commitment.tree.leaves = commitment.assets.map (fun _ asset => asset.assetLeaf) ∧
      Rebuilt commitment.tree ∧
      commitment.treeRoot.sum.toNat = (assets.map fun a => a.amount.toNat).sum := by
  obtain ⟨hleaves, hre, hsum⟩ := fromLeaves_spec h.tree
  have hkeys : ((assets.map keyed).map (·.1)).Nodup := by
    rw [List.map_map]
    exact h.nodup
  have hentries : assets.map keyedLeaf = (assets.map keyed).map fun e => (e.1, e.2.assetLeaf) := by
    simp [keyed, keyedLeaf]
  refine ⟨?_, hre, ?_⟩
  · rw [hleaves, hentries, insertAll_map hkeys, h.stored]
  · rw [h.root, hsum]
    simp [listTotal, keyedLeaf, TapAsset.assetLeaf, Function.comp_def]

/-- The assets stored under a key of a group. -/
theorem GroupOf.get {assets : List TapAsset} {commitment : AssetCommitment}
    (h : GroupOf assets commitment) {key : Bytes32} {asset : TapAsset} :
    commitment.assets[key]? = some asset ↔ asset ∈ assets ∧ asset.assetCommitmentKey = key := by
  have hkeys : ((assets.map keyed).map (·.1)).Nodup := by
    rw [List.map_map]
    exact h.nodup
  rw [h.stored, get_insertAll_empty hkeys, List.mem_map]
  constructor
  · rintro ⟨a, ha, heq⟩
    obtain ⟨rfl, rfl⟩ := Prod.mk.inj heq
    exact ⟨ha, rfl⟩
  · rintro ⟨ha, rfl⟩
    exact ⟨asset, ha, rfl⟩

theorem groupAssets_concat (assets : List TapAsset) (asset : TapAsset) :
    TapCommitment.groupAssets (assets ++ [asset]) =
      (TapCommitment.groupAssets assets).insert asset.tapCommitmentKey
        (((TapCommitment.groupAssets assets)[asset.tapCommitmentKey]?).getD [] ++ [asset]) := by
  simp [TapCommitment.groupAssets]

/-- The assets of a list with one commitment key. -/
def groupAt (assets : List TapAsset) (key : Bytes32) : List TapAsset :=
  assets.filter fun asset => asset.tapCommitmentKey = key

theorem groupAt_concat (assets : List TapAsset) (asset : TapAsset) (key : Bytes32) :
    groupAt (assets ++ [asset]) key =
      if asset.tapCommitmentKey = key then groupAt assets key ++ [asset] else groupAt assets key := by
  by_cases h : asset.tapCommitmentKey = key <;> simp [groupAt, h]

theorem getD_groupAssets (assets : List TapAsset) (key : Bytes32) :
    ((TapCommitment.groupAssets assets)[key]?).getD [] = groupAt assets key := by
  induction assets using List.reverseRecOn with
  | nil => simp [TapCommitment.groupAssets, groupAt]
  | append_singleton assets asset ih =>
    rw [groupAssets_concat, groupAt_concat]
    by_cases hkey : asset.tapCommitmentKey = key
    · subst hkey
      rw [get_insert_self, Option.getD_some, ih, if_pos rfl]
    · rw [get_insert_ne (Ne.symm hkey), ih, if_neg hkey]

/-- A group holds the assets with its key, in their order, and there is at least one. -/
theorem get_groupAssets {assets : List TapAsset} {key : Bytes32} {group : List TapAsset} :
    (TapCommitment.groupAssets assets)[key]? = some group ↔
      group ≠ [] ∧ groupAt assets key = group := by
  induction assets using List.reverseRecOn with
  | nil => simp +contextual [TapCommitment.groupAssets, groupAt, eq_comm]
  | append_singleton assets asset ih =>
    rw [groupAssets_concat, groupAt_concat]
    by_cases hkey : asset.tapCommitmentKey = key
    · subst hkey
      rw [get_insert_self, getD_groupAssets, if_pos rfl, Option.some.injEq]
      exact ⟨fun h => ⟨by simp [← h], h⟩, And.right⟩
    · rw [get_insert_ne (Ne.symm hkey), ih, if_neg hkey]

/-- The amounts of all groups are the amounts of all assets. -/
theorem total_groupAssets (assets : List TapAsset) :
    total (fun _ group => (group.map fun a : TapAsset => a.amount.toNat).sum)
      (TapCommitment.groupAssets assets) = (assets.map fun a => a.amount.toNat).sum := by
  induction assets using List.reverseRecOn with
  | nil => simp [TapCommitment.groupAssets]
  | append_singleton assets asset ih =>
    have hupdate := total_update
      (f := fun _ group => (group.map fun a : TapAsset => a.amount.toNat).sum)
      (TapCommitment.groupAssets assets) asset.tapCommitmentKey
      (((TapCommitment.groupAssets assets)[asset.tapCommitmentKey]?).getD [] ++ [asset])
    rw [← groupAssets_concat, ih] at hupdate
    cases hget : (TapCommitment.groupAssets assets)[asset.tapCommitmentKey]? with
    | none =>
      rw [hget] at hupdate
      simpa [add_comm] using hupdate
    | some group =>
      rw [hget] at hupdate
      simp only [Option.elim_some, Option.getD_some, List.map_append, List.sum_append] at hupdate ⊢
      omega

/-- The groups of a list in the order of their keys. -/
def groups (assets : List TapAsset) : List (List TapAsset) :=
  (TapCommitment.groupAssets assets).toList.map (·.2)

theorem mem_groups {assets group : List TapAsset} :
    group ∈ groups assets ↔ ∃ key, group ≠ [] ∧ groupAt assets key = group := by
  simp [groups, get_groupAssets]

/-- A list in another order has the same groups, each in another order. -/
theorem groups_perm {assets assets' : List TapAsset} (hp : assets.Perm assets') :
    List.Forall₂ List.Perm (groups assets) (groups assets') := by
  have hgroup (key : Bytes32) : (groupAt assets key).Perm (groupAt assets' key) := hp.filter _
  have hnil (key : Bytes32) : groupAt assets key = [] ↔ groupAt assets' key = [] := by
    rw [← List.length_eq_zero_iff, (hgroup key).length_eq, List.length_eq_zero_iff]
  have hmap : TapCommitment.groupAssets assets' =
      (TapCommitment.groupAssets assets).map fun key _ => groupAt assets' key := by
    apply ext_get
    intro key group
    rw [get_groupAssets, Std.ExtTreeMap.getElem?_map]
    cases hget : (TapCommitment.groupAssets assets)[key]? with
    | none =>
      have hempty : groupAt assets key = [] := by
        rw [← getD_groupAssets, hget]
        rfl
      simp only [Option.map_none, reduceCtorEq, iff_false]
      rintro ⟨hne, rfl⟩
      exact hne ((hnil key).mp hempty)
    | some old =>
      obtain ⟨hne, rfl⟩ := get_groupAssets.mp hget
      rw [Option.map_some, Option.some.injEq]
      exact ⟨And.right, fun h => ⟨h ▸ mt (hnil key).mpr hne, h⟩⟩
  rw [groups, groups, hmap, Std.ExtTreeMap.toList_map, List.map_map, List.forall₂_map_left_iff,
    List.forall₂_map_right_iff, List.forall₂_same]
  intro entry hentry
  obtain ⟨-, hgroup'⟩ := get_groupAssets.mp (mem_toList_iff.mp hentry)
  rw [← hgroup']
  exact hgroup entry.1

/-- The entry of a group's commitment in the map of all groups. -/
def keyedGroup (commitment : AssetCommitment) : Bytes32 × AssetCommitment :=
  (commitment.tapKey, commitment)

/-- The entry of a group's commitment in the tree of all groups. -/
def keyedGroupLeaf (commitment : AssetCommitment) : Bytes32 × MssmtLeaf :=
  (commitment.tapKey, commitment.tapCommitmentLeaf)

theorem foldlM_addCommitment {commitments : List AssetCommitment}
    {acc acc' : BTreeMap Bytes32 AssetCommitment × List (Bytes32 × MssmtLeaf)} :
    commitments.foldlM addCommitment acc = .ok acc' ↔
      (commitments.map (·.tapKey)).Nodup ∧ (∀ c ∈ commitments, acc.1[c.tapKey]? = none) ∧
      acc' = (insertAll acc.1 (commitments.map keyedGroup),
        acc.2 ++ commitments.map keyedGroupLeaf) := by
  induction commitments generalizing acc with
  | nil => simp [insertAll, eq_comm]
  | cons c commitments ih =>
    simp only [List.foldlM_cons, addCommitment, bind_eq_ok, rejectIf_eq_ok, exists_const,
      pure_eq_ok, Except.ok.injEq, Option.isSome_iff_ne_none, ne_eq, not_not, List.map_cons,
      List.nodup_cons, List.forall_mem_cons]
    have hrest (hnot : c.tapKey ∉ commitments.map (·.tapKey)) (d : AssetCommitment)
        (hd : d ∈ commitments) : (acc.1.insert c.tapKey c)[d.tapKey]? = acc.1[d.tapKey]? :=
      get_insert_ne fun heq => hnot (heq ▸ List.mem_map_of_mem hd)
    constructor
    · rintro ⟨mid, ⟨hnone, rfl⟩, h⟩
      obtain ⟨hnodup, hfresh, rfl⟩ := ih.mp h
      have hnot : c.tapKey ∉ commitments.map (·.tapKey) := by
        intro hmem
        obtain ⟨d, hd, heq⟩ := List.mem_map.mp hmem
        have hget := hfresh d hd
        rw [heq, get_insert_self] at hget
        cases hget
      exact ⟨⟨hnot, hnodup⟩, ⟨hnone, fun d hd => (hrest hnot d hd) ▸ hfresh d hd⟩,
        by simp [insertAll, keyedGroup, keyedGroupLeaf]⟩
    · rintro ⟨⟨hnot, hnodup⟩, ⟨hnone, hfresh⟩, rfl⟩
      refine ⟨_, ⟨hnone, rfl⟩, ih.mpr ⟨hnodup, fun d hd => ?_, ?_⟩⟩
      · exact (hrest hnot d hd).trans (hfresh d hd)
      · simp [insertAll, keyedGroup, keyedGroupLeaf]

/-- A commitment to a list of assets is one to the commitments of its groups. -/
theorem fromAssets_eq_ok {version : Option TapCommitmentVersion} {assets : List TapAsset}
    {c : TapCommitment} : TapCommitment.fromAssets version assets = .ok c ↔
      ∃ commitments, List.Forall₂ GroupOf (groups assets) commitments ∧
        TapCommitment.new version commitments = .ok c := by
  simp only [TapCommitment.fromAssets, bind_eq_ok, mapM_eq_ok, new_eq_ok, groups]

theorem forall₂_groupOf_perm {gs gs' : List (List TapAsset)} {commitments : List AssetCommitment}
    (hp : List.Forall₂ List.Perm gs gs') (h : List.Forall₂ GroupOf gs commitments) :
    List.Forall₂ GroupOf gs' commitments := by
  induction hp generalizing commitments with
  | nil => exact h
  | cons hgroup _ ih =>
    obtain ⟨commitment, rest, hfirst, hrest, rfl⟩ := List.forall₂_cons_left_iff.mp h
    exact .cons (hfirst.perm hgroup) (ih hrest)

/-- The order of the assets does not matter. -/
theorem fromAssets_perm {version : Option TapCommitmentVersion} {assets assets' : List TapAsset}
    {c : TapCommitment} (hp : assets.Perm assets')
    (h : TapCommitment.fromAssets version assets = .ok c) :
    TapCommitment.fromAssets version assets' = .ok c := by
  rw [fromAssets_eq_ok] at h ⊢
  obtain ⟨commitments, hgroups, hnew⟩ := h
  exact ⟨commitments, forall₂_groupOf_perm (groups_perm hp) hgroups, hnew⟩

theorem GroupOf.tapKey_eq {assets : List TapAsset} {key : Bytes32} {commitment : AssetCommitment}
    (h : GroupOf (groupAt assets key) commitment) : commitment.tapKey = key := by
  obtain ⟨a, ha⟩ := List.exists_mem_of_ne_nil _ h.ne_nil
  have hkey := (h.uniform a ha).1
  rw [groupAt, List.mem_filter, decide_eq_true_eq] at ha
  rw [← hkey, ha.2]

/-- The commitments of the groups are those that a group at some key has. -/
theorem mem_commitments {assets : List TapAsset} {commitments : List AssetCommitment}
    (h : List.Forall₂ GroupOf (groups assets) commitments) {commitment : AssetCommitment} :
    commitment ∈ commitments ↔ GroupOf (groupAt assets commitment.tapKey) commitment := by
  constructor
  · intro hmem
    obtain ⟨group, hgroup, hof⟩ := forall₂_exists h.flip hmem
    obtain ⟨key, -, rfl⟩ := mem_groups.mp hgroup
    have hof' : GroupOf (groupAt assets key) commitment := hof
    rwa [hof'.tapKey_eq]
  · intro hof
    obtain ⟨commitment', hmem, hof'⟩ :=
      forall₂_exists h (mem_groups.mpr ⟨commitment.tapKey, hof.ne_nil, rfl⟩)
    have hsame := new_eq_ok.mpr hof
    rw [new_eq_ok.mpr hof', Except.ok.injEq] at hsame
    exact hsame ▸ hmem

theorem sum_groups {gs : List (List TapAsset)} {commitments : List AssetCommitment}
    (h : List.Forall₂ GroupOf gs commitments) :
    (commitments.map fun c => c.treeRoot.sum.toNat).sum =
      (gs.map fun group => (group.map fun a => a.amount.toNat).sum).sum := by
  induction h with
  | nil => rfl
  | cons hgroup _ ih => simp only [List.map_cons, List.sum_cons, hgroup.leaves.2.2, ih]

/-- The commitments of the groups, under their keys, and the tree over them. -/
structure Commits (assets : List TapAsset) (c : TapCommitment) : Prop where
  group : ∀ (key : Bytes32) (commitment : AssetCommitment), c.commitments[key]? = some commitment ↔
    GroupOf (groupAt assets key) commitment
  present : ∀ a ∈ assets, ∃ commitment, c.commitments[a.tapCommitmentKey]? = some commitment
  leaves : c.tree.leaves = c.commitments.map fun _ commitment => commitment.tapCommitmentLeaf
  built : Built c.tree
  root : c.treeRoot = c.tree.root
  sum : c.treeRoot.sum.toNat = (assets.map fun a => a.amount.toNat).sum

theorem commits_of_ok {version : Option TapCommitmentVersion} {assets : List TapAsset}
    {c : TapCommitment} (h : TapCommitment.fromAssets version assets = .ok c) : Commits assets c := by
  obtain ⟨commitments, hgroups, hnew⟩ := fromAssets_eq_ok.mp h
  simp only [TapCommitment.new, bind_eq_ok, foldlM_addCommitment, mapError_eq_ok, pure_eq_ok,
    Except.ok.injEq] at hnew
  obtain ⟨_, ⟨hnodup, -, rfl⟩, tree, htree, rfl⟩ := hnew
  have hkeys : ((commitments.map keyedGroup).map (·.1)).Nodup := by
    rw [List.map_map]
    exact hnodup
  have hentries : commitments.map keyedGroupLeaf =
      (commitments.map keyedGroup).map fun e => (e.1, e.2.tapCommitmentLeaf) := by
    simp [keyedGroup, keyedGroupLeaf]
  obtain ⟨hleaves, -, hsum⟩ := fromLeaves_spec htree
  have hgroup : ∀ (key : Bytes32) (commitment : AssetCommitment),
      (insertAll ∅ (commitments.map keyedGroup))[key]? = some commitment ↔
        GroupOf (groupAt assets key) commitment := by
    intro key commitment
    rw [get_insertAll_empty hkeys, List.mem_map]
    constructor
    · rintro ⟨commitment', hmem, heq⟩
      obtain ⟨rfl, rfl⟩ := Prod.mk.inj heq
      exact (mem_commitments hgroups).mp hmem
    · intro hof
      have hkey := hof.tapKey_eq
      rw [← hkey] at hof
      exact ⟨commitment, (mem_commitments hgroups).mpr hof, by rw [keyedGroup, hkey]⟩
  refine ⟨hgroup, fun a ha => ?_, ?_, .fromLeaves htree, rfl, ?_⟩
  · have hmem : a ∈ groupAt assets a.tapCommitmentKey := by simp [groupAt, ha]
    obtain ⟨commitment, -, hof⟩ := forall₂_exists hgroups
      (mem_groups.mpr ⟨_, List.ne_nil_of_mem hmem, rfl⟩)
    exact ⟨commitment, (hgroup _ _).mpr hof⟩
  · rw [hleaves, List.nil_append, hentries, insertAll_map hkeys]
  · rw [hsum, ← total_groupAssets, total]
    have htotal := sum_groups hgroups
    simp only [groups, List.map_map] at htotal
    simpa [listTotal, keyedGroupLeaf, AssetCommitment.tapCommitmentLeaf, Function.comp_def] using htotal

/-- One asset makes a group. -/
theorem groupOf_single (asset : TapAsset) : ∃ commitment, GroupOf [asset] commitment := by
  have hnodup : ([keyedLeaf asset].map (·.1)).Nodup := List.nodup_singleton _
  have hfull : ∀ e ∈ [keyedLeaf asset], e.2.isEmpty = false := by
    simp [keyedLeaf, TapAsset.assetLeaf, TapAsset.assetLeafValue, MssmtLeaf.isEmpty]
  rcases fromLeaves_cases hnodup hfull with ⟨tree, htree, -⟩ | ⟨-, hover⟩
  · refine ⟨soleGroup asset tree, new_eq_ok.mp ?_⟩
    rw [keyedLeaf] at htree
    simp [AssetCommitment.new, okOr, addAsset, rejectIf, htree, Except.mapError, soleGroup]
  · have htotal : listTotal [keyedLeaf asset] = asset.amount.toNat := by
      simp [listTotal, keyedLeaf, TapAsset.assetLeaf]
    have hlt := asset.amount.toNat_lt
    omega

theorem groupAt_of_nodup {assets : List TapAsset} {asset : TapAsset}
    (hnodup : (assets.map (·.tapCommitmentKey)).Nodup) (h : asset ∈ assets) :
    groupAt assets asset.tapCommitmentKey = [asset] := by
  induction assets with
  | nil => cases h
  | cons first rest ih =>
    rw [List.map_cons, List.nodup_cons] at hnodup
    have hrest (key : Bytes32) (hkey : key ∉ rest.map (·.tapCommitmentKey)) :
        groupAt rest key = [] := by
      refine List.filter_eq_nil_iff.mpr fun other hother heq => hkey ?_
      exact List.mem_map.mpr ⟨other, hother, of_decide_eq_true heq⟩
    rcases List.mem_cons.mp h with rfl | hmem
    · have htail := hrest _ hnodup.1
      rw [groupAt] at htail ⊢
      simp [htail]
    · have hne : first.tapCommitmentKey ≠ asset.tapCommitmentKey := fun heq =>
        hnodup.1 (heq ▸ List.mem_map_of_mem hmem)
      have htail := ih hnodup.2 hmem
      rw [groupAt] at htail ⊢
      simp [hne, htail]

/-- The keys of the groups are those they are listed under. -/
theorem tapKeys_groups {assets : List TapAsset} {commitments : List AssetCommitment}
    (h : List.Forall₂ GroupOf (groups assets) commitments) :
    commitments.map (·.tapKey) = (TapCommitment.groupAssets assets).toList.map (·.1) := by
  rw [groups, List.forall₂_map_left_iff] at h
  refine List.ext_getElem (by rw [List.length_map, List.length_map, h.length_eq])
    fun i hi hi' => ?_
  rw [List.length_map] at hi hi'
  have hof : GroupOf (TapCommitment.groupAssets assets).toList[i].2 commitments[i] := h.get hi' hi
  have hget : (TapCommitment.groupAssets assets)[(TapCommitment.groupAssets assets).toList[i].1]? =
      some (TapCommitment.groupAssets assets).toList[i].2 :=
    mem_toList_iff.mp (List.getElem_mem hi')
  rw [← (get_groupAssets.mp hget).2] at hof
  rw [List.getElem_map, List.getElem_map, hof.tapKey_eq]

/-- Assets of different groups can be committed to when their sum fits. -/
theorem fromAssets_distinct {assets : List TapAsset} (version : Option TapCommitmentVersion)
    (hnodup : (assets.map (·.tapCommitmentKey)).Nodup)
    (hfits : (assets.map fun a => a.amount.toNat).sum < 2 ^ 64) :
    ∃ c, TapCommitment.fromAssets version assets = .ok c := by
  have hsingle : ∀ group ∈ groups assets, ∃ commitment, GroupOf group commitment := by
    intro group hgroup
    obtain ⟨key, hne, rfl⟩ := mem_groups.mp hgroup
    obtain ⟨asset, hasset⟩ := List.exists_mem_of_ne_nil _ hne
    rw [groupAt, List.mem_filter, decide_eq_true_eq] at hasset
    obtain ⟨hmem, rfl⟩ := hasset
    rw [groupAt_of_nodup hnodup hmem]
    exact groupOf_single asset
  obtain ⟨commitments, hof⟩ :
      ∃ commitments, List.Forall₂ GroupOf (groups assets) commitments := by
    refine ⟨(groups assets).pmap (fun group hgroup => (hsingle group hgroup).choose) fun _ h => h,
      List.forall₂_iff_get.mpr ⟨by simp, fun i hi hi' => ?_⟩⟩
    rw [List.get_eq_getElem, List.get_eq_getElem, List.getElem_pmap]
    exact (hsingle _ (List.getElem_mem hi)).choose_spec
  have hkeys : (commitments.map (·.tapKey)).Nodup := by
    rw [tapKeys_groups hof]
    exact keys_nodup _
  have hleaves : ((commitments.map keyedGroupLeaf).map (·.1)).Nodup := by
    rw [List.map_map]
    exact hkeys
  have hfull : ∀ e ∈ commitments.map keyedGroupLeaf, e.2.isEmpty = false := by
    intro e he
    obtain ⟨commitment, -, rfl⟩ := List.mem_map.mp he
    simp [MssmtLeaf.isEmpty, keyedGroupLeaf, AssetCommitment.tapCommitmentLeaf]
  have htotal : listTotal (commitments.map keyedGroupLeaf) =
      (assets.map fun a => a.amount.toNat).sum := by
    have hsum := sum_groups hof
    rw [← total_groupAssets, total]
    simp only [groups, List.map_map] at hsum
    simpa [listTotal, keyedGroupLeaf, AssetCommitment.tapCommitmentLeaf, Function.comp_def] using hsum
  rcases fromLeaves_cases hleaves hfull with ⟨tree, htree, -⟩ | ⟨-, hover⟩
  · have hnew : ∃ c, TapCommitment.new version commitments = .ok c := by
      simp only [TapCommitment.new, bind_eq_ok, foldlM_addCommitment, mapError_eq_ok, pure_eq_ok]
      exact ⟨_, _, ⟨hkeys, by simp, rfl⟩, tree, by simpa using htree, rfl⟩
    obtain ⟨c, hc⟩ := hnew
    exact ⟨c, fromAssets_eq_ok.mpr ⟨commitments, hof, hc⟩⟩
  · omega

end TapLdk.TaprootGroups
