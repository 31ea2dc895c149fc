import Mathlib
import TapLdk.MssmtSoundness
import TapLdk.TaprootProofs

/-! The tapscript root binds the assets: two lists of assets under one root are the same up to
their order, or the messages hashed for them, layer by layer, hold a SHA-256 collision. -/
namespace TapLdk.TaprootBinding
open TapLdk.LibraryExcept TapLdk.LibraryMaps TapLdk.LibraryBytes TapLdk.LibrarySha256
open TapLdk.Mssmt TapLdk.MssmtLevels TapLdk.MssmtNaive TapLdk.MssmtOperations TapLdk.MssmtProofs
open TapLdk.MssmtSoundness TapLdk.Asset TapLdk.TaprootCommitment TapLdk.TaprootGroups
open TapLdk.TaprootProofs (sampleTapAsset otherTapAsset pair_committed)

/-- What the leaf hash of a commitment hashes. -/
def tapLeafMessage (c : TapCommitment) : Bytes :=
  let tagHash := (sha256 (utf8 "TapLeaf")).bytes
  tagHash ++ tagHash ++ ([0xc0] ++ pushCompactSize c.tapLeafScript.length ++ c.tapLeafScript)

/-- What the root identifier of a group hashes. -/
def identifierMessage (tapKey : Bytes32) (tree : MssmtTree) : Bytes :=
  tapKey.bytes ++ tree.rootChildren.1.hash.bytes ++ tree.rootChildren.2.hash.bytes ++
    u64Bytes tree.root.sum

/-- The collisions along the paths of all keys of two trees. -/
def treePairs (tree tree' : MssmtTree) : List (Bytes × Bytes) :=
  (tree.leaves.keys ++ tree'.leaves.keys).flatMap fun key =>
    (extractCollision tree (proof tree' key) key (leafAt tree' key)).toList

/-- The messages of two groups under one key. -/
def groupPairs (key : Bytes32) (group group' : Option AssetCommitment) : List (Bytes × Bytes) :=
  match group, group' with
  | some g, some g' => (identifierMessage key g.tree, identifierMessage key g'.tree) ::
      treePairs g.tree g'.tree
  | _, _ => []

def messagePairs (c c' : TapCommitment) : List (Bytes × Bytes) :=
  (tapLeafMessage c, tapLeafMessage c') :: treePairs c.tree c'.tree ++
    (c.tree.leaves.keys ++ c'.tree.leaves.keys).flatMap fun key =>
      groupPairs key c.commitments[key]? c'.commitments[key]?

/-- The first of the pairs that is a collision. -/
def bindingCollision (c c' : TapCommitment) : Option (Bytes × Bytes) :=
  (messagePairs c c').find? fun pair => Collision pair.1 pair.2

def CollisionFree (pairs : List (Bytes × Bytes)) : Prop := ∀ p ∈ pairs, ¬ Collision p.1 p.2

theorem collisionFree_or (c c' : TapCommitment) :
    CollisionFree (messagePairs c c') ∨
      ∃ x y, bindingCollision c c' = some (x, y) ∧ Collision x y := by
  cases hfind : bindingCollision c c' with
  | none =>
    left
    intro p hp
    have hnone := List.find?_eq_none.mp hfind p hp
    simpa using hnone
  | some pair =>
    have hsome := List.find?_some hfind
    exact .inr ⟨pair.1, pair.2, rfl, by simpa using hsome⟩

theorem eq_of_sha256 {x y : Bytes} {pairs : List (Bytes × Bytes)} (hfree : CollisionFree pairs)
    (hmem : (x, y) ∈ pairs) (h : sha256 x = sha256 y) : x = y :=
  (eq_or_collision h).resolve_right (hfree _ hmem)

/-- A leaf that is not empty is stored where it is found. -/
theorem get_of_leafAt {tree : MssmtTree} {key : Bytes32} {leaf : MssmtLeaf}
    (h : leafAt tree key = leaf) (hfull : leaf.isEmpty = false) : tree.leaves[key]? = some leaf := by
  rw [leafAt, MssmtTree.get] at h
  cases hget : tree.leaves[key]? with
  | none =>
    rw [hget, Option.getD_none] at h
    rw [← h] at hfull
    cases hfull
  | some stored =>
    rw [hget, Option.getD_some] at h
    rw [h]

/-- Full trees with one root, and no collision along their paths, have the same leaves. -/
theorem leaves_eq {tree tree' : MssmtTree} (h : Built tree) (h' : Built tree')
    (hroot : tree.root = tree'.root) (hfree : CollisionFree (treePairs tree tree')) :
    tree.leaves = tree'.leaves := by
  obtain ⟨hre, hfull⟩ := built_spec h
  obtain ⟨hre', hfull'⟩ := built_spec h'
  have hleaf (key : Bytes32) (hkey : key ∈ tree.leaves.keys ++ tree'.leaves.keys) :
      leafAt tree key = leafAt tree' key := by
    have hproof := rootFor_proof hre' key
    rw [← hroot] at hproof
    refine (leafAt_or_collision hre hproof).resolve_right ?_
    rintro ⟨x, y, hextract, hcollision⟩
    refine hfree (x, y) (List.mem_flatMap.mpr ⟨key, hkey, ?_⟩) hcollision
    rw [hextract]
    exact List.mem_singleton.mpr rfl
  have hmem {t : MssmtTree} {key : Bytes32} {leaf : MssmtLeaf}
      (hget : t.leaves[key]? = some leaf) : key ∈ t.leaves.keys := by
    rw [Std.ExtTreeMap.mem_keys, Std.ExtTreeMap.mem_iff_isSome_getElem?, hget]
    rfl
  have hstored {t : MssmtTree} {key : Bytes32} {leaf : MssmtLeaf}
      (hget : t.leaves[key]? = some leaf) : leafAt t key = leaf := by
    rw [leafAt, MssmtTree.get, hget, Option.getD_some]
  apply ext_get
  intro key leaf
  constructor
  · intro hget
    have hkey := hleaf key (List.mem_append_left _ (hmem hget))
    exact get_of_leafAt (hkey.symm.trans (hstored hget)) (hfull key leaf hget)
  · intro hget
    have hkey := hleaf key (List.mem_append_right _ (hmem hget))
    exact get_of_leafAt (hkey.trans (hstored hget)) (hfull' key leaf hget)

/-- The children that the identifier of a group hashes determine the root of its tree. -/
theorem root_eq_children {tree : MssmtTree} (h : Rebuilt tree) :
    tree.root.hash =
      branchHash tree.rootChildren.1.hash tree.rootChildren.2.hash tree.root.sum := by
  have hzero : 0 < maxTreeLevels := by decide
  have hright : siblingPrefix Bytes32.ZERO 0 = ⟨1 :: List.replicate 31 0, rfl⟩ := by decide
  have hparent := h.parent hzero Bytes32.ZERO
  rw [← h.root, parentOf, nodeAt_childKey hzero, nodeAt_childKey hzero, childKey, childKey,
    prefixKey_zero, if_neg (by simp), if_pos rfl, hright] at hparent
  simp only [branchNode, bind_eq_ok, pure_eq_ok, Except.ok.injEq] at hparent
  obtain ⟨sum, -, hnode⟩ := hparent
  have hsum := congrArg MssmtNode.sum hnode
  have hhash := congrArg MssmtNode.hash hnode
  dsimp only at hsum hhash
  rw [← hhash, ← hsum]
  rfl

theorem root_eq_of_identifier {tree tree' : MssmtTree} {key : Bytes32} (h : Rebuilt tree)
    (h' : Rebuilt tree') (hmessage : identifierMessage key tree = identifierMessage key tree') :
    tree.root = tree'.root := by
  obtain ⟨hchildren, hsum⟩ := List.append_inj' hmessage (by simp)
  obtain ⟨hkeyed, hright⟩ := List.append_inj' hchildren (by simp [FixedBytes.length_eq])
  have hleft := List.append_cancel_left hkeyed
  have hsum' := u64Bytes_inj.mp hsum
  have hhash := root_eq_children h
  rw [FixedBytes.ext hleft, FixedBytes.ext hright, hsum', ← root_eq_children h'] at hhash
  cases hroot : tree.root
  cases hroot' : tree'.root
  rw [hroot, hroot'] at hhash hsum'
  dsimp only at hhash hsum'
  rw [hhash, hsum']

theorem asU8_injective : Function.Injective AssetVersion.asU8 := by
  intro version version' h
  cases version <;> cases version' <;> first | rfl | cases h

/-- A group's leaf determines its root identifier. -/
theorem identifier_of_leaf {group group' : AssetCommitment}
    (h : group.tapCommitmentLeaf = group'.tapCommitmentLeaf) :
    group.rootIdentifier = group'.rootIdentifier := by
  have hvalue := congrArg MssmtLeaf.value h
  obtain ⟨hstart, -⟩ := List.append_inj' hvalue (by simp)
  obtain ⟨-, hidentifier⟩ := List.append_inj hstart rfl
  exact FixedBytes.ext hidentifier

theorem assetTypeAsU8_injective : Function.Injective AssetType.asU8 := by
  intro assetType assetType' h
  cases assetType <;> cases assetType' <;> first | rfl | cases h

/-- The end of an asset leaf. -/
def groupTail : Option CompressedKey → Bytes
  | some groupKey => 1 :: groupKey.bytes
  | none => [0]

theorem groupTail_length (groupKey : Option CompressedKey) :
    (groupTail groupKey).length = 1 ∨ (groupTail groupKey).length = 34 := by
  cases groupKey with
  | none => exact .inl rfl
  | some groupKey => exact .inr (by simp [groupTail, groupKey.length_eq])

theorem groupTail_injective : Function.Injective groupTail := by
  intro groupKey groupKey' h
  cases groupKey <;> cases groupKey' <;> simp only [groupTail, List.cons.injEq] at h
  case none.none => rfl
  case none.some => exact absurd h.1 (by decide)
  case some.none => exact absurd h.1 (by decide)
  case some.some => rw [FixedBytes.ext h.2]

/-- Texts of one length, or of lengths that the tails make up for, have one length: the length
field would have to wrap around otherwise. -/
theorem length_eq_of_field {n n' tail tail' : ℕ} (hfield : beBytes 8 n = beBytes 8 n')
    (htail : tail = 1 ∨ tail = 34) (htail' : tail' = 1 ∨ tail' = 34)
    (htotal : n + tail = n' + tail') : n = n' := by
  have hvalue := congrArg beValue hfield
  rw [beValue_beBytes, beValue_beBytes] at hvalue
  omega

/-- The leaf of an asset holds all its fields. -/
theorem assetLeafValue_injective : Function.Injective TapAsset.assetLeafValue := by
  intro a a' h
  change _ ++ _ ++ _ ++ _ ++ _ ++ _ ++ _ ++ groupTail a.groupKey =
    _ ++ _ ++ _ ++ _ ++ _ ++ _ ++ _ ++ groupTail a'.groupKey at h
  simp only [List.append_assoc] at h
  obtain ⟨hversion, h⟩ := List.append_inj h rfl
  obtain ⟨htype, h⟩ := List.append_inj h rfl
  obtain ⟨hasset, h⟩ := List.append_inj h (by simp [FixedBytes.length_eq])
  obtain ⟨hfield, h⟩ := List.append_inj h (by simp)
  have hlength := congrArg List.length h
  simp only [List.length_append, u64Bytes_length, FixedBytes.length_eq] at hlength
  have htext := length_eq_of_field hfield (groupTail_length a.groupKey)
    (groupTail_length a'.groupKey) (by omega)
  obtain ⟨htext, h⟩ := List.append_inj h htext
  obtain ⟨hamount, h⟩ := List.append_inj h (by simp)
  obtain ⟨hkey, htail⟩ := List.append_inj h (by simp [FixedBytes.length_eq])
  obtain ⟨version, assetId, assetType, genesisOutpoint, amount, scriptKey, groupKey⟩ := a
  obtain ⟨version', assetId', assetType', genesisOutpoint', amount', scriptKey', groupKey'⟩ := a'
  obtain rfl : version = version' := asU8_injective (List.head_eq_of_cons_eq hversion)
  obtain rfl : assetType = assetType' := assetTypeAsU8_injective (List.head_eq_of_cons_eq htype)
  obtain rfl : assetId = assetId' := FixedBytes.ext hasset
  obtain rfl : genesisOutpoint = genesisOutpoint' := utf8_injective htext
  obtain rfl : amount = amount' := u64Bytes_inj.mp hamount
  obtain rfl : scriptKey = scriptKey' := FixedBytes.ext hkey
  obtain rfl : groupKey = groupKey' := groupTail_injective htail
  rfl

theorem tapLeafScriptOf_length (version : TapCommitmentVersion) (root : MssmtNode) :
    (tapLeafScriptOf version root).length = 73 := by
  cases version <;> simp [tapLeafScriptOf, FixedBytes.length_eq]

/-- Behind the version byte and the marker, in either order, the script holds the root. -/
theorem drop_tapLeafScriptOf (version : TapCommitmentVersion) (root : MssmtNode) :
    (tapLeafScriptOf version root).drop 33 = root.hash.bytes ++ u64Bytes root.sum := by
  cases version
  all_goals
    rw [tapLeafScriptOf, List.append_assoc]
    exact List.drop_left' (by simp [FixedBytes.length_eq])

theorem tapLeafScriptOf_root {version version' : TapCommitmentVersion} {root root' : MssmtNode}
    (h : tapLeafScriptOf version root = tapLeafScriptOf version' root') : root = root' := by
  have hroot := congrArg (List.drop 33) h
  rw [drop_tapLeafScriptOf, drop_tapLeafScriptOf] at hroot
  obtain ⟨hhash, hsum⟩ := List.append_inj hroot (by simp [FixedBytes.length_eq])
  cases root
  cases root'
  rw [MssmtNode.mk.injEq]
  exact ⟨FixedBytes.ext hhash, u64Bytes_inj.mp hsum⟩

theorem treeRoot_of_message {c c' : TapCommitment} (h : tapLeafMessage c = tapLeafMessage c') :
    c.treeRoot = c'.treeRoot := by
  unfold tapLeafMessage at h
  generalize (sha256 (utf8 "TapLeaf")).bytes = tagHash at h
  have hlen (c : TapCommitment) : c.tapLeafScript.length = 73 := tapLeafScriptOf_length _ _
  rw [hlen, hlen] at h
  exact tapLeafScriptOf_root (List.append_cancel_left (List.append_cancel_left h))

theorem mem_of_leaves {assets assets' : List TapAsset} {group group' : AssetCommitment}
    (h : GroupOf assets group) (h' : GroupOf assets' group')
    (hleaves : group.tree.leaves = group'.tree.leaves) {a : TapAsset} (ha : a ∈ assets) :
    a ∈ assets' := by
  have hget : group.tree.leaves[a.assetCommitmentKey]? = some a.assetLeaf := by
    rw [h.leaves.1, Std.ExtTreeMap.getElem?_map, h.get.mpr ⟨ha, rfl⟩]
    rfl
  rw [hleaves, h'.leaves.1, Std.ExtTreeMap.getElem?_map, Option.map_eq_some_iff] at hget
  obtain ⟨a', ha', hsame⟩ := hget
  rw [← assetLeafValue_injective (congrArg MssmtLeaf.value hsame)]
  exact (h'.get.mp ha').1

/-- Groups with the same leaf hold the same assets. -/
theorem groupAt_eq_of_leaf {assets assets' : List TapAsset} {key : Bytes32}
    {group group' : AssetCommitment} (h : GroupOf (groupAt assets key) group)
    (h' : GroupOf (groupAt assets' key) group')
    (hleaf : group.tapCommitmentLeaf = group'.tapCommitmentLeaf)
    (hfree : CollisionFree (groupPairs key (some group) (some group'))) (a : TapAsset) :
    a ∈ groupAt assets key ↔ a ∈ groupAt assets' key := by
  have hidentifier := identifier_of_leaf hleaf
  rw [h.identifier, h'.identifier, h.tapKey_eq, h'.tapKey_eq] at hidentifier
  have hmessage : identifierMessage key group.tree = identifierMessage key group'.tree :=
    eq_of_sha256 hfree (List.mem_cons_self ..) hidentifier
  have hroot := root_eq_of_identifier h.leaves.2.1 h'.leaves.2.1 hmessage
  have hleaves := leaves_eq (.fromLeaves h.tree) (.fromLeaves h'.tree) hroot fun p hp =>
    hfree p (List.mem_cons_of_mem _ hp)
  exact ⟨mem_of_leaves h h' hleaves, mem_of_leaves h' h hleaves.symm⟩

/-- Commitments whose trees have the same leaves are to the same assets. -/
theorem mem_iff_of_leaves {assets assets' : List TapAsset} {c c' : TapCommitment}
    (h : Commits assets c) (h' : Commits assets' c') (hleaves : c.tree.leaves = c'.tree.leaves)
    (hfree : ∀ key ∈ c.tree.leaves.keys,
      CollisionFree (groupPairs key c.commitments[key]? c'.commitments[key]?)) (a : TapAsset) :
    a ∈ assets ↔ a ∈ assets' := by
  have hsame (group group' : AssetCommitment)
      (hgroup : c.commitments[a.tapCommitmentKey]? = some group)
      (hgroup' : c'.commitments[a.tapCommitmentKey]? = some group')
      (hleaf : group.tapCommitmentLeaf = group'.tapCommitmentLeaf) : a ∈ assets ↔ a ∈ assets' := by
    have hkey : a.tapCommitmentKey ∈ c.tree.leaves.keys := by
      rw [h.leaves, Std.ExtTreeMap.keys_map, Std.ExtTreeMap.mem_keys,
        Std.ExtTreeMap.mem_iff_isSome_getElem?, hgroup]
      rfl
    have hpairs := hfree _ hkey
    rw [hgroup, hgroup'] at hpairs
    have hiff := groupAt_eq_of_leaf ((h.group _ _).mp hgroup) ((h'.group _ _).mp hgroup') hleaf
      hpairs a
    simpa [groupAt] using hiff
  have hmaps : (c.commitments[a.tapCommitmentKey]?).map (·.tapCommitmentLeaf) =
      (c'.commitments[a.tapCommitmentKey]?).map (·.tapCommitmentLeaf) := by
    have hget := congrArg (fun leaves => leaves[a.tapCommitmentKey]?) hleaves
    rw [h.leaves, h'.leaves] at hget
    simpa only [Std.ExtTreeMap.getElem?_map] using hget
  constructor
  · intro ha
    obtain ⟨group, hgroup⟩ := h.present a ha
    rw [hgroup, Option.map_some, eq_comm, Option.map_eq_some_iff] at hmaps
    obtain ⟨group', hgroup', hleaf⟩ := hmaps
    exact (hsame group group' hgroup hgroup' hleaf.symm).mp ha
  · intro ha
    obtain ⟨group', hgroup'⟩ := h'.present a ha
    rw [hgroup', Option.map_some, Option.map_eq_some_iff] at hmaps
    obtain ⟨group, hgroup, hleaf⟩ := hmaps
    exact (hsame group group' hgroup hgroup' hleaf).mpr ha

/-- No asset is committed to twice. -/
theorem nodup_of_commits {assets : List TapAsset} {c : TapCommitment} (h : Commits assets c) :
    assets.Nodup := by
  rw [List.nodup_iff_count_le_one]
  intro a
  by_cases ha : a ∈ assets
  · obtain ⟨group, hgroup⟩ := h.present a ha
    have hnodup := List.Nodup.of_map _ ((h.group _ _).mp hgroup).nodup
    have hcount := List.nodup_iff_count_le_one.mp hnodup a
    rwa [groupAt, List.count_filter (by simp)] at hcount
  · rw [List.count_eq_zero_of_not_mem ha]
    exact Nat.zero_le 1

/-- Lists of assets under one tapscript root are the same up to their order, or the messages
hashed for them hold a collision. -/
theorem tapscriptRoot_binds {version version' : Option TapCommitmentVersion}
    {assets assets' : List TapAsset} {c c' : TapCommitment} {root : Bytes32}
    (h : TapCommitment.fromAssets version assets = .ok c)
    (h' : TapCommitment.fromAssets version' assets' = .ok c')
    (hroot : c.tapscriptRoot none = .ok root) (hroot' : c'.tapscriptRoot none = .ok root) :
    assets.Perm assets' ∨ ∃ x y, bindingCollision c c' = some (x, y) ∧ Collision x y := by
  refine (collisionFree_or c c').imp_left fun hfree => ?_
  have hcommits := commits_of_ok h
  have hcommits' := commits_of_ok h'
  have hhash : sha256 (tapLeafMessage c) = sha256 (tapLeafMessage c') :=
    Except.ok.inj (hroot.trans hroot'.symm)
  have htree : c.tree.root = c'.tree.root := by
    rw [← hcommits.root, ← hcommits'.root]
    exact treeRoot_of_message (eq_of_sha256 hfree (List.mem_cons_self ..) hhash)
  have hleaves := leaves_eq hcommits.built hcommits'.built htree fun p hp =>
    hfree p (List.mem_cons_of_mem _ (List.mem_append_left _ hp))
  have hgroups : ∀ key ∈ c.tree.leaves.keys,
      CollisionFree (groupPairs key c.commitments[key]? c'.commitments[key]?) := by
    intro key hkey p hp
    refine hfree p (List.mem_cons_of_mem _ (List.mem_append_right _ ?_))
    exact List.mem_flatMap.mpr ⟨key, List.mem_append_left _ hkey, hp⟩
  exact (List.perm_ext_iff_of_nodup (nodup_of_commits hcommits) (nodup_of_commits hcommits')).mpr
    (mem_iff_of_leaves hcommits hcommits' hleaves hgroups)

/-- Two assets, committed to in both orders under the same root. -/
theorem tapscriptRoot_binds_pair : ∃ c root,
    TapCommitment.fromAssets (some .v0) [sampleTapAsset, otherTapAsset] = .ok c ∧
      TapCommitment.fromAssets (some .v0) [otherTapAsset, sampleTapAsset] = .ok c ∧
      c.tapscriptRoot none = .ok root ∧
      ([sampleTapAsset, otherTapAsset].Perm [otherTapAsset, sampleTapAsset] ∨
        ∃ x y, bindingCollision c c = some (x, y) ∧ Collision x y) := by
  obtain ⟨c, hc⟩ := pair_committed
  have hswapped := fromAssets_perm (.swap otherTapAsset sampleTapAsset []) hc
  exact ⟨c, _, hc, hswapped, rfl, tapscriptRoot_binds hc hswapped rfl rfl⟩

end TapLdk.TaprootBinding
