import Mathlib
import TapLdk.MssmtProofs
import TapLdk.TaprootGroups

/-! Proofs of a Taproot Asset commitment: an asset is proved in the tree of its group, and the
group's leaf in the tree of groups, whatever the order in which the assets were given. -/
namespace TapLdk.TaprootProofs
open TapLdk.LibraryExcept TapLdk.LibraryMaps TapLdk.LibraryBytes TapLdk.Mssmt TapLdk.MssmtNaive
open TapLdk.MssmtOperations TapLdk.MssmtProofs TapLdk.Asset TapLdk.TaprootCommitment
open TapLdk.TaprootGroups

/-- An asset of a group, if there is one under the key, and the proof for the key. -/
def assetProof (commitment : AssetCommitment) (key : Bytes32) : Option TapAsset × MssmtProof :=
  (commitment.assets[key]?, proof commitment.tree key)

def commitment (c : TapCommitment) (tapKey : Bytes32) : Option AssetCommitment :=
  c.commitments[tapKey]?

def tapCommitmentProof (c : TapCommitment) (tapKey : Bytes32) : MssmtProof := proof c.tree tapKey

/-- The proof of a stored leaf verifies against the root. -/
theorem verify_stored {tree : MssmtTree} (h : Rebuilt tree) {key : Bytes32} {leaf : MssmtLeaf}
    (hget : tree.leaves[key]? = some leaf) :
    (proof tree key).verify key leaf tree.root = .ok true := by
  have hroot := rootFor_proof h key
  rw [leafAt, MssmtTree.get, hget, Option.getD_some] at hroot
  rw [MssmtProof.verify, hroot]
  simp

/-- Both proofs of an asset, up to the root of all groups. -/
structure Proved (c : TapCommitment) (asset : TapAsset) (group : AssetCommitment) : Prop where
  stored : commitment c asset.tapCommitmentKey = some group
  listed : (assetProof group asset.assetCommitmentKey).1 = some asset
  assetLevel : (assetProof group asset.assetCommitmentKey).2.verify asset.assetCommitmentKey
    asset.assetLeaf group.treeRoot = .ok true
  tapLevel : (tapCommitmentProof c asset.tapCommitmentKey).verify asset.tapCommitmentKey
    group.tapCommitmentLeaf c.treeRoot = .ok true

theorem proved_of_commits {assets : List TapAsset} {c : TapCommitment} (h : Commits assets c)
    {asset : TapAsset} (hmem : asset ∈ assets) : ∃ group, Proved c asset group := by
  obtain ⟨group, hgroup⟩ := h.present asset hmem
  have hof := (h.group _ _).mp hgroup
  obtain ⟨hleaves, hre, -⟩ := hof.leaves
  have hasset : group.assets[asset.assetCommitmentKey]? = some asset :=
    hof.get.mpr ⟨by simp [groupAt, hmem], rfl⟩
  have hleaf : group.tree.leaves[asset.assetCommitmentKey]? = some asset.assetLeaf := by
    rw [hleaves, Std.ExtTreeMap.getElem?_map, hasset]
    rfl
  have htop : c.tree.leaves[asset.tapCommitmentKey]? = some group.tapCommitmentLeaf := by
    rw [h.leaves, Std.ExtTreeMap.getElem?_map, hgroup]
    rfl
  refine ⟨group, hgroup, hasset, ?_, ?_⟩
  · rw [hof.root]
    exact verify_stored hre hleaf
  · rw [h.root]
    exact verify_stored (built_spec h.built).1 htop

/-- A commitment depends on its assets only, not on their order; its root sums up their
amounts; and it proves each of them, in its group and under the root. -/
theorem fromAssets_complete {version : Option TapCommitmentVersion} {assets : List TapAsset}
    {c : TapCommitment} (h : TapCommitment.fromAssets version assets = .ok c) :
    (∀ assets', assets.Perm assets' → TapCommitment.fromAssets version assets' = .ok c) ∧
      c.treeRoot.sum.toNat = (assets.map fun a => a.amount.toNat).sum ∧
      ∀ asset ∈ assets, ∃ group, Proved c asset group := by
  have hcommits := commits_of_ok h
  exact ⟨fun assets' hp => fromAssets_perm hp h, hcommits.sum,
    fun asset hmem => proved_of_commits hcommits hmem⟩

/-- Five units of an asset without a group key. -/
def sampleTapAsset : TapAsset :=
  { version := .v0
    assetId := .replicate 32 42
    assetType := .normal
    genesisOutpoint := "9673b7a0ff70658b94b29c7719af53ba52fe624c330f1db166a221898f343a7d:0"
    amount := 5
    scriptKey := ⟨2 :: List.replicate 32 7, rfl⟩
    groupKey := none }

/-- Sixteen units of another asset. -/
def otherTapAsset : TapAsset := { sampleTapAsset with assetId := .replicate 32 43, amount := 16 }

theorem pair_committed : ∃ c,
    TapCommitment.fromAssets (some .v0) [sampleTapAsset, otherTapAsset] = .ok c := by
  have hkeys : sampleTapAsset.assetId ≠ otherTapAsset.assetId := by decide
  apply fromAssets_distinct
  · simpa [TapAsset.tapCommitmentKey, sampleTapAsset, otherTapAsset] using hkeys
  · decide

/-- Both orders of the two assets have one commitment, to twenty-one units. -/
theorem fromAssets_complete_pair : ∃ c,
    TapCommitment.fromAssets (some .v0) [sampleTapAsset, otherTapAsset] = .ok c ∧
      TapCommitment.fromAssets (some .v0) [otherTapAsset, sampleTapAsset] = .ok c ∧
      c.treeRoot.sum.toNat = 21 ∧
      (∃ group, Proved c sampleTapAsset group) ∧ ∃ group, Proved c otherTapAsset group := by
  obtain ⟨c, hc⟩ := pair_committed
  obtain ⟨hperm, hsum, hproved⟩ := fromAssets_complete hc
  exact ⟨c, hc, hperm _ (.swap ..), hsum, hproved _ (by simp), hproved _ (by simp)⟩

end TapLdk.TaprootProofs
