import Mathlib
import TapLdk.Asset

/-! Taproot Asset commitments: the assets of one output gathered into a tree for each asset
group and a tree of groups, and the tapscript leaf that commits to them. -/
namespace TapLdk.TaprootCommitment
open TapLdk.LibraryExcept TapLdk.LibraryMaps TapLdk.LibraryBytes TapLdk.LibrarySha256
open TapLdk.Mssmt TapLdk.Asset

inductive AssetVersion where
  | v0
  | v1
deriving DecidableEq

def AssetVersion.asU8 : AssetVersion → UInt8
  | .v0 => 0
  | .v1 => 1

/-- The later of two versions. -/
def AssetVersion.max (a b : AssetVersion) : AssetVersion := if a.asU8 < b.asU8 then b else a

inductive TapCommitmentVersion where
  | v0
  | v1
  | v2
deriving DecidableEq

def TapCommitmentVersion.asU8 : TapCommitmentVersion → UInt8
  | .v0 => 0
  | .v1 => 1
  | .v2 => 2

structure TapAsset where
  version : AssetVersion
  assetId : Bytes32
  assetType : AssetType
  genesisOutpoint : String
  amount : AssetAmount
  scriptKey : CompressedKey
  groupKey : Option CompressedKey
deriving DecidableEq

inductive TaprootCommitmentError where
  | asset (error : AssetError)
  | mssmt (error : MssmtError)
  | noAssets
  | tapKeyMismatch
  | assetTypeMismatch
  | duplicateAssetCommitmentKey (key : Bytes32)
  | duplicateTapCommitmentKey (key : Bytes32)
  | invalidTapLeafScript
  | duplicateTaprootSibling
  | outputCommitmentMismatch (expected actual : Bytes32)
deriving DecidableEq

def xOnlyKey (key : CompressedKey) : Bytes := key.bytes.drop 1

namespace TapAsset

def tapCommitmentKey (asset : TapAsset) : Bytes32 :=
  match asset.groupKey with
  | some groupKey => sha256 (xOnlyKey groupKey)
  | none => asset.assetId

def assetCommitmentKey (asset : TapAsset) : Bytes32 :=
  match asset.groupKey with
  | some _ => sha256 (asset.assetId.bytes ++ xOnlyKey asset.scriptKey)
  | none => sha256 (xOnlyKey asset.scriptKey)

def assetLeafValue (asset : TapAsset) : Bytes :=
  [asset.version.asU8] ++ [asset.assetType.asU8] ++ asset.assetId.bytes ++
    beBytes 8 (utf8 asset.genesisOutpoint).length ++ utf8 asset.genesisOutpoint ++
    u64Bytes asset.amount ++ asset.scriptKey.bytes ++
    match asset.groupKey with
    | some groupKey => 1 :: groupKey.bytes
    | none => [0]

def assetLeaf (asset : TapAsset) : MssmtLeaf := ⟨asset.assetLeafValue, asset.amount⟩

end TapAsset

structure AssetCommitment where
  version : AssetVersion
  tapKey : Bytes32
  assetType : AssetType
  treeRoot : MssmtNode
  rootIdentifier : Bytes32
  assets : BTreeMap Bytes32 TapAsset
  tree : MssmtTree

def assetCommitmentRootIdentifier (tapKey : Bytes32) (tree : MssmtTree) : Bytes32 :=
  let (left, right) := tree.rootChildren
  sha256 (tapKey.bytes ++ left.hash.bytes ++ right.hash.bytes ++ u64Bytes tree.root.sum)

/-- What the loop over the assets of a group has collected. -/
structure AssetGroup where
  version : AssetVersion
  assets : BTreeMap Bytes32 TapAsset
  leaves : List (Bytes32 × MssmtLeaf)

def addAsset (tapKey : Bytes32) (assetType : AssetType) (group : AssetGroup) (asset : TapAsset) :
    Except TaprootCommitmentError AssetGroup := do
  rejectIf (asset.tapCommitmentKey ≠ tapKey) .tapKeyMismatch
  rejectIf (asset.assetType ≠ assetType) .assetTypeMismatch
  let key := asset.assetCommitmentKey
  rejectIf (group.assets[key]?).isSome (.duplicateAssetCommitmentKey key)
  pure ⟨group.version.max asset.version, group.assets.insert key asset,
    group.leaves ++ [(key, asset.assetLeaf)]⟩

namespace AssetCommitment

def new (assets : List TapAsset) : Except TaprootCommitmentError AssetCommitment := do
  let first ← okOr assets.head? .noAssets
  let tapKey := first.tapCommitmentKey
  let group ← assets.foldlM (addAsset tapKey first.assetType) ⟨first.version, ∅, []⟩
  let tree ← (MssmtTree.fromLeaves group.leaves).mapError .mssmt
  pure ⟨group.version, tapKey, first.assetType, tree.root,
    assetCommitmentRootIdentifier tapKey tree, group.assets, tree⟩

def tapCommitmentLeaf (commitment : AssetCommitment) : MssmtLeaf :=
  ⟨[commitment.version.asU8] ++ commitment.rootIdentifier.bytes ++
    u64Bytes commitment.treeRoot.sum, commitment.treeRoot.sum⟩

end AssetCommitment

structure TapCommitment where
  version : TapCommitmentVersion
  treeRoot : MssmtNode
  commitments : BTreeMap Bytes32 AssetCommitment
  tree : MssmtTree

def addCommitment (acc : BTreeMap Bytes32 AssetCommitment × List (Bytes32 × MssmtLeaf))
    (commitment : AssetCommitment) : Except TaprootCommitmentError
      (BTreeMap Bytes32 AssetCommitment × List (Bytes32 × MssmtLeaf)) := do
  let key := commitment.tapKey
  rejectIf (acc.1[key]?).isSome (.duplicateTapCommitmentKey key)
  pure (acc.1.insert key commitment, acc.2 ++ [(key, commitment.tapCommitmentLeaf)])

/-- The version a commitment gets when none is asked for. -/
def impliedVersion (commitments : List AssetCommitment) : TapCommitmentVersion :=
  if commitments.any (·.version == .v1) then .v1 else .v0

def taggedHashBip341 (tag : String) (msg : Bytes) : Bytes32 :=
  let tagHash := (sha256 (utf8 tag)).bytes
  sha256 (tagHash ++ tagHash ++ msg)

def pushCompactSize (value : ℕ) : Bytes :=
  if value < 253 then [UInt8.ofNat value]
  else if value < 2 ^ 16 then 253 :: (beBytes 2 value).reverse
  else if value < 2 ^ 32 then 254 :: (beBytes 4 value).reverse
  else 255 :: (beBytes 8 value).reverse

def tapLeafScriptOf (version : TapCommitmentVersion) (root : MssmtNode) : Bytes :=
  match version with
  | .v0 | .v1 => [version.asU8] ++ (sha256 (utf8 "taproot-assets")).bytes ++ root.hash.bytes ++
    u64Bytes root.sum
  | .v2 => (sha256 (utf8 "taproot-assets:194243")).bytes ++ [version.asU8] ++ root.hash.bytes ++
    u64Bytes root.sum

def tapLeafHashOf (script : Bytes) : Bytes32 :=
  taggedHashBip341 "TapLeaf" ([0xc0] ++ pushCompactSize script.length ++ script)

def tapBranchHash (a b : Bytes32) : Bytes32 :=
  let (left, right) := if (compare a b).isLE then (a, b) else (b, a)
  taggedHashBip341 "TapBranch" (left.bytes ++ right.bytes)

namespace TapCommitment

def new (version : Option TapCommitmentVersion) (commitments : List AssetCommitment) :
    Except TaprootCommitmentError TapCommitment := do
  let (commitmentMap, leaves) ← commitments.foldlM addCommitment (∅, [])
  let tree ← (MssmtTree.fromLeaves leaves).mapError .mssmt
  pure ⟨version.getD (impliedVersion commitments), tree.root, commitmentMap, tree⟩

def groupAssets (assets : List TapAsset) : BTreeMap Bytes32 (List TapAsset) :=
  assets.foldl (fun groups asset => groups.insert asset.tapCommitmentKey
    ((groups[asset.tapCommitmentKey]?).getD [] ++ [asset])) ∅

def fromAssets (version : Option TapCommitmentVersion) (assets : List TapAsset) :
    Except TaprootCommitmentError TapCommitment := do
  let commitments ← ((groupAssets assets).toList.map (·.2)).mapM AssetCommitment.new
  new version commitments

def tapLeafScript (commitment : TapCommitment) : Bytes :=
  tapLeafScriptOf commitment.version commitment.treeRoot

def tapLeafHash (commitment : TapCommitment) : Bytes32 := tapLeafHashOf commitment.tapLeafScript

def tapscriptRoot (commitment : TapCommitment) (sibling : Option Bytes32) :
    Except TaprootCommitmentError Bytes32 :=
  let leafHash := commitment.tapLeafHash
  match sibling with
  | some sibling =>
    if sibling = leafHash then .error .duplicateTaprootSibling
    else .ok (tapBranchHash leafHash sibling)
  | none => .ok leafHash

end TapCommitment

/-- The group of one asset, over the tree of its leaf. -/
def soleGroup (asset : TapAsset) (tree : MssmtTree) : AssetCommitment :=
  ⟨asset.version.max asset.version, asset.tapCommitmentKey, asset.assetType, tree.root,
    assetCommitmentRootIdentifier asset.tapCommitmentKey tree,
    (∅ : BTreeMap _ _).insert asset.assetCommitmentKey asset, tree⟩

/-- One asset with a positive amount is committed to by a tree of its group, over a tree of it. -/
theorem fromAssets_sole {asset : TapAsset} (version : TapCommitmentVersion) (h : asset.amount ≠ 0) :
    ∃ tree top, MssmtTree.fromLeaves [(asset.assetCommitmentKey, asset.assetLeaf)] = .ok tree ∧
      tree.root.sum = asset.amount ∧
      top.root = pathRoot asset.tapCommitmentKey maxTreeLevels
        (soleGroup asset tree).tapCommitmentLeaf.node MssmtLeaf.empty.node ∧
      TapCommitment.fromAssets (some version) [asset] = .ok ⟨version, top.root,
        (∅ : BTreeMap _ _).insert asset.tapCommitmentKey (soleGroup asset tree), top⟩ := by
  have hleaf : asset.assetLeaf.sum ≠ 0 := h
  obtain ⟨tree, htree, hroot⟩ := fromLeaves_single asset.assetCommitmentKey hleaf
  have hsum : tree.root.sum = asset.amount := by
    rw [hroot, pathRoot_sum]
    rfl
  have hgroup : AssetCommitment.new [asset] = .ok (soleGroup asset tree) := by
    simp [AssetCommitment.new, okOr, addAsset, rejectIf, htree, Except.mapError, soleGroup]
  have hgroupLeaf : (soleGroup asset tree).tapCommitmentLeaf.sum ≠ 0 := by
    rw [AssetCommitment.tapCommitmentLeaf, soleGroup, hsum]
    exact h
  obtain ⟨top, htop, htopRoot⟩ := fromLeaves_single asset.tapCommitmentKey hgroupLeaf
  have hkey : (soleGroup asset tree).tapKey = asset.tapCommitmentKey := rfl
  have hgroups : (TapCommitment.groupAssets [asset]).toList.map (·.2) = [[asset]] := by
    simp [TapCommitment.groupAssets]
  refine ⟨tree, top, htree, hsum, htopRoot, ?_⟩
  simp [TapCommitment.fromAssets, hgroups, hgroup, TapCommitment.new, addCommitment, rejectIf,
    hkey, htop, Except.mapError]

/-- One asset with a positive amount can be committed to, under a root that sums to it. -/
theorem fromAssets_single {asset : TapAsset} (version : TapCommitmentVersion)
    (h : asset.amount ≠ 0) :
    ∃ commitment, TapCommitment.fromAssets (some version) [asset] = .ok commitment ∧
      commitment.treeRoot.sum = asset.amount := by
  obtain ⟨tree, top, -, hsum, htop, hcommitment⟩ := fromAssets_sole version h
  refine ⟨_, hcommitment, ?_⟩
  have htopSum : top.root.sum = (soleGroup asset tree).treeRoot.sum := by
    rw [htop, pathRoot_sum]
    rfl
  exact htopSum.trans hsum

end TapLdk.TaprootCommitment
