import Mathlib
import TapLdk.ChannelFundingSpec

/-! The root that the funding output of the regtest channel commits to, hashed level by level:
the tree of its only asset, and the tree of its only group. -/
namespace TapLdk.RegtestRoot
open TapLdk.LibraryExcept TapLdk.LibraryBytes TapLdk.LibrarySha256 TapLdk.Mssmt TapLdk.Proof
open TapLdk.TaprootCommitment TapLdk.ChannelFunding

/-- What the funding output of the channel commits to. -/
def fundingAsset : TapAsset :=
  ⟨.v1, regtestAsset, .normal, regtestGenesis, 2000000, regtestKey, none⟩

def fundingAssetKey : Bytes32 :=
  ⟨beBytes 32 0x91e44dfb91766cc497745eeb2f10b45469f16198343e86edc57d2c6bb0a29abb, beBytes_length ..⟩

def asset192 : MssmtNode :=
  nodeOf 0xb15d78b6aed6132352ab5c3b975242169c72b7adbec20d6669b1c2075a70a40c 2000000
def asset128 : MssmtNode :=
  nodeOf 0x802a13cecb787559175a932133e20aff18958d5a406e88ec7d611a1aa7549468 2000000
def asset64 : MssmtNode :=
  nodeOf 0x47c2b002992b537802a1b79d06be3f9746f6f68424e1e81a15409378c6367e39 2000000
def asset1 : MssmtNode :=
  nodeOf 0x9c105ed7a7d63a27aeef7f86f09b1ad639c8eb1c27238725463cac28b250a049 2000000
def empty1 : MssmtNode :=
  nodeOf 0x5a9d70bc8ac90cab6a114615f3d43a6d64c53e8a6279963a496fd3ee910a8c76 0

theorem assetClimb : climbs fundingAssetKey 1 255 (fundingAsset.assetLeaf.node, MssmtLeaf.empty.node) =
    (asset1, empty1) := by
  have h192 : climbs fundingAssetKey 192 64 (fundingAsset.assetLeaf.node, MssmtLeaf.empty.node) =
      (asset192, empty192) := climbs_of_leaf (by decide +kernel)
  have h128 : climbs fundingAssetKey 128 64 (asset192, empty192) = (asset128, empty128) :=
    climbs_of_number (by decide +kernel)
  have h64 : climbs fundingAssetKey 64 64 (asset128, empty128) = (asset64, empty64) :=
    climbs_of_number (by decide +kernel)
  have h1 : climbs fundingAssetKey 1 63 (asset64, empty64) = (asset1, empty1) :=
    climbs_of_number (by decide +kernel)
  rw [show 255 = 63 + (64 + (64 + 64)) from rfl, climbs_add, climbs_add, climbs_add, h192, h128, h64, h1]

def fundingIdentifier : Bytes32 :=
  ⟨beBytes 32 0x9a921b65e3f050912f5d0499a349d20e12c657c49f80228aedb3d3d77a098f18, beBytes_length ..⟩

/-- The leaf of the only group. -/
def groupLeaf : MssmtLeaf := ⟨[1] ++ fundingIdentifier.bytes ++ u64Bytes 2000000, 2000000⟩

def group192 : MssmtNode :=
  nodeOf 0x7bfc984f677162c662edfc962ad2f9488214d5f0cb6c96bd7ead1d098ab2ae73 2000000
def group128 : MssmtNode :=
  nodeOf 0x8d2ec282007c6f83ea369244f88d21fcd74db13c8c96dfd3e61f48dec6b50274 2000000
def group64 : MssmtNode :=
  nodeOf 0x9bd3b8307efbf0f318b38e84041f888359fa0f9f03351b482bc91b1aff503780 2000000
def group0 : MssmtNode :=
  nodeOf 0x56940d46d95207e1bc32a2505afb4ef9b0712de70aff00813e458f5907c00284 2000000

theorem groupPath : pathRoot regtestAsset maxTreeLevels groupLeaf.node MssmtLeaf.empty.node = group0 := by
  have h192 : climbs regtestAsset 192 64 (groupLeaf.node, MssmtLeaf.empty.node) =
      (group192, empty192) := climbs_of_leaf (by decide +kernel)
  have h128 : climbs regtestAsset 128 64 (group192, empty192) = (group128, empty128) :=
    climbs_of_number (by decide +kernel)
  have h64 : climbs regtestAsset 64 64 (group128, empty128) = (group64, empty64) :=
    climbs_of_number (by decide +kernel)
  have h0 : climbs regtestAsset 0 64 (group64, empty64) = (group0, empty0) :=
    climbs_of_number (by decide +kernel)
  calc pathRoot regtestAsset maxTreeLevels groupLeaf.node MssmtLeaf.empty.node
      = pathRoot regtestAsset 192 group192 empty192 := pathRoot_of_climbs rfl h192
    _ = pathRoot regtestAsset 128 group128 empty128 := pathRoot_of_climbs rfl h128
    _ = pathRoot regtestAsset 64 group64 empty64 := pathRoot_of_climbs rfl h64
    _ = pathRoot regtestAsset 0 group0 empty0 := pathRoot_of_climbs rfl h0
    _ = group0 := pathRoot.eq_1 ..

theorem fundingAssetKey_eq : fundingAsset.assetCommitmentKey = fundingAssetKey := by decide +kernel

theorem fundingIdentifier_eq : sha256 (regtestAsset.bytes ++ empty1.hash.bytes ++ asset1.hash.bytes ++
    u64Bytes 2000000) = fundingIdentifier := by
  decide +kernel

/-- The root that the funding output of the channel commits to. -/
theorem fundingRoot_eq {commitment : TapCommitment}
    (h : fundingTapCommitment regtestAsset regtestGenesis regtestKey 2000000 = .ok commitment) :
    commitmentRoot commitment = ⟨group0.hash, 2000000⟩ := by
  have hamount : fundingAsset.amount ≠ 0 := by decide
  obtain ⟨tree, top, htree, hsum, htop, hcommitment⟩ := fromAssets_sole .v2 hamount
  rw [fundingTapCommitment, mapError_eq_ok] at h
  obtain rfl := Except.ok.inj (hcommitment.symm.trans h)
  have hchildren : tree.rootChildren = (empty1, asset1) := by
    rw [fundingAssetKey_eq] at htree
    have hright : prefixKey fundingAssetKey 1 = ⟨1 :: List.replicate 31 0, rfl⟩ := by decide +kernel
    rw [rootChildren_single fundingAssetKey hamount htree hright, assetClimb]
  have hidentifier : assetCommitmentRootIdentifier fundingAsset.tapCommitmentKey tree =
      fundingIdentifier := by
    rw [assetCommitmentRootIdentifier, hchildren, hsum]
    exact fundingIdentifier_eq
  have hleaf : (soleGroup fundingAsset tree).tapCommitmentLeaf = groupLeaf := by
    rw [AssetCommitment.tapCommitmentLeaf, soleGroup, hidentifier, hsum]
    rfl
  have htapKey : fundingAsset.tapCommitmentKey = regtestAsset := rfl
  rw [hleaf, htapKey, groupPath] at htop
  rw [commitmentRoot, htop]
  rfl

end TapLdk.RegtestRoot
