import Mathlib
import TapLdk.Asset

/-! Negotiation of an asset channel: the features each side advertises, the checks of the
program, and those of the Lightning library, which is a parameter. -/
namespace TapLdk.AssetChannelNegotiation
open TapLdk.LibraryExcept TapLdk.LibraryBytes TapLdk.Mssmt TapLdk.Asset

def simpleTaprootStagingRequiredFeatureBit : UInt16 := 180
def simpleTaprootStagingOptionalFeatureBit : UInt16 := simpleTaprootStagingRequiredFeatureBit + 1
def assetChannelRequiredFeatureBit : UInt16 := 150
def assetChannelOptionalFeatureBit : UInt16 := assetChannelRequiredFeatureBit + 1

inductive FeatureLevel where
  | required
  | optional
deriving DecidableEq

/-- The features that are set for the library, each at its level. -/
structure InitFeatures where
  staticRemoteKey : Option FeatureLevel := none
  channelType : Option FeatureLevel := none
  simpleTaprootStaging : Option FeatureLevel := none
  taprootAssetChannel : Option FeatureLevel := none
deriving DecidableEq

inductive TaprootAssetChannelNegotiationError where
  | missingLocalSimpleTaprootSupport
  | missingRemoteSimpleTaprootSupport
  | missingSimpleTaprootChannelType
  | missingLocalSupport
  | missingRemoteSupport
  | missingAssetChannelType
  | malformedChannelType
  | unsupportedChannelType
  | malformedAssetId
  | unsupportedProtocolVersion
deriving DecidableEq

/-- What negotiation uses of the library. -/
structure NegotiationFork where
  ChannelDescriptor : Type
  ChannelTypeFeatures : Type
  supportedProtocolVersion : UInt16
  newChannelDescriptor :
    Bytes32 → UInt16 → Except TaprootAssetChannelNegotiationError ChannelDescriptor
  negotiateSingleAssetChannel : InitFeatures → InitFeatures → ChannelDescriptor →
    Except TaprootAssetChannelNegotiationError ChannelTypeFeatures
  validateSingleAssetChannelOpen : InitFeatures → InitFeatures → ChannelTypeFeatures →
    ChannelDescriptor → Except TaprootAssetChannelNegotiationError Unit

structure AssetChannelFeatureSet where
  required : Bool
  optional : Bool
  protocolVersion : UInt16
deriving DecidableEq

inductive ChannelRequest where
  | btcOnly
  | singleAsset (assetId : Bytes32)
deriving DecidableEq

inductive NegotiatedChannelType where
  | btcOnly
  | singleAsset (assetId : Bytes32) (protocolVersion : UInt16)
deriving DecidableEq

def NegotiatedChannelType.isAssetChannel : NegotiatedChannelType → Bool
  | .singleAsset .. => true
  | .btcOnly => false

structure NegotiationInput where
  «local» : AssetChannelFeatureSet
  remote : AssetChannelFeatureSet
  request : ChannelRequest
deriving DecidableEq

structure NegotiationOutcome where
  channelType : NegotiatedChannelType
  localFeatureBits : List UInt16
  remoteFeatureBits : List UInt16
deriving DecidableEq

inductive NegotiationError where
  | unsupportedLocalProtocolVersion (version : UInt16)
  | unsupportedRemoteProtocolVersion (version : UInt16)
  | localFeatureMissing
  | remoteFeatureMissing
  | missingAssetId
  | prematureAssetMessage
  | missingSimpleTaprootBase
  | missingAssetChannelType
  | malformedAssetChannelType
  | unsupportedAssetChannelType
deriving DecidableEq

namespace AssetChannelFeatureSet

def disabled (fork : NegotiationFork) : AssetChannelFeatureSet :=
  ⟨false, false, fork.supportedProtocolVersion⟩

def advertiseOptional (fork : NegotiationFork) : AssetChannelFeatureSet :=
  ⟨false, true, fork.supportedProtocolVersion⟩

def require (fork : NegotiationFork) : AssetChannelFeatureSet :=
  ⟨true, false, fork.supportedProtocolVersion⟩

def supportsAssetChannels (set : AssetChannelFeatureSet) : Bool := set.required || set.optional

def featureBits (set : AssetChannelFeatureSet) : List UInt16 :=
  if set.required then [simpleTaprootStagingRequiredFeatureBit, assetChannelRequiredFeatureBit]
  else if set.optional then
    [simpleTaprootStagingOptionalFeatureBit, assetChannelOptionalFeatureBit]
  else []

def toLdkInitFeatures (set : AssetChannelFeatureSet) : InitFeatures :=
  let features : InitFeatures :=
    { staticRemoteKey := some .optional, channelType := some .optional }
  if set.required then
    { features with
      simpleTaprootStaging := some .required, taprootAssetChannel := some .required }
  else if set.optional then
    { features with
      simpleTaprootStaging := some .optional, taprootAssetChannel := some .optional }
  else features

end AssetChannelFeatureSet

def mapLdkNegotiationError (fork : NegotiationFork) :
    TaprootAssetChannelNegotiationError → NegotiationError
  | .missingLocalSimpleTaprootSupport | .missingRemoteSimpleTaprootSupport
  | .missingSimpleTaprootChannelType => .missingSimpleTaprootBase
  | .missingLocalSupport => .localFeatureMissing
  | .missingRemoteSupport => .remoteFeatureMissing
  | .missingAssetChannelType => .missingAssetChannelType
  | .malformedChannelType => .malformedAssetChannelType
  | .unsupportedChannelType => .unsupportedAssetChannelType
  | .malformedAssetId => .missingAssetId
  | .unsupportedProtocolVersion =>
    .unsupportedLocalProtocolVersion fork.supportedProtocolVersion

def negotiateChannel (fork : NegotiationFork) (input : NegotiationInput) :
    Except NegotiationError NegotiationOutcome := do
  rejectIf (input.local.protocolVersion ≠ fork.supportedProtocolVersion)
    (.unsupportedLocalProtocolVersion input.local.protocolVersion)
  rejectIf (input.remote.protocolVersion ≠ fork.supportedProtocolVersion)
    (.unsupportedRemoteProtocolVersion input.remote.protocolVersion)
  match input.request with
  | .btcOnly => pure ⟨.btcOnly, input.local.featureBits, input.remote.featureBits⟩
  | .singleAsset assetId => do
    rejectIf (assetId = FixedBytes.zero 32) .missingAssetId
    rejectIf (¬ input.local.supportsAssetChannels) .localFeatureMissing
    rejectIf (¬ input.remote.supportsAssetChannels) .remoteFeatureMissing
    let localFeatures := input.local.toLdkInitFeatures
    let remoteFeatures := input.remote.toLdkInitFeatures
    let descriptor ← (fork.newChannelDescriptor assetId fork.supportedProtocolVersion).mapError
      (mapLdkNegotiationError fork)
    let channelType ← (fork.negotiateSingleAssetChannel localFeatures remoteFeatures
      descriptor).mapError (mapLdkNegotiationError fork)
    (fork.validateSingleAssetChannelOpen localFeatures remoteFeatures channelType
      descriptor).mapError (mapLdkNegotiationError fork)
    pure ⟨.singleAsset assetId fork.supportedProtocolVersion, input.local.featureBits,
      input.remote.featureBits⟩

def requireAssetMessageAllowed (channelType : NegotiatedChannelType) :
    Except NegotiationError Unit :=
  rejectIf (¬ channelType.isAssetChannel) .prematureAssetMessage

/-- The library agrees to a channel between two sets of features. -/
def ForkAgrees (fork : NegotiationFork) (assetId : Bytes32)
    (ours theirs : AssetChannelFeatureSet) : Prop :=
  ∃ descriptor channelType,
    fork.newChannelDescriptor assetId fork.supportedProtocolVersion = .ok descriptor ∧
      fork.negotiateSingleAssetChannel ours.toLdkInitFeatures theirs.toLdkInitFeatures
        descriptor = .ok channelType ∧
      fork.validateSingleAssetChannelOpen ours.toLdkInitFeatures theirs.toLdkInitFeatures
        channelType descriptor = .ok ()

/-- A single-asset channel is negotiated exactly between two sides that support it, on the
version of the library, with its agreement. -/
theorem negotiateChannel_singleAsset {fork : NegotiationFork} {assetId : Bytes32}
    {ours theirs : AssetChannelFeatureSet} {outcome : NegotiationOutcome} :
    negotiateChannel fork ⟨ours, theirs, .singleAsset assetId⟩ = .ok outcome ↔
      ours.protocolVersion = fork.supportedProtocolVersion ∧
        theirs.protocolVersion = fork.supportedProtocolVersion ∧ assetId ≠ FixedBytes.zero 32 ∧
        ours.supportsAssetChannels ∧ theirs.supportsAssetChannels ∧
        ForkAgrees fork assetId ours theirs ∧
        outcome = ⟨.singleAsset assetId fork.supportedProtocolVersion, ours.featureBits,
          theirs.featureBits⟩ := by
  simp only [negotiateChannel, rejectIf_eq_ok, bind_eq_ok, mapError_eq_ok,
    pure_eq_ok, Except.ok.injEq, ne_eq, not_not, ForkAgrees, exists_const]
  constructor
  · rintro ⟨hours, htheirs, hzero, hsupport, hsupport', descriptor, hdescriptor, channelType, htype,
      _, hopen, rfl⟩
    exact ⟨hours, htheirs, hzero, hsupport, hsupport', ⟨descriptor, channelType, hdescriptor, htype,
      hopen⟩, rfl⟩
  · rintro ⟨hours, htheirs, hzero, hsupport, hsupport', ⟨descriptor, channelType, hdescriptor, htype,
      hopen⟩, rfl⟩
    exact ⟨hours, htheirs, hzero, hsupport, hsupport', descriptor, hdescriptor, channelType, htype,
      (), hopen, rfl⟩

end TapLdk.AssetChannelNegotiation
