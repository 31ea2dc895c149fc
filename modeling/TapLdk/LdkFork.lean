import Mathlib
import TapLdk.Asset

/-! The Lightning library the program is linked against: its types and checks are
parameters, its requests and expectations are the data the program hands to them. -/
namespace TapLdk.LdkFork
open TapLdk.LibraryExcept TapLdk.LibraryBytes TapLdk.LibrarySha256 TapLdk.Mssmt TapLdk.Asset

/-- An error of the library, known by its debug text alone. -/
abbrev LdkError := String

inductive TaprootAssetMonitorAuxBlobError where
  | missingAssetBlob
  | blobDigestMismatch
  | other (text : String)
deriving DecidableEq

structure LdkOutPoint where
  txid : Bytes32
  index : UInt16
deriving DecidableEq

structure TaprootAssetFundingProofMaterial where
  assetId : Bytes32
  genesisId : Bytes32
  groupKey : Option CompressedKey
  proofRootHash : Bytes32
  proofRootSum : UInt64
  completeFragmentCount : UInt16
  expectedFragmentCount : UInt16
deriving DecidableEq

structure TaprootAssetFundingOutput where
  outpoint : LdkOutPoint
  assetId : Bytes32
  taprootAssetRootHash : Bytes32
  taprootAssetRootSum : UInt64
  outputCommitment : Bytes32
deriving DecidableEq

structure TaprootAssetFundingExpectations where
  assetId : Bytes32
  genesisId : Bytes32
  groupKey : Option CompressedKey
  proofRootHash : Bytes32
  outputCommitment : Bytes32
  totalAmount : UInt64
deriving DecidableEq

structure TaprootAssetFundingAllocation where
  localAmount : UInt64
  remoteAmount : UInt64
deriving DecidableEq

structure LdkTaprootAssetFundingRequest (ChannelDescriptor PublicKey : Type) where
  pendingChannelId : Bytes32
  descriptor : ChannelDescriptor
  fundingOutpoint : LdkOutPoint
  localPeerId : PublicKey
  remotePeerId : PublicKey
  proofMaterial : TaprootAssetFundingProofMaterial
  fundingOutput : TaprootAssetFundingOutput
  expectations : TaprootAssetFundingExpectations
  allocation : TaprootAssetFundingAllocation

/-- The fields a monitor blob is built from. -/
structure TaprootAssetMonitorAuxBlobFields where
  channelId : Bytes32
  assetId : Bytes32
  commitmentNumber : UInt64
  localBalance : UInt64
  remoteBalance : UInt64
  stateDigest : Bytes32
  proofRootHash : Bytes32
  proofRootSum : UInt64
  nonceDigest : Bytes32
  signatureDigest : Bytes32
deriving DecidableEq

structure TaprootAssetMonitorAuxBlobExpectation where
  channelId : Bytes32
  assetId : Bytes32
  commitmentNumber : UInt64
  localBalance : UInt64
  remoteBalance : UInt64
  stateDigest : Bytes32
  proofRootHash : Bytes32
  proofRootSum : UInt64
deriving DecidableEq

structure TaprootAssetHtlcMetadataExpectation where
  assetId : Bytes32
  assetAmount : UInt64
  proofRootHash : Bytes32
  proofRootSum : UInt64
  quoteId : Bytes32
  paymentHash : Bytes32
  quoteAccepted : Bool
  nowUnixSeconds : UInt64
  quoteExpiryUnixSeconds : UInt64
deriving DecidableEq

/-- What the program uses of the library. -/
structure Ldk where
  PublicKey : Type
  ChannelDescriptor : Type
  MonitorAuxBlob : Type
  MonitorUpdate : Type
  HtlcMetadata : Type
  supportedProtocolVersion : UInt16
  /-- The public key of a secret, which fails outside the range of secrets. -/
  publicKeyOf : Bytes32 → Option PublicKey
  newChannelDescriptor : Bytes32 → UInt16 → Except LdkError ChannelDescriptor
  validateAssetChannelFunding :
    LdkTaprootAssetFundingRequest ChannelDescriptor PublicKey → Except LdkError Unit
  newMonitorAuxBlob :
    TaprootAssetMonitorAuxBlobFields → Except TaprootAssetMonitorAuxBlobError MonitorAuxBlob
  blobDigest : MonitorAuxBlob → Bytes32
  taprootAssetAuxUpdate :
    UInt64 → Bytes32 → MonitorAuxBlob → Except TaprootAssetMonitorAuxBlobError MonitorUpdate
  requireTaprootAssetAuxBlob : MonitorUpdate → TaprootAssetMonitorAuxBlobExpectation →
    Except TaprootAssetMonitorAuxBlobError Unit
  /-- Metadata for an asset, amount, proof root hash and sum, quote id and payment hash. -/
  newHtlcMetadata :
    Bytes32 → UInt64 → Bytes32 → UInt64 → Bytes32 → Bytes32 → Except LdkError HtlcMetadata
  /-- Assignment of the protocol version and the final-hop digest. -/
  setHtlcFields : HtlcMetadata → UInt16 → Bytes32 → HtlcMetadata
  validateHtlcIntegrity : HtlcMetadata → Except LdkError Unit
  validateAssetHtlcFinalHop :
    Option HtlcMetadata → TaprootAssetHtlcMetadataExpectation → Except LdkError Unit

inductive TaprootAssetCloseAllocationError where
  | assetIdMismatch
  | allocationDigestMismatch
  | other (text : String)
deriving DecidableEq

/-- The fields a close allocation is built from. -/
structure TaprootAssetCloseAllocationFields where
  channelId : Bytes32
  assetId : Bytes32
  commitmentNumber : UInt64
  localAmount : UInt64
  remoteAmount : UInt64
  proofRootHash : Bytes32
  proofRootSum : UInt64
  localProofDigest : Bytes32
  remoteProofDigest : Bytes32
deriving DecidableEq

structure TaprootAssetCloseAllocationExpectation where
  channelId : Bytes32
  assetId : Bytes32
  latestCommitmentNumber : UInt64
  localAmount : UInt64
  remoteAmount : UInt64
  proofRootHash : Bytes32
  proofRootSum : UInt64
deriving DecidableEq

/-- What the program uses of the library to close a channel. -/
structure LdkClose (ChannelDescriptor : Type) where
  CloseAllocation : Type
  newCloseAllocation : TaprootAssetCloseAllocationFields →
    Except TaprootAssetCloseAllocationError CloseAllocation
  allocationDigest : CloseAllocation → Bytes32
  validateCooperativeCloseAssetAllocation : Option CloseAllocation →
    TaprootAssetCloseAllocationExpectation → Except TaprootAssetCloseAllocationError Unit
  prepareCooperativeCloseAssetAllocation : ChannelDescriptor → CloseAllocation →
    Except TaprootAssetCloseAllocationError Unit

inductive TaprootAssetProofOwnershipError where
  | assetIdMismatch
  | other (text : String)
deriving DecidableEq

/-- The fields a record of proof ownership is built from. -/
structure TaprootAssetProofOwnershipFields where
  channelId : Bytes32
  assetId : Bytes32
  commitmentNumber : UInt64
  spendKind : UInt8
  btcRecovered : Bool
  assetProofRecovered : Bool
  proofRootHash : Bytes32
  proofRootSum : UInt64
  proofHandoffDigest : Bytes32
  sweepOutputDigest : Bytes32
deriving DecidableEq

structure TaprootAssetProofOwnershipExpectation where
  channelId : Bytes32
  assetId : Bytes32
  latestCommitmentNumber : UInt64
  spendKind : UInt8
  proofRootHash : Bytes32
  proofRootSum : UInt64
  requireAssetProof : Bool
deriving DecidableEq

/-- What the program uses of the library to recover the outputs of a channel. -/
structure LdkOwnership (ChannelDescriptor : Type) where
  ProofOwnershipState : Type
  recoverySpendCommitment : UInt8
  recoverySpendSecondLevelHtlc : UInt8
  recoverySpendFinalSweep : UInt8
  newProofOwnershipState : TaprootAssetProofOwnershipFields →
    Except TaprootAssetProofOwnershipError ProofOwnershipState
  validateAssetProofOwnershipRecovery : Option ProofOwnershipState →
    TaprootAssetProofOwnershipExpectation → Except TaprootAssetProofOwnershipError Unit
  prepareAssetProofOwnershipRecovery : ChannelDescriptor → ProofOwnershipState →
    Except TaprootAssetProofOwnershipError ProofOwnershipState
  btcRecovered : ProofOwnershipState → Bool
  assetProofRecovered : ProofOwnershipState → Bool
  proofHandoffDigest : ProofOwnershipState → Bytes32
  sweepOutputDigest : ProofOwnershipState → Bytes32
  ownershipDigest : ProofOwnershipState → Bytes32

def TaprootAssetMonitorAuxBlobFields.Meets (fields : TaprootAssetMonitorAuxBlobFields)
    (expected : TaprootAssetMonitorAuxBlobExpectation) : Prop :=
  (⟨fields.channelId, fields.assetId, fields.commitmentNumber, fields.localBalance,
    fields.remoteBalance, fields.stateDigest, fields.proofRootHash, fields.proofRootSum⟩ :
      TaprootAssetMonitorAuxBlobExpectation) = expected

instance (fields : TaprootAssetMonitorAuxBlobFields)
    (expected : TaprootAssetMonitorAuxBlobExpectation) : Decidable (fields.Meets expected) :=
  inferInstanceAs (Decidable (_ = _))

def auxBlobDigest (fields : TaprootAssetMonitorAuxBlobFields) : Bytes32 :=
  sha256 (fields.channelId.bytes ++ fields.assetId.bytes ++ u64Bytes fields.commitmentNumber ++
    u64Bytes fields.localBalance ++ u64Bytes fields.remoteBalance ++ fields.stateDigest.bytes ++
    fields.proofRootHash.bytes ++ u64Bytes fields.proofRootSum ++ fields.nonceDigest.bytes ++
    fields.signatureDigest.bytes)

structure AcceptedHtlcMetadata where
  assetId : Bytes32
  assetAmount : UInt64
  proofRootHash : Bytes32
  proofRootSum : UInt64
  quoteId : Bytes32
  paymentHash : Bytes32
deriving DecidableEq

def AcceptedHtlcMetadata.Meets (metadata : AcceptedHtlcMetadata)
    (expected : TaprootAssetHtlcMetadataExpectation) : Prop :=
  metadata = ⟨expected.assetId, expected.assetAmount, expected.proofRootHash,
      expected.proofRootSum, expected.quoteId, expected.paymentHash⟩ ∧
    expected.quoteAccepted = true ∧ expected.nowUnixSeconds ≤ expected.quoteExpiryUnixSeconds

instance (metadata : AcceptedHtlcMetadata) (expected : TaprootAssetHtlcMetadataExpectation) :
    Decidable (metadata.Meets expected) :=
  inferInstanceAs (Decidable (_ ∧ _))

def validateAcceptedFinalHop (metadata : Option AcceptedHtlcMetadata)
    (expected : TaprootAssetHtlcMetadataExpectation) : Except LdkError Unit :=
  match metadata with
  | some metadata => rejectIf (¬ metadata.Meets expected) "MetadataMismatch"
  | none => .error "MissingMetadata"

/-- Funding requests and blobs with consistent fields pass, and nothing else is checked. -/
def acceptingLdk : Ldk where
  PublicKey := Bytes32
  ChannelDescriptor := Bytes32 × UInt16
  MonitorAuxBlob := TaprootAssetMonitorAuxBlobFields
  MonitorUpdate := TaprootAssetMonitorAuxBlobFields
  HtlcMetadata := AcceptedHtlcMetadata
  supportedProtocolVersion := 1
  publicKeyOf secret := if secret = Bytes32.ZERO then none else some secret
  newChannelDescriptor assetId version := .ok (assetId, version)
  validateAssetChannelFunding request :=
    rejectIf (request.fundingOutput.outputCommitment ≠ request.expectations.outputCommitment)
      "OutputCommitmentMismatch"
  newMonitorAuxBlob fields := .ok fields
  blobDigest := auxBlobDigest
  taprootAssetAuxUpdate _ _ blob := .ok blob
  requireTaprootAssetAuxBlob update expected :=
    rejectIf (¬ update.Meets expected) (.other "FieldMismatch")
  newHtlcMetadata assetId assetAmount proofRootHash proofRootSum quoteId paymentHash :=
    .ok ⟨assetId, assetAmount, proofRootHash, proofRootSum, quoteId, paymentHash⟩
  setHtlcFields metadata _ _ := metadata
  validateHtlcIntegrity _ := .ok ()
  validateAssetHtlcFinalHop := validateAcceptedFinalHop

def closeAllocationDigest (fields : TaprootAssetCloseAllocationFields) : Bytes32 :=
  sha256 (fields.channelId.bytes ++ fields.assetId.bytes ++ u64Bytes fields.commitmentNumber ++
    u64Bytes fields.localAmount ++ u64Bytes fields.remoteAmount ++ fields.proofRootHash.bytes ++
    u64Bytes fields.proofRootSum ++ fields.localProofDigest.bytes ++
    fields.remoteProofDigest.bytes)

def TaprootAssetCloseAllocationFields.Meets (fields : TaprootAssetCloseAllocationFields)
    (expected : TaprootAssetCloseAllocationExpectation) : Prop :=
  (⟨fields.channelId, fields.assetId, fields.commitmentNumber, fields.localAmount,
    fields.remoteAmount, fields.proofRootHash, fields.proofRootSum⟩ :
      TaprootAssetCloseAllocationExpectation) = expected

instance (fields : TaprootAssetCloseAllocationFields)
    (expected : TaprootAssetCloseAllocationExpectation) : Decidable (fields.Meets expected) :=
  inferInstanceAs (Decidable (_ = _))

def validateAcceptedAllocation (allocation : Option TaprootAssetCloseAllocationFields)
    (expected : TaprootAssetCloseAllocationExpectation) :
    Except TaprootAssetCloseAllocationError Unit :=
  match allocation with
  | some allocation => rejectIf (¬ allocation.Meets expected) (.other "FieldMismatch")
  | none => .error (.other "MissingAllocation")

/-- Allocations that meet the expectation pass, and nothing else is checked. -/
def acceptingClose : LdkClose acceptingLdk.ChannelDescriptor where
  CloseAllocation := TaprootAssetCloseAllocationFields
  newCloseAllocation fields := .ok fields
  allocationDigest := closeAllocationDigest
  validateCooperativeCloseAssetAllocation := validateAcceptedAllocation
  prepareCooperativeCloseAssetAllocation _ _ := .ok ()

def ownershipDigestOf (fields : TaprootAssetProofOwnershipFields) : Bytes32 :=
  sha256 (fields.channelId.bytes ++ fields.assetId.bytes ++ u64Bytes fields.commitmentNumber ++
    [fields.spendKind, fields.btcRecovered.toUInt8, fields.assetProofRecovered.toUInt8] ++
    fields.proofRootHash.bytes ++ u64Bytes fields.proofRootSum ++ fields.proofHandoffDigest.bytes ++
    fields.sweepOutputDigest.bytes)

def TaprootAssetProofOwnershipFields.Meets (fields : TaprootAssetProofOwnershipFields)
    (expected : TaprootAssetProofOwnershipExpectation) : Prop :=
  (⟨fields.channelId, fields.assetId, fields.commitmentNumber, fields.spendKind,
    fields.proofRootHash, fields.proofRootSum, fields.assetProofRecovered⟩ :
      TaprootAssetProofOwnershipExpectation) = expected

instance (fields : TaprootAssetProofOwnershipFields)
    (expected : TaprootAssetProofOwnershipExpectation) : Decidable (fields.Meets expected) :=
  inferInstanceAs (Decidable (_ = _))

def validateAcceptedOwnership (state : Option TaprootAssetProofOwnershipFields)
    (expected : TaprootAssetProofOwnershipExpectation) :
    Except TaprootAssetProofOwnershipError Unit :=
  match state with
  | some state => rejectIf (¬ state.Meets expected) (.other "FieldMismatch")
  | none => .error (.other "MissingProofOwnership")

/-- Ownership records that meet the expectation pass, and nothing else is checked. -/
def acceptingOwnership : LdkOwnership acceptingLdk.ChannelDescriptor where
  ProofOwnershipState := TaprootAssetProofOwnershipFields
  recoverySpendCommitment := 0
  recoverySpendSecondLevelHtlc := 1
  recoverySpendFinalSweep := 2
  newProofOwnershipState fields := .ok fields
  validateAssetProofOwnershipRecovery := validateAcceptedOwnership
  prepareAssetProofOwnershipRecovery _ state := .ok state
  btcRecovered := (·.btcRecovered)
  assetProofRecovered := (·.assetProofRecovered)
  proofHandoffDigest := (·.proofHandoffDigest)
  sweepOutputDigest := (·.sweepOutputDigest)
  ownershipDigest := ownershipDigestOf

end TapLdk.LdkFork
