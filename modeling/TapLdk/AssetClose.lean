import Mathlib
import TapLdk.Commitment

/-! Cooperative close: the latest allocation of a channel becomes one exported proof for each
side, with the history that leads from the channel output to both. -/
namespace TapLdk.AssetClose
open TapLdk.LibraryExcept TapLdk.LibraryMaps TapLdk.LibraryBytes TapLdk.LibrarySha256
open TapLdk.Mssmt TapLdk.Asset TapLdk.Proof TapLdk.ProofHistory TapLdk.LdkFork
open TapLdk.ChannelFunding TapLdk.Commitment

def nativeAssetCloseStoreSchemaVersion : UInt32 := 2

inductive NativeAssetCloseStatus where
  | cooperativeClosed
deriving DecidableEq

inductive NativeForceCloseStatus where
  | deferred
deriving DecidableEq

inductive NativeSweepRecoveryStatus where
  | notAttempted
  | failed
  | recovered
deriving DecidableEq

inductive CloseOwnerSide where
  | localOwner
  | remoteOwner
deriving DecidableEq

def CloseOwnerSide.asStr : CloseOwnerSide → String
  | localOwner => "local"
  | remoteOwner => "remote"

def CloseOwnerSide.asU8 : CloseOwnerSide → UInt8
  | localOwner => 0
  | remoteOwner => 1

structure NativeAssetClose where
  closeId : String
  channelId : String
  assetId : Bytes32
  commitmentNumber : UInt64
  localAmount : UInt64
  remoteAmount : UInt64
  totalAmount : UInt64
  proofRootHash : Bytes32
  proofRootSum : UInt64
  priorScriptKey : CompressedKey
  priorAnchorOutpoint : String
  priorProofHistoryOutputId : String
  priorProofHistoryTransitionId : Bytes32
  closeProofHistoryRecordId : String
  closeProofHistoryTransitionId : Bytes32
  localClosedProofHistoryOutputId : String
  remoteClosedProofHistoryOutputId : String
  localExportProofHistoryRecordId : String
  localExportProofHistoryOutputId : String
  localExportProofHistoryTransitionId : Bytes32
  remoteExportProofHistoryRecordId : String
  remoteExportProofHistoryOutputId : String
  remoteExportProofHistoryTransitionId : Bytes32
  localScriptKey : CompressedKey
  remoteScriptKey : CompressedKey
  localProofTlvHex : String
  remoteProofTlvHex : String
  localProofDigest : Bytes32
  remoteProofDigest : Bytes32
  ldkCloseAllocationDigest : Bytes32
  status : NativeAssetCloseStatus
  forceCloseStatus : NativeForceCloseStatus
  sweepRecoveryStatus : NativeSweepRecoveryStatus
  closeDigest : Bytes32
deriving DecidableEq

structure NativeAssetCloseStore where
  version : UInt32
  closes : BTreeMap String NativeAssetClose

structure CloseProofHistory where
  priorOutputId : String
  priorTransitionId : Bytes32
  closeRecordId : String
  closeTransitionId : Bytes32
  localClosedOutputId : String
  remoteClosedOutputId : String
  localExportRecordId : String
  localExportOutputId : String
  localExportTransitionId : Bytes32
  remoteExportRecordId : String
  remoteExportOutputId : String
  remoteExportTransitionId : Bytes32
deriving DecidableEq

inductive NativeAssetCloseError where
  | asset (error : AssetError)
  | proof (error : ProofError)
  | proofHistory (error : ProofHistoryReplayError)
  | commitment (error : AssetCommitmentError)
  | ldkCloseAllocation (error : TaprootAssetCloseAllocationError)
  | unsupportedVersion (version : UInt32)
  | duplicateClose (closeId : String)
  | zeroCloseAmount (owner : CloseOwnerSide)
  | proofDoesNotMatchClose (owner : CloseOwnerSide)
  | proofHistoryDoesNotMatchClose (owner : CloseOwnerSide)
  | failedSweepReportedRecovered
  | invalidHexLength
  | invalidHexByte (text : String)
  | balanceOverflow
  | balanceNotConserved (localAmount remoteAmount totalAmount : UInt64)
  | storageInvariant (message : String)
deriving DecidableEq

def closeIdFromParts (channelId : String) (assetId : Bytes32)
    (commitmentNumber localAmount remoteAmount : UInt64) (priorProofHistoryOutputId : String) :
    String :=
  toHex (sha256 (utf8 "tap-ldk:native-asset-close-id:v1" ++ lengthPrefixed channelId ++
    assetId.bytes ++ u64Bytes commitmentNumber ++ u64Bytes localAmount ++ u64Bytes remoteAmount ++
    lengthPrefixed priorProofHistoryOutputId))

def closeDigest (channelId : String) (assetId : Bytes32)
    (commitmentNumber localAmount remoteAmount : UInt64)
    (localProofTlvHex remoteProofTlvHex : String) (ldkCloseAllocationDigest : Bytes32)
    (priorProofHistoryOutputId localExportProofHistoryOutputId
      remoteExportProofHistoryOutputId : String) : Bytes32 :=
  sha256 (utf8 "tap-ldk:native-asset-close-digest:v1" ++ lengthPrefixed channelId ++
    assetId.bytes ++ u64Bytes commitmentNumber ++ u64Bytes localAmount ++ u64Bytes remoteAmount ++
    ldkCloseAllocationDigest.bytes ++ lengthPrefixed localProofTlvHex ++
    lengthPrefixed remoteProofTlvHex ++ lengthPrefixed priorProofHistoryOutputId ++
    lengthPrefixed localExportProofHistoryOutputId ++
    lengthPrefixed remoteExportProofHistoryOutputId)

def closeTransitionId (closeId : String) (assetId : Bytes32)
    (commitmentNumber localAmount remoteAmount : UInt64) (priorOutputId : String)
    (localProofDigest remoteProofDigest : Bytes32) : Bytes32 :=
  sha256 (utf8 "tap-ldk:native-asset-close-proof-history:v1" ++ lengthPrefixed closeId ++
    assetId.bytes ++ u64Bytes commitmentNumber ++ u64Bytes localAmount ++ u64Bytes remoteAmount ++
    lengthPrefixed priorOutputId ++ localProofDigest.bytes ++ remoteProofDigest.bytes)

def closeExportTransitionId (closeId : String) (owner : CloseOwnerSide) (closedOutputId : String)
    (proofDigest : Bytes32) : Bytes32 :=
  sha256 (utf8 "tap-ldk:native-asset-close-proof-export:v1" ++ lengthPrefixed closeId ++
    utf8 owner.asStr ++ lengthPrefixed closedOutputId ++ proofDigest.bytes)

def closePriorInputTransitionId (close : NativeAssetClose) : Bytes32 :=
  sha256 (utf8 "tap-ldk:native-asset-close-prior-input:v1" ++ lengthPrefixed close.closeId ++
    close.assetId.bytes ++ u64Bytes close.totalAmount ++ lengthPrefixed close.priorAnchorOutpoint)

def proofHandoffDigest (owner : CloseOwnerSide) (proofTlvHex : String) : Bytes32 :=
  sha256 (utf8 "tap-ldk:native-close-proof-handoff:v1" ++ utf8 owner.asStr ++
    lengthPrefixed proofTlvHex)

def closeGenesisOutpoint (assetId : Bytes32) : String :=
  let digest := sha256 (utf8 "tap-ldk:native-close-genesis:v1" ++ assetId.bytes)
  s!"{toHex digest}:0"

def closeAnchorOutpoint (channelId : String) (owner : CloseOwnerSide) (commitmentNumber : UInt64)
    (assetId : Bytes32) (amount : UInt64) (scriptKey : CompressedKey) : String :=
  let digest := sha256 (utf8 "tap-ldk:native-close-anchor:v1" ++ lengthPrefixed channelId ++
    utf8 owner.asStr ++ u64Bytes commitmentNumber ++ assetId.bytes ++ u64Bytes amount ++
    scriptKey.bytes)
  s!"{toHex digest}:{owner.asU8}"

def parseCloseChannelId (channelId : String) : Except NativeAssetCloseError Bytes32 :=
  (bytes32FromStr channelId).mapError .asset

def decodeHexNibble (byte : UInt8) : Except NativeAssetCloseError UInt8 := do
  let nibble ← okOr (hexDigit byte) (.invalidHexByte (String.singleton (Char.ofNat byte.toNat)))
  pure (UInt8.ofNat nibble)

def decodeHexChunks : Bytes → Except NativeAssetCloseError Bytes
  | high :: low :: rest => do
    let high ← decodeHexNibble high
    let low ← decodeHexNibble low
    let bytes ← decodeHexChunks rest
    pure ((high <<< 4 ||| low) :: bytes)
  | _ => pure []

def decodeCloseHex (hex : String) : Except NativeAssetCloseError Bytes := do
  rejectIf ((utf8 hex).length % 2 ≠ 0) .invalidHexLength
  decodeHexChunks (utf8 hex)

def decodeCloseProof (hex : String) : Except NativeAssetCloseError ProofFile := do
  let encoded ← decodeCloseHex hex
  (ProofFile.decode encoded).mapError .proof

def closeProofHistoryMetadataFromParts (closeId : String) (assetId : Bytes32)
    (commitmentNumber localAmount remoteAmount : UInt64) (priorOutputId : String)
    (priorTransitionId localProofDigest remoteProofDigest : Bytes32) : CloseProofHistory :=
  let localClosedOutputId := s!"native-asset-close-output:{closeId}:local"
  let remoteClosedOutputId := s!"native-asset-close-output:{closeId}:remote"
  { priorOutputId
    priorTransitionId
    closeRecordId := s!"native-asset-close:{closeId}"
    closeTransitionId := closeTransitionId closeId assetId commitmentNumber localAmount
      remoteAmount priorOutputId localProofDigest remoteProofDigest
    localClosedOutputId
    remoteClosedOutputId
    localExportRecordId := s!"native-asset-close-proof-export:{closeId}:local"
    localExportOutputId :=
      s!"native-asset-close-proof-export-output:{closeId}:local:{toHex localProofDigest}"
    localExportTransitionId := closeExportTransitionId closeId .localOwner localClosedOutputId
      localProofDigest
    remoteExportRecordId := s!"native-asset-close-proof-export:{closeId}:remote"
    remoteExportOutputId :=
      s!"native-asset-close-proof-export-output:{closeId}:remote:{toHex remoteProofDigest}"
    remoteExportTransitionId := closeExportTransitionId closeId .remoteOwner remoteClosedOutputId
      remoteProofDigest }

def closeHistoryOutput (outputId : String) (proof : ProofFile)
    (resultingState : ProofHistoryState) : ProofHistoryOutput :=
  ⟨outputId, proof.assetId, proof.amount, proof.scriptKey, proof.anchorOutpoint,
    proof.tapAssetRoot, resultingState⟩

namespace NativeAssetClose

def expectedHistory (close : NativeAssetClose) : CloseProofHistory :=
  closeProofHistoryMetadataFromParts close.closeId close.assetId close.commitmentNumber
    close.localAmount close.remoteAmount close.priorProofHistoryOutputId
    close.priorProofHistoryTransitionId close.localProofDigest close.remoteProofDigest

def storedHistory (close : NativeAssetClose) : CloseProofHistory :=
  ⟨close.priorProofHistoryOutputId, close.priorProofHistoryTransitionId,
    close.closeProofHistoryRecordId, close.closeProofHistoryTransitionId,
    close.localClosedProofHistoryOutputId, close.remoteClosedProofHistoryOutputId,
    close.localExportProofHistoryRecordId, close.localExportProofHistoryOutputId,
    close.localExportProofHistoryTransitionId, close.remoteExportProofHistoryRecordId,
    close.remoteExportProofHistoryOutputId, close.remoteExportProofHistoryTransitionId⟩

def priorInputId (close : NativeAssetClose) : String :=
  s!"native-asset-close-prior-input:{close.closeId}"

/-- The output that held the whole channel. -/
def priorOutput (close : NativeAssetClose) (outputId : String) (root : RootHashSum)
    (resultingState : ProofHistoryState) : ProofHistoryOutput :=
  ⟨outputId, close.assetId, close.totalAmount, close.priorScriptKey, close.priorAnchorOutpoint,
    root, resultingState⟩

def priorInputRecord (close : NativeAssetClose) (root : RootHashSum) : ProofHistoryRecord :=
  { recordId := close.priorInputId
    kind := .issuance
    virtualTransitionId := closePriorInputTransitionId close
    inputs := []
    outputs := [close.priorOutput close.priorInputId root .accepted] }

def priorChannelRecord (close : NativeAssetClose) (history : CloseProofHistory)
    (root : RootHashSum) : ProofHistoryRecord :=
  { recordId := s!"native-asset-close-prior-channel:{close.closeId}"
    kind := .channelFunding
    virtualTransitionId := history.priorTransitionId
    inputs := [⟨close.priorInputId⟩]
    outputs := [close.priorOutput history.priorOutputId root .channelLocked] }

def closeRecord (history : CloseProofHistory) (localProof remoteProof : ProofFile) :
    ProofHistoryRecord :=
  { recordId := history.closeRecordId
    kind := .cooperativeClose
    virtualTransitionId := history.closeTransitionId
    inputs := [⟨history.priorOutputId⟩]
    outputs := [closeHistoryOutput history.localClosedOutputId localProof .closed,
      closeHistoryOutput history.remoteClosedOutputId remoteProof .closed] }

def exportRecord (recordId : String) (transitionId : Bytes32) (closedOutputId outputId : String)
    (proof : ProofFile) : ProofHistoryRecord :=
  { recordId
    kind := .proofExport
    virtualTransitionId := transitionId
    inputs := [⟨closedOutputId⟩]
    outputs := [closeHistoryOutput outputId proof .accepted] }

def closeProofHistoryRecords (close : NativeAssetClose) (history : CloseProofHistory)
    (localProof remoteProof : ProofFile) :
    Except NativeAssetCloseError (List ProofHistoryRecord) := do
  let root ← (deriveHashSumRoot [⟨close.assetId, close.priorScriptKey, close.totalAmount⟩]).mapError
    .asset
  pure [close.priorInputRecord root, close.priorChannelRecord history root,
    closeRecord history localProof remoteProof,
    exportRecord history.localExportRecordId history.localExportTransitionId
      history.localClosedOutputId history.localExportOutputId localProof,
    exportRecord history.remoteExportRecordId history.remoteExportTransitionId
      history.remoteClosedOutputId history.remoteExportOutputId remoteProof]

/-- An explanation of an exported proof: its one prior state is a closed output. -/
def ExplainsExport (close : NativeAssetClose) (proof : ProofFile) (closedOutputId : String)
    (e : AcceptedBalanceExplanation) : Prop :=
  e.transitionKind = .proofExport ∧ e.resultingState = .accepted ∧ e.assetId = close.assetId ∧
    e.amount = proof.amount ∧ e.scriptKey = proof.scriptKey ∧
    e.anchorOutpoint = proof.anchorOutpoint ∧ e.tapAssetRoot = proof.tapAssetRoot ∧
    e.priorStates.map (fun prior => (prior.outputId, prior.state)) = [(closedOutputId, .closed)]

instance (close : NativeAssetClose) (proof : ProofFile) (closedOutputId : String)
    (e : AcceptedBalanceExplanation) : Decidable (close.ExplainsExport proof closedOutputId e) :=
  inferInstanceAs (Decidable (_ ∧ _))

def validateExportedCloseExplanation (close : NativeAssetClose) (owner : CloseOwnerSide)
    (proof : ProofFile) (closedOutputId exportOutputId : String)
    (history : ProofHistory.ProofHistoryReplay) : Except NativeAssetCloseError Unit := do
  let explanation ← okOr (history.acceptedExplanation exportOutputId)
    (.proofHistoryDoesNotMatchClose owner)
  rejectIf (¬ close.ExplainsExport proof closedOutputId explanation)
    (.proofHistoryDoesNotMatchClose owner)

def validateCloseProofHistory (close : NativeAssetClose) (localProof remoteProof : ProofFile) :
    Except NativeAssetCloseError Unit := do
  let expected := close.expectedHistory
  rejectIf (close.storedHistory ≠ expected) (.proofHistoryDoesNotMatchClose .localOwner)
  let records ← close.closeProofHistoryRecords expected localProof remoteProof
  let history ← (replay records).mapError .proofHistory
  close.validateExportedCloseExplanation .localOwner localProof expected.localClosedOutputId
    expected.localExportOutputId history
  close.validateExportedCloseExplanation .remoteOwner remoteProof expected.remoteClosedOutputId
    expected.remoteExportOutputId history

def amount (close : NativeAssetClose) : CloseOwnerSide → UInt64
  | .localOwner => close.localAmount
  | .remoteOwner => close.remoteAmount

def scriptKey (close : NativeAssetClose) : CloseOwnerSide → CompressedKey
  | .localOwner => close.localScriptKey
  | .remoteOwner => close.remoteScriptKey

def expectedAnchor (close : NativeAssetClose) (owner : CloseOwnerSide) : String :=
  closeAnchorOutpoint close.channelId owner close.commitmentNumber close.assetId
    (close.amount owner) (close.scriptKey owner)

def validateCloseProof (close : NativeAssetClose) (owner : CloseOwnerSide) (proof : ProofFile) :
    Except NativeAssetCloseError Unit := do
  let _ ← (proof.verifySemanticAncestry (.forClose close.assetId (close.amount owner)
    (close.scriptKey owner) (closeGenesisOutpoint close.assetId)
    (close.expectedAnchor owner))).mapError .proof
  rejectIf (proof.assetId ≠ close.assetId ∨ proof.amount ≠ close.amount owner ∨
    proof.scriptKey ≠ close.scriptKey owner ∨ proof.anchorOutpoint ≠ close.expectedAnchor owner ∨
    proof.genesisOutpoint ≠ closeGenesisOutpoint close.assetId) (.proofDoesNotMatchClose owner)

def validateLdkCloseAllocation (ldk : Ldk) (closing : LdkClose ldk.ChannelDescriptor)
    (close : NativeAssetClose) (latestSafeCommitmentNumber : UInt64) :
    Except NativeAssetCloseError Unit := do
  let channelId ← parseCloseChannelId close.channelId
  let allocation ← (closing.newCloseAllocation ⟨channelId, close.assetId, close.commitmentNumber,
    close.localAmount, close.remoteAmount, close.proofRootHash, close.proofRootSum,
    close.localProofDigest, close.remoteProofDigest⟩).mapError .ldkCloseAllocation
  (closing.validateCooperativeCloseAssetAllocation (some allocation)
    { channelId
      assetId := close.assetId
      latestCommitmentNumber := latestSafeCommitmentNumber
      localAmount := close.localAmount
      remoteAmount := close.remoteAmount
      proofRootHash := close.proofRootHash
      proofRootSum := close.proofRootSum }).mapError .ldkCloseAllocation
  let descriptor ← (ldk.newChannelDescriptor close.assetId ldk.supportedProtocolVersion).mapError
    fun _ => .ldkCloseAllocation .assetIdMismatch
  (closing.prepareCooperativeCloseAssetAllocation descriptor allocation).mapError
    .ldkCloseAllocation
  rejectIf (close.ldkCloseAllocationDigest ≠ closing.allocationDigest allocation)
    (.ldkCloseAllocation .allocationDigestMismatch)

def localProof (close : NativeAssetClose) : Except NativeAssetCloseError ProofFile :=
  decodeCloseProof close.localProofTlvHex

def remoteProof (close : NativeAssetClose) : Except NativeAssetCloseError ProofFile :=
  decodeCloseProof close.remoteProofTlvHex

def validate (ldk : Ldk) (closing : LdkClose ldk.ChannelDescriptor) (close : NativeAssetClose) :
    Except NativeAssetCloseError Unit := do
  let sum ← okOr (checkedAdd close.localAmount close.remoteAmount) .balanceOverflow
  rejectIf (sum ≠ close.totalAmount)
    (.balanceNotConserved close.localAmount close.remoteAmount close.totalAmount)
  rejectIf (close.status ≠ .cooperativeClosed)
    (.storageInvariant "close is not cooperatively closed")
  rejectIf (close.forceCloseStatus ≠ .deferred ∧ close.sweepRecoveryStatus = .failed)
    .failedSweepReportedRecovered
  let localProof ← close.localProof
  let remoteProof ← close.remoteProof
  close.validateCloseProof .localOwner localProof
  close.validateCloseProof .remoteOwner remoteProof
  close.validateCloseProofHistory localProof remoteProof
  close.validateLdkCloseAllocation ldk closing close.commitmentNumber
  rejectIf (close.closeId ≠ closeIdFromParts close.channelId close.assetId close.commitmentNumber
    close.localAmount close.remoteAmount close.priorProofHistoryOutputId)
    (.storageInvariant "cooperative close id mismatch")
  rejectIf (close.closeDigest ≠ AssetClose.closeDigest close.channelId close.assetId
    close.commitmentNumber close.localAmount close.remoteAmount close.localProofTlvHex
    close.remoteProofTlvHex close.ldkCloseAllocationDigest close.priorProofHistoryOutputId
    close.localExportProofHistoryOutputId close.remoteExportProofHistoryOutputId)
    (.storageInvariant "cooperative close digest mismatch")

end NativeAssetClose

def buildCloseProof (state : AssetCommitmentChannelState) (owner : CloseOwnerSide)
    (scriptKey : CompressedKey) (amount : UInt64) : Except NativeAssetCloseError ProofFile := do
  rejectIf (amount = 0) (.zeroCloseAmount owner)
  let tapAssetRoot ← (deriveHashSumRoot [⟨state.assetId, scriptKey, amount⟩]).mapError .asset
  pure
    { version := 0
      assetId := state.assetId
      genesisOutpoint := closeGenesisOutpoint state.assetId
      anchorOutpoint := closeAnchorOutpoint state.channelId owner state.latestCommitmentNumber
        state.assetId amount scriptKey
      amount
      scriptKey
      tapAssetRoot
      verificationScope := .semanticAncestry
      network := .regtest
      assetType := .normal }

/-- The close of a state, from its two encoded proofs and the digest of its allocation. -/
def closeOf (state : AssetCommitmentChannelState) (localScriptKey remoteScriptKey : CompressedKey)
    (localProofTlvHex remoteProofTlvHex : String) (allocationDigest : Bytes32) :
    NativeAssetClose :=
  let localProofDigest := proofHandoffDigest .localOwner localProofTlvHex
  let remoteProofDigest := proofHandoffDigest .remoteOwner remoteProofTlvHex
  let closeId := closeIdFromParts state.channelId state.assetId state.latestCommitmentNumber
    state.localBalance state.remoteBalance state.latestProofHistoryOutputId
  let history := closeProofHistoryMetadataFromParts closeId state.assetId
    state.latestCommitmentNumber state.localBalance state.remoteBalance
    state.latestProofHistoryOutputId state.latestProofHistoryTransitionId localProofDigest
    remoteProofDigest
  { closeId
    channelId := state.channelId
    assetId := state.assetId
    commitmentNumber := state.latestCommitmentNumber
    localAmount := state.localBalance
    remoteAmount := state.remoteBalance
    totalAmount := state.totalAmount
    proofRootHash := state.monitorBlob.proofRootHash
    proofRootSum := state.monitorBlob.proofRootSum
    priorScriptKey := state.assetSigningKey
    priorAnchorOutpoint := state.fundingOutpoint
    priorProofHistoryOutputId := history.priorOutputId
    priorProofHistoryTransitionId := history.priorTransitionId
    closeProofHistoryRecordId := history.closeRecordId
    closeProofHistoryTransitionId := history.closeTransitionId
    localClosedProofHistoryOutputId := history.localClosedOutputId
    remoteClosedProofHistoryOutputId := history.remoteClosedOutputId
    localExportProofHistoryRecordId := history.localExportRecordId
    localExportProofHistoryOutputId := history.localExportOutputId
    localExportProofHistoryTransitionId := history.localExportTransitionId
    remoteExportProofHistoryRecordId := history.remoteExportRecordId
    remoteExportProofHistoryOutputId := history.remoteExportOutputId
    remoteExportProofHistoryTransitionId := history.remoteExportTransitionId
    localScriptKey
    remoteScriptKey
    localProofTlvHex
    remoteProofTlvHex
    localProofDigest
    remoteProofDigest
    ldkCloseAllocationDigest := allocationDigest
    status := .cooperativeClosed
    forceCloseStatus := .deferred
    sweepRecoveryStatus := .notAttempted
    closeDigest := AssetClose.closeDigest state.channelId state.assetId
      state.latestCommitmentNumber state.localBalance state.remoteBalance localProofTlvHex
      remoteProofTlvHex allocationDigest history.priorOutputId history.localExportOutputId
      history.remoteExportOutputId }

def closeFromState (ldk : Ldk) (closing : LdkClose ldk.ChannelDescriptor)
    (state : AssetCommitmentChannelState) (localScriptKey remoteScriptKey : CompressedKey)
    (latestSafeCommitmentNumber : UInt64) : Except NativeAssetCloseError NativeAssetClose := do
  let localProof ← buildCloseProof state .localOwner localScriptKey state.localBalance
  let remoteProof ← buildCloseProof state .remoteOwner remoteScriptKey state.remoteBalance
  let localBytes ← localProof.encode.mapError .proof
  let remoteBytes ← remoteProof.encode.mapError .proof
  let localProofTlvHex := encodeHex localBytes
  let remoteProofTlvHex := encodeHex remoteBytes
  let channelId ← parseCloseChannelId state.channelId
  let allocation ← (closing.newCloseAllocation ⟨channelId, state.assetId,
    state.latestCommitmentNumber, state.localBalance, state.remoteBalance,
    state.monitorBlob.proofRootHash, state.monitorBlob.proofRootSum,
    proofHandoffDigest .localOwner localProofTlvHex,
    proofHandoffDigest .remoteOwner remoteProofTlvHex⟩).mapError .ldkCloseAllocation
  let close := closeOf state localScriptKey remoteScriptKey localProofTlvHex remoteProofTlvHex
    (closing.allocationDigest allocation)
  close.validateLdkCloseAllocation ldk closing latestSafeCommitmentNumber
  close.validate ldk closing
  pure close

def cooperativeClose (ldk : Ldk) (closing : LdkClose ldk.ChannelDescriptor)
    (store : AssetCommitmentStore) (channelId : String)
    (localScriptKey remoteScriptKey : CompressedKey) :
    Except NativeAssetCloseError NativeAssetClose := do
  let state ← (store.channelState channelId).mapError .commitment
  closeFromState ldk closing state localScriptKey remoteScriptKey state.latestCommitmentNumber

namespace NativeAssetCloseStore

def default : NativeAssetCloseStore := ⟨nativeAssetCloseStoreSchemaVersion, ∅⟩

def validateEntry (ldk : Ldk) (closing : LdkClose ldk.ChannelDescriptor)
    (entry : String × NativeAssetClose) : Except NativeAssetCloseError Unit := do
  rejectIf (entry.1 ≠ entry.2.closeId) (.storageInvariant
    s!"close map key {entry.1} does not match close_id {entry.2.closeId}")
  entry.2.validate ldk closing

def validate (ldk : Ldk) (closing : LdkClose ldk.ChannelDescriptor)
    (store : NativeAssetCloseStore) : Except NativeAssetCloseError Unit := do
  rejectIf (store.version ≠ nativeAssetCloseStoreSchemaVersion) (.unsupportedVersion store.version)
  store.closes.toList.forM (validateEntry ldk closing)

def recordClose (ldk : Ldk) (closing : LdkClose ldk.ChannelDescriptor)
    (store : NativeAssetCloseStore) (close : NativeAssetClose) :
    Except NativeAssetCloseError (NativeAssetClose × NativeAssetCloseStore) := do
  rejectIf (store.closes[close.closeId]?).isSome (.duplicateClose close.closeId)
  let next := { store with closes := store.closes.insert close.closeId close }
  next.validate ldk closing
  pure (close, next)

end NativeAssetCloseStore

end TapLdk.AssetClose
