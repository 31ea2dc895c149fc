import Mathlib
import TapLdk.ChannelFunding

/-! The commitment store: each funded channel has one current allocation, which numbered and
signed updates move, and a history that has to replay to it. -/
namespace TapLdk.Commitment
open TapLdk.LibraryExcept TapLdk.LibraryMaps TapLdk.LibraryBytes TapLdk.LibrarySha256
open TapLdk.Mssmt TapLdk.Asset TapLdk.Proof TapLdk.ProofHistory TapLdk.TapVm TapLdk.LdkFork
open TapLdk.ChannelFunding

def commitmentStoreSchemaVersion : UInt32 := 2

structure StoredAssetCommitment where
  commitmentNumber : UInt64
  localBalance : UInt64
  remoteBalance : UInt64
  stateDigest : Bytes32
  virtualTxId : Bytes32
  witnessDigest : Bytes32
  assetNonce : Bytes32
  assetSignature : Bytes32
  priorProofHistoryOutputId : String
  proofHistoryRecordId : String
  proofHistoryOutputId : String
  proofHistoryTransitionId : Bytes32
deriving DecidableEq

structure AssetCommitmentMonitorBlob where
  schemaVersion : UInt32
  commitmentNumber : UInt64
  persisted : Bool
  stateDigest : Bytes32
  proofRootHash : Bytes32
  proofRootSum : UInt64
  nonceDigest : Bytes32
  signatureDigest : Bytes32
  ldkAuxBlobDigest : Option Bytes32
  blobDigest : Bytes32
deriving DecidableEq

structure AssetCommitmentChannelState where
  channelId : String
  assetId : Bytes32
  fundingOutpoint : String
  totalAmount : UInt64
  latestCommitmentNumber : UInt64
  localBalance : UInt64
  remoteBalance : UInt64
  commitments : BTreeMap UInt64 StoredAssetCommitment
  revokedCommitmentNumbers : BTreeMap UInt64 UInt64
  usedAssetNonces : BTreeMap Bytes32 UInt64
  assetSigningKey : CompressedKey
  monitorBlob : AssetCommitmentMonitorBlob
  fundingProofHistoryRecordId : String
  fundingProofHistoryOutputId : String
  fundingProofHistoryTransitionId : Bytes32
  latestProofHistoryRecordId : String
  latestProofHistoryOutputId : String
  latestProofHistoryTransitionId : Bytes32

structure AssetCommitmentStoreMetadata where
  implementation : String
  schema : String
deriving DecidableEq

structure AssetCommitmentStore where
  version : UInt32
  metadata : AssetCommitmentStoreMetadata
  channels : BTreeMap String AssetCommitmentChannelState

structure AssetCommitmentUpdateRequest where
  channelId : String
  nextCommitmentNumber : UInt64
  localToRemote : UInt64
  remoteToLocal : UInt64
  virtualTxId : Bytes32
  witnessDigest : Bytes32
  assetNonce : Bytes32
  assetSignature : Bytes32
deriving DecidableEq

structure AssetCommitmentSnapshot where
  channelId : String
  assetId : Bytes32
  commitmentNumber : UInt64
  localBalance : UInt64
  remoteBalance : UInt64
  totalAmount : UInt64
  stateDigest : Bytes32
deriving DecidableEq

structure CommitmentProofHistory where
  priorOutputId : String
  recordId : String
  outputId : String
  transitionId : Bytes32
deriving DecidableEq

inductive BalanceSide where
  | localSide
  | remoteSide
deriving DecidableEq

inductive AssetCommitmentError where
  | asset (error : AssetError)
  | proofHistory (error : ProofHistoryReplayError)
  | tapVm (error : TapVmError)
  | unsupportedVersion (version : UInt32)
  | duplicateChannel (channelId : String)
  | unknownChannel (channelId : String)
  | malformedProofHistoryTransitionId (error : AssetError)
  | commitmentNumberOverflow
  | staleCommitmentNumber (expected actual : UInt64)
  | nonceReuse (nonce : Bytes32)
  | invalidVirtualTransition (expectedVirtualTxId actualVirtualTxId expectedWitnessDigest
      actualWitnessDigest : Bytes32)
  | invalidSignature
  | balanceUnderflow (side : BalanceSide) (balance delta : UInt64)
  | balanceOverflow
  | balanceNotConserved (localBalance remoteBalance totalAmount : UInt64)
  | revokedLatestCommitment (commitmentNumber : UInt64)
  | monitorNotPersisted (channelId : String)
  | monitorDigestMismatch (channelId : String)
  | unexplainedCommitmentHistory (channelId : String)
  | malformedChannelId (error : AssetError)
  | ldkMonitorAux (error : TaprootAssetMonitorAuxBlobError)
  | storageInvariant (message : String)
deriving DecidableEq

def parseChannelId (channelId : String) : Except AssetCommitmentError Bytes32 :=
  (bytes32FromStr channelId).mapError .malformedChannelId

def monitorContextDigest (domain channelId : String) (assetId : Bytes32)
    (commitmentNumber : UInt64) (stateDigest : Bytes32) : Bytes32 :=
  sha256 (utf8 domain ++ lengthPrefixed channelId ++ assetId.bytes ++ u64Bytes commitmentNumber ++
    stateDigest.bytes)

def commitmentStateDigest (channelId : String) (assetId : Bytes32)
    (commitmentNumber localBalance remoteBalance : UInt64) : Bytes32 :=
  sha256 (utf8 "tap-ldk:asset-commitment-state:v1" ++ lengthPrefixed channelId ++ assetId.bytes ++
    u64Bytes commitmentNumber ++ u64Bytes localBalance ++ u64Bytes remoteBalance)

def expectedSignatureWithDomain (domain channelId : String) (assetId : Bytes32)
    (signingKey : CompressedKey) (commitmentNumber localBalance remoteBalance : UInt64)
    (assetNonce virtualTxId witnessDigest : Bytes32) : Bytes32 :=
  sha256 (utf8 domain ++ lengthPrefixed channelId ++ assetId.bytes ++ signingKey.bytes ++
    u64Bytes commitmentNumber ++ u64Bytes localBalance ++ u64Bytes remoteBalance ++
    assetNonce.bytes ++ virtualTxId.bytes ++ witnessDigest.bytes)

def expectedAssetSignature : String → Bytes32 → CompressedKey → UInt64 → UInt64 → UInt64 →
    Bytes32 → Bytes32 → Bytes32 → Bytes32 :=
  expectedSignatureWithDomain "tap-ldk:asset-commitment-signature:v1"

namespace AssetCommitmentMonitorBlob

def digestFor (channelId : String) (assetId : Bytes32)
    (commitmentNumber localBalance remoteBalance : UInt64) (stateDigest proofRootHash : Bytes32)
    (proofRootSum : UInt64) (nonceDigest signatureDigest : Bytes32) : Bytes32 :=
  sha256 (utf8 "tap-ldk:asset-commitment-monitor:v1" ++ lengthPrefixed channelId ++
    assetId.bytes ++ u64Bytes commitmentNumber ++ u64Bytes localBalance ++
    u64Bytes remoteBalance ++ stateDigest.bytes ++ proofRootHash.bytes ++ u64Bytes proofRootSum ++
    nonceDigest.bytes ++ signatureDigest.bytes)

def buildLdkAuxBlob (ldk : Ldk) (blob : AssetCommitmentMonitorBlob) (channelId assetId : Bytes32)
    (localBalance remoteBalance : UInt64) : Except AssetCommitmentError ldk.MonitorAuxBlob :=
  (ldk.newMonitorAuxBlob
    { channelId
      assetId
      commitmentNumber := blob.commitmentNumber
      localBalance
      remoteBalance
      stateDigest := blob.stateDigest
      proofRootHash := blob.proofRootHash
      proofRootSum := blob.proofRootSum
      nonceDigest := blob.nonceDigest
      signatureDigest := blob.signatureDigest }).mapError .ldkMonitorAux

def new (ldk : Ldk) (channelId : String) (assetId : Bytes32)
    (commitmentNumber localBalance remoteBalance : UInt64) (stateDigest : Bytes32)
    (fundingRoot : StoredRootHashSum) (nonceDigest signatureDigest : Bytes32) :
    Except AssetCommitmentError AssetCommitmentMonitorBlob := do
  let blob : AssetCommitmentMonitorBlob :=
    { schemaVersion := commitmentStoreSchemaVersion
      commitmentNumber
      persisted := true
      stateDigest
      proofRootHash := fundingRoot.hash
      proofRootSum := fundingRoot.sum
      nonceDigest
      signatureDigest
      ldkAuxBlobDigest := none
      blobDigest := digestFor channelId assetId commitmentNumber localBalance remoteBalance
        stateDigest fundingRoot.hash fundingRoot.sum nonceDigest signatureDigest }
  let ldkChannelId ← parseChannelId channelId
  let ldkBlob ← blob.buildLdkAuxBlob ldk ldkChannelId assetId localBalance remoteBalance
  pure { blob with ldkAuxBlobDigest := some (ldk.blobDigest ldkBlob) }

def fundingRoot (blob : AssetCommitmentMonitorBlob) : StoredRootHashSum :=
  ⟨blob.proofRootHash, blob.proofRootSum⟩

def toLdkAuxBlob (ldk : Ldk) (blob : AssetCommitmentMonitorBlob) (channelId assetId : Bytes32)
    (localBalance remoteBalance : UInt64) : Except AssetCommitmentError ldk.MonitorAuxBlob := do
  let ldkBlob ← blob.buildLdkAuxBlob ldk channelId assetId localBalance remoteBalance
  let expected ← okOr blob.ldkAuxBlobDigest (.ldkMonitorAux .missingAssetBlob)
  rejectIf (expected ≠ ldk.blobDigest ldkBlob) (.ldkMonitorAux .blobDigestMismatch)
  pure ldkBlob

end AssetCommitmentMonitorBlob

namespace AssetCommitmentChannelState

def commitmentReplayRoot (state : AssetCommitmentChannelState) :
    Except AssetCommitmentError RootHashSum :=
  (deriveHashSumRoot [⟨state.assetId, state.assetSigningKey, state.totalAmount⟩]).mapError .asset

def initialTransitionId (state : AssetCommitmentChannelState) : Bytes32 :=
  sha256 (utf8 "tap-ldk:asset-commitment-initial-proof-history:v1" ++ utf8 state.channelId ++
    state.assetId.bytes ++ utf8 state.fundingOutpoint ++ u64Bytes state.totalAmount)

def commitmentProofHistoryMetadataFromParts (state : AssetCommitmentChannelState)
    (commitmentNumber localBalance remoteBalance : UInt64) (stateDigest virtualTxId : Bytes32)
    (priorOutputId : String) : CommitmentProofHistory :=
  let digest := sha256 (utf8 "tap-ldk:asset-commitment-proof-history:v1" ++ utf8 state.channelId ++
    state.assetId.bytes ++ u64Bytes commitmentNumber ++ u64Bytes localBalance ++
    u64Bytes remoteBalance ++ stateDigest.bytes ++ virtualTxId.bytes ++
    lengthPrefixed priorOutputId)
  { priorOutputId
    recordId := s!"asset-commitment-update:{state.channelId}:{commitmentNumber}"
    outputId := s!"asset-commitment-output:{state.channelId}:{commitmentNumber}:{toHex digest}"
    transitionId := virtualTxId }

/-- An output that holds the whole channel. -/
def channelOutput (state : AssetCommitmentChannelState) (outputId : String) (root : RootHashSum)
    (resultingState : ProofHistoryState) : ProofHistoryOutput :=
  ⟨outputId, state.assetId, state.totalAmount, state.assetSigningKey, state.fundingOutpoint, root,
    resultingState⟩

def fundingInputId (state : AssetCommitmentChannelState) : String :=
  s!"asset-commitment-funding-input:{state.channelId}"

def fundingInputRecord (state : AssetCommitmentChannelState) (root : RootHashSum) :
    ProofHistoryRecord :=
  { recordId := state.fundingInputId
    kind := .issuance
    virtualTransitionId := state.initialTransitionId
    inputs := []
    outputs := [state.channelOutput state.fundingInputId root .accepted] }

def fundingRecord (state : AssetCommitmentChannelState) (root : RootHashSum) : ProofHistoryRecord :=
  { recordId := state.fundingProofHistoryRecordId
    kind := .channelFunding
    virtualTransitionId := state.fundingProofHistoryTransitionId
    inputs := [⟨state.fundingInputId⟩]
    outputs := [state.channelOutput state.fundingProofHistoryOutputId root .channelLocked] }

def commitmentProofHistoryRecord (state : AssetCommitmentChannelState)
    (proofHistory : CommitmentProofHistory) (localBalance remoteBalance : UInt64) :
    Except AssetCommitmentError ProofHistoryRecord := do
  let sum ← okOr (checkedAdd localBalance remoteBalance) .balanceOverflow
  rejectIf (sum ≠ state.totalAmount)
    (.balanceNotConserved localBalance remoteBalance state.totalAmount)
  let root ← state.commitmentReplayRoot
  pure
    { recordId := proofHistory.recordId
      kind := .commitmentUpdate
      virtualTransitionId := proofHistory.transitionId
      inputs := [⟨proofHistory.priorOutputId⟩]
      outputs := [state.channelOutput proofHistory.outputId root .channelLocked] }

/-- The metadata a recorded commitment must have after the given output. -/
def expectedMetadata (state : AssetCommitmentChannelState) (commitment : StoredAssetCommitment)
    (priorOutputId : String) : CommitmentProofHistory :=
  state.commitmentProofHistoryMetadataFromParts commitment.commitmentNumber
    commitment.localBalance commitment.remoteBalance commitment.stateDigest
    commitment.virtualTxId priorOutputId

def storedMetadata (commitment : StoredAssetCommitment) : CommitmentProofHistory :=
  ⟨commitment.priorProofHistoryOutputId, commitment.proofHistoryRecordId,
    commitment.proofHistoryOutputId, commitment.proofHistoryTransitionId⟩

/-- One commitment: the output before it and the records so far. -/
def addCommitmentRecord (state : AssetCommitmentChannelState)
    (acc : String × List ProofHistoryRecord) (commitment : StoredAssetCommitment) :
    Except AssetCommitmentError (String × List ProofHistoryRecord) := do
  let expected := state.expectedMetadata commitment acc.1
  rejectIf (storedMetadata commitment ≠ expected) (.unexplainedCommitmentHistory state.channelId)
  let record ← state.commitmentProofHistoryRecord expected commitment.localBalance
    commitment.remoteBalance
  pure (commitment.proofHistoryOutputId, acc.2 ++ [record])

/-- The metadata of the last recorded commitment, or of the funding. -/
def expectedLatest (state : AssetCommitmentChannelState) : CommitmentProofHistory :=
  match (state.commitments.toList.map (·.2)).getLast? with
  | some latest => storedMetadata latest
  | none => ⟨state.fundingInputId, state.fundingProofHistoryRecordId,
      state.fundingProofHistoryOutputId, state.fundingProofHistoryTransitionId⟩

def commitmentProofHistoryRecords (state : AssetCommitmentChannelState) :
    Except AssetCommitmentError (List ProofHistoryRecord) := do
  let root ← state.commitmentReplayRoot
  let (_, records) ← (state.commitments.toList.map (·.2)).foldlM state.addCommitmentRecord
    (state.fundingProofHistoryOutputId, [state.fundingInputRecord root, state.fundingRecord root])
  let expectedLatest := state.expectedLatest
  rejectIf (state.latestProofHistoryRecordId ≠ expectedLatest.recordId ∨
    state.latestProofHistoryOutputId ≠ expectedLatest.outputId ∨
    state.latestProofHistoryTransitionId ≠ expectedLatest.transitionId)
    (.unexplainedCommitmentHistory state.channelId)
  pure records

/-- An explanation that the channel is locked in one output. -/
def ExplainsChannel (state : AssetCommitmentChannelState) (root : RootHashSum)
    (e : AcceptedBalanceExplanation) : Prop :=
  e.resultingState = .channelLocked ∧ e.assetId = state.assetId ∧
    e.amount = state.totalAmount ∧ e.scriptKey = state.assetSigningKey ∧
    e.anchorOutpoint = state.fundingOutpoint ∧ e.tapAssetRoot = root

instance (state : AssetCommitmentChannelState) (root : RootHashSum)
    (e : AcceptedBalanceExplanation) : Decidable (state.ExplainsChannel root e) :=
  inferInstanceAs (Decidable (_ ∧ _))

def latestDigest (state : AssetCommitmentChannelState) : Bytes32 :=
  commitmentStateDigest state.channelId state.assetId state.latestCommitmentNumber
    state.localBalance state.remoteBalance

def buildLdkMonitorUpdate (ldk : Ldk) (state : AssetCommitmentChannelState) :
    Except AssetCommitmentError ldk.MonitorUpdate := do
  let channelId ← parseChannelId state.channelId
  let blob ← state.monitorBlob.toLdkAuxBlob ldk channelId state.assetId state.localBalance
    state.remoteBalance
  (ldk.taprootAssetAuxUpdate state.latestCommitmentNumber channelId blob).mapError .ldkMonitorAux

def validateLdkMonitorAuxBlob (ldk : Ldk) (state : AssetCommitmentChannelState)
    (latestDigest : Bytes32) : Except AssetCommitmentError Unit := do
  let ldkUpdate ← state.buildLdkMonitorUpdate ldk
  let channelId ← parseChannelId state.channelId
  (ldk.requireTaprootAssetAuxBlob ldkUpdate
    { channelId
      assetId := state.assetId
      commitmentNumber := state.latestCommitmentNumber
      localBalance := state.localBalance
      remoteBalance := state.remoteBalance
      stateDigest := latestDigest
      proofRootHash := state.monitorBlob.proofRootHash
      proofRootSum := state.monitorBlob.proofRootSum }).mapError .ldkMonitorAux

def validateMonitor (ldk : Ldk) (state : AssetCommitmentChannelState) :
    Except AssetCommitmentError Unit := do
  let blob := state.monitorBlob
  rejectIf (¬ blob.persisted) (.monitorNotPersisted state.channelId)
  rejectIf (blob.commitmentNumber ≠ state.latestCommitmentNumber ∨
    blob.stateDigest ≠ state.latestDigest ∨
    blob.blobDigest ≠ AssetCommitmentMonitorBlob.digestFor state.channelId state.assetId
      state.latestCommitmentNumber state.localBalance state.remoteBalance state.latestDigest
      blob.proofRootHash blob.proofRootSum blob.nonceDigest blob.signatureDigest)
    (.monitorDigestMismatch state.channelId)
  state.validateLdkMonitorAuxBlob ldk state.latestDigest

/-- One entry of the nonce index. Its keys are distinct, so no nonce occurs twice. -/
def validateNonce (state : AssetCommitmentChannelState) (entry : Bytes32 × UInt64) :
    Except AssetCommitmentError Unit := do
  let commitment ← okOr state.commitments[entry.2]? (.storageInvariant
    s!"nonce {toHex entry.1} points to missing commitment {entry.2}")
  rejectIf (commitment.assetNonce ≠ entry.1) (.storageInvariant
    s!"nonce index {toHex entry.1} does not match commitment")

def validateCommitment (state : AssetCommitmentChannelState)
    (entry : UInt64 × StoredAssetCommitment) : Except AssetCommitmentError Unit := do
  let commitment := entry.2
  rejectIf (entry.1 ≠ commitment.commitmentNumber) (.storageInvariant
    s!"commitment map key {entry.1} does not match commitment_number {commitment.commitmentNumber}")
  let sum ← okOr (checkedAdd commitment.localBalance commitment.remoteBalance) .balanceOverflow
  rejectIf (sum ≠ state.totalAmount)
    (.balanceNotConserved commitment.localBalance commitment.remoteBalance state.totalAmount)
  rejectIf (commitment.stateDigest ≠ commitmentStateDigest state.channelId state.assetId
    commitment.commitmentNumber commitment.localBalance commitment.remoteBalance)
    (.storageInvariant s!"commitment {entry.1} state digest mismatch")

def validateProofHistoryChain (state : AssetCommitmentChannelState) :
    Except AssetCommitmentError Unit := do
  let records ← state.commitmentProofHistoryRecords
  let history ← (replay records).mapError .proofHistory
  let latest ← okOr (history.acceptedExplanation state.latestProofHistoryOutputId)
    (.unexplainedCommitmentHistory state.channelId)
  let expectedRoot ← state.commitmentReplayRoot
  rejectIf (latest.recordId ≠ state.latestProofHistoryRecordId ∨
    latest.virtualTransitionId ≠ state.latestProofHistoryTransitionId ∨
    latest.transitionKind ≠ (if state.latestCommitmentNumber = 0 then .channelFunding
      else .commitmentUpdate) ∨
    ¬ state.ExplainsChannel expectedRoot latest)
    (.unexplainedCommitmentHistory state.channelId)

def validate (ldk : Ldk) (state : AssetCommitmentChannelState) :
    Except AssetCommitmentError Unit := do
  let sum ← okOr (checkedAdd state.localBalance state.remoteBalance) .balanceOverflow
  rejectIf (sum ≠ state.totalAmount)
    (.balanceNotConserved state.localBalance state.remoteBalance state.totalAmount)
  rejectIf (state.revokedCommitmentNumbers[state.latestCommitmentNumber]?).isSome
    (.revokedLatestCommitment state.latestCommitmentNumber)
  state.validateMonitor ldk
  state.usedAssetNonces.toList.forM state.validateNonce
  state.commitments.toList.forM state.validateCommitment
  state.validateProofHistoryChain

def fromFundedChannel (ldk : Ldk) (channel : StoredAssetChannel) :
    Except AssetCommitmentError AssetCommitmentChannelState := do
  let commitmentNumber := channel.monitor.commitmentNumber
  let stateDigest := commitmentStateDigest channel.channelId channel.assetId commitmentNumber
    channel.localBalance channel.remoteBalance
  let contextDigest := fun domain =>
    monitorContextDigest domain channel.channelId channel.assetId commitmentNumber stateDigest
  let monitorBlob ← AssetCommitmentMonitorBlob.new ldk channel.channelId channel.assetId
    commitmentNumber channel.localBalance channel.remoteBalance stateDigest
    channel.fundingTapAssetRoot (contextDigest "tap-ldk:asset-commitment-funding-nonce:v1")
    (contextDigest "tap-ldk:asset-commitment-funding-signature:v1")
  let transitionId ← (bytes32FromStr channel.fundingProofHistoryTransitionId).mapError
    .malformedProofHistoryTransitionId
  pure
    { channelId := channel.channelId
      assetId := channel.assetId
      fundingOutpoint := channel.fundingOutpoint
      totalAmount := channel.totalAmount
      latestCommitmentNumber := commitmentNumber
      localBalance := channel.localBalance
      remoteBalance := channel.remoteBalance
      commitments := ∅
      revokedCommitmentNumbers := ∅
      usedAssetNonces := ∅
      assetSigningKey := channel.fundingScriptKey
      monitorBlob
      fundingProofHistoryRecordId := channel.fundingProofHistoryRecordId
      fundingProofHistoryOutputId := channel.fundingProofHistoryOutputId
      fundingProofHistoryTransitionId := transitionId
      latestProofHistoryRecordId := channel.fundingProofHistoryRecordId
      latestProofHistoryOutputId := channel.fundingProofHistoryOutputId
      latestProofHistoryTransitionId := transitionId }

/-- The balances after a transfer in both directions. -/
def movedBalances (state : AssetCommitmentChannelState) (localToRemote remoteToLocal : UInt64) :
    Except AssetCommitmentError (UInt64 × UInt64) := do
  let localAfterSend ← okOr (checkedSub state.localBalance localToRemote)
    (.balanceUnderflow .localSide state.localBalance localToRemote)
  let remoteAfterSend ← okOr (checkedSub state.remoteBalance remoteToLocal)
    (.balanceUnderflow .remoteSide state.remoteBalance remoteToLocal)
  let localBalance ← okOr (checkedAdd localAfterSend remoteToLocal) .balanceOverflow
  let remoteBalance ← okOr (checkedAdd remoteAfterSend localToRemote) .balanceOverflow
  pure (localBalance, remoteBalance)

def updateTransition (state : AssetCommitmentChannelState) (localBalance remoteBalance : UInt64)
    (assetNonce : Bytes32) : AssetVirtualTransition :=
  .channelBalanceUpdate .htlcSettlement state.assetId state.totalAmount localBalance remoteBalance
    assetNonce

def validateUpdate (state : AssetCommitmentChannelState) (request : AssetCommitmentUpdateRequest) :
    Except AssetCommitmentError AssetCommitmentSnapshot := do
  rejectIf (request.channelId ≠ state.channelId) (.unknownChannel request.channelId)
  let expectedCommitmentNumber ← okOr (checkedAdd state.latestCommitmentNumber 1)
    .commitmentNumberOverflow
  rejectIf (request.nextCommitmentNumber ≠ expectedCommitmentNumber)
    (.staleCommitmentNumber expectedCommitmentNumber request.nextCommitmentNumber)
  rejectIf (state.usedAssetNonces[request.assetNonce]?).isSome (.nonceReuse request.assetNonce)
  let (localBalance, remoteBalance) ← state.movedBalances request.localToRemote
    request.remoteToLocal
  let sum ← okOr (checkedAdd localBalance remoteBalance) .balanceOverflow
  rejectIf (sum ≠ state.totalAmount)
    (.balanceNotConserved localBalance remoteBalance state.totalAmount)
  let virtualTransition := state.updateTransition localBalance remoteBalance request.assetNonce
  let expectedVirtualTxId ← virtualTransition.txId.mapError .tapVm
  let expectedWitnessDigest ← virtualTransition.witnessDigest.mapError .tapVm
  rejectIf (request.virtualTxId ≠ expectedVirtualTxId ∨
    request.witnessDigest ≠ expectedWitnessDigest)
    (.invalidVirtualTransition expectedVirtualTxId request.virtualTxId expectedWitnessDigest
      request.witnessDigest)
  rejectIf (request.assetSignature ≠ expectedAssetSignature state.channelId state.assetId
    state.assetSigningKey request.nextCommitmentNumber localBalance remoteBalance
    request.assetNonce request.virtualTxId request.witnessDigest) .invalidSignature
  pure
    { channelId := state.channelId
      assetId := state.assetId
      commitmentNumber := request.nextCommitmentNumber
      localBalance
      remoteBalance
      totalAmount := state.totalAmount
      stateDigest := commitmentStateDigest state.channelId state.assetId
        request.nextCommitmentNumber localBalance remoteBalance }

def buildCommitmentUpdate (state : AssetCommitmentChannelState)
    (localToRemote remoteToLocal : UInt64) (assetNonce : Bytes32) :
    Except AssetCommitmentError AssetCommitmentUpdateRequest := do
  let nextCommitmentNumber ← okOr (checkedAdd state.latestCommitmentNumber 1)
    .commitmentNumberOverflow
  let (localBalance, remoteBalance) ← state.movedBalances localToRemote remoteToLocal
  let virtualTransition := state.updateTransition localBalance remoteBalance assetNonce
  let virtualTxId ← virtualTransition.txId.mapError .tapVm
  let witnessDigest ← virtualTransition.witnessDigest.mapError .tapVm
  pure
    { channelId := state.channelId
      nextCommitmentNumber
      localToRemote
      remoteToLocal
      virtualTxId
      witnessDigest
      assetNonce
      assetSignature := expectedAssetSignature state.channelId state.assetId state.assetSigningKey
        nextCommitmentNumber localBalance remoteBalance assetNonce virtualTxId witnessDigest }

def validateCommitmentProofHistory (state : AssetCommitmentChannelState)
    (request : AssetCommitmentUpdateRequest) (snapshot : AssetCommitmentSnapshot) :
    Except AssetCommitmentError CommitmentProofHistory := do
  let proofHistory := state.commitmentProofHistoryMetadataFromParts snapshot.commitmentNumber
    snapshot.localBalance snapshot.remoteBalance snapshot.stateDigest request.virtualTxId
    state.latestProofHistoryOutputId
  let records ← state.commitmentProofHistoryRecords
  let record ← state.commitmentProofHistoryRecord proofHistory snapshot.localBalance
    snapshot.remoteBalance
  let history ← (replay (records ++ [record])).mapError .proofHistory
  let explanation ← okOr (history.acceptedExplanation proofHistory.outputId)
    (.unexplainedCommitmentHistory state.channelId)
  let expectedRoot ← state.commitmentReplayRoot
  rejectIf (explanation.transitionKind ≠ .commitmentUpdate ∨
    explanation.virtualTransitionId ≠ request.virtualTxId ∨
    ¬ state.ExplainsChannel expectedRoot explanation ∨
    explanation.priorStates.map (fun prior => (prior.outputId, prior.state)) ≠
      [(state.latestProofHistoryOutputId, .channelLocked)])
    (.unexplainedCommitmentHistory state.channelId)
  pure proofHistory

/-- The state with one more commitment, before its monitor blob is replaced. -/
def recordCommitment (state : AssetCommitmentChannelState) (request : AssetCommitmentUpdateRequest)
    (snapshot : AssetCommitmentSnapshot) (proofHistory : CommitmentProofHistory) :
    AssetCommitmentChannelState :=
  { state with
    revokedCommitmentNumbers := state.revokedCommitmentNumbers.insert state.latestCommitmentNumber
      snapshot.commitmentNumber
    latestCommitmentNumber := snapshot.commitmentNumber
    localBalance := snapshot.localBalance
    remoteBalance := snapshot.remoteBalance
    usedAssetNonces := state.usedAssetNonces.insert request.assetNonce snapshot.commitmentNumber
    commitments := state.commitments.insert snapshot.commitmentNumber
      { commitmentNumber := snapshot.commitmentNumber
        localBalance := snapshot.localBalance
        remoteBalance := snapshot.remoteBalance
        stateDigest := snapshot.stateDigest
        virtualTxId := request.virtualTxId
        witnessDigest := request.witnessDigest
        assetNonce := request.assetNonce
        assetSignature := request.assetSignature
        priorProofHistoryOutputId := proofHistory.priorOutputId
        proofHistoryRecordId := proofHistory.recordId
        proofHistoryOutputId := proofHistory.outputId
        proofHistoryTransitionId := proofHistory.transitionId }
    latestProofHistoryRecordId := proofHistory.recordId
    latestProofHistoryOutputId := proofHistory.outputId
    latestProofHistoryTransitionId := proofHistory.transitionId }

end AssetCommitmentChannelState

namespace AssetCommitmentStore

def default : AssetCommitmentStore :=
  { version := commitmentStoreSchemaVersion
    metadata := ⟨"tap-ldk experimental asset commitment store",
      "bounded-regtest-asset-commitment-v2"⟩
    channels := ∅ }

def validateChannel (ldk : Ldk) (entry : String × AssetCommitmentChannelState) :
    Except AssetCommitmentError Unit := do
  rejectIf (entry.1 ≠ entry.2.channelId) (.storageInvariant
    s!"commitment map key {entry.1} does not match channel_id {entry.2.channelId}")
  entry.2.validate ldk

def validate (ldk : Ldk) (store : AssetCommitmentStore) : Except AssetCommitmentError Unit := do
  rejectIf (store.version ≠ commitmentStoreSchemaVersion) (.unsupportedVersion store.version)
  store.channels.toList.forM (validateChannel ldk)

def putChannel (store : AssetCommitmentStore) (channelId : String)
    (state : AssetCommitmentChannelState) : AssetCommitmentStore :=
  { store with channels := store.channels.insert channelId state }

def initializeChannel (ldk : Ldk) (store : AssetCommitmentStore) (channel : StoredAssetChannel) :
    Except AssetCommitmentError (AssetCommitmentChannelState × AssetCommitmentStore) := do
  rejectIf (store.channels[channel.channelId]?).isSome (.duplicateChannel channel.channelId)
  let state ← AssetCommitmentChannelState.fromFundedChannel ldk channel
  let next := store.putChannel channel.channelId state
  next.validate ldk
  pure (state, next)

def applyUpdate (ldk : Ldk) (store : AssetCommitmentStore)
    (request : AssetCommitmentUpdateRequest) :
    Except AssetCommitmentError (AssetCommitmentSnapshot × AssetCommitmentStore) := do
  let current ← okOr store.channels[request.channelId]? (.unknownChannel request.channelId)
  current.validate ldk
  let nextSnapshot ← current.validateUpdate request
  let proofHistory ← current.validateCommitmentProofHistory request nextSnapshot
  let recorded := current.recordCommitment request nextSnapshot proofHistory
  let monitorBlob ← AssetCommitmentMonitorBlob.new ldk recorded.channelId recorded.assetId
    nextSnapshot.commitmentNumber nextSnapshot.localBalance nextSnapshot.remoteBalance
    nextSnapshot.stateDigest recorded.monitorBlob.fundingRoot request.assetNonce
    request.assetSignature
  let next := store.putChannel recorded.channelId { recorded with monitorBlob }
  next.validate ldk
  pure (nextSnapshot, next)

def channelState (store : AssetCommitmentStore) (channelId : String) :
    Except AssetCommitmentError AssetCommitmentChannelState :=
  okOr store.channels[channelId]? (.unknownChannel channelId)

end AssetCommitmentStore

end TapLdk.Commitment
