import Mathlib
import TapLdk.ChannelFunding
import TapLdk.ProofHistory

/-! The on-chain life of a channel's assets: events with the evidence that explains them, the
observations of the chain that name these events. -/
namespace TapLdk.OnchainLifecycle
open TapLdk.LibraryExcept TapLdk.LibraryMaps TapLdk.LibraryBytes TapLdk.LibrarySha256
open TapLdk.Mssmt TapLdk.Asset TapLdk.ProofHistory TapLdk.ChannelFunding

inductive OnchainLifecycleEventStatus where
  | proofExported
  | assetProofRecovered
  | refused
  | restarted
deriving DecidableEq

def OnchainLifecycleEventStatus.asStr : OnchainLifecycleEventStatus → String
  | proofExported => "proof_exported"
  | assetProofRecovered => "asset_proof_recovered"
  | refused => "refused"
  | restarted => "restarted"

inductive OnchainLifecycleEventKind where
  | cooperativeCloseLocal
  | cooperativeCloseRemote
  | unilateralCommitment
  | secondLevelHtlcSuccess
  | secondLevelHtlcTimeout
  | finalSweep
  | failedSweep
  | btcOnlySweepRefusal
  | staleProofOwnershipRefusal
  | missingProofOwnershipRefusal
  | restartRecovery
deriving DecidableEq

namespace OnchainLifecycleEventKind

def asStr : OnchainLifecycleEventKind → String
  | cooperativeCloseLocal => "cooperative_close_local"
  | cooperativeCloseRemote => "cooperative_close_remote"
  | unilateralCommitment => "unilateral_commitment"
  | secondLevelHtlcSuccess => "second_level_htlc_success"
  | secondLevelHtlcTimeout => "second_level_htlc_timeout"
  | finalSweep => "final_sweep"
  | failedSweep => "failed_sweep"
  | btcOnlySweepRefusal => "btc_only_sweep_refusal"
  | staleProofOwnershipRefusal => "stale_proof_ownership_refusal"
  | missingProofOwnershipRefusal => "missing_proof_ownership_refusal"
  | restartRecovery => "restart_recovery"

def requiredStatus : OnchainLifecycleEventKind → OnchainLifecycleEventStatus
  | cooperativeCloseLocal | cooperativeCloseRemote => .proofExported
  | unilateralCommitment | secondLevelHtlcSuccess | secondLevelHtlcTimeout | finalSweep =>
    .assetProofRecovered
  | failedSweep | btcOnlySweepRefusal | staleProofOwnershipRefusal
  | missingProofOwnershipRefusal => .refused
  | restartRecovery => .restarted

def requiresProofHistory : OnchainLifecycleEventKind → Bool
  | cooperativeCloseLocal | cooperativeCloseRemote | unilateralCommitment | secondLevelHtlcSuccess
  | secondLevelHtlcTimeout | finalSweep | restartRecovery => true
  | _ => false

def requiresProofHandoff : OnchainLifecycleEventKind → Bool
  | cooperativeCloseLocal | cooperativeCloseRemote | unilateralCommitment | secondLevelHtlcSuccess
  | secondLevelHtlcTimeout | finalSweep => true
  | _ => false

def requiresSweepOutput : OnchainLifecycleEventKind → Bool
  | unilateralCommitment | secondLevelHtlcSuccess | secondLevelHtlcTimeout | finalSweep => true
  | _ => false

end OnchainLifecycleEventKind

inductive OnchainLifecycleObservationSource where
  | chainWatcher
  | sweeper
  | walletMonitor
deriving DecidableEq

def OnchainLifecycleObservationSource.asStr : OnchainLifecycleObservationSource → String
  | chainWatcher => "chain_watcher"
  | sweeper => "sweeper"
  | walletMonitor => "wallet_monitor"

inductive OnchainLifecycleObservationKind where
  | cooperativeCloseAnchor
  | unilateralCommitmentAnchor
  | secondLevelHtlcAnchor
  | finalSweepAnchor
  | failedSweep
  | btcOnlySweepRefusal
  | staleProofOwnershipAnchor
  | missingProofOwnershipRefusal
  | restartEvidence
deriving DecidableEq

namespace OnchainLifecycleObservationKind

def asStr : OnchainLifecycleObservationKind → String
  | cooperativeCloseAnchor => "cooperative_close_anchor"
  | unilateralCommitmentAnchor => "unilateral_commitment_anchor"
  | secondLevelHtlcAnchor => "second_level_htlc_anchor"
  | finalSweepAnchor => "final_sweep_anchor"
  | failedSweep => "failed_sweep"
  | btcOnlySweepRefusal => "btc_only_sweep_refusal"
  | staleProofOwnershipAnchor => "stale_proof_ownership_anchor"
  | missingProofOwnershipRefusal => "missing_proof_ownership_refusal"
  | restartEvidence => "restart_evidence"

def requiredSource : OnchainLifecycleObservationKind → OnchainLifecycleObservationSource
  | cooperativeCloseAnchor | unilateralCommitmentAnchor | secondLevelHtlcAnchor
  | staleProofOwnershipAnchor => .chainWatcher
  | finalSweepAnchor | failedSweep | btcOnlySweepRefusal => .sweeper
  | missingProofOwnershipRefusal | restartEvidence => .walletMonitor

def requiredStatus : OnchainLifecycleObservationKind → OnchainLifecycleEventStatus
  | cooperativeCloseAnchor => .proofExported
  | unilateralCommitmentAnchor | secondLevelHtlcAnchor | finalSweepAnchor => .assetProofRecovered
  | failedSweep | btcOnlySweepRefusal | staleProofOwnershipAnchor
  | missingProofOwnershipRefusal => .refused
  | restartEvidence => .restarted

def matchesLifecycleKind :
    OnchainLifecycleObservationKind → OnchainLifecycleEventKind → Bool
  | cooperativeCloseAnchor, kind =>
    kind = .cooperativeCloseLocal ∨ kind = .cooperativeCloseRemote
  | unilateralCommitmentAnchor, kind => kind = .unilateralCommitment
  | secondLevelHtlcAnchor, kind =>
    kind = .secondLevelHtlcSuccess ∨ kind = .secondLevelHtlcTimeout
  | finalSweepAnchor, kind => kind = .finalSweep
  | failedSweep, kind => kind = .failedSweep
  | btcOnlySweepRefusal, kind => kind = .btcOnlySweepRefusal
  | staleProofOwnershipAnchor, kind => kind = .staleProofOwnershipRefusal
  | missingProofOwnershipRefusal, kind => kind = .missingProofOwnershipRefusal
  | restartEvidence, kind => kind = .restartRecovery

def requiresAnchorOutpoint : OnchainLifecycleObservationKind → Bool
  | cooperativeCloseAnchor | unilateralCommitmentAnchor | secondLevelHtlcAnchor | finalSweepAnchor
  | staleProofOwnershipAnchor => true
  | _ => false

def requiresSweepOutput : OnchainLifecycleObservationKind → Bool
  | finalSweepAnchor | failedSweep | btcOnlySweepRefusal => true
  | _ => false

end OnchainLifecycleObservationKind

inductive OnchainLifecycleError where
  | unsupportedVersion (version : UInt32)
  | unsupportedObservationReportVersion (version : UInt32)
  | unsupportedLiveRegtestReportVersion (version : UInt32)
  | unsupportedProductionClaim
  | unsupportedLiveChainWatcherClaim
  | missingLiveRegtestBacking
  | emptyReport
  | emptyObservationReport
  | emptyLiveRegtestCallbackReport
  | missingField (field : String)
  | duplicateEvent (eventId : String)
  | duplicateObservation (observationId : String)
  | zeroAssetId (eventId : String)
  | zeroAmount (eventId : String)
  | wrongStatus (eventId : String) (kind : OnchainLifecycleEventKind)
      (status : OnchainLifecycleEventStatus)
  | observationZeroAssetId (observationId : String)
  | observationZeroAmount (observationId : String)
  | observationWrongSource (observationId : String) (kind : OnchainLifecycleObservationKind)
      (source : OnchainLifecycleObservationSource)
  | observationWrongLifecycleKind (observationId : String) (kind : OnchainLifecycleObservationKind)
      (lifecycleEventKind : OnchainLifecycleEventKind)
  | observationWrongLifecycleStatus (observationId : String)
      (kind : OnchainLifecycleObservationKind)
      (lifecycleEventStatus : OnchainLifecycleEventStatus)
  | observationWrongAnchorState (observationId : String) (kind : OnchainLifecycleObservationKind)
      (anchorState : ProofAnchorState)
  | missingObservationEvidence (observationId field : String)
  | unexpectedObservationRefusalReason (observationId : String)
  | observationDigestMismatch (observationId : String)
  | observationUnknownLifecycleEvent (observationId lifecycleEventId : String)
  | observationLifecycleEventMismatch (observationId lifecycleEventId : String)
  | observationSummaryMismatch (field : String)
  | unsupportedLiveRegtestNetwork (network : String)
  | unsupportedLiveRegtestSource (source : String)
  | invalidLiveRegtestHeight (startHeight observedHeight minedBlocks : UInt32)
  | invalidLiveRegtestBlockHash (blockHash : String)
  | liveRegtestSnapshotDigestMismatch
  | duplicateLiveRegtestCallback (callbackId : String)
  | liveRegtestCallbackDigestMismatch (callbackId : String)
  | liveRegtestCallbackSnapshotMismatch (callbackId : String)
  | liveRegtestCallbackUnknownObservation (callbackId observationId : String)
  | liveRegtestCallbackObservationMismatch (callbackId observationId : String)
  | liveRegtestRecoveredAnchorNotConfirmed (callbackId observationId : String)
  | liveRegtestCallbackSummaryMismatch (field : String)
  | missingProofHistory (eventId : String)
  | missingProofHandoff (eventId : String)
  | missingSweepOutput (eventId : String)
  | missingRestartEvidence (eventId : String)
  | missingRefusalReason (eventId : String)
  | unexpectedRefusalReason (eventId : String)
  | digestMismatch (eventId : String)
  | summaryMismatch (field : String)
deriving DecidableEq

def requireNonempty (field value : String) : Except OnchainLifecycleError Unit :=
  rejectIf (value = "") (.missingField field)

def emptyOptional (value : Option String) : Bool :=
  (value.map fun text => decide (text = "")).getD true

def optionalStringBytes : Option String → Bytes
  | some value => 1 :: lengthPrefixed value
  | none => [0]

def optionalU32Bytes : Option UInt32 → Bytes
  | some value => 1 :: u32Bytes value
  | none => [0]

def optionalBytes32Bytes : Option Bytes32 → Bytes
  | some value => 1 :: value.bytes
  | none => [0]

structure OnchainLifecycleEvent where
  eventId : String
  kind : OnchainLifecycleEventKind
  status : OnchainLifecycleEventStatus
  channelId : String
  assetId : Bytes32
  amount : UInt64
  proofHistoryOutputId : Option String
  proofHandoffDigest : Option Bytes32
  walletEvidenceDigest : Option Bytes32
  monitorEvidenceDigest : Option Bytes32
  sweepOutputDigest : Option Bytes32
  refusalReason : Option String
  eventDigest : Bytes32
deriving DecidableEq

def eventIdFor (kind : OnchainLifecycleEventKind) (channelId : String) (assetId : Bytes32)
    (amount : UInt64) : String :=
  let digest := sha256 (utf8 "tap-ldk:onchain-lifecycle-event-id:v1" ++ lengthPrefixed kind.asStr ++
    lengthPrefixed channelId ++ assetId.bytes ++ u64Bytes amount)
  s!"{kind.asStr}:{toHex digest}"

namespace OnchainLifecycleEvent

def digest (event : OnchainLifecycleEvent) : Bytes32 :=
  sha256 (utf8 "tap-ldk:onchain-lifecycle-event:v1" ++ lengthPrefixed event.eventId ++
    lengthPrefixed event.kind.asStr ++ lengthPrefixed event.status.asStr ++
    lengthPrefixed event.channelId ++ event.assetId.bytes ++ u64Bytes event.amount ++
    optionalStringBytes event.proofHistoryOutputId ++
    optionalBytes32Bytes event.proofHandoffDigest ++
    optionalBytes32Bytes event.walletEvidenceDigest ++
    optionalBytes32Bytes event.monitorEvidenceDigest ++
    optionalBytes32Bytes event.sweepOutputDigest ++ optionalStringBytes event.refusalReason)

def refreshDigest (event : OnchainLifecycleEvent) : OnchainLifecycleEvent :=
  { event with eventDigest := event.digest }

def new (kind : OnchainLifecycleEventKind) (channelId : String) (assetId : Bytes32)
    (amount : UInt64) : OnchainLifecycleEvent :=
  refreshDigest
    { eventId := eventIdFor kind channelId assetId amount
      kind
      status := kind.requiredStatus
      channelId
      assetId
      amount
      proofHistoryOutputId := none
      proofHandoffDigest := none
      walletEvidenceDigest := none
      monitorEvidenceDigest := none
      sweepOutputDigest := none
      refusalReason := none
      eventDigest := Bytes32.ZERO }

def withProofHistory (event : OnchainLifecycleEvent) (proofHistoryOutputId : String) :
    OnchainLifecycleEvent :=
  refreshDigest { event with proofHistoryOutputId := some proofHistoryOutputId }

def withProofHandoff (event : OnchainLifecycleEvent) (digest : Bytes32) : OnchainLifecycleEvent :=
  refreshDigest { event with proofHandoffDigest := some digest }

def withWalletEvidence (event : OnchainLifecycleEvent) (digest : Bytes32) :
    OnchainLifecycleEvent :=
  refreshDigest { event with walletEvidenceDigest := some digest }

def withMonitorEvidence (event : OnchainLifecycleEvent) (digest : Bytes32) :
    OnchainLifecycleEvent :=
  refreshDigest { event with monitorEvidenceDigest := some digest }

def withSweepOutput (event : OnchainLifecycleEvent) (digest : Bytes32) : OnchainLifecycleEvent :=
  refreshDigest { event with sweepOutputDigest := some digest }

def withRefusalReason (event : OnchainLifecycleEvent) (reason : String) : OnchainLifecycleEvent :=
  refreshDigest { event with refusalReason := some reason }

def validate (event : OnchainLifecycleEvent) : Except OnchainLifecycleError Unit := do
  requireNonempty "event_id" event.eventId
  requireNonempty "channel_id" event.channelId
  rejectIf (event.assetId = Bytes32.ZERO) (.zeroAssetId event.eventId)
  rejectIf (event.amount = 0) (.zeroAmount event.eventId)
  rejectIf (event.status ≠ event.kind.requiredStatus)
    (.wrongStatus event.eventId event.kind event.status)
  rejectIf (event.kind.requiresProofHistory ∧ emptyOptional event.proofHistoryOutputId)
    (.missingProofHistory event.eventId)
  rejectIf (event.kind.requiresProofHandoff ∧ event.proofHandoffDigest = none)
    (.missingProofHandoff event.eventId)
  rejectIf (event.kind.requiresSweepOutput ∧ event.sweepOutputDigest = none)
    (.missingSweepOutput event.eventId)
  rejectIf (event.kind = .restartRecovery ∧
    (event.walletEvidenceDigest = none ∨ event.monitorEvidenceDigest = none))
    (.missingRestartEvidence event.eventId)
  rejectIf (event.status = .refused ∧ emptyOptional event.refusalReason)
    (.missingRefusalReason event.eventId)
  rejectIf (event.status ≠ .refused ∧ event.refusalReason.isSome)
    (.unexpectedRefusalReason event.eventId)
  rejectIf (event.eventDigest ≠ event.digest) (.digestMismatch event.eventId)

end OnchainLifecycleEvent

structure OnchainLifecycleObservation where
  observationId : String
  lifecycleEventId : String
  lifecycleEventKind : OnchainLifecycleEventKind
  lifecycleEventStatus : OnchainLifecycleEventStatus
  source : OnchainLifecycleObservationSource
  kind : OnchainLifecycleObservationKind
  channelId : String
  assetId : Bytes32
  amount : UInt64
  anchorState : ProofAnchorState
  height : Option UInt32
  anchorOutpoint : Option String
  sweepOutputDigest : Option Bytes32
  walletEvidenceDigest : Option Bytes32
  monitorEvidenceDigest : Option Bytes32
  refusalReason : Option String
  observationDigest : Bytes32
deriving DecidableEq

def observationIdFor (kind : OnchainLifecycleObservationKind)
    (source : OnchainLifecycleObservationSource) (lifecycleEvent : OnchainLifecycleEvent) :
    String :=
  let digest := sha256 (utf8 "tap-ldk:onchain-lifecycle-observation-id:v1" ++
    lengthPrefixed kind.asStr ++ lengthPrefixed source.asStr ++
    lengthPrefixed lifecycleEvent.eventId ++ lengthPrefixed lifecycleEvent.kind.asStr ++
    lengthPrefixed lifecycleEvent.channelId ++ lifecycleEvent.assetId.bytes ++
    u64Bytes lifecycleEvent.amount)
  s!"{kind.asStr}:{toHex digest}"

namespace OnchainLifecycleObservation

def digest (observation : OnchainLifecycleObservation) : Bytes32 :=
  sha256 (utf8 "tap-ldk:onchain-lifecycle-observation:v1" ++
    lengthPrefixed observation.observationId ++ lengthPrefixed observation.lifecycleEventId ++
    lengthPrefixed observation.lifecycleEventKind.asStr ++
    lengthPrefixed observation.lifecycleEventStatus.asStr ++
    lengthPrefixed observation.source.asStr ++ lengthPrefixed observation.kind.asStr ++
    lengthPrefixed observation.channelId ++ observation.assetId.bytes ++
    u64Bytes observation.amount ++ lengthPrefixed observation.anchorState.asStr ++
    optionalU32Bytes observation.height ++ optionalStringBytes observation.anchorOutpoint ++
    optionalBytes32Bytes observation.sweepOutputDigest ++
    optionalBytes32Bytes observation.walletEvidenceDigest ++
    optionalBytes32Bytes observation.monitorEvidenceDigest ++
    optionalStringBytes observation.refusalReason)

def refreshDigest (observation : OnchainLifecycleObservation) : OnchainLifecycleObservation :=
  { observation with observationDigest := observation.digest }

def new (kind : OnchainLifecycleObservationKind) (source : OnchainLifecycleObservationSource)
    (lifecycleEvent : OnchainLifecycleEvent) (anchorState : ProofAnchorState) :
    OnchainLifecycleObservation :=
  refreshDigest
    { observationId := observationIdFor kind source lifecycleEvent
      lifecycleEventId := lifecycleEvent.eventId
      lifecycleEventKind := lifecycleEvent.kind
      lifecycleEventStatus := lifecycleEvent.status
      source
      kind
      channelId := lifecycleEvent.channelId
      assetId := lifecycleEvent.assetId
      amount := lifecycleEvent.amount
      anchorState
      height := none
      anchorOutpoint := none
      sweepOutputDigest := none
      walletEvidenceDigest := none
      monitorEvidenceDigest := none
      refusalReason := none
      observationDigest := Bytes32.ZERO }

def withHeight (observation : OnchainLifecycleObservation) (height : UInt32) :
    OnchainLifecycleObservation :=
  refreshDigest { observation with height := some height }

def withAnchorOutpoint (observation : OnchainLifecycleObservation) (anchorOutpoint : String) :
    OnchainLifecycleObservation :=
  refreshDigest { observation with anchorOutpoint := some anchorOutpoint }

def withSweepOutput (observation : OnchainLifecycleObservation) (digest : Bytes32) :
    OnchainLifecycleObservation :=
  refreshDigest { observation with sweepOutputDigest := some digest }

def withWalletEvidence (observation : OnchainLifecycleObservation) (digest : Bytes32) :
    OnchainLifecycleObservation :=
  refreshDigest { observation with walletEvidenceDigest := some digest }

def withMonitorEvidence (observation : OnchainLifecycleObservation) (digest : Bytes32) :
    OnchainLifecycleObservation :=
  refreshDigest { observation with monitorEvidenceDigest := some digest }

def withRefusalReason (observation : OnchainLifecycleObservation) (reason : String) :
    OnchainLifecycleObservation :=
  refreshDigest { observation with refusalReason := some reason }

def anchorStateValid (observation : OnchainLifecycleObservation) : Bool :=
  match observation.kind with
  | .cooperativeCloseAnchor | .unilateralCommitmentAnchor | .secondLevelHtlcAnchor
  | .finalSweepAnchor | .restartEvidence => observation.anchorState = .confirmed
  | .failedSweep => observation.anchorState ≠ .confirmed
  | .btcOnlySweepRefusal => true
  | .staleProofOwnershipAnchor =>
    observation.anchorState = .stale ∨ observation.anchorState = .reorged
  | .missingProofOwnershipRefusal => observation.anchorState = .unknown

def validateAnchorState (observation : OnchainLifecycleObservation) :
    Except OnchainLifecycleError Unit :=
  rejectIf (¬ observation.anchorStateValid) (.observationWrongAnchorState observation.observationId
    observation.kind observation.anchorState)

def validate (observation : OnchainLifecycleObservation) : Except OnchainLifecycleError Unit := do
  requireNonempty "observation_id" observation.observationId
  requireNonempty "lifecycle_event_id" observation.lifecycleEventId
  requireNonempty "channel_id" observation.channelId
  rejectIf (observation.assetId = Bytes32.ZERO) (.observationZeroAssetId observation.observationId)
  rejectIf (observation.amount = 0) (.observationZeroAmount observation.observationId)
  rejectIf (observation.source ≠ observation.kind.requiredSource)
    (.observationWrongSource observation.observationId observation.kind observation.source)
  rejectIf (¬ observation.kind.matchesLifecycleKind observation.lifecycleEventKind)
    (.observationWrongLifecycleKind observation.observationId observation.kind
      observation.lifecycleEventKind)
  rejectIf (observation.lifecycleEventStatus ≠ observation.kind.requiredStatus)
    (.observationWrongLifecycleStatus observation.observationId observation.kind
      observation.lifecycleEventStatus)
  observation.validateAnchorState
  rejectIf (observation.kind.requiresAnchorOutpoint ∧ emptyOptional observation.anchorOutpoint)
    (.missingObservationEvidence observation.observationId "anchor_outpoint")
  rejectIf (observation.kind.requiresSweepOutput ∧ observation.sweepOutputDigest = none)
    (.missingObservationEvidence observation.observationId "sweep_output_digest")
  rejectIf (observation.kind = .restartEvidence ∧ (observation.walletEvidenceDigest = none ∨
    observation.monitorEvidenceDigest = none))
    (.missingObservationEvidence observation.observationId "restart_wallet_and_monitor_evidence")
  rejectIf (observation.lifecycleEventStatus = .refused ∧ emptyOptional observation.refusalReason)
    (.missingObservationEvidence observation.observationId "refusal_reason")
  rejectIf (observation.lifecycleEventStatus ≠ .refused ∧ observation.refusalReason.isSome)
    (.unexpectedObservationRefusalReason observation.observationId)
  rejectIf (observation.observationDigest ≠ observation.digest)
    (.observationDigestMismatch observation.observationId)

end OnchainLifecycleObservation

end TapLdk.OnchainLifecycle
