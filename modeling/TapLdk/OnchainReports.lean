import Mathlib
import TapLdk.OnchainLifecycle

/-! The three reports on the on-chain life of a channel: its events, the observations of these
events, and the callbacks of a regtest chain for these observations. Each validates the one
before it. -/
namespace TapLdk.OnchainReports
open TapLdk.LibraryExcept TapLdk.LibraryMaps TapLdk.LibraryBytes TapLdk.LibrarySha256
open TapLdk.Mssmt TapLdk.Asset TapLdk.ProofHistory TapLdk.ChannelFunding TapLdk.OnchainLifecycle

def onchainLifecycleReportSchemaVersion : UInt32 := 1
def onchainLifecycleChainObservationReportSchemaVersion : UInt32 := 1
def onchainLifecycleLiveRegtestCallbackReportSchemaVersion : UInt32 := 1

def hasStatus (events : List OnchainLifecycleEvent) (kind : OnchainLifecycleEventKind)
    (status : OnchainLifecycleEventStatus) : Bool :=
  events.any fun event => event.kind = kind ∧ event.status = status

def hasProofExport (events : List OnchainLifecycleEvent) (kind : OnchainLifecycleEventKind) : Bool :=
  hasStatus events kind .proofExported

def hasRecovered (events : List OnchainLifecycleEvent) (kind : OnchainLifecycleEventKind) : Bool :=
  hasStatus events kind .assetProofRecovered

def hasRefusal (events : List OnchainLifecycleEvent) (kind : OnchainLifecycleEventKind) : Bool :=
  hasStatus events kind .refused

structure OnchainLifecycleReport where
  version : UInt32
  events : List OnchainLifecycleEvent
  cooperativeCloseExported : Bool
  unilateralRecoveryExplained : Bool
  secondLevelSuccessExplained : Bool
  secondLevelTimeoutExplained : Bool
  finalSweepExplained : Bool
  failedSweepRefused : Bool
  btcOnlySweepRefused : Bool
  restartRecoveryExplained : Bool
  liveChainWatcherBacked : Bool
  productionReady : Bool
deriving DecidableEq

namespace OnchainLifecycleReport

def expectSummary (field : String) (claimed actual : Bool) : Except OnchainLifecycleError Unit :=
  rejectIf (claimed ≠ actual) (.summaryMismatch field)

def validate (report : OnchainLifecycleReport) : Except OnchainLifecycleError Unit := do
  rejectIf (report.version ≠ onchainLifecycleReportSchemaVersion)
    (.unsupportedVersion report.version)
  rejectIf (report.events = []) .emptyReport
  rejectIf report.productionReady .unsupportedProductionClaim
  checkDistinct (·.eventId) OnchainLifecycleEvent.validate (fun event => .duplicateEvent event.eventId)
    (fun _ => .ok ()) report.events
  expectSummary "cooperative_close_exported" report.cooperativeCloseExported
    (hasProofExport report.events .cooperativeCloseLocal &&
      hasProofExport report.events .cooperativeCloseRemote)
  expectSummary "unilateral_recovery_explained" report.unilateralRecoveryExplained
    (hasRecovered report.events .unilateralCommitment)
  expectSummary "second_level_success_explained" report.secondLevelSuccessExplained
    (hasRecovered report.events .secondLevelHtlcSuccess)
  expectSummary "second_level_timeout_explained" report.secondLevelTimeoutExplained
    (hasRecovered report.events .secondLevelHtlcTimeout)
  expectSummary "final_sweep_explained" report.finalSweepExplained
    (hasRecovered report.events .finalSweep)
  expectSummary "failed_sweep_refused" report.failedSweepRefused
    (hasRefusal report.events .failedSweep)
  expectSummary "btc_only_sweep_refused" report.btcOnlySweepRefused
    (hasRefusal report.events .btcOnlySweepRefusal)
  expectSummary "restart_recovery_explained" report.restartRecoveryExplained
    (hasStatus report.events .restartRecovery .restarted)

/-- The report that `new` validates. -/
def ofEvents (events : List OnchainLifecycleEvent) : OnchainLifecycleReport where
  version := onchainLifecycleReportSchemaVersion
  events
  cooperativeCloseExported := hasProofExport events .cooperativeCloseLocal &&
    hasProofExport events .cooperativeCloseRemote
  unilateralRecoveryExplained := hasRecovered events .unilateralCommitment
  secondLevelSuccessExplained := hasRecovered events .secondLevelHtlcSuccess
  secondLevelTimeoutExplained := hasRecovered events .secondLevelHtlcTimeout
  finalSweepExplained := hasRecovered events .finalSweep
  failedSweepRefused := hasRefusal events .failedSweep
  btcOnlySweepRefused := hasRefusal events .btcOnlySweepRefusal
  restartRecoveryExplained := hasStatus events .restartRecovery .restarted
  liveChainWatcherBacked := false
  productionReady := false

def new (events : List OnchainLifecycleEvent) :
    Except OnchainLifecycleError OnchainLifecycleReport := do
  (ofEvents events).validate
  pure (ofEvents events)

end OnchainLifecycleReport

def allLifecycleEventsObserved (events : List OnchainLifecycleEvent)
    (observations : List OnchainLifecycleObservation) : Bool :=
  events.all fun event => observations.any fun observation =>
    observation.lifecycleEventId = event.eventId

def confirmedRecoveryObserved (events : List OnchainLifecycleEvent)
    (observations : List OnchainLifecycleObservation) : Bool :=
  (events.filter fun event => event.status ≠ .refused).all fun event =>
    observations.any fun observation =>
      observation.lifecycleEventId = event.eventId ∧ observation.anchorState = .confirmed

def refusalObservationsPresent (events : List OnchainLifecycleEvent)
    (observations : List OnchainLifecycleObservation) : Bool :=
  (events.filter fun event => event.status = .refused).all fun event =>
    observations.any fun observation =>
      observation.lifecycleEventId = event.eventId ∧
        observation.lifecycleEventStatus = .refused ∧ ¬ emptyOptional observation.refusalReason

def restartObservationPresent (observations : List OnchainLifecycleObservation) : Bool :=
  observations.any fun observation =>
    observation.kind = .restartEvidence ∧ observation.anchorState = .confirmed ∧
      observation.walletEvidenceDigest.isSome ∧ observation.monitorEvidenceDigest.isSome

structure OnchainLifecycleChainObservationReport where
  version : UInt32
  lifecycleReport : OnchainLifecycleReport
  observations : List OnchainLifecycleObservation
  allLifecycleEventsObserved : Bool
  confirmedRecoveryObserved : Bool
  refusalObservationsPresent : Bool
  restartObservationPresent : Bool
  liveChainWatcherBacked : Bool
  productionReady : Bool
deriving DecidableEq

/-- An observation names an event of the report and repeats its kind, status, channel, asset and
amount. -/
def checkLifecycleEvent (eventsById : BTreeMap String OnchainLifecycleEvent)
    (observation : OnchainLifecycleObservation) : Except OnchainLifecycleError Unit := do
  let event ← okOr eventsById[observation.lifecycleEventId]?
    (.observationUnknownLifecycleEvent observation.observationId observation.lifecycleEventId)
  rejectIf (observation.lifecycleEventKind ≠ event.kind ∨
    observation.lifecycleEventStatus ≠ event.status ∨ observation.channelId ≠ event.channelId ∨
    observation.assetId ≠ event.assetId ∨ observation.amount ≠ event.amount)
    (.observationLifecycleEventMismatch observation.observationId observation.lifecycleEventId)

namespace OnchainLifecycleChainObservationReport

def expectSummary (field : String) (claimed actual : Bool) : Except OnchainLifecycleError Unit :=
  rejectIf (claimed ≠ actual) (.observationSummaryMismatch field)

def validate (report : OnchainLifecycleChainObservationReport) :
    Except OnchainLifecycleError Unit := do
  rejectIf (report.version ≠ onchainLifecycleChainObservationReportSchemaVersion)
    (.unsupportedObservationReportVersion report.version)
  report.lifecycleReport.validate
  rejectIf (report.observations = []) .emptyObservationReport
  rejectIf report.liveChainWatcherBacked .unsupportedLiveChainWatcherClaim
  rejectIf report.productionReady .unsupportedProductionClaim
  let events := report.lifecycleReport.events
  let eventsById := insertAll ∅ (events.map fun event => (event.eventId, event))
  checkDistinct (·.observationId) OnchainLifecycleObservation.validate
    (fun observation => .duplicateObservation observation.observationId)
    (checkLifecycleEvent eventsById) report.observations
  expectSummary "all_lifecycle_events_observed" report.allLifecycleEventsObserved
    (OnchainReports.allLifecycleEventsObserved events report.observations)
  expectSummary "confirmed_recovery_observed" report.confirmedRecoveryObserved
    (OnchainReports.confirmedRecoveryObserved events report.observations)
  expectSummary "refusal_observations_present" report.refusalObservationsPresent
    (OnchainReports.refusalObservationsPresent events report.observations)
  expectSummary "restart_observation_present" report.restartObservationPresent
    (OnchainReports.restartObservationPresent report.observations)

/-- The report that `new` validates. -/
def ofObservations (lifecycleReport : OnchainLifecycleReport)
    (observations : List OnchainLifecycleObservation) :
    OnchainLifecycleChainObservationReport where
  version := onchainLifecycleChainObservationReportSchemaVersion
  lifecycleReport
  observations
  allLifecycleEventsObserved :=
    OnchainReports.allLifecycleEventsObserved lifecycleReport.events observations
  confirmedRecoveryObserved :=
    OnchainReports.confirmedRecoveryObserved lifecycleReport.events observations
  refusalObservationsPresent :=
    OnchainReports.refusalObservationsPresent lifecycleReport.events observations
  restartObservationPresent := OnchainReports.restartObservationPresent observations
  liveChainWatcherBacked := false
  productionReady := false

def new (lifecycleReport : OnchainLifecycleReport)
    (observations : List OnchainLifecycleObservation) :
    Except OnchainLifecycleError OnchainLifecycleChainObservationReport := do
  (ofObservations lifecycleReport observations).validate
  pure (ofObservations lifecycleReport observations)

end OnchainLifecycleChainObservationReport

def lifecycleEvidenceDigest (tag : String) (values : List String) : Bytes32 :=
  sha256 (utf8 "tap-ldk:onchain-lifecycle-evidence:v1" ++ lengthPrefixed tag ++
    values.flatMap lengthPrefixed)

def observationKindForEvent : OnchainLifecycleEventKind → OnchainLifecycleObservationKind
  | .cooperativeCloseLocal | .cooperativeCloseRemote => .cooperativeCloseAnchor
  | .unilateralCommitment => .unilateralCommitmentAnchor
  | .secondLevelHtlcSuccess | .secondLevelHtlcTimeout => .secondLevelHtlcAnchor
  | .finalSweep => .finalSweepAnchor
  | .failedSweep => .failedSweep
  | .btcOnlySweepRefusal => .btcOnlySweepRefusal
  | .staleProofOwnershipRefusal => .staleProofOwnershipAnchor
  | .missingProofOwnershipRefusal => .missingProofOwnershipRefusal
  | .restartRecovery => .restartEvidence

def boundedAnchorState : OnchainLifecycleObservationKind → ProofAnchorState
  | .failedSweep | .missingProofOwnershipRefusal => .unknown
  | .staleProofOwnershipAnchor => .stale
  | _ => .confirmed

def boundedChainObservationForEvent (event : OnchainLifecycleEvent) :
    OnchainLifecycleObservation :=
  let kind := observationKindForEvent event.kind
  let observation :=
    (((OnchainLifecycleObservation.new kind kind.requiredSource event
      (boundedAnchorState kind)).withHeight 144).withWalletEvidence
        (event.walletEvidenceDigest.getD
          (lifecycleEvidenceDigest "wallet-observation" [event.eventId]))).withMonitorEvidence
        (event.monitorEvidenceDigest.getD
          (lifecycleEvidenceDigest "monitor-observation" [event.eventId]))
  let observation := if kind.requiresAnchorOutpoint then
    observation.withAnchorOutpoint s!"{event.eventId}:0" else observation
  let observation := if kind.requiresSweepOutput then
    observation.withSweepOutput (event.sweepOutputDigest.getD
      (lifecycleEvidenceDigest "sweep-observation" [event.eventId])) else observation
  if event.status = .refused then
    observation.withRefusalReason (event.refusalReason.getD s!"{event.kind.asStr} refused")
  else observation

def isHex64 (value : String) : Bool :=
  (utf8 value).length = 64 && (utf8 value).all fun byte => (hexDigit byte).isSome

/-- `u32::saturating_add`. -/
def saturatingAdd (a b : UInt32) : UInt32 := if a.toNat + b.toNat < 2 ^ 32 then a + b else 0xffffffff

structure OnchainLifecycleLiveRegtestChainSnapshot where
  network : String
  source : String
  startHeight : UInt32
  observedHeight : UInt32
  minedBlocks : UInt32
  bestBlockHash : String
  snapshotDigest : Bytes32
deriving DecidableEq

namespace OnchainLifecycleLiveRegtestChainSnapshot

def digest (snapshot : OnchainLifecycleLiveRegtestChainSnapshot) : Bytes32 :=
  sha256 (utf8 "tap-ldk:onchain-lifecycle-live-regtest-snapshot:v1" ++
    lengthPrefixed snapshot.network ++ lengthPrefixed snapshot.source ++
    u32Bytes snapshot.startHeight ++ u32Bytes snapshot.observedHeight ++
    u32Bytes snapshot.minedBlocks ++ lengthPrefixed snapshot.bestBlockHash)

def new (startHeight observedHeight minedBlocks : UInt32) (bestBlockHash : String) :
    OnchainLifecycleLiveRegtestChainSnapshot :=
  let snapshot : OnchainLifecycleLiveRegtestChainSnapshot :=
    { network := "regtest"
      source := "bitcoin_core_regtest"
      startHeight
      observedHeight
      minedBlocks
      bestBlockHash
      snapshotDigest := Bytes32.ZERO }
  { snapshot with snapshotDigest := snapshot.digest }

def validate (snapshot : OnchainLifecycleLiveRegtestChainSnapshot) :
    Except OnchainLifecycleError Unit := do
  rejectIf (snapshot.network ≠ "regtest") (.unsupportedLiveRegtestNetwork snapshot.network)
  rejectIf (snapshot.source ≠ "bitcoin_core_regtest")
    (.unsupportedLiveRegtestSource snapshot.source)
  rejectIf (snapshot.minedBlocks = 0 ∨
    snapshot.observedHeight < saturatingAdd snapshot.startHeight snapshot.minedBlocks)
    (.invalidLiveRegtestHeight snapshot.startHeight snapshot.observedHeight snapshot.minedBlocks)
  rejectIf (¬ isHex64 snapshot.bestBlockHash) (.invalidLiveRegtestBlockHash snapshot.bestBlockHash)
  rejectIf (snapshot.snapshotDigest ≠ snapshot.digest) .liveRegtestSnapshotDigestMismatch

end OnchainLifecycleLiveRegtestChainSnapshot

inductive OnchainLifecycleLiveRegtestCallbackKind where
  | chainWatcherAnchor
  | sweeperAnchor
  | sweeperRefusal
  | walletMonitorRefusal
  | walletMonitorRestart
deriving DecidableEq

namespace OnchainLifecycleLiveRegtestCallbackKind

def asStr : OnchainLifecycleLiveRegtestCallbackKind → String
  | chainWatcherAnchor => "chain_watcher_anchor"
  | sweeperAnchor => "sweeper_anchor"
  | sweeperRefusal => "sweeper_refusal"
  | walletMonitorRefusal => "wallet_monitor_refusal"
  | walletMonitorRestart => "wallet_monitor_restart"

def matchesObservation (callbackKind : OnchainLifecycleLiveRegtestCallbackKind)
    (observation : OnchainLifecycleObservation) : Bool :=
  match callbackKind with
  | chainWatcherAnchor => observation.source = .chainWatcher ∧
      (observation.kind = .cooperativeCloseAnchor ∨
        observation.kind = .unilateralCommitmentAnchor ∨
        observation.kind = .secondLevelHtlcAnchor ∨
        observation.kind = .staleProofOwnershipAnchor)
  | sweeperAnchor => observation.source = .sweeper ∧ observation.kind = .finalSweepAnchor
  | sweeperRefusal => observation.source = .sweeper ∧
      (observation.kind = .failedSweep ∨ observation.kind = .btcOnlySweepRefusal)
  | walletMonitorRefusal =>
    observation.source = .walletMonitor ∧ observation.kind = .missingProofOwnershipRefusal
  | walletMonitorRestart =>
    observation.source = .walletMonitor ∧ observation.kind = .restartEvidence

end OnchainLifecycleLiveRegtestCallbackKind

def callbackKindForObservation (observation : OnchainLifecycleObservation) :
    OnchainLifecycleLiveRegtestCallbackKind :=
  match observation.kind with
  | .cooperativeCloseAnchor | .unilateralCommitmentAnchor | .secondLevelHtlcAnchor
  | .staleProofOwnershipAnchor => .chainWatcherAnchor
  | .finalSweepAnchor => .sweeperAnchor
  | .failedSweep | .btcOnlySweepRefusal => .sweeperRefusal
  | .missingProofOwnershipRefusal => .walletMonitorRefusal
  | .restartEvidence => .walletMonitorRestart

structure OnchainLifecycleLiveRegtestCallback where
  callbackId : String
  observationId : String
  lifecycleEventId : String
  source : OnchainLifecycleObservationSource
  kind : OnchainLifecycleObservationKind
  callbackKind : OnchainLifecycleLiveRegtestCallbackKind
  height : UInt32
  blockHash : String
  callbackDigest : Bytes32
deriving DecidableEq

def liveRegtestCallbackIdFor (kind : OnchainLifecycleLiveRegtestCallbackKind)
    (observation : OnchainLifecycleObservation)
    (snapshot : OnchainLifecycleLiveRegtestChainSnapshot) : String :=
  let digest := sha256 (utf8 "tap-ldk:onchain-lifecycle-live-regtest-callback-id:v1" ++
    lengthPrefixed kind.asStr ++ lengthPrefixed observation.observationId ++
    lengthPrefixed observation.lifecycleEventId ++ lengthPrefixed observation.source.asStr ++
    lengthPrefixed observation.kind.asStr ++ u32Bytes snapshot.observedHeight ++
    lengthPrefixed snapshot.bestBlockHash)
  s!"{kind.asStr}:{toHex digest}"

namespace OnchainLifecycleLiveRegtestCallback

def digest (callback : OnchainLifecycleLiveRegtestCallback) : Bytes32 :=
  sha256 (utf8 "tap-ldk:onchain-lifecycle-live-regtest-callback:v1" ++
    lengthPrefixed callback.callbackId ++ lengthPrefixed callback.observationId ++
    lengthPrefixed callback.lifecycleEventId ++ lengthPrefixed callback.source.asStr ++
    lengthPrefixed callback.kind.asStr ++ lengthPrefixed callback.callbackKind.asStr ++
    u32Bytes callback.height ++ lengthPrefixed callback.blockHash)

def new (callbackKind : OnchainLifecycleLiveRegtestCallbackKind)
    (observation : OnchainLifecycleObservation)
    (snapshot : OnchainLifecycleLiveRegtestChainSnapshot) : OnchainLifecycleLiveRegtestCallback :=
  let callback : OnchainLifecycleLiveRegtestCallback :=
    { callbackId := liveRegtestCallbackIdFor callbackKind observation snapshot
      observationId := observation.observationId
      lifecycleEventId := observation.lifecycleEventId
      source := observation.source
      kind := observation.kind
      callbackKind
      height := snapshot.observedHeight
      blockHash := snapshot.bestBlockHash
      callbackDigest := Bytes32.ZERO }
  { callback with callbackDigest := callback.digest }

def validate (callback : OnchainLifecycleLiveRegtestCallback) :
    Except OnchainLifecycleError Unit := do
  requireNonempty "callback_id" callback.callbackId
  requireNonempty "callback_observation_id" callback.observationId
  requireNonempty "callback_lifecycle_event_id" callback.lifecycleEventId
  rejectIf (¬ isHex64 callback.blockHash) (.invalidLiveRegtestBlockHash callback.blockHash)
  rejectIf (callback.callbackDigest ≠ callback.digest)
    (.liveRegtestCallbackDigestMismatch callback.callbackId)

end OnchainLifecycleLiveRegtestCallback

def liveRegtestCallbacksBound (observations : List OnchainLifecycleObservation)
    (callbacks : List OnchainLifecycleLiveRegtestCallback) : Bool :=
  observations.all fun observation => callbacks.any fun callback =>
    callback.observationId = observation.observationId ∧
      callback.lifecycleEventId = observation.lifecycleEventId ∧
      callback.source = observation.source ∧ callback.kind = observation.kind ∧
      callback.callbackKind.matchesObservation observation

structure OnchainLifecycleLiveRegtestCallbackReport where
  version : UInt32
  chainObservationReport : OnchainLifecycleChainObservationReport
  regtestSnapshot : OnchainLifecycleLiveRegtestChainSnapshot
  callbacks : List OnchainLifecycleLiveRegtestCallback
  allCallbacksBound : Bool
  liveRegtestChainBacked : Bool
  productionReady : Bool
deriving DecidableEq

/-- A callback repeats the snapshot and the observation it names. -/
def checkObservation (snapshot : OnchainLifecycleLiveRegtestChainSnapshot)
    (observationsById : BTreeMap String OnchainLifecycleObservation)
    (callback : OnchainLifecycleLiveRegtestCallback) : Except OnchainLifecycleError Unit := do
  rejectIf (callback.height ≠ snapshot.observedHeight ∨ callback.blockHash ≠ snapshot.bestBlockHash)
    (.liveRegtestCallbackSnapshotMismatch callback.callbackId)
  let observation ← okOr observationsById[callback.observationId]?
    (.liveRegtestCallbackUnknownObservation callback.callbackId callback.observationId)
  rejectIf (callback.lifecycleEventId ≠ observation.lifecycleEventId ∨
    callback.source ≠ observation.source ∨ callback.kind ≠ observation.kind ∨
    ¬ callback.callbackKind.matchesObservation observation)
    (.liveRegtestCallbackObservationMismatch callback.callbackId callback.observationId)
  rejectIf (observation.lifecycleEventStatus = .assetProofRecovered ∧
    observation.anchorState ≠ .confirmed)
    (.liveRegtestRecoveredAnchorNotConfirmed callback.callbackId callback.observationId)

namespace OnchainLifecycleLiveRegtestCallbackReport

def validate (report : OnchainLifecycleLiveRegtestCallbackReport) :
    Except OnchainLifecycleError Unit := do
  rejectIf (report.version ≠ onchainLifecycleLiveRegtestCallbackReportSchemaVersion)
    (.unsupportedLiveRegtestReportVersion report.version)
  report.chainObservationReport.validate
  report.regtestSnapshot.validate
  rejectIf (report.callbacks = []) .emptyLiveRegtestCallbackReport
  rejectIf (¬ report.liveRegtestChainBacked) .missingLiveRegtestBacking
  rejectIf report.productionReady .unsupportedProductionClaim
  let observations := report.chainObservationReport.observations
  let observationsById := insertAll ∅
    (observations.map fun observation => (observation.observationId, observation))
  checkDistinct (·.callbackId) OnchainLifecycleLiveRegtestCallback.validate
    (fun callback => .duplicateLiveRegtestCallback callback.callbackId)
    (checkObservation report.regtestSnapshot observationsById) report.callbacks
  rejectIf (report.allCallbacksBound ≠ liveRegtestCallbacksBound observations report.callbacks)
    (.liveRegtestCallbackSummaryMismatch "all_callbacks_bound")

/-- The report that `new` validates. -/
def ofCallbacks (chainObservationReport : OnchainLifecycleChainObservationReport)
    (regtestSnapshot : OnchainLifecycleLiveRegtestChainSnapshot)
    (callbacks : List OnchainLifecycleLiveRegtestCallback) :
    OnchainLifecycleLiveRegtestCallbackReport where
  version := onchainLifecycleLiveRegtestCallbackReportSchemaVersion
  chainObservationReport
  regtestSnapshot
  callbacks
  allCallbacksBound := liveRegtestCallbacksBound chainObservationReport.observations callbacks
  liveRegtestChainBacked := true
  productionReady := false

def new (chainObservationReport : OnchainLifecycleChainObservationReport)
    (regtestSnapshot : OnchainLifecycleLiveRegtestChainSnapshot)
    (callbacks : List OnchainLifecycleLiveRegtestCallback) :
    Except OnchainLifecycleError OnchainLifecycleLiveRegtestCallbackReport := do
  (ofCallbacks chainObservationReport regtestSnapshot callbacks).validate
  pure (ofCallbacks chainObservationReport regtestSnapshot callbacks)

def fromChainObservationReport (chainObservationReport : OnchainLifecycleChainObservationReport)
    (regtestSnapshot : OnchainLifecycleLiveRegtestChainSnapshot) :
    Except OnchainLifecycleError OnchainLifecycleLiveRegtestCallbackReport :=
  new chainObservationReport regtestSnapshot
    (chainObservationReport.observations.map fun observation =>
      .new (callbackKindForObservation observation) observation regtestSnapshot)

end OnchainLifecycleLiveRegtestCallbackReport

end TapLdk.OnchainReports
