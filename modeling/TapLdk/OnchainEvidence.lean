import Mathlib
import TapLdk.OnchainReports

/-! What the reports on the on-chain life of a channel establish: which event an observation
explains, and with which evidence. -/
namespace TapLdk.OnchainEvidence
open TapLdk.LibraryExcept TapLdk.LibraryMaps TapLdk.LibraryBytes TapLdk.LibrarySha256
open TapLdk.Mssmt TapLdk.Asset TapLdk.ProofHistory TapLdk.OnchainLifecycle TapLdk.OnchainReports

theorem requireNonempty_eq_ok {field value : String} {u : Unit} :
    requireNonempty field value = .ok u ↔ value ≠ "" := by
  simp [requireNonempty]

/-- What an event that passes its own validation carries. -/
structure EventValid (event : OnchainLifecycleEvent) : Prop where
  ids : event.eventId ≠ "" ∧ event.channelId ≠ ""
  asset : event.assetId ≠ Bytes32.ZERO
  amount : event.amount ≠ 0
  status : event.status = event.kind.requiredStatus
  history : event.kind.requiresProofHistory = true →
    emptyOptional event.proofHistoryOutputId = false
  handoff : event.kind.requiresProofHandoff = true → event.proofHandoffDigest ≠ none
  sweep : event.kind.requiresSweepOutput = true → event.sweepOutputDigest ≠ none
  restart : event.kind = .restartRecovery →
    event.walletEvidenceDigest ≠ none ∧ event.monitorEvidenceDigest ≠ none
  refusal : event.status = .refused → emptyOptional event.refusalReason = false
  noRefusal : event.status ≠ .refused → event.refusalReason = none
  digest : event.eventDigest = event.digest

theorem event_validate_eq_ok {event : OnchainLifecycleEvent} {u : Unit} :
    event.validate = .ok u ↔ EventValid event := by
  simp only [OnchainLifecycleEvent.validate, check_bind_eq_ok, requireNonempty_eq_ok,
    rejectIf_eq_ok, ne_eq, not_and, not_or, not_not, Bool.not_eq_true,
    Option.isSome_eq_false_iff, Option.isNone_iff_eq_none]
  constructor
  · rintro ⟨hid, hchannel, hasset, hamount, hstatus, hhistory, hhandoff, hsweep, hrestart, hrefusal,
      hnone, hdigest⟩
    exact ⟨⟨hid, hchannel⟩, hasset, hamount, hstatus, hhistory, hhandoff, hsweep, hrestart, hrefusal,
      hnone, hdigest⟩
  · rintro ⟨⟨hid, hchannel⟩, hasset, hamount, hstatus, hhistory, hhandoff, hsweep, hrestart, hrefusal,
      hnone, hdigest⟩
    exact ⟨hid, hchannel, hasset, hamount, hstatus, hhistory, hhandoff, hsweep, hrestart, hrefusal,
      hnone, hdigest⟩

/-- What an observation that passes its own validation carries. -/
structure ObservationValid (o : OnchainLifecycleObservation) : Prop where
  ids : o.observationId ≠ "" ∧ o.lifecycleEventId ≠ "" ∧ o.channelId ≠ ""
  asset : o.assetId ≠ Bytes32.ZERO
  amount : o.amount ≠ 0
  source : o.source = o.kind.requiredSource
  kind : o.kind.matchesLifecycleKind o.lifecycleEventKind = true
  status : o.lifecycleEventStatus = o.kind.requiredStatus
  anchor : o.anchorStateValid = true
  outpoint : o.kind.requiresAnchorOutpoint = true → emptyOptional o.anchorOutpoint = false
  sweep : o.kind.requiresSweepOutput = true → o.sweepOutputDigest ≠ none
  restart : o.kind = .restartEvidence →
    o.walletEvidenceDigest ≠ none ∧ o.monitorEvidenceDigest ≠ none
  refusal : o.lifecycleEventStatus = .refused → emptyOptional o.refusalReason = false
  noRefusal : o.lifecycleEventStatus ≠ .refused → o.refusalReason = none
  digest : o.observationDigest = o.digest

theorem observation_validate_eq_ok {o : OnchainLifecycleObservation} {u : Unit} :
    o.validate = .ok u ↔ ObservationValid o := by
  simp only [OnchainLifecycleObservation.validate, OnchainLifecycleObservation.validateAnchorState,
    check_bind_eq_ok, requireNonempty_eq_ok, rejectIf_eq_ok, ne_eq, not_and, not_or, not_not,
    Bool.not_eq_true, Bool.not_eq_false, Option.isSome_eq_false_iff, Option.isNone_iff_eq_none]
  constructor
  · rintro ⟨hid, hevent, hchannel, hasset, hamount, hsource, hkind, hstatus, hanchor, houtpoint,
      hsweep, hrestart, hrefusal, hnone, hdigest⟩
    exact ⟨⟨hid, hevent, hchannel⟩, hasset, hamount, hsource, hkind, hstatus, hanchor, houtpoint,
      hsweep, hrestart, hrefusal, hnone, hdigest⟩
  · rintro ⟨⟨hid, hevent, hchannel⟩, hasset, hamount, hsource, hkind, hstatus, hanchor, houtpoint,
      hsweep, hrestart, hrefusal, hnone, hdigest⟩
    exact ⟨hid, hevent, hchannel, hasset, hamount, hsource, hkind, hstatus, hanchor, houtpoint,
      hsweep, hrestart, hrefusal, hnone, hdigest⟩

/-- The events of a report: at least one, under distinct ids, each valid. -/
structure EventsValid (events : List OnchainLifecycleEvent) : Prop where
  nonempty : events ≠ []
  distinct : (events.map (·.eventId)).Nodup
  valid : ∀ event ∈ events, EventValid event

theorem lifecycle_events_valid {report : OnchainLifecycleReport} {u : Unit}
    (h : report.validate = .ok u) : EventsValid report.events := by
  simp only [OnchainLifecycleReport.validate, check_bind_eq_ok, rejectIf_eq_ok,
    checkDistinct_eq_ok, event_validate_eq_ok, and_true] at h
  obtain ⟨-, hnonempty, -, ⟨hdistinct, hvalid⟩, -⟩ := h
  exact ⟨hnonempty, hdistinct, hvalid⟩

theorem ofEvents_validate_eq_ok {events : List OnchainLifecycleEvent} {u : Unit} :
    (OnchainLifecycleReport.ofEvents events).validate = .ok u ↔ EventsValid events := by
  refine ⟨lifecycle_events_valid, fun h => ?_⟩
  simp only [OnchainLifecycleReport.validate, OnchainLifecycleReport.expectSummary,
    check_bind_eq_ok, rejectIf_eq_ok, checkDistinct_eq_ok, event_validate_eq_ok, and_true]
  exact ⟨not_not.mpr rfl, h.nonempty, Bool.false_ne_true, ⟨h.distinct, h.valid⟩, not_not.mpr rfl,
    not_not.mpr rfl, not_not.mpr rfl, not_not.mpr rfl, not_not.mpr rfl, not_not.mpr rfl,
    not_not.mpr rfl, not_not.mpr rfl⟩

/-- The observation names the event and repeats what it is about. -/
structure Names (o : OnchainLifecycleObservation) (event : OnchainLifecycleEvent) : Prop where
  eventId : o.lifecycleEventId = event.eventId
  kind : o.lifecycleEventKind = event.kind
  status : o.lifecycleEventStatus = event.status
  channelId : o.channelId = event.channelId
  assetId : o.assetId = event.assetId
  amount : o.amount = event.amount

theorem checkLifecycleEvent_eq_ok {events : List OnchainLifecycleEvent}
    (hdistinct : (events.map (·.eventId)).Nodup) {o : OnchainLifecycleObservation} {u : Unit} :
    checkLifecycleEvent (insertAll ∅ (events.map fun event => (event.eventId, event))) o = .ok u ↔
      ∃ event ∈ events, Names o event := by
  have hkeys : ((events.map fun event => (event.eventId, event)).map (·.1)).Nodup := by
    rw [List.map_map]
    exact hdistinct
  simp only [checkLifecycleEvent, bind_eq_ok, okOr_eq_ok, get_insertAll_empty hkeys, rejectIf_eq_ok,
    ne_eq, not_or, not_not, List.mem_map, Prod.mk.injEq]
  constructor
  · rintro ⟨event, ⟨_, hmem, hid, rfl⟩, hkind, hstatus, hchannel, hasset, hamount⟩
    exact ⟨_, hmem, hid.symm, hkind, hstatus, hchannel, hasset, hamount⟩
  · rintro ⟨event, hmem, hnames⟩
    exact ⟨event, ⟨event, hmem, hnames.eventId.symm, rfl⟩, hnames.kind, hnames.status,
      hnames.channelId, hnames.assetId, hnames.amount⟩

/-- The observations of a report: at least one, under distinct ids, each valid and naming an
event. -/
structure ObservationsValid (events : List OnchainLifecycleEvent)
    (observations : List OnchainLifecycleObservation) : Prop where
  nonempty : observations ≠ []
  distinct : (observations.map (·.observationId)).Nodup
  valid : ∀ o ∈ observations, ObservationValid o ∧ ∃ event ∈ events, Names o event

theorem chain_observations_valid {report : OnchainLifecycleChainObservationReport} {u : Unit}
    (h : report.validate = .ok u) : EventsValid report.lifecycleReport.events ∧
      ObservationsValid report.lifecycleReport.events report.observations := by
  simp only [OnchainLifecycleChainObservationReport.validate, check_bind_eq_ok, rejectIf_eq_ok,
    checkDistinct_eq_ok, observation_validate_eq_ok] at h
  obtain ⟨-, hreport, hnonempty, -, -, ⟨hdistinct, hvalid⟩, -⟩ := h
  have hevents := lifecycle_events_valid hreport
  refine ⟨hevents, hnonempty, hdistinct, fun o ho => ?_⟩
  obtain ⟨hobservation, hnames⟩ := hvalid o ho
  exact ⟨hobservation, (checkLifecycleEvent_eq_ok hevents.distinct).mp hnames⟩

theorem ofObservations_validate_eq_ok {events : List OnchainLifecycleEvent}
    {observations : List OnchainLifecycleObservation} {u : Unit} :
    (OnchainLifecycleChainObservationReport.ofObservations (.ofEvents events)
        observations).validate = .ok u ↔
      EventsValid events ∧ ObservationsValid events observations := by
  refine ⟨chain_observations_valid, fun ⟨hevents, hobservations⟩ => ?_⟩
  simp only [OnchainLifecycleChainObservationReport.validate,
    OnchainLifecycleChainObservationReport.expectSummary, check_bind_eq_ok, rejectIf_eq_ok,
    checkDistinct_eq_ok, observation_validate_eq_ok]
  refine ⟨not_not.mpr rfl, ofEvents_validate_eq_ok.mpr hevents, hobservations.nonempty,
    Bool.false_ne_true, Bool.false_ne_true, ⟨hobservations.distinct, fun o ho => ?_⟩,
    not_not.mpr rfl, not_not.mpr rfl, not_not.mpr rfl, not_not.mpr rfl⟩
  obtain ⟨hobservation, hnames⟩ := hobservations.valid o ho
  exact ⟨hobservation, (checkLifecycleEvent_eq_ok hevents.distinct).mpr hnames⟩

/-- The callback names the observation and repeats where it was made. -/
structure Binds (callback : OnchainLifecycleLiveRegtestCallback) (o : OnchainLifecycleObservation) :
    Prop where
  observationId : callback.observationId = o.observationId
  eventId : callback.lifecycleEventId = o.lifecycleEventId
  source : callback.source = o.source
  kind : callback.kind = o.kind
  callbackKind : callback.callbackKind.matchesObservation o = true

theorem checkObservation_eq_ok {snapshot : OnchainLifecycleLiveRegtestChainSnapshot}
    {observations : List OnchainLifecycleObservation}
    (hdistinct : (observations.map (·.observationId)).Nodup)
    {callback : OnchainLifecycleLiveRegtestCallback} {u : Unit} :
    checkObservation snapshot (insertAll ∅ (observations.map fun o => (o.observationId, o)))
        callback = .ok u ↔
      callback.height = snapshot.observedHeight ∧ callback.blockHash = snapshot.bestBlockHash ∧
        ∃ o ∈ observations, Binds callback o ∧
          (o.lifecycleEventStatus = .assetProofRecovered → o.anchorState = .confirmed) := by
  have hkeys : ((observations.map fun o => (o.observationId, o)).map (·.1)).Nodup := by
    rw [List.map_map]
    exact hdistinct
  simp only [checkObservation, bind_eq_ok, okOr_eq_ok, get_insertAll_empty hkeys, rejectIf_eq_ok,
    exists_const, ne_eq, not_or, not_and, not_not, List.mem_map, Prod.mk.injEq]
  constructor
  · rintro ⟨⟨hheight, hhash⟩, o, ⟨_, hmem, hid, rfl⟩, ⟨hevent, hsource, hkind, hcallback⟩, hanchor⟩
    exact ⟨hheight, hhash, _, hmem, ⟨hid.symm, hevent, hsource, hkind, hcallback⟩, hanchor⟩
  · rintro ⟨hheight, hhash, o, hmem, hbinds, hanchor⟩
    exact ⟨⟨hheight, hhash⟩, o, ⟨o, hmem, hbinds.observationId.symm, rfl⟩,
      ⟨hbinds.eventId, hbinds.source, hbinds.kind, hbinds.callbackKind⟩, hanchor⟩

/-- The callbacks of a report: at least one, under distinct ids, each valid, at the block of the
snapshot and bound to an observation. -/
structure CallbacksValid (snapshot : OnchainLifecycleLiveRegtestChainSnapshot)
    (observations : List OnchainLifecycleObservation)
    (callbacks : List OnchainLifecycleLiveRegtestCallback) : Prop where
  nonempty : callbacks ≠ []
  distinct : (callbacks.map (·.callbackId)).Nodup
  valid : ∀ callback ∈ callbacks, callback.validate = .ok () ∧
    callback.height = snapshot.observedHeight ∧ callback.blockHash = snapshot.bestBlockHash ∧
      ∃ o ∈ observations, Binds callback o ∧
        (o.lifecycleEventStatus = .assetProofRecovered → o.anchorState = .confirmed)

theorem ofCallbacks_validate_ok {report : OnchainLifecycleChainObservationReport}
    {snapshot : OnchainLifecycleLiveRegtestChainSnapshot}
    {callbacks : List OnchainLifecycleLiveRegtestCallback} (hreport : report.validate = .ok ())
    (hsnapshot : snapshot.validate = .ok ())
    (h : CallbacksValid snapshot report.observations callbacks) :
    (OnchainLifecycleLiveRegtestCallbackReport.ofCallbacks report snapshot callbacks).validate =
      .ok () := by
  have hdistinct := (chain_observations_valid hreport).2.distinct
  simp only [OnchainLifecycleLiveRegtestCallbackReport.validate, check_bind_eq_ok, rejectIf_eq_ok,
    checkDistinct_eq_ok]
  refine ⟨not_not.mpr rfl, hreport, hsnapshot, h.nonempty, not_not.mpr rfl, Bool.false_ne_true,
    ⟨h.distinct, fun callback hcallback => ?_⟩, not_not.mpr rfl⟩
  obtain ⟨hvalid, hbound⟩ := h.valid callback hcallback
  exact ⟨hvalid, (checkObservation_eq_ok hdistinct).mpr hbound⟩

theorem callback_new_digest (kind : OnchainLifecycleLiveRegtestCallbackKind)
    (o : OnchainLifecycleObservation) (snapshot : OnchainLifecycleLiveRegtestChainSnapshot) :
    (OnchainLifecycleLiveRegtestCallback.new kind o snapshot).callbackDigest =
      (OnchainLifecycleLiveRegtestCallback.new kind o snapshot).digest := rfl

theorem callbackId_ne (kind : OnchainLifecycleLiveRegtestCallbackKind)
    (o : OnchainLifecycleObservation) (snapshot : OnchainLifecycleLiveRegtestChainSnapshot) :
    liveRegtestCallbackIdFor kind o snapshot ≠ "" := by
  simp [liveRegtestCallbackIdFor, toString_string]

/-- A callback that is made for a valid observation at the block of a snapshot is valid. -/
theorem callback_new_validate {kind : OnchainLifecycleLiveRegtestCallbackKind}
    {o : OnchainLifecycleObservation} {snapshot : OnchainLifecycleLiveRegtestChainSnapshot}
    (h : ObservationValid o) (hhash : isHex64 snapshot.bestBlockHash = true) :
    (OnchainLifecycleLiveRegtestCallback.new kind o snapshot).validate = .ok () := by
  simp only [OnchainLifecycleLiveRegtestCallback.validate, check_bind_eq_ok, rejectIf_eq_ok,
    requireNonempty_eq_ok]
  exact ⟨callbackId_ne kind o snapshot, h.ids.1, h.ids.2.1, not_not.mpr hhash,
    not_not.mpr (callback_new_digest kind o snapshot)⟩

theorem callback_observations_valid {report : OnchainLifecycleLiveRegtestCallbackReport} {u : Unit}
    (h : report.validate = .ok u) : report.chainObservationReport.validate = .ok () := by
  simp only [OnchainLifecycleLiveRegtestCallbackReport.validate, check_bind_eq_ok] at h
  exact h.2.1

/-- The observation is valid by itself and explains one event of the report, which is valid too. -/
def ExplainsOne (events : List OnchainLifecycleEvent) (o : OnchainLifecycleObservation) : Prop :=
  ObservationValid o ∧ ∃ event ∈ events, EventValid event ∧ Names o event ∧
    ∀ other ∈ events, o.lifecycleEventId = other.eventId → other = event

theorem explainsOne_of_valid {events : List OnchainLifecycleEvent}
    {observations : List OnchainLifecycleObservation} (hevents : EventsValid events)
    (h : ObservationsValid events observations) {o : OnchainLifecycleObservation}
    (ho : o ∈ observations) : ExplainsOne events o := by
  obtain ⟨hobservation, event, hmem, hnames⟩ := h.valid o ho
  refine ⟨hobservation, event, hmem, hevents.valid event hmem, hnames, fun other hother hid => ?_⟩
  exact List.inj_on_of_nodup_map hevents.distinct hother hmem (hid.symm.trans hnames.eventId)

/-- The observation carries the wallet and monitor evidence that the event has, and its sweep
output where observations of this kind require one. -/
structure CarriesEvidence (o : OnchainLifecycleObservation) (event : OnchainLifecycleEvent) :
    Prop where
  sweep : o.kind.requiresSweepOutput = true →
    ∀ digest, event.sweepOutputDigest = some digest → o.sweepOutputDigest = some digest
  wallet : ∀ digest, event.walletEvidenceDigest = some digest →
    o.walletEvidenceDigest = some digest
  monitor : ∀ digest, event.monitorEvidenceDigest = some digest →
    o.monitorEvidenceDigest = some digest

theorem bounded_walletEvidence (event : OnchainLifecycleEvent) :
    (boundedChainObservationForEvent event).walletEvidenceDigest =
      some (event.walletEvidenceDigest.getD
        (lifecycleEvidenceDigest "wallet-observation" [event.eventId])) := by
  unfold boundedChainObservationForEvent
  dsimp only
  split_ifs <;> rfl

theorem bounded_monitorEvidence (event : OnchainLifecycleEvent) :
    (boundedChainObservationForEvent event).monitorEvidenceDigest =
      some (event.monitorEvidenceDigest.getD
        (lifecycleEvidenceDigest "monitor-observation" [event.eventId])) := by
  unfold boundedChainObservationForEvent
  dsimp only
  split_ifs <;> rfl

theorem bounded_kind (event : OnchainLifecycleEvent) :
    (boundedChainObservationForEvent event).kind = observationKindForEvent event.kind := by
  unfold boundedChainObservationForEvent
  dsimp only
  split_ifs <;> rfl

theorem bounded_sweepOutput (event : OnchainLifecycleEvent) :
    (boundedChainObservationForEvent event).sweepOutputDigest =
      if (observationKindForEvent event.kind).requiresSweepOutput then
        some (event.sweepOutputDigest.getD
          (lifecycleEvidenceDigest "sweep-observation" [event.eventId]))
      else none := by
  unfold boundedChainObservationForEvent
  dsimp only
  split_ifs <;> rfl

theorem bounded_carriesEvidence (event : OnchainLifecycleEvent) :
    CarriesEvidence (boundedChainObservationForEvent event) event where
  sweep hkind digest hdigest := by
    rw [bounded_kind] at hkind
    rw [bounded_sweepOutput, if_pos hkind, hdigest, Option.getD_some]
  wallet digest hdigest := by rw [bounded_walletEvidence, hdigest, Option.getD_some]
  monitor digest hdigest := by rw [bounded_monitorEvidence, hdigest, Option.getD_some]

/-- Every observation of an accepted report explains one event of the report, with the evidence
that its own kind requires; the observation that the code builds for an event carries the
event's evidence. -/
theorem observations_explain_events :
    (∀ report : OnchainLifecycleChainObservationReport, report.validate = .ok () →
      ∀ o ∈ report.observations, ExplainsOne report.lifecycleReport.events o) ∧
    (∀ report : OnchainLifecycleLiveRegtestCallbackReport, report.validate = .ok () →
      ∀ o ∈ report.chainObservationReport.observations,
        ExplainsOne report.chainObservationReport.lifecycleReport.events o) ∧
    ∀ event, CarriesEvidence (boundedChainObservationForEvent event) event := by
  have hreport {report : OnchainLifecycleChainObservationReport} (h : report.validate = .ok ())
      (o : OnchainLifecycleObservation) (ho : o ∈ report.observations) :
      ExplainsOne report.lifecycleReport.events o := by
    obtain ⟨hevents, hobservations⟩ := chain_observations_valid h
    exact explainsOne_of_valid hevents hobservations ho
  exact ⟨fun _ => hreport, fun _ h => hreport (callback_observations_valid h),
    bounded_carriesEvidence⟩

def repeated (byte : UInt8) : Bytes32 := .replicate 32 byte

def sweepEvent : OnchainLifecycleEvent :=
  (((((OnchainLifecycleEvent.new .finalSweep "channel-1" (repeated 1) 1000).withProofHistory
    "proof-history:final_sweep").withProofHandoff (repeated 2)).withWalletEvidence
      (repeated 3)).withMonitorEvidence (repeated 5)).withSweepOutput (repeated 6)

def sweepObservation : OnchainLifecycleObservation :=
  (((((OnchainLifecycleObservation.new .finalSweepAnchor .sweeper sweepEvent
    .confirmed).withHeight 144).withWalletEvidence (repeated 21)).withMonitorEvidence
      (repeated 22)).withAnchorOutpoint "anchor:0").withSweepOutput (repeated 23)

theorem eventIdFor_ne (kind : OnchainLifecycleEventKind) (channelId : String) (assetId : Bytes32)
    (amount : UInt64) : eventIdFor kind channelId assetId amount ≠ "" := by
  simp [eventIdFor, toString_string]

theorem observationIdFor_ne (kind : OnchainLifecycleObservationKind)
    (source : OnchainLifecycleObservationSource) (event : OnchainLifecycleEvent) :
    observationIdFor kind source event ≠ "" := by
  simp [observationIdFor, toString_string]

theorem event_refreshDigest (event : OnchainLifecycleEvent) :
    event.refreshDigest.eventDigest = event.refreshDigest.digest := rfl

theorem observation_refreshDigest (o : OnchainLifecycleObservation) :
    o.refreshDigest.observationDigest = o.refreshDigest.digest := rfl

theorem sweepEvent_valid : EventValid sweepEvent where
  ids := ⟨eventIdFor_ne .finalSweep "channel-1" (repeated 1) 1000, by decide⟩
  asset := by decide
  amount := by decide
  status := rfl
  history _ := rfl
  handoff _ := Option.some_ne_none (repeated 2)
  sweep _ := Option.some_ne_none (repeated 6)
  restart h := by cases h
  refusal h := by cases h
  noRefusal _ := rfl
  digest := event_refreshDigest _

theorem sweepObservation_valid : ObservationValid sweepObservation where
  ids := ⟨observationIdFor_ne .finalSweepAnchor .sweeper sweepEvent,
    eventIdFor_ne .finalSweep "channel-1" (repeated 1) 1000, by decide⟩
  asset := by decide
  amount := by decide
  source := rfl
  kind := rfl
  status := rfl
  anchor := rfl
  outpoint _ := rfl
  sweep _ := Option.some_ne_none (repeated 23)
  restart h := by cases h
  refusal h := by cases h
  noRefusal _ := rfl
  digest := observation_refreshDigest _

def sweepReport : OnchainLifecycleChainObservationReport :=
  .ofObservations (.ofEvents [sweepEvent]) [sweepObservation]

theorem sweepReport_valid : sweepReport.validate = .ok () := by
  refine ofObservations_validate_eq_ok.mpr ⟨⟨by simp, List.nodup_singleton _, ?_⟩, by simp,
    List.nodup_singleton _, ?_⟩
  · intro event hevent
    obtain rfl := List.mem_singleton.mp hevent
    exact sweepEvent_valid
  · intro o ho
    obtain rfl := List.mem_singleton.mp ho
    exact ⟨sweepObservation_valid, _, List.mem_singleton.mpr rfl, rfl, rfl, rfl, rfl, rfl, rfl⟩

def regtestSnapshot : OnchainLifecycleLiveRegtestChainSnapshot :=
  .new 100 101 1 "abababababababababababababababababababababababababababababababab"

theorem snapshot_new_digest (startHeight observedHeight minedBlocks : UInt32) (hash : String) :
    (OnchainLifecycleLiveRegtestChainSnapshot.new startHeight observedHeight minedBlocks
      hash).snapshotDigest = (OnchainLifecycleLiveRegtestChainSnapshot.new startHeight
        observedHeight minedBlocks hash).digest := rfl

theorem regtestSnapshot_valid : regtestSnapshot.validate = .ok () := by
  simp only [OnchainLifecycleLiveRegtestChainSnapshot.validate, check_bind_eq_ok, rejectIf_eq_ok]
  exact ⟨not_not.mpr rfl, not_not.mpr rfl, by decide, by decide,
    not_not.mpr (snapshot_new_digest ..)⟩

def sweepCallbacks : OnchainLifecycleLiveRegtestCallbackReport :=
  .ofCallbacks sweepReport regtestSnapshot
    [.new .sweeperAnchor sweepObservation regtestSnapshot]

theorem sweepCallbacks_valid : sweepCallbacks.validate = .ok () := by
  refine ofCallbacks_validate_ok sweepReport_valid regtestSnapshot_valid
    ⟨by simp, List.nodup_singleton _, fun callback hcallback => ?_⟩
  obtain rfl := List.mem_singleton.mp hcallback
  exact ⟨callback_new_validate sweepObservation_valid (by decide), rfl, rfl, sweepObservation,
    List.mem_singleton.mpr rfl, ⟨rfl, rfl, rfl, rfl, rfl⟩, fun _ => rfl⟩

theorem sweep_observation_explained : ExplainsOne [sweepEvent] sweepObservation ∧
    ExplainsOne sweepCallbacks.chainObservationReport.lifecycleReport.events sweepObservation :=
  ⟨observations_explain_events.1 _ sweepReport_valid _ (List.mem_singleton.mpr rfl),
    observations_explain_events.2.1 _ sweepCallbacks_valid _ (List.mem_singleton.mpr rfl)⟩

/-- The report of the two is accepted, though none of their evidence agrees. -/
theorem other_evidence_accepted : ∃ report : OnchainLifecycleChainObservationReport,
    report.validate = .ok () ∧ ∃ o ∈ report.observations, ∃ event ∈ report.lifecycleReport.events,
      o.lifecycleEventId = event.eventId ∧
      (∃ digest, event.sweepOutputDigest = some digest ∧ o.sweepOutputDigest ≠ some digest) ∧
      (∃ digest, event.walletEvidenceDigest = some digest ∧
        o.walletEvidenceDigest ≠ some digest) ∧
      ∃ digest, event.monitorEvidenceDigest = some digest ∧
        o.monitorEvidenceDigest ≠ some digest := by
  exact ⟨sweepReport, sweepReport_valid, _, List.mem_singleton.mpr rfl, _,
    List.mem_singleton.mpr rfl, rfl, ⟨repeated 6, rfl, by decide⟩, ⟨repeated 3, rfl, by decide⟩,
    repeated 5, rfl, by decide⟩

end TapLdk.OnchainEvidence
