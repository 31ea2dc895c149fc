import Mathlib
import TapLdk.OnchainEvidence

/-! The evidence pipeline of an on-chain life, from valid events over the observations that the
code builds for them to the callbacks at a regtest block: no stage refuses what the stage before
it made. -/
namespace TapLdk.OnchainPipeline
open TapLdk.LibraryExcept TapLdk.LibraryBytes TapLdk.LibrarySha256
open TapLdk.Mssmt TapLdk.Asset TapLdk.ProofHistory TapLdk.ChannelFunding TapLdk.OnchainLifecycle
open TapLdk.OnchainReports TapLdk.OnchainEvidence

section
variable (event : OnchainLifecycleEvent)

theorem bounded_names : Names (boundedChainObservationForEvent event) event := by
  unfold boundedChainObservationForEvent
  dsimp only
  split_ifs <;> exact ⟨rfl, rfl, rfl, rfl, rfl, rfl⟩

theorem bounded_observationId : (boundedChainObservationForEvent event).observationId =
    observationIdFor (observationKindForEvent event.kind)
      (observationKindForEvent event.kind).requiredSource event := by
  unfold boundedChainObservationForEvent
  dsimp only
  split_ifs <;> rfl

theorem bounded_source : (boundedChainObservationForEvent event).source =
    (observationKindForEvent event.kind).requiredSource := by
  unfold boundedChainObservationForEvent
  dsimp only
  split_ifs <;> rfl

theorem bounded_anchorState : (boundedChainObservationForEvent event).anchorState =
    boundedAnchorState (observationKindForEvent event.kind) := by
  unfold boundedChainObservationForEvent
  dsimp only
  split_ifs <;> rfl

theorem bounded_anchorOutpoint : (boundedChainObservationForEvent event).anchorOutpoint =
    if (observationKindForEvent event.kind).requiresAnchorOutpoint then
      some s!"{event.eventId}:0"
    else none := by
  unfold boundedChainObservationForEvent
  dsimp only
  split_ifs <;> rfl

theorem bounded_refusalReason : (boundedChainObservationForEvent event).refusalReason =
    if event.status = .refused then
      some (event.refusalReason.getD s!"{event.kind.asStr} refused")
    else none := by
  unfold boundedChainObservationForEvent
  dsimp only
  split_ifs <;> rfl

theorem bounded_digest : (boundedChainObservationForEvent event).observationDigest =
    (boundedChainObservationForEvent event).digest := by
  unfold boundedChainObservationForEvent
  dsimp only
  split_ifs <;> exact observation_refreshDigest _

end

theorem observationKind_matches (kind : OnchainLifecycleEventKind) :
    (observationKindForEvent kind).matchesLifecycleKind kind = true := by
  cases kind <;> rfl

theorem observationKind_status (kind : OnchainLifecycleEventKind) :
    (observationKindForEvent kind).requiredStatus = kind.requiredStatus := by
  cases kind <;> rfl

/-- Only the observation of a refusal may be without a confirmed anchor. -/
theorem boundedAnchorState_confirmed {kind : OnchainLifecycleEventKind}
    (h : kind.requiredStatus ≠ .refused) :
    boundedAnchorState (observationKindForEvent kind) = .confirmed := by
  cases kind <;> first | rfl | exact absurd rfl h

theorem bounded_anchorStateValid (event : OnchainLifecycleEvent) :
    (boundedChainObservationForEvent event).anchorStateValid = true := by
  rw [OnchainLifecycleObservation.anchorStateValid, bounded_kind, bounded_anchorState]
  cases event.kind <;> rfl

theorem bounded_outpoint_present {event : OnchainLifecycleEvent}
    (h : (boundedChainObservationForEvent event).kind.requiresAnchorOutpoint = true) :
    emptyOptional (boundedChainObservationForEvent event).anchorOutpoint = false := by
  rw [bounded_kind] at h
  rw [bounded_anchorOutpoint, if_pos h]
  simp [emptyOptional, toString_string]

theorem bounded_sweep_present {event : OnchainLifecycleEvent}
    (h : (boundedChainObservationForEvent event).kind.requiresSweepOutput = true) :
    (boundedChainObservationForEvent event).sweepOutputDigest ≠ none := by
  rw [bounded_kind] at h
  rw [bounded_sweepOutput, if_pos h]
  exact Option.some_ne_none _

/-- The reason of a refusal is the one that the event gives. -/
theorem bounded_reason_present {event : OnchainLifecycleEvent} (hevent : EventValid event)
    (h : event.status = .refused) :
    emptyOptional (boundedChainObservationForEvent event).refusalReason = false := by
  have hreason := hevent.refusal h
  rw [bounded_refusalReason, if_pos h]
  cases hcase : event.refusalReason with
  | none => simp [hcase, emptyOptional] at hreason
  | some reason => rwa [hcase] at hreason

theorem bounded_valid {event : OnchainLifecycleEvent} (h : EventValid event) :
    ObservationValid (boundedChainObservationForEvent event) := by
  have hnames := bounded_names event
  refine ⟨⟨?_, ?_, ?_⟩, ?_, ?_, ?_, ?_, ?_, bounded_anchorStateValid event,
    bounded_outpoint_present, bounded_sweep_present, fun _ => ⟨?_, ?_⟩, ?_, ?_, bounded_digest event⟩
  · rw [bounded_observationId]
    exact observationIdFor_ne _ _ _
  · rw [hnames.eventId]
    exact h.ids.1
  · rw [hnames.channelId]
    exact h.ids.2
  · rw [hnames.assetId]
    exact h.asset
  · rw [hnames.amount]
    exact h.amount
  · rw [bounded_source, bounded_kind]
  · rw [hnames.kind, bounded_kind]
    exact observationKind_matches event.kind
  · rw [hnames.status, bounded_kind, observationKind_status]
    exact h.status
  · rw [bounded_walletEvidence]
    exact Option.some_ne_none _
  · rw [bounded_monitorEvidence]
    exact Option.some_ne_none _
  · rw [hnames.status]
    exact bounded_reason_present h
  · intro hstatus
    rw [hnames.status] at hstatus
    rw [bounded_refusalReason, if_neg hstatus]

theorem eq_of_kind_digest {kind other : String} {d e : Bytes32}
    (h : s!"{kind}:{toHex d}" = s!"{other}:{toHex e}") : d = e := by
  have hlist := congrArg String.toList h
  simp only [toString_string, String.toList_append] at hlist
  have hhex := (List.append_inj' hlist (by rw [toHex_length, toHex_length])).2
  exact toHex_injective (String.toList_inj.mp hhex)

theorem kind_digest_lt {kind : String} (h : (utf8 kind).length ≤ 40) (d : Bytes32) :
    (utf8 s!"{kind}:{toHex d}").length < 2 ^ 64 := by
  have hcolon : (utf8 ":").length = 1 := by decide
  simp only [toString_string, utf8_append, List.length_append, hcolon, toHex,
    utf8_encodeHex_length, d.length_eq]
  omega

/-- A text whose length fits the eight bytes in front of it ends where that length says. -/
theorem lengthPrefixed_append_inj {a b : String} {rest rest' : Bytes}
    (ha : (utf8 a).length < 2 ^ 64) (hb : (utf8 b).length < 2 ^ 64)
    (h : lengthPrefixed a ++ rest = lengthPrefixed b ++ rest') : a = b ∧ rest = rest' := by
  unfold lengthPrefixed at h
  rw [List.append_assoc, List.append_assoc] at h
  obtain ⟨hdigits, htail⟩ := List.append_inj h (by simp)
  have hlength := beBytes_inj ha hb hdigits
  obtain ⟨htext, hrest⟩ := List.append_inj htail hlength
  exact ⟨utf8_injective htext, hrest⟩

theorem kind_text_le (kind : OnchainLifecycleObservationKind) :
    (utf8 kind.asStr).length ≤ 40 := by
  cases kind <;> decide

theorem source_text_lt (source : OnchainLifecycleObservationSource) :
    (utf8 source.asStr).length < 2 ^ 64 := by
  cases source <;> decide

theorem callbackKind_text_lt (kind : OnchainLifecycleLiveRegtestCallbackKind) :
    (utf8 kind.asStr).length < 2 ^ 64 := by
  cases kind <;> decide

/-- What the id of an observation of the event is the hash of. -/
def observationIdMessage (event : OnchainLifecycleEvent) : Bytes :=
  let kind := observationKindForEvent event.kind
  utf8 "tap-ldk:onchain-lifecycle-observation-id:v1" ++
    lengthPrefixed kind.asStr ++ lengthPrefixed kind.requiredSource.asStr ++
    lengthPrefixed event.eventId ++ lengthPrefixed event.kind.asStr ++
    lengthPrefixed event.channelId ++ event.assetId.bytes ++ u64Bytes event.amount

/-- What the id of the callback for an observation is the hash of. -/
def callbackIdMessage (snapshot : OnchainLifecycleLiveRegtestChainSnapshot)
    (o : OnchainLifecycleObservation) : Bytes :=
  utf8 "tap-ldk:onchain-lifecycle-live-regtest-callback-id:v1" ++
    lengthPrefixed (callbackKindForObservation o).asStr ++ lengthPrefixed o.observationId ++
    lengthPrefixed o.lifecycleEventId ++ lengthPrefixed o.source.asStr ++
    lengthPrefixed o.kind.asStr ++ u32Bytes snapshot.observedHeight ++
    lengthPrefixed snapshot.bestBlockHash

theorem observationId_eq (event : OnchainLifecycleEvent) :
    (boundedChainObservationForEvent event).observationId =
      s!"{(observationKindForEvent event.kind).asStr}:{toHex (sha256 (observationIdMessage event))}" := by
  rw [bounded_observationId, observationIdFor, observationIdMessage]

theorem eventId_of_message {event event' : OnchainLifecycleEvent}
    (hfit : (utf8 event.eventId).length < 2 ^ 64) (hfit' : (utf8 event'.eventId).length < 2 ^ 64)
    (h : observationIdMessage event = observationIdMessage event') :
    event.eventId = event'.eventId := by
  simp only [observationIdMessage, List.append_assoc] at h
  have hkind := lengthPrefixed_append_inj ((kind_text_le _).trans_lt (by decide))
    ((kind_text_le _).trans_lt (by decide)) (List.append_cancel_left h)
  have hsource := lengthPrefixed_append_inj (source_text_lt _) (source_text_lt _) hkind.2
  exact (lengthPrefixed_append_inj hfit hfit' hsource.2).1

theorem observationId_lt (event : OnchainLifecycleEvent) :
    (utf8 (boundedChainObservationForEvent event).observationId).length < 2 ^ 64 := by
  rw [observationId_eq]
  exact kind_digest_lt (kind_text_le _) _

theorem observationId_of_message {snapshot : OnchainLifecycleLiveRegtestChainSnapshot}
    {event event' : OnchainLifecycleEvent}
    (h : callbackIdMessage snapshot (boundedChainObservationForEvent event) =
      callbackIdMessage snapshot (boundedChainObservationForEvent event')) :
    (boundedChainObservationForEvent event).observationId =
      (boundedChainObservationForEvent event').observationId := by
  simp only [callbackIdMessage, List.append_assoc] at h
  have hkind := lengthPrefixed_append_inj (callbackKind_text_lt _) (callbackKind_text_lt _)
    (List.append_cancel_left h)
  exact (lengthPrefixed_append_inj (observationId_lt _) (observationId_lt _) hkind.2).1

/-- Distinct event ids make distinct observation ids. -/
theorem observationIds_nodup {events : List OnchainLifecycleEvent}
    (hdistinct : (events.map (·.eventId)).Nodup)
    (hfit : ∀ event ∈ events, (utf8 event.eventId).length < 2 ^ 64)
    (hfree : CollisionFree (events.map observationIdMessage)) :
    ((events.map boundedChainObservationForEvent).map (·.observationId)).Nodup := by
  rw [List.map_map]
  refine hdistinct.of_map _ |>.map_on fun event hevent event' hevent' hid => ?_
  change (boundedChainObservationForEvent event).observationId =
    (boundedChainObservationForEvent event').observationId at hid
  rw [observationId_eq, observationId_eq] at hid
  have hsame := hfree.eq (List.mem_map_of_mem hevent) (List.mem_map_of_mem hevent')
    (eq_of_kind_digest hid)
  exact List.inj_on_of_nodup_map hdistinct hevent hevent'
    (eventId_of_message (hfit event hevent) (hfit event' hevent') hsame)

/-- The callback that is made for an observation at the block of the snapshot. -/
def callbackFor (snapshot : OnchainLifecycleLiveRegtestChainSnapshot)
    (o : OnchainLifecycleObservation) : OnchainLifecycleLiveRegtestCallback :=
  .new (callbackKindForObservation o) o snapshot

theorem callbackId_eq (snapshot : OnchainLifecycleLiveRegtestChainSnapshot)
    (o : OnchainLifecycleObservation) : (callbackFor snapshot o).callbackId =
      s!"{(callbackKindForObservation o).asStr}:{toHex (sha256 (callbackIdMessage snapshot o))}" :=
  rfl

theorem callbackIds_nodup {events : List OnchainLifecycleEvent}
    {snapshot : OnchainLifecycleLiveRegtestChainSnapshot}
    (hdistinct : ((events.map boundedChainObservationForEvent).map (·.observationId)).Nodup)
    (hfree : CollisionFree
      (events.map fun event => callbackIdMessage snapshot (boundedChainObservationForEvent event))) :
    (((events.map boundedChainObservationForEvent).map (callbackFor snapshot)).map
      (·.callbackId)).Nodup := by
  rw [List.map_map] at hdistinct
  rw [List.map_map, List.map_map]
  refine hdistinct.of_map _ |>.map_on fun event hevent event' hevent' hid => ?_
  change (callbackFor snapshot (boundedChainObservationForEvent event)).callbackId =
    (callbackFor snapshot (boundedChainObservationForEvent event')).callbackId at hid
  rw [callbackId_eq, callbackId_eq] at hid
  have hsame := hfree.eq
    (List.mem_map_of_mem (f := fun event =>
      callbackIdMessage snapshot (boundedChainObservationForEvent event)) hevent)
    (List.mem_map_of_mem hevent') (eq_of_kind_digest hid)
  exact List.inj_on_of_nodup_map hdistinct hevent hevent' (observationId_of_message hsame)

theorem callbackKind_matches {o : OnchainLifecycleObservation}
    (h : o.source = o.kind.requiredSource) :
    (callbackKindForObservation o).matchesObservation o = true := by
  unfold callbackKindForObservation
  cases hkind : o.kind <;> rw [hkind] at h <;>
    simp [OnchainLifecycleLiveRegtestCallbackKind.matchesObservation, hkind, h,
      OnchainLifecycleObservationKind.requiredSource]

theorem callbackFor_binds {snapshot : OnchainLifecycleLiveRegtestChainSnapshot}
    {o : OnchainLifecycleObservation} (h : o.source = o.kind.requiredSource) :
    Binds (callbackFor snapshot o) o :=
  ⟨rfl, rfl, rfl, rfl, callbackKind_matches h⟩

/-- A recovered event is observed at a confirmed anchor. -/
theorem bounded_recovered {event : OnchainLifecycleEvent} (h : EventValid event)
    (hstatus : event.status ≠ .refused) :
    (boundedChainObservationForEvent event).anchorState = .confirmed := by
  rw [bounded_anchorState]
  exact boundedAnchorState_confirmed (h.status ▸ hstatus)

section
variable {events : List OnchainLifecycleEvent}

theorem bounded_all_observed : allLifecycleEventsObserved events
    (events.map boundedChainObservationForEvent) = true := by
  refine List.all_eq_true.mpr fun event hevent => List.any_eq_true.mpr ?_
  exact ⟨_, List.mem_map_of_mem hevent, decide_eq_true (bounded_names event).eventId⟩

theorem bounded_recovery_observed (h : ∀ event ∈ events, EventValid event) :
    confirmedRecoveryObserved events (events.map boundedChainObservationForEvent) = true := by
  refine List.all_eq_true.mpr fun event hfilter => List.any_eq_true.mpr ?_
  obtain ⟨hevent, hstatus⟩ := List.mem_filter.mp hfilter
  exact ⟨_, List.mem_map_of_mem hevent, decide_eq_true ⟨(bounded_names event).eventId,
    bounded_recovered (h event hevent) (of_decide_eq_true hstatus)⟩⟩

theorem bounded_refusals_present (h : ∀ event ∈ events, EventValid event) :
    refusalObservationsPresent events (events.map boundedChainObservationForEvent) = true := by
  refine List.all_eq_true.mpr fun event hfilter => List.any_eq_true.mpr ?_
  obtain ⟨hevent, hstatus⟩ := List.mem_filter.mp hfilter
  have hrefused := of_decide_eq_true hstatus
  have hnames := bounded_names event
  refine ⟨_, List.mem_map_of_mem hevent, decide_eq_true ⟨hnames.eventId,
    hnames.status.trans hrefused, ?_⟩⟩
  rw [bounded_reason_present (h event hevent) hrefused]
  exact Bool.false_ne_true

theorem callbacks_bound {observations : List OnchainLifecycleObservation}
    {snapshot : OnchainLifecycleLiveRegtestChainSnapshot}
    (h : ∀ o ∈ observations, o.source = o.kind.requiredSource) :
    liveRegtestCallbacksBound observations (observations.map (callbackFor snapshot)) = true := by
  refine List.all_eq_true.mpr fun o ho => List.any_eq_true.mpr ?_
  have hbinds : Binds (callbackFor snapshot o) o := callbackFor_binds (h o ho)
  exact ⟨_, List.mem_map_of_mem ho, decide_eq_true ⟨hbinds.observationId, hbinds.eventId,
    hbinds.source, hbinds.kind, hbinds.callbackKind⟩⟩

end

theorem bounded_observationsValid {events : List OnchainLifecycleEvent} (h : EventsValid events)
    (hdistinct : ((events.map boundedChainObservationForEvent).map (·.observationId)).Nodup) :
    ObservationsValid events (events.map boundedChainObservationForEvent) := by
  refine ⟨by simpa using h.nonempty, hdistinct, fun o ho => ?_⟩
  obtain ⟨event, hevent, rfl⟩ := List.mem_map.mp ho
  exact ⟨bounded_valid (h.valid event hevent), event, hevent, bounded_names event⟩

theorem snapshot_hash_valid {snapshot : OnchainLifecycleLiveRegtestChainSnapshot} {u : Unit}
    (h : snapshot.validate = .ok u) : isHex64 snapshot.bestBlockHash = true := by
  simp only [OnchainLifecycleLiveRegtestChainSnapshot.validate, check_bind_eq_ok, rejectIf_eq_ok]
    at h
  exact not_not.mp h.2.2.2.1

theorem callbacksFor_valid {events : List OnchainLifecycleEvent}
    {snapshot : OnchainLifecycleLiveRegtestChainSnapshot} (h : EventsValid events)
    (hsnapshot : snapshot.validate = .ok ())
    (hdistinct : (((events.map boundedChainObservationForEvent).map (callbackFor snapshot)).map
      (·.callbackId)).Nodup) :
    CallbacksValid snapshot (events.map boundedChainObservationForEvent)
      ((events.map boundedChainObservationForEvent).map (callbackFor snapshot)) := by
  refine ⟨by simpa using h.nonempty, hdistinct, fun callback hcallback => ?_⟩
  obtain ⟨o, ho, rfl⟩ := List.mem_map.mp hcallback
  obtain ⟨event, hevent, rfl⟩ := List.mem_map.mp ho
  have hvalid := bounded_valid (h.valid event hevent)
  refine ⟨callback_new_validate hvalid (snapshot_hash_valid hsnapshot), rfl, rfl, _, ho,
    callbackFor_binds hvalid.source, fun hrecovered => ?_⟩
  refine bounded_recovered (h.valid event hevent) fun hrefused => ?_
  rw [(bounded_names event).status, hrefused] at hrecovered
  cases hrecovered

/-- Every list of valid events under distinct ids goes through the three reports, the summaries
about what was observed and bound all true. -/
theorem pipeline_complete {events : List OnchainLifecycleEvent}
    {snapshot : OnchainLifecycleLiveRegtestChainSnapshot} (hnonempty : events ≠ [])
    (hvalid : ∀ event ∈ events, event.validate = .ok ())
    (hdistinct : (events.map (·.eventId)).Nodup) (hsnapshot : snapshot.validate = .ok ())
    (hfit : ∀ event ∈ events, (utf8 event.eventId).length < 2 ^ 64)
    (hobservations : CollisionFree (events.map observationIdMessage))
    (hcallbacks : CollisionFree
      (events.map fun event => callbackIdMessage snapshot (boundedChainObservationForEvent event))) :
    ∃ report observed bound, OnchainLifecycleReport.new events = .ok report ∧
      OnchainLifecycleChainObservationReport.new report
        (events.map boundedChainObservationForEvent) = .ok observed ∧
      observed.allLifecycleEventsObserved = true ∧ observed.confirmedRecoveryObserved = true ∧
      observed.refusalObservationsPresent = true ∧
      OnchainLifecycleLiveRegtestCallbackReport.fromChainObservationReport observed snapshot =
        .ok bound ∧
      bound.allCallbacksBound = true := by
  have hevents : EventsValid events :=
    ⟨hnonempty, hdistinct, fun event hevent => event_validate_eq_ok.mp (hvalid event hevent)⟩
  have hids := observationIds_nodup hdistinct hfit hobservations
  have hobserved := (ofObservations_validate_eq_ok (u := ())).mpr
    ⟨hevents, bounded_observationsValid hevents hids⟩
  have hbound := ofCallbacks_validate_ok hobserved hsnapshot
    (callbacksFor_valid hevents hsnapshot (callbackIds_nodup hids hcallbacks))
  refine ⟨_, _, _, check_bind_eq_ok.mpr ⟨ofEvents_validate_eq_ok.mpr hevents, rfl⟩,
    check_bind_eq_ok.mpr ⟨hobserved, rfl⟩, bounded_all_observed,
    bounded_recovery_observed hevents.valid, bounded_refusals_present hevents.valid,
    check_bind_eq_ok.mpr ⟨hbound, rfl⟩, callbacks_bound fun o ho => ?_⟩
  obtain ⟨event, hevent, rfl⟩ := List.mem_map.mp ho
  exact (bounded_valid (hevents.valid event hevent)).source

theorem sweepEvent_id_lt : (utf8 sweepEvent.eventId).length < 2 ^ 64 :=
  @kind_digest_lt OnchainLifecycleEventKind.finalSweep.asStr (by decide) _

/-- A sweep of the channel's bitcoin alone is refused. -/
def refusalEvent : OnchainLifecycleEvent :=
  (OnchainLifecycleEvent.new .btcOnlySweepRefusal "channel-1" (repeated 1) 1000).withRefusalReason
    "asset proof not recovered"

theorem refusalEvent_valid : EventValid refusalEvent where
  ids := ⟨eventIdFor_ne .btcOnlySweepRefusal "channel-1" (repeated 1) 1000, by decide⟩
  asset := by decide
  amount := by decide
  status := rfl
  history h := by cases h
  handoff h := by cases h
  sweep h := by cases h
  restart h := by cases h
  refusal _ := rfl
  noRefusal h := absurd rfl h
  digest := event_refreshDigest _

theorem refusalEvent_id_lt : (utf8 refusalEvent.eventId).length < 2 ^ 64 :=
  @kind_digest_lt OnchainLifecycleEventKind.btcOnlySweepRefusal.asStr (by decide) _

/-- A refusal and then the final sweep, at a regtest block. -/
theorem pipeline_complete_sweep : ∃ report observed bound,
    OnchainLifecycleReport.new [refusalEvent, sweepEvent] = .ok report ∧
      OnchainLifecycleChainObservationReport.new report
        ([refusalEvent, sweepEvent].map boundedChainObservationForEvent) = .ok observed ∧
      observed.allLifecycleEventsObserved = true ∧ observed.confirmedRecoveryObserved = true ∧
      observed.refusalObservationsPresent = true ∧
      OnchainLifecycleLiveRegtestCallbackReport.fromChainObservationReport observed
        regtestSnapshot = .ok bound ∧
      bound.allCallbacksBound = true := by
  apply pipeline_complete
  · exact List.cons_ne_nil _ _
  · intro event hevent
    rcases List.mem_pair.mp hevent with rfl | rfl
    · exact event_validate_eq_ok.mpr refusalEvent_valid
    · exact event_validate_eq_ok.mpr sweepEvent_valid
  · have hids : refusalEvent.eventId ≠ sweepEvent.eventId := by decide +kernel
    simpa using hids
  · exact regtestSnapshot_valid
  · intro event hevent
    rcases List.mem_pair.mp hevent with rfl | rfl
    · exact refusalEvent_id_lt
    · exact sweepEvent_id_lt
  · exact collisionFree_pair (by decide +kernel)
  · exact collisionFree_pair (by decide +kernel)

end TapLdk.OnchainPipeline
