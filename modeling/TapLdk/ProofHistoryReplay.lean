import Mathlib
import TapLdk.ProofHistoryConservation

/-! Replay as a check on the list alone: each record needs fresh ids, valid outputs and
inputs that earlier records created. The outputs that no record consumes are explained. -/
namespace TapLdk.ProofHistoryReplay
open TapLdk.LibraryExcept TapLdk.LibraryMaps TapLdk.Mssmt TapLdk.Asset TapLdk.ProofHistory
open TapLdk.ProofHistoryConservation

def createdIds (records : List ProofHistoryRecord) : List String := records.flatMap (·.outputIds)

def consumedIds (records : List ProofHistoryRecord) : List String := records.flatMap (·.inputIds)

/-- The prior state that an output of an earlier record gives to an input. -/
def IsSource (before : List ProofHistoryRecord) (input : ProofHistoryInput)
    (prior : ProofHistoryPriorState) : Prop :=
  ∃ record ∈ before, ∃ o ∈ record.outputs, o.outputId = input.outputId ∧
    prior = ⟨o.outputId, o.resultingState, o.amount, o.anchorOutpoint⟩

/-- The maps after `done` hold its outputs, under their ids, and nothing else. -/
structure Replayed (policy : ProofAnchorPolicy) (done : List ProofHistoryRecord)
    (s : ReplayState) : Prop where
  ledger : Ledger done s
  seen : ∀ id : String, s.seenRecords[id]? = none ↔ id ∉ done.map (·.recordId)
  absent : ∀ id : String, s.outputs[id]? = none ↔ id ∉ createdIds done
  stored : ∀ record ∈ done, ∃ priors, List.Forall₂ (IsSource done) record.inputs priors ∧
    ∀ o ∈ record.outputs, s.outputs[o.outputId]? = some (explanationOf record policy priors o)

theorem replayed_empty (policy : ProofAnchorPolicy) : Replayed policy [] .empty where
  ledger := ledger_empty
  seen _ := by simp [ReplayState.empty]
  absent _ := by simp [ReplayState.empty, createdIds]
  stored _ h := by simp at h

theorem isSource_mono {before : List ProofHistoryRecord} {input : ProofHistoryInput}
    {prior : ProofHistoryPriorState} (h : IsSource before input prior)
    (record : ProofHistoryRecord) : IsSource (before ++ [record]) input prior := by
  obtain ⟨r, hr, o, ho, hid, hprior⟩ := h
  exact ⟨r, List.mem_append_left _ hr, o, ho, hid, hprior⟩

section Step

variable {policy : ProofAnchorPolicy} {done : List ProofHistoryRecord}
  {record : ProofHistoryRecord} {priors : List ProofHistoryPriorState} {s s' : ReplayState}

/-- A stored output is the output of one of the records. -/
theorem stored_source (h : Replayed policy done s) {id : String} {e : AcceptedBalanceExplanation}
    (he : s.outputs[id]? = some e) : ∃ r ∈ done, ∃ o ∈ r.outputs, o.outputId = id ∧
      ∃ priors, e = explanationOf r policy priors o := by
  have hmem : id ∈ createdIds done := by
    by_contra hnot
    rw [(h.absent id).mpr hnot] at he
    cases he
  obtain ⟨r, hr, hid⟩ := List.mem_flatMap.mp hmem
  obtain ⟨o, ho, rfl⟩ := List.mem_map.mp hid
  obtain ⟨priors, -, hstored⟩ := h.stored r hr
  rw [hstored o ho, Option.some.injEq] at he
  exact ⟨r, hr, o, ho, rfl, priors, he.symm⟩

theorem isSource_of_prior (h : Replayed policy done s) {input : ProofHistoryInput}
    {prior : ProofHistoryPriorState} (hprior : IsPrior record s.outputs input prior) :
    IsSource done input prior := by
  obtain ⟨e, he, -, rfl⟩ := hprior
  obtain ⟨r, hr, o, ho, hid, _, rfl⟩ := stored_source h he
  exact ⟨r, hr, o, ho, hid, rfl⟩

theorem replayed_step (h : Replayed policy done s) (hstep : ReplayStep policy record priors s s') :
    Replayed policy (done ++ [record]) s' where
  ledger := ledger_step h.ledger hstep
  seen id := by
    have hseen : s'.seenRecords = s.seenRecords.insert record.recordId () := by
      rw [hstep.maps]
    rw [hseen, List.map_append, List.mem_append, not_or, ← h.seen id]
    by_cases hid : id = record.recordId
    · simp [hid]
    · simp [get_insert_ne hid, hid]
  absent id := by
    rw [createdIds, List.flatMap_append, List.mem_append, not_or, List.flatMap_singleton]
    by_cases hid : id ∈ record.outputIds
    · obtain ⟨o, ho, rfl⟩ := List.mem_map.mp hid
      simp [(hstep.get_new ho).1, hid]
    · simp only [hstep.outputs_old hid, h.absent id, hid, not_false_eq_true, and_true, createdIds]
  stored r hr := by
    rcases List.mem_append.mp hr with hr | hr
    · obtain ⟨ps, hps, hstored⟩ := h.stored r hr
      refine ⟨ps, hps.imp fun _ _ hin => isSource_mono hin record, fun o ho => ?_⟩
      have hnot : o.outputId ∉ record.outputIds := by
        intro hmem
        obtain ⟨o', ho', heq⟩ := List.mem_map.mp hmem
        have hfresh := hstep.fresh o' ho'
        rw [heq, hstored o ho] at hfresh
        cases hfresh
      rw [hstep.outputs_old hnot, hstored o ho]
    · obtain rfl := List.mem_singleton.mp hr
      refine ⟨priors, ?_, fun o ho => (hstep.get_new ho).1⟩
      exact hstep.prior.imp fun _ _ hin => isSource_mono (isSource_of_prior h hin) r

/-- What a record needs of the records before it, apart from checks on itself. -/
structure Admissible (policy : ProofAnchorPolicy) (before : List ProofHistoryRecord)
    (record : ProofHistoryRecord) : Prop where
  recordId : record.recordId ≠ ""
  newRecord : record.recordId ∉ before.map (·.recordId)
  transitionId : record.virtualTransitionId ≠ Bytes32.ZERO
  inputs_nil : record.kind = .issuance ↔ record.inputs = []
  outputs_ne : record.outputs ≠ []
  inputIds_nodup : record.inputIds.Nodup
  outputIds_nodup : record.outputIds.Nodup
  output : ∀ o ∈ record.outputs, IsOutput record o
  bounded : (record.outputs.map fun o => o.amount.toNat).sum < 2 ^ 64
  fresh : ∀ o ∈ record.outputs, o.outputId ∉ createdIds before
  anchor : ∀ o ∈ record.outputs,
    policy.acceptsAnchorState (policy.anchorState o.anchorOutpoint) = true
  /-- The outputs the inputs spend: created before, of the asset of the outputs, in a state the
  kind allows, and of the same total. -/
  sources : ∃ spent : List ProofHistoryOutput, record.inputIds = spent.map (·.outputId) ∧
    (∀ o ∈ spent, (∃ r ∈ before, o ∈ r.outputs) ∧
      record.kind.allowsInputState o.resultingState = true ∧
      ∀ o' ∈ record.outputs, o'.assetId = o.assetId) ∧
    (record.kind ≠ .issuance → (spent.map fun o => o.amount.toNat).sum =
      (record.outputs.map fun o => o.amount.toNat).sum)

/-- The prior states of inputs that spend stored outputs. -/
theorem priors_of_sources (h : Replayed policy done s) {inputs : List ProofHistoryInput}
    {spent : List ProofHistoryOutput} (hids : inputs.map (·.outputId) = spent.map (·.outputId))
    (hspent : ∀ o ∈ spent, (∃ r ∈ done, o ∈ r.outputs) ∧
      record.kind.allowsInputState o.resultingState = true) :
    ∃ priors, List.Forall₂ (IsPrior record s.outputs) inputs priors ∧
      (inputs.map (·.outputId)).map (amountAt s.outputs) = spent.map fun o => o.amount.toNat := by
  induction spent generalizing inputs with
  | nil =>
    obtain rfl : inputs = [] := by simpa using hids
    exact ⟨[], .nil, rfl⟩
  | cons o spent ih =>
    cases inputs with
    | nil => simp at hids
    | cons input inputs =>
      obtain ⟨hid, hids⟩ := List.cons.inj hids
      obtain ⟨priors, hpriors, hamounts⟩ := ih hids fun o ho => hspent o (List.mem_cons_of_mem _ ho)
      obtain ⟨⟨r, hr, ho⟩, hallow⟩ := hspent o (List.mem_cons_self ..)
      obtain ⟨ps, -, hstored⟩ := h.stored r hr
      have hget := hstored o ho
      dsimp only at hid
      rw [← hid] at hget
      refine ⟨_, .cons ⟨_, hget, hallow, rfl⟩ hpriors, ?_⟩
      rw [List.map_cons, List.map_cons, List.map_cons, hamounts, amountAt, hget]
      rfl

/-- An admissible record replays. -/
theorem replayRecord_ok (h : Replayed policy done s) (hr : Admissible policy done record) :
    ∃ priors s', replayRecord policy s record = .ok s' ∧
      ReplayStep policy record priors s s' := by
  obtain ⟨spent, hids, hspent, hsum⟩ := hr.sources
  obtain ⟨priors, hpriors, hamounts⟩ := @priors_of_sources _ _ record _ h _ _ hids
    fun o ho => ⟨(hspent o ho).1, (hspent o ho).2.1⟩
  have hstep : ReplayStep policy record priors s _ :=
    { recordId := hr.recordId
      newRecord := (h.seen _).mpr hr.newRecord
      transitionId := hr.transitionId
      inputs_nil := hr.inputs_nil
      outputs_ne := hr.outputs_ne
      inputIds_nodup := hr.inputIds_nodup
      outputIds_nodup := hr.outputIds_nodup
      prior := hpriors
      output := hr.output
      bounded := hr.bounded
      fresh := fun o ho => (h.absent _).mpr (hr.fresh o ho)
      anchor := hr.anchor
      asset := fun hkind => by
        obtain ⟨o, ho⟩ := List.exists_mem_of_ne_nil _ hr.outputs_ne
        refine ⟨o.assetId, fun id hid => ?_, fun o' ho' => ?_⟩
        · rw [hids] at hid
          obtain ⟨p, hp, rfl⟩ := List.mem_map.mp hid
          obtain ⟨⟨r, hrmem, hpr⟩, -, hasset⟩ := hspent p hp
          obtain ⟨_, -, hstored⟩ := h.stored r hrmem
          exact ⟨_, hstored p hpr, (hasset o ho).symm⟩
        · have hne : spent ≠ [] := by
            rintro rfl
            have hnil : record.inputs = [] := List.map_eq_nil_iff.mp hids
            exact hkind (hr.inputs_nil.mpr hnil)
          obtain ⟨p, hp⟩ := List.exists_mem_of_ne_nil _ hne
          have hasset := (hspent p hp).2.2
          rw [hasset o' ho', hasset o ho]
      conserved := fun hkind => by
        rw [← hsum hkind, ProofHistoryRecord.inputIds, hamounts]
      maps := rfl }
  exact ⟨priors, _, (replayRecord_eq_ok h.ledger.keyed).mpr ⟨priors, hstep⟩, hstep⟩

/-- One output may be issued. -/
theorem admissible_issue {o : ProofHistoryOutput} (hkind : record.kind = .issuance)
    (hinputs : record.inputs = []) (houtputs : record.outputs = [o]) (hid : record.recordId ≠ "")
    (hnew : record.recordId ∉ done.map (·.recordId))
    (htransition : record.virtualTransitionId ≠ Bytes32.ZERO) (ho : IsOutput record o)
    (hfresh : o.outputId ∉ createdIds done)
    (hanchor : policy.acceptsAnchorState (policy.anchorState o.anchorOutpoint) = true) :
    Admissible policy done record where
  recordId := hid
  newRecord := hnew
  transitionId := htransition
  inputs_nil := by simp [hkind, hinputs]
  outputs_ne := by simp [houtputs]
  inputIds_nodup := by simp [ProofHistoryRecord.inputIds, hinputs]
  outputIds_nodup := by simp [ProofHistoryRecord.outputIds, houtputs]
  output := by simpa [houtputs] using ho
  bounded := by simpa [houtputs] using o.amount.toNat_lt
  fresh := by simpa [houtputs] using hfresh
  anchor := by simpa [houtputs] using hanchor
  sources := ⟨[], by simp [ProofHistoryRecord.inputIds, hinputs], by simp,
    fun h => absurd hkind h⟩

/-- One output may be moved, whole, into another of the same asset. -/
theorem admissible_move {r : ProofHistoryRecord} {p o : ProofHistoryOutput}
    (hkind : record.kind ≠ .issuance) (hinputs : record.inputs = [⟨p.outputId⟩])
    (houtputs : record.outputs = [o]) (hid : record.recordId ≠ "")
    (hnew : record.recordId ∉ done.map (·.recordId))
    (htransition : record.virtualTransitionId ≠ Bytes32.ZERO) (hr : r ∈ done) (hp : p ∈ r.outputs)
    (hallow : record.kind.allowsInputState p.resultingState = true)
    (hamount : o.amount = p.amount) (hasset : o.assetId = p.assetId) (ho : IsOutput record o)
    (hfresh : o.outputId ∉ createdIds done)
    (hanchor : policy.acceptsAnchorState (policy.anchorState o.anchorOutpoint) = true) :
    Admissible policy done record where
  recordId := hid
  newRecord := hnew
  transitionId := htransition
  inputs_nil := by simp [hkind, hinputs]
  outputs_ne := by simp [houtputs]
  inputIds_nodup := by simp [ProofHistoryRecord.inputIds, hinputs]
  outputIds_nodup := by simp [ProofHistoryRecord.outputIds, houtputs]
  output := by simpa [houtputs] using ho
  bounded := by simpa [houtputs] using o.amount.toNat_lt
  fresh := by simpa [houtputs] using hfresh
  anchor := by simpa [houtputs] using hanchor
  sources := ⟨[p], by simp [ProofHistoryRecord.inputIds, hinputs],
    by simpa [houtputs, hallow, hasset] using ⟨r, hr, hp⟩, fun _ => by simp [houtputs, hamount]⟩

end Step

/-- A history replays when each of its records is admissible after those before it. -/
theorem replayState_ok {policy : ProofAnchorPolicy} {records : List ProofHistoryRecord}
    (h : ∀ before record after, records = before ++ record :: after →
      Admissible policy before record) :
    ∃ s, replayState records policy = .ok s ∧ Replayed policy records s := by
  induction records using List.reverseRecOn with
  | nil => exact ⟨.empty, rfl, replayed_empty policy⟩
  | append_singleton records record ih =>
    obtain ⟨s, hs, hreplayed⟩ := ih fun before r after heq =>
      h before r (after ++ [record]) (by simp [heq])
    obtain ⟨priors, s', hs', hstep⟩ := replayRecord_ok hreplayed (h records record [] rfl)
    refine ⟨s', ?_, replayed_step hreplayed hstep⟩
    rw [replayState, foldlM_concat]
    change replayState records policy >>= _ = _
    rw [hs, ok_bind, hs']

theorem replayed_of_ok {policy : ProofAnchorPolicy} {records : List ProofHistoryRecord}
    {s : ReplayState} (h : replayState records policy = .ok s) : Replayed policy records s := by
  refine foldlM_induction (Replayed policy) (replayed_empty policy) ?_ h
  intro done record s s' hdone hrecord
  obtain ⟨priors, hstep⟩ := replayRecord_step hdone.ledger.keyed hrecord
  exact replayed_step hdone hstep

/-- The records of one history, one by one. -/
theorem admissible_cons {policy : ProofAnchorPolicy} {done records : List ProofHistoryRecord}
    {record : ProofHistoryRecord} (hrecord : Admissible policy done record)
    (h : ∀ before r after, records = before ++ r :: after →
      Admissible policy ((done ++ [record]) ++ before) r) :
    ∀ before r after, record :: records = before ++ r :: after →
      Admissible policy (done ++ before) r := by
  intro before r after heq
  cases before with
  | nil =>
    obtain ⟨rfl, -⟩ := List.cons.inj heq
    rwa [List.append_nil]
  | cons b before =>
    obtain ⟨rfl, htail⟩ := List.cons.inj heq
    have hr := h before r after htail
    rwa [List.append_assoc, List.singleton_append] at hr

theorem admissible_nil {policy : ProofAnchorPolicy} (done : List ProofHistoryRecord) :
    ∀ before r after, ([] : List ProofHistoryRecord) = before ++ r :: after →
      Admissible policy (done ++ before) r := by
  intro before r after heq
  simp at heq

/-- What a history explains: the outputs that no record consumes. -/
theorem explanation_iff {policy : ProofAnchorPolicy} {records : List ProofHistoryRecord}
    {s : ReplayState} (h : Replayed policy records s) {id : String}
    {e : AcceptedBalanceExplanation} :
    s.explanations[id]? = some e ↔ id ∉ consumedIds records ∧ s.outputs[id]? = some e := by
  by_cases hid : id ∈ consumedIds records
  · simp [h.ledger.gone id hid, hid]
  · rw [h.ledger.kept id hid]
    simp [hid]

/-- The explanation of an unconsumed output. -/
theorem explained {policy : ProofAnchorPolicy} {records : List ProofHistoryRecord}
    {s : ReplayState} (h : Replayed policy records s) {record : ProofHistoryRecord}
    (hrecord : record ∈ records) {o : ProofHistoryOutput} (ho : o ∈ record.outputs)
    (hid : o.outputId ∉ consumedIds records) :
    ∃ priors, List.Forall₂ (IsSource records) record.inputs priors ∧
      s.explanations[o.outputId]? = some (explanationOf record policy priors o) := by
  obtain ⟨priors, hpriors, hstored⟩ := h.stored record hrecord
  exact ⟨priors, hpriors, explanation_iff h |>.mpr ⟨hid, hstored o ho⟩⟩

/-- Inputs spend outputs of the same history. -/
theorem consumedIds_subset {policy : ProofAnchorPolicy} {records : List ProofHistoryRecord}
    {s : ReplayState} (h : Replayed policy records s) {id : String}
    (hid : id ∈ consumedIds records) : id ∈ createdIds records := by
  obtain ⟨record, hrecord, hinput⟩ := List.mem_flatMap.mp hid
  obtain ⟨input, hmem, rfl⟩ := List.mem_map.mp hinput
  obtain ⟨priors, hpriors, -⟩ := h.stored record hrecord
  obtain ⟨_, -, r, hr, o, ho, hsource, -⟩ := forall₂_exists hpriors hmem
  exact List.mem_flatMap.mpr ⟨r, hr, List.mem_map.mpr ⟨o, ho, hsource⟩⟩

/-- The source of an input whose state the record may spend. -/
def Spends (before : List ProofHistoryRecord) (record : ProofHistoryRecord)
    (input : ProofHistoryInput) (prior : ProofHistoryPriorState) : Prop :=
  IsSource before input prior ∧ record.kind.allowsInputState prior.state = true

/-- A history with one more admissible record replays and explains that record's output. -/
theorem explained_concat {policy : ProofAnchorPolicy} {before : List ProofHistoryRecord}
    {last : ProofHistoryRecord} {o : ProofHistoryOutput} {s : ReplayState}
    (hs : Replayed policy before s) (hlast : Admissible policy before last)
    (ho : o ∈ last.outputs) :
    ∃ priors s', replayRecord policy s last = .ok s' ∧
      List.Forall₂ (Spends before last) last.inputs priors ∧
      s'.explanations[o.outputId]? = some (explanationOf last policy priors o) := by
  obtain ⟨priors, s', hs', hstep⟩ := replayRecord_ok hs hlast
  have hreplayed := replayed_step hs hstep
  have hspends : List.Forall₂ (Spends before last) last.inputs priors := by
    refine hstep.prior.imp fun input prior hin => ⟨isSource_of_prior hs hin, ?_⟩
    obtain ⟨e, -, hallow, rfl⟩ := hin
    exact hallow
  refine ⟨priors, s', hs', hspends, ?_⟩
  refine (explanation_iff hreplayed).mpr ⟨fun hmem => hlast.fresh o ho ?_, (hstep.get_new ho).1⟩
  rw [consumedIds, List.flatMap_append, List.mem_append, List.flatMap_singleton] at hmem
  rcases hmem with hmem | hmem
  · exact consumedIds_subset hs hmem
  · obtain ⟨spent, hids, hspent, -⟩ := hlast.sources
    rw [hids] at hmem
    obtain ⟨p, hp, hpid⟩ := List.mem_map.mp hmem
    obtain ⟨⟨r, hr, hpr⟩, -⟩ := hspent p hp
    exact List.mem_flatMap.mpr ⟨r, hr, List.mem_map.mpr ⟨p, hpr, hpid⟩⟩

def regtestPolicy : ProofAnchorPolicy := .assumeAllConfirmedForRegtest

/-- Every anchor is taken for confirmed on regtest. -/
theorem regtest_accepts (anchor : String) :
    regtestPolicy.acceptsAnchorState (regtestPolicy.anchorState anchor) = true := by
  simp [regtestPolicy, ProofAnchorPolicy.assumeAllConfirmedForRegtest,
    ProofAnchorPolicy.anchorState, ProofAnchorPolicy.acceptsAnchorState]

theorem replay_eq_ok {records : List ProofHistoryRecord} {history : ProofHistory.ProofHistoryReplay} :
    replay records = .ok history ↔
      ∃ s, replayState records regtestPolicy = .ok s ∧ history = ⟨s.explanations, s.states⟩ := by
  simp only [replay, replayWithAnchorPolicy, bind_eq_ok, pure_eq_ok, Except.ok.injEq, regtestPolicy,
    eq_comm (a := history)]

/-- The same about `replay`, whose result holds the explanations. -/
theorem replay_concat {before : List ProofHistoryRecord} {last : ProofHistoryRecord}
    {o : ProofHistoryOutput} {history : ProofHistory.ProofHistoryReplay}
    (hbefore : replay before = .ok history) (hlast : Admissible regtestPolicy before last)
    (ho : o ∈ last.outputs) :
    ∃ priors next, replay (before ++ [last]) = .ok next ∧
      List.Forall₂ (Spends before last) last.inputs priors ∧
      next.acceptedExplanation o.outputId = some (explanationOf last regtestPolicy priors o) := by
  obtain ⟨s, hs, rfl⟩ := replay_eq_ok.mp hbefore
  obtain ⟨priors, s', hs', hpriors, hexplained⟩ := explained_concat (replayed_of_ok hs) hlast ho
  refine ⟨priors, _, replay_eq_ok.mpr ⟨s', ?_, rfl⟩, hpriors, hexplained⟩
  rw [replayState, foldlM_concat]
  change replayState before regtestPolicy >>= _ = _
  rw [hs, ok_bind, hs']

/-- Every record of a history that replays is a step of its replay. -/
theorem step_of_replay {before after : List ProofHistoryRecord} {record : ProofHistoryRecord}
    {history : ProofHistory.ProofHistoryReplay}
    (h : replay (before ++ record :: after) = .ok history) :
    ∃ priors s s', ReplayStep regtestPolicy record priors s s' := by
  obtain ⟨_, hreplay, -⟩ := replay_eq_ok.mp h
  simp only [replayState, List.foldlM_append, List.foldlM_cons, bind_eq_ok] at hreplay
  obtain ⟨s, hs, s', hrecord, -⟩ := hreplay
  obtain ⟨priors, hstep⟩ := replayRecord_step (replayed_of_ok hs).ledger.keyed hrecord
  exact ⟨priors, s, s', hstep⟩

end TapLdk.ProofHistoryReplay
