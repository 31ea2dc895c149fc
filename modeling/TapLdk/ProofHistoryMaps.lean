import Mathlib
import TapLdk.ProofHistoryReplay

/-! The two results of a replay: an output has an explanation exactly when its final state is
not spent, and the two name one state. -/
namespace TapLdk.ProofHistoryMaps
open TapLdk.LibraryExcept TapLdk.LibraryMaps TapLdk.Mssmt TapLdk.Asset TapLdk.ProofHistory
open TapLdk.ProofHistoryConservation TapLdk.ProofHistoryReplay

/-- The total of the prior states of an explanation. -/
def priorTotal (e : AcceptedBalanceExplanation) : ℕ :=
  (e.priorStates.map fun p => p.amount.toNat).sum

def outputTotal (record : ProofHistoryRecord) : ℕ :=
  (record.outputs.map fun o => o.amount.toNat).sum

/-- The record an explanation comes from. -/
structure ProducedBy (id : String) (e : AcceptedBalanceExplanation) (record : ProofHistoryRecord) :
    Prop where
  recordId : record.recordId = e.recordId
  kind : record.kind = e.transitionKind
  output : id ∈ record.outputIds
  total : record.kind ≠ .issuance → priorTotal e = outputTotal record

/-- Every stored output has a state, which is its own until it is spent, and prior states
that add up to what its record creates. -/
structure Agree (done : List ProofHistoryRecord) (s : ReplayState) : Prop where
  state : ∀ id, s.states[id]? = if id ∈ consumedIds done then some .spent
    else (s.outputs[id]?).map (·.resultingState)
  unspent : ∀ (id : String) (e : AcceptedBalanceExplanation), s.outputs[id]? = some e →
    e.resultingState ≠ .spent
  produced : ∀ (id : String) (e : AcceptedBalanceExplanation), s.outputs[id]? = some e →
    ∃ record ∈ done, ProducedBy id e record

theorem agree_empty : Agree [] .empty where
  state id := by simp [ReplayState.empty, consumedIds]
  unspent id e h := by simp [ReplayState.empty] at h
  produced id e h := by simp [ReplayState.empty] at h

section Step

variable {policy : ProofAnchorPolicy} {done : List ProofHistoryRecord}
  {record : ProofHistoryRecord} {priors : List ProofHistoryPriorState} {s s' : ReplayState}

/-- An output stored after a record is one of its own or was stored before. -/
theorem stored_cases (hstep : ReplayStep policy record priors s s') {id : String}
    {e : AcceptedBalanceExplanation} (he : s'.outputs[id]? = some e) :
    (∃ o ∈ record.outputs, id = o.outputId ∧ e = explanationOf record policy priors o) ∨
      id ∉ record.outputIds ∧ s.outputs[id]? = some e := by
  by_cases hid : id ∈ record.outputIds
  · obtain ⟨o, ho, rfl⟩ := List.mem_map.mp hid
    rw [(hstep.get_new ho).1, Option.some.injEq] at he
    exact .inl ⟨o, ho, rfl, he.symm⟩
  · exact .inr ⟨hid, hstep.outputs_old hid ▸ he⟩

/-- The prior states of a record add up to its outputs unless it issues them. -/
theorem priorTotal_step (hstep : ReplayStep policy record priors s s')
    (hkind : record.kind ≠ .issuance) (o : ProofHistoryOutput) :
    priorTotal (explanationOf record policy priors o) = outputTotal record :=
  (sum_priors hstep.prior).trans (hstep.conserved hkind)

/-- The outputs of a record are consumed neither before it nor by it. -/
theorem fresh_unconsumed (h : Replayed policy done s)
    (hstep : ReplayStep policy record priors s s') {o : ProofHistoryOutput}
    (ho : o ∈ record.outputs) : o.outputId ∉ consumedIds (done ++ [record]) := by
  rw [consumedIds, List.flatMap_append, List.mem_append, List.flatMap_singleton]
  rintro (hmem | hmem)
  · exact (h.absent _).mp (hstep.fresh o ho) (consumedIds_subset h hmem)
  · exact (hstep.input_not_output hmem).2 (List.mem_map_of_mem ho)

theorem agree_step (hreplayed : Replayed policy done s) (h : Agree done s)
    (hstep : ReplayStep policy record priors s s') : Agree (done ++ [record]) s' := by
  constructor
  case state =>
    intro id
    by_cases hid : id ∈ record.outputIds
    · obtain ⟨o, ho, rfl⟩ := List.mem_map.mp hid
      rw [if_neg (fresh_unconsumed hreplayed hstep ho), (hstep.get_new ho).1,
        (hstep.get_new ho).2.2]
      rfl
    · have hsplit : id ∈ consumedIds (done ++ [record]) ↔
          id ∈ consumedIds done ∨ id ∈ record.inputIds := by simp [consumedIds]
      rw [hstep.states_old hid, hstep.outputs_old hid, h.state id]
      by_cases hin : id ∈ record.inputIds
      · rw [if_pos hin, if_pos (hsplit.mpr (.inr hin))]
      · rw [if_neg hin]
        exact if_congr (by rw [hsplit]; tauto) rfl rfl
  case unspent =>
    intro id e he
    rcases stored_cases hstep he with ⟨o, ho, rfl, rfl⟩ | ⟨-, he⟩
    · exact (allowsOutputState_spec (hstep.output o ho).allowed).2
    · exact h.unspent id e he
  case produced =>
    intro id e he
    rcases stored_cases hstep he with ⟨o, ho, rfl, rfl⟩ | ⟨-, he⟩
    · exact ⟨record, by simp, rfl, rfl, List.mem_map_of_mem ho,
        fun hkind => priorTotal_step hstep hkind o⟩
    · obtain ⟨r, hr, hproduced⟩ := h.produced id e he
      exact ⟨r, List.mem_append_left _ hr, hproduced⟩

end Step

theorem agree_of_ok {policy : ProofAnchorPolicy} {records : List ProofHistoryRecord}
    {s : ReplayState} (h : replayState records policy = .ok s) :
    Replayed policy records s ∧ Agree records s := by
  refine foldlM_induction (fun done s => Replayed policy done s ∧ Agree done s)
    ⟨replayed_empty policy, agree_empty⟩ ?_ h
  rintro done record s s' ⟨hreplayed, hagree⟩ hrecord
  obtain ⟨priors, hstep⟩ := replayRecord_step hreplayed.ledger.keyed hrecord
  exact ⟨replayed_step hreplayed hstep, agree_step hreplayed hagree hstep⟩

/-- The final state of a created output, and the explanation it has unless it is spent. -/
structure MapsAgreeAt (replay : ProofHistory.ProofHistoryReplay) (id : String)
    (state : ProofHistoryState) : Prop where
  final : replay.outputState id = some state
  explained : (∃ e, replay.acceptedExplanation id = some e) ↔ state ≠ .spent
  same : ∀ e, replay.acceptedExplanation id = some e → e.resultingState = state

/-- In an accepted replay every output that a record creates has a final state, and an
explanation, of that state, exactly when the state is not spent. Other ids have neither. The
prior states of an explanation add up to the outputs of its record unless it issues them. -/
theorem result_maps_agree {policy : ProofAnchorPolicy} {records : List ProofHistoryRecord}
    {replay : ProofHistory.ProofHistoryReplay}
    (h : replayWithAnchorPolicy records policy = .ok replay) :
    (∀ id ∈ createdIds records, ∃ state, MapsAgreeAt replay id state) ∧
    (∀ id, id ∉ createdIds records →
      replay.outputState id = none ∧ replay.acceptedExplanation id = none) ∧
    ∀ id e, replay.acceptedExplanation id = some e → ∃ record ∈ records, ProducedBy id e record := by
  simp only [replayWithAnchorPolicy, bind_eq_ok, pure_eq_ok, Except.ok.injEq] at h
  obtain ⟨s, hs, rfl⟩ := h
  obtain ⟨hreplayed, hagree⟩ := agree_of_ok hs
  have hstates (id : String) : (⟨s.explanations, s.states⟩ :
      ProofHistory.ProofHistoryReplay).outputState id = s.states[id]? := rfl
  have hexplained (id : String) : (⟨s.explanations, s.states⟩ :
      ProofHistory.ProofHistoryReplay).acceptedExplanation id = s.explanations[id]? := rfl
  refine ⟨fun id hid => ?_, fun id hid => ?_, fun id e he => ?_⟩
  · obtain ⟨e, he⟩ := Option.ne_none_iff_exists'.mp fun hnone => (hreplayed.absent id).mp hnone hid
    have hunspent := hagree.unspent id e he
    have hstate := hagree.state id
    by_cases hconsumed : id ∈ consumedIds records
    · rw [if_pos hconsumed] at hstate
      refine ⟨.spent, hstate, ?_, fun e' he' => ?_⟩
      · simp [hexplained, explanation_iff hreplayed, hconsumed]
      · rw [hexplained, explanation_iff hreplayed] at he'
        exact absurd hconsumed he'.1
    · rw [if_neg hconsumed, he] at hstate
      refine ⟨e.resultingState, hstate, ?_, fun e' he' => ?_⟩
      · simp [hexplained, explanation_iff hreplayed, hconsumed, he, hunspent]
      · rw [hexplained, explanation_iff hreplayed, he, Option.some.injEq] at he'
        rw [he'.2]
  · have hconsumed : id ∉ consumedIds records := fun hmem => hid (consumedIds_subset hreplayed hmem)
    have hnone := (hreplayed.absent id).mpr hid
    rw [hstates, hexplained, hagree.state id, if_neg hconsumed, hreplayed.ledger.kept id hconsumed,
      hnone]
    exact ⟨rfl, rfl⟩
  · exact hagree.produced id e (explanation_iff hreplayed |>.mp he).2

/-- The maps of a history that spends one output twice. -/
theorem result_maps_agree_transfers :
    ∃ replay, replayWithAnchorPolicy doubleSpend .assumeAllConfirmedForRegtest = .ok replay ∧
      ∃ state, MapsAgreeAt replay "issued" state := by
  obtain ⟨replay, hreplay⟩ := doubleSpend_accepted
  exact ⟨replay, hreplay, (result_maps_agree hreplay).1 "issued" (by decide)⟩

end TapLdk.ProofHistoryMaps
