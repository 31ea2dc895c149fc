import Mathlib
import TapLdk.ProofHistoryReplay

/-! Records that consume none of each other's outputs may be replayed in either order: the
maps of the replay are the same after both. -/
namespace TapLdk.ProofHistoryOrder
open TapLdk.LibraryExcept TapLdk.LibraryMaps TapLdk.Mssmt TapLdk.Asset TapLdk.Proof
open TapLdk.ProofHistory TapLdk.ProofHistoryConservation TapLdk.ProofHistoryReplay

/-- Neither record has an input that the other creates. -/
structure Independent (r₁ r₂ : ProofHistoryRecord) : Prop where
  first : ∀ id ∈ r₁.inputIds, id ∉ r₂.outputIds
  second : ∀ id ∈ r₂.inputIds, id ∉ r₁.outputIds

theorem Independent.symm {r₁ r₂ : ProofHistoryRecord} (h : Independent r₁ r₂) :
    Independent r₂ r₁ := ⟨h.second, h.first⟩

section Step

variable {policy : ProofAnchorPolicy} {record : ProofHistoryRecord}
  {priors : List ProofHistoryPriorState} {s s' u : ReplayState}

theorem outputs_congr {input : ProofHistoryInput} {prior : ProofHistoryPriorState}
    (h : u.outputs[input.outputId]? = s.outputs[input.outputId]?)
    (hp : IsPrior record s.outputs input prior) : IsPrior record u.outputs input prior := by
  obtain ⟨e, he, hallow, hprior⟩ := hp
  exact ⟨e, h.trans he, hallow, hprior⟩

theorem forall₂_isPrior {inputs : List ProofHistoryInput}
    (h : ∀ id ∈ inputs.map (·.outputId), u.outputs[id]? = s.outputs[id]?)
    (hp : List.Forall₂ (IsPrior record s.outputs) inputs priors) :
    List.Forall₂ (IsPrior record u.outputs) inputs priors := by
  induction hp with
  | nil => exact .nil
  | cons hprior _ ih =>
    simp only [List.map_cons, List.forall_mem_cons] at h
    exact .cons (outputs_congr h.1 hprior) (ih h.2)

/-- A record is accepted from every state that has its inputs and neither its id nor its
outputs, with the same prior states. -/
theorem step_transport (h : ReplayStep policy record priors s s')
    (hseen : u.seenRecords[record.recordId]? = none)
    (hin : ∀ id ∈ record.inputIds, u.outputs[id]? = s.outputs[id]?)
    (hfresh : ∀ o ∈ record.outputs, u.outputs[o.outputId]? = none) :
    ∃ u', ReplayStep policy record priors u u' := by
  have hamounts : record.inputIds.map (amountAt u.outputs) =
      record.inputIds.map (amountAt s.outputs) :=
    List.map_congr_left fun id hid => by rw [amountAt, amountAt, hin id hid]
  refine ⟨_, { h with
    newRecord := hseen
    prior := forall₂_isPrior hin h.prior
    fresh := hfresh
    asset := fun hkind => ?_
    conserved := fun hkind => by rw [hamounts, h.conserved hkind]
    maps := rfl }⟩
  obtain ⟨a, hinputs, houtputs⟩ := h.asset hkind
  refine ⟨a, fun id hid => ?_, houtputs⟩
  rw [hin id hid]
  exact hinputs id hid

theorem seen_old (h : ReplayStep policy record priors s s') {id : String}
    (hid : id ≠ record.recordId) : s'.seenRecords[id]? = s.seenRecords[id]? := by
  rw [h.maps]
  exact get_insert_ne hid

theorem seen_new (h : ReplayStep policy record priors s s') :
    s'.seenRecords[record.recordId]? = some () := by
  rw [h.maps]
  exact get_insert_self ..

end Step

section Swap

variable {policy : ProofAnchorPolicy} {r₁ r₂ : ProofHistoryRecord}
  {p₁ p₂ : List ProofHistoryPriorState} {s mid s' mid' t : ReplayState}

/-- The second of two records has another id than the first. -/
theorem recordId_ne (h₁ : ReplayStep policy r₁ p₁ s mid) (h₂ : ReplayStep policy r₂ p₂ mid s') :
    r₂.recordId ≠ r₁.recordId := by
  intro heq
  have hnew := h₂.newRecord
  rw [heq, seen_new h₁] at hnew
  cases hnew

/-- The outputs of the second of two records are none of the first one's. -/
theorem outputIds_disjoint (h₁ : ReplayStep policy r₁ p₁ s mid)
    (h₂ : ReplayStep policy r₂ p₂ mid s') {id : String} (hid : id ∈ r₂.outputIds) :
    id ∉ r₁.outputIds := by
  obtain ⟨o₂, ho₂, rfl⟩ := List.mem_map.mp hid
  intro hmem
  obtain ⟨o₁, ho₁, heq⟩ := List.mem_map.mp hmem
  have hfresh := h₂.fresh o₂ ho₂
  rw [← heq, (h₁.get_new ho₁).1] at hfresh
  cases hfresh

/-- Two independent records are also accepted in the other order. -/
theorem steps_swap (hind : Independent r₁ r₂) (h₁ : ReplayStep policy r₁ p₁ s mid)
    (h₂ : ReplayStep policy r₂ p₂ mid s') :
    ∃ mid' t, ReplayStep policy r₂ p₂ s mid' ∧ ReplayStep policy r₁ p₁ mid' t := by
  have hne := recordId_ne h₁ h₂
  obtain ⟨mid', hstep₂⟩ : ∃ mid', ReplayStep policy r₂ p₂ s mid' := by
    refine step_transport h₂ ?_ (fun id hid => ?_) fun o ho => ?_
    · rw [← seen_old h₁ hne]
      exact h₂.newRecord
    · exact (h₁.outputs_old (hind.second id hid)).symm
    · rw [← h₁.outputs_old (outputIds_disjoint h₁ h₂ (List.mem_map_of_mem ho))]
      exact h₂.fresh o ho
  obtain ⟨t, hstep₁⟩ : ∃ t, ReplayStep policy r₁ p₁ mid' t := by
    refine step_transport h₁ ?_ (fun id hid => ?_) fun o ho => ?_
    · rw [seen_old hstep₂ hne.symm]
      exact h₁.newRecord
    · exact hstep₂.outputs_old (hind.first id hid)
    · rw [hstep₂.outputs_old fun hmem =>
        outputIds_disjoint h₁ h₂ hmem (List.mem_map_of_mem ho)]
      exact h₁.fresh o ho
  exact ⟨mid', t, hstep₂, hstep₁⟩

/-- What the maps hold under one id after two records. -/
structure Reads (policy : ProofAnchorPolicy) (r₁ r₂ : ProofHistoryRecord)
    (p₁ p₂ : List ProofHistoryPriorState) (s s' : ReplayState) : Prop where
  seen : ∀ id, s'.seenRecords[id]? =
    if id = r₁.recordId ∨ id = r₂.recordId then some () else s.seenRecords[id]?
  first : ∀ o ∈ r₁.outputs, s'.outputs[o.outputId]? = some (explanationOf r₁ policy p₁ o) ∧
    s'.explanations[o.outputId]? = some (explanationOf r₁ policy p₁ o) ∧
    s'.states[o.outputId]? = some o.resultingState
  second : ∀ o ∈ r₂.outputs, s'.outputs[o.outputId]? = some (explanationOf r₂ policy p₂ o) ∧
    s'.explanations[o.outputId]? = some (explanationOf r₂ policy p₂ o) ∧
    s'.states[o.outputId]? = some o.resultingState
  old : ∀ id, id ∉ r₁.outputIds → id ∉ r₂.outputIds → s'.outputs[id]? = s.outputs[id]? ∧
    s'.explanations[id]? = (if id ∈ r₁.inputIds ∨ id ∈ r₂.inputIds then none
      else s.explanations[id]?) ∧
    s'.states[id]? = if id ∈ r₁.inputIds ∨ id ∈ r₂.inputIds then some .spent else s.states[id]?

theorem reads_steps (hind : Independent r₁ r₂) (h₁ : ReplayStep policy r₁ p₁ s mid)
    (h₂ : ReplayStep policy r₂ p₂ mid s') : Reads policy r₁ r₂ p₁ p₂ s s' := by
  constructor
  case seen =>
    intro id
    by_cases hid₂ : id = r₂.recordId
    · rw [if_pos (.inr hid₂), hid₂, seen_new h₂]
    rw [seen_old h₂ hid₂]
    by_cases hid₁ : id = r₁.recordId
    · rw [if_pos (.inl hid₁), hid₁, seen_new h₁]
    · rw [if_neg (by tauto), seen_old h₁ hid₁]
  case first =>
    intro o ho
    have hmem : o.outputId ∈ r₁.outputIds := List.mem_map_of_mem ho
    have hout : o.outputId ∉ r₂.outputIds := fun h => outputIds_disjoint h₁ h₂ h hmem
    have hin : o.outputId ∉ r₂.inputIds := fun h => hind.second _ h hmem
    rw [h₂.outputs_old hout, h₂.explanations_old hout, h₂.states_old hout, if_neg hin, if_neg hin]
    exact h₁.get_new ho
  case second => exact fun o ho => h₂.get_new ho
  case old =>
    intro id hid₁ hid₂
    rw [h₂.outputs_old hid₂, h₁.outputs_old hid₁, h₂.explanations_old hid₂,
      h₁.explanations_old hid₁, h₂.states_old hid₂, h₁.states_old hid₁]
    by_cases hin₂ : id ∈ r₂.inputIds
    · simp [hin₂]
    · simp [hin₂]

/-- Two states that read the same are the same. -/
theorem reads_unique {s' t : ReplayState} (h : Reads policy r₁ r₂ p₁ p₂ s s')
    (h' : Reads policy r₁ r₂ p₁ p₂ s t) : s' = t := by
  have hmaps (id : String) : s'.outputs[id]? = t.outputs[id]? ∧
      s'.explanations[id]? = t.explanations[id]? ∧ s'.states[id]? = t.states[id]? := by
    by_cases hid₁ : id ∈ r₁.outputIds
    · obtain ⟨o, ho, rfl⟩ := List.mem_map.mp hid₁
      obtain ⟨hout, hexp, hstate⟩ := h.first o ho
      obtain ⟨hout', hexp', hstate'⟩ := h'.first o ho
      exact ⟨hout.trans hout'.symm, hexp.trans hexp'.symm, hstate.trans hstate'.symm⟩
    by_cases hid₂ : id ∈ r₂.outputIds
    · obtain ⟨o, ho, rfl⟩ := List.mem_map.mp hid₂
      obtain ⟨hout, hexp, hstate⟩ := h.second o ho
      obtain ⟨hout', hexp', hstate'⟩ := h'.second o ho
      exact ⟨hout.trans hout'.symm, hexp.trans hexp'.symm, hstate.trans hstate'.symm⟩
    · obtain ⟨hout, hexp, hstate⟩ := h.old id hid₁ hid₂
      obtain ⟨hout', hexp', hstate'⟩ := h'.old id hid₁ hid₂
      exact ⟨hout.trans hout'.symm, hexp.trans hexp'.symm, hstate.trans hstate'.symm⟩
  obtain ⟨seen, outputs, explanations, states⟩ := s'
  obtain ⟨seen', outputs', explanations', states'⟩ := t
  rw [ReplayState.mk.injEq]
  exact ⟨Std.ExtTreeMap.ext_getElem? fun id => (h.seen id).trans (h'.seen id).symm,
    Std.ExtTreeMap.ext_getElem? fun id => (hmaps id).1,
    Std.ExtTreeMap.ext_getElem? fun id => (hmaps id).2.1,
    Std.ExtTreeMap.ext_getElem? fun id => (hmaps id).2.2⟩

theorem reads_symm (h : Reads policy r₁ r₂ p₁ p₂ s s') : Reads policy r₂ r₁ p₂ p₁ s s' where
  seen id := (h.seen id).trans (if_congr or_comm rfl rfl)
  first := h.second
  second := h.first
  old id hid₂ hid₁ := by
    obtain ⟨hout, hexp, hstate⟩ := h.old id hid₁ hid₂
    exact ⟨hout, hexp.trans (if_congr or_comm rfl rfl), hstate.trans (if_congr or_comm rfl rfl)⟩

theorem wellKeyed_step (hkeyed : WellKeyed s) (h : ReplayStep policy r₁ p₁ s mid) :
    WellKeyed mid := by
  intro id e he
  by_cases hid : id ∈ r₁.outputIds
  · obtain ⟨o, ho, rfl⟩ := List.mem_map.mp hid
    rw [(h.get_new ho).1, Option.some.injEq] at he
    rw [← he]
    rfl
  · rw [h.outputs_old hid] at he
    exact hkeyed id e he

/-- Two independent records lead to the same state in either order. -/
theorem replayRecord_swap (hkeyed : WellKeyed s) (hind : Independent r₁ r₂)
    (h : (replayRecord policy s r₁ >>= fun mid => replayRecord policy mid r₂) = .ok s') :
    (replayRecord policy s r₂ >>= fun mid => replayRecord policy mid r₁) = .ok s' := by
  rw [bind_eq_ok] at h ⊢
  obtain ⟨mid, hmid, hs'⟩ := h
  obtain ⟨p₁, h₁⟩ := (replayRecord_eq_ok hkeyed).mp hmid
  have hkeyed₁ := wellKeyed_step hkeyed h₁
  obtain ⟨p₂, h₂⟩ := (replayRecord_eq_ok hkeyed₁).mp hs'
  obtain ⟨mid', t, h₂', h₁'⟩ := steps_swap hind h₁ h₂
  have hsame : s' = t := reads_unique (reads_steps hind h₁ h₂)
    (reads_symm (reads_steps hind.symm h₂' h₁'))
  refine ⟨mid', (replayRecord_eq_ok hkeyed).mpr ⟨p₂, h₂'⟩, ?_⟩
  rw [hsame]
  exact (replayRecord_eq_ok (wellKeyed_step hkeyed h₂')).mpr ⟨p₁, h₁'⟩

end Swap

theorem replayState_swap {policy : ProofAnchorPolicy} {before after : List ProofHistoryRecord}
    {r₁ r₂ : ProofHistoryRecord} (hind : Independent r₁ r₂) {s : ReplayState}
    (h : replayState (before ++ r₁ :: r₂ :: after) policy = .ok s) :
    replayState (before ++ r₂ :: r₁ :: after) policy = .ok s := by
  rw [replayState, List.foldlM_append, bind_eq_ok] at h ⊢
  obtain ⟨start, hstart, hrest⟩ := h
  have hkeyed : WellKeyed start := (replayed_of_ok hstart).ledger.keyed
  refine ⟨start, hstart, ?_⟩
  rw [List.foldlM_cons, bind_eq_ok] at hrest
  obtain ⟨mid, hmid, hrest⟩ := hrest
  rw [List.foldlM_cons, bind_eq_ok] at hrest
  obtain ⟨next, hnext, hrest⟩ := hrest
  have hswap := replayRecord_swap hkeyed hind
    (bind_eq_ok.mpr ⟨mid, hmid, hnext⟩)
  obtain ⟨mid', hmid', hnext'⟩ := bind_eq_ok.mp hswap
  rw [List.foldlM_cons, hmid', ok_bind, List.foldlM_cons, hnext', ok_bind, hrest]

theorem replay_swap {policy : ProofAnchorPolicy} {before after : List ProofHistoryRecord}
    {r₁ r₂ : ProofHistoryRecord} (hind : Independent r₁ r₂) {replay : ProofHistoryReplay}
    (h : replayWithAnchorPolicy (before ++ r₁ :: r₂ :: after) policy = .ok replay) :
    replayWithAnchorPolicy (before ++ r₂ :: r₁ :: after) policy = .ok replay := by
  simp only [replayWithAnchorPolicy, bind_eq_ok] at h ⊢
  obtain ⟨s, hs, hreplay⟩ := h
  exact ⟨s, replayState_swap hind hs, hreplay⟩

/-- Exchanging two adjacent independent records changes neither whether a history is accepted
nor what it explains. -/
theorem independent_records_commute (policy : ProofAnchorPolicy)
    (before after : List ProofHistoryRecord) (r₁ r₂ : ProofHistoryRecord)
    (hind : Independent r₁ r₂) (replay : ProofHistoryReplay) :
    replayWithAnchorPolicy (before ++ r₁ :: r₂ :: after) policy = .ok replay ↔
      replayWithAnchorPolicy (before ++ r₂ :: r₁ :: after) policy = .ok replay :=
  ⟨replay_swap hind, replay_swap hind.symm⟩

/-- Two transfers of one output name the same input and yet may be exchanged. -/
theorem independent_records_commute_transfers :
    ∃ replay, replayWithAnchorPolicy doubleSpend .assumeAllConfirmedForRegtest = .ok replay ∧
      replayWithAnchorPolicy [sampleIssue, sampleTransfer "second", sampleTransfer "first"]
        .assumeAllConfirmedForRegtest = .ok replay := by
  obtain ⟨replay, hreplay⟩ := doubleSpend_accepted
  have hind : Independent (sampleTransfer "first") (sampleTransfer "second") :=
    ⟨by decide, by decide⟩
  exact ⟨replay, hreplay, (independent_records_commute _ [sampleIssue] [] _ _ hind replay).mp hreplay⟩

end TapLdk.ProofHistoryOrder
