import Mathlib
import TapLdk.ProofHistory

/-! Supply and double spends in a replayed history. The replay checks an input against the
output as it was created, so a history is conservative exactly when no record names an
output that the replay has already marked as spent. -/
namespace TapLdk.ProofHistoryConservation
open TapLdk.LibraryExcept TapLdk.LibraryMaps TapLdk.LibraryBytes TapLdk.Mssmt TapLdk.Asset
open TapLdk.Proof TapLdk.ProofHistory

/-- Every output id is an input of at most one record. -/
def ConsumedOnce (records : List ProofHistoryRecord) : Prop :=
  ∀ id, records.countP (fun r => id ∈ r.inputIds) ≤ 1

/-- The amount of an output if it is of asset `a`. -/
def outputWeight (a : Bytes32) (output : ProofHistoryOutput) : ℕ :=
  if output.assetId = a then output.amount.toNat else 0

/-- The amount of an explanation if it is of asset `a`. -/
def weight (a : Bytes32) (e : AcceptedBalanceExplanation) : ℕ :=
  if e.assetId = a then e.amount.toNat else 0

/-- The supply of an asset that the issuance records create. -/
def issued (records : List ProofHistoryRecord) (a : Bytes32) : ℕ :=
  ((records.filter fun r => r.kind = .issuance).flatMap fun r =>
    r.outputs.map (outputWeight a)).sum

/-- The amount of an asset that a replay explains. -/
def explained (replay : ProofHistoryReplay) (a : Bytes32) : ℕ :=
  (replay.acceptedExplanations.map (weight a)).sum

def Conserved (records : List ProofHistoryRecord) (replay : ProofHistoryReplay) : Prop :=
  ∀ a, explained replay a = issued records a

/-- No record is replayed while one of its inputs is marked as spent. -/
def SpendsUnspent (policy : ProofAnchorPolicy) (records : List ProofHistoryRecord) : Prop :=
  ∀ before record after, records = before ++ record :: after →
    ∀ s, replayState before policy = .ok s →
      ∀ id ∈ record.inputIds, s.states[id]? ≠ some .spent

theorem issued_concat (records : List ProofHistoryRecord) (record : ProofHistoryRecord)
    (a : Bytes32) : issued (records ++ [record]) a =
      issued records a +
        if record.kind = .issuance then (record.outputs.map (outputWeight a)).sum else 0 := by
  by_cases hkind : record.kind = .issuance <;> simp [issued, hkind, List.filter_append]

theorem consumedOnce_concat {records : List ProofHistoryRecord} {record : ProofHistoryRecord} :
    ConsumedOnce (records ++ [record]) ↔
      ConsumedOnce records ∧ ∀ id ∈ record.inputIds, id ∉ records.flatMap (·.inputIds) := by
  have hmem : ∀ id, id ∈ records.flatMap (·.inputIds) ↔
      0 < records.countP (fun r => id ∈ r.inputIds) := fun id => by
    simp [List.countP_pos_iff]
  simp only [ConsumedOnce, List.countP_append, List.countP_singleton, hmem]
  constructor
  · intro h
    refine ⟨fun id => le_trans (Nat.le_add_right _ _) (h id), fun id hid hpos => ?_⟩
    have hle := h id
    rw [if_pos (by simpa using hid)] at hle
    omega
  · rintro ⟨h, hnew⟩ id
    by_cases hid : id ∈ record.inputIds
    · have hzero := hnew id hid
      rw [if_pos (by simpa using hid)]
      omega
    · rw [if_neg (by simpa using hid)]
      exact h id

theorem spendsUnspent_concat {policy : ProofAnchorPolicy} {records : List ProofHistoryRecord}
    {record : ProofHistoryRecord} {s : ReplayState} (hs : replayState records policy = .ok s) :
    SpendsUnspent policy (records ++ [record]) ↔
      SpendsUnspent policy records ∧ ∀ id ∈ record.inputIds, s.states[id]? ≠ some .spent := by
  constructor
  · intro h
    refine ⟨fun before r after heq => h before r (after ++ [record]) (by simp [heq]), ?_⟩
    exact h records record [] rfl s hs
  · rintro ⟨h, hlast⟩ before r after heq s' hs'
    rcases List.eq_nil_or_concat after with rfl | ⟨after', last, rfl⟩
    · obtain ⟨rfl, hr⟩ := List.append_inj' heq rfl
      obtain rfl := List.singleton_inj.mp hr
      rw [hs, Except.ok.injEq] at hs'
      exact hs' ▸ hlast
    · have heq' : records ++ [record] = (before ++ r :: after') ++ [last] := by simpa using heq
      exact h before r after' (List.append_inj' heq' rfl).1 s' hs'

/-- What holds of the maps after the records `done`. -/
structure Ledger (done : List ProofHistoryRecord) (s : ReplayState) : Prop where
  keyed : WellKeyed s
  positive : ∀ (id : String) (e : AcceptedBalanceExplanation), s.outputs[id]? = some e →
    e.amount ≠ 0
  spent : ∀ id, s.states[id]? = some .spent ↔ id ∈ done.flatMap (·.inputIds)
  created : ∀ id ∈ done.flatMap (·.inputIds), s.outputs[id]? ≠ none
  gone : ∀ id ∈ done.flatMap (·.inputIds), s.explanations[id]? = none
  kept : ∀ id, id ∉ done.flatMap (·.inputIds) → s.explanations[id]? = s.outputs[id]?

theorem ledger_empty : Ledger [] .empty where
  keyed _ _ h := by simp [ReplayState.empty] at h
  positive _ _ h := by simp [ReplayState.empty] at h
  spent _ := by simp [ReplayState.empty]
  created _ h := by simp at h
  gone _ h := by simp at h
  kept _ _ := rfl

section Step

variable {policy : ProofAnchorPolicy} {record : ProofHistoryRecord}
  {priors : List ProofHistoryPriorState} {s s' : ReplayState}

theorem ledger_step {done : List ProofHistoryRecord} (h : Ledger done s)
    (hstep : ReplayStep policy record priors s s') : Ledger (done ++ [record]) s' := by
  have hsplit : ∀ id, id ∈ (done ++ [record]).flatMap (·.inputIds) ↔
      id ∈ done.flatMap (·.inputIds) ∨ id ∈ record.inputIds := fun id => by simp
  have hold : ∀ id ∈ record.outputIds, id ∉ (done ++ [record]).flatMap (·.inputIds) := by
    intro id hid hmem
    rcases (hsplit id).mp hmem with hdone | hin
    · obtain ⟨o, ho, rfl⟩ := List.mem_map.mp hid
      exact h.created _ hdone (hstep.fresh o ho)
    · exact (hstep.input_not_output hin).2 hid
  have hout : ∀ {id e}, s'.outputs[id]? = some e →
      (∃ o ∈ record.outputs, id = o.outputId ∧ e = explanationOf record policy priors o) ∨
        s.outputs[id]? = some e := by
    intro id e he
    by_cases hid : id ∈ record.outputIds
    · obtain ⟨o, ho, rfl⟩ := List.mem_map.mp hid
      rw [(hstep.get_new ho).1, Option.some.injEq] at he
      exact .inl ⟨o, ho, rfl, he.symm⟩
    · exact .inr (hstep.outputs_old hid ▸ he)
  refine
    { keyed := fun id e he => ?_, positive := fun id e he => ?_, spent := fun id => ?_
      created := fun id hid => ?_, gone := fun id hid => ?_, kept := fun id hid => ?_ }
  · rcases hout he with ⟨o, -, rfl, rfl⟩ | he
    · rfl
    · exact h.keyed id e he
  · rcases hout he with ⟨o, ho, rfl, rfl⟩ | he
    · exact (hstep.output o ho).amount
    · exact h.positive id e he
  · by_cases hid : id ∈ record.outputIds
    · obtain ⟨o, ho, rfl⟩ := List.mem_map.mp hid
      have hne := (allowsOutputState_spec (hstep.output o ho).allowed).2
      simp only [(hstep.get_new ho).2.2, Option.some.injEq, hne, hold _ hid]
    · rw [hstep.states_old hid, hsplit]
      by_cases hin : id ∈ record.inputIds
      · simp [hin]
      · simp [hin, h.spent]
  · have hnot : id ∉ record.outputIds := fun ho => hold id ho hid
    rw [hstep.outputs_old hnot]
    rcases (hsplit id).mp hid with hdone | hin
    · exact h.created id hdone
    · exact (hstep.input_not_output hin).1
  · have hnot : id ∉ record.outputIds := fun ho => hold id ho hid
    rw [hstep.explanations_old hnot]
    split
    case isTrue hin => rfl
    case isFalse hin => exact h.gone id (((hsplit id).mp hid).resolve_right hin)
  · by_cases hnew : id ∈ record.outputIds
    · obtain ⟨o, ho, rfl⟩ := List.mem_map.mp hnew
      rw [(hstep.get_new ho).1, (hstep.get_new ho).2.1]
    · rw [hsplit, not_or] at hid
      rw [hstep.explanations_old hnew, hstep.outputs_old hnew, if_neg hid.2]
      exact h.kept id hid.1

/-- What the inputs of a record release of asset `a`, according to a map. -/
def released (m : BTreeMap String AcceptedBalanceExplanation) (ids : List String) (a : Bytes32) :
    ℕ :=
  (ids.map fun id => (m[id]?).elim 0 (weight a)).sum

/-- The part of the inputs that the replay has already marked as spent. -/
def respent (s : ReplayState) (ids : List String) (a : Bytes32) : ℕ :=
  (ids.map fun id =>
    if s.states[id]? = some .spent then (s.outputs[id]?).elim 0 (weight a) else 0).sum

theorem total_step (hstep : ReplayStep policy record priors s s')
    (hfresh : ∀ id ∈ record.outputIds, s.explanations[id]? = none) (a : Bytes32) :
    total (fun _ => weight a) s'.explanations + released s.explanations record.inputIds a =
      total (fun _ => weight a) s.explanations + (record.outputs.map (outputWeight a)).sum := by
  have hnodup : ((record.entries policy priors).map (·.1)).Nodup := by
    rw [ReplayStep.entries_keys]
    exact hstep.outputIds_nodup
  have hnew : ∀ e ∈ record.entries policy priors,
      (eraseAll s.explanations record.inputIds)[e.1]? = none := by
    intro e he
    have hid : e.1 ∈ record.outputIds := by
      rw [← @ReplayStep.entries_keys policy record priors]
      exact List.mem_map_of_mem he
    have hnot : e.1 ∉ record.inputIds := fun hin => (hstep.input_not_output hin).2 hid
    rw [get_eraseAll_of_not_mem hnot]
    exact hfresh _ hid
  have hweights : ((record.entries policy priors).map fun e => weight a e.2).sum =
      (record.outputs.map (outputWeight a)).sum := by
    rw [ProofHistoryRecord.entries, List.map_map]
    rfl
  have hins := @total_insertAll _ _ _ _ _ (fun _ => weight a) _ _ hnodup hnew
  have hers := @total_eraseAll _ _ _ _ _ (fun _ => weight a) s.explanations _ hstep.inputIds_nodup
  have hmaps : s'.explanations = insertAll (eraseAll s.explanations record.inputIds)
      (record.entries policy priors) := by rw [hstep.maps]
  rw [hmaps, hins, hers, hweights]
  unfold released
  ring

/-- An input is released from the explanations unless it has been spent before. -/
theorem released_split {done : List ProofHistoryRecord} (h : Ledger done s) (ids : List String)
    (a : Bytes32) :
    released s.outputs ids a = released s.explanations ids a + respent s ids a := by
  unfold released respent
  rw [← List.sum_map_add]
  congr 1
  refine List.map_congr_left fun id _ => ?_
  by_cases hid : id ∈ done.flatMap (·.inputIds)
  · rw [if_pos ((h.spent id).mpr hid), h.gone id hid, Option.elim_none, zero_add]
  · rw [if_neg (mt (h.spent id).mp hid), h.kept id hid, add_zero]

/-- The inputs of a transition release what its outputs hold, asset by asset. -/
theorem released_outputs (hstep : ReplayStep policy record priors s s')
    (hkind : record.kind ≠ .issuance) (a : Bytes32) :
    released s.outputs record.inputIds a = (record.outputs.map (outputWeight a)).sum := by
  obtain ⟨b, hin, hout⟩ := hstep.asset hkind
  by_cases hab : b = a
  · subst hab
    have h1 : released s.outputs record.inputIds b =
        (record.inputIds.map (amountAt s.outputs)).sum := by
      unfold released
      congr 1
      refine List.map_congr_left fun id hid => ?_
      obtain ⟨e, he, hasset⟩ := hin id hid
      simp [amountAt, he, weight, hasset]
    have h2 : (record.outputs.map (outputWeight b)).sum =
        (record.outputs.map fun o => o.amount.toNat).sum := by
      congr 1
      exact List.map_congr_left fun o ho => by simp [outputWeight, hout o ho]
    rw [h1, h2, hstep.conserved hkind]
  · have h1 : released s.outputs record.inputIds a = 0 := by
      refine List.sum_eq_zero fun n hn => ?_
      obtain ⟨id, hid, rfl⟩ := List.mem_map.mp hn
      obtain ⟨e, he, hasset⟩ := hin id hid
      simp [he, weight, hasset, hab]
    have h2 : (record.outputs.map (outputWeight a)).sum = 0 := by
      refine List.sum_eq_zero fun n hn => ?_
      obtain ⟨o, ho, rfl⟩ := List.mem_map.mp hn
      simp [outputWeight, hout o ho, hab]
    rw [h1, h2]

/-- A record adds to the explained supply what it issues and what it spends again. -/
theorem explained_step {done : List ProofHistoryRecord} (h : Ledger done s)
    (hstep : ReplayStep policy record priors s s') (a : Bytes32) :
    total (fun _ => weight a) s'.explanations =
      total (fun _ => weight a) s.explanations + respent s record.inputIds a +
        if record.kind = .issuance then (record.outputs.map (outputWeight a)).sum else 0 := by
  have hfresh : ∀ id ∈ record.outputIds, s.explanations[id]? = none := by
    intro id hid
    obtain ⟨o, ho, rfl⟩ := List.mem_map.mp hid
    have hnone := hstep.fresh o ho
    by_cases hspent : o.outputId ∈ done.flatMap (·.inputIds)
    · exact h.gone _ hspent
    · rw [h.kept _ hspent, hnone]
  have htotal := total_step hstep hfresh a
  have hsplit := released_split h record.inputIds a
  by_cases hkind : record.kind = .issuance
  · have hnil : record.inputIds = [] := by
      simp [ProofHistoryRecord.inputIds, hstep.inputs_nil.mp hkind]
    rw [if_pos hkind]
    simp only [hnil, released, respent, List.map_nil, List.sum_nil] at htotal ⊢
    omega
  · rw [if_neg hkind]
    rw [released_outputs hstep hkind a] at hsplit
    omega

/-- Nothing is spent again exactly when no input is marked as spent. -/
theorem respent_eq_zero {done : List ProofHistoryRecord} (h : Ledger done s)
    (hstep : ReplayStep policy record priors s s') :
    (∀ a, respent s record.inputIds a = 0) ↔
      ∀ id ∈ record.inputIds, s.states[id]? ≠ some .spent := by
  constructor
  · intro hzero id hid hspent
    obtain ⟨e, he⟩ := Option.ne_none_iff_exists'.mp (hstep.input_not_output hid).1
    have hterm := List.sum_eq_zero_iff.mp (hzero e.assetId) _
      (List.mem_map_of_mem hid)
    rw [if_pos hspent, he, Option.elim_some, weight, if_pos rfl] at hterm
    exact h.positive id e he (UInt64.toNat_inj.mp hterm)
  · intro hunspent a
    refine List.sum_eq_zero fun n hn => ?_
    obtain ⟨id, hid, rfl⟩ := List.mem_map.mp hn
    exact if_neg (hunspent id hid)

end Step

/-- The ledger of an accepted history, and the supply in excess of what was issued. -/
theorem replay_ledger {policy : ProofAnchorPolicy} {records : List ProofHistoryRecord}
    {s : ReplayState} (h : replayState records policy = .ok s) :
    Ledger records s ∧ (ConsumedOnce records ↔ SpendsUnspent policy records) ∧
      ∃ excess : Bytes32 → ℕ,
        (∀ a, total (fun _ => weight a) s.explanations = issued records a + excess a) ∧
        ((∀ a, excess a = 0) ↔ SpendsUnspent policy records) := by
  have hinv := foldlM_induction (fun done s => replayState done policy = .ok s ∧ Ledger done s ∧
    (ConsumedOnce done ↔ SpendsUnspent policy done) ∧ ∃ excess : Bytes32 → ℕ,
      (∀ a, total (fun _ => weight a) s.explanations = issued done a + excess a) ∧
      ((∀ a, excess a = 0) ↔ SpendsUnspent policy done)) ?_ ?_ h
  · exact hinv.2
  · have hnil : SpendsUnspent policy [] := by
      intro before record after heq
      simp at heq
    refine ⟨rfl, ledger_empty, ⟨fun _ => hnil, fun _ id => by simp⟩, fun _ => 0, fun a => ?_, ?_⟩
    · simp [ReplayState.empty, issued]
    · exact ⟨fun _ => hnil, fun _ _ => rfl⟩
  · rintro done record s s' ⟨hrun, hledger, honce, excess, hexcess, hzero⟩ hrecord
    obtain ⟨priors, hstep⟩ := replayRecord_step hledger.keyed hrecord
    have hrun' : replayState (done ++ [record]) policy = .ok s' := by
      rw [replayState, foldlM_concat]
      change replayState done policy >>= _ = _
      rw [hrun, ok_bind, hrecord]
    have hfresh := respent_eq_zero hledger hstep
    refine ⟨hrun', ledger_step hledger hstep, ?_,
      fun a => excess a + respent s record.inputIds a, fun a => ?_, ?_⟩
    · rw [consumedOnce_concat, spendsUnspent_concat hrun, honce]
      simp only [ne_eq, hledger.spent]
    · rw [explained_step hledger hstep, hexcess, issued_concat]
      ring
    · rw [spendsUnspent_concat hrun, ← hzero, ← hfresh]
      simp only [Nat.add_eq_zero_iff, forall_and]

theorem explained_eq_total (replay : ProofHistoryReplay) (a : Bytes32) :
    explained replay a = total (fun _ => weight a) replay.explanations := by
  simp [explained, total, ProofHistoryReplay.acceptedExplanations, Function.comp_def]

/-- Each half of the property on its own fails exactly when a spent input is named again. -/
theorem replay_halves {policy : ProofAnchorPolicy} {records : List ProofHistoryRecord}
    {replay : ProofHistoryReplay} (h : replayWithAnchorPolicy records policy = .ok replay) :
    (ConsumedOnce records ↔ SpendsUnspent policy records) ∧
      (Conserved records replay ↔ SpendsUnspent policy records) := by
  simp only [replayWithAnchorPolicy, bind_eq_ok, pure_eq_ok, Except.ok.injEq] at h
  obtain ⟨s, hs, rfl⟩ := h
  obtain ⟨-, honce, excess, hexcess, hzero⟩ := replay_ledger hs
  refine ⟨honce, ?_⟩
  rw [← hzero]
  simp only [Conserved, explained_eq_total, hexcess, Nat.add_eq_left]

/-- An accepted history spends every output at most once and explains exactly the issued
supply if and only if no record is replayed while one of its inputs is marked as spent. -/
theorem replay_conserves_iff_spends_unspent {policy : ProofAnchorPolicy}
    {records : List ProofHistoryRecord} {replay : ProofHistoryReplay}
    (h : replayWithAnchorPolicy records policy = .ok replay) :
    (ConsumedOnce records ∧ Conserved records replay) ↔ SpendsUnspent policy records := by
  obtain ⟨honce, hconserved⟩ := replay_halves h
  rw [honce, hconserved, and_self]

def sampleKey : CompressedKey := .cons 2 (.replicate 32 7)

def sampleAsset : Bytes32 := .replicate 32 42

def sampleAnchor : String :=
  "aaaaaaaaaaaaaaaaaaaaaaaaaaaaaaaaaaaaaaaaaaaaaaaaaaaaaaaaaaaaaaaa:1"

/-- Five units under one of several ids. -/
def sampleOutput (outputId : String) : ProofHistoryOutput :=
  ⟨outputId, sampleAsset, 5, sampleKey, sampleAnchor, singleRoot ⟨sampleAsset, sampleKey, 5⟩,
    .accepted⟩

def sampleIssue : ProofHistoryRecord :=
  ⟨"issue", .issuance, ⟨List.replicate 32 1, rfl⟩, [], [sampleOutput "issued"]⟩

/-- A transfer of the issued units to an id. -/
def sampleTransfer (outputId : String) : ProofHistoryRecord :=
  ⟨outputId, .transfer, ⟨List.replicate 32 1, rfl⟩, [⟨"issued"⟩], [sampleOutput outputId]⟩

def doubleSpend : List ProofHistoryRecord :=
  [sampleIssue, sampleTransfer "first", sampleTransfer "second"]

theorem sampleAnchor_parses : outpointOf sampleAnchor =
    some ⟨"aaaaaaaaaaaaaaaaaaaaaaaaaaaaaaaaaaaaaaaaaaaaaaaaaaaaaaaaaaaaaaaa", 1⟩ := by
  decide +kernel

theorem sampleOutput_valid {record : ProofHistoryRecord} {outputId : String} (hid : outputId ≠ "")
    (hallow : record.kind.allowsOutputState .accepted = true) :
    IsOutput record (sampleOutput outputId) :=
  ⟨hid, hallow, show (5 : AssetAmount) ≠ 0 by decide, ⟨_, sampleAnchor_parses⟩, rfl⟩

theorem sampleIssue_step :
    ∃ s', replayRecord .assumeAllConfirmedForRegtest .empty sampleIssue = .ok s' ∧
      ReplayStep .assumeAllConfirmedForRegtest sampleIssue [] .empty s' :=
  replayStep_issue ledger_empty.keyed rfl rfl rfl (by decide) rfl (by decide)
    (sampleOutput_valid (by decide) rfl) rfl rfl

/-- The issued units are stored, and the id is new. -/
structure Transferable (s : ReplayState) (outputId : String) : Prop where
  keyed : WellKeyed s
  unseen : s.seenRecords[outputId]? = none
  held : ∃ e, s.outputs["issued"]? = some e ∧ e.resultingState = .accepted ∧ e.amount = 5 ∧
    e.assetId = sampleAsset
  fresh : s.outputs[outputId]? = none

/-- The issued units can be transferred as long as they are stored, under any new id. -/
theorem sampleTransfer_step {s : ReplayState} {outputId : String} (h : Transferable s outputId)
    (hid : outputId ≠ "") :
    ∃ s' priors, replayRecord .assumeAllConfirmedForRegtest s (sampleTransfer outputId) = .ok s' ∧
      ReplayStep .assumeAllConfirmedForRegtest (sampleTransfer outputId) priors s s' := by
  obtain ⟨e, he, hstate, hamount, hasset⟩ := h.held
  have htransition : (⟨List.replicate 32 1, rfl⟩ : Bytes32) ≠ Bytes32.ZERO := by decide
  exact replayStep_move h.keyed ProofTransitionKind.noConfusion rfl rfl hid h.unseen htransition he
    (by rw [hstate]; rfl) hamount.symm hasset.symm (sampleOutput_valid hid rfl) h.fresh rfl

/-- After the first transfer the issued units are stored as before it. -/
theorem firstTransfer_accepted : ∃ s,
    replayState [sampleIssue, sampleTransfer "first"] .assumeAllConfirmedForRegtest = .ok s ∧
      Transferable s "second" := by
  obtain ⟨s1, hs1, hstep1⟩ := sampleIssue_step
  have hledger1 := ledger_step ledger_empty hstep1
  have hget1 := (hstep1.get_new (List.mem_singleton.mpr rfl)).1
  have hfresh1 : ∀ id, id ≠ "issued" → s1.outputs[id]? = none := fun id hid =>
    hstep1.outputs_old (by simpa [ProofHistoryRecord.outputIds, sampleIssue, sampleOutput])
  have hseen1 : s1.seenRecords = (∅ : BTreeMap String Unit).insert "issue" () := by
    rw [hstep1.maps]
    rfl
  have hfirst : Transferable s1 "first" := by
    refine ⟨hledger1.keyed, ?_, ⟨_, hget1, rfl, rfl, rfl⟩, hfresh1 _ (by decide)⟩
    rw [hseen1]
    decide
  obtain ⟨s2, _, hs2, hstep2⟩ := sampleTransfer_step hfirst (by decide)
  have hissued : "issued" ∉ (sampleTransfer "first").outputIds := by decide
  have hseen2 : s2.seenRecords = s1.seenRecords.insert "first" () := by
    rw [hstep2.maps]
    rfl
  refine ⟨s2, by simp [replayState, hs1, hs2], (ledger_step hledger1 hstep2).keyed, ?_,
    ⟨_, (hstep2.outputs_old hissued).trans hget1, rfl, rfl, rfl⟩,
    (hstep2.outputs_old (by decide)).trans (hfresh1 _ (by decide))⟩
  rw [hseen2, hseen1]
  decide

/-- Both transfers are accepted: the replay reads neither the spent state that the first
left behind nor the missing explanation. -/
theorem doubleSpend_accepted :
    ∃ replay, replayWithAnchorPolicy doubleSpend .assumeAllConfirmedForRegtest = .ok replay := by
  obtain ⟨s, hs, hsecond⟩ := firstTransfer_accepted
  obtain ⟨s', _, hs', -⟩ := sampleTransfer_step hsecond (by decide)
  have hsplit : doubleSpend = [sampleIssue, sampleTransfer "first"] ++ [sampleTransfer "second"] :=
    rfl
  refine ⟨⟨s'.explanations, s'.states⟩, ?_⟩
  rw [replayState] at hs
  rw [replayWithAnchorPolicy, replayState, hsplit, List.foldlM_append, hs]
  simp [hs']

/-- The history is accepted, names one output in two records, and explains ten units of an
asset of which five were issued. -/
theorem doubleSpend_not_conserved :
    ∃ replay, replayWithAnchorPolicy doubleSpend .assumeAllConfirmedForRegtest = .ok replay ∧
      ¬ ConsumedOnce doubleSpend ∧ ¬ Conserved doubleSpend replay := by
  obtain ⟨replay, hreplay⟩ := doubleSpend_accepted
  have honce : ¬ ConsumedOnce doubleSpend := by
    intro h
    have hcount : doubleSpend.countP (fun r => "issued" ∈ r.inputIds) = 2 := by decide
    have hle := h "issued"
    omega
  obtain ⟨hhalf, hhalf'⟩ := replay_halves hreplay
  exact ⟨replay, hreplay, honce, fun h => honce (hhalf.mpr (hhalf'.mp h))⟩

/-- An issuance and one transfer of it meet the condition, and the property holds of them. -/
theorem replay_conserves_iff_spends_unspent_transfer : ∃ replay,
    replayWithAnchorPolicy [sampleIssue, sampleTransfer "first"] .assumeAllConfirmedForRegtest =
      .ok replay ∧
    SpendsUnspent .assumeAllConfirmedForRegtest [sampleIssue, sampleTransfer "first"] ∧
    ConsumedOnce [sampleIssue, sampleTransfer "first"] ∧
    Conserved [sampleIssue, sampleTransfer "first"] replay := by
  obtain ⟨s, hs, -⟩ := firstTransfer_accepted
  have hreplay : replayWithAnchorPolicy [sampleIssue, sampleTransfer "first"]
      .assumeAllConfirmedForRegtest = .ok ⟨s.explanations, s.states⟩ := by
    rw [replayWithAnchorPolicy, hs]
    rfl
  have honce : ConsumedOnce [sampleIssue, sampleTransfer "first"] := by
    intro id
    rw [List.countP_cons_of_neg (by simp [ProofHistoryRecord.inputIds, sampleIssue])]
    exact List.countP_le_length
  have hunspent := (replay_halves hreplay).1.mp honce
  exact ⟨_, hreplay, hunspent, (replay_conserves_iff_spends_unspent hreplay).mpr hunspent⟩

end TapLdk.ProofHistoryConservation
