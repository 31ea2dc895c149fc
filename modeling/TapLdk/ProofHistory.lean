import Mathlib
import TapLdk.Proof

/-! Proof-history replay: a list of transition records is checked one by one against the
outputs that earlier records created, and yields the accepted balance explanations. -/
namespace TapLdk.ProofHistory
open TapLdk.LibraryExcept TapLdk.LibraryMaps TapLdk.LibraryBytes TapLdk.Mssmt TapLdk.Asset
open TapLdk.Proof

inductive ProofAnchorState where
  | unknown
  | pending
  | confirmed
  | stale
  | reorged
deriving DecidableEq

def ProofAnchorState.asStr : ProofAnchorState → String
  | .unknown => "unknown"
  | .pending => "pending"
  | .confirmed => "confirmed"
  | .stale => "stale"
  | .reorged => "reorged"

structure ProofAnchorPolicy where
  defaultAnchorState : ProofAnchorState
  acceptPending : Bool
  anchorStates : BTreeMap String ProofAnchorState

namespace ProofAnchorPolicy

def strictConfirmed : ProofAnchorPolicy := ⟨.unknown, false, ∅⟩

def assumeAllConfirmedForRegtest : ProofAnchorPolicy := ⟨.confirmed, false, ∅⟩

def withAnchorState (policy : ProofAnchorPolicy) (anchorOutpoint : String)
    (state : ProofAnchorState) : ProofAnchorPolicy :=
  { policy with anchorStates := policy.anchorStates.insert anchorOutpoint state }

def anchorState (policy : ProofAnchorPolicy) (anchorOutpoint : String) : ProofAnchorState :=
  (policy.anchorStates[anchorOutpoint]?).getD policy.defaultAnchorState

def acceptsAnchorState (policy : ProofAnchorPolicy) : ProofAnchorState → Bool
  | .confirmed => true
  | .pending => policy.acceptPending
  | .unknown | .stale | .reorged => false

end ProofAnchorPolicy

inductive ProofHistoryState where
  | accepted
  | rejected
  | unresolved
  | pending
  | stale
  | spent
  | channelLocked
  | closed
  | swept
deriving DecidableEq

def ProofHistoryState.canExplainBalance : ProofHistoryState → Bool
  | .accepted | .channelLocked | .closed | .swept => true
  | .rejected | .unresolved | .pending | .stale | .spent => false

inductive ProofTransitionKind where
  | issuance
  | split
  | transfer
  | channelFunding
  | commitmentUpdate
  | cooperativeClose
  | unilateralClose
  | secondLevelHtlc
  | sweep
  | proofExport
deriving DecidableEq

namespace ProofTransitionKind

def consumesInputs (kind : ProofTransitionKind) : Bool := kind != .issuance

def allowsInputState : ProofTransitionKind → ProofHistoryState → Bool
  | .issuance, _ => false
  | .split, state | .transfer, state | .channelFunding, state => state == .accepted
  | .commitmentUpdate, state => state == .channelLocked
  | .cooperativeClose, state | .unilateralClose, state => state == .channelLocked
  | .secondLevelHtlc, state | .sweep, state => state == .closed
  | .proofExport, state => state.canExplainBalance

def allowsOutputState : ProofTransitionKind → ProofHistoryState → Bool
  | .issuance, state | .split, state | .transfer, state | .proofExport, state =>
    state == .accepted
  | .channelFunding, state | .commitmentUpdate, state => state == .channelLocked
  | .cooperativeClose, state | .unilateralClose, state | .secondLevelHtlc, state =>
    state == .closed
  | .sweep, state => state == .swept

end ProofTransitionKind

structure ProofHistoryInput where
  outputId : String
deriving DecidableEq

structure ProofHistoryOutput where
  outputId : String
  assetId : Bytes32
  amount : AssetAmount
  scriptKey : CompressedKey
  anchorOutpoint : String
  tapAssetRoot : RootHashSum
  resultingState : ProofHistoryState
deriving DecidableEq

structure ProofHistoryRecord where
  recordId : String
  kind : ProofTransitionKind
  virtualTransitionId : Bytes32
  inputs : List ProofHistoryInput
  outputs : List ProofHistoryOutput
deriving DecidableEq

structure ProofHistoryPriorState where
  outputId : String
  state : ProofHistoryState
  amount : AssetAmount
  anchorOutpoint : String
deriving DecidableEq

structure AcceptedBalanceExplanation where
  outputId : String
  recordId : String
  transitionKind : ProofTransitionKind
  virtualTransitionId : Bytes32
  assetId : Bytes32
  amount : AssetAmount
  scriptKey : CompressedKey
  anchorOutpoint : String
  anchorState : ProofAnchorState
  tapAssetRoot : RootHashSum
  priorStates : List ProofHistoryPriorState
  resultingState : ProofHistoryState
deriving DecidableEq

inductive ProofHistoryReplayError where
  | asset (error : AssetError)
  | emptyRecordId
  | duplicateRecord (recordId : String)
  | zeroTransitionId (recordId : String)
  | unexpectedInputs (recordId : String) (kind : ProofTransitionKind)
  | missingInputs (recordId : String) (kind : ProofTransitionKind)
  | missingOutputs (recordId : String)
  | missingInput (recordId inputOutputId : String)
  | duplicateInput (recordId inputOutputId : String)
  | invalidInputState (recordId inputOutputId : String) (kind : ProofTransitionKind)
      (state : ProofHistoryState)
  | emptyOutputId (recordId : String)
  | duplicateOutput (recordId outputId : String)
  | invalidOutputState (recordId outputId : String) (kind : ProofTransitionKind)
      (state : ProofHistoryState)
  | zeroOutputAmount (recordId outputId : String)
  | malformedOutputAnchor (recordId outputId : String)
  | outputRootMismatch (recordId outputId : String) (expectedHash actualHash : Bytes32)
      (expectedSum actualSum : UInt64)
  | unacceptableAnchorState (recordId outputId anchorOutpoint : String)
      (anchorState : ProofAnchorState)
  | amountNotConserved (recordId : String) (input output : UInt64)
  | assetMismatch (recordId : String) (expected actual : Bytes32)
  /-- Stands for a panic of the program. -/
  | panicked (message : String)
deriving DecidableEq

/-- The maps of a replay after some records. -/
structure ReplayState where
  seenRecords : BTreeMap String Unit
  outputs : BTreeMap String AcceptedBalanceExplanation
  explanations : BTreeMap String AcceptedBalanceExplanation
  states : BTreeMap String ProofHistoryState

def ReplayState.empty : ReplayState := ⟨∅, ∅, ∅, ∅⟩

def validateRecordIdentity (record : ProofHistoryRecord) (seenRecords : BTreeMap String Unit) :
    Except ProofHistoryReplayError (BTreeMap String Unit) := do
  let recordId := record.recordId
  rejectIf (recordId = "") .emptyRecordId
  rejectIf (seenRecords[recordId]?).isSome (.duplicateRecord recordId)
  rejectIf (record.virtualTransitionId = Bytes32.ZERO) (.zeroTransitionId recordId)
  if record.kind = .issuance then
    rejectIf (record.inputs ≠ []) (.unexpectedInputs recordId record.kind)
  else
    rejectIf (record.inputs = []) (.missingInputs recordId record.kind)
  rejectIf (record.outputs = []) (.missingOutputs recordId)
  pure (seenRecords.insert recordId ())

/-- One input: the ids seen so far in the record and the prior states collected. -/
def validateInput (record : ProofHistoryRecord) (outputs : BTreeMap String AcceptedBalanceExplanation)
    (acc : BTreeMap String Unit × List ProofHistoryPriorState) (input : ProofHistoryInput) :
    Except ProofHistoryReplayError (BTreeMap String Unit × List ProofHistoryPriorState) := do
  rejectIf (acc.1[input.outputId]?).isSome (.duplicateInput record.recordId input.outputId)
  let existing ← okOr outputs[input.outputId]? (.missingInput record.recordId input.outputId)
  rejectIf (¬ record.kind.allowsInputState existing.resultingState)
    (.invalidInputState record.recordId input.outputId record.kind existing.resultingState)
  pure (acc.1.insert input.outputId (),
    acc.2 ++ [⟨existing.outputId, existing.resultingState, existing.amount,
      existing.anchorOutpoint⟩])

/-- Inputs are checked against the outputs as created. The states are written, not read. -/
def validateInputs (record : ProofHistoryRecord) (s : ReplayState) :
    Except ProofHistoryReplayError (List ProofHistoryPriorState × ReplayState) := do
  let (_, priorStates) ← record.inputs.foldlM (validateInput record s.outputs) (∅, [])
  if record.kind.consumesInputs then
    pure (priorStates,
      { s with
        explanations := record.inputs.foldl (fun m input => m.erase input.outputId) s.explanations
        states := record.inputs.foldl (fun m input => m.insert input.outputId .spent) s.states })
  else
    pure (priorStates, s)

/-- One output: the ids seen so far in the record and the total amount. -/
def validateOutput (record : ProofHistoryRecord) (acc : BTreeMap String Unit × AssetAmount)
    (output : ProofHistoryOutput) :
    Except ProofHistoryReplayError (BTreeMap String Unit × AssetAmount) := do
  let recordId := record.recordId
  rejectIf (output.outputId = "") (.emptyOutputId recordId)
  rejectIf (acc.1[output.outputId]?).isSome (.duplicateOutput recordId output.outputId)
  rejectIf (¬ record.kind.allowsOutputState output.resultingState)
    (.invalidOutputState recordId output.outputId record.kind output.resultingState)
  rejectIf (output.amount = 0) (.zeroOutputAmount recordId output.outputId)
  let _ ← (parseOutpoint output.anchorOutpoint "proof_history_output_anchor").mapError fun _ =>
    .malformedOutputAnchor recordId output.outputId
  let expectedRoot ←
    (deriveHashSumRoot [⟨output.assetId, output.scriptKey, output.amount⟩]).mapError .asset
  rejectIf (expectedRoot ≠ output.tapAssetRoot)
    (.outputRootMismatch recordId output.outputId expectedRoot.hash output.tapAssetRoot.hash
      expectedRoot.sum output.tapAssetRoot.sum)
  let total ← (addAmount acc.2 output.amount).mapError .asset
  pure (acc.1.insert output.outputId (), total)

def validateOutputs (record : ProofHistoryRecord) : Except ProofHistoryReplayError AssetAmount := do
  let (_, total) ← record.outputs.foldlM (validateOutput record) (∅, 0)
  pure total

def sumPriorStates (priorStates : List ProofHistoryPriorState) :
    Except ProofHistoryReplayError AssetAmount :=
  priorStates.foldlM (fun total prior => (addAmount total prior.amount).mapError .asset) 0

/-- The asset of an output a prior state came from. -/
def priorAssetId (outputs : BTreeMap String AcceptedBalanceExplanation)
    (prior : ProofHistoryPriorState) : Except ProofHistoryReplayError Bytes32 := do
  let explanation ← okOr outputs[prior.outputId]? (.panicked "prior state came from outputs")
  pure explanation.assetId

/-- The asset of the first input, which every other input has to share. -/
def expectedAsset (record : ProofHistoryRecord)
    (outputs : BTreeMap String AcceptedBalanceExplanation)
    (priorStates : List ProofHistoryPriorState) :
    Except ProofHistoryReplayError (Option Bytes32) :=
  match priorStates.head? with
  | none => pure none
  | some first => do
    let expected ← priorAssetId outputs first
    priorStates.forM fun prior => do
      let actual ← priorAssetId outputs prior
      rejectIf (actual ≠ expected) (.assetMismatch record.recordId expected actual)
    pure (some expected)

def explanationOf (record : ProofHistoryRecord) (policy : ProofAnchorPolicy)
    (priorStates : List ProofHistoryPriorState) (output : ProofHistoryOutput) :
    AcceptedBalanceExplanation :=
  { outputId := output.outputId
    recordId := record.recordId
    transitionKind := record.kind
    virtualTransitionId := record.virtualTransitionId
    assetId := output.assetId
    amount := output.amount
    scriptKey := output.scriptKey
    anchorOutpoint := output.anchorOutpoint
    anchorState := policy.anchorState output.anchorOutpoint
    tapAssetRoot := output.tapAssetRoot
    priorStates
    resultingState := output.resultingState }

def acceptOutput (record : ProofHistoryRecord) (policy : ProofAnchorPolicy)
    (priorStates : List ProofHistoryPriorState) (expectedAssetId : Option Bytes32)
    (s : ReplayState) (output : ProofHistoryOutput) :
    Except ProofHistoryReplayError ReplayState := do
  rejectIf (s.outputs[output.outputId]?).isSome
    (.duplicateOutput record.recordId output.outputId)
  match expectedAssetId with
  | some assetId =>
    rejectIf (output.assetId ≠ assetId)
      (.assetMismatch record.recordId assetId output.assetId)
  | none => pure ()
  let anchorState := policy.anchorState output.anchorOutpoint
  rejectIf (output.resultingState.canExplainBalance ∧ ¬ policy.acceptsAnchorState anchorState)
    (.unacceptableAnchorState record.recordId output.outputId output.anchorOutpoint anchorState)
  let explanation := explanationOf record policy priorStates output
  pure { s with
    outputs := s.outputs.insert output.outputId explanation
    states := s.states.insert output.outputId output.resultingState
    explanations :=
      if output.resultingState.canExplainBalance then
        s.explanations.insert output.outputId explanation
      else s.explanations }

def replayRecord (policy : ProofAnchorPolicy) (s : ReplayState) (record : ProofHistoryRecord) :
    Except ProofHistoryReplayError ReplayState := do
  let seenRecords ← validateRecordIdentity record s.seenRecords
  let (priorStates, consumed) ← validateInputs record s
  let outputTotal ← validateOutputs record
  let inputTotal ← sumPriorStates priorStates
  rejectIf (record.kind ≠ .issuance ∧ inputTotal ≠ outputTotal)
    (.amountNotConserved record.recordId inputTotal outputTotal)
  let expectedAssetId ← expectedAsset record consumed.outputs priorStates
  record.outputs.foldlM (acceptOutput record policy priorStates expectedAssetId)
    { consumed with seenRecords }

def replayState (records : List ProofHistoryRecord) (policy : ProofAnchorPolicy) :
    Except ProofHistoryReplayError ReplayState :=
  records.foldlM (replayRecord policy) .empty

structure ProofHistoryReplay where
  explanations : BTreeMap String AcceptedBalanceExplanation
  states : BTreeMap String ProofHistoryState

namespace ProofHistoryReplay

def acceptedExplanations (replay : ProofHistoryReplay) : List AcceptedBalanceExplanation :=
  replay.explanations.toList.map (·.2)

def acceptedExplanation (replay : ProofHistoryReplay) (outputId : String) :
    Option AcceptedBalanceExplanation :=
  replay.explanations[outputId]?

def outputState (replay : ProofHistoryReplay) (outputId : String) : Option ProofHistoryState :=
  replay.states[outputId]?

end ProofHistoryReplay

def replayWithAnchorPolicy (records : List ProofHistoryRecord) (policy : ProofAnchorPolicy) :
    Except ProofHistoryReplayError ProofHistoryReplay := do
  let s ← replayState records policy
  pure ⟨s.explanations, s.states⟩

def replay (records : List ProofHistoryRecord) : Except ProofHistoryReplayError ProofHistoryReplay :=
  replayWithAnchorPolicy records .assumeAllConfirmedForRegtest

def ProofHistoryRecord.inputIds (record : ProofHistoryRecord) : List String :=
  record.inputs.map (·.outputId)

def ProofHistoryRecord.outputIds (record : ProofHistoryRecord) : List String :=
  record.outputs.map (·.outputId)

/-- The prior state an input stands for, if its output can be spent by the record. -/
def IsPrior (record : ProofHistoryRecord) (outputs : BTreeMap String AcceptedBalanceExplanation)
    (input : ProofHistoryInput) (prior : ProofHistoryPriorState) : Prop :=
  ∃ e, outputs[input.outputId]? = some e ∧
    record.kind.allowsInputState e.resultingState = true ∧
    prior = ⟨e.outputId, e.resultingState, e.amount, e.anchorOutpoint⟩

/-- An output that passes the checks on the record alone. -/
structure IsOutput (record : ProofHistoryRecord) (output : ProofHistoryOutput) : Prop where
  outputId : output.outputId ≠ ""
  allowed : record.kind.allowsOutputState output.resultingState = true
  amount : output.amount ≠ 0
  anchor : ∃ anchor, outpointOf output.anchorOutpoint = some anchor
  root : output.tapAssetRoot = singleRoot ⟨output.assetId, output.scriptKey, output.amount⟩

theorem validateRecordIdentity_eq_ok {record : ProofHistoryRecord}
    {seen seen' : BTreeMap String Unit} :
    validateRecordIdentity record seen = .ok seen' ↔
      record.recordId ≠ "" ∧ seen[record.recordId]? = none ∧
        record.virtualTransitionId ≠ Bytes32.ZERO ∧
        (record.kind = .issuance ↔ record.inputs = []) ∧ record.outputs ≠ [] ∧
        seen.insert record.recordId () = seen' := by
  unfold validateRecordIdentity
  by_cases hkind : record.kind = .issuance <;> simp [hkind]

theorem validateInput_eq_ok {record : ProofHistoryRecord}
    {outputs : BTreeMap String AcceptedBalanceExplanation} {input : ProofHistoryInput}
    {acc acc' : BTreeMap String Unit × List ProofHistoryPriorState} :
    validateInput record outputs acc input = .ok acc' ↔
      acc.1[input.outputId]? = none ∧ ∃ prior, IsPrior record outputs input prior ∧
        acc' = (acc.1.insert input.outputId (), acc.2 ++ [prior]) := by
  simp only [validateInput, bind_eq_ok, rejectIf_eq_ok, okOr_eq_ok, pure_eq_ok, Except.ok.injEq,
    Option.isSome_iff_ne_none, ne_eq, not_not, IsPrior, exists_const]
  constructor
  · rintro ⟨hseen, e, he, hallow, rfl⟩
    exact ⟨hseen, _, ⟨e, he, hallow, rfl⟩, rfl⟩
  · rintro ⟨hseen, _, ⟨e, he, hallow, rfl⟩, rfl⟩
    exact ⟨hseen, e, he, hallow, rfl⟩

/-- The keys of a set of ids collected along a list. -/
def Collects (seen : BTreeMap String Unit) (ids : List String) : Prop :=
  ∀ id, seen[id]? = none ↔ id ∉ ids

theorem collects_nil : Collects ∅ [] := fun id => by simp

theorem collects_concat {seen : BTreeMap String Unit} {ids : List String} (h : Collects seen ids)
    (id : String) : Collects (seen.insert id ()) (ids ++ [id]) := by
  intro j
  by_cases hj : j = id
  · subst hj
    simp
  · rw [get_insert_ne hj, h j]
    simp [hj]

/-- Distinct inputs, each with its prior state. -/
theorem foldlM_validateInput {record : ProofHistoryRecord}
    {outputs : BTreeMap String AcceptedBalanceExplanation} {inputs : List ProofHistoryInput}
    {acc : BTreeMap String Unit × List ProofHistoryPriorState}
    (h : inputs.foldlM (validateInput record outputs) (∅, []) = .ok acc) :
    (inputs.map (·.outputId)).Nodup ∧ List.Forall₂ (IsPrior record outputs) inputs acc.2 := by
  have hinv := foldlM_induction (fun done (acc : BTreeMap String Unit × List _) =>
    Collects acc.1 (done.map (·.outputId)) ∧ (done.map (·.outputId)).Nodup ∧
      List.Forall₂ (IsPrior record outputs) done acc.2)
    ⟨collects_nil, List.nodup_nil, .nil⟩ ?_ h
  · exact hinv.2
  · rintro done input acc acc' ⟨hseen, hnodup, hprior⟩ hstep
    obtain ⟨hnew, prior, hp, rfl⟩ := validateInput_eq_ok.mp hstep
    rw [List.map_append]
    refine ⟨collects_concat hseen _, ?_, List.rel_append hprior (.cons hp .nil)⟩
    simpa using hnodup.concat ((hseen _).mp hnew)

theorem allowsOutputState_spec {kind : ProofTransitionKind} {state : ProofHistoryState}
    (h : kind.allowsOutputState state = true) : state.canExplainBalance = true ∧ state ≠ .spent := by
  cases kind <;> cases state <;> first | exact ⟨rfl, by decide⟩ | cases h

theorem validateOutput_eq_ok {record : ProofHistoryRecord} {output : ProofHistoryOutput}
    {acc acc' : BTreeMap String Unit × AssetAmount} :
    validateOutput record acc output = .ok acc' ↔
      acc.1[output.outputId]? = none ∧ IsOutput record output ∧
        acc'.2.toNat = acc.2.toNat + output.amount.toNat ∧
        acc'.1 = acc.1.insert output.outputId () := by
  simp only [validateOutput, bind_eq_ok, rejectIf_eq_ok, mapError_eq_ok, parseOutpoint_eq_ok,
    pure_eq_ok, Except.ok.injEq, Option.isSome_iff_ne_none, ne_eq, not_not, exists_const,
    addAmount_eq_ok]
  constructor
  · rintro ⟨hid, hnew, hallow, hamount, anchor, hanchor, root, hroot, rfl, total, htotal, rfl⟩
    rw [deriveHashSumRoot_single (by exact hamount), Except.ok.injEq] at hroot
    exact ⟨hnew, ⟨hid, hallow, hamount, ⟨anchor, hanchor⟩, hroot.symm⟩, htotal, rfl⟩
  · rintro ⟨hnew, ho, htotal, hseen⟩
    obtain ⟨anchor, hanchor⟩ := ho.anchor
    refine ⟨ho.outputId, hnew, ho.allowed, ho.amount, anchor, hanchor, _,
      deriveHashSumRoot_single (by exact ho.amount), ho.root.symm, acc'.2, htotal, ?_⟩
    rw [← hseen]

/-- Distinct outputs, each valid, and their exact total. -/
theorem validateOutputs_spec {record : ProofHistoryRecord} {total : AssetAmount}
    (h : validateOutputs record = .ok total) :
    record.outputIds.Nodup ∧ (∀ output ∈ record.outputs, IsOutput record output) ∧
      total.toNat = (record.outputs.map fun o => o.amount.toNat).sum := by
  simp only [validateOutputs, bind_eq_ok, pure_eq_ok, Except.ok.injEq] at h
  obtain ⟨acc, hfold, rfl⟩ := h
  have hinv := foldlM_induction (fun done (acc : BTreeMap String Unit × AssetAmount) =>
    Collects acc.1 (done.map fun o : ProofHistoryOutput => o.outputId) ∧
      (done.map fun o : ProofHistoryOutput => o.outputId).Nodup ∧
      (∀ o ∈ done, IsOutput record o) ∧
      acc.2.toNat = (done.map fun o : ProofHistoryOutput => o.amount.toNat).sum)
    ⟨collects_nil, List.nodup_nil, by simp, rfl⟩ ?_ hfold
  · exact hinv.2
  · rintro done output acc acc' ⟨hseen, hnodup, hall, hsum⟩ hstep
    obtain ⟨hnew, ho, htotal, hinsert⟩ := validateOutput_eq_ok.mp hstep
    refine ⟨?_, ?_, ?_, ?_⟩
    · rw [hinsert, List.map_append]
      exact collects_concat hseen _
    · simpa using hnodup.concat ((hseen _).mp hnew)
    · intro o ho'
      rcases List.mem_append.mp ho' with hmem | hmem
      · exact hall o hmem
      · rwa [List.mem_singleton.mp hmem]
    · simp [htotal, hsum]

theorem sumPriorStates_spec {priors : List ProofHistoryPriorState} {total : AssetAmount}
    (h : sumPriorStates priors = .ok total) :
    total.toNat = (priors.map fun p => p.amount.toNat).sum := by
  refine foldlM_induction
    (fun done s => s.toNat = (done.map fun p : ProofHistoryPriorState => p.amount.toNat).sum)
    rfl ?_ h
  intro done prior s s' hs hstep
  rw [mapError_eq_ok, addAmount_eq_ok] at hstep
  simp [hstep, hs]

/-- The asset ids of all inputs agree with the expected one. -/
theorem expectedAsset_spec {record : ProofHistoryRecord}
    {outputs : BTreeMap String AcceptedBalanceExplanation} {priors : List ProofHistoryPriorState}
    {expected : Option Bytes32} (h : expectedAsset record outputs priors = .ok expected) :
    (expected = none ∧ priors = []) ∨
      ∃ a, expected = some a ∧ ∀ p ∈ priors, priorAssetId outputs p = .ok a := by
  unfold expectedAsset at h
  split at h
  · rename_i hhead
    exact .inl ⟨by simpa using h.symm, List.head?_eq_none_iff.mp hhead⟩
  · rename_i first hhead
    simp only [bind_eq_ok, forM_eq_ok, rejectIf_eq_ok, ne_eq, not_not, pure_eq_ok,
      Except.ok.injEq] at h
    obtain ⟨a, ha, _, hall, rfl⟩ := h
    refine .inr ⟨a, rfl, fun p hp => ?_⟩
    obtain ⟨b, hb, rfl⟩ := hall p hp
    exact hb

/-- The entries that the outputs of a record add. -/
def ProofHistoryRecord.entries (record : ProofHistoryRecord) (policy : ProofAnchorPolicy)
    (priors : List ProofHistoryPriorState) : List (String × AcceptedBalanceExplanation) :=
  record.outputs.map fun o => (o.outputId, explanationOf record policy priors o)

theorem acceptOutput_eq_ok {record : ProofHistoryRecord} {policy : ProofAnchorPolicy}
    {priors : List ProofHistoryPriorState} {expected : Option Bytes32} {s s' : ReplayState}
    {output : ProofHistoryOutput} (hexplain : output.resultingState.canExplainBalance = true) :
    acceptOutput record policy priors expected s output = .ok s' ↔
      s.outputs[output.outputId]? = none ∧ (∀ a, expected = some a → output.assetId = a) ∧
        policy.acceptsAnchorState (policy.anchorState output.anchorOutpoint) = true ∧
        { s with
          outputs := s.outputs.insert output.outputId (explanationOf record policy priors output)
          states := s.states.insert output.outputId output.resultingState
          explanations :=
            s.explanations.insert output.outputId (explanationOf record policy priors output) } =
          s' := by
  cases expected <;> simp [acceptOutput, hexplain, @eq_comm _ output.assetId]

/-- The maps after a list of outputs of one record. -/
theorem foldlM_acceptOutput {record : ProofHistoryRecord} {policy : ProofAnchorPolicy}
    {priors : List ProofHistoryPriorState} {expected : Option Bytes32} {s s' : ReplayState}
    {outputs : List ProofHistoryOutput} (hvalid : ∀ o ∈ outputs, IsOutput record o)
    (h : outputs.foldlM (acceptOutput record policy priors expected) s = .ok s') :
    (∀ o ∈ outputs, s.outputs[o.outputId]? = none ∧ (∀ a, expected = some a → o.assetId = a) ∧
      policy.acceptsAnchorState (policy.anchorState o.anchorOutpoint) = true) ∧
    s' = { s with
      outputs := insertAll s.outputs
        (outputs.map fun o => (o.outputId, explanationOf record policy priors o))
      states := insertAll s.states (outputs.map fun o => (o.outputId, o.resultingState))
      explanations := insertAll s.explanations
        (outputs.map fun o => (o.outputId, explanationOf record policy priors o)) } := by
  induction outputs using List.reverseRecOn generalizing s' with
  | nil =>
    rw [List.foldlM_nil, pure_eq_ok, Except.ok.injEq] at h
    exact ⟨by simp, h.symm⟩
  | append_singleton outputs last ih =>
    rw [foldlM_concat, bind_eq_ok] at h
    obtain ⟨mid, hmid, hlast⟩ := h
    obtain ⟨hall, rfl⟩ := ih (fun o ho => hvalid o (by simp [ho])) hmid
    have hexplain := (allowsOutputState_spec (hvalid last (by simp)).allowed).1
    obtain ⟨hnew, hasset, hanchor, rfl⟩ := (acceptOutput_eq_ok hexplain).mp hlast
    refine ⟨fun o ho => ?_, by simp [insertAll]⟩
    rcases List.mem_append.mp ho with hmem | hmem
    · exact hall o hmem
    · rw [List.mem_singleton.mp hmem]
      refine ⟨?_, hasset, hanchor⟩
      by_cases hold : last.outputId ∈ outputs.map (·.outputId)
      · obtain ⟨o', ho', heq⟩ := List.mem_map.mp hold
        rw [← heq]
        exact (hall o' ho').1
      · rwa [get_insertAll_of_not_mem (by simpa using hold)] at hnew

/-- Every output is stored under its own id. -/
def WellKeyed (s : ReplayState) : Prop := 
  ∀ (id : String) (e : AcceptedBalanceExplanation), s.outputs[id]? = some e → e.outputId = id

/-- The amount an output id stands for. -/
def amountAt (outputs : BTreeMap String AcceptedBalanceExplanation) (id : String) : ℕ :=
  (outputs[id]?).elim 0 fun e => e.amount.toNat

/-- All that one accepted record does and requires. -/
structure ReplayStep (policy : ProofAnchorPolicy) (record : ProofHistoryRecord)
    (priors : List ProofHistoryPriorState) (s s' : ReplayState) : Prop where
  recordId : record.recordId ≠ ""
  newRecord : s.seenRecords[record.recordId]? = none
  transitionId : record.virtualTransitionId ≠ Bytes32.ZERO
  inputs_nil : record.kind = .issuance ↔ record.inputs = []
  outputs_ne : record.outputs ≠ []
  inputIds_nodup : record.inputIds.Nodup
  outputIds_nodup : record.outputIds.Nodup
  prior : List.Forall₂ (IsPrior record s.outputs) record.inputs priors
  output : ∀ o ∈ record.outputs, IsOutput record o
  bounded : (record.outputs.map fun o => o.amount.toNat).sum < 2 ^ 64
  fresh : ∀ o ∈ record.outputs, s.outputs[o.outputId]? = none
  anchor : ∀ o ∈ record.outputs,
    policy.acceptsAnchorState (policy.anchorState o.anchorOutpoint) = true
  asset : record.kind ≠ .issuance → ∃ a, (∀ id ∈ record.inputIds, ∃ e, s.outputs[id]? = some e ∧
    e.assetId = a) ∧ ∀ o ∈ record.outputs, o.assetId = a
  conserved : record.kind ≠ .issuance → (record.inputIds.map (amountAt s.outputs)).sum =
    (record.outputs.map fun o => o.amount.toNat).sum
  maps : s' =
    { seenRecords := s.seenRecords.insert record.recordId ()
      outputs := insertAll s.outputs (record.entries policy priors)
      explanations := insertAll (eraseAll s.explanations record.inputIds)
        (record.entries policy priors)
      states := insertAll (insertAll s.states (record.inputIds.map fun id => (id, .spent)))
        (record.outputs.map fun o => (o.outputId, o.resultingState)) }

theorem sum_priors {record : ProofHistoryRecord}
    {outputs : BTreeMap String AcceptedBalanceExplanation} {inputs : List ProofHistoryInput}
    {priors : List ProofHistoryPriorState}
    (h : List.Forall₂ (IsPrior record outputs) inputs priors) :
    (priors.map fun p => p.amount.toNat).sum =
      ((inputs.map (·.outputId)).map (amountAt outputs)).sum := by
  induction h with
  | nil => rfl
  | cons hp _ ih =>
    obtain ⟨e, he, -, rfl⟩ := hp
    simp [ih, amountAt, he]

/-- The states maps of a record without inputs are those of a record that consumes none. -/
theorem validateInputs_spec {record : ProofHistoryRecord} {s mid : ReplayState}
    {priors : List ProofHistoryPriorState}
    (hnil : record.kind = .issuance ↔ record.inputs = [])
    (h : validateInputs record s = .ok (priors, mid)) :
    record.inputIds.Nodup ∧ List.Forall₂ (IsPrior record s.outputs) record.inputs priors ∧
      mid = { s with
        explanations := eraseAll s.explanations record.inputIds
        states := insertAll s.states (record.inputIds.map fun id => (id, .spent)) } := by
  simp only [validateInputs, bind_eq_ok] at h
  obtain ⟨acc, hfold, h⟩ := h
  obtain ⟨hnodup, hprior⟩ := foldlM_validateInput hfold
  refine ⟨hnodup, ?_⟩
  split at h
  · obtain ⟨rfl, rfl⟩ := Prod.mk.inj (Except.ok.inj h)
    refine ⟨hprior, ?_⟩
    simp [eraseAll, insertAll, ProofHistoryRecord.inputIds, List.foldl_map]
  · rename_i hkind
    obtain ⟨rfl, rfl⟩ := Prod.mk.inj (Except.ok.inj h)
    have hi : record.inputs = [] := hnil.mp (by simpa [ProofTransitionKind.consumesInputs] using hkind)
    refine ⟨hprior, ?_⟩
    simp [eraseAll, insertAll, ProofHistoryRecord.inputIds, hi]

theorem replayRecord_step {policy : ProofAnchorPolicy} {record : ProofHistoryRecord}
    {s s' : ReplayState} (hkeyed : WellKeyed s) (h : replayRecord policy s record = .ok s') :
    ∃ priors, ReplayStep policy record priors s s' := by
  simp only [replayRecord, bind_eq_ok, rejectIf_eq_ok, exists_const] at h
  obtain ⟨seen, hident, ⟨priors, mid⟩, hin, outputTotal, hout, inputTotal, hsum, hcons, expected,
    hexp, hfold⟩ := h
  obtain ⟨hid, hnew, htid, hnil, hne, rfl⟩ := validateRecordIdentity_eq_ok.mp hident
  obtain ⟨hnodup, hprior, rfl⟩ := validateInputs_spec hnil hin
  obtain ⟨honodup, hvalid, htotal⟩ := validateOutputs_spec hout
  obtain ⟨hall, hmaps⟩ := foldlM_acceptOutput hvalid hfold
  refine ⟨priors,
    { recordId := hid, newRecord := hnew, transitionId := htid, inputs_nil := hnil
      outputs_ne := hne, inputIds_nodup := hnodup, outputIds_nodup := honodup, prior := hprior
      output := hvalid, bounded := htotal ▸ outputTotal.toNat_lt, fresh := fun o ho => (hall o ho).1, anchor := fun o ho => (hall o ho).2.2
      asset := fun hkind => ?_, conserved := fun hkind => ?_, maps := hmaps }⟩
  · rcases expectedAsset_spec hexp with ⟨-, rfl⟩ | ⟨a, rfl, hassets⟩
    · exact absurd (hnil.mpr (List.forall₂_nil_right_iff.mp hprior)) hkind
    · refine ⟨a, fun id hid => ?_, fun o ho => (hall o ho).2.1 a rfl⟩
      obtain ⟨input, hinput, rfl⟩ := List.mem_map.mp hid
      obtain ⟨prior, hmem, e, he, -, rfl⟩ := forall₂_exists hprior hinput
      refine ⟨e, he, ?_⟩
      have hasset := hassets _ hmem
      rw [priorAssetId, hkeyed _ _ he] at hasset
      simpa [he, okOr] using hasset
  · rw [not_and, not_not] at hcons
    rw [← htotal, ← hcons hkind, sumPriorStates_spec hsum]
    exact (sum_priors hprior).symm

theorem validateInputs_loop {record : ProofHistoryRecord}
    {outputs : BTreeMap String AcceptedBalanceExplanation} {inputs : List ProofHistoryInput}
    {priors : List ProofHistoryPriorState}
    (hprior : List.Forall₂ (IsPrior record outputs) inputs priors)
    {seen : BTreeMap String Unit} {ids : List String} (hseen : Collects seen ids)
    (hnodup : (ids ++ inputs.map (·.outputId)).Nodup) (done : List ProofHistoryPriorState) :
    ∃ seen', inputs.foldlM (validateInput record outputs) (seen, done) =
      .ok (seen', done ++ priors) := by
  induction hprior generalizing seen ids done with
  | nil => exact ⟨seen, by simp⟩
  | @cons input prior inputs priors hp _ ih =>
    have hsplit : ids ++ (input :: inputs).map (·.outputId) =
        (ids ++ [input.outputId]) ++ inputs.map (·.outputId) := by simp
    rw [hsplit] at hnodup
    have hnot : input.outputId ∉ ids := by
      have hconcat := (List.nodup_append.mp hnodup).1
      exact fun hmem => (List.nodup_append.mp hconcat).2.2 _ hmem _ (by simp) rfl
    have hstep : validateInput record outputs (seen, done) input =
        .ok (seen.insert input.outputId (), done ++ [prior]) :=
      validateInput_eq_ok.mpr ⟨(hseen _).mpr hnot, prior, hp, rfl⟩
    obtain ⟨seen', hrest⟩ := ih (collects_concat hseen _) hnodup (done ++ [prior])
    refine ⟨seen', ?_⟩
    rw [List.foldlM_cons, hstep, ok_bind, hrest]
    simp

theorem validateOutputs_loop {record : ProofHistoryRecord} {outputs : List ProofHistoryOutput}
    (hvalid : ∀ o ∈ outputs, IsOutput record o) {seen : BTreeMap String Unit} {ids : List String}
    (hseen : Collects seen ids) (hnodup : (ids ++ outputs.map (·.outputId)).Nodup)
    {total : AssetAmount}
    (hbound : total.toNat + (outputs.map fun o => o.amount.toNat).sum < 2 ^ 64) :
    ∃ acc, outputs.foldlM (validateOutput record) (seen, total) = .ok acc ∧
      acc.2.toNat = total.toNat + (outputs.map fun o => o.amount.toNat).sum := by
  induction outputs generalizing seen ids total with
  | nil => exact ⟨(seen, total), by simp, by simp⟩
  | cons output outputs ih =>
    have hsplit : ids ++ (output :: outputs).map (·.outputId) =
        (ids ++ [output.outputId]) ++ outputs.map (·.outputId) := by simp
    rw [hsplit] at hnodup
    have hnot : output.outputId ∉ ids := by
      have hconcat := (List.nodup_append.mp hnodup).1
      exact fun hmem => (List.nodup_append.mp hconcat).2.2 _ hmem _ (by simp) rfl
    rw [List.map_cons, List.sum_cons] at hbound ⊢
    have hnat : (UInt64.ofNat (total.toNat + output.amount.toNat)).toNat =
        total.toNat + output.amount.toNat := UInt64.toNat_ofNat_of_lt' (by
      simp only [UInt64.size]
      omega)
    have hstep : validateOutput record (seen, total) output = .ok (seen.insert output.outputId (),
        UInt64.ofNat (total.toNat + output.amount.toNat)) :=
      validateOutput_eq_ok.mpr ⟨(hseen _).mpr hnot, hvalid output (by simp), hnat, rfl⟩
    have hrestBound : (UInt64.ofNat (total.toNat + output.amount.toNat)).toNat +
        (outputs.map fun o => o.amount.toNat).sum < 2 ^ 64 := by omega
    obtain ⟨acc, hrest, hacc⟩ := ih (fun o ho => hvalid o (List.mem_cons_of_mem _ ho))
      (collects_concat hseen _) hnodup hrestBound
    refine ⟨acc, ?_, by omega⟩
    rw [List.foldlM_cons, hstep, ok_bind, hrest]

theorem sumPriorStates_loop {priors : List ProofHistoryPriorState} {total : AssetAmount}
    (hbound : total.toNat + (priors.map fun p => p.amount.toNat).sum < 2 ^ 64) :
    ∃ out, priors.foldlM (fun total p =>
        ((addAmount total p.amount).mapError .asset : Except ProofHistoryReplayError AssetAmount))
        total = .ok out ∧
      out.toNat = total.toNat + (priors.map fun p => p.amount.toNat).sum := by
  induction priors generalizing total with
  | nil => exact ⟨total, by simp, by simp⟩
  | cons prior priors ih =>
    rw [List.map_cons, List.sum_cons] at hbound ⊢
    have hnat : (UInt64.ofNat (total.toNat + prior.amount.toNat)).toNat =
        total.toNat + prior.amount.toNat := UInt64.toNat_ofNat_of_lt' (by
      simp only [UInt64.size]
      omega)
    have hrestBound : (UInt64.ofNat (total.toNat + prior.amount.toNat)).toNat +
        (priors.map fun p => p.amount.toNat).sum < 2 ^ 64 := by omega
    obtain ⟨out, hout, hsum⟩ := ih hrestBound
    refine ⟨out, ?_, by omega⟩
    rw [List.foldlM_cons, addAmount_eq_ok.mpr hnat]
    exact hout

theorem acceptOutput_loop {record : ProofHistoryRecord} {policy : ProofAnchorPolicy}
    {priors : List ProofHistoryPriorState} {expected : Option Bytes32} {s : ReplayState}
    {outputs : List ProofHistoryOutput} (hvalid : ∀ o ∈ outputs, IsOutput record o)
    (hnodup : (outputs.map (·.outputId)).Nodup)
    (hfresh : ∀ o ∈ outputs, s.outputs[o.outputId]? = none)
    (hasset : ∀ o ∈ outputs, ∀ a, expected = some a → o.assetId = a)
    (hanchor : ∀ o ∈ outputs,
      policy.acceptsAnchorState (policy.anchorState o.anchorOutpoint) = true) :
    ∃ s', outputs.foldlM (acceptOutput record policy priors expected) s = .ok s' := by
  induction outputs generalizing s with
  | nil => exact ⟨s, by simp⟩
  | cons output outputs ih =>
    rw [List.map_cons, List.nodup_cons] at hnodup
    have hexplain := (allowsOutputState_spec (hvalid output (by simp)).allowed).1
    obtain ⟨mid, hstep, hmid⟩ : ∃ mid, acceptOutput record policy priors expected s output =
        .ok mid ∧ mid.outputs =
          s.outputs.insert output.outputId (explanationOf record policy priors output) :=
      ⟨_, (acceptOutput_eq_ok hexplain).mpr ⟨hfresh output (by simp), hasset output (by simp),
        hanchor output (by simp), rfl⟩, rfl⟩
    have hfresh' : ∀ o ∈ outputs, mid.outputs[o.outputId]? = none := by
      intro o ho
      have hne : o.outputId ≠ output.outputId :=
        fun heq => hnodup.1 (heq ▸ List.mem_map_of_mem ho)
      rw [hmid, get_insert_ne hne]
      exact hfresh o (List.mem_cons_of_mem _ ho)
    obtain ⟨s', hrest⟩ := ih (fun o ho => hvalid o (List.mem_cons_of_mem _ ho)) hnodup.2 hfresh'
      (fun o ho => hasset o (List.mem_cons_of_mem _ ho))
      (fun o ho => hanchor o (List.mem_cons_of_mem _ ho))
    exact ⟨s', by rw [List.foldlM_cons, hstep, ok_bind, hrest]⟩

theorem expectedAsset_ok {record : ProofHistoryRecord} {s : ReplayState}
    {priors : List ProofHistoryPriorState} {a : Bytes32} (hkeyed : WellKeyed s)
    (hprior : List.Forall₂ (IsPrior record s.outputs) record.inputs priors)
    (hasset : ∀ id ∈ record.inputIds, ∃ e, s.outputs[id]? = some e ∧ e.assetId = a) :
    ∃ expected, expectedAsset record s.outputs priors = .ok expected ∧
      ∀ b, expected = some b → b = a := by
  have hpriors : ∀ p ∈ priors, priorAssetId s.outputs p = .ok a := by
    intro p hp
    obtain ⟨input, hinput, e, he, -, rfl⟩ := forall₂_exists hprior.flip hp
    obtain ⟨e', he', rfl⟩ := hasset _ (List.mem_map_of_mem hinput)
    rw [he, Option.some.injEq] at he'
    subst he'
    rw [priorAssetId, hkeyed _ _ he, he]
    rfl
  unfold expectedAsset
  split
  · exact ⟨none, rfl, by simp⟩
  · rename_i first hhead
    have hchecks : (priors.forM fun prior => do
        let actual ← priorAssetId s.outputs prior
        rejectIf (actual ≠ a) (.assetMismatch record.recordId a actual)) = .ok () :=
      forM_eq_ok.mpr fun p hp => by simp [hpriors p hp, rejectIf]
    refine ⟨some a, ?_, by simp⟩
    rw [hpriors first (List.mem_of_head? hhead), ok_bind, hchecks]
    rfl

/-- A record is accepted exactly when it meets the requirements of a step. -/
theorem replayRecord_eq_ok {policy : ProofAnchorPolicy} {record : ProofHistoryRecord}
    {s s' : ReplayState} (hkeyed : WellKeyed s) :
    replayRecord policy s record = .ok s' ↔ ∃ priors, ReplayStep policy record priors s s' := by
  refine ⟨replayRecord_step hkeyed, ?_⟩
  rintro ⟨priors, h⟩
  have hident := validateRecordIdentity_eq_ok.mpr ⟨h.recordId, h.newRecord, h.transitionId,
    h.inputs_nil, h.outputs_ne, rfl⟩
  have hnodup : (([] : List String) ++ record.inputIds).Nodup := h.inputIds_nodup
  obtain ⟨seen, hinputs⟩ := validateInputs_loop h.prior collects_nil hnodup []
  have hin : ∃ mid, validateInputs record s = .ok (priors, mid) := by
    unfold validateInputs
    rw [hinputs, ok_bind]
    by_cases hkind : record.kind.consumesInputs = true <;> simp [hkind]
  obtain ⟨mid, hin⟩ := hin
  obtain ⟨-, -, rfl⟩ := validateInputs_spec h.inputs_nil hin
  have honodup : (([] : List String) ++ record.outputIds).Nodup := h.outputIds_nodup
  have hbound : (0 : AssetAmount).toNat + (record.outputs.map fun o => o.amount.toNat).sum <
      2 ^ 64 := by simpa using h.bounded
  obtain ⟨acc, houtputs, htotal⟩ := validateOutputs_loop h.output collects_nil honodup hbound
  have hout : validateOutputs record = .ok acc.2 := by
    rw [validateOutputs, houtputs]
    rfl
  have hpriorSum := sum_priors h.prior
  have hconserved : record.kind ≠ .issuance →
      (priors.map fun p => p.amount.toNat).sum = (record.outputs.map fun o => o.amount.toNat).sum :=
    fun hkind => hpriorSum.trans (h.conserved hkind)
  have hnone : record.kind = .issuance → priors = [] := by
    intro hkind
    have hp := h.prior
    rwa [h.inputs_nil.mp hkind, List.forall₂_nil_left_iff] at hp
  have hpriorBound : (0 : AssetAmount).toNat + (priors.map fun p => p.amount.toNat).sum <
      2 ^ 64 := by
    by_cases hkind : record.kind = .issuance
    · simp [hnone hkind]
    · rw [hconserved hkind]
      exact hbound
  obtain ⟨inputTotal, hsum, hinputTotal⟩ := sumPriorStates_loop hpriorBound
  have hbalance : ¬ (record.kind ≠ .issuance ∧ inputTotal ≠ acc.2) := by
    rintro ⟨hkind, hne⟩
    refine hne (UInt64.toNat_inj.mp ?_)
    rw [hinputTotal, htotal, hconserved hkind]
  obtain ⟨expected, hexpected, hasset⟩ : ∃ expected,
      expectedAsset record s.outputs priors = .ok expected ∧
        ∀ o ∈ record.outputs, ∀ a, expected = some a → o.assetId = a := by
    by_cases hkind : record.kind = .issuance
    · refine ⟨none, ?_, by simp⟩
      rw [hnone hkind]
      rfl
    · obtain ⟨a, hin, hout⟩ := h.asset hkind
      obtain ⟨expected, hok, heq⟩ := expectedAsset_ok hkeyed h.prior hin
      exact ⟨expected, hok, fun o ho b hb => (hout o ho).trans (heq b hb).symm⟩
  obtain ⟨out, hfold⟩ : ∃ out,
      record.outputs.foldlM (acceptOutput record policy priors expected)
        { seenRecords := s.seenRecords.insert record.recordId ()
          outputs := s.outputs
          explanations := eraseAll s.explanations record.inputIds
          states := insertAll s.states (record.inputIds.map fun id => (id, .spent)) } = .ok out :=
    acceptOutput_loop h.output h.outputIds_nodup h.fresh hasset h.anchor
  have hmaps := (foldlM_acceptOutput h.output hfold).2
  have htotalPrior : sumPriorStates priors = .ok inputTotal := hsum
  simp only [replayRecord, hident, hin, hout, htotalPrior, rejectIf_false hbalance, hexpected,
    hfold, ok_bind, h.maps, hmaps, ProofHistoryRecord.entries]

/-- One valid output may be issued under fresh ids. -/
theorem replayStep_issue {policy : ProofAnchorPolicy} {record : ProofHistoryRecord}
    {s : ReplayState} {o : ProofHistoryOutput} (hkeyed : WellKeyed s)
    (hkind : record.kind = .issuance) (hinputs : record.inputs = []) (houtputs : record.outputs = [o])
    (hid : record.recordId ≠ "") (hnew : s.seenRecords[record.recordId]? = none)
    (htransition : record.virtualTransitionId ≠ Bytes32.ZERO) (ho : IsOutput record o)
    (hfresh : s.outputs[o.outputId]? = none)
    (hanchor : policy.acceptsAnchorState (policy.anchorState o.anchorOutpoint) = true) :
    ∃ s', replayRecord policy s record = .ok s' ∧ ReplayStep policy record [] s s' := by
  have hamount := o.amount.toNat_lt
  have hstep : ReplayStep policy record [] s _ :=
    { recordId := hid, newRecord := hnew, transitionId := htransition
      inputs_nil := by simp [hkind, hinputs]
      outputs_ne := by simp [houtputs]
      inputIds_nodup := by simp [ProofHistoryRecord.inputIds, hinputs]
      outputIds_nodup := by simp [ProofHistoryRecord.outputIds, houtputs]
      prior := by simp [hinputs]
      output := by simpa [houtputs] using ho
      bounded := by simpa [houtputs] using hamount
      fresh := by simpa [houtputs] using hfresh
      anchor := by simpa [houtputs] using hanchor
      asset := fun h => absurd hkind h
      conserved := fun h => absurd hkind h
      maps := rfl }
  exact ⟨_, (replayRecord_eq_ok hkeyed).mpr ⟨[], hstep⟩, hstep⟩

/-- An output may be moved, whole, into another of the same asset. -/
theorem replayStep_move {policy : ProofAnchorPolicy} {record : ProofHistoryRecord}
    {s : ReplayState} {i : ProofHistoryInput} {o : ProofHistoryOutput}
    {e : AcceptedBalanceExplanation} (hkeyed : WellKeyed s) (hkind : record.kind ≠ .issuance)
    (hinputs : record.inputs = [i]) (houtputs : record.outputs = [o]) (hid : record.recordId ≠ "")
    (hnew : s.seenRecords[record.recordId]? = none)
    (htransition : record.virtualTransitionId ≠ Bytes32.ZERO) (he : s.outputs[i.outputId]? = some e)
    (hallow : record.kind.allowsInputState e.resultingState = true) (hamount : o.amount = e.amount)
    (hasset : o.assetId = e.assetId) (ho : IsOutput record o)
    (hfresh : s.outputs[o.outputId]? = none)
    (hanchor : policy.acceptsAnchorState (policy.anchorState o.anchorOutpoint) = true) :
    ∃ s' priors, replayRecord policy s record = .ok s' ∧ ReplayStep policy record priors s s' := by
  have hbound := o.amount.toNat_lt
  have hprior : List.Forall₂ (IsPrior record s.outputs) record.inputs
      [⟨e.outputId, e.resultingState, e.amount, e.anchorOutpoint⟩] := by
    rw [hinputs]
    exact .cons ⟨e, he, hallow, rfl⟩ .nil
  have hstep : ReplayStep policy record _ s _ :=
    { recordId := hid, newRecord := hnew, transitionId := htransition
      inputs_nil := by simp [hkind, hinputs]
      outputs_ne := by simp [houtputs]
      inputIds_nodup := by simp [ProofHistoryRecord.inputIds, hinputs]
      outputIds_nodup := by simp [ProofHistoryRecord.outputIds, houtputs]
      prior := hprior
      output := by simpa [houtputs] using ho
      bounded := by simpa [houtputs] using hbound
      fresh := by simpa [houtputs] using hfresh
      anchor := by simpa [houtputs] using hanchor
      asset := fun _ => ⟨e.assetId, by simp [ProofHistoryRecord.inputIds, hinputs, he],
        by simp [houtputs, hasset]⟩
      conserved := fun _ => by
        simp [ProofHistoryRecord.inputIds, hinputs, houtputs, amountAt, he, hamount]
      maps := rfl }
  exact ⟨_, _, (replayRecord_eq_ok hkeyed).mpr ⟨_, hstep⟩, hstep⟩

namespace ReplayStep

variable {policy : ProofAnchorPolicy} {record : ProofHistoryRecord}
  {priors : List ProofHistoryPriorState} {s s' : ReplayState}

theorem entries_keys : (record.entries policy priors).map (·.1) = record.outputIds := by
  simp [ProofHistoryRecord.entries, ProofHistoryRecord.outputIds]

/-- An output of the record is stored in all three maps. -/
theorem get_new (h : ReplayStep policy record priors s s') {o : ProofHistoryOutput}
    (ho : o ∈ record.outputs) :
    s'.outputs[o.outputId]? = some (explanationOf record policy priors o) ∧
      s'.explanations[o.outputId]? = some (explanationOf record policy priors o) ∧
      s'.states[o.outputId]? = some o.resultingState := by
  have hmem : (o.outputId, explanationOf record policy priors o) ∈ record.entries policy priors :=
    List.mem_map_of_mem ho
  have hstate : (o.outputId, o.resultingState) ∈
      record.outputs.map fun o => (o.outputId, o.resultingState) :=
    List.mem_map_of_mem (f := fun o : ProofHistoryOutput => (o.outputId, o.resultingState)) ho
  have hnodup : ((record.entries policy priors).map (·.1)).Nodup := by
    rw [entries_keys]
    exact h.outputIds_nodup
  have hnodup' : ((record.outputs.map fun o => (o.outputId, o.resultingState)).map (·.1)).Nodup := by
    rw [List.map_map]
    exact h.outputIds_nodup
  rw [h.maps]
  exact ⟨get_insertAll_of_mem hnodup hmem, get_insertAll_of_mem hnodup hmem,
    get_insertAll_of_mem hnodup' hstate⟩

theorem outputs_old (h : ReplayStep policy record priors s s') {id : String}
    (hid : id ∉ record.outputIds) : s'.outputs[id]? = s.outputs[id]? := by
  rw [h.maps]
  exact get_insertAll_of_not_mem (by rwa [entries_keys])

theorem explanations_old (h : ReplayStep policy record priors s s') {id : String}
    (hid : id ∉ record.outputIds) :
    s'.explanations[id]? = if id ∈ record.inputIds then none else s.explanations[id]? := by
  rw [h.maps]
  dsimp only
  rw [get_insertAll_of_not_mem (by rwa [entries_keys])]
  split
  case isTrue hin => exact get_eraseAll_of_mem hin
  case isFalse hin => exact get_eraseAll_of_not_mem hin

theorem states_old (h : ReplayStep policy record priors s s') {id : String}
    (hid : id ∉ record.outputIds) :
    s'.states[id]? = if id ∈ record.inputIds then some .spent else s.states[id]? := by
  rw [h.maps]
  dsimp only
  rw [get_insertAll_of_not_mem (by
    rw [List.map_map]
    exact hid)]
  have hkeys : (record.inputIds.map fun id => (id, ProofHistoryState.spent)).map (·.1) =
      record.inputIds := by simp [Function.comp_def]
  split
  case isTrue hin =>
    have hmem : (id, ProofHistoryState.spent) ∈ record.inputIds.map fun id => (id, .spent) :=
      List.mem_map.mpr ⟨id, hin, rfl⟩
    refine get_insertAll_of_mem ?_ hmem
    rw [hkeys]
    exact h.inputIds_nodup
  case isFalse hin => exact get_insertAll_of_not_mem (by rwa [hkeys])

/-- An input exists before the record, so it is none of the record's outputs. -/
theorem input_not_output (h : ReplayStep policy record priors s s') {id : String}
    (hid : id ∈ record.inputIds) : s.outputs[id]? ≠ none ∧ id ∉ record.outputIds := by
  obtain ⟨input, hinput, rfl⟩ := List.mem_map.mp hid
  obtain ⟨_, -, e, he, -⟩ := forall₂_exists h.prior hinput
  refine ⟨by simp [he], fun hout => ?_⟩
  obtain ⟨o, ho, heq⟩ := List.mem_map.mp hout
  have hfresh := h.fresh o ho
  rw [heq, he] at hfresh
  cases hfresh

end ReplayStep

end TapLdk.ProofHistory
