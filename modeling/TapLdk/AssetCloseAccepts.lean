import Mathlib
import TapLdk.AssetCloseSpec
import TapLdk.CommitmentAccepts

/-! Closes that succeed: a channel with two nonzero balances is closed when its exported
proofs are verified and no hash of its history is zero. -/
namespace TapLdk.AssetCloseAccepts
open TapLdk.LibraryExcept TapLdk.LibraryMaps TapLdk.LibraryBytes TapLdk.LibrarySha256 TapLdk.Tlv
open TapLdk.Mssmt TapLdk.Asset TapLdk.Proof TapLdk.ProofHistory TapLdk.ProofHistoryReplay
open TapLdk.LdkFork TapLdk.ChannelFunding TapLdk.Commitment TapLdk.CommitmentAccepts
open TapLdk.AssetClose TapLdk.AssetCloseSpec

/-- The outputs of a close history, in the order of their records. -/
structure CloseOutputs where
  input : ProofHistoryOutput
  channel : ProofHistoryOutput
  localClosed : ProofHistoryOutput
  remoteClosed : ProofHistoryOutput
  localExport : ProofHistoryOutput
  remoteExport : ProofHistoryOutput

namespace CloseOutputs

def outputs (o : CloseOutputs) : List ProofHistoryOutput :=
  [o.input, o.channel, o.localClosed, o.remoteClosed, o.localExport, o.remoteExport]

def ids (o : CloseOutputs) : List String := o.outputs.map (·.outputId)

/-- The records of a close: issue, lock, close into two, export each. -/
def records (o : CloseOutputs) (recordId : Fin 5 → String) (transitionId : Fin 5 → Bytes32) :
    List ProofHistoryRecord :=
  [⟨recordId 0, .issuance, transitionId 0, [], [o.input]⟩,
    ⟨recordId 1, .channelFunding, transitionId 1, [⟨o.input.outputId⟩], [o.channel]⟩,
    ⟨recordId 2, .cooperativeClose, transitionId 2, [⟨o.channel.outputId⟩],
      [o.localClosed, o.remoteClosed]⟩,
    ⟨recordId 3, .proofExport, transitionId 3, [⟨o.localClosed.outputId⟩], [o.localExport]⟩,
    ⟨recordId 4, .proofExport, transitionId 4, [⟨o.remoteClosed.outputId⟩], [o.remoteExport]⟩]

/-- The outputs pass amounts and asset on, and each is valid by itself. -/
structure Passes (o : CloseOutputs) (assetId : Bytes32) (total : UInt64) : Prop where
  states : o.input.resultingState = .accepted ∧ o.channel.resultingState = .channelLocked ∧
    o.localClosed.resultingState = .closed ∧ o.remoteClosed.resultingState = .closed ∧
    o.localExport.resultingState = .accepted ∧ o.remoteExport.resultingState = .accepted
  amounts : o.input.amount = total ∧ o.channel.amount = total ∧
    checkedAdd o.localClosed.amount o.remoteClosed.amount = some total ∧
    o.localExport.amount = o.localClosed.amount ∧ o.remoteExport.amount = o.remoteClosed.amount
  valid : ∀ output ∈ o.outputs, output.assetId = assetId ∧ output.outputId ≠ "" ∧ output.amount ≠ 0 ∧
      (∃ p, outpointOf output.anchorOutpoint = some p) ∧
      output.tapAssetRoot = singleRoot ⟨output.assetId, output.scriptKey, output.amount⟩

end CloseOutputs

section Replay

variable {o : CloseOutputs} {assetId : Bytes32} {total : UInt64} {recordId : Fin 5 → String}
  {transitionId : Fin 5 → Bytes32}

theorem records_replay (h : o.Passes assetId total) (hids : o.ids.Nodup)
    (hrecords : Function.Injective recordId) (hnames : ∀ k, recordId k ≠ "")
    (htransitions : ∀ k, transitionId k ≠ Bytes32.ZERO) :
    ∃ s, replayState (o.records recordId transitionId) regtestPolicy = .ok s ∧
      Replayed regtestPolicy (o.records recordId transitionId) s := by
  obtain ⟨h0, h1, h2, h3, h4, h5⟩ := h.states
  obtain ⟨a0, a1, asum, a4, a5⟩ := h.amounts
  have hvalid := h.valid
  simp only [CloseOutputs.outputs, List.forall_mem_cons, List.not_mem_nil, false_implies,
    implies_true, and_true] at hvalid
  obtain ⟨v0, v1, v2, v3, v4, v5⟩ := hvalid
  simp only [CloseOutputs.ids, CloseOutputs.outputs, List.map_cons, List.map_nil, List.nodup_cons, List.mem_cons, List.not_mem_nil, or_false, not_or,
    not_false_eq_true, List.nodup_nil, and_true] at hids
  obtain ⟨⟨n01, n02, n03, n04, n05⟩, ⟨n12, n13, n14, n15⟩, ⟨n23, n24, n25⟩, ⟨n34, n35⟩, n45⟩ := hids
  have hne {j k : Fin 5} (hjk : j ≠ k) : recordId j ≠ recordId k := fun heq => hjk (hrecords heq)
  have houtput {record : ProofHistoryRecord} {output : ProofHistoryOutput}
      (hv : output.assetId = assetId ∧ output.outputId ≠ "" ∧ output.amount ≠ 0 ∧
        (∃ p, outpointOf output.anchorOutpoint = some p) ∧
        output.tapAssetRoot = singleRoot ⟨output.assetId, output.scriptKey, output.amount⟩)
      (hallowed : record.kind.allowsOutputState output.resultingState = true) :
      IsOutput record output := ⟨hv.2.1, hallowed, hv.2.2.1, hv.2.2.2.1, hv.2.2.2.2⟩
  refine replayState_ok (fun before r after heq => ?_)
  rw [← List.nil_append before]
  revert before r after
  refine admissible_cons ?_ (admissible_cons ?_ (admissible_cons ?_ (admissible_cons ?_
    (admissible_cons ?_ (admissible_nil _)))))
  · exact admissible_issue rfl rfl rfl (hnames 0) (by simp) (htransitions 0)
      (houtput v0 (by simp [h0, ProofTransitionKind.allowsOutputState])) (by simp [createdIds])
      (regtest_accepts _)
  · refine admissible_move (by simp) rfl rfl (hnames 1) ?_ (htransitions 1)
      (List.mem_singleton.mpr rfl) (List.mem_singleton.mpr rfl) ?_ (a1.trans a0.symm)
      (v1.1.trans v0.1.symm) (houtput v1 (by simp [h1, ProofTransitionKind.allowsOutputState])) ?_
      (regtest_accepts _)
    · simpa using hne (by decide)
    · simp [h0, ProofTransitionKind.allowsInputState]
    · simpa [createdIds, ProofHistoryRecord.outputIds] using Ne.symm n01
  · -- the channel output is split in two
    have hsum := checkedAdd_eq_some.mp asum
    constructor
    case recordId => exact hnames 2
    case newRecord => simpa using ⟨hne (by decide), hne (by decide)⟩
    case transitionId => exact htransitions 2
    case inputs_nil => simp
    case outputs_ne => simp
    case inputIds_nodup => simp [ProofHistoryRecord.inputIds]
    case outputIds_nodup => simpa [ProofHistoryRecord.outputIds] using n23
    case output =>
      simp only [List.forall_mem_cons, List.not_mem_nil, false_implies, implies_true, and_true]
      exact ⟨houtput v2 (by simp [h2, ProofTransitionKind.allowsOutputState]),
        houtput v3 (by simp [h3, ProofTransitionKind.allowsOutputState])⟩
    case bounded =>
      have hlt := total.toNat_lt
      simp only [List.map_cons, List.map_nil, List.sum_cons, List.sum_nil, Nat.add_zero]
      omega
    case fresh => simpa [createdIds, ProofHistoryRecord.outputIds] using
        ⟨⟨Ne.symm n02, Ne.symm n12⟩, Ne.symm n03, Ne.symm n13⟩
    case anchor => exact fun _ _ => regtest_accepts _
    case sources =>
      refine ⟨[o.channel], rfl, ?_, fun _ => ?_⟩
      · simp only [List.mem_singleton, forall_eq, List.forall_mem_cons]
        exact ⟨⟨_, List.mem_cons_of_mem _ (List.mem_singleton.mpr rfl), List.mem_singleton.mpr rfl⟩,
          by simp [h1, ProofTransitionKind.allowsInputState], v2.1.trans v1.1.symm,
          v3.1.trans v1.1.symm⟩
      · simp only [List.map_cons, List.map_nil, List.sum_cons, List.sum_nil, Nat.add_zero, a1]
        exact hsum
  · refine admissible_move (r := ⟨recordId 2, .cooperativeClose, transitionId 2,
      [⟨o.channel.outputId⟩], [o.localClosed, o.remoteClosed]⟩) (by simp) rfl rfl (hnames 3) ?_ (htransitions 3) (by simp) (List.mem_cons_self ..) ?_ a4
      (v4.1.trans v2.1.symm) (houtput v4 (by simp [h4, ProofTransitionKind.allowsOutputState])) ?_
      (regtest_accepts _)
    · simpa using ⟨hne (by decide), hne (by decide), hne (by decide)⟩
    · simp [h2, ProofTransitionKind.allowsInputState, ProofHistoryState.canExplainBalance]
    · simpa [createdIds, ProofHistoryRecord.outputIds] using
        ⟨Ne.symm n04, Ne.symm n14, Ne.symm n24, Ne.symm n34⟩
  · refine admissible_move (r := ⟨recordId 2, .cooperativeClose, transitionId 2,
      [⟨o.channel.outputId⟩], [o.localClosed, o.remoteClosed]⟩) (by simp) rfl rfl (hnames 4) ?_ (htransitions 4) (by simp) (List.mem_cons_of_mem _
        (List.mem_singleton.mpr rfl)) ?_ a5 (v5.1.trans v3.1.symm)
      (houtput v5 (by simp [h5, ProofTransitionKind.allowsOutputState])) ?_ (regtest_accepts _)
    · simpa using ⟨hne (by decide), hne (by decide), hne (by decide), hne (by decide)⟩
    · simp [h3, ProofTransitionKind.allowsInputState, ProofHistoryState.canExplainBalance]
    · simpa [createdIds, ProofHistoryRecord.outputIds] using
        ⟨Ne.symm n05, Ne.symm n15, Ne.symm n25, Ne.symm n35, Ne.symm n45⟩

/-- The source of an input is the output with its id. -/
theorem source_eq (hids : o.ids.Nodup) {output : ProofHistoryOutput} {prior : ProofHistoryPriorState}
    (houtput : output ∈ o.outputs)
    (h : IsSource (o.records recordId transitionId) ⟨output.outputId⟩ prior) :
    (prior.outputId, prior.state) = (output.outputId, output.resultingState) := by
  obtain ⟨r, hr, source, hsource, hid, rfl⟩ := h
  have hmem : source ∈ (o.records recordId transitionId).flatMap (·.outputs) :=
    List.mem_flatMap.mpr ⟨r, hr, hsource⟩
  have hsame : source = output := List.inj_on_of_nodup_map hids hmem houtput hid
  rw [hsame]

theorem explained_export (hids : o.ids.Nodup) {s : ReplayState}
    (hs : Replayed regtestPolicy (o.records recordId transitionId) s)
    {record : ProofHistoryRecord} (hrecord : record ∈ o.records recordId transitionId)
    {closed output : ProofHistoryOutput} (houtput : output ∈ record.outputs)
    (hclosed : closed ∈ o.outputs)
    (hinputs : record.inputs = [⟨closed.outputId⟩])
    (hid : output.outputId ∉ [o.input.outputId, o.channel.outputId, o.localClosed.outputId,
      o.remoteClosed.outputId]) :
    ∃ priors, s.explanations[output.outputId]? =
        some (explanationOf record regtestPolicy priors output) ∧
      priors.map (fun prior => (prior.outputId, prior.state)) =
        [(closed.outputId, closed.resultingState)] := by
  obtain ⟨priors, hpriors, hget⟩ := explained hs hrecord houtput hid
  rw [hinputs] at hpriors
  cases hpriors with
  | cons hprior hrest =>
    cases hrest
    exact ⟨_, hget, by rw [List.map_singleton, source_eq hids hclosed hprior]⟩

end Replay

/-- The proof that a close builds for one side. -/
def closeProof (state : AssetCommitmentChannelState) (owner : CloseOwnerSide)
    (scriptKey : CompressedKey) (amount : UInt64) : ProofFile :=
  { version := 0
    assetId := state.assetId
    genesisOutpoint := closeGenesisOutpoint state.assetId
    anchorOutpoint := closeAnchorOutpoint state.channelId owner state.latestCommitmentNumber
      state.assetId amount scriptKey
    amount
    scriptKey
    tapAssetRoot := singleRoot ⟨state.assetId, scriptKey, amount⟩
    verificationScope := .semanticAncestry
    network := .regtest
    assetType := .normal }

def proofHex (proof : ProofFile) : String := encodeHex (proof.records.flatMap encodeRecord)

theorem buildCloseProof_ok {state : AssetCommitmentChannelState} {owner : CloseOwnerSide}
    {scriptKey : CompressedKey} {amount : UInt64} (h : amount ≠ 0) :
    buildCloseProof state owner scriptKey amount = .ok (closeProof state owner scriptKey amount) := by
  have hroot : deriveHashSumRoot [⟨state.assetId, scriptKey, amount⟩] =
      .ok (singleRoot ⟨state.assetId, scriptKey, amount⟩) := deriveHashSumRoot_single h
  rw [buildCloseProof, rejectIf_false h, ok_bind, hroot]
  rfl

theorem decodeCloseProof_ok {proof : ProofFile} (hkey : HasKeyPrefix proof.scriptKey)
    (hfit : TextsFit proof) : decodeCloseProof (proofHex proof) = .ok proof := by
  rw [decodeCloseProof, proofHex, decodeCloseHex_encodeHex, ok_bind, mapError_eq_ok]
  exact decode_encode hkey hfit (encode_eq proof)

theorem textsFit_closeProof (state : AssetCommitmentChannelState) (owner : CloseOwnerSide)
    (scriptKey : CompressedKey) (amount : UInt64) :
    TextsFit (closeProof state owner scriptKey amount) := by
  have hhex (b : Bytes32) : (utf8 (toHex b)).length = 64 := by
    rw [toHex, utf8_encodeHex_length, b.length_eq]
  have hzero : (utf8 ":0").length = 2 := by decide
  have hcolon : (utf8 ":").length = 1 := by decide
  have howner : (utf8 (toString owner.asU8)).length = 1 := by
    cases owner <;> decide
  constructor
  · change (utf8 (toHex _ ++ ":0")).length < _
    rw [utf8_append, List.length_append, hhex, hzero]
    decide
  · change (utf8 (toHex _ ++ ":" ++ toString owner.asU8)).length < _
    rw [utf8_append, utf8_append, List.length_append, List.length_append, hhex, hcolon, howner]
    decide

def acceptedAllocation (state : AssetCommitmentChannelState) (id : Bytes32)
    (localScriptKey remoteScriptKey : CompressedKey) : TaprootAssetCloseAllocationFields :=
  ⟨id, state.assetId, state.latestCommitmentNumber, state.localBalance, state.remoteBalance,
    state.monitorBlob.proofRootHash, state.monitorBlob.proofRootSum,
    proofHandoffDigest .localOwner
      (proofHex (closeProof state .localOwner localScriptKey state.localBalance)),
    proofHandoffDigest .remoteOwner
      (proofHex (closeProof state .remoteOwner remoteScriptKey state.remoteBalance))⟩

def acceptedClose (state : AssetCommitmentChannelState) (id : Bytes32)
    (localScriptKey remoteScriptKey : CompressedKey) : NativeAssetClose :=
  closeOf state localScriptKey remoteScriptKey
    (proofHex (closeProof state .localOwner localScriptKey state.localBalance))
    (proofHex (closeProof state .remoteOwner remoteScriptKey state.remoteBalance))
    (closeAllocationDigest (acceptedAllocation state id localScriptKey remoteScriptKey))

/-- A state that can be closed to two keys. -/
structure Closable (state : AssetCommitmentChannelState) (id : Bytes32)
    (localScriptKey remoteScriptKey : CompressedKey) : Prop where
  channelId : bytes32FromStr state.channelId = .ok id
  balances : checkedAdd state.localBalance state.remoteBalance = some state.totalAmount
  total : state.totalAmount ≠ 0
  anchor : ∃ p, outpointOf state.fundingOutpoint = some p
  prior : ∃ x, state.latestProofHistoryOutputId = "asset-" ++ x
  localKey : HasKeyPrefix localScriptKey
  remoteKey : HasKeyPrefix remoteScriptKey
  localProof : Verified (closeProof state .localOwner localScriptKey state.localBalance)
  remoteProof : Verified (closeProof state .remoteOwner remoteScriptKey state.remoteBalance)
  priorTransition : state.latestProofHistoryTransitionId ≠ Bytes32.ZERO
  priorInput : closePriorInputTransitionId
    (acceptedClose state id localScriptKey remoteScriptKey) ≠ Bytes32.ZERO
  closeTransition : (acceptedClose state id localScriptKey
    remoteScriptKey).closeProofHistoryTransitionId ≠ Bytes32.ZERO
  localExport : (acceptedClose state id localScriptKey
    remoteScriptKey).localExportProofHistoryTransitionId ≠ Bytes32.ZERO
  remoteExport : (acceptedClose state id localScriptKey
    remoteScriptKey).remoteExportProofHistoryTransitionId ≠ Bytes32.ZERO

/-- The outputs of the history of a close. -/
def outputsOf (close : NativeAssetClose) (localProof remoteProof : ProofFile) : CloseOutputs :=
  let root := singleRoot ⟨close.assetId, close.priorScriptKey, close.totalAmount⟩
  { input := close.priorOutput close.priorInputId root .accepted
    channel := close.priorOutput close.priorProofHistoryOutputId root .channelLocked
    localClosed := closeHistoryOutput close.localClosedProofHistoryOutputId localProof .closed
    remoteClosed := closeHistoryOutput close.remoteClosedProofHistoryOutputId remoteProof .closed
    localExport := closeHistoryOutput close.localExportProofHistoryOutputId localProof .accepted
    remoteExport := closeHistoryOutput close.remoteExportProofHistoryOutputId remoteProof
      .accepted }

def recordIdOf (closeId : String) : Fin 5 → String :=
  ![s!"native-asset-close-prior-input:{closeId}", s!"native-asset-close-prior-channel:{closeId}",
    s!"native-asset-close:{closeId}", s!"native-asset-close-proof-export:{closeId}:local",
    s!"native-asset-close-proof-export:{closeId}:remote"]

def transitionIdOf (close : NativeAssetClose) : Fin 5 → Bytes32 :=
  ![closePriorInputTransitionId close, close.priorProofHistoryTransitionId,
    close.closeProofHistoryTransitionId, close.localExportProofHistoryTransitionId,
    close.remoteExportProofHistoryTransitionId]

theorem ofFn_five {α : Type} (a b c d e : α) : List.ofFn ![a, b, c, d, e] = [a, b, c, d, e] := rfl

theorem recordIdOf_injective (closeId : String) : Function.Injective (recordIdOf closeId) := by
  refine List.nodup_ofFn.mp ?_
  rw [recordIdOf, ofFn_five]
  simp only [toString_string, String.append_assoc, List.nodup_cons, List.mem_cons,
    List.not_mem_nil, or_false, not_or, not_false_eq_true, List.nodup_nil, and_true]
  refine ⟨⟨?_, ?_, ?_, ?_⟩, ⟨?_, ?_, ?_⟩, ⟨?_, ?_⟩, ?_⟩
  -- the two exports differ in their side, all others in their first part
  all_goals try exact append_ne_append _ _ (by decide)
  rw [String.append_right_inj, String.append_right_inj]
  decide

theorem recordIdOf_ne (closeId : String) (k : Fin 5) : recordIdOf closeId k ≠ "" := by
  have hall : ∀ x ∈ List.ofFn (recordIdOf closeId), x ≠ "" := by
    rw [recordIdOf, ofFn_five]
    simp [toString_string]
  exact hall _ (List.mem_ofFn.mpr ⟨k, rfl⟩)

/-- The ids of the outputs of a close. -/
def outputIds (closeId priorOutputId : String) (localDigest remoteDigest : Bytes32) : List String :=
  [s!"native-asset-close-prior-input:{closeId}", priorOutputId,
    s!"native-asset-close-output:{closeId}:local", s!"native-asset-close-output:{closeId}:remote",
    s!"native-asset-close-proof-export-output:{closeId}:local:{toHex localDigest}",
    s!"native-asset-close-proof-export-output:{closeId}:remote:{toHex remoteDigest}"]

theorem outputIds_nodup (closeId x : String) (localDigest remoteDigest : Bytes32) :
    (outputIds closeId ("asset-" ++ x) localDigest remoteDigest).Nodup := by
  simp only [outputIds, toString_string, String.append_assoc, List.nodup_cons, List.mem_cons,
    List.not_mem_nil, or_false, not_or, not_false_eq_true, List.nodup_nil, and_true]
  refine ⟨⟨?_, ?_, ?_, ?_, ?_⟩, ⟨?_, ?_, ?_, ?_⟩, ⟨?_, ?_, ?_⟩, ⟨?_, ?_⟩, ?_⟩
  -- all but the two pairs that differ in the side alone differ in their first part
  all_goals try exact append_ne_append _ _ (by decide)
  · rw [String.append_right_inj, String.append_right_inj]
    decide
  · rw [String.append_right_inj, String.append_right_inj]
    exact append_ne_append _ _ (by decide)

theorem outputIds_ne (closeId x : String) (localDigest remoteDigest : Bytes32) :
    ∀ outputId ∈ outputIds closeId ("asset-" ++ x) localDigest remoteDigest, outputId ≠ "" := by
  simp [outputIds, toString_string]

/-- The fields of the allocation that a close is checked against. -/
def allocationOf (close : NativeAssetClose) (id : Bytes32) : TaprootAssetCloseAllocationFields :=
  ⟨id, close.assetId, close.commitmentNumber, close.localAmount, close.remoteAmount,
    close.proofRootHash, close.proofRootSum, close.localProofDigest, close.remoteProofDigest⟩

/-- The ids and digests of a close are those that validation derives from its other fields. -/
structure Derived (close : NativeAssetClose) (id : Bytes32) : Prop where
  channelId : bytes32FromStr close.channelId = .ok id
  closeId : close.closeId = closeIdFromParts close.channelId close.assetId close.commitmentNumber
    close.localAmount close.remoteAmount close.priorProofHistoryOutputId
  history : close.storedHistory = close.expectedHistory
  allocation : close.ldkCloseAllocationDigest = closeAllocationDigest (allocationOf close id)
  closeDigest : close.closeDigest = AssetClose.closeDigest close.channelId close.assetId
    close.commitmentNumber close.localAmount close.remoteAmount close.localProofTlvHex
    close.remoteProofTlvHex close.ldkCloseAllocationDigest close.priorProofHistoryOutputId
    close.localExportProofHistoryOutputId close.remoteExportProofHistoryOutputId
  status : close.status = .cooperativeClosed
  forceCloseStatus : close.forceCloseStatus = .deferred

/-- The records of a close pass on what the channel holds. -/
structure Replayable (close : NativeAssetClose) : Prop where
  balances : checkedAdd close.localAmount close.remoteAmount = some close.totalAmount
  total : close.totalAmount ≠ 0
  anchor : ∃ p, outpointOf close.priorAnchorOutpoint = some p
  prior : ∃ x, close.priorProofHistoryOutputId = "asset-" ++ x
  transitions : ∀ k, transitionIdOf close k ≠ Bytes32.ZERO

/-- The proof that one side of a close exports. -/
structure Exports (close : NativeAssetClose) (owner : CloseOwnerSide) (proof : ProofFile) :
    Prop where
  verified : Verified proof
  assetId : proof.assetId = close.assetId
  amount : proof.amount = close.amount owner
  scriptKey : proof.scriptKey = close.scriptKey owner
  anchor : proof.anchorOutpoint = close.expectedAnchor owner
  genesis : proof.genesisOutpoint = closeGenesisOutpoint close.assetId

section Valid

variable {close : NativeAssetClose} {id : Bytes32} {localProof remoteProof : ProofFile}

theorem outputsOf_ids (h : Derived close id) : (outputsOf close localProof remoteProof).ids =
    outputIds close.closeId close.priorProofHistoryOutputId close.localProofDigest
      close.remoteProofDigest := by
  have hlocal := congrArg CloseProofHistory.localClosedOutputId h.history
  have hremote := congrArg CloseProofHistory.remoteClosedOutputId h.history
  have hlocalExport := congrArg CloseProofHistory.localExportOutputId h.history
  have hremoteExport := congrArg CloseProofHistory.remoteExportOutputId h.history
  simp only [NativeAssetClose.storedHistory] at hlocal hremote hlocalExport hremoteExport
  simp only [CloseOutputs.ids, CloseOutputs.outputs, outputsOf, closeHistoryOutput, List.map_cons,
    List.map_nil, hlocal, hremote, hlocalExport, hremoteExport]
  rfl

/-- The records of the replay are the five records of the outputs. -/
theorem closeProofHistoryRecords_ok (h : Derived close id) (htotal : close.totalAmount ≠ 0) :
    close.closeProofHistoryRecords close.expectedHistory localProof remoteProof =
      .ok ((outputsOf close localProof remoteProof).records (recordIdOf close.closeId)
        (transitionIdOf close)) := by
  have hroot : deriveHashSumRoot [⟨close.assetId, close.priorScriptKey, close.totalAmount⟩] =
      .ok (singleRoot ⟨close.assetId, close.priorScriptKey, close.totalAmount⟩) :=
    deriveHashSumRoot_single htotal
  have hrecord := congrArg CloseProofHistory.closeRecordId h.history
  have hlocal := congrArg CloseProofHistory.localExportRecordId h.history
  have hremote := congrArg CloseProofHistory.remoteExportRecordId h.history
  simp only [NativeAssetClose.storedHistory] at hrecord hlocal hremote
  rw [NativeAssetClose.closeProofHistoryRecords, hroot, ← h.history]
  simp only [NativeAssetClose.storedHistory, hrecord, hlocal, hremote]
  rfl

/-- An exported proof as an output of the history. -/
theorem closeHistoryOutput_valid {proof : ProofFile} (h : Verified proof) {outputId : String}
    (hid : outputId ≠ "") (s : ProofHistoryState) :
    (closeHistoryOutput outputId proof s).assetId = proof.assetId ∧
      (closeHistoryOutput outputId proof s).outputId ≠ "" ∧
      (closeHistoryOutput outputId proof s).amount ≠ 0 ∧
      (∃ p, outpointOf (closeHistoryOutput outputId proof s).anchorOutpoint = some p) ∧
      (closeHistoryOutput outputId proof s).tapAssetRoot = singleRoot
        ⟨(closeHistoryOutput outputId proof s).assetId,
          (closeHistoryOutput outputId proof s).scriptKey,
          (closeHistoryOutput outputId proof s).amount⟩ := by
  obtain ⟨_, anchor, -, hanchor, -⟩ := h.outpoints
  exact ⟨rfl, hid, h.amount, ⟨anchor, hanchor⟩, h.root⟩

theorem outputsOf_passes (h : Derived close id) (hreplay : Replayable close)
    (hlocal : Exports close .localOwner localProof)
    (hremote : Exports close .remoteOwner remoteProof) :
    (outputsOf close localProof remoteProof).Passes close.assetId close.totalAmount where
  states := ⟨rfl, rfl, rfl, rfl, rfl, rfl⟩
  amounts := by
    refine ⟨rfl, rfl, ?_, rfl, rfl⟩
    change checkedAdd localProof.amount remoteProof.amount = some close.totalAmount
    rw [hlocal.amount, hremote.amount]
    exact hreplay.balances
  valid := by
    have hids : ∀ outputId ∈ (outputsOf close localProof remoteProof).ids, outputId ≠ "" := by
      obtain ⟨x, hx⟩ := hreplay.prior
      rw [outputsOf_ids h, hx]
      exact outputIds_ne close.closeId x close.localProofDigest close.remoteProofDigest
    simp only [CloseOutputs.ids, CloseOutputs.outputs, List.map_cons, List.map_nil,
      List.forall_mem_cons, List.not_mem_nil, false_implies, implies_true, and_true] at hids ⊢
    obtain ⟨i0, i1, i2, i3, i4, i5⟩ := hids
    have hside {owner : CloseOwnerSide} {proof : ProofFile} (hproof : Exports close owner proof)
        {outputId : String} (hid : outputId ≠ "") (s : ProofHistoryState) :
        (closeHistoryOutput outputId proof s).assetId = close.assetId ∧
          outputId ≠ "" ∧ proof.amount ≠ 0 ∧ (∃ p, outpointOf proof.anchorOutpoint = some p) ∧
          proof.tapAssetRoot = singleRoot ⟨proof.assetId, proof.scriptKey, proof.amount⟩ :=
      ⟨hproof.assetId, (closeHistoryOutput_valid hproof.verified hid s).2⟩
    exact ⟨⟨rfl, i0, hreplay.total, hreplay.anchor, rfl⟩, ⟨rfl, i1, hreplay.total, hreplay.anchor, rfl⟩,
      hside hlocal i2 .closed, hside hremote i3 .closed, hside hlocal i4 .accepted,
      hside hremote i5 .accepted⟩

theorem explainsExport {proof : ProofFile} {closedOutputId outputId : String}
    {record : ProofHistoryRecord} {priors : List ProofHistoryPriorState}
    (hkind : record.kind = .proofExport) (hasset : proof.assetId = close.assetId)
    (hpriors : priors.map (fun prior => (prior.outputId, prior.state)) =
      [(closedOutputId, .closed)]) :
    close.ExplainsExport proof closedOutputId (explanationOf record regtestPolicy priors
      (closeHistoryOutput outputId proof .accepted)) :=
  ⟨hkind, rfl, hasset, rfl, rfl, rfl, rfl, hpriors⟩

theorem validateCloseProofHistory_ok (h : Derived close id) (hreplay : Replayable close)
    (hlocal : Exports close .localOwner localProof)
    (hremote : Exports close .remoteOwner remoteProof) :
    close.validateCloseProofHistory localProof remoteProof = .ok () := by
  have hnodup : (outputsOf close localProof remoteProof).ids.Nodup := by
    obtain ⟨x, hx⟩ := hreplay.prior
    rw [outputsOf_ids h, hx]
    exact outputIds_nodup ..
  obtain ⟨s, hs, hreplayed⟩ := records_replay (outputsOf_passes h hreplay hlocal hremote) hnodup
    (recordIdOf_injective close.closeId) (recordIdOf_ne _) hreplay.transitions
  simp only [NativeAssetClose.validateCloseProofHistory,
    NativeAssetClose.validateExportedCloseExplanation, bind_eq_ok, rejectIf_eq_ok, mapError_eq_ok,
    okOr_eq_ok, exists_const]
  have hids := hnodup
  simp only [CloseOutputs.ids, CloseOutputs.outputs, List.map_cons, List.map_nil, List.nodup_cons,
    List.mem_cons, List.not_mem_nil, or_false, not_or] at hids
  obtain ⟨⟨-, -, -, n04, n05⟩, ⟨-, -, n14, n15⟩, ⟨-, n24, n25⟩, ⟨n34, n35⟩, -⟩ := hids
  obtain ⟨localPriors, hlocalGet, hlocalPriors⟩ := explained_export hnodup hreplayed
    (List.mem_cons_of_mem _ (List.mem_cons_of_mem _ (List.mem_cons_of_mem _ (List.mem_cons_self ..))))
    (List.mem_singleton.mpr rfl)
    (List.mem_cons_of_mem _ (List.mem_cons_of_mem _ (List.mem_cons_self ..))) rfl
    (by simpa using ⟨Ne.symm n04, Ne.symm n14, Ne.symm n24, Ne.symm n34⟩)
  obtain ⟨remotePriors, hremoteGet, hremotePriors⟩ := explained_export hnodup hreplayed
    (List.mem_cons_of_mem _ (List.mem_cons_of_mem _ (List.mem_cons_of_mem _
      (List.mem_cons_of_mem _ (List.mem_cons_self ..)))))
    (List.mem_singleton.mpr rfl)
    (List.mem_cons_of_mem _ (List.mem_cons_of_mem _ (List.mem_cons_of_mem _
      (List.mem_cons_self ..)))) rfl
    (by simpa using ⟨Ne.symm n05, Ne.symm n15, Ne.symm n25, Ne.symm n35⟩)
  refine ⟨not_not.mpr h.history, _, closeProofHistoryRecords_ok h hreplay.total, _,
    replay_eq_ok.mpr ⟨s, hs, rfl⟩, ?_⟩
  rw [← h.history]
  exact ⟨⟨_, hlocalGet, not_not.mpr (explainsExport rfl hlocal.assetId hlocalPriors)⟩,
    _, hremoteGet, not_not.mpr (explainsExport rfl hremote.assetId hremotePriors)⟩

theorem validateCloseProof_ok {owner : CloseOwnerSide} {proof : ProofFile}
    (h : Exports close owner proof) : close.validateCloseProof owner proof = .ok () := by
  obtain ⟨report, hreport⟩ : ∃ report, proof.verifySemanticAncestry (.forClose close.assetId
      (close.amount owner) (close.scriptKey owner) (closeGenesisOutpoint close.assetId)
      (close.expectedAnchor owner)) = .ok report := by
    rw [← h.amount, ← h.scriptKey, ← h.genesis, ← h.anchor, ← h.assetId]
    exact verify_of_expected h.verified rfl (fun _ => Option.some.inj) (fun _ => Option.some.inj)
      (fun _ => Option.some.inj) (fun _ => Option.some.inj) (fun _ => Option.some.inj) rfl rfl
  rw [NativeAssetClose.validateCloseProof, bind_eq_ok]
  refine ⟨report, mapError_eq_ok.mpr hreport, rejectIf_false ?_⟩
  simp only [h.assetId, h.amount, h.scriptKey, h.anchor, h.genesis, ne_eq, not_true_eq_false,
    or_self, not_false_eq_true]

theorem validateLdkCloseAllocation_ok (h : Derived close id) :
    close.validateLdkCloseAllocation acceptingLdk acceptingClose close.commitmentNumber =
      .ok () := by
  have hid : parseCloseChannelId close.channelId = .ok id := by
    rw [parseCloseChannelId, mapError_eq_ok]
    exact h.channelId
  rw [NativeAssetClose.validateLdkCloseAllocation, hid, ok_bind]
  simp only [bind_eq_ok, mapError_eq_ok]
  refine ⟨allocationOf close id, rfl, (), ?_, (close.assetId, 1), rfl, (), rfl,
    rejectIf_false (not_not.mpr h.allocation)⟩
  exact rejectIf_false (not_not.mpr rfl)

/-- A close is accepted when its ids and digests agree with its fields and its proofs decode to
what it pays out; where the two digests of its proofs come from does not matter. -/
theorem validate_of_derived (h : Derived close id) (hreplay : Replayable close)
    (hlocalProof : close.localProof = .ok localProof)
    (hremoteProof : close.remoteProof = .ok remoteProof)
    (hlocal : Exports close .localOwner localProof)
    (hremote : Exports close .remoteOwner remoteProof) :
    close.validate acceptingLdk acceptingClose = .ok () := by
  simp only [NativeAssetClose.validate, bind_eq_ok, okOr_eq_ok, rejectIf_eq_ok, exists_const]
  refine ⟨close.totalAmount, hreplay.balances, not_not.mpr rfl, not_not.mpr h.status, ?_, _,
    hlocalProof, _, hremoteProof, (), validateCloseProof_ok hlocal, (),
    validateCloseProof_ok hremote, (), validateCloseProofHistory_ok h hreplay hlocal hremote, (),
    validateLdkCloseAllocation_ok h, not_not.mpr h.closeId, not_not.mpr h.closeDigest⟩
  exact fun hstatus => hstatus.1 h.forceCloseStatus

end Valid

section Accepted

variable {state : AssetCommitmentChannelState} {id : Bytes32}
  {localScriptKey remoteScriptKey : CompressedKey}

theorem acceptedClose_derived (h : Closable state id localScriptKey remoteScriptKey) :
    Derived (acceptedClose state id localScriptKey remoteScriptKey) id where
  channelId := h.channelId
  closeId := rfl
  history := rfl
  allocation := rfl
  closeDigest := rfl
  status := rfl
  forceCloseStatus := rfl

theorem acceptedClose_replayable (h : Closable state id localScriptKey remoteScriptKey) :
    Replayable (acceptedClose state id localScriptKey remoteScriptKey) where
  balances := h.balances
  total := h.total
  anchor := h.anchor
  prior := h.prior
  transitions k := by
    fin_cases k
    · exact h.priorInput
    · exact h.priorTransition
    · exact h.closeTransition
    · exact h.localExport
    · exact h.remoteExport

theorem acceptedClose_localProof (h : Closable state id localScriptKey remoteScriptKey) :
    (acceptedClose state id localScriptKey remoteScriptKey).localProof = .ok
      (closeProof state .localOwner localScriptKey state.localBalance) :=
  decodeCloseProof_ok h.localKey (textsFit_closeProof ..)

theorem acceptedClose_remoteProof (h : Closable state id localScriptKey remoteScriptKey) :
    (acceptedClose state id localScriptKey remoteScriptKey).remoteProof = .ok
      (closeProof state .remoteOwner remoteScriptKey state.remoteBalance) :=
  decodeCloseProof_ok h.remoteKey (textsFit_closeProof ..)

theorem acceptedClose_localExports (h : Closable state id localScriptKey remoteScriptKey) :
    Exports (acceptedClose state id localScriptKey remoteScriptKey) .localOwner
      (closeProof state .localOwner localScriptKey state.localBalance) :=
  ⟨h.localProof, rfl, rfl, rfl, rfl, rfl⟩

theorem acceptedClose_remoteExports (h : Closable state id localScriptKey remoteScriptKey) :
    Exports (acceptedClose state id localScriptKey remoteScriptKey) .remoteOwner
      (closeProof state .remoteOwner remoteScriptKey state.remoteBalance) :=
  ⟨h.remoteProof, rfl, rfl, rfl, rfl, rfl⟩

theorem validate_ok (h : Closable state id localScriptKey remoteScriptKey) :
    (acceptedClose state id localScriptKey remoteScriptKey).validate acceptingLdk
      acceptingClose = .ok () :=
  validate_of_derived (acceptedClose_derived h) (acceptedClose_replayable h)
    (acceptedClose_localProof h) (acceptedClose_remoteProof h)
    (acceptedClose_localExports h) (acceptedClose_remoteExports h)

/-- A closable state is closed, and the close is valid. -/
theorem cooperativeClose_ok {store : AssetCommitmentStore} {channelId : String}
    (hstate : store.channels[channelId]? = some state)
    (h : Closable state id localScriptKey remoteScriptKey) :
    cooperativeClose acceptingLdk acceptingClose store channelId localScriptKey remoteScriptKey =
      .ok (acceptedClose state id localScriptKey remoteScriptKey) := by
  have hid : parseCloseChannelId state.channelId = .ok id := by
    rw [parseCloseChannelId, mapError_eq_ok]
    exact h.channelId
  simp only [cooperativeClose, AssetCommitmentStore.channelState, bind_eq_ok, mapError_eq_ok,
    okOr_eq_ok, closeFromState, pure_eq_ok, Except.ok.injEq]
  refine ⟨state, hstate, _, buildCloseProof_ok h.localProof.amount, _,
    buildCloseProof_ok h.remoteProof.amount, _, encode_eq _, _, encode_eq _, id, hid,
    acceptedAllocation state id localScriptKey remoteScriptKey, rfl, (),
    validateLdkCloseAllocation_ok (acceptedClose_derived h), (), validate_ok h, rfl⟩

/-- A valid close is recorded beside other valid closes unless its id is taken. -/
theorem recordClose_ok {store : NativeAssetCloseStore} {close : NativeAssetClose}
    (hversion : store.version = nativeAssetCloseStoreSchemaVersion)
    (hstore : ∀ (id : String) (c : NativeAssetClose), store.closes[id]? = some c →
      id = c.closeId ∧ c.validate acceptingLdk acceptingClose = .ok ())
    (hclose : close.validate acceptingLdk acceptingClose = .ok ())
    (hfresh : store.closes[close.closeId]? = none) :
    store.recordClose acceptingLdk acceptingClose close =
      .ok (close, { store with closes := store.closes.insert close.closeId close }) := by
  have hentry {id : String} {c : NativeAssetClose} (hid : id = c.closeId)
      (hc : c.validate acceptingLdk acceptingClose = .ok ()) :
      NativeAssetCloseStore.validateEntry acceptingLdk acceptingClose (id, c) = .ok () := by
    rw [NativeAssetCloseStore.validateEntry, rejectIf_false (not_not.mpr hid), ok_bind]
    exact hc
  simp only [NativeAssetCloseStore.recordClose, bind_eq_ok, rejectIf_eq_ok, exists_const,
    pure_eq_ok]
  refine ⟨by simp [hfresh], (), ?_, trivial⟩
  rw [NativeAssetCloseStore.validate, rejectIf_false (not_not.mpr hversion), ok_bind]
  refine forM_eq_ok.mpr fun ⟨id, c⟩ hmem => ?_
  rcases get_insert_eq_some (mem_toList_iff.mp hmem) with ⟨rfl, rfl⟩ | ⟨-, hget⟩
  · exact hentry rfl hclose
  · obtain ⟨hid, hc⟩ := hstore id c hget
    exact hentry hid hc

end Accepted

end TapLdk.AssetCloseAccepts
