import Mathlib
import TapLdk.ChannelFundingAccepts
import TapLdk.CommitmentStory

/-! Initialisations and updates that succeed: under a library that accepts the blobs it builds,
a funded channel can be initialised and a valid request is applied. -/
namespace TapLdk.CommitmentAccepts
open TapLdk.LibraryExcept TapLdk.LibraryMaps TapLdk.LibraryBytes TapLdk.LibrarySha256
open TapLdk.Mssmt TapLdk.Asset TapLdk.Proof TapLdk.ProofHistory TapLdk.ProofHistoryReplay
open TapLdk.TapVm TapLdk.LdkFork TapLdk.ChannelFunding TapLdk.ChannelFundingAccepts
open TapLdk.Commitment TapLdk.CommitmentSteps TapLdk.CommitmentStory

theorem toString_u64_inj {n m : UInt64} (h : toString n = toString m) : n = m := by
  have hrepr : Nat.repr n.toNat = Nat.repr m.toNat := h
  exact UInt64.toNat_inj.mp (Nat.repr_inj.mp hrepr)

/-- The number of a commitment is part of its record id. -/
theorem recordId_inj {channelId : String} {n m : UInt64}
    (h : s!"asset-commitment-update:{channelId}:{n}" =
      s!"asset-commitment-update:{channelId}:{m}") : n = m := by
  simp only [toString_string, String.append_assoc, String.append_right_inj] at h
  exact toString_u64_inj h

/-- The number of a commitment is part of its output id. -/
theorem outputId_inj {channelId : String} {n m : UInt64} {d e : Bytes32}
    (h : s!"asset-commitment-output:{channelId}:{n}:{toHex d}" =
      s!"asset-commitment-output:{channelId}:{m}:{toHex e}") : n = m := by
  simp only [toString_string, String.append_assoc, String.append_right_inj] at h
  have hlist := congrArg String.toList h
  simp only [String.toList_append] at hlist
  have hlength : (":".toList ++ (toHex d).toList).length = (":".toList ++ (toHex e).toList).length := by
    rw [List.length_append, List.length_append, toHex_length, toHex_length]
  exact toString_u64_inj (String.toList_inj.mp (List.append_inj_left' hlist hlength))

theorem recordId_eq (channelId : String) (n : UInt64) :
    s!"asset-commitment-update:{channelId}:{n}" =
      "asset-commitment-update:" ++ (channelId ++ (":" ++ toString n)) := by
  simp only [toString_string, String.append_assoc]

theorem outputId_eq (channelId : String) (n : UInt64) (d : Bytes32) :
    s!"asset-commitment-output:{channelId}:{n}:{toHex d}" =
      "asset-commitment-output:" ++ (channelId ++ (":" ++ (toString n ++ (":" ++ toHex d)))) := by
  simp only [toString_string, String.append_assoc]

/-- What the history needs of a channel. -/
structure HistoryFits (state : AssetCommitmentChannelState) : Prop where
  recordId : state.fundingProofHistoryRecordId = s!"asset-channel-funding:{state.channelId}"
  outputId : state.fundingProofHistoryOutputId =
    s!"asset-channel-funding-output:{state.channelId}"
  total : state.totalAmount ≠ 0
  anchor : ∃ p, outpointOf state.fundingOutpoint = some p
  initial : state.initialTransitionId ≠ Bytes32.ZERO
  funding : state.fundingProofHistoryTransitionId ≠ Bytes32.ZERO

def replayRoot (state : AssetCommitmentChannelState) : RootHashSum :=
  singleRoot ⟨state.assetId, state.assetSigningKey, state.totalAmount⟩

/-- The record of a commitment, read off its metadata. -/
def metadataRecord (state : AssetCommitmentChannelState) (metadata : CommitmentProofHistory) :
    ProofHistoryRecord :=
  { recordId := metadata.recordId
    kind := .commitmentUpdate
    virtualTransitionId := metadata.transitionId
    inputs := [⟨metadata.priorOutputId⟩]
    outputs := [state.channelOutput metadata.outputId (replayRoot state) .channelLocked] }

def baseRecords (state : AssetCommitmentChannelState) : List ProofHistoryRecord :=
  [state.fundingInputRecord (replayRoot state), state.fundingRecord (replayRoot state)]

/-- The records of a state with the given commitments. -/
def recordsOf (state : AssetCommitmentChannelState) (cs : List StoredAssetCommitment) :
    List ProofHistoryRecord :=
  baseRecords state ++
    cs.map fun c => metadataRecord state (AssetCommitmentChannelState.storedMetadata c)

def outputAfter (state : AssetCommitmentChannelState) (cs : List StoredAssetCommitment) : String :=
  (cs.getLast?.map (·.proofHistoryOutputId)).getD state.fundingProofHistoryOutputId

theorem commitmentReplayRoot_ok {state : AssetCommitmentChannelState}
    (h : state.totalAmount ≠ 0) : state.commitmentReplayRoot = .ok (replayRoot state) :=
  mapError_eq_ok.mpr (deriveHashSumRoot_single h)

/-- A commitment whose record the chain of a state accepts after the given output. -/
structure Linked (state : AssetCommitmentChannelState) (priorOutputId : String)
    (c : StoredAssetCommitment) : Prop where
  metadata : AssetCommitmentChannelState.storedMetadata c = state.expectedMetadata c priorOutputId
  balances : checkedAdd c.localBalance c.remoteBalance = some state.totalAmount

theorem addCommitmentRecord_eq_ok {state : AssetCommitmentChannelState}
    (htotal : state.totalAmount ≠ 0) {prior : String} {records : List ProofHistoryRecord}
    {c : StoredAssetCommitment} {out : String × List ProofHistoryRecord} :
    state.addCommitmentRecord (prior, records) c = .ok out ↔ Linked state prior c ∧
      out = (c.proofHistoryOutputId,
        records ++ [metadataRecord state (AssetCommitmentChannelState.storedMetadata c)]) := by
  simp only [AssetCommitmentChannelState.addCommitmentRecord,
    AssetCommitmentChannelState.commitmentProofHistoryRecord, bind_eq_ok, rejectIf_eq_ok,
    okOr_eq_ok, exists_const, ne_eq, not_not, pure_eq_ok, Except.ok.injEq,
    commitmentReplayRoot_ok htotal]
  constructor
  · rintro ⟨hmetadata, _, ⟨sum, hsum, rfl, _, rfl, rfl⟩, rfl⟩
    exact ⟨⟨hmetadata, hsum⟩, by rw [hmetadata]; rfl⟩
  · rintro ⟨⟨hmetadata, hsum⟩, rfl⟩
    exact ⟨hmetadata, _, ⟨_, hsum, rfl, _, rfl, rfl⟩, by rw [hmetadata]; rfl⟩

/-- Every commitment of a list is linked to the one before it. -/
def Chained (state : AssetCommitmentChannelState) (cs : List StoredAssetCommitment) : Prop :=
  ∀ before c after, cs = before ++ c :: after → Linked state (outputAfter state before) c

theorem chained_concat {state : AssetCommitmentChannelState} {cs : List StoredAssetCommitment}
    {c : StoredAssetCommitment} :
    Chained state (cs ++ [c]) ↔ Chained state cs ∧ Linked state (outputAfter state cs) c := by
  constructor
  · intro h
    exact ⟨fun before d after heq => h before d (after ++ [c]) (by simp [heq]), h cs c [] rfl⟩
  · rintro ⟨h, hlast⟩ before d after heq
    rcases List.eq_nil_or_concat after with rfl | ⟨after, e, rfl⟩
    · obtain ⟨rfl, hcons⟩ := List.append_inj' heq rfl
      obtain ⟨rfl, -⟩ := List.cons.inj hcons
      exact hlast
    · have hsplit : cs ++ [c] = (before ++ d :: after) ++ [e] := by simpa using heq
      exact h before d after (List.append_inj' hsplit rfl).1

theorem foldlM_addCommitmentRecord {state : AssetCommitmentChannelState}
    (htotal : state.totalAmount ≠ 0) {cs : List StoredAssetCommitment}
    {out : String × List ProofHistoryRecord} :
    cs.foldlM state.addCommitmentRecord (state.fundingProofHistoryOutputId, baseRecords state) =
        .ok out ↔ Chained state cs ∧ out = (outputAfter state cs, recordsOf state cs) := by
  induction cs using List.reverseRecOn generalizing out with
  | nil =>
    have hnil : Chained state [] := fun before c after heq => by simp at heq
    simp [hnil, recordsOf, outputAfter, eq_comm]
  | append_singleton cs c ih =>
    rw [foldlM_concat, bind_eq_ok]
    simp only [ih, chained_concat]
    constructor
    · rintro ⟨_, ⟨hchain, rfl⟩, hstep⟩
      obtain ⟨hlinked, rfl⟩ := (addCommitmentRecord_eq_ok htotal).mp hstep
      exact ⟨⟨hchain, hlinked⟩, by simp [outputAfter, recordsOf]⟩
    · rintro ⟨⟨hchain, hlinked⟩, rfl⟩
      exact ⟨_, ⟨hchain, rfl⟩, (addCommitmentRecord_eq_ok htotal).mpr
        ⟨hlinked, by simp [outputAfter, recordsOf]⟩⟩

def commitmentsOf (state : AssetCommitmentChannelState) : List StoredAssetCommitment :=
  state.commitments.toList.map (·.2)

/-- The records of a state exist exactly when its commitments are chained and its latest
metadata are those of the last one. -/
theorem commitmentProofHistoryRecords_eq_ok {state : AssetCommitmentChannelState}
    (htotal : state.totalAmount ≠ 0) {records : List ProofHistoryRecord} :
    state.commitmentProofHistoryRecords = .ok records ↔
      Chained state (commitmentsOf state) ∧
        (state.latestProofHistoryRecordId = state.expectedLatest.recordId ∧
          state.latestProofHistoryOutputId = state.expectedLatest.outputId ∧
          state.latestProofHistoryTransitionId = state.expectedLatest.transitionId) ∧
        records = recordsOf state (commitmentsOf state) := by
  have hfold (out : String × List ProofHistoryRecord) :
      (commitmentsOf state).foldlM state.addCommitmentRecord
          (state.fundingProofHistoryOutputId, baseRecords state) = .ok out ↔
        Chained state (commitmentsOf state) ∧ out = (outputAfter state (commitmentsOf state),
          recordsOf state (commitmentsOf state)) := foldlM_addCommitmentRecord htotal
  simp only [AssetCommitmentChannelState.commitmentProofHistoryRecords,
    commitmentReplayRoot_ok htotal, ok_bind, bind_eq_ok, rejectIf_eq_ok, exists_const, ne_eq,
    not_or, not_not, pure_eq_ok, Except.ok.injEq]
  constructor
  · rintro ⟨out, hout, hlatest, rfl⟩
    obtain ⟨hchain, rfl⟩ := (hfold out).mp hout
    exact ⟨hchain, hlatest, rfl⟩
  · rintro ⟨hchain, hlatest, rfl⟩
    exact ⟨_, (hfold _).mpr ⟨hchain, rfl⟩, hlatest, rfl⟩

theorem expectedLatest_outputId (state : AssetCommitmentChannelState) :
    state.expectedLatest.outputId = outputAfter state (commitmentsOf state) := by
  rw [AssetCommitmentChannelState.expectedLatest, outputAfter, commitmentsOf]
  cases (state.commitments.toList.map (·.2)).getLast? <;> rfl

section Records

variable {state : AssetCommitmentChannelState} {cs : List StoredAssetCommitment}

theorem createdIds_recordsOf (state : AssetCommitmentChannelState)
    (cs : List StoredAssetCommitment) : createdIds (recordsOf state cs) =
      state.fundingInputId :: state.fundingProofHistoryOutputId ::
        cs.map (·.proofHistoryOutputId) := by
  induction cs using List.reverseRecOn with
  | nil => rfl
  | append_singleton cs c ih =>
    have hconcat : recordsOf state (cs ++ [c]) = recordsOf state cs ++
        [metadataRecord state (AssetCommitmentChannelState.storedMetadata c)] := by
      simp [recordsOf]
    rw [hconcat, createdIds, List.flatMap_append, List.map_append]
    change createdIds (recordsOf state cs) ++ _ = _
    rw [ih]
    rfl

theorem recordIds_recordsOf (state : AssetCommitmentChannelState)
    (cs : List StoredAssetCommitment) : (recordsOf state cs).map (·.recordId) =
      state.fundingInputId :: state.fundingProofHistoryRecordId ::
        cs.map (·.proofHistoryRecordId) := by
  rw [recordsOf, List.map_append, List.map_map]
  rfl

/-- What the chain says of the ids of each commitment. -/
theorem chained_ids (h : Chained state cs) {c : StoredAssetCommitment} (hc : c ∈ cs) :
    c.proofHistoryRecordId = s!"asset-commitment-update:{state.channelId}:{c.commitmentNumber}" ∧
      ∃ d : Bytes32, c.proofHistoryOutputId =
        s!"asset-commitment-output:{state.channelId}:{c.commitmentNumber}:{toHex d}" := by
  obtain ⟨before, after, heq⟩ := List.append_of_mem hc
  have hmetadata := (h before c after heq).metadata
  exact ⟨congrArg CommitmentProofHistory.recordId hmetadata, _,
    congrArg CommitmentProofHistory.outputId hmetadata⟩

/-- The output the channel is locked in after its commitments. -/
theorem output_mem (state : AssetCommitmentChannelState) (cs : List StoredAssetCommitment) :
    ∃ r ∈ recordsOf state cs, state.channelOutput (outputAfter state cs) (replayRoot state)
      .channelLocked ∈ r.outputs := by
  rcases List.eq_nil_or_concat cs with rfl | ⟨cs, c, rfl⟩
  · exact ⟨state.fundingRecord (replayRoot state), by simp [recordsOf, baseRecords],
      List.mem_singleton.mpr rfl⟩
  · refine ⟨metadataRecord state (AssetCommitmentChannelState.storedMetadata c),
      by simp [recordsOf], ?_⟩
    simp [outputAfter, metadataRecord, AssetCommitmentChannelState.storedMetadata]

theorem channelOutput_valid (hfits : HistoryFits state) {record : ProofHistoryRecord}
    {outputId : String} {s : ProofHistoryState} (hid : outputId ≠ "")
    (hallowed : record.kind.allowsOutputState s = true) :
    IsOutput record (state.channelOutput outputId (replayRoot state) s) :=
  ⟨hid, hallowed, hfits.total, hfits.anchor, rfl⟩

/-- A commitment with a new number continues the records. -/
theorem metadataRecord_admissible (hfits : HistoryFits state) (hchain : Chained state cs)
    {number localBalance remoteBalance : UInt64} {stateDigest virtualTxId : Bytes32}
    (hnew : ∀ c ∈ cs, c.commitmentNumber ≠ number) (htx : virtualTxId ≠ Bytes32.ZERO) :
    Admissible regtestPolicy (recordsOf state cs) (metadataRecord state
      (state.commitmentProofHistoryMetadataFromParts number localBalance remoteBalance stateDigest
        virtualTxId (outputAfter state cs))) := by
  obtain ⟨r, hr, hp⟩ := output_mem state cs
  have hinput : state.fundingInputId = "asset-commitment-funding-input:" ++ state.channelId := rfl
  refine admissible_move (by simp [metadataRecord]) rfl rfl ?_ ?_ htx hr hp rfl rfl rfl
    (channelOutput_valid hfits ?_ rfl) ?_ (regtest_accepts _)
  · change s!"asset-commitment-update:{state.channelId}:{number}" ≠ ""
    rw [recordId_eq]
    simp
  · change s!"asset-commitment-update:{state.channelId}:{number}" ∉ _
    rw [recordIds_recordsOf, List.mem_cons, List.mem_cons, hinput, hfits.recordId]
    rintro (hid | hid | hid)
    · rw [recordId_eq] at hid
      exact append_ne_append _ _ (by decide) hid
    · rw [recordId_eq] at hid
      exact append_ne_append (b := "asset-channel-funding:") _ _ (by decide) hid
    · obtain ⟨c, hc, hcid⟩ := List.mem_map.mp hid
      rw [(chained_ids hchain hc).1] at hcid
      exact hnew c hc (recordId_inj hcid)
  · change s!"asset-commitment-output:{state.channelId}:{number}:{toHex _}" ≠ ""
    rw [outputId_eq]
    simp
  · change s!"asset-commitment-output:{state.channelId}:{number}:{toHex _}" ∉ _
    rw [createdIds_recordsOf, List.mem_cons, List.mem_cons, hinput, hfits.outputId]
    rintro (hid | hid | hid)
    · rw [outputId_eq] at hid
      exact append_ne_append _ _ (by decide) hid
    · rw [outputId_eq] at hid
      exact append_ne_append (b := "asset-channel-funding-output:") _ _ (by decide) hid
    · obtain ⟨c, hc, hcid⟩ := List.mem_map.mp hid
      obtain ⟨d, hd⟩ := (chained_ids hchain hc).2
      rw [hd] at hcid
      exact hnew c hc (outputId_inj hcid)

/-- The funding of a channel replays. -/
theorem baseRecords_replay (hfits : HistoryFits state) :
    ∃ history priors, replay (baseRecords state) = .ok history ∧
      history.acceptedExplanation state.fundingProofHistoryOutputId = some (explanationOf
        (state.fundingRecord (replayRoot state)) regtestPolicy priors (state.channelOutput
          state.fundingProofHistoryOutputId (replayRoot state) .channelLocked)) := by
  have hinput : state.fundingInputId = "asset-commitment-funding-input:" ++ state.channelId := rfl
  have hissue : Admissible regtestPolicy [] (state.fundingInputRecord (replayRoot state)) := by
    refine admissible_issue rfl rfl rfl ?_ (by simp) hfits.initial
      (channelOutput_valid hfits ?_ rfl) (by simp [createdIds]) (regtest_accepts _)
    all_goals
      change state.fundingInputId ≠ ""
      rw [hinput]
      simp
  have hnil : replay [] = .ok ⟨∅, ∅⟩ := rfl
  obtain ⟨_, issued, hissued, -⟩ := replay_concat hnil hissue (List.mem_singleton.mpr rfl)
  have hlock : Admissible regtestPolicy [state.fundingInputRecord (replayRoot state)]
      (state.fundingRecord (replayRoot state)) := by
    refine admissible_move (by simp [AssetCommitmentChannelState.fundingRecord]) rfl rfl ?_ ?_
      hfits.funding (List.mem_singleton.mpr rfl) (List.mem_singleton.mpr rfl) rfl rfl rfl
      (channelOutput_valid hfits ?_ rfl) ?_ (regtest_accepts _)
    · change state.fundingProofHistoryRecordId ≠ ""
      rw [hfits.recordId]
      simp [toString_string]
    · change state.fundingProofHistoryRecordId ∉ [state.fundingInputId]
      rw [hfits.recordId, hinput, List.mem_singleton]
      exact append_ne_append (a := "asset-channel-funding:") _ _ (by decide)
    · rw [hfits.outputId]
      simp [toString_string]
    · change state.fundingProofHistoryOutputId ∉ [state.fundingInputId]
      rw [hfits.outputId, hinput, List.mem_singleton]
      exact append_ne_append (a := "asset-channel-funding-output:") _ _ (by decide)
  obtain ⟨priors, history, hhistory, -, hexplained⟩ := replay_concat hissued hlock
    (List.mem_singleton.mpr rfl)
  exact ⟨history, priors, hhistory, hexplained⟩

end Records

/-- The library's validator accepts a blob that its constructor built, for the same fields. -/
def AcceptsOwnBlobs (ldk : Ldk) : Prop :=
  ∀ fields blob, ldk.newMonitorAuxBlob fields = .ok blob →
    ∃ update, ldk.taprootAssetAuxUpdate fields.commitmentNumber fields.channelId blob = .ok update ∧
      ∀ expected, fields.Meets expected → ldk.requireTaprootAssetAuxBlob update expected = .ok ()

/-- A blob can be built for balances that make up the sum of the proof root. -/
def BuildsBlobs (ldk : Ldk) : Prop :=
  ∀ fields : TaprootAssetMonitorAuxBlobFields,
    fields.localBalance.toNat + fields.remoteBalance.toNat = fields.proofRootSum.toNat →
      ∃ blob, ldk.newMonitorAuxBlob fields = .ok blob

theorem acceptingLdk_buildsBlobs : BuildsBlobs acceptingLdk := fun fields _ => ⟨fields, rfl⟩

theorem acceptingLdk_acceptsOwnBlobs : AcceptsOwnBlobs acceptingLdk := by
  intro fields blob h
  obtain rfl := Except.ok.inj h
  exact ⟨_, rfl, fun expected hmeets => rejectIf_false (not_not.mpr hmeets)⟩

/-- A monitor blob made for a state passes its checks. -/
theorem validateMonitor_ok {ldk : Ldk} (haccepts : AcceptsOwnBlobs ldk)
    {state : AssetCommitmentChannelState} {root : StoredRootHashSum} {nonce signature : Bytes32}
    (h : AssetCommitmentMonitorBlob.new ldk state.channelId state.assetId
      state.latestCommitmentNumber state.localBalance state.remoteBalance state.latestDigest root
      nonce signature = .ok state.monitorBlob) : state.validateMonitor ldk = .ok () := by
  simp only [AssetCommitmentMonitorBlob.new, AssetCommitmentMonitorBlob.buildLdkAuxBlob, parseChannelId,
    bind_eq_ok, mapError_eq_ok, pure_eq_ok, Except.ok.injEq] at h
  obtain ⟨id, hid, blob, hnew, hblob⟩ := h
  obtain ⟨update, hupdate, hrequire⟩ := haccepts _ _ hnew
  simp only [AssetCommitmentChannelState.validateMonitor, ← hblob, bind_eq_ok, rejectIf_eq_ok,
    exists_const, AssetCommitmentChannelState.validateLdkMonitorAuxBlob,
    AssetCommitmentChannelState.buildLdkMonitorUpdate, AssetCommitmentMonitorBlob.toLdkAuxBlob,
    AssetCommitmentMonitorBlob.buildLdkAuxBlob, parseChannelId, mapError_eq_ok, okOr_eq_ok,
    pure_eq_ok, Except.ok.injEq]
  exact ⟨by simp, by simp, update, ⟨id, hid, blob, ⟨blob, hnew, _, rfl, by simp, rfl⟩, hupdate⟩, id,
    hid, hrequire _ rfl⟩

theorem new_ok {ldk : Ldk} {channelId : String} {id : Bytes32}
    (hid : bytes32FromStr channelId = .ok id)
    {assetId stateDigest nonce signature : Bytes32} {number localBalance remoteBalance : UInt64}
    {root : StoredRootHashSum} (hbuilt : ∃ blob, ldk.newMonitorAuxBlob ⟨id, assetId, number,
      localBalance, remoteBalance, stateDigest, root.hash, root.sum, nonce, signature⟩ = .ok blob) :
    ∃ blob, AssetCommitmentMonitorBlob.new ldk channelId assetId number localBalance remoteBalance
      stateDigest root nonce signature = .ok blob := by
  obtain ⟨blob, hblob⟩ := hbuilt
  simp only [AssetCommitmentMonitorBlob.new, AssetCommitmentMonitorBlob.buildLdkAuxBlob,
    parseChannelId, bind_eq_ok, mapError_eq_ok]
  exact ⟨_, id, hid, blob, hblob, rfl⟩

/-- A history that ends in the latest output of a state is its chain. -/
theorem validateProofHistoryChain_ok {state : AssetCommitmentChannelState}
    {records : List ProofHistoryRecord} {history : ProofHistory.ProofHistoryReplay}
    (last : ProofHistoryRecord) (priors : List ProofHistoryPriorState)
    (htotal : state.totalAmount ≠ 0) (hrecords : state.commitmentProofHistoryRecords = .ok records)
    (hreplay : replay records = .ok history)
    (hexplained : history.acceptedExplanation state.latestProofHistoryOutputId =
      some (explanationOf last regtestPolicy priors (state.channelOutput
        state.latestProofHistoryOutputId (replayRoot state) .channelLocked)))
    (hid : last.recordId = state.latestProofHistoryRecordId)
    (htransition : last.virtualTransitionId = state.latestProofHistoryTransitionId)
    (hkind : last.kind = if state.latestCommitmentNumber = 0 then .channelFunding
      else .commitmentUpdate) : state.validateProofHistoryChain = .ok () := by
  simp only [AssetCommitmentChannelState.validateProofHistoryChain, bind_eq_ok, mapError_eq_ok,
    okOr_eq_ok]
  refine ⟨_, hrecords, _, hreplay, _, hexplained, _, commitmentReplayRoot_ok htotal, ?_⟩
  refine rejectIf_false ?_
  simp only [explanationOf, hid, htransition, hkind, ne_eq, not_true_eq_false, false_or, not_not]
  exact ⟨rfl, rfl, rfl, rfl, rfl, rfl⟩

theorem putChannel_valid {ldk : Ldk} {store : AssetCommitmentStore}
    {state : AssetCommitmentChannelState} (hstore : StoreValid ldk store)
    (hstate : StateValid ldk state) : StoreValid ldk (store.putChannel state.channelId state) where
  version := hstore.version
  key id held hget := by
    rcases get_insert_eq_some hget with ⟨rfl, rfl⟩ | ⟨-, hget⟩
    · rfl
    · exact hstore.key id held hget
  state id held hget := by
    rcases get_insert_eq_some hget with ⟨rfl, rfl⟩ | ⟨-, hget⟩
    · exact hstate
    · exact hstore.state id held hget

/-- A funded channel whose ids and history a commitment state can take over. -/
structure Initializable (channel : StoredAssetChannel) (id transition : Bytes32) : Prop where
  funded : Funded channel
  channelId : bytes32FromStr channel.channelId = .ok id
  transitionId : bytes32FromStr channel.fundingProofHistoryTransitionId = .ok transition
  recordId : channel.fundingProofHistoryRecordId = s!"asset-channel-funding:{channel.channelId}"
  outputId : channel.fundingProofHistoryOutputId =
    s!"asset-channel-funding-output:{channel.channelId}"
  total : channel.totalAmount ≠ 0
  anchor : ∃ p, outpointOf channel.fundingOutpoint = some p
  initial : sha256 (utf8 "tap-ldk:asset-commitment-initial-proof-history:v1" ++
    utf8 channel.channelId ++ channel.assetId.bytes ++ utf8 channel.fundingOutpoint ++
    u64Bytes channel.totalAmount) ≠ Bytes32.ZERO
  funding : transition ≠ Bytes32.ZERO

/-- A state as it is taken over from a channel. -/
structure TakenOver (channel : StoredAssetChannel) (transition : Bytes32)
    (state : AssetCommitmentChannelState) : Prop where
  funded : FromFunded channel state
  recordId : state.fundingProofHistoryRecordId = channel.fundingProofHistoryRecordId
  latestRecord : state.latestProofHistoryRecordId = channel.fundingProofHistoryRecordId
  transitionId : state.fundingProofHistoryTransitionId = transition
  latestTransition : state.latestProofHistoryTransitionId = transition
  monitor : state.validateMonitor acceptingLdk = .ok ()

theorem fromFundedChannel_ok {channel : StoredAssetChannel} {id transition : Bytes32}
    (h : Initializable channel id transition) : ∃ state,
      AssetCommitmentChannelState.fromFundedChannel acceptingLdk channel = .ok state ∧
        TakenOver channel transition state := by
  have hnew (stateDigest nonce signature : Bytes32) := @new_ok acceptingLdk _ _ h.channelId
    channel.assetId stateDigest nonce signature channel.monitor.commitmentNumber
    channel.localBalance channel.remoteBalance channel.fundingTapAssetRoot ⟨_, rfl⟩
  obtain ⟨blob, hblob⟩ := hnew _ _ _
  simp only [AssetCommitmentChannelState.fromFundedChannel, bind_eq_ok, mapError_eq_ok,
    pure_eq_ok, Except.ok.injEq]
  refine ⟨_, ⟨blob, hblob, transition, h.transitionId, rfl⟩, ?_⟩
  constructor
  case funded =>
    constructor
    case root => exact new_spec hblob
    all_goals rfl
  case monitor => exact validateMonitor_ok acceptingLdk_acceptsOwnBlobs hblob
  all_goals rfl

theorem takenOver_fits {channel : StoredAssetChannel} {id transition : Bytes32}
    (h : Initializable channel id transition) {state : AssetCommitmentChannelState}
    (hstate : TakenOver channel transition state) : HistoryFits state where
  recordId := by rw [hstate.recordId, h.recordId, hstate.funded.channelId]
  outputId := by rw [hstate.funded.fundingOutput, h.outputId, hstate.funded.channelId]
  total := by
    rw [hstate.funded.totalAmount]
    exact h.total
  anchor := by
    rw [hstate.funded.fundingOutpoint]
    exact h.anchor
  initial := by
    rw [AssetCommitmentChannelState.initialTransitionId, hstate.funded.channelId,
      hstate.funded.assetId, hstate.funded.fundingOutpoint, hstate.funded.totalAmount]
    exact h.initial
  funding := by
    rw [hstate.transitionId]
    exact h.funding

theorem takenOver_valid {channel : StoredAssetChannel} {id transition : Bytes32}
    (h : Initializable channel id transition) {state : AssetCommitmentChannelState}
    (hstate : TakenOver channel transition state) : StateValid acceptingLdk state := by
  have hfits := takenOver_fits h hstate
  have hempty : commitmentsOf state = [] := by
    rw [commitmentsOf, hstate.funded.commitments, toList_empty, List.map_nil]
  have hlatest : state.expectedLatest = ⟨state.fundingInputId, state.fundingProofHistoryRecordId,
      state.fundingProofHistoryOutputId, state.fundingProofHistoryTransitionId⟩ := by
    rw [AssetCommitmentChannelState.expectedLatest, hstate.funded.commitments, toList_empty]
    rfl
  have houtput : state.latestProofHistoryOutputId = state.fundingProofHistoryOutputId :=
    hstate.funded.latestOutput.trans hstate.funded.fundingOutput.symm
  have hrecords : state.commitmentProofHistoryRecords = .ok (baseRecords state) := by
    refine (commitmentProofHistoryRecords_eq_ok hfits.total).mpr ⟨?_, ?_, ?_⟩
    · rw [hempty]
      exact fun before c after heq => by simp at heq
    · rw [hlatest]
      exact ⟨hstate.latestRecord.trans hstate.recordId.symm, houtput,
        hstate.latestTransition.trans hstate.transitionId.symm⟩
    · rw [hempty, recordsOf, List.map_nil, List.append_nil]
  obtain ⟨history, priors, hreplay, hexplained⟩ := baseRecords_replay hfits
  constructor
  case balances =>
    rw [hstate.funded.localBalance, hstate.funded.remoteBalance, hstate.funded.totalAmount,
      checkedAdd_eq_some]
    exact h.funded.balances.symm
  case unrevoked => simp [hstate.funded.revoked]
  case monitor => exact hstate.monitor
  case nonces => simp [hstate.funded.nonces]
  case commitments => simp [hstate.funded.commitments]
  case history =>
    refine validateProofHistoryChain_ok (state.fundingRecord (replayRoot state)) priors hfits.total
      hrecords hreplay ?_ ?_ ?_ ?_
    · rw [houtput]
      exact hexplained
    · exact hstate.recordId.trans hstate.latestRecord.symm
    · exact hstate.transitionId.trans hstate.latestTransition.symm
    · rw [hstate.funded.number, h.funded.number]
      rfl

/-- A funded channel is initialised in every valid store without it. -/
theorem initializeChannel_ok {store : AssetCommitmentStore} {channel : StoredAssetChannel}
    {id transition : Bytes32} (hstore : StoreValid acceptingLdk store)
    (hfresh : store.channels[channel.channelId]? = none)
    (h : Initializable channel id transition) : ∃ state, TakenOver channel transition state ∧
      store.initializeChannel acceptingLdk channel =
        .ok (state, store.putChannel channel.channelId state) := by
  obtain ⟨state, hfrom, hstate⟩ := fromFundedChannel_ok h
  have hvalid := putChannel_valid hstore (takenOver_valid h hstate)
  rw [hstate.funded.channelId] at hvalid
  refine ⟨state, hstate, ?_⟩
  simp only [AssetCommitmentStore.initializeChannel, bind_eq_ok, rejectIf_eq_ok, exists_const,
    pure_eq_ok, Except.ok.injEq, Prod.mk.injEq]
  exact ⟨by simp [hfresh], state, hfrom, (), store_validate_eq_ok.mpr hvalid, rfl, rfl⟩

section Update

variable {ldk : Ldk} {channel : StoredAssetChannel} {n : ℕ}
  {current updated : AssetCommitmentChannelState} {request : AssetCommitmentUpdateRequest}
  {snapshot : AssetCommitmentSnapshot}

/-- The chain of a valid state and its replay. -/
theorem chain_of_valid (hfits : HistoryFits current) (h : StateValid ldk current) :
    Chained current (commitmentsOf current) ∧
      current.latestProofHistoryOutputId = outputAfter current (commitmentsOf current) ∧
      current.commitmentProofHistoryRecords = .ok (recordsOf current (commitmentsOf current)) ∧
      ∃ history, replay (recordsOf current (commitmentsOf current)) = .ok history := by
  have hhistory := h.history
  simp only [AssetCommitmentChannelState.validateProofHistoryChain, bind_eq_ok,
    mapError_eq_ok] at hhistory
  obtain ⟨records, hrecords, history, hreplay, -⟩ := hhistory
  obtain ⟨hchain, ⟨-, houtput, -⟩, rfl⟩ :=
    (commitmentProofHistoryRecords_eq_ok hfits.total).mp hrecords
  exact ⟨hchain, houtput.trans (expectedLatest_outputId current), hrecords, history, hreplay⟩

theorem commitments_before (hstory : ChannelStory channel n current) {c : StoredAssetCommitment}
    (hc : c ∈ commitmentsOf current) : c.commitmentNumber.toNat ≤ n := by
  obtain ⟨⟨key, c⟩, hmem, rfl⟩ := List.mem_map.mp hc
  have hat : CommitmentAt current key.toNat c := ⟨key, rfl, mem_toList_iff.mp hmem⟩
  rw [hstory.numbered _ _ hat]
  exact ((hstory.recorded _).mp ⟨c, hat⟩).2

/-- The record of a valid request continues the records of its state. -/
theorem updateRecord_admissible (hstory : ChannelStory channel n current)
    (hfits : HistoryFits current) (hvalid : StateValid ldk current)
    (hcheck : UpdateValid current request snapshot) (htx : request.virtualTxId ≠ Bytes32.ZERO) :
    Admissible regtestPolicy (recordsOf current (commitmentsOf current))
      (metadataRecord current (updateMetadata current request snapshot)) := by
  obtain ⟨hchain, houtput, -⟩ := chain_of_valid hfits hvalid
  rw [updateMetadata, houtput]
  refine metadataRecord_admissible hfits hchain (fun c hc => ?_) htx
  have hle := commitments_before hstory hc
  have hnumber := hcheck.number
  rw [hstory.latest] at hnumber
  have hsnapshot : snapshot.commitmentNumber = request.nextCommitmentNumber := by
    rw [hcheck.snapshot]
  rw [hsnapshot, Ne, ← UInt64.toNat_inj]
  omega

theorem validateCommitmentProofHistory_ok (hstory : ChannelStory channel n current)
    (hfits : HistoryFits current) (hvalid : StateValid ldk current)
    (hcheck : UpdateValid current request snapshot) (htx : request.virtualTxId ≠ Bytes32.ZERO) :
    current.validateCommitmentProofHistory request snapshot =
      .ok (updateMetadata current request snapshot) := by
  obtain ⟨hchain, houtput, hrecords, history, hreplay⟩ := chain_of_valid hfits hvalid
  obtain ⟨priors, next, hnext, hpriors, hexplained⟩ := replay_concat hreplay
    (updateRecord_admissible hstory hfits hvalid hcheck htx) (List.mem_singleton.mpr rfl)
  have hrecord : current.commitmentProofHistoryRecord (updateMetadata current request snapshot)
      snapshot.localBalance snapshot.remoteBalance =
        .ok (metadataRecord current (updateMetadata current request snapshot)) := by
    simp only [AssetCommitmentChannelState.commitmentProofHistoryRecord, bind_eq_ok, okOr_eq_ok,
      rejectIf_eq_ok, exists_const, commitmentReplayRoot_ok hfits.total, pure_eq_ok]
    exact ⟨_, hcheck.conserved, not_not.mpr rfl, _, rfl, rfl⟩
  simp only [AssetCommitmentChannelState.validateCommitmentProofHistory, bind_eq_ok,
    mapError_eq_ok, okOr_eq_ok, rejectIf_eq_ok, exists_const, pure_eq_ok, Except.ok.injEq]
  refine ⟨_, hrecords, _, hrecord, _, hnext, _, hexplained, _, commitmentReplayRoot_ok hfits.total,
    ?_, rfl⟩
  obtain ⟨prior, ⟨⟨_, -, o, -, hid, hprior⟩, hallow⟩, rfl⟩ : ∃ prior, Spends (recordsOf current
      (commitmentsOf current)) (metadataRecord current (updateMetadata current request snapshot))
      ⟨current.latestProofHistoryOutputId⟩ prior ∧ priors = [prior] := by
    cases hpriors with
    | cons hprior hrest =>
      cases hrest
      exact ⟨_, hprior, rfl⟩
  -- an update spends locked outputs only
  have hstate : prior.state = .channelLocked := by
    simpa [metadataRecord, ProofTransitionKind.allowsInputState] using hallow
  have hprior' : (prior.outputId, prior.state) =
      (current.latestProofHistoryOutputId, .channelLocked) := by
    rw [hstate, hprior]
    exact congrArg (·, _) hid
  simp only [explanationOf, List.map_cons, List.map_nil, hprior', ne_eq, not_true_eq_false, or_false]
  rintro (hkind | htxid | hchannel)
  · exact hkind rfl
  · exact htxid rfl
  · exact hchannel ⟨rfl, rfl, rfl, rfl, rfl, rfl⟩

/-- The state after an update, with its new monitor blob. -/
def updatedState (current : AssetCommitmentChannelState) (request : AssetCommitmentUpdateRequest)
    (snapshot : AssetCommitmentSnapshot) (blob : AssetCommitmentMonitorBlob) :
    AssetCommitmentChannelState :=
  { current.recordCommitment request snapshot (updateMetadata current request snapshot) with
    monitorBlob := blob }

theorem updatedState_step (hcheck : UpdateValid current request snapshot)
    {blob : AssetCommitmentMonitorBlob}
    (hroot : blob.fundingRoot = current.monitorBlob.fundingRoot) :
    UpdateStep current request snapshot (updatedState current request snapshot blob) :=
  ⟨hcheck, blob, hroot, rfl⟩

theorem updatedState_fits (hfits : HistoryFits current) (blob : AssetCommitmentMonitorBlob) :
    HistoryFits (updatedState current request snapshot blob) :=
  ⟨hfits.recordId, hfits.outputId, hfits.total, hfits.anchor, hfits.initial, hfits.funding⟩

theorem commitmentsOf_updatedState (hstory : ChannelStory channel n current)
    (hcheck : UpdateValid current request snapshot) (blob : AssetCommitmentMonitorBlob) :
    commitmentsOf (updatedState current request snapshot blob) =
      commitmentsOf current ++ [newCommitment current request snapshot] := by
  have hlast : ∀ (key : UInt64) (c : StoredAssetCommitment), current.commitments[key]? = some c →
      compare key snapshot.commitmentNumber = .lt := by
    intro key c hget
    have hle := ((hstory.recorded key.toNat).mp ⟨c, key, rfl, hget⟩).2
    have hnumber := hcheck.number
    rw [hstory.latest] at hnumber
    have hsnapshot : snapshot.commitmentNumber = request.nextCommitmentNumber := by
      rw [hcheck.snapshot]
    rw [Std.compare_eq_lt, UInt64.lt_iff_toNat_lt, hsnapshot]
    omega
  have hmap : (updatedState current request snapshot blob).commitments =
      current.commitments.insert snapshot.commitmentNumber
        (newCommitment current request snapshot) := rfl
  rw [commitmentsOf, hmap, toList_insert_last hlast, List.map_append]
  rfl

/-- The chain of an updated state is that of the state before it and the new commitment. -/
theorem chained_updatedState (hstory : ChannelStory channel n current)
    (hfits : HistoryFits current) (hvalid : StateValid ldk current)
    (hcheck : UpdateValid current request snapshot) (blob : AssetCommitmentMonitorBlob) :
    (updatedState current request snapshot blob).commitmentProofHistoryRecords =
      .ok (recordsOf current (commitmentsOf current) ++
        [metadataRecord current (updateMetadata current request snapshot)]) := by
  obtain ⟨hchain, houtput, -⟩ := chain_of_valid hfits hvalid
  have hcs := commitmentsOf_updatedState hstory hcheck blob
  have hlinked : Linked (updatedState current request snapshot blob)
      (outputAfter current (commitmentsOf current)) (newCommitment current request snapshot) := by
    refine ⟨?_, hcheck.conserved⟩
    rw [← houtput]
    rfl
  refine (commitmentProofHistoryRecords_eq_ok (updatedState_fits hfits blob).total).mpr
    ⟨?_, ?_, ?_⟩
  · rw [hcs]
    refine chained_concat.mpr ⟨fun before c after heq => ?_, hlinked⟩
    obtain ⟨hmetadata, hbalances⟩ := hchain before c after heq
    exact ⟨hmetadata, hbalances⟩
  · rw [AssetCommitmentChannelState.expectedLatest]
    rw [commitmentsOf] at hcs
    rw [hcs, List.getLast?_concat]
    exact ⟨rfl, rfl, rfl⟩
  · rw [hcs]
    simp only [recordsOf, List.map_append, List.append_assoc]
    rfl

theorem updatedState_valid (haccepts : AcceptsOwnBlobs ldk)
    (hstory : ChannelStory channel n current) (hfits : HistoryFits current)
    (hvalid : StateValid ldk current) (hcheck : UpdateValid current request snapshot)
    (htx : request.virtualTxId ≠ Bytes32.ZERO) {blob : AssetCommitmentMonitorBlob}
    (hblob : AssetCommitmentMonitorBlob.new ldk current.channelId current.assetId
      snapshot.commitmentNumber snapshot.localBalance snapshot.remoteBalance snapshot.stateDigest
      current.monitorBlob.fundingRoot request.assetNonce request.assetSignature = .ok blob) :
    StateValid ldk (updatedState current request snapshot blob) := by
  have hnext := story_update hstory (updatedState_step hcheck (new_spec hblob))
  have hsnapshot : snapshot.commitmentNumber = request.nextCommitmentNumber := by
    rw [hcheck.snapshot]
  have hdigest : snapshot.stateDigest = commitmentStateDigest current.channelId current.assetId
      snapshot.commitmentNumber snapshot.localBalance snapshot.remoteBalance := by
    rw [hcheck.snapshot]
  obtain ⟨-, -, -, history, hreplay⟩ := chain_of_valid hfits hvalid
  constructor
  case balances => exact hcheck.conserved
  case unrevoked =>
    by_contra hne
    obtain ⟨m, hm⟩ := Option.ne_none_iff_exists'.mp hne
    have hlt := ((hnext.revoked _ _).mp hm).1
    rw [hnext.latest] at hlt
    omega
  case monitor =>
    rw [hdigest] at hblob
    exact validateMonitor_ok haccepts hblob
  case nonces => exact fun nonce k hk => (hnext.nonces nonce k).mp hk
  case commitments =>
    intro key c hget
    rcases get_insert_eq_some hget with ⟨rfl, rfl⟩ | ⟨-, hget⟩
    · exact ⟨rfl, hcheck.conserved, hdigest⟩
    · obtain ⟨hkey, hbalances, hstate⟩ := hvalid.commitments key c hget
      exact ⟨hkey, hbalances, hstate⟩
  case history =>
    obtain ⟨priors, next, hreplay', -, hexplained⟩ := replay_concat hreplay
      (updateRecord_admissible hstory hfits hvalid hcheck htx) (List.mem_singleton.mpr rfl)
    refine validateProofHistoryChain_ok (metadataRecord current (updateMetadata current request
      snapshot)) priors hfits.total (chained_updatedState hstory hfits hvalid hcheck blob) hreplay'
      hexplained rfl rfl ?_
    have hne : snapshot.commitmentNumber ≠ 0 := by
      have hnumber := hcheck.number
      rw [hsnapshot, Ne, ← UInt64.toNat_inj, UInt64.toNat_zero]
      omega
    exact (if_neg hne).symm

/-- The fields of the blob that is built for an update. -/
def updateBlobFields (current : AssetCommitmentChannelState) (id : Bytes32)
    (request : AssetCommitmentUpdateRequest) (snapshot : AssetCommitmentSnapshot) :
    TaprootAssetMonitorAuxBlobFields :=
  ⟨id, current.assetId, snapshot.commitmentNumber, snapshot.localBalance, snapshot.remoteBalance,
    snapshot.stateDigest, current.monitorBlob.proofRootHash, current.monitorBlob.proofRootSum,
    request.assetNonce, request.assetSignature⟩

/-- A valid request is applied: the checks on the request are all that can fail. -/
theorem applyUpdate_ok {store : AssetCommitmentStore} {id : Bytes32}
    (haccepts : AcceptsOwnBlobs ldk) (hstore : StoreValid ldk store)
    (hheld : store.channels[request.channelId]? = some current)
    (hid : bytes32FromStr current.channelId = .ok id) (hstory : ChannelStory channel n current)
    (hfits : HistoryFits current) (hcheck : UpdateValid current request snapshot)
    (htx : request.virtualTxId ≠ Bytes32.ZERO)
    (hbuilt : ∃ blob, ldk.newMonitorAuxBlob (updateBlobFields current id request snapshot) =
      .ok blob) : ∃ blob,
      StateValid ldk (updatedState current request snapshot blob) ∧
      blob.fundingRoot = current.monitorBlob.fundingRoot ∧
      store.applyUpdate ldk request = .ok (snapshot, store.putChannel current.channelId
        (updatedState current request snapshot blob)) := by
  have hvalid := hstore.state _ _ hheld
  obtain ⟨blob, hblob⟩ : ∃ blob, AssetCommitmentMonitorBlob.new ldk current.channelId
      current.assetId snapshot.commitmentNumber snapshot.localBalance snapshot.remoteBalance
      snapshot.stateDigest current.monitorBlob.fundingRoot request.assetNonce
      request.assetSignature = .ok blob := new_ok hid hbuilt
  have hupdated := updatedState_valid haccepts hstory hfits hvalid hcheck htx hblob
  have hnext := putChannel_valid hstore hupdated
  refine ⟨blob, hupdated, new_spec hblob, ?_⟩
  simp only [AssetCommitmentStore.applyUpdate, bind_eq_ok, okOr_eq_ok, pure_eq_ok, Except.ok.injEq,
    Prod.mk.injEq]
  exact ⟨current, hheld, (), validate_eq_ok.mpr hvalid, snapshot, validateUpdate_eq_ok.mpr hcheck, _,
    validateCommitmentProofHistory_ok hstory hfits hvalid hcheck htx, blob, hblob, (),
    store_validate_eq_ok.mpr hnext, rfl, rfl⟩

/-- A request as it is built for a state. -/
structure Built (current : AssetCommitmentChannelState) (sent received : UInt64) (nonce : Bytes32)
    (request : AssetCommitmentUpdateRequest) (snapshot : AssetCommitmentSnapshot) : Prop where
  valid : UpdateValid current request snapshot
  sent : request.localToRemote = sent
  received : request.remoteToLocal = received
  assetNonce : request.assetNonce = nonce
  virtualTxId : request.virtualTxId = (current.updateTransition snapshot.localBalance
    snapshot.remoteBalance nonce).digest "tap-ldk:asset-virtual-tx:v2"

/-- A request built for amounts the balances cover, with an unused nonce, is valid. -/
theorem buildCommitmentUpdate_ok {sent received number localBalance remoteBalance : UInt64}
    {nonce : Bytes32} (hnumber : checkedAdd current.latestCommitmentNumber 1 = some number)
    (hmoved : current.movedBalances sent received = .ok (localBalance, remoteBalance))
    (hbalances : checkedAdd current.localBalance current.remoteBalance =
      some current.totalAmount)
    (hunused : current.usedAssetNonces[nonce]? = none)
    (hwitness : (AssetVirtualTransition.updateWitness current.assetId nonce).NonZero) :
    ∃ request snapshot, current.buildCommitmentUpdate sent received nonce = .ok request ∧
      Built current sent received nonce request snapshot ∧
      snapshot.localBalance = localBalance ∧ snapshot.remoteBalance = remoteBalance := by
  have hnats := movedBalances_eq_ok hmoved
  have hsum : checkedAdd localBalance remoteBalance = some current.totalAmount := by
    rw [checkedAdd_eq_some] at hbalances ⊢
    omega
  obtain ⟨summary, hvalid⟩ : ∃ summary,
      (current.updateTransition localBalance remoteBalance nonce).validate = .ok summary :=
    AssetVirtualTransition.channelBalanceUpdate_valid (by simp) hsum hwitness
  obtain ⟨tx, htx, heq⟩ : ∃ tx,
      (current.updateTransition localBalance remoteBalance nonce).txId = .ok tx ∧
        tx = (current.updateTransition localBalance remoteBalance nonce).digest
          "tap-ldk:asset-virtual-tx:v2" := by
    rw [AssetVirtualTransition.txId, hvalid]
    exact ⟨_, rfl, rfl⟩
  obtain ⟨digest, hdigest⟩ : ∃ digest,
      (current.updateTransition localBalance remoteBalance nonce).witnessDigest = .ok digest := by
    rw [AssetVirtualTransition.witnessDigest, hvalid]
    exact ⟨_, rfl⟩
  refine ⟨⟨current.channelId, number, sent, received, tx, digest, nonce, expectedAssetSignature
      current.channelId current.assetId current.assetSigningKey number localBalance remoteBalance
      nonce tx digest⟩, ⟨current.channelId, current.assetId, number, localBalance, remoteBalance,
    current.totalAmount, commitmentStateDigest current.channelId current.assetId number
      localBalance remoteBalance⟩, ?_, ⟨?_, rfl, rfl, rfl, heq⟩, rfl, rfl⟩
  · simp only [AssetCommitmentChannelState.buildCommitmentUpdate, hnumber, okOr, hmoved, htx,
      hdigest, ok_bind, Except.mapError]
    rfl
  · constructor
    case number => exact checkedAdd_eq_some.mp hnumber
    case nonce => exact hunused
    case balances => exact hmoved
    case conserved => exact hsum
    case virtualTxId => exact htx
    case witnessDigest => exact hdigest
    all_goals rfl

end Update

/-- A channel that a consistent library funded can be initialised, unless a hash is zero. -/
theorem initializable_of_acceptable {s next : AssetChannelStore}
    {request : AssetChannelFundingRequest} {genesis : String} {root : RootHashSum}
    (h : Acceptable s request genesis)
    (hfund : s.fundChannel acceptingLdk request = .ok (channelOf request genesis root, next))
    (hinitial : sha256 (utf8 "tap-ldk:asset-commitment-initial-proof-history:v1" ++
      utf8 (channelIdOf request) ++ request.assetId.bytes ++ utf8 request.fundingOutpoint ++
      u64Bytes (sumOf (inputs request))) ≠ Bytes32.ZERO) :
    ∃ id, Initializable (channelOf request genesis root) id (historyOf request).transitionId :=
  ⟨_, { funded := funded_of_fundChannel hfund
        channelId := bytes32FromStr_toHex _
        transitionId := bytes32FromStr_toHex _
        recordId := rfl
        outputId := rfl
        total := sumOf_ne_zero h
        anchor := h.anchor
        initial := hinitial
        funding := h.transition }⟩

theorem storeValid_default {ldk : Ldk} :
    CommitmentSteps.StoreValid ldk AssetCommitmentStore.default where
  version := rfl
  key id state h := by simp [AssetCommitmentStore.default] at h
  state id state h := by simp [AssetCommitmentStore.default] at h

/-- The channel of an acceptable request, funded and initialised in empty stores. -/
theorem initialized_of_acceptable {request : AssetChannelFundingRequest} {genesis : String}
    (h : Acceptable .default request genesis)
    (hinitial : sha256 (utf8 "tap-ldk:asset-commitment-initial-proof-history:v1" ++
      utf8 (channelIdOf request) ++ request.assetId.bytes ++ utf8 request.fundingOutpoint ++
      u64Bytes (sumOf (inputs request))) ≠ Bytes32.ZERO) :
    ∃ (c : FundedChannel acceptingLdk) (root : RootHashSum) (id : Bytes32)
      (state : AssetCommitmentChannelState),
      c.channel = channelOf request genesis root ∧
      AssetChannelStore.default.fundChannel acceptingLdk request =
        .ok (c.channel, AssetChannelStore.default.insertChannel c.channel) ∧
      Initializable c.channel id (historyOf request).transitionId ∧
      TakenOver c.channel (historyOf request).transitionId state ∧
      AssetCommitmentStore.default.initializeChannel acceptingLdk c.channel =
        .ok (state, AssetCommitmentStore.default.putChannel c.channel.channelId state) := by
  obtain ⟨root, hfund⟩ := fundChannel_ok ChannelFundingAccepts.storeValid_default h
  obtain ⟨id, hinit⟩ := initializable_of_acceptable h hfund hinitial
  obtain ⟨state, hstate, hcall⟩ := initializeChannel_ok storeValid_default
    (by simp [AssetCommitmentStore.default]) hinit
  exact ⟨⟨_, _, _, _, hfund⟩, root, id, state, rfl, hfund, hinit, hstate, hcall⟩

end TapLdk.CommitmentAccepts
