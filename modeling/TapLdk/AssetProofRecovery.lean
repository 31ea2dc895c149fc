import Mathlib
import TapLdk.AssetRecovery
import TapLdk.ProofHistoryConservation

/-! Recovery of a unilateral close: the history that the recovery of a spend replays, and how
much of it goes to each of the two parties. -/
namespace TapLdk.AssetProofRecovery
open TapLdk.LibraryExcept TapLdk.LibraryMaps TapLdk.LibraryBytes TapLdk.LibrarySha256
open TapLdk.Mssmt TapLdk.Asset TapLdk.ProofHistory TapLdk.ProofHistoryConservation TapLdk.LdkFork
open TapLdk.ChannelFunding TapLdk.Commitment TapLdk.AssetRecovery

inductive NativeAssetProofRecoveryStatus where
  | assetProofRecovered
  | btcOnlyRefused
deriving DecidableEq

structure NativeAssetProofRecoveryReport where
  spendKind : NativeAssetProofRecoverySpendKind
  status : NativeAssetProofRecoveryStatus
  channelId : String
  assetId : Bytes32
  commitmentNumber : UInt64
  btcRecovered : Bool
  assetProofRecovered : Bool
  proofRootHash : Bytes32
  proofRootSum : UInt64
  proofHistoryRecordId : String
  proofHistoryOutputId : String
  proofHistoryTransitionId : Bytes32
  proofHistoryOutputState : String
  proofHistoryReplayed : Bool
  proofHandoffDigest : Bytes32
  sweepOutputDigest : Bytes32
  ldkProofOwnershipDigest : Bytes32
deriving DecidableEq

structure RecoveryProofHistory where
  recordId : String
  outputId : String
  transitionId : Bytes32
  outputState : ProofHistoryState
deriving DecidableEq

def proofHistoryStateName : ProofHistoryState → String
  | .accepted => "accepted"
  | .rejected => "rejected"
  | .unresolved => "unresolved"
  | .pending => "pending"
  | .stale => "stale"
  | .spent => "spent"
  | .channelLocked => "channel_locked"
  | .closed => "closed"
  | .swept => "swept"

section Spend

variable (state : AssetCommitmentChannelState) (spendKind : NativeAssetProofRecoverySpendKind)

def recoveryProofHandoffDigest : Bytes32 :=
  sha256 (utf8 "tap-ldk:native-force-close-proof-handoff:v1" ++ utf8 spendKind.asStr ++
    lengthPrefixed state.channelId ++ state.assetId.bytes ++ u64Bytes state.latestCommitmentNumber ++
    state.monitorBlob.proofRootHash.bytes ++ u64Bytes state.monitorBlob.proofRootSum)

def recoverySweepOutputDigest : Bytes32 :=
  sha256 (utf8 "tap-ldk:native-force-close-sweep-output:v1" ++ utf8 spendKind.asStr ++
    lengthPrefixed state.channelId ++ state.assetId.bytes ++ u64Bytes state.latestCommitmentNumber ++
    u64Bytes state.localBalance ++ u64Bytes state.remoteBalance)

def recoveryPriorInputTransitionId : Bytes32 :=
  sha256 (utf8 "tap-ldk:native-recovery-prior-input:v1" ++ utf8 spendKind.asStr ++
    utf8 state.channelId ++ state.assetId.bytes ++ u64Bytes state.totalAmount)

def recoveryUnilateralTransitionId {D : Type} (own : LdkOwnership D)
    (prepared : own.ProofOwnershipState) : Bytes32 :=
  sha256 (utf8 "tap-ldk:native-recovery-unilateral-close:v1" ++ utf8 spendKind.asStr ++
    utf8 state.channelId ++ state.assetId.bytes ++ u64Bytes state.latestCommitmentNumber ++
    (own.proofHandoffDigest prepared).bytes ++ (own.sweepOutputDigest prepared).bytes)

def recoveryTerminalTransitionId {D : Type} (own : LdkOwnership D)
    (prepared : own.ProofOwnershipState) : Bytes32 :=
  sha256 (utf8 "tap-ldk:native-recovery-terminal:v1" ++ utf8 spendKind.asStr ++
    utf8 state.channelId ++ state.assetId.bytes ++ u64Bytes state.latestCommitmentNumber ++
    (own.ownershipDigest prepared).bytes)

/-- A number in decimal, with zeros before it up to a width. -/
def zeroPadded (width n : ℕ) : String :=
  let digits := toString n
  String.ofList (List.replicate (width - digits.length) '0') ++ digits

def recoveryScriptKey : Except NativeAssetRecoveryError CompressedKey :=
  let seed : ℕ := match spendKind with
    | .commitment => 41
    | .secondLevelHtlc => 42
    | .finalSweep => 43
  let parity := if seed % 2 = 0 then "02" else "03"
  (compressedKeyFromStr (parity ++ zeroPadded 64 seed)).mapError .asset

def recoveryAnchorOutpoint : String :=
  let digest : Bytes32 := sha256 (utf8 "tap-ldk:native-recovery-anchor:v1" ++
    utf8 spendKind.asStr ++ utf8 state.channelId ++ state.assetId.bytes ++
    u64Bytes state.latestCommitmentNumber)
  s!"{toHex digest}:{spendKind.asU8}"

def recoveryRoot : Except NativeAssetRecoveryError RootHashSum := do
  let scriptKey ← recoveryScriptKey spendKind
  (deriveHashSumRoot [⟨state.assetId, scriptKey, state.totalAmount⟩]).mapError .asset

def parseChannelId (channelId : String) : Except NativeAssetRecoveryError Bytes32 :=
  (bytes32FromStr channelId).mapError .asset

def buildLdkProofOwnershipState {D : Type} (own : LdkOwnership D)
    (btcRecovered assetProofRecovered : Bool) :
    Except NativeAssetRecoveryError own.ProofOwnershipState := do
  let channelId ← parseChannelId state.channelId
  (own.newProofOwnershipState
    { channelId
      assetId := state.assetId
      commitmentNumber := state.latestCommitmentNumber
      spendKind := spendKind.asLdkSpendKind own
      btcRecovered
      assetProofRecovered
      proofRootHash := state.monitorBlob.proofRootHash
      proofRootSum := state.monitorBlob.proofRootSum
      proofHandoffDigest := recoveryProofHandoffDigest state spendKind
      sweepOutputDigest := recoverySweepOutputDigest state spendKind }).mapError .ldkProofOwnership

def proofOwnershipExpectation {D : Type} (own : LdkOwnership D) :
    Except NativeAssetRecoveryError TaprootAssetProofOwnershipExpectation := do
  let channelId ← (parseChannelId state.channelId).mapError fun _ =>
    .panicked "smoke channel IDs are fixed 32-byte hex values"
  pure
    { channelId
      assetId := state.assetId
      latestCommitmentNumber := state.latestCommitmentNumber
      spendKind := spendKind.asLdkSpendKind own
      proofRootHash := state.monitorBlob.proofRootHash
      proofRootSum := state.monitorBlob.proofRootSum
      requireAssetProof := true }

/-- The record of ownership that the library has validated and prepared. -/
def preparedOwnership (ldk : Ldk) (own : LdkOwnership ldk.ChannelDescriptor) :
    Except NativeAssetRecoveryError own.ProofOwnershipState := do
  let ldkState ← buildLdkProofOwnershipState state spendKind own true true
  let expected ← proofOwnershipExpectation state spendKind own
  (own.validateAssetProofOwnershipRecovery (some ldkState) expected).mapError .ldkProofOwnership
  let descriptor ← (ldk.newChannelDescriptor state.assetId ldk.supportedProtocolVersion).mapError
    fun _ => .ldkProofOwnership .assetIdMismatch
  (own.prepareAssetProofOwnershipRecovery descriptor ldkState).mapError .ldkProofOwnership

/-- An id of the recovery, named by the channel and the kind of spend. -/
def recoveryId (name : String) : String := s!"{name}:{state.channelId}:{spendKind.asStr}"

def recoveryProofHistoryMetadata {D : Type} (own : LdkOwnership D)
    (prepared : own.ProofOwnershipState) : RecoveryProofHistory :=
  match spendKind with
  | .commitment =>
    { recordId := recoveryId state spendKind "native-asset-recovery-unilateral-close"
      outputId := recoveryId state spendKind "native-asset-recovery-unilateral-output"
      transitionId := recoveryUnilateralTransitionId state spendKind own prepared
      outputState := .closed }
  | .secondLevelHtlc =>
    { recordId := recoveryId state spendKind "native-asset-recovery-second-level"
      outputId := recoveryId state spendKind "native-asset-recovery-second-level-output"
      transitionId := recoveryTerminalTransitionId state spendKind own prepared
      outputState := .closed }
  | .finalSweep =>
    { recordId := recoveryId state spendKind "native-asset-recovery-sweep"
      outputId := recoveryId state spendKind "native-asset-recovery-sweep-output"
      transitionId := recoveryTerminalTransitionId state spendKind own prepared
      outputState := .swept }

def recoveryTerminalTransitionKind : ProofTransitionKind :=
  match spendKind with
  | .commitment => .unilateralClose
  | .secondLevelHtlc => .secondLevelHtlc
  | .finalSweep => .sweep

/-- An output of the whole channel. -/
def recoveryOutput (outputId : String) (scriptKey : CompressedKey) (anchorOutpoint : String)
    (root : RootHashSum) (resultingState : ProofHistoryState) : ProofHistoryOutput :=
  ⟨outputId, state.assetId, state.totalAmount, scriptKey, anchorOutpoint, root, resultingState⟩

def priorInputId : String := recoveryId state spendKind "native-asset-recovery-prior-input"

def unilateralOutputId : String :=
  recoveryId state spendKind "native-asset-recovery-unilateral-output"

def priorInputRecord (root : RootHashSum) : ProofHistoryRecord :=
  ⟨priorInputId state spendKind, .issuance, recoveryPriorInputTransitionId state spendKind, [],
    [recoveryOutput state (priorInputId state spendKind) state.assetSigningKey state.fundingOutpoint
      root .accepted]⟩

def priorChannelRecord (root : RootHashSum) : ProofHistoryRecord :=
  ⟨recoveryId state spendKind "native-asset-recovery-prior-channel", .channelFunding,
    state.latestProofHistoryTransitionId, [⟨priorInputId state spendKind⟩],
    [recoveryOutput state state.latestProofHistoryOutputId state.assetSigningKey
      state.fundingOutpoint root .channelLocked]⟩

def unilateralCloseRecord {D : Type} (own : LdkOwnership D) (prepared : own.ProofOwnershipState)
    (scriptKey : CompressedKey) (root : RootHashSum) : ProofHistoryRecord :=
  ⟨recoveryId state spendKind "native-asset-recovery-unilateral-close", .unilateralClose,
    recoveryUnilateralTransitionId state spendKind own prepared,
    [⟨state.latestProofHistoryOutputId⟩],
    [recoveryOutput state (unilateralOutputId state spendKind) scriptKey
      (recoveryAnchorOutpoint state spendKind) root .closed]⟩

/-- The record of a spend of the closed output. -/
def terminalRecord (history : RecoveryProofHistory) (kind : ProofTransitionKind)
    (scriptKey : CompressedKey) (root : RootHashSum) (resultingState : ProofHistoryState) :
    ProofHistoryRecord :=
  ⟨history.recordId, kind, history.transitionId, [⟨unilateralOutputId state spendKind⟩],
    [recoveryOutput state history.outputId scriptKey (recoveryAnchorOutpoint state spendKind) root
      resultingState]⟩

def recoveryProofHistoryRecords {D : Type} (own : LdkOwnership D)
    (prepared : own.ProofOwnershipState) :
    Except NativeAssetRecoveryError (List ProofHistoryRecord) := do
  let priorRoot ← (deriveHashSumRoot
    [⟨state.assetId, state.assetSigningKey, state.totalAmount⟩]).mapError .asset
  let root ← recoveryRoot state spendKind
  let scriptKey ← recoveryScriptKey spendKind
  let records := [priorInputRecord state spendKind priorRoot,
    priorChannelRecord state spendKind priorRoot,
    unilateralCloseRecord state spendKind own prepared scriptKey root]
  let history := recoveryProofHistoryMetadata state spendKind own prepared
  match spendKind with
  | .commitment => pure records
  | .secondLevelHtlc =>
    pure (records ++ [terminalRecord state .secondLevelHtlc history .secondLevelHtlc scriptKey root
      .closed])
  | .finalSweep =>
    pure (records ++ [terminalRecord state .finalSweep history .sweep scriptKey root .swept])

/-- The replay that a recovery makes. -/
def recoveryReplay {D : Type} (own : LdkOwnership D) (prepared : own.ProofOwnershipState) :
    Except NativeAssetRecoveryError ProofHistoryReplay := do
  let records ← recoveryProofHistoryRecords state spendKind own prepared
  (replay records).mapError .proofHistory

def validateRecoveryProofHistory {D : Type} (own : LdkOwnership D)
    (prepared : own.ProofOwnershipState) :
    Except NativeAssetRecoveryError RecoveryProofHistory := do
  let replay ← recoveryReplay state spendKind own prepared
  let history := recoveryProofHistoryMetadata state spendKind own prepared
  let explanation ← okOr (replay.acceptedExplanation history.outputId)
    (.proofHistoryDoesNotMatchRecovery spendKind)
  let scriptKey ← recoveryScriptKey spendKind
  let root ← recoveryRoot state spendKind
  rejectIf (explanation.transitionKind ≠ recoveryTerminalTransitionKind spendKind ∨
    explanation.virtualTransitionId ≠ history.transitionId ∨
    explanation.resultingState ≠ history.outputState ∨ explanation.assetId ≠ state.assetId ∨
    explanation.amount ≠ state.totalAmount ∨ explanation.scriptKey ≠ scriptKey ∨
    explanation.anchorOutpoint ≠ recoveryAnchorOutpoint state spendKind ∨
    explanation.tapAssetRoot ≠ root) (.proofHistoryDoesNotMatchRecovery spendKind)
  pure history

def recoverAssetProofOwnership (ldk : Ldk) (own : LdkOwnership ldk.ChannelDescriptor) :
    Except NativeAssetRecoveryError NativeAssetProofRecoveryReport := do
  let prepared ← preparedOwnership state spendKind ldk own
  let history ← validateRecoveryProofHistory state spendKind own prepared
  pure
    { spendKind
      status := .assetProofRecovered
      channelId := state.channelId
      assetId := state.assetId
      commitmentNumber := state.latestCommitmentNumber
      btcRecovered := own.btcRecovered prepared
      assetProofRecovered := own.assetProofRecovered prepared
      proofRootHash := state.monitorBlob.proofRootHash
      proofRootSum := state.monitorBlob.proofRootSum
      proofHistoryRecordId := history.recordId
      proofHistoryOutputId := history.outputId
      proofHistoryTransitionId := history.transitionId
      proofHistoryOutputState := proofHistoryStateName history.outputState
      proofHistoryReplayed := true
      proofHandoffDigest := own.proofHandoffDigest prepared
      sweepOutputDigest := own.sweepOutputDigest prepared
      ldkProofOwnershipDigest := own.ownershipDigest prepared }

end Spend

/-- One explanation is left: that of an output. -/
structure OnlyOutput (s : ReplayState) (o : ProofHistoryOutput) : Prop where
  explanations : ∃ e, s.explanations = (∅ : BTreeMap String _).insert o.outputId e ∧
    e.assetId = o.assetId ∧ e.amount = o.amount ∧ e.scriptKey = o.scriptKey
  positive : o.amount ≠ 0

variable {policy : ProofAnchorPolicy} {record : ProofHistoryRecord} {s s' : ReplayState}
  {o before : ProofHistoryOutput} {done : List ProofHistoryRecord}

theorem only_issued (hin : record.inputs = []) (hout : record.outputs = [o])
    (h : replayRecord policy .empty record = .ok s') : Ledger [record] s' ∧ OnlyOutput s' o := by
  obtain ⟨priors, hstep⟩ := replayRecord_step ledger_empty.keyed h
  have hledger : Ledger ([] ++ [record]) s' := ledger_step ledger_empty hstep
  refine ⟨hledger, ⟨explanationOf record policy priors o, ?_, rfl, rfl, rfl⟩,
    (hstep.output o (by simp [hout])).amount⟩
  rw [hstep.maps]
  simp [ProofHistoryRecord.inputIds, hin, ProofHistoryRecord.entries, hout, insertAll, eraseAll,
    ReplayState.empty]

theorem only_moved (hledger : Ledger done s) (hbefore : OnlyOutput s before)
    (hin : record.inputs = [⟨before.outputId⟩]) (hout : record.outputs = [o])
    (h : replayRecord policy s record = .ok s') :
    Ledger (done ++ [record]) s' ∧ OnlyOutput s' o := by
  obtain ⟨priors, hstep⟩ := replayRecord_step hledger.keyed h
  obtain ⟨e, he, -⟩ := hbefore.explanations
  have herase : ((∅ : BTreeMap String _).insert before.outputId e).erase before.outputId = ∅ :=
    erase_insert_of_none (by simp)
  refine ⟨ledger_step hledger hstep, ⟨explanationOf record policy priors o, ?_, rfl, rfl, rfl⟩,
    (hstep.output o (by simp [hout])).amount⟩
  rw [hstep.maps]
  simp [ProofHistoryRecord.inputIds, hin, ProofHistoryRecord.entries, hout, insertAll, eraseAll,
    he, herase]

/-- A history that issues one output and moves it whole from record to record. -/
inductive MovesWhole : List ProofHistoryRecord → ProofHistoryOutput → Prop
  | issued {record : ProofHistoryRecord} {o : ProofHistoryOutput} (hin : record.inputs = [])
      (hout : record.outputs = [o]) : MovesWhole [record] o
  | moved {records : List ProofHistoryRecord} {record : ProofHistoryRecord}
      {before o : ProofHistoryOutput} (h : MovesWhole records before)
      (hin : record.inputs = [⟨before.outputId⟩]) (hout : record.outputs = [o]) :
      MovesWhole (records ++ [record]) o

/-- The last output is all that such a history explains. -/
theorem only_last {records : List ProofHistoryRecord} (h : MovesWhole records o)
    (hreplay : replayState records policy = .ok s) : Ledger records s ∧ OnlyOutput s o := by
  induction h generalizing s with
  | issued hin hout =>
    simp only [replayState, List.foldlM_cons, List.foldlM_nil, bind_eq_ok, pure_eq_ok,
      Except.ok.injEq, exists_eq_right] at hreplay
    exact only_issued hin hout hreplay
  | moved h hin hout ih =>
    rw [replayState, foldlM_concat, bind_eq_ok] at hreplay
    obtain ⟨mid, hmid, hrecord⟩ := hreplay
    obtain ⟨hledger, honly⟩ := ih hmid
    exact only_moved hledger honly hin hout hrecord

section Shares

variable {state : AssetCommitmentChannelState} {spendKind : NativeAssetProofRecoverySpendKind}

theorem recoveryProofHistoryRecords_spec {D : Type} {own : LdkOwnership D}
    {prepared : own.ProofOwnershipState} {records : List ProofHistoryRecord}
    (h : recoveryProofHistoryRecords state spendKind own prepared = .ok records) :
    ∃ o, MovesWhole records o ∧ o.assetId = state.assetId ∧ o.amount = state.totalAmount := by
  simp only [recoveryProofHistoryRecords, bind_eq_ok, mapError_eq_ok] at h
  obtain ⟨priorRoot, -, root, -, scriptKey, -, h⟩ := h
  cases spendKind with
  | commitment =>
    obtain rfl := Except.ok.inj h
    exact ⟨_, .moved (.moved (.issued rfl rfl) rfl rfl) rfl rfl, rfl, rfl⟩
  | secondLevelHtlc =>
    obtain rfl := Except.ok.inj h
    exact ⟨_, .moved (.moved (.moved (.issued rfl rfl) rfl rfl) rfl rfl) rfl rfl, rfl, rfl⟩
  | finalSweep =>
    obtain rfl := Except.ok.inj h
    exact ⟨_, .moved (.moved (.moved (.issued rfl rfl) rfl rfl) rfl rfl) rfl rfl, rfl, rfl⟩

/-- A recovery leaves one output, of everything in the channel. -/
theorem recoveryReplay_single {D : Type} {own : LdkOwnership D} {prepared : own.ProofOwnershipState}
    {replay : ProofHistoryReplay}
    (h : recoveryReplay state spendKind own prepared = .ok replay) :
    ∃ e, replay.acceptedExplanations = [e] ∧ e.assetId = state.assetId ∧
      e.amount = state.totalAmount ∧ state.totalAmount ≠ 0 := by
  simp only [recoveryReplay, ProofHistory.replay, replayWithAnchorPolicy, bind_eq_ok,
    mapError_eq_ok, pure_eq_ok, Except.ok.injEq] at h
  obtain ⟨records, hrecords, s, hs, rfl⟩ := h
  obtain ⟨o, hmoves, hasset, hamount⟩ := recoveryProofHistoryRecords_spec hrecords
  obtain ⟨-, honly⟩ := only_last hmoves hs
  obtain ⟨e, he, heasset, heamount, -⟩ := honly.explanations
  refine ⟨e, ?_, heasset.trans hasset, heamount.trans hamount, hamount ▸ honly.positive⟩
  simp [ProofHistoryReplay.acceptedExplanations, he]

/-- What a balance is paid out as. -/
def share (balance : UInt64) : List UInt64 := if balance = 0 then [] else [balance]

/-- The outputs are one of the local and one of the remote balance, under different keys. -/
structure KeepsShares (state : AssetCommitmentChannelState)
    (outputs : List AcceptedBalanceExplanation) : Prop where
  assetId : ∀ e ∈ outputs, e.assetId = state.assetId
  amounts : (outputs.map (·.amount)).Perm (share state.localBalance ++ share state.remoteBalance)
  keys : outputs.Pairwise fun a b => a.scriptKey ≠ b.scriptKey

theorem keepsShares_single_iff {e : AcceptedBalanceExplanation} (hasset : e.assetId = state.assetId)
    (hamount : e.amount = state.totalAmount) (hpositive : state.totalAmount ≠ 0)
    (hsum : state.localBalance.toNat + state.remoteBalance.toNat = state.totalAmount.toNat) :
    KeepsShares state [e] ↔ state.localBalance = 0 ∨ state.remoteBalance = 0 := by
  constructor
  · intro h
    by_contra hboth
    rw [not_or] at hboth
    have hlength := h.amounts.length_eq
    simp [share, hboth.1, hboth.2] at hlength
  · intro hzero
    have hshares : share state.localBalance ++ share state.remoteBalance = [e.amount] := by
      rcases hzero with hzero | hzero
      · have hremote : state.remoteBalance = state.totalAmount := by
          rw [hzero] at hsum
          exact UInt64.toNat_inj.mp (by simpa using hsum)
        simp [share, hzero, hremote, hpositive, hamount]
      · have hlocal : state.localBalance = state.totalAmount := by
          rw [hzero] at hsum
          exact UInt64.toNat_inj.mp (by simpa using hsum)
        simp [share, hzero, hlocal, hpositive, hamount]
    exact ⟨by simpa using hasset, by rw [hshares]; rfl, List.pairwise_singleton _ _⟩

end Shares

end TapLdk.AssetProofRecovery
