import Mathlib
import TapLdk.AssetProofRecovery
import TapLdk.RegtestChannel
import TapLdk.RegtestRoot

/-! Whom a unilateral recovery pays: everything goes to one key, so that the two shares are kept
only where one of them is nothing. -/
namespace TapLdk.AssetProofRecoveryShares
open TapLdk.LibraryExcept TapLdk.LibraryMaps TapLdk.LibraryBytes TapLdk.LibrarySha256
open TapLdk.LibraryRuns TapLdk.Mssmt TapLdk.Asset TapLdk.Proof TapLdk.ProofHistory
open TapLdk.ProofHistoryReplay TapLdk.LdkFork TapLdk.ChannelFunding TapLdk.ChannelFundingSpec
open TapLdk.ChannelFundingAccepts TapLdk.Commitment TapLdk.CommitmentSteps TapLdk.CommitmentStory
open TapLdk.AssetRecovery TapLdk.AssetProofRecovery TapLdk.RegtestChannel TapLdk.RegtestRoot

/-- The ownership record of a commitment spend, as the accepting library keeps it. -/
def ownershipOf (state : AssetCommitmentChannelState) (id : Bytes32) :
    TaprootAssetProofOwnershipFields where
  channelId := id
  assetId := state.assetId
  commitmentNumber := state.latestCommitmentNumber
  spendKind := 0
  btcRecovered := true
  assetProofRecovered := true
  proofRootHash := state.monitorBlob.proofRootHash
  proofRootSum := state.monitorBlob.proofRootSum
  proofHandoffDigest := recoveryProofHandoffDigest state .commitment
  sweepOutputDigest := recoverySweepOutputDigest state .commitment

def recoveryKey : CompressedKey :=
  ⟨beBytes 33 0x030000000000000000000000000000000000000000000000000000000000000041,
    beBytes_length ..⟩

theorem recoveryScriptKey_commitment : recoveryScriptKey .commitment = .ok recoveryKey := by
  decide +kernel

/-- A state whose commitment spend has valid ids, anchors and transitions. -/
structure Recoverable (state : AssetCommitmentChannelState) (id : Bytes32) : Prop where
  parsed : bytes32FromStr state.channelId = .ok id
  total : state.totalAmount ≠ 0
  funding : ∃ p, outpointOf state.fundingOutpoint = some p
  anchor : ∃ p, outpointOf (recoveryAnchorOutpoint state .commitment) = some p
  output : state.latestProofHistoryOutputId ≠ ""
  notPrior : state.latestProofHistoryOutputId ≠ priorInputId state .commitment
  notClosed : state.latestProofHistoryOutputId ≠ unilateralOutputId state .commitment
  issued : recoveryPriorInputTransitionId state .commitment ≠ Bytes32.ZERO
  locked : state.latestProofHistoryTransitionId ≠ Bytes32.ZERO
  closed : recoveryUnilateralTransitionId state .commitment acceptingOwnership
    (ownershipOf state id) ≠ Bytes32.ZERO

theorem recoveryId_ne {state : AssetCommitmentChannelState}
    {spendKind : NativeAssetProofRecoverySpendKind} {a b : String} (h : a ≠ b) :
    recoveryId state spendKind a ≠ recoveryId state spendKind b := by
  simpa only [recoveryId, toString_string, ne_eq, String.append_left_inj] using h

theorem recoveryId_ne_empty (state : AssetCommitmentChannelState)
    (spendKind : NativeAssetProofRecoverySpendKind) (a : String) :
    recoveryId state spendKind a ≠ "" := by
  simp [recoveryId, toString_string]

section Recovers

variable {state : AssetCommitmentChannelState} {id : Bytes32}

theorem preparedOwnership_ok (h : Recoverable state id) :
    preparedOwnership state .commitment acceptingLdk acceptingOwnership =
      .ok (ownershipOf state id) := by
  simp [preparedOwnership, buildLdkProofOwnershipState, proofOwnershipExpectation,
    AssetProofRecovery.parseChannelId, h.parsed, Except.mapError, acceptingOwnership, acceptingLdk, validateAcceptedOwnership, rejectIf,
    TaprootAssetProofOwnershipFields.Meets, ownershipOf,
    NativeAssetProofRecoverySpendKind.asLdkSpendKind]

theorem recoveryProofHistoryRecords_ok (h : Recoverable state id) :
    recoveryProofHistoryRecords state .commitment acceptingOwnership (ownershipOf state id) =
      .ok [priorInputRecord state .commitment (singleRoot ⟨state.assetId, state.assetSigningKey,
          state.totalAmount⟩),
        priorChannelRecord state .commitment (singleRoot ⟨state.assetId, state.assetSigningKey,
          state.totalAmount⟩),
        unilateralCloseRecord state .commitment acceptingOwnership (ownershipOf state id) recoveryKey
          (singleRoot ⟨state.assetId, recoveryKey, state.totalAmount⟩)] := by
  have hprior := @deriveHashSumRoot_single ⟨state.assetId, state.assetSigningKey,
    state.totalAmount⟩ h.total
  have hroot := @deriveHashSumRoot_single ⟨state.assetId, recoveryKey, state.totalAmount⟩
    h.total
  simp [recoveryProofHistoryRecords, recoveryRoot, recoveryScriptKey_commitment, hprior, hroot,
    Except.mapError]

/-- The three records replay, and the last output is explained as the last record left it. -/
theorem recoveryReplay_ok (h : Recoverable state id) : ∃ replay priors,
    recoveryReplay state .commitment acceptingOwnership (ownershipOf state id) = .ok replay ∧
      replay.acceptedExplanation (unilateralOutputId state .commitment) = some (explanationOf
        (unilateralCloseRecord state .commitment acceptingOwnership (ownershipOf state id) recoveryKey
          (singleRoot ⟨state.assetId, recoveryKey, state.totalAmount⟩)) regtestPolicy priors
        (recoveryOutput state (unilateralOutputId state .commitment) recoveryKey
          (recoveryAnchorOutpoint state .commitment)
          (singleRoot ⟨state.assetId, recoveryKey, state.totalAmount⟩) .closed)) := by
  set root := singleRoot ⟨state.assetId, state.assetSigningKey, state.totalAmount⟩ with hroot
  set closedRoot := singleRoot ⟨state.assetId, recoveryKey, state.totalAmount⟩ with hclosedRoot
  have hissued : Admissible regtestPolicy [] (priorInputRecord state .commitment root) :=
    admissible_issue rfl rfl rfl (recoveryId_ne_empty _ _ _) (by simp) h.issued
      ⟨recoveryId_ne_empty _ _ _, rfl, h.total, h.funding, hroot⟩ (by simp [createdIds])
      (regtest_accepts _)
  have hlocked : Admissible regtestPolicy [priorInputRecord state .commitment root]
      (priorChannelRecord state .commitment root) :=
    admissible_move (by simp [priorChannelRecord]) rfl rfl (recoveryId_ne_empty _ _ _)
      (by simpa [priorInputRecord, priorChannelRecord, priorInputId] using
        recoveryId_ne (by decide)) h.locked
      List.mem_cons_self List.mem_cons_self rfl rfl rfl ⟨h.output, rfl, h.total, h.funding, hroot⟩
      (by simpa [createdIds, ProofHistoryRecord.outputIds, priorInputRecord, recoveryOutput] using
        h.notPrior) (regtest_accepts _)
  have hclosed : Admissible regtestPolicy [priorInputRecord state .commitment root,
      priorChannelRecord state .commitment root] (unilateralCloseRecord state .commitment
        acceptingOwnership (ownershipOf state id) recoveryKey closedRoot) := by
    have hnotPrior : unilateralOutputId state .commitment ≠ priorInputId state .commitment :=
      recoveryId_ne (by decide)
    refine admissible_move (by simp [unilateralCloseRecord]) rfl rfl (recoveryId_ne_empty _ _ _) ?_
      h.closed (List.mem_cons_of_mem _ List.mem_cons_self) List.mem_cons_self rfl rfl rfl
      ⟨recoveryId_ne_empty _ _ _, rfl, h.total, h.anchor, hclosedRoot⟩ ?_ (regtest_accepts _)
    · simpa [priorInputRecord, priorChannelRecord, unilateralCloseRecord, priorInputId] using
        ⟨recoveryId_ne (by decide), recoveryId_ne (by decide)⟩
    · simpa [createdIds, ProofHistoryRecord.outputIds, priorInputRecord, priorChannelRecord,
        recoveryOutput] using ⟨hnotPrior, h.notClosed.symm⟩
  obtain ⟨s, hs, hreplayed⟩ := replayState_ok (admissible_cons hissued (admissible_cons hlocked
    (admissible_cons hclosed (admissible_nil _))))
  have hlast : unilateralCloseRecord state .commitment acceptingOwnership (ownershipOf state id)
      recoveryKey closedRoot ∈ [priorInputRecord state .commitment root, priorChannelRecord state
        .commitment root, unilateralCloseRecord state .commitment acceptingOwnership
          (ownershipOf state id) recoveryKey closedRoot] := by
    simp
  obtain ⟨priors, -, hexplained⟩ := explained hreplayed hlast (List.mem_cons_self) (by
        simpa [consumedIds, ProofHistoryRecord.inputIds, priorInputRecord, priorChannelRecord,
          unilateralCloseRecord, recoveryOutput] using
            ⟨recoveryId_ne (by decide), h.notClosed.symm⟩)
  refine ⟨⟨s.explanations, s.states⟩, priors, ?_, hexplained⟩
  simp only [recoveryReplay, recoveryProofHistoryRecords_ok h, ok_bind, mapError_eq_ok]
  exact replay_eq_ok.mpr ⟨s, hs, rfl⟩

theorem recovers_ok (h : Recoverable state id) : ∃ report,
    recoverAssetProofOwnership state .commitment acceptingLdk acceptingOwnership = .ok report := by
  obtain ⟨replay, priors, hreplay, hexplained⟩ := recoveryReplay_ok h
  have hroot := @deriveHashSumRoot_single ⟨state.assetId, recoveryKey, state.totalAmount⟩
    h.total
  have hvalid : validateRecoveryProofHistory state .commitment acceptingOwnership
      (ownershipOf state id) = .ok (recoveryProofHistoryMetadata state .commitment acceptingOwnership
        (ownershipOf state id)) := by
    have hroot : recoveryRoot state .commitment = .ok (singleRoot ⟨state.assetId, recoveryKey,
        state.totalAmount⟩) := by
      rw [recoveryRoot, recoveryScriptKey_commitment, ok_bind, hroot]
      rfl
    simp only [validateRecoveryProofHistory, bind_eq_ok, okOr_eq_ok, rejectIf_eq_ok, not_or, ne_eq,
      not_not, pure_eq_ok]
    exact ⟨replay, hreplay, _, hexplained, _, recoveryScriptKey_commitment, _, hroot, (),
      ⟨rfl, rfl, rfl, rfl, rfl, rfl, rfl, rfl⟩, trivial⟩
  simp only [recoverAssetProofOwnership, bind_eq_ok]
  exact ⟨_, _, preparedOwnership_ok h, _, hvalid, rfl⟩

end Recovers

section Regtest

variable {state : AssetCommitmentChannelState} {id transition : Bytes32}
  {localBalance remoteBalance number : UInt64} {output : String}

/-- The outputs of a commitment are none of those that a recovery adds. -/
theorem output_ne_recoveryId {name : String} (h : ∃ x, output = "asset-" ++ x)
    (hname : ∃ x, name = "native-" ++ x) : output ≠ recoveryId state .commitment name := by
  obtain ⟨x, rfl⟩ := h
  obtain ⟨y, rfl⟩ := hname
  intro heq
  have hchars := congrArg String.toList heq
  simp [recoveryId, toString_string] at hchars

theorem regtest_recoverable (h : RegtestState localBalance remoteBalance number output transition
      state) (hparsed : bytes32FromStr regtestChannelId = .ok id)
    (houtput : ∃ x, output = "asset-" ++ x) (htransition : transition ≠ Bytes32.ZERO)
    (hanchor : outpointOf (recoveryAnchorOutpoint state .commitment) ≠ none)
    (hclosed : recoveryUnilateralTransitionId state .commitment acceptingOwnership
      (ownershipOf state id) ≠ Bytes32.ZERO) : Recoverable state id := by
  constructor
  case parsed => rwa [h.channelId]
  case total =>
    rw [h.total]
    decide
  case funding =>
    rw [h.fundingOutpoint]
    exact Option.ne_none_iff_exists'.mp (by decide +kernel)
  case anchor => exact Option.ne_none_iff_exists'.mp hanchor
  case output =>
    obtain ⟨x, rfl⟩ := houtput
    rw [h.output]
    simp
  case notPrior =>
    rw [h.output]
    exact output_ne_recoveryId houtput ⟨"asset-recovery-prior-input", by decide +kernel⟩
  case notClosed =>
    rw [h.output]
    exact output_ne_recoveryId houtput ⟨"asset-recovery-unilateral-output", by decide +kernel⟩
  case issued =>
    simp only [recoveryPriorInputTransitionId, h.channelId, h.assetId, h.total]
    decide +kernel
  case locked => rwa [h.transition]
  case closed => exact hclosed

theorem before_recoverable (h : RegtestState 1000000 1000000 0 fundingOutput regtestTransition state)
    (hroot : state.monitorBlob.fundingRoot = ⟨group0.hash, 2000000⟩)
    (hparsed : bytes32FromStr regtestChannelId = .ok id)
    (htransition : regtestTransition ≠ Bytes32.ZERO) : Recoverable state id := by
  obtain ⟨hrootHash, hrootSum⟩ := RootHashSum.mk.inj hroot
  have hanchor : recoveryAnchorOutpoint state .commitment =
      "28071dfff7f43b599d20a14e93894457a022dab5a5094ad1842c6e04aeee3124:0" := by
    simp only [recoveryAnchorOutpoint, h.channelId, h.assetId, h.number]
    decide +kernel
  refine regtest_recoverable h hparsed ⟨"channel-funding-output:" ++ regtestChannelId, by decide +kernel⟩
    htransition ?_ ?_
  · rw [hanchor]
    decide +kernel
  · simp only [recoveryUnilateralTransitionId, acceptingOwnership, ownershipOf,
      recoveryProofHandoffDigest, recoverySweepOutputDigest, h.channelId, h.assetId, h.number,
      h.localBalance, h.remoteBalance, hrootHash, hrootSum]
    decide +kernel

theorem drained_recoverable (h : RegtestState 0 2000000 1 (firstOutput 0 2000000 drainTxId) drainTxId
      state) (hroot : state.monitorBlob.fundingRoot = ⟨group0.hash, 2000000⟩)
    (hparsed : bytes32FromStr regtestChannelId = .ok id) : Recoverable state id := by
  obtain ⟨hrootHash, hrootSum⟩ := RootHashSum.mk.inj hroot
  have hanchor : recoveryAnchorOutpoint state .commitment =
      "226741d3b069a2b319c5334fb3cdca3c387200e43eb011bdf03de9718fb77d28:0" := by
    simp only [recoveryAnchorOutpoint, h.channelId, h.assetId, h.number]
    decide +kernel
  refine regtest_recoverable h hparsed (firstOutput_asset ..) (by decide) ?_ ?_
  · rw [hanchor]
    decide +kernel
  · simp only [recoveryUnilateralTransitionId, acceptingOwnership, ownershipOf,
      recoveryProofHandoffDigest, recoverySweepOutputDigest, h.channelId, h.assetId, h.number,
      h.localBalance, h.remoteBalance, hrootHash, hrootSum]
    decide +kernel

end Regtest

theorem regtest_root {c : FundedChannel acceptingLdk} {root : RootHashSum} {id : Bytes32}
    {state updated : AssetCommitmentChannelState} {request : AssetCommitmentUpdateRequest}
    {snapshot : AssetCommitmentSnapshot} (h : RegtestRun c root id state updated request snapshot) :
    state.monitorBlob.fundingRoot = ⟨group0.hash, 2000000⟩ := by
  have hget : (AssetChannelStore.default.insertChannel c.channel).channels[c.channel.channelId]? =
      some c.channel := get_insert_self ..
  have hvalid := (fundChannel_spec h.funds).valid.channel _ _ hget
  rw [h.takenOver.funded.root]
  simp only [AssetChannelStore.validateChannel, StoredAssetChannel.validateFields, bind_eq_ok,
    rejectIf_eq_ok, okOr_eq_ok, exists_const, ne_eq, not_not] at hvalid
  obtain ⟨-, ⟨-, -, _, -, -, -, commitment, hcommitment, hroot, -⟩, -⟩ := hvalid
  rw [h.channel] at hcommitment hroot ⊢
  exact hroot.trans (fundingRoot_eq hcommitment)

/-- The initialised regtest channel, which shares two million units evenly, is recovered. -/
theorem regtest_recovered : ∃ (c : FundedChannel acceptingLdk) (state : AssetCommitmentChannelState)
    (report : NativeAssetProofRecoveryReport),
    ((commitmentMachine acceptingLdk).run [.initializeChannel c]).channels[regtestChannelId]? =
      some state ∧ state.localBalance = 1000000 ∧ state.remoteBalance = 1000000 ∧
    recoverAssetProofOwnership state .commitment acceptingLdk acceptingOwnership = .ok report := by
  obtain ⟨c, root, id, state, updated, request, snapshot, h⟩ := regtest_run
  obtain ⟨report, hreport⟩ :=
    recovers_ok (before_recoverable h.before (regtest_root h) h.parsed h.transition)
  exact ⟨c, state, report, regtest_held h, h.before.localBalance, h.before.remoteBalance, hreport⟩

/-- So is the channel after one side has sent all it had. -/
theorem drained_recovered : ∃ (c : FundedChannel acceptingLdk) (u : AssetCommitmentUpdateRequest)
    (state : AssetCommitmentChannelState) (report : NativeAssetProofRecoveryReport),
    ((commitmentMachine acceptingLdk).run ([.initializeChannel c] ++ [.applyUpdate u])).channels[
      regtestChannelId]? = some state ∧ state.localBalance = 0 ∧
    recoverAssetProofOwnership state .commitment acceptingLdk acceptingOwnership = .ok report := by
  obtain ⟨c, root, id, state, updated, request, snapshot, h⟩ := regtest_run
  obtain ⟨u, _, drained, hdrains⟩ := h.drains
  have hheld : ((commitmentMachine acceptingLdk).run ([.initializeChannel c] ++
      [.applyUpdate u])).channels[regtestChannelId]? = some drained := by
    rw [Machine.run_concat, regtest_initialized h.initializes]
    simp only [commitmentMachine, hdrains.applied, storeAfter_ok]
    exact get_insert_self ..
  obtain ⟨report, hreport⟩ := recovers_ok (drained_recoverable hdrains.state
    (hdrains.root.trans (regtest_root h)) h.parsed)
  exact ⟨c, u, drained, report, hheld, hdrains.state.localBalance, hreport⟩

/-- In every reachable channel, the outputs that a recovery leaves are the two shares exactly when
one of the shares is nothing. -/
theorem recovery_keeps_shares_iff {ldk : Ldk} {own : LdkOwnership ldk.ChannelDescriptor}
    {ops : List (CommitmentOperation ldk)} {id : String} {state : AssetCommitmentChannelState} {spendKind : NativeAssetProofRecoverySpendKind}
    {report : NativeAssetProofRecoveryReport}
    (hheld : ((commitmentMachine ldk).run ops).channels[id]? = some state)
    (h : recoverAssetProofOwnership state spendKind ldk own = .ok report) :
    ∃ prepared replay, preparedOwnership state spendKind ldk own = .ok prepared ∧
      recoveryReplay state spendKind own prepared = .ok replay ∧
      (KeepsShares state replay.acceptedExplanations ↔
        state.localBalance = 0 ∨ state.remoteBalance = 0) := by
  simp only [recoverAssetProofOwnership, validateRecoveryProofHistory, bind_eq_ok] at h
  obtain ⟨prepared, hprepared, _, ⟨replay, hreplay, -⟩, -⟩ := h
  obtain ⟨e, he, hasset, hamount, hpositive⟩ := recoveryReplay_single hreplay
  obtain ⟨channel, -, hstory⟩ := (story_run ldk ops).channel id state hheld
  refine ⟨prepared, replay, hprepared, hreplay, ?_⟩
  rw [he]
  exact keepsShares_single_iff hasset hamount hpositive (by rw [hstory.balances, hstory.total])

/-- The shares are kept once one side has sent all it had, and not before. -/
theorem recovery_keeps_shares_iff_regtest :
    (∃ (c : FundedChannel acceptingLdk) (state : AssetCommitmentChannelState),
      ((commitmentMachine acceptingLdk).run [.initializeChannel c]).channels[regtestChannelId]? =
        some state ∧ ∃ prepared replay,
        preparedOwnership state .commitment acceptingLdk acceptingOwnership = .ok prepared ∧
        recoveryReplay state .commitment acceptingOwnership prepared = .ok replay ∧
        ¬ KeepsShares state replay.acceptedExplanations) ∧
    ∃ (c : FundedChannel acceptingLdk) (u : AssetCommitmentUpdateRequest)
      (state : AssetCommitmentChannelState),
      ((commitmentMachine acceptingLdk).run ([.initializeChannel c] ++ [.applyUpdate u])).channels[
        regtestChannelId]? = some state ∧ ∃ prepared replay,
        preparedOwnership state .commitment acceptingLdk acceptingOwnership = .ok prepared ∧
        recoveryReplay state .commitment acceptingOwnership prepared = .ok replay ∧
        KeepsShares state replay.acceptedExplanations := by
  constructor
  · obtain ⟨c, state, report, hheld, hlocal, hremote, hreport⟩ := regtest_recovered
    obtain ⟨prepared, replay, hprepared, hreplay, hkeeps⟩ := recovery_keeps_shares_iff hheld hreport
    refine ⟨c, state, hheld, prepared, replay, hprepared, hreplay, ?_⟩
    rw [hkeeps, hlocal, hremote]
    decide
  · obtain ⟨c, u, state, report, hheld, hlocal, hreport⟩ := drained_recovered
    obtain ⟨prepared, replay, hprepared, hreplay, hkeeps⟩ := recovery_keeps_shares_iff hheld hreport
    exact ⟨c, u, state, hheld, prepared, replay, hprepared, hreplay, hkeeps.mpr (.inl hlocal)⟩

/-- Of the regtest channel, everything is recovered under one key. -/
theorem regtest_shares_merged : ∃ (c : FundedChannel acceptingLdk)
    (state : AssetCommitmentChannelState) (report : NativeAssetProofRecoveryReport),
    ((commitmentMachine acceptingLdk).run [.initializeChannel c]).channels[regtestChannelId]? =
      some state ∧ state.localBalance = 1000000 ∧ state.remoteBalance = 1000000 ∧
    recoverAssetProofOwnership state .commitment acceptingLdk acceptingOwnership = .ok report ∧
    ∃ prepared replay,
      preparedOwnership state .commitment acceptingLdk acceptingOwnership = .ok prepared ∧
      recoveryReplay state .commitment acceptingOwnership prepared = .ok replay ∧
      replay.acceptedExplanations.map (·.amount) = [2000000] ∧
      ¬ KeepsShares state replay.acceptedExplanations := by
  obtain ⟨c, state, report, hheld, hlocal, hremote, hreport⟩ := regtest_recovered
  obtain ⟨channel, -, hstory⟩ := (story_run acceptingLdk [.initializeChannel c]).channel _ _ hheld
  have h := hreport
  simp only [recoverAssetProofOwnership, validateRecoveryProofHistory, bind_eq_ok] at h
  obtain ⟨prepared, hprepared, _, ⟨replay, hreplay, -⟩, -⟩ := h
  obtain ⟨e, he, hasset, hamount, hpositive⟩ := recoveryReplay_single hreplay
  have hsum : state.localBalance.toNat + state.remoteBalance.toNat = state.totalAmount.toNat := by
    rw [hstory.balances, hstory.total]
  have htotal : state.totalAmount = 2000000 := by
    rw [hlocal, hremote] at hsum
    exact UInt64.toNat_inj.mp hsum.symm
  refine ⟨c, state, report, hheld, hlocal, hremote, hreport, prepared, replay, hprepared, hreplay, ?_, ?_⟩
  · rw [he, List.map_singleton, hamount, htotal]
  · rw [he, keepsShares_single_iff hasset hamount hpositive hsum, hlocal, hremote]
    decide

end TapLdk.AssetProofRecoveryShares
