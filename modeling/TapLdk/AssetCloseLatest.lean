import Mathlib
import TapLdk.AssetCloseAccepts
import TapLdk.CommitmentBuilds
import TapLdk.ProofHistoryAnchors

/-! A cooperative close of a reachable channel pays out its latest balances. It succeeds exactly
when neither of them is zero and no derived digest is one of a few that the proofs and the
history cannot use. -/
namespace TapLdk.AssetCloseLatest
open TapLdk.LibraryExcept TapLdk.LibraryMaps TapLdk.LibraryBytes TapLdk.LibrarySha256
open TapLdk.LibraryRuns TapLdk.Mssmt TapLdk.Asset TapLdk.Proof TapLdk.ProofHistory
open TapLdk.ProofHistoryReplay TapLdk.ProofHistoryAnchors TapLdk.LdkFork TapLdk.ChannelFunding
open TapLdk.ChannelFundingSpec TapLdk.Commitment TapLdk.CommitmentSteps TapLdk.CommitmentStory
open TapLdk.CommitmentAccepts TapLdk.CommitmentBuilds TapLdk.RegtestChannel
open TapLdk.AssetClose TapLdk.AssetCloseSpec TapLdk.AssetCloseAccepts TapLdk.ChannelFundingAccepts
open TapLdk.TapVm

/-- What the transaction id of a close's genesis outpoint is. -/
def genesisDigest (assetId : Bytes32) : Bytes32 :=
  sha256 (utf8 "tap-ldk:native-close-genesis:v1" ++ assetId.bytes)

/-- What the transaction id of one side's anchor is. -/
def anchorDigest (state : AssetCommitmentChannelState) (owner : CloseOwnerSide)
    (scriptKey : CompressedKey) (amount : UInt64) : Bytes32 :=
  sha256 (utf8 "tap-ldk:native-close-anchor:v1" ++ lengthPrefixed state.channelId ++
    utf8 owner.asStr ++ u64Bytes state.latestCommitmentNumber ++ state.assetId.bytes ++
    u64Bytes amount ++ scriptKey.bytes)

def ownerIndex : CloseOwnerSide → Char
  | .localOwner => '0'
  | .remoteOwner => '1'

theorem closeGenesisOutpoint_text (assetId : Bytes32) : (closeGenesisOutpoint assetId).toList =
    (toHex (genesisDigest assetId)).toList ++ [':', '0'] := by
  change (toHex (genesisDigest assetId) ++ ":0").toList = _
  rw [String.toList_append]
  rfl

theorem closeAnchorOutpoint_text (state : AssetCommitmentChannelState) (owner : CloseOwnerSide)
    (scriptKey : CompressedKey) (amount : UInt64) :
    (closeAnchorOutpoint state.channelId owner state.latestCommitmentNumber state.assetId amount
      scriptKey).toList = (toHex (anchorDigest state owner scriptKey amount)).toList ++
        [':', ownerIndex owner] := by
  have hindex : (toString owner.asU8).toList = [ownerIndex owner] := by
    cases owner <;> decide
  change (toHex (anchorDigest state owner scriptKey amount) ++ ":" ++
    toString owner.asU8).toList = _
  rw [String.toList_append, String.toList_append, hindex, List.append_assoc]
  rfl

/-- Digests that the proof of one side can use. -/
structure UsableProof (state : AssetCommitmentChannelState) (owner : CloseOwnerSide)
    (scriptKey : CompressedKey) (amount : UInt64) : Prop where
  root : (singleRoot ⟨state.assetId, scriptKey, amount⟩).hash ≠ Bytes32.ZERO
  genesis : genesisDigest state.assetId ≠ Bytes32.ZERO
  anchor : anchorDigest state owner scriptKey amount ≠ Bytes32.ZERO
  distinct : owner = .localOwner →
    genesisDigest state.assetId ≠ anchorDigest state owner scriptKey amount

/-- The proof of one side passes the semantic checks exactly when it has an amount and its
digests can be used. -/
theorem verified_closeProof_iff {state : AssetCommitmentChannelState} {owner : CloseOwnerSide}
    {scriptKey : CompressedKey} {amount : UInt64} (hasset : state.assetId ≠ Bytes32.ZERO) :
    Verified (closeProof state owner scriptKey amount) ↔
      amount ≠ 0 ∧ UsableProof state owner scriptKey amount := by
  have hgenesis {p : ParsedOutpoint} : outpointOf (closeGenesisOutpoint state.assetId) = some p ↔
      _ := outpointOf_digest (genesisDigest state.assetId) (by decide)
        (closeGenesisOutpoint_text state.assetId)
  have hanchor {p : ParsedOutpoint} : outpointOf (closeAnchorOutpoint state.channelId owner
      state.latestCommitmentNumber state.assetId amount scriptKey) = some p ↔ _ :=
    outpointOf_digest (anchorDigest state owner scriptKey amount) (by cases owner <;> decide)
      (closeAnchorOutpoint_text state owner scriptKey amount)
  have hdistinct : (⟨toHex (genesisDigest state.assetId), UInt32.ofNat ('0'.toNat - 48)⟩ :
      ParsedOutpoint) = ⟨toHex (anchorDigest state owner scriptKey amount),
        UInt32.ofNat ((ownerIndex owner).toNat - 48)⟩ ↔
      owner = .localOwner ∧
        genesisDigest state.assetId = anchorDigest state owner scriptKey amount := by
    rw [ParsedOutpoint.mk.injEq, toHex_injective.eq_iff, and_comm]
    cases owner
    · simp [ownerIndex]
    · have hindex : UInt32.ofNat ('0'.toNat - 48) ≠
          UInt32.ofNat ((ownerIndex .remoteOwner).toNat - 48) := by decide
      simp only [hindex, false_and, reduceCtorEq]
  constructor
  · intro h
    obtain ⟨g, a, hg, ha, hne⟩ := h.outpoints
    obtain ⟨hgzero, rfl⟩ := hgenesis.mp hg
    obtain ⟨hazero, rfl⟩ := hanchor.mp ha
    have hroot := h.rootHash
    exact ⟨h.amount, hroot, hgzero, hazero, fun howner heq => hne (hdistinct.mpr ⟨howner, heq⟩)⟩
  · rintro ⟨hamount, h⟩
    refine ⟨rfl, rfl, rfl, hasset, hamount, h.root, rfl, _, _, hgenesis.mpr ⟨h.genesis, rfl⟩,
      hanchor.mpr ⟨h.anchor, rfl⟩, fun heq => ?_⟩
    obtain ⟨howner, hsame⟩ := hdistinct.mp heq
    exact h.distinct howner hsame

/-- The close of a state with the given allocation digest. -/
def closeWith (state : AssetCommitmentChannelState) (localScriptKey remoteScriptKey : CompressedKey)
    (allocationDigest : Bytes32) : NativeAssetClose :=
  closeOf state localScriptKey remoteScriptKey
    (proofHex (closeProof state .localOwner localScriptKey state.localBalance))
    (proofHex (closeProof state .remoteOwner remoteScriptKey state.remoteBalance)) allocationDigest

/-- Digests that the proofs and the history of a close can use: two proofs, and four
transition ids that are not zero. -/
structure Usable (state : AssetCommitmentChannelState)
    (localScriptKey remoteScriptKey : CompressedKey) : Prop where
  localProof : UsableProof state .localOwner localScriptKey state.localBalance
  remoteProof : UsableProof state .remoteOwner remoteScriptKey state.remoteBalance
  priorInput : closePriorInputTransitionId
    (closeWith state localScriptKey remoteScriptKey Bytes32.ZERO) ≠ Bytes32.ZERO
  closeTransition : (closeWith state localScriptKey remoteScriptKey
    Bytes32.ZERO).closeProofHistoryTransitionId ≠ Bytes32.ZERO
  localExport : (closeWith state localScriptKey remoteScriptKey
    Bytes32.ZERO).localExportProofHistoryTransitionId ≠ Bytes32.ZERO
  remoteExport : (closeWith state localScriptKey remoteScriptKey
    Bytes32.ZERO).remoteExportProofHistoryTransitionId ≠ Bytes32.ZERO

/-- The library builds an allocation for two amounts that make up the sum of the proof root,
and accepts what it has built for the same fields and the channel of its asset. -/
structure SettlesCloses (ldk : Ldk) (closing : LdkClose ldk.ChannelDescriptor) : Prop where
  builds : ∀ fields : TaprootAssetCloseAllocationFields, fields.localAmount ≠ 0 →
    fields.remoteAmount ≠ 0 →
    fields.localAmount.toNat + fields.remoteAmount.toNat = fields.proofRootSum.toNat →
      ∃ allocation, closing.newCloseAllocation fields = .ok allocation
  accepts : ∀ fields allocation expected, closing.newCloseAllocation fields = .ok allocation →
    fields.Meets expected →
      closing.validateCooperativeCloseAssetAllocation (some allocation) expected = .ok ()
  describes : ∀ assetId, assetId ≠ Bytes32.ZERO →
    ∃ descriptor, ldk.newChannelDescriptor assetId ldk.supportedProtocolVersion = .ok descriptor
  prepares : ∀ fields allocation descriptor, closing.newCloseAllocation fields = .ok allocation →
    ldk.newChannelDescriptor fields.assetId ldk.supportedProtocolVersion = .ok descriptor →
      closing.prepareCooperativeCloseAssetAllocation descriptor allocation = .ok ()

theorem accepting_settles : SettlesCloses acceptingLdk acceptingClose where
  builds fields _ _ _ := ⟨fields, rfl⟩
  accepts fields allocation expected h hmeets := by
    obtain rfl := Except.ok.inj h
    exact rejectIf_false (not_not.mpr hmeets)
  describes assetId _ := ⟨_, rfl⟩
  prepares _ _ _ _ _ := rfl

section Close

variable {ldk : Ldk} {closing : LdkClose ldk.ChannelDescriptor}
  {state : AssetCommitmentChannelState} {id : Bytes32}
  {localScriptKey remoteScriptKey : CompressedKey}

/-- The close of a closable state passes validation with any library that takes its allocation. -/
theorem closeWith_valid (h : Closable state id localScriptKey remoteScriptKey) {digest : Bytes32}
    (hallocation : (closeWith state localScriptKey remoteScriptKey digest).validateLdkCloseAllocation
      ldk closing state.latestCommitmentNumber = .ok ()) :
    (closeWith state localScriptKey remoteScriptKey digest).validate ldk closing = .ok () := by
  have hlocalExports : Exports (closeWith state localScriptKey remoteScriptKey digest) .localOwner
      (closeProof state .localOwner localScriptKey state.localBalance) :=
    ⟨h.localProof, rfl, rfl, rfl, rfl, rfl⟩
  have hremoteExports : Exports (closeWith state localScriptKey remoteScriptKey digest) .remoteOwner
      (closeProof state .remoteOwner remoteScriptKey state.remoteBalance) :=
    ⟨h.remoteProof, rfl, rfl, rfl, rfl, rfl⟩
  have haccepted := validateCloseProofHistory_ok (acceptedClose_derived h)
    (acceptedClose_replayable h) (acceptedClose_localExports h) (acceptedClose_remoteExports h)
  -- the history does not depend on the allocation
  have hhistory : (closeWith state localScriptKey remoteScriptKey digest).validateCloseProofHistory
      (closeProof state .localOwner localScriptKey state.localBalance)
      (closeProof state .remoteOwner remoteScriptKey state.remoteBalance) = .ok () := haccepted
  simp only [NativeAssetClose.validate, bind_eq_ok, okOr_eq_ok, rejectIf_eq_ok, exists_const]
  refine ⟨state.totalAmount, h.balances, not_not.mpr rfl, not_not.mpr rfl, ?_, _,
    decodeCloseProof_ok h.localKey (textsFit_closeProof ..), _,
    decodeCloseProof_ok h.remoteKey (textsFit_closeProof ..), (),
    validateCloseProof_ok hlocalExports, (), validateCloseProof_ok hremoteExports, (), hhistory, (),
    hallocation, not_not.mpr rfl, not_not.mpr rfl⟩
  exact fun hstatus => hstatus.1 rfl

/-- A closable state is closed by every library that settles closes. -/
theorem cooperativeClose_settles (hsettles : SettlesCloses ldk closing)
    {store : AssetCommitmentStore} {channelId : String}
    (hheld : store.channels[channelId]? = some state)
    (h : Closable state id localScriptKey remoteScriptKey)
    (hsum : state.monitorBlob.proofRootSum = state.totalAmount) :
    ∃ digest, cooperativeClose ldk closing store channelId localScriptKey remoteScriptKey =
      .ok (closeWith state localScriptKey remoteScriptKey digest) := by
  have hid : parseCloseChannelId state.channelId = .ok id := by
    rw [parseCloseChannelId, mapError_eq_ok]
    exact h.channelId
  have hmakeUp : state.localBalance.toNat + state.remoteBalance.toNat =
      state.monitorBlob.proofRootSum.toNat := by
    rw [hsum, checkedAdd_eq_some.mp h.balances]
  obtain ⟨allocation, hbuilt⟩ := hsettles.builds
    (acceptedAllocation state id localScriptKey remoteScriptKey) h.localProof.amount
    h.remoteProof.amount hmakeUp
  obtain ⟨descriptor, hdescriptor⟩ := hsettles.describes state.assetId h.localProof.assetId
  have hallocation : (closeWith state localScriptKey remoteScriptKey
      (closing.allocationDigest allocation)).validateLdkCloseAllocation ldk closing
      state.latestCommitmentNumber = .ok () := by
    simp only [NativeAssetClose.validateLdkCloseAllocation, bind_eq_ok, mapError_eq_ok,
      rejectIf_eq_ok]
    exact ⟨id, hid, allocation, hbuilt, (), hsettles.accepts _ _ _ hbuilt rfl, descriptor,
      hdescriptor, (), hsettles.prepares _ _ _ hbuilt hdescriptor, not_not.mpr rfl⟩
  refine ⟨closing.allocationDigest allocation, ?_⟩
  simp only [cooperativeClose, AssetCommitmentStore.channelState, bind_eq_ok, mapError_eq_ok,
    okOr_eq_ok, closeFromState, pure_eq_ok, Except.ok.injEq]
  exact ⟨state, hheld, _, buildCloseProof_ok h.localProof.amount, _,
    buildCloseProof_ok h.remoteProof.amount, _, encode_eq _, _, encode_eq _, id, hid, allocation,
    hbuilt, (), hallocation, (), closeWith_valid h hallocation, rfl⟩

theorem buildCloseProof_zero (owner : CloseOwnerSide) (scriptKey : CompressedKey) :
    buildCloseProof state owner scriptKey 0 = .error (.zeroCloseAmount owner) := by
  rw [buildCloseProof, rejectIf, if_pos rfl, error_bind]

/-- A side without a balance stops the close at its proof, the local side before the remote one. -/
theorem cooperativeClose_zero {store : AssetCommitmentStore} {channelId : String}
    (hheld : store.channels[channelId]? = some state) :
    (state.localBalance = 0 → cooperativeClose ldk closing store channelId localScriptKey
      remoteScriptKey = .error (.zeroCloseAmount .localOwner)) ∧
    (state.localBalance ≠ 0 → state.remoteBalance = 0 → cooperativeClose ldk closing store channelId
      localScriptKey remoteScriptKey = .error (.zeroCloseAmount .remoteOwner)) := by
  have hstate : store.channelState channelId = .ok state := by
    rw [AssetCommitmentStore.channelState, hheld, okOr]
  rw [cooperativeClose, hstate, Except.mapError, ok_bind, closeFromState]
  constructor
  · intro hlocal
    rw [hlocal, buildCloseProof_zero, error_bind]
  · intro hlocal hremote
    rw [buildCloseProof_ok hlocal, ok_bind, hremote, buildCloseProof_zero, error_bind]

/-- Every record of a history that replays has a transition id. -/
theorem transitionId_of_replay {records : List ProofHistoryRecord}
    {history : ProofHistory.ProofHistoryReplay} (h : replay records = .ok history)
    {record : ProofHistoryRecord} (hrecord : record ∈ records) :
    record.virtualTransitionId ≠ Bytes32.ZERO := by
  obtain ⟨before, after, rfl⟩ := List.append_of_mem hrecord
  obtain ⟨_, _, _, hstep⟩ := step_of_replay h
  exact hstep.transitionId

/-- A close that succeeds pays two amounts and has usable digests. -/
theorem usable_of_close {close : NativeAssetClose} {store : AssetCommitmentStore}
    {channelId : String} (hheld : store.channels[channelId]? = some state)
    (hasset : state.assetId ≠ Bytes32.ZERO) (hlocalKey : HasKeyPrefix localScriptKey)
    (hremoteKey : HasKeyPrefix remoteScriptKey)
    (h : cooperativeClose ldk closing store channelId localScriptKey remoteScriptKey = .ok close) :
    state.localBalance ≠ 0 ∧ state.remoteBalance ≠ 0 ∧
      Usable state localScriptKey remoteScriptKey := by
  simp only [cooperativeClose, AssetCommitmentStore.channelState, bind_eq_ok, mapError_eq_ok,
    okOr_eq_ok, hheld, Option.some.injEq, exists_eq_left'] at h
  simp only [closeFromState, bind_eq_ok, pure_eq_ok, Except.ok.injEq, mapError_eq_ok] at h
  obtain ⟨localProof, hlocal, remoteProof, hremote, localBytes, hlocalBytes, remoteBytes,
    hremoteBytes, _, -, allocation, -, _, -, _, hvalid, rfl⟩ := h
  have hlocalAmount : state.localBalance ≠ 0 := by
    simp only [buildCloseProof, bind_eq_ok, rejectIf_eq_ok] at hlocal
    exact hlocal.choose_spec.1
  have hremoteAmount : state.remoteBalance ≠ 0 := by
    simp only [buildCloseProof, bind_eq_ok, rejectIf_eq_ok] at hremote
    exact hremote.choose_spec.1
  rw [buildCloseProof_ok hlocalAmount, Except.ok.injEq] at hlocal
  rw [buildCloseProof_ok hremoteAmount, Except.ok.injEq] at hremote
  subst hlocal hremote
  rw [encode_eq, Except.ok.injEq] at hlocalBytes hremoteBytes
  subst hlocalBytes hremoteBytes
  change (closeWith state localScriptKey remoteScriptKey (closing.allocationDigest
    allocation)).validate ldk closing = .ok _ at hvalid
  simp only [NativeAssetClose.validate, bind_eq_ok, okOr_eq_ok, rejectIf_eq_ok, exists_const] at hvalid
  obtain ⟨_, -, -, -, -, localProof, hlocal, remoteProof, hremote, _, hlocalOk, _, hremoteOk, _,
    hhistory, -⟩ := hvalid
  have hlocalDecoded : (closeWith state localScriptKey remoteScriptKey
      (closing.allocationDigest allocation)).localProof = .ok
      (closeProof state .localOwner localScriptKey state.localBalance) :=
    decodeCloseProof_ok hlocalKey (textsFit_closeProof ..)
  have hremoteDecoded : (closeWith state localScriptKey remoteScriptKey
      (closing.allocationDigest allocation)).remoteProof = .ok
      (closeProof state .remoteOwner remoteScriptKey state.remoteBalance) :=
    decodeCloseProof_ok hremoteKey (textsFit_closeProof ..)
  rw [hlocalDecoded, Except.ok.injEq] at hlocal
  rw [hremoteDecoded, Except.ok.injEq] at hremote
  subst hlocal hremote
  simp only [NativeAssetClose.validateCloseProof, bind_eq_ok, mapError_eq_ok] at hlocalOk hremoteOk
  obtain ⟨_, hlocalReport, -⟩ := hlocalOk
  obtain ⟨_, hremoteReport, -⟩ := hremoteOk
  have hlocalUsable := (verified_closeProof_iff hasset).mp (verified_of_verify rfl hlocalReport)
  have hremoteUsable := (verified_closeProof_iff hasset).mp (verified_of_verify rfl hremoteReport)
  simp only [NativeAssetClose.validateCloseProofHistory, bind_eq_ok, mapError_eq_ok,
    NativeAssetClose.closeProofHistoryRecords, pure_eq_ok, Except.ok.injEq] at hhistory
  obtain ⟨_, -, _, ⟨root, -, rfl⟩, history, hreplay, -⟩ := hhistory
  have hids {record : ProofHistoryRecord} (hrecord : record ∈ _) :=
    transitionId_of_replay hreplay hrecord
  refine ⟨hlocalAmount, hremoteAmount, hlocalUsable.2, hremoteUsable.2, ?_, ?_, ?_, ?_⟩
  · exact hids (List.mem_cons_self ..)
  · exact hids (List.mem_cons_of_mem _ (List.mem_cons_of_mem _ (List.mem_cons_self ..)))
  · exact hids (List.mem_cons_of_mem _ (List.mem_cons_of_mem _ (List.mem_cons_of_mem _
      (List.mem_cons_self ..))))
  · exact hids (List.mem_cons_of_mem _ (List.mem_cons_of_mem _ (List.mem_cons_of_mem _
      (List.mem_cons_of_mem _ (List.mem_cons_self ..)))))

end Close

/-- A funded channel has an asset. -/
theorem funded_assetId {ldk : Ldk} (c : FundedChannel ldk) : c.channel.assetId ≠ Bytes32.ZERO := by
  obtain ⟨store, request, next, hfund⟩ := c.funded
  have hfunds := fundChannel_spec hfund
  simp only [AssetChannelStore.fundChannel,
    AssetChannelStore.fundChannelWithForkCommitmentOverride, bind_eq_ok, mapError_eq_ok,
    rejectIf_eq_ok, exists_const, pure_eq_ok, Except.ok.injEq, Prod.mk.injEq] at hfund
  obtain ⟨_, hrequest, _, -, _, -, _, -, _, -, _, -, _, -, _, -, _, -, _, -, _, -, -, _, -, _, -, _,
    -, hchannel, -⟩ := hfund
  simp only [validateFundingRequest, check_bind_eq_ok, rejectIf_eq_ok, List.isEmpty_iff] at hrequest
  rw [← hchannel]
  change request.assetId ≠ Bytes32.ZERO
  by_cases hlocal : request.localInputs = []
  · obtain ⟨proof, hproof⟩ := List.exists_mem_of_ne_nil _ fun hremote =>
      hrequest.2.2 ⟨hlocal, hremote⟩
    have hspendable := hfunds.remoteInputs proof hproof
    exact hspendable.assetId ▸ hspendable.verified.assetId
  · obtain ⟨proof, hproof⟩ := List.exists_mem_of_ne_nil _ hlocal
    have hspendable := hfunds.localInputs proof hproof
    exact hspendable.assetId ▸ hspendable.verified.assetId

theorem reached_assetId {ldk : Ldk} {ops : List (CommitmentOperation ldk)} {id : String}
    {state : AssetCommitmentChannelState}
    (h : ((commitmentMachine ldk).run ops).channels[id]? = some state) :
    state.assetId ≠ Bytes32.ZERO := by
  obtain ⟨channel, ⟨_, _, c, _, -, rfl, -⟩, hstory⟩ := (story_run ldk ops).channel id state h
  rw [hstory.assetId]
  exact funded_assetId c

/-- The latest output of a channel, and the transition that made it. -/
theorem latest_history {ldk : Ldk} {state : AssetCommitmentChannelState}
    (h : ReachedState ldk state) : (∃ x, state.latestProofHistoryOutputId = "asset-" ++ x) ∧
      state.latestProofHistoryTransitionId ≠ Bytes32.ZERO := by
  have hhistory := h.valid.history
  simp only [AssetCommitmentChannelState.validateProofHistoryChain, bind_eq_ok,
    mapError_eq_ok] at hhistory
  obtain ⟨records, hrecords, history, hreplay, -⟩ := hhistory
  obtain ⟨hchain, ⟨-, houtput, htransition⟩, rfl⟩ :=
    (commitmentProofHistoryRecords_eq_ok h.fits.total).mp hrecords
  rw [houtput, htransition, AssetCommitmentChannelState.expectedLatest]
  cases hlast : (state.commitments.toList.map (·.2)).getLast? with
  | none =>
    refine ⟨⟨"channel-funding-output:" ++ state.channelId, ?_⟩, h.fits.funding⟩
    change state.fundingProofHistoryOutputId = _
    rw [h.fits.outputId]
    simp only [toString_string, ← String.append_assoc]
    rfl
  | some c =>
    have hc : c ∈ commitmentsOf state := List.mem_of_getLast? hlast
    obtain ⟨-, d, hid⟩ := chained_ids hchain hc
    refine ⟨⟨s!"commitment-output:{state.channelId}:{c.commitmentNumber}:{toHex d}", ?_⟩, ?_⟩
    · change c.proofHistoryOutputId = _
      rw [hid]
      simp only [toString_string, ← String.append_assoc]
      rfl
    · exact transitionId_of_replay hreplay (List.mem_append_right _ (List.mem_map_of_mem hc))

theorem closable_of_reached {ldk : Ldk} {state : AssetCommitmentChannelState} {id : Bytes32}
    {localScriptKey remoteScriptKey : CompressedKey} (h : ReachedState ldk state)
    (hid : bytes32FromStr state.channelId = .ok id) (hasset : state.assetId ≠ Bytes32.ZERO)
    (hlocalKey : HasKeyPrefix localScriptKey) (hremoteKey : HasKeyPrefix remoteScriptKey)
    (hlocal : state.localBalance ≠ 0) (hremote : state.remoteBalance ≠ 0)
    (husable : Usable state localScriptKey remoteScriptKey) :
    Closable state id localScriptKey remoteScriptKey where
  channelId := hid
  balances := h.valid.balances
  total := h.fits.total
  anchor := h.fits.anchor
  prior := (latest_history h).1
  localKey := hlocalKey
  remoteKey := hremoteKey
  localProof := (verified_closeProof_iff hasset).mpr ⟨hlocal, husable.localProof⟩
  remoteProof := (verified_closeProof_iff hasset).mpr ⟨hremote, husable.remoteProof⟩
  priorTransition := (latest_history h).2
  priorInput := husable.priorInput
  closeTransition := husable.closeTransition
  localExport := husable.localExport
  remoteExport := husable.remoteExport

/-- Every reachable channel is closed exactly when both balances are nonzero and the digests can
be used, and a close pays out the latest balances. Without a balance of one side the close is
refused for this side. -/
theorem close_pays_latest {ldk : Ldk} {closing : LdkClose ldk.ChannelDescriptor}
    (hsettles : SettlesCloses ldk closing) (ops : List (CommitmentOperation ldk)) (id : String)
    (state : AssetCommitmentChannelState)
    (hheld : ((commitmentMachine ldk).run ops).channels[id]? = some state)
    (localScriptKey remoteScriptKey : CompressedKey) (hlocalKey : HasKeyPrefix localScriptKey)
    (hremoteKey : HasKeyPrefix remoteScriptKey) :
    ((∃ close, cooperativeClose ldk closing ((commitmentMachine ldk).run ops) id localScriptKey
        remoteScriptKey = .ok close) ↔
      state.localBalance ≠ 0 ∧ state.remoteBalance ≠ 0 ∧
        Usable state localScriptKey remoteScriptKey) ∧
    (∀ close, cooperativeClose ldk closing ((commitmentMachine ldk).run ops) id localScriptKey
      remoteScriptKey = .ok close →
        close.localAmount = state.localBalance ∧ close.remoteAmount = state.remoteBalance) ∧
    (state.localBalance = 0 → cooperativeClose ldk closing ((commitmentMachine ldk).run ops) id
      localScriptKey remoteScriptKey = .error (.zeroCloseAmount .localOwner)) ∧
    (state.localBalance ≠ 0 → state.remoteBalance = 0 → cooperativeClose ldk closing
      ((commitmentMachine ldk).run ops) id localScriptKey remoteScriptKey =
        .error (.zeroCloseAmount .remoteOwner)) := by
  have hreached := reachedState hheld
  have hasset := reached_assetId hheld
  obtain ⟨channelId, hparsed⟩ := hreached.parsed
  refine ⟨⟨?_, ?_⟩, ?_, cooperativeClose_zero hheld⟩
  · rintro ⟨close, h⟩
    exact usable_of_close hheld hasset hlocalKey hremoteKey h
  · rintro ⟨hlocal, hremote, husable⟩
    obtain ⟨digest, h⟩ := cooperativeClose_settles hsettles hheld (closable_of_reached hreached
      hparsed hasset hlocalKey hremoteKey hlocal hremote husable) hreached.rootSum
    exact ⟨_, h⟩
  · intro close h
    obtain ⟨held, hstate, hcloses⟩ := cooperativeClose_spec h
    obtain rfl := Option.some.inj (hstate.symm.trans hheld)
    exact ⟨hcloses.localAmount, hcloses.remoteAmount⟩

/-- The channel of two peers after its initialisation pays each of them a million units. -/
theorem close_pays_latest_twoPeer : ∃ (ops : List (CommitmentOperation acceptingLdk)) (id : String)
    (close : NativeAssetClose), cooperativeClose acceptingLdk acceptingClose
      ((commitmentMachine acceptingLdk).run ops) id regtestKey regtestKey = .ok close ∧
      close.localAmount = 1000000 ∧ close.remoteAmount = 1000000 := by
  obtain ⟨c, _, id, state, _, _, _, h⟩ := regtest_run
  have hheld := regtest_held h
  have hpays := close_pays_latest accepting_settles [.initializeChannel c] regtestChannelId state
    hheld regtestKey regtestKey regtestKey_prefix regtestKey_prefix
  have hcall := cooperativeClose_ok hheld (closable_before h)
  obtain ⟨hlocal, hremote⟩ := hpays.2.1 _ hcall
  exact ⟨_, _, _, hcall, hlocal.trans h.before.localBalance, hremote.trans h.before.remoteBalance⟩

/-- The key of a second owner. -/
def secondKey : CompressedKey := .cons 2 (.replicate 32 7)

/-- A channel whose local side has sent all it had is not closed. -/
theorem drained_channel_not_closed : ∃ (ops : List (CommitmentOperation acceptingLdk)) (id : String)
    (state : AssetCommitmentChannelState),
    ((commitmentMachine acceptingLdk).run ops).channels[id]? = some state ∧
      regtestKey ≠ secondKey ∧ HasKeyPrefix regtestKey ∧ HasKeyPrefix secondKey ∧
      cooperativeClose acceptingLdk acceptingClose ((commitmentMachine acceptingLdk).run ops) id
        regtestKey secondKey = .error (.zeroCloseAmount .localOwner) := by
  obtain ⟨c, root, id, state, updated, request, snapshot, h⟩ := regtest_run
  obtain ⟨u, _, drained, hdrains⟩ := h.drains
  have hafter : ((commitmentMachine acceptingLdk).run ([.initializeChannel c] ++
      [.applyUpdate u])).channels[regtestChannelId]? = some drained := by
    rw [Machine.run_concat, regtest_initialized h.initializes]
    simp only [commitmentMachine, hdrains.applied, storeAfter_ok]
    exact get_insert_self ..
  exact ⟨_, _, _, hafter, by decide, regtestKey_prefix, .inl rfl,
    (cooperativeClose_zero hafter).1 hdrains.state.localBalance⟩

end TapLdk.AssetCloseLatest
