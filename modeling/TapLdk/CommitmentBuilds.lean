import Mathlib
import TapLdk.RegtestChannel
import TapLdk.TapVmIdentity

/-! The builder of updates and the store agree: in every reachable state an update that is
built is applied, and an update that is applied is the one that would be built. -/
namespace TapLdk.CommitmentBuilds
open TapLdk.LibraryExcept TapLdk.LibraryMaps TapLdk.LibraryBytes TapLdk.LibrarySha256
open TapLdk.LibraryRuns TapLdk.Mssmt TapLdk.Asset TapLdk.Proof TapLdk.ProofHistory
open TapLdk.ProofHistoryReplay TapLdk.TapVm TapLdk.TapVmIdentity TapLdk.LdkFork TapLdk.ChannelFunding
open TapLdk.ChannelFundingSpec TapLdk.Commitment TapLdk.CommitmentSteps TapLdk.CommitmentStory
open TapLdk.CommitmentAccepts TapLdk.RegtestChannel

section Build

variable {state : AssetCommitmentChannelState} {sent received localBalance remoteBalance : UInt64}
  {nonce : Bytes32} {u : AssetCommitmentUpdateRequest}

/-- Moving amounts between the balances keeps their sum. -/
theorem moved_conserved
    (hbalances : checkedAdd state.localBalance state.remoteBalance = some state.totalAmount)
    (hmoved : state.movedBalances sent received = .ok (localBalance, remoteBalance)) :
    checkedAdd localBalance remoteBalance = some state.totalAmount := by
  have hnats := movedBalances_eq_ok hmoved
  rw [checkedAdd_eq_some] at hbalances ⊢
  omega

/-- With an unused nonce, the updates that can be built are those the store would check. -/
theorem buildCommitmentUpdate_eq_ok
    (hbalances : checkedAdd state.localBalance state.remoteBalance = some state.totalAmount)
    (hunused : state.usedAssetNonces[nonce]? = none) :
    state.buildCommitmentUpdate sent received nonce = .ok u ↔
      (u.localToRemote = sent ∧ u.remoteToLocal = received ∧ u.assetNonce = nonce) ∧
        ∃ snapshot, UpdateValid state u snapshot := by
  simp only [AssetCommitmentChannelState.buildCommitmentUpdate, bind_eq_ok, okOr_eq_ok,
    mapError_eq_ok, pure_eq_ok, Except.ok.injEq, Prod.exists]
  constructor
  · rintro ⟨number, hnumber, localBalance, remoteBalance, hmoved, tx, htx, digest, hdigest, rfl⟩
    refine ⟨⟨rfl, rfl, rfl⟩, ⟨state.channelId, state.assetId, number, localBalance, remoteBalance,
      state.totalAmount, commitmentStateDigest state.channelId state.assetId number localBalance
        remoteBalance⟩, ?_⟩
    constructor
    case number => exact checkedAdd_eq_some.mp hnumber
    case nonce => exact hunused
    case balances => exact hmoved
    case conserved => exact moved_conserved hbalances hmoved
    case virtualTxId => exact htx
    case witnessDigest => exact hdigest
    all_goals rfl
  · rintro ⟨⟨rfl, rfl, rfl⟩, snapshot, h⟩
    refine ⟨_, checkedAdd_eq_some.mpr h.number, _, _, h.balances, _, h.virtualTxId, _,
      h.witnessDigest, ?_⟩
    rw [← h.signature, ← h.channelId]

end Build

/-- The records of a state start with those of its funding. -/
theorem records_start {state : AssetCommitmentChannelState} {records : List ProofHistoryRecord}
    (h : state.commitmentProofHistoryRecords = .ok records) : ∃ root rest,
      records = [state.fundingInputRecord root, state.fundingRecord root] ++ rest := by
  simp only [AssetCommitmentChannelState.commitmentProofHistoryRecords, bind_eq_ok, pure_eq_ok,
    Except.ok.injEq] at h
  obtain ⟨root, -, out, hout, _, -, rfl⟩ := h
  refine ⟨root, ?_⟩
  refine foldlM_induction (P := fun _ acc => ∃ rest, acc.2 =
    [state.fundingInputRecord root, state.fundingRecord root] ++ rest) ⟨[], rfl⟩ ?_ hout
  rintro _ commitment acc acc' ⟨rest, hrest⟩ hadd
  simp only [AssetCommitmentChannelState.addCommitmentRecord, bind_eq_ok, pure_eq_ok,
    Except.ok.injEq] at hadd
  obtain ⟨_, -, record, -, rfl⟩ := hadd
  exact ⟨rest ++ [record], by simp [hrest]⟩

/-- What the replay of a state's records checks of its funding. -/
structure FundingReplays (state : AssetCommitmentChannelState) : Prop where
  total : state.totalAmount ≠ 0
  anchor : ∃ p, outpointOf state.fundingOutpoint = some p
  initial : state.initialTransitionId ≠ Bytes32.ZERO
  funding : state.fundingProofHistoryTransitionId ≠ Bytes32.ZERO

theorem funding_of_replay {state : AssetCommitmentChannelState} {records : List ProofHistoryRecord}
    {history : ProofHistory.ProofHistoryReplay}
    (hrecords : state.commitmentProofHistoryRecords = .ok records)
    (hreplay : replay records = .ok history) : FundingReplays state := by
  obtain ⟨root, rest, rfl⟩ := records_start hrecords
  have hissue : replay ([] ++ state.fundingInputRecord root :: (state.fundingRecord root :: rest)) =
    .ok history := hreplay
  have hlock : replay ([state.fundingInputRecord root] ++ state.fundingRecord root :: rest) =
    .ok history := hreplay
  obtain ⟨_, _, _, hissued⟩ := step_of_replay hissue
  obtain ⟨_, _, _, hlocked⟩ := step_of_replay hlock
  have hisOutput := hissued.output _ (List.mem_singleton.mpr rfl)
  exact ⟨hisOutput.amount, hisOutput.anchor, hissued.transitionId, hlocked.transitionId⟩

/-- The history of a valid state fits its channel when the funding ids are the channel's. -/
theorem fits_of_valid {ldk : Ldk} {state : AssetCommitmentChannelState}
    (hvalid : StateValid ldk state)
    (hrecord : state.fundingProofHistoryRecordId = s!"asset-channel-funding:{state.channelId}")
    (houtput : state.fundingProofHistoryOutputId =
      s!"asset-channel-funding-output:{state.channelId}") : HistoryFits state := by
  have hhistory := hvalid.history
  simp only [AssetCommitmentChannelState.validateProofHistoryChain, bind_eq_ok,
    mapError_eq_ok] at hhistory
  obtain ⟨records, hrecords, history, hreplay, -⟩ := hhistory
  have hfunding := funding_of_replay hrecords hreplay
  exact ⟨hrecord, houtput, hfunding.total, hfunding.anchor, hfunding.initial, hfunding.funding⟩

/-- What a funding call fixes of a channel beyond its balances. -/
structure FundingFixed (channel : StoredAssetChannel) : Prop where
  recordId : channel.fundingProofHistoryRecordId = s!"asset-channel-funding:{channel.channelId}"
  outputId : channel.fundingProofHistoryOutputId =
    s!"asset-channel-funding-output:{channel.channelId}"
  rootSum : channel.fundingTapAssetRoot.sum = channel.totalAmount

theorem fundingFixed {ldk : Ldk} (c : FundedChannel ldk) : FundingFixed c.channel := by
  obtain ⟨_, _, next, hfund⟩ := c.funded
  have hfunds := fundChannel_spec hfund
  have hget : next.channels[c.channel.channelId]? = some c.channel := by
    rw [hfunds.store]
    exact get_insert_self ..
  have hvalid := hfunds.valid.channel _ _ hget
  simp only [AssetChannelStore.validateChannel, StoredAssetChannel.validateFields, bind_eq_ok,
    rejectIf_eq_ok, okOr_eq_ok, exists_const, ne_eq, not_not, not_or] at hvalid
  obtain ⟨-, ⟨-, -, _, -, -, hsum, _, -, -, -, hrecord, houtput, -⟩, -⟩ := hvalid
  exact ⟨hrecord, houtput, hsum⟩

/-- A store whose channels kept the record ids they were funded under. -/
structure Reached (ldk : Ldk) (store : AssetCommitmentStore) : Prop where
  valid : StoreValid ldk store
  recordId : ∀ (id : String) (state : AssetCommitmentChannelState),
    store.channels[id]? = some state →
      state.fundingProofHistoryRecordId = s!"asset-channel-funding:{state.channelId}"

theorem initializeChannel_recordId {ldk : Ldk} {store next : AssetCommitmentStore}
    {channel : StoredAssetChannel} {state : AssetCommitmentChannelState}
    (h : store.initializeChannel ldk channel = .ok (state, next)) :
    state.fundingProofHistoryRecordId = channel.fundingProofHistoryRecordId := by
  simp only [AssetCommitmentStore.initializeChannel, AssetCommitmentChannelState.fromFundedChannel,
    bind_eq_ok, pure_eq_ok, Except.ok.injEq, Prod.mk.injEq] at h
  obtain ⟨_, -, _, ⟨_, -, _, -, rfl⟩, _, -, rfl, -⟩ := h
  rfl

theorem reached_step {ldk : Ldk} {store : AssetCommitmentStore} (h : Reached ldk store)
    (op : CommitmentOperation ldk) : Reached ldk ((commitmentMachine ldk).next store op) := by
  cases op with
  | initializeChannel c =>
    simp only [commitmentMachine]
    cases hcall : store.initializeChannel ldk c.channel with
    | error e => exact h
    | ok out =>
      obtain ⟨state, next⟩ := out
      have hinit := initializeChannel_spec hcall
      refine ⟨hinit.valid, fun id held hget => ?_⟩
      rw [storeAfter_ok, hinit.store] at hget
      rcases get_insert_eq_some hget with ⟨rfl, rfl⟩ | ⟨-, hget⟩
      · rw [initializeChannel_recordId hcall, hinit.funded.channelId]
        exact (fundingFixed c).recordId
      · exact h.recordId id held hget
  | applyUpdate request =>
    simp only [commitmentMachine]
    cases hcall : store.applyUpdate ldk request with
    | error e => exact h
    | ok out =>
      obtain ⟨snapshot, next⟩ := out
      obtain ⟨current, updated, happlies⟩ := applyUpdate_spec hcall
      refine ⟨happlies.valid, fun id held hget => ?_⟩
      rw [storeAfter_ok, happlies.store] at hget
      rcases get_insert_eq_some hget with ⟨rfl, rfl⟩ | ⟨-, hget⟩
      · obtain ⟨blob, -, rfl⟩ := happlies.step.updated
        exact h.recordId _ current happlies.held
      · exact h.recordId id held hget

theorem reached_run (ldk : Ldk) (ops : List (CommitmentOperation ldk)) :
    Reached ldk ((commitmentMachine ldk).run ops) := by
  refine (commitmentMachine ldk).run_induction (fun _ store => Reached ldk store) ?_ ?_ ops
  · exact ⟨storeValid_default, fun id state h => by
      simp [commitmentMachine, AssetCommitmentStore.default] at h⟩
  · intro _ store op h
    exact reached_step h op

/-- What is true of every state a channel can be in. -/
structure ReachedState (ldk : Ldk) (state : AssetCommitmentChannelState) : Prop where
  story : ∃ channel n, ChannelStory channel n state
  fits : HistoryFits state
  valid : StateValid ldk state
  parsed : ∃ id, bytes32FromStr state.channelId = .ok id
  rootSum : state.monitorBlob.proofRootSum = state.totalAmount

/-- A valid state has a monitor update, so its channel id parses. -/
theorem channelId_parses {ldk : Ldk} {state : AssetCommitmentChannelState}
    (h : StateValid ldk state) : ∃ id, bytes32FromStr state.channelId = .ok id := by
  have hmonitor := h.monitor
  simp only [AssetCommitmentChannelState.validateMonitor,
    AssetCommitmentChannelState.validateLdkMonitorAuxBlob, bind_eq_ok, parseChannelId,
    mapError_eq_ok] at hmonitor
  obtain ⟨-, -, -, -, _, -, id, hid, -⟩ := hmonitor
  exact ⟨id, hid⟩

theorem reachedState {ldk : Ldk} {ops : List (CommitmentOperation ldk)} {id : String}
    {state : AssetCommitmentChannelState}
    (h : ((commitmentMachine ldk).run ops).channels[id]? = some state) :
    ReachedState ldk state := by
  have hreached := reached_run ldk ops
  have hvalid := hreached.valid.state id state h
  obtain ⟨channel, ⟨_, _, c, _, -, rfl, -⟩, hstory⟩ := (story_run ldk ops).channel id state h
  have hfixed := fundingFixed c
  refine ⟨⟨_, _, hstory⟩, fits_of_valid hvalid (hreached.recordId id state h) ?_, hvalid,
    channelId_parses hvalid, ?_⟩
  · rw [hstory.fundingOutput, hfixed.outputId, hstory.channelId]
  · have hsum := congrArg RootHashSum.sum hstory.root
    rw [hfixed.rootSum, ← hstory.total] at hsum
    exact hsum

/-- The message an update signs, for the balances it leads to. -/
def signatureMessage (state : AssetCommitmentChannelState) (request : AssetCommitmentUpdateRequest)
    (localBalance remoteBalance : UInt64) : Bytes :=
  utf8 "tap-ldk:asset-commitment-signature:v1" ++ lengthPrefixed state.channelId ++
    state.assetId.bytes ++ state.assetSigningKey.bytes ++ u64Bytes request.nextCommitmentNumber ++
    u64Bytes localBalance ++ u64Bytes remoteBalance ++ request.assetNonce.bytes ++
    request.virtualTxId.bytes ++ request.witnessDigest.bytes

/-- The message of an update's virtual transition. -/
def transitionMessage (state : AssetCommitmentChannelState)
    (request : AssetCommitmentUpdateRequest) (localBalance remoteBalance : UInt64) : Bytes :=
  (state.updateTransition localBalance remoteBalance request.assetNonce).digestPreimage txDomain

/-- The signatures or the transition ids of two updates come from a collision of SHA-256. -/
def MessagesCollide (state : AssetCommitmentChannelState)
    (u r : AssetCommitmentUpdateRequest) : Prop :=
  ∃ l m l' m', state.movedBalances u.localToRemote u.remoteToLocal = .ok (l, m) ∧
    state.movedBalances r.localToRemote r.remoteToLocal = .ok (l', m') ∧
      (Collision (signatureMessage state u l m) (signatureMessage state r l' m') ∨
        Collision (transitionMessage state u l m) (transitionMessage state r l' m'))

section Updates

variable {state : AssetCommitmentChannelState} {u r : AssetCommitmentUpdateRequest}
  {snapshot snapshot' : AssetCommitmentSnapshot}

/-- The message is read off field by field from its fixed-width end. -/
theorem signatureMessage_balances {l m l' m' : UInt64}
    (h : signatureMessage state u l m = signatureMessage state r l' m') : l = l' ∧ m = m' := by
  simp only [signatureMessage, List.append_assoc, List.append_cancel_left_eq] at h
  obtain ⟨-, h⟩ := List.append_inj h (by simp)
  obtain ⟨hlocal, h⟩ := List.append_inj h (by simp)
  obtain ⟨hremote, -⟩ := List.append_inj h (by simp)
  exact ⟨u64Bytes_inj.mp hlocal, u64Bytes_inj.mp hremote⟩

theorem sized_updateTransition (state : AssetCommitmentChannelState) (l m : UInt64)
    (nonce : Bytes32) : Sized (state.updateTransition l m nonce) := by
  constructor <;>
    simp [AssetCommitmentChannelState.updateTransition, AssetVirtualTransition.channelBalanceUpdate]

theorem transitionMessage_balances {l m l' m' : UInt64}
    (h : transitionMessage state u l m = transitionMessage state r l' m') : l = l' ∧ m = m' := by
  have heq := congrArg AssetVirtualTransition.outputs
    (digestPreimage_inj (sized_updateTransition ..) (sized_updateTransition ..) h)
  simpa [AssetCommitmentChannelState.updateTransition,
    AssetVirtualTransition.channelBalanceUpdate] using heq

/-- Two valid updates with one signature, or one transition id, lead to the same balances. -/
theorem same_balances (hu : UpdateValid state u snapshot) (hr : UpdateValid state r snapshot')
    (h : r.assetSignature = u.assetSignature ∨ r.virtualTxId = u.virtualTxId) :
    state.movedBalances r.localToRemote r.remoteToLocal =
      state.movedBalances u.localToRemote u.remoteToLocal ∨ MessagesCollide state u r := by
  have hbalances (heq : snapshot.localBalance = snapshot'.localBalance ∧
      snapshot.remoteBalance = snapshot'.remoteBalance) :
      state.movedBalances r.localToRemote r.remoteToLocal =
        state.movedBalances u.localToRemote u.remoteToLocal := by
    rw [hr.balances, hu.balances, heq.1, heq.2]
  rcases h with hsignature | htx
  · have hsha : sha256 (signatureMessage state u snapshot.localBalance snapshot.remoteBalance) =
        sha256 (signatureMessage state r snapshot'.localBalance snapshot'.remoteBalance) :=
      (hu.signature.symm.trans hsignature.symm).trans hr.signature
    rcases eq_or_collision hsha with heq | hcollision
    · exact .inl (hbalances (signatureMessage_balances heq))
    · exact .inr ⟨_, _, _, _, hu.balances, hr.balances, .inl hcollision⟩
  · have hsha : sha256 (transitionMessage state u snapshot.localBalance snapshot.remoteBalance) =
        sha256 (transitionMessage state r snapshot'.localBalance snapshot'.remoteBalance) := by
      rw [transitionMessage, transitionMessage, (txId_eq_ok.mp hu.virtualTxId).2,
        (txId_eq_ok.mp hr.virtualTxId).2, htx]
    rcases eq_or_collision hsha with heq | hcollision
    · exact .inl (hbalances (transitionMessage_balances heq))
    · exact .inr ⟨_, _, _, _, hu.balances, hr.balances, .inr hcollision⟩

end Updates

/-- What the store does with an update built for one of its channels, and with the updates
that differ from it. -/
structure AgreesOn (ldk : Ldk) (store : AssetCommitmentStore)
    (current : AssetCommitmentChannelState) (u : AssetCommitmentUpdateRequest) : Prop where
  /-- It is applied, unless its transition hashes to zero, which no history takes as an id. -/
  applied : u.virtualTxId = Bytes32.ZERO ∨ ∃ snapshot updated,
    UpdateStep current u snapshot updated ∧
      store.applyUpdate ldk u = .ok (snapshot, store.putChannel u.channelId updated)
  only : ∀ r out, r.channelId = u.channelId → r.localToRemote = u.localToRemote →
    r.remoteToLocal = u.remoteToLocal → r.assetNonce = u.assetNonce →
      store.applyUpdate ldk r = .ok out → r = u
  balances : ∀ r out, r.channelId = u.channelId →
    (r.assetSignature = u.assetSignature ∨ r.virtualTxId = u.virtualTxId) →
      store.applyUpdate ldk r = .ok out →
        current.movedBalances r.localToRemote r.remoteToLocal =
          current.movedBalances u.localToRemote u.remoteToLocal ∨ MessagesCollide current u r

/-- A successful update of a held channel passed the checks on its request. -/
theorem applied_valid {ldk : Ldk} {store next : AssetCommitmentStore}
    {current : AssetCommitmentChannelState} {r : AssetCommitmentUpdateRequest}
    {snapshot : AssetCommitmentSnapshot} (hheld : store.channels[r.channelId]? = some current)
    (h : store.applyUpdate ldk r = .ok (snapshot, next)) : UpdateValid current r snapshot := by
  obtain ⟨held, updated, happlies⟩ := applyUpdate_spec h
  obtain rfl := Option.some.inj (happlies.held.symm.trans hheld)
  exact happlies.step.checked

/-- A checked update of a reachable state is applied, unless its transition hashes to zero. -/
theorem applies_of_valid {ldk : Ldk} (hbuilds : BuildsBlobs ldk) (haccepts : AcceptsOwnBlobs ldk)
    {store : AssetCommitmentStore} {current : AssetCommitmentChannelState}
    {u : AssetCommitmentUpdateRequest} {snapshot : AssetCommitmentSnapshot}
    (hstore : CommitmentSteps.StoreValid ldk store)
    (hheld : store.channels[u.channelId]? = some current) (hreached : ReachedState ldk current)
    (hcheck : UpdateValid current u snapshot) (htx : u.virtualTxId ≠ Bytes32.ZERO) :
    ∃ updated, UpdateStep current u snapshot updated ∧
      store.applyUpdate ldk u = .ok (snapshot, store.putChannel u.channelId updated) := by
  obtain ⟨channel, n, hstory⟩ := hreached.story
  obtain ⟨id, hid⟩ := hreached.parsed
  have hsum : snapshot.localBalance.toNat + snapshot.remoteBalance.toNat =
      current.monitorBlob.proofRootSum.toNat := by
    rw [hreached.rootSum, checkedAdd_eq_some.mp hcheck.conserved]
  obtain ⟨blob, -, hroot, hcall⟩ := applyUpdate_ok haccepts hstore hheld hid hstory hreached.fits
    hcheck htx (hbuilds (updateBlobFields current id u snapshot) hsum)
  rw [← hcheck.channelId] at hcall
  exact ⟨_, updatedState_step hcheck hroot, hcall⟩

/-- In every reachable state the store agrees on every update that can be built with an unused
nonce, and every update it applies is the one built for its amounts and its nonce. -/
theorem built_iff_applied {ldk : Ldk} (hbuilds : BuildsBlobs ldk) (haccepts : AcceptsOwnBlobs ldk)
    (ops : List (CommitmentOperation ldk)) (id : String) (current : AssetCommitmentChannelState)
    (hheld : ((commitmentMachine ldk).run ops).channels[id]? = some current) :
    (∀ sent received nonce u, current.usedAssetNonces[nonce]? = none →
      current.buildCommitmentUpdate sent received nonce = .ok u →
        AgreesOn ldk ((commitmentMachine ldk).run ops) current u) ∧
    ∀ r out, r.channelId = id → ((commitmentMachine ldk).run ops).applyUpdate ldk r = .ok out →
      current.buildCommitmentUpdate r.localToRemote r.remoteToLocal r.assetNonce = .ok r := by
  have hreached := reachedState hheld
  have hstore := (reached_run ldk ops).valid
  have hid : id = current.channelId := hstore.key id current hheld
  have hbuilt (r : AssetCommitmentUpdateRequest) (snapshot : AssetCommitmentSnapshot)
      (h : UpdateValid current r snapshot) :
      current.buildCommitmentUpdate r.localToRemote r.remoteToLocal r.assetNonce = .ok r :=
    (buildCommitmentUpdate_eq_ok hreached.valid.balances h.nonce).mpr ⟨⟨rfl, rfl, rfl⟩, snapshot, h⟩
  constructor
  · intro sent received nonce u hunused hbuild
    obtain ⟨⟨rfl, rfl, rfl⟩, snapshot, hcheck⟩ :=
      (buildCommitmentUpdate_eq_ok hreached.valid.balances hunused).mp hbuild
    have hchannel : id = u.channelId := hid.trans hcheck.channelId.symm
    rw [hchannel] at hheld
    constructor
    case applied =>
      by_cases htx : u.virtualTxId = Bytes32.ZERO
      · exact .inl htx
      · obtain ⟨updated, hstep, hcall⟩ := applies_of_valid hbuilds haccepts hstore hheld hreached
          hcheck htx
        exact .inr ⟨snapshot, updated, hstep, hcall⟩
    case only =>
      rintro r ⟨snapshot', next⟩ hsame hsent hreceived hnonce hcall
      have hr := hbuilt r snapshot' (applied_valid (by rw [hsame]; exact hheld) hcall)
      rw [hsent, hreceived, hnonce, hbuild] at hr
      exact (Except.ok.inj hr).symm
    case balances =>
      rintro r ⟨snapshot', next⟩ hsame hdigest hcall
      exact same_balances hcheck (applied_valid (by rw [hsame]; exact hheld) hcall) hdigest
  · rintro r ⟨snapshot, next⟩ rfl hcall
    exact hbuilt r snapshot (applied_valid hheld hcall)

/-- The update that sends all that the first of two peers has is built and applied. -/
theorem built_iff_applied_twoPeer : ∃ (ops : List (CommitmentOperation acceptingLdk)) (id : String)
    (current : AssetCommitmentChannelState) (u : AssetCommitmentUpdateRequest)
    (snapshot : AssetCommitmentSnapshot) (next : AssetCommitmentStore),
    ((commitmentMachine acceptingLdk).run ops).channels[id]? = some current ∧
      current.localBalance = 1000000 ∧
      current.buildCommitmentUpdate 1000000 0 regtestNonce = .ok u ∧
      ((commitmentMachine acceptingLdk).run ops).applyUpdate acceptingLdk u =
        .ok (snapshot, next) ∧
      snapshot.localBalance = 0 ∧ snapshot.remoteBalance = 2000000 := by
  obtain ⟨c, root, id, state, updated, request, _, h⟩ := regtest_run
  obtain ⟨u, snapshot, drained, hdrains⟩ := h.drains
  have hunused : state.usedAssetNonces[regtestNonce]? = none := by
    rw [h.takenOver.funded.nonces]
    simp
  have hagrees := (built_iff_applied acceptingLdk_buildsBlobs acceptingLdk_acceptsOwnBlobs _ _ state
    (regtest_held h)).1 _ _ _ u hunused hdrains.built
  rcases hagrees.applied with hzero | ⟨snapshot', drained', -, happly⟩
  · rw [hdrains.virtualTxId] at hzero
    exact absurd hzero (by decide)
  · have hsame : snapshot' = snapshot := by
      have hboth := happly
      rw [regtest_initialized h.initializes, hdrains.applied] at hboth
      exact (Prod.mk.inj (Except.ok.inj hboth)).1.symm
    subst hsame
    exact ⟨_, _, state, u, _, _, regtest_held h, h.before.localBalance, hdrains.built, happly,
      hdrains.balances⟩

end TapLdk.CommitmentBuilds
