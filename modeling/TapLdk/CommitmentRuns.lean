import Mathlib
import TapLdk.ChannelFundingRuns
import TapLdk.CommitmentBuilds

/-! What a run of the commitment store leaves of each channel: its story, and which nonces its
commitments carry. -/
namespace TapLdk.CommitmentRuns
open TapLdk.LibraryExcept TapLdk.LibraryMaps TapLdk.LibraryBytes TapLdk.LibrarySha256
open TapLdk.LibraryRuns TapLdk.Mssmt TapLdk.Asset TapLdk.Proof TapLdk.TapVm TapLdk.TapVmIdentity
open TapLdk.LdkFork TapLdk.ChannelFunding TapLdk.ChannelFundingAccepts TapLdk.ChannelFundingRuns
open TapLdk.Commitment TapLdk.CommitmentSteps TapLdk.CommitmentStory TapLdk.CommitmentAccepts
open TapLdk.CommitmentBuilds TapLdk.RegtestChannel

/-- Every channel of a reachable store was initialised from a funded channel, and its state is
the story of as many updates as succeeded on it since. -/
theorem channels_tell_their_story (ldk : Ldk) (ops : List (CommitmentOperation ldk)) (id : String)
    (state : AssetCommitmentChannelState)
    (h : ((commitmentMachine ldk).run ops).channels[id]? = some state) :
    ∃ channel, InitializedFrom ldk ops id channel ∧
      ChannelStory channel (updates ldk ops id) state :=
  (story_run ldk ops).channel id state h

section Regtest

variable {c : FundedChannel acceptingLdk} {root : RootHashSum} {id : Bytes32}
  {state updated : AssetCommitmentChannelState} {request : AssetCommitmentUpdateRequest}
  {snapshot : AssetCommitmentSnapshot}

theorem run_updated (h : RegtestRun c root id state updated request snapshot) :
    (commitmentMachine acceptingLdk).run [.initializeChannel c, .applyUpdate request] =
      (AssetCommitmentStore.default.putChannel regtestChannelId state).putChannel regtestChannelId
        updated := by
  have hsplit : [CommitmentOperation.initializeChannel c, .applyUpdate request] =
    [.initializeChannel c] ++ [.applyUpdate request] := rfl
  rw [hsplit, Machine.run_concat, regtest_initialized h.initializes]
  simp only [commitmentMachine, h.updates, storeAfter_ok]

end Regtest

/-- The story of a channel that was updated once. -/
theorem channels_tell_their_story_regtest : ∃ ops state channel,
    ((commitmentMachine acceptingLdk).run ops).channels[regtestChannelId]? = some state ∧
      state.latestCommitmentNumber = 1 ∧
      ChannelStory channel (updates acceptingLdk ops regtestChannelId) state := by
  obtain ⟨c, root, id, state, updated, request, snapshot, h⟩ := regtest_run
  have hheld : ((commitmentMachine acceptingLdk).run [.initializeChannel c,
      .applyUpdate request]).channels[regtestChannelId]? = some updated := by
    rw [run_updated h]
    exact get_insert_self ..
  obtain ⟨channel, -, hstory⟩ := channels_tell_their_story _ _ _ _ hheld
  exact ⟨_, updated, channel, hheld, h.after.number, hstory⟩

/-- A property of states that initialisation establishes and updates keep is true of every
channel of every reachable store. -/
theorem channels_induction {ldk : Ldk} (P : AssetCommitmentChannelState → Prop)
    (hinit : ∀ (c : FundedChannel ldk) state, FromFunded c.channel state → P state)
    (hupdate : ∀ current request snapshot updated, P current →
      UpdateStep current request snapshot updated → P updated)
    (ops : List (CommitmentOperation ldk)) (id : String) (state : AssetCommitmentChannelState)
    (h : ((commitmentMachine ldk).run ops).channels[id]? = some state) : P state := by
  induction ops using List.reverseRecOn generalizing id state with
  | nil => simp [commitmentMachine, AssetCommitmentStore.default] at h
  | append_singleton ops op ih =>
    rw [Machine.run_concat] at h
    rcases next_cases ((commitmentMachine ldk).run ops) op with ⟨hsame, -⟩ |
      ⟨c, started, -, hinitializes⟩ | ⟨request, current, snapshot, updated, -, -, happlies⟩
    · rw [hsame] at h
      exact ih id state h
    · rw [hinitializes.store] at h
      rcases get_insert_eq_some h with ⟨-, rfl⟩ | ⟨-, h⟩
      · exact hinit c _ hinitializes.funded
      · exact ih id state h
    · rw [happlies.store] at h
      rcases get_insert_eq_some h with ⟨-, rfl⟩ | ⟨-, h⟩
      · exact hupdate current request snapshot _ (ih _ current happlies.held) happlies.step
      · exact ih id state h

/-- The message of the transition that a commitment records. -/
def recordedMessage (state : AssetCommitmentChannelState) (c : StoredAssetCommitment) : Bytes :=
  (state.updateTransition c.localBalance c.remoteBalance c.assetNonce).digestPreimage txDomain

/-- The message that names the input of an update's transition. -/
def prevIdMessage (assetId nonce : Bytes32) : Bytes :=
  utf8 "tap-ldk:virtual-prev-id:v1" ++ assetId.bytes ++ beBytes 8 0 ++ nonce.bytes

theorem recordedMessage_sha256 {ldk : Ldk} {ops : List (CommitmentOperation ldk)} {id : String}
    {state : AssetCommitmentChannelState}
    (h : ((commitmentMachine ldk).run ops).channels[id]? = some state) {k : UInt64}
    {c : StoredAssetCommitment} (hc : state.commitments[k]? = some c) :
    sha256 (recordedMessage state c) = c.virtualTxId := by
  refine @channels_induction ldk (fun state => ∀ (k : UInt64) (c : StoredAssetCommitment),
    state.commitments[k]? = some c → sha256 (recordedMessage state c) = c.virtualTxId)
    ?_ ?_ ops id state h k c hc
  · intro funded state hfrom k c hc
    simp [hfrom.commitments] at hc
  · intro current request snapshot updated hcurrent hstep k c hc
    have hsame (d : StoredAssetCommitment) : recordedMessage updated d =
        recordedMessage current d := by
      obtain ⟨blob, -, rfl⟩ := hstep.updated
      rfl
    rw [hsame]
    rw [updated_commitments hstep] at hc
    rcases get_insert_eq_some hc with ⟨-, rfl⟩ | ⟨-, hc⟩
    · exact (txId_eq_ok.mp hstep.checked.virtualTxId).2
    · exact hcurrent k c hc

/-- Equal messages name equal inputs, whose messages hold the nonces. -/
theorem nonce_of_message {state : AssetCommitmentChannelState} {c d : StoredAssetCommitment}
    (h : recordedMessage state c = recordedMessage state d) : c.assetNonce = d.assetNonce ∨
      Collision (prevIdMessage state.assetId c.assetNonce)
        (prevIdMessage state.assetId d.assetNonce) := by
  have hinputs := congrArg AssetVirtualTransition.inputs
    (digestPreimage_inj (sized_updateTransition ..) (sized_updateTransition ..) h)
  have hids : virtualPrevId state.assetId 0 c.assetNonce =
      virtualPrevId state.assetId 0 d.assetNonce := by
    simpa [AssetCommitmentChannelState.updateTransition,
      AssetVirtualTransition.channelBalanceUpdate] using hinputs
  refine (eq_or_collision hids).imp_left fun hmessage => ?_
  exact FixedBytes.ext (List.append_cancel_left hmessage)

/-- Distinct commitments of a channel carry distinct nonces, and distinct transition ids unless
SHA-256 collides on their messages. -/
theorem nonces_distinct (ldk : Ldk) (ops : List (CommitmentOperation ldk)) (id : String)
    (state : AssetCommitmentChannelState)
    (h : ((commitmentMachine ldk).run ops).channels[id]? = some state) (k k' : UInt64)
    (c d : StoredAssetCommitment) (hc : state.commitments[k]? = some c)
    (hd : state.commitments[k']? = some d) (hne : k ≠ k') : c.assetNonce ≠ d.assetNonce ∧
      (c.virtualTxId ≠ d.virtualTxId ∨
        Collision (recordedMessage state c) (recordedMessage state d) ∨
        Collision (prevIdMessage state.assetId c.assetNonce)
          (prevIdMessage state.assetId d.assetNonce)) := by
  obtain ⟨channel, -, hstory⟩ := (story_run ldk ops).channel id state h
  have hnonce : c.assetNonce ≠ d.assetNonce := by
    intro heq
    have hk := (hstory.nonces c.assetNonce k).mpr ⟨c, hc, rfl⟩
    have hk' := (hstory.nonces c.assetNonce k').mpr ⟨d, hd, heq.symm⟩
    exact hne (Option.some.inj (hk.symm.trans hk'))
  refine ⟨hnonce, ?_⟩
  by_cases htx : c.virtualTxId = d.virtualTxId
  · have hsha : sha256 (recordedMessage state c) = sha256 (recordedMessage state d) := by
      rw [recordedMessage_sha256 h hc, recordedMessage_sha256 h hd, htx]
    rcases eq_or_collision hsha with hmessage | hcollision
    · exact .inr (.inr ((nonce_of_message hmessage).resolve_left hnonce))
    · exact .inr (.inl hcollision)
  · exact .inl htx

section Shared

variable {ldk : Ldk} {ops : List (CommitmentOperation ldk)}

theorem run_takeOver {c : FundedChannel ldk} {state : AssetCommitmentChannelState}
    {next : AssetCommitmentStore} (h : ((commitmentMachine ldk).run ops).initializeChannel ldk
      c.channel = .ok (state, next)) :
    (commitmentMachine ldk).run (ops ++ [.initializeChannel c]) = next := by
  rw [Machine.run_concat]
  simp only [commitmentMachine] at h ⊢
  rw [h, storeAfter_ok]

theorem run_update {request : AssetCommitmentUpdateRequest} {snapshot : AssetCommitmentSnapshot}
    {next : AssetCommitmentStore} (h : ((commitmentMachine ldk).run ops).applyUpdate ldk request =
      .ok (snapshot, next)) :
    (commitmentMachine ldk).run (ops ++ [.applyUpdate request]) = next := by
  rw [Machine.run_concat]
  simp only [commitmentMachine] at h ⊢
  rw [h, storeAfter_ok]

theorem movedBalances_zero (state : AssetCommitmentChannelState) :
    state.movedBalances 0 0 = .ok (state.localBalance, state.remoteBalance) := by
  simp only [AssetCommitmentChannelState.movedBalances, bind_eq_ok, okOr_eq_ok, pure_eq_ok,
    checkedSub_eq_some, checkedAdd_eq_some]
  exact ⟨state.localBalance, by simp, state.remoteBalance, by simp, state.localBalance, by simp,
    state.remoteBalance, by simp, rfl⟩

/-- A state after an update that moves nothing. -/
structure EvenlyUpdated (state : AssetCommitmentChannelState) (nonce : Bytes32) (number : UInt64)
    (updated : AssetCommitmentChannelState) : Prop where
  channelId : updated.channelId = state.channelId
  assetId : updated.assetId = state.assetId
  signingKey : updated.assetSigningKey = state.assetSigningKey
  totalAmount : updated.totalAmount = state.totalAmount
  localBalance : updated.localBalance = state.localBalance
  remoteBalance : updated.remoteBalance = state.remoteBalance
  latest : updated.latestCommitmentNumber = number
  nonces : updated.usedAssetNonces = state.usedAssetNonces.insert nonce number
  commitments : ∃ c, updated.commitments = state.commitments.insert number c ∧ c.assetNonce = nonce

/-- A channel takes an update that moves nothing, with a nonce it has not used. -/
theorem update_even {ops : List (CommitmentOperation acceptingLdk)}
    {state : AssetCommitmentChannelState} {number : UInt64} {nonce : Bytes32}
    (hheld : ((commitmentMachine acceptingLdk).run ops).channels[state.channelId]? = some state)
    (hnumber : checkedAdd state.latestCommitmentNumber 1 = some number)
    (hunused : state.usedAssetNonces[nonce]? = none)
    (hwitness : (AssetVirtualTransition.updateWitness state.assetId nonce).NonZero)
    (htx : (state.updateTransition state.localBalance state.remoteBalance nonce).digest
      "tap-ldk:asset-virtual-tx:v2" ≠ Bytes32.ZERO) : ∃ request updated,
      EvenlyUpdated state nonce number updated ∧
      (commitmentMachine acceptingLdk).run (ops ++ [.applyUpdate request]) =
        ((commitmentMachine acceptingLdk).run ops).putChannel state.channelId updated := by
  have hreached := reachedState hheld
  obtain ⟨request, snapshot, -, hbuilt, hlocal, hremote⟩ := buildCommitmentUpdate_ok hnumber
    (movedBalances_zero state) hreached.valid.balances hunused hwitness
  have hchannel := hbuilt.valid.channelId
  have hne : request.virtualTxId ≠ Bytes32.ZERO := by
    rwa [hbuilt.virtualTxId, hlocal, hremote]
  obtain ⟨updated, hstep, hcall⟩ := applies_of_valid acceptingLdk_buildsBlobs
    acceptingLdk_acceptsOwnBlobs (reached_run acceptingLdk ops).valid (by rwa [hchannel]) hreached
    hbuilt.valid hne
  rw [hchannel] at hcall
  have hnext : request.nextCommitmentNumber = number := by
    rw [← UInt64.toNat_inj, hbuilt.valid.number, checkedAdd_eq_some.mp hnumber]
    rfl
  have hsnapshot := (snapshot_number hstep).trans hnext
  have hcommitments := updated_commitments hstep
  refine ⟨request, updated, ?_, run_update hcall⟩
  obtain ⟨blob, -, rfl⟩ := hstep.updated
  constructor
  case localBalance => exact hlocal
  case remoteBalance => exact hremote
  case latest => exact hsnapshot
  case nonces => rw [← hsnapshot, ← hbuilt.assetNonce]; rfl
  case commitments =>
    rw [hnext] at hcommitments
    exact ⟨_, hcommitments, hbuilt.assetNonce⟩
  all_goals rfl

/-- The first update of a channel of the regtest asset, with the regtest nonce. -/
theorem update_regtest {ops : List (CommitmentOperation acceptingLdk)}
    {state : AssetCommitmentChannelState} (hheld : ((commitmentMachine acceptingLdk).run
      ops).channels[state.channelId]? = some state) (hasset : state.assetId = regtestAsset)
    (hunused : state.usedAssetNonces = ∅) (hnumber : state.latestCommitmentNumber = 0)
    (htx : (state.updateTransition state.localBalance state.remoteBalance regtestNonce).digest
      "tap-ldk:asset-virtual-tx:v2" ≠ Bytes32.ZERO) : ∃ request updated,
      EvenlyUpdated state regtestNonce 1 updated ∧
      (commitmentMachine acceptingLdk).run (ops ++ [.applyUpdate request]) =
        ((commitmentMachine acceptingLdk).run ops).putChannel state.channelId updated := by
  have hnext : checkedAdd state.latestCommitmentNumber 1 = some 1 := by
    rw [hnumber]
    rfl
  have hwitness : (AssetVirtualTransition.updateWitness state.assetId regtestNonce).NonZero := by
    rw [hasset]
    decide +kernel
  exact update_even hheld hnext (by simp [hunused]) hwitness htx

end Shared

def regtestSecondNonce : Bytes32 := ⟨beBytes 32 2, beBytes_length ..⟩

/-- Two updates of one channel, with two nonces. -/
theorem nonces_distinct_regtest : ∃ ops state c d,
    ((commitmentMachine acceptingLdk).run ops).channels[regtestChannelId]? = some state ∧
      state.commitments[(1 : UInt64)]? = some c ∧ state.commitments[(2 : UInt64)]? = some d ∧
      c.assetNonce ≠ d.assetNonce := by
  obtain ⟨c, _, _, state, _, _, _, h⟩ := regtest_run
  have hfunded := (initializeChannel_spec h.initializes).funded
  have hheld : ((commitmentMachine acceptingLdk).run [.initializeChannel c]).channels[
      state.channelId]? = some state := by
    rw [regtest_initialized h.initializes, h.before.channelId]
    exact get_insert_self ..
  obtain ⟨request, first, hfirst, hrun⟩ := update_regtest hheld h.before.assetId hfunded.nonces
    h.before.number (by
      rw [AssetCommitmentChannelState.updateTransition, h.before.assetId, h.before.total,
        h.before.localBalance, h.before.remoteBalance, evenUpdateTxId_eq]
      decide)
  have hassets := hfirst.assetId.trans h.before.assetId
  have hheld' : ((commitmentMachine acceptingLdk).run ([.initializeChannel c] ++
      [.applyUpdate request])).channels[first.channelId]? = some first := by
    rw [hrun, hfirst.channelId]
    exact get_insert_self ..
  have hunused : first.usedAssetNonces[regtestSecondNonce]? = none := by
    rw [hfirst.nonces, hfunded.nonces, get_insert_ne (by decide)]
    simp
  obtain ⟨request', second, hsecond, hrun'⟩ := @update_even _ first 2 regtestSecondNonce hheld'
    (by rw [hfirst.latest]; rfl) hunused (by rw [hassets]; decide +kernel) (by
      rw [AssetCommitmentChannelState.updateTransition, hassets, hfirst.totalAmount,
        hfirst.localBalance, hfirst.remoteBalance, h.before.total, h.before.localBalance,
        h.before.remoteBalance]
      decide +kernel)
  obtain ⟨c₁, hc₁, -⟩ := hfirst.commitments
  obtain ⟨c₂, hc₂, -⟩ := hsecond.commitments
  have hget : second.commitments[(2 : UInt64)]? = some c₂ := by
    rw [hc₂]
    exact get_insert_self ..
  have hget' : second.commitments[(1 : UInt64)]? = some c₁ := by
    rw [hc₂, hc₁, get_insert_ne (by decide)]
    exact get_insert_self ..
  have hfinal : ((commitmentMachine acceptingLdk).run (([.initializeChannel c] ++
      [.applyUpdate request]) ++ [.applyUpdate request'])).channels[regtestChannelId]? =
        some second := by
    rw [hrun', hfirst.channelId, h.before.channelId]
    exact get_insert_self ..
  exact ⟨_, second, c₁, c₂, hfinal, hget', hget,
    (nonces_distinct _ _ _ _ hfinal 1 2 c₁ c₂ hget' hget (by decide)).1⟩

/-- Two channels, initialised one after the other. -/
theorem two_initialized {c c' : FundedChannel acceptingLdk} {id id' t t' : Bytes32}
    (hinit : Initializable c.channel id t) (hinit' : Initializable c'.channel id' t')
    (hne : c'.channel.channelId ≠ c.channel.channelId) : ∃ state state',
      TakenOver c.channel t state ∧ TakenOver c'.channel t' state' ∧
      (commitmentMachine acceptingLdk).run [.initializeChannel c, .initializeChannel c'] =
        (AssetCommitmentStore.default.putChannel c.channel.channelId state).putChannel
          c'.channel.channelId state' := by
  have hempty (id : String) : AssetCommitmentStore.default.channels[id]? = none := by
    simp [AssetCommitmentStore.default]
  obtain ⟨state, hstate, hcall⟩ := initializeChannel_ok CommitmentAccepts.storeValid_default
    (hempty _) hinit
  have hrun : (commitmentMachine acceptingLdk).run [.initializeChannel c] =
      AssetCommitmentStore.default.putChannel c.channel.channelId state :=
    @run_takeOver acceptingLdk [] _ _ _ hcall
  obtain ⟨state', hstate', hcall'⟩ := initializeChannel_ok (initializeChannel_spec hcall).valid
    ((get_insert_ne hne).trans (hempty _)) hinit'
  rw [← hrun] at hcall'
  refine ⟨state, state', hstate, hstate', ?_⟩
  rw [← hrun]
  exact run_takeOver hcall'

/-- Both take an update with one nonce. -/
theorem two_updated {c c' : FundedChannel acceptingLdk} {id id' t t' : Bytes32}
    (hinit : Initializable c.channel id t) (hinit' : Initializable c'.channel id' t')
    (hne : c'.channel.channelId ≠ c.channel.channelId) (hasset : c.channel.assetId = regtestAsset)
    (hasset' : c'.channel.assetId = regtestAsset)
    (htx : ∀ state, FromFunded c.channel state → (state.updateTransition state.localBalance
      state.remoteBalance regtestNonce).digest "tap-ldk:asset-virtual-tx:v2" ≠ Bytes32.ZERO)
    (htx' : ∀ state, FromFunded c'.channel state → (state.updateTransition state.localBalance
      state.remoteBalance regtestNonce).digest "tap-ldk:asset-virtual-tx:v2" ≠ Bytes32.ZERO) :
    ∃ ops state state' updated updated', FromFunded c.channel state ∧
      FromFunded c'.channel state' ∧ EvenlyUpdated state regtestNonce 1 updated ∧
      EvenlyUpdated state' regtestNonce 1 updated' ∧
      ((commitmentMachine acceptingLdk).run ops).channels[c.channel.channelId]? = some updated ∧
      ((commitmentMachine acceptingLdk).run ops).channels[c'.channel.channelId]? =
        some updated' := by
  obtain ⟨state, state', hstate, hstate', hrun⟩ := two_initialized hinit hinit' hne
  have hheld : ((commitmentMachine acceptingLdk).run [.initializeChannel c,
      .initializeChannel c']).channels[state.channelId]? = some state := by
    rw [hrun, hstate.funded.channelId]
    exact (get_insert_ne hne.symm).trans (get_insert_self ..)
  obtain ⟨request, updated, hupdated, hrun₁⟩ := update_regtest hheld
    (hstate.funded.assetId.trans hasset) hstate.funded.nonces
    (hstate.funded.number.trans hinit.funded.number) (htx state hstate.funded)
  rw [hstate.funded.channelId] at hrun₁
  have hheld' : ((commitmentMachine acceptingLdk).run ([.initializeChannel c,
      .initializeChannel c'] ++ [.applyUpdate request])).channels[state'.channelId]? =
        some state' := by
    rw [hrun₁, hrun, hstate'.funded.channelId]
    exact (get_insert_ne hne).trans (get_insert_self ..)
  obtain ⟨request', updated', hupdated', hrun₂⟩ := update_regtest hheld'
    (hstate'.funded.assetId.trans hasset') hstate'.funded.nonces
    (hstate'.funded.number.trans hinit'.funded.number) (htx' state' hstate'.funded)
  rw [hstate'.funded.channelId] at hrun₂
  refine ⟨[.initializeChannel c, .initializeChannel c'] ++ [.applyUpdate request] ++
    [.applyUpdate request'], state, state', updated, updated', hstate.funded, hstate'.funded,
    hupdated, hupdated', ?_, ?_⟩
  · rw [hrun₂, hrun₁]
    exact (get_insert_ne hne.symm).trans (get_insert_self ..)
  · rw [hrun₂]
    exact get_insert_self ..

/-- Two channels that two fundings made in turn, with one key and one asset, are both updated
with one nonce. -/
theorem nonce_shared_by_channels : ∃ (ops : List (CommitmentOperation acceptingLdk))
    (id id' : String) (state state' : AssetCommitmentChannelState) (k k' : UInt64)
    (c d : StoredAssetCommitment), id ≠ id' ∧
      ((commitmentMachine acceptingLdk).run ops).channels[id]? = some state ∧
      ((commitmentMachine acceptingLdk).run ops).channels[id']? = some state' ∧
      state.assetSigningKey = state'.assetSigningKey ∧ state.assetId = state'.assetId ∧
      state.commitments[k]? = some c ∧ state'.commitments[k']? = some d ∧
      c.assetNonce = d.assetNonce := by
  obtain ⟨root, hfirst⟩ := fundChannel_ok ChannelFundingAccepts.storeValid_default
    twoPeerFunding_acceptable
  have hfunded : ChannelFundingSpec.StoreValid (twoPeerStore root) :=
    (ChannelFundingSpec.fundChannel_spec hfirst).valid
  obtain ⟨root', hsecond⟩ := fundChannel_ok hfunded secondFunding_acceptable
  obtain ⟨_, hinit⟩ := initializable_of_acceptable twoPeerFunding_acceptable hfirst
    (by decide +kernel)
  obtain ⟨_, hinit'⟩ := initializable_of_acceptable secondFunding_acceptable hsecond
    (by decide +kernel)
  have htx (state : AssetCommitmentChannelState)
      (h : FromFunded (channelOf twoPeerFunding regtestGenesis root) state) :
      (state.updateTransition state.localBalance state.remoteBalance regtestNonce).digest
        "tap-ldk:asset-virtual-tx:v2" ≠ Bytes32.ZERO := by
    have hasset : state.assetId = regtestAsset := h.assetId
    have htotal : state.totalAmount = 2000000 := h.totalAmount
    have hlocal : state.localBalance = 1000000 := h.localBalance
    have hremote : state.remoteBalance = 1000000 := h.remoteBalance
    rw [AssetCommitmentChannelState.updateTransition, hasset, htotal, hlocal, hremote,
      evenUpdateTxId_eq]
    decide
  have htx' (state : AssetCommitmentChannelState)
      (h : FromFunded (channelOf secondFunding regtestGenesis root') state) :
      (state.updateTransition state.localBalance state.remoteBalance regtestNonce).digest
        "tap-ldk:asset-virtual-tx:v2" ≠ Bytes32.ZERO := by
    have hasset : state.assetId = regtestAsset := h.assetId
    have htotal : state.totalAmount = 1000000 := h.totalAmount
    have hlocal : state.localBalance = 1000000 := h.localBalance
    have hremote : state.remoteBalance = 0 := h.remoteBalance
    rw [AssetCommitmentChannelState.updateTransition, hasset, htotal, hlocal, hremote]
    decide +kernel
  obtain ⟨ops, state, state', updated, updated', hfrom, hfrom', hupdated, hupdated', hheld,
    hheld'⟩ := @two_updated ⟨_, _, _, _, hfirst⟩ ⟨_, _, _, _, hsecond⟩ _ _ _ _ hinit hinit'
      second_channelId rfl rfl htx htx'
  obtain ⟨c, hc, hnonce⟩ := hupdated.commitments
  obtain ⟨d, hd, hnonce'⟩ := hupdated'.commitments
  refine ⟨ops, _, _, updated, updated', 1, 1, c, d, second_channelId.symm, hheld, hheld', ?_, ?_,
    hc ▸ get_insert_self .., hd ▸ get_insert_self .., hnonce.trans hnonce'.symm⟩
  · rw [hupdated.signingKey, hfrom.signingKey, hupdated'.signingKey, hfrom'.signingKey]
    rfl
  · rw [hupdated.assetId, hfrom.assetId, hupdated'.assetId, hfrom'.assetId]
    rfl

end TapLdk.CommitmentRuns
