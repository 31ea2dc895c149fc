import Mathlib
import TapLdk.CommitmentSteps

/-! Every channel of a reachable commitment store is the funded channel followed by its
updates: one commitment a number, all but the last revoked, one nonce and one history
output each, and the balances of the last. -/
namespace TapLdk.CommitmentStory
open TapLdk.LibraryExcept TapLdk.LibraryMaps TapLdk.LibraryBytes TapLdk.LibraryRuns
open TapLdk.Mssmt TapLdk.Asset TapLdk.LdkFork TapLdk.ChannelFunding TapLdk.ChannelFundingSpec
open TapLdk.Commitment TapLdk.CommitmentSteps

/-- The commitment recorded under a number. -/
def CommitmentAt (state : AssetCommitmentChannelState) (k : ℕ) (c : StoredAssetCommitment) : Prop :=
  ∃ key : UInt64, key.toNat = k ∧ state.commitments[key]? = some c

/-- The history output a channel is locked in after `k` updates. -/
def OutputAt (state : AssetCommitmentChannelState) (k : ℕ) (output : String) : Prop :=
  k = 0 ∧ output = state.fundingProofHistoryOutputId ∨
    ∃ c, CommitmentAt state k c ∧ output = c.proofHistoryOutputId

/-- The local and remote balance of a channel after `k` updates. -/
def AllocationAt (channel : StoredAssetChannel) (state : AssetCommitmentChannelState) (k : ℕ)
    (localBalance remoteBalance : UInt64) : Prop :=
  k = 0 ∧ localBalance = channel.localBalance ∧ remoteBalance = channel.remoteBalance ∨
    ∃ c, CommitmentAt state k c ∧ localBalance = c.localBalance ∧ remoteBalance = c.remoteBalance

/-- A funded channel after `n` updates. -/
structure ChannelStory (channel : StoredAssetChannel) (n : ℕ)
    (state : AssetCommitmentChannelState) : Prop where
  channelId : state.channelId = channel.channelId
  assetId : state.assetId = channel.assetId
  fundingOutpoint : state.fundingOutpoint = channel.fundingOutpoint
  signingKey : state.assetSigningKey = channel.fundingScriptKey
  root : state.monitorBlob.fundingRoot = channel.fundingTapAssetRoot
  fundingOutput : state.fundingProofHistoryOutputId = channel.fundingProofHistoryOutputId
  total : state.totalAmount = channel.totalAmount
  balances : state.localBalance.toNat + state.remoteBalance.toNat = channel.totalAmount.toNat
  latest : state.latestCommitmentNumber.toNat = n
  recorded : ∀ k, (∃ c, CommitmentAt state k c) ↔ 1 ≤ k ∧ k ≤ n
  numbered : ∀ k c, CommitmentAt state k c → c.commitmentNumber.toNat = k
  revoked : ∀ k m : UInt64, state.revokedCommitmentNumbers[k]? = some m ↔
    k.toNat < n ∧ m.toNat = k.toNat + 1
  nonces : ∀ (nonce : Bytes32) (k : UInt64), state.usedAssetNonces[nonce]? = some k ↔
    ∃ c, state.commitments[k]? = some c ∧ c.assetNonce = nonce
  chain : ∀ k c, CommitmentAt state (k + 1) c → OutputAt state k c.priorProofHistoryOutputId
  latestOutput : OutputAt state n state.latestProofHistoryOutputId
  allocation : AllocationAt channel state n state.localBalance state.remoteBalance

theorem commitmentAt_empty {state : AssetCommitmentChannelState} (h : state.commitments = ∅) {k : ℕ}
    {c : StoredAssetCommitment} : ¬ CommitmentAt state k c := by
  rintro ⟨key, -, hget⟩
  rw [h] at hget
  simp at hget

/-- The balances of a funded channel add up, and it has no commitment yet. -/
structure Funded (channel : StoredAssetChannel) : Prop where
  number : channel.monitor.commitmentNumber = 0
  balances : channel.localBalance.toNat + channel.remoteBalance.toNat = channel.totalAmount.toNat

theorem funded_of_fundChannel {ldk : Ldk} {s next : AssetChannelStore}
    {request : AssetChannelFundingRequest} {channel : StoredAssetChannel}
    (h : s.fundChannel ldk request = .ok (channel, next)) : Funded channel := by
  have hfunds := fundChannel_spec h
  have hget : next.channels[channel.channelId]? = some channel := by
    rw [hfunds.store]
    exact get_insert_self ..
  have hvalid := hfunds.valid.channel _ _ hget
  simp only [AssetChannelStore.validateChannel, StoredAssetChannel.validateFields, bind_eq_ok,
    rejectIf_eq_ok, okOr_eq_ok, exists_const, checkedAdd_eq_some, ne_eq, not_not] at hvalid
  obtain ⟨-, ⟨-, -, sum, hsum, rfl, -⟩, -⟩ := hvalid
  exact ⟨hfunds.commitmentNumber, hsum.symm⟩

theorem FundedChannel.spec {ldk : Ldk} (c : FundedChannel ldk) : Funded c.channel := by
  obtain ⟨_, _, _, h⟩ := c.funded
  exact funded_of_fundChannel h

theorem story_zero {channel : StoredAssetChannel} {state : AssetCommitmentChannelState}
    (hchannel : Funded channel) (h : FromFunded channel state) : ChannelStory channel 0 state where
  channelId := h.channelId
  assetId := h.assetId
  fundingOutpoint := h.fundingOutpoint
  signingKey := h.signingKey
  root := h.root
  fundingOutput := h.fundingOutput
  total := h.totalAmount
  balances := by rw [h.localBalance, h.remoteBalance, hchannel.balances]
  latest := by simp [h.number, hchannel.number]
  recorded k := by
    constructor
    · rintro ⟨c, hc⟩
      exact absurd hc (commitmentAt_empty h.commitments)
    · omega
  numbered k c hc := absurd hc (commitmentAt_empty h.commitments)
  revoked k m := by simp [h.revoked]
  nonces nonce k := by simp [h.nonces, h.commitments]
  chain k c hc := absurd hc (commitmentAt_empty h.commitments)
  latestOutput := .inl ⟨rfl, h.latestOutput.trans h.fundingOutput.symm⟩
  allocation := .inl ⟨rfl, h.localBalance, h.remoteBalance⟩

section Update

variable {channel : StoredAssetChannel} {n : ℕ} {current updated : AssetCommitmentChannelState}
  {request : AssetCommitmentUpdateRequest} {snapshot : AssetCommitmentSnapshot}

/-- The commitment an update records. -/
def newCommitment (current : AssetCommitmentChannelState) (request : AssetCommitmentUpdateRequest)
    (snapshot : AssetCommitmentSnapshot) : StoredAssetCommitment :=
  let metadata := updateMetadata current request snapshot
  ⟨snapshot.commitmentNumber, snapshot.localBalance, snapshot.remoteBalance, snapshot.stateDigest,
    request.virtualTxId, request.witnessDigest, request.assetNonce, request.assetSignature,
    metadata.priorOutputId, metadata.recordId, metadata.outputId, metadata.transitionId⟩

theorem snapshot_number (h : UpdateStep current request snapshot updated) :
    snapshot.commitmentNumber = request.nextCommitmentNumber := by
  rw [h.checked.snapshot]

theorem updated_commitments (h : UpdateStep current request snapshot updated) :
    updated.commitments = current.commitments.insert request.nextCommitmentNumber
      (newCommitment current request snapshot) := by
  obtain ⟨blob, -, rfl⟩ := h.updated
  rw [← snapshot_number h]
  rfl

theorem commitmentAt_updated (hstory : ChannelStory channel n current)
    (h : UpdateStep current request snapshot updated) {k : ℕ} {c : StoredAssetCommitment} :
    CommitmentAt updated k c ↔
      k = n + 1 ∧ c = newCommitment current request snapshot ∨ CommitmentAt current k c := by
  have hnumber := h.checked.number
  rw [hstory.latest] at hnumber
  simp only [CommitmentAt, updated_commitments h]
  constructor
  · rintro ⟨key, rfl, hget⟩
    rcases get_insert_eq_some hget with ⟨rfl, rfl⟩ | ⟨-, hget⟩
    · exact .inl ⟨hnumber, rfl⟩
    · exact .inr ⟨key, rfl, hget⟩
  · rintro (⟨rfl, rfl⟩ | ⟨key, rfl, hget⟩)
    · exact ⟨_, hnumber, get_insert_self ..⟩
    · have hle := ((hstory.recorded key.toNat).mp ⟨c, key, rfl, hget⟩).2
      have hne : key ≠ request.nextCommitmentNumber := by
        rintro rfl
        omega
      exact ⟨key, rfl, by rwa [get_insert_ne hne]⟩

theorem outputAt_updated (hstory : ChannelStory channel n current)
    (h : UpdateStep current request snapshot updated) {k : ℕ} {output : String}
    (houtput : OutputAt current k output) : OutputAt updated k output := by
  rcases houtput with ⟨rfl, rfl⟩ | ⟨c, hc, rfl⟩
  · obtain ⟨blob, -, rfl⟩ := h.updated
    exact .inl ⟨rfl, rfl⟩
  · exact .inr ⟨c, (commitmentAt_updated hstory h).mpr (.inr hc), rfl⟩

theorem revoked_updated (hstory : ChannelStory channel n current)
    (h : UpdateStep current request snapshot updated) (k m : UInt64) :
    updated.revokedCommitmentNumbers[k]? = some m ↔ k.toNat < n + 1 ∧ m.toNat = k.toNat + 1 := by
  have hnumber := h.checked.number
  have hlatest := hstory.latest
  have hmap : updated.revokedCommitmentNumbers = current.revokedCommitmentNumbers.insert
      current.latestCommitmentNumber request.nextCommitmentNumber := by
    obtain ⟨blob, -, rfl⟩ := h.updated
    rw [← snapshot_number h]
    rfl
  rw [hmap]
  by_cases hk : k = current.latestCommitmentNumber
  · subst hk
    rw [get_insert_self, Option.some.injEq, ← UInt64.toNat_inj]
    omega
  · rw [get_insert_ne hk, hstory.revoked]
    rw [← UInt64.toNat_inj] at hk
    omega

theorem nonces_updated (hstory : ChannelStory channel n current)
    (h : UpdateStep current request snapshot updated) (nonce : Bytes32) (k : UInt64) :
    updated.usedAssetNonces[nonce]? = some k ↔
      ∃ c, updated.commitments[k]? = some c ∧ c.assetNonce = nonce := by
  have hnumber := h.checked.number
  rw [hstory.latest] at hnumber
  have hmap : updated.usedAssetNonces = current.usedAssetNonces.insert request.assetNonce
      request.nextCommitmentNumber := by
    obtain ⟨blob, -, rfl⟩ := h.updated
    rw [← snapshot_number h]
    rfl
  have hfresh : ∀ c, current.commitments[request.nextCommitmentNumber]? ≠ some c := by
    intro c hc
    have hle := ((hstory.recorded _).mp ⟨c, _, rfl, hc⟩).2
    omega
  rw [hmap, updated_commitments h]
  by_cases hk : k = request.nextCommitmentNumber
  · subst hk
    rw [get_insert_self]
    by_cases hn : nonce = request.assetNonce
    · simp [hn, newCommitment]
    · rw [get_insert_ne hn, hstory.nonces]
      constructor
      · rintro ⟨c, hc, -⟩
        exact absurd hc (hfresh c)
      · rintro ⟨_, hc, rfl⟩
        obtain rfl := Option.some.inj hc
        exact absurd rfl hn
  · rw [get_insert_ne hk]
    by_cases hn : nonce = request.assetNonce
    · subst hn
      rw [get_insert_self, Option.some.injEq, ← hstory.nonces, h.checked.nonce]
      simp [Ne.symm hk]
    · rw [get_insert_ne hn]
      exact hstory.nonces nonce k

/-- An update adds one commitment to the story. -/
theorem story_update (hstory : ChannelStory channel n current)
    (h : UpdateStep current request snapshot updated) : ChannelStory channel (n + 1) updated := by
  have hnumber := h.checked.number
  rw [hstory.latest] at hnumber
  have hnew : CommitmentAt updated (n + 1) (newCommitment current request snapshot) :=
    (commitmentAt_updated hstory h).mpr (.inl ⟨rfl, rfl⟩)
  have hconserved := checkedAdd_eq_some.mp h.checked.conserved
  rw [hstory.total] at hconserved
  obtain ⟨blob, hroot, hupdated⟩ := h.updated
  constructor
  case channelId => rw [hupdated]; exact hstory.channelId
  case assetId => rw [hupdated]; exact hstory.assetId
  case fundingOutpoint => rw [hupdated]; exact hstory.fundingOutpoint
  case signingKey => rw [hupdated]; exact hstory.signingKey
  case root => rw [hupdated]; exact hroot.trans hstory.root
  case fundingOutput => rw [hupdated]; exact hstory.fundingOutput
  case total => rw [hupdated]; exact hstory.total
  case balances => rw [hupdated]; exact hconserved.symm
  case latest =>
    rw [hupdated, ← hnumber, ← snapshot_number h]
    rfl
  case recorded =>
    intro k
    simp only [commitmentAt_updated hstory h]
    have hk := hstory.recorded k
    constructor
    · rintro ⟨c, ⟨rfl, -⟩ | hc⟩
      · omega
      · have := hk.mp ⟨c, hc⟩
        omega
    · intro hrange
      by_cases hlast : k = n + 1
      · exact ⟨_, .inl ⟨hlast, rfl⟩⟩
      · obtain ⟨c, hc⟩ := hk.mpr (by omega)
        exact ⟨c, .inr hc⟩
  case numbered =>
    intro k c hc
    rcases (commitmentAt_updated hstory h).mp hc with ⟨rfl, rfl⟩ | hc
    · rw [← hnumber, ← snapshot_number h]
      rfl
    · exact hstory.numbered k c hc
  case revoked => exact revoked_updated hstory h
  case nonces => exact nonces_updated hstory h
  case chain =>
    intro k c hc
    rcases (commitmentAt_updated hstory h).mp hc with ⟨hk, rfl⟩ | hc
    · obtain rfl : k = n := by omega
      exact outputAt_updated hstory h hstory.latestOutput
    · exact outputAt_updated hstory h (hstory.chain k c hc)
  case latestOutput =>
    refine .inr ⟨_, hnew, ?_⟩
    rw [hupdated]
    rfl
  case allocation =>
    refine .inr ⟨_, hnew, ?_⟩
    rw [hupdated]
    exact ⟨rfl, rfl⟩

theorem allocationAt_updated (hstory : ChannelStory channel n current)
    (h : UpdateStep current request snapshot updated) {k : ℕ} {localBalance remoteBalance : UInt64}
    (hallocation : AllocationAt channel current k localBalance remoteBalance) :
    AllocationAt channel updated k localBalance remoteBalance := by
  rcases hallocation with hzero | ⟨c, hc, hbalances⟩
  · exact .inl hzero
  · exact .inr ⟨c, (commitmentAt_updated hstory h).mpr (.inr hc), hbalances⟩

end Update

section Unique

variable {channel : StoredAssetChannel} {n k : ℕ} {state : AssetCommitmentChannelState}

theorem commitmentAt_unique {c d : StoredAssetCommitment} (hc : CommitmentAt state k c)
    (hd : CommitmentAt state k d) : c = d := by
  obtain ⟨key, hkey, hc⟩ := hc
  obtain ⟨key', rfl, hd⟩ := hd
  obtain rfl := UInt64.toNat_inj.mp hkey
  exact Option.some.inj (hc.symm.trans hd)

theorem outputAt_unique (hstory : ChannelStory channel n state) {output output' : String}
    (h : OutputAt state k output) (h' : OutputAt state k output') : output = output' := by
  have hzero (c : StoredAssetCommitment) : ¬ CommitmentAt state 0 c := fun hc => by
    have hrange := (hstory.recorded 0).mp ⟨c, hc⟩
    omega
  rcases h with ⟨rfl, rfl⟩ | ⟨c, hc, rfl⟩ <;> rcases h' with ⟨hk, rfl⟩ | ⟨d, hd, rfl⟩
  · rfl
  · exact absurd hd (hzero d)
  · exact absurd (hk ▸ hc) (hzero c)
  · rw [commitmentAt_unique hc hd]

theorem allocationAt_unique (hstory : ChannelStory channel n state) {l r l' r' : UInt64}
    (h : AllocationAt channel state k l r) (h' : AllocationAt channel state k l' r') :
    l = l' ∧ r = r' := by
  have hzero (c : StoredAssetCommitment) : ¬ CommitmentAt state 0 c := fun hc => by
    have hrange := (hstory.recorded 0).mp ⟨c, hc⟩
    omega
  rcases h with ⟨rfl, rfl, rfl⟩ | ⟨c, hc, rfl, rfl⟩ <;>
    rcases h' with ⟨hk, rfl, rfl⟩ | ⟨d, hd, rfl, rfl⟩
  · exact ⟨rfl, rfl⟩
  · exact absurd hd (hzero d)
  · exact absurd (hk ▸ hc) (hzero c)
  · rw [commitmentAt_unique hc hd]
    exact ⟨rfl, rfl⟩

end Unique

/-- The successful updates of a channel in a run. -/
def updates (ldk : Ldk) (ops : List (CommitmentOperation ldk)) (id : String) : ℕ :=
  (commitmentMachine ldk).count (updatesChannel ldk id) ops

/-- The step of a run that initialised a channel. -/
def InitializedFrom (ldk : Ldk) (ops : List (CommitmentOperation ldk)) (id : String)
    (channel : StoredAssetChannel) : Prop :=
  ∃ before after c state, ops = before ++ .initializeChannel c :: after ∧ c.channel = channel ∧
    channel.channelId = id ∧ Initializes ldk ((commitmentMachine ldk).run before) channel state
      ((commitmentMachine ldk).run (before ++ [.initializeChannel c]))

/-- Every channel of a store is the one some step initialised, after its updates. -/
structure StoreStory (ldk : Ldk) (ops : List (CommitmentOperation ldk))
    (store : AssetCommitmentStore) : Prop where
  channel : ∀ (id : String) (state : AssetCommitmentChannelState),
    store.channels[id]? = some state → ∃ channel, InitializedFrom ldk ops id channel ∧
      ChannelStory channel (updates ldk ops id) state
  absent : ∀ id : String, store.channels[id]? = none → updates ldk ops id = 0

theorem initializedFrom_concat {ldk : Ldk} {ops : List (CommitmentOperation ldk)} {id : String}
    {channel : StoredAssetChannel} (h : InitializedFrom ldk ops id channel)
    (op : CommitmentOperation ldk) : InitializedFrom ldk (ops ++ [op]) id channel := by
  obtain ⟨before, after, c, state, rfl, hc, hid, hinit⟩ := h
  exact ⟨before, after ++ [op], c, state, by simp, hc, hid, hinit⟩

theorem updates_concat (ldk : Ldk) (ops : List (CommitmentOperation ldk))
    (op : CommitmentOperation ldk) (id : String) : updates ldk (ops ++ [op]) id =
      updates ldk ops id + (updatesChannel ldk id ((commitmentMachine ldk).run ops) op).toNat :=
  Machine.count_concat ..

/-- Over every run of initialisations and updates, successful or not, each channel is its
funded channel followed by its successful updates. -/
theorem story_run (ldk : Ldk) (ops : List (CommitmentOperation ldk)) :
    StoreStory ldk ops ((commitmentMachine ldk).run ops) := by
  induction ops using List.reverseRecOn with
  | nil => exact ⟨fun id state h => by simp [commitmentMachine, AssetCommitmentStore.default] at h,
      fun id _ => rfl⟩
  | append_singleton ops op ih =>
    rw [Machine.run_concat]
    rcases next_cases ((commitmentMachine ldk).run ops) op with ⟨hsame, hcount⟩ |
      ⟨c, state, rfl, hinit⟩ | ⟨request, current, snapshot, updated, rfl, hcount, happlies⟩
    · rw [hsame]
      constructor
      · intro id state hget
        obtain ⟨channel, hfrom, hstory⟩ := ih.channel id state hget
        refine ⟨channel, initializedFrom_concat hfrom op, ?_⟩
        rwa [updates_concat, hcount id]
      · intro id hget
        rw [updates_concat, hcount id, ih.absent id hget]
        rfl
    · have hcount (id : String) : updates ldk (ops ++ [.initializeChannel c]) id =
          updates ldk ops id := by
        rw [updates_concat]
        rfl
      have hstore := hinit.store
      constructor
      · intro id held hget
        rw [hstore] at hget
        rcases get_insert_eq_some hget with ⟨rfl, rfl⟩ | ⟨hne, hget⟩
        · refine ⟨c.channel, ⟨ops, [], c, held, rfl, rfl, rfl, ?_⟩, ?_⟩
          · rwa [Machine.run_concat]
          · rw [hcount, ih.absent _ hinit.fresh]
            exact story_zero (FundedChannel.spec c) hinit.funded
        · obtain ⟨channel, hfrom, hstory⟩ := ih.channel id held hget
          exact ⟨channel, initializedFrom_concat hfrom _, (hcount id).symm ▸ hstory⟩
      · intro id hget
        rw [hcount]
        refine ih.absent id ?_
        by_contra hne
        obtain ⟨held, hheld⟩ := Option.ne_none_iff_exists'.mp hne
        by_cases hid : id = c.channel.channelId
        · rw [hid, hinit.fresh] at hheld
          cases hheld
        · rw [hstore] at hget
          have hget' : ((commitmentMachine ldk).run ops).channels[id]? = none := by
            rwa [AssetCommitmentStore.putChannel, get_insert_ne hid] at hget
          exact hne hget'
    · have hstore := happlies.store
      constructor
      · intro id held hget
        rw [hstore] at hget
        rcases get_insert_eq_some hget with ⟨rfl, rfl⟩ | ⟨hne, hget⟩
        · obtain ⟨channel, hfrom, hstory⟩ := ih.channel _ current happlies.held
          refine ⟨channel, initializedFrom_concat hfrom _, ?_⟩
          rw [updates_concat, hcount, beq_self_eq_true]
          exact story_update hstory happlies.step
        · obtain ⟨channel, hfrom, hstory⟩ := ih.channel id held hget
          refine ⟨channel, initializedFrom_concat hfrom _, ?_⟩
          rw [updates_concat, hcount, beq_false_of_ne (Ne.symm hne)]
          exact hstory
      · intro id hget
        have hne : id ≠ request.channelId := by
          rintro rfl
          rw [hstore, AssetCommitmentStore.putChannel, get_insert_self] at hget
          cases hget
        rw [hstore, AssetCommitmentStore.putChannel, get_insert_ne hne] at hget
        rw [updates_concat, hcount, beq_false_of_ne (Ne.symm hne), ih.absent id hget]
        rfl

theorem held_next {ldk : Ldk} {store : AssetCommitmentStore} (op : CommitmentOperation ldk)
    {id : String} (h : store.channels[id]? ≠ none) :
    ((commitmentMachine ldk).next store op).channels[id]? ≠ none := by
  have hinsert (key : String) (state : AssetCommitmentChannelState) :
      (store.putChannel key state).channels[id]? ≠ none := by
    by_cases hkey : id = key
    · rw [AssetCommitmentStore.putChannel, hkey, get_insert_self]
      exact Option.some_ne_none _
    · rwa [AssetCommitmentStore.putChannel, get_insert_ne hkey]
  rcases next_cases store op with ⟨hsame, -⟩ | ⟨c, state, -, hinit⟩ |
    ⟨request, current, snapshot, updated, -, -, happlies⟩
  · rwa [hsame]
  · rw [hinit.store]
    exact hinsert _ _
  · rw [happlies.store]
    exact hinsert _ _

/-- A channel that is held stays held. -/
theorem held_after {ldk : Ldk} {before : List (CommitmentOperation ldk)} {id : String}
    (h : ((commitmentMachine ldk).run before).channels[id]? ≠ none)
    (after : List (CommitmentOperation ldk)) :
    ((commitmentMachine ldk).run (before ++ after)).channels[id]? ≠ none := by
  induction after using List.reverseRecOn with
  | nil => rwa [List.append_nil]
  | append_singleton after op ih =>
    rw [← List.append_assoc, Machine.run_concat]
    exact held_next op ih

theorem held_initialized {ldk : Ldk} {before : List (CommitmentOperation ldk)}
    {c : FundedChannel ldk} {channel : StoredAssetChannel} {state : AssetCommitmentChannelState}
    (h : Initializes ldk ((commitmentMachine ldk).run before) channel state
      ((commitmentMachine ldk).run (before ++ [.initializeChannel c])))
    (after : List (CommitmentOperation ldk)) : ((commitmentMachine ldk).run
      (before ++ .initializeChannel c :: after)).channels[channel.channelId]? ≠ none := by
  have hheld : ((commitmentMachine ldk).run
      (before ++ [.initializeChannel c])).channels[channel.channelId]? ≠ none := by
    rw [h.store, AssetCommitmentStore.putChannel, get_insert_self]
    exact Option.some_ne_none _
  have hsplit : before ++ .initializeChannel c :: after =
      (before ++ [.initializeChannel c]) ++ after := by simp
  rw [hsplit]
  exact held_after hheld after

theorem initializedFrom_unique {ldk : Ldk} {ops : List (CommitmentOperation ldk)} {id : String}
    {channel channel' : StoredAssetChannel} (h : InitializedFrom ldk ops id channel)
    (h' : InitializedFrom ldk ops id channel') : channel = channel' := by
  obtain ⟨before, after, c, state, rfl, rfl, hid, hinit⟩ := h
  obtain ⟨before', after', c', state', heq, rfl, hid', hinit'⟩ := h'
  -- the later of two initialisations would find the channel held
  rcases List.append_eq_append_iff.mp heq with ⟨t, hbefore, hafter⟩ | ⟨t, hbefore, hafter⟩ <;>
    rcases t with _ | ⟨op, t⟩
  · obtain ⟨rfl, -⟩ : c = c' ∧ after = after' := by simpa using hafter
    rfl
  · obtain ⟨rfl, -⟩ := List.cons.inj hafter
    have hheld := held_initialized hinit t
    rw [← hbefore, hid, ← hid'] at hheld
    exact absurd hinit'.fresh hheld
  · obtain ⟨rfl, -⟩ : c' = c ∧ after' = after := by simpa using hafter
    rfl
  · obtain ⟨rfl, -⟩ := List.cons.inj hafter
    have hheld := held_initialized hinit' t
    rw [← hbefore, hid', ← hid] at hheld
    exact absurd hinit.fresh hheld

end TapLdk.CommitmentStory
