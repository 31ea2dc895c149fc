import Mathlib
import TapLdk.RegtestChannel

/-! The genesis of the proofs a close exports, and the next channel they are brought into. -/
namespace TapLdk.AssetCloseGenesis
open TapLdk.LibraryExcept TapLdk.LibraryMaps TapLdk.LibraryBytes TapLdk.LibraryRuns TapLdk.Mssmt
open TapLdk.Asset TapLdk.Proof TapLdk.LdkFork TapLdk.ChannelFunding TapLdk.ChannelFundingSpec
open TapLdk.ChannelFundingAccepts TapLdk.Commitment TapLdk.CommitmentSteps
open TapLdk.CommitmentStory TapLdk.CommitmentAccepts TapLdk.AssetClose TapLdk.AssetCloseSpec
open TapLdk.AssetCloseAccepts TapLdk.RegtestChannel

theorem fundChannel_genesis {ldk : Ldk} {s next : AssetChannelStore}
    {request : AssetChannelFundingRequest} {c : StoredAssetChannel}
    (h : s.fundChannel ldk request = .ok (c, next)) :
    inputs request ≠ [] ∧ ∀ proof ∈ inputs request, proof.genesisOutpoint = c.genesisOutpoint := by
  simp only [AssetChannelStore.fundChannel,
    AssetChannelStore.fundChannelWithForkCommitmentOverride, bind_eq_ok, pure_eq_ok,
    Except.ok.injEq, Prod.mk.injEq] at h
  obtain ⟨_, -, localInputs, hlocal, remoteInputs, hremote, genesis, hgenesis, _, -, _, -, _, -,
    _, -, _, -, _, -, _, -, _, -, _, -, _, -, _, -, rfl, -⟩ := h
  obtain ⟨rfl, -⟩ := validateFundingInputs_spec hlocal
  obtain ⟨rfl, -⟩ := validateFundingInputs_spec hremote
  rw [← List.map_append] at hgenesis
  simp only [sharedGenesis, bind_eq_ok, okOr_eq_ok, rejectIf_eq_ok, exists_const, pure_eq_ok,
    Except.ok.injEq, not_exists, not_and, not_not] at hgenesis
  obtain ⟨first, hfirst, hall, rfl⟩ := hgenesis
  refine ⟨?_, fun proof hproof => hall (fundingInput proof) (List.mem_map_of_mem hproof)⟩
  intro hnil
  rw [inputs] at hnil
  rw [hnil] at hfirst
  cases hfirst

/-- A proof that a close exports to one of its sides. -/
def Exported (close : NativeAssetClose) (proof : ProofFile) : Prop :=
  close.localProof = .ok proof ∨ close.remoteProof = .ok proof

/-- Both exported proofs carry the genesis, and each can be brought into a channel together
with another proof of that genesis. -/
structure KeepsGenesis (close : NativeAssetClose) (genesis : String) : Prop where
  localProof : ∃ proof, close.localProof = .ok proof ∧ proof.genesisOutpoint = genesis
  remoteProof : ∃ proof, close.remoteProof = .ok proof ∧ proof.genesisOutpoint = genesis
  fundable : ∀ exported other store request, Exported close exported →
    other.genesisOutpoint = genesis → StoreValid store →
    (inputs request).Perm [exported, other] → Fundable store request →
    ∃ channel next, store.fundChannel acceptingLdk request = .ok (channel, next)

theorem exported_genesis {state : AssetCommitmentChannelState} {close : NativeAssetClose}
    (h : Closes state close) {proof : ProofFile} (hproof : Exported close proof) :
    proof.genesisOutpoint = closeGenesisOutpoint state.assetId := by
  rw [← h.assetId]
  rcases hproof with hproof | hproof
  · obtain ⟨proof', hproof', hgenesis, -⟩ := h.valid.localProof
    rw [hproof, Except.ok.injEq] at hproof'
    rw [hproof', hgenesis]
  · obtain ⟨proof', hproof', hgenesis, -⟩ := h.valid.remoteProof
    rw [hproof, Except.ok.injEq] at hproof'
    rw [hproof', hgenesis]

/-- A close keeps the one genesis that it derives from the asset, and no other. -/
theorem keepsGenesis_iff {state : AssetCommitmentChannelState} {close : NativeAssetClose}
    (h : Closes state close) (genesis : String) :
    KeepsGenesis close genesis ↔ genesis = closeGenesisOutpoint state.assetId := by
  obtain ⟨localProof, hlocal, -⟩ := h.valid.localProof
  obtain ⟨remoteProof, hremote, -⟩ := h.valid.remoteProof
  constructor
  · intro hkeeps
    obtain ⟨proof, hproof, rfl⟩ := hkeeps.localProof
    exact exported_genesis h (.inl hproof)
  · rintro rfl
    refine ⟨⟨_, hlocal, exported_genesis h (.inl hlocal)⟩,
      ⟨_, hremote, exported_genesis h (.inr hremote)⟩, ?_⟩
    intro exported other store request hexported hother hstore hperm hfundable
    have hshared : ∀ proof ∈ inputs request,
        proof.genesisOutpoint = closeGenesisOutpoint state.assetId := by
      intro proof hproof
      have hcases : proof = exported ∨ proof = other := by simpa using hperm.subset hproof
      rcases hcases with rfl | rfl
      · exact exported_genesis h hexported
      · exact hother
    obtain ⟨root, hfund⟩ := fundChannel_ok hstore ⟨hfundable, hshared⟩
    exact ⟨_, _, hfund⟩

/-- A channel funded from proofs of one genesis keeps it through its closes exactly when it is
the genesis that closes of its asset derive. -/
theorem genesis_kept_iff {ldk : Ldk} {closing : LdkClose ldk.ChannelDescriptor}
    {store next : AssetChannelStore} {request : AssetChannelFundingRequest}
    {channel : StoredAssetChannel} {genesis id : String} {ops : List (CommitmentOperation ldk)}
    {localScriptKey remoteScriptKey : CompressedKey} {close : NativeAssetClose}
    (hfund : store.fundChannel ldk request = .ok (channel, next))
    (hgenesis : ∀ proof ∈ inputs request, proof.genesisOutpoint = genesis)
    (hinit : InitializedFrom ldk ops id channel)
    (hclose : cooperativeClose ldk closing ((commitmentMachine ldk).run ops) id localScriptKey
      remoteScriptKey = .ok close) :
    channel.genesisOutpoint = genesis ∧
      (KeepsGenesis close genesis ↔ genesis = closeGenesisOutpoint channel.assetId) := by
  obtain ⟨hne, hshared⟩ := fundChannel_genesis hfund
  obtain ⟨proof, hproof⟩ := List.exists_mem_of_ne_nil _ hne
  refine ⟨(hshared proof hproof).symm.trans (hgenesis proof hproof), ?_⟩
  obtain ⟨state, hstate, hcloses⟩ := cooperativeClose_spec hclose
  obtain ⟨channel', hinit', hstory⟩ := (story_run ldk ops).channel id state hstate
  obtain rfl := initializedFrom_unique hinit hinit'
  rw [keepsGenesis_iff hcloses, hstory.assetId]

section Regtest

variable {c : FundedChannel acceptingLdk} {root : RootHashSum} {id : Bytes32}
  {state updated : AssetCommitmentChannelState} {request : AssetCommitmentUpdateRequest}
  {snapshot : AssetCommitmentSnapshot}

theorem first_initializedFrom (hid : c.channel.channelId = regtestChannelId)
    (h : AssetCommitmentStore.default.initializeChannel acceptingLdk c.channel =
      .ok (state, AssetCommitmentStore.default.putChannel regtestChannelId state)) :
    InitializedFrom acceptingLdk [.initializeChannel c] regtestChannelId c.channel := by
  refine ⟨[], [], c, state, rfl, rfl, hid, ?_⟩
  rw [List.nil_append, regtest_initialized h]
  exact initializeChannel_spec h

theorem first_closed (hclosable : Closable state id regtestKey regtestKey)
    (h : AssetCommitmentStore.default.initializeChannel acceptingLdk c.channel =
      .ok (state, AssetCommitmentStore.default.putChannel regtestChannelId state)) :
    cooperativeClose acceptingLdk acceptingClose
      ((commitmentMachine acceptingLdk).run [.initializeChannel c]) regtestChannelId regtestKey
      regtestKey = .ok (acceptedClose state id regtestKey regtestKey) := by
  rw [regtest_initialized h]
  exact cooperativeClose_ok (get_insert_self ..) hclosable

theorem regtest_closed (h : RegtestRun c root id state updated request snapshot) :
    cooperativeClose acceptingLdk acceptingClose
      ((commitmentMachine acceptingLdk).run [.initializeChannel c]) regtestChannelId regtestKey
      regtestKey = .ok (acceptedClose state id regtestKey regtestKey) :=
  first_closed (closable_before h) h.initializes

theorem twoPeer_genesis : ∀ proof ∈ inputs twoPeerFunding, proof.genesisOutpoint =
    regtestGenesis := twoPeerFunding_acceptable.shared

/-- The peers bring the same assets, exported by a close. -/
def exportedFunding : AssetChannelFundingRequest :=
  { twoPeerFunding with
    localInputs := [exportedProof regtestAnchor]
    remoteInputs := [exportedProof regtestRemoteAnchor] }

theorem exportedFunding_acceptable : Acceptable .default exportedFunding regtestCloseGenesis where
  localPeer := twoPeerFunding_acceptable.localPeer
  remotePeer := twoPeerFunding_acceptable.remotePeer
  outpoint := twoPeerFunding_acceptable.outpoint
  nonempty := by simp [inputs, exportedFunding]
  spendable proof hproof := by
    have hcases : proof = exportedProof regtestAnchor ∨
        proof = exportedProof regtestRemoteAnchor := by
      simpa [inputs, exportedFunding] using hproof
    have hgenesis : outpointOf regtestCloseGenesis ≠ none := by decide +kernel
    rcases hcases with rfl | rfl
    · exact ⟨exportedProof_verified (by decide +kernel) hgenesis (by decide +kernel), rfl,
        by simp [AssetChannelStore.default]⟩
    · exact ⟨exportedProof_verified (by decide +kernel) hgenesis (by decide +kernel), rfl,
        by simp [AssetChannelStore.default]⟩
  distinct := twoPeerFunding_acceptable.distinct
  shared proof hproof := by
    have hcases : proof = exportedProof regtestAnchor ∨
        proof = exportedProof regtestRemoteAnchor := by
      simpa [inputs, exportedFunding] using hproof
    rcases hcases with rfl | rfl <;> rfl
  bounded := twoPeerFunding_acceptable.bounded
  count := twoPeerFunding_acceptable.count
  key := regtestKey_prefix
  anchor := twoPeerFunding_acceptable.anchor
  ldkOutpoint := twoPeerFunding_acceptable.ldkOutpoint
  noRoot := rfl
  fresh := twoPeerFunding_acceptable.fresh
  witnesses := twoPeerFunding_acceptable.witnesses
  inputDigests := by decide +kernel
  transition := twoPeerFunding_acceptable.transition

/-- The genesis of a proof is no part of the channel id. -/
theorem exported_channelOf (genesis : String) (root : RootHashSum) :
    channelOf exportedFunding genesis root = channelOf twoPeerFunding genesis root := rfl

end Regtest

/-- A close does not keep the genesis of the regtest proofs, and keeps that of exported ones. -/
theorem genesis_kept_iff_regtest :
    (∃ c close, cooperativeClose acceptingLdk acceptingClose
        ((commitmentMachine acceptingLdk).run [.initializeChannel c]) regtestChannelId regtestKey
        regtestKey = .ok close ∧ c.channel.genesisOutpoint = regtestGenesis ∧
      ¬ KeepsGenesis close regtestGenesis) ∧
    ∃ c close, cooperativeClose acceptingLdk acceptingClose
        ((commitmentMachine acceptingLdk).run [.initializeChannel c]) regtestChannelId regtestKey
        regtestKey = .ok close ∧ c.channel.genesisOutpoint = regtestCloseGenesis ∧
      KeepsGenesis close regtestCloseGenesis := by
  constructor
  · obtain ⟨c, root, id, state, updated, request, snapshot, h⟩ := regtest_run
    have hasset : c.channel.assetId = regtestAsset := by
      rw [h.channel]
      rfl
    have hfrom := first_initializedFrom h.channelId h.initializes
    obtain ⟨hgenesis, hiff⟩ := genesis_kept_iff h.funds twoPeer_genesis hfrom (regtest_closed h)
    refine ⟨c, _, regtest_closed h, hgenesis, ?_⟩
    rw [hiff, hasset, closeGenesis_regtest]
    decide
  · obtain ⟨c, root, id, state, hchannel, hfund, hinit, hstate, hcall⟩ :=
      initialized_of_acceptable exportedFunding_acceptable (by decide +kernel)
    rw [exported_channelOf] at hchannel
    have hid : c.channel.channelId = regtestChannelId := by
      rw [hchannel]
      exact channelIdOf_twoPeer
    have hasset : c.channel.assetId = regtestAsset := by
      rw [hchannel]
      rfl
    rw [hid] at hcall
    have hclosed := first_closed (closable_regtest (regtest_takenOver (hchannel ▸ hstate))
      firstClose_computed (hid ▸ hinit.channelId) ⟨"channel-funding-output:" ++ regtestChannelId,
        by decide +kernel⟩ hinit.funding) hcall
    obtain ⟨hgenesis, hiff⟩ := genesis_kept_iff hfund exportedFunding_acceptable.shared
      (first_initializedFrom hid hcall) hclosed
    refine ⟨c, _, hclosed, hgenesis, hiff.mpr ?_⟩
    rw [hasset, closeGenesis_regtest]

/-- The exported proofs of the regtest channel do not carry its genesis, and no library accepts
one of them beside a proof of that genesis. -/
theorem genesis_lost : ∃ c close, InitializedFrom acceptingLdk [.initializeChannel c]
      regtestChannelId c.channel ∧
    AssetChannelStore.default.fundChannel acceptingLdk twoPeerFunding =
      .ok (c.channel, AssetChannelStore.default.insertChannel c.channel) ∧
    (∀ proof ∈ inputs twoPeerFunding, proof.genesisOutpoint = regtestGenesis) ∧
    cooperativeClose acceptingLdk acceptingClose
      ((commitmentMachine acceptingLdk).run [.initializeChannel c]) regtestChannelId regtestKey
      regtestKey = .ok close ∧
    ¬ KeepsGenesis close regtestGenesis ∧
    ∀ exported other ldk store request, Exported close exported →
      other.genesisOutpoint = regtestGenesis → exported ∈ inputs request →
      other ∈ inputs request → ∀ r, AssetChannelStore.fundChannel ldk store request ≠ .ok r := by
  obtain ⟨c, root, id, state, updated, request, snapshot, h⟩ := regtest_run
  obtain ⟨held, hheld, hcloses⟩ := cooperativeClose_spec (regtest_closed h)
  rw [regtest_initialized h.initializes, AssetCommitmentStore.putChannel, get_insert_self,
    Option.some.injEq] at hheld
  subst hheld
  have hne : regtestGenesis ≠ closeGenesisOutpoint state.assetId := by
    rw [h.before.assetId, closeGenesis_regtest]
    decide
  refine ⟨c, _, first_initializedFrom h.channelId h.initializes, h.funds, twoPeer_genesis,
    regtest_closed h,
    fun hkeeps => hne ((keepsGenesis_iff hcloses _).mp hkeeps), ?_⟩
  rintro exported other ldk store funding hexported hother hin hin' ⟨channel, next⟩ hfund
  obtain ⟨-, hshared⟩ := fundChannel_genesis hfund
  have hexportedGenesis := exported_genesis hcloses hexported
  rw [hshared exported hin, ← hshared other hin', hother] at hexportedGenesis
  exact hne hexportedGenesis

end TapLdk.AssetCloseGenesis
