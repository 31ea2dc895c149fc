import Mathlib
import TapLdk.RegtestChannel

/-! How often a channel is closed: closes of one commitment have one id, closes of different
commitments do not, and both are recorded. -/
namespace TapLdk.AssetCloseOnce
open TapLdk.LibraryExcept TapLdk.LibraryMaps TapLdk.LibraryBytes TapLdk.LibraryRuns
open TapLdk.Mssmt TapLdk.Asset TapLdk.Proof TapLdk.LdkFork TapLdk.ChannelFunding
open TapLdk.Commitment TapLdk.CommitmentSteps TapLdk.CommitmentStory TapLdk.AssetClose
open TapLdk.AssetCloseSpec TapLdk.AssetCloseAccepts TapLdk.RegtestChannel

/-- The closes recorded for a channel. -/
def recordedCloses (store : NativeAssetCloseStore) (channelId : String) : List NativeAssetClose :=
  (store.closes.toList.map (·.2)).filter fun close => close.channelId == channelId

/-- What the recorded closes of a channel pay out. -/
def closedAmount (store : NativeAssetCloseStore) (channelId : String) : ℕ :=
  ((recordedCloses store channelId).map fun close =>
    close.localAmount.toNat + close.remoteAmount.toNat).sum

structure ClosedOnce (s : CloseState) (channelId : String) : Prop where
  closes : (recordedCloses s.closes channelId).length ≤ 1
  amount : ∀ state, s.commitments.channels[channelId]? = some state →
    closedAmount s.closes channelId ≤ state.totalAmount.toNat

/-- A close is recorded only beside closes of its channel's same commitment. -/
def SameCommitment {ldk : Ldk} (s : CloseState) : CloseOperation ldk → Prop
  | .recordClose index => ∀ (id : String) (close recorded : NativeAssetClose),
    s.returned[index]? = some close → s.closes.closes[id]? = some recorded →
      recorded.channelId = close.channelId → recorded.commitmentNumber = close.commitmentNumber
  | _ => True

/-- A close that is of some commitment a channel has had. -/
structure CloseFits (channel : StoredAssetChannel) (n : ℕ) (state : AssetCommitmentChannelState)
    (close : NativeAssetClose) : Prop where
  valid : CloseValid close
  assetId : close.assetId = channel.assetId
  totalAmount : close.totalAmount = channel.totalAmount
  number : close.commitmentNumber.toNat ≤ n
  allocation : AllocationAt channel state close.commitmentNumber.toNat close.localAmount
    close.remoteAmount
  output : OutputAt state close.commitmentNumber.toNat close.priorProofHistoryOutputId

section Fits

variable {channel : StoredAssetChannel} {n : ℕ} {current updated : AssetCommitmentChannelState}
  {request : AssetCommitmentUpdateRequest} {snapshot : AssetCommitmentSnapshot}
  {close close' : NativeAssetClose}

theorem closeFits_closes (hstory : ChannelStory channel n current) (h : Closes current close) :
    CloseFits channel n current close where
  valid := h.valid
  assetId := h.assetId.trans hstory.assetId
  totalAmount := h.totalAmount.trans hstory.total
  number := by rw [h.number, hstory.latest]
  allocation := by
    rw [h.number, hstory.latest, h.localAmount, h.remoteAmount]
    exact hstory.allocation
  output := by
    rw [h.number, hstory.latest, h.priorOutput]
    exact hstory.latestOutput

theorem closeFits_updated (hstory : ChannelStory channel n current)
    (hstep : UpdateStep current request snapshot updated) (h : CloseFits channel n current close) :
    CloseFits channel (n + 1) updated close :=
  ⟨h.valid, h.assetId, h.totalAmount, by have := h.number; omega,
    allocationAt_updated hstory hstep h.allocation, outputAt_updated hstory hstep h.output⟩

/-- Closes of one commitment have one id. -/
theorem closeId_eq (hstory : ChannelStory channel n current) (h : CloseFits channel n current close)
    (h' : CloseFits channel n current close') (hchannel : close.channelId = close'.channelId)
    (hnumber : close.commitmentNumber = close'.commitmentNumber) :
    close.closeId = close'.closeId := by
  have hallocation := h'.allocation
  have houtput := h'.output
  rw [← hnumber] at hallocation houtput
  obtain ⟨hlocal, hremote⟩ := allocationAt_unique hstory h.allocation hallocation
  rw [h.valid.closeId, h'.valid.closeId, hchannel, hnumber, hlocal, hremote, h.assetId, h'.assetId,
    outputAt_unique hstory h.output houtput]

end Fits

/-- Every returned close is of a commitment of its channel, and the recorded closes are
returned ones, under their ids, one a channel. -/
structure CloseInvariant (s : CloseState) : Prop where
  fits : ∀ (id : String) (state : AssetCommitmentChannelState),
    s.commitments.channels[id]? = some state → state.channelId = id ∧ ∃ channel n,
      ChannelStory channel n state ∧
        ∀ close ∈ s.returned, close.channelId = id → CloseFits channel n state close
  known : ∀ close ∈ s.returned, ∃ state, s.commitments.channels[close.channelId]? = some state
  recorded : ∀ (id : String) (close : NativeAssetClose), s.closes.closes[id]? = some close →
    id = close.closeId ∧ close ∈ s.returned
  once : ∀ (id id' : String) (close close' : NativeAssetClose),
    s.closes.closes[id]? = some close → s.closes.closes[id']? = some close' →
      close.channelId = close'.channelId → id = id'

theorem invariant_commitment {ldk : Ldk} {s : CloseState} (h : CloseInvariant s)
    (op : CommitmentOperation ldk) :
    CloseInvariant { s with commitments := (commitmentMachine ldk).next s.commitments op } := by
  rcases next_cases s.commitments op with ⟨hsame, -⟩ | ⟨c, state, rfl, hinit⟩ |
    ⟨request, current, snapshot, updated, rfl, -, happlies⟩
  · rwa [hsame]
  · have hstore := hinit.store
    refine ⟨fun id held hget => ?_, fun close hclose => ?_, h.recorded, h.once⟩
    · dsimp only at hget
      rw [hstore] at hget
      rcases get_insert_eq_some hget with ⟨rfl, rfl⟩ | ⟨-, hget⟩
      · refine ⟨hinit.funded.channelId, c.channel, 0,
          story_zero (FundedChannel.spec c) hinit.funded, fun close hclose hid => ?_⟩
        obtain ⟨state, hstate⟩ := h.known close hclose
        rw [hid, hinit.fresh] at hstate
        cases hstate
      · exact h.fits id held hget
    · obtain ⟨held, hheld⟩ := h.known close hclose
      have hne : close.channelId ≠ c.channel.channelId := by
        intro hid
        rw [hid, hinit.fresh] at hheld
        cases hheld
      refine ⟨held, ?_⟩
      dsimp only
      rw [hstore]
      exact (get_insert_ne hne).trans hheld
  · have hstore := happlies.store
    obtain ⟨hid, channel, n, hstory, hfits⟩ := h.fits _ current happlies.held
    refine ⟨fun id held hget => ?_, fun close hclose => ?_, h.recorded, h.once⟩
    · dsimp only at hget
      rw [hstore] at hget
      rcases get_insert_eq_some hget with ⟨rfl, rfl⟩ | ⟨-, hget⟩
      · have hnext := story_update hstory happlies.step
        exact ⟨hnext.channelId.trans (hstory.channelId.symm.trans hid), channel, n + 1, hnext,
          fun close hclose hsame => closeFits_updated hstory happlies.step (hfits close hclose hsame)⟩
      · exact h.fits id held hget
    · obtain ⟨held, hheld⟩ := h.known close hclose
      dsimp only
      rw [hstore]
      by_cases hsame : close.channelId = request.channelId
      · rw [hsame]
        exact ⟨_, get_insert_self ..⟩
      · exact ⟨held, (get_insert_ne hsame).trans hheld⟩

theorem invariant_step {ldk : Ldk} {closing : LdkClose ldk.ChannelDescriptor} {s : CloseState}
    {op : CloseOperation ldk} (h : CloseInvariant s) (hguard : SameCommitment s op) :
    CloseInvariant ((closeMachine ldk closing).next s op) := by
  rcases @close_next_cases ldk closing s op with ⟨c, rfl, hnext⟩ | hnext |
    ⟨id, close, state, hstate, hclose, hnext⟩ |
    ⟨index, close, next, rfl, hreturned, hfresh, hcloses, hnext⟩
  · rw [hnext]
    exact invariant_commitment h c
  · rwa [hnext]
  · rw [hnext]
    obtain ⟨hid, channel, n, hstory, hfits⟩ := h.fits id state hstate
    have hchannel : close.channelId = id := hclose.channelId.trans hid
    refine ⟨fun id' held hget => ?_, fun other hother => ?_, fun key other hget => ?_, h.once⟩
    · by_cases hsame : id' = id
      · subst hsame
        obtain rfl := Option.some.inj (hstate.symm.trans hget)
        refine ⟨hid, channel, n, hstory, fun other hother hin => ?_⟩
        rcases List.mem_append.mp hother with hold | hnew
        · exact hfits other hold hin
        · obtain rfl := List.mem_singleton.mp hnew
          exact closeFits_closes hstory hclose
      · obtain ⟨hheld, channel', n', hstory', hfits'⟩ := h.fits id' held hget
        refine ⟨hheld, channel', n', hstory', fun other hother hin => ?_⟩
        rcases List.mem_append.mp hother with hold | hnew
        · exact hfits' other hold hin
        · obtain rfl := List.mem_singleton.mp hnew
          exact absurd (hin.symm.trans hchannel) hsame
    · rcases List.mem_append.mp hother with hold | hnew
      · exact h.known other hold
      · obtain rfl := List.mem_singleton.mp hnew
        exact ⟨state, hchannel ▸ hstate⟩
    · obtain ⟨hkey, hmem⟩ := h.recorded key other hget
      exact ⟨hkey, List.mem_append_left _ hmem⟩
  · rw [hnext]
    have hmem := List.mem_of_getElem? hreturned
    -- a recorded close of the same channel would be of the same commitment, so under the same id
    have hnone (id : String) (other : NativeAssetClose) (hget : s.closes.closes[id]? = some other) :
        other.channelId ≠ close.channelId := by
      intro hchannel
      obtain ⟨hid, hother⟩ := h.recorded id other hget
      obtain ⟨state, hstate⟩ := h.known close hmem
      obtain ⟨-, channel, n, hstory, hfits⟩ := h.fits _ state hstate
      have hsame := closeId_eq hstory (hfits other hother hchannel) (hfits close hmem rfl) hchannel
        (hguard id close other hreturned hget hchannel)
      rw [hid, hsame, hfresh] at hget
      cases hget
    refine ⟨h.fits, h.known, fun id other hget => ?_, fun id id' other other' hget hget' hin => ?_⟩
    · rw [hcloses] at hget
      rcases get_insert_eq_some hget with ⟨rfl, rfl⟩ | ⟨-, hget⟩
      · exact ⟨rfl, hmem⟩
      · exact h.recorded id other hget
    · rw [hcloses] at hget hget'
      rcases get_insert_eq_some hget with ⟨rfl, rfl⟩ | ⟨-, hold⟩ <;>
        rcases get_insert_eq_some hget' with ⟨rfl, rfl⟩ | ⟨-, hold'⟩
      · rfl
      · exact absurd hin.symm (hnone id' other' hold')
      · exact absurd hin (hnone id other hold)
      · exact h.once id id' other other' hold hold' hin

theorem invariant_run {ldk : Ldk} {closing : LdkClose ldk.ChannelDescriptor}
    {ops : List (CloseOperation ldk)} (h : (closeMachine ldk closing).Guarded SameCommitment ops) :
    CloseInvariant ((closeMachine ldk closing).run ops) := by
  refine Machine.guarded_induction _ SameCommitment (fun _ s => CloseInvariant s) ?_ ?_ ops h
  · constructor
    case fits =>
      intro id state hget
      simp [closeMachine, AssetCommitmentStore.default] at hget
    case known =>
      intro close hclose
      simp [closeMachine] at hclose
    case recorded =>
      intro id close hget
      simp [closeMachine, NativeAssetCloseStore.default] at hget
    case once =>
      intro id id' close close' hget
      simp [closeMachine, NativeAssetCloseStore.default] at hget
  · exact fun _ s op hs hguard => invariant_step hs hguard

theorem mem_recordedCloses {store : NativeAssetCloseStore} {channelId : String}
    {close : NativeAssetClose} : close ∈ recordedCloses store channelId ↔
      (∃ id : String, store.closes[id]? = some close) ∧ close.channelId = channelId := by
  rw [recordedCloses, List.mem_filter, List.mem_map, beq_iff_eq]
  constructor
  · rintro ⟨⟨⟨id, close⟩, hmem, rfl⟩, hchannel⟩
    exact ⟨⟨id, mem_toList_iff.mp hmem⟩, hchannel⟩
  · rintro ⟨⟨id, hget⟩, hchannel⟩
    exact ⟨⟨(id, close), mem_toList_iff.mpr hget, rfl⟩, hchannel⟩

/-- Recorded under distinct ids, the closes of a channel are distinct. -/
theorem recordedCloses_length {s : CloseState} (h : CloseInvariant s) (channelId : String) :
    (recordedCloses s.closes channelId).length ≤ 1 := by
  have hids : (recordedCloses s.closes channelId).Pairwise fun c d => c.closeId ≠ d.closeId := by
    refine List.Pairwise.filter _ (List.pairwise_map.mpr ?_)
    refine (List.pairwise_map.mp (keys_nodup s.closes.closes)).imp_of_mem ?_
    rintro ⟨id, c⟩ ⟨id', d⟩ hc hd hne
    have hc := (h.recorded id c (mem_toList_iff.mp hc)).1
    have hd := (h.recorded id' d (mem_toList_iff.mp hd)).1
    rwa [← hc, ← hd]
  match hlist : recordedCloses s.closes channelId with
  | [] => simp
  | [_] => simp
  | c :: d :: rest =>
    rw [hlist] at hids
    obtain ⟨⟨id, hc⟩, hcid⟩ := mem_recordedCloses.mp (hlist ▸ List.mem_cons_self ..)
    obtain ⟨⟨id', hd⟩, hdid⟩ := mem_recordedCloses.mp
      (hlist ▸ List.mem_cons_of_mem _ (List.mem_cons_self ..))
    have hsame := h.once id id' c d hc hd (hcid.trans hdid.symm)
    have hne := (List.pairwise_cons.mp hids).1 d (List.mem_cons_self ..)
    rw [(h.recorded id c hc).1, (h.recorded id' d hd).1] at hsame
    exact absurd hsame hne

theorem closedAmount_le {s : CloseState} (h : CloseInvariant s) {channelId : String}
    {state : AssetCommitmentChannelState} (hstate : s.commitments.channels[channelId]? = some state) :
    closedAmount s.closes channelId ≤ state.totalAmount.toNat := by
  obtain ⟨-, channel, n, hstory, hfits⟩ := h.fits channelId state hstate
  have hlength := recordedCloses_length h channelId
  rw [closedAmount]
  match hlist : recordedCloses s.closes channelId with
  | [] => simp
  | [c] =>
    obtain ⟨⟨id, hc⟩, hcid⟩ := mem_recordedCloses.mp (hlist ▸ List.mem_singleton_self c)
    have hfit := hfits c (h.recorded id c hc).2 hcid
    have hsum := checkedAdd_eq_some.mp hfit.valid.balances
    rw [hfit.totalAmount, ← hstory.total] at hsum
    simpa using hsum.ge
  | c :: d :: rest =>
    rw [hlist] at hlength
    simp at hlength

/-- Two different members of a list count for both. -/
theorem add_le_sum_map {α : Type} (f : α → ℕ) {l : List α} {a b : α} (ha : a ∈ l) (hb : b ∈ l)
    (hne : a ≠ b) : f a + f b ≤ (l.map f).sum := by
  classical
  have hrest : b ∈ l.erase a := (List.mem_erase_of_ne hne.symm).mpr hb
  have hsum : (l.map f).sum = f a + ((l.erase a).map f).sum := by
    rw [((List.perm_cons_erase ha).map f).sum_eq, List.map_cons, List.sum_cons]
  have hle : f b ≤ ((l.erase a).map f).sum := List.single_le_sum (fun _ _ => Nat.zero_le _) _
    (List.mem_map_of_mem hrest)
  omega

theorem one_lt_length {α : Type} {l : List α} {a b : α} (ha : a ∈ l) (hb : b ∈ l)
    (hne : a ≠ b) : 1 < l.length := by
  have h := add_le_sum_map (fun _ => 1) ha hb hne
  simp only [List.map_const', List.sum_replicate, smul_eq_mul, mul_one] at h
  omega

section Twice

variable {ldk : Ldk} {closing : LdkClose ldk.ChannelDescriptor} {s : CloseState}

theorem next_close {channelId : String} {localScriptKey remoteScriptKey : CompressedKey}
    {close : NativeAssetClose} (h : cooperativeClose ldk closing s.commitments channelId
      localScriptKey remoteScriptKey = .ok close) :
    (closeMachine ldk closing).next s (.cooperativeClose channelId localScriptKey
      remoteScriptKey) = { s with returned := s.returned ++ [close] } := by
  simp only [closeMachine, h, returnClose]

theorem next_record {index : ℕ} {close recorded : NativeAssetClose} {next : NativeAssetCloseStore}
    (hindex : s.returned[index]? = some close)
    (h : s.closes.recordClose ldk closing close = .ok (recorded, next)) :
    (closeMachine ldk closing).next s (.recordClose index) = { s with closes := next } := by
  simp only [closeMachine, hindex, h, storeAfter_ok]

end Twice

/-- Initialise the channel, close it and record the close. -/
def closeRun (c : FundedChannel acceptingLdk) : List (CloseOperation acceptingLdk) :=
  [.commitment (.initializeChannel c), .cooperativeClose regtestChannelId regtestKey regtestKey,
    .recordClose 0]

/-- Close it again at the same commitment, and try to record that close too. -/
def retriedRun (c : FundedChannel acceptingLdk) : List (CloseOperation acceptingLdk) :=
  closeRun c ++ [.cooperativeClose regtestChannelId regtestKey regtestKey] ++ [.recordClose 1]

/-- Update it, close it again and record that close too. -/
def twiceRun (c : FundedChannel acceptingLdk) (request : AssetCommitmentUpdateRequest) :
    List (CloseOperation acceptingLdk) :=
  closeRun c ++ [.commitment (.applyUpdate request),
    .cooperativeClose regtestChannelId regtestKey regtestKey, .recordClose 1]

def storeOf (state : AssetCommitmentChannelState) : AssetCommitmentStore :=
  AssetCommitmentStore.default.putChannel regtestChannelId state

def closesWith (store : NativeAssetCloseStore) (close : NativeAssetClose) :
    NativeAssetCloseStore :=
  { store with closes := store.closes.insert close.closeId close }

def regtestCloseOf (state : AssetCommitmentChannelState) (id : Bytes32) : NativeAssetClose :=
  acceptedClose state id regtestKey regtestKey

section Run

variable {c : FundedChannel acceptingLdk} {root : RootHashSum} {id : Bytes32}
  {state updated : AssetCommitmentChannelState} {request : AssetCommitmentUpdateRequest}
  {snapshot : AssetCommitmentSnapshot}

theorem run_initialized (h : RegtestRun c root id state updated request snapshot) :
    (closeMachine acceptingLdk acceptingClose).run [.commitment (.initializeChannel c)] =
      ⟨storeOf state, .default, []⟩ := by
  have hcall : (commitmentMachine acceptingLdk).next .default (.initializeChannel c) =
      storeOf state := by
    simp only [commitmentMachine, h.initializes, storeAfter_ok]
    rfl
  rw [Machine.run, List.foldl_cons, List.foldl_nil]
  exact congrArg (CloseState.mk · _ _) hcall

theorem run_closed (h : RegtestRun c root id state updated request snapshot) :
    (closeMachine acceptingLdk acceptingClose).run [.commitment (.initializeChannel c),
        .cooperativeClose regtestChannelId regtestKey regtestKey] =
      ⟨storeOf state, .default, [regtestCloseOf state id]⟩ := by
  have hsplit : [CloseOperation.commitment (.initializeChannel c),
      .cooperativeClose regtestChannelId regtestKey regtestKey] =
        [.commitment (.initializeChannel c)] ++
          [.cooperativeClose regtestChannelId regtestKey regtestKey] := rfl
  rw [hsplit, Machine.run_concat, run_initialized h]
  exact next_close (cooperativeClose_ok (get_insert_self ..) (closable_before h))

theorem run_closeRun (h : RegtestRun c root id state updated request snapshot) :
    (closeMachine acceptingLdk acceptingClose).run (closeRun c) =
      ⟨storeOf state, closesWith .default (regtestCloseOf state id),
        [regtestCloseOf state id]⟩ := by
  have hsplit : closeRun c = [.commitment (.initializeChannel c),
      .cooperativeClose regtestChannelId regtestKey regtestKey] ++ [.recordClose 0] := rfl
  rw [hsplit, Machine.run_concat, run_closed h]
  refine next_record rfl (recordClose_ok rfl (fun key close hget => ?_)
    (validate_ok (closable_before h)) ?_)
  · simp [NativeAssetCloseStore.default] at hget
  · simp [NativeAssetCloseStore.default]

theorem run_closedAgain (h : RegtestRun c root id state updated request snapshot) :
    (closeMachine acceptingLdk acceptingClose).run
        (closeRun c ++ [.cooperativeClose regtestChannelId regtestKey regtestKey]) =
      ⟨storeOf state, closesWith .default (regtestCloseOf state id),
        [regtestCloseOf state id, regtestCloseOf state id]⟩ := by
  rw [Machine.run_concat, run_closeRun h]
  exact next_close (cooperativeClose_ok (get_insert_self ..) (closable_before h))

/-- The same commitment gives the same id, so the second close is refused. -/
theorem run_retriedRun (h : RegtestRun c root id state updated request snapshot) :
    (closeMachine acceptingLdk acceptingClose).run (retriedRun c) =
      ⟨storeOf state, closesWith .default (regtestCloseOf state id),
        [regtestCloseOf state id, regtestCloseOf state id]⟩ := by
  have hheld : (closesWith .default (regtestCloseOf state id)).closes[
      (regtestCloseOf state id).closeId]? = some (regtestCloseOf state id) := get_insert_self ..
  have hrefused : (closesWith .default (regtestCloseOf state id)).recordClose acceptingLdk
      acceptingClose (regtestCloseOf state id) =
        .error (.duplicateClose (regtestCloseOf state id).closeId) := by
    rw [NativeAssetCloseStore.recordClose, hheld]
    rfl
  rw [retriedRun, Machine.run_concat, run_closedAgain h]
  simp only [closeMachine, List.getElem?_cons_succ, List.getElem?_cons_zero, hrefused,
    storeAfter_error]

/-- The second close has another id, so it is recorded beside the first. -/
theorem closeIds_ne (h : RegtestRun c root id state updated request snapshot) :
    (regtestCloseOf updated id).closeId ≠ (regtestCloseOf state id).closeId := by
  rw [regtestCloseOf, acceptedClose_closeId _ h.after secondClose_computed, regtestCloseOf,
    acceptedClose_closeId _ h.before firstClose_computed]
  decide

theorem run_updated (h : RegtestRun c root id state updated request snapshot) :
    (closeMachine acceptingLdk acceptingClose).run
        (closeRun c ++ [.commitment (.applyUpdate request)]) =
      ⟨(storeOf state).putChannel regtestChannelId updated,
        closesWith .default (regtestCloseOf state id), [regtestCloseOf state id]⟩ := by
  have hcall : (commitmentMachine acceptingLdk).next (storeOf state) (.applyUpdate request) =
      (storeOf state).putChannel regtestChannelId updated := by
    have hupdates := h.updates
    rw [← storeOf] at hupdates
    simp only [commitmentMachine, hupdates, storeAfter_ok]
  rw [Machine.run_concat, run_closeRun h]
  exact congrArg (CloseState.mk · _ _) hcall

theorem run_twiceRun (h : RegtestRun c root id state updated request snapshot) :
    (closeMachine acceptingLdk acceptingClose).run (twiceRun c request) =
      ⟨(storeOf state).putChannel regtestChannelId updated,
        closesWith (closesWith .default (regtestCloseOf state id)) (regtestCloseOf updated id),
        [regtestCloseOf state id, regtestCloseOf updated id]⟩ := by
  have hsplit : twiceRun c request = ((closeRun c ++ [.commitment (.applyUpdate request)]) ++
      [.cooperativeClose regtestChannelId regtestKey regtestKey]) ++ [.recordClose 1] := rfl
  rw [hsplit, Machine.run_concat, Machine.run_concat, run_updated h,
    next_close (cooperativeClose_ok (get_insert_self ..) (closable_after h))]
  refine next_record rfl (recordClose_ok rfl (fun key close hget => ?_)
    (validate_ok (closable_after h)) ?_)
  · rcases get_insert_eq_some hget with ⟨rfl, rfl⟩ | ⟨-, hget⟩
    · exact ⟨rfl, validate_ok (closable_before h)⟩
    · simp [NativeAssetCloseStore.default] at hget
  · exact (get_insert_ne (closeIds_ne h)).trans (by simp [NativeAssetCloseStore.default])

end Run

/-- While closes are recorded only beside closes of the same commitment, every channel has at
most one and it pays out no more than the channel holds. -/
theorem closed_once {ldk : Ldk} {closing : LdkClose ldk.ChannelDescriptor}
    {ops : List (CloseOperation ldk)} (h : (closeMachine ldk closing).Guarded SameCommitment ops)
    (channelId : String) : ClosedOnce ((closeMachine ldk closing).run ops) channelId where
  closes := recordedCloses_length (invariant_run h) channelId
  amount _ hstate := closedAmount_le (invariant_run h) hstate

/-- A channel that is closed twice at its first commitment, with one of the closes recorded. -/
theorem closed_once_regtest : ∃ c,
    (closeMachine acceptingLdk acceptingClose).Guarded SameCommitment (retriedRun c) ∧
      ((closeMachine acceptingLdk acceptingClose).run (retriedRun c)).returned.length = 2 ∧
      (recordedCloses ((closeMachine acceptingLdk acceptingClose).run (retriedRun c)).closes
        regtestChannelId).length = 1 ∧
      ClosedOnce ((closeMachine acceptingLdk acceptingClose).run (retriedRun c))
        regtestChannelId := by
  obtain ⟨c, root, id, state, updated, request, snapshot, h⟩ := regtest_run
  have hfirst : (closeMachine acceptingLdk acceptingClose).Guarded SameCommitment
      (closeRun c) := by
    have hsplit : closeRun c = (([] ++ [.commitment (.initializeChannel c)]) ++
      [.cooperativeClose regtestChannelId regtestKey regtestKey]) ++ [.recordClose 0] := rfl
    rw [hsplit]
    apply Machine.guarded_concat
    · exact Machine.guarded_concat (Machine.guarded_concat (Machine.guarded_nil _ _) trivial) trivial
    · intro key close recorded _ hrecorded
      rw [List.nil_append, List.singleton_append, run_closed h] at hrecorded
      simp [NativeAssetCloseStore.default] at hrecorded
  have hguarded : (closeMachine acceptingLdk acceptingClose).Guarded SameCommitment
      (retriedRun c) := by
    apply Machine.guarded_concat
    · exact Machine.guarded_concat hfirst trivial
    · intro key close recorded hreturned hrecorded _
      rw [run_closedAgain h] at hreturned hrecorded
      obtain rfl := Option.some.inj hreturned
      rcases get_insert_eq_some hrecorded with ⟨-, rfl⟩ | ⟨-, hget⟩
      · rfl
      · simp [NativeAssetCloseStore.default] at hget
  have honce := closed_once hguarded regtestChannelId
  refine ⟨c, hguarded, ?_, le_antisymm honce.closes ?_, honce⟩
  · rw [run_retriedRun h]
    rfl
  · rw [run_retriedRun h]
    exact List.length_pos_of_mem (mem_recordedCloses.mpr
      ⟨⟨_, get_insert_self ..⟩, h.before.channelId⟩)

/-- Closed again after an update, a channel has two recorded closes that pay out twice what it
holds. -/
theorem closed_twice : ∃ c request state,
    ((closeMachine acceptingLdk acceptingClose).run (twiceRun c request)).commitments.channels[
        regtestChannelId]? = some state ∧
      1 < (recordedCloses ((closeMachine acceptingLdk acceptingClose).run
        (twiceRun c request)).closes regtestChannelId).length ∧
      state.totalAmount.toNat < closedAmount ((closeMachine acceptingLdk acceptingClose).run
        (twiceRun c request)).closes regtestChannelId := by
  obtain ⟨c, root, id, state, updated, request, snapshot, h⟩ := regtest_run
  refine ⟨c, request, updated, ?_⟩
  rw [run_twiceRun h]
  have hsecond : regtestCloseOf updated id ∈ recordedCloses (closesWith (closesWith .default
      (regtestCloseOf state id)) (regtestCloseOf updated id)) regtestChannelId :=
    mem_recordedCloses.mpr ⟨⟨_, get_insert_self ..⟩, h.after.channelId⟩
  have hfirst : regtestCloseOf state id ∈ recordedCloses (closesWith (closesWith .default
      (regtestCloseOf state id)) (regtestCloseOf updated id)) regtestChannelId :=
    mem_recordedCloses.mpr ⟨⟨_, (get_insert_ne (closeIds_ne h).symm).trans (get_insert_self ..)⟩,
      h.before.channelId⟩
  have hne : regtestCloseOf state id ≠ regtestCloseOf updated id :=
    fun heq => closeIds_ne h (congrArg NativeAssetClose.closeId heq.symm)
  have hpayout {s : AssetCommitmentChannelState} (hlocal : s.localBalance = 1000000)
      (hremote : s.remoteBalance = 1000000) : (regtestCloseOf s id).localAmount.toNat +
        (regtestCloseOf s id).remoteAmount.toNat = 2000000 := by
    have heq : (regtestCloseOf s id).localAmount.toNat + (regtestCloseOf s id).remoteAmount.toNat =
      s.localBalance.toNat + s.remoteBalance.toNat := rfl
    rw [heq, hlocal, hremote]
    rfl
  refine ⟨get_insert_self .., one_lt_length hfirst hsecond hne, ?_⟩
  have hsum := add_le_sum_map (fun close : NativeAssetClose =>
    close.localAmount.toNat + close.remoteAmount.toNat) hfirst hsecond hne
  rw [hpayout h.before.localBalance h.before.remoteBalance,
    hpayout h.after.localBalance h.after.remoteBalance] at hsum
  have htotal : updated.totalAmount.toNat = 2000000 := by
    rw [h.after.total]
    rfl
  rw [htotal]
  exact lt_of_lt_of_le (by decide) hsum

end TapLdk.AssetCloseOnce
