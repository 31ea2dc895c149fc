import Mathlib
import TapLdk.CommitmentRuns
import TapLdk.ProofHistoryMaps

/-! What a store that passes validation, however it came about, says of each channel, and what
it leaves open: whether a channel has been rolled back behind its recorded commitments. -/
namespace TapLdk.CommitmentAccepted
open TapLdk.LibraryExcept TapLdk.LibraryMaps TapLdk.LibraryBytes TapLdk.LibraryRuns
open TapLdk.Mssmt TapLdk.Asset TapLdk.ProofHistory TapLdk.ProofHistoryReplay TapLdk.ProofHistoryMaps
open TapLdk.LdkFork TapLdk.ChannelFunding TapLdk.Commitment TapLdk.CommitmentSteps
open TapLdk.CommitmentStory TapLdk.CommitmentAccepts TapLdk.CommitmentBuilds TapLdk.RegtestChannel

/-- No two records of a history that replays have one id. -/
theorem recordIds_nodup {policy : ProofAnchorPolicy} {records : List ProofHistoryRecord}
    {s : ReplayState} (h : replayState records policy = .ok s) :
    (records.map (·.recordId)).Nodup := by
  refine (foldlM_induction (fun done s => Replayed policy done s ∧ (done.map (·.recordId)).Nodup)
    ⟨replayed_empty policy, List.nodup_nil⟩ ?_ h).2
  rintro done record s s' ⟨hreplayed, hnodup⟩ hrecord
  obtain ⟨priors, hstep⟩ := replayRecord_step hreplayed.ledger.keyed hrecord
  refine ⟨replayed_step hreplayed hstep, ?_⟩
  rw [List.map_append, List.map_singleton, List.nodup_append_comm, List.singleton_append,
    List.nodup_cons]
  exact ⟨(hreplayed.seen _).mp hstep.newRecord, hnodup⟩

/-- The commitment recorded under the highest number. -/
def lastCommitment (state : AssetCommitmentChannelState) : Option StoredAssetCommitment :=
  (commitmentsOf state).getLast?

theorem lastCommitment_highest {state : AssetCommitmentChannelState} {c d : StoredAssetCommitment}
    {n : UInt64} (hlast : lastCommitment state = some c)
    (hvalid : ∀ (n : UInt64) (c : StoredAssetCommitment), state.commitments[n]? = some c →
      CommitmentValid state n c) (hd : state.commitments[n]? = some d) :
    n ≤ c.commitmentNumber := by
  rw [lastCommitment, commitmentsOf, List.getLast?_map, Option.map_eq_some_iff] at hlast
  obtain ⟨⟨k, _⟩, hlast, rfl⟩ := hlast
  obtain ⟨before, hlist⟩ := List.getLast?_eq_some_iff.mp hlast
  have hsorted : state.commitments.toList.Pairwise fun a b => compare a.1 b.1 = .lt :=
    Std.ExtTreeMap.ordered_keys_toList
  have hmem := mem_toList_iff.mpr hd
  have hk := (hvalid k _ (mem_toList_iff.mp (List.mem_of_getLast? hlast))).number
  rw [hlist] at hsorted hmem
  rw [← hk]
  rcases List.mem_append.mp hmem with hbefore | hmem
  · have hlt := (List.pairwise_append.mp hsorted).2.2 _ hbefore _ (List.mem_singleton_self _)
    exact UInt64.le_of_lt (Std.compare_eq_lt.mp hlt)
  · rw [(Prod.mk.inj (List.mem_singleton.mp hmem)).1]
    exact UInt64.le_refl k

/-- What validation establishes of a channel. -/
structure Consistent (state : AssetCommitmentChannelState) : Prop where
  balances : state.localBalance.toNat + state.remoteBalance.toNat = state.totalAmount.toNat
  unrevoked : state.revokedCommitmentNumbers[state.latestCommitmentNumber]? = none
  initial : state.latestCommitmentNumber = 0 ↔ lastCommitment state = none
  commitments : ∀ (n : UInt64) (c : StoredAssetCommitment), state.commitments[n]? = some c →
    CommitmentValid state n c
  chain : Chained state (commitmentsOf state)
  highest : ∀ c, lastCommitment state = some c → ∀ (n : UInt64) (d : StoredAssetCommitment),
    state.commitments[n]? = some d → n ≤ c.commitmentNumber
  latest : ∀ c, lastCommitment state = some c →
    state.latestProofHistoryRecordId = c.proofHistoryRecordId ∧
      state.latestProofHistoryOutputId = c.proofHistoryOutputId ∧
      state.latestProofHistoryTransitionId = c.proofHistoryTransitionId
  nonces : ∀ (nonce : Bytes32) (n : UInt64), state.usedAssetNonces[nonce]? = some n →
    ∃ c, state.commitments[n]? = some c ∧ c.assetNonce = nonce

/-- The record of the latest ids is that of the last commitment, or of the funding. -/
theorem latest_record {state : AssetCommitmentChannelState} {record : ProofHistoryRecord}
    (hnodup : ((recordsOf state (commitmentsOf state)).map (·.recordId)).Nodup)
    (hmem : record ∈ recordsOf state (commitmentsOf state))
    (hid : record.recordId = state.expectedLatest.recordId) :
    record.kind = .channelFunding ↔ lastCommitment state = none := by
  have hunique {other : ProofHistoryRecord} (hother : other ∈ recordsOf state (commitmentsOf state))
      (heq : other.recordId = state.expectedLatest.recordId) : record = other :=
    List.inj_on_of_nodup_map hnodup hmem hother (hid.trans heq.symm)
  have hlast : lastCommitment state = (state.commitments.toList.map (·.2)).getLast? := rfl
  cases h : lastCommitment state with
  | none =>
    rw [hlast] at h
    have hfunding := @hunique (state.fundingRecord (replayRoot state))
      (by simp [recordsOf, baseRecords]) (by rw [AssetCommitmentChannelState.expectedLatest, h]; rfl)
    simp [hfunding, AssetCommitmentChannelState.fundingRecord]
  | some c =>
    rw [hlast] at h
    have hc : c ∈ commitmentsOf state := List.mem_of_getLast? h
    have hrecord := @hunique (metadataRecord state
      (AssetCommitmentChannelState.storedMetadata c))
      (List.mem_append_right _ (List.mem_map_of_mem hc))
      (by rw [AssetCommitmentChannelState.expectedLatest, h]; rfl)
    simp [hrecord, metadataRecord]

/-- Every channel of a store that passes validation is consistent. -/
theorem accepted_consistent (ldk : Ldk) (store : AssetCommitmentStore)
    (h : store.validate ldk = .ok ()) (id : String) (state : AssetCommitmentChannelState)
    (hheld : store.channels[id]? = some state) : Consistent state := by
  have hvalid := (store_validate_eq_ok.mp h).state id state hheld
  have hhistory := hvalid.history
  simp only [AssetCommitmentChannelState.validateProofHistoryChain, bind_eq_ok, mapError_eq_ok,
    okOr_eq_ok, rejectIf_eq_ok, not_or, not_not] at hhistory
  obtain ⟨records, hrecords, history, hreplay, e, he, _, -, hrecordId, -, hkind, -⟩ := hhistory
  have htotal : state.totalAmount ≠ 0 := (funding_of_replay hrecords hreplay).total
  obtain ⟨hchain, hlatest, rfl⟩ := (commitmentProofHistoryRecords_eq_ok htotal).mp hrecords
  obtain ⟨s, hs, rfl⟩ := replay_eq_ok.mp hreplay
  obtain ⟨hreplayed, hagree⟩ := agree_of_ok hs
  obtain ⟨record, hmem, hproduced⟩ := hagree.produced _ e (explanation_iff hreplayed |>.mp he).2
  have hkinds := latest_record (recordIds_nodup hs) hmem
    (hproduced.recordId.trans (hrecordId.trans hlatest.1))
  constructor
  case balances => exact (checkedAdd_eq_some.mp hvalid.balances).symm
  case unrevoked => exact hvalid.unrevoked
  case initial =>
    rw [← hkinds, hproduced.kind, hkind]
    split <;> simp_all
  case commitments => exact hvalid.commitments
  case chain => exact hchain
  case highest =>
    intro c hc n d hd
    exact lastCommitment_highest hc hvalid.commitments hd
  case latest =>
    intro c hc
    have hlast : state.expectedLatest = AssetCommitmentChannelState.storedMetadata c := by
      rw [lastCommitment, commitmentsOf] at hc
      rw [AssetCommitmentChannelState.expectedLatest, hc]
    rw [hlast] at hlatest
    exact hlatest
  case nonces => exact hvalid.nonces

/-- A channel that is where its recorded commitments say: at the highest of them, with its
balances, with all that came before it revoked and no recorded nonce left to be used. -/
structure AgreesWithRecord (state : AssetCommitmentChannelState) : Prop where
  latest : (state.latestCommitmentNumber = 0 ∧ ∀ n : UInt64, state.commitments[n]? = none) ∨
    ∃ c, state.commitments[state.latestCommitmentNumber]? = some c ∧
      state.localBalance = c.localBalance ∧ state.remoteBalance = c.remoteBalance
  highest : ∀ (n : UInt64) (c : StoredAssetCommitment), state.commitments[n]? = some c →
    n ≤ state.latestCommitmentNumber
  revoked : ∀ (n : UInt64) (c : StoredAssetCommitment), state.commitments[n]? = some c →
    n < state.latestCommitmentNumber → state.revokedCommitmentNumbers[n]? ≠ none
  nonces : ∀ (n : UInt64) (c : StoredAssetCommitment), state.commitments[n]? = some c →
    state.usedAssetNonces[c.assetNonce]? ≠ none
  refused : ∀ (n : UInt64) (c : StoredAssetCommitment), state.commitments[n]? = some c →
    ∀ request snapshot, state.validateUpdate request = .ok snapshot →
      request.assetNonce ≠ c.assetNonce

/-- No update can use a used nonce again. -/
theorem nonce_refused {state : AssetCommitmentChannelState} {nonce : Bytes32}
    (h : state.usedAssetNonces[nonce]? ≠ none) {request : AssetCommitmentUpdateRequest}
    {snapshot : AssetCommitmentSnapshot} (hupdate : state.validateUpdate request = .ok snapshot) :
    request.assetNonce ≠ nonce := by
  rintro rfl
  exact h (validateUpdate_eq_ok.mp hupdate).nonce

/-- A stored channel that has lost nothing of what was written for it. -/
structure KeepsWritten (written state : AssetCommitmentChannelState) : Prop where
  number : state.latestCommitmentNumber = written.latestCommitmentNumber
  balances : written.latestCommitmentNumber ≠ 0 →
    state.localBalance = written.localBalance ∧ state.remoteBalance = written.remoteBalance
  revoked : ∀ n : UInt64, written.commitments[n]? ≠ none →
    written.revokedCommitmentNumbers[n]? ≠ none → state.revokedCommitmentNumbers[n]? ≠ none
  nonces : ∀ nonce : Bytes32, written.usedAssetNonces[nonce]? ≠ none →
    state.usedAssetNonces[nonce]? ≠ none

section Written

variable {channel : StoredAssetChannel} {n : ℕ} {written state : AssetCommitmentChannelState}

theorem recorded_range (h : ChannelStory channel n written) {k : UInt64}
    {c : StoredAssetCommitment} (hc : written.commitments[k]? = some c) :
    1 ≤ k.toNat ∧ k.toNat ≤ n :=
  (h.recorded k.toNat).mp ⟨c, k, rfl, hc⟩

/-- A written channel records the commitment that it is at. -/
theorem latest_recorded (h : ChannelStory channel n written)
    (hn : written.latestCommitmentNumber ≠ 0) :
    ∃ c, written.commitments[written.latestCommitmentNumber]? = some c ∧
      written.localBalance = c.localBalance ∧ written.remoteBalance = c.remoteBalance := by
  rcases h.allocation with ⟨hzero, -⟩ | ⟨c, ⟨key, hkey, hc⟩, hbalances⟩
  · exact absurd (UInt64.toNat_inj.mp (h.latest.trans (hzero.trans UInt64.toNat_zero.symm))) hn
  · obtain rfl : key = written.latestCommitmentNumber :=
      UInt64.toNat_inj.mp (hkey.trans h.latest.symm)
    exact ⟨c, hc, hbalances⟩

/-- What agrees with the commitments of a written channel is where that was. -/
theorem agrees_number (h : ChannelStory channel n written)
    (hsame : state.commitments = written.commitments) (hagrees : AgreesWithRecord state) :
    state.latestCommitmentNumber = written.latestCommitmentNumber := by
  have hlatest := h.latest
  by_cases hn : written.latestCommitmentNumber = 0
  · rcases hagrees.latest with ⟨hzero, -⟩ | ⟨c, hc, -⟩
    · rw [hzero, hn]
    · have hrange := recorded_range h (hsame ▸ hc)
      rw [hn, UInt64.toNat_zero] at hlatest
      omega
  · obtain ⟨c, hc, -⟩ := latest_recorded h hn
    rcases hagrees.latest with ⟨-, hnone⟩ | ⟨d, hd, -⟩
    · rw [← hsame, hnone] at hc
      cases hc
    · have hle := hagrees.highest _ c (hsame ▸ hc)
      have hrange := recorded_range h (hsame ▸ hd)
      rw [UInt64.le_iff_toNat_le] at hle
      apply UInt64.toNat_inj.mp
      omega

theorem keeps_of_agrees (h : ChannelStory channel n written)
    (hsame : state.commitments = written.commitments) (hagrees : AgreesWithRecord state) :
    KeepsWritten written state := by
  have hnumber := agrees_number h hsame hagrees
  constructor
  case number => exact hnumber
  case balances =>
    intro hn
    obtain ⟨c, hc, hlocal, hremote⟩ := latest_recorded h hn
    rcases hagrees.latest with ⟨hzero, -⟩ | ⟨d, hd, hlocal', hremote'⟩
    · exact absurd (hnumber.symm.trans hzero) hn
    · rw [hsame, hnumber, hc, Option.some.injEq] at hd
      subst hd
      exact ⟨hlocal'.trans hlocal.symm, hremote'.trans hremote.symm⟩
  case revoked =>
    intro k hk hrevoked
    have hlatest := h.latest
    obtain ⟨c, hc⟩ := Option.ne_none_iff_exists'.mp hk
    obtain ⟨m, hm⟩ := Option.ne_none_iff_exists'.mp hrevoked
    have hlt := ((h.revoked k m).mp hm).1
    apply hagrees.revoked k c (hsame ▸ hc)
    rw [hnumber, UInt64.lt_iff_toNat_lt]
    omega
  case nonces =>
    intro nonce hnonce
    obtain ⟨k, hk⟩ := Option.ne_none_iff_exists'.mp hnonce
    obtain ⟨c, hc, rfl⟩ := (h.nonces nonce k).mp hk
    exact hagrees.nonces k c (hsame ▸ hc)

theorem keeps_nonce (h : ChannelStory channel n written)
    (hsame : state.commitments = written.commitments) (hkeeps : KeepsWritten written state)
    {k : UInt64} {c : StoredAssetCommitment} (hc : state.commitments[k]? = some c) :
    state.usedAssetNonces[c.assetNonce]? ≠ none := by
  have hwritten := (h.nonces c.assetNonce k).mpr ⟨c, hsame ▸ hc, rfl⟩
  apply hkeeps.nonces
  simp [hwritten]

theorem agrees_of_keeps (h : ChannelStory channel n written)
    (hsame : state.commitments = written.commitments) (hkeeps : KeepsWritten written state) :
    AgreesWithRecord state := by
  have hlatest := h.latest
  constructor
  case latest =>
    rw [hkeeps.number, hsame]
    by_cases hn : written.latestCommitmentNumber = 0
    · refine .inl ⟨hn, fun k => Option.eq_none_iff_forall_ne_some.mpr fun c hc => ?_⟩
      have hrange := recorded_range h hc
      rw [hn, UInt64.toNat_zero] at hlatest
      omega
    · obtain ⟨c, hc, hlocal, hremote⟩ := latest_recorded h hn
      obtain ⟨hlocal', hremote'⟩ := hkeeps.balances hn
      exact .inr ⟨c, hc, hlocal'.trans hlocal, hremote'.trans hremote⟩
  case highest =>
    intro k c hc
    have hrange := recorded_range h (hsame ▸ hc)
    rw [hkeeps.number, UInt64.le_iff_toNat_le]
    omega
  case revoked =>
    intro k c hc hlt
    rw [hsame] at hc
    have hrange := recorded_range h hc
    rw [hkeeps.number, UInt64.lt_iff_toNat_lt, hlatest] at hlt
    have hnext : (k + 1).toNat = k.toNat + 1 := by
      have hbound := written.latestCommitmentNumber.toNat_lt
      rw [UInt64.toNat_add, UInt64.toNat_one]
      omega
    have hrevoked := (h.revoked k (k + 1)).mpr ⟨hlt, hnext⟩
    apply hkeeps.revoked k
    · simp [hc]
    · simp [hrevoked]
  case nonces =>
    intro k c hc
    exact keeps_nonce h hsame hkeeps hc
  case refused =>
    intro k c hc request snapshot hupdate
    exact nonce_refused (keeps_nonce h hsame hkeeps hc) hupdate

/-- A stored channel with the commitments of a written one agrees with them exactly when it keeps
what was written beside them. -/
theorem agreesWithRecord_iff (h : ChannelStory channel n written)
    (hsame : state.commitments = written.commitments) :
    AgreesWithRecord state ↔ KeepsWritten written state :=
  ⟨keeps_of_agrees h hsame, agrees_of_keeps h hsame⟩

end Written

/-- A channel as a run left it agrees with its record. A store that passes validation is
consistent; a channel of it with the recorded commitments of a channel that a run left, however
the store came about, agrees with them exactly when it has not been rolled back behind the run. -/
theorem agrees_iff_not_rolled_back (ldk : Ldk) :
    (∀ (ops : List (CommitmentOperation ldk)) (id : String) (written : AssetCommitmentChannelState),
      ((commitmentMachine ldk).run ops).channels[id]? = some written →
        AgreesWithRecord written) ∧
    ∀ store : AssetCommitmentStore, store.validate ldk = .ok () →
      ∀ (id : String) (state : AssetCommitmentChannelState), store.channels[id]? = some state →
        Consistent state ∧ ∀ (ops : List (CommitmentOperation ldk)) (id' : String)
          (written : AssetCommitmentChannelState),
          ((commitmentMachine ldk).run ops).channels[id']? = some written →
            state.commitments = written.commitments →
              (AgreesWithRecord state ↔ KeepsWritten written state) := by
  refine ⟨fun ops id written h => ?_, fun store haccepted id state hheld =>
    ⟨accepted_consistent ldk store haccepted id state hheld, fun ops id' written h hsame => ?_⟩⟩
  · obtain ⟨channel, -, hstory⟩ := (story_run ldk ops).channel id written h
    refine (agreesWithRecord_iff hstory rfl).mpr ⟨rfl, fun _ => ⟨rfl, rfl⟩, ?_, ?_⟩
    · exact fun _ _ hrevoked => hrevoked
    · exact fun _ hnonce => hnonce
  · obtain ⟨channel, -, hstory⟩ := (story_run ldk ops).channel id' written h
    exact agreesWithRecord_iff hstory hsame

/-- A later number and another allocation, with nothing revoked and no nonce used. -/
def rolledBack (state : AssetCommitmentChannelState) (blob : AssetCommitmentMonitorBlob) :
    AssetCommitmentChannelState :=
  { state with
    latestCommitmentNumber := 7
    localBalance := 2000000
    remoteBalance := 0
    revokedCommitmentNumbers := ∅
    usedAssetNonces := ∅
    monitorBlob := blob }

section RolledBack

variable {state : AssetCommitmentChannelState} {blob : AssetCommitmentMonitorBlob}

theorem rolledBack_history (h : state.latestCommitmentNumber ≠ 0) :
    (rolledBack state blob).validateProofHistoryChain = state.validateProofHistoryChain := by
  simp only [AssetCommitmentChannelState.validateProofHistoryChain, rolledBack, if_neg h]
  rfl

theorem rolledBack_valid (h : StateValid acceptingLdk state)
    (htotal : state.totalAmount = 2000000) (hlatest : state.latestCommitmentNumber ≠ 0) :
    ∃ blob, StateValid acceptingLdk (rolledBack state blob) := by
  obtain ⟨id, hid⟩ := channelId_parses h
  obtain ⟨blob, hblob⟩ : ∃ blob, AssetCommitmentMonitorBlob.new acceptingLdk state.channelId
      state.assetId 7 2000000 0 (commitmentStateDigest state.channelId state.assetId 7 2000000 0)
      state.monitorBlob.fundingRoot Bytes32.ZERO Bytes32.ZERO = .ok blob := new_ok hid ⟨_, rfl⟩
  refine ⟨blob, ?_⟩
  constructor
  case balances =>
    change checkedAdd 2000000 0 = some state.totalAmount
    rw [htotal]
    rfl
  case unrevoked => simp [rolledBack]
  case monitor => exact validateMonitor_ok acceptingLdk_acceptsOwnBlobs hblob
  case nonces => simp [rolledBack]
  case commitments =>
    intro n c hc
    obtain ⟨hnumber, hbalances, hdigest⟩ := h.commitments n c hc
    exact ⟨hnumber, hbalances, hdigest⟩
  case history => exact (rolledBack_history hlatest).trans h.history

end RolledBack

/-- The regtest channel after its first update, and a store that passes validation with the same
channel rolled back. -/
theorem regtest_rolledBack : ∃ (ops : List (CommitmentOperation acceptingLdk))
    (store : AssetCommitmentStore) (channel : StoredAssetChannel)
    (written : AssetCommitmentChannelState) (blob : AssetCommitmentMonitorBlob),
    ((commitmentMachine acceptingLdk).run ops).channels[regtestChannelId]? = some written ∧
      ChannelStory channel 1 written ∧ written.localBalance = 1000000 ∧
      store.validate acceptingLdk = .ok () ∧
      store.channels[written.channelId]? = some (rolledBack written blob) := by
  obtain ⟨c, root, id, state, updated, request, snapshot, h⟩ := regtest_run
  have hheld : ((commitmentMachine acceptingLdk).run [.initializeChannel c,
      .applyUpdate request]).channels[regtestChannelId]? = some updated := by
    rw [CommitmentRuns.run_updated h]
    exact get_insert_self ..
  obtain ⟨channel, -, hstory⟩ := (story_run acceptingLdk _).channel _ _ hheld
  have hone := hstory.latest
  rw [h.after.number] at hone
  rw [← hone] at hstory
  have hlatest : updated.latestCommitmentNumber ≠ 0 := by
    rw [h.after.number]
    decide
  obtain ⟨blob, hvalid⟩ := rolledBack_valid
    ((reached_run acceptingLdk _).valid.state _ _ hheld) h.after.total hlatest
  exact ⟨_, AssetCommitmentStore.default.putChannel updated.channelId (rolledBack updated blob),
    channel, updated, blob, hheld, hstory, h.after.localBalance,
    store_validate_eq_ok.mpr (putChannel_valid storeValid_default hvalid), get_insert_self ..⟩

/-- A store passes validation with a channel whose only commitment is the first, of another
allocation, not revoked and of an unused nonce, while its latest number is the seventh. -/
theorem rolled_back_accepted : ∃ (store : AssetCommitmentStore) (id : String)
    (state : AssetCommitmentChannelState) (c : StoredAssetCommitment),
    store.validate acceptingLdk = .ok () ∧ store.channels[id]? = some state ∧
      state.commitments[(1 : UInt64)]? = some c ∧
      (∀ (n : UInt64) (d : StoredAssetCommitment), state.commitments[n]? = some d → n = 1) ∧
      state.latestCommitmentNumber = 7 ∧ state.localBalance ≠ c.localBalance ∧
      state.revokedCommitmentNumbers[(1 : UInt64)]? = none ∧
      state.usedAssetNonces[c.assetNonce]? = none := by
  obtain ⟨-, store, channel, written, blob, -, hstory, hlocal, haccepted, hheld⟩ :=
    regtest_rolledBack
  obtain ⟨hzero, -⟩ | ⟨c, ⟨key, hkey, hc⟩, hsame, -⟩ := hstory.allocation
  · omega
  obtain rfl : key = 1 := UInt64.toNat_inj.mp hkey
  refine ⟨store, _, rolledBack written blob, c, haccepted, hheld, hc, fun n d hd => ?_, rfl, ?_,
    by simp [rolledBack], by simp [rolledBack]⟩
  · have hrange := recorded_range hstory hd
    exact UInt64.toNat_inj.mp (by rw [UInt64.toNat_one]; omega)
  · change (2000000 : UInt64) ≠ c.localBalance
    rw [← hsame, hlocal]
    decide

/-- The regtest channel agrees with its record as it was written, and not once it was rolled back,
in a store that passes validation. -/
theorem agrees_iff_not_rolled_back_regtest : ∃ (ops : List (CommitmentOperation acceptingLdk))
    (store : AssetCommitmentStore) (written state : AssetCommitmentChannelState),
    ((commitmentMachine acceptingLdk).run ops).channels[regtestChannelId]? = some written ∧
      written.latestCommitmentNumber = 1 ∧ AgreesWithRecord written ∧
      store.validate acceptingLdk = .ok () ∧ store.channels[written.channelId]? = some state ∧
      Consistent state ∧ state.commitments = written.commitments ∧ ¬ AgreesWithRecord state := by
  obtain ⟨ops, store, channel, written, blob, hwritten, hstory, -, haccepted, hheld⟩ :=
    regtest_rolledBack
  have hone : written.latestCommitmentNumber = 1 := UInt64.toNat_inj.mp hstory.latest
  obtain ⟨hagrees, hstores⟩ := agrees_iff_not_rolled_back acceptingLdk
  obtain ⟨hconsistent, hiff⟩ := hstores store haccepted _ _ hheld
  refine ⟨ops, store, written, _, hwritten, hone, hagrees ops _ written hwritten, haccepted, hheld,
    hconsistent, rfl, fun hstate => ?_⟩
  have hnumber := ((hiff ops _ written hwritten rfl).mp hstate).number
  rw [hone] at hnumber
  change (7 : UInt64) = 1 at hnumber
  exact absurd hnumber (by decide)

end TapLdk.CommitmentAccepted
