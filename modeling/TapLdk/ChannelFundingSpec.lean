import Mathlib
import TapLdk.ChannelFunding

/-! What the funding store checks and what a successful funding does: a validated store
indexes every funding proof under exactly one channel. -/
namespace TapLdk.ChannelFundingSpec
open TapLdk.LibraryExcept TapLdk.LibraryMaps TapLdk.LibraryBytes TapLdk.LibrarySha256
open TapLdk.Mssmt TapLdk.Asset TapLdk.Proof TapLdk.ProofHistory TapLdk.TapVm
open TapLdk.TaprootCommitment TapLdk.LdkFork TapLdk.ChannelFunding

/-- A store that passes validation: every channel is bound to its fields, and the index of
spent proofs lists the inputs of the channels, each under one channel. -/
structure StoreValid (s : AssetChannelStore) : Prop where
  version : s.version = storeSchemaVersion
  channel : ∀ (id : String) (c : StoredAssetChannel), s.channels[id]? = some c →
    AssetChannelStore.validateChannel id c = .ok ()
  nodup : ∀ (id : String) (c : StoredAssetChannel), s.channels[id]? = some c →
    c.inputProofIds.Nodup
  index : ∀ proofId channelId : String, s.spentFundingProofs[proofId]? = some channelId ↔
    ∃ c, s.channels[channelId]? = some c ∧ proofId ∈ c.inputProofIds

def indexEntries (entry : String × StoredAssetChannel) : List (String × String) :=
  entry.2.inputProofIds.map fun id => (id, entry.1)

/-- Put the ids of a list of entries into an index that holds none of them yet. -/
def indexNew : BTreeMap String String → String × String →
    Except AssetChannelFundingError (BTreeMap String String) :=
  insertNew fun p =>
    .storageInvariant s!"funding proof {p.1} is assigned to multiple channels"

theorem indexChannel_eq_ok {spent out : BTreeMap String String}
    {entry : String × StoredAssetChannel} :
    AssetChannelStore.indexChannel spent entry = .ok out ↔
      AssetChannelStore.validateChannel entry.1 entry.2 = .ok () ∧
        (indexEntries entry).foldlM indexNew spent = .ok out := by
  have hfold : entry.2.inputProofIds.foldlM (AssetChannelStore.indexProof entry.1) spent =
      (indexEntries entry).foldlM indexNew spent := by
    rw [indexEntries, List.foldlM_map]
    rfl
  rw [AssetChannelStore.indexChannel, check_bind_eq_ok, hfold]

theorem foldlM_indexChannel {entries : List (String × StoredAssetChannel)}
    {spent out : BTreeMap String String} :
    entries.foldlM AssetChannelStore.indexChannel spent = .ok out ↔
      (∀ e ∈ entries, AssetChannelStore.validateChannel e.1 e.2 = .ok ()) ∧
        (entries.flatMap indexEntries).foldlM indexNew spent = .ok out := by
  induction entries generalizing spent with
  | nil => simp
  | cons e entries ih =>
    simp only [List.foldlM_cons, List.flatMap_cons, List.foldlM_append, bind_eq_ok,
      indexChannel_eq_ok, ih, List.forall_mem_cons]
    constructor
    · rintro ⟨mid, ⟨hvalid, hmid⟩, hrest, hout⟩
      exact ⟨⟨hvalid, hrest⟩, mid, hmid, hout⟩
    · rintro ⟨⟨hvalid, hrest⟩, mid, hmid, hout⟩
      exact ⟨mid, ⟨hvalid, hmid⟩, hrest, hout⟩

theorem mem_indexEntries {entries : List (String × StoredAssetChannel)} {proofId id : String} :
    (proofId, id) ∈ entries.flatMap indexEntries ↔
      ∃ c, (id, c) ∈ entries ∧ proofId ∈ c.inputProofIds := by
  simp only [List.mem_flatMap, indexEntries, List.mem_map, Prod.mk.injEq]
  constructor
  · rintro ⟨⟨_, c⟩, hmem, _, hid, rfl, rfl⟩
    exact ⟨c, hmem, hid⟩
  · rintro ⟨c, hmem, hid⟩
    exact ⟨(id, c), hmem, proofId, hid, rfl, rfl⟩

/-- The ids of the channels, in one list, are distinct exactly when each channel's are and no
two channels share one. -/
theorem nodup_indexEntries {channels : BTreeMap String StoredAssetChannel} :
    ((channels.toList.flatMap indexEntries).map (·.1)).Nodup ↔
      (∀ (id : String) (c : StoredAssetChannel), channels[id]? = some c → c.inputProofIds.Nodup) ∧
        ∀ (id₁ id₂ : String) (c₁ c₂ : StoredAssetChannel), channels[id₁]? = some c₁ →
          channels[id₂]? = some c₂ → ∀ p ∈ c₁.inputProofIds, p ∈ c₂.inputProofIds → id₁ = id₂ := by
  have hids : ∀ e : String × StoredAssetChannel, (indexEntries e).map (·.1) =
      e.2.inputProofIds := fun e => by simp [indexEntries, Function.comp_def]
  have hkeys : channels.toList.Pairwise fun a b => a.1 ≠ b.1 :=
    Std.ExtTreeMap.distinct_keys_toList.imp fun h heq => h (by simp [heq])
  simp only [List.map_flatMap, hids, List.nodup_flatMap]
  constructor
  · rintro ⟨hnodup, hdisjoint⟩
    refine ⟨fun id c hc => hnodup (id, c) (mem_toList_iff.mpr hc), ?_⟩
    intro id₁ id₂ c₁ c₂ h₁ h₂ p hp₁ hp₂
    by_contra hne
    have hsymm : Std.Symm fun a b : String × StoredAssetChannel =>
        List.Disjoint a.2.inputProofIds b.2.inputProofIds := ⟨fun _ _ h => h.symm⟩
    have hpair := hdisjoint.forall (mem_toList_iff.mpr h₁) (mem_toList_iff.mpr h₂)
      fun heq => hne (Prod.mk.inj heq).1
    exact hpair hp₁ hp₂
  · rintro ⟨hnodup, hone⟩
    refine ⟨fun e he => hnodup e.1 e.2 (mem_toList_iff.mp he), ?_⟩
    refine hkeys.imp_of_mem fun {a b} ha hb hne => ?_
    intro p hp₁ hp₂
    exact hne (hone a.1 b.1 a.2 b.2 (mem_toList_iff.mp ha) (mem_toList_iff.mp hb) p hp₁ hp₂)

theorem validate_eq_ok {s : AssetChannelStore} : s.validate = .ok () ↔ StoreValid s := by
  have hindex (out : BTreeMap String String) : s.channels.toList.foldlM
      AssetChannelStore.indexChannel ∅ = .ok out ↔
      (∀ (id : String) (c : StoredAssetChannel), s.channels[id]? = some c →
        AssetChannelStore.validateChannel id c = .ok ()) ∧
      ((s.channels.toList.flatMap indexEntries).map (·.1)).Nodup ∧
      insertAll ∅ (s.channels.toList.flatMap indexEntries) = out := by
    rw [foldlM_indexChannel, indexNew, foldlM_insertNew]
    simp
  rw [AssetChannelStore.validate, check_bind_eq_ok, rejectIf_eq_ok, not_not, bind_eq_ok]
  constructor
  · rintro ⟨hversion, out, hout, hsame⟩
    rw [rejectIf_eq_ok, not_not, Std.ExtTreeMap.toList_inj] at hsame
    obtain ⟨hvalid, hnodup, rfl⟩ := (hindex out).mp hout
    refine ⟨hversion, hvalid, (nodup_indexEntries.mp hnodup).1, fun proofId id => ?_⟩
    rw [← hsame, get_insertAll_empty hnodup, mem_indexEntries]
    simp only [mem_toList_iff]
  · intro h
    have hnodup : ((s.channels.toList.flatMap indexEntries).map (·.1)).Nodup := by
      refine nodup_indexEntries.mpr ⟨h.nodup, fun id₁ id₂ c₁ c₂ h₁ h₂ p hp₁ hp₂ => ?_⟩
      have hp := (h.index p id₁).mpr ⟨c₁, h₁, hp₁⟩
      rw [(h.index p id₂).mpr ⟨c₂, h₂, hp₂⟩] at hp
      exact (Option.some.inj hp).symm
    refine ⟨h.version, _, (hindex _).mpr ⟨h.channel, hnodup, rfl⟩, ?_⟩
    rw [rejectIf_eq_ok, not_not, Std.ExtTreeMap.toList_inj]
    refine ext_get fun proofId id => ?_
    rw [get_insertAll_empty hnodup, mem_indexEntries, h.index]
    simp only [mem_toList_iff]

def fundingInput (proof : ProofFile) : ValidatedFundingInput := ⟨fundingProofId proof, proof⟩

/-- An input that may be spent on a channel of an asset. -/
structure Spendable (s : AssetChannelStore) (assetId : Bytes32) (proof : ProofFile) : Prop where
  verified : Verified proof
  assetId : proof.assetId = assetId
  unspent : s.spentFundingProofs[fundingProofId proof]? = none

theorem validateFundingInputs_spec {s : AssetChannelStore} {assetId : Bytes32}
    {proofs : List ProofFile} {validated : List ValidatedFundingInput}
    (h : validateFundingInputs assetId proofs s.spentFundingProofs = .ok validated) :
    validated = proofs.map fundingInput ∧ ∀ proof ∈ proofs, Spendable s assetId proof := by
  simp only [validateFundingInputs, bind_eq_ok, pure_eq_ok, Except.ok.injEq] at h
  obtain ⟨acc, hfold, rfl⟩ := h
  refine foldlM_induction (fun (done : List ProofFile)
      (acc : BTreeMap String Unit × List ValidatedFundingInput) =>
    acc.2 = done.map fundingInput ∧ ∀ proof ∈ done, Spendable s assetId proof)
    ⟨rfl, by simp⟩ ?_ hfold
  rintro done proof acc acc' ⟨hacc, hdone⟩ hstep
  simp only [validateFundingInput, bind_eq_ok, mapError_eq_ok, rejectIf_eq_ok, exists_const, ne_eq,
    not_not, pure_eq_ok, Except.ok.injEq, Option.isSome_iff_ne_none] at hstep
  obtain ⟨report, hverify, hasset, -, hspent, rfl⟩ := hstep
  refine ⟨by simp [hacc, fundingInput], fun p hp => ?_⟩
  rcases List.mem_append.mp hp with hp | hp
  · exact hdone p hp
  · rw [List.mem_singleton.mp hp]
    exact ⟨verified_of_verify rfl hverify, hasset, hspent⟩

/-- What a funding established about its request, and the channel and store it returned. -/
structure Funds (s : AssetChannelStore) (request : AssetChannelFundingRequest)
    (c : StoredAssetChannel) (next : AssetChannelStore) : Prop where
  localInputs : ∀ proof ∈ request.localInputs, Spendable s request.assetId proof
  remoteInputs : ∀ proof ∈ request.remoteInputs, Spendable s request.assetId proof
  localIds : c.localInputProofIds = request.localInputs.map fundingProofId
  remoteIds : c.remoteInputProofIds = request.remoteInputs.map fundingProofId
  fresh : s.channels[c.channelId]? = none
  commitmentNumber : c.monitor.commitmentNumber = 0
  store : next = s.insertChannel c
  valid : StoreValid next

theorem fundChannel_spec {ldk : Ldk} {s next : AssetChannelStore}
    {request : AssetChannelFundingRequest} {c : StoredAssetChannel}
    (h : s.fundChannel ldk request = .ok (c, next)) : Funds s request c next := by
  simp only [AssetChannelStore.fundChannel,
    AssetChannelStore.fundChannelWithForkCommitmentOverride, bind_eq_ok, mapError_eq_ok,
    rejectIf_eq_ok, exists_const, pure_eq_ok, Except.ok.injEq, Prod.mk.injEq] at h
  obtain ⟨_, -, localInputs, hlocal, remoteInputs, hremote, genesis, -, localBalance, -,
    remoteBalance, -, total, -, _, -, commitment, -, output, -, _, -, hfresh, _, -, history, -, _,
    hvalid, rfl, rfl⟩ := h
  obtain ⟨rfl, hlocalSpec⟩ := validateFundingInputs_spec hlocal
  obtain ⟨rfl, hremoteSpec⟩ := validateFundingInputs_spec hremote
  have hids (proofs : List ProofFile) : (proofs.map fundingInput).map (·.proofId) =
      proofs.map fundingProofId := by simp [fundingInput, Function.comp_def]
  exact
    { localInputs := hlocalSpec
      remoteInputs := hremoteSpec
      localIds := hids request.localInputs
      remoteIds := hids request.remoteInputs
      fresh := by simpa [Option.isSome_iff_ne_none] using hfresh
      commitmentNumber := rfl
      store := rfl
      valid := validate_eq_ok.mp hvalid }

end TapLdk.ChannelFundingSpec
