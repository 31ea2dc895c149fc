import Mathlib
import TapLdk.ChannelFundingRuns

/-! Spellings of the anchors of funding proofs. The store tells the proofs apart by the text of
their anchors, so one outpoint backs one input only as long as it is spelled in one way. -/
namespace TapLdk.ChannelFundingSpellings
open TapLdk.LibraryExcept TapLdk.LibraryMaps TapLdk.LibraryBytes TapLdk.LibraryRuns
open TapLdk.Mssmt TapLdk.Asset TapLdk.Proof TapLdk.LdkFork TapLdk.ChannelFunding
open TapLdk.ChannelFundingSpec TapLdk.ChannelFundingAccepts TapLdk.ChannelFundingRuns

/-- A proof id is of an asset and of an anchor that parses to an outpoint. -/
def Names (proofId : String) (assetId : Bytes32) (p : ParsedOutpoint) : Prop :=
  ∃ anchor, proofId = s!"{toHex assetId}:{anchor}" ∧ outpointOf anchor = some p

theorem names_fundingProofId {proof : ProofFile} {assetId : Bytes32} {p : ParsedOutpoint} :
    Names (fundingProofId proof) assetId p ↔
      assetId = proof.assetId ∧ outpointOf proof.anchorOutpoint = some p := by
  constructor
  · rintro ⟨anchor, heq, hparses⟩
    simp only [fundingProofId, toString_string] at heq
    have hlist := congrArg String.toList heq
    simp only [String.toList_append, List.append_assoc] at hlist
    obtain ⟨hasset, hrest⟩ := List.append_inj hlist (by rw [toHex_length, toHex_length])
    have hanchor := String.toList_inj.mp (List.append_cancel_left hrest)
    rw [hanchor]
    exact ⟨(toHex_injective (String.toList_inj.mp hasset)).symm, hparses⟩
  · rintro ⟨rfl, hparses⟩
    exact ⟨_, rfl, hparses⟩

/-- Some channel lists the proof. -/
def Listed (s : AssetChannelStore) (proofId : String) : Prop :=
  ∃ (id : String) (c : StoredAssetChannel), s.channels[id]? = some c ∧ proofId ∈ c.inputProofIds

/-- No outpoint is, for one asset, the anchor of two inputs of the store's channels. -/
def BackedOnce (s : AssetChannelStore) : Prop :=
  ∀ (id₁ id₂ : String) (c₁ c₂ : StoredAssetChannel) (i j : ℕ) (a b : String) (assetId : Bytes32)
    (p : ParsedOutpoint), s.channels[id₁]? = some c₁ → s.channels[id₂]? = some c₂ →
      c₁.inputProofIds[i]? = some a → c₂.inputProofIds[j]? = some b → Names a assetId p →
        Names b assetId p → id₁ = id₂ ∧ i = j

/-- No input of the call spells an anchor otherwise than an input of the call or of a channel. -/
def SpellsOnce (s : AssetChannelStore) (request : AssetChannelFundingRequest) : Prop :=
  ∀ proof ∈ inputs request, ∀ b, Listed s b ∨ b ∈ inputIds request → ∀ assetId p,
    Names (fundingProofId proof) assetId p → Names b assetId p → fundingProofId proof = b

/-- The listed proofs spell their anchors in one way. -/
structure OneSpelling (s : AssetChannelStore) : Prop where
  valid : StoreValid s
  listed : ∀ a b assetId p, Listed s a → Listed s b → Names a assetId p → Names b assetId p → a = b

theorem listed_insert {ldk : Ldk} {s next : AssetChannelStore} {request : AssetChannelFundingRequest}
    {c : StoredAssetChannel} (h : s.fundChannel ldk request = .ok (c, next)) {proofId : String}
    (hlisted : Listed next proofId) : Listed s proofId ∨ proofId ∈ inputIds request := by
  have hfunds := fundChannel_spec h
  obtain ⟨id, held, hheld, hmem⟩ := hlisted
  rw [hfunds.store] at hheld
  rcases get_insert_eq_some hheld with ⟨-, rfl⟩ | ⟨-, hheld⟩
  · right
    rw [StoredAssetChannel.inputProofIds, hfunds.localIds, hfunds.remoteIds] at hmem
    simpa [inputIds, inputs] using hmem
  · exact .inl ⟨id, held, hheld, hmem⟩

theorem oneSpelling_step {ldk : Ldk} {s : AssetChannelStore} {request : AssetChannelFundingRequest}
    (h : OneSpelling s) (hspells : SpellsOnce s request) :
    OneSpelling ((fundingMachine ldk).next s request) := by
  have hnext : (fundingMachine ldk).next s request = ((fund ldk request).call s).2 := rfl
  rcases fund_cases ldk request s with ⟨e, hcall⟩ | ⟨c, next, hfund, hcall⟩
  · rwa [hnext, hcall]
  · rw [hnext, hcall]
    refine ⟨(fundChannel_spec hfund).valid, fun a b assetId p ha hb hna hnb => ?_⟩
    -- a new id comes from an input of the call
    have hnew {x y : String} (hx : x ∈ inputIds request)
        (hy : Listed s y ∨ y ∈ inputIds request) (hnx : Names x assetId p)
        (hny : Names y assetId p) : x = y := by
      obtain ⟨proof, hproof, rfl⟩ := List.mem_map.mp hx
      exact hspells proof hproof y hy assetId p hnx hny
    have ha' := listed_insert hfund ha
    have hb' := listed_insert hfund hb
    rcases ha' with hold | hmem
    · rcases hb' with hold' | hmem'
      · exact h.listed a b assetId p hold hold' hna hnb
      · exact (hnew hmem' (.inl hold) hnb hna).symm
    · exact hnew hmem hb' hna hnb

theorem backedOnce_of_oneSpelling {s : AssetChannelStore} (h : OneSpelling s) : BackedOnce s := by
  intro id₁ id₂ c₁ c₂ i j a b assetId p h₁ h₂ ha hb hna hnb
  have hmem := List.mem_of_getElem? ha
  have hmem' := List.mem_of_getElem? hb
  obtain rfl := h.listed a b assetId p ⟨id₁, c₁, h₁, hmem⟩ ⟨id₂, c₂, h₂, hmem'⟩ hna hnb
  obtain rfl : id₁ = id₂ := by
    by_contra hne
    exact proofsDisjoint_of_valid h.valid id₁ id₂ c₁ c₂ h₁ h₂ hne hmem hmem'
  obtain rfl := Option.some.inj (h₁.symm.trans h₂)
  have hlt : i < c₁.inputProofIds.length := (List.getElem?_eq_some_iff.mp ha).1
  exact ⟨rfl, (List.getElem?_inj hlt (h.valid.nodup id₁ c₁ h₁)).mp (ha.trans hb.symm)⟩

/-- While no call re-spells an anchor, no anchor backs two inputs. -/
theorem backedOnce_of_spellsOnce {ldk : Ldk} {requests : List AssetChannelFundingRequest}
    (h : (fundingMachine ldk).Guarded SpellsOnce requests) :
    BackedOnce ((fundingMachine ldk).run requests) := by
  refine backedOnce_of_oneSpelling ?_
  refine (fundingMachine ldk).guarded_induction SpellsOnce (fun _ s => OneSpelling s)
    ⟨storeValid_default, ?_⟩ (fun _ s request hs hspells => oneSpelling_step hs hspells) requests h
  rintro a b assetId p ⟨id, c, hc, -⟩
  simp [fundingMachine, AssetChannelStore.default] at hc

theorem twoPeerFunding_spellsOnce : SpellsOnce .default twoPeerFunding := by
  intro proof hproof b hb assetId p hna hnb
  have hmem : b ∈ inputIds twoPeerFunding := by
    rcases hb with ⟨id, c, hc, -⟩ | hmem
    · simp [AssetChannelStore.default] at hc
    · exact hmem
  obtain ⟨other, hother, rfl⟩ := List.mem_map.mp hmem
  have hanchor := (names_fundingProofId.mp hna).2
  have hanchor' := (names_fundingProofId.mp hnb).2
  have hcases (q : ProofFile) (hq : q ∈ inputs twoPeerFunding) :
      q = regtestProof regtestAnchor ∨ q = regtestProof regtestRemoteAnchor := by
    simpa [inputs, twoPeerFunding, regtestFunding] using hq
  have hne : outpointOf regtestAnchor ≠ outpointOf regtestRemoteAnchor := by decide +kernel
  rcases hcases proof hproof with rfl | rfl
  · rcases hcases other hother with rfl | rfl
    · rfl
    · exact absurd (hanchor.trans hanchor'.symm) hne
  · rcases hcases other hother with rfl | rfl
    · exact absurd (hanchor'.trans hanchor.symm) hne
    · rfl

/-- The two anchors of one funding call are two outpoints. -/
theorem backedOnce_of_spellsOnce_twoPeer :
    (fundingMachine acceptingLdk).Guarded SpellsOnce [twoPeerFunding] ∧
      BackedOnce ((fundingMachine acceptingLdk).run [twoPeerFunding]) := by
  have hguarded : (fundingMachine acceptingLdk).Guarded SpellsOnce ([] ++ [twoPeerFunding]) :=
    Machine.guarded_concat (Machine.guarded_nil _ _) twoPeerFunding_spellsOnce
  exact ⟨hguarded, backedOnce_of_spellsOnce hguarded⟩

/-- The first anchor of `twoPeerFunding`, its output spelled with a leading zero. -/
def respelledAnchor : String :=
  "aaaaaaaaaaaaaaaaaaaaaaaaaaaaaaaaaaaaaaaaaaaaaaaaaaaaaaaaaaaaaaaa:01"

def respelledFunding : AssetChannelFundingRequest :=
  regtestFunding regtestFundingOutpoint [respelledAnchor] []

theorem respelled_channelId : channelIdOf respelledFunding ≠ channelIdOf twoPeerFunding := by
  decide +kernel

theorem respelled_outpointOf : outpointOf respelledAnchor =
    some ⟨"aaaaaaaaaaaaaaaaaaaaaaaaaaaaaaaaaaaaaaaaaaaaaaaaaaaaaaaaaaaaaaaa", 1⟩ := by
  decide +kernel

theorem respelledFunding_acceptable {root : RootHashSum} :
    Acceptable (twoPeerStore root) respelledFunding regtestGenesis :=
  oneProof_acceptable respelled_outpointOf (by decide +kernel) (by decide +kernel)
    respelled_channelId (by decide +kernel) (by decide +kernel) (by decide +kernel)

/-- One outpoint backs two channels, once it is spelled in two ways. -/
theorem respelled_backs_two_channels :
    ¬ BackedOnce ((fundingMachine acceptingLdk).run [twoPeerFunding, respelledFunding]) := by
  intro h
  obtain ⟨root, root', hrun⟩ := sharedOutput_run fun root => @respelledFunding_acceptable root
  rw [hrun] at h
  have hne := (h (channelIdOf twoPeerFunding) (channelIdOf respelledFunding)
    (channelOf twoPeerFunding regtestGenesis root)
    (channelOf respelledFunding regtestGenesis root') 0 0 (fundingProofId (regtestProof regtestAnchor))
    (fundingProofId (regtestProof respelledAnchor)) regtestAsset _
    ((get_insert_ne respelled_channelId.symm).trans (get_insert_self ..)) (get_insert_self ..)
    rfl rfl (names_fundingProofId.mpr ⟨rfl, by decide +kernel⟩)
    (names_fundingProofId.mpr ⟨rfl, respelled_outpointOf⟩)).1
  exact respelled_channelId hne.symm

end TapLdk.ChannelFundingSpellings
