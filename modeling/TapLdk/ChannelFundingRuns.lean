import Mathlib
import TapLdk.LibraryRuns
import TapLdk.LibraryStateful
import TapLdk.ChannelFundingAccepts

/-! Runs of funding calls: the balances of every funded channel are the sums of its input
proofs, the index of spent proofs lists these proofs and no others, and a failed call leaves
the store as it was. Two channels share no proof, but they may share a funding output. -/
namespace TapLdk.ChannelFundingRuns
open TapLdk.LibraryExcept TapLdk.LibraryMaps TapLdk.LibraryBytes TapLdk.LibraryRuns
open TapLdk.LibraryStateful TapLdk.Mssmt TapLdk.Asset TapLdk.Proof TapLdk.LdkFork
open TapLdk.ChannelFunding TapLdk.ChannelFundingSpec TapLdk.ChannelFundingAccepts

/-- A funding call, which assigns the next store at its end only. -/
def fund (ldk : Ldk) (request : AssetChannelFundingRequest) :
    Stateful AssetChannelStore AssetChannelFundingError StoredAssetChannel :=
  .transact id (fun next _ => next) id fun store => store.fundChannel ldk request

/-- All funding calls, succeeding or failing, from the empty store. -/
def fundingMachine (ldk : Ldk) : Machine AssetChannelStore AssetChannelFundingRequest where
  start := .default
  next store request := ((fund ldk request).call store).2

/-- A call fails and changes nothing, or funds a channel. -/
theorem fund_cases (ldk : Ldk) (request : AssetChannelFundingRequest) (s : AssetChannelStore) :
    (∃ e, (fund ldk request).call s = (.error e, s)) ∨
      ∃ c next, s.fundChannel ldk request = .ok (c, next) ∧
        (fund ldk request).call s = (.ok c, next) := by
  rcases Stateful.call_transact_cases id (fun next _ => next) id
    (fun store : AssetChannelStore => store.fundChannel ldk request) s with
    ⟨e, -, hcall⟩ | ⟨c, next, hfund, hcall⟩
  · exact .inl ⟨e, hcall⟩
  · exact .inr ⟨c, next, hfund, hcall⟩

theorem next_of_ok {ldk : Ldk} {request : AssetChannelFundingRequest} {s next : AssetChannelStore}
    {c : StoredAssetChannel} (h : s.fundChannel ldk request = .ok (c, next)) :
    (fundingMachine ldk).next s request = next := by
  change ((fund ldk request).call s).2 = next
  rw [fund, Stateful.call_transact_of_ok h]

theorem sumInputs_spec {proofs : List ProofFile} {sum : AssetAmount}
    (h : sumInputs (proofs.map fundingInput) = .ok sum) : sum.toNat = amountOf proofs := by
  rw [sumInputs, List.foldlM_map] at h
  refine foldlM_induction (fun done sum => sum.toNat = amountOf done) rfl ?_ h
  intro done proof sum sum' hsum hstep
  rw [mapError_eq_ok, addAmount_eq_ok] at hstep
  simp only [amountOf] at hsum
  simp [amountOf, hstep, hsum, fundingInput]

/-- A channel holds the sums of the proofs of a request, under the ids of these proofs. -/
structure AccountedBy (request : AssetChannelFundingRequest) (c : StoredAssetChannel) : Prop where
  localIds : c.localInputProofIds = request.localInputs.map fundingProofId
  remoteIds : c.remoteInputProofIds = request.remoteInputs.map fundingProofId
  localBalance : c.localBalance.toNat = amountOf request.localInputs
  remoteBalance : c.remoteBalance.toNat = amountOf request.remoteInputs
  total : c.totalAmount.toNat = c.localBalance.toNat + c.remoteBalance.toNat
  outpoint : c.fundingOutpoint = request.fundingOutpoint
  parses : ∃ o, parseLdkOutpoint c.fundingOutpoint = .ok o

theorem fundChannel_accounts {ldk : Ldk} {s next : AssetChannelStore}
    {request : AssetChannelFundingRequest} {c : StoredAssetChannel}
    (h : s.fundChannel ldk request = .ok (c, next)) : AccountedBy request c := by
  have hfunds := fundChannel_spec h
  simp only [AssetChannelStore.fundChannel,
    AssetChannelStore.fundChannelWithForkCommitmentOverride, bind_eq_ok, mapError_eq_ok,
    pure_eq_ok, Except.ok.injEq, Prod.mk.injEq] at h
  obtain ⟨_, -, localInputs, hlocal, remoteInputs, hremote, genesis, -, localBalance, hlocalSum,
    remoteBalance, hremoteSum, total, htotal, _, -, commitment, -, output, -, _, -, _, -, _, hhook,
    history, -, _, -, rfl, -⟩ := h
  obtain ⟨rfl, -⟩ := validateFundingInputs_spec hlocal
  obtain ⟨rfl, -⟩ := validateFundingInputs_spec hremote
  simp only [validateWithLdkFundingHook, bind_eq_ok] at hhook
  obtain ⟨_, -, o, ho, -⟩ := hhook
  exact
    { localIds := hfunds.localIds
      remoteIds := hfunds.remoteIds
      localBalance := sumInputs_spec hlocalSum
      remoteBalance := sumInputs_spec hremoteSum
      total := addAmount_eq_ok.mp htotal
      outpoint := rfl
      parses := ⟨o, ho⟩ }

/-- What holds of a store after the calls `requests`. -/
structure Accounted (requests : List AssetChannelFundingRequest) (s : AssetChannelStore) :
    Prop where
  valid : StoreValid s
  channel : ∀ (id : String) (c : StoredAssetChannel), s.channels[id]? = some c →
    ∃ request ∈ requests, AccountedBy request c

theorem accounted_step {ldk : Ldk} {requests : List AssetChannelFundingRequest}
    {s : AssetChannelStore} (h : Accounted requests s) (request : AssetChannelFundingRequest) :
    Accounted (requests ++ [request]) ((fundingMachine ldk).next s request) := by
  have hold : ∀ c, (∃ r ∈ requests, AccountedBy r c) →
      ∃ r ∈ requests ++ [request], AccountedBy r c := fun c ⟨r, hr, hc⟩ =>
    ⟨r, List.mem_append_left _ hr, hc⟩
  have hnext : (fundingMachine ldk).next s request = ((fund ldk request).call s).2 := rfl
  rcases fund_cases ldk request s with ⟨e, hcall⟩ | ⟨c, next, hfund, hcall⟩
  · rw [hnext, hcall]
    exact ⟨h.valid, fun id c hc => hold c (h.channel id c hc)⟩
  · rw [hnext, hcall]
    have hfunds := fundChannel_spec hfund
    refine ⟨hfunds.valid, fun id c' hc' => ?_⟩
    rw [hfunds.store] at hc'
    rcases get_insert_eq_some hc' with ⟨-, rfl⟩ | ⟨-, hc'⟩
    · exact ⟨request, by simp, fundChannel_accounts hfund⟩
    · exact hold c' (h.channel id c' hc')

theorem run_accounted (ldk : Ldk) (requests : List AssetChannelFundingRequest) :
    Accounted requests ((fundingMachine ldk).run requests) := by
  refine (fundingMachine ldk).run_induction Accounted ⟨storeValid_default, ?_⟩
    (fun done s request h => accounted_step h request) requests
  intro id c hc
  simp [fundingMachine, AssetChannelStore.default] at hc

/-- After any calls, every channel of the store holds the sums of the proofs of a request made
before, the index of spent proofs maps exactly the proofs that channels list, each to the one
channel that lists it, once; and a call that fails leaves the store as it was. -/
theorem funding_accounts (ldk : Ldk) :
    (∀ requests, let s := (fundingMachine ldk).run requests
      (∀ (id : String) (c : StoredAssetChannel), s.channels[id]? = some c →
        c.inputProofIds.Nodup ∧ ∃ request ∈ requests, AccountedBy request c) ∧
      ∀ proofId id : String, s.spentFundingProofs[proofId]? = some id ↔
        ∃ c, s.channels[id]? = some c ∧ proofId ∈ c.inputProofIds) ∧
    ∀ request s e, ((fund ldk request).call s).1 = .error e → ((fund ldk request).call s).2 = s := by
  refine ⟨fun requests => ?_, fun request s e herror => ?_⟩
  · obtain ⟨hvalid, hchannel⟩ := run_accounted ldk requests
    exact ⟨fun id c hc => ⟨hvalid.nodup id c hc, hchannel id c hc⟩, hvalid.index⟩
  · rcases fund_cases ldk request s with ⟨e', hcall⟩ | ⟨c, next, -, hcall⟩
    · rw [hcall]
    · rw [hcall] at herror
      cases herror

/-- No two channels list one proof. -/
def ProofsDisjoint (s : AssetChannelStore) : Prop :=
  ∀ (id₁ id₂ : String) (c₁ c₂ : StoredAssetChannel), s.channels[id₁]? = some c₁ →
    s.channels[id₂]? = some c₂ → id₁ ≠ id₂ → c₁.inputProofIds.Disjoint c₂.inputProofIds

theorem proofsDisjoint_of_valid {s : AssetChannelStore} (h : StoreValid s) : ProofsDisjoint s := by
  intro id₁ id₂ c₁ c₂ h₁ h₂ hne proofId hp₁ hp₂
  have hindex := (h.index proofId id₁).mpr ⟨c₁, h₁, hp₁⟩
  rw [(h.index proofId id₂).mpr ⟨c₂, h₂, hp₂⟩, Option.some.injEq] at hindex
  exact hne hindex.symm

/-- Distinct channels spend distinct proofs, after any calls, which fund outputs that parse,
and in every store that passes validation. -/
theorem channels_share_no_proof (ldk : Ldk) :
    (∀ requests, let s := (fundingMachine ldk).run requests
      ProofsDisjoint s ∧ ∀ (id : String) (c : StoredAssetChannel), s.channels[id]? = some c →
        ∃ o, parseLdkOutpoint c.fundingOutpoint = .ok o) ∧
    ∀ s : AssetChannelStore, s.validate = .ok () → ProofsDisjoint s := by
  refine ⟨fun requests => ?_, fun s h => proofsDisjoint_of_valid (validate_eq_ok.mp h)⟩
  obtain ⟨hvalid, hchannel⟩ := run_accounted ldk requests
  refine ⟨proofsDisjoint_of_valid hvalid, fun id c hc => ?_⟩
  obtain ⟨request, -, haccount⟩ := hchannel id c hc
  exact haccount.parses

def regtestThirdAnchor : String :=
  "dddddddddddddddddddddddddddddddddddddddddddddddddddddddddddddddd:1"

/-- One proof more, brought into the output that `twoPeerFunding` funds. -/
def secondFunding : AssetChannelFundingRequest :=
  regtestFunding regtestFundingOutpoint [regtestThirdAnchor] []

theorem second_channelId : channelIdOf secondFunding ≠ channelIdOf twoPeerFunding := by
  decide +kernel

section Shared

variable {root : RootHashSum}

/-- The store with the channel of two peers. -/
def twoPeerStore (root : RootHashSum) : AssetChannelStore :=
  AssetChannelStore.default.insertChannel (channelOf twoPeerFunding regtestGenesis root)

/-- Another proof may be brought into that output, unless a hash is in the way. -/
theorem oneProof_acceptable {anchor : String} {p : ParsedOutpoint}
    (hparses : outpointOf anchor = some p) (hgenesis : outpointOf regtestGenesis ≠ some p)
    (hnew : fundingProofId (regtestProof anchor) ∉ inputIds twoPeerFunding)
    (hchannel : channelIdOf (regtestFunding regtestFundingOutpoint [anchor] []) ≠
      channelIdOf twoPeerFunding)
    (hwitness : (TapVm.AssetVirtualTransition.fundingWitness regtestAsset (fundingWitnessContext
      [fundingProofId (regtestProof anchor)]) 0).NonZero)
    (hdigest : inputDigest (regtestProof anchor) ≠ Bytes32.ZERO)
    (htransition : (historyOf (regtestFunding regtestFundingOutpoint [anchor] [])).transitionId ≠
      Bytes32.ZERO) : Acceptable (twoPeerStore root)
        (regtestFunding regtestFundingOutpoint [anchor] []) regtestGenesis := by
  have honly : inputs (regtestFunding regtestFundingOutpoint [anchor] []) =
      [regtestProof anchor] := rfl
  constructor
  case shared => simp [honly, regtestProof]
  constructor
  case localPeer => exact twoPeerFunding_acceptable.localPeer
  case remotePeer => exact twoPeerFunding_acceptable.remotePeer
  case outpoint => exact twoPeerFunding_acceptable.outpoint
  case nonempty => simp [honly]
  case spendable =>
    intro proof hproof
    rw [honly, List.mem_singleton] at hproof
    subst hproof
    refine regtestProof_spendable ⟨p, hparses, hgenesis⟩ ?_
    have hnot : fundingProofId (regtestProof anchor) ∉
        ((channelOf twoPeerFunding regtestGenesis root).inputProofIds.map fun id =>
          (id, (channelOf twoPeerFunding regtestGenesis root).channelId)).map (·.1) := by
      simpa [channelOf, StoredAssetChannel.inputProofIds, inputIds, inputs, Function.comp_def]
        using hnew
    exact get_insertAll_of_not_mem hnot
  case distinct => simp [inputIds, honly]
  case bounded => simp [honly, amountOf, regtestProof]
  case count => simp [honly]
  case key => exact regtestKey_prefix
  case anchor => exact twoPeerFunding_acceptable.anchor
  case ldkOutpoint => exact twoPeerFunding_acceptable.ldkOutpoint
  case noRoot => rfl
  case fresh =>
    have hempty (id : String) : AssetChannelStore.default.channels[id]? = none := by
      simp [AssetChannelStore.default]
    exact (get_insert_ne hchannel).trans (hempty _)
  case witnesses =>
    intro index hindex
    rw [honly, List.length_singleton, Nat.lt_one_iff] at hindex
    subst hindex
    exact hwitness
  case inputDigests =>
    intro proof hproof
    rw [honly, List.mem_singleton] at hproof
    rw [hproof]
    exact hdigest
  case transition => exact htransition

theorem secondFunding_acceptable : Acceptable (twoPeerStore root) secondFunding regtestGenesis :=
  @oneProof_acceptable root regtestThirdAnchor
    ⟨"dddddddddddddddddddddddddddddddddddddddddddddddddddddddddddddddd", 1⟩ (by decide +kernel)
    (by decide +kernel) (by decide +kernel) second_channelId (by decide +kernel)
    (by decide +kernel) (by decide +kernel)

end Shared

/-- Both fundings succeed, one after the other. -/
theorem sharedOutput_run {request : AssetChannelFundingRequest}
    (h : ∀ root, Acceptable (twoPeerStore root) request regtestGenesis) : ∃ root root',
    (fundingMachine acceptingLdk).run [twoPeerFunding, request] =
      (twoPeerStore root).insertChannel (channelOf request regtestGenesis root') := by
  obtain ⟨root, hfirst⟩ := fundChannel_ok storeValid_default twoPeerFunding_acceptable
  have hvalid : StoreValid (twoPeerStore root) := (fundChannel_spec hfirst).valid
  obtain ⟨root', hsecond⟩ := fundChannel_ok hvalid (h root)
  have hstart : (fundingMachine acceptingLdk).start = .default := rfl
  refine ⟨root, root', ?_⟩
  rw [Machine.run, List.foldl_cons, List.foldl_cons, List.foldl_nil, hstart, next_of_ok hfirst,
    ← twoPeerStore, next_of_ok hsecond]

/-- Two channels are funded in one output, which parses. -/
theorem output_funds_two_channels : ∃ (id₁ id₂ : String) (c₁ c₂ : StoredAssetChannel),
    let s := (fundingMachine acceptingLdk).run [twoPeerFunding, secondFunding]
    s.channels[id₁]? = some c₁ ∧ s.channels[id₂]? = some c₂ ∧ id₁ ≠ id₂ ∧
      ∃ o, parseLdkOutpoint c₁.fundingOutpoint = .ok o ∧
        parseLdkOutpoint c₂.fundingOutpoint = .ok o := by
  obtain ⟨root, root', hrun⟩ := sharedOutput_run fun root => @secondFunding_acceptable root
  obtain ⟨o, ho⟩ := twoPeerFunding_acceptable.ldkOutpoint
  refine ⟨channelIdOf twoPeerFunding, channelIdOf secondFunding,
    channelOf twoPeerFunding regtestGenesis root, channelOf secondFunding regtestGenesis root', ?_⟩
  rw [hrun]
  refine ⟨?_, get_insert_self .., second_channelId.symm, o, ho, ho⟩
  exact (get_insert_ne second_channelId.symm).trans (get_insert_self ..)

/-- The store of both channels passes validation, and they share no proof. -/
theorem channels_share_no_proof_twoPeer :
    let s := (fundingMachine acceptingLdk).run [twoPeerFunding, secondFunding]
    s.validate = .ok () ∧ ProofsDisjoint s := by
  intro s
  have hvalid : s.validate = .ok () := validate_eq_ok.mpr (run_accounted acceptingLdk _).valid
  exact ⟨hvalid, (channels_share_no_proof acceptingLdk).2 s hvalid⟩

/-- The channel of two peers is accounted for, and a call without a peer leaves its store. -/
theorem funding_accounts_twoPeer : ∃ (s : AssetChannelStore) (c : StoredAssetChannel),
    (fundingMachine acceptingLdk).run [twoPeerFunding] = s ∧
      s.channels[channelIdOf twoPeerFunding]? = some c ∧ AccountedBy twoPeerFunding c ∧
      ((fund acceptingLdk { twoPeerFunding with localPeer := "" }).call s).2 = s := by
  obtain ⟨root, hfirst⟩ := fundChannel_ok storeValid_default twoPeerFunding_acceptable
  have hstart : (fundingMachine acceptingLdk).start = .default := rfl
  have hrun : (fundingMachine acceptingLdk).run [twoPeerFunding] = twoPeerStore root := by
    rw [Machine.run, List.foldl_cons, List.foldl_nil, hstart, next_of_ok hfirst, ← twoPeerStore]
  have hget : (twoPeerStore root).channels[channelIdOf twoPeerFunding]? =
      some (channelOf twoPeerFunding regtestGenesis root) := get_insert_self ..
  obtain ⟨hruns, hfails⟩ := funding_accounts acceptingLdk
  have hchannel := hruns [twoPeerFunding]
  rw [hrun] at hchannel
  obtain ⟨-, request, hrequest, haccount⟩ := hchannel.1 _ _ hget
  rw [List.mem_singleton.mp hrequest] at haccount
  have hblank : validateFundingRequest { twoPeerFunding with localPeer := "" } =
      .error .emptyPeer := by
    rw [validateFundingRequest, rejectIf, if_pos (.inl (by decide))]
    rfl
  have herror : (twoPeerStore root).fundChannel acceptingLdk
      { twoPeerFunding with localPeer := "" } = .error .emptyPeer := by
    rw [AssetChannelStore.fundChannel, AssetChannelStore.fundChannelWithForkCommitmentOverride,
      hblank, error_bind]
  refine ⟨_, _, hrun, hget, haccount, hfails _ _ .emptyPeer ?_⟩
  rw [fund, Stateful.call_transact_of_error herror]
  rfl

end TapLdk.ChannelFundingRuns
