import Mathlib
import TapLdk.AssetCloseSpec
import TapLdk.AssetPaymentFailure
import TapLdk.ChannelFundingRuns

/-! The stores of a node together. Channels are funded, taken over, updated, paid over and closed
in any order and with any failures, and the amount that a channel was funded with is the one that
its state, its payments and its closes share out. -/
namespace TapLdk.NodeLifecycle
open TapLdk.LibraryExcept TapLdk.LibraryMaps TapLdk.LibraryBytes TapLdk.LibraryStateful
open TapLdk.LibraryRuns TapLdk.Mssmt TapLdk.Asset TapLdk.Proof TapLdk.LdkFork TapLdk.RfqQuotes
open TapLdk.ChannelFunding TapLdk.ChannelFundingSpec TapLdk.ChannelFundingAccepts
open TapLdk.ChannelFundingRuns TapLdk.Commitment TapLdk.CommitmentSteps TapLdk.AssetHtlc
open TapLdk.AssetPayment TapLdk.AssetPaymentSteps TapLdk.AssetPaymentRuns
open TapLdk.AssetPaymentFailure TapLdk.AssetClose TapLdk.AssetCloseSpec

/-- The stores of a node, and the closes that calls have returned so far. -/
structure NodeStores where
  funding : AssetChannelStore
  payments : PaymentStores
  closes : NativeAssetCloseStore
  returned : List NativeAssetClose

/-- A channel is taken over as the funding store holds it, and a close is recorded as an earlier
call returned it. -/
inductive NodeOperation where
  | fundChannel (request : AssetChannelFundingRequest)
  | initializeChannel (channelId : String)
  | applyUpdate (request : AssetCommitmentUpdateRequest)
  | addHtlc (channelId : String) (validation : AssetHtlcValidation)
  | settleHtlc (htlcId : String)
  | failHtlc (htlcId : String)
  | sendNativeAssetPayment (request : NativeAssetPaymentRequest) (quotes : RfqQuoteStore)
  | tryNativeAssetPaymentWithFailure (request : NativeAssetPaymentRequest)
      (failureMode : NativeAssetPaymentFailureMode) (quotes : RfqQuoteStore)
  | cooperativeClose (channelId : String) (localScriptKey remoteScriptKey : CompressedKey)
  | recordClose (index : ℕ)

/-- The commitments after a channel of the funding store is taken over. -/
def takeOver (ldk : Ldk) (s : NodeStores) (channelId : String) : AssetCommitmentStore :=
  match s.funding.channels[channelId]? with
  | some channel => storeAfter s.payments.commitments
      (s.payments.commitments.initializeChannel ldk channel)
  | none => s.payments.commitments

/-- The closes after one that a call returned is recorded. -/
def recordReturned (ldk : Ldk) (closing : LdkClose ldk.ChannelDescriptor) (s : NodeStores)
    (index : ℕ) : NativeAssetCloseStore :=
  match s.returned[index]? with
  | some close => storeAfter s.closes (s.closes.recordClose ldk closing close)
  | none => s.closes

def nodeMachine (ldk : Ldk) (closing : LdkClose ldk.ChannelDescriptor) :
    Machine NodeStores NodeOperation where
  start := ⟨.default, ⟨.default, .default, .default, .default⟩, .default, []⟩
  next s
    | .fundChannel request => { s with funding := (fundingMachine ldk).next s.funding request }
    | .initializeChannel channelId =>
      { s with payments := { s.payments with commitments := takeOver ldk s channelId } }
    | .applyUpdate request =>
      { s with payments := (paymentMachine ldk).next s.payments (.applyUpdate request) }
    | .addHtlc channelId validation =>
      { s with payments := (paymentMachine ldk).next s.payments (.addHtlc channelId validation) }
    | .settleHtlc htlcId =>
      { s with payments := (paymentMachine ldk).next s.payments (.settleHtlc htlcId) }
    | .failHtlc htlcId =>
      { s with payments := (paymentMachine ldk).next s.payments (.failHtlc htlcId) }
    | .sendNativeAssetPayment request quotes =>
      { s with payments :=
          ((sendNativeAssetPayment ldk request).call { s.payments with quotes }).2 }
    | .tryNativeAssetPaymentWithFailure request failureMode quotes =>
      { s with payments :=
          (tryNativeAssetPaymentWithFailure ldk request failureMode { s.payments with quotes }).2 }
    | .cooperativeClose channelId localScriptKey remoteScriptKey =>
      { s with returned := s.returned ++ (cooperativeClose ldk closing s.payments.commitments
          channelId localScriptKey remoteScriptKey).toOption.toList }
    | .recordClose index => { s with closes := recordReturned ldk closing s index }

def fundingRequest : NodeOperation → Option AssetChannelFundingRequest
  | .fundChannel request => some request
  | _ => none

/-- The funding calls of a run. -/
def fundingRequests (ops : List NodeOperation) : List AssetChannelFundingRequest :=
  ops.filterMap fundingRequest

/-- Two amounts make up what a channel was funded with. -/
def SharesOut (funding : AssetChannelStore) (channelId : String) (a b : UInt64) : Prop :=
  ∃ c, funding.channels[channelId]? = some c ∧ a.toNat + b.toNat = c.totalAmount.toNat

/-- Two amounts of an asset make up what a channel was funded with. -/
def SharesAsset (funding : AssetChannelStore) (channelId : String) (assetId : Bytes32)
    (a b : UInt64) : Prop :=
  ∃ c, funding.channels[channelId]? = some c ∧ assetId = c.assetId ∧
    a.toNat + b.toNat = c.totalAmount.toNat

/-- A channel as its funding request asks for it. -/
structure Backs (request : AssetChannelFundingRequest) (c : StoredAssetChannel) : Prop where
  accounted : AccountedBy request c
  assetId : c.assetId = request.assetId
  proofs : ∀ p ∈ inputs request, Verified p ∧ p.assetId = request.assetId
  nonempty : inputs request ≠ []

/-- What holds of the stores after the funding calls `requests`. -/
structure NodeInvariant (requests : List AssetChannelFundingRequest) (s : NodeStores) : Prop where
  funding : StoreValid s.funding
  backed : ∀ (id : String) (c : StoredAssetChannel), s.funding.channels[id]? = some c →
    ∃ request ∈ requests, Backs request c
  channels : ∀ (id : String) (state : AssetCommitmentChannelState),
    s.payments.commitments.channels[id]? = some state →
      state.channelId = id ∧ state.localBalance.toNat + state.remoteBalance.toNat =
        state.totalAmount.toNat ∧
      SharesAsset s.funding id state.assetId state.localBalance state.remoteBalance
  payments : ∀ (id : String) (p : NativeAssetPayment), s.payments.payments.payments[id]? = some p →
    SharesOut s.funding p.channelId p.senderBalanceAfter p.receiverBalanceAfter
  returned : ∀ close ∈ s.returned,
    SharesAsset s.funding close.channelId close.assetId close.localAmount close.remoteAmount
  closes : ∀ (id : String) (close : NativeAssetClose), s.closes.closes[id]? = some close →
    SharesAsset s.funding close.channelId close.assetId close.localAmount close.remoteAmount

theorem fundChannel_backs {ldk : Ldk} {s next : AssetChannelStore}
    {request : AssetChannelFundingRequest} {c : StoredAssetChannel}
    (h : s.fundChannel ldk request = .ok (c, next)) : Backs request c := by
  have hfunds := fundChannel_spec h
  have haccounted := fundChannel_accounts h
  simp only [AssetChannelStore.fundChannel,
    AssetChannelStore.fundChannelWithForkCommitmentOverride, validateFundingRequest, bind_eq_ok,
    rejectIf_eq_ok, exists_const, pure_eq_ok, Except.ok.injEq, Prod.mk.injEq] at h
  obtain ⟨⟨-, -, hinputs⟩, _, -, _, -, _, -, _, -, _, -, _, -, _, -, _, -, _, -, _, -, -, _, -, _,
    -, _, -, rfl, -⟩ := h
  refine ⟨haccounted, rfl, fun p hp => ?_, fun hnil => hinputs ?_⟩
  · have hspendable : Spendable s request.assetId p :=
      (List.mem_append.mp hp).elim (hfunds.localInputs p) (hfunds.remoteInputs p)
    exact ⟨hspendable.verified, hspendable.assetId⟩
  · simpa [inputs, List.isEmpty_iff] using hnil

section Step

variable {ldk : Ldk} {closing : LdkClose ldk.ChannelDescriptor} {s : NodeStores}
  {requests : List AssetChannelFundingRequest}

/-- A channel that is funded stays as it is. -/
theorem funding_kept (request : AssetChannelFundingRequest) {id : String} {c : StoredAssetChannel}
    (hc : s.funding.channels[id]? = some c) :
    ((fundingMachine ldk).next s.funding request).channels[id]? = some c := by
  change ((fund ldk request).call s.funding).2.channels[id]? = some c
  rcases fund_cases ldk request s.funding with ⟨e, hcall⟩ | ⟨c', next, hfund, hcall⟩
  · rw [hcall]
    exact hc
  · have hfunds := fundChannel_spec hfund
    have hne : id ≠ c'.channelId := by
      rintro rfl
      rw [hfunds.fresh] at hc
      cases hc
    rw [hcall, hfunds.store, AssetChannelStore.insertChannel, get_insert_ne hne, hc]

theorem invariant_fund (h : NodeInvariant requests s) (request : AssetChannelFundingRequest) :
    NodeInvariant (requests ++ [request])
      { s with funding := (fundingMachine ldk).next s.funding request } := by
  have hkeep : ∀ {id c}, s.funding.channels[id]? = some c →
      ((fundingMachine ldk).next s.funding request).channels[id]? = some c :=
    fun hc => funding_kept request hc
  have hasset : ∀ {id assetId a b}, SharesAsset s.funding id assetId a b →
      SharesAsset ((fundingMachine ldk).next s.funding request) id assetId a b := by
    rintro id assetId a b ⟨c, hc, hrest⟩
    exact ⟨c, hkeep hc, hrest⟩
  refine ⟨?_, ?_, fun id state hstate => ?_, fun id p hp => ?_, fun close hclose => ?_,
    fun id close hclose => ?_⟩
  · change StoreValid ((fund ldk request).call s.funding).2
    rcases fund_cases ldk request s.funding with ⟨e, hcall⟩ | ⟨c, next, hfund, hcall⟩
    · rw [hcall]
      exact h.funding
    · rw [hcall]
      exact (fundChannel_spec hfund).valid
  · intro id c hc
    change ((fund ldk request).call s.funding).2.channels[id]? = some c at hc
    have hold : ∀ {c'}, s.funding.channels[id]? = some c' →
        ∃ r ∈ requests ++ [request], Backs r c' := by
      intro c' hc'
      obtain ⟨r, hr, hbacks⟩ := h.backed id c' hc'
      exact ⟨r, List.mem_append_left _ hr, hbacks⟩
    rcases fund_cases ldk request s.funding with ⟨e, hcall⟩ | ⟨c', next, hfund, hcall⟩
    · rw [hcall] at hc
      exact hold hc
    · rw [hcall, (fundChannel_spec hfund).store, AssetChannelStore.insertChannel] at hc
      rcases get_insert_eq_some hc with ⟨-, rfl⟩ | ⟨-, hc⟩
      · exact ⟨request, by simp, fundChannel_backs hfund⟩
      · exact hold hc
  · obtain ⟨hid, hsum, hshares⟩ := h.channels id state hstate
    exact ⟨hid, hsum, hasset hshares⟩
  · obtain ⟨c, hc, hsum⟩ := h.payments id p hp
    exact ⟨c, hkeep hc, hsum⟩
  · exact hasset (h.returned close hclose)
  · exact hasset (h.closes id close hclose)

/-- A state whose balances are those of its channel. -/
def StateShares (funding : AssetChannelStore) (id : String) (state : AssetCommitmentChannelState) :
    Prop :=
  state.channelId = id ∧
    state.localBalance.toNat + state.remoteBalance.toNat = state.totalAmount.toNat ∧
    SharesAsset funding id state.assetId state.localBalance state.remoteBalance

/-- Calls of the stores of commitments and payments keep the invariant when what they add does. -/
theorem invariant_payments (h : NodeInvariant requests s) {t : PaymentStores}
    (hchannels : ∀ (id : String) (state : AssetCommitmentChannelState),
      t.commitments.channels[id]? = some state →
        s.payments.commitments.channels[id]? = some state ∨ StateShares s.funding id state)
    (hpayments : ∀ (id : String) (p : NativeAssetPayment), t.payments.payments[id]? = some p →
      s.payments.payments.payments[id]? = some p ∨
        SharesOut s.funding p.channelId p.senderBalanceAfter p.receiverBalanceAfter) :
    NodeInvariant requests { s with payments := t } := by
  refine ⟨h.funding, h.backed, fun id state hstate => ?_, fun id p hp => ?_, h.returned, h.closes⟩
  · rcases hchannels id state hstate with hold | hnew
    · exact h.channels id state hold
    · exact hnew
  · rcases hpayments id p hp with hold | hnew
    · exact h.payments id p hold
    · exact hnew

/-- No amount is shared out by the HTLCs. -/
theorem invariant_htlcs (h : NodeInvariant requests s) (htlcs : AssetHtlcStore) :
    NodeInvariant requests { s with payments := { s.payments with htlcs } } := by
  apply invariant_payments h
  · exact fun id state hstate => .inl hstate
  · exact fun id p hp => .inl hp

/-- A channel that is taken over has the balances that it was funded with. -/
theorem invariant_takeOver (h : NodeInvariant requests s) (channelId : String) :
    NodeInvariant requests
      { s with payments := { s.payments with commitments := takeOver ldk s channelId } } := by
  refine invariant_payments h (fun id state hstate => ?_) fun id p hp => .inl hp
  simp only [takeOver] at hstate
  cases hget : s.funding.channels[channelId]? with
  | none =>
    rw [hget] at hstate
    exact .inl hstate
  | some c =>
    rw [hget] at hstate
    dsimp only at hstate
    cases hcall : s.payments.commitments.initializeChannel ldk c with
    | error e =>
      rw [hcall] at hstate
      exact .inl hstate
    | ok r =>
      rw [hcall, storeAfter] at hstate
      have hinitializes := initializeChannel_spec hcall
      have hfunded := hinitializes.funded
      rw [hinitializes.store, AssetCommitmentStore.putChannel] at hstate
      rcases get_insert_eq_some hstate with ⟨rfl, rfl⟩ | ⟨-, hold⟩
      · obtain ⟨request, -, hbacks⟩ := h.backed channelId c hget
        have htotal := hbacks.accounted.total
        have hkey : channelId = c.channelId := by
          have hvalid := h.funding.channel channelId c hget
          simp only [AssetChannelStore.validateChannel, bind_eq_ok, rejectIf_eq_ok, ne_eq,
            not_not] at hvalid
          obtain ⟨-, hkey, -⟩ := hvalid
          exact hkey
        refine .inr ⟨hfunded.channelId, ?_, c, hkey ▸ hget, hfunded.assetId, ?_⟩
        · rw [hfunded.localBalance, hfunded.remoteBalance, hfunded.totalAmount, htotal]
        · rw [hfunded.localBalance, hfunded.remoteBalance, htotal]
      · exact .inl hold

/-- An update shares out what its channel was funded with. -/
theorem applies_shares (h : NodeInvariant requests s) {update : AssetCommitmentUpdateRequest}
    {current updated : AssetCommitmentChannelState} {snapshot : AssetCommitmentSnapshot}
    {next : AssetCommitmentStore}
    (happlies : Applies ldk s.payments.commitments update current snapshot updated next) :
    StateShares s.funding update.channelId updated ∧
      SharesOut s.funding update.channelId snapshot.localBalance snapshot.remoteBalance := by
  obtain ⟨hid, hsum, c, hc, hasset, hshares⟩ := h.channels _ _ happlies.held
  have hconserved := checkedAdd_eq_some.mp happlies.step.checked.conserved
  obtain ⟨blob, -, rfl⟩ := happlies.step.updated
  have htotal : snapshot.localBalance.toNat + snapshot.remoteBalance.toNat =
      c.totalAmount.toNat := by omega
  exact ⟨⟨hid, hconserved.symm, c, hc, hasset, htotal⟩, c, hc, htotal⟩

theorem invariant_applies (h : NodeInvariant requests s) {update : AssetCommitmentUpdateRequest}
    {current updated : AssetCommitmentChannelState} {snapshot : AssetCommitmentSnapshot}
    {t : PaymentStores}
    (happlies : Applies ldk s.payments.commitments update current snapshot updated t.commitments)
    (hpayments : ∀ (id : String) (p : NativeAssetPayment), t.payments.payments[id]? = some p →
      s.payments.payments.payments[id]? = some p ∨
        SharesOut s.funding p.channelId p.senderBalanceAfter p.receiverBalanceAfter) :
    NodeInvariant requests { s with payments := t } := by
  refine invariant_payments h (fun id state hstate => ?_) hpayments
  rw [happlies.store, AssetCommitmentStore.putChannel] at hstate
  rcases get_insert_eq_some hstate with ⟨rfl, rfl⟩ | ⟨-, hold⟩
  · exact .inr (applies_shares h happlies).1
  · exact .inl hold

/-- A payment, failed or not, shares out what its channel was funded with. -/
theorem invariant_settles (h : NodeInvariant requests s) {request : NativeAssetPaymentRequest}
    {quotes : RfqQuoteStore} {t : PaymentStores}
    (heffect : written t = written { s.payments with quotes } ∨
      ∃ proposal snapshot, Settles ldk request proposal snapshot { s.payments with quotes } t) :
    NodeInvariant requests { s with payments := t } := by
  rcases heffect with hsame | ⟨proposal, snapshot, hsettles⟩
  · obtain ⟨hcommitments, hrest⟩ := Prod.mk.inj hsame
    obtain ⟨-, hpayments⟩ := Prod.mk.inj hrest
    refine invariant_payments h (fun id state hstate => .inl ?_) fun id p hp => .inl ?_
    · rwa [hcommitments] at hstate
    · rwa [hpayments] at hp
  · obtain ⟨current, updated, happlies, hid⟩ := hsettles.applies
    refine invariant_applies h happlies fun id p hp => ?_
    rcases hsettles.recorded with hpayments | ⟨payment, hbooks⟩
    · rw [hpayments] at hp
      exact .inl hp
    · rw [hbooks.payments] at hp
      rcases get_insert_eq_some hp with ⟨-, rfl⟩ | ⟨-, hold⟩
      · have hshares := (applies_shares h happlies).2
        rw [hid] at hshares
        rw [hbooks.recorded]
        exact .inr hshares
      · exact .inl hold

/-- A close pays out what its channel was funded with. -/
theorem invariant_close (h : NodeInvariant requests s) (channelId : String)
    (localScriptKey remoteScriptKey : CompressedKey) :
    NodeInvariant requests { s with returned := s.returned ++ (cooperativeClose ldk closing
      s.payments.commitments channelId localScriptKey remoteScriptKey).toOption.toList } := by
  refine ⟨h.funding, h.backed, h.channels, h.payments, fun close hclose => ?_, h.closes⟩
  rcases List.mem_append.mp hclose with hold | hnew
  · exact h.returned close hold
  · obtain ⟨state, hstate, hcloses⟩ :=
      cooperativeClose_spec (toOption_eq_some (Option.mem_toList.mp hnew))
    obtain ⟨rfl, -, hshares⟩ := h.channels channelId state hstate
    rw [hcloses.channelId, hcloses.assetId, hcloses.localAmount, hcloses.remoteAmount]
    exact hshares

theorem invariant_record (h : NodeInvariant requests s) (index : ℕ) :
    NodeInvariant requests { s with closes := recordReturned ldk closing s index } := by
  refine ⟨h.funding, h.backed, h.channels, h.payments, h.returned, fun id close hclose => ?_⟩
  simp only [recordReturned] at hclose
  cases hget : s.returned[index]? with
  | none =>
    rw [hget] at hclose
    exact h.closes id close hclose
  | some returned =>
    rw [hget] at hclose
    dsimp only at hclose
    cases hcall : s.closes.recordClose ldk closing returned with
    | error e =>
      rw [hcall] at hclose
      exact h.closes id close hclose
    | ok r =>
      rw [hcall, storeAfter, (recordClose_spec hcall).2] at hclose
      rcases get_insert_eq_some hclose with ⟨-, rfl⟩ | ⟨-, hold⟩
      · exact h.returned _ (List.mem_of_getElem? hget)
      · exact h.closes id close hold

theorem invariant_other {op : NodeOperation} (hop : fundingRequest op = none)
    (h : NodeInvariant requests s) : NodeInvariant (requests ++ (fundingRequest op).toList) s := by
  rw [hop, Option.toList_none, List.append_nil]
  exact h

theorem invariant_step (h : NodeInvariant requests s) (op : NodeOperation) :
    NodeInvariant (requests ++ (fundingRequest op).toList)
      ((nodeMachine ldk closing).next s op) := by
  cases op with
  | fundChannel request => exact invariant_fund h request
  | initializeChannel channelId => exact invariant_other rfl (invariant_takeOver h channelId)
  | applyUpdate request =>
    have hnext : (nodeMachine ldk closing).next s (.applyUpdate request) =
        { s with
          payments := { s.payments with
            commitments := storeAfter s.payments.commitments
              (s.payments.commitments.applyUpdate ldk request) } } := rfl
    rw [hnext]
    refine invariant_other rfl ?_
    cases hcall : s.payments.commitments.applyUpdate ldk request with
    | error e => exact h
    | ok r =>
      obtain ⟨current, updated, happlies⟩ := applyUpdate_spec hcall
      exact invariant_applies h happlies fun id p hp => .inl hp
  | addHtlc channelId validation =>
    exact invariant_other rfl (invariant_htlcs h _)
  | settleHtlc htlcId =>
    exact invariant_other rfl (invariant_htlcs h _)
  | failHtlc htlcId =>
    exact invariant_other rfl (invariant_htlcs h _)
  | sendNativeAssetPayment request quotes =>
    exact invariant_other rfl (invariant_settles h (sendNativeAssetPayment_settles rfl))
  | tryNativeAssetPaymentWithFailure request failureMode quotes =>
    have heffect : written (tryNativeAssetPaymentWithFailure ldk request failureMode
          { s.payments with quotes }).2 = written { s.payments with quotes } ∨
        ∃ proposal snapshot, Settles ldk request proposal snapshot { s.payments with quotes }
          (tryNativeAssetPaymentWithFailure ldk request failureMode
            { s.payments with quotes }).2 := by
      rcases injected_cases (s := { s.payments with quotes }) rfl with
        ⟨e, -, hsame⟩ | ⟨-, hsettles, -⟩
      · exact .inl hsame
      · exact .inr hsettles
    exact invariant_other rfl (invariant_settles h heffect)
  | cooperativeClose channelId localScriptKey remoteScriptKey =>
    exact invariant_other rfl (invariant_close h channelId localScriptKey remoteScriptKey)
  | recordClose index => exact invariant_other rfl (invariant_record h index)

end Step

theorem invariant_run (ldk : Ldk) (closing : LdkClose ldk.ChannelDescriptor)
    (ops : List NodeOperation) :
    NodeInvariant (fundingRequests ops) ((nodeMachine ldk closing).run ops) := by
  induction ops using List.reverseRecOn with
  | nil =>
    refine ⟨storeValid_default, ?_, ?_, ?_, ?_, ?_⟩ <;>
      simp [nodeMachine, AssetChannelStore.default, AssetCommitmentStore.default,
        NativeAssetPaymentStore.default, NativeAssetCloseStore.default]
  | append_singleton ops op ih =>
    have hrequests : fundingRequests (ops ++ [op]) =
        fundingRequests ops ++ (fundingRequest op).toList := by
      rw [fundingRequests, fundingRequests, List.filterMap_append]
      cases h : fundingRequest op <;> simp [h]
    rw [hrequests, Machine.run_concat]
    exact invariant_step ih op

/-- The closes that a store records. -/
def closesOf (s : NodeStores) : List NativeAssetClose := s.closes.closes.toList.map (·.2)

/-- The proofs that a channel was funded with, all those of one request. -/
structure FundedWith (requests : List AssetChannelFundingRequest) (c : StoredAssetChannel)
    (proofs : List ProofFile) : Prop where
  request : ∃ request ∈ requests, proofs = inputs request
  nonempty : proofs ≠ []
  asset : ∀ p ∈ proofs, Verified p ∧ p.assetId = c.assetId
  ids : proofs.map fundingProofId = c.inputProofIds
  amount : amountOf proofs = c.totalAmount.toNat

theorem Backs.fundedWith {requests : List AssetChannelFundingRequest}
    {request : AssetChannelFundingRequest} {c : StoredAssetChannel} (h : Backs request c)
    (hmem : request ∈ requests) : FundedWith requests c (inputs request) := by
  refine ⟨⟨request, hmem, rfl⟩, h.nonempty, ?_, ?_, ?_⟩
  · rw [h.assetId]
    exact h.proofs
  · rw [StoredAssetChannel.inputProofIds, h.accounted.localIds, h.accounted.remoteIds, inputs,
      List.map_append]
  · rw [amountOf_inputs, h.accounted.total, h.accounted.localBalance, h.accounted.remoteBalance]

/-- The funding proofs behind each channel of a node's stores: what the channel's state, its
payments and its closes share out is the amount of these proofs. -/
structure ValueAccounted (requests : List AssetChannelFundingRequest) (s : NodeStores)
    (proofs : String → List ProofFile) : Prop where
  funding : ∀ (id : String) (c : StoredAssetChannel), s.funding.channels[id]? = some c →
    FundedWith requests c (proofs id)
  states : ∀ (id : String) (state : AssetCommitmentChannelState),
    s.payments.commitments.channels[id]? = some state →
      (∀ p ∈ proofs id, p.assetId = state.assetId) ∧
        state.localBalance.toNat + state.remoteBalance.toNat = amountOf (proofs id)
  payments : ∀ (id : String) (p : NativeAssetPayment), s.payments.payments.payments[id]? = some p →
    p.senderBalanceAfter.toNat + p.receiverBalanceAfter.toNat = amountOf (proofs p.channelId)
  closes : ∀ close ∈ closesOf s, (∀ p ∈ proofs close.channelId, p.assetId = close.assetId) ∧
    close.localAmount.toNat + close.remoteAmount.toNat = amountOf (proofs close.channelId)

theorem mem_closesOf {s : NodeStores} {close : NativeAssetClose} :
    close ∈ closesOf s ↔ ∃ id : String, s.closes.closes[id]? = some close := by
  simp [closesOf]

/-- The proofs of the closed channels are different ones exactly if the channels are. -/
theorem proofs_nodup_iff {funding : AssetChannelStore} (hvalid : StoreValid funding)
    {proofs : String → List ProofFile} {ids : List String}
    (hids : ∀ id ∈ ids, ∃ c, funding.channels[id]? = some c ∧
      (proofs id).map fundingProofId = c.inputProofIds ∧ proofs id ≠ []) :
    ((ids.flatMap proofs).map fundingProofId).Nodup ↔ ids.Nodup := by
  rw [List.map_flatMap, List.nodup_flatMap]
  constructor
  · rintro ⟨-, hdisjoint⟩
    refine hdisjoint.imp_of_mem fun {id id'} hid _ hpair hsame => ?_
    subst hsame
    obtain ⟨-, -, -, hne⟩ := hids id hid
    obtain ⟨p, hp⟩ := List.exists_mem_of_ne_nil _ hne
    exact hpair (List.mem_map_of_mem hp) (List.mem_map_of_mem hp)
  · intro hnodup
    refine ⟨fun id hid => ?_, hnodup.imp_of_mem fun {id id'} hid hid' hne => ?_⟩
    · obtain ⟨c, hc, hproofs, -⟩ := hids id hid
      rw [hproofs]
      exact hvalid.nodup id c hc
    · obtain ⟨c, hc, hproofs, -⟩ := hids id hid
      obtain ⟨c', hc', hproofs', -⟩ := hids id' hid'
      rw [Function.onFun, hproofs, hproofs']
      exact proofsDisjoint_of_valid hvalid id id' c c' hc hc' hne

/-- Whatever a node does, the amount that a channel was funded with is what its state, each of its
payments and each of its closes share out, and the recorded closes pay out different funding
proofs exactly if no channel is closed twice. -/
theorem value_accounted (ldk : Ldk) (closing : LdkClose ldk.ChannelDescriptor)
    (ops : List NodeOperation) :
    let s := (nodeMachine ldk closing).run ops
    ∃ proofs : String → List ProofFile, ValueAccounted (fundingRequests ops) s proofs ∧
      (((((closesOf s).map (·.channelId)).flatMap proofs).map fundingProofId).Nodup ↔
        ((closesOf s).map (·.channelId)).Nodup) := by
  intro s
  have h : NodeInvariant (fundingRequests ops) s := invariant_run ldk closing ops
  have hpick : ∀ id : String, ∃ proofs, ∀ c : StoredAssetChannel,
      s.funding.channels[id]? = some c → FundedWith (fundingRequests ops) c proofs := by
    intro id
    cases hget : s.funding.channels[id]? with
    | none => exact ⟨[], by simp⟩
    | some c =>
      obtain ⟨request, hmem, hbacks⟩ := h.backed id c hget
      refine ⟨inputs request, fun c' hc' => ?_⟩
      obtain rfl := Option.some.inj hc'
      exact hbacks.fundedWith hmem
  choose proofs hproofs using hpick
  have hshares : ∀ {id assetId a b}, SharesAsset s.funding id assetId a b →
      (∀ p ∈ proofs id, p.assetId = assetId) ∧ a.toNat + b.toNat = amountOf (proofs id) := by
    rintro id assetId a b ⟨c, hc, rfl, hsum⟩
    exact ⟨fun p hp => ((hproofs id c hc).asset p hp).2, hsum.trans (hproofs id c hc).amount.symm⟩
  refine ⟨proofs, ⟨hproofs, fun id state hstate => ?_, fun id p hp => ?_, fun close hclose => ?_⟩,
    proofs_nodup_iff h.funding fun id hid => ?_⟩
  · exact hshares (h.channels id state hstate).2.2
  · obtain ⟨c, hc, hsum⟩ := h.payments id p hp
    exact hsum.trans (hproofs _ c hc).amount.symm
  · obtain ⟨id, hget⟩ := mem_closesOf.mp hclose
    exact hshares (h.closes id close hget)
  · obtain ⟨close, hclose, rfl⟩ := List.mem_map.mp hid
    obtain ⟨key, hget⟩ := mem_closesOf.mp hclose
    obtain ⟨c, hc, -⟩ := h.closes key close hget
    exact ⟨c, hc, (hproofs _ c hc).ids, (hproofs _ c hc).nonempty⟩

end TapLdk.NodeLifecycle
