import Mathlib
import TapLdk.AssetPaymentAccepts

/-! Payments as transactions in every reachable state, and a payment that is sent again. -/
namespace TapLdk.AssetPaymentRetries
open TapLdk.LibraryExcept TapLdk.LibraryMaps TapLdk.LibraryBytes TapLdk.LibraryStateful
open TapLdk.LibraryRuns TapLdk.Mssmt TapLdk.Asset TapLdk.Proof TapLdk.TapVm TapLdk.LdkFork
open TapLdk.RfqQuotes TapLdk.RfqInvoice TapLdk.ChannelFundingAccepts TapLdk.Commitment
open TapLdk.CommitmentSteps TapLdk.CommitmentStory TapLdk.CommitmentAccepts TapLdk.AssetHtlc
open TapLdk.AssetHtlcFinalHop TapLdk.AssetPayment TapLdk.AssetPaymentSteps
open TapLdk.AssetPaymentBooking TapLdk.AssetPaymentRuns TapLdk.AssetPaymentAtomic
open TapLdk.AssetPaymentAccepts TapLdk.RegtestChannel

/-- A payment over the regtest channel, told apart from others of its kind by the asset nonce. -/
def retriedPayment (assetNonce : Bytes32) : NativeAssetPaymentRequest where
  channelId := regtestChannelId
  senderPeer := "alice"
  receiverPeer := "bob"
  assetId := regtestAsset
  assetAmount := 400000
  rfqId := repeated32 41
  invoiceContext := repeated32 42
  paymentHash := repeated32 43
  assetNonce
  nowUnixSeconds := 1000

def retryNonce : Bytes32 := repeated32 44

theorem regtestChannelId_black : isBlank regtestChannelId = false := by decide +kernel

theorem payQuoted_retried (assetNonce : Bytes32) : ∃ payment quotes,
    (payQuoted (retriedPayment assetNonce)).call RfqQuoteStore.default = (.ok payment, quotes) := by
  have hsame : payQuoted (retriedPayment assetNonce) = payQuoted (retriedPayment retryNonce) := rfl
  rw [hsame]
  exact payQuoted_of_isSome (by decide +kernel)

/-- A state of the regtest channel, as far as a payment reads it. -/
structure Holds (localBalance remoteBalance number : UInt64) (state : AssetCommitmentChannelState) :
    Prop where
  assetId : state.assetId = regtestAsset
  total : state.totalAmount = 2000000
  localBalance : state.localBalance = localBalance
  remoteBalance : state.remoteBalance = remoteBalance
  number : state.latestCommitmentNumber = number

section Retry

variable {localBalance remoteBalance number localBalance' remoteBalance' number' : UInt64}
  {state updated : AssetCommitmentChannelState} {assetNonce : Bytes32} {s t : PaymentStores}
  {ops : List (CommitmentOperation acceptingLdk)}

theorem holds_moved (h : Holds localBalance remoteBalance number state)
    (hlocal : checkedSub localBalance 400000 = some localBalance')
    (hremote : checkedAdd remoteBalance 400000 = some remoteBalance') :
    state.movedBalances 400000 0 = .ok (localBalance', remoteBalance') := by
  simp [AssetCommitmentChannelState.movedBalances, h.localBalance, h.remoteBalance, hlocal, hremote,
    checkedSub_zero, checkedAdd_zero]

/-- The channel takes the payment as long as it has the amount and has not used the nonce. -/
theorem accepted_retried (h : Holds localBalance remoteBalance number state)
    (hrun : s.commitments = (commitmentMachine acceptingLdk).run ops)
    (hstate : s.commitments.channels[regtestChannelId]? = some state)
    (hquotes : s.quotes = RfqQuoteStore.default)
    (hunused : state.usedAssetNonces[assetNonce]? = none)
    (hmoved : state.movedBalances 400000 0 = .ok (localBalance', remoteBalance'))
    (hsum : checkedAdd localBalance remoteBalance = some 2000000)
    (hnumber : checkedAdd number 1 = some number')
    (hwitness : (AssetVirtualTransition.updateWitness regtestAsset assetNonce).NonZero)
    (htx : (AssetVirtualTransition.channelBalanceUpdate .htlcSettlement regtestAsset 2000000
      localBalance' remoteBalance' assetNonce).digest "tap-ldk:asset-virtual-tx:v2" ≠
        Bytes32.ZERO) : Accepted acceptingLdk (retriedPayment assetNonce) s := by
  obtain ⟨payment, quotes, hpaid⟩ := payQuoted_retried assetNonce
  obtain ⟨update, snapshot, hbuild, hbuilt, hlocal, hremote⟩ := buildCommitmentUpdate_ok
    (by rw [h.number, hnumber]) hmoved (by rw [h.localBalance, h.remoteBalance, h.total, hsum])
    hunused (by rw [h.assetId]; exact hwitness)
  refine accepted_of_built acceptingLdk_acceptsConsistentHtlcs acceptingLdk_buildsBlobs
    acceptingLdk_acceptsOwnBlobs hrun hstate h.assetId (hquotes ▸ hpaid) hunused hbuild ?_
  rw [hbuilt.virtualTxId, hlocal, hremote, AssetCommitmentChannelState.updateTransition, h.assetId,
    h.total]
  exact htx

/-- The channel after the payment. -/
theorem holds_paid (h : Holds localBalance remoteBalance number state)
    {update : AssetCommitmentUpdateRequest} {snapshot : AssetCommitmentSnapshot}
    (hstep : UpdateStep state update snapshot updated) (hsent : update.localToRemote = 400000)
    (hreceived : update.remoteToLocal = 0) (hnumber : checkedAdd number 1 = some number')
    (hmoved : state.movedBalances 400000 0 = .ok (localBalance', remoteBalance')) :
    Holds localBalance' remoteBalance' number' updated ∧
      updated.usedAssetNonces = state.usedAssetNonces.insert update.assetNonce number' := by
  have hbalances := hstep.checked.balances
  rw [hsent, hreceived, hmoved, Except.ok.injEq, Prod.mk.injEq] at hbalances
  have hnext := hstep.checked.number
  rw [← snapshot_number hstep, h.number] at hnext
  have hlatest : snapshot.commitmentNumber = number' := by
    rw [← UInt64.toNat_inj, hnext, checkedAdd_eq_some.mp hnumber]
    rfl
  obtain ⟨blob, -, rfl⟩ := hstep.updated
  refine ⟨⟨h.assetId, h.total, hbalances.1.symm, hbalances.2.symm, hlatest⟩, ?_⟩
  rw [← hlatest]
  rfl

theorem idsHeld_default {request : NativeAssetPaymentRequest} (hhtlcs : s.htlcs = .default)
    (hpayments : s.payments = .default) : ¬ IdsHeld request s := by
  rintro ⟨quote, quoteId, -, -, hheld⟩
  rw [hhtlcs, hpayments] at hheld
  simp [AssetHtlcStore.default, NativeAssetPaymentStore.default] at hheld

/-- The payment holds the ids of every other payment of its kind. -/
theorem idsHeld_retried {proposal : PaymentProposal} {snapshot : AssetCommitmentSnapshot}
    {payment : NativeAssetPayment} {quotes : RfqQuoteStore} (nonce : Bytes32)
    (hproposal : ((proposePayment acceptingLdk (retriedPayment assetNonce)).call s).1 = .ok proposal)
    (hquotes : s.quotes = quotes)
    (hbooks : Books (retriedPayment assetNonce) proposal snapshot payment s t) :
    IdsHeld (retriedPayment nonce) { t with quotes } := by
  obtain ⟨quote, hquote, hterms⟩ := proposePayment_terms (Prod.ext hproposal rfl)
  have hid : payment.paymentId = quotedPaymentId (retriedPayment assetNonce) quote := by
    rw [hbooks.recorded]
    exact settledPayment_id hterms _
  refine ⟨quote, proposal.validation.quoteId, hquotes ▸ hquote, hterms.quoteId, .inr ?_⟩
  have hsame : quotedPaymentId (retriedPayment nonce) quote = payment.paymentId := hid.symm
  rw [hsame, hbooks.payments, get_insert_self]
  exact Option.some_ne_none _

/-- The payment goes through when no payment of its kind is held, and then holds their ids. -/
theorem retried_paid (h : Holds localBalance remoteBalance number state)
    (hstory : StoreStory acceptingLdk ops s.commitments) (hvalid : StoresValid s)
    (hstate : s.commitments.channels[regtestChannelId]? = some state)
    (haccepted : Accepted acceptingLdk (retriedPayment assetNonce) s)
    (hunheld : ¬ IdsHeld (retriedPayment assetNonce) s) (hnumber : checkedAdd number 1 = some number')
    (hmoved : state.movedBalances 400000 0 = .ok (localBalance', remoteBalance'))
    {result : Except NativeAssetPaymentError NativeAssetPayment}
    (hcall : (sendNativeAssetPayment acceptingLdk (retriedPayment assetNonce)).call s =
      (result, t)) :
    ∃ updated, t.commitments.channels[regtestChannelId]? = some updated ∧
      Holds localBalance' remoteBalance' number' updated ∧
      updated.usedAssetNonces = state.usedAssetNonces.insert assetNonce number' ∧
      ∀ nonce, IdsHeld (retriedPayment nonce) { t with quotes := s.quotes } := by
  obtain ⟨payment, rfl⟩ := send_of_new hvalid regtestChannelId_black haccepted hunheld hcall
  obtain ⟨proposal, snapshot, hproposal, hok, hbooks⟩ := sent_books hcall
  have hproposes := proposePayment_spec (Prod.ext hproposal rfl)
  obtain ⟨quote, -, hterms⟩ := proposePayment_terms (Prod.ext hproposal rfl)
  obtain ⟨-, current, updated, -, hcurrent, -, hstep, hstore, -⟩ := paid_update hstory hproposes hok
  obtain rfl := Option.some.inj (hcurrent.symm.trans hstate)
  obtain ⟨built, hbuiltState, hbuilt⟩ := hproposes.update
  obtain rfl := Option.some.inj (hbuiltState.symm.trans hstate)
  obtain ⟨-, hsent, hreceived, hnonce⟩ := buildCommitmentUpdate_moves hbuilt
  have hamount : proposal.validation.assetAmount = 400000 := by
    rw [hterms.validation]
    rfl
  rw [hamount] at hsent
  obtain ⟨hleft, hnonces⟩ := holds_paid h hstep hsent hreceived hnumber hmoved
  rw [hnonce] at hnonces
  refine ⟨updated, ?_, hleft, hnonces, fun nonce => idsHeld_retried nonce hproposal rfl hbooks⟩
  rw [hstore]
  exact get_insert_self ..

end Retry

/-- The regtest channel, initialised and paid over once. -/
def paidOnce (c : FundedChannel acceptingLdk) : List (PaymentCall acceptingLdk) :=
  [.initializeChannel c,
    .sendNativeAssetPayment (retriedPayment regtestNonce) RfqQuoteStore.default]

/-- The payment goes through, and leaves the amount for another one. -/
theorem paidOnce_left : ∃ c updated,
    ((callMachine acceptingLdk).run (paidOnce c)).commitments.channels[regtestChannelId]? =
        some updated ∧
      Holds 600000 1400000 1 updated ∧ updated.usedAssetNonces[retryNonce]? = none ∧
      IdsHeld (retriedPayment retryNonce)
        { (callMachine acceptingLdk).run (paidOnce c) with quotes := RfqQuoteStore.default } := by
  obtain ⟨c, root, id, state, _, _, _, h⟩ := regtest_run
  have hstart := run_channelCalls acceptingLdk [.initializeChannel c]
  obtain ⟨lost, hbooked, -⟩ := booked_run acceptingLdk [.initializeChannel c]
  have hnext : (callMachine acceptingLdk).run (paidOnce c) =
      ((sendNativeAssetPayment acceptingLdk (retriedPayment regtestNonce)).call
        { (callMachine acceptingLdk).run [.initializeChannel c] with
          quotes := RfqQuoteStore.default }).2 :=
    (callMachine acceptingLdk).run_concat [.initializeChannel c] _
  have hempty : ((callMachine acceptingLdk).run [.initializeChannel c]).htlcs = .default ∧
      ((callMachine acceptingLdk).run [.initializeChannel c]).payments = .default := ⟨rfl, rfl⟩
  have hstory := story_run acceptingLdk (channelCalls acceptingLdk [.initializeChannel c])
  rw [← hstart] at hstory
  have hstate : ((callMachine acceptingLdk).run
      [.initializeChannel c]).commitments.channels[regtestChannelId]? = some state := by
    rw [hstart]
    exact regtest_held h
  generalize (callMachine acceptingLdk).run [.initializeChannel c] = first at *
  have hholds : Holds 1000000 1000000 0 state :=
    ⟨h.before.assetId, h.before.total, h.before.localBalance, h.before.remoteBalance,
      h.before.number⟩
  have hmoved : state.movedBalances 400000 0 = .ok (600000, 1400000) := holds_moved hholds rfl rfl
  have haccepted : Accepted acceptingLdk (retriedPayment regtestNonce)
      { first with quotes := RfqQuoteStore.default } := by
    refine accepted_retried hholds hstart hstate rfl ?_ hmoved rfl rfl (by decide +kernel)
      (by decide +kernel)
    rw [h.takenOver.funded.nonces]
    simp
  have hunheld : ¬ IdsHeld (retriedPayment regtestNonce)
      { first with quotes := RfqQuoteStore.default } := idsHeld_default hempty.1 hempty.2
  have hvalid : StoresValid { first with quotes := RfqQuoteStore.default } :=
    ⟨hbooked.stores.htlcs, hbooked.stores.payments⟩
  rcases hcall : (sendNativeAssetPayment acceptingLdk (retriedPayment regtestNonce)).call
    { first with quotes := RfqQuoteStore.default } with ⟨result, t⟩
  rw [hcall] at hnext
  obtain ⟨updated, hupdated, hleft, hnonces, hids⟩ :=
    retried_paid hholds (s := { first with quotes := .default }) hstory hvalid hstate haccepted
      hunheld rfl hmoved hcall
  refine ⟨c, updated, ?_, hleft, ?_, ?_⟩
  · rw [hnext]
    exact hupdated
  · rw [hnonces, get_insert_ne (by decide), h.takenOver.funded.nonces]
    simp
  · rw [hnext]
    exact hids retryNonce

/-- In every reachable state exactly the calls that are new fail without a trace, and the balances
of the channels are those of the recorded payments exactly if all calls of the run were new. -/
theorem reachable_atomic_iff (ldk : Ldk) (calls : List (PaymentCall ldk)) :
    (∀ call, LeavesNoTrace ldk ((callMachine ldk).run calls) call ↔
      NewIds ldk ((callMachine ldk).run calls) call) ∧
    (Balanced ldk (channelCalls ldk calls) ((callMachine ldk).run calls) ↔
      (callMachine ldk).Guarded (NewIds ldk) calls) := by
  obtain ⟨lost, hbooked, hlost⟩ := booked_run ldk calls
  refine ⟨fun call => (newIds_iff ldk calls call).symm, ?_⟩
  rw [balanced_iff hbooked.accounted, hlost]

/-- A payment that goes through and is sent again with another asset nonce, to a receiver with a
fresh quote store: the channel moves the amount a second time, the call fails at the HTLC that is
held, and the balance is no longer that of the recorded payments. -/
theorem retried_payment_traced : ∃ c : FundedChannel acceptingLdk,
    let retry := .sendNativeAssetPayment (retriedPayment retryNonce) RfqQuoteStore.default
    ¬ LeavesNoTrace acceptingLdk ((callMachine acceptingLdk).run (paidOnce c)) retry ∧
      ¬ Balanced acceptingLdk (channelCalls acceptingLdk (paidOnce c ++ [retry]))
        ((callMachine acceptingLdk).run (paidOnce c ++ [retry])) := by
  obtain ⟨c, updated, hstate, hholds, hunused, hheld⟩ := paidOnce_left
  refine ⟨c, ?_⟩
  intro retry
  have hmoved : updated.movedBalances 400000 0 = .ok (200000, 1800000) := holds_moved hholds rfl rfl
  have haccepted : Accepted acceptingLdk (retriedPayment retryNonce)
      { (callMachine acceptingLdk).run (paidOnce c) with quotes := RfqQuoteStore.default } :=
    accepted_retried hholds (run_channelCalls acceptingLdk (paidOnce c)) hstate rfl hunused hmoved
      rfl rfl (by decide +kernel) (by decide +kernel)
  refine ⟨send_of_held haccepted hheld, ?_⟩
  obtain ⟨lost, hbooked, hlost⟩ := booked_run acceptingLdk (paidOnce c ++ [retry])
  rw [balanced_iff hbooked.accounted, hlost, Machine.guarded_concat_iff]
  rintro ⟨-, hnew⟩
  exact hnew ⟨haccepted, hheld⟩

end TapLdk.AssetPaymentRetries
