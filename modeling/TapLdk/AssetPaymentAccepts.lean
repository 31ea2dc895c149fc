import Mathlib
import TapLdk.AssetHtlcTlv
import TapLdk.AssetPaymentAtomic
import TapLdk.CommitmentBuilds

/-! Payments that are taken: a request that its receiver quotes is proposed with all the checks
of the final hop passed, and a reachable channel that has the amount takes its update. -/
namespace TapLdk.AssetPaymentAccepts
open TapLdk.LibraryExcept TapLdk.LibraryMaps TapLdk.LibraryBytes TapLdk.LibraryStateful
open TapLdk.LibraryRuns TapLdk.Mssmt TapLdk.Asset TapLdk.LdkFork TapLdk.RfqQuotes TapLdk.RfqInvoice
open TapLdk.RfqInvoiceSpec TapLdk.Commitment TapLdk.CommitmentSteps TapLdk.CommitmentStory
open TapLdk.CommitmentAccepts TapLdk.CommitmentBuilds TapLdk.AssetHtlc TapLdk.AssetHtlcFinalHop
open TapLdk.AssetHtlcTlv TapLdk.AssetPayment TapLdk.AssetPaymentSteps TapLdk.AssetPaymentBooking
open TapLdk.AssetPaymentAtomic

/-- The quote of a request, bound to its invoice and paid. -/
def payQuoted (request : NativeAssetPaymentRequest) :
    Stateful RfqQuoteStore NativeAssetPaymentError QuoteBoundPayment := do
  .lift (validatePaymentRequest request)
  let accept ← rfqCall (receiveNativeRfqRequest request.senderPeer request.rfqRequest
    request.nowUnixSeconds {})
  let invoiceExpiryUnixSeconds ← .lift (request.secondsAfter 60)
  let bindTime ← .lift (request.secondsAfter 1)
  let payTime ← .lift (request.secondsAfter 2)
  let invoice ← .lift ((bindQuoteToInvoice accept.quote (request.bindRequest accept.quote.btcMsat
    invoiceExpiryUnixSeconds bindTime)).mapError .rfq)
  rfqCall (payQuoteBoundInvoice invoice payTime)

theorem payQuoted_of_isSome {request : NativeAssetPaymentRequest} {store : RfqQuoteStore}
    (h : ((payQuoted request).call store).1.toOption.isSome) :
    ∃ payment quotes, (payQuoted request).call store = (.ok payment, quotes) := by
  obtain ⟨payment, hpayment⟩ := Option.isSome_iff_exists.mp h
  exact ⟨payment, _, Prod.ext (toOption_eq_some hpayment) rfl⟩

section Prepare

variable {ldk : Ldk} {request : NativeAssetPaymentRequest} {store store' : RfqQuoteStore}
  {payment : QuoteBoundPayment} {records : AssetHtlcCustomRecords} {hash : Bytes32}
  {sum validateTime : UInt64}

theorem preparePayment_of_paid
    (hpaid : (payQuoted request).call store = (.ok payment, store'))
    (htime : request.secondsAfter 3 = .ok validateTime)
    (hrecords : prepareRecords ldk none payment hash sum validateTime = .ok records) :
    (preparePayment ldk request none hash sum).call store =
      (.ok ⟨payment.invoice, payment.authorization, records⟩, store') := by
  simp only [payQuoted, Stateful.call_bind_eq_ok, Stateful.call_lift, Prod.mk.injEq] at hpaid
  obtain ⟨_, _, ⟨hrequest, rfl⟩, accept, _, haccept, expiry, _, ⟨hexpiry, rfl⟩, bind, _, ⟨hbind, rfl⟩,
    pay, _, ⟨hpay, rfl⟩, invoice, _, ⟨hinvoice, rfl⟩, hpayment⟩ := hpaid
  simp only [preparePayment, Stateful.call_bind_eq_ok, Stateful.call_lift, Stateful.call_pure,
    Prod.mk.injEq, Except.ok.injEq]
  exact ⟨_, _, ⟨hrequest, rfl⟩, accept, _, haccept, expiry, _, ⟨hexpiry, rfl⟩, bind, _, ⟨hbind, rfl⟩,
    pay, _, ⟨hpay, rfl⟩, validateTime, _, ⟨htime, rfl⟩, invoice, _, ⟨hinvoice, rfl⟩, payment, _,
    hpayment, records, _, ⟨hrecords, rfl⟩, rfl, rfl⟩

/-- What paying the quote of a request gives: an invoice on the quote's terms that lives for a
minute. -/
structure PaidOn (request : NativeAssetPaymentRequest) (payment : QuoteBoundPayment) : Prop where
  same : SameQuote payment.invoice payment.authorization
  quoteId : ∃ quoteId, parseQuoteId payment.authorization.quoteId = .ok quoteId
  amount : payment.invoice.assetAmount = request.assetAmount
  expiry : payment.invoice.invoiceExpiryUnixSeconds.toNat = request.nowUnixSeconds.toNat + 60
  quoteExpiry : payment.invoice.invoiceExpiryUnixSeconds ≤ payment.invoice.quoteExpiryUnixSeconds

theorem secondsAfter_eq_ok {seconds time : UInt64} :
    request.secondsAfter seconds = .ok time ↔
      time.toNat = request.nowUnixSeconds.toNat + seconds.toNat := by
  rw [NativeAssetPaymentRequest.secondsAfter, okOr_eq_ok, checkedAdd_eq_some, eq_comm]

theorem paid_on (hpaid : (payQuoted request).call store = (.ok payment, store')) :
    PaidOn request payment := by
  simp only [payQuoted, rfqCall, Stateful.call_bind_eq_ok, Stateful.call_lift, Prod.mk.injEq,
    Stateful.call_onPart_eq_ok, mapError_eq_ok, id] at hpaid
  obtain ⟨_, _, -, accept, _, -, expiry, _, ⟨hexpiry, -⟩, _, _, -, pay, _, -, invoice, quoted,
    ⟨hinvoice, -⟩, hpayment, -⟩ := hpaid
  obtain ⟨-, -, -, hamount, -, -, ⟨-, -, hbound, -⟩, hlives, -⟩ := bindQuoteToInvoice_eq_ok hinvoice
  obtain ⟨left, hpays⟩ : ∃ left, (payQuoteBoundInvoice invoice pay).call quoted =
      (.ok payment, left) := ⟨_, Prod.ext hpayment rfl⟩
  obtain ⟨quote, -, hrebind, hauthorization, -⟩ := payQuoteBoundInvoice_eq_ok hpays
  obtain ⟨-, hle, -, -, -, -, hsame, hrebound, hquote⟩ := bindQuoteToInvoice_eq_ok hrebind
  have hamounts := (paid_invoice hpays).2.2.1
  constructor
  case same => rwa [hauthorization]
  case quoteId => exact paid_quoteId hpays
  case amount => exact hamounts.trans (hbound.trans hamount.symm)
  case expiry =>
    have hminute := secondsAfter_eq_ok.mp hexpiry
    have hsame : payment.invoice.invoiceExpiryUnixSeconds = expiry := hrebound.trans hlives
    rw [hsame, hminute]
    rfl
  case quoteExpiry =>
    rw [hrebound, hquote]
    exact hle

/-- The records of a paid quote pass at the final hop for a minute, against their proof root. -/
theorem records_pass (hldk : AcceptsConsistentHtlcs ldk) (h : PaidOn request payment)
    (hash : Bytes32) (sum : UInt64) : ∃ records,
      AssetHtlcCustomRecords.fromAuthorizationWithProofRoot ldk payment.invoice
        payment.authorization hash sum = .ok records ∧
      ∀ time : UInt64, time.toNat ≤ request.nowUnixSeconds.toNat + 60 →
        ∃ validation, validateFinalHopAgainstProofRoot ldk records payment.invoice
          payment.authorization hash sum time = .ok validation := by
  obtain ⟨quoteId, hid⟩ := h.quoteId
  have haccepts (time : UInt64) (htime : time.toNat ≤ request.nowUnixSeconds.toNat + 60) :
      FinalHopAccepts ldk payment.invoice payment.authorization hash sum time := by
    have hlive : time ≤ payment.invoice.invoiceExpiryUnixSeconds := by
      rw [UInt64.le_iff_toNat_le, h.expiry]
      exact htime
    exact (finalHopAccepts_iff hldk hid hash sum time).mpr
      ⟨h.same, hlive, UInt64.le_trans hlive h.quoteExpiry⟩
  obtain ⟨records, -, hrecords, -⟩ := haccepts request.nowUnixSeconds (Nat.le_add_right ..)
  refine ⟨records, hrecords, fun time htime => ?_⟩
  obtain ⟨records', validation, hrecords', hvalid⟩ := haccepts time htime
  obtain rfl := Except.ok.inj (hrecords.symm.trans hrecords')
  have hroot : records.proofRootHash = hash ∧ records.proofRootSum = sum := by
    simp only [AssetHtlcCustomRecords.fromAuthorizationWithProofRoot, bind_eq_ok, pure_eq_ok,
      Except.ok.injEq] at hrecords
    obtain ⟨_, -, _, -, rfl⟩ := hrecords
    exact ⟨rfl, rfl⟩
  refine ⟨validation, ?_⟩
  simp [validateFinalHopAgainstProofRoot, hvalid, rejectIf, hroot]

theorem prepareRecords_ok
    (hrecords : AssetHtlcCustomRecords.fromAuthorizationWithProofRoot ldk payment.invoice
      payment.authorization hash sum = .ok records)
    (hvalid : ∃ validation, validateFinalHopAgainstProofRoot ldk records payment.invoice
      payment.authorization hash sum validateTime = .ok validation) :
    prepareRecords ldk none payment hash sum validateTime = .ok records := by
  obtain ⟨validation, hvalid⟩ := hvalid
  simp only [prepareRecords, validationInput, requireAssetRecords, bind_eq_ok, mapError_eq_ok,
    Except.ok.injEq, pure_eq_ok]
  exact ⟨records, hrecords, _, rfl, _, encodeTlv_eq records, _, decode_streamWith records, _, rfl,
    validation, hvalid, rfl⟩

end Prepare

section Accept

variable {ldk : Ldk} {request : NativeAssetPaymentRequest} {s : PaymentStores}
  {state : AssetCommitmentChannelState} {payment : QuoteBoundPayment} {quotes : RfqQuoteStore}
  {update : AssetCommitmentUpdateRequest}

/-- A request whose quote can be paid is proposed with the update that its channel builds. -/
theorem proposePayment_ok (hldk : AcceptsConsistentHtlcs ldk)
    (hstate : s.commitments.channels[request.channelId]? = some state)
    (hasset : state.assetId = request.assetId)
    (hpaid : (payQuoted request).call s.quotes = (.ok payment, quotes))
    (hbuild : state.buildCommitmentUpdate request.assetAmount 0 request.assetNonce = .ok update) :
    ∃ proposal, ((proposePayment ldk request).call s).1 = .ok proposal ∧
      proposal.update = update := by
  have hon := paid_on hpaid
  have hbound := payment.invoice.invoiceExpiryUnixSeconds.toNat_lt
  rw [hon.expiry] at hbound
  have htime (seconds : UInt64) (hseconds : seconds.toNat ≤ 60) :
      ∃ time, request.secondsAfter seconds = .ok time ∧
        time.toNat ≤ request.nowUnixSeconds.toNat + 60 := by
    have hnat : (request.nowUnixSeconds + seconds).toNat =
        request.nowUnixSeconds.toNat + seconds.toNat := by
      rw [UInt64.toNat_add, Nat.mod_eq_of_lt (by omega)]
    exact ⟨_, secondsAfter_eq_ok.mpr hnat, by omega⟩
  obtain ⟨records, hrecords, hpass⟩ := records_pass hldk hon state.monitorBlob.proofRootHash
    state.monitorBlob.proofRootSum
  obtain ⟨time3, htime3, hle3⟩ := htime 3 (by decide)
  obtain ⟨time4, htime4, hle4⟩ := htime 4 (by decide)
  obtain ⟨validation, hvalid⟩ := hpass time4 hle4
  have hprepared := preparePayment_of_paid hpaid htime3 (prepareRecords_ok hrecords (hpass time3 hle3))
  have hamount : validation.assetAmount = request.assetAmount := by
    rw [(validateFinalHop_terms hvalid).1]
    exact (validateFinalHop_invoice hvalid).2.1.trans hon.amount
  have hsettle : settlementUpdate ldk state request
      ⟨payment.invoice, payment.authorization, records⟩ = .ok (validation, update) := by
    simp [settlementUpdate, hasset, rejectIf, htime4, hvalid, hamount, hbuild, Except.mapError]
  have hread : s.commitments.channelState request.channelId = .ok state := okOr_eq_ok.mpr hstate
  refine ⟨⟨⟨payment.invoice, payment.authorization, records⟩, validation, update⟩, ?_, rfl⟩
  obtain ⟨t, ht⟩ : ∃ t, (proposePayment ldk request).call s =
      (.ok ⟨⟨payment.invoice, payment.authorization, records⟩, validation, update⟩, t) := by
    simp only [proposePayment, onQuotes, Stateful.call_bind_eq_ok, readChannel_call, hread,
      Stateful.call_onPart_eq_ok, Stateful.call_lift, Stateful.call_pure]
    exact ⟨_, state, _, rfl, _, _, ⟨congrArg (·.1) hprepared, rfl⟩, state, _,
      by rw [hread]; rfl, _, _, by rw [hsettle], rfl⟩
  rw [ht]

/-- A reachable channel takes a payment that it builds an update for, with a new nonce, unless
the transition of the update hashes to zero. -/
theorem accepted_of_built (hldk : AcceptsConsistentHtlcs ldk) (hbuilds : BuildsBlobs ldk)
    (haccepts : AcceptsOwnBlobs ldk) {ops : List (CommitmentOperation ldk)}
    (hrun : s.commitments = (commitmentMachine ldk).run ops)
    (hstate : s.commitments.channels[request.channelId]? = some state)
    (hasset : state.assetId = request.assetId)
    (hpaid : (payQuoted request).call s.quotes = (.ok payment, quotes))
    (hunused : state.usedAssetNonces[request.assetNonce]? = none)
    (hbuild : state.buildCommitmentUpdate request.assetAmount 0 request.assetNonce = .ok update)
    (htx : update.virtualTxId ≠ Bytes32.ZERO) : Accepted ldk request s := by
  obtain ⟨proposal, hproposal, rfl⟩ := proposePayment_ok hldk hstate hasset hpaid hbuild
  have hheld := hstate
  rw [hrun] at hheld
  have hreached := reachedState hheld
  have hvalid := (reached_run ldk ops).valid
  obtain ⟨-, snapshot, hcheck⟩ :=
    (buildCommitmentUpdate_eq_ok hreached.valid.balances hunused).mp hbuild
  have hchannel : request.channelId = proposal.update.channelId :=
    (hvalid.key _ _ hheld).trans hcheck.channelId.symm
  rw [hchannel] at hheld
  obtain ⟨updated, -, hcall⟩ := applies_of_valid hbuilds haccepts hvalid hheld hreached hcheck htx
  exact ⟨proposal, snapshot, _, hproposal, by rw [hrun]; exact hcall⟩

end Accept

end TapLdk.AssetPaymentAccepts
