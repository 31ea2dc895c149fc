import Mathlib
import TapLdk.AssetPaymentSteps
import TapLdk.CommitmentStory
import TapLdk.LibraryEntries

/-! Booking a payment: the terms that a proposal takes from its request and from the quote that
answers it, and the HTLC and the record that new ids can always be booked under. -/
namespace TapLdk.AssetPaymentBooking
open TapLdk.LibraryExcept TapLdk.LibraryMaps TapLdk.LibraryEntries TapLdk.LibraryBytes
open TapLdk.LibraryStateful
open TapLdk.Mssmt TapLdk.Asset TapLdk.LdkFork TapLdk.RfqQuotes TapLdk.RfqQuoteSteps
open TapLdk.RfqInvoice TapLdk.RfqInvoiceSpec TapLdk.Commitment TapLdk.CommitmentSteps
open TapLdk.AssetHtlc TapLdk.AssetPayment TapLdk.AssetPaymentSteps

/-- The quote that the receiver's store gives to a request. -/
def answeredQuote (request : NativeAssetPaymentRequest) (quotes : RfqQuoteStore) :
    Option StoredRfqQuote :=
  ((receiveNativeRfqRequest request.senderPeer request.rfqRequest request.nowUnixSeconds {}).call
    quotes).1.toOption.map (·.quote)

/-- A quote that a store requests and accepts has a price. -/
theorem received_price {peer : String} {message : AssetPeerMessage} {now : UInt64}
    {policy : NativeRfqPolicy} {store store' : RfqQuoteStore} {accept : NativeRfqAccept}
    (h : (receiveNativeRfqRequest peer message now policy).call store = (.ok accept, store')) :
    accept.quote.btcMsat ≠ 0 := by
  cases message
  case rfqRequest rfqId assetId assetAmount invoiceContext =>
    simp only [receiveNativeRfqRequest, quoteCall, Stateful.call_bind_eq_ok,
      Stateful.call_onPart_eq_ok, Stateful.call_lift, Stateful.call_pure, Prod.mk.injEq,
      Except.ok.injEq, id, RfqQuoteStore.requestQuote, RfqQuoteStore.acceptQuote] at h
    obtain ⟨expiry, _, ⟨-, rfl⟩, requested, _, ⟨hrequested, rfl⟩, accepted, _, ⟨haccepted, rfl⟩, _, _,
      -, rfl, -⟩ := h
    obtain ⟨next, hprepared, hnext, -⟩ := mutate_fst hrequested
    rw [hnext] at haccepted
    obtain ⟨next', hprepared', -, -⟩ := mutate_fst haccepted
    simp only [bind_eq_ok, okOr_eq_ok, rejectIf_eq_ok, pure_eq_ok, Except.ok.injEq, Prod.mk.injEq,
      exists_const] at hprepared hprepared'
    obtain ⟨quote, hquote, rfl, rfl⟩ := hprepared
    obtain ⟨stored, hget, _, -, -, -, rfl, -⟩ := hprepared'
    obtain rfl : quote = stored := by
      rw [RfqQuoteStore.insertQuote, get_insert_self] at hget
      exact Option.some.inj hget
    obtain ⟨hamount, hprice⟩ := prepareQuote_amounts hquote
    intro hzero
    rw [hzero] at hprice
    rw [ne_eq, ← UInt64.toNat_inj] at hamount
    simp at hprice hamount
    omega
  all_goals simp [receiveNativeRfqRequest] at h

/-- A payment prepared on the terms of its request and of the quote that answers it. -/
structure PreparedOn (request : NativeAssetPaymentRequest) (quote : StoredRfqQuote)
    (prepared : PreparedPayment) : Prop where
  sender : isBlank request.senderPeer = false
  receiver : isBlank request.receiverPeer = false
  amount : request.assetAmount ≠ 0
  price : quote.btcMsat ≠ 0
  quoteId : prepared.invoice.quoteId = quote.quoteId
  assetId : prepared.invoice.assetId = request.assetId
  assetAmount : prepared.invoice.assetAmount = request.assetAmount
  btcMsat : prepared.invoice.btcMsat = quote.btcMsat
  paymentHash : prepared.invoice.paymentHash = request.paymentHash

theorem bound_paymentHash {quote : StoredRfqQuote} {request : QuoteBoundInvoiceRequest}
    {invoice : QuoteBoundInvoice} (h : bindQuoteToInvoice quote request = .ok invoice) :
    invoice.paymentHash = request.paymentHash := by
  simp only [bindQuoteToInvoice, check_bind_eq_ok, pure_eq_ok, Except.ok.injEq] at h
  obtain ⟨-, -, -, -, -, -, -, -, -, rfl⟩ := h
  rfl

/-- Paying an invoice gives it back with the same quote, price and payment hash. -/
theorem paid_invoice {store store' : RfqQuoteStore} {invoice : QuoteBoundInvoice} {now : UInt64}
    {payment : QuoteBoundPayment}
    (h : (payQuoteBoundInvoice invoice now).call store = (.ok payment, store')) :
    payment.invoice.quoteId = invoice.quoteId ∧ payment.invoice.assetId = invoice.assetId ∧
      payment.invoice.assetAmount = invoice.assetAmount ∧
      payment.invoice.btcMsat = invoice.btcMsat ∧
      payment.invoice.paymentHash = invoice.paymentHash := by
  obtain ⟨quote, -, hbind, -, hid, -⟩ := payQuoteBoundInvoice_eq_ok h
  obtain ⟨-, -, hasset, hamount, hmsat, -, ⟨hquote', hasset', hamount', hmsat', -⟩, -⟩ :=
    bindQuoteToInvoice_eq_ok hbind
  exact ⟨hquote'.trans hid.symm, hasset'.trans hasset.symm, hamount'.trans hamount.symm,
    hmsat'.trans hmsat.symm, bound_paymentHash hbind⟩

theorem preparePayment_terms {ldk : Ldk} {request : NativeAssetPaymentRequest}
    {proofRootHash : Bytes32} {proofRootSum : UInt64} {store store' : RfqQuoteStore}
    {prepared : PreparedPayment}
    (h : (preparePayment ldk request none proofRootHash proofRootSum).call store =
      (.ok prepared, store')) :
    ∃ quote, answeredQuote request store = some quote ∧ PreparedOn request quote prepared := by
  simp only [preparePayment, rfqCall, Stateful.call_bind_eq_ok, Stateful.call_onPart_eq_ok,
    Stateful.call_lift, Stateful.call_pure, Prod.mk.injEq, Except.ok.injEq, id,
    validatePaymentRequest, check_bind_eq_ok, rejectIf_eq_ok, mapError_eq_ok, not_or,
    Bool.not_eq_true] at h
  obtain ⟨_, _, ⟨⟨⟨hsender, hreceiver⟩, hamount⟩, rfl⟩, accept, _, ⟨haccept, rfl⟩, _, _, ⟨-, rfl⟩, _,
    _, ⟨-, rfl⟩, _, _, ⟨-, rfl⟩, _, _, ⟨-, rfl⟩, invoice, _, ⟨hbind, rfl⟩, payment, _, ⟨hpay, -⟩, _,
    _, -, rfl, -⟩ := h
  obtain ⟨-, -, hasset, hunits, hmsat, -, ⟨hquote', hasset', hunits', hmsat', -⟩, -⟩ :=
    bindQuoteToInvoice_eq_ok hbind
  obtain ⟨hquote, hassets, hamounts, hprices, hhash⟩ := paid_invoice (Prod.ext hpay rfl)
  refine ⟨accept.quote, ?_, hsender, hreceiver, hamount, received_price (Prod.ext haccept rfl), ?_,
    ?_, ?_, ?_, ?_⟩
  · rw [answeredQuote, haccept]
    rfl
  · exact hquote.trans hquote'
  · exact hassets.trans (hasset'.trans hasset.symm)
  · exact hamounts.trans (hunits'.trans hunits.symm)
  · exact hprices.trans hmsat'
  · exact hhash.trans (bound_paymentHash hbind)

/-- A validated HTLC has the terms of its invoice. -/
theorem validateFinalHop_invoice {ldk : Ldk} {records : AssetHtlcCustomRecords}
    {invoice : QuoteBoundInvoice} {authorization : RfqHtlcAuthorization} {hash : Bytes32}
    {sum now : UInt64} {validation : AssetHtlcValidation}
    (h : validateFinalHopAgainstProofRoot ldk records invoice authorization hash sum now =
      .ok validation) :
    records.assetId = invoice.assetId ∧ records.assetAmount = invoice.assetAmount ∧
      records.btcMsat = invoice.btcMsat ∧ records.paymentHash = invoice.paymentHash := by
  simp only [validateFinalHopAgainstProofRoot, validateFinalHop, bind_eq_ok, rejectIf_eq_ok, not_or,
    ne_eq, not_not, exists_const] at h
  obtain ⟨_, ⟨-, _, -, -, ⟨-, hasset⟩, ⟨-, hamount⟩, ⟨-, hmsat⟩, -, -, hhash, -⟩, -⟩ := h
  exact ⟨hasset, hamount, hmsat, hhash⟩

/-- The HTLC of a request at the price of a quote. -/
def quotedHtlc (request : NativeAssetPaymentRequest) (quote : StoredRfqQuote) (quoteId : Bytes32) :
    AssetHtlcValidation :=
  ⟨request.assetId, request.assetAmount, quoteId, quote.btcMsat, request.paymentHash, true⟩

/-- What a proposal takes from its request and its quote. -/
structure OnTerms (request : NativeAssetPaymentRequest) (quote : StoredRfqQuote)
    (proposal : PaymentProposal) : Prop where
  prepared : PreparedOn request quote proposal.prepared
  quoteId : quote.quoteId = toHex proposal.validation.quoteId
  validation : proposal.validation = quotedHtlc request quote proposal.validation.quoteId
  paymentHash : proposal.prepared.records.paymentHash = request.paymentHash

theorem proposePayment_terms {ldk : Ldk} {request : NativeAssetPaymentRequest}
    {s t : PaymentStores} {proposal : PaymentProposal}
    (h : (proposePayment ldk request).call s = (.ok proposal, t)) :
    ∃ quote, answeredQuote request s.quotes = some quote ∧ OnTerms request quote proposal := by
  have hproposes := proposePayment_spec h
  simp only [proposePayment, onQuotes, Stateful.call_bind_eq_ok, readChannel_call,
    Stateful.call_onPart_eq_ok, Stateful.call_lift, Stateful.call_pure, Prod.mk.injEq,
    Except.ok.injEq] at h
  obtain ⟨state, _, ⟨-, rfl⟩, prepared, _, ⟨hprepared, rfl⟩, state', _, -, settlement, _,
    ⟨hsettlement, -⟩, rfl, -⟩ := h
  obtain ⟨validation, update⟩ := settlement
  simp only [settlementUpdate, bind_eq_ok, mapError_eq_ok, pure_eq_ok, Except.ok.injEq,
    Prod.mk.injEq] at hsettlement
  obtain ⟨_, -, _, -, checked, hvalid, _, -, hchecked, -⟩ := hsettlement
  obtain ⟨hasset, hamount, hmsat, hhash⟩ := validateFinalHop_invoice hvalid
  obtain ⟨store, hok⟩ : ∃ store, (preparePayment ldk request none state.monitorBlob.proofRootHash
      state.monitorBlob.proofRootSum).call s.quotes = (.ok prepared, store) :=
    ⟨_, Prod.ext (by simpa [mapError_eq_ok] using hprepared) rfl⟩
  obtain ⟨quote, hquote, hon⟩ := preparePayment_terms hok
  have hterms := hproposes.terms
  refine ⟨quote, hquote, hon, hon.quoteId.symm.trans hproposes.quoteId, hterms.trans ?_,
    hhash.trans hon.paymentHash⟩
  have hid : validation.quoteId = prepared.records.quoteId := congrArg (·.quoteId) hterms
  rw [quotedHtlc, hasset, hamount, hmsat, hhash, hon.assetId, hon.assetAmount, hon.btcMsat,
    hon.paymentHash, hid]

theorem addHtlc_valid {store next : AssetHtlcStore} {channelId : String}
    {validation : AssetHtlcValidation} {htlc : StoredAssetHtlc} (hvalid : store.validate = .ok ())
    (hchannel : isBlank channelId = false) (hamount : validation.assetAmount ≠ 0)
    (hprice : validation.btcMsat ≠ 0) (h : store.addHtlc channelId validation = .ok (htlc, next)) :
    next.validate = .ok () := by
  have hoffers := addHtlc_spec h
  rw [AssetHtlcStore.validate, hoffers.store]
  refine forM_insert hvalid ?_
  rw [hoffers.offered]
  simp [AssetHtlcStore.validateEntry, rejectIf, hchannel, hamount, hprice]

theorem transition_valid {store next : AssetHtlcStore} {id : String} {status : AssetHtlcStatus}
    {htlc : StoredAssetHtlc} (hvalid : store.validate = .ok ())
    (h : store.transition id status = .ok (htlc, next)) : next.validate = .ok () := by
  obtain ⟨offered, hget, -, rfl, hnext⟩ := transition_spec h
  rw [AssetHtlcStore.validate, hnext]
  exact forM_insert hvalid (forM_eq_ok.mp hvalid (id, offered) (mem_toList_iff.mpr hget))

/-- An HTLC under a new id is offered and settled. -/
theorem bookHtlc_ok {channelId : String} {validation : AssetHtlcValidation} {s : PaymentStores}
    (hvalid : s.htlcs.validate = .ok ()) (hchannel : isBlank channelId = false)
    (hamount : validation.assetAmount ≠ 0) (hprice : validation.btcMsat ≠ 0)
    (hfresh : s.htlcs.htlcs[htlcIdOf channelId validation]? = none) :
    ∃ t, (bookHtlc channelId validation).call s =
      (.ok (settledHtlc channelId validation), t) := by
  obtain ⟨offered, added, hadd⟩ : ∃ offered added, s.htlcs.addHtlc channelId validation =
      .ok (offered, added) := by
    simp [AssetHtlcStore.addHtlc, hfresh, rejectIf]
  have hoffers := addHtlc_spec hadd
  have hget : added.htlcs[offered.htlcId]? = some offered := by
    rw [hoffers.store, hoffers.offered]
    exact get_insert_self ..
  have hstatus : offered.status = .offered := by
    rw [hoffers.offered]
  obtain ⟨settled, next, hsettle⟩ : ∃ settled next, added.settleHtlc offered.htlcId =
      .ok (settled, next) := by
    simp [AssetHtlcStore.settleHtlc, AssetHtlcStore.transition, hget, hstatus, okOr, rejectIf]
  have hadded := addHtlc_valid hvalid hchannel hamount hprice hadd
  have hnext : next.validate = .ok () := transition_valid hadded hsettle
  have hcall : (bookHtlc channelId validation).call s = (.ok settled, { s with htlcs := next }) := by
    simp only [bookHtlc, onHtlcs, Stateful.call_bind_eq_ok, Stateful.call_transact_eq_ok,
      Stateful.call_pure]
    exact ⟨offered, _, ⟨added, hadd, rfl⟩, settled, _, ⟨next, hsettle, rfl⟩, (), _,
      ⟨next, by rw [hnext]; rfl, rfl⟩, rfl⟩
  obtain ⟨rfl, -⟩ := bookHtlc_spec hcall
  exact ⟨_, hcall⟩

theorem bookHtlc_fresh {channelId : String} {validation : AssetHtlcValidation} {s t : PaymentStores}
    {settled : StoredAssetHtlc} (h : (bookHtlc channelId validation).call s = (.ok settled, t)) :
    s.htlcs.htlcs[htlcIdOf channelId validation]? = none := by
  simp only [bookHtlc, onHtlcs, Stateful.call_bind_eq_ok, Stateful.call_transact_eq_ok] at h
  obtain ⟨_, _, ⟨_, hadd, -⟩, -⟩ := h
  exact (addHtlc_spec hadd).fresh

theorem recordPayment_ok {store : NativeAssetPaymentStore} {payment : NativeAssetPayment}
    (hvalid : store.validate = .ok ()) (hfresh : store.payments[payment.paymentId]? = none)
    (hentry : NativeAssetPaymentStore.validateEntry (payment.paymentId, payment) = .ok ()) :
    ∃ next, store.recordPayment payment = .ok (payment, next) := by
  obtain ⟨hversion, hall⟩ : store.version = nativeAssetPaymentStoreSchemaVersion ∧
      store.payments.toList.forM NativeAssetPaymentStore.validateEntry = .ok () := by
    simpa [NativeAssetPaymentStore.validate, check_bind_eq_ok] using hvalid
  have hnext : ({ store with
      payments := store.payments.insert payment.paymentId payment } :
        NativeAssetPaymentStore).validate = .ok () := by
    simp only [NativeAssetPaymentStore.validate, check_bind_eq_ok, rejectIf_eq_ok, ne_eq, not_not]
    exact ⟨hversion, forM_insert hall hentry⟩
  refine ⟨{ store with payments := store.payments.insert payment.paymentId payment }, ?_⟩
  simp [NativeAssetPaymentStore.recordPayment, hfresh, rejectIf, hnext]

theorem recordPayment_valid {store next : NativeAssetPaymentStore}
    {payment recorded : NativeAssetPayment}
    (h : store.recordPayment payment = .ok (recorded, next)) : next.validate = .ok () := by
  simp only [NativeAssetPaymentStore.recordPayment, check_bind_eq_ok, pure_eq_ok, Except.ok.injEq,
    Prod.mk.injEq] at h
  obtain ⟨-, hvalid, -, rfl⟩ := h
  exact hvalid

/-- The HTLCs and the payments of a store pass its validation. -/
structure StoresValid (s : PaymentStores) : Prop where
  htlcs : s.htlcs.validate = .ok ()
  payments : s.payments.validate = .ok ()

/-- The payment id of a request under a quote. -/
def quotedPaymentId (request : NativeAssetPaymentRequest) (quote : StoredRfqQuote) : String :=
  paymentIdOf request.channelId quote.quoteId request.paymentHash

section Book

variable {request : NativeAssetPaymentRequest} {quote : StoredRfqQuote} {proposal : PaymentProposal}
  {snapshot : AssetCommitmentSnapshot}

theorem OnTerms.amounts (h : OnTerms request quote proposal) :
    proposal.validation.assetAmount ≠ 0 ∧ proposal.validation.btcMsat ≠ 0 := by
  rw [h.validation]
  exact ⟨h.prepared.amount, h.prepared.price⟩

theorem settledPayment_id (h : OnTerms request quote proposal) (htlcId : String) :
    (settledPayment request proposal.prepared htlcId snapshot).paymentId =
      quotedPaymentId request quote := by
  rw [quotedPaymentId, ← h.prepared.quoteId, ← h.paymentHash]
  rfl

/-- The payment that is booked passes the check of the payment store. -/
theorem settledPayment_valid {store : AssetCommitmentStore}
    (hproposes : Proposes store request proposal) (h : OnTerms request quote proposal)
    (hsum : checkedAdd snapshot.localBalance snapshot.remoteBalance = some snapshot.totalAmount)
    (htlcId : String) : NativeAssetPaymentStore.validateEntry
      ((settledPayment request proposal.prepared htlcId snapshot).paymentId,
        settledPayment request proposal.prepared htlcId snapshot) = .ok () := by
  have hterms := hproposes.terms.symm.trans h.validation
  simp only [quotedHtlc, AssetHtlcValidation.mk.injEq] at hterms
  obtain ⟨-, hamount, -, hprice, -⟩ := hterms
  have hrecords : proposal.prepared.records.assetAmount ≠ 0 := by
    rw [hamount]
    exact h.prepared.amount
  have hmsat : proposal.prepared.records.btcMsat ≠ 0 := by
    rw [hprice]
    exact h.prepared.price
  simp [NativeAssetPaymentStore.validateEntry, NativeAssetPaymentStore.validateStatus,
    settledPayment, rejectIf, h.prepared.sender, h.prepared.receiver, hrecords, hmsat, hsum, okOr]

/-- A payment under new ids is booked, whatever else the stores hold. -/
theorem bookPayment_ok {s : PaymentStores} {store : AssetCommitmentStore} (hvalid : StoresValid s)
    (hproposes : Proposes store request proposal) (h : OnTerms request quote proposal)
    (hchannel : isBlank request.channelId = false)
    (hsum : checkedAdd snapshot.localBalance snapshot.remoteBalance = some snapshot.totalAmount)
    (hhtlc : s.htlcs.htlcs[htlcIdOf request.channelId proposal.validation]? = none)
    (hpayment : s.payments.payments[quotedPaymentId request quote]? = none) :
    ∃ payment t, (bookPayment request proposal snapshot).call s = (.ok payment, t) := by
  obtain ⟨hamount, hprice⟩ := h.amounts
  obtain ⟨t, hbook⟩ := bookHtlc_ok hvalid.htlcs hchannel hamount hprice hhtlc
  have hsame := bookHtlc_steps request.channelId proposal.validation s
  rw [hbook] at hsame
  have hid : (settledPayment request proposal.prepared
      (settledHtlc request.channelId proposal.validation).htlcId snapshot).paymentId =
        quotedPaymentId request quote := settledPayment_id h _
  have hpayments : t.payments.validate = .ok () := by
    rw [hsame.2.1]
    exact hvalid.payments
  have hfresh : t.payments.payments[quotedPaymentId request quote]? = none := by
    rw [hsame.2.1]
    exact hpayment
  obtain ⟨next, hrecord⟩ := recordPayment_ok hpayments (hid ▸ hfresh)
    (settledPayment_valid hproposes h hsum
      (settledHtlc request.channelId proposal.validation).htlcId)
  have hcall : (bookPayment request proposal snapshot).call s =
      (.ok (settledPayment request proposal.prepared
        (settledHtlc request.channelId proposal.validation).htlcId snapshot),
        { t with payments := next }) := by
    rw [bookPayment, Stateful.call_bind_of_ok hbook, onPayments]
    exact Stateful.call_transact_of_ok hrecord
  exact ⟨_, _, hcall⟩

/-- Whether it succeeds or not, booking keeps the stores valid. -/
theorem bookPayment_valid (h : OnTerms request quote proposal)
    (hchannel : isBlank request.channelId = false) :
    Stateful.Steps (fun s t => StoresValid s → StoresValid t)
      (bookPayment request proposal snapshot) := by
  obtain ⟨hamount, hprice⟩ := h.amounts
  have htrans (s t u : PaymentStores) (hst : StoresValid s → StoresValid t)
      (htu : StoresValid t → StoresValid u) (hs : StoresValid s) : StoresValid u := htu (hst hs)
  have hrefl (s : PaymentStores) (hs : StoresValid s) : StoresValid s := hs
  have hhtlcs {α : Type} {m : AssetHtlcStore → Except AssetHtlcError (α × AssetHtlcStore)}
      (hm : ∀ store a next, store.validate = .ok () → m store = .ok (a, next) →
        next.validate = .ok ()) :
      Stateful.Steps (fun s t => StoresValid s → StoresValid t) (onHtlcs m) :=
    Stateful.steps_transact hrefl fun s a t hm' hs => ⟨hm _ a t hs.htlcs hm', hs.payments⟩
  refine Stateful.Steps.bind htrans ?_ fun settled => ?_
  · refine (hhtlcs fun _ _ _ hvalid hadd =>
      addHtlc_valid hvalid hchannel hamount hprice hadd).bind htrans fun offered => ?_
    refine (hhtlcs fun _ _ _ hvalid hsettle =>
      transition_valid hvalid hsettle).bind htrans fun settled => ?_
    refine (hhtlcs fun store _ next hvalid hchecked => ?_).bind htrans fun _ =>
      Stateful.steps_pure hrefl _
    rw [checked_eq_ok hchecked]
    exact hvalid
  · exact Stateful.steps_transact hrefl fun s a t hrecord hs =>
      ⟨hs.htlcs, recordPayment_valid hrecord⟩

/-- A payment that is booked had new ids. -/
theorem bookPayment_fresh {s t : PaymentStores} {payment : NativeAssetPayment}
    (h : (bookPayment request proposal snapshot).call s = (.ok payment, t)) :
    s.htlcs.htlcs[htlcIdOf request.channelId proposal.validation]? = none ∧
      s.payments.payments[payment.paymentId]? = none := by
  obtain ⟨-, -, ⟨_, herror, -⟩ | ⟨booked, hok, hbooks⟩⟩ := bookPayment_cases _ _ _ _ h
  · cases herror
  · obtain rfl := Except.ok.inj hok
    rw [bookPayment, Stateful.call_bind_eq_ok] at h
    obtain ⟨_, _, hhtlc, -⟩ := h
    exact ⟨bookHtlc_fresh hhtlc, hbooks.fresh⟩

end Book

end TapLdk.AssetPaymentBooking
