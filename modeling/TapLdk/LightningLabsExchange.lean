import Mathlib
import TapLdk.LightningLabsInvoice
import TapLdk.RfqInvoiceSpec

/-! The exchange over a bound invoice: the request built from it passes the invoice's
checks, and the acceptance built from it passes the request's only if the invoice lives as
long as its quote. -/
namespace TapLdk.LightningLabsExchange
open TapLdk.LibraryExcept TapLdk.LibraryMaps TapLdk.LibraryBytes TapLdk.Mssmt TapLdk.Asset
open TapLdk.RfqQuotes TapLdk.RfqQuoteSteps TapLdk.RfqQuoteAuthorization TapLdk.RfqQuoteTerminal
open TapLdk.RfqInvoice TapLdk.RfqInvoiceSpec TapLdk.LightningLabsRfq TapLdk.LightningLabsCodec
open TapLdk.LightningLabsInvoice

/-- The request built from an invoice passes over the wire and is checked against the invoice;
the acceptance built from it passes over the wire and is checked against the request. -/
def Exchange (request : LightningLabsResult LightningLabsRfqRequest)
    (check : LightningLabsRfqRequest → LightningLabsResult Unit)
    (accept : LightningLabsResult LightningLabsRfqAccept) (now : UInt64) : Prop :=
  ∃ r requestBytes a acceptBytes, request = .ok r ∧ r.encode = .ok requestBytes ∧
    LightningLabsRfqRequest.decode requestBytes = .ok r ∧ check r = .ok () ∧
    accept = .ok a ∧ a.encode = .ok acceptBytes ∧
    LightningLabsRfqAccept.decode acceptBytes = .ok a ∧ a.validateForRequest r now = .ok ()

def SellExchange (invoice : QuoteBoundInvoice) (rfqId : Bytes32) (now : UInt64) : Prop :=
  Exchange (lightningLabsSellRequestFromInvoice invoice rfqId)
    (validateAgainstInvoice · invoice.peer invoice now)
    (lightningLabsAcceptFromInvoice invoice rfqId) now

def BuyExchange (invoice : QuoteBoundInvoice) (rfqId : Bytes32) (now : UInt64) : Prop :=
  Exchange (lightningLabsBuyRequestFromInvoice invoice rfqId)
    (validateReceiveAgainstInvoice · invoice.peer invoice now)
    (lightningLabsBuyAcceptFromInvoice invoice rfqId) now

/-- A thousand million units for one bitcoin, at a hundred millisatoshi each. -/
def oracleRate : LightningLabsFixedPoint := .fromU64 1000000000 0

theorem oracleRate_ok : oracleRate.coefficientBe.length ≤ 16 ∧ oracleRate.isZero = false := by
  decide +kernel

theorem msatPerBtc_ok : LightningLabsFixedPoint.msatPerBtc.coefficientBe.length ≤ 16 ∧
    LightningLabsFixedPoint.msatPerBtc.isZero = false := by
  decide +kernel

theorem assetUnitsPerBtcRate_eq {invoice : QuoteBoundInvoice} (hzero : invoice.assetAmount ≠ 0)
    (hmsat : invoice.btcMsat.toNat = invoice.assetAmount.toNat * 100) :
    assetUnitsPerBtcRate invoice = .ok oracleRate := by
  have hpos : 0 < invoice.assetAmount.toNat :=
    Nat.pos_of_ne_zero fun h => hzero (UInt64.toNat_inj.mp h)
  have hlt := invoice.assetAmount.toNat_lt
  have hnumerator : invoice.assetAmount.toNat * msatPerBtc =
      1000000000 * invoice.btcMsat.toNat := by
    rw [hmsat, msatPerBtc]
    ring
  have hbound : ¬ 2 ^ 128 ≤ invoice.assetAmount.toNat * msatPerBtc := by
    rw [msatPerBtc]
    omega
  have hnonzero : invoice.btcMsat ≠ 0 := by
    intro h
    rw [h] at hmsat
    simp only [UInt64.toNat_zero] at hmsat
    omega
  have hdiv : 1000000000 * invoice.btcMsat.toNat / invoice.btcMsat.toNat = 1000000000 :=
    Nat.mul_div_cancel _ (by omega)
  unfold assetUnitsPerBtcRate
  dsimp only
  rw [rejectIf_false hbound, ok_bind, rejectIf_false hnonzero, ok_bind, hnumerator, hdiv,
    Nat.mul_mod_left, rejectIf_false (by decide), ok_bind, rejectIf_false (by decide), ok_bind]
  rfl

/-- What is well formed passes over the wire, so the exchange comes down to its last check. -/
theorem exchange_iff {request : LightningLabsResult LightningLabsRfqRequest}
    {check : LightningLabsRfqRequest → LightningLabsResult Unit}
    {accept : LightningLabsResult LightningLabsRfqAccept} {r : LightningLabsRfqRequest}
    {a : LightningLabsRfqAccept} {now : UInt64} (hrequest : request = .ok r)
    (hr : RequestShape r) (hcheck : check r = .ok ()) (haccept : accept = .ok a)
    (ha : AcceptShape a) (hmax : a.maxInAsset ≠ some 0) :
    Exchange request check accept now ↔ a.validateForRequest r now = .ok () := by
  constructor
  · rintro ⟨r', _, a', _, hr', -, -, -, ha', -, -, hvalid⟩
    rw [hrequest, Except.ok.injEq] at hr'
    rw [haccept, Except.ok.injEq] at ha'
    rwa [hr', ha']
  · intro hvalid
    obtain ⟨requestBytes, hrequestBytes⟩ := encode_request_total hr
    obtain ⟨acceptBytes, hacceptBytes⟩ := encode_accept_total ha
    exact ⟨r, requestBytes, a, acceptBytes, hrequest, hrequestBytes,
      decode_encode_request hrequestBytes, hcheck, haccept, hacceptBytes,
      decode_encode_accept hmax hacceptBytes, hvalid⟩

/-- What the store and the binding guarantee of an invoice. -/
structure Quoted (invoice : QuoteBoundInvoice) : Prop where
  assetAmount : invoice.assetAmount ≠ 0
  btcMsat : invoice.btcMsat ≠ 0
  rate : assetUnitsPerBtcRate invoice = .ok oracleRate
  expiry : invoice.invoiceExpiryUnixSeconds ≤ invoice.quoteExpiryUnixSeconds

theorem quoted {ops : List RfqOperation} {quoteId : String} {quote : StoredRfqQuote}
    {request : QuoteBoundInvoiceRequest} {invoice : QuoteBoundInvoice}
    (h : (quoteMachine.run ops).quotes[quoteId]? = some quote)
    (hbind : bindQuoteToInvoice quote request = .ok invoice) : Quoted invoice := by
  obtain ⟨-, hnow, -, -, -, -, ⟨-, -, hasset, hmsat, -⟩, hinvoice, hquoteExpiry⟩ :=
    bindQuoteToInvoice_eq_ok hbind
  have hexpiry : invoice.invoiceExpiryUnixSeconds ≤ invoice.quoteExpiryUnixSeconds := by
    rwa [hinvoice, hquoteExpiry]
  obtain ⟨hzero, hprice⟩ := stored_amounts h
  simp only [RfqHtlcAuthorization.fromQuote] at hasset hmsat
  rw [← hasset, ← hmsat] at hprice
  rw [← hasset] at hzero
  refine ⟨hzero, fun hmsat => ?_, assetUnitsPerBtcRate_eq hzero hprice, hexpiry⟩
  rw [hmsat] at hprice
  have hnat := mt UInt64.toNat_inj.mp hzero
  simp only [UInt64.toNat_zero] at hprice hnat
  omega

section

variable {invoice : QuoteBoundInvoice} (h : Quoted invoice)
include h

theorem expiry_eq : min invoice.invoiceExpiryUnixSeconds invoice.quoteExpiryUnixSeconds =
    invoice.invoiceExpiryUnixSeconds := if_pos h.expiry

/-- An acceptance that expires with the quote outlives a request that expires with the invoice,
unless the two expire together. -/
theorem expiry_le_iff {now : UInt64} (hnow : now < invoice.invoiceExpiryUnixSeconds) :
    (now < invoice.quoteExpiryUnixSeconds ∧
      invoice.quoteExpiryUnixSeconds ≤ invoice.invoiceExpiryUnixSeconds) ↔
      invoice.invoiceExpiryUnixSeconds = invoice.quoteExpiryUnixSeconds := by
  constructor
  · rintro ⟨-, hle⟩
    exact UInt64.le_antisymm h.expiry hle
  · intro heq
    rw [← heq]
    exact ⟨hnow, UInt64.le_refl _⟩

end

/-- The shape of an acceptance built at two good rates. -/
theorem acceptAt_shape (invoice : QuoteBoundInvoice) (rfqId : Bytes32) (maxInAsset : UInt64)
    {inRate outRate : LightningLabsFixedPoint}
    (hin : inRate.coefficientBe.length ≤ 16 ∧ inRate.isZero = false)
    (hout : outRate.coefficientBe.length ≤ 16 ∧ outRate.isZero = false) :
    AcceptShape (acceptAt invoice rfqId inRate outRate maxInAsset) :=
  ⟨rfl, List.length_replicate, hin.1, hout.1, hin.2, hout.2⟩

theorem some_ne_some {α : Type} {a b : α} (h : a ≠ b) : some a ≠ some b :=
  fun heq => h (Option.some.inj heq)

theorem sellRequest_shape {invoice : QuoteBoundInvoice} (h : Quoted invoice)
    (hasset : invoice.assetId ≠ Bytes32.ZERO) (rfqId : Bytes32) :
    RequestShape (sellRequest invoice rfqId oracleRate) := by
  have hrate := oracleRate_ok
  refine ⟨rfl, h.btcMsat, ?_, ?_, ?_, ?_, ?_, ?_, ?_, ?_, ?_⟩ <;>
    simp [sellRequest, hasset, hrate, FixedBytes.length_eq, lightningLabsMaxOracleMetadataLength]

theorem buyRequest_shape {invoice : QuoteBoundInvoice} (h : Quoted invoice)
    (hasset : invoice.assetId ≠ Bytes32.ZERO) (rfqId : Bytes32) :
    RequestShape (buyRequest invoice rfqId oracleRate) := by
  have hrate := oracleRate_ok
  refine ⟨rfl, h.assetAmount, ?_, ?_, ?_, ?_, ?_, ?_, ?_, ?_, ?_⟩ <;>
    simp [buyRequest, hasset, hrate, FixedBytes.length_eq, lightningLabsMaxOracleMetadataLength]

/-- A request that expires with its invoice passes the checks of its time and terms. -/
theorem request_timely {invoice : QuoteBoundInvoice} (h : Quoted invoice)
    {request : LightningLabsRfqRequest} {now : UInt64} (hshape : RequestShape request)
    (hexpiry : request.expiryUnixSeconds = invoice.invoiceExpiryUnixSeconds)
    (hcontext : request.oracleMetadata = invoice.invoiceContext.bytes)
    (hnow : now < invoice.invoiceExpiryUnixSeconds) :
    validateAt request now = .ok () ∧ validateTerms request invoice = .ok () := by
  simp only [validateAt, validateTerms, check_bind_eq_ok, validateShape_request, rejectIf_eq_ok,
    hexpiry, hcontext, UInt64.not_le, UInt64.not_lt, not_or, ne_eq, not_not]
  exact ⟨⟨hshape, hnow⟩, ⟨h.expiry, UInt64.le_refl _⟩, trivial⟩

theorem sellRequest_checked {invoice : QuoteBoundInvoice} (h : Quoted invoice)
    (hasset : invoice.assetId ≠ Bytes32.ZERO) (rfqId : Bytes32) {now : UInt64}
    (hnow : now < invoice.invoiceExpiryUnixSeconds) :
    validateAgainstInvoice (sellRequest invoice rfqId oracleRate) invoice.peer invoice now =
      .ok () := by
  obtain ⟨htime, hterms⟩ := request_timely h (sellRequest_shape h hasset rfqId) (expiry_eq h) rfl hnow
  unfold validateAgainstInvoice
  rw [htime, hterms, h.rate]
  simp [sellRequest, rejectIf]

theorem buyRequest_checked {invoice : QuoteBoundInvoice} (h : Quoted invoice)
    (hasset : invoice.assetId ≠ Bytes32.ZERO) (rfqId : Bytes32) {now : UInt64}
    (hnow : now < invoice.invoiceExpiryUnixSeconds) :
    validateReceiveAgainstInvoice (buyRequest invoice rfqId oracleRate) invoice.peer invoice now =
      .ok () := by
  obtain ⟨htime, hterms⟩ := request_timely h (buyRequest_shape h hasset rfqId) (expiry_eq h) rfl hnow
  unfold validateReceiveAgainstInvoice
  rw [htime, hterms, h.rate]
  simp [buyRequest, rejectIf]

/-- A request that expires with its invoice accepts the built acceptance only if the invoice
expires with the quote. -/
theorem acceptAt_accepted {invoice : QuoteBoundInvoice} (h : Quoted invoice) {rfqId : Bytes32}
    {inRate outRate : LightningLabsFixedPoint} {request : LightningLabsRfqRequest} {now : UInt64}
    (hshape : AcceptShape (acceptAt invoice rfqId inRate outRate request.maxInAsset))
    (hid : request.id = rfqId)
    (hexpiry : request.expiryUnixSeconds = invoice.invoiceExpiryUnixSeconds)
    (hnow : now < invoice.invoiceExpiryUnixSeconds) :
    (acceptAt invoice rfqId inRate outRate request.maxInAsset).validateForRequest request now =
      .ok () ↔ invoice.invoiceExpiryUnixSeconds = invoice.quoteExpiryUnixSeconds := by
  rw [validateForRequest_eq_ok, ← expiry_le_iff h hnow, hexpiry]
  constructor
  · rintro ⟨-, hlive, -, houtlives, -⟩
    exact ⟨hlive, houtlives⟩
  · rintro ⟨hlive, houtlives⟩
    refine ⟨hshape, hlive, hid.symm, houtlives, ?_⟩
    simp [acceptAt]

theorem sellExchange_iff {invoice : QuoteBoundInvoice} (h : Quoted invoice)
    (hasset : invoice.assetId ≠ Bytes32.ZERO) (rfqId : Bytes32) {now : UInt64}
    (hnow : now < invoice.invoiceExpiryUnixSeconds) : SellExchange invoice rfqId now ↔
      invoice.invoiceExpiryUnixSeconds = invoice.quoteExpiryUnixSeconds := by
  have hrequest : lightningLabsSellRequestFromInvoice invoice rfqId =
      .ok (sellRequest invoice rfqId oracleRate) := by
    rw [lightningLabsSellRequestFromInvoice, h.rate]
    rfl
  have haccept : lightningLabsAcceptFromInvoice invoice rfqId =
      .ok (acceptAt invoice rfqId .msatPerBtc oracleRate invoice.btcMsat) := by
    rw [lightningLabsAcceptFromInvoice, h.rate]
    rfl
  have hshape := acceptAt_shape invoice rfqId invoice.btcMsat msatPerBtc_ok oracleRate_ok
  rw [SellExchange, exchange_iff hrequest (sellRequest_shape h hasset rfqId)
    (sellRequest_checked h hasset rfqId hnow) haccept hshape (some_ne_some h.btcMsat)]
  exact @acceptAt_accepted _ h _ _ _ (sellRequest invoice rfqId oracleRate) _ hshape rfl
    (expiry_eq h) hnow

theorem buyExchange_iff {invoice : QuoteBoundInvoice} (h : Quoted invoice)
    (hasset : invoice.assetId ≠ Bytes32.ZERO) (rfqId : Bytes32) {now : UInt64}
    (hnow : now < invoice.invoiceExpiryUnixSeconds) : BuyExchange invoice rfqId now ↔
      invoice.invoiceExpiryUnixSeconds = invoice.quoteExpiryUnixSeconds := by
  have hrequest : lightningLabsBuyRequestFromInvoice invoice rfqId =
      .ok (buyRequest invoice rfqId oracleRate) := by
    rw [lightningLabsBuyRequestFromInvoice, h.rate]
    rfl
  have haccept : lightningLabsBuyAcceptFromInvoice invoice rfqId =
      .ok (acceptAt invoice rfqId oracleRate .msatPerBtc invoice.assetAmount) := by
    rw [lightningLabsBuyAcceptFromInvoice, h.rate]
    rfl
  have hshape := acceptAt_shape invoice rfqId invoice.assetAmount oracleRate_ok msatPerBtc_ok
  rw [BuyExchange, exchange_iff hrequest (buyRequest_shape h hasset rfqId)
    (buyRequest_checked h hasset rfqId hnow) haccept hshape (some_ne_some h.assetAmount)]
  exact @acceptAt_accepted _ h _ _ _ (buyRequest invoice rfqId oracleRate) _ hshape rfl
    (expiry_eq h) hnow

/-- For an invoice bound to a quote of a reachable store, the exchange in either direction
succeeds before the invoice expires exactly when the invoice and its quote expire together. -/
theorem exchange_iff_same_expiry {ops : List RfqOperation} {quoteId : String}
    {quote : StoredRfqQuote} {request : QuoteBoundInvoiceRequest} {invoice : QuoteBoundInvoice}
    (hquote : (quoteMachine.run ops).quotes[quoteId]? = some quote)
    (hbind : bindQuoteToInvoice quote request = .ok invoice)
    (hasset : invoice.assetId ≠ Bytes32.ZERO) (rfqId : Bytes32) {now : UInt64}
    (hnow : now < invoice.invoiceExpiryUnixSeconds) :
    (SellExchange invoice rfqId now ↔
      invoice.invoiceExpiryUnixSeconds = invoice.quoteExpiryUnixSeconds) ∧
    (BuyExchange invoice rfqId now ↔
      invoice.invoiceExpiryUnixSeconds = invoice.quoteExpiryUnixSeconds) :=
  ⟨sellExchange_iff (quoted hquote hbind) hasset rfqId hnow,
    buyExchange_iff (quoted hquote hbind) hasset rfqId hnow⟩

/-- The terms of a bound invoice that the exchange depends on. -/
def exchangeTerms (invoice : QuoteBoundInvoice) : Bytes32 × UInt64 × UInt64 :=
  (invoice.assetId, invoice.invoiceExpiryUnixSeconds, invoice.quoteExpiryUnixSeconds)

theorem boundInvoice_terms {expiry : UInt64}
    (h : (boundInvoice expiry).map exchangeTerms = some (invoiceRequest.assetId, expiry, 200)) :
    ∃ quote invoice, (quoteMachine.run acceptedRun).quotes[invoiceQuoteId]? = some quote ∧
      bindQuoteToInvoice quote (invoiceUntil expiry) = .ok invoice ∧
      invoice.assetId ≠ Bytes32.ZERO ∧ invoice.invoiceExpiryUnixSeconds = expiry ∧
      invoice.quoteExpiryUnixSeconds = 200 := by
  obtain ⟨invoice, hinvoice, hterms⟩ := Option.map_eq_some_iff.mp h
  obtain ⟨quote, hquote, hbind⟩ := boundInvoice_spec hinvoice
  simp only [exchangeTerms, Prod.mk.injEq] at hterms
  obtain ⟨hasset, hexpiry, hquoteExpiry⟩ := hterms
  refine ⟨quote, invoice, hquote, hbind, ?_, hexpiry, hquoteExpiry⟩
  rw [hasset]
  decide +kernel

/-- An invoice that expires at second 150, on a quote that expires at second 200: neither
acceptance passes for the request built from the same invoice. -/
theorem early_invoice_refused : ∃ quote invoice,
    (quoteMachine.run acceptedRun).quotes[invoiceQuoteId]? = some quote ∧
      bindQuoteToInvoice quote (invoiceUntil 150) = .ok invoice ∧
      invoice.assetId ≠ Bytes32.ZERO ∧ 120 < invoice.invoiceExpiryUnixSeconds ∧
      ¬ SellExchange invoice Bytes32.ZERO 120 ∧ ¬ BuyExchange invoice Bytes32.ZERO 120 := by
  have hbound : (boundInvoice 150).map exchangeTerms = some (invoiceRequest.assetId, 150, 200) := by
    decide +kernel
  obtain ⟨quote, invoice, hquote, hbind, hasset, hexpiry, hquoteExpiry⟩ := boundInvoice_terms hbound
  have hnow : 120 < invoice.invoiceExpiryUnixSeconds := by
    rw [hexpiry]
    decide
  have hne : invoice.invoiceExpiryUnixSeconds ≠ invoice.quoteExpiryUnixSeconds := by
    rw [hexpiry, hquoteExpiry]
    decide
  have hquoted := quoted hquote hbind
  exact ⟨quote, invoice, hquote, hbind, hasset, hnow,
    mt (sellExchange_iff hquoted hasset _ hnow).mp hne,
    mt (buyExchange_iff hquoted hasset _ hnow).mp hne⟩

/-- With the invoice as long as the quote, both exchanges succeed. -/
theorem full_invoice_exchanged : ∃ invoice,
    SellExchange invoice Bytes32.ZERO 120 ∧ BuyExchange invoice Bytes32.ZERO 120 := by
  have hbound : (boundInvoice 200).map exchangeTerms = some (invoiceRequest.assetId, 200, 200) := by
    decide +kernel
  obtain ⟨quote, invoice, hquote, hbind, hasset, hexpiry, hquoteExpiry⟩ := boundInvoice_terms hbound
  have hnow : 120 < invoice.invoiceExpiryUnixSeconds := by
    rw [hexpiry]
    decide
  have heq := hexpiry.trans hquoteExpiry.symm
  obtain ⟨hsell, hbuy⟩ := exchange_iff_same_expiry hquote hbind hasset Bytes32.ZERO hnow
  exact ⟨invoice, hsell.mpr heq, hbuy.mpr heq⟩

end TapLdk.LightningLabsExchange
