import Mathlib
import TapLdk.RfqInvoice
import TapLdk.RfqQuoteAuthorization
import TapLdk.RfqQuoteTerminal

/-! What binding a quote to an invoice and paying the invoice establish, and the amounts of
the quotes of a reachable store. -/
namespace TapLdk.RfqInvoiceSpec
open TapLdk.LibraryExcept TapLdk.LibraryMaps TapLdk.LibraryBytes TapLdk.LibraryStateful
open TapLdk.Mssmt TapLdk.Asset TapLdk.RfqQuotes TapLdk.RfqQuoteSteps TapLdk.RfqQuoteAuthorization
open TapLdk.RfqQuoteTerminal TapLdk.RfqInvoice

/-- The terms that an invoice shares with an authorization. -/
def SameQuote (invoice : QuoteBoundInvoice) (authorization : RfqHtlcAuthorization) : Prop :=
  invoice.quoteId = authorization.quoteId ∧ invoice.assetId = authorization.assetId ∧
    invoice.assetAmount = authorization.assetAmount ∧ invoice.btcMsat = authorization.btcMsat ∧
    invoice.invoiceContext = authorization.invoiceContext ∧
    invoice.scidAlias = authorization.scidAlias

/-- What binding a quote to an invoice checks and copies. -/
theorem bindQuoteToInvoice_eq_ok {quote : StoredRfqQuote} {request : QuoteBoundInvoiceRequest}
    {invoice : QuoteBoundInvoice} (h : bindQuoteToInvoice quote request = .ok invoice) :
    request.nowUnixSeconds ≤ quote.expiryUnixSeconds ∧
      request.invoiceExpiryUnixSeconds ≤ quote.expiryUnixSeconds ∧
      request.assetId = quote.assetId ∧ request.assetAmount = quote.assetAmount ∧
      request.btcMsat = quote.btcMsat ∧ request.invoiceContext = quote.invoiceContext ∧
      SameQuote invoice (.fromQuote quote) ∧
      invoice.invoiceExpiryUnixSeconds = request.invoiceExpiryUnixSeconds ∧
      invoice.quoteExpiryUnixSeconds = quote.expiryUnixSeconds := by
  simp only [bindQuoteToInvoice, bind_eq_ok, rejectIf_eq_ok, pure_eq_ok, Except.ok.injEq, ne_eq,
    not_not, UInt64.not_lt] at h
  obtain ⟨_, -, _, -, _, hnow, _, hexpiry, _, -, _, hasset, _, hamount, _, hmsat, _, hcontext, rfl⟩ :=
    h
  exact ⟨hnow, hexpiry, hasset, hamount, hmsat, hcontext, ⟨rfl, rfl, rfl, rfl, rfl, rfl⟩, rfl, rfl⟩

/-- The quotes of a valid store are stored under the hashes of their terms. -/
theorem validate_bindings {store : RfqQuoteStore} (h : store.validate = .ok ()) {quoteId : String}
    {quote : StoredRfqQuote} (hget : store.quotes[quoteId]? = some quote) :
    quoteId = quote.quoteId ∧ quote.bindingId = quoteId := by
  simp only [RfqQuoteStore.validate, bind_eq_ok, rejectIf_eq_ok, ne_eq, not_not] at h
  obtain ⟨-, -, indexes, hindexes, -⟩ := h
  have hall := foldlM_induction (fun (done : List (String × StoredRfqQuote)) _ =>
    ∀ entry ∈ done, entry.1 = entry.2.quoteId ∧ entry.2.bindingId = entry.1) (by simp) ?_ hindexes
  · exact hall (quoteId, quote) (mem_toList_iff.mpr hget)
  · intro done entry _ _ hdone hstep e he
    simp only [RfqQuoteStore.indexQuote, bind_eq_ok, rejectIf_eq_ok, ne_eq, not_not] at hstep
    obtain ⟨-, -, -, hkey, -, hbinding, -⟩ := hstep
    rcases List.mem_append.mp he with he | he
    · exact hdone e he
    · rw [List.mem_singleton.mp he]
      exact ⟨hkey, hbinding⟩

/-- What a payment says about the quote it was authorized on. -/
theorem payQuoteBoundInvoice_eq_ok {store store' : RfqQuoteStore} {invoice : QuoteBoundInvoice}
    {now : UInt64} {payment : QuoteBoundPayment}
    (h : (payQuoteBoundInvoice invoice now).call store = (.ok payment, store')) :
    ∃ quote, store.quotes[invoice.quoteId]? = some quote ∧
      bindQuoteToInvoice quote (invoice.rebindRequest now) = .ok payment.invoice ∧
      payment.authorization = .fromQuote quote ∧ invoice.quoteId = quote.quoteId ∧
      quote.bindingId = invoice.quoteId := by
  simp only [payQuoteBoundInvoice, quoteCall, Stateful.call_bind_eq_ok, Stateful.call_onPart_eq_ok,
    Stateful.call_lift, Stateful.call_pure, RfqQuoteStore.inspectQuote, okOr_eq_ok, Prod.mk.injEq,
    Except.ok.injEq, id] at h
  obtain ⟨quote, _, ⟨hget, rfl⟩, rebound, _, ⟨hbind, rfl⟩, authorization, _, ⟨hauthorized, -⟩, rfl,
    -⟩ := h
  obtain ⟨next, hprepared, -, hvalid⟩ := mutate_fst hauthorized
  simp only [bind_eq_ok, okOr_eq_ok, pure_eq_ok, Except.ok.injEq, Prod.mk.injEq] at hprepared
  obtain ⟨quote', hget', _, -, _, -, _, -, rfl, rfl⟩ := hprepared
  obtain rfl : quote = quote' := by
    rw [hget] at hget'
    exact Option.some.inj hget'
  have hstored := validate_bindings hvalid (get_insert_self store.quotes invoice.quoteId
    { quote with status := .used, usedAtUnixSeconds := some now })
  exact ⟨quote, hget, hbind, rfl, hstored⟩

/-- A prepared quote prices its units at the oracle's rate. -/
theorem prepareQuote_amounts {store : RfqQuoteStore} {request : RfqQuoteRequest}
    {quote : StoredRfqQuote} (h : store.prepareQuote request = .ok quote) :
    quote.assetAmount ≠ 0 ∧ quote.btcMsat.toNat = quote.assetAmount.toNat * 100 := by
  simp only [RfqQuoteStore.prepareQuote, FixedRateOracle.quoteBtcMsat, bind_eq_ok, rejectIf_eq_ok,
    okOr_eq_ok, pure_eq_ok, Except.ok.injEq] at h
  obtain ⟨-, -, -, -, -, -, btcMsat, ⟨-, hzero, hmul⟩, scidAlias, -, rfl⟩ := h
  exact ⟨hzero, checkedMul_eq_some hmul⟩

theorem stored_amounts {ops : List RfqOperation} {quoteId : String} {quote : StoredRfqQuote}
    (h : (quoteMachine.run ops).quotes[quoteId]? = some quote) :
    quote.assetAmount ≠ 0 ∧ quote.btcMsat.toNat = quote.assetAmount.toNat * 100 := by
  obtain ⟨-, first, hterms, ⟨_, _, _, _, hprepare⟩, -⟩ := quotes_recorded ops quoteId quote h
  have hamounts := prepareQuote_amounts hprepare
  have hasset := congrArg RfqHtlcAuthorization.assetAmount hterms.1
  have hmsat := congrArg RfqHtlcAuthorization.btcMsat hterms.1
  simp only [RfqHtlcAuthorization.fromQuote] at hasset hmsat
  rwa [hasset, hmsat] at hamounts

/-- The request for 25 units, and the acceptance of its quote. -/
def acceptedRun : List RfqOperation :=
  [.requestQuote invoiceRequest, .acceptQuote invoiceQuoteId 110]

/-- The binding of that quote to an invoice that lives until some second. -/
def invoiceUntil (expiryUnixSeconds : UInt64) : QuoteBoundInvoiceRequest where
  invoice := "lnbcrt1"
  paymentHash := Bytes32.ZERO
  peer := invoiceRequest.peer
  assetId := invoiceRequest.assetId
  assetAmount := 25
  btcMsat := 2500
  invoiceContext := invoiceRequest.invoiceContext
  invoiceExpiryUnixSeconds := expiryUnixSeconds
  nowUnixSeconds := 110

/-- The invoice that the quote of the run is bound to. -/
def boundInvoice (expiryUnixSeconds : UInt64) : Option QuoteBoundInvoice := do
  let quote ← (quoteMachine.run acceptedRun).quotes[invoiceQuoteId]?
  (bindQuoteToInvoice quote (invoiceUntil expiryUnixSeconds)).toOption

theorem boundInvoice_spec {expiry : UInt64} {invoice : QuoteBoundInvoice}
    (h : boundInvoice expiry = some invoice) :
    ∃ quote, (quoteMachine.run acceptedRun).quotes[invoiceQuoteId]? = some quote ∧
      bindQuoteToInvoice quote (invoiceUntil expiry) = .ok invoice := by
  simp only [boundInvoice, Option.bind_eq_bind, Option.bind_eq_some_iff] at h
  obtain ⟨quote, hquote, hbind⟩ := h
  exact ⟨quote, hquote, toOption_eq_some hbind⟩

end TapLdk.RfqInvoiceSpec
