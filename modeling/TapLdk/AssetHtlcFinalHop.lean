import Mathlib
import TapLdk.AssetHtlc
import TapLdk.RfqInvoiceSpec

/-! The two ends of a payment: what the payer's check of a bound invoice lets through, and
when the final hop accepts the HTLC records built from it. -/
namespace TapLdk.AssetHtlcFinalHop
open TapLdk.LibraryExcept TapLdk.LibraryMaps TapLdk.LibraryBytes TapLdk.LibrarySha256
open TapLdk.LibraryStateful TapLdk.Mssmt TapLdk.Asset TapLdk.LdkFork TapLdk.RfqQuotes
open TapLdk.RfqInvoice TapLdk.RfqInvoiceSpec TapLdk.AssetHtlc

/-- The library accepts metadata built from some fields, with the supported version and the
digest of the fields, for an accepted and live quote over the same fields. -/
def AcceptsConsistentHtlcs (ldk : Ldk) : Prop :=
  ∀ assetId assetAmount proofRootHash proofRootSum quoteId paymentHash, ∃ metadata,
    ldk.newHtlcMetadata assetId assetAmount proofRootHash proofRootSum quoteId paymentHash =
      .ok metadata ∧
    ldk.validateHtlcIntegrity (ldk.setHtlcFields metadata ldk.supportedProtocolVersion
      (finalHopDigest ldk.supportedProtocolVersion assetId assetAmount proofRootHash proofRootSum
        quoteId paymentHash)) = .ok () ∧
    ∀ now quoteExpiry, now ≤ quoteExpiry →
      ldk.validateAssetHtlcFinalHop (some (ldk.setHtlcFields metadata ldk.supportedProtocolVersion
        (finalHopDigest ldk.supportedProtocolVersion assetId assetAmount proofRootHash
          proofRootSum quoteId paymentHash)))
        { assetId, assetAmount, proofRootHash, proofRootSum, quoteId, paymentHash
          quoteAccepted := true, nowUnixSeconds := now, quoteExpiryUnixSeconds := quoteExpiry } =
        .ok ()

theorem acceptingLdk_acceptsConsistentHtlcs : AcceptsConsistentHtlcs acceptingLdk := by
  intro assetId assetAmount proofRootHash proofRootSum quoteId paymentHash
  refine ⟨_, rfl, rfl, fun now quoteExpiry h => ?_⟩
  change validateAcceptedFinalHop (some ⟨assetId, assetAmount, proofRootHash, proofRootSum, quoteId,
    paymentHash⟩) _ = .ok ()
  rw [validateAcceptedFinalHop, rejectIf_false]
  exact not_not.mpr ⟨rfl, rfl, h⟩

/-- The records built from an authorization over an invoice pass at the final hop. -/
def FinalHopAccepts (ldk : Ldk) (invoice : QuoteBoundInvoice) (authorization : RfqHtlcAuthorization)
    (proofRootHash : Bytes32) (proofRootSum now : UInt64) : Prop :=
  ∃ records validation,
    AssetHtlcCustomRecords.fromAuthorizationWithProofRoot ldk invoice authorization proofRootHash
      proofRootSum = .ok records ∧
    validateFinalHop ldk records invoice authorization now = .ok validation

/-- The final hop accepts what is built for it on the terms of the quote, until the invoice or
the quote expires. -/
theorem finalHopAccepts_iff {ldk : Ldk} (hldk : AcceptsConsistentHtlcs ldk)
    {invoice : QuoteBoundInvoice} {authorization : RfqHtlcAuthorization} {quoteId : Bytes32}
    (hid : parseQuoteId authorization.quoteId = .ok quoteId) (proofRootHash : Bytes32)
    (proofRootSum now : UInt64) :
    FinalHopAccepts ldk invoice authorization proofRootHash proofRootSum now ↔
      SameQuote invoice authorization ∧ now ≤ invoice.invoiceExpiryUnixSeconds ∧
        now ≤ invoice.quoteExpiryUnixSeconds := by
  simp only [FinalHopAccepts, AssetHtlcCustomRecords.fromAuthorizationWithProofRoot, hid, ok_bind,
    check_bind_eq_ok, rejectIf_eq_ok, not_or, ne_eq, not_not, pure_eq_ok, Except.ok.injEq]
  constructor
  · rintro ⟨_, _, ⟨hsame, rfl⟩, hvalid⟩
    simp only [validateFinalHop, check_bind_eq_ok, rejectIf_eq_ok, not_or, UInt64.not_lt] at hvalid
    exact ⟨hsame, hvalid.1⟩
  · rintro ⟨hsame, htime⟩
    refine ⟨_, ⟨authorization.assetId, authorization.assetAmount, quoteId, authorization.btcMsat,
      invoice.paymentHash, true⟩, ⟨hsame, rfl⟩, ?_⟩
    obtain ⟨metadata, hnew, hintegrity, haccepted⟩ := hldk authorization.assetId
      authorization.assetAmount proofRootHash proofRootSum quoteId invoice.paymentHash
    have htime' : ¬ (invoice.invoiceExpiryUnixSeconds < now ∨
        invoice.quoteExpiryUnixSeconds < now) := by
      rw [not_or, UInt64.not_lt, UInt64.not_lt]
      exact htime
    obtain ⟨hquote, hasset, hamount, hmsat, hcontext, hscid⟩ := hsame
    simp [validateFinalHop, rejectIf, htime', hid, hquote, hasset, hamount, hmsat, hcontext, hscid,
      AssetHtlcCustomRecords.expectedDigest, AssetHtlcCustomRecords.toLdkMetadata, hnew, hintegrity,
      haccepted now _ htime.2, Except.mapError]

section

variable {ldk : Ldk} (hldk : AcceptsConsistentHtlcs ldk) {store store' : RfqQuoteStore}
  {invoice : QuoteBoundInvoice} {now : UInt64} {payment : QuoteBoundPayment}
  (hpay : (payQuoteBoundInvoice invoice now).call store = (.ok payment, store'))
include hpay

/-- The quote id of an authorization that was paid for is a digest. -/
theorem paid_quoteId : ∃ quoteId, parseQuoteId payment.authorization.quoteId = .ok quoteId := by
  obtain ⟨quote, -, -, hauthorization, hkey, hbinding⟩ := payQuoteBoundInvoice_eq_ok hpay
  have hid : quote.quoteId = quote.bindingId := hkey.symm.trans hbinding.symm
  refine ⟨sha256 (quoteBindingPreimage quote.peer quote.assetId quote.assetAmount quote.btcMsat
    quote.expiryUnixSeconds quote.invoiceContext quote.scidAlias quote.replayDomain), ?_⟩
  rw [parseQuoteId, mapError_eq_ok, hauthorization, RfqHtlcAuthorization.fromQuote, hid]
  exact bytes32FromStr_toHex _

include hldk

/-- The final hop accepts the invoice that the payment returns as long as it lives. -/
theorem returned_accepted_iff (proofRootHash : Bytes32) (proofRootSum : UInt64) :
    FinalHopAccepts ldk payment.invoice payment.authorization proofRootHash proofRootSum now ↔
      now ≤ invoice.invoiceExpiryUnixSeconds := by
  obtain ⟨quote, -, hbind, hauthorization, -⟩ := payQuoteBoundInvoice_eq_ok hpay
  obtain ⟨hnow, -, -, -, -, -, hsame, hexpiry, hquoteExpiry⟩ := bindQuoteToInvoice_eq_ok hbind
  obtain ⟨quoteId, hid⟩ := paid_quoteId hpay
  rw [finalHopAccepts_iff hldk hid, hauthorization, hexpiry, hquoteExpiry]
  exact ⟨fun h => h.2.1, fun h => ⟨hsame, h, hnow⟩⟩

/-- It accepts the invoice that was submitted if that one also carries the quote's alias and an
expiry of the quote that has not passed. -/
theorem submitted_accepted_iff (proofRootHash : Bytes32) (proofRootSum : UInt64) :
    FinalHopAccepts ldk invoice payment.authorization proofRootHash proofRootSum now ↔
      now ≤ invoice.invoiceExpiryUnixSeconds ∧ now ≤ invoice.quoteExpiryUnixSeconds ∧
        ∀ quote, store.quotes[invoice.quoteId]? = some quote →
          invoice.scidAlias = quote.scidAlias := by
  obtain ⟨quote, hget, hbind, hauthorization, hkey, -⟩ := payQuoteBoundInvoice_eq_ok hpay
  obtain ⟨-, -, hasset, hamount, hmsat, hcontext, -⟩ := bindQuoteToInvoice_eq_ok hbind
  obtain ⟨quoteId, hid⟩ := paid_quoteId hpay
  rw [finalHopAccepts_iff hldk hid, hauthorization]
  constructor
  · rintro ⟨⟨-, -, -, -, -, hscid⟩, htime, hquoteTime⟩
    refine ⟨htime, hquoteTime, fun quote' hget' => ?_⟩
    rw [hget, Option.some.injEq] at hget'
    rwa [← hget']
  · rintro ⟨htime, hquoteTime, hscid⟩
    exact ⟨⟨hkey, hasset, hamount, hmsat, hcontext, hscid quote hget⟩, htime, hquoteTime⟩

end

/-- After a payment the final hop accepts the returned invoice exactly while it has not expired,
and the submitted one exactly while neither of its expiries has passed and its alias is the
quote's. -/
theorem paid_accepted_iff {ldk : Ldk} (hldk : AcceptsConsistentHtlcs ldk)
    {store store' : RfqQuoteStore} {invoice : QuoteBoundInvoice} {now : UInt64}
    {payment : QuoteBoundPayment}
    (hpay : (payQuoteBoundInvoice invoice now).call store = (.ok payment, store'))
    (proofRootHash : Bytes32) (proofRootSum : UInt64) :
    (FinalHopAccepts ldk payment.invoice payment.authorization proofRootHash proofRootSum now ↔
      now ≤ invoice.invoiceExpiryUnixSeconds) ∧
    (FinalHopAccepts ldk invoice payment.authorization proofRootHash proofRootSum now ↔
      now ≤ invoice.invoiceExpiryUnixSeconds ∧ now ≤ invoice.quoteExpiryUnixSeconds ∧
        ∀ quote, store.quotes[invoice.quoteId]? = some quote →
          invoice.scidAlias = quote.scidAlias) :=
  ⟨returned_accepted_iff hldk hpay proofRootHash proofRootSum,
    submitted_accepted_iff hldk hpay proofRootHash proofRootSum⟩

/-- What paying an invoice returns. -/
def paidFrom (store : RfqQuoteStore) (invoice : Option QuoteBoundInvoice) (now : UInt64) :
    Option QuoteBoundPayment := do
  let invoice ← invoice
  ((payQuoteBoundInvoice invoice now).call store).1.toOption

theorem paidFrom_spec {store : RfqQuoteStore} {bound : Option QuoteBoundInvoice} {now : UInt64}
    (h : (paidFrom store bound now).isSome) : ∃ invoice payment store', bound = some invoice ∧
      (payQuoteBoundInvoice invoice now).call store = (.ok payment, store') := by
  obtain ⟨payment, hpayment⟩ := Option.isSome_iff_exists.mp h
  simp only [paidFrom, Option.bind_eq_bind, Option.bind_eq_some_iff] at hpayment
  obtain ⟨invoice, hinvoice, hpaid⟩ := hpayment
  exact ⟨invoice, payment, _, hinvoice, Prod.ext (toOption_eq_some hpaid) rfl⟩

theorem boundInvoice_expiry {expiry : UInt64} {invoice : QuoteBoundInvoice}
    (h : boundInvoice expiry = some invoice) : invoice.invoiceExpiryUnixSeconds = expiry := by
  obtain ⟨quote, -, hbind⟩ := boundInvoice_spec h
  obtain ⟨-, -, -, -, -, -, -, hexpiry, -⟩ := bindQuoteToInvoice_eq_ok hbind
  exact hexpiry

/-- An invoice that expired at second 150 is paid at second 170, and the final hop refuses the
HTLC. -/
theorem expired_invoice_paid : ∃ invoice payment store, boundInvoice 150 = some invoice ∧
    (payQuoteBoundInvoice invoice 170).call (quoteMachine.run acceptedRun) = (.ok payment, store) ∧
    ¬ FinalHopAccepts acceptingLdk payment.invoice payment.authorization invoice.assetId
      invoice.assetAmount 170 ∧
    ¬ FinalHopAccepts acceptingLdk invoice payment.authorization invoice.assetId
      invoice.assetAmount 170 := by
  have hpaid : (paidFrom (quoteMachine.run acceptedRun) (boundInvoice 150) 170).isSome := by
    decide +kernel
  obtain ⟨invoice, payment, store, hinvoice, hpay⟩ := paidFrom_spec hpaid
  have hlate : ¬ 170 ≤ invoice.invoiceExpiryUnixSeconds := by
    rw [boundInvoice_expiry hinvoice]
    decide
  refine ⟨invoice, payment, store, hinvoice, hpay, ?_, ?_⟩
  · exact mt (returned_accepted_iff acceptingLdk_acceptsConsistentHtlcs hpay _ _).mp hlate
  · exact mt (submitted_accepted_iff acceptingLdk_acceptsConsistentHtlcs hpay _ _).mp
      fun h => hlate h.1

/-- Paid in time, the HTLC is accepted. -/
theorem live_invoice_paid : ∃ invoice payment store, boundInvoice 150 = some invoice ∧
    (payQuoteBoundInvoice invoice 140).call (quoteMachine.run acceptedRun) = (.ok payment, store) ∧
    FinalHopAccepts acceptingLdk payment.invoice payment.authorization invoice.assetId
      invoice.assetAmount 140 := by
  have hpaid : (paidFrom (quoteMachine.run acceptedRun) (boundInvoice 150) 140).isSome := by
    decide +kernel
  obtain ⟨invoice, payment, store, hinvoice, hpay⟩ := paidFrom_spec hpaid
  have htime : 140 ≤ invoice.invoiceExpiryUnixSeconds := by
    rw [boundInvoice_expiry hinvoice]
    decide
  exact ⟨invoice, payment, store, hinvoice, hpay,
    (paid_accepted_iff acceptingLdk_acceptsConsistentHtlcs hpay _ _).1.mpr htime⟩

end TapLdk.AssetHtlcFinalHop
