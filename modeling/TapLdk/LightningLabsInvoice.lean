import Mathlib
import TapLdk.LightningLabsCodec
import TapLdk.RfqQuoteAuthorization

/-! Requests and acceptances built from a bound invoice, and the checks of the two sides:
a request against its invoice, an acceptance against its request. -/
namespace TapLdk.LightningLabsInvoice
open TapLdk.LibraryExcept TapLdk.LibraryMaps TapLdk.LibraryBytes TapLdk.Mssmt TapLdk.Asset
open TapLdk.RfqQuotes TapLdk.RfqQuoteSteps TapLdk.RfqQuoteAuthorization TapLdk.RfqInvoice
open TapLdk.LightningLabsRfq TapLdk.LightningLabsCodec

/-- Whole asset units for one bitcoin. The numerator is a `u128`, and the division by a zero
amount aborts. -/
def assetUnitsPerBtcRate (invoice : QuoteBoundInvoice) :
    LightningLabsResult LightningLabsFixedPoint := do
  let numerator := invoice.assetAmount.toNat * msatPerBtc
  rejectIf (2 ^ 128 ≤ numerator) .amountOverflow
  rejectIf (invoice.btcMsat = 0) (.panicked "attempt to divide by zero")
  let unitsPerBtc := numerator / invoice.btcMsat.toNat
  rejectIf (unitsPerBtc = 0 ∨ numerator % invoice.btcMsat.toNat ≠ 0) .nonIntegralAssetRate
  rejectIf (2 ^ 64 ≤ unitsPerBtc) .amountOverflow
  pure (.fromU64 (UInt64.ofNat unitsPerBtc) 0)

def validateAt (request : LightningLabsRfqRequest) (nowUnixSeconds : UInt64) :
    LightningLabsResult Unit := do
  request.validateShape
  rejectIf (request.expiryUnixSeconds ≤ nowUnixSeconds)
    (.expiredRequest nowUnixSeconds request.expiryUnixSeconds)

/-- The checks of a request on the expiries and the context of its invoice. -/
def validateTerms (request : LightningLabsRfqRequest) (invoice : QuoteBoundInvoice) :
    LightningLabsResult Unit := do
  rejectIf (invoice.quoteExpiryUnixSeconds < request.expiryUnixSeconds ∨
      request.expiryUnixSeconds < invoice.invoiceExpiryUnixSeconds)
    (.invoiceExpiryOutlivesQuote request.expiryUnixSeconds invoice.quoteExpiryUnixSeconds
      invoice.invoiceExpiryUnixSeconds)
  rejectIf (request.oracleMetadata ≠ invoice.invoiceContext.bytes) .invoiceContextMismatch

def validateAgainstInvoice (request : LightningLabsRfqRequest) (envelopePeer : String)
    (invoice : QuoteBoundInvoice) (nowUnixSeconds : UInt64) : LightningLabsResult Unit := do
  validateAt request nowUnixSeconds
  rejectIf (envelopePeer ≠ invoice.peer) (.peerMismatch invoice.peer envelopePeer)
  rejectIf (request.transferType ≠ .payInvoice)
    (.unexpectedTransferType .payInvoice request.transferType)
  rejectIf (request.inAssetId ≠ some Bytes32.ZERO ∨ request.outAssetId ≠ some invoice.assetId)
    (.assetIdMismatch invoice.assetId (request.outAssetId.getD Bytes32.ZERO))
  rejectIf (request.maxInAsset ≠ invoice.btcMsat)
    (.btcAmountMismatch invoice.btcMsat request.maxInAsset)
  match request.minOutAsset with
  | none => pure ()
  | some minOutAsset =>
    rejectIf (invoice.btcMsat < minOutAsset) (.btcAmountMismatch invoice.btcMsat minOutAsset)
  validateTerms request invoice
  let expectedRate ← assetUnitsPerBtcRate invoice
  rejectIf (request.outAssetRateHint ≠ some expectedRate)
    (.assetAmountMismatch invoice.assetAmount 0)

def validateReceiveAgainstInvoice (request : LightningLabsRfqRequest) (envelopePeer : String)
    (invoice : QuoteBoundInvoice) (nowUnixSeconds : UInt64) : LightningLabsResult Unit := do
  validateAt request nowUnixSeconds
  rejectIf (envelopePeer ≠ invoice.peer) (.peerMismatch invoice.peer envelopePeer)
  rejectIf (request.transferType ≠ .receivePayment)
    (.unexpectedTransferType .receivePayment request.transferType)
  rejectIf (request.inAssetId ≠ some invoice.assetId ∨ request.outAssetId ≠ some Bytes32.ZERO)
    (.assetIdMismatch invoice.assetId (request.inAssetId.getD Bytes32.ZERO))
  rejectIf (request.maxInAsset ≠ invoice.assetAmount)
    (.assetAmountMismatch invoice.assetAmount request.maxInAsset)
  match request.minInAsset with
  | none => pure ()
  | some minInAsset =>
    rejectIf (invoice.assetAmount < minInAsset)
      (.assetAmountMismatch invoice.assetAmount minInAsset)
  validateTerms request invoice
  let expectedRate ← assetUnitsPerBtcRate invoice
  rejectIf (request.inAssetRateHint ≠ some expectedRate)
    (.assetAmountMismatch invoice.assetAmount 0)

/-- The sell request at a rate. -/
def sellRequest (invoice : QuoteBoundInvoice) (rfqId : Bytes32) (rate : LightningLabsFixedPoint) :
    LightningLabsRfqRequest where
  version := lightningLabsRfqWireVersion
  id := rfqId
  transferType := .payInvoice
  expiryUnixSeconds := min invoice.invoiceExpiryUnixSeconds invoice.quoteExpiryUnixSeconds
  inAssetId := some Bytes32.ZERO
  inAssetGroupKey := none
  outAssetId := some invoice.assetId
  outAssetGroupKey := none
  maxInAsset := invoice.btcMsat
  inAssetRateHint := none
  outAssetRateHint := some rate
  minInAsset := none
  minOutAsset := some invoice.btcMsat
  oracleMetadata := invoice.invoiceContext.bytes
  assetRateLimit := some rate
  executionPolicy := some .fillOrKill

def lightningLabsSellRequestFromInvoice (invoice : QuoteBoundInvoice) (rfqId : Bytes32) :
    LightningLabsResult LightningLabsRfqRequest := do
  let rate ← assetUnitsPerBtcRate invoice
  pure (sellRequest invoice rfqId rate)

/-- The buy request at a rate. -/
def buyRequest (invoice : QuoteBoundInvoice) (rfqId : Bytes32) (rate : LightningLabsFixedPoint) :
    LightningLabsRfqRequest where
  version := lightningLabsRfqWireVersion
  id := rfqId
  transferType := .receivePayment
  expiryUnixSeconds := min invoice.invoiceExpiryUnixSeconds invoice.quoteExpiryUnixSeconds
  inAssetId := some invoice.assetId
  inAssetGroupKey := none
  outAssetId := some Bytes32.ZERO
  outAssetGroupKey := none
  maxInAsset := invoice.assetAmount
  inAssetRateHint := some rate
  outAssetRateHint := none
  minInAsset := some invoice.assetAmount
  minOutAsset := none
  oracleMetadata := invoice.invoiceContext.bytes
  assetRateLimit := some rate
  executionPolicy := some .fillOrKill

def lightningLabsBuyRequestFromInvoice (invoice : QuoteBoundInvoice) (rfqId : Bytes32) :
    LightningLabsResult LightningLabsRfqRequest := do
  let rate ← assetUnitsPerBtcRate invoice
  pure (buyRequest invoice rfqId rate)

/-- An acceptance at two rates and up to a maximum; the signature is left blank. -/
def acceptAt (invoice : QuoteBoundInvoice) (rfqId : Bytes32)
    (inAssetRate outAssetRate : LightningLabsFixedPoint) (maxInAsset : UInt64) :
    LightningLabsRfqAccept where
  version := lightningLabsRfqWireVersion
  id := rfqId
  expiryUnixSeconds := invoice.quoteExpiryUnixSeconds
  signature := List.replicate 64 0
  inAssetRate
  outAssetRate
  maxInAsset := some maxInAsset

def lightningLabsAcceptFromInvoice (invoice : QuoteBoundInvoice) (rfqId : Bytes32) :
    LightningLabsResult LightningLabsRfqAccept := do
  let rate ← assetUnitsPerBtcRate invoice
  pure (acceptAt invoice rfqId .msatPerBtc rate invoice.btcMsat)

def lightningLabsBuyAcceptFromInvoice (invoice : QuoteBoundInvoice) (rfqId : Bytes32) :
    LightningLabsResult LightningLabsRfqAccept := do
  let rate ← assetUnitsPerBtcRate invoice
  pure (acceptAt invoice rfqId rate .msatPerBtc invoice.assetAmount)

theorem validateForRequest_eq_ok {accept : LightningLabsRfqAccept} {request : LightningLabsRfqRequest}
    {now : UInt64} {u : Unit} : accept.validateForRequest request now = .ok u ↔
      AcceptShape accept ∧ now < accept.expiryUnixSeconds ∧ accept.id = request.id ∧
        accept.expiryUnixSeconds ≤ request.expiryUnixSeconds ∧
        ∀ maxInAsset ∈ accept.maxInAsset, maxInAsset ≤ request.maxInAsset := by
  simp only [LightningLabsRfqAccept.validateForRequest, check_bind_eq_ok, validateShape_accept,
    rejectIf_eq_ok, UInt64.not_le, UInt64.not_lt, ne_eq, not_not]
  cases accept.maxInAsset <;> simp

/-- The rate as a rational number. -/
def LightningLabsFixedPoint.value (rate : LightningLabsFixedPoint) : ℚ :=
  beValue rate.coefficientBe / 10 ^ rate.scale.toNat

/-- The acceptance stays within the limits of the request. -/
structure HonoursLimits (accept : LightningLabsRfqAccept) (request : LightningLabsRfqRequest) :
    Prop where
  payRate : request.transferType = .payInvoice → ∀ limit ∈ request.assetRateLimit,
    LightningLabsFixedPoint.value accept.outAssetRate ≤ LightningLabsFixedPoint.value limit
  receiveRate : request.transferType = .receivePayment → ∀ limit ∈ request.assetRateLimit,
    LightningLabsFixedPoint.value limit ≤ LightningLabsFixedPoint.value accept.inAssetRate
  minInAsset : ∀ maxInAsset ∈ accept.maxInAsset, ∀ minInAsset ∈ request.minInAsset,
    minInAsset ≤ maxInAsset
  fill : request.executionPolicy = some .fillOrKill → ∀ maxInAsset ∈ accept.maxInAsset,
    maxInAsset = request.maxInAsset

/-- An acceptance passes exactly when it is well formed, has the id of the request, has not
expired, does not outlive the request and fills no more than its maximum. The rate limit, the
minimum and the execution policy of the request have no say in it. -/
theorem validateForRequest_checks (accept : LightningLabsRfqAccept)
    (request : LightningLabsRfqRequest) (now : UInt64) :
    (accept.validateForRequest request now = .ok () ↔
      AcceptShape accept ∧ now < accept.expiryUnixSeconds ∧ accept.id = request.id ∧
        accept.expiryUnixSeconds ≤ request.expiryUnixSeconds ∧
        ∀ maxInAsset ∈ accept.maxInAsset, maxInAsset ≤ request.maxInAsset) ∧
    ∀ limit minInAsset policy, accept.validateForRequest
        { request with
          assetRateLimit := limit, minInAsset := minInAsset, executionPolicy := policy } now =
      accept.validateForRequest request now :=
  ⟨validateForRequest_eq_ok, fun _ _ _ => rfl⟩

/-- Leading zeros do not change a coefficient. -/
theorem beValue_dropWhile (bs : Bytes) : beValue (bs.dropWhile (· = 0)) = beValue bs := by
  induction bs with
  | nil => rfl
  | cons b bs ih =>
    by_cases hb : b = 0
    · rw [List.dropWhile_cons_of_pos (by simpa using hb), ih, beValue, hb]
      simp
    · rw [List.dropWhile_cons_of_neg (by simpa using hb)]

theorem value_fromU64 (coefficient : UInt64) (scale : UInt8) :
    LightningLabsFixedPoint.value (.fromU64 coefficient scale) =
      coefficient.toNat / 10 ^ scale.toNat := by
  rw [LightningLabsFixedPoint.value, LightningLabsFixedPoint.fromU64, beValue_dropWhile,
    beValue_u64Bytes]

/-- The sample request with limits below those of the sample acceptance: a lower rate, a
larger minimum and a larger fill. -/
def limitedRequest : LightningLabsRfqRequest :=
  { sampleRequest with
    maxInAsset := 20, minInAsset := some 9, assetRateLimit := some (.fromU64 1 9) }

theorem limits_not_honoured : sampleAccept.validateForRequest limitedRequest 50 = .ok () ∧
    ¬ HonoursLimits sampleAccept limitedRequest := by
  constructor
  · decide +kernel
  · intro h
    have hrate := h.payRate rfl _ rfl
    have hunits : (100 : UInt64).toNat = 100 ∧ (1 : UInt64).toNat = 1 := by decide
    simp only [sampleAccept, LightningLabsFixedPoint.msatPerBtc, value_fromU64,
      lightningLabsMsatPerBtcCoefficient, lightningLabsMsatPerBtcScale, hunits] at hrate
    rw [div_le_div_iff_of_pos_right (by positivity)] at hrate
    norm_num at hrate

end TapLdk.LightningLabsInvoice
