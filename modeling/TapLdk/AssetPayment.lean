import Mathlib
import TapLdk.AssetHtlc
import TapLdk.Commitment

/-! Asset payments: a quote is requested, bound and paid, the channel is updated by the
amount, and the HTLC and the payment are recorded. -/
namespace TapLdk.AssetPayment
open TapLdk.LibraryExcept TapLdk.LibraryMaps TapLdk.LibraryBytes TapLdk.LibrarySha256
open TapLdk.LibraryStateful TapLdk.Mssmt TapLdk.Asset TapLdk.LdkFork TapLdk.RfqQuotes
open TapLdk.RfqInvoice TapLdk.ChannelFunding TapLdk.Commitment TapLdk.AssetHtlc

def nativeAssetPaymentStoreSchemaVersion : UInt32 := 1

inductive NativeAssetPaymentStatus where
  | settled
  | failed
deriving DecidableEq

structure NativeAssetPayment where
  paymentId : String
  channelId : String
  senderPeer : String
  receiverPeer : String
  assetId : Bytes32
  assetAmount : UInt64
  quoteId : String
  btcMsat : UInt64
  paymentHash : Bytes32
  htlcId : Option String
  commitmentNumber : Option UInt64
  status : NativeAssetPaymentStatus
  failureReason : Option String
  senderBalanceAfter : UInt64
  receiverBalanceAfter : UInt64
  totalBalance : UInt64
deriving DecidableEq

structure NativeAssetPaymentStoreMetadata where
  implementation : String := "tap-ldk experimental native asset payment store"
  schema : String := "bounded-regtest-native-asset-payment-v1"
deriving DecidableEq

structure NativeAssetPaymentStore where
  version : UInt32
  metadata : NativeAssetPaymentStoreMetadata
  payments : BTreeMap String NativeAssetPayment

structure NativeAssetPaymentRequest where
  channelId : String
  senderPeer : String
  receiverPeer : String
  assetId : Bytes32
  assetAmount : UInt64
  rfqId : Bytes32
  invoiceContext : Bytes32
  paymentHash : Bytes32
  assetNonce : Bytes32
  nowUnixSeconds : UInt64
deriving DecidableEq

inductive NativeAssetPaymentFailureMode where
  | wrongQuote
  | wrongInvoice
  | wrongMetadata
deriving DecidableEq

inductive NativeAssetPaymentError where
  | rfq (error : RfqInvoiceError)
  | commitment (error : AssetCommitmentError)
  | htlc (error : AssetHtlcError)
  | unsupportedVersion (version : UInt32)
  | duplicatePayment (paymentId : String)
  | unknownPayment (paymentId : String)
  | emptyPeer
  | invalidAmount
  | timestampOverflow
  | missingAssetHtlc
  | assetIdMismatch (expected actual : Bytes32)
  | balanceOverflow
  | balanceNotConserved (senderBalance receiverBalance totalBalance : UInt64)
  | storageInvariant (message : String)
deriving DecidableEq

structure PreparedPayment where
  invoice : QuoteBoundInvoice
  authorization : RfqHtlcAuthorization
  records : AssetHtlcCustomRecords
deriving DecidableEq

namespace NativeAssetPaymentStore

def default : NativeAssetPaymentStore := ⟨nativeAssetPaymentStoreSchemaVersion, {}, ∅⟩

def validateStatus (paymentId : String) (payment : NativeAssetPayment) :
    Except NativeAssetPaymentError Unit :=
  match payment.status with
  | .settled =>
    rejectIf (payment.failureReason.isSome ∨ payment.htlcId.isNone ∨
      payment.commitmentNumber.isNone)
      (.storageInvariant s!"settled payment {paymentId} is missing durable settlement fields")
  | .failed => do
    rejectIf (payment.failureReason.all (· == ""))
      (.storageInvariant s!"failed payment {paymentId} has no failure reason")
    rejectIf (payment.htlcId.isSome ∨ payment.commitmentNumber.isSome)
      (.storageInvariant s!"failed payment {paymentId} advanced durable settlement fields")

def validateEntry (entry : String × NativeAssetPayment) : Except NativeAssetPaymentError Unit := do
  let (paymentId, payment) := entry
  rejectIf (paymentId ≠ payment.paymentId) (.storageInvariant
    s!"payment map key {paymentId} does not match payment_id {payment.paymentId}")
  rejectIf (isBlank payment.senderPeer ∨ isBlank payment.receiverPeer) .emptyPeer
  rejectIf (payment.assetAmount = 0 ∨ payment.btcMsat = 0) .invalidAmount
  let sum ← okOr (checkedAdd payment.senderBalanceAfter payment.receiverBalanceAfter)
    .balanceOverflow
  rejectIf (sum ≠ payment.totalBalance) (.balanceNotConserved payment.senderBalanceAfter
    payment.receiverBalanceAfter payment.totalBalance)
  validateStatus paymentId payment

def validate (store : NativeAssetPaymentStore) : Except NativeAssetPaymentError Unit := do
  rejectIf (store.version ≠ nativeAssetPaymentStoreSchemaVersion)
    (.unsupportedVersion store.version)
  store.payments.toList.forM validateEntry

def recordPayment (store : NativeAssetPaymentStore) (payment : NativeAssetPayment) :
    Except NativeAssetPaymentError (NativeAssetPayment × NativeAssetPaymentStore) := do
  rejectIf (store.payments[payment.paymentId]?).isSome (.duplicatePayment payment.paymentId)
  let next := { store with payments := store.payments.insert payment.paymentId payment }
  next.validate
  pure (payment, next)

def inspectPayment (store : NativeAssetPaymentStore) (paymentId : String) :
    Except NativeAssetPaymentError NativeAssetPayment :=
  okOr store.payments[paymentId]? (.unknownPayment paymentId)

end NativeAssetPaymentStore

def validatePaymentRequest (request : NativeAssetPaymentRequest) :
    Except NativeAssetPaymentError Unit := do
  rejectIf (isBlank request.senderPeer ∨ isBlank request.receiverPeer) .emptyPeer
  rejectIf (request.assetAmount = 0) .invalidAmount

def paymentIdOf (channelId quoteId : String) (paymentHash : Bytes32) : String :=
  toHex (sha256 (utf8 "tap-ldk:native-asset-payment-id:v1" ++ lengthPrefixed channelId ++
    lengthPrefixed quoteId ++ paymentHash.bytes))

namespace NativeAssetPaymentRequest

/-- A time some seconds after the request. -/
def secondsAfter (request : NativeAssetPaymentRequest) (seconds : UInt64) :
    Except NativeAssetPaymentError UInt64 :=
  okOr (checkedAdd request.nowUnixSeconds seconds) .timestampOverflow

def rfqRequest (request : NativeAssetPaymentRequest) : AssetPeerMessage :=
  .rfqRequest request.rfqId request.assetId request.assetAmount request.invoiceContext

def invoiceText (request : NativeAssetPaymentRequest) : String :=
  s!"lnbcrt1tapldk{String.ofList ((toHex request.paymentHash).toList.take 12)}"

def bindRequest (request : NativeAssetPaymentRequest) (btcMsat : UInt64)
    (invoiceExpiryUnixSeconds bindTime : UInt64) : QuoteBoundInvoiceRequest :=
  ⟨request.invoiceText, request.paymentHash, request.senderPeer, request.assetId,
    request.assetAmount, btcMsat, request.invoiceContext, invoiceExpiryUnixSeconds, bindTime⟩

end NativeAssetPaymentRequest

def repeated32 (byte : UInt8) : Bytes32 := ⟨List.replicate 32 byte, List.length_replicate ..⟩

/-- The invoice that is paid: with a wrong quote where that failure is asked for. -/
def invoiceToPay (failureMode : Option NativeAssetPaymentFailureMode)
    (invoice : QuoteBoundInvoice) : QuoteBoundInvoice :=
  match failureMode with
  | some .wrongQuote => { invoice with quoteId := toHex (repeated32 99) }
  | _ => invoice

/-- The invoice and the records that the final hop sees. -/
def validationInput (failureMode : Option NativeAssetPaymentFailureMode)
    (invoice : QuoteBoundInvoice) (records : AssetHtlcCustomRecords) :
    Except NativeAssetPaymentError (QuoteBoundInvoice × AssetHtlcCustomRecords) :=
  match failureMode with
  | some .wrongInvoice => .ok ({ invoice with paymentHash := repeated32 98 }, records)
  | some .wrongMetadata => do
    let assetAmount ← okOr (checkedAdd records.assetAmount 1) .balanceOverflow
    pure (invoice, { records with assetAmount })
  | some .wrongQuote | none => .ok (invoice, records)

def requireAssetRecords : AssetHtlcDecode → Except NativeAssetPaymentError AssetHtlcCustomRecords
  | .asset records => .ok records
  | .btcOnly => .error .missingAssetHtlc

/-- The records of a paid quote, as they arrive at the final hop. -/
def prepareRecords (ldk : Ldk) (failureMode : Option NativeAssetPaymentFailureMode)
    (payment : QuoteBoundPayment) (proofRootHash : Bytes32)
    (proofRootSum validateTime : UInt64) :
    Except NativeAssetPaymentError AssetHtlcCustomRecords := do
  let records ← (AssetHtlcCustomRecords.fromAuthorizationWithProofRoot ldk payment.invoice
    payment.authorization proofRootHash proofRootSum).mapError .htlc
  let (validationInvoice, records) ← validationInput failureMode payment.invoice records
  let encoded ← records.encodeTlv.mapError .htlc
  let decoded ← (decodeCustomRecords encoded).mapError .htlc
  let decoded ← requireAssetRecords decoded
  let _ ← (validateFinalHopAgainstProofRoot ldk decoded validationInvoice payment.authorization
    proofRootHash proofRootSum validateTime).mapError .htlc
  pure decoded

def rfqCall {α : Type} (x : Stateful RfqQuoteStore RfqInvoiceError α) :
    Stateful RfqQuoteStore NativeAssetPaymentError α :=
  .onPart id (fun store _ => store) .rfq x.call

def preparePayment (ldk : Ldk) (request : NativeAssetPaymentRequest)
    (failureMode : Option NativeAssetPaymentFailureMode) (proofRootHash : Bytes32)
    (proofRootSum : UInt64) :
    Stateful RfqQuoteStore NativeAssetPaymentError PreparedPayment := do
  .lift (validatePaymentRequest request)
  let accept ← rfqCall (receiveNativeRfqRequest request.senderPeer request.rfqRequest
    request.nowUnixSeconds {})
  let invoiceExpiryUnixSeconds ← .lift (request.secondsAfter 60)
  let bindTime ← .lift (request.secondsAfter 1)
  let payTime ← .lift (request.secondsAfter 2)
  let validateTime ← .lift (request.secondsAfter 3)
  let invoice ← .lift ((bindQuoteToInvoice accept.quote (request.bindRequest accept.quote.btcMsat
    invoiceExpiryUnixSeconds bindTime)).mapError .rfq)
  let payment ← rfqCall (payQuoteBoundInvoice (invoiceToPay failureMode invoice) payTime)
  let records ← .lift (prepareRecords ldk failureMode payment proofRootHash proofRootSum
    validateTime)
  pure ⟨payment.invoice, payment.authorization, records⟩

/-- The stores that a payment writes. -/
structure PaymentStores where
  commitments : AssetCommitmentStore
  htlcs : AssetHtlcStore
  payments : NativeAssetPaymentStore
  quotes : RfqQuoteStore

/-- A payment, from the steps that settled it. -/
def settledPayment (request : NativeAssetPaymentRequest) (prepared : PreparedPayment)
    (htlcId : String) (snapshot : AssetCommitmentSnapshot) : NativeAssetPayment :=
  { paymentId := paymentIdOf request.channelId prepared.invoice.quoteId
      prepared.records.paymentHash
    channelId := request.channelId
    senderPeer := request.senderPeer
    receiverPeer := request.receiverPeer
    assetId := prepared.records.assetId
    assetAmount := prepared.records.assetAmount
    quoteId := prepared.invoice.quoteId
    btcMsat := prepared.records.btcMsat
    paymentHash := prepared.records.paymentHash
    htlcId := some htlcId
    commitmentNumber := some snapshot.commitmentNumber
    status := .settled
    failureReason := none
    senderBalanceAfter := snapshot.localBalance
    receiverBalanceAfter := snapshot.remoteBalance
    totalBalance := snapshot.totalAmount }

def onCommitments {α : Type} (m : AssetCommitmentStore →
    Except AssetCommitmentError (α × AssetCommitmentStore)) :
    Stateful PaymentStores NativeAssetPaymentError α :=
  .transact (·.commitments) (fun store s => { s with commitments := store }) .commitment m

def onHtlcs {α : Type} (m : AssetHtlcStore → Except AssetHtlcError (α × AssetHtlcStore)) :
    Stateful PaymentStores NativeAssetPaymentError α :=
  .transact (·.htlcs) (fun store s => { s with htlcs := store }) .htlc m

def onPayments {α : Type} (m : NativeAssetPaymentStore →
    Except NativeAssetPaymentError (α × NativeAssetPaymentStore)) :
    Stateful PaymentStores NativeAssetPaymentError α :=
  .transact (·.payments) (fun store s => { s with payments := store }) id m

def onQuotes {α : Type} (x : Stateful RfqQuoteStore NativeAssetPaymentError α) :
    Stateful PaymentStores NativeAssetPaymentError α :=
  .onPart (·.quotes) (fun store s => { s with quotes := store }) id x.call

def readChannel (channelId : String) :
    Stateful PaymentStores NativeAssetPaymentError AssetCommitmentChannelState :=
  onCommitments fun store => (store.channelState channelId).map fun state => (state, store)

/-- The update of a channel by the validated amount. -/
def settlementUpdate (ldk : Ldk) (state : AssetCommitmentChannelState)
    (request : NativeAssetPaymentRequest) (prepared : PreparedPayment) :
    Except NativeAssetPaymentError (AssetHtlcValidation × AssetCommitmentUpdateRequest) := do
  rejectIf (state.assetId ≠ request.assetId) (.assetIdMismatch state.assetId request.assetId)
  let validateTime ← request.secondsAfter 4
  let validation ← (validateFinalHopAgainstProofRoot ldk prepared.records prepared.invoice
    prepared.authorization state.monitorBlob.proofRootHash state.monitorBlob.proofRootSum
    validateTime).mapError .htlc
  let update ← (state.buildCommitmentUpdate validation.assetAmount 0
    request.assetNonce).mapError .commitment
  pure (validation, update)

def settlePreparedPayment (ldk : Ldk) (request : NativeAssetPaymentRequest)
    (prepared : PreparedPayment) :
    Stateful PaymentStores NativeAssetPaymentError NativeAssetPayment := do
  let state ← readChannel request.channelId
  let (validation, update) ← .lift (settlementUpdate ldk state request prepared)
  let snapshot ← onCommitments (·.applyUpdate ldk update)
  let offered ← onHtlcs (·.addHtlc request.channelId validation)
  let settled ← onHtlcs (·.settleHtlc offered.htlcId)
  onHtlcs fun store => store.validate.map fun _ => ((), store)
  onPayments (·.recordPayment (settledPayment request prepared settled.htlcId snapshot))

def sendNativeAssetPayment (ldk : Ldk) (request : NativeAssetPaymentRequest) :
    Stateful PaymentStores NativeAssetPaymentError NativeAssetPayment := do
  let state ← readChannel request.channelId
  let prepared ← onQuotes (preparePayment ldk request none state.monitorBlob.proofRootHash
    state.monitorBlob.proofRootSum)
  settlePreparedPayment ldk request prepared

end TapLdk.AssetPayment
