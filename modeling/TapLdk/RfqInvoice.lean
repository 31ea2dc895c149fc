import Mathlib
import TapLdk.LibraryStateful
import TapLdk.RfqQuotes

/-! Quotes answered over peer messages, bound to invoices and paid. -/
namespace TapLdk.RfqInvoice
open TapLdk.LibraryExcept TapLdk.LibraryBytes TapLdk.LibraryStateful TapLdk.Mssmt TapLdk.Asset
open TapLdk.RfqQuotes

structure ProofChunk where
  proofDigest : Bytes32
  chunkIndex : UInt32
  chunkCount : UInt32
  bytes : Bytes
  last : Bool
deriving DecidableEq

inductive AssetPeerMessage where
  | txAssetInputProof (pendingChannelId assetId : Bytes32) (amount : UInt64) (chunk : ProofChunk)
  | txAssetOutputProof (pendingChannelId assetId : Bytes32) (amount : UInt64) (chunk : ProofChunk)
  | assetFundingCreated (pendingChannelId : Bytes32) (fundingBlob : Bytes)
  | assetFundingAccepted (pendingChannelId : Bytes32) (accept : Bool)
      (rejectReason : Option String)
  | rfqRequest (rfqId assetId : Bytes32) (assetAmount : UInt64) (invoiceContext : Bytes32)
  | rfqAccept (rfqId quoteId : Bytes32) (btcMsat expiryUnixSeconds scidAlias : UInt64)
  | rfqReject (rfqId : Bytes32) (rejectReason : String)
  | assetHtlcBlob (assetId : Bytes32) (assetAmount : UInt64) (rfqId invoiceContext : Bytes32)
      (htlcBlob : Bytes)
deriving DecidableEq

def defaultRegtestQuoteTtlSeconds : UInt64 := 120

structure NativeRfqPolicy where
  quoteTtlSeconds : UInt64 := defaultRegtestQuoteTtlSeconds
deriving DecidableEq

structure NativeRfqAccept where
  quote : StoredRfqQuote
  message : AssetPeerMessage
deriving DecidableEq

structure QuoteBoundInvoiceRequest where
  invoice : String
  paymentHash : Bytes32
  peer : String
  assetId : Bytes32
  assetAmount : UInt64
  btcMsat : UInt64
  invoiceContext : Bytes32
  invoiceExpiryUnixSeconds : UInt64
  nowUnixSeconds : UInt64
deriving DecidableEq

structure QuoteBoundInvoice where
  invoice : String
  paymentHash : Bytes32
  quoteId : String
  peer : String
  assetId : Bytes32
  assetAmount : UInt64
  btcMsat : UInt64
  invoiceContext : Bytes32
  scidAlias : UInt64
  quoteExpiryUnixSeconds : UInt64
  invoiceExpiryUnixSeconds : UInt64
deriving DecidableEq

structure QuoteBoundPayment where
  invoice : QuoteBoundInvoice
  authorization : RfqHtlcAuthorization
deriving DecidableEq

inductive RfqInvoiceError where
  | quote (error : RfqQuoteError)
  | expectedRfqRequest
  | invalidQuoteId
  | expiryOverflow
  | emptyInvoice
  | quoteNotAccepted (quoteId : String) (status : RfqQuoteStatus)
  | quoteExpired (quoteId : String) (nowUnixSeconds expiryUnixSeconds : UInt64)
  | invoiceOutlivesQuote (invoiceExpiryUnixSeconds quoteExpiryUnixSeconds : UInt64)
  | peerMismatch (expected actual : String)
  | assetIdMismatch (expected actual : Bytes32)
  | assetAmountMismatch (expected actual : UInt64)
  | btcAmountMismatch (expected actual : UInt64)
  | invoiceContextMismatch
deriving DecidableEq

/-- A method of the quote store, which may leave changes behind when it fails. -/
def quoteCall {α : Type} (m : RfqQuoteStore → RfqResult α) :
    Stateful RfqQuoteStore RfqInvoiceError α :=
  .onPart id (fun store _ => store) .quote m

def receiveNativeRfqRequest (peer : String) (message : AssetPeerMessage) (nowUnixSeconds : UInt64)
    (policy : NativeRfqPolicy) : Stateful RfqQuoteStore RfqInvoiceError NativeRfqAccept :=
  match message with
  | .rfqRequest rfqId assetId assetAmount invoiceContext => do
    let expiryUnixSeconds ←
      .lift (okOr (checkedAdd nowUnixSeconds policy.quoteTtlSeconds) .expiryOverflow)
    let quote ← quoteCall (·.requestQuote ⟨peer, assetId, assetAmount, expiryUnixSeconds,
      invoiceContext, toHex rfqId, nowUnixSeconds⟩)
    let quote ← quoteCall (·.acceptQuote quote.quoteId nowUnixSeconds)
    let quoteId ← .lift ((bytes32FromStr quote.quoteId).mapError fun _ => .invalidQuoteId)
    pure ⟨quote, .rfqAccept rfqId quoteId quote.btcMsat quote.expiryUnixSeconds quote.scidAlias⟩
  | _ => .lift (.error .expectedRfqRequest)

def bindQuoteToInvoice (quote : StoredRfqQuote) (request : QuoteBoundInvoiceRequest) :
    Except RfqInvoiceError QuoteBoundInvoice := do
  rejectIf (isBlank request.invoice) .emptyInvoice
  rejectIf (quote.status ≠ .accepted) (.quoteNotAccepted quote.quoteId quote.status)
  rejectIf (quote.expiryUnixSeconds < request.nowUnixSeconds)
    (.quoteExpired quote.quoteId request.nowUnixSeconds quote.expiryUnixSeconds)
  rejectIf (quote.expiryUnixSeconds < request.invoiceExpiryUnixSeconds)
    (.invoiceOutlivesQuote request.invoiceExpiryUnixSeconds quote.expiryUnixSeconds)
  rejectIf (request.peer ≠ quote.peer) (.peerMismatch quote.peer request.peer)
  rejectIf (request.assetId ≠ quote.assetId) (.assetIdMismatch quote.assetId request.assetId)
  rejectIf (request.assetAmount ≠ quote.assetAmount)
    (.assetAmountMismatch quote.assetAmount request.assetAmount)
  rejectIf (request.btcMsat ≠ quote.btcMsat) (.btcAmountMismatch quote.btcMsat request.btcMsat)
  rejectIf (request.invoiceContext ≠ quote.invoiceContext) .invoiceContextMismatch
  pure
    { invoice := request.invoice
      paymentHash := request.paymentHash
      quoteId := quote.quoteId
      peer := quote.peer
      assetId := quote.assetId
      assetAmount := quote.assetAmount
      btcMsat := quote.btcMsat
      invoiceContext := quote.invoiceContext
      scidAlias := quote.scidAlias
      quoteExpiryUnixSeconds := quote.expiryUnixSeconds
      invoiceExpiryUnixSeconds := request.invoiceExpiryUnixSeconds }

/-- The request that binds an invoice again, at the time of its payment. -/
def QuoteBoundInvoice.rebindRequest (invoice : QuoteBoundInvoice) (nowUnixSeconds : UInt64) :
    QuoteBoundInvoiceRequest :=
  ⟨invoice.invoice, invoice.paymentHash, invoice.peer, invoice.assetId, invoice.assetAmount,
    invoice.btcMsat, invoice.invoiceContext, invoice.invoiceExpiryUnixSeconds, nowUnixSeconds⟩

def payQuoteBoundInvoice (invoice : QuoteBoundInvoice) (nowUnixSeconds : UInt64) :
    Stateful RfqQuoteStore RfqInvoiceError QuoteBoundPayment := do
  let quote ← quoteCall fun store => (store.inspectQuote invoice.quoteId, store)
  let rebound ← .lift (bindQuoteToInvoice quote (invoice.rebindRequest nowUnixSeconds))
  let authorization ← quoteCall (·.authorizeAssetHtlc invoice.quoteId nowUnixSeconds)
  pure ⟨rebound, authorization⟩

end TapLdk.RfqInvoice
