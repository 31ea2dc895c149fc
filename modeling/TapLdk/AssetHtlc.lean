import Mathlib
import TapLdk.LdkFork
import TapLdk.RfqInvoice
import TapLdk.Tlv

/-! Asset HTLCs: the custom records that carry an asset over a hop, the checks of the final
hop, and the store of HTLCs on their way from offered to settled or failed. -/
namespace TapLdk.AssetHtlc
open TapLdk.LibraryExcept TapLdk.LibraryMaps TapLdk.LibraryBytes TapLdk.LibrarySha256 TapLdk.Mssmt
open TapLdk.Asset TapLdk.Tlv TapLdk.LdkFork TapLdk.RfqQuotes TapLdk.RfqInvoice

def assetHtlcRecordBase : UInt64 := 760000
def recordAssetId : UInt64 := assetHtlcRecordBase + 1
def recordAssetAmount : UInt64 := assetHtlcRecordBase + 3
def recordQuoteId : UInt64 := assetHtlcRecordBase + 5
def recordInvoiceContext : UInt64 := assetHtlcRecordBase + 7
def recordBtcMsat : UInt64 := assetHtlcRecordBase + 9
def recordScidAlias : UInt64 := assetHtlcRecordBase + 11
def recordPaymentHash : UInt64 := assetHtlcRecordBase + 13
def recordFinalHopDigest : UInt64 := assetHtlcRecordBase + 15
def recordProtocolVersion : UInt64 := assetHtlcRecordBase + 17
def recordProofRootHash : UInt64 := assetHtlcRecordBase + 19
def recordProofRootSum : UInt64 := assetHtlcRecordBase + 21

def assetRecordTypes : List UInt64 :=
  [recordAssetId, recordAssetAmount, recordQuoteId, recordInvoiceContext, recordBtcMsat,
    recordScidAlias, recordPaymentHash, recordFinalHopDigest, recordProtocolVersion,
    recordProofRootHash, recordProofRootSum]

structure AssetHtlcCustomRecords where
  protocolVersion : UInt16
  assetId : Bytes32
  assetAmount : UInt64
  proofRootHash : Bytes32
  proofRootSum : UInt64
  quoteId : Bytes32
  invoiceContext : Bytes32
  btcMsat : UInt64
  scidAlias : UInt64
  paymentHash : Bytes32
  finalHopDigest : Bytes32
deriving DecidableEq

structure AssetHtlcValidation where
  assetId : Bytes32
  assetAmount : UInt64
  quoteId : Bytes32
  btcMsat : UInt64
  paymentHash : Bytes32
  settlementAllowed : Bool
deriving DecidableEq

inductive AssetHtlcStatus where
  | offered
  | settled
  | failed
deriving DecidableEq

structure StoredAssetHtlc where
  htlcId : String
  channelId : String
  assetId : Bytes32
  assetAmount : UInt64
  quoteId : Bytes32
  btcMsat : UInt64
  paymentHash : Bytes32
  status : AssetHtlcStatus
deriving DecidableEq

structure AssetHtlcStore where
  htlcs : BTreeMap String StoredAssetHtlc

inductive AssetHtlcDecode where
  | btcOnly
  | asset (records : AssetHtlcCustomRecords)
deriving DecidableEq

inductive AssetHtlcError where
  | tlv (error : TlvError)
  | ldkHtlcMetadata (error : LdkError)
  | invalidQuoteId
  | invoiceAuthorizationMismatch
  | missingRecord (typeId : UInt64)
  | unknownAssetRecord (typeId : UInt64)
  | invalidFieldLength (field : String) (expected actual : ℕ)
  | duplicateHtlc (htlcId : String)
  | unknownHtlc (htlcId : String)
  | terminalHtlc (htlcId : String) (status : AssetHtlcStatus)
  | staleHtlc
  | quoteMismatch
  | assetIdMismatch
  | assetAmountMismatch
  | btcAmountMismatch
  | invoiceContextMismatch
  | scidAliasMismatch
  | paymentHashMismatch
  | finalHopDigestMismatch
  | proofRootMismatch (expectedHash actualHash : Bytes32) (expectedSum actualSum : UInt64)
  | storageInvariant (message : String)
deriving DecidableEq

def finalHopDigest (protocolVersion : UInt16) (assetId : Bytes32) (assetAmount : UInt64)
    (proofRootHash : Bytes32) (proofRootSum : UInt64) (quoteId paymentHash : Bytes32) : Bytes32 :=
  sha256 (utf8 "openagents:taproot-asset-htlc-final-hop:v1" ++ beBytes 2 protocolVersion.toNat ++
    assetId.bytes ++ u64Bytes assetAmount ++ proofRootHash.bytes ++ u64Bytes proofRootSum ++
    quoteId.bytes ++ paymentHash.bytes)

def htlcIdOf (channelId : String) (validation : AssetHtlcValidation) : String :=
  toHex (sha256 (utf8 "tap-ldk:asset-htlc-id:v1" ++ beBytes 8 (utf8 channelId).length ++
    utf8 channelId ++ validation.assetId.bytes ++ u64Bytes validation.assetAmount ++
    validation.quoteId.bytes ++ u64Bytes validation.btcMsat ++ validation.paymentHash.bytes))

def parseQuoteId (quoteId : String) : Except AssetHtlcError Bytes32 :=
  (bytes32FromStr quoteId).mapError fun _ => .invalidQuoteId

namespace AssetHtlcCustomRecords

def fromAuthorizationWithProofRoot (ldk : Ldk) (invoice : QuoteBoundInvoice)
    (authorization : RfqHtlcAuthorization) (proofRootHash : Bytes32) (proofRootSum : UInt64) :
    Except AssetHtlcError AssetHtlcCustomRecords := do
  let quoteId ← parseQuoteId authorization.quoteId
  rejectIf (invoice.quoteId ≠ authorization.quoteId ∨ invoice.assetId ≠ authorization.assetId ∨
    invoice.assetAmount ≠ authorization.assetAmount ∨ invoice.btcMsat ≠ authorization.btcMsat ∨
    invoice.invoiceContext ≠ authorization.invoiceContext ∨
    invoice.scidAlias ≠ authorization.scidAlias) .invoiceAuthorizationMismatch
  pure
    { protocolVersion := ldk.supportedProtocolVersion
      assetId := authorization.assetId
      assetAmount := authorization.assetAmount
      proofRootHash
      proofRootSum
      quoteId
      invoiceContext := authorization.invoiceContext
      btcMsat := authorization.btcMsat
      scidAlias := authorization.scidAlias
      paymentHash := invoice.paymentHash
      finalHopDigest := AssetHtlc.finalHopDigest ldk.supportedProtocolVersion
        authorization.assetId authorization.assetAmount proofRootHash proofRootSum quoteId
        invoice.paymentHash }

def toCustomRecords (records : AssetHtlcCustomRecords) : BTreeMap UInt64 Bytes :=
  insertAll ∅
    [(recordProtocolVersion, beBytes 2 records.protocolVersion.toNat),
      (recordAssetId, records.assetId.bytes),
      (recordAssetAmount, u64Bytes records.assetAmount),
      (recordProofRootHash, records.proofRootHash.bytes),
      (recordProofRootSum, u64Bytes records.proofRootSum),
      (recordQuoteId, records.quoteId.bytes),
      (recordInvoiceContext, records.invoiceContext.bytes),
      (recordBtcMsat, u64Bytes records.btcMsat),
      (recordScidAlias, u64Bytes records.scidAlias),
      (recordPaymentHash, records.paymentHash.bytes),
      (recordFinalHopDigest, records.finalHopDigest.bytes)]

end AssetHtlcCustomRecords

def encodeCustomRecords (records : BTreeMap UInt64 Bytes) : Except AssetHtlcError Bytes :=
  (encodeStream (records.toList.map fun e => ⟨e.1, e.2⟩)).mapError .tlv

def required (records : BTreeMap UInt64 Bytes) (typeId : UInt64) : Except AssetHtlcError Bytes :=
  okOr records[typeId]? (.missingRecord typeId)

def parseBytes32 (bytes : Bytes) : Except AssetHtlcError Bytes32 :=
  okOr (FixedBytes.ofBytes 32 bytes) (.invalidFieldLength "bytes32" 32 bytes.length)

def parseU64 (bytes : Bytes) (field : String) : Except AssetHtlcError UInt64 := do
  rejectIf (bytes.length ≠ 8) (.invalidFieldLength field 8 bytes.length)
  pure (UInt64.ofNat (beValue bytes))

def parseU16 (bytes : Bytes) : Except AssetHtlcError UInt16 := do
  rejectIf (bytes.length ≠ 2) (.invalidFieldLength "protocol_version" 2 bytes.length)
  pure (UInt16.ofNat (beValue bytes))

def rejectUnknownAssetRecord (entry : UInt64 × Bytes) : Except AssetHtlcError Unit :=
  rejectIf (assetHtlcRecordBase ≤ entry.1 ∧ entry.1 < assetHtlcRecordBase + 128 ∧
    entry.1 ∉ assetRecordTypes) (.unknownAssetRecord entry.1)

def decodeAssetRecords (records : BTreeMap UInt64 Bytes) :
    Except AssetHtlcError AssetHtlcDecode := do
  records.toList.forM rejectUnknownAssetRecord
  let protocolVersion ← required records recordProtocolVersion >>= parseU16
  let assetId ← required records recordAssetId >>= parseBytes32
  let assetAmount ← required records recordAssetAmount >>= (parseU64 · "asset_amount")
  let proofRootHash ← required records recordProofRootHash >>= parseBytes32
  let proofRootSum ← required records recordProofRootSum >>= (parseU64 · "proof_root_sum")
  let quoteId ← required records recordQuoteId >>= parseBytes32
  let invoiceContext ← required records recordInvoiceContext >>= parseBytes32
  let btcMsat ← required records recordBtcMsat >>= (parseU64 · "btc_msat")
  let scidAlias ← required records recordScidAlias >>= (parseU64 · "scid_alias")
  let paymentHash ← required records recordPaymentHash >>= parseBytes32
  let finalHopDigest ← required records recordFinalHopDigest >>= parseBytes32
  pure (.asset ⟨protocolVersion, assetId, assetAmount, proofRootHash, proofRootSum, quoteId,
    invoiceContext, btcMsat, scidAlias, paymentHash, finalHopDigest⟩)

def decodeCustomRecordMap (records : BTreeMap UInt64 Bytes) :
    Except AssetHtlcError AssetHtlcDecode :=
  if records.toList.any fun e => assetRecordTypes.contains e.1 then decodeAssetRecords records
  else .ok .btcOnly

def decodeCustomRecords (bytes : Bytes) : Except AssetHtlcError AssetHtlcDecode := do
  let records ← (decodeStream bytes).mapError .tlv
  decodeCustomRecordMap (insertAll ∅ (records.map fun record => (record.typeId, record.value)))

namespace AssetHtlcCustomRecords

def encodeTlv (records : AssetHtlcCustomRecords) : Except AssetHtlcError Bytes :=
  encodeCustomRecords records.toCustomRecords

def toLdkMetadata (ldk : Ldk) (records : AssetHtlcCustomRecords) :
    Except AssetHtlcError ldk.HtlcMetadata := do
  let metadata ← (ldk.newHtlcMetadata records.assetId records.assetAmount records.proofRootHash
    records.proofRootSum records.quoteId records.paymentHash).mapError .ldkHtlcMetadata
  let metadata := ldk.setHtlcFields metadata records.protocolVersion records.finalHopDigest
  (ldk.validateHtlcIntegrity metadata).mapError .ldkHtlcMetadata
  pure metadata

/-- The digest that the records must carry. -/
def expectedDigest (records : AssetHtlcCustomRecords) : Bytes32 :=
  AssetHtlc.finalHopDigest records.protocolVersion records.assetId records.assetAmount
    records.proofRootHash records.proofRootSum records.quoteId records.paymentHash

end AssetHtlcCustomRecords

def validateFinalHop (ldk : Ldk) (records : AssetHtlcCustomRecords) (invoice : QuoteBoundInvoice)
    (authorization : RfqHtlcAuthorization) (nowUnixSeconds : UInt64) :
    Except AssetHtlcError AssetHtlcValidation := do
  rejectIf (invoice.invoiceExpiryUnixSeconds < nowUnixSeconds ∨
    invoice.quoteExpiryUnixSeconds < nowUnixSeconds) .staleHtlc
  let quoteId ← parseQuoteId authorization.quoteId
  rejectIf (records.quoteId ≠ quoteId ∨ invoice.quoteId ≠ authorization.quoteId) .quoteMismatch
  rejectIf (records.assetId ≠ authorization.assetId ∨ records.assetId ≠ invoice.assetId)
    .assetIdMismatch
  rejectIf (records.assetAmount ≠ authorization.assetAmount ∨
    records.assetAmount ≠ invoice.assetAmount) .assetAmountMismatch
  rejectIf (records.btcMsat ≠ authorization.btcMsat ∨ records.btcMsat ≠ invoice.btcMsat)
    .btcAmountMismatch
  rejectIf (records.invoiceContext ≠ authorization.invoiceContext ∨
    records.invoiceContext ≠ invoice.invoiceContext) .invoiceContextMismatch
  rejectIf (records.scidAlias ≠ authorization.scidAlias ∨ records.scidAlias ≠ invoice.scidAlias)
    .scidAliasMismatch
  rejectIf (records.paymentHash ≠ invoice.paymentHash) .paymentHashMismatch
  rejectIf (records.finalHopDigest ≠ records.expectedDigest) .finalHopDigestMismatch
  let ldkMetadata ← records.toLdkMetadata ldk
  (ldk.validateAssetHtlcFinalHop (some ldkMetadata)
    { assetId := authorization.assetId
      assetAmount := authorization.assetAmount
      proofRootHash := records.proofRootHash
      proofRootSum := records.proofRootSum
      quoteId
      paymentHash := invoice.paymentHash
      quoteAccepted := true
      nowUnixSeconds
      quoteExpiryUnixSeconds := invoice.quoteExpiryUnixSeconds }).mapError .ldkHtlcMetadata
  pure ⟨records.assetId, records.assetAmount, records.quoteId, records.btcMsat,
    records.paymentHash, true⟩

def validateFinalHopAgainstProofRoot (ldk : Ldk) (records : AssetHtlcCustomRecords)
    (invoice : QuoteBoundInvoice) (authorization : RfqHtlcAuthorization)
    (expectedProofRootHash : Bytes32) (expectedProofRootSum nowUnixSeconds : UInt64) :
    Except AssetHtlcError AssetHtlcValidation := do
  let validation ← validateFinalHop ldk records invoice authorization nowUnixSeconds
  rejectIf (records.proofRootHash ≠ expectedProofRootHash ∨
    records.proofRootSum ≠ expectedProofRootSum)
    (.proofRootMismatch expectedProofRootHash records.proofRootHash expectedProofRootSum
      records.proofRootSum)
  pure validation

namespace AssetHtlcStore

def default : AssetHtlcStore := ⟨∅⟩

def addHtlc (store : AssetHtlcStore) (channelId : String) (validation : AssetHtlcValidation) :
    Except AssetHtlcError (StoredAssetHtlc × AssetHtlcStore) := do
  let htlcId := htlcIdOf channelId validation
  rejectIf (store.htlcs[htlcId]?).isSome (.duplicateHtlc htlcId)
  let htlc : StoredAssetHtlc := ⟨htlcId, channelId, validation.assetId, validation.assetAmount,
    validation.quoteId, validation.btcMsat, validation.paymentHash, .offered⟩
  pure (htlc, { store with htlcs := store.htlcs.insert htlcId htlc })

def transition (store : AssetHtlcStore) (htlcId : String) (status : AssetHtlcStatus) :
    Except AssetHtlcError (StoredAssetHtlc × AssetHtlcStore) := do
  let htlc ← okOr store.htlcs[htlcId]? (.unknownHtlc htlcId)
  rejectIf (htlc.status ≠ .offered) (.terminalHtlc htlcId htlc.status)
  let htlc := { htlc with status }
  pure (htlc, { store with htlcs := store.htlcs.insert htlcId htlc })

def settleHtlc (store : AssetHtlcStore) (htlcId : String) :
    Except AssetHtlcError (StoredAssetHtlc × AssetHtlcStore) :=
  store.transition htlcId .settled

def failHtlc (store : AssetHtlcStore) (htlcId : String) :
    Except AssetHtlcError (StoredAssetHtlc × AssetHtlcStore) :=
  store.transition htlcId .failed

def validateEntry (entry : String × StoredAssetHtlc) : Except AssetHtlcError Unit := do
  let (htlcId, htlc) := entry
  rejectIf (htlcId ≠ htlc.htlcId) (.storageInvariant
    s!"HTLC map key {htlcId} does not match htlc_id {htlc.htlcId}")
  rejectIf (isBlank htlc.channelId) (.storageInvariant s!"HTLC {htlcId} has empty channel ID")
  rejectIf (htlc.assetAmount = 0 ∨ htlc.btcMsat = 0)
    (.storageInvariant s!"HTLC {htlcId} has zero asset or BTC amount")

def validate (store : AssetHtlcStore) : Except AssetHtlcError Unit :=
  store.htlcs.toList.forM validateEntry

end AssetHtlcStore

end TapLdk.AssetHtlc
