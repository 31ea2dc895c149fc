import Mathlib
import TapLdk.Asset
import TapLdk.Tlv

/-! Funding and commitment blobs in the Lightning Labs format: TLV streams whose values are
counted lists of length-prefixed items, decoded into summaries with checked totals. -/
namespace TapLdk.LightningLabsBlob
open TapLdk.LibraryExcept TapLdk.LibraryBytes TapLdk.LibrarySha256 TapLdk.Mssmt TapLdk.Asset
open TapLdk.Tlv

def typeOpenChannelFundedAssets : UInt64 := 0
def typeOpenChannelDecimalDisplay : UInt64 := 1
def typeOpenChannelGroupKey : UInt64 := 2

def typeCommitmentLocalAssets : UInt64 := 0
def typeCommitmentRemoteAssets : UInt64 := 1
def typeCommitmentOutgoingHtlcs : UInt64 := 2
def typeCommitmentIncomingHtlcs : UInt64 := 3
def typeCommitmentAuxLeaves : UInt64 := 4
def typeCommitmentStxo : UInt64 := 5

def maxOutputs : UInt64 := 2048
def maxHtlcs : UInt64 := 483
def maxScriptLen : UInt64 := 65535

structure AssetOutputSummary where
  assetId : Bytes32
  amount : UInt64
  proofLen : ℕ
  proofDigest : Bytes32
  outputLen : ℕ
  outputDigest : Bytes32
deriving DecidableEq

structure AssetOutputListSummary where
  outputCount : ℕ
  totalAmount : UInt64
  valueLen : ℕ
  valueDigest : Bytes32
  outputs : List AssetOutputSummary
deriving DecidableEq

structure LightningLabsFundingBlob where
  rawLen : ℕ
  rawDigest : Bytes32
  decimalDisplay : UInt8
  groupKey : Option CompressedKey
  fundedAssets : AssetOutputListSummary
deriving DecidableEq

structure HtlcAssetOutputEntrySummary where
  htlcIndex : UInt64
  assets : AssetOutputListSummary
deriving DecidableEq

structure HtlcAssetOutputSummary where
  htlcCount : ℕ
  totalAmount : UInt64
  valueLen : ℕ
  valueDigest : Bytes32
  entries : List HtlcAssetOutputEntrySummary
deriving DecidableEq

structure TapLeafSummary where
  leafVersion : UInt8
  scriptLen : ℕ
  scriptDigest : Bytes32
deriving DecidableEq

structure AuxLeavesSummary where
  valueLen : ℕ
  valueDigest : Bytes32
  localLeaf : Option TapLeafSummary
  remoteLeaf : Option TapLeafSummary
  outgoingHtlcLeafCount : ℕ
  incomingHtlcLeafCount : ℕ
deriving DecidableEq

structure LightningLabsCommitmentBlob where
  rawLen : ℕ
  rawDigest : Bytes32
  localAssets : AssetOutputListSummary
  remoteAssets : AssetOutputListSummary
  outgoingHtlcs : HtlcAssetOutputSummary
  incomingHtlcs : HtlcAssetOutputSummary
  auxLeaves : AuxLeavesSummary
  stxo : Option Bool
deriving DecidableEq

inductive LightningLabsBlobError where
  | tlv (error : TlvError)
  | missingRecord (blob : String) (typeId : UInt64)
  | unsupportedRecord (blob : String) (typeId : UInt64)
  | invalidFieldLength (field : String) (expected actual : ℕ)
  | invalidBoolean (field : String) (value : UInt8)
  | tooManyItems (field : String) (count max : UInt64)
  | truncatedNested (field : String) (expected actual : ℕ)
  | trailingBytes (field : String) (remaining : ℕ)
  | semantic (field reason : String)
deriving DecidableEq

abbrev BlobResult (α : Type) := Except LightningLabsBlobError α

def digest (bytes : Bytes) : Bytes32 := sha256 bytes

def readVarint (cursor : Bytes) : BlobResult (UInt64 × Bytes) := (decodeBigSize cursor).mapError .tlv

def takeBytes (cursor : Bytes) (len : ℕ) (field : String) : BlobResult (Bytes × Bytes) := do
  rejectIf (cursor.length < len) (.truncatedNested field len cursor.length)
  pure (cursor.take len, cursor.drop len)

def readInlineVarbytes (cursor : Bytes) (field : String) : BlobResult (Bytes × Bytes) := do
  let (len, cursor) ← readVarint cursor
  takeBytes cursor len.toNat field

def ensureEmpty (cursor : Bytes) (field : String) : BlobResult Unit :=
  rejectIf (cursor ≠ []) (.trailingBytes field cursor.length)

/-- The loop that reads a number of items one after the other. -/
def readItems {α : Type} (item : Bytes → BlobResult (α × Bytes)) :
    ℕ → Bytes → BlobResult (List α × Bytes)
  | 0, cursor => pure ([], cursor)
  | count + 1, cursor => do
    let (first, cursor) ← item cursor
    let (rest, cursor) ← readItems item count cursor
    pure (first :: rest, cursor)

/-- A count, that many items, and nothing after them. -/
def parseCounted {α : Type} (max : UInt64) (item : Bytes → BlobResult (α × Bytes)) (bytes : Bytes)
    (field : String) : BlobResult (List α) := do
  let (count, cursor) ← readVarint bytes
  rejectIf (max < count) (.tooManyItems field count max)
  let (items, cursor) ← readItems item count.toNat cursor
  ensureEmpty cursor field
  pure items

def rejectUnsupported (blob : String) (records : List TlvRecord) (knownTypes : List UInt64) :
    BlobResult Unit :=
  records.forM fun record =>
    rejectIf (record.typeId ∉ knownTypes) (.unsupportedRecord blob record.typeId)

def optionalRecord (records : List TlvRecord) (typeId : UInt64) : Option TlvRecord :=
  records.find? fun record => record.typeId = typeId

def requiredRecord (blob : String) (records : List TlvRecord) (typeId : UInt64) :
    BlobResult TlvRecord :=
  okOr (optionalRecord records typeId) (.missingRecord blob typeId)

def parseU8Record (record : TlvRecord) (field : String) : BlobResult UInt8 := do
  rejectIf (record.value.length ≠ 1) (.invalidFieldLength field 1 record.value.length)
  pure (record.value.headD 0)

def parseU64Record (record : TlvRecord) (field : String) : BlobResult UInt64 := do
  rejectIf (record.value.length ≠ 8) (.invalidFieldLength field 8 record.value.length)
  pure (UInt64.ofNat (beValue record.value))

def parseBoolRecord (record : TlvRecord) (field : String) : BlobResult Bool := do
  let value ← parseU8Record record field
  if value = 0 then pure false
  else if value = 1 then pure true
  else .error (.invalidBoolean field value)

def parseBytes32 (bytes : Bytes) (field : String) : BlobResult Bytes32 :=
  okOr (FixedBytes.ofBytes 32 bytes) (.invalidFieldLength field 32 bytes.length)

def parseCompressedKey (bytes : Bytes) (field : String) : BlobResult CompressedKey := do
  let key ← okOr (FixedBytes.ofBytes 33 bytes) (.invalidFieldLength field 33 bytes.length)
  rejectIf (bytes.headD 0 ≠ 2 ∧ bytes.headD 0 ≠ 3)
    (.semantic field "compressed key prefix must be 02 or 03")
  pure key

def checkedSum (amounts : List UInt64) (field : String) : BlobResult UInt64 :=
  amounts.foldlM (fun sum amount => okOr (checkedAdd sum amount) (.semantic field "asset amount overflow"))
    0

def parseAssetOutput (bytes : Bytes) (field : String) : BlobResult AssetOutputSummary := do
  let records ← (decodeStream bytes).mapError .tlv
  rejectUnsupported field records [0, 1, 2]
  let assetId ← parseBytes32 (← requiredRecord field records 0).value field
  let amount ← parseU64Record (← requiredRecord field records 1) field
  let proof := (← requiredRecord field records 2).value
  pure
    { assetId
      amount
      proofLen := proof.length
      proofDigest := digest proof
      outputLen := bytes.length
      outputDigest := digest bytes }

def readAssetOutput (field : String) (cursor : Bytes) : BlobResult (AssetOutputSummary × Bytes) := do
  let (outputBytes, cursor) ← readInlineVarbytes cursor field
  let output ← parseAssetOutput outputBytes field
  pure (output, cursor)

def parseAssetOutputList (bytes : Bytes) (field : String) : BlobResult AssetOutputListSummary := do
  let outputs ← parseCounted maxOutputs (readAssetOutput field) bytes field
  let totalAmount ← checkedSum (outputs.map (·.amount)) field
  pure
    { outputCount := outputs.length
      totalAmount
      valueLen := bytes.length
      valueDigest := digest bytes
      outputs }

def readHtlcEntry (field : String) (cursor : Bytes) :
    BlobResult (HtlcAssetOutputEntrySummary × Bytes) := do
  let (htlcIndex, cursor) ← readVarint cursor
  let (assetList, cursor) ← readInlineVarbytes cursor field
  let assets ← parseAssetOutputList assetList field
  pure (⟨htlcIndex, assets⟩, cursor)

def parseHtlcAssetOutput (bytes : Bytes) (field : String) : BlobResult HtlcAssetOutputSummary := do
  let entries ← parseCounted maxHtlcs (readHtlcEntry field) bytes field
  let totalAmount ← checkedSum (entries.map (·.assets.totalAmount)) field
  pure
    { htlcCount := entries.length
      totalAmount
      valueLen := bytes.length
      valueDigest := digest bytes
      entries }

def parseTapLeaf (bytes : Bytes) (field : String) : BlobResult TapLeafSummary := do
  let (version, cursor) ← takeBytes bytes 1 field
  let (declaredScriptLen, cursor) ← readVarint cursor
  rejectIf (maxScriptLen < declaredScriptLen) (.tooManyItems field declaredScriptLen maxScriptLen)
  let (script, cursor) ← readInlineVarbytes cursor field
  ensureEmpty cursor field
  rejectIf (script.length ≠ declaredScriptLen.toNat)
    (.semantic field "declared script length does not match inline script length")
  pure ⟨version.headD 0, script.length, digest script⟩

def readHtlcAuxLeaf (field : String) (cursor : Bytes) : BlobResult (Unit × Bytes) := do
  let (_, cursor) ← readVarint cursor
  let (_, cursor) ← readInlineVarbytes cursor field
  pure ((), cursor)

def parseHtlcAuxLeafMapCount (bytes : Bytes) (field : String) : BlobResult ℕ := do
  let leaves ← parseCounted maxHtlcs (readHtlcAuxLeaf field) bytes field
  pure leaves.length

def parseAuxLeaves (bytes : Bytes) (field : String) : BlobResult AuxLeavesSummary := do
  let (nestedBytes, cursor) ← readInlineVarbytes bytes field
  ensureEmpty cursor field
  let records ← (decodeStream nestedBytes).mapError .tlv
  rejectUnsupported field records [0, 1, 2, 3]
  let localLeaf ← (optionalRecord records 0).mapM fun record =>
    parseTapLeaf record.value "commitment.aux_leaves.local_leaf"
  let remoteLeaf ← (optionalRecord records 1).mapM fun record =>
    parseTapLeaf record.value "commitment.aux_leaves.remote_leaf"
  let outgoing ← (optionalRecord records 2).mapM fun record =>
    parseHtlcAuxLeafMapCount record.value "commitment.aux_leaves.outgoing"
  let incoming ← (optionalRecord records 3).mapM fun record =>
    parseHtlcAuxLeafMapCount record.value "commitment.aux_leaves.incoming"
  pure
    { valueLen := nestedBytes.length
      valueDigest := digest nestedBytes
      localLeaf
      remoteLeaf
      outgoingHtlcLeafCount := outgoing.getD 0
      incomingHtlcLeafCount := incoming.getD 0 }

def decodeFundingBlob (bytes : Bytes) : BlobResult LightningLabsFundingBlob := do
  let records ← (decodeStream bytes).mapError .tlv
  rejectUnsupported "funding" records [0, 1, 2]
  let fundedAssets ← requiredRecord "funding" records typeOpenChannelFundedAssets
  let decimalDisplay ← parseU8Record
    (← requiredRecord "funding" records typeOpenChannelDecimalDisplay) "funding.decimal_display"
  let groupKey ← (optionalRecord records typeOpenChannelGroupKey).mapM fun record =>
    parseCompressedKey record.value "funding.group_key"
  let fundedAssets ← parseAssetOutputList fundedAssets.value "funding.funded_assets"
  pure
    { rawLen := bytes.length
      rawDigest := digest bytes
      decimalDisplay
      groupKey
      fundedAssets }

def decodeCommitmentBlob (bytes : Bytes) : BlobResult LightningLabsCommitmentBlob := do
  let records ← (decodeStream bytes).mapError .tlv
  rejectUnsupported "commitment" records [0, 1, 2, 3, 4, 5]
  let localAssets ← parseAssetOutputList
    (← requiredRecord "commitment" records typeCommitmentLocalAssets).value
    "commitment.local_assets"
  let remoteAssets ← parseAssetOutputList
    (← requiredRecord "commitment" records typeCommitmentRemoteAssets).value
    "commitment.remote_assets"
  let outgoingHtlcs ← parseHtlcAssetOutput
    (← requiredRecord "commitment" records typeCommitmentOutgoingHtlcs).value
    "commitment.outgoing_htlcs"
  let incomingHtlcs ← parseHtlcAssetOutput
    (← requiredRecord "commitment" records typeCommitmentIncomingHtlcs).value
    "commitment.incoming_htlcs"
  let auxLeaves ← parseAuxLeaves
    (← requiredRecord "commitment" records typeCommitmentAuxLeaves).value "commitment.aux_leaves"
  let stxo ← (optionalRecord records typeCommitmentStxo).mapM fun record =>
    parseBoolRecord record "commitment.stxo"
  pure
    { rawLen := bytes.length
      rawDigest := digest bytes
      localAssets
      remoteAssets
      outgoingHtlcs
      incomingHtlcs
      auxLeaves
      stxo }

end TapLdk.LightningLabsBlob
