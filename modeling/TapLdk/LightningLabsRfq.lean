import Mathlib
import TapLdk.RfqInvoice
import TapLdk.TlvFields

/-! Quote negotiation in the Lightning Labs format: requests, acceptances and rejections as
TLV streams, the checks on them, and the messages built from a bound invoice. -/
namespace TapLdk.LightningLabsRfq
open TapLdk.LibraryExcept TapLdk.LibraryMaps TapLdk.LibraryBytes TapLdk.Mssmt TapLdk.Asset
open TapLdk.Tlv TapLdk.TlvCanonical TapLdk.TlvFields TapLdk.RfqInvoice

def lightningLabsRfqWireVersion : UInt8 := 1
def lightningLabsMaxOracleMetadataLength : ℕ := 32768
def lightningLabsMsatPerBtcCoefficient : UInt64 := 100
def lightningLabsMsatPerBtcScale : UInt8 := 9
def msatPerBtc : ℕ := 100000000000

def typeVersion : UInt64 := 0
def typeId : UInt64 := 2
def typeRequestTransferType : UInt64 := 4
def typeAcceptExpiry : UInt64 := 4
def typeRequestExpiry : UInt64 := 6
def typeAcceptSignature : UInt64 := 6
def typeAcceptInAssetRate : UInt64 := 8
def typeAcceptOutAssetRate : UInt64 := 10
def typeAcceptMaxInAsset : UInt64 := 11
def typeRequestInAssetId : UInt64 := 9
def typeRequestInAssetGroupKey : UInt64 := 11
def typeRequestOutAssetId : UInt64 := 13
def typeRequestOutAssetGroupKey : UInt64 := 15
def typeRequestMaxInAsset : UInt64 := 16
def typeRequestInAssetRateHint : UInt64 := 19
def typeRequestOutAssetRateHint : UInt64 := 21
def typeRequestMinInAsset : UInt64 := 23
def typeRequestMinOutAsset : UInt64 := 25
def typeRequestOracleMetadata : UInt64 := 27
def typeRequestAssetRateLimit : UInt64 := 29
def typeRequestExecutionPolicy : UInt64 := 31
def typeRejectError : UInt64 := 5

def knownRequestTypes : List UInt64 :=
  [typeVersion, typeId, typeRequestTransferType, typeRequestExpiry, typeRequestInAssetId,
    typeRequestInAssetGroupKey, typeRequestOutAssetId, typeRequestOutAssetGroupKey,
    typeRequestMaxInAsset, typeRequestInAssetRateHint, typeRequestOutAssetRateHint,
    typeRequestMinInAsset, typeRequestMinOutAsset, typeRequestOracleMetadata,
    typeRequestAssetRateLimit, typeRequestExecutionPolicy]

def knownAcceptTypes : List UInt64 :=
  [typeVersion, typeId, typeAcceptExpiry, typeAcceptSignature, typeAcceptInAssetRate,
    typeAcceptOutAssetRate, typeAcceptMaxInAsset]

def knownRejectTypes : List UInt64 := [typeVersion, typeId, typeRejectError]

inductive LightningLabsTransferType where
  | payInvoice
  | receivePayment
deriving DecidableEq

inductive LightningLabsExecutionPolicy where
  | immediateOrCancel
  | fillOrKill
deriving DecidableEq

inductive LightningLabsRejectCode where
  | priceOracleUnspecified
  | priceOracleUnavailable
  | minFillNotMet
  | priceBoundMiss
  | fillOrKillNotViable
  | fillExceedsMax
deriving DecidableEq

inductive LightningLabsRfqError where
  | tlv (error : TlvError)
  | missingField (field : UInt64)
  | invalidFieldLength (field : String) (expected actual : ℕ)
  | invalidFixedPointLength (actual : ℕ)
  | fixedPointTooWide (field : String) (actual : ℕ)
  | invalidUtf8 (field : String)
  | unsupportedVersion (version : UInt8)
  | unknownTransferType (value : UInt8)
  | unknownExecutionPolicy (value : UInt8)
  | unknownRejectCode (value : UInt8)
  | missingAssetSpecifier (field : String)
  | ambiguousAssetSpecifier (field : String)
  | invalidGroupKeyPrefix (value : UInt8)
  | expectedExactlyOneBtcSide
  | zeroMaxInAsset
  | zeroFixedPoint (field : String)
  | oracleMetadataTooLarge (actual max : ℕ)
  | expiredRequest (nowUnixSeconds expiryUnixSeconds : UInt64)
  | expiredAccept (nowUnixSeconds expiryUnixSeconds : UInt64)
  | unexpectedTransferType (expected actual : LightningLabsTransferType)
  | peerMismatch (expected actual : String)
  | assetIdMismatch (expected actual : Bytes32)
  | assetAmountMismatch (expected actual : UInt64)
  | btcAmountMismatch (expected actual : UInt64)
  | invoiceContextMismatch
  | invoiceExpiryOutlivesQuote
      (requestExpiryUnixSeconds quoteExpiryUnixSeconds invoiceExpiryUnixSeconds : UInt64)
  | rfqIdMismatch (expected actual : Bytes32)
  | acceptExpiryOutlivesRequest (requestExpiryUnixSeconds acceptExpiryUnixSeconds : UInt64)
  | amountOverflow
  | nonIntegralAssetRate
  | panicked (message : String)
deriving DecidableEq

abbrev LightningLabsResult (α : Type) := Except LightningLabsRfqError α

def LightningLabsTransferType.fromWire (value : UInt8) :
    LightningLabsResult LightningLabsTransferType :=
  if value = 1 then .ok .payInvoice
  else if value = 2 then .ok .receivePayment
  else .error (.unknownTransferType value)

def LightningLabsTransferType.wireValue : LightningLabsTransferType → UInt8
  | .payInvoice => 1
  | .receivePayment => 2

def LightningLabsExecutionPolicy.fromWire (value : UInt8) :
    LightningLabsResult LightningLabsExecutionPolicy :=
  if value = 0 then .ok .immediateOrCancel
  else if value = 1 then .ok .fillOrKill
  else .error (.unknownExecutionPolicy value)

def LightningLabsExecutionPolicy.wireValue : LightningLabsExecutionPolicy → UInt8
  | .immediateOrCancel => 0
  | .fillOrKill => 1

def LightningLabsRejectCode.fromWire (value : UInt8) : LightningLabsResult LightningLabsRejectCode :=
  if value = 0 then .ok .priceOracleUnspecified
  else if value = 1 then .ok .priceOracleUnavailable
  else if value = 2 then .ok .minFillNotMet
  else if value = 3 then .ok .priceBoundMiss
  else if value = 4 then .ok .fillOrKillNotViable
  else if value = 5 then .ok .fillExceedsMax
  else .error (.unknownRejectCode value)

def LightningLabsRejectCode.wireValue : LightningLabsRejectCode → UInt8
  | .priceOracleUnspecified => 0
  | .priceOracleUnavailable => 1
  | .minFillNotMet => 2
  | .priceBoundMiss => 3
  | .fillOrKillNotViable => 4
  | .fillExceedsMax => 5

/-- A rate of `coefficient / 10 ^ scale`. -/
structure LightningLabsFixedPoint where
  scale : UInt8
  coefficientBe : Bytes
deriving DecidableEq

namespace LightningLabsFixedPoint

def fromU64 (coefficient : UInt64) (scale : UInt8) : LightningLabsFixedPoint :=
  ⟨scale, (u64Bytes coefficient).dropWhile (· = 0)⟩

def msatPerBtc : LightningLabsFixedPoint :=
  fromU64 lightningLabsMsatPerBtcCoefficient lightningLabsMsatPerBtcScale

def validate (rate : LightningLabsFixedPoint) (field : String) : LightningLabsResult Unit :=
  rejectIf (16 < rate.coefficientBe.length) (.fixedPointTooWide field rate.coefficientBe.length)

def isZero (rate : LightningLabsFixedPoint) : Bool := rate.coefficientBe.all (· = 0)

def bytes (rate : LightningLabsFixedPoint) : Bytes := rate.scale :: rate.coefficientBe

def encode (rate : LightningLabsFixedPoint) : LightningLabsResult Bytes := do
  rate.validate "fixed_point"
  pure rate.bytes

def decode : Bytes → LightningLabsResult LightningLabsFixedPoint
  | [] => .error (.invalidFixedPointLength 0)
  | scale :: coefficientBe => do
    let value : LightningLabsFixedPoint := ⟨scale, coefficientBe⟩
    value.validate "fixed_point"
    pure value

end LightningLabsFixedPoint

def required (fields : BTreeMap UInt64 Bytes) (field : UInt64) : LightningLabsResult Bytes :=
  okOr fields[field]? (.missingField field)

def parseFixedPoint (bytes : Bytes) (field : String) :
    LightningLabsResult LightningLabsFixedPoint := do
  let value ← LightningLabsFixedPoint.decode bytes
  value.validate field
  pure value

def parseBytes32 (bytes : Bytes) : LightningLabsResult Bytes32 :=
  okOr (FixedBytes.ofBytes 32 bytes) (.invalidFieldLength "bytes32" 32 bytes.length)

def parseU8 (bytes : Bytes) (field : String) : LightningLabsResult UInt8 := do
  rejectIf (bytes.length ≠ 1) (.invalidFieldLength field 1 bytes.length)
  pure (bytes.headD 0)

def parseU64 (bytes : Bytes) (field : String) : LightningLabsResult UInt64 := do
  rejectIf (bytes.length ≠ 8) (.invalidFieldLength field 8 bytes.length)
  pure (UInt64.ofNat (beValue bytes))

def parseGroupKey (bytes : Bytes) : LightningLabsResult Bytes := do
  rejectIf (bytes.length ≠ 33) (.invalidFieldLength "group_key" 33 bytes.length)
  pure bytes

def parseExecutionPolicy (bytes : Bytes) : LightningLabsResult LightningLabsExecutionPolicy := do
  let value ← parseU8 bytes "execution_policy"
  LightningLabsExecutionPolicy.fromWire value

/-- `fields.get(&field).map(parse).transpose()`. -/
def optionalField {α : Type} (parse : Bytes → LightningLabsResult α) (fields : BTreeMap UInt64 Bytes)
    (field : UInt64) : LightningLabsResult (Option α) :=
  match fields[field]? with
  | none => pure none
  | some bytes => do
    let value ← parse bytes
    pure (some value)

def optionalExecutionPolicy (fields : BTreeMap UInt64 Bytes) :
    LightningLabsResult (Option LightningLabsExecutionPolicy) :=
  optionalField parseExecutionPolicy fields typeRequestExecutionPolicy

def optionalFixedPoint : BTreeMap UInt64 Bytes → UInt64 →
    LightningLabsResult (Option LightningLabsFixedPoint) :=
  optionalField LightningLabsFixedPoint.decode

def optionalGroupKey : BTreeMap UInt64 Bytes → UInt64 → LightningLabsResult (Option Bytes) :=
  optionalField parseGroupKey

def optionalBytes32 : BTreeMap UInt64 Bytes → UInt64 → LightningLabsResult (Option Bytes32) :=
  optionalField parseBytes32

def optionalU64 (fields : BTreeMap UInt64 Bytes) (field : UInt64) (name : String) :
    LightningLabsResult (Option UInt64) :=
  optionalField (parseU64 · name) fields field

def validateAssetSpecifier (field : String) (assetId : Option Bytes32) (groupKey : Option Bytes) :
    LightningLabsResult Unit := do
  rejectIf (assetId = none ∧ groupKey = none) (.missingAssetSpecifier field)
  rejectIf (assetId ≠ none ∧ groupKey ≠ none) (.ambiguousAssetSpecifier field)
  match groupKey with
  | none => pure ()
  | some groupKey => do
    rejectIf (groupKey.length ≠ 33) (.invalidFieldLength field 33 groupKey.length)
    rejectIf (groupKey.headD 0 ≠ 2 ∧ groupKey.headD 0 ≠ 3)
      (.invalidGroupKeyPrefix (groupKey.headD 0))

/-- The check of an optional rate of a request. -/
def validateOptionalRate (field : String) : Option LightningLabsFixedPoint → LightningLabsResult Unit
  | none => pure ()
  | some rate => do
    rate.validate field
    rejectIf rate.isZero (.zeroFixedPoint field)

structure LightningLabsRfqRequest where
  version : UInt8
  id : Bytes32
  transferType : LightningLabsTransferType
  expiryUnixSeconds : UInt64
  inAssetId : Option Bytes32
  inAssetGroupKey : Option Bytes
  outAssetId : Option Bytes32
  outAssetGroupKey : Option Bytes
  maxInAsset : UInt64
  inAssetRateHint : Option LightningLabsFixedPoint
  outAssetRateHint : Option LightningLabsFixedPoint
  minInAsset : Option UInt64
  minOutAsset : Option UInt64
  oracleMetadata : Bytes
  assetRateLimit : Option LightningLabsFixedPoint
  executionPolicy : Option LightningLabsExecutionPolicy
deriving DecidableEq

namespace LightningLabsRfqRequest

def validateShape (request : LightningLabsRfqRequest) : LightningLabsResult Unit := do
  rejectIf (request.version ≠ lightningLabsRfqWireVersion) (.unsupportedVersion request.version)
  rejectIf (request.maxInAsset = 0) .zeroMaxInAsset
  validateAssetSpecifier "in_asset" request.inAssetId request.inAssetGroupKey
  validateAssetSpecifier "out_asset" request.outAssetId request.outAssetGroupKey
  -- The zero asset id stands for bitcoin.
  rejectIf (request.inAssetId = some Bytes32.ZERO ↔ request.outAssetId = some Bytes32.ZERO)
    .expectedExactlyOneBtcSide
  rejectIf (lightningLabsMaxOracleMetadataLength < request.oracleMetadata.length)
    (.oracleMetadataTooLarge request.oracleMetadata.length lightningLabsMaxOracleMetadataLength)
  validateOptionalRate "in_asset_rate_hint" request.inAssetRateHint
  validateOptionalRate "out_asset_rate_hint" request.outAssetRateHint
  validateOptionalRate "asset_rate_limit" request.assetRateLimit

/-- The records of a request in the order `encode` pushes them. -/
def records (request : LightningLabsRfqRequest) : List Slot :=
  [(typeVersion, some [request.version]),
    (typeId, some request.id.bytes),
    (typeRequestTransferType, some [request.transferType.wireValue]),
    (typeRequestExpiry, some (u64Bytes request.expiryUnixSeconds)),
    (typeRequestMaxInAsset, some (u64Bytes request.maxInAsset)),
    (typeRequestInAssetId, request.inAssetId.map (·.bytes)),
    (typeRequestInAssetGroupKey, request.inAssetGroupKey),
    (typeRequestOutAssetId, request.outAssetId.map (·.bytes)),
    (typeRequestOutAssetGroupKey, request.outAssetGroupKey),
    (typeRequestInAssetRateHint, request.inAssetRateHint.map (·.bytes)),
    (typeRequestOutAssetRateHint, request.outAssetRateHint.map (·.bytes)),
    (typeRequestMinInAsset, request.minInAsset.map u64Bytes),
    (typeRequestMinOutAsset, request.minOutAsset.map u64Bytes),
    (typeRequestOracleMetadata,
      if request.oracleMetadata = [] then none else some request.oracleMetadata),
    (typeRequestAssetRateLimit, request.assetRateLimit.map (·.bytes)),
    (typeRequestExecutionPolicy, request.executionPolicy.map fun policy => [policy.wireValue])]

/-- The rates are encoded one by one before the stream is. -/
def encode (request : LightningLabsRfqRequest) : LightningLabsResult Bytes := do
  request.validateShape
  let _ ← request.inAssetRateHint.mapM LightningLabsFixedPoint.encode
  let _ ← request.outAssetRateHint.mapM LightningLabsFixedPoint.encode
  let _ ← request.assetRateLimit.mapM LightningLabsFixedPoint.encode
  (encodeStream (sortByType (recordsOf request.records))).mapError .tlv

def decode (bytes : Bytes) : LightningLabsResult LightningLabsRfqRequest := do
  let records ← (decodeStream bytes).mapError .tlv
  (rejectUnknownRequired records knownRequestTypes).mapError .tlv
  let fields := recordMap records
  let version ← parseU8 (← required fields typeVersion) "version"
  let id ← parseBytes32 (← required fields typeId)
  let transferType ← LightningLabsTransferType.fromWire
    (← parseU8 (← required fields typeRequestTransferType) "transfer_type")
  let expiryUnixSeconds ← parseU64 (← required fields typeRequestExpiry) "expiry_unix_seconds"
  let inAssetId ← optionalBytes32 fields typeRequestInAssetId
  let inAssetGroupKey ← optionalGroupKey fields typeRequestInAssetGroupKey
  let outAssetId ← optionalBytes32 fields typeRequestOutAssetId
  let outAssetGroupKey ← optionalGroupKey fields typeRequestOutAssetGroupKey
  let maxInAsset ← parseU64 (← required fields typeRequestMaxInAsset) "max_in_asset"
  let inAssetRateHint ← optionalFixedPoint fields typeRequestInAssetRateHint
  let outAssetRateHint ← optionalFixedPoint fields typeRequestOutAssetRateHint
  let minInAsset ← optionalU64 fields typeRequestMinInAsset "min_in_asset"
  let minOutAsset ← optionalU64 fields typeRequestMinOutAsset "min_out_asset"
  let oracleMetadata := fields[typeRequestOracleMetadata]?.getD []
  let assetRateLimit ← optionalFixedPoint fields typeRequestAssetRateLimit
  let executionPolicy ← optionalExecutionPolicy fields
  let request : LightningLabsRfqRequest :=
    { version, id, transferType, expiryUnixSeconds, inAssetId, inAssetGroupKey, outAssetId,
      outAssetGroupKey, maxInAsset, inAssetRateHint, outAssetRateHint, minInAsset, minOutAsset,
      oracleMetadata, assetRateLimit, executionPolicy }
  request.validateShape
  pure request

end LightningLabsRfqRequest

structure LightningLabsRfqAccept where
  version : UInt8
  id : Bytes32
  expiryUnixSeconds : UInt64
  signature : Bytes
  inAssetRate : LightningLabsFixedPoint
  outAssetRate : LightningLabsFixedPoint
  maxInAsset : Option UInt64
deriving DecidableEq

namespace LightningLabsRfqAccept

def validateShape (accept : LightningLabsRfqAccept) : LightningLabsResult Unit := do
  rejectIf (accept.version ≠ lightningLabsRfqWireVersion) (.unsupportedVersion accept.version)
  rejectIf (accept.signature.length ≠ 64)
    (.invalidFieldLength "signature" 64 accept.signature.length)
  accept.inAssetRate.validate "in_asset_rate"
  accept.outAssetRate.validate "out_asset_rate"
  rejectIf accept.inAssetRate.isZero (.zeroFixedPoint "in_asset_rate")
  rejectIf accept.outAssetRate.isZero (.zeroFixedPoint "out_asset_rate")

def records (accept : LightningLabsRfqAccept) : List Slot :=
  [(typeVersion, some [accept.version]),
    (typeId, some accept.id.bytes),
    (typeAcceptExpiry, some (u64Bytes accept.expiryUnixSeconds)),
    (typeAcceptSignature, some accept.signature),
    (typeAcceptInAssetRate, some accept.inAssetRate.bytes),
    (typeAcceptOutAssetRate, some accept.outAssetRate.bytes),
    (typeAcceptMaxInAsset, accept.maxInAsset.map u64Bytes)]

def encode (accept : LightningLabsRfqAccept) : LightningLabsResult Bytes := do
  accept.validateShape
  let _ ← accept.inAssetRate.encode
  let _ ← accept.outAssetRate.encode
  (encodeStream (sortByType (recordsOf accept.records))).mapError .tlv

/-- A maximum of zero means that there is none. -/
def decode (bytes : Bytes) : LightningLabsResult LightningLabsRfqAccept := do
  let records ← (decodeStream bytes).mapError .tlv
  (rejectUnknownRequired records knownAcceptTypes).mapError .tlv
  let fields := recordMap records
  let maxInAsset ← optionalU64 fields typeAcceptMaxInAsset "max_in_asset"
  let maxInAsset := if maxInAsset = some 0 then none else maxInAsset
  let version ← parseU8 (← required fields typeVersion) "version"
  let id ← parseBytes32 (← required fields typeId)
  let expiryUnixSeconds ← parseU64 (← required fields typeAcceptExpiry) "expiry_unix_seconds"
  let signature ← required fields typeAcceptSignature
  let inAssetRate ← parseFixedPoint (← required fields typeAcceptInAssetRate) "in_asset_rate"
  let outAssetRate ← parseFixedPoint (← required fields typeAcceptOutAssetRate) "out_asset_rate"
  let accept : LightningLabsRfqAccept :=
    { version, id, expiryUnixSeconds, signature, inAssetRate, outAssetRate, maxInAsset }
  accept.validateShape
  pure accept

def validateForRequest (accept : LightningLabsRfqAccept) (request : LightningLabsRfqRequest)
    (nowUnixSeconds : UInt64) : LightningLabsResult Unit := do
  accept.validateShape
  rejectIf (accept.expiryUnixSeconds ≤ nowUnixSeconds)
    (.expiredAccept nowUnixSeconds accept.expiryUnixSeconds)
  rejectIf (accept.id ≠ request.id) (.rfqIdMismatch request.id accept.id)
  rejectIf (request.expiryUnixSeconds < accept.expiryUnixSeconds)
    (.acceptExpiryOutlivesRequest request.expiryUnixSeconds accept.expiryUnixSeconds)
  match accept.maxInAsset with
  | none => pure ()
  | some maxInAsset =>
    rejectIf (request.maxInAsset < maxInAsset) (.btcAmountMismatch request.maxInAsset maxInAsset)

end LightningLabsRfqAccept

structure LightningLabsRfqReject where
  version : UInt8
  id : Bytes32
  code : LightningLabsRejectCode
  message : String
deriving DecidableEq

namespace LightningLabsRfqReject

def validateShape (reject : LightningLabsRfqReject) : LightningLabsResult Unit :=
  rejectIf (reject.version ≠ lightningLabsRfqWireVersion) (.unsupportedVersion reject.version)

def records (reject : LightningLabsRfqReject) : List TlvRecord :=
  [⟨typeVersion, [reject.version]⟩,
    ⟨typeId, reject.id.bytes⟩,
    ⟨typeRejectError, reject.code.wireValue :: utf8 reject.message⟩]

def encode (reject : LightningLabsRfqReject) : LightningLabsResult Bytes := do
  reject.validateShape
  (encodeStream reject.records).mapError .tlv

def splitFirst (bytes : Bytes) : LightningLabsResult (UInt8 × Bytes) :=
  match bytes with
  | [] => .error (.invalidFieldLength "reject_error" 1 0)
  | code :: message => .ok (code, message)

def decode (bytes : Bytes) : LightningLabsResult LightningLabsRfqReject := do
  let records ← (decodeStream bytes).mapError .tlv
  (rejectUnknownRequired records knownRejectTypes).mapError .tlv
  let fields := recordMap records
  let (code, message) ← splitFirst (← required fields typeRejectError)
  let message ← okOr (fromUtf8 message) (.invalidUtf8 "reject_message")
  let version ← parseU8 (← required fields typeVersion) "version"
  let id ← parseBytes32 (← required fields typeId)
  let code ← LightningLabsRejectCode.fromWire code
  let reject : LightningLabsRfqReject := { version, id, code, message }
  reject.validateShape
  pure reject

end LightningLabsRfqReject

end TapLdk.LightningLabsRfq
