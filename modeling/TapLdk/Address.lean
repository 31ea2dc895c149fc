import Mathlib
import TapLdk.Asset
import TapLdk.TlvFields

/-! Taproot Asset addresses: the terms a payee asks for, as a TLV payload and as bech32m text.
The bech32 coder is a parameter. -/
namespace TapLdk.Address
open TapLdk.LibraryExcept TapLdk.LibraryBytes TapLdk.Mssmt TapLdk.Asset TapLdk.Tlv TapLdk.TlvFields

inductive Variant where
  | bech32
  | bech32m
deriving DecidableEq

/-- The functions of the bech32 crate. -/
structure Bech32 where
  U5 : Type
  Error : Type
  toBase32 : Bytes → List U5
  fromBase32 : List U5 → Except Error Bytes
  encode : String → List U5 → Variant → Except Error String
  decode : String → Except Error (String × List U5 × Variant)

/-- The crate reads back a human-readable part and the data that it has written. -/
def Bech32.RoundTrips (bech32 : Bech32) (hrp : String) (data : Bytes) : Prop :=
  bech32.fromBase32 (bech32.toBase32 data) = .ok data ∧
  ∃ text, bech32.encode hrp (bech32.toBase32 data) .bech32m = .ok text ∧
    bech32.decode text = .ok (hrp, bech32.toBase32 data, .bech32m)

inductive AddressError (ε : Type) where
  | tlv (error : TlvError)
  | asset (error : AssetError)
  | bech32 (error : ε)
  | missingField (field : UInt64)
  | invalidLength (field : String) (expected actual : ℕ)
  | invalidUtf8
  | unknownHrp (hrp : String)
  | wrongBech32Variant
  | unsupportedVersion (version : UInt8)
  | zeroAssetId
  | zeroAmount
  | unsupportedCourier (courier : String)
deriving DecidableEq

inductive TapHrp where
  | mainnet
  | testnet
  | regtest
  | simnet
deriving DecidableEq

variable {ε : Type}

def TapHrp.asStr : TapHrp → String
  | .mainnet => "tapbc"
  | .testnet => "taptb"
  | .regtest => "taprt"
  | .simnet => "tapsb"

def TapHrp.fromStr (value : String) : Except (AddressError ε) TapHrp :=
  if value = "tapbc" then .ok .mainnet
  else if value = "taptb" then .ok .testnet
  else if value = "taprt" then .ok .regtest
  else if value = "tapsb" then .ok .simnet
  else .error (.unknownHrp value)

@[simp] theorem TapHrp.fromStr_asStr (hrp : TapHrp) :
    TapHrp.fromStr hrp.asStr = (.ok hrp : Except (AddressError ε) TapHrp) := by
  cases hrp <;> rfl

def typeVersion : UInt64 := 0
def typeAssetId : UInt64 := 2
def typeGroupKey : UInt64 := 3
def typeScriptKey : UInt64 := 4
def typeInternalKey : UInt64 := 6
def typeTapscriptSibling : UInt64 := 7
def typeAmount : UInt64 := 8
def typeProofCourierAddr : UInt64 := 10

def knownTypes : List UInt64 := [typeVersion, typeAssetId, typeGroupKey, typeScriptKey,
  typeInternalKey, typeTapscriptSibling, typeAmount, typeProofCourierAddr]

structure TapAddress where
  hrp : TapHrp
  version : UInt8
  assetId : Bytes32
  groupKey : Option CompressedKey
  scriptKey : CompressedKey
  internalKey : CompressedKey
  tapscriptSibling : Bytes
  amount : AssetAmount
  proofCourierAddr : String
deriving DecidableEq

/-- `str::starts_with`. -/
def startsWith (text start : String) : Bool := (utf8 start).isPrefixOf (utf8 text)

def TapAddress.validate (a : TapAddress) : Except (AddressError ε) Unit := do
  rejectIf (a.version ≠ 0) (.unsupportedVersion a.version)
  rejectIf (a.amount = 0) .zeroAmount
  rejectIf (a.assetId = .zero 32) .zeroAssetId
  rejectIf (¬ (startsWith a.proofCourierAddr "hashmail://" ∨
    startsWith a.proofCourierAddr "universerpc://")) (.unsupportedCourier a.proofCourierAddr)

def TapAddress.records (a : TapAddress) : List TlvRecord :=
  [⟨typeVersion, [a.version]⟩, ⟨typeAssetId, a.assetId.bytes⟩,
    ⟨typeScriptKey, a.scriptKey.bytes⟩, ⟨typeInternalKey, a.internalKey.bytes⟩,
    ⟨typeAmount, encodeBigSize a.amount⟩, ⟨typeProofCourierAddr, utf8 a.proofCourierAddr⟩] ++
  (match a.groupKey with
    | some groupKey => [⟨typeGroupKey, groupKey.bytes⟩]
    | none => []) ++
  (if a.tapscriptSibling.isEmpty then [] else [⟨typeTapscriptSibling, a.tapscriptSibling⟩])

def TapAddress.encodePayload (a : TapAddress) : Except (AddressError ε) Bytes :=
  (encodeStream (sortByType a.records)).mapError .tlv

def find (records : List TlvRecord) (typeId : UInt64) : Option Bytes :=
  (records.find? fun record => record.typeId = typeId).map (·.value)

def required (value : Option Bytes) (field : UInt64) : Except (AddressError ε) Bytes :=
  okOr value (.missingField field)

def parseU8 (bytes : Bytes) : Except (AddressError ε) UInt8 := do
  rejectIf (bytes.length ≠ 1) (.invalidLength "version" 1 bytes.length)
  pure (bytes.headD 0)

def parseBytes32 (bytes : Bytes) : Except (AddressError ε) Bytes32 :=
  okOr (FixedBytes.ofBytes 32 bytes) (.invalidLength "bytes32" 32 bytes.length)

def parseCompressedKey (bytes : Bytes) : Except (AddressError ε) CompressedKey :=
  (compressedKeyFromStr (encodeHex bytes)).mapError .asset

def parseString (bytes : Bytes) : Except (AddressError ε) String :=
  okOr (fromUtf8 bytes) .invalidUtf8

def parseBigSizeValue (bytes : Bytes) : Except (AddressError ε) UInt64 := do
  let (value, cursor) ← (decodeBigSize bytes).mapError .tlv
  rejectIf (¬ cursor.isEmpty) (.invalidLength "amount" (bytes.length - cursor.length) bytes.length)
  pure value

/-- A field that may be absent. -/
def transpose (value : Option Bytes) (parse : Bytes → Except (AddressError ε) CompressedKey) :
    Except (AddressError ε) (Option CompressedKey) :=
  match value with
  | none => .ok none
  | some bytes => (parse bytes).map some

def TapAddress.decodePayload (hrp : TapHrp) (payload : Bytes) :
    Except (AddressError ε) TapAddress := do
  let records ← (decodeStream payload).mapError .tlv
  (rejectUnknownRequired records knownTypes).mapError .tlv
  let version ← parseU8 (← required (find records typeVersion) typeVersion)
  let assetId ← parseBytes32 (← required (find records typeAssetId) typeAssetId)
  let groupKey ← transpose (find records typeGroupKey) parseCompressedKey
  let scriptKey ← parseCompressedKey (← required (find records typeScriptKey) typeScriptKey)
  let internalKey ← parseCompressedKey (← required (find records typeInternalKey) typeInternalKey)
  let tapscriptSibling := (find records typeTapscriptSibling).getD []
  let amount ← parseBigSizeValue (← required (find records typeAmount) typeAmount)
  let proofCourierAddr ←
    parseString (← required (find records typeProofCourierAddr) typeProofCourierAddr)
  pure ⟨hrp, version, assetId, groupKey, scriptKey, internalKey, tapscriptSibling, amount,
    proofCourierAddr⟩

def TapAddress.encode (bech32 : Bech32) (a : TapAddress) :
    Except (AddressError bech32.Error) String := do
  a.validate
  let payload ← a.encodePayload
  (bech32.encode a.hrp.asStr (bech32.toBase32 payload) .bech32m).mapError .bech32

def TapAddress.decode (bech32 : Bech32) (encoded : String) :
    Except (AddressError bech32.Error) TapAddress := do
  let (hrp, data, variant) ← (bech32.decode encoded).mapError .bech32
  rejectIf (variant ≠ .bech32m) .wrongBech32Variant
  let payload ← (bech32.fromBase32 data).mapError .bech32
  let address ← TapAddress.decodePayload (← TapHrp.fromStr hrp) payload
  address.validate
  pure address

end TapLdk.Address
