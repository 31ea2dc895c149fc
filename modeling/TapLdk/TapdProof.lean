import Mathlib
import TapLdk.Asset
import TapLdk.Tlv

/-! Proof files of the Taproot Assets daemon: a counted list of proofs under chained
checksums, each a TLV stream that may carry an asset leaf. -/
namespace TapLdk.TapdProof
open TapLdk.LibraryExcept TapLdk.LibraryBytes TapLdk.LibrarySha256 TapLdk.Mssmt TapLdk.Asset
open TapLdk.Tlv

structure TapdGenesisSummary where
  firstPrevOut : String
  tag : Option String
  tagHash : Bytes32
  metaHash : Bytes32
  outputIndex : UInt32
  assetType : UInt8
deriving DecidableEq

structure TapdAssetLeafSummary where
  assetVersion : UInt8
  assetId : Bytes32
  assetType : UInt8
  amount : UInt64
  scriptVersion : UInt16
  scriptKey : CompressedKey
  genesis : TapdGenesisSummary
  previousWitnessCount : ℕ
deriving DecidableEq

structure TapdProofSummary where
  proofIndex : ℕ
  rawLen : ℕ
  rawDigest : Bytes32
  chainChecksum : Bytes32
  recordCount : ℕ
  transitionVersion : Option UInt32
  blockHeight : Option UInt32
  hasPrevOut : Bool
  hasBlockHeader : Bool
  hasAnchorTx : Bool
  hasTxMerkleProof : Bool
  hasAssetLeaf : Bool
  hasInclusionProof : Bool
  hasGenesisReveal : Bool
  assetLeaf : Option TapdAssetLeafSummary
  optionalUnknownRecordCount : ℕ
deriving DecidableEq

structure TapdProofFileSummary where
  sourceCommit : String
  version : UInt32
  proofCount : ℕ
  rawLen : ℕ
  rawDigest : Bytes32
  finalChainChecksum : Bytes32
  proofs : List TapdProofSummary
deriving DecidableEq

inductive TapdProofError where
  | emptyHex
  | invalidHexLength
  | invalidHexByte (value : String)
  /-- The error shows the lossy text of the bytes found. -/
  | invalidMagic (expected : String) (actual : Bytes)
  | unsupportedFileVersion (version : UInt32)
  | emptyProofFile
  | tlv (error : TlvError)
  | truncated (field : String) (expected remaining : ℕ)
  | trailingBytes (remaining : ℕ)
  | invalidChecksum (proofIndex : ℕ) (expected actual : Bytes32)
  | invalidRecordLength (field : String) (expected actual : ℕ)
  | missingAssetLeafField (field : UInt64)
  | unsupportedAssetType (value : UInt8)
  /-- Stands for a panic of the program. -/
  | panicked (message : String)
deriving DecidableEq

def lightningLabsTaprootAssetsCommit : String := "743db21da57b5fdecf5daca9a925f0261ca94e40"

def tapdProofFileVersion : UInt32 := 0

def typeVersion : UInt64 := 0
def typePrevOut : UInt64 := 2
def typeBlockHeader : UInt64 := 4
def typeAnchorTx : UInt64 := 6
def typeTxMerkleProof : UInt64 := 8
def typeAssetLeaf : UInt64 := 10
def typeInclusionProof : UInt64 := 12
def typeBlockHeight : UInt64 := 22
def typeGenesisReveal : UInt64 := 23

def knownProofTypes : List UInt64 :=
  [typeVersion, typePrevOut, typeBlockHeader, typeAnchorTx, typeTxMerkleProof, typeAssetLeaf,
    typeInclusionProof, 13, 15, 17, 19, 21, typeBlockHeight, typeGenesisReveal, 25, 27]

def assetLeafVersion : UInt64 := 0
def assetLeafGenesis : UInt64 := 2
def assetLeafType : UInt64 := 4
def assetLeafAmount : UInt64 := 6
def assetLeafPrevWitness : UInt64 := 11
def assetLeafScriptVersion : UInt64 := 14
def assetLeafScriptKey : UInt64 := 16

def knownAssetLeafTypes : List UInt64 :=
  [assetLeafVersion, assetLeafGenesis, assetLeafType, assetLeafAmount, assetLeafPrevWitness,
    assetLeafScriptVersion, assetLeafScriptKey]

def decodeHexText (raw : String) : Except TapdProofError Bytes := do
  let compact := String.ofList (raw.toList.filter fun c => !isWhitespace c)
  rejectIf (compact = "") .emptyHex
  rejectIf ((utf8 compact).length % 2 ≠ 0) .invalidHexLength
  decodeHexPairs .invalidHexByte (.panicked "hex input is str") (utf8 compact)

def takeBytes (len : ℕ) (field : String) (cursor : Bytes) : Except TapdProofError (Bytes × Bytes) := do
  rejectIf (cursor.length < len) (.truncated field len cursor.length)
  pure (cursor.take len, cursor.drop len)

/-- A fixed-length array at the front of the cursor. -/
def takeFixed (n : ℕ) (field : String) (cursor : Bytes) :
    Except TapdProofError (FixedBytes n × Bytes) :=
  if h : cursor.length < n then .error (.truncated field n cursor.length)
  else .ok (⟨cursor.take n, by rw [List.length_take]; omega⟩, cursor.drop n)

def takeU32 (field : String) (cursor : Bytes) : Except TapdProofError (UInt32 × Bytes) := do
  let (head, tail) ← takeFixed 4 field cursor
  pure (UInt32.ofNat (beValue head.bytes), tail)

def readBigSize (field : String) (cursor : Bytes) : Except TapdProofError (UInt64 × Bytes) :=
  (decodeBigSize cursor).mapError fun error =>
    match error with
    | .truncatedBigSize => .truncated field 1 0
    | other => .tlv other

def expectMagic (expected expectedName : String) (cursor : Bytes) : Except TapdProofError Bytes := do
  let (actual, tail) ← takeFixed 4 "magic" cursor
  rejectIf (actual.bytes ≠ utf8 expected) (.invalidMagic expectedName actual.bytes)
  pure tail

def requireEnd (cursor : Bytes) : Except TapdProofError Unit :=
  rejectIf (cursor ≠ []) (.trailingBytes cursor.length)

def findRecord (records : List TlvRecord) (typeId : UInt64) : Option TlvRecord :=
  records.find? fun record => record.typeId = typeId

def hasRecord (records : List TlvRecord) (typeId : UInt64) : Bool :=
  records.any fun record => record.typeId = typeId

def requiredRecord (records : List TlvRecord) (typeId : UInt64) : Except TapdProofError TlvRecord :=
  okOr (findRecord records typeId) (.missingAssetLeafField typeId)

def requireLength (field : String) (expected : ℕ) (value : Bytes) : Except TapdProofError Unit :=
  rejectIf (value.length ≠ expected) (.invalidRecordLength field expected value.length)

def parseRequiredU8 (records : List TlvRecord) (typeId : UInt64) (field : String) :
    Except TapdProofError UInt8 := do
  let record ← requiredRecord records typeId
  requireLength field 1 record.value
  pure (record.value.headD 0)

def parseRequiredU16 (records : List TlvRecord) (typeId : UInt64) (field : String) :
    Except TapdProofError UInt16 := do
  let record ← requiredRecord records typeId
  requireLength field 2 record.value
  pure (UInt16.ofNat (beValue record.value))

def parseRequiredBigSize (records : List TlvRecord) (typeId : UInt64) (field : String) :
    Except TapdProofError UInt64 := do
  let record ← requiredRecord records typeId
  let (value, cursor) ← readBigSize field record.value
  requireEnd cursor
  pure value

def parseRequiredCompressedKey (records : List TlvRecord) (typeId : UInt64) :
    Except TapdProofError CompressedKey := do
  let record ← requiredRecord records typeId
  requireLength "script_key" 33 record.value
  (compressedKeyFromStr (encodeHex record.value)).mapError fun _ =>
    .invalidRecordLength "script_key" 33 record.value.length

def parseOptionalU32 (records : List TlvRecord) (typeId : UInt64) (field : String) :
    Except TapdProofError (Option UInt32) :=
  match findRecord records typeId with
  | none => pure none
  | some record => do
    requireLength field 4 record.value
    pure (some (UInt32.ofNat (beValue record.value)))

def takeInlineVarBytes (field : String) (maxLen : ℕ) (cursor : Bytes) :
    Except TapdProofError (Bytes × Bytes) := do
  let (size, cursor) ← readBigSize field cursor
  rejectIf (maxLen < size.toNat) (.invalidRecordLength field maxLen size.toNat)
  takeBytes size.toNat field cursor

def displayTxidFromInternal (txid : Bytes32) : String := encodeHex txid.bytes.reverse

/-- The first prevout index is little-endian, the output index big-endian. -/
def taprootAssetsGenesisId (txidInternal : Bytes32) (firstPrevoutIndex : UInt32)
    (tagHash metaHash : Bytes32) (outputIndex : UInt32) (assetType : UInt8) : Bytes32 :=
  sha256 (txidInternal.bytes ++ (u32Bytes firstPrevoutIndex).reverse ++ tagHash.bytes ++
    metaHash.bytes ++ u32Bytes outputIndex ++ [assetType])

def requireAssetType (value : UInt8) : Except TapdProofError Unit := do
  let _ ← (AssetType.fromU8 value).mapError fun _ => .unsupportedAssetType value
  pure ()

def parseRequiredGenesis (records : List TlvRecord) :
    Except TapdProofError (TapdGenesisSummary × Bytes32) := do
  let record ← requiredRecord records assetLeafGenesis
  let (txidInternal, cursor) ← takeFixed 32 "genesis first prevout txid" record.value
  let (firstPrevoutIndex, cursor) ← takeU32 "genesis first prevout index" cursor
  let (tagBytes, cursor) ← takeInlineVarBytes "genesis tag" 64 cursor
  let (metaHash, cursor) ← takeFixed 32 "genesis meta hash" cursor
  let (outputIndex, cursor) ← takeU32 "genesis output index" cursor
  let (typeByte, cursor) ← takeFixed 1 "genesis asset type" cursor
  let assetType := typeByte.bytes.headD 0
  requireAssetType assetType
  requireEnd cursor
  let tagHash := sha256 tagBytes
  let firstPrevOut := displayTxidFromInternal txidInternal ++ ":" ++ toString firstPrevoutIndex.toNat
  pure (⟨firstPrevOut, fromUtf8 tagBytes, tagHash, metaHash, outputIndex, assetType⟩,
    taprootAssetsGenesisId txidInternal firstPrevoutIndex tagHash metaHash outputIndex assetType)

def parseTapdAssetLeaf (records : List TlvRecord) :
    Except TapdProofError (Option TapdAssetLeafSummary) :=
  match findRecord records typeAssetLeaf with
  | none => pure none
  | some record => do
    let leafRecords ← (decodeStream record.value).mapError .tlv
    (rejectUnknownRequired leafRecords knownAssetLeafTypes).mapError .tlv
    let assetVersion ← parseRequiredU8 leafRecords assetLeafVersion "asset_version"
    let assetType ← parseRequiredU8 leafRecords assetLeafType "asset_type"
    requireAssetType assetType
    let amount ← parseRequiredBigSize leafRecords assetLeafAmount "asset_amount"
    let scriptVersion ← parseRequiredU16 leafRecords assetLeafScriptVersion "script_version"
    let scriptKey ← parseRequiredCompressedKey leafRecords assetLeafScriptKey
    let (genesis, assetId) ← parseRequiredGenesis leafRecords
    rejectIf (genesis.assetType ≠ assetType) (.unsupportedAssetType assetType)
    pure (some
      { assetVersion, assetId, assetType, amount, scriptVersion, scriptKey, genesis
        previousWitnessCount := leafRecords.countP fun r => r.typeId = assetLeafPrevWitness })

def chainedChecksum (previousChecksum : Bytes32) (proof : Bytes) : Bytes32 :=
  sha256 (previousChecksum.bytes ++ proof)

def decodeSingleProofAt (bytes : Bytes) (proofIndex : ℕ) (chainChecksum : Bytes32) :
    Except TapdProofError TapdProofSummary := do
  let cursor ← expectMagic "TAPP" "TAPP" bytes
  let records ← (decodeStream cursor).mapError .tlv
  (rejectUnknownRequired records knownProofTypes).mapError .tlv
  let assetLeaf ← parseTapdAssetLeaf records
  let transitionVersion ← parseOptionalU32 records typeVersion "version"
  let blockHeight ← parseOptionalU32 records typeBlockHeight "block_height"
  pure
    { proofIndex
      rawLen := bytes.length
      rawDigest := sha256 bytes
      chainChecksum
      recordCount := records.length
      transitionVersion
      blockHeight
      hasPrevOut := hasRecord records typePrevOut
      hasBlockHeader := hasRecord records typeBlockHeader
      hasAnchorTx := hasRecord records typeAnchorTx
      hasTxMerkleProof := hasRecord records typeTxMerkleProof
      hasAssetLeaf := assetLeaf.isSome
      hasInclusionProof := hasRecord records typeInclusionProof
      hasGenesisReveal := hasRecord records typeGenesisReveal
      assetLeaf
      optionalUnknownRecordCount :=
        records.countP fun r => r.typeId % 2 = 1 ∧ r.typeId ∉ knownProofTypes }

/-- The bytes of one proof summary in memory, and the most an allocation may ask for. -/
def proofSummarySize : ℕ := 328
def maxAllocation : ℕ := 2 ^ 63 - 1

/-- The `remaining` proofs from `proofIndex` on: their summaries, the last checksum and
what follows them. -/
def decodeProofs : ℕ → ℕ → Bytes32 → Bytes →
    Except TapdProofError (List TapdProofSummary × Bytes32 × Bytes)
  | 0, _, previousChecksum, cursor => pure ([], previousChecksum, cursor)
  | remaining + 1, proofIndex, previousChecksum, cursor => do
    let (proofLen, cursor) ← readBigSize "proof length" cursor
    let (proofBytes, cursor) ← takeBytes proofLen.toNat "proof bytes" cursor
    let (actualChecksum, cursor) ← takeFixed 32 "proof checksum" cursor
    let expectedChecksum := chainedChecksum previousChecksum proofBytes
    rejectIf (actualChecksum ≠ expectedChecksum)
      (.invalidChecksum proofIndex expectedChecksum actualChecksum)
    let proof ← decodeSingleProofAt proofBytes proofIndex actualChecksum
    let (proofs, finalChecksum, rest) ←
      decodeProofs remaining (proofIndex + 1) actualChecksum cursor
    pure (proof :: proofs, finalChecksum, rest)

def decodeTapdProofFile (bytes : Bytes) : Except TapdProofError TapdProofFileSummary := do
  let cursor ← expectMagic "TAPF" "TAPF" bytes
  let (version, cursor) ← takeU32 "proof file version" cursor
  rejectIf (version ≠ tapdProofFileVersion) (.unsupportedFileVersion version)
  let (count, cursor) ← readBigSize "proof count" cursor
  let proofCount := count.toNat
  rejectIf (proofCount = 0) .emptyProofFile
  -- `Vec::with_capacity` panics beyond the largest allocation
  rejectIf (maxAllocation < proofSummarySize * proofCount) (.panicked "capacity overflow")
  let (proofs, finalChainChecksum, rest) ← decodeProofs proofCount 0 Bytes32.ZERO cursor
  requireEnd rest
  pure
    { sourceCommit := lightningLabsTaprootAssetsCommit
      version
      proofCount
      rawLen := bytes.length
      rawDigest := sha256 bytes
      finalChainChecksum
      proofs }

def decodeTapdSingleProof (bytes : Bytes) : Except TapdProofError TapdProofSummary :=
  decodeSingleProofAt bytes 0 (chainedChecksum Bytes32.ZERO bytes)

def wrapSingleProofAsTapdFile (bytes : Bytes) : Except TapdProofError Bytes := do
  let _ ← decodeTapdSingleProof bytes
  let checksum := chainedChecksum Bytes32.ZERO bytes
  rejectIf (maxAllocation < 4 + 4 + 9 + bytes.length + 32) (.panicked "capacity overflow")
  pure (utf8 "TAPF" ++ u32Bytes tapdProofFileVersion ++ encodeBigSize 1 ++
    encodeBigSize (UInt64.ofNat bytes.length) ++ bytes ++ checksum.bytes)

/-- The asset leaf of the last proof that has one. -/
def TapdProofFileSummary.latestAssetLeaf (summary : TapdProofFileSummary) :
    Option TapdAssetLeafSummary :=
  summary.proofs.reverse.findSome? (·.assetLeaf)

/-- A decoded file reports the digest of its own bytes. -/
theorem decodeTapdProofFile_rawDigest {bytes : Bytes} {summary : TapdProofFileSummary}
    (h : decodeTapdProofFile bytes = .ok summary) : summary.rawDigest = sha256 bytes := by
  simp only [decodeTapdProofFile, bind_eq_ok, pure_eq_ok, Except.ok.injEq] at h
  obtain ⟨_, _, _, _, _, _, _, _, _, _, _, _, _, _, _, _, rfl⟩ := h
  rfl

end TapLdk.TapdProof
