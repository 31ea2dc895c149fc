import Mathlib
import TapLdk.LibraryRequests
import TapLdk.TapdProofFormat

/-! The decoder of proof files with its slices, indexes and capacities written out: all of them
stay within the bytes that remain, but the capacity for as many proofs as a file declares. -/
namespace TapLdk.TapdProofRequests
open TapLdk.LibraryExcept TapLdk.LibraryBytes TapLdk.LibrarySha256 TapLdk.LibraryRequests
open TapLdk.LibraryRequests.Tracked TapLdk.Mssmt
open TapLdk.Tlv (TlvRecord TlvError)
open TapLdk.Asset (CompressedKey AssetError)
open TapLdk.TapdProof (TapdProofError TapdProofSummary TapdProofFileSummary TapdAssetLeafSummary
  TapdGenesisSummary maxAllocation proofSummarySize)
open TapLdk.TapdProofFormat (Allocatable)

variable {ε : Type}

/-- `split_at`, which panics beyond the end. -/
def splitAt (n : ℕ) (bytes : Bytes) : Tracked ε (Bytes × Bytes) := do
  request n bytes.length
  pure (bytes.take n, bytes.drop n)

/-- `try_into().expect(..)`, which panics on a slice of another length. -/
def intoArray (n : ℕ) (bytes : Bytes) : Tracked ε (FixedBytes n) :=
  ⟨[], match FixedBytes.ofBytes n bytes with
    | some array => .ok array
    | none => .panic⟩

theorem follows_splitAt {n : ℕ} {bytes : Bytes} (h : n ≤ bytes.length) :
    Follows (splitAt n bytes : Tracked ε (Bytes × Bytes)) (.ok (bytes.take n, bytes.drop n)) :=
  .request h (follows_pure _)

theorem follows_intoArray {n : ℕ} {bytes : Bytes} (h : bytes.length = n) :
    Follows (intoArray n bytes : Tracked ε (FixedBytes n)) (.ok ⟨bytes, h⟩) := by
  refine ⟨nofun, ?_⟩
  rw [intoArray, FixedBytes.ofBytes, dif_pos h]
  rfl

def takeArray (n : ℕ) (bytes : Bytes) : Tracked TlvError (Bytes × Bytes) := do
  lift (rejectIf (bytes.length < n) .truncatedBigSize)
  let (head, tail) ← splitAt n bytes
  let array ← intoArray n head
  pure (array.bytes, tail)

def decodeBigSize : Bytes → Tracked TlvError (UInt64 × Bytes)
  | [] => lift (.error .truncatedBigSize)
  | first :: rest =>
    if first ≤ 0xfc then pure (UInt64.ofNat first.toNat, rest)
    else if first = 0xfd then wide 2 0xfd rest
    else if first = 0xfe then wide 4 0x10000 rest
    else wide 8 0x100000000 rest
where
  wide (width : ℕ) (minimum : UInt64) (rest : Bytes) : Tracked TlvError (UInt64 × Bytes) := do
    let (head, tail) ← takeArray width rest
    let value ← lift (Tlv.requireCanonical (UInt64.ofNat (beValue head)) minimum)
    pure (value, tail)

def decodeRecord (cursor : Bytes) : Tracked TlvError (TlvRecord × Bytes) := do
  let (typeId, cursor) ← decodeBigSize cursor
  let (size, cursor) ← decodeBigSize cursor
  let len := size.toNat
  lift (rejectIf (cursor.length < len) (.truncatedRecord typeId len cursor.length))
  -- `cursor[..len]` and `cursor[len..]`
  request len cursor.length
  request len cursor.length
  pure (⟨typeId, cursor.take len⟩, cursor.drop len)

def decodeRecords : ℕ → Bytes → Tracked TlvError (List TlvRecord)
  | _, [] => pure []
  | 0, _ :: _ => lift (.error .truncatedBigSize)
  | fuel + 1, cursor => do
    let (record, rest) ← decodeRecord cursor
    let records ← decodeRecords fuel rest
    pure (record :: records)

def decodeStream (bytes : Bytes) : Tracked TlvError (List TlvRecord) := do
  let records ← decodeRecords bytes.length bytes
  lift (Tlv.ensureSortedUnique none records)
  pure records

theorem takeArray_follows (n : ℕ) (bytes : Bytes) :
    Follows (takeArray n bytes) (Tlv.takeArray n bytes) := by
  refine .check fun h => ?_
  rw [not_lt] at h
  have hhead : (bytes.take n).length = n := by rw [List.length_take, min_eq_left h]
  exact (follows_splitAt h).step ((follows_intoArray hhead).step (follows_pure _))

theorem decodeBigSize_follows (bytes : Bytes) :
    Follows (decodeBigSize bytes) (Tlv.decodeBigSize bytes) := by
  have hwide (width : ℕ) (minimum : UInt64) (rest : Bytes) :
      Follows (decodeBigSize.wide width minimum rest)
        (Tlv.decodeBigSize.wide width minimum rest) :=
    (takeArray_follows width rest).bind fun _ _ =>
      (follows_lift _).bind fun _ _ => follows_pure _
  cases bytes with
  | nil => exact follows_lift _
  | cons first rest =>
    unfold decodeBigSize Tlv.decodeBigSize
    dsimp only
    split_ifs
    · exact follows_pure _
    · exact hwide _ _ _
    · exact hwide _ _ _
    · exact hwide _ _ _

theorem decodeRecord_follows (cursor : Bytes) :
    Follows (decodeRecord cursor) (Tlv.decodeRecord cursor) := by
  refine (decodeBigSize_follows cursor).bind fun _ _ => (decodeBigSize_follows _).bind fun _ _ => ?_
  refine .check fun h => ?_
  rw [not_lt] at h
  exact .request h (.request h (follows_pure _))

theorem decodeRecords_follows (fuel : ℕ) (cursor : Bytes) :
    Follows (decodeRecords fuel cursor) (Tlv.decodeRecords fuel cursor) := by
  induction fuel generalizing cursor with
  | zero =>
    cases cursor with
    | nil => exact follows_pure _
    | cons => exact follows_lift _
  | succ fuel ih =>
    cases cursor with
    | nil => exact follows_pure _
    | cons => exact (decodeRecord_follows _).bind fun _ _ => (ih _).bind fun _ _ => follows_pure _

theorem decodeStream_follows (bytes : Bytes) :
    Follows (decodeStream bytes) (Tlv.decodeStream bytes) :=
  (decodeRecords_follows _ _).bind fun _ _ => (follows_lift _).bind fun _ _ => follows_pure _

def takeBytes (len : ℕ) (field : String) (cursor : Bytes) :
    Tracked TapdProofError (Bytes × Bytes) := do
  lift (rejectIf (cursor.length < len) (.truncated field len cursor.length))
  splitAt len cursor

def takeFixed (n : ℕ) (field : String) (cursor : Bytes) :
    Tracked TapdProofError (FixedBytes n × Bytes) := do
  lift (rejectIf (cursor.length < n) (.truncated field n cursor.length))
  let (head, tail) ← splitAt n cursor
  let array ← intoArray n head
  pure (array, tail)

def takeU32 (field : String) (cursor : Bytes) : Tracked TapdProofError (UInt32 × Bytes) := do
  let (head, tail) ← takeFixed 4 field cursor
  pure (UInt32.ofNat (beValue head.bytes), tail)

def readBigSize (field : String) (cursor : Bytes) : Tracked TapdProofError (UInt64 × Bytes) :=
  (decodeBigSize cursor).mapError fun error =>
    match error with
    | .truncatedBigSize => .truncated field 1 0
    | other => .tlv other

def expectMagic (expected expectedName : String) (cursor : Bytes) : Tracked TapdProofError Bytes := do
  let (actual, tail) ← takeFixed 4 "magic" cursor
  lift (rejectIf (actual.bytes ≠ utf8 expected) (.invalidMagic expectedName actual.bytes))
  pure tail

def takeInlineVarBytes (field : String) (maxLen : ℕ) (cursor : Bytes) :
    Tracked TapdProofError (Bytes × Bytes) := do
  let (size, cursor) ← readBigSize field cursor
  lift (rejectIf (maxLen < size.toNat) (.invalidRecordLength field maxLen size.toNat))
  takeBytes size.toNat field cursor

theorem takeBytes_follows (len : ℕ) (field : String) (cursor : Bytes) :
    Follows (takeBytes len field cursor) (TapdProof.takeBytes len field cursor) :=
  .check fun h => follows_splitAt (not_lt.mp h)

theorem takeFixed_follows (n : ℕ) (field : String) (cursor : Bytes) :
    Follows (takeFixed n field cursor) (TapdProof.takeFixed n field cursor) := by
  unfold takeFixed TapdProof.takeFixed
  by_cases h : cursor.length < n
  · rw [dif_pos h, rejectIf, if_pos h]
    exact ⟨fun _ hmem => absurd hmem List.not_mem_nil, rfl⟩
  · rw [dif_neg h, rejectIf_false h]
    rw [not_lt] at h
    have hhead : (cursor.take n).length = n := by rw [List.length_take, min_eq_left h]
    exact (follows_lift _).step
      ((follows_splitAt h).step ((follows_intoArray hhead).step (follows_pure _)))

theorem takeU32_follows (field : String) (cursor : Bytes) :
    Follows (takeU32 field cursor) (TapdProof.takeU32 field cursor) :=
  (takeFixed_follows 4 field cursor).bind fun _ _ => follows_pure _

theorem readBigSize_follows (field : String) (cursor : Bytes) :
    Follows (readBigSize field cursor) (TapdProof.readBigSize field cursor) :=
  (decodeBigSize_follows cursor).mapError _

theorem expectMagic_follows (expected expectedName : String) (cursor : Bytes) :
    Follows (expectMagic expected expectedName cursor)
      (TapdProof.expectMagic expected expectedName cursor) :=
  (takeFixed_follows 4 "magic" cursor).bind fun _ _ => .check fun _ => follows_pure _

theorem takeInlineVarBytes_follows (field : String) (maxLen : ℕ) (cursor : Bytes) :
    Follows (takeInlineVarBytes field maxLen cursor)
      (TapdProof.takeInlineVarBytes field maxLen cursor) :=
  (readBigSize_follows field cursor).bind fun _ _ => .check fun _ => takeBytes_follows _ _ _

/-- The text takes two digits of a table of sixteen for each byte. -/
def encodeHex (bytes : Bytes) : Tracked ε String := do
  request (bytes.length * 2) maxAllocation
  bytes.forM fun byte => do
    request (byte.toNat / 16 + 1) 16
    request (byte.toNat % 16 + 1) 16
  pure (LibraryBytes.encodeHex bytes)

/-- A text that splits a character between two pairs panics. -/
def compressedKeyFromStr (value : String) : Tracked AssetError CompressedKey :=
  match Asset.compressedKeyFromStr value with
  | .error (.panicked _) => ⟨[], .panic⟩
  | result => lift result

theorem encodeHex_follows {bytes : Bytes} (h : bytes.length * 2 ≤ maxAllocation) :
    Follows (encodeHex bytes : Tracked ε String) (.ok (LibraryBytes.encodeHex bytes)) := by
  have hdigits (bytes : Bytes) : Follows (bytes.forM fun byte => (do
      request (byte.toNat / 16 + 1) 16
      request (byte.toNat % 16 + 1) 16 : Tracked ε Unit)) (.ok ()) := by
    induction bytes with
    | nil => exact follows_pure _
    | cons byte bytes ih =>
      have hlt := byte.toNat_lt
      exact Follows.step (.request (by omega) (follows_request (by omega))) ih
  exact .request h ((hdigits bytes).step (follows_pure _))

theorem compressedKeyFromStr_follows (bytes : Bytes) :
    Follows (compressedKeyFromStr (LibraryBytes.encodeHex bytes))
      (Asset.compressedKeyFromStr (LibraryBytes.encodeHex bytes)) := by
  have hnever (message : String) : Asset.compressedKeyFromStr (LibraryBytes.encodeHex bytes) ≠
      .error (.panicked message) := by
    rw [Asset.compressedKeyFromStr, Asset.decodeHex_encodeHex, ok_bind]
    cases FixedBytes.ofBytes 33 bytes with
    | none => simp [okOr]
    | some key =>
      rw [okOr, ok_bind]
      dsimp only
      by_cases hbad : bytes.headD 0 ≠ 2 ∧ bytes.headD 0 ≠ 3
      · rw [rejectIf, if_pos hbad]
        simp
      · rw [rejectIf_false hbad]
        simp
  unfold compressedKeyFromStr
  split
  · exact absurd ‹_› (hnever _)
  · exact follows_lift _

def parseRequiredU8 (records : List TlvRecord) (typeId : UInt64) (field : String) :
    Tracked TapdProofError UInt8 := do
  let record ← lift (TapdProof.requiredRecord records typeId)
  lift (TapdProof.requireLength field 1 record.value)
  -- `record.value[0]`
  request 1 record.value.length
  pure (record.value.headD 0)

def parseRequiredU16 (records : List TlvRecord) (typeId : UInt64) (field : String) :
    Tracked TapdProofError UInt16 := do
  let record ← lift (TapdProof.requiredRecord records typeId)
  lift (TapdProof.requireLength field 2 record.value)
  let array ← intoArray 2 record.value
  pure (UInt16.ofNat (beValue array.bytes))

def parseRequiredBigSize (records : List TlvRecord) (typeId : UInt64) (field : String) :
    Tracked TapdProofError UInt64 := do
  let record ← lift (TapdProof.requiredRecord records typeId)
  let (value, cursor) ← readBigSize field record.value
  lift (TapdProof.requireEnd cursor)
  pure value

def parseRequiredCompressedKey (records : List TlvRecord) (typeId : UInt64) :
    Tracked TapdProofError CompressedKey := do
  let record ← lift (TapdProof.requiredRecord records typeId)
  lift (TapdProof.requireLength "script_key" 33 record.value)
  let text ← encodeHex record.value
  (compressedKeyFromStr text).mapError fun _ =>
    .invalidRecordLength "script_key" 33 record.value.length

def parseOptionalU32 (records : List TlvRecord) (typeId : UInt64) (field : String) :
    Tracked TapdProofError (Option UInt32) :=
  match TapdProof.findRecord records typeId with
  | none => pure none
  | some record => do
    lift (TapdProof.requireLength field 4 record.value)
    let array ← intoArray 4 record.value
    pure (some (UInt32.ofNat (beValue array.bytes)))

def parseRequiredGenesis (records : List TlvRecord) :
    Tracked TapdProofError (TapdGenesisSummary × Bytes32) := do
  let record ← lift (TapdProof.requiredRecord records TapdProof.assetLeafGenesis)
  let (txidInternal, cursor) ← takeFixed 32 "genesis first prevout txid" record.value
  let (firstPrevoutIndex, cursor) ← takeU32 "genesis first prevout index" cursor
  let (tagBytes, cursor) ← takeInlineVarBytes "genesis tag" 64 cursor
  let (metaHash, cursor) ← takeFixed 32 "genesis meta hash" cursor
  let (outputIndex, cursor) ← takeU32 "genesis output index" cursor
  let (typeByte, cursor) ← takeFixed 1 "genesis asset type" cursor
  let assetType := typeByte.bytes.headD 0
  lift (TapdProof.requireAssetType assetType)
  lift (TapdProof.requireEnd cursor)
  let tagHash := sha256 tagBytes
  let txid ← encodeHex txidInternal.bytes.reverse
  let firstPrevOut := txid ++ ":" ++ toString firstPrevoutIndex.toNat
  pure (⟨firstPrevOut, fromUtf8 tagBytes, tagHash, metaHash, outputIndex, assetType⟩,
    TapdProof.taprootAssetsGenesisId txidInternal firstPrevoutIndex tagHash metaHash outputIndex
      assetType)

def parseTapdAssetLeaf (records : List TlvRecord) :
    Tracked TapdProofError (Option TapdAssetLeafSummary) :=
  match TapdProof.findRecord records TapdProof.typeAssetLeaf with
  | none => pure none
  | some record => do
    let leafRecords ← (decodeStream record.value).mapError .tlv
    lift ((Tlv.rejectUnknownRequired leafRecords TapdProof.knownAssetLeafTypes).mapError .tlv)
    let assetVersion ← parseRequiredU8 leafRecords TapdProof.assetLeafVersion "asset_version"
    let assetType ← parseRequiredU8 leafRecords TapdProof.assetLeafType "asset_type"
    lift (TapdProof.requireAssetType assetType)
    let amount ← parseRequiredBigSize leafRecords TapdProof.assetLeafAmount "asset_amount"
    let scriptVersion ←
      parseRequiredU16 leafRecords TapdProof.assetLeafScriptVersion "script_version"
    let scriptKey ← parseRequiredCompressedKey leafRecords TapdProof.assetLeafScriptKey
    let (genesis, assetId) ← parseRequiredGenesis leafRecords
    lift (rejectIf (genesis.assetType ≠ assetType) (.unsupportedAssetType assetType))
    pure (some
      { assetVersion, assetId, assetType, amount, scriptVersion, scriptKey, genesis
        previousWitnessCount :=
          leafRecords.countP fun r => r.typeId = TapdProof.assetLeafPrevWitness })

theorem requireLength_eq_ok {field : String} {expected : ℕ} {value : Bytes} {u : Unit} :
    TapdProof.requireLength field expected value = .ok u ↔ value.length = expected := by
  rw [TapdProof.requireLength, rejectIf_eq_ok, not_not]

theorem parseRequiredU8_follows (records : List TlvRecord) (typeId : UInt64) (field : String) :
    Follows (parseRequiredU8 records typeId field)
      (TapdProof.parseRequiredU8 records typeId field) := by
  refine (follows_lift _).bind fun record _ => (follows_lift _).bind fun _ hlength => ?_
  exact .request (requireLength_eq_ok.mp hlength).ge (follows_pure _)

theorem parseRequiredU16_follows (records : List TlvRecord) (typeId : UInt64) (field : String) :
    Follows (parseRequiredU16 records typeId field)
      (TapdProof.parseRequiredU16 records typeId field) := by
  refine (follows_lift _).bind fun record _ => (follows_lift _).bind fun _ hlength => ?_
  exact (follows_intoArray (requireLength_eq_ok.mp hlength)).step (follows_pure _)

theorem parseRequiredBigSize_follows (records : List TlvRecord) (typeId : UInt64)
    (field : String) : Follows (parseRequiredBigSize records typeId field)
      (TapdProof.parseRequiredBigSize records typeId field) :=
  (follows_lift _).bind fun _ _ => (readBigSize_follows _ _).bind fun _ _ =>
    (follows_lift _).bind fun _ _ => follows_pure _

theorem parseRequiredCompressedKey_follows (records : List TlvRecord) (typeId : UInt64) :
    Follows (parseRequiredCompressedKey records typeId)
      (TapdProof.parseRequiredCompressedKey records typeId) := by
  refine (follows_lift _).bind fun record _ => (follows_lift _).bind fun _ hlength => ?_
  have hfits : record.value.length * 2 ≤ maxAllocation := by
    rw [requireLength_eq_ok.mp hlength]
    decide
  exact (encodeHex_follows hfits).step ((compressedKeyFromStr_follows _).mapError _)

theorem parseOptionalU32_follows (records : List TlvRecord) (typeId : UInt64) (field : String) :
    Follows (parseOptionalU32 records typeId field)
      (TapdProof.parseOptionalU32 records typeId field) := by
  unfold parseOptionalU32 TapdProof.parseOptionalU32
  cases TapdProof.findRecord records typeId with
  | none => exact follows_pure _
  | some record =>
    refine (follows_lift _).bind fun _ hlength => ?_
    exact (follows_intoArray (requireLength_eq_ok.mp hlength)).step (follows_pure _)

theorem parseRequiredGenesis_follows (records : List TlvRecord) :
    Follows (parseRequiredGenesis records) (TapdProof.parseRequiredGenesis records) := by
  refine (follows_lift _).bind fun record _ => ?_
  refine (takeFixed_follows _ _ _).bind fun ⟨txid, cursor⟩ _ => ?_
  refine (takeU32_follows _ _).bind fun _ _ => ?_
  refine (takeInlineVarBytes_follows _ _ _).bind fun _ _ => ?_
  refine (takeFixed_follows _ _ _).bind fun _ _ => ?_
  refine (takeU32_follows _ _).bind fun _ _ => ?_
  refine (takeFixed_follows _ _ _).bind fun _ _ => ?_
  refine (follows_lift _).bind fun _ _ => (follows_lift _).bind fun _ _ => ?_
  have hfits : txid.bytes.reverse.length * 2 ≤ maxAllocation := by
    rw [List.length_reverse, txid.length_eq]
    decide
  exact (encodeHex_follows hfits).step (follows_pure _)

theorem parseTapdAssetLeaf_follows (records : List TlvRecord) :
    Follows (parseTapdAssetLeaf records) (TapdProof.parseTapdAssetLeaf records) := by
  unfold parseTapdAssetLeaf TapdProof.parseTapdAssetLeaf
  cases TapdProof.findRecord records TapdProof.typeAssetLeaf with
  | none => exact follows_pure _
  | some record =>
    refine ((decodeStream_follows _).mapError _).bind fun _ _ => ?_
    refine (follows_lift _).bind fun _ _ => ?_
    refine (parseRequiredU8_follows _ _ _).bind fun _ _ => ?_
    refine (parseRequiredU8_follows _ _ _).bind fun _ _ => ?_
    refine (follows_lift _).bind fun _ _ => ?_
    refine (parseRequiredBigSize_follows _ _ _).bind fun _ _ => ?_
    refine (parseRequiredU16_follows _ _ _).bind fun _ _ => ?_
    refine (parseRequiredCompressedKey_follows _ _).bind fun _ _ => ?_
    refine (parseRequiredGenesis_follows _).bind fun _ _ => ?_
    exact .check fun _ => follows_pure _

def decodeSingleProofAt (bytes : Bytes) (proofIndex : ℕ) (chainChecksum : Bytes32) :
    Tracked TapdProofError TapdProofSummary := do
  let cursor ← expectMagic "TAPP" "TAPP" bytes
  let records ← (decodeStream cursor).mapError .tlv
  lift ((Tlv.rejectUnknownRequired records TapdProof.knownProofTypes).mapError .tlv)
  let assetLeaf ← parseTapdAssetLeaf records
  let transitionVersion ← parseOptionalU32 records TapdProof.typeVersion "version"
  let blockHeight ← parseOptionalU32 records TapdProof.typeBlockHeight "block_height"
  pure
    { proofIndex
      rawLen := bytes.length
      rawDigest := sha256 bytes
      chainChecksum
      recordCount := records.length
      transitionVersion
      blockHeight
      hasPrevOut := TapdProof.hasRecord records TapdProof.typePrevOut
      hasBlockHeader := TapdProof.hasRecord records TapdProof.typeBlockHeader
      hasAnchorTx := TapdProof.hasRecord records TapdProof.typeAnchorTx
      hasTxMerkleProof := TapdProof.hasRecord records TapdProof.typeTxMerkleProof
      hasAssetLeaf := assetLeaf.isSome
      hasInclusionProof := TapdProof.hasRecord records TapdProof.typeInclusionProof
      hasGenesisReveal := TapdProof.hasRecord records TapdProof.typeGenesisReveal
      assetLeaf
      optionalUnknownRecordCount :=
        records.countP fun r => r.typeId % 2 = 1 ∧ r.typeId ∉ TapdProof.knownProofTypes }

def decodeProofs : ℕ → ℕ → Bytes32 → Bytes →
    Tracked TapdProofError (List TapdProofSummary × Bytes32 × Bytes)
  | 0, _, previousChecksum, cursor => pure ([], previousChecksum, cursor)
  | remaining + 1, proofIndex, previousChecksum, cursor => do
    let (proofLen, cursor) ← readBigSize "proof length" cursor
    let (proofBytes, cursor) ← takeBytes proofLen.toNat "proof bytes" cursor
    let (actualChecksum, cursor) ← takeFixed 32 "proof checksum" cursor
    let expectedChecksum := TapdProof.chainedChecksum previousChecksum proofBytes
    lift (rejectIf (actualChecksum ≠ expectedChecksum)
      (.invalidChecksum proofIndex expectedChecksum actualChecksum))
    let proof ← decodeSingleProofAt proofBytes proofIndex actualChecksum
    let (proofs, finalChecksum, rest) ←
      decodeProofs remaining (proofIndex + 1) actualChecksum cursor
    pure (proof :: proofs, finalChecksum, rest)

/-- The version and the declared count of a file, and what follows them. -/
def decodeHeader (bytes : Bytes) : Tracked TapdProofError (UInt32 × UInt64 × Bytes) := do
  let cursor ← expectMagic "TAPF" "TAPF" bytes
  let (version, cursor) ← takeU32 "proof file version" cursor
  lift (rejectIf (version ≠ TapdProof.tapdProofFileVersion) (.unsupportedFileVersion version))
  let (count, cursor) ← readBigSize "proof count" cursor
  lift (rejectIf (count.toNat = 0) .emptyProofFile)
  pure (version, count, cursor)

/-- The proofs that a file declares, and the summary of the file. -/
def decodeBody (bytes : Bytes) (version : UInt32) (proofCount : ℕ) (cursor : Bytes) :
    Tracked TapdProofError TapdProofFileSummary := do
  let (proofs, finalChainChecksum, rest) ← decodeProofs proofCount 0 Bytes32.ZERO cursor
  lift (TapdProof.requireEnd rest)
  pure
    { sourceCommit := TapdProof.lightningLabsTaprootAssetsCommit
      version
      proofCount
      rawLen := bytes.length
      rawDigest := sha256 bytes
      finalChainChecksum
      proofs }

/-- Between the two stands `Vec::with_capacity`, for as many proofs as the file declares. -/
def decodeTapdProofFile (bytes : Bytes) : Tracked TapdProofError TapdProofFileSummary := do
  let (version, count, cursor) ← decodeHeader bytes
  withCapacity proofSummarySize maxAllocation count.toNat cursor.length
  decodeBody bytes version count.toNat cursor

theorem decodeSingleProofAt_follows (bytes : Bytes) (proofIndex : ℕ) (chainChecksum : Bytes32) :
    Follows (decodeSingleProofAt bytes proofIndex chainChecksum)
      (TapdProof.decodeSingleProofAt bytes proofIndex chainChecksum) := by
  refine (expectMagic_follows _ _ _).bind fun _ _ => ?_
  refine ((decodeStream_follows _).mapError _).bind fun _ _ => ?_
  refine (follows_lift _).bind fun _ _ => ?_
  refine (parseTapdAssetLeaf_follows _).bind fun _ _ => ?_
  refine (parseOptionalU32_follows _ _ _).bind fun _ _ => ?_
  exact (parseOptionalU32_follows _ _ _).bind fun _ _ => follows_pure _

theorem decodeProofs_follows (remaining proofIndex : ℕ) (previousChecksum : Bytes32)
    (cursor : Bytes) : Follows (decodeProofs remaining proofIndex previousChecksum cursor)
      (TapdProof.decodeProofs remaining proofIndex previousChecksum cursor) := by
  induction remaining generalizing proofIndex previousChecksum cursor with
  | zero => exact follows_pure _
  | succ remaining ih =>
    refine (readBigSize_follows _ _).bind fun _ _ => ?_
    refine (takeBytes_follows _ _ _).bind fun _ _ => ?_
    refine (takeFixed_follows _ _ _).bind fun _ _ => ?_
    refine .check fun _ => ?_
    refine (decodeSingleProofAt_follows _ _ _).bind fun _ _ => ?_
    exact (ih _ _ _).bind fun _ _ => follows_pure _

/-- The version, the declared count and the rest of the files that have a header. -/
def header (bytes : Bytes) : Except TapdProofError (UInt32 × UInt64 × Bytes) := do
  let cursor ← TapdProof.expectMagic "TAPF" "TAPF" bytes
  let (version, cursor) ← TapdProof.takeU32 "proof file version" cursor
  rejectIf (version ≠ TapdProof.tapdProofFileVersion) (.unsupportedFileVersion version)
  let (count, cursor) ← TapdProof.readBigSize "proof count" cursor
  rejectIf (count.toNat = 0) .emptyProofFile
  pure (version, count, cursor)

def body (bytes : Bytes) (version : UInt32) (proofCount : ℕ) (cursor : Bytes) :
    Except TapdProofError TapdProofFileSummary := do
  let (proofs, finalChainChecksum, rest) ←
    TapdProof.decodeProofs proofCount 0 Bytes32.ZERO cursor
  TapdProof.requireEnd rest
  pure
    { sourceCommit := TapdProof.lightningLabsTaprootAssetsCommit
      version
      proofCount
      rawLen := bytes.length
      rawDigest := sha256 bytes
      finalChainChecksum
      proofs }

theorem decodeHeader_follows (bytes : Bytes) : Follows (decodeHeader bytes) (header bytes) := by
  refine (expectMagic_follows _ _ _).bind fun _ _ => (takeU32_follows _ _).bind fun _ _ => ?_
  refine .check fun _ => (readBigSize_follows _ _).bind fun _ _ => ?_
  exact .check fun _ => follows_pure _

theorem decodeBody_follows (bytes : Bytes) (version : UInt32) (proofCount : ℕ) (cursor : Bytes) :
    Follows (decodeBody bytes version proofCount cursor) (body bytes version proofCount cursor) :=
  (decodeProofs_follows _ _ _ _).bind fun _ _ => (follows_lift _).bind fun _ _ => follows_pure _

/-- The file's decoder is its header, the check of the capacity and its body. -/
theorem decodeTapdProofFile_eq (bytes : Bytes) :
    TapdProof.decodeTapdProofFile bytes = (do
      let (version, count, cursor) ← header bytes
      rejectIf (maxAllocation < proofSummarySize * count.toNat) (.panicked "capacity overflow")
      body bytes version count.toNat cursor) := by
  unfold TapdProof.decodeTapdProofFile header body
  simp only [bind_assoc, pure_bind]

/-- The file declares no more proofs than bytes follow the count, and their summaries fit the
largest allocation. -/
def DeclaresWhatCanCome (bytes : Bytes) : Prop :=
  ∀ (version : UInt32) (count : UInt64) (rest : Bytes), header bytes = .ok (version, count, rest) →
    count.toNat ≤ rest.length ∧ Allocatable count.toNat

/-- On such a file the decoder ends as it does without its requests. -/
theorem decodeTapdProofFile_follows {bytes : Bytes} (h : DeclaresWhatCanCome bytes) :
    Follows (decodeTapdProofFile bytes) (TapdProof.decodeTapdProofFile bytes) := by
  rw [decodeTapdProofFile_eq]
  refine (decodeHeader_follows bytes).bind fun ⟨version, count, rest⟩ hheader => ?_
  obtain ⟨hcome, hfits⟩ := h version count rest hheader
  have hbody := decodeBody_follows bytes version count.toNat rest
  dsimp only
  rw [rejectIf_false (not_lt.mpr hfits), ok_bind]
  refine Follows.step (a := ()) ⟨?_, if_pos hfits⟩ hbody
  exact List.forall_mem_singleton.mpr hcome

/-- The decoder neither panics nor asks for more than there is exactly on the files that do not
declare more proofs than can come. -/
theorem decodeTapdProofFile_safe_iff (bytes : Bytes) :
    Safe (decodeTapdProofFile bytes) ↔ DeclaresWhatCanCome bytes := by
  refine (safe_bind_iff (decodeHeader_follows bytes)).trans ⟨fun h version count rest hheader => ?_,
    fun h ⟨version, count, rest⟩ hheader => ?_⟩
  · exact (safe_withCapacity_bind_iff (decodeBody_follows ..)).mp (h _ hheader)
  · exact (safe_withCapacity_bind_iff (decodeBody_follows ..)).mpr (h _ _ _ hheader)

/-- A file of seventeen bytes that declares 2^64 - 1 proofs. -/
def overdeclared : Bytes := utf8 "TAPF" ++ List.replicate 4 0 ++ List.replicate 9 255

theorem overdeclared_panics : ¬ Safe (decodeTapdProofFile overdeclared) := by
  intro h
  have hpanic : (decodeTapdProofFile overdeclared).outcome = .panic := by rfl
  exact h.1 hpanic

end TapLdk.TapdProofRequests
