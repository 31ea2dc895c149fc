import Mathlib
import TapLdk.TlvFields
import TapLdk.TapdAncestry

/-! What decoding establishes about the texts and the keys of a proof file, and about the
keys in an ancestry file. -/
namespace TapLdk.DecodedProofs
open TapLdk.LibraryExcept TapLdk.LibraryMaps TapLdk.LibraryBytes TapLdk.LibrarySha256
open TapLdk.Mssmt TapLdk.Asset TapLdk.Tlv TapLdk.TlvCanonical TapLdk.TlvFields TapLdk.TapdProof TapLdk.Proof
open TapLdk.TapdAncestry

theorem decodeStream_lengths {bytes : Bytes} {records : List TlvRecord}
    (h : decodeStream bytes = .ok records) : ∀ r ∈ records, r.value.length < 2 ^ 64 :=
  (isStream_iff.mp (decodeStream_eq_ok.mp h)).2.1

theorem parseCompressedKey_hasKeyPrefix {bytes : Bytes} {key : CompressedKey}
    (h : compressedKeyFromStr (encodeHex bytes) = .ok key) : HasKeyPrefix key := by
  simp only [compressedKeyFromStr, Asset.decodeHex_encodeHex, ok_bind, bind_eq_ok, okOr_eq_ok,
    rejectIf_eq_ok, exists_const, pure_eq_ok, Except.ok.injEq, FixedBytes.ofBytes_eq_some] at h
  obtain ⟨key', rfl, hfirst, rfl⟩ := h
  unfold HasKeyPrefix
  tauto

/-- A decoded proof has a key with a point prefix and texts that fit its encoding. -/
theorem decode_spec {bytes : Bytes} {proof : ProofFile}
    (h : ProofFile.decode bytes = .ok proof) :
    HasKeyPrefix proof.scriptKey ∧ TextsFit proof := by
  simp only [ProofFile.decode, bind_eq_ok, mapError_eq_ok, required, parseString,
    parseCompressedKey, okOr_eq_ok, pure_eq_ok, Except.ok.injEq] at h
  obtain ⟨records, hrecords, _, -, _, -, _, -, _, -, _, -, genesisBytes, hgenesis, genesis,
    hgenesisText, anchorBytes, hanchor, anchor, hanchorText, _, -, _, -, _, -, key, hkey, _, -, _,
    -, _, -, _, -, _, -, _, -, _, -, _, -, _, -, _, -, _, -, _, -, rfl⟩ := h
  have hlengths := decodeStream_lengths hrecords
  refine ⟨parseCompressedKey_hasKeyPrefix hkey, ?_, ?_⟩
  · rw [utf8_of_fromUtf8 hgenesisText]
    exact hlengths _ (mem_of_recordMap hgenesis)
  · rw [utf8_of_fromUtf8 hanchorText]
    exact hlengths _ (mem_of_recordMap hanchor)

theorem parseTapdAssetLeaf_hasKeyPrefix {records : List TlvRecord} {leaf : TapdAssetLeafSummary}
    (h : parseTapdAssetLeaf records = .ok (some leaf)) : HasKeyPrefix leaf.scriptKey := by
  unfold parseTapdAssetLeaf at h
  split at h
  · cases h
  · simp only [bind_eq_ok, mapError_eq_ok, parseRequiredCompressedKey, pure_eq_ok,
      Except.ok.injEq, Option.some.injEq] at h
    obtain ⟨_, -, _, -, _, -, _, -, _, -, _, -, _, -, key, ⟨_, -, _, -, hkey⟩, _, -, _, -, rfl⟩ := h
    exact parseCompressedKey_hasKeyPrefix hkey

theorem decodeSingleProofAt_hasKeyPrefix {bytes : Bytes} {index : ℕ} {checksum : Bytes32}
    {summary : TapdProofSummary} {leaf : TapdAssetLeafSummary}
    (h : decodeSingleProofAt bytes index checksum = .ok summary)
    (hleaf : summary.assetLeaf = some leaf) : HasKeyPrefix leaf.scriptKey := by
  simp only [decodeSingleProofAt, bind_eq_ok, pure_eq_ok, Except.ok.injEq] at h
  obtain ⟨_, -, records, -, _, -, assetLeaf, hasset, _, -, _, -, rfl⟩ := h
  apply @parseTapdAssetLeaf_hasKeyPrefix records
  rw [hasset]
  exact congrArg Except.ok hleaf

/-- The key of a proof that an ancestry file is checked against has a point prefix. -/
theorem tapd_hasKeyPrefix {bytes : Bytes} {summary : TapdProofFileSummary} {proof : ProofFile}
    {report : ProofValidationReport} (hdecode : decodeTapdProofFile bytes = .ok summary)
    (h : proof.verifySemanticAncestry (.forTapdImport summary) = .ok report) :
    HasKeyPrefix proof.scriptKey := by
  obtain ⟨-, leaf, hlatest, -, -, hkey⟩ := validateTapdAncestry_spec (verify_tapd h)
  obtain ⟨summary', hmem, hleaf⟩ := List.exists_of_findSome?_eq_some hlatest
  obtain ⟨_, _, _, hproof⟩ :=
    (decodeTapdProofFile_proofs hdecode).2 summary' (List.mem_reverse.mp hmem)
  rw [← hkey]
  exact decodeSingleProofAt_hasKeyPrefix hproof hleaf

end TapLdk.DecodedProofs
