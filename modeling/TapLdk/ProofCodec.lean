import Mathlib
import TapLdk.DecodedProofs

/-! The codec of proof files loses nothing: a proof comes back from its encoding, and a
decoded byte string of known record types is the encoding of its proof. -/
namespace TapLdk.ProofCodec
open TapLdk.LibraryExcept TapLdk.LibraryMaps TapLdk.LibraryBytes TapLdk.Mssmt TapLdk.Asset
open TapLdk.Tlv TapLdk.TlvCanonical TapLdk.TlvFields TapLdk.Proof TapLdk.DecodedProofs

theorem parseU8_eq_ok {field : String} {bytes : Bytes} {value : UInt8} :
    parseU8 field bytes = .ok value ↔ bytes = [value] := by
  simp only [parseU8, bind_eq_ok, rejectIf_eq_ok, exists_const, pure_eq_ok, Except.ok.injEq,
    ne_eq, not_not]
  constructor
  · rintro ⟨hlen, rfl⟩
    obtain ⟨first, rfl⟩ := List.length_eq_one_iff.mp hlen
    rfl
  · rintro rfl
    exact ⟨rfl, rfl⟩

theorem parseU64_eq_ok {field : String} {bytes : Bytes} {value : UInt64} :
    parseU64 field bytes = .ok value ↔ bytes = u64Bytes value :=
  readFixed_eq_ok u64Bytes_length u64_of_bytes u64_of_u64Bytes

theorem parseString_eq_ok {bytes : Bytes} {value : String} :
    parseString bytes = .ok value ↔ bytes = utf8 value := by
  rw [parseString, okOr_eq_ok, fromUtf8_eq_some]

theorem bytes_of_parseBytes32 {bytes : Bytes} {value : Bytes32}
    (h : parseBytes32 bytes = .ok value) : bytes = value.bytes :=
  FixedBytes.ofBytes_eq_some.mp (okOr_eq_ok.mp h)

theorem bytes_of_parseCompressedKey {bytes : Bytes} {value : CompressedKey}
    (h : parseCompressedKey bytes = .ok value) : bytes = value.bytes := by
  simp only [parseCompressedKey, mapError_eq_ok, compressedKeyFromStr, decodeHex_encodeHex,
    ok_bind, bind_eq_ok, okOr_eq_ok, FixedBytes.ofBytes_eq_some, pure_eq_ok, Except.ok.injEq] at h
  obtain ⟨key, hkey, _, -, rfl⟩ := h
  exact hkey

theorem bytes_of_parseAssetType {bytes : Bytes} {value : AssetType}
    (h : parseAssetType bytes = .ok value) : bytes = [value.asU8] := by
  simp only [parseAssetType, bind_eq_ok, parseU8_eq_ok, mapError_eq_ok, AssetType.fromU8] at h
  obtain ⟨byte, rfl, htype⟩ := h
  split_ifs at htype with h0 h1
  · rw [h0, ← Except.ok.inj htype]
    rfl
  · rw [h1, ← Except.ok.inj htype]
    rfl

theorem asStr_of_scope {text : String} {scope : VerificationScope}
    (h : VerificationScope.fromStr text = .ok scope) : text = scope.asStr := by
  unfold VerificationScope.fromStr at h
  split_ifs at h with h0 h1
  · rw [h0, ← Except.ok.inj h]
    rfl
  · rw [h1, ← Except.ok.inj h]
    rfl

theorem asStr_of_network {text : String} {network : ProofNetwork}
    (h : ProofNetwork.fromStr text = .ok network) : text = network.asStr := by
  unfold ProofNetwork.fromStr at h
  split_ifs at h with h0
  rw [h0, ← Except.ok.inj h]
  rfl

theorem field_mem {records : List TlvRecord} {field : UInt64} {value : Bytes}
    (h : required (recordMap records) field = .ok value) : ⟨field, value⟩ ∈ records :=
  mem_of_recordMap (okOr_eq_ok.mp h)

/-- Every record of a decoded proof was read. -/
theorem records_subset {bytes : Bytes} {proof : ProofFile} {records : List TlvRecord}
    (h : ProofFile.decode bytes = .ok proof) (hrecords : decodeStream bytes = .ok records) :
    ∀ r ∈ proof.records, r ∈ records := by
  simp only [ProofFile.decode, bind_eq_ok, mapError_eq_ok, pure_eq_ok, Except.ok.injEq] at h
  obtain ⟨records', hrecords', _, -, versionBytes, hversion, version, hversion', assetBytes, hasset,
    asset, hasset', genesisBytes, hgenesis, genesis, hgenesis', anchorBytes, hanchor, anchor,
    hanchor', amountBytes, hamount, amount, hamount', keyBytes, hkey, key, hkey', hashBytes, hhash,
    hash, hhash', sumBytes, hsum, sum, hsum', scopeBytes, hscope, scopeText, hscopeText, scope,
    hscope', networkBytes, hnetwork, networkText, hnetworkText, network, hnetwork', typeBytes,
    htype, assetType, htype', rfl⟩ := h
  rw [hrecords, Except.ok.injEq] at hrecords'
  subst hrecords'
  obtain rfl := parseU8_eq_ok.mp hversion'
  obtain rfl := bytes_of_parseBytes32 hasset'
  obtain rfl := parseString_eq_ok.mp hgenesis'
  obtain rfl := parseString_eq_ok.mp hanchor'
  obtain rfl := parseU64_eq_ok.mp hamount'
  obtain rfl := bytes_of_parseCompressedKey hkey'
  obtain rfl := bytes_of_parseBytes32 hhash'
  obtain rfl := parseU64_eq_ok.mp hsum'
  obtain rfl := parseString_eq_ok.mp hscopeText
  obtain rfl := asStr_of_scope hscope'
  obtain rfl := parseString_eq_ok.mp hnetworkText
  obtain rfl := asStr_of_network hnetwork'
  obtain rfl := bytes_of_parseAssetType htype'
  simp only [ProofFile.records, List.forall_mem_cons]
  exact ⟨field_mem hversion, field_mem hasset, field_mem hgenesis, field_mem hanchor,
    field_mem hamount, field_mem hkey, field_mem hhash, field_mem hsum, field_mem hscope,
    field_mem hnetwork, field_mem htype, by simp⟩

theorem typeIds_records (proof : ProofFile) : proof.records.map (·.typeId) = knownTypes := rfl

theorem records_sorted (proof : ProofFile) :
    proof.records.Pairwise fun r r' => r.typeId < r'.typeId :=
  ensureSortedUnique_none.mp (rfl : ensureSortedUnique none proof.records = .ok ())

/-- A stream of known types that contains all records of a proof contains no others. -/
theorem records_eq {proof : ProofFile} {records : List TlvRecord}
    (hsorted : records.Pairwise fun r r' => r.typeId < r'.typeId)
    (hknown : ∀ r ∈ records, r.typeId ∈ knownTypes) (hsub : ∀ r ∈ proof.records, r ∈ records) :
    records = proof.records := by
  apply eq_of_mem_iff hsorted (records_sorted proof)
  refine fun r => ⟨fun hr => ?_, hsub r⟩
  have htype := hknown r hr
  rw [← typeIds_records proof] at htype
  obtain ⟨r', hr', heq⟩ := List.mem_map.mp htype
  rwa [← List.inj_on_of_nodup_map (nodup_of_sorted hsorted) (hsub r' hr') hr heq]

/-- Decoding undoes encoding for a proof whose key has a point prefix, and encoding undoes
decoding for a byte string with records of the known types only. -/
theorem proofFile_lossless :
    (∀ proof : ProofFile, HasKeyPrefix proof.scriptKey → TextsFit proof →
      ∃ bytes, proof.encode = .ok bytes ∧ ProofFile.decode bytes = .ok proof) ∧
    ∀ bytes proof records, ProofFile.decode bytes = .ok proof →
      decodeStream bytes = .ok records → (∀ r ∈ records, r.typeId ∈ knownTypes) →
        proof.encode = .ok bytes := by
  constructor
  · intro proof hkey hfit
    have hencode := encode_eq proof
    exact ⟨_, hencode, decode_encode hkey hfit hencode⟩
  · intro bytes proof records hdecode hrecords hknown
    obtain ⟨hbytes, -, hsorted⟩ := isStream_iff.mp (decodeStream_eq_ok.mp hrecords)
    rw [encode_eq, ← records_eq hsorted hknown (records_subset hdecode hrecords), hbytes]

/-- Both directions on the proof of the regtest asset. -/
theorem proofFile_lossless_regtest :
    ∃ bytes, (regtestProof regtestAnchor).encode = .ok bytes ∧
      ProofFile.decode bytes = .ok (regtestProof regtestAnchor) := by
  have hkey : HasKeyPrefix (regtestProof regtestAnchor).scriptKey := by
    unfold HasKeyPrefix
    decide
  have hfit : TextsFit (regtestProof regtestAnchor) := by
    constructor <;> decide +kernel
  obtain ⟨bytes, hencode, hdecode⟩ := proofFile_lossless.1 _ hkey hfit
  have hlengths : ∀ r ∈ (regtestProof regtestAnchor).records, r.value.length < 2 ^ 64 := by
    decide +kernel
  have hrecords : decodeStream bytes = .ok (regtestProof regtestAnchor).records :=
    decodeStream_encodeStream (mapError_eq_ok.mp hencode) hlengths
  have hknown : ∀ r ∈ (regtestProof regtestAnchor).records, r.typeId ∈ knownTypes := by
    decide +kernel
  exact ⟨bytes, proofFile_lossless.2 _ _ _ hdecode hrecords hknown, hdecode⟩

end TapLdk.ProofCodec
