import Mathlib
import TapLdk.AssetHtlc
import TapLdk.TlvFields

/-! The map of custom records: an asset's records come back from it, and a map with a
reserved key is taken for bitcoin alone when none of its keys is a known record type. -/
namespace TapLdk.AssetHtlcRecords
open TapLdk.LibraryExcept TapLdk.LibraryMaps TapLdk.LibraryBytes TapLdk.Mssmt TapLdk.Asset
open TapLdk.Tlv TapLdk.TlvFields TapLdk.AssetHtlc

/-- The namespace of the asset records. -/
def Reserved (typeId : UInt64) : Prop :=
  assetHtlcRecordBase ≤ typeId ∧ typeId < assetHtlcRecordBase + 128

/-- A map with reserved keys is refused, or taken for an asset's with every reserved key one
of the asset's own records. -/
def FailsClosed (records : BTreeMap UInt64 Bytes) : Prop :=
  (∃ e, decodeCustomRecordMap records = .error e) ∨
    ∃ asset, decodeCustomRecordMap records = .ok (.asset asset) ∧
      ∀ typeId, Reserved typeId → records[typeId]? = asset.toCustomRecords[typeId]?

theorem required_eq_ok {records : BTreeMap UInt64 Bytes} {typeId : UInt64} {bytes : Bytes} :
    required records typeId = .ok bytes ↔ records[typeId]? = some bytes := okOr_eq_ok

theorem parseBytes32_eq_ok {bytes : Bytes} {value : Bytes32} :
    parseBytes32 bytes = .ok value ↔ bytes = value.bytes := by
  rw [parseBytes32, okOr_eq_ok, FixedBytes.ofBytes_eq_some]

theorem parseU64_eq_ok {field : String} {bytes : Bytes} {value : UInt64} :
    parseU64 bytes field = .ok value ↔ bytes = u64Bytes value :=
  readFixed_eq_ok u64Bytes_length u64_of_bytes u64_of_u64Bytes

theorem parseU16_eq_ok {bytes : Bytes} {value : UInt16} :
    parseU16 bytes = .ok value ↔ bytes = beBytes 2 value.toNat :=
  @readFixed_eq_ok UInt16 _ 2 _ (fun value => beBytes 2 value.toNat) (fun _ => beBytes_length _ _)
    u16_of_bytes u16_of_beBytes _ _ _

/-- The entries of `to_custom_records`. -/
def entries (asset : AssetHtlcCustomRecords) : List Slot :=
  [(recordProtocolVersion, some (beBytes 2 asset.protocolVersion.toNat)),
    (recordAssetId, some asset.assetId.bytes),
    (recordAssetAmount, some (u64Bytes asset.assetAmount)),
    (recordProofRootHash, some asset.proofRootHash.bytes),
    (recordProofRootSum, some (u64Bytes asset.proofRootSum)),
    (recordQuoteId, some asset.quoteId.bytes),
    (recordInvoiceContext, some asset.invoiceContext.bytes),
    (recordBtcMsat, some (u64Bytes asset.btcMsat)),
    (recordScidAlias, some (u64Bytes asset.scidAlias)),
    (recordPaymentHash, some asset.paymentHash.bytes),
    (recordFinalHopDigest, some asset.finalHopDigest.bytes)]

theorem decodeAssetRecords_eq_ok {records : BTreeMap UInt64 Bytes} {asset : AssetHtlcCustomRecords} :
    decodeAssetRecords records = .ok (.asset asset) ↔
      (∀ entry ∈ records.toList, Reserved entry.1 → entry.1 ∈ assetRecordTypes) ∧
        Reads records (entries asset) := by
  obtain ⟨version, assetId, amount, rootHash, rootSum, quoteId, context, msat, scid, hash, digest⟩ :=
    asset
  have hforM : (records.toList.forM rejectUnknownAssetRecord = .ok ()) ↔
      ∀ entry ∈ records.toList, Reserved entry.1 → entry.1 ∈ assetRecordTypes := by
    simp only [forM_eq_ok, rejectUnknownAssetRecord, rejectIf_eq_ok, Reserved, not_and, not_not,
      and_imp]
  simp only [decodeAssetRecords, bind_eq_ok, exists_const, hforM, required_eq_ok,
    parseBytes32_eq_ok, parseU64_eq_ok, parseU16_eq_ok, pure_eq_ok, Except.ok.injEq,
    AssetHtlcDecode.asset.injEq, AssetHtlcCustomRecords.mk.injEq, Reads, entries,
    List.forall_mem_cons, exists_eq_right]
  apply and_congr_right'
  constructor
  · rintro ⟨_, h1, _, h2, _, h3, _, h4, _, h5, _, h6, _, h7, _, h8, _, h9, _, h10, _, h11, rfl, rfl,
      rfl, rfl, rfl, rfl, rfl, rfl, rfl, rfl, rfl⟩
    exact ⟨h1, h2, h3, h4, h5, h6, h7, h8, h9, h10, h11, by simp⟩
  · rintro ⟨h1, h2, h3, h4, h5, h6, h7, h8, h9, h10, h11, -⟩
    exact ⟨_, h1, _, h2, _, h3, _, h4, _, h5, _, h6, _, h7, _, h8, _, h9, _, h10, _, h11, rfl, rfl,
      rfl, rfl, rfl, rfl, rfl, rfl, rfl, rfl, rfl⟩

theorem entries_types (asset : AssetHtlcCustomRecords) :
    ((entries asset).map (·.1)).Nodup ∧
      ∀ typeId, typeId ∈ (entries asset).map (·.1) ↔ typeId ∈ assetRecordTypes := by
  simp only [entries, List.map_cons, List.map_nil]
  constructor
  · decide +kernel
  · intro typeId
    simp only [assetRecordTypes, List.mem_cons]
    tauto

/-- The map of an asset has its records and nothing else. -/
theorem get_toCustomRecords {asset : AssetHtlcCustomRecords} {typeId : UInt64} {value : Bytes} :
    asset.toCustomRecords[typeId]? = some value ↔ (typeId, some value) ∈ entries asset := by
  rw [AssetHtlcCustomRecords.toCustomRecords, get_insertAll_empty]
  · simp [entries]
  · exact (entries_types asset).1

theorem entries_present {asset : AssetHtlcCustomRecords} {slot : Slot} (h : slot ∈ entries asset) :
    ∃ value, slot.2 = some value := by
  simp only [entries, List.mem_cons, List.not_mem_nil, or_false] at h
  rcases h with rfl | rfl | rfl | rfl | rfl | rfl | rfl | rfl | rfl | rfl | rfl <;> exact ⟨_, rfl⟩

theorem reads_toCustomRecords (asset : AssetHtlcCustomRecords) :
    Reads asset.toCustomRecords (entries asset) := by
  rintro ⟨typeId, value⟩ hslot
  obtain ⟨bytes, rfl⟩ := entries_present hslot
  exact get_toCustomRecords.mpr hslot

/-- The record types of an asset's map are known. -/
theorem types_toCustomRecords {asset : AssetHtlcCustomRecords} {typeId : UInt64}
    (h : asset.toCustomRecords[typeId]? ≠ none) : typeId ∈ assetRecordTypes := by
  obtain ⟨value, hvalue⟩ := Option.ne_none_iff_exists'.mp h
  exact ((entries_types asset).2 typeId).mp
    (List.mem_map_of_mem (f := Prod.fst) (get_toCustomRecords.mp hvalue))

/-- The records that classify a map as an asset's. -/
theorem hasAssetRecord_iff {records : BTreeMap UInt64 Bytes} :
    (records.toList.any fun e => assetRecordTypes.contains e.1) = true ↔
      ∃ typeId ∈ assetRecordTypes, records[typeId]? ≠ none := by
  simp only [List.any_eq_true, List.contains_iff_mem, Prod.exists, mem_toList_iff]
  constructor
  · rintro ⟨typeId, value, hget, htype⟩
    exact ⟨typeId, htype, by simp [hget]⟩
  · rintro ⟨typeId, htype, hget⟩
    obtain ⟨value, hvalue⟩ := Option.ne_none_iff_exists'.mp hget
    exact ⟨typeId, value, hvalue, htype⟩

theorem decode_toCustomRecords (asset : AssetHtlcCustomRecords) :
    decodeCustomRecordMap asset.toCustomRecords = .ok (.asset asset) := by
  have hreads := reads_toCustomRecords asset
  have hhas : ∃ typeId ∈ assetRecordTypes, asset.toCustomRecords[typeId]? ≠ none := by
    refine ⟨recordAssetId, by simp [assetRecordTypes], ?_⟩
    rw [hreads (recordAssetId, some asset.assetId.bytes) (by simp [entries])]
    simp
  rw [decodeCustomRecordMap, if_pos (hasAssetRecord_iff.mpr hhas)]
  refine decodeAssetRecords_eq_ok.mpr ⟨fun entry hentry _ => ?_, hreads⟩
  exact types_toCustomRecords (Option.ne_none_iff_exists'.mpr ⟨_, mem_toList_iff.mp hentry⟩)

/-- An asset's map is the only one it is read from, as far as the reserved keys go. -/
theorem reserved_eq {records : BTreeMap UInt64 Bytes} {asset : AssetHtlcCustomRecords}
    (h : decodeAssetRecords records = .ok (.asset asset)) {typeId : UInt64}
    (hreserved : Reserved typeId) : records[typeId]? = asset.toCustomRecords[typeId]? := by
  obtain ⟨hknown, hreads⟩ := decodeAssetRecords_eq_ok.mp h
  by_cases htype : typeId ∈ assetRecordTypes
  · obtain ⟨slot, hslot, rfl⟩ := List.mem_map.mp (((entries_types asset).2 typeId).mpr htype)
    rw [hreads slot hslot, reads_toCustomRecords asset slot hslot]
  · have hasset : asset.toCustomRecords[typeId]? = none := by
      by_contra hsome
      exact htype (types_toCustomRecords hsome)
    rw [hasset, Option.eq_none_iff_forall_ne_some]
    intro value hvalue
    exact htype (hknown (typeId, value) (mem_toList_iff.mpr hvalue) hreserved)

theorem decodeAssetRecords_ne_btcOnly (records : BTreeMap UInt64 Bytes) :
    decodeAssetRecords records ≠ .ok .btcOnly := by
  intro h
  simp only [decodeAssetRecords, bind_eq_ok, pure_eq_ok, Except.ok.injEq, reduceCtorEq, and_false,
    exists_false] at h

/-- An asset's records come back from the map they are written to, and a map with a reserved
key fails closed exactly when one of its keys is a known record type. -/
theorem records_fail_closed_iff (records : BTreeMap UInt64 Bytes)
    (_hreserved : ∃ typeId, Reserved typeId ∧ records[typeId]? ≠ none) :
    (∀ asset, decodeCustomRecordMap (AssetHtlcCustomRecords.toCustomRecords asset) =
      .ok (.asset asset)) ∧
    (FailsClosed records ↔ ∃ typeId ∈ assetRecordTypes, records[typeId]? ≠ none) := by
  refine ⟨decode_toCustomRecords, ?_⟩
  rw [← hasAssetRecord_iff, FailsClosed, decodeCustomRecordMap]
  split_ifs with hhas
  · refine iff_of_true ?_ hhas
    cases hdecode : decodeAssetRecords records with
    | error e => exact .inl ⟨e, rfl⟩
    | ok decoded =>
      cases decoded with
      | btcOnly => exact absurd hdecode (decodeAssetRecords_ne_btcOnly records)
      | asset asset => exact .inr ⟨asset, rfl, fun typeId => reserved_eq hdecode⟩
  · refine iff_of_false ?_ hhas
    rintro (⟨e, h⟩ | ⟨asset, h, -⟩) <;> cases h

/-- A map with a key of the namespace that is no known record type. -/
def unknownReserved : BTreeMap UInt64 Bytes := (∅ : BTreeMap UInt64 Bytes).insert 760002 [1]

theorem unknownReserved_reserved :
    ∃ typeId, Reserved typeId ∧ unknownReserved[typeId]? ≠ none := by
  refine ⟨760002, ?_, ?_⟩
  · unfold Reserved
    decide +kernel
  · rw [unknownReserved, get_insert_self]
    simp

/-- It is taken for bitcoin alone. -/
theorem unknownReserved_btcOnly :
    (∃ typeId, Reserved typeId ∧ unknownReserved[typeId]? ≠ none) ∧
      decodeCustomRecordMap unknownReserved = .ok .btcOnly := by
  refine ⟨unknownReserved_reserved, ?_⟩
  decide +kernel

theorem records_fail_closed_unknown : FailsClosed unknownReserved ↔
    ∃ typeId ∈ assetRecordTypes, unknownReserved[typeId]? ≠ none :=
  (records_fail_closed_iff unknownReserved unknownReserved_reserved).2

end TapLdk.AssetHtlcRecords
