import Mathlib
import TapLdk.AssetHtlcRecords
import TapLdk.TlvSplit

/-! The TLV stream of an asset HTLC: an asset's records on the wire, alone or among records of
other types, and the streams that are taken for bitcoin alone. -/
namespace TapLdk.AssetHtlcTlv
open TapLdk.LibraryExcept TapLdk.LibraryMaps TapLdk.LibraryBytes TapLdk.Mssmt TapLdk.Asset
open TapLdk.Tlv TapLdk.TlvCanonical TapLdk.TlvFields TapLdk.TlvSplit TapLdk.AssetHtlc
open TapLdk.AssetHtlcRecords

/-- The stream of an asset's records among others. -/
def streamWith (asset : AssetHtlcCustomRecords) (others : List TlvRecord) : Bytes :=
  (merged (entries asset) others).flatMap encodeRecord

/-- Records that an asset's stream can carry beside its own: none of a reserved type. -/
structure Beside (others : List TlvRecord) : Prop where
  sorted : others.Pairwise fun r r' => r.typeId < r'.typeId
  types : ∀ r ∈ others, ¬ Reserved r.typeId
  sizes : ∀ r ∈ others, r.value.length < 2 ^ 64

theorem assetRecordTypes_reserved {typeId : UInt64} (h : typeId ∈ assetRecordTypes) :
    Reserved typeId := by
  have hall : assetRecordTypes.all (fun t => decide (assetHtlcRecordBase ≤ t ∧
      t < assetHtlcRecordBase + 128)) = true := by decide +kernel
  have hrange := List.all_eq_true.mp hall typeId h
  rw [decide_eq_true_eq] at hrange
  exact hrange

theorem entries_fit (asset : AssetHtlcCustomRecords) :
    ∀ slot ∈ entries asset, ∀ value ∈ slot.2, List.length value < 2 ^ 64 := by
  simp [entries, beBytes_length, FixedBytes.length_eq]

theorem customRecords_map (records : List TlvRecord) :
    insertAll ∅ (records.map fun record => (record.typeId, record.value)) = recordMap records := by
  rw [insertAll, List.foldl_map, recordMap]

theorem decodeCustomRecords_eq_ok {bytes : Bytes} {decoded : AssetHtlcDecode} :
    decodeCustomRecords bytes = .ok decoded ↔ ∃ records, IsStream records bytes ∧
      decodeCustomRecordMap (recordMap records) = .ok decoded := by
  simp only [decodeCustomRecords, bind_eq_ok, mapError_eq_ok, decodeStream_eq_ok, customRecords_map]

/-- What a map of records is taken for. -/
theorem decodeCustomRecordMap_asset {records : BTreeMap UInt64 Bytes}
    {asset : AssetHtlcCustomRecords} : decodeCustomRecordMap records = .ok (.asset asset) ↔
      (∀ entry ∈ records.toList, Reserved entry.1 → entry.1 ∈ assetRecordTypes) ∧
        Reads records (entries asset) := by
  rw [← decodeAssetRecords_eq_ok, decodeCustomRecordMap]
  split_ifs with hhas
  · rfl
  · refine iff_of_false (by simp) fun h => hhas (hasAssetRecord_iff.mpr ?_)
    obtain ⟨-, hreads⟩ := decodeAssetRecords_eq_ok.mp h
    refine ⟨recordAssetId, by simp [assetRecordTypes], ?_⟩
    rw [hreads (recordAssetId, some asset.assetId.bytes) (by simp [entries])]
    exact Option.some_ne_none _

theorem decodeCustomRecordMap_btcOnly {records : BTreeMap UInt64 Bytes} :
    decodeCustomRecordMap records = .ok .btcOnly ↔
      ∀ typeId ∈ assetRecordTypes, records[typeId]? = none := by
  rw [decodeCustomRecordMap]
  split_ifs with hhas
  · obtain ⟨typeId, htype, hsome⟩ := hasAssetRecord_iff.mp hhas
    exact iff_of_false (decodeAssetRecords_ne_btcOnly records) fun h => hsome (h typeId htype)
  · rw [hasAssetRecord_iff] at hhas
    exact iff_of_true rfl fun typeId htype => by_contra fun hsome => hhas ⟨typeId, htype, hsome⟩

/-- The records of a map are those of the stream that it was read from. -/
theorem forall_recordMap {records : List TlvRecord}
    (hsorted : records.Pairwise fun r r' => r.typeId < r'.typeId) {p : UInt64 → Prop} :
    (∀ entry ∈ (recordMap records).toList, p entry.1) ↔ ∀ r ∈ records, p r.typeId := by
  simp only [Prod.forall, mem_toList_iff, get_recordMap (nodup_of_sorted hsorted)]
  exact ⟨fun h r hr => h r.typeId r.value hr, fun h typeId value hmem => h ⟨typeId, value⟩ hmem⟩

theorem recordMap_eq_none {records : List TlvRecord}
    (hsorted : records.Pairwise fun r r' => r.typeId < r'.typeId) {typeId : UInt64} :
    (recordMap records)[typeId]? = none ↔ ∀ r ∈ records, r.typeId ≠ typeId := by
  rw [Option.eq_none_iff_forall_ne_some]
  simp only [ne_eq, get_recordMap (nodup_of_sorted hsorted)]
  constructor
  · rintro h r hr rfl
    exact h r.value hr
  · intro h value hmem
    exact h _ hmem rfl

/-- The records that are written are those of the asset by their types. -/
theorem customRecords_merged (asset : AssetHtlcCustomRecords) :
    (asset.toCustomRecords.toList.map fun e => (⟨e.1, e.2⟩ : TlvRecord)) =
      merged (entries asset) [] := by
  have hkeys : asset.toCustomRecords.toList.Pairwise fun e e' => compare e.1 e'.1 = .lt :=
    Std.ExtTreeMap.ordered_keys_toList
  have hsorted : (asset.toCustomRecords.toList.map fun e => (⟨e.1, e.2⟩ : TlvRecord)).Pairwise
      fun r r' => r.typeId < r'.typeId :=
    List.pairwise_map.mpr (hkeys.imp Std.compare_eq_lt.mp)
  refine eq_of_mem_iff hsorted (merged_sorted (entries_types asset).1 .nil (by simp)) fun r => ?_
  simp only [List.mem_map, Prod.exists, mem_toList_iff, get_toCustomRecords, merged, mem_sortByType,
    List.append_nil, mem_recordsOf]
  constructor
  · rintro ⟨_, _, hmem, rfl⟩
    exact hmem
  · intro hmem
    exact ⟨_, _, hmem, rfl⟩

theorem encodeTlv_eq (asset : AssetHtlcCustomRecords) :
    asset.encodeTlv = .ok (streamWith asset []) := by
  rw [AssetHtlcCustomRecords.encodeTlv, encodeCustomRecords, customRecords_merged, mapError_eq_ok,
    encodeStream_eq_ok]
  exact ⟨merged_sorted (entries_types asset).1 .nil (by simp), rfl⟩

/-- An asset is read from the streams that carry its records and others, none of a reserved
type, beside them. -/
theorem decodeCustomRecords_asset {bytes : Bytes} {asset : AssetHtlcCustomRecords} :
    decodeCustomRecords bytes = .ok (.asset asset) ↔
      ∃ others, Beside others ∧ bytes = streamWith asset others := by
  obtain ⟨hnodup, htypes⟩ := entries_types asset
  simp only [decodeCustomRecords_eq_ok, decodeCustomRecordMap_asset]
  constructor
  · rintro ⟨records, hstream, hknown, hreads⟩
    have hsorted := (isStream_iff.mp hstream).2.2
    have hrecords := (forall_recordMap hsorted
      (p := fun t => Reserved t → t ∈ assetRecordTypes)).mp hknown
    obtain ⟨hothers, -, hbytes⟩ :=
      (isStream_merged hnodup (entries_fit asset)).mp ⟨hstream, hreads, rfl⟩
    refine ⟨_, ⟨hothers.sorted, fun r hr hreserved => ?_, hothers.sizes⟩, hbytes⟩
    have hmem := (List.mem_filter.mp hr).1
    exact hothers.types r hr ((htypes _).mpr (hrecords r hmem hreserved))
  · rintro ⟨others, hbeside, rfl⟩
    have hothers : Others (entries asset) others :=
      ⟨hbeside.sorted, fun r hr hmem => hbeside.types r hr
        (assetRecordTypes_reserved ((htypes _).mp hmem)), hbeside.sizes⟩
    obtain ⟨hstream, hreads, hrest⟩ :=
      (isStream_merged hnodup (entries_fit asset)).mpr ⟨hothers, rfl, rfl⟩
    refine ⟨_, hstream, (forall_recordMap (isStream_iff.mp hstream).2.2
      (p := fun t => Reserved t → t ∈ assetRecordTypes)).mpr fun r hr hreserved => ?_, hreads⟩
    by_contra hunknown
    refine hbeside.types r ?_ hreserved
    rw [hrest, List.mem_filter, decide_eq_true_eq, htypes]
    exact ⟨hr, hunknown⟩

/-- A stream is taken for bitcoin alone when it has no record of an asset. -/
theorem decodeCustomRecords_btcOnly {bytes : Bytes} :
    decodeCustomRecords bytes = .ok .btcOnly ↔ ∃ records, IsStream records bytes ∧
      ∀ r ∈ records, r.typeId ∉ assetRecordTypes := by
  simp only [decodeCustomRecords_eq_ok, decodeCustomRecordMap_btcOnly]
  refine exists_congr fun records => and_congr_right fun hstream => ?_
  have hsorted := (isStream_iff.mp hstream).2.2
  simp only [recordMap_eq_none hsorted]
  constructor
  · exact fun h r hr htype => h _ htype r hr rfl
  · exact fun h typeId htype r hr hr' => h r hr (hr' ▸ htype)

theorem decode_streamWith (asset : AssetHtlcCustomRecords) :
    decodeCustomRecords (streamWith asset []) = .ok (.asset asset) :=
  decodeCustomRecords_asset.mpr ⟨[], ⟨.nil, by simp, by simp⟩, rfl⟩

/-- An HTLC stream is read for what it is: an asset is written as its own records, it is read from
exactly the streams of these and of records outside the reserved types, and bitcoin alone from
exactly the canonical streams without a record of an asset; every other stream is refused. -/
theorem htlc_stream_exact :
    (∀ asset : AssetHtlcCustomRecords, asset.encodeTlv = .ok (streamWith asset []) ∧
      ∀ bytes, decodeCustomRecords bytes = .ok (.asset asset) ↔
        ∃ others, Beside others ∧ bytes = streamWith asset others) ∧
    ∀ bytes, decodeCustomRecords bytes = .ok .btcOnly ↔ ∃ records, IsStream records bytes ∧
      ∀ r ∈ records, r.typeId ∉ assetRecordTypes :=
  ⟨fun asset => ⟨encodeTlv_eq asset, fun _ => decodeCustomRecords_asset⟩,
    fun _ => decodeCustomRecords_btcOnly⟩

end TapLdk.AssetHtlcTlv
