import Mathlib
import TapLdk.LibraryMaps
import TapLdk.TlvCanonical

/-! Messages with one optional TLV record for each of their fields: written in any order,
sorted by type, and read back by type. -/
namespace TapLdk.TlvFields
open TapLdk.LibraryExcept TapLdk.LibraryMaps TapLdk.LibraryBytes TapLdk.Tlv TapLdk.TlvCanonical

/-- A field of a message: its record type and its value, if the message has one. -/
abbrev Slot := UInt64 × Option Bytes

def recordsOf (slots : List Slot) : List TlvRecord :=
  slots.filterMap fun slot => slot.2.map (TlvRecord.mk slot.1)

/-- The values of a stream under their types. -/
def recordMap (records : List TlvRecord) : BTreeMap UInt64 Bytes :=
  records.foldl (fun fields record => fields.insert record.typeId record.value) ∅

/-- Every field reads as the message has it, absent fields included. -/
def Reads (fields : BTreeMap UInt64 Bytes) (slots : List Slot) : Prop :=
  ∀ slot ∈ slots, fields[slot.1]? = slot.2

theorem u64_of_bytes {bytes : Bytes} (h : bytes.length = 8) :
    u64Bytes (UInt64.ofNat (beValue bytes)) = bytes := by
  have hlt := beValue_lt bytes
  have hround := beBytes_beValue bytes
  rw [h] at hlt hround
  rw [u64Bytes, UInt64.toNat_ofNat_of_lt' (lt_of_lt_of_le hlt (by decide)), hround]

theorem u64_of_u64Bytes (value : UInt64) : UInt64.ofNat (beValue (u64Bytes value)) = value := by
  rw [beValue_u64Bytes, UInt64.ofNat_toNat]

theorem u32_of_bytes {bytes : Bytes} (h : bytes.length = 4) :
    u32Bytes (UInt32.ofNat (beValue bytes)) = bytes := by
  have hlt := beValue_lt bytes
  have hround := beBytes_beValue bytes
  rw [h] at hlt hround
  rw [u32Bytes, UInt32.toNat_ofNat_of_lt' (lt_of_lt_of_le hlt (by decide)), hround]

theorem u32_of_u32Bytes (value : UInt32) : UInt32.ofNat (beValue (u32Bytes value)) = value := by
  have hlt : value.toNat < 256 ^ 4 := value.toNat_lt
  rw [u32Bytes, beValue_beBytes, Nat.mod_eq_of_lt hlt, UInt32.ofNat_toNat]

theorem u16_of_bytes {bytes : Bytes} (h : bytes.length = 2) :
    beBytes 2 (UInt16.ofNat (beValue bytes)).toNat = bytes := by
  have hlt := beValue_lt bytes
  have hround := beBytes_beValue bytes
  rw [h] at hlt hround
  rw [UInt16.toNat_ofNat_of_lt' (lt_of_lt_of_le hlt (by decide)), hround]

theorem u16_of_beBytes (value : UInt16) :
    UInt16.ofNat (beValue (beBytes 2 value.toNat)) = value := by
  have hlt : value.toNat < 256 ^ 2 := value.toNat_lt
  rw [beValue_beBytes, Nat.mod_eq_of_lt hlt, UInt16.ofNat_toNat]

/-- A reader of values of one width, with a writer that it undoes, reads what was written. -/
theorem readFixed_eq_ok {α ε : Type} {width : ℕ} {read : Bytes → α} {write : α → Bytes}
    (hlength : ∀ value, (write value).length = width)
    (hwrite : ∀ {bytes : Bytes}, bytes.length = width → write (read bytes) = bytes)
    (hread : ∀ value, read (write value) = value) {bytes : Bytes} {value : α} {error : ε} :
    (rejectIf (bytes.length ≠ width) error >>= fun _ => pure (read bytes)) = .ok value ↔
      bytes = write value := by
  simp only [bind_eq_ok, rejectIf_eq_ok, exists_const, pure_eq_ok, Except.ok.injEq, ne_eq, not_not]
  constructor
  · rintro ⟨hlen, rfl⟩
    exact (hwrite hlen).symm
  · rintro rfl
    exact ⟨hlength value, hread value⟩

abbrev ByType (r r' : TlvRecord) : Prop := r.typeId ≤ r'.typeId

instance : Std.Total ByType := ⟨fun r r' => UInt64.le_total r.typeId r'.typeId⟩

instance : IsTrans TlvRecord ByType := ⟨fun _ _ _ h h' => UInt64.le_trans h h'⟩

/-- `records.sort_by_key(|record| record.type_id)`, a stable sort. -/
def sortByType (records : List TlvRecord) : List TlvRecord := records.insertionSort ByType

theorem sortByType_perm (records : List TlvRecord) : (sortByType records).Perm records :=
  List.perm_insertionSort ..

@[simp] theorem mem_sortByType {records : List TlvRecord} {r : TlvRecord} :
    r ∈ sortByType records ↔ r ∈ records :=
  (sortByType_perm records).mem_iff

/-- Records of different types are sorted strictly. -/
theorem sortByType_sorted {records : List TlvRecord} (h : (records.map (·.typeId)).Nodup) :
    (sortByType records).Pairwise fun r r' => r.typeId < r'.typeId := by
  have hle : (sortByType records).Pairwise ByType := List.pairwise_insertionSort ..
  have hne := (((sortByType_perm records).map (·.typeId)).nodup_iff.mpr h)
  refine hle.imp₂ (fun r r' hle hne => ?_) (List.pairwise_map.mp hne)
  exact UInt64.lt_of_le_of_ne hle hne

/-- Sorted records with the same members are the same. -/
theorem eq_of_mem_iff {records records' : List TlvRecord}
    (h : records.Pairwise fun r r' => r.typeId < r'.typeId)
    (h' : records'.Pairwise fun r r' => r.typeId < r'.typeId)
    (hmem : ∀ r, r ∈ records ↔ r ∈ records') : records = records' := by
  have hnodup : ∀ rs : List TlvRecord, (rs.Pairwise fun r r' => r.typeId < r'.typeId) → rs.Nodup := by
    refine fun rs hrs => hrs.imp ?_
    rintro r _ hlt rfl
    exact UInt64.lt_irrefl _ hlt
  have hperm := (List.perm_ext_iff_of_nodup (hnodup _ h) (hnodup _ h')).mpr hmem
  refine hperm.eq_of_pairwise (fun r r' _ _ hlt hgt => ?_) h h'
  exact absurd (UInt64.lt_trans hlt hgt) (UInt64.lt_irrefl _)

theorem nodup_of_sorted {records : List TlvRecord}
    (h : records.Pairwise fun r r' => r.typeId < r'.typeId) : (records.map (·.typeId)).Nodup :=
  List.pairwise_map.mpr (h.imp UInt64.ne_of_lt)

theorem recordMap_concat (records : List TlvRecord) (last : TlvRecord) :
    recordMap (records ++ [last]) = (recordMap records).insert last.typeId last.value := by
  rw [recordMap, List.foldl_append]
  rfl

/-- A field comes from a record of its type. -/
theorem mem_of_recordMap {records : List TlvRecord} {field : UInt64} {value : Bytes}
    (h : (recordMap records)[field]? = some value) : ⟨field, value⟩ ∈ records := by
  induction records using List.reverseRecOn with
  | nil => simp [recordMap] at h
  | append_singleton records last ih =>
    rw [recordMap_concat] at h
    rcases get_insert_eq_some h with ⟨rfl, rfl⟩ | ⟨-, hold⟩
    · exact List.mem_append_right _ (List.mem_singleton.mpr rfl)
    · exact List.mem_append_left _ (ih hold)

theorem get_recordMap {records : List TlvRecord} (h : (records.map (·.typeId)).Nodup)
    {field : UInt64} {value : Bytes} :
    (recordMap records)[field]? = some value ↔ ⟨field, value⟩ ∈ records := by
  refine ⟨mem_of_recordMap, fun hmem => ?_⟩
  induction records using List.reverseRecOn with
  | nil => simp at hmem
  | append_singleton records last ih =>
    rw [List.map_append, List.nodup_append] at h
    obtain ⟨hnodup, -, hne⟩ := h
    rw [recordMap_concat]
    rcases List.mem_append.mp hmem with hold | hlast
    · have hfield : field ≠ last.typeId :=
        hne field (List.mem_map_of_mem hold) last.typeId (by simp)
      rw [get_insert_ne hfield]
      exact ih hnodup hold
    · rw [← List.mem_singleton.mp hlast]
      exact get_insert_self _ _ _

theorem mem_recordsOf {slots : List Slot} {r : TlvRecord} :
    r ∈ recordsOf slots ↔ (r.typeId, some r.value) ∈ slots := by
  simp only [recordsOf, List.mem_filterMap, Option.map_eq_some_iff, Prod.exists]
  constructor
  · rintro ⟨typeId, _, hmem, value, rfl, rfl⟩
    exact hmem
  · intro hmem
    exact ⟨_, _, hmem, _, rfl, rfl⟩

theorem fits_of_slots {slots : List Slot} {n : ℕ}
    (h : ∀ slot ∈ slots, ∀ value ∈ slot.2, List.length value < n) :
    ∀ r ∈ recordsOf slots, r.value.length < n :=
  fun _ hr => h _ (mem_recordsOf.mp hr) _ rfl

theorem typeIds_recordsOf (slots : List Slot) :
    List.Sublist ((recordsOf slots).map (·.typeId)) (slots.map (·.1)) := by
  induction slots with
  | nil => exact .slnil
  | cons slot slots ih =>
    obtain ⟨typeId, value⟩ := slot
    cases value with
    | none => exact ih.cons _
    | some value => exact ih.cons_cons _

theorem rejectUnknownRequired_eq_ok {records : List TlvRecord} {known : List UInt64} {u : Unit} :
    rejectUnknownRequired records known = .ok u ↔
      ∀ r ∈ records, r.typeId ∉ known → r.typeId % 2 ≠ 0 := by
  rw [rejectUnknownRequired, forM_eq_ok]
  simp only [rejectIf_eq_ok, not_and, ne_eq]

section

variable {slots : List Slot} (hnodup : (slots.map (·.1)).Nodup)
include hnodup

theorem recordsOf_nodup : ((recordsOf slots).map (·.typeId)).Nodup :=
  hnodup.sublist (typeIds_recordsOf slots)

theorem encodeStream_recordsOf : encodeStream (sortByType (recordsOf slots)) =
    .ok ((sortByType (recordsOf slots)).flatMap encodeRecord) :=
  encodeStream_eq_ok.mpr ⟨sortByType_sorted (recordsOf_nodup hnodup), rfl⟩

/-- The fields of a message read as they were written. -/
theorem reads_recordsOf : Reads (recordMap (sortByType (recordsOf slots))) slots := by
  have hsorted := nodup_of_sorted (sortByType_sorted (recordsOf_nodup hnodup))
  rintro ⟨typeId, value⟩ hslot
  refine Option.ext fun v => ?_
  rw [get_recordMap hsorted, mem_sortByType, mem_recordsOf]
  constructor
  · intro hmem
    exact congrArg Prod.snd (List.inj_on_of_nodup_map hnodup hslot hmem rfl)
  · rintro rfl
    exact hslot

/-- The stream of a message holds its fields and no others. -/
theorem decodeStream_recordsOf {bytes : Bytes}
    (h : encodeStream (sortByType (recordsOf slots)) = .ok bytes)
    (hfits : ∀ r ∈ recordsOf slots, r.value.length < 2 ^ 64) :
    ∃ records, decodeStream bytes = .ok records ∧ (∀ r ∈ records, r.typeId ∈ slots.map (·.1)) ∧
      Reads (recordMap records) slots := by
  refine ⟨_, decodeStream_encodeStream h fun r hr => hfits r (mem_sortByType.mp hr), ?_,
    reads_recordsOf hnodup⟩
  intro r hr
  exact List.mem_map_of_mem (f := Prod.fst) (mem_recordsOf.mp (mem_sortByType.mp hr))

/-- A message whose fields a stream reads as is made of the stream's records of its types. -/
theorem sortByType_of_reads {records : List TlvRecord}
    (hsorted : records.Pairwise fun r r' => r.typeId < r'.typeId)
    (h : Reads (recordMap records) slots) :
    sortByType (recordsOf slots) = records.filter (·.typeId ∈ slots.map (·.1)) := by
  refine eq_of_mem_iff (sortByType_sorted (recordsOf_nodup hnodup)) (hsorted.filter _) fun r => ?_
  rw [mem_sortByType, mem_recordsOf, List.mem_filter, decide_eq_true_eq]
  constructor
  · intro hslot
    have hget := h _ hslot
    rw [get_recordMap (nodup_of_sorted hsorted)] at hget
    exact ⟨hget, List.mem_map_of_mem hslot⟩
  · rintro ⟨hmem, htype⟩
    obtain ⟨⟨typeId, value⟩, hslot, rfl⟩ := List.mem_map.mp htype
    have hget := (get_recordMap (nodup_of_sorted hsorted)).mpr hmem
    rw [h _ hslot] at hget
    exact hget ▸ hslot

end

/-- Some records of a stream make up the whole of it only when they are all of them. -/
theorem flatMap_filter_eq {records : List TlvRecord} {bytes : Bytes} (h : IsStream records bytes)
    {keep : TlvRecord → Bool} :
    (records.filter keep).flatMap encodeRecord = bytes ↔ ∀ r ∈ records, keep r := by
  obtain ⟨hbytes, hfits, hsorted⟩ := isStream_iff.mp h
  rw [← List.filter_eq_self]
  constructor
  · intro heq
    have hkept : IsStream (records.filter keep) bytes := isStream_iff.mpr
      ⟨heq.symm, fun r hr => hfits r (List.mem_of_mem_filter hr), hsorted.filter _⟩
    have hdecode := decodeStream_eq_ok.mpr hkept
    rwa [decodeStream_eq_ok.mpr h, Except.ok.injEq, eq_comm] at hdecode
  · intro hall
    rw [hall, hbytes]

end TapLdk.TlvFields
