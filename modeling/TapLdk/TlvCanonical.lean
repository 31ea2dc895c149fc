import Mathlib
import TapLdk.Tlv

/-! The canonical TLV streams: minimal BigSize integers, records with as many value bytes as
they say, types in strict order. The decoder accepts these and no other byte strings. -/
namespace TapLdk.TlvCanonical
open TapLdk.LibraryExcept TapLdk.LibraryBytes TapLdk.Tlv

/-- The ways to write an integer as a BigSize, minimal or not. -/
inductive BigSize : UInt64 → Bytes → Prop where
  | one {value : UInt64} (h : value ≤ 0xfc) : BigSize value [UInt8.ofNat value.toNat]
  | two {value : UInt64} (h : value.toNat < 256 ^ 2) : BigSize value (0xfd :: beBytes 2 value.toNat)
  | four {value : UInt64} (h : value.toNat < 256 ^ 4) : BigSize value (0xfe :: beBytes 4 value.toNat)
  | eight {value : UInt64} : BigSize value (0xff :: beBytes 8 value.toNat)

/-- No way to write the integer is shorter. -/
def Minimal (value : UInt64) (bytes : Bytes) : Prop :=
  BigSize value bytes ∧ ∀ other, BigSize value other → bytes.length ≤ other.length

/-- A type, a length and as many value bytes. -/
def IsRecord (record : TlvRecord) (bytes : Bytes) : Prop :=
  ∃ typeBytes lengthBytes, ∃ length : UInt64, Minimal record.typeId typeBytes ∧
    Minimal length lengthBytes ∧ length.toNat = record.value.length ∧
    bytes = typeBytes ++ (lengthBytes ++ record.value)

/-- One record after the other, in strictly increasing type order. -/
def IsStream (records : List TlvRecord) (bytes : Bytes) : Prop :=
  (∃ parts, List.Forall₂ IsRecord records parts ∧ bytes = parts.flatten) ∧
    records.Pairwise fun r r' => r.typeId < r'.typeId

theorem bigSize_encode (value : UInt64) : BigSize value (encodeBigSize value) := by
  unfold encodeBigSize
  split_ifs with h1 h2 h3
  · exact .one h1
  · exact .two (by have := UInt64.le_iff_toNat_le.mp h2; simp at this ⊢; omega)
  · exact .four (by have := UInt64.le_iff_toNat_le.mp h3; simp at this ⊢; omega)
  · exact .eight

/-- The encoder takes the shortest way. -/
theorem encode_shortest {value : UInt64} {other : Bytes} (h : BigSize value other) :
    (encodeBigSize value).length < other.length ∨ encodeBigSize value = other := by
  unfold encodeBigSize
  cases h with
  | one h =>
    rw [if_pos h]
    exact .inr rfl
  | two h =>
    split_ifs with h1 h2 h3
    · exact .inl (by simp)
    · exact .inr rfl
    · exact absurd (UInt64.le_iff_toNat_le.mpr (by simpa using Nat.le_of_lt_succ h)) h2
    · exact absurd (UInt64.le_iff_toNat_le.mpr (by simpa using Nat.le_of_lt_succ h)) h2
  | four h =>
    split_ifs with h1 h2 h3
    · exact .inl (by simp)
    · exact .inl (by simp)
    · exact .inr rfl
    · exact absurd (UInt64.le_iff_toNat_le.mpr (by simpa using Nat.le_of_lt_succ h)) h3
  | eight =>
    split_ifs with h1 h2 h3
    · exact .inl (by simp)
    · exact .inl (by simp)
    · exact .inl (by simp)
    · exact .inr rfl

theorem minimal_iff {value : UInt64} {bytes : Bytes} :
    Minimal value bytes ↔ bytes = encodeBigSize value := by
  constructor
  · rintro ⟨hbig, hshort⟩
    rcases encode_shortest hbig with hlt | heq
    · exact absurd (hshort _ (bigSize_encode value)) (Nat.not_le.mpr hlt)
    · exact heq.symm
  · rintro rfl
    refine ⟨bigSize_encode value, fun other hother => ?_⟩
    rcases encode_shortest hother with hlt | heq
    · exact hlt.le
    · rw [heq]

theorem decodeBigSize_wide_eq_ok {width : ℕ} {minimum value : UInt64} {bytes rest : Bytes}
    (hwidth : width ≤ 8) (h : decodeBigSize.wide width minimum bytes = .ok (value, rest)) :
    bytes = beBytes width value.toNat ++ rest ∧ minimum ≤ value ∧ value.toNat < 256 ^ width := by
  simp only [decodeBigSize.wide, takeArray, requireCanonical, bind_eq_ok, rejectIf_eq_ok,
    exists_const, pure_eq_ok, Except.ok.injEq] at h
  obtain ⟨⟨head, tail⟩, ⟨hlen, hsplit⟩, value', ⟨hmin, hvalue⟩, hout⟩ := h
  obtain ⟨rfl, rfl⟩ := Prod.mk.inj hsplit
  obtain ⟨rfl, rfl⟩ := Prod.mk.inj hout
  have htake : (bytes.take width).length = width := by
    rw [List.length_take]
    omega
  have hlt : beValue (bytes.take width) < 256 ^ width := by
    have hlt := beValue_lt (bytes.take width)
    rwa [htake] at hlt
  have hpow : (256 : ℕ) ^ width ≤ 256 ^ 8 := Nat.pow_le_pow_right (by omega) hwidth
  have hnat : value'.toNat = beValue (bytes.take width) := by
    rw [← hvalue]
    exact UInt64.toNat_ofNat_of_lt' (lt_of_lt_of_le hlt hpow)
  refine ⟨?_, UInt64.not_lt.mp (hvalue ▸ hmin), hnat ▸ hlt⟩
  have hround := beBytes_beValue (bytes.take width)
  rw [htake] at hround
  rw [hnat, hround, List.take_append_drop]

/-- What the decoder reads as an integer is its minimal encoding. -/
theorem decodeBigSize_eq_ok {bytes rest : Bytes} {value : UInt64}
    (h : decodeBigSize bytes = .ok (value, rest)) : bytes = encodeBigSize value ++ rest := by
  cases bytes with
  | nil => cases h
  | cons first bytes =>
    rw [decodeBigSize] at h
    split_ifs at h with h1 h2 h3
    · obtain ⟨rfl, rfl⟩ := Prod.mk.inj (Except.ok.inj h)
      have hfirst : (UInt64.ofNat first.toNat).toNat = first.toNat :=
        UInt64.toNat_ofNat_of_lt' (lt_trans first.toNat_lt (by decide))
      have hsmall : UInt64.ofNat first.toNat ≤ 0xfc := by
        rw [UInt64.le_iff_toNat_le, hfirst]
        exact UInt8.le_iff_toNat_le.mp h1
      rw [encodeBigSize, if_pos hsmall, hfirst, UInt8.ofNat_toNat]
      rfl
    · obtain ⟨hbytes, hmin, hlt⟩ := decodeBigSize_wide_eq_ok (by omega) h
      have hmin' := UInt64.le_iff_toNat_le.mp hmin
      rw [encodeBigSize, if_neg, if_pos, h2, hbytes]
      · rfl
      · exact UInt64.le_iff_toNat_le.mpr (Nat.le_of_lt_succ hlt)
      · exact UInt64.not_le.mpr (UInt64.lt_iff_toNat_lt.mpr hmin')
    · obtain ⟨hbytes, hmin, hlt⟩ := decodeBigSize_wide_eq_ok (by omega) h
      have hmin' := UInt64.le_iff_toNat_le.mp hmin
      rw [encodeBigSize, if_neg, if_neg, if_pos, h3, hbytes]
      · rfl
      · exact UInt64.le_iff_toNat_le.mpr (Nat.le_of_lt_succ hlt)
      · exact UInt64.not_le.mpr (UInt64.lt_iff_toNat_lt.mpr hmin')
      · exact UInt64.not_le.mpr (UInt64.lt_iff_toNat_lt.mpr (lt_of_lt_of_le (by decide) hmin'))
    · obtain ⟨hbytes, hmin, -⟩ := decodeBigSize_wide_eq_ok (by omega) h
      have hmin' := UInt64.le_iff_toNat_le.mp hmin
      have hlast : first = 0xff := by
        have h1' := UInt8.lt_iff_toNat_lt.mp (UInt8.not_le.mp h1)
        have h2' := mt UInt8.toNat_inj.mp h2
        have h3' := mt UInt8.toNat_inj.mp h3
        have hlt := first.toNat_lt
        apply UInt8.toNat_inj.mp
        simp at h1' h2' h3' ⊢
        omega
      rw [encodeBigSize, if_neg, if_neg, if_neg, hlast, hbytes]
      · rfl
      · exact UInt64.not_le.mpr (UInt64.lt_iff_toNat_lt.mpr hmin')
      · exact UInt64.not_le.mpr (UInt64.lt_iff_toNat_lt.mpr (lt_of_lt_of_le (by decide) hmin'))
      · exact UInt64.not_le.mpr (UInt64.lt_iff_toNat_lt.mpr (lt_of_lt_of_le (by decide) hmin'))

theorem decodeRecord_eq_ok {bytes rest : Bytes} {record : TlvRecord}
    (h : decodeRecord bytes = .ok (record, rest)) :
    bytes = encodeRecord record ++ rest ∧ record.value.length < 2 ^ 64 := by
  simp only [decodeRecord, bind_eq_ok, rejectIf_eq_ok, exists_const, pure_eq_ok, Except.ok.injEq,
    Prod.exists, Nat.not_lt] at h
  obtain ⟨typeId, cursor, htype, size, cursor', hsize, hlen, hout⟩ := h
  obtain ⟨rfl, rfl⟩ := Prod.mk.inj hout
  have hvalue : (cursor'.take size.toNat).length = size.toNat := by
    rw [List.length_take]
    omega
  refine ⟨?_, lt_of_eq_of_lt hvalue size.toNat_lt⟩
  rw [encodeRecord, hvalue, UInt64.ofNat_toNat, List.append_assoc, List.append_assoc,
    List.take_append_drop, ← decodeBigSize_eq_ok hsize]
  exact decodeBigSize_eq_ok htype

theorem decodeRecords_eq_ok {fuel : ℕ} {bytes : Bytes} {records : List TlvRecord}
    (h : decodeRecords fuel bytes = .ok records) :
    bytes = records.flatMap encodeRecord ∧ ∀ r ∈ records, r.value.length < 2 ^ 64 := by
  induction fuel generalizing bytes records with
  | zero =>
    cases bytes with
    | nil =>
      cases h
      exact ⟨rfl, by simp⟩
    | cons => cases h
  | succ fuel ih =>
    cases bytes with
    | nil =>
      cases h
      exact ⟨rfl, by simp⟩
    | cons first bytes =>
      rw [decodeRecords] at h
      · simp only [bind_eq_ok, pure_eq_ok, Except.ok.injEq, Prod.exists] at h
        obtain ⟨record, rest, hrecord, records', hrest, rfl⟩ := h
        obtain ⟨hbytes, hfits⟩ := decodeRecord_eq_ok hrecord
        obtain ⟨hrest', hall⟩ := ih hrest
        refine ⟨by rw [hbytes, hrest', List.flatMap_cons], fun r hr => ?_⟩
        rcases List.mem_cons.mp hr with rfl | hr
        · exact hfits
        · exact hall r hr
      · exact List.cons_ne_nil _ _

theorem ensureSortedUnique_some {previous : UInt64} {records : List TlvRecord} {u : Unit} :
    ensureSortedUnique (some previous) records = .ok u ↔
      (∀ r ∈ records, previous < r.typeId) ∧ records.Pairwise fun r r' => r.typeId < r'.typeId := by
  induction records generalizing previous with
  | nil => simp [ensureSortedUnique]
  | cons record records ih =>
    simp only [ensureSortedUnique, bind_eq_ok, rejectIf_eq_ok, exists_const, ih, List.pairwise_cons,
      List.forall_mem_cons]
    have hlt : ¬ record.typeId = previous ∧ ¬ record.typeId < previous ↔
        previous < record.typeId := by
      rw [UInt64.not_lt, ← and_comm, UInt64.lt_iff_le_and_ne]
      simp [eq_comm]
    constructor
    · rintro ⟨hne, hle, hall, hsorted⟩
      have hprev := hlt.mp ⟨hne, hle⟩
      exact ⟨⟨hprev, fun r hr => UInt64.lt_trans hprev (hall r hr)⟩, hall, hsorted⟩
    · rintro ⟨⟨hprev, -⟩, hall, hsorted⟩
      obtain ⟨hne, hle⟩ := hlt.mpr hprev
      exact ⟨hne, hle, hall, hsorted⟩

theorem ensureSortedUnique_none {records : List TlvRecord} {u : Unit} :
    ensureSortedUnique none records = .ok u ↔
      records.Pairwise fun r r' => r.typeId < r'.typeId := by
  cases records with
  | nil => simp [ensureSortedUnique]
  | cons record records => rw [ensureSortedUnique, ensureSortedUnique_some, List.pairwise_cons]

theorem isRecord_iff {record : TlvRecord} {bytes : Bytes} :
    IsRecord record bytes ↔ bytes = encodeRecord record ∧ record.value.length < 2 ^ 64 := by
  constructor
  · rintro ⟨typeBytes, lengthBytes, length, htype, hlength, hvalue, rfl⟩
    rw [minimal_iff] at htype hlength
    refine ⟨?_, hvalue ▸ length.toNat_lt⟩
    rw [encodeRecord, htype, hlength, ← hvalue, UInt64.ofNat_toNat]
  · rintro ⟨rfl, hfits⟩
    exact ⟨_, _, UInt64.ofNat record.value.length, minimal_iff.mpr rfl, minimal_iff.mpr rfl,
      UInt64.toNat_ofNat_of_lt' hfits, rfl⟩

theorem isStream_iff {records : List TlvRecord} {bytes : Bytes} :
    IsStream records bytes ↔ bytes = records.flatMap encodeRecord ∧
      (∀ r ∈ records, r.value.length < 2 ^ 64) ∧
      records.Pairwise fun r r' => r.typeId < r'.typeId := by
  rw [IsStream, ← and_assoc]
  apply and_congr_left'
  constructor
  · rintro ⟨parts, hparts, rfl⟩
    induction hparts with
    | nil => exact ⟨rfl, by simp⟩
    | @cons record part records parts hpart _ ih =>
      obtain ⟨rfl, hfits⟩ := isRecord_iff.mp hpart
      obtain ⟨hrest, hall⟩ := ih
      exact ⟨by rw [List.flatten_cons, hrest, List.flatMap_cons], List.forall_mem_cons.mpr ⟨hfits, hall⟩⟩
  · rintro ⟨rfl, hall⟩
    refine ⟨records.map encodeRecord, ?_, List.flatMap_def ..⟩
    apply List.forall₂_map_right_iff.mpr
    apply List.forall₂_same.mpr
    intro record hmem
    exact isRecord_iff.mpr ⟨rfl, hall record hmem⟩

theorem decodeStream_eq_ok {bytes : Bytes} {records : List TlvRecord} :
    decodeStream bytes = .ok records ↔ IsStream records bytes := by
  rw [isStream_iff, decodeStream]
  simp only [bind_eq_ok, pure_eq_ok, Except.ok.injEq]
  constructor
  · rintro ⟨records', hrecords, _, hsorted, rfl⟩
    obtain ⟨hbytes, hall⟩ := decodeRecords_eq_ok hrecords
    exact ⟨hbytes, hall, ensureSortedUnique_none.mp hsorted⟩
  · rintro ⟨rfl, hall, hsorted⟩
    exact ⟨records, decodeRecords_flatMap hall le_rfl, (), ensureSortedUnique_none.mpr hsorted, rfl⟩

theorem encodeStream_eq_ok {records : List TlvRecord} {bytes : Bytes} :
    encodeStream records = .ok bytes ↔
      (records.Pairwise fun r r' => r.typeId < r'.typeId) ∧ records.flatMap encodeRecord = bytes := by
  simp only [encodeStream, bind_eq_ok, pure_eq_ok, Except.ok.injEq, exists_const,
    ensureSortedUnique_none]

theorem encodeBigSize_length (value : UInt64) : (encodeBigSize value).length ≤ 9 := by
  unfold encodeBigSize
  split_ifs <;> simp [beBytes_length]

theorem records_length {records : List TlvRecord} {k : ℕ}
    (h : ∀ r ∈ records, r.value.length ≤ k) :
    (records.flatMap encodeRecord).length ≤ records.length * (k + 18) := by
  induction records with
  | nil => simp
  | cons r rs ih =>
    have hr := h r List.mem_cons_self
    have hrest := ih fun q hq => h q (List.mem_cons_of_mem r hq)
    have htype := encodeBigSize_length r.typeId
    have hlength := encodeBigSize_length (UInt64.ofNat r.value.length)
    simp only [List.flatMap_cons, List.length_append, List.length_cons, encodeRecord, Nat.add_mul]
    omega

/-- The codec is canonical: records of strictly increasing types survive it, the decoder
accepts the canonical streams and no others, and encodes back to the same bytes. The value
of a record is a vector, of fewer than `2 ^ 64` bytes. -/
theorem stream_canonical :
    (∀ records, (records.Pairwise fun r r' => r.typeId < r'.typeId) →
      (∀ r ∈ records, r.value.length < 2 ^ 64) →
        ∃ bytes, encodeStream records = .ok bytes ∧ decodeStream bytes = .ok records) ∧
    (∀ bytes, (∃ records, decodeStream bytes = .ok records) ↔ ∃ records, IsStream records bytes) ∧
    ∀ bytes records, decodeStream bytes = .ok records →
      IsStream records bytes ∧ encodeStream records = .ok bytes := by
  refine ⟨fun records hsorted hall => ?_, fun bytes => ?_, fun bytes records h => ?_⟩
  · refine ⟨_, encodeStream_eq_ok.mpr ⟨hsorted, rfl⟩, ?_⟩
    exact decodeStream_eq_ok.mpr (isStream_iff.mpr ⟨rfl, hall, hsorted⟩)
  · simp only [decodeStream_eq_ok]
  · have hstream := decodeStream_eq_ok.mp h
    obtain ⟨hbytes, -, hsorted⟩ := isStream_iff.mp hstream
    exact ⟨hstream, encodeStream_eq_ok.mpr ⟨hsorted, hbytes.symm⟩⟩

end TapLdk.TlvCanonical
