import Mathlib
import TapLdk.LibraryBytes

/-! TLV streams: records in strictly increasing type order, with type and length as
minimally encoded BigSize integers. -/
namespace TapLdk.Tlv
open TapLdk.LibraryExcept TapLdk.LibraryBytes

structure TlvRecord where
  typeId : UInt64
  value : Bytes
deriving DecidableEq

inductive TlvError where
  | truncatedBigSize
  | nonCanonicalBigSize (value minimum : UInt64)
  | truncatedRecord (typeId : UInt64) (expectedLen remainingLen : ℕ)
  | duplicateType (typeId : UInt64)
  | outOfOrder (previous next : UInt64)
  | unknownRequiredType (typeId : UInt64)
deriving DecidableEq

def encodeBigSize (value : UInt64) : Bytes :=
  if value ≤ 0xfc then [UInt8.ofNat value.toNat]
  else if value ≤ 0xffff then 0xfd :: beBytes 2 value.toNat
  else if value ≤ 0xffffffff then 0xfe :: beBytes 4 value.toNat
  else 0xff :: beBytes 8 value.toNat

def requireCanonical (value minimum : UInt64) : Except TlvError UInt64 := do
  rejectIf (value < minimum) (.nonCanonicalBigSize value minimum)
  pure value

def takeArray (n : ℕ) (bytes : Bytes) : Except TlvError (Bytes × Bytes) := do
  rejectIf (bytes.length < n) .truncatedBigSize
  pure (bytes.take n, bytes.drop n)

/-- The integer at the front of `bytes` and what follows it. -/
def decodeBigSize : Bytes → Except TlvError (UInt64 × Bytes)
  | [] => .error .truncatedBigSize
  | first :: rest =>
    if first ≤ 0xfc then .ok (UInt64.ofNat first.toNat, rest)
    else if first = 0xfd then wide 2 0xfd rest
    else if first = 0xfe then wide 4 0x10000 rest
    else wide 8 0x100000000 rest
where
  wide (width : ℕ) (minimum : UInt64) (rest : Bytes) : Except TlvError (UInt64 × Bytes) := do
    let (head, tail) ← takeArray width rest
    let value ← requireCanonical (UInt64.ofNat (beValue head)) minimum
    pure (value, tail)

def ensureSortedUnique : Option UInt64 → List TlvRecord → Except TlvError Unit
  | _, [] => pure ()
  | none, record :: records => ensureSortedUnique (some record.typeId) records
  | some previous, record :: records => do
    rejectIf (record.typeId = previous) (.duplicateType record.typeId)
    rejectIf (record.typeId < previous) (.outOfOrder previous record.typeId)
    ensureSortedUnique (some record.typeId) records

def encodeRecord (record : TlvRecord) : Bytes :=
  encodeBigSize record.typeId ++
    (encodeBigSize (UInt64.ofNat record.value.length) ++ record.value)

def encodeStream (records : List TlvRecord) : Except TlvError Bytes := do
  ensureSortedUnique none records
  pure (records.flatMap encodeRecord)

/-- The record at the front of `cursor` and what follows it. -/
def decodeRecord (cursor : Bytes) : Except TlvError (TlvRecord × Bytes) := do
  let (typeId, cursor) ← decodeBigSize cursor
  let (size, cursor) ← decodeBigSize cursor
  let len := size.toNat
  rejectIf (cursor.length < len) (.truncatedRecord typeId len cursor.length)
  pure (⟨typeId, cursor.take len⟩, cursor.drop len)

/-- The loop of `decode_stream`. Every record takes a byte at least, so as much fuel as
there are bytes does not run out. -/
def decodeRecords : ℕ → Bytes → Except TlvError (List TlvRecord)
  | _, [] => pure []
  | 0, _ :: _ => .error .truncatedBigSize
  | fuel + 1, cursor => do
    let (record, rest) ← decodeRecord cursor
    let records ← decodeRecords fuel rest
    pure (record :: records)

def decodeStream (bytes : Bytes) : Except TlvError (List TlvRecord) := do
  let records ← decodeRecords bytes.length bytes
  ensureSortedUnique none records
  pure records

def rejectUnknownRequired (records : List TlvRecord) (knownTypes : List UInt64) :
    Except TlvError Unit :=
  records.forM fun record =>
    rejectIf (record.typeId ∉ knownTypes ∧ record.typeId % 2 = 0) (.unknownRequiredType record.typeId)

theorem takeArray_append {n : ℕ} {head tail : Bytes} (h : head.length = n) :
    takeArray n (head ++ tail) = .ok (head, tail) := by
  subst h
  simp [takeArray, rejectIf]

theorem decodeBigSize_wide {width : ℕ} {minimum value : UInt64}
    (hlo : minimum.toNat ≤ value.toNat) (hhi : value.toNat < 256 ^ width) (rest : Bytes) :
    decodeBigSize.wide width minimum (beBytes width value.toNat ++ rest) = .ok (value, rest) := by
  have hval : UInt64.ofNat (beValue (beBytes width value.toNat)) = value := by
    rw [beValue_beBytes, Nat.mod_eq_of_lt hhi]
    exact UInt64.ofNat_toNat
  have hmin : ¬ value < minimum := UInt64.not_lt.mpr (UInt64.le_iff_toNat_le.mpr hlo)
  simp [decodeBigSize.wide, takeArray_append (beBytes_length _ _), hval, requireCanonical,
    rejectIf_false hmin]

theorem decodeBigSize_encodeBigSize (value : UInt64) (rest : Bytes) :
    decodeBigSize (encodeBigSize value ++ rest) = .ok (value, rest) := by
  have hlt := value.toNat_lt
  unfold encodeBigSize
  split_ifs with h1 h2 h3
  · have h1' : value.toNat ≤ 252 := UInt64.le_iff_toNat_le.mp h1
    have hb : (UInt8.ofNat value.toNat).toNat = value.toNat := by
      rw [UInt8.toNat_ofNat']
      omega
    have hle : UInt8.ofNat value.toNat ≤ 0xfc := by
      rw [UInt8.le_iff_toNat_le, hb]
      exact h1'
    simp only [List.cons_append, List.nil_append, decodeBigSize, if_pos hle, hb]
    rw [UInt64.ofNat_toNat]
  · have h1' := UInt64.lt_iff_toNat_lt.mp (UInt64.not_le.mp h1)
    have h2' := UInt64.le_iff_toNat_le.mp h2
    exact @decodeBigSize_wide 2 0xfd _ (Nat.succ_le_of_lt h1') (by simp at h2' ⊢; omega) rest
  · have h2' := UInt64.lt_iff_toNat_lt.mp (UInt64.not_le.mp h2)
    have h3' := UInt64.le_iff_toNat_le.mp h3
    exact @decodeBigSize_wide 4 0x10000 _ (Nat.succ_le_of_lt h2') (by simp at h3' ⊢; omega) rest
  · have h3' := UInt64.lt_iff_toNat_lt.mp (UInt64.not_le.mp h3)
    exact @decodeBigSize_wide 8 0x100000000 _ (Nat.succ_le_of_lt h3') (by simpa using hlt) rest

theorem encodeBigSize_ne_nil (value : UInt64) : encodeBigSize value ≠ [] := by
  unfold encodeBigSize
  split_ifs <;> simp

theorem decodeRecord_encodeRecord {record : TlvRecord} (h : record.value.length < 2 ^ 64)
    (rest : Bytes) : decodeRecord (encodeRecord record ++ rest) = .ok (record, rest) := by
  have hlen : (UInt64.ofNat record.value.length).toNat = record.value.length :=
    UInt64.toNat_ofNat_of_lt' h
  simp [decodeRecord, encodeRecord, decodeBigSize_encodeBigSize, hlen, rejectIf]

theorem decodeRecords_flatMap {records : List TlvRecord}
    (h : ∀ r ∈ records, r.value.length < 2 ^ 64) {fuel : ℕ}
    (hfuel : (records.flatMap encodeRecord).length ≤ fuel) :
    decodeRecords fuel (records.flatMap encodeRecord) = .ok records := by
  induction records generalizing fuel with
  | nil => cases fuel <;> rfl
  | cons record records ih =>
    have hne : encodeRecord record ≠ [] := by
      simp [encodeRecord, encodeBigSize_ne_nil]
    have hpos := List.length_pos_iff.mpr hne
    rw [List.flatMap_cons, List.length_append] at hfuel
    obtain ⟨fuel, rfl⟩ : ∃ k, fuel = k + 1 := ⟨fuel - 1, by omega⟩
    obtain ⟨first, more, hcons⟩ := List.exists_cons_of_ne_nil hne
    have hdec := decodeRecord_encodeRecord (h record (by simp)) (records.flatMap encodeRecord)
    have hrest : decodeRecords fuel (records.flatMap encodeRecord) = .ok records :=
      ih (fun r hr => h r (List.mem_cons_of_mem _ hr)) (by omega)
    rw [hcons, List.cons_append] at hdec
    rw [List.flatMap_cons, hcons, List.cons_append, decodeRecords, hdec, ok_bind]
    · simp only [hrest, ok_bind, pure_eq_ok]
    · exact List.cons_ne_nil _ _

/-- Decoding undoes encoding for records whose lengths fit the length field. -/
theorem decodeStream_encodeStream {records : List TlvRecord} {bytes : Bytes}
    (h : encodeStream records = .ok bytes) (hlen : ∀ r ∈ records, r.value.length < 2 ^ 64) :
    decodeStream bytes = .ok records := by
  simp only [encodeStream, bind_eq_ok, pure_eq_ok, Except.ok.injEq] at h
  obtain ⟨⟨⟩, hsorted, rfl⟩ := h
  rw [decodeStream, decodeRecords_flatMap hlen le_rfl, ok_bind, hsorted]
  rfl

end TapLdk.Tlv
