import Mathlib
import TapLdk.LibraryExcept

/-! Byte strings: arrays of a fixed length under the lexicographic order, big-endian
integers, UTF-8, hexadecimal digits, and 64-bit arithmetic that reports overflow. -/
namespace TapLdk.LibraryBytes
open Std TapLdk.LibraryExcept

abbrev Bytes := List UInt8

/-- A byte string of length exactly `n`. -/
@[ext] structure FixedBytes (n : ℕ) where
  bytes : Bytes
  length_eq : bytes.length = n
deriving DecidableEq

namespace FixedBytes

variable {n : ℕ}

instance : Ord (FixedBytes n) := ⟨fun a b => compare a.bytes b.bytes⟩

instance : TransOrd (FixedBytes n) where
  eq_swap {a b} := @OrientedCmp.eq_swap Bytes compare _ a.bytes b.bytes
  isLE_trans {a b c} := @TransCmp.isLE_trans Bytes compare _ a.bytes b.bytes c.bytes

instance : LawfulEqOrd (FixedBytes n) where
  eq_of_compare h := FixedBytes.ext (LawfulEqOrd.eq_of_compare h)

def zero (n : ℕ) : FixedBytes n := ⟨List.replicate n 0, List.length_replicate⟩

/-- The same byte in all places. -/
def replicate (n : ℕ) (byte : UInt8) : FixedBytes n := ⟨List.replicate n byte, List.length_replicate⟩

/-- One more byte, in front of the others. -/
def cons (byte : UInt8) (rest : FixedBytes n) : FixedBytes (n + 1) :=
  ⟨byte :: rest.bytes, by rw [List.length_cons, rest.length_eq]⟩

/-- The conversion of a slice into an array, which fails on every other length. -/
def ofBytes (n : ℕ) (bs : Bytes) : Option (FixedBytes n) :=
  if h : bs.length = n then some ⟨bs, h⟩ else none

@[simp] theorem ofBytes_bytes (b : FixedBytes n) : ofBytes n b.bytes = some b := by
  simp [ofBytes, b.length_eq]

theorem ofBytes_eq_some {bs : Bytes} {b : FixedBytes n} :
    ofBytes n bs = some b ↔ bs = b.bytes := by
  constructor
  · intro h
    unfold ofBytes at h
    split at h
    · rw [← Option.some.inj h]
    · cases h
  · rintro rfl
    exact ofBytes_bytes b

end FixedBytes

/-- The `width` low-order base-256 digits of `v`, most significant first. -/
def beBytes : ℕ → ℕ → Bytes
  | 0, _ => []
  | width + 1, v => UInt8.ofNat (v / 256 ^ width) :: beBytes width v

def beValue : Bytes → ℕ
  | [] => 0
  | b :: bs => b.toNat * 256 ^ bs.length + beValue bs

@[simp] theorem beBytes_length (width v : ℕ) : (beBytes width v).length = width := by
  induction width with
  | zero => rfl
  | succ width ih => simp [beBytes, ih]

theorem beValue_beBytes (width v : ℕ) : beValue (beBytes width v) = v % 256 ^ width := by
  induction width with
  | zero => simp [beBytes, beValue, Nat.mod_one]
  | succ width ih =>
    simp only [beBytes, beValue, beBytes_length, ih, UInt8.toNat_ofNat']
    rw [pow_succ 256, Nat.mod_mul]
    ring

theorem beValue_lt (bs : Bytes) : beValue bs < 256 ^ bs.length := by
  induction bs with
  | nil => simp [beValue]
  | cons b bs ih =>
    have hb : b.toNat + 1 ≤ 256 := b.toNat_lt
    calc b.toNat * 256 ^ bs.length + beValue bs
        < b.toNat * 256 ^ bs.length + 256 ^ bs.length := by omega
      _ = (b.toNat + 1) * 256 ^ bs.length := by ring
      _ ≤ 256 * 256 ^ bs.length := Nat.mul_le_mul_right _ hb
      _ = 256 ^ (b :: bs).length := by rw [List.length_cons, pow_succ]; ring

/-- Only the digits below `width` matter. -/
theorem beBytes_mod (width v : ℕ) {m : ℕ} (h : width ≤ m) :
    beBytes width (v % 256 ^ m) = beBytes width v := by
  induction width with
  | zero => rfl
  | succ width ih =>
    rw [beBytes, beBytes, ih (by omega)]
    congr 1
    obtain ⟨k, rfl⟩ : ∃ k, m = width + (k + 1) := ⟨m - width - 1, by omega⟩
    rw [← UInt8.toNat_inj, UInt8.toNat_ofNat', UInt8.toNat_ofNat', pow_add, Nat.mod_mul_right_div_self,
      pow_succ, mul_comm, Nat.mod_mul_right_mod]

theorem beBytes_beValue (bs : Bytes) : beBytes bs.length (beValue bs) = bs := by
  induction bs with
  | nil => rfl
  | cons b bs ih =>
    have hlt := beValue_lt bs
    have hpos : 0 < 256 ^ bs.length := by positivity
    rw [List.length_cons, beBytes, beValue]
    congr 1
    · rw [Nat.mul_comm, Nat.mul_add_div hpos, Nat.div_eq_of_lt hlt, Nat.add_zero]
      exact UInt8.ofNat_toNat
    · rw [← beBytes_mod _ _ le_rfl, Nat.mul_comm, Nat.mul_add_mod, Nat.mod_eq_of_lt hlt, ih]

theorem beValue_append (bs cs : Bytes) :
    beValue (bs ++ cs) = beValue bs * 256 ^ cs.length + beValue cs := by
  induction bs with
  | nil => simp [beValue]
  | cons b bs ih =>
    rw [List.cons_append, beValue, beValue, ih, List.length_append, pow_add]
    ring

theorem beValue_replicate_zero (count : ℕ) : beValue (List.replicate count 0) = 0 := by
  induction count with
  | zero => rfl
  | succ count ih => simp [List.replicate_succ, beValue, ih]

/-- The digits of a number split where its value does. -/
theorem beBytes_append {width : ℕ} (high v w : ℕ) (hw : w < 256 ^ width) :
    beBytes (high + width) (v * 256 ^ width + w) = beBytes high v ++ beBytes width w := by
  induction high with
  | zero =>
    rw [Nat.zero_add, beBytes, List.nil_append, ← beBytes_mod width _ le_rfl, Nat.mul_add_mod',
      Nat.mod_eq_of_lt hw]
  | succ high ih =>
    have hpos : 0 < 256 ^ width := by positivity
    have hdiv : (v * 256 ^ width + w) / 256 ^ (high + width) = v / 256 ^ high := by
      rw [Nat.add_comm high, pow_add, ← Nat.div_div_eq_div_mul, Nat.mul_comm v, Nat.mul_add_div hpos,
        Nat.div_eq_of_lt hw, Nat.add_zero]
    rw [Nat.succ_add, beBytes, beBytes, hdiv, ih, List.cons_append]

theorem beBytes_inj {width v w : ℕ} (hv : v < 256 ^ width) (hw : w < 256 ^ width)
    (h : beBytes width v = beBytes width w) : v = w := by
  have hval := congrArg beValue h
  rwa [beValue_beBytes, beValue_beBytes, Nat.mod_eq_of_lt hv, Nat.mod_eq_of_lt hw] at hval

/-- `u64::to_be_bytes`. -/
def u64Bytes (v : UInt64) : Bytes := beBytes 8 v.toNat

/-- `u32::to_be_bytes`. -/
def u32Bytes (v : UInt32) : Bytes := beBytes 4 v.toNat

@[simp] theorem u64Bytes_length (v : UInt64) : (u64Bytes v).length = 8 := beBytes_length _ _

@[simp] theorem u32Bytes_length (v : UInt32) : (u32Bytes v).length = 4 := beBytes_length _ _

theorem beValue_u64Bytes (v : UInt64) : beValue (u64Bytes v) = v.toNat := by
  rw [u64Bytes, beValue_beBytes]
  exact Nat.mod_eq_of_lt v.toNat_lt

theorem u64Bytes_inj {v w : UInt64} : u64Bytes v = u64Bytes w ↔ v = w := by
  refine ⟨fun h => ?_, congrArg u64Bytes⟩
  rw [← UInt64.toNat_inj, ← beValue_u64Bytes, h, beValue_u64Bytes]

/-- `u64::checked_add`. -/
def checkedAdd (a b : UInt64) : Option UInt64 :=
  if a.toNat + b.toNat < 2 ^ 64 then some (a + b) else none

/-- `u64::checked_sub`. -/
def checkedSub (a b : UInt64) : Option UInt64 := if b ≤ a then some (a - b) else none

/-- `u64::checked_mul`. -/
def checkedMul (a b : UInt64) : Option UInt64 :=
  if a.toNat * b.toNat < 2 ^ 64 then some (a * b) else none

theorem checkedAdd_eq_some {a b c : UInt64} :
    checkedAdd a b = some c ↔ c.toNat = a.toNat + b.toNat := by
  unfold checkedAdd
  split
  case isTrue h =>
    rw [Option.some.injEq, ← UInt64.toNat_inj, UInt64.toNat_add, Nat.mod_eq_of_lt h]
    exact eq_comm
  case isFalse h =>
    have := c.toNat_lt
    simp only [reduceCtorEq, false_iff]
    omega

theorem checkedAdd_zero (a : UInt64) : checkedAdd a 0 = some a :=
  checkedAdd_eq_some.mpr (by simp)

theorem zero_checkedAdd (a : UInt64) : checkedAdd 0 a = some a :=
  checkedAdd_eq_some.mpr (by simp)

theorem checkedSub_eq_some {a b c : UInt64} :
    checkedSub a b = some c ↔ c.toNat + b.toNat = a.toNat := by
  unfold checkedSub
  split
  case isTrue h =>
    have hle := UInt64.le_iff_toNat_le.mp h
    rw [Option.some.injEq, ← UInt64.toNat_inj, UInt64.toNat_sub_of_le _ _ h]
    omega
  case isFalse h =>
    have hle := mt UInt64.le_iff_toNat_le.mpr h
    simp only [reduceCtorEq, false_iff]
    omega

theorem checkedSub_zero (a : UInt64) : checkedSub a 0 = some a :=
  checkedSub_eq_some.mpr (by simp)

theorem checkedMul_eq_some {a b c : UInt64} (h : checkedMul a b = some c) :
    c.toNat = a.toNat * b.toNat := by
  unfold checkedMul at h
  split at h
  case isTrue hlt =>
    rw [← Option.some.inj h, UInt64.toNat_mul, Nat.mod_eq_of_lt hlt]
  case isFalse => cases h

/-- `str::as_bytes`. -/
def utf8 (s : String) : Bytes := s.toUTF8.data.toList

/-- `String::from_utf8`. -/
def fromUtf8 (bs : Bytes) : Option String := String.fromUTF8? ⟨bs.toArray⟩

theorem utf8_injective : Function.Injective utf8 := by
  intro s t h
  have hd : s.toUTF8.data = t.toUTF8.data := Array.toList_inj.mp h
  exact String.toByteArray_inj.mp (ByteArray.ext hd)

@[simp] theorem utf8_append (s t : String) : utf8 (s ++ t) = utf8 s ++ utf8 t := by
  simp [utf8, String.toByteArray_append]

@[simp] theorem fromUtf8_utf8 (s : String) : fromUtf8 (utf8 s) = some s := by
  have hs : (⟨(utf8 s).toArray⟩ : ByteArray) = s.toByteArray := by simp [utf8]
  rw [fromUtf8, hs, String.fromUTF8?, dif_pos s.isValidUTF8]
  rfl

theorem utf8_of_fromUtf8 {bs : Bytes} {s : String} (h : fromUtf8 bs = some s) : utf8 s = bs := by
  unfold fromUtf8 String.fromUTF8? at h
  split at h
  · rw [← Option.some.inj h]
    simp [utf8, String.fromUTF8]
  · cases h

theorem fromUtf8_eq_some {bs : Bytes} {s : String} : fromUtf8 bs = some s ↔ bs = utf8 s := by
  constructor
  · exact fun h => (utf8_of_fromUtf8 h).symm
  · rintro rfl
    exact fromUtf8_utf8 s

/-- An ASCII text has one byte for each of its characters. -/
theorem utf8_ofList_ascii {cs : List Char} (h : ∀ c ∈ cs, c.toNat < 128) :
    utf8 (String.ofList cs) = cs.map fun c => UInt8.ofNat c.toNat := by
  induction cs with
  | nil => rfl
  | cons c cs ih =>
    have hc : c.toNat < 128 := h c (by simp)
    have hu : String.utf8EncodeChar c = [UInt8.ofNat c.toNat] := by
      have hle : c.val ≤ 127 := by
        rw [UInt32.le_iff_toNat_le]
        exact Nat.le_of_lt_succ hc
      simp [String.utf8EncodeChar_eq_singleton (Char.utf8Size_eq_one_iff.mpr hle)]
      rfl
    have happ : String.ofList (c :: cs) = String.ofList [c] ++ String.ofList cs :=
      @String.ofList_append [c] cs
    rw [happ, utf8_append, ih fun d hd => h d (List.mem_cons_of_mem _ hd)]
    simp [utf8, List.utf8Encode_singleton, hu]

theorem toString_string (s : String) : toString s = s := rfl

/-- Texts that begin with neither of two prefixes inside the other differ. -/
theorem append_ne_append {a b : String} (x y : String)
    (h : (a.toList.isPrefixOf b.toList || b.toList.isPrefixOf a.toList) = false) :
    a ++ x ≠ b ++ y := by
  intro heq
  have hlist : a.toList ++ x.toList = b.toList ++ y.toList := by
    rw [← String.toList_append, heq, String.toList_append]
  rw [Bool.or_eq_false_iff] at h
  have ha : a.toList <+: b.toList ++ y.toList := ⟨x.toList, hlist⟩
  have hb : b.toList <+: b.toList ++ y.toList := ⟨y.toList, rfl⟩
  rcases List.prefix_or_prefix_of_prefix ha hb with hab | hba
  · exact Bool.eq_false_iff.mp h.1 (List.isPrefixOf_iff_prefix.mpr hab)
  · exact Bool.eq_false_iff.mp h.2 (List.isPrefixOf_iff_prefix.mpr hba)

/-- `char::is_whitespace`: the Unicode property White_Space. -/
def isWhitespace (c : Char) : Bool :=
  let v := c.toNat
  (9 ≤ v && v ≤ 13) || v == 0x20 || v == 0x85 || v == 0xa0 || v == 0x1680 ||
    (0x2000 ≤ v && v ≤ 0x200a) || v == 0x2028 || v == 0x2029 || v == 0x202f || v == 0x205f ||
    v == 0x3000

/-- `str::trim`. -/
def trim (s : String) : String :=
  String.ofList ((s.toList.dropWhile isWhitespace).rdropWhile isWhitespace)

/-- `str::trim().is_empty()`. -/
def isBlank (s : String) : Bool := s.toList.all isWhitespace

/-- The lower-case digit of a value below 16. -/
def hexChar (v : ℕ) : Char := if v < 10 then Char.ofNat (48 + v) else Char.ofNat (87 + v)

/-- `char::to_digit(16)` on one byte, with both cases of the letters. -/
def hexDigit (b : UInt8) : Option ℕ :=
  if 48 ≤ b ∧ b ≤ 57 then some (b.toNat - 48)
  else if 97 ≤ b ∧ b ≤ 102 then some (b.toNat - 87)
  else if 65 ≤ b ∧ b ≤ 70 then some (b.toNat - 55)
  else none

/-- Two lower-case digits a byte. -/
def encodeHex (bs : Bytes) : String :=
  String.ofList (bs.flatMap fun b => [hexChar (b.toNat / 16), hexChar (b.toNat % 16)])

theorem hexChar_spec : ∀ v < 16, (hexChar v).toNat < 128 ∧
    hexDigit (UInt8.ofNat (hexChar v).toNat) = some v := by
  decide

/-- The two digits of each byte, as text bytes. -/
theorem utf8_encodeHex (bs : Bytes) : utf8 (encodeHex bs) = bs.flatMap fun b =>
    [UInt8.ofNat (hexChar (b.toNat / 16)).toNat, UInt8.ofNat (hexChar (b.toNat % 16)).toNat] := by
  have hb : ∀ b : UInt8, b.toNat / 16 < 16 ∧ b.toNat % 16 < 16 := fun b => by
    have := b.toNat_lt
    omega
  rw [encodeHex, utf8_ofList_ascii, List.map_flatMap]
  · rfl
  · intro c hc
    simp only [List.mem_flatMap, List.mem_cons, List.not_mem_nil, or_false] at hc
    obtain ⟨b, -, rfl | rfl⟩ := hc
    · exact (hexChar_spec _ (hb b).1).1
    · exact (hexChar_spec _ (hb b).2).1

/-- `u8::from_str_radix(_, 16)`: a leading plus sign is allowed. -/
def fromStrRadix16 (text : Bytes) : Option UInt8 := do
  let digits := match text with
    | 43 :: rest => rest
    | _ => text
  if digits = [] then none
  let values ← digits.mapM hexDigit
  let v := values.foldl (fun acc d => 16 * acc + d) 0
  if v < 256 then some (UInt8.ofNat v) else none

/-- Read a text two bytes at a time, each pair as a text of its own. A pair that splits a
character is not a text and ends in `panicked`. -/
def decodeHexPairs {ε : Type} (invalidByte : String → ε) (panicked : ε) : Bytes → Except ε Bytes
  | [] => pure []
  | [a] => do
    let value ← okOr (fromUtf8 [a]) panicked
    let byte ← okOr (fromStrRadix16 [a]) (invalidByte value)
    pure [byte]
  | a :: b :: rest => do
    let value ← okOr (fromUtf8 [a, b]) panicked
    let byte ← okOr (fromStrRadix16 [a, b]) (invalidByte value)
    let bytes ← decodeHexPairs invalidByte panicked rest
    pure (byte :: bytes)

theorem fromUtf8_ascii {cs : List Char} (h : ∀ c ∈ cs, c.toNat < 128) :
    fromUtf8 (cs.map fun c => UInt8.ofNat c.toNat) = some (String.ofList cs) := by
  rw [← utf8_ofList_ascii h, fromUtf8_utf8]

theorem fromStrRadix16_hexChar {hi lo : ℕ} (hhi : hi < 16) (hlo : lo < 16) :
    fromStrRadix16 [UInt8.ofNat (hexChar hi).toNat, UInt8.ofNat (hexChar lo).toNat] =
      some (UInt8.ofNat (16 * hi + lo)) := by
  have hplus : ∀ v < 16, UInt8.ofNat (hexChar v).toNat ≠ 43 := by decide
  have hv : 16 * hi + lo < 256 := by omega
  have h1 := hplus hi hhi
  simp [fromStrRadix16, h1, (hexChar_spec hi hhi).2, (hexChar_spec lo hlo).2, hv]

/-- Lower-case hexadecimal text decodes to the bytes it spells. -/
theorem decodeHexPairs_encodeHex {ε : Type} (invalidByte : String → ε) (panicked : ε) (bs : Bytes) :
    decodeHexPairs invalidByte panicked (utf8 (encodeHex bs)) = .ok bs := by
  rw [utf8_encodeHex]
  induction bs with
  | nil => rfl
  | cons b bs ih =>
    have hlt := b.toNat_lt
    have hhi : b.toNat / 16 < 16 := by omega
    have hlo : b.toNat % 16 < 16 := by omega
    have hascii : ∀ c ∈ [hexChar (b.toNat / 16), hexChar (b.toNat % 16)], c.toNat < 128 := by
      simp [(hexChar_spec _ hhi).1, (hexChar_spec _ hlo).1]
    have htext := fromUtf8_ascii hascii
    have hbyte : UInt8.ofNat (16 * (b.toNat / 16) + b.toNat % 16) = b := by
      rw [Nat.div_add_mod]
      exact UInt8.ofNat_toNat
    simp only [List.map_cons, List.map_nil] at htext
    simp only [List.flatMap_cons, List.cons_append, List.nil_append, decodeHexPairs, htext,
      fromStrRadix16_hexChar hhi hlo, hbyte, okOr, ok_bind, ih, pure_eq_ok]

theorem utf8_encodeHex_length (bs : Bytes) : (utf8 (encodeHex bs)).length = 2 * bs.length := by
  rw [utf8_encodeHex, List.length_flatMap]
  simp [Nat.mul_comm]

/-- Every character of a hexadecimal text is a digit. -/
theorem mem_encodeHex {bs : Bytes} {c : Char} (h : c ∈ (encodeHex bs).toList) :
    ∃ v < 16, c = hexChar v := by
  rw [encodeHex, String.toList_ofList] at h
  obtain ⟨b, -, hc⟩ := List.mem_flatMap.mp h
  have hb := b.toNat_lt
  rcases List.mem_cons.mp hc with rfl | hc
  · exact ⟨_, by omega, rfl⟩
  · rw [List.mem_singleton.mp hc]
    exact ⟨_, by omega, rfl⟩

/-- A text whose second character is no digit does not begin with a hexadecimal text. -/
theorem append_ne_encodeHex {a : Char} {b : Char} {s : List Char} {bs : Bytes} (x y : String)
    (hb : ∀ v < 16, b ≠ hexChar v) (hne : bs ≠ []) :
    String.ofList (a :: b :: s) ++ x ≠ encodeHex bs ++ y := by
  intro heq
  have hlist : (a :: b :: s) ++ x.toList = (encodeHex bs).toList ++ y.toList := by
    have h := congrArg String.toList heq
    rwa [String.toList_append, String.toList_append, String.toList_ofList] at h
  have hmem : b ∈ (encodeHex bs).toList := by
    cases bs with
    | nil => exact absurd rfl hne
    | cons byte bs =>
      rw [encodeHex, String.toList_ofList, List.flatMap_cons] at hlist ⊢
      simp only [List.cons_append, List.nil_append, List.cons.injEq] at hlist
      rw [hlist.2.1]
      simp
  obtain ⟨v, hv, heq⟩ := mem_encodeHex hmem
  exact hb v hv heq

theorem encodeHex_injective : Function.Injective encodeHex := by
  intro a b h
  have ha := decodeHexPairs_encodeHex (fun _ => ()) () a
  rw [h, decodeHexPairs_encodeHex, Except.ok.injEq] at ha
  exact ha.symm

/-- As many items of one width, followed by anything, determine the items and the rest. -/
theorem flatMap_append_inj {α : Type} {f : α → Bytes} {width : ℕ}
    (hwidth : ∀ x, (f x).length = width) (hf : Function.Injective f) {xs ys : List α}
    {rest rest' : Bytes} (hlen : xs.length = ys.length)
    (h : xs.flatMap f ++ rest = ys.flatMap f ++ rest') : xs = ys ∧ rest = rest' := by
  induction xs generalizing ys with
  | nil =>
    obtain rfl := List.length_eq_zero_iff.mp hlen.symm
    exact ⟨rfl, h⟩
  | cons x xs ih =>
    obtain ⟨y, ys, rfl⟩ := List.exists_cons_of_length_eq_add_one hlen.symm
    rw [List.flatMap_cons, List.flatMap_cons, List.append_assoc, List.append_assoc] at h
    obtain ⟨hhead, htail⟩ := List.append_inj h (by rw [hwidth, hwidth])
    obtain ⟨rfl, hrest⟩ := ih (by simpa using hlen) htail
    exact ⟨by rw [hf hhead], hrest⟩

theorem counted_append_inj {α : Type} {f : α → Bytes} {width : ℕ}
    (hwidth : ∀ x, (f x).length = width) (hf : Function.Injective f) {xs ys : List α}
    {rest rest' : Bytes} (hxs : xs.length < 2 ^ 64) (hys : ys.length < 2 ^ 64)
    (h : beBytes 8 xs.length ++ (xs.flatMap f ++ rest) =
      beBytes 8 ys.length ++ (ys.flatMap f ++ rest')) : xs = ys ∧ rest = rest' := by
  obtain ⟨hcount, htail⟩ := List.append_inj h (by simp)
  exact flatMap_append_inj hwidth hf (beBytes_inj hxs hys hcount) htail

end TapLdk.LibraryBytes
