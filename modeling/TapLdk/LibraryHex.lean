import Mathlib
import TapLdk.LibraryBytes

/-! Hexadecimal text read two bytes at a time: what each pair reads as, and how a text whose
pairs are not all read ends. -/
namespace TapLdk.LibraryHex
open TapLdk.LibraryExcept TapLdk.LibraryBytes

abbrev Pair := UInt8 × UInt8

/-- The pairs of a text; a last byte without a partner is left out. -/
def pairs : Bytes → List Pair
  | a :: b :: rest => (a, b) :: pairs rest
  | _ => []

def IsDigit (b : UInt8) : Prop := (hexDigit b).isSome

instance (b : UInt8) : Decidable (IsDigit b) := inferInstanceAs (Decidable (_ = true))

namespace Pair

/-- Two digits. -/
def Spelled (p : Pair) : Prop := IsDigit p.1 ∧ IsDigit p.2

/-- A plus sign and one digit. -/
def Signed (p : Pair) : Prop := p.1 = 43 ∧ IsDigit p.2

/-- The pair cuts a character, so that it is no text. -/
def Split (p : Pair) : Prop := fromUtf8 [p.1, p.2] = none

def Reads (p : Pair) : Prop := p.Spelled ∨ p.Signed

instance (p : Pair) : Decidable p.Spelled := inferInstanceAs (Decidable (_ ∧ _))

instance (p : Pair) : Decidable p.Signed := inferInstanceAs (Decidable (_ ∧ _))

instance (p : Pair) : Decidable p.Reads := inferInstanceAs (Decidable (_ ∨ _))

/-- The byte that a pair stands for; a sign counts for nothing. -/
def value (p : Pair) : UInt8 :=
  UInt8.ofNat (16 * (hexDigit p.1).getD 0 + (hexDigit p.2).getD 0)

end Pair

theorem hexDigit_spec : ∀ n < 256, ∀ v ∈ hexDigit (UInt8.ofNat n),
    v < 16 ∧ n < 128 ∧ hexChar v = (Char.ofNat n).toLower := by
  decide +kernel

theorem hexDigit_eq_some {b : UInt8} {v : ℕ} (h : hexDigit b = some v) :
    v < 16 ∧ b.toNat < 128 ∧ hexChar v = (Char.ofNat b.toNat).toLower := by
  refine hexDigit_spec b.toNat b.toNat_lt v ?_
  rw [UInt8.ofNat_toNat]
  exact h

theorem isDigit_iff {b : UInt8} : IsDigit b ↔ ∃ v, hexDigit b = some v := Option.isSome_iff_exists

theorem isDigit_ascii {b : UInt8} (h : IsDigit b) : b.toNat < 128 := by
  obtain ⟨v, hv⟩ := isDigit_iff.mp h
  exact (hexDigit_eq_some hv).2.1

theorem not_isDigit_sign : ¬ IsDigit 43 := by decide

theorem fromStrRadix16_signed (b : UInt8) :
    fromStrRadix16 [43, b] = (hexDigit b).map UInt8.ofNat := by
  cases hb : hexDigit b with
  | none => simp [fromStrRadix16, hb]
  | some v =>
    have hv := (hexDigit_eq_some hb).1
    have hlt : v < 256 := by omega
    simp [fromStrRadix16, hb, hlt]

theorem fromStrRadix16_unsigned {a : UInt8} (ha : a ≠ 43) (b : UInt8) :
    fromStrRadix16 [a, b] = (hexDigit a).bind fun x => (hexDigit b).map fun y =>
      UInt8.ofNat (16 * x + y) := by
  cases hx : hexDigit a with
  | none => simp [fromStrRadix16, ha, hx]
  | some x =>
    cases hy : hexDigit b with
    | none => simp [fromStrRadix16, ha, hx, hy]
    | some y =>
      have hx16 := (hexDigit_eq_some hx).1
      have hy16 := (hexDigit_eq_some hy).1
      have hlt : 16 * x + y < 256 := by omega
      simp [fromStrRadix16, ha, hx, hy, hlt]

/-- A pair is read as a number exactly if it is two digits or a plus sign and a digit. -/
theorem fromStrRadix16_pair (p : Pair) :
    fromStrRadix16 [p.1, p.2] = if p.Reads then some p.value else none := by
  obtain ⟨a, b⟩ := p
  by_cases ha : a = 43
  · subst ha
    rw [fromStrRadix16_signed]
    have hsign : hexDigit 43 = none := by decide
    cases hb : hexDigit b <;>
      simp [Pair.Reads, Pair.Spelled, Pair.Signed, Pair.value, IsDigit, hb, hsign]
  · rw [fromStrRadix16_unsigned ha]
    cases hx : hexDigit a <;> cases hy : hexDigit b <;>
      simp [Pair.Reads, Pair.Spelled, Pair.Signed, Pair.value, IsDigit, hx, hy, ha]

/-- The text of bytes below 128. -/
def asciiText (bs : Bytes) : String := String.ofList (bs.map fun b => Char.ofNat b.toNat)

theorem utf8_asciiText {bs : Bytes} (h : ∀ b ∈ bs, b.toNat < 128) : utf8 (asciiText bs) = bs := by
  have hchar : ∀ n < 128, (Char.ofNat n).toNat = n := by decide +kernel
  rw [asciiText, utf8_ofList_ascii, List.map_map]
  · conv_rhs => rw [← List.map_id bs]
    refine List.map_congr_left fun b hb => ?_
    rw [Function.comp_apply, hchar _ (h b hb), UInt8.ofNat_toNat]
    rfl
  · intro c hc
    obtain ⟨b, hb, rfl⟩ := List.mem_map.mp hc
    rw [hchar _ (h b hb)]
    exact h b hb

theorem eq_asciiText {s : String} (h : ∀ b ∈ utf8 s, b.toNat < 128) : s = asciiText (utf8 s) :=
  utf8_injective (utf8_asciiText h).symm

/-- A pair that is read is a text. -/
theorem not_split_of_reads {p : Pair} (h : p.Reads) : ¬ p.Split := by
  have hascii : ∀ b ∈ [p.1, p.2], b.toNat < 128 := by
    simp only [List.mem_cons, List.not_mem_nil, or_false, forall_eq_or_imp, forall_eq]
    rcases h with ⟨h₁, h₂⟩ | ⟨h₁, h₂⟩
    · exact ⟨isDigit_ascii h₁, isDigit_ascii h₂⟩
    · rw [h₁]
      exact ⟨by decide, isDigit_ascii h₂⟩
  rw [Pair.Split, ← utf8_asciiText hascii, fromUtf8_utf8]
  exact Option.some_ne_none _

theorem even_cons (a b : UInt8) {rest : Bytes} (h : rest.length % 2 = 0) :
    (a :: b :: rest).length % 2 = 0 := by
  simp only [List.length_cons]
  omega

/-- A text of an even length is empty or a pair before another such text. -/
theorem even_induction {motive : (text : Bytes) → text.length % 2 = 0 → Prop} (nil : motive [] rfl)
    (cons : ∀ a b rest h, motive rest h → motive (a :: b :: rest) (even_cons a b h))
    (text : Bytes) (heven : text.length % 2 = 0) : motive text heven := by
  induction text using pairs.induct with
  | case1 a b rest ih =>
    have hrest : rest.length % 2 = 0 := by
      simp only [List.length_cons] at heven
      omega
    exact cons a b rest hrest (ih hrest)
  | case2 text hshort =>
    match text, hshort with
    | [], _ => exact nil
    | [a], _ => simp at heven
    | a :: b :: rest, hshort => exact absurd rfl (hshort a b rest)

/-- The first pair of a text that is not read as a byte. -/
def firstUnread (text : Bytes) : Option Pair := (pairs text).find? fun p => ¬ p.Reads

variable {ε : Type} (invalidByte : String → ε) (panicked : ε)

/-- How a text of an even length is read: up to the first pair that is not read. -/
theorem decodeHexPairs_eq {text : Bytes} (heven : text.length % 2 = 0) :
    decodeHexPairs invalidByte panicked text =
      match firstUnread text with
      | none => .ok ((pairs text).map Pair.value)
      | some p => .error ((fromUtf8 [p.1, p.2]).elim panicked invalidByte) := by
  induction text, heven using even_induction with
  | nil => rfl
  | cons a b rest hrest ih =>
    have hpair := fromStrRadix16_pair (a, b)
    rw [decodeHexPairs, ih]
    by_cases hreads : Pair.Reads (a, b)
    · obtain ⟨text, htext⟩ := Option.ne_none_iff_exists'.mp (not_split_of_reads hreads)
      dsimp only at htext hpair
      rw [htext, hpair, if_pos hreads]
      have hfirst : firstUnread (a :: b :: rest) = firstUnread rest := by
        simp [firstUnread, pairs, hreads]
      rw [hfirst]
      cases firstUnread rest <;> rfl
    · have hfirst : firstUnread (a :: b :: rest) = some (a, b) := by
        simp [firstUnread, pairs, hreads]
      rw [hfirst, hpair, if_neg hreads]
      dsimp only
      cases fromUtf8 [a, b] <;> rfl

/-- The pairs of a text are all read exactly if no pair of it is the first that is not. -/
theorem firstUnread_eq_none {text : Bytes} :
    firstUnread text = none ↔ ∀ p ∈ pairs text, p.Reads := by
  simp [firstUnread]

/-- Two digits in every pair are digits everywhere. -/
theorem pairs_spelled_iff {text : Bytes} (heven : text.length % 2 = 0) :
    (∀ p ∈ pairs text, p.Spelled) ↔ ∀ b ∈ text, IsDigit b := by
  induction text, heven using even_induction with
  | nil => simp [pairs]
  | cons a b rest hrest ih =>
    rw [pairs, List.forall_mem_cons, ih, List.forall_mem_cons, List.forall_mem_cons, Pair.Spelled,
      and_assoc]

theorem pairs_length {text : Bytes} (heven : text.length % 2 = 0) :
    2 * (pairs text).length = text.length := by
  induction text, heven using even_induction with
  | nil => rfl
  | cons a b rest hrest ih =>
    simp only [pairs, List.length_cons]
    omega

/-- Two digits are written again in lower case. -/
theorem encodeHex_value {p : Pair} (h : p.Spelled) :
    [hexChar (p.value.toNat / 16), hexChar (p.value.toNat % 16)] =
      [(Char.ofNat p.1.toNat).toLower, (Char.ofNat p.2.toNat).toLower] := by
  obtain ⟨x, hx⟩ := isDigit_iff.mp h.1
  obtain ⟨y, hy⟩ := isDigit_iff.mp h.2
  obtain ⟨hx16, -, hxlower⟩ := hexDigit_eq_some hx
  obtain ⟨hy16, -, hylower⟩ := hexDigit_eq_some hy
  have hvalue : p.value.toNat = 16 * x + y := by
    rw [Pair.value, hx, hy, UInt8.toNat_ofNat', Option.getD_some, Option.getD_some]
    omega
  have hhigh : p.value.toNat / 16 = x := by omega
  have hlow : p.value.toNat % 16 = y := by omega
  rw [hhigh, hlow, hxlower, hylower]

/-- Encoding what a text of digits decodes to gives the text in lower case. -/
theorem encodeHex_pairs {s : String} (heven : (utf8 s).length % 2 = 0)
    (h : ∀ b ∈ utf8 s, IsDigit b) : encodeHex ((pairs (utf8 s)).map Pair.value) = s.toLower := by
  have hlist : ∀ text : Bytes, text.length % 2 = 0 → (∀ b ∈ text, IsDigit b) →
      ((pairs text).map Pair.value).flatMap
          (fun b => [hexChar (b.toNat / 16), hexChar (b.toNat % 16)]) =
        text.map fun b => (Char.ofNat b.toNat).toLower := by
    intro text heven h
    induction text, heven using even_induction with
    | nil => rfl
    | cons a b rest hrest ih =>
      rw [List.forall_mem_cons, List.forall_mem_cons] at h
      have hpair := encodeHex_value (p := (a, b)) ⟨h.1, h.2.1⟩
      rw [pairs, List.map_cons, List.flatMap_cons, hpair, ih h.2.2]
      rfl
  have htext : s = asciiText (utf8 s) := eq_asciiText fun b hb => isDigit_ascii (h b hb)
  refine String.toList_inj.mp ?_
  rw [encodeHex, String.toList_ofList, hlist _ heven h, String.toLower, String.toList_map]
  conv_rhs => rw [htext, asciiText, String.toList_ofList, List.map_map]
  rfl

end TapLdk.LibraryHex
