import Mathlib
import TapLdk.LibraryBytes

/-! JSON without blanks, of booleans, numbers, texts, arrays and objects: how it is written, and
that what is written is read in one way only, wherever it stands. -/
namespace TapLdk.LibraryJson
open LibraryBytes

inductive Value where
  | bool (b : Bool)
  | number (n : ℕ)
  | text (s : String)
  | array (items : List Value)
  | object (fields : List (String × Value))

def shortEscapes : List (Char × Char) :=
  [('"', '"'), ('\\', '\\'), ('\x08', 'b'), ('\t', 't'), ('\n', 'n'), ('\x0c', 'f'), ('\r', 'r')]

/-- A character as it stands between quotes. -/
def escape (c : Char) : List Char :=
  match shortEscapes.lookup c with
  | some short => ['\\', short]
  | none =>
    if c.toNat < 32 then
      ['\\', 'u', '0', '0', Nat.digitChar (c.toNat / 16), Nat.digitChar (c.toNat % 16)]
    else [c]

def printText (s : String) : List Char := '"' :: s.toList.flatMap escape ++ ['"']

/-- Characters that do not stand for themselves. -/
def special : List Char := (List.range 32).map Char.ofNat ++ ['"', '\\']

theorem mem_special_of_lt {c : Char} (h : c.toNat < 32) : c ∈ special := by
  have hmem : Char.ofNat c.toNat ∈ special :=
    List.mem_append_left _ (List.mem_map_of_mem (List.mem_range.mpr h))
  rwa [Char.ofNat_toNat] at hmem

theorem escape_plain {c : Char} (h : c ∉ special) : escape c = [c] := by
  have hkeys : ∀ p ∈ shortEscapes, p.1 ∈ special := by decide
  have hlookup : shortEscapes.lookup c = none := by
    rw [List.lookup_eq_none_iff]
    intro p hp
    have hne : c ≠ p.1 := fun heq => h (heq ▸ hkeys p hp)
    simpa using hne
  have hlarge : ¬ c.toNat < 32 := fun hlt => h (mem_special_of_lt hlt)
  rw [escape, hlookup, if_neg hlarge]

theorem escape_special {c : Char} (h : c ∈ special) : (escape c).head? = some '\\' := by
  have hall : (special.all fun c => (escape c).head? == some '\\') = true := by decide
  simpa using List.all_eq_true.mp hall c h

theorem escape_prefixFree {c d : Char} (hc : c ∈ special) (hd : d ∈ special)
    (h : escape c <+: escape d) : c = d := by
  have hall : (special.all fun c => special.all fun d =>
      !(escape c).isPrefixOf (escape d) || c == d) = true := by decide
  have hpair := List.all_eq_true.mp (List.all_eq_true.mp hall c hc) d hd
  simpa [List.isPrefixOf_iff_prefix.mpr h] using hpair

theorem escape_inj {c d : Char} {r r' : List Char} (h : escape c ++ r = escape d ++ r') :
    c = d ∧ r = r' := by
  have hsame : c = d := by
    by_cases hc : c ∈ special <;> by_cases hd : d ∈ special
    · rcases List.prefix_or_prefix_of_prefix (List.prefix_append (escape c) r)
        (h ▸ List.prefix_append (escape d) r') with hle | hle
      · exact escape_prefixFree hc hd hle
      · exact (escape_prefixFree hd hc hle).symm
    · have hhead := escape_special hc
      rw [escape_plain hd] at h
      cases hesc : escape c with
      | nil => simp [hesc] at hhead
      | cons x xs =>
        simp only [hesc, List.head?_cons, Option.some.injEq] at hhead
        simp only [hesc, List.cons_append, List.cons.injEq] at h
        exact absurd (h.1 ▸ hhead ▸ by decide) hd
    · have hhead := escape_special hd
      rw [escape_plain hc] at h
      cases hesc : escape d with
      | nil => simp [hesc] at hhead
      | cons x xs =>
        simp only [hesc, List.head?_cons, Option.some.injEq] at hhead
        simp only [hesc, List.cons_append, List.cons.injEq] at h
        exact absurd (h.1.symm ▸ hhead ▸ by decide) hc
    · rw [escape_plain hc, escape_plain hd] at h
      simp only [List.cons_append, List.nil_append, List.cons.injEq] at h
      exact h.1
  subst hsame
  exact ⟨rfl, List.append_cancel_left h⟩

theorem escapes_inj {cs ds : List Char} {r r' : List Char}
    (h : cs.flatMap escape ++ '"' :: r = ds.flatMap escape ++ '"' :: r') : cs = ds ∧ r = r' := by
  have hquote (c : Char) (x y : List Char) : escape c ++ x ≠ '"' :: y := by
    intro heq
    by_cases hc : c ∈ special
    · have hhead := congrArg List.head? heq
      rw [List.head?_append, escape_special hc] at hhead
      simp at hhead
    · rw [escape_plain hc] at heq
      exact hc (by simp_all [special])
  induction cs generalizing ds with
  | nil =>
    cases ds with
    | nil => simpa using h
    | cons d ds =>
      rw [List.flatMap_cons, List.append_assoc] at h
      exact absurd h.symm (hquote d _ _)
  | cons c cs ih =>
    cases ds with
    | nil =>
      rw [List.flatMap_cons, List.append_assoc] at h
      exact absurd h (hquote c _ _)
    | cons d ds =>
      simp only [List.flatMap_cons, List.append_assoc] at h
      obtain ⟨rfl, hrest⟩ := escape_inj h
      obtain ⟨rfl, rfl⟩ := ih hrest
      exact ⟨rfl, rfl⟩

theorem printText_inj {s t : String} {r r' : List Char}
    (h : printText s ++ r = printText t ++ r') : s = t ∧ r = r' := by
  simp only [printText, List.cons_append, List.append_assoc, List.cons.injEq, true_and,
    List.nil_append] at h
  obtain ⟨hs, hr⟩ := escapes_inj h
  exact ⟨String.toList_inj.mp hs, hr⟩

/-- What may follow a number. -/
def Ends (r : List Char) : Prop := ∀ c ∈ r.head?, c.isDigit = false

theorem ends_cons {c : Char} (h : c.isDigit = false) (r : List Char) : Ends (c :: r) := by
  intro d hd
  rw [List.head?_cons, Option.mem_some_iff] at hd
  exact hd ▸ h

theorem digits_isDigit {n : ℕ} {c : Char} (h : c ∈ Nat.toDigits 10 n) : c.isDigit :=
  Nat.isDigit_of_mem_toDigits (by decide) (by decide) h

theorem takeWhile_digits {r : List Char} (n : ℕ) (h : Ends r) :
    (Nat.toDigits 10 n ++ r).takeWhile Char.isDigit = Nat.toDigits 10 n := by
  rw [List.takeWhile_append_of_pos fun c hc => digits_isDigit hc]
  cases r with
  | nil => simp
  | cons c r =>
    have hc := h c rfl
    rw [List.takeWhile_cons_of_neg (by simp [hc]), List.append_nil]

theorem digits_inj {n m : ℕ} {r r' : List Char} (h : Ends r) (h' : Ends r')
    (heq : Nat.toDigits 10 n ++ r = Nat.toDigits 10 m ++ r') : n = m ∧ r = r' := by
  have hdigits : Nat.toDigits 10 n = Nat.toDigits 10 m := by
    rw [← takeWhile_digits n h, heq, takeWhile_digits m h']
  have hrepr : Nat.repr n = Nat.repr m := congrArg String.ofList hdigits
  rw [hdigits] at heq
  exact ⟨Nat.repr_inj.mp hrepr, List.append_cancel_left heq⟩

mutual

def print : Value → List Char
  | .bool b => (toString b).toList
  | .number n => Nat.toDigits 10 n
  | .text s => printText s
  | .array [] => ['[', ']']
  | .array (v :: rest) => '[' :: print v ++ printItems rest ++ [']']
  | .object [] => ['{', '}']
  | .object ((key, v) :: rest) =>
    '{' :: printText key ++ ':' :: print v ++ printFields rest ++ ['}']

/-- The items of an array after the first. -/
def printItems : List Value → List Char
  | [] => []
  | v :: rest => ',' :: print v ++ printItems rest

/-- The fields of an object after the first. -/
def printFields : List (String × Value) → List Char
  | [] => []
  | (key, v) :: rest => ',' :: printText key ++ ':' :: print v ++ printFields rest

end

/-- The character that a value begins with, with one digit for all and one letter for both. -/
def opening : Value → Char
  | .bool _ => 't'
  | .number _ => '0'
  | .text _ => '"'
  | .array _ => '['
  | .object _ => '{'

theorem print_opening (v : Value) (r : List Char) : ∃ c rest, print v ++ r = c :: rest ∧
    (if c.isDigit then '0' else if c = 'f' then 't' else c) = opening v := by
  cases v with
  | bool b => cases b <;> exact ⟨_, _, rfl, rfl⟩
  | number n =>
    cases hdigits : Nat.toDigits 10 n with
    | nil => exact absurd hdigits Nat.toDigits_ne_nil
    | cons c cs =>
      have hc : c.isDigit := digits_isDigit (hdigits ▸ List.mem_cons_self)
      exact ⟨c, cs ++ r, by rw [print, hdigits, List.cons_append], if_pos hc⟩
  | text s => exact ⟨_, _, by rw [print, printText, List.cons_append, List.cons_append], rfl⟩
  | array items =>
    cases items with
    | nil => exact ⟨_, _, by rw [print, List.cons_append], rfl⟩
    | cons v rest =>
      exact ⟨_, _, by rw [print, List.cons_append, List.cons_append, List.cons_append], rfl⟩
  | object fields =>
    cases fields with
    | nil => exact ⟨_, _, by rw [print, List.cons_append], rfl⟩
    | cons field rest =>
      exact ⟨_, _, by rw [print, List.cons_append, List.cons_append, List.cons_append,
        List.cons_append], rfl⟩

theorem opening_eq {v w : Value} {r r' : List Char} (h : print v ++ r = print w ++ r') :
    opening v = opening w := by
  obtain ⟨c, rest, hv, hc⟩ := print_opening v r
  obtain ⟨d, rest', hw, hd⟩ := print_opening w r'
  rw [hv, hw, List.cons.injEq] at h
  rw [← hc, ← hd, h.1]

theorem print_ne_bracket (v : Value) (r r' : List Char) : print v ++ r ≠ ']' :: r' := by
  intro h
  obtain ⟨c, rest, hv, hc⟩ := print_opening v r
  rw [hv, List.cons.injEq] at h
  have hbracket : (if ']'.isDigit then '0' else if ']' = 'f' then 't' else ']') = ']' := by decide
  rw [h.1, hbracket] at hc
  cases v <;> simp [opening] at hc

theorem ends_items (vs : List Value) (r : List Char) : Ends (printItems vs ++ ']' :: r) := by
  cases vs <;> exact ends_cons (by decide) _

theorem ends_fields (fields : List (String × Value)) (r : List Char) :
    Ends (printFields fields ++ '}' :: r) := by
  cases fields <;> exact ends_cons (by decide) _

mutual

/-- What is written as a value is written as no other, whatever follows. -/
theorem print_inj (v w : Value) (r r' : List Char) (hr : Ends r) (hr' : Ends r')
    (h : print v ++ r = print w ++ r') : v = w ∧ r = r' := by
  have hopen := opening_eq h
  cases v with
  | bool b =>
    cases w with
    | bool b' =>
      have hchars : (toString false).toList = ['f', 'a', 'l', 's', 'e'] ∧
          (toString true).toList = ['t', 'r', 'u', 'e'] := by decide
      cases b <;> cases b' <;> simp_all [print]
    | number | text | array | object => simp [opening] at hopen
  | number n =>
    cases w with
    | number m =>
      obtain ⟨rfl, rfl⟩ := digits_inj hr hr' (by simpa only [print] using h)
      exact ⟨rfl, rfl⟩
    | bool | text | array | object => simp [opening] at hopen
  | text s =>
    cases w with
    | text t =>
      obtain ⟨rfl, rfl⟩ := printText_inj (by simpa only [print] using h)
      exact ⟨rfl, rfl⟩
    | bool | number | array | object => simp [opening] at hopen
  | array items =>
    cases w with
    | array items' =>
      cases items <;> cases items' <;>
        simp only [print, List.cons_append, List.append_assoc, List.nil_append, List.cons.injEq,
          true_and] at h
      case nil.nil => exact ⟨rfl, h⟩
      case nil.cons w ws => exact absurd h.symm (print_ne_bracket w _ _)
      case cons.nil v vs => exact absurd h (print_ne_bracket v _ _)
      case cons.cons v vs w ws =>
        obtain ⟨rfl, hrest⟩ := print_inj v w _ _ (ends_items vs r) (ends_items ws r') h
        obtain ⟨rfl, rfl⟩ := printItems_inj vs ws r r' hrest
        exact ⟨rfl, rfl⟩
    | bool | number | text | object => simp [opening] at hopen
  | object fields =>
    cases w with
    | object fields' =>
      rcases fields with - | ⟨⟨key, v⟩, rest⟩ <;> rcases fields' with - | ⟨⟨key', v'⟩, rest'⟩ <;>
        simp only [print, List.cons_append, List.append_assoc, List.nil_append, List.cons.injEq,
          true_and] at h
      case nil.nil => exact ⟨rfl, h⟩
      case nil.cons => simp [printText] at h
      case cons.nil => simp [printText] at h
      case cons.cons =>
        obtain ⟨rfl, hvalue⟩ := printText_inj h
        rw [List.cons.injEq] at hvalue
        obtain ⟨rfl, hrest⟩ :=
          print_inj v v' _ _ (ends_fields rest r) (ends_fields rest' r') hvalue.2
        obtain ⟨rfl, rfl⟩ := printFields_inj rest rest' r r' hrest
        exact ⟨rfl, rfl⟩
    | bool | number | text | array => simp [opening] at hopen

theorem printItems_inj (vs ws : List Value) (r r' : List Char)
    (h : printItems vs ++ ']' :: r = printItems ws ++ ']' :: r') : vs = ws ∧ r = r' := by
  cases vs <;> cases ws <;>
    simp only [printItems, List.cons_append, List.append_assoc, List.nil_append, List.cons.injEq,
      true_and] at h
  case nil.nil => exact ⟨rfl, h⟩
  case nil.cons => exact absurd h.1 (by decide)
  case cons.nil => exact absurd h.1 (by decide)
  case cons.cons v vs w ws =>
    obtain ⟨rfl, hrest⟩ := print_inj v w _ _ (ends_items vs r) (ends_items ws r') h
    obtain ⟨rfl, rfl⟩ := printItems_inj vs ws r r' hrest
    exact ⟨rfl, rfl⟩

theorem printFields_inj (fields fields' : List (String × Value)) (r r' : List Char)
    (h : printFields fields ++ '}' :: r = printFields fields' ++ '}' :: r') :
    fields = fields' ∧ r = r' := by
  rcases fields with - | ⟨⟨key, v⟩, rest⟩ <;> rcases fields' with - | ⟨⟨key', v'⟩, rest'⟩ <;>
    simp only [printFields, List.cons_append, List.append_assoc, List.nil_append,
      List.cons.injEq, true_and] at h
  case nil.nil => exact ⟨rfl, h⟩
  case nil.cons => exact absurd h.1 (by decide)
  case cons.nil => exact absurd h.1 (by decide)
  case cons.cons =>
    obtain ⟨rfl, hvalue⟩ := printText_inj h
    rw [List.cons.injEq] at hvalue
    obtain ⟨rfl, hrest⟩ := print_inj v v' _ _ (ends_fields rest r) (ends_fields rest' r') hvalue.2
    obtain ⟨rfl, rfl⟩ := printFields_inj rest rest' r r' hrest
    exact ⟨rfl, rfl⟩

end

theorem printText_length (s : String) : (printText s).length ≤ 6 * s.length + 2 := by
  have hescape (c : Char) : (escape c).length ≤ 6 := by
    unfold escape
    split
    · simp
    · split <;> simp
  have hflat (cs : List Char) : (cs.flatMap escape).length ≤ 6 * cs.length := by
    induction cs with
    | nil => simp
    | cons c cs ih =>
      have hc := hescape c
      rw [List.flatMap_cons, List.length_append, List.length_cons]
      omega
  have hs := hflat s.toList
  rw [String.length_toList] at hs
  simp only [printText, List.length_append, List.length_cons, List.length_nil]
  omega

theorem print_text_length (s : String) : (print (.text s)).length ≤ 6 * s.length + 2 := by
  rw [print]
  exact printText_length s

theorem print_number_length {n : ℕ} (h : n < 2 ^ 64) : (print (.number n)).length ≤ 20 := by
  have hrepr : (Nat.repr n).length ≤ 20 := Nat.repr_length n 20 (by omega) (by omega)
  rw [← String.length_toList] at hrepr
  simpa [print, Nat.repr] using hrepr

theorem print_array_length {items : List Value} {k : ℕ}
    (h : ∀ v ∈ items, (print v).length ≤ k) :
    (print (.array items)).length ≤ items.length * (k + 1) + 2 := by
  have hitems (vs : List Value) (hvs : ∀ v ∈ vs, (print v).length ≤ k) :
      (printItems vs).length ≤ vs.length * (k + 1) := by
    induction vs with
    | nil => simp [printItems]
    | cons v vs ih =>
      have hv := hvs v List.mem_cons_self
      have hrest := ih fun w hw => hvs w (List.mem_cons_of_mem v hw)
      simp only [printItems, List.cons_append, List.length_cons, List.length_append, Nat.add_mul]
      omega
  cases items with
  | nil => simp [print]
  | cons v vs =>
    have hv := h v List.mem_cons_self
    have hrest := hitems vs fun w hw => h w (List.mem_cons_of_mem v hw)
    simp only [print, List.cons_append, List.length_cons, List.length_append, List.length_nil,
      Nat.add_mul]
    omega

/-- An object whose keys have at most 32 characters. -/
theorem print_object_length {fields : List (String × Value)} {k : ℕ}
    (hkeys : ∀ key ∈ fields.map (·.1), key.length ≤ 32)
    (hvalues : ∀ v ∈ fields.map (·.2), (print v).length ≤ k) :
    (print (.object fields)).length ≤ fields.length * (k + 200) + 2 := by
  have hfield (f : String × Value) (fs : List (String × Value))
      (h : ∀ key ∈ (f :: fs).map (·.1), key.length ≤ 32) : (printText f.1).length ≤ 194 := by
    have htext := printText_length f.1
    have hkey := h f.1 List.mem_cons_self
    omega
  have hfields (fs : List (String × Value)) (h : ∀ key ∈ fs.map (·.1), key.length ≤ 32)
      (hvs : ∀ v ∈ fs.map (·.2), (print v).length ≤ k) :
      (printFields fs).length ≤ fs.length * (k + 200) := by
    induction fs with
    | nil => simp [printFields]
    | cons f fs ih =>
      have hf := hfield f fs h
      have hv := hvs f.2 List.mem_cons_self
      have hrest := ih (fun key hkey => h key (List.mem_cons_of_mem _ hkey))
        fun w hw => hvs w (List.mem_cons_of_mem _ hw)
      simp only [printFields, List.cons_append, List.append_assoc, List.length_cons,
        List.length_append, Nat.add_mul]
      omega
  cases fields with
  | nil => simp [print]
  | cons f fs =>
    have hf := hfield f fs hkeys
    have hv := hvalues f.2 List.mem_cons_self
    have hrest := hfields fs (fun key hkey => hkeys key (List.mem_cons_of_mem _ hkey))
      fun w hw => hvalues w (List.mem_cons_of_mem _ hw)
    simp only [print, List.cons_append, List.append_assoc, List.length_cons, List.length_append,
      List.length_nil, Nat.add_mul]
    omega

/-- The bytes of a value. -/
def toVec (v : Value) : Bytes := utf8 (String.ofList (print v))

theorem toVec_injective : Function.Injective toVec := by
  intro v w h
  have hprint : print v = print w := String.ofList_inj.mp (utf8_injective h)
  have hends : Ends [] := by simp [Ends]
  exact (print_inj v w [] [] hends hends (by rw [hprint])).1

theorem utf8_length_le (cs : List Char) : (utf8 (String.ofList cs)).length ≤ 4 * cs.length := by
  induction cs with
  | nil => simp [utf8]
  | cons c cs ih =>
    have hsplit : String.ofList (c :: cs) = String.singleton c ++ String.ofList cs := by
      apply String.toList_inj.mp
      simp
    have hone : (utf8 (String.singleton c)).length ≤ 4 := by
      have hsize := Char.utf8Size_le_four c
      simpa [utf8, List.utf8Encode_singleton, String.length_utf8EncodeChar] using hsize
    rw [hsplit, utf8_append, List.length_append, List.length_cons]
    omega

end TapLdk.LibraryJson
