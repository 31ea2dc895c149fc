import Mathlib
import TapLdk.LibraryExcept
import TapLdk.LibraryBytes

/-! Bech32 on lower-case text: bytes as digits of five bits, a checksum of six digits over
the human-readable part and the data, and the characters that stand for the digits. -/
namespace TapLdk.LibraryBech32
open TapLdk.LibraryExcept TapLdk.LibraryBytes

inductive Bech32Error where
  | missingSeparator
  | invalidHrp
  | invalidChar (value : Char)
  | invalidLength
  | invalidChecksum
  | invalidPadding
deriving DecidableEq

/-- The `count` low-order base-32 digits of a number, most significant first. -/
def digits : ℕ → ℕ → List ℕ
  | 0, _ => []
  | count + 1, v => v / 32 ^ count % 32 :: digits count v

def ofDigits (ds : List ℕ) : ℕ := ds.foldl (fun v d => 32 * v + d) 0

/-- The zero bits that follow the bytes in the last digit. -/
def padding (length : ℕ) : ℕ := (5 - 8 * length % 5) % 5

def toBase32 (data : Bytes) : List ℕ :=
  digits ((8 * data.length + padding data.length) / 5) (beValue data * 2 ^ padding data.length)

/-- The bytes of digits whose last bits, fewer than five, are zero. -/
def fromBase32 (ds : List ℕ) : Except Bech32Error Bytes := do
  let rest := 5 * ds.length % 8
  rejectIf (5 ≤ rest ∨ ofDigits ds % 2 ^ rest ≠ 0) .invalidPadding
  pure (beBytes (5 * ds.length / 8) (ofDigits ds / 2 ^ rest))

@[simp] theorem digits_length (count v : ℕ) : (digits count v).length = count := by
  induction count with
  | zero => rfl
  | succ count ih => rw [digits, List.length_cons, ih]

theorem foldl_digits (count v start : ℕ) : (digits count v).foldl (fun v d => 32 * v + d) start =
    start * 32 ^ count + v % 32 ^ count := by
  induction count generalizing start with
  | zero => simp [digits, Nat.mod_one]
  | succ count ih =>
    rw [digits, List.foldl_cons, ih, pow_succ, Nat.mod_mul]
    ring

theorem ofDigits_digits {count v : ℕ} (h : v < 32 ^ count) : ofDigits (digits count v) = v := by
  rw [ofDigits, foldl_digits, Nat.zero_mul, Nat.zero_add, Nat.mod_eq_of_lt h]

/-- Bytes come back from their digits. -/
theorem fromBase32_toBase32 (data : Bytes) : fromBase32 (toBase32 data) = .ok data := by
  set n := data.length with hn
  set p := padding n with hp
  have hpad : p < 5 ∧ (8 * n + p) % 5 = 0 := by
    rw [hp, padding]
    omega
  have hbits : 5 * ((8 * n + p) / 5) = 8 * n + p := by omega
  have hrest : (8 * n + p) % 8 = p := by omega
  have hcount : (8 * n + p) / 8 = n := by omega
  have hvalue : ofDigits (toBase32 data) = beValue data * 2 ^ p := by
    refine ofDigits_digits ?_
    have hpow : 32 ^ ((8 * n + p) / 5) = 256 ^ n * 2 ^ p := by
      rw [show 32 = 2 ^ 5 from rfl, show 256 = 2 ^ 8 from rfl, ← pow_mul, ← pow_mul, hbits, pow_add]
    rw [← hn, ← hp, hpow]
    exact Nat.mul_lt_mul_of_pos_right (beValue_lt data) (by positivity)
  have hlength : (toBase32 data).length = (8 * n + p) / 5 := digits_length _ _
  have hzero : ¬ (5 ≤ p ∨ beValue data * 2 ^ p % 2 ^ p ≠ 0) := by
    rw [Nat.mul_mod_left]
    omega
  rw [fromBase32, hlength, hbits, hrest, hcount, hvalue, rejectIf_false hzero, ok_bind,
    Nat.mul_div_cancel _ (by positivity), hn, beBytes_beValue]
  rfl

/-- The generator of a coefficient's bit. -/
def tap (b i g : ℕ) : ℕ := if b.testBit i then g else 0

def generator (b : ℕ) : ℕ :=
  tap b 0 0x3b6a57b2 ^^^ tap b 1 0x26508e6d ^^^ tap b 2 0x1ea119fa ^^^ tap b 3 0x3d4233dd ^^^
    tap b 4 0x2a1462b3

def step (checksum v : ℕ) : ℕ :=
  (checksum % 2 ^ 25) <<< 5 ^^^ v ^^^ generator (checksum / 2 ^ 25)

def polymod (values : List ℕ) : ℕ := values.foldl step 1

def hrpExpand (hrp : Bytes) : List ℕ :=
  hrp.map (·.toNat / 32) ++ 0 :: hrp.map (·.toNat % 32)

/-- The digits that make the whole text have the remainder `target`. -/
def createChecksum (hrp : Bytes) (data : List ℕ) (target : ℕ) : List ℕ :=
  digits 6 (polymod (hrpExpand hrp ++ data ++ List.replicate 6 0) ^^^ target)

theorem tap_xor (a b i g : ℕ) : tap (a ^^^ b) i g = tap a i g ^^^ tap b i g := by
  unfold tap
  rw [Nat.testBit_xor]
  cases a.testBit i <;> cases b.testBit i <;> simp

theorem generator_xor (a b : ℕ) : generator (a ^^^ b) = generator a ^^^ generator b := by
  simp only [generator, tap_xor, Nat.xor_assoc, Nat.xor_left_comm]

/-- A step is linear over exclusive or. -/
theorem step_xor (s t v : ℕ) : step (s ^^^ t) v = step s 0 ^^^ step t v := by
  simp only [step, Nat.xor_mod_two_pow, Nat.xor_div_two_pow, Nat.shiftLeft_xor_distrib,
    generator_xor, Nat.xor_assoc, Nat.xor_comm, Nat.xor_left_comm, Nat.zero_xor]

theorem foldl_step_xor (ds : List ℕ) (s t : ℕ) : ds.foldl step (s ^^^ t) =
    (List.replicate ds.length 0).foldl step s ^^^ ds.foldl step t := by
  induction ds generalizing s t with
  | nil => rfl
  | cons d ds ih =>
    rw [List.foldl_cons, step_xor, ih, List.length_cons, List.replicate_succ, List.foldl_cons,
      List.foldl_cons]

theorem tap_lt {b i g : ℕ} (h : g < 2 ^ 30) : tap b i g < 2 ^ 30 := by
  unfold tap
  split
  · exact h
  · positivity

theorem step_lt (s : ℕ) {v : ℕ} (h : v < 32) : step s v < 2 ^ 30 := by
  have hshift : (s % 2 ^ 25) <<< 5 < 2 ^ 30 := by
    rw [Nat.shiftLeft_eq]
    omega
  have hgenerator : generator (s / 2 ^ 25) < 2 ^ 30 := by
    unfold generator
    repeat' apply Nat.xor_lt_two_pow
    all_goals exact tap_lt (by decide)
  exact Nat.xor_lt_two_pow (Nat.xor_lt_two_pow hshift (by omega)) hgenerator

theorem shift_xor {t d : ℕ} (h : d < 32) : t <<< 5 ^^^ d = 32 * t + d := by
  have hshift : t <<< 5 = 2 ^ 5 * t := by rw [Nat.shiftLeft_eq, Nat.mul_comm]
  have hhigh : (2 ^ 5 * t ^^^ d) / 2 ^ 5 = t := by
    rw [Nat.xor_div_two_pow, Nat.mul_div_cancel_left _ (by decide), Nat.div_eq_of_lt h,
      Nat.xor_zero]
  have hlow : (2 ^ 5 * t ^^^ d) % 2 ^ 5 = d := by
    rw [Nat.xor_mod_two_pow, Nat.mul_mod_right, Nat.mod_eq_of_lt h, Nat.zero_xor]
  rw [hshift, ← Nat.div_add_mod (2 ^ 5 * t ^^^ d) (2 ^ 5), hhigh, hlow]
  rfl

/-- From zero, up to six digits are only written one after the other. -/
theorem foldl_step_digits (ds : List ℕ) {k t : ℕ} (hk : k + ds.length ≤ 6) (ht : t < 32 ^ k)
    (hds : ∀ d ∈ ds, d < 32) : ds.foldl step t = ds.foldl (fun v d => 32 * v + d) t := by
  induction ds generalizing k t with
  | nil => rfl
  | cons d ds ih =>
    have hd := hds d (List.mem_cons_self ..)
    rw [List.length_cons] at hk
    have hpow : 32 ^ k ≤ 32 ^ 5 := Nat.pow_le_pow_right (by decide) (by omega)
    have hlt : t < 2 ^ 25 := ht.trans_le hpow
    have hstep : step t d = 32 * t + d := by
      rw [step, Nat.mod_eq_of_lt hlt, Nat.div_eq_of_lt hlt, shift_xor hd]
      exact Nat.xor_zero _
    rw [List.foldl_cons, List.foldl_cons, hstep]
    refine ih (k := k + 1) (by omega) ?_ fun d' hd' => hds d' (List.mem_cons_of_mem _ hd')
    rw [pow_succ]
    omega

theorem digits_lt (count v : ℕ) : ∀ d ∈ digits count v, d < 32 := by
  induction count with
  | zero => simp [digits]
  | succ count ih =>
    rw [digits, List.forall_mem_cons]
    exact ⟨Nat.mod_lt _ (by decide), ih⟩

/-- A text with its checksum has the remainder it was made for. -/
theorem polymod_checksum (hrp : Bytes) (data : List ℕ) {target : ℕ} (h : target < 2 ^ 30) :
    polymod (hrpExpand hrp ++ data ++ createChecksum hrp data target) = target := by
  unfold polymod createChecksum
  set start := (hrpExpand hrp ++ data).foldl step 1
  set remainder := (List.replicate 6 0).foldl step start
  have hremainder : polymod (hrpExpand hrp ++ data ++ List.replicate 6 0) = remainder := by
    rw [polymod, List.foldl_append]
  have hlt : remainder ^^^ target < 32 ^ 6 :=
    Nat.xor_lt_two_pow (n := 30) (step_lt _ (by decide)) h
  have hdigits : (digits 6 (remainder ^^^ target)).foldl step 0 = remainder ^^^ target := by
    rw [foldl_step_digits _ (k := 0) (by simp) (by simp) (digits_lt _ _)]
    exact ofDigits_digits hlt
  rw [hremainder, List.foldl_append]
  change List.foldl step start _ = target
  rw [← Nat.xor_zero start, foldl_step_xor, hdigits, digits_length]
  change remainder ^^^ (remainder ^^^ target) = target
  rw [← Nat.xor_assoc, Nat.xor_self, Nat.zero_xor]

def charset : List Char := "qpzry9x8gf2tvdw0s3jn54khce6mua7l".toList

def separator : Char := '1'

def charOf (d : ℕ) : Char := charset.getD d separator

def digitOf (c : Char) : Except Bech32Error ℕ :=
  okOr (charset.findIdx? (· = c)) (.invalidChar c)

/-- A human-readable part has 1 to 83 visible characters, here none of them in upper case. -/
def validHrp (hrp : List Char) : Bool :=
  1 ≤ hrp.length && hrp.length ≤ 83 &&
    hrp.all fun c => 33 ≤ c.toNat && c.toNat ≤ 126 && !(65 ≤ c.toNat && c.toNat ≤ 90)

def encode (target : ℕ) (hrp : String) (data : List ℕ) : Except Bech32Error String := do
  rejectIf (¬ validHrp hrp.toList) .invalidHrp
  pure (String.ofList (hrp.toList ++
    separator :: (data ++ createChecksum (utf8 hrp) data target).map charOf))

/-- What stands before and after the last separator. -/
def splitLast (text : List Char) : Except Bech32Error (List Char × List Char) :=
  match text.reverse.dropWhile (· ≠ separator) with
  | [] => .error .missingSeparator
  | _ :: hrp => .ok (hrp.reverse, (text.reverse.takeWhile (· ≠ separator)).reverse)

/-- The human-readable part, the data and which of the targets the remainder is. -/
def decode (targets : List ℕ) (text : String) : Except Bech32Error (String × List ℕ × ℕ) := do
  let (hrpChars, dataChars) ← splitLast text.toList
  rejectIf (¬ validHrp hrpChars) .invalidHrp
  let hrp := String.ofList hrpChars
  let values ← dataChars.mapM digitOf
  rejectIf (values.length < 6) .invalidLength
  let remainder := polymod (hrpExpand (utf8 hrp) ++ values)
  rejectIf (remainder ∉ targets) .invalidChecksum
  pure (hrp, values.take (values.length - 6), remainder)

theorem digitOf_charOf {d : ℕ} (h : d < 32) : digitOf (charOf d) = .ok d := by
  revert d
  decide

theorem charOf_ne_separator {d : ℕ} (h : d < 32) : charOf d ≠ separator := by
  revert d
  decide

theorem toBase32_lt (data : Bytes) : ∀ d ∈ toBase32 data, d < 32 := digits_lt _ _

theorem splitLast_append {hrp chars : List Char} (h : ∀ c ∈ chars, c ≠ separator) :
    splitLast (hrp ++ separator :: chars) = .ok (hrp, chars) := by
  have hchars : ∀ c ∈ chars.reverse, decide (c ≠ separator) = true := fun c hc =>
    decide_eq_true (h c (List.mem_reverse.mp hc))
  have hreverse : (hrp ++ separator :: chars).reverse =
      chars.reverse ++ separator :: hrp.reverse := by
    simp
  rw [splitLast, hreverse, List.dropWhile_append_of_pos hchars,
    List.takeWhile_append_of_pos hchars]
  simp

/-- What is encoded is decoded. -/
theorem decode_encode {target : ℕ} {targets : List ℕ} (hin : target ∈ targets)
    (htarget : target < 2 ^ 30) {hrp : String} (hhrp : validHrp hrp.toList) {data : List ℕ} (hdata : ∀ d ∈ data, d < 32) :
    ∃ text, encode target hrp data = .ok text ∧ decode targets text = .ok (hrp, data, target) := by
  set values := data ++ createChecksum (utf8 hrp) data target with hvalues
  have hlt : ∀ d ∈ values, d < 32 := by
    intro d hd
    rcases List.mem_append.mp hd with hin | hin
    · exact hdata d hin
    · exact digits_lt _ _ d hin
  have hchars : ∀ c ∈ values.map charOf, c ≠ separator := by
    intro c hc
    obtain ⟨d, hd, rfl⟩ := List.mem_map.mp hc
    exact charOf_ne_separator (hlt d hd)
  have hread : (values.map charOf).mapM digitOf = .ok values := by
    rw [mapM_eq_ok, List.forall₂_map_left_iff, List.forall₂_same]
    exact fun d hd => digitOf_charOf (hlt d hd)
  have hlength : values.length = data.length + 6 := by
    rw [hvalues, List.length_append, createChecksum, digits_length]
  have hremainder : polymod (hrpExpand (utf8 hrp) ++ values) = target := by
    rw [hvalues, ← List.append_assoc]
    exact polymod_checksum _ _ htarget
  have htake : values.take (values.length - 6) = data := by
    rw [hlength, Nat.add_sub_cancel, hvalues]
    exact List.take_left
  refine ⟨_, by rw [encode, rejectIf_false (not_not.mpr hhrp)]; rfl, ?_⟩
  have hshort : ¬ values.length < 6 := by omega
  rw [decode, String.toList_ofList, splitLast_append hchars, ok_bind]
  simp only [hhrp, not_true_eq_false, rejectIf_false not_false, ok_bind, String.ofList_toList, hread,
    rejectIf_false hshort, hremainder, hin, htake, pure_eq_ok]

end TapLdk.LibraryBech32
