import Mathlib
import TapLdk.LibraryHex
import TapLdk.Wallet

/-! The hexadecimal decoders behind identifiers, keys, wallet proofs and ancestry files: when
they accept exactly the hexadecimal texts, and what else ends them. -/
namespace TapLdk.HexDecoders
open TapLdk.LibraryExcept TapLdk.LibraryBytes TapLdk.LibraryHex TapLdk.Mssmt TapLdk.Asset
open TapLdk.TapdProof TapLdk.Wallet

def IsHexChar (c : Char) : Prop :=
  ('0' ≤ c ∧ c ≤ '9') ∨ ('a' ≤ c ∧ c ≤ 'f') ∨ ('A' ≤ c ∧ c ≤ 'F')

instance (c : Char) : Decidable (IsHexChar c) := inferInstanceAs (Decidable (_ ∨ _))

def HexText (s : String) : Prop := ∀ c ∈ s.toList, IsHexChar c

theorem isHexChar_spec : ∀ n < 128, IsHexChar (Char.ofNat n) ↔ IsDigit (UInt8.ofNat n) := by
  decide +kernel

theorem isHexChar_ascii {c : Char} (h : IsHexChar c) : c.toNat < 128 := by
  have hle : ∀ {bound : Char}, bound.toNat < 128 → c ≤ bound → c.toNat < 128 := by
    intro bound hbound hc
    have hval : c.toNat ≤ bound.toNat := Char.le_def.mp hc
    omega
  rcases h with ⟨-, h⟩ | ⟨-, h⟩ | ⟨-, h⟩
  · exact hle (by decide) h
  · exact hle (by decide) h
  · exact hle (by decide) h

/-- The characters of a text are digits exactly if its bytes are. -/
theorem hexText_iff {s : String} : HexText s ↔ ∀ b ∈ utf8 s, IsDigit b := by
  constructor
  · intro h b hb
    have hutf8 : utf8 s = s.toList.map fun c => UInt8.ofNat c.toNat := by
      conv_lhs => rw [← @String.ofList_toList s]
      exact utf8_ofList_ascii fun c hc => isHexChar_ascii (h c hc)
    rw [hutf8] at hb
    obtain ⟨c, hc, rfl⟩ := List.mem_map.mp hb
    refine (isHexChar_spec _ (isHexChar_ascii (h c hc))).mp ?_
    rw [Char.ofNat_toNat]
    exact h c hc
  · intro h c hc
    rw [eq_asciiText fun b hb => isDigit_ascii (h b hb), asciiText, String.toList_ofList] at hc
    obtain ⟨b, hb, rfl⟩ := List.mem_map.mp hc
    refine (isHexChar_spec _ (isDigit_ascii (h b hb))).mpr ?_
    rw [UInt8.ofNat_toNat]
    exact h b hb

def EvenLength (s : String) : Prop := (utf8 s).length % 2 = 0

/-- The result of decoding a text is no panic, it is a value exactly if the text is
hexadecimal and meets what is required of it, and the value spells the text in lower case. -/
structure HexExact {ε α : Type} (panicked : String → ε) (r : Except ε α) (bytes : α → Bytes)
    (required : Prop) (text : String) : Prop where
  total : ∀ message, r ≠ .error (panicked message)
  accepts : (∃ a, r = .ok a) ↔ required ∧ HexText text
  restores : ∀ a, r = .ok a → encodeHex (bytes a) = text.toLower

/-- If not all pairs of an even text are read, the first that is not cuts no character; if all
are, one that has a sign makes no difference. -/
def ReadsPlainly (text : String) (harmless : Prop) : Prop :=
  EvenLength text →
    match firstUnread (utf8 text) with
    | some p => ¬ p.Split
    | none => (∃ p ∈ pairs (utf8 text), p.Signed) → harmless

/-- All pairs are two digits exactly if all are read and none has a sign. -/
theorem hexText_iff_pairs {s : String} (heven : EvenLength s) :
    HexText s ↔ firstUnread (utf8 s) = none ∧ ∀ p ∈ pairs (utf8 s), ¬ p.Signed := by
  have hsign : ∀ p : Pair, p.Spelled → ¬ p.Signed := by
    rintro p ⟨hdigit, -⟩ ⟨hsign, -⟩
    exact not_isDigit_sign (hsign ▸ hdigit)
  rw [hexText_iff, ← pairs_spelled_iff heven, firstUnread_eq_none]
  constructor
  · intro h
    exact ⟨fun p hp => .inl (h p hp), fun p hp => hsign p (h p hp)⟩
  · rintro ⟨hreads, hplain⟩ p hp
    exact (hreads p hp).resolve_right (hplain p hp)

section

variable {ε α : Type} {panicked : String → ε} {message : String} {invalidByte : String → ε} {odd : ε}
  {finish : Bytes → Except ε α} {bytes : α → Bytes} {required : Prop} {text : String}

/-- A decoder that reads the pairs of a text of even length and then looks at the bytes. -/
def decodeText (odd : ε) (invalidByte : String → ε) (panic : ε) (finish : Bytes → Except ε α)
    (text : String) : Except ε α := do
  rejectIf ((utf8 text).length % 2 ≠ 0) odd
  let bytes ← decodeHexPairs invalidByte panic (utf8 text)
  finish bytes

/-- The bytes that the pairs of a text stand for. -/
def pairBytes (text : String) : Bytes := (pairs (utf8 text)).map Pair.value

/-- Such a decoder is exact on a text exactly if the text reads plainly, where a sign makes no
difference if the bytes are refused. -/
theorem hexExact_decodeText (hodd : ∀ m, odd ≠ panicked m) (hinvalid : ∀ v m, invalidByte v ≠ panicked m)
    (hfinish : ∀ bs m, finish bs ≠ .error (panicked m))
    (hbytes : ∀ bs a, finish bs = .ok a → bytes a = bs) (heven : required → EvenLength text)
    (hrequired : EvenLength text → HexText text →
      ((∃ a, finish (pairBytes text) = .ok a) ↔ required)) :
    HexExact panicked (decodeText odd invalidByte (panicked message) finish text) bytes required text ↔
      ReadsPlainly text (∀ a, finish (pairBytes text) ≠ .ok a) := by
  by_cases hlength : EvenLength text
  swap
  · -- a text of odd length is refused, and nothing else is asked
    have hr : decodeText odd invalidByte (panicked message) finish text = .error odd := by
      unfold decodeText rejectIf
      rw [if_pos (show (utf8 text).length % 2 ≠ 0 from hlength), error_bind]
    rw [hr]
    refine ⟨fun _ h => absurd h hlength, fun _ => ⟨?_, ?_, ?_⟩⟩
    · intro m h
      exact hodd m (Except.error.inj h)
    · refine ⟨?_, fun h => absurd (heven h.1) hlength⟩
      rintro ⟨a, h⟩
      cases h
    · intro a h
      cases h
  have hr : decodeText odd invalidByte (panicked message) finish text =
      decodeHexPairs invalidByte (panicked message) (utf8 text) >>= finish := by
    unfold decodeText
    rw [rejectIf_false (not_not.mpr (show (utf8 text).length % 2 = 0 from hlength)), ok_bind]
  rw [hr, decodeHexPairs_eq _ _ hlength, ReadsPlainly]
  have hhex := hexText_iff_pairs hlength
  cases hfirst : firstUnread (utf8 text) with
  | some p =>
    have hno : ¬ HexText text := fun h => by simp [hhex.mp h] at hfirst
    dsimp only [error_bind]
    constructor
    · intro h _ hsplit
      refine h.total message ?_
      rw [hsplit]
      rfl
    · intro h
      obtain ⟨value, hvalue⟩ := Option.ne_none_iff_exists'.mp (h hlength)
      rw [hvalue]
      refine ⟨?_, ?_, ?_⟩
      · intro m h
        exact hinvalid value m (Except.error.inj h)
      · refine ⟨?_, fun h => absurd h.2 hno⟩
        rintro ⟨a, h⟩
        cases h
      · intro a h
        cases h
  | none =>
    dsimp only [ok_bind]
    by_cases hplain : ∀ p ∈ pairs (utf8 text), ¬ p.Signed
    · have htext := hhex.mpr ⟨hfirst, hplain⟩
      refine ⟨fun _ _ ⟨p, hp, hsigned⟩ => absurd hsigned (hplain p hp), fun _ => ⟨?_, ?_, ?_⟩⟩
      · exact hfinish _
      · rw [and_iff_left htext]
        exact hrequired hlength htext
      · intro a h
        rw [hbytes _ a h]
        exact encodeHex_pairs hlength (hexText_iff.mp htext)
    · have hno : ¬ HexText text := fun h => hplain (hhex.mp h).2
      have hsigned : ∃ p ∈ pairs (utf8 text), p.Signed := by
        simpa only [not_forall, not_not, exists_prop] using hplain
      constructor
      · intro h _ _ a ha
        exact hno (h.accepts.mp ⟨a, ha⟩).2
      · intro h
        have hrefused := h hlength hsigned
        refine ⟨hfinish _, ?_, fun a ha => absurd ha (hrefused a)⟩
        exact ⟨fun ⟨a, ha⟩ => absurd ha (hrefused a), fun h => absurd h.2 hno⟩

end

/-- The digits 02 or 03 in front of a key. -/
def KeyPrefix (text : String) : Prop :=
  (utf8 text).take 2 = utf8 "02" ∨ (utf8 text).take 2 = utf8 "03"

/-- The same with a plus sign for the zero. -/
def SignedKeyPrefix (text : String) : Prop :=
  (utf8 text).take 2 = utf8 "+2" ∨ (utf8 text).take 2 = utf8 "+3"

theorem pairBytes_length {text : String} (heven : EvenLength text) :
    2 * (pairBytes text).length = (utf8 text).length := by
  rw [pairBytes, List.length_map]
  exact pairs_length heven

theorem hexDigit_small : ∀ n < 256, (hexDigit (UInt8.ofNat n) = some 0 ↔ n = 48) ∧
    (hexDigit (UInt8.ofNat n) = some 2 ↔ n = 50) ∧ (hexDigit (UInt8.ofNat n) = some 3 ↔ n = 51) := by
  decide +kernel

theorem hexDigit_keyPrefix (b : UInt8) : (hexDigit b = some 0 ↔ b = 48) ∧
    (hexDigit b = some 2 ↔ b = 50) ∧ (hexDigit b = some 3 ↔ b = 51) := by
  have h := hexDigit_small b.toNat b.toNat_lt
  rw [UInt8.ofNat_toNat] at h
  simp only [← UInt8.toNat_inj]
  exact h

/-- The pairs that are read as two or three. -/
theorem value_keyPrefix {p : Pair} (h : p.Reads) : (p.value = 2 ∨ p.value = 3) ↔
    (p.1 = 48 ∨ p.1 = 43) ∧ (p.2 = 50 ∨ p.2 = 51) := by
  have hvalue : ∀ x y : ℕ, x < 16 → y < 16 →
      ((UInt8.ofNat (16 * x + y) = 2 ∨ UInt8.ofNat (16 * x + y) = 3) ↔ x = 0 ∧ (y = 2 ∨ y = 3)) := by
    intro x y hx hy
    simp only [← UInt8.toNat_inj, UInt8.toNat_ofNat']
    have h2 : UInt8.toNat 2 = 2 := rfl
    have h3 : UInt8.toNat 3 = 3 := rfl
    omega
  obtain ⟨-, htwo, hthree⟩ := hexDigit_keyPrefix p.2
  rcases h with ⟨hfirst, hsecond⟩ | ⟨hsign, hsecond⟩
  · obtain ⟨x, hx⟩ := isDigit_iff.mp hfirst
    obtain ⟨y, hy⟩ := isDigit_iff.mp hsecond
    have hzero := (hexDigit_keyPrefix p.1).1
    have hno : p.1 ≠ 43 := fun h => not_isDigit_sign (h ▸ hfirst)
    rw [Pair.value, hx, hy, Option.getD_some, Option.getD_some,
      hvalue x y (hexDigit_eq_some hx).1 (hexDigit_eq_some hy).1, or_iff_left hno, ← hzero, hx,
      ← htwo, ← hthree, hy]
    simp only [Option.some.injEq]
  · obtain ⟨y, hy⟩ := isDigit_iff.mp hsecond
    have hnone : hexDigit 43 = none := by decide
    rw [Pair.value, hsign, hnone, hy, Option.getD_none, Option.getD_some,
      hvalue 0 y (by decide) (hexDigit_eq_some hy).1, ← htwo, ← hthree, hy]
    simp

/-- The first byte of a text whose pairs are read is two or three exactly if the text begins
as a key does, with or without a sign. -/
theorem head_pairBytes {text : String} (hreads : firstUnread (utf8 text) = none) :
    ((pairBytes text).headD 0 = 2 ∨ (pairBytes text).headD 0 = 3) ↔
      KeyPrefix text ∨ SignedKeyPrefix text := by
  have h02 : utf8 "02" = [48, 50] ∧ utf8 "03" = [48, 51] ∧ utf8 "+2" = [43, 50] ∧
      utf8 "+3" = [43, 51] := by
    decide +kernel
  obtain ⟨h1, h2, h3, h4⟩ := h02
  rw [KeyPrefix, SignedKeyPrefix, h1, h2, h3, h4, pairBytes]
  rw [firstUnread_eq_none] at hreads
  match utf8 text, hreads with
  | [], _ => simp [pairs]
  | [a], _ => simp [pairs]
  | a :: b :: rest, hreads =>
    have hfirst := value_keyPrefix (hreads (a, b) (by simp [pairs]))
    simp only [pairs, List.map_cons, List.headD_cons, hfirst, List.take_succ_cons, List.take_zero,
      List.cons.injEq, and_true]
    tauto

theorem readsPlainly_congr {text : String} {harmless harmless' : Prop}
    (h : EvenLength text → firstUnread (utf8 text) = none → (harmless ↔ harmless')) :
    ReadsPlainly text harmless ↔ ReadsPlainly text harmless' := by
  refine forall_congr' fun heven => ?_
  cases hfirst : firstUnread (utf8 text) with
  | some p => exact Iff.rfl
  | none => exact forall_congr' fun _ => h heven hfirst

theorem decodeText_ok {ε : Type} (odd : ε) (invalidByte : String → ε) (panic : ε) (text : String) :
    decodeText odd invalidByte panic .ok text = (do
      rejectIf ((utf8 text).length % 2 ≠ 0) odd
      decodeHexPairs invalidByte panic (utf8 text)) := by
  simp only [decodeText, bind_ok]

/-- A decoder that returns the bytes as they are. -/
theorem hexExact_bytes {ε : Type} {panicked : String → ε} {message : String}
    {invalidByte : String → ε} {odd : ε} {text : String} {r : Except ε Bytes}
    (hr : r = do
      rejectIf ((utf8 text).length % 2 ≠ 0) odd
      decodeHexPairs invalidByte (panicked message) (utf8 text))
    (hodd : ∀ m, odd ≠ panicked m) (hinvalid : ∀ v m, invalidByte v ≠ panicked m) :
    HexExact panicked r id (EvenLength text) text ↔ ReadsPlainly text False := by
  rw [hr, ← decodeText_ok, hexExact_decodeText hodd hinvalid (by simp) (by simp) id
    fun heven _ => ⟨fun _ => heven, fun _ => ⟨_, rfl⟩⟩]
  exact readsPlainly_congr fun _ _ => by simp

theorem decodeHex_asset_iff (text : String) :
    HexExact AssetError.panicked (Asset.decodeHex text) id (EvenLength text) text ↔
      ReadsPlainly text False :=
  hexExact_bytes rfl (by simp) (by simp)

theorem decodeHex_wallet_iff (text : String) :
    HexExact WalletError.panicked (Wallet.decodeHex text) id (EvenLength text) text ↔
      ReadsPlainly text False :=
  hexExact_bytes rfl (by simp) (by simp)

/-- The text that is left of a fixture without its white space. -/
def compact (raw : String) : String := String.ofList (raw.toList.filter fun c => !isWhitespace c)

theorem decodeHexText_iff (raw : String) :
    HexExact TapdProofError.panicked (decodeHexText raw) id
      (compact raw ≠ "" ∧ EvenLength (compact raw)) (compact raw) ↔
      ReadsPlainly (compact raw) False := by
  by_cases hempty : compact raw = ""
  · have hr : decodeHexText raw = .error .emptyHex := by
      unfold decodeHexText rejectIf
      dsimp only
      rw [if_pos (show String.ofList _ = "" from hempty), error_bind]
    have hutf8 : utf8 "" = [] := rfl
    have hplain : ReadsPlainly "" False := by
      simp [ReadsPlainly, hutf8, firstUnread, pairs]
    rw [hr, hempty]
    exact ⟨fun _ => hplain, fun _ => ⟨by simp, by simp, by simp⟩⟩
  · have hr : decodeHexText raw = (do
        rejectIf ((utf8 (compact raw)).length % 2 ≠ 0) .invalidHexLength
        decodeHexPairs .invalidHexByte (.panicked "hex input is str") (utf8 (compact raw))) := by
      unfold decodeHexText
      dsimp only
      rw [rejectIf_false (show ¬ String.ofList _ = "" from hempty), ok_bind]
      rfl
    rw [← hexExact_bytes hr (by simp) (by simp), and_iff_right hempty]

theorem decodeHex_bind {α : Type} (finish : Bytes → Except AssetError α) (text : String) :
    Asset.decodeHex text >>= finish =
      decodeText .hexLength .hexCharacter (.panicked "hex input is str") finish text := by
  rw [Asset.decodeHex, bind_assoc]
  rfl

theorem ofBytes_accepts {ε : Type} {n : ℕ} {bs : Bytes} {e : ε} :
    (∃ a, okOr (FixedBytes.ofBytes n bs) e = .ok a) ↔ bs.length = n := by
  simp only [okOr_eq_ok, FixedBytes.ofBytes_eq_some]
  constructor
  · rintro ⟨a, rfl⟩
    exact a.length_eq
  · intro h
    exact ⟨⟨bs, h⟩, rfl⟩

theorem ofBytes_never {ε : Type} {n : ℕ} {bs : Bytes} {e e' : ε} (hne : e ≠ e') :
    okOr (FixedBytes.ofBytes n bs) e ≠ .error e' := by
  cases FixedBytes.ofBytes n bs <;> simp [okOr, hne]

theorem evenLength_of_eq {text : String} {n : ℕ} (h : (utf8 text).length = 2 * n) :
    EvenLength text := by
  rw [EvenLength, h, Nat.mul_mod_right]

/-- An identifier: a sign makes no difference in a text of another length than 64. -/
theorem bytes32FromStr_iff (text : String) :
    HexExact AssetError.panicked (bytes32FromStr text) FixedBytes.bytes
      ((utf8 text).length = 64) text ↔ ReadsPlainly text ((utf8 text).length ≠ 64) := by
  have haccepts : EvenLength text → ((pairBytes text).length = 32 ↔ (utf8 text).length = 64) := by
    intro heven
    have := pairBytes_length heven
    omega
  have hlength : (utf8 text).length = 64 → EvenLength text := @evenLength_of_eq text 32
  rw [bytes32FromStr, decodeHex_bind, hexExact_decodeText (by simp) (by simp)
    (fun _ _ => ofBytes_never (by simp)) (fun bs a h => ?_) hlength
    (fun heven _ => by rw [ofBytes_accepts, haccepts heven])]
  · refine readsPlainly_congr fun heven _ => ?_
    rw [← not_exists, ofBytes_accepts, haccepts heven]
  · exact (FixedBytes.ofBytes_eq_some.mp (okOr_eq_ok.mp h)).symm

/-- The checks of a key on its bytes. -/
def finishKey (bytes : Bytes) : Except AssetError CompressedKey := do
  let key ← okOr (FixedBytes.ofBytes 33 bytes) (.invalidLength "compressed_key" 33 bytes.length)
  let first := bytes.headD 0
  rejectIf (first ≠ 2 ∧ first ≠ 3) (.invalidCompressedKeyPrefix first)
  pure key

theorem finishKey_eq_ok {bytes : Bytes} {key : CompressedKey} : finishKey bytes = .ok key ↔
    bytes = key.bytes ∧ (bytes.headD 0 = 2 ∨ bytes.headD 0 = 3) := by
  simp only [finishKey, bind_eq_ok, okOr_eq_ok, FixedBytes.ofBytes_eq_some, rejectIf_eq_ok,
    pure_eq_ok, Except.ok.injEq, exists_const, not_and_or, not_not]
  constructor
  · rintro ⟨key, hbytes, hfirst, rfl⟩
    exact ⟨hbytes, hfirst⟩
  · rintro ⟨hbytes, hfirst⟩
    exact ⟨key, hbytes, hfirst, rfl⟩

theorem finishKey_accepts {bytes : Bytes} : (∃ key, finishKey bytes = .ok key) ↔
    bytes.length = 33 ∧ (bytes.headD 0 = 2 ∨ bytes.headD 0 = 3) := by
  simp only [finishKey_eq_ok]
  constructor
  · rintro ⟨key, hbytes, hfirst⟩
    exact ⟨hbytes ▸ key.length_eq, hfirst⟩
  · rintro ⟨hlength, hfirst⟩
    exact ⟨⟨bytes, hlength⟩, rfl, hfirst⟩

theorem finishKey_never (bytes : Bytes) (message : String) :
    finishKey bytes ≠ .error (.panicked message) := by
  unfold finishKey
  cases FixedBytes.ofBytes 33 bytes with
  | none => simp [okOr]
  | some key =>
    simp only [okOr, ok_bind, rejectIf]
    split <;> simp

/-- A digit text does not begin with a sign. -/
theorem not_signedKeyPrefix {text : String} (h : HexText text) : ¬ SignedKeyPrefix text := by
  have hsigned : ∀ rest : Bytes, (utf8 text).take 2 = 43 :: rest → False := by
    intro rest hrest
    have hmem : (43 : UInt8) ∈ (utf8 text).take 2 := hrest ▸ List.mem_cons_self
    exact not_isDigit_sign (hexText_iff.mp h 43 (List.mem_of_mem_take hmem))
  have hlist : utf8 "+2" = [43, 50] ∧ utf8 "+3" = [43, 51] := by decide +kernel
  rw [SignedKeyPrefix, hlist.1, hlist.2]
  rintro (h | h)
  · exact hsigned _ h
  · exact hsigned _ h

/-- A key: a sign makes no difference in a text of another length than 66, or one that begins
as no key does. -/
theorem compressedKeyFromStr_iff (text : String) :
    HexExact AssetError.panicked (compressedKeyFromStr text) FixedBytes.bytes
      ((utf8 text).length = 66 ∧ KeyPrefix text) text ↔
      ReadsPlainly text ((utf8 text).length ≠ 66 ∨ ¬ (KeyPrefix text ∨ SignedKeyPrefix text)) := by
  have haccepts : EvenLength text → firstUnread (utf8 text) = none →
      ((∃ key, finishKey (pairBytes text) = .ok key) ↔
        (utf8 text).length = 66 ∧ (KeyPrefix text ∨ SignedKeyPrefix text)) := by
    intro heven hreads
    have := pairBytes_length heven
    rw [finishKey_accepts, head_pairBytes hreads]
    refine and_congr_left fun _ => ?_
    omega
  have hlength : (utf8 text).length = 66 ∧ KeyPrefix text → EvenLength text := fun h =>
    @evenLength_of_eq text 33 h.1
  have hkey : compressedKeyFromStr text =
      decodeText .hexLength .hexCharacter (.panicked "hex input is str") finishKey text :=
    decodeHex_bind finishKey text
  rw [hkey, hexExact_decodeText (by simp) (by simp) finishKey_never
    (fun _ _ h => (finishKey_eq_ok.mp h).1.symm) hlength
    (fun heven htext => ?_)]
  · refine readsPlainly_congr fun heven hreads => ?_
    rw [← not_exists, haccepts heven hreads, not_and_or]
  · rw [haccepts heven ((hexText_iff_pairs heven).mp htext).1,
      or_iff_left (not_signedKeyPrefix htext)]

/-- Each decoder is exact on a text, that is, it does not panic, accepts it exactly if it is
hexadecimal and as long as required, and returns what it spells, exactly if the text reads
plainly. -/
theorem hex_exact_iff (text : String) :
    (HexExact AssetError.panicked (Asset.decodeHex text) id (EvenLength text) text ↔
      ReadsPlainly text False) ∧
    (HexExact AssetError.panicked (bytes32FromStr text) FixedBytes.bytes
        ((utf8 text).length = 64) text ↔
      ReadsPlainly text ((utf8 text).length ≠ 64)) ∧
    (HexExact AssetError.panicked (compressedKeyFromStr text) FixedBytes.bytes
        ((utf8 text).length = 66 ∧ KeyPrefix text) text ↔
      ReadsPlainly text ((utf8 text).length ≠ 66 ∨ ¬ (KeyPrefix text ∨ SignedKeyPrefix text))) ∧
    (HexExact WalletError.panicked (Wallet.decodeHex text) id (EvenLength text) text ↔
      ReadsPlainly text False) ∧
    (HexExact TapdProofError.panicked (decodeHexText text) id
        (compact text ≠ "" ∧ EvenLength (compact text)) (compact text) ↔
      ReadsPlainly (compact text) False) :=
  ⟨decodeHex_asset_iff text, bytes32FromStr_iff text, compressedKeyFromStr_iff text,
    decodeHex_wallet_iff text, decodeHexText_iff text⟩

/-- A character cut between two pairs, and a sign in front of a digit. -/
theorem split_and_signed_texts :
    ¬ HexExact AssetError.panicked (Asset.decodeHex "aéb") id (EvenLength "aéb") "aéb" ∧
    ¬ HexExact AssetError.panicked (Asset.decodeHex "+f") id (EvenLength "+f") "+f" := by
  have hpanic : Asset.decodeHex "aéb" = .error (.panicked "hex input is str") := by decide +kernel
  have hok : Asset.decodeHex "+f" = .ok [15] := by decide +kernel
  constructor
  · intro h
    exact h.total _ hpanic
  · intro h
    have htext := (h.accepts.mp ⟨_, hok⟩).2
    exact absurd (htext '+' (by decide)) (by decide)

end TapLdk.HexDecoders
