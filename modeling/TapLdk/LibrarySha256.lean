import Mathlib
import TapLdk.LibraryBytes

/-! SHA-256, written to be evaluated by the kernel: a word is a natural number below
`2 ^ 32`, every operation is one the kernel computes on numerals, and each intermediate
word is forced to a numeral before it is used twice. -/
namespace TapLdk.LibrarySha256
open TapLdk.LibraryBytes

/-- Continue with `n` once it has been evaluated. -/
def force {α : Type} (n : ℕ) (k : ℕ → α) : α :=
  match n with
  | 0 => k 0
  | m + 1 => k (m + 1)

theorem force_eq {α : Type} (n : ℕ) (k : ℕ → α) : force n k = k n := by
  cases n <;> rfl

/-- The low 32 bits. -/
def low (x : ℕ) : ℕ := Nat.mod x 4294967296

/-- A word beside a copy of itself: the low 32 bits of its right shift by `r ≤ 32` are
the word rotated right by `r`. -/
def doubled (x : ℕ) : ℕ := Nat.mul x 4294967297

def xor3 (x y z : ℕ) : ℕ := Nat.xor (Nat.xor x y) z

/-- The functions Σ₀ and Σ₁, from the doubled word. -/
def bigSigma0 (d : ℕ) : ℕ := low (xor3 (Nat.shiftRight d 2) (Nat.shiftRight d 13) (Nat.shiftRight d 22))
def bigSigma1 (d : ℕ) : ℕ := low (xor3 (Nat.shiftRight d 6) (Nat.shiftRight d 11) (Nat.shiftRight d 25))

/-- The functions σ₀ and σ₁. -/
def smallSigma0 (x : ℕ) : ℕ :=
  force (doubled x) fun d =>
    Nat.xor (low (Nat.xor (Nat.shiftRight d 7) (Nat.shiftRight d 18))) (Nat.shiftRight x 3)
def smallSigma1 (x : ℕ) : ℕ :=
  force (doubled x) fun d =>
    Nat.xor (low (Nat.xor (Nat.shiftRight d 17) (Nat.shiftRight d 19))) (Nat.shiftRight x 10)

/-- Choice and majority. -/
def ch (e f g : ℕ) : ℕ := Nat.xor g (Nat.land e (Nat.xor f g))
def maj (a b c : ℕ) : ℕ := Nat.lor (Nat.land a b) (Nat.land c (Nat.lor a b))

def roundConstants : List ℕ := [
  0x428a2f98, 0x71374491, 0xb5c0fbcf, 0xe9b5dba5, 0x3956c25b, 0x59f111f1, 0x923f82a4, 0xab1c5ed5,
  0xd807aa98, 0x12835b01, 0x243185be, 0x550c7dc3, 0x72be5d74, 0x80deb1fe, 0x9bdc06a7, 0xc19bf174,
  0xe49b69c1, 0xefbe4786, 0x0fc19dc6, 0x240ca1cc, 0x2de92c6f, 0x4a7484aa, 0x5cb0a9dc, 0x76f988da,
  0x983e5152, 0xa831c66d, 0xb00327c8, 0xbf597fc7, 0xc6e00bf3, 0xd5a79147, 0x06ca6351, 0x14292967,
  0x27b70a85, 0x2e1b2138, 0x4d2c6dfc, 0x53380d13, 0x650a7354, 0x766a0abb, 0x81c2c92e, 0x92722c85,
  0xa2bfe8a1, 0xa81a664b, 0xc24b8b70, 0xc76c51a3, 0xd192e819, 0xd6990624, 0xf40e3585, 0x106aa070,
  0x19a4c116, 0x1e376c08, 0x2748774c, 0x34b0bcb5, 0x391c0cb3, 0x4ed8aa4a, 0x5b9cca4f, 0x682e6ff3,
  0x748f82ee, 0x78a5636f, 0x84c87814, 0x8cc70208, 0x90befffa, 0xa4506ceb, 0xbef9a3f7, 0xc67178f2]

/-- The eight working words. -/
structure State where
  (a b c d e f g h : ℕ)

def initialState : State :=
  ⟨0x6a09e667, 0xbb67ae85, 0x3c6ef372, 0xa54ff53a, 0x510e527f, 0x9b05688c, 0x1f83d9ab, 0x5be0cd19⟩

/-- The word that ends `shift` bits above the low end of a block. -/
def wordAt (block shift : ℕ) : ℕ := low (Nat.shiftRight block shift)

/-- `n` more words of the message schedule after a window of sixteen, which is one number
with its oldest word on top. -/
def expand : ℕ → ℕ → List ℕ
  | 0, _ => []
  | n + 1, window =>
    force (wordAt window 32) fun w14 => force (wordAt window 448) fun w1 =>
      force (low (Nat.add (Nat.add (smallSigma1 w14) (wordAt window 192))
        (Nat.add (smallSigma0 w1) (Nat.shiftRight window 480)))) fun w =>
        force (Nat.add (Nat.mul (Nat.mod window (Nat.pow 2 480)) 4294967296) w) fun window' =>
          w :: expand n window'

/-- The message schedule of a 512-bit block. -/
def schedule (block : ℕ) : List ℕ :=
  [480, 448, 416, 384, 352, 320, 288, 256, 224, 192, 160, 128, 96, 64, 32, 0].map (wordAt block)
    ++ expand 48 block

/-- The 64 rounds. -/
def rounds : List ℕ → List ℕ → ℕ → ℕ → ℕ → ℕ → ℕ → ℕ → ℕ → ℕ → State
  | k :: ks, w :: ws, a, b, c, d, e, f, g, h =>
    force (Nat.add (Nat.add h (bigSigma1 (doubled e))) (Nat.add (ch e f g) (Nat.add k w))) fun t =>
      force (low (Nat.add t (Nat.add (bigSigma0 (doubled a)) (maj a b c)))) fun a' =>
        force (low (Nat.add d t)) fun e' =>
          rounds ks ws a' a b c e' e f g
  | _, _, a, b, c, d, e, f, g, h => ⟨a, b, c, d, e, f, g, h⟩

def addState (x y : State) : State :=
  force (low (Nat.add x.a y.a)) fun a => force (low (Nat.add x.b y.b)) fun b =>
  force (low (Nat.add x.c y.c)) fun c => force (low (Nat.add x.d y.d)) fun d =>
  force (low (Nat.add x.e y.e)) fun e => force (low (Nat.add x.f y.f)) fun f =>
  force (low (Nat.add x.g y.g)) fun g => force (low (Nat.add x.h y.h)) fun h =>
  ⟨a, b, c, d, e, f, g, h⟩

/-- One block. -/
def compress (s : State) (block : ℕ) : State :=
  addState s (rounds roundConstants (schedule block) s.a s.b s.c s.d s.e s.f s.g s.h)

/-- The message, a one bit, and zeros up to the 64-bit length in bits. -/
def pad (message : Bytes) : Bytes :=
  message ++ 0x80 :: List.replicate ((119 - message.length % 64) % 64) 0 ++
    beBytes 8 (8 * message.length)

/-- The big-endian value of a byte string, after the digits already read. -/
def blockValue : Bytes → ℕ → ℕ
  | [], v => v
  | b :: bs, v => force (Nat.add (Nat.mul v 256) b.toNat) fun v' => blockValue bs v'

/-- The first `count` blocks of a padded message, from state `s`. -/
def compressBlocks : ℕ → Bytes → State → State
  | 0, _, s => s
  | count + 1, bs, s =>
    match force (blockValue (bs.take 64) 0) fun block => compress s block with
    | ⟨a, b, c, d, e, f, g, h⟩ => compressBlocks count (bs.drop 64) ⟨a, b, c, d, e, f, g, h⟩

def State.bytes : State → Bytes
  | ⟨a, b, c, d, e, f, g, h⟩ =>
    beBytes 4 a ++ (beBytes 4 b ++ (beBytes 4 c ++ (beBytes 4 d ++
      (beBytes 4 e ++ (beBytes 4 f ++ (beBytes 4 g ++ beBytes 4 h))))))

/-- The digest of a message. -/
def sha256 (message : Bytes) : FixedBytes 32 :=
  let padded := pad message
  let digest := (compressBlocks (padded.length / 64) padded initialState).bytes
  ⟨digest, by simp [digest, State.bytes]⟩

example : encodeHex (sha256 (utf8 "abc")).bytes =
    "ba7816bf8f01cfea414140de5dae2223b00361a396177a9cb410ff61f20015ad" := by decide +kernel

/-- Two different messages with one digest. -/
def Collision (x y : Bytes) : Prop := x ≠ y ∧ sha256 x = sha256 y

instance (x y : Bytes) : Decidable (Collision x y) := inferInstanceAs (Decidable (_ ∧ _))

/-- Equal digests come from equal messages, or exhibit a collision. -/
theorem eq_or_collision {x y : Bytes} (h : sha256 x = sha256 y) : x = y ∨ Collision x y := by
  by_cases hxy : x = y
  · exact .inl hxy
  · exact .inr ⟨hxy, h⟩

/-- No two of the messages collide. -/
def CollisionFree (messages : List Bytes) : Prop :=
  ∀ x ∈ messages, ∀ y ∈ messages, ¬ Collision x y

theorem CollisionFree.eq {messages : List Bytes} (hfree : CollisionFree messages) {x y : Bytes}
    (hx : x ∈ messages) (hy : y ∈ messages) (h : sha256 x = sha256 y) : x = y :=
  (eq_or_collision h).resolve_right (hfree x hx y hy)

theorem collisionFree_pair {x y : Bytes} (h : sha256 x ≠ sha256 y) : CollisionFree [x, y] := by
  intro a ha b hb hcollision
  rcases List.mem_pair.mp ha with rfl | rfl <;> rcases List.mem_pair.mp hb with rfl | rfl
  · exact hcollision.1 rfl
  · exact h hcollision.2
  · exact h hcollision.2.symm
  · exact hcollision.1 rfl

/-- The digest whose big-endian value is a number. -/
def digestOf (n : ℕ) : FixedBytes 32 := ⟨beBytes 32 n, beBytes_length ..⟩

theorem beValue_digestOf (n : ℕ) : beValue (digestOf n).bytes = n % 256 ^ 32 := beValue_beBytes 32 n

/-- The first `count` blocks of a padded message that is one number. -/
def compressNumber : ℕ → ℕ → State → State
  | 0, _, s => s
  | count + 1, v, s =>
    match force (Nat.div v (Nat.pow 256 (Nat.mul 64 count))) fun block => compress s block with
    | ⟨a, b, c, d, e, f, g, h⟩ =>
      force (Nat.mod v (Nat.pow 256 (Nat.mul 64 count))) fun rest =>
        compressNumber count rest ⟨a, b, c, d, e, f, g, h⟩

/-- The words of a state, one after the other. -/
def State.number : State → ℕ
  | ⟨a, b, c, d, e, f, g, h⟩ =>
    [low b, low c, low d, low e, low f, low g, low h].foldl
      (fun n word => Nat.add (Nat.mul n 4294967296) word) (low a)

/-- A padded message as a number, from its length and value. -/
def padNumber (length v : ℕ) : ℕ :=
  let zeros := Nat.mod (Nat.sub 119 (Nat.mod length 64)) 64
  Nat.add (Nat.mul (Nat.add (Nat.mul v 256) 128) (Nat.pow 256 (Nat.add zeros 8)))
    (Nat.mod (Nat.mul 8 length) 18446744073709551616)

/-- The value of the digest of a message, from its length and value. -/
def sha256Number (length v : ℕ) : ℕ :=
  let zeros := Nat.mod (Nat.sub 119 (Nat.mod length 64)) 64
  (force (padNumber length v) fun padded =>
    compressNumber (Nat.div (Nat.add length (Nat.add zeros 9)) 64) padded initialState).number

theorem blockValue_eq (bs : Bytes) (v : ℕ) : blockValue bs v = v * 256 ^ bs.length + beValue bs := by
  induction bs generalizing v with
  | nil => simp [blockValue, beValue]
  | cons b bs ih =>
    rw [blockValue, force_eq, ih, beValue, List.length_cons, pow_succ]
    change (v * 256 + b.toNat) * _ + _ = _
    ring

theorem compressBlocks_eq (count : ℕ) (bs : Bytes) (s : State) (h : bs.length = 64 * count) :
    compressBlocks count bs s = compressNumber count (beValue bs) s := by
  induction count generalizing bs s with
  | zero => rfl
  | succ count ih =>
    have hdrop : (bs.drop 64).length = 64 * count := by
      rw [List.length_drop, h]
      omega
    have hvalue := beValue_append (bs.take 64) (bs.drop 64)
    rw [List.take_append_drop, hdrop] at hvalue
    have hrest := beValue_lt (bs.drop 64)
    rw [hdrop] at hrest
    have hpos : 0 < 256 ^ (64 * count) := by positivity
    have hblock : Nat.div (beValue bs) (Nat.pow 256 (Nat.mul 64 count)) = beValue (bs.take 64) := by
      change beValue bs / 256 ^ (64 * count) = _
      rw [hvalue, Nat.mul_comm, Nat.mul_add_div hpos, Nat.div_eq_of_lt hrest, Nat.add_zero]
    have hmod : Nat.mod (beValue bs) (Nat.pow 256 (Nat.mul 64 count)) = beValue (bs.drop 64) := by
      change beValue bs % 256 ^ (64 * count) = _
      rw [hvalue, Nat.mul_add_mod', Nat.mod_eq_of_lt hrest]
    simp only [compressBlocks, compressNumber, force_eq, blockValue_eq, hblock, hmod, Nat.zero_mul,
      Nat.zero_add]
    exact ih _ _ hdrop

theorem State.bytes_eq (s : State) : s.bytes = beBytes 32 s.number := by
  obtain ⟨a, b, c, d, e, f, g, h⟩ := s
  have hword : ∀ high n word, beBytes (high + 4) (Nat.add (Nat.mul n 4294967296) (low word)) =
      beBytes high n ++ beBytes 4 word := by
    intro high n word
    have hlow : low word < 256 ^ 4 := Nat.mod_lt _ (by decide)
    rw [← beBytes_mod 4 word le_rfl]
    exact beBytes_append high n (low word) hlow
  have hfirst : beBytes 4 (low a) = beBytes 4 a := beBytes_mod 4 a le_rfl
  simp only [State.bytes, State.number, List.foldl_cons, List.foldl_nil]
  rw [hword 28, hword 24, hword 20, hword 16, hword 12, hword 8, hword 4, hfirst]
  simp only [List.append_assoc]

/-- The digest of a message, computed on numbers. -/
theorem sha256_eq (message : Bytes) :
    sha256 message = digestOf (sha256Number message.length (beValue message)) := by
  have hlength : (pad message).length =
      64 * ((message.length + ((119 - message.length % 64) % 64 + 9)) / 64) := by
    simp only [pad, List.length_append, List.length_cons, List.length_replicate, beBytes_length]
    omega
  have hvalue : beValue (pad message) = padNumber message.length (beValue message) := by
    simp only [pad, beValue_append, beValue, beBytes_length, List.length_cons, List.length_replicate,
      beValue_replicate_zero, beValue_beBytes]
    have hpadded : padNumber message.length (beValue message) =
        (beValue message * 256 + 128) * 256 ^ ((119 - message.length % 64) % 64 + 8) +
          8 * message.length % 256 ^ 8 := rfl
    have hbit : UInt8.toNat 0x80 = 128 := rfl
    rw [hpadded, hbit]
    ring
  apply FixedBytes.ext
  change (compressBlocks ((pad message).length / 64) (pad message) initialState).bytes = _
  rw [compressBlocks_eq _ _ _ (by rw [hlength]; omega), State.bytes_eq, hvalue, hlength,
    Nat.mul_div_cancel_left _ (by decide)]
  simp only [sha256Number, force_eq]
  rfl

end TapLdk.LibrarySha256
