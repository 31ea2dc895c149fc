import Mathlib
import TapLdk.MssmtProofs

/-! Compressed proofs of the Merkle-sum sparse Merkle tree: one bit a level for the siblings
that are empty nodes, the other siblings in order, and the bits packed into bytes. -/
namespace TapLdk.MssmtCompressed
open TapLdk.LibraryExcept TapLdk.LibraryBytes TapLdk.Mssmt TapLdk.MssmtLevels TapLdk.MssmtProofs

def compressedProofBitBytes : ℕ := maxTreeLevels / 8
def compressedNodeSize : ℕ := 32 + 8

structure MssmtCompressedProof where
  bits : List Bool
  nodes : List MssmtNode
deriving DecidableEq

/-- The bits and the kept nodes of the siblings from an index on. -/
def compressFrom : ℕ → List MssmtNode → List Bool × List MssmtNode
  | _, [] => ([], [])
  | index, node :: rest =>
    let after := compressFrom (index + 1) rest
    if node = emptyTree (maxTreeLevels - index) then (true :: after.1, after.2)
    else (false :: after.1, node :: after.2)

def compress (proof : MssmtProof) : Except MssmtError MssmtCompressedProof := do
  rejectIf (proof.siblings.length ≠ maxTreeLevels)
    (.invalidProofLength maxTreeLevels proof.siblings.length)
  let compressed := compressFrom 0 proof.siblings
  pure ⟨compressed.1, compressed.2⟩

/-- The siblings from an index on. The node count is checked before, so no node is missing. -/
def decompressFrom : ℕ → List Bool → List MssmtNode → List MssmtNode
  | _, [], _ => []
  | index, true :: bits, nodes =>
    emptyTree (maxTreeLevels - index) :: decompressFrom (index + 1) bits nodes
  | index, false :: bits, node :: nodes => node :: decompressFrom (index + 1) bits nodes
  | _, false :: _, [] => []

def packBit (packed : Bytes) (entry : Bool × ℕ) : Bytes :=
  if entry.1 then packed.modify (entry.2 / 8) (· ||| (1 <<< UInt8.ofNat (entry.2 % 8))) else packed

def packBits (bits : List Bool) : Bytes :=
  bits.zipIdx.foldl packBit (List.replicate compressedProofBitBytes 0)

def unpackByte (byte : UInt8) : List Bool :=
  (List.range 8).map fun bit => (byte >>> UInt8.ofNat bit) &&& 1 == 1

def unpackBits (bytes : Bytes) : List Bool := bytes.flatMap unpackByte

/-- The first bytes of a slice that holds as many. -/
def arrayAt (n : ℕ) (bytes : Bytes) : FixedBytes n := ⟨bytes.takeD n 0, List.takeD_length n bytes 0⟩

def encodeNode (node : MssmtNode) : Bytes := node.hash.bytes ++ u64Bytes node.sum

def decodeNodes : ℕ → Bytes → List MssmtNode
  | 0, _ => []
  | count + 1, bytes =>
    ⟨arrayAt 32 bytes, UInt64.ofNat (beValue ((bytes.drop 32).take 8))⟩ ::
      decodeNodes count (bytes.drop compressedNodeSize)

namespace MssmtCompressedProof

def decompress (compressed : MssmtCompressedProof) : Except MssmtError MssmtProof := do
  rejectIf (compressed.bits.length ≠ maxTreeLevels)
    (.invalidProofLength maxTreeLevels compressed.bits.length)
  let expected := compressed.bits.count false
  rejectIf (expected ≠ compressed.nodes.length)
    (.compressedProofNodeCount expected compressed.nodes.length)
  pure ⟨decompressFrom 0 compressed.bits compressed.nodes⟩

def encode (compressed : MssmtCompressedProof) : Except MssmtError Bytes := do
  rejectIf (compressed.bits.length ≠ maxTreeLevels)
    (.invalidProofLength maxTreeLevels compressed.bits.length)
  rejectIf (2 ^ 16 ≤ compressed.nodes.length) .tooManyNodes
  pure (beBytes 2 compressed.nodes.length ++
    (compressed.nodes.flatMap encodeNode ++ packBits compressed.bits))

def decode (bytes : Bytes) : Except MssmtError MssmtCompressedProof := do
  rejectIf (bytes.length < 2 + compressedProofBitBytes) .truncatedProof
  let nodeCount := beValue (bytes.take 2)
  rejectIf (2 ^ 64 ≤ nodeCount * compressedNodeSize) .tooManyNodes
  let nodeBytes := nodeCount * compressedNodeSize
  let expectedLen := 2 + nodeBytes + compressedProofBitBytes
  rejectIf (bytes.length ≠ expectedLen) (.invalidCompressedProofLength expectedLen bytes.length)
  let nodes := decodeNodes nodeCount (bytes.drop 2)
  let bits := unpackBits (((bytes.drop 2).drop nodeBytes).take compressedProofBitBytes)
  let expected := bits.count false
  rejectIf (expected ≠ nodes.length) (.compressedProofNodeCount expected nodes.length)
  pure ⟨bits, nodes⟩

end MssmtCompressedProof

theorem compressFrom_lengths (index : ℕ) (siblings : List MssmtNode) :
    (compressFrom index siblings).1.length = siblings.length ∧
      (compressFrom index siblings).1.count false = (compressFrom index siblings).2.length := by
  induction siblings generalizing index with
  | nil => exact ⟨rfl, rfl⟩
  | cons node rest ih =>
    obtain ⟨hbits, hnodes⟩ := ih (index + 1)
    simp only [compressFrom]
    split
    · simp [hbits, hnodes]
    · simp [hbits, hnodes]

theorem decompressFrom_compressFrom (index : ℕ) (siblings : List MssmtNode) :
    decompressFrom index (compressFrom index siblings).1 (compressFrom index siblings).2 =
      siblings := by
  induction siblings generalizing index with
  | nil => rfl
  | cons node rest ih =>
    simp only [compressFrom]
    split
    · next hempty => rw [decompressFrom, ih, hempty]
    · simp only [decompressFrom, ih]

/-- A compressed proof with a bit for each level and the nodes that the bits leave out. -/
structure Fits (compressed : MssmtCompressedProof) : Prop where
  bits : compressed.bits.length = maxTreeLevels
  nodes : compressed.bits.count false = compressed.nodes.length

theorem Fits.few {compressed : MssmtCompressedProof} (h : Fits compressed) :
    compressed.nodes.length < 2 ^ 16 := by
  have hcount := List.count_le_length (a := false) (l := compressed.bits)
  rw [h.nodes, h.bits] at hcount
  exact lt_of_le_of_lt hcount (by decide)

theorem compress_fits {proof : MssmtProof} (h : proof.siblings.length = maxTreeLevels) :
    ∃ compressed, compress proof = .ok compressed ∧ Fits compressed ∧
      compressed.decompress = .ok proof := by
  obtain ⟨hbits, hnodes⟩ := compressFrom_lengths 0 proof.siblings
  have hfits : Fits ⟨(compressFrom 0 proof.siblings).1, (compressFrom 0 proof.siblings).2⟩ :=
    ⟨hbits.trans h, hnodes⟩
  refine ⟨_, ?_, hfits, ?_⟩
  · rw [compress, rejectIf_false (not_not.mpr h), ok_bind]
    rfl
  · rw [MssmtCompressedProof.decompress, rejectIf_false (not_not.mpr hfits.bits), ok_bind]
    dsimp only
    rw [rejectIf_false (not_not.mpr hfits.nodes), ok_bind, decompressFrom_compressFrom]
    rfl

theorem shifted_testBit (byte : UInt8) {bit : ℕ} (h : bit < 8) :
    ((byte >>> UInt8.ofNat bit) &&& 1 == 1) = byte.toNat.testBit bit := by
  have hbit : (byte >>> UInt8.ofNat bit &&& 1).toNat = byte.toNat >>> bit &&& 1 := by
    simp [UInt8.toNat_and, UInt8.toNat_shiftRight, Nat.mod_eq_of_lt h]
  rw [Nat.testBit_eq_decide_div_mod_eq, ← Nat.shiftRight_eq_div_pow, ← Nat.and_one_is_mod, ← hbit,
    Bool.eq_iff_iff, beq_iff_eq, decide_eq_true_eq, ← UInt8.toNat_inj]
  rfl

theorem unpackBits_length (bytes : Bytes) : (unpackBits bytes).length = bytes.length * 8 := by
  simp [unpackBits, unpackByte, List.length_flatMap]

theorem unpackBits_getD (bytes : Bytes) (k : ℕ) :
    (unpackBits bytes).getD k false = (bytes.getD (k / 8) 0).toNat.testBit (k % 8) := by
  induction bytes generalizing k with
  | nil => simp [unpackBits]
  | cons byte bytes ih =>
    rw [unpackBits, List.flatMap_cons, ← unpackBits]
    by_cases hk : k < 8
    · rw [List.getD_append _ _ _ _ (by simpa [unpackByte] using hk),
        List.getD_eq_getElem _ _ (by simpa [unpackByte] using hk), Nat.div_eq_of_lt hk,
        Nat.mod_eq_of_lt hk, List.getD_cons_zero, ← shifted_testBit byte hk]
      simp [unpackByte]
    · rw [List.getD_append_right _ _ _ _ (by simpa [unpackByte] using hk), ih]
      obtain ⟨j, rfl⟩ : ∃ j, k = j + 8 := ⟨k - 8, by omega⟩
      have hlen : (unpackByte byte).length = 8 := by simp [unpackByte]
      rw [hlen, Nat.add_sub_cancel, Nat.add_div_right _ (by omega), Nat.add_mod_right,
        List.getD_cons_succ]

theorem packBits_concat (bits : List Bool) (bit : Bool) :
    packBits (bits ++ [bit]) = packBit (packBits bits) (bit, bits.length) := by
  simp [packBits, List.zipIdx_append]

theorem packBits_length (bits : List Bool) : (packBits bits).length = compressedProofBitBytes := by
  induction bits using List.reverseRecOn with
  | nil => simp [packBits]
  | append_singleton bits bit ih =>
    rw [packBits_concat, packBit]
    split
    · rw [List.length_modify, ih]
    · exact ih

/-- Bit `k` of the packed bytes is bit `k` of the list. -/
theorem packBits_testBit (bits : List Bool) {k : ℕ} (hk : k < maxTreeLevels) :
    ((packBits bits).getD (k / 8) 0).toNat.testBit (k % 8) = bits.getD k false := by
  induction bits using List.reverseRecOn with
  | nil =>
    have hzero : (packBits []).getD (k / 8) 0 = 0 := by simp [packBits, List.getD]
    rw [hzero]
    simp
  | append_singleton bits bit ih =>
    have hbyte : k / 8 < (packBits bits).length := by
      rw [packBits_length, compressedProofBitBytes]
      unfold maxTreeLevels at hk ⊢
      omega
    have hflip : ((1 : UInt8) <<< UInt8.ofNat (bits.length % 8)).toNat = 2 ^ (bits.length % 8) := by
      have hall : ∀ j < 8, ((1 : UInt8) <<< UInt8.ofNat j).toNat = 2 ^ j := by decide
      exact hall _ (by omega)
    have hlast : (bits ++ [bit]).getD k false =
        (bits.getD k false || decide (k = bits.length) && bit) := by
      rcases lt_trichotomy k bits.length with hlt | rfl | hgt
      · rw [List.getD_append _ _ _ _ hlt, decide_eq_false (by omega)]
        simp
      · simp
      · simp [List.getD, List.getElem?_eq_none, hgt.le, Nat.succ_le_of_lt hgt, show k ≠ bits.length by omega]
    rw [packBits_concat, packBit, hlast]
    cases bit with
    | false => rw [if_neg (by simp), ih, Bool.and_false, Bool.or_false]
    | true =>
      rw [if_pos rfl, Bool.and_true, ← ih, List.getD_eq_getElem _ _ hbyte,
        List.getD_eq_getElem _ _ (by rwa [List.length_modify]), List.getElem_modify]
      by_cases hsame : bits.length / 8 = k / 8
      · rw [if_pos hsame, UInt8.toNat_or, Nat.testBit_or, hflip, Nat.testBit_two_pow]
        congr 2
        rw [eq_iff_iff]
        omega
      · rw [if_neg hsame, decide_eq_false (by rintro rfl; exact hsame rfl), Bool.or_false]

theorem ext_getD {α : Type} {d : α} {xs ys : List α} (hlen : xs.length = ys.length)
    (h : ∀ k < xs.length, xs.getD k d = ys.getD k d) : xs = ys := by
  apply List.ext_getElem hlen
  intro k hx hy
  have hk := h k hx
  rwa [List.getD_eq_getElem _ _ hx, List.getD_eq_getElem _ _ hy] at hk

theorem unpackBits_packBits {bits : List Bool} (h : bits.length = maxTreeLevels) :
    unpackBits (packBits bits) = bits := by
  apply ext_getD (d := false)
  · rw [unpackBits_length, packBits_length, h]
    rfl
  · intro k hk
    rw [unpackBits_length, packBits_length] at hk
    rw [unpackBits_getD, packBits_testBit bits hk]

theorem packBits_unpackBits {bytes : Bytes} (h : bytes.length = compressedProofBitBytes) :
    packBits (unpackBits bytes) = bytes := by
  apply ext_getD (d := 0)
  · rw [packBits_length, h]
  · intro j hj
    rw [packBits_length] at hj
    apply byte_ext
    intro i hi
    have hbit := packBits_testBit (unpackBits bytes) (k := j * 8 + i)
      (by unfold maxTreeLevels; unfold compressedProofBitBytes maxTreeLevels at hj; omega)
    rw [unpackBits_getD, show (j * 8 + i) / 8 = j by omega, show (j * 8 + i) % 8 = i by omega] at hbit
    exact hbit

theorem arrayAt_of_le {n : ℕ} {bytes : Bytes} (h : n ≤ bytes.length) :
    (arrayAt n bytes).bytes = bytes.take n := List.takeD_eq_take 0 h

@[simp] theorem encodeNode_length (node : MssmtNode) : (encodeNode node).length = compressedNodeSize := by
  simp [encodeNode, node.hash.length_eq, compressedNodeSize]

theorem encodeNodes_length (nodes : List MssmtNode) :
    (nodes.flatMap encodeNode).length = nodes.length * compressedNodeSize := by
  simp [List.length_flatMap]

@[simp] theorem decodeNodes_length (count : ℕ) (bytes : Bytes) :
    (decodeNodes count bytes).length = count := by
  induction count generalizing bytes with
  | zero => rfl
  | succ count ih => rw [decodeNodes, List.length_cons, ih]

theorem decodeNodes_encode (nodes : List MssmtNode) (rest : Bytes) :
    decodeNodes nodes.length (nodes.flatMap encodeNode ++ rest) = nodes := by
  induction nodes with
  | nil => rfl
  | cons node nodes ih =>
    rw [List.length_cons, decodeNodes, List.flatMap_cons, List.append_assoc,
      List.drop_left' (encodeNode_length node), ih]
    congr 1
    have hhash : arrayAt 32 (encodeNode node ++ (nodes.flatMap encodeNode ++ rest)) = node.hash := by
      apply FixedBytes.ext
      rw [arrayAt_of_le (by simp [compressedNodeSize]; omega), encodeNode, List.append_assoc]
      exact List.take_left' node.hash.length_eq
    have hsum : ((encodeNode node ++ (nodes.flatMap encodeNode ++ rest)).drop 32).take 8 =
        u64Bytes node.sum := by
      rw [encodeNode, List.append_assoc, List.drop_left' node.hash.length_eq]
      exact List.take_left' (u64Bytes_length node.sum)
    rw [hhash, hsum, beValue_u64Bytes, UInt64.ofNat_toNat]

theorem u64Bytes_beValue {bytes : Bytes} (h : bytes.length = 8) :
    u64Bytes (UInt64.ofNat (beValue bytes)) = bytes := by
  have hlt : beValue bytes < 2 ^ 64 := by
    have hlt := beValue_lt bytes
    rw [h] at hlt
    exact hlt
  rw [u64Bytes, UInt64.toNat_ofNat_of_lt' hlt, ← h, beBytes_beValue]

theorem encode_decodeNodes {count : ℕ} {bytes : Bytes}
    (h : count * compressedNodeSize ≤ bytes.length) :
    (decodeNodes count bytes).flatMap encodeNode = bytes.take (count * compressedNodeSize) := by
  induction count generalizing bytes with
  | zero => simp [decodeNodes]
  | succ count ih =>
    rw [Nat.succ_mul] at h
    have hsize : compressedNodeSize = 40 := rfl
    have hnode : encodeNode ⟨arrayAt 32 bytes,
        UInt64.ofNat (beValue ((bytes.drop 32).take 8))⟩ = bytes.take compressedNodeSize := by
      rw [encodeNode, arrayAt_of_le (by omega), u64Bytes_beValue, compressedNodeSize, List.take_add]
      rw [List.length_take, List.length_drop]
      omega
    rw [decodeNodes, List.flatMap_cons, hnode, ih (by rw [List.length_drop]; omega), Nat.succ_mul,
      Nat.add_comm, List.take_add]

/-- Encoding a fitting compressed proof and decoding it again changes nothing. -/
theorem decode_encode {compressed : MssmtCompressedProof} (h : Fits compressed) :
    ∃ bytes, compressed.encode = .ok bytes ∧ MssmtCompressedProof.decode bytes = .ok compressed := by
  have hfew := h.few
  have hcount : beValue (beBytes 2 compressed.nodes.length) = compressed.nodes.length := by
    rw [beValue_beBytes, Nat.mod_eq_of_lt (by omega)]
  have hpacked := packBits_length compressed.bits
  refine ⟨beBytes 2 compressed.nodes.length ++ (compressed.nodes.flatMap encodeNode ++
    packBits compressed.bits), ?_, ?_⟩
  · rw [MssmtCompressedProof.encode, rejectIf_false (not_not.mpr h.bits), ok_bind,
      rejectIf_false (by omega), ok_bind]
    rfl
  generalize hbytes : beBytes 2 compressed.nodes.length ++ (compressed.nodes.flatMap encodeNode ++
    packBits compressed.bits) = bytes
  have hlength : bytes.length =
      2 + compressed.nodes.length * compressedNodeSize + compressedProofBitBytes := by
    rw [← hbytes, List.length_append, List.length_append, beBytes_length, encodeNodes_length, hpacked]
    omega
  have htake : bytes.take 2 = beBytes 2 compressed.nodes.length := by
    rw [← hbytes]
    exact List.take_left' (beBytes_length 2 _)
  have hdrop : bytes.drop 2 = compressed.nodes.flatMap encodeNode ++ packBits compressed.bits := by
    rw [← hbytes]
    exact List.drop_left' (beBytes_length 2 _)
  have hnodeBytes : compressed.nodes.length * compressedNodeSize < 2 ^ 64 := by
    have hsize : compressedNodeSize = 40 := rfl
    rw [hsize]
    omega
  rw [MssmtCompressedProof.decode, rejectIf_false (by omega), ok_bind]
  dsimp only
  rw [htake, hcount, rejectIf_false (Nat.not_le.mpr hnodeBytes), ok_bind, rejectIf_false (not_not.mpr hlength),
    ok_bind, hdrop, decodeNodes_encode, List.drop_left' (encodeNodes_length _),
    List.take_of_length_le hpacked.le, unpackBits_packBits h.bits,
    rejectIf_false (not_not.mpr h.nodes), ok_bind]
  rfl

/-- Encoding what was decoded gives the same bytes. -/
theorem encode_decode {bytes : Bytes} {compressed : MssmtCompressedProof}
    (h : MssmtCompressedProof.decode bytes = .ok compressed) : compressed.encode = .ok bytes := by
  simp only [MssmtCompressedProof.decode, bind_eq_ok, rejectIf_eq_ok, exists_const, pure_eq_ok,
    Except.ok.injEq, ne_eq, not_not] at h
  obtain ⟨hlong, -, hlength, hnodes, rfl⟩ := h
  generalize hcount : beValue (bytes.take 2) = count at *
  have hhead : (bytes.take 2).length = 2 := by
    rw [List.length_take]
    omega
  have hlt : count < 2 ^ 16 := by
    have hlt := beValue_lt (bytes.take 2)
    rw [hhead, hcount] at hlt
    exact hlt
  have hbits : ((bytes.drop 2).drop (count * compressedNodeSize)).take compressedProofBitBytes =
      (bytes.drop 2).drop (count * compressedNodeSize) := by
    apply List.take_of_length_le
    rw [List.length_drop, List.length_drop]
    omega
  have htail : ((bytes.drop 2).drop (count * compressedNodeSize)).length =
      compressedProofBitBytes := by
    rw [List.length_drop, List.length_drop]
    omega
  have hbytes : beBytes 2 count = bytes.take 2 := by
    have hround := beBytes_beValue (bytes.take 2)
    rwa [hhead, hcount] at hround
  rw [MssmtCompressedProof.encode]
  dsimp only
  rw [hbits, rejectIf_false (by rw [unpackBits_length, htail]; exact not_not.mpr rfl), ok_bind,
    decodeNodes_length, rejectIf_false (by omega), ok_bind,
    encode_decodeNodes (by rw [List.length_drop]; omega), packBits_unpackBits htail, hbytes,
    List.take_append_drop, List.take_append_drop]
  rfl

/-- Compressing and encoding lose nothing, and no proof has two encodings. -/
theorem compressed_lossless :
    (∀ proof : MssmtProof, proof.siblings.length = maxTreeLevels →
      ∃ compressed bytes, compress proof = .ok compressed ∧ compressed.decompress = .ok proof ∧
        compressed.encode = .ok bytes ∧ MssmtCompressedProof.decode bytes = .ok compressed) ∧
    ∀ bytes compressed, MssmtCompressedProof.decode bytes = .ok compressed →
      compressed.encode = .ok bytes := by
  refine ⟨fun proof hlength => ?_, fun bytes compressed => encode_decode⟩
  obtain ⟨compressed, hcompress, hfits, hdecompress⟩ := compress_fits hlength
  obtain ⟨bytes, hencode, hdecode⟩ := decode_encode hfits
  exact ⟨compressed, bytes, hcompress, hdecompress, hencode, hdecode⟩

end TapLdk.MssmtCompressed
