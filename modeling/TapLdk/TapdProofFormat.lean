import Mathlib
import TapLdk.LibraryHashChain
import TapLdk.TapdProof
import TapLdk.TlvCanonical

/-! The format of a proof file: a magic, a version and a counted list of proofs, each behind
its length and followed by its link of a hash chain. The decoder reads this format and no
other. -/
namespace TapLdk.TapdProofFormat
open TapLdk.LibraryExcept TapLdk.LibraryBytes TapLdk.LibrarySha256 TapLdk.LibrarySparseTree
open TapLdk.LibraryHashChain TapLdk.Mssmt TapLdk.Tlv TapLdk.TlvCanonical TapLdk.TapdProof

def ValidProof (proof : Bytes) : Prop := ∃ summary, decodeTapdSingleProof proof = .ok summary

def Accepted (bytes : Bytes) : Prop := ∃ summary, decodeTapdProofFile bytes = .ok summary

/-- What a link of the checksum chain hashes. -/
def linkMessage (link : Bytes32) (proof : Bytes) : Bytes := link.bytes ++ proof

/-- The entries of `proofs` after a link: a minimal length, the proof, the next link. -/
inductive Entries : Bytes32 → List Bytes → Bytes → Prop where
  | nil {link : Bytes32} : Entries link [] []
  | cons {link : Bytes32} {proof lengthBytes rest : Bytes} {proofs : List Bytes} {length : UInt64}
      (hminimal : Minimal length lengthBytes) (hlength : length.toNat = proof.length)
      (hvalid : ValidProof proof) (hrest : Entries (sha256 (linkMessage link proof)) proofs rest) :
      Entries link (proof :: proofs)
        (lengthBytes ++ (proof ++ ((sha256 (linkMessage link proof)).bytes ++ rest)))

/-- The bytes are a proof file of `proofs`, at least one, with nothing after them. -/
def IsProofFile (proofs : List Bytes) (bytes : Bytes) : Prop :=
  ∃ countBytes entries, ∃ count : UInt64, Minimal count countBytes ∧
    count.toNat = proofs.length ∧ 1 ≤ proofs.length ∧ Entries Bytes32.ZERO proofs entries ∧
    bytes = utf8 "TAPF" ++ (u32Bytes tapdProofFileVersion ++ (countBytes ++ entries))

/-- The summaries of as many proofs can be allocated. -/
def Allocatable (count : ℕ) : Prop := proofSummarySize * count ≤ maxAllocation

theorem takeBytes_eq_ok {len : ℕ} {field : String} {cursor head tail : Bytes} :
    takeBytes len field cursor = .ok (head, tail) ↔ cursor = head ++ tail ∧ head.length = len := by
  simp only [takeBytes, bind_eq_ok, rejectIf_eq_ok, pure_eq_ok, Except.ok.injEq, Prod.mk.injEq,
    not_lt]
  constructor
  · rintro ⟨-, hlen, rfl, rfl⟩
    exact ⟨(List.take_append_drop len cursor).symm, by rw [List.length_take, min_eq_left hlen]⟩
  · rintro ⟨rfl, rfl⟩
    exact ⟨(), by simp, by simp, by simp⟩

theorem takeFixed_eq_ok {n : ℕ} {field : String} {cursor tail : Bytes} {head : FixedBytes n} :
    takeFixed n field cursor = .ok (head, tail) ↔ cursor = head.bytes ++ tail := by
  obtain ⟨bytes, hbytes⟩ := head
  rw [takeFixed]
  constructor
  · intro h
    split at h
    · cases h
    · cases h
      exact (List.take_append_drop n cursor).symm
  · rintro rfl
    subst hbytes
    rw [dif_neg (by simp)]
    simp

theorem takeU32_eq_ok {field : String} {cursor tail : Bytes} {value : UInt32} :
    takeU32 field cursor = .ok (value, tail) ↔ cursor = u32Bytes value ++ tail := by
  simp only [takeU32, bind_eq_ok, pure_eq_ok, Except.ok.injEq, Prod.exists, takeFixed_eq_ok,
    Prod.mk.injEq]
  constructor
  · rintro ⟨⟨head, hhead⟩, rest, rfl, rfl, rfl⟩
    have hlt : beValue head < 2 ^ 32 := by
      simpa [hhead] using beValue_lt head
    simp only [u32Bytes, UInt32.toNat_ofNat', Nat.mod_eq_of_lt hlt, ← hhead, beBytes_beValue]
  · rintro rfl
    refine ⟨⟨u32Bytes value, u32Bytes_length value⟩, tail, rfl, ?_, rfl⟩
    simp [u32Bytes, beValue_beBytes]

theorem readBigSize_eq_ok {field : String} {cursor tail : Bytes} {value : UInt64} :
    readBigSize field cursor = .ok (value, tail) ↔
      ∃ bytes, Minimal value bytes ∧ cursor = bytes ++ tail := by
  simp only [readBigSize, mapError_eq_ok, minimal_iff, exists_eq_left]
  constructor
  · exact decodeBigSize_eq_ok
  · rintro rfl
    exact decodeBigSize_encodeBigSize value tail

theorem expectMagic_eq_ok {magic name : String} {cursor tail : Bytes}
    (hmagic : (utf8 magic).length = 4) :
    expectMagic magic name cursor = .ok tail ↔ cursor = utf8 magic ++ tail := by
  simp only [expectMagic, bind_eq_ok, rejectIf_eq_ok, pure_eq_ok, Except.ok.injEq, Prod.exists,
    takeFixed_eq_ok, ne_eq, not_not]
  constructor
  · rintro ⟨⟨head, hhead⟩, rest, rfl, -, rfl, rfl⟩
    rfl
  · rintro rfl
    exact ⟨⟨utf8 magic, hmagic⟩, tail, rfl, (), rfl, rfl⟩

theorem requireEnd_eq_ok {cursor : Bytes} {u : Unit} : requireEnd cursor = .ok u ↔ cursor = [] := by
  simp [requireEnd]

/-- What makes a proof valid does not look at its place in the file. -/
theorem decodeSingleProofAt_place {proof : Bytes} {index index' : ℕ} {link link' : Bytes32}
    {summary : TapdProofSummary} (h : decodeSingleProofAt proof index link = .ok summary) :
    decodeSingleProofAt proof index' link' =
      .ok { summary with proofIndex := index', chainChecksum := link' } := by
  simp only [decodeSingleProofAt, bind_eq_ok, pure_eq_ok, Except.ok.injEq] at h ⊢
  obtain ⟨cursor, hmagic, records, hrecords, u, hknown, leaf, hleaf, version, hversion, height,
    hheight, rfl⟩ := h
  exact ⟨cursor, hmagic, records, hrecords, u, hknown, leaf, hleaf, version, hversion, height,
    hheight, rfl⟩

theorem validProof_iff {proof : Bytes} (index : ℕ) (link : Bytes32) :
    ValidProof proof ↔ ∃ summary, decodeSingleProofAt proof index link = .ok summary :=
  ⟨fun ⟨_, h⟩ => ⟨_, decodeSingleProofAt_place h⟩, fun ⟨_, h⟩ => ⟨_, decodeSingleProofAt_place h⟩⟩

/-- One turn of the decoding loop. -/
theorem decodeProofs_succ_eq_ok {remaining index : ℕ} {link final : Bytes32} {cursor rest : Bytes}
    {summaries : List TapdProofSummary} :
    decodeProofs (remaining + 1) index link cursor = .ok (summaries, final, rest) ↔
      ∃ length : UInt64, ∃ lengthBytes proof tail summary summaries', Minimal length lengthBytes ∧
        length.toNat = proof.length ∧
        cursor = lengthBytes ++ (proof ++ ((sha256 (linkMessage link proof)).bytes ++ tail)) ∧
        decodeSingleProofAt proof index (sha256 (linkMessage link proof)) = .ok summary ∧
        decodeProofs remaining (index + 1) (sha256 (linkMessage link proof)) tail =
          .ok (summaries', final, rest) ∧
        summaries = summary :: summaries' := by
  simp only [decodeProofs, bind_eq_ok, pure_eq_ok, Except.ok.injEq, Prod.exists, rejectIf_eq_ok,
    readBigSize_eq_ok, takeBytes_eq_ok, takeFixed_eq_ok, Prod.mk.injEq, not_ne_iff]
  constructor
  · rintro ⟨length, _, ⟨lengthBytes, hminimal, rfl⟩, proof, _, ⟨rfl, hlength⟩, checksum, tail, rfl,
      -, rfl, summary, hsummary, summaries', _, _, htail, rfl, rfl, rfl⟩
    exact ⟨length, lengthBytes, proof, tail, summary, summaries', hminimal, hlength.symm, rfl,
      hsummary, htail, rfl⟩
  · rintro ⟨length, lengthBytes, proof, tail, summary, summaries', hminimal, hlength, rfl, hsummary,
      htail, rfl⟩
    exact ⟨length, _, ⟨lengthBytes, hminimal, rfl⟩, proof, _, ⟨rfl, hlength.symm⟩, _, tail, rfl, (),
      rfl, summary, hsummary, summaries', final, rest, htail, rfl, rfl, rfl⟩

/-- What the decoding loop reads is a list of entries, and their chain is the loop's. -/
theorem entries_of_decodeProofs {remaining index : ℕ} {link final : Bytes32} {cursor rest : Bytes}
    {summaries : List TapdProofSummary}
    (h : decodeProofs remaining index link cursor = .ok (summaries, final, rest)) :
    ∃ proofs entries, Entries link proofs entries ∧ proofs.length = remaining ∧
      cursor = entries ++ rest ∧ final = chainEnd sha256 linkMessage link proofs := by
  induction remaining generalizing index link cursor summaries with
  | zero =>
    simp only [decodeProofs, pure_eq_ok, Except.ok.injEq, Prod.mk.injEq] at h
    obtain ⟨-, rfl, rfl⟩ := h
    exact ⟨[], [], .nil, rfl, rfl, rfl⟩
  | succ remaining ih =>
    obtain ⟨length, lengthBytes, proof, tail, summary, summaries', hminimal, hlength, rfl, hsummary,
      htail, rfl⟩ := decodeProofs_succ_eq_ok.mp h
    obtain ⟨proofs, entries, hentries, rfl, rfl, hfinal⟩ := ih htail
    refine ⟨proof :: proofs, _, .cons hminimal hlength ((validProof_iff _ _).mpr ⟨_, hsummary⟩)
      hentries, rfl, ?_, hfinal⟩
    simp only [List.append_assoc]

/-- Every list of entries is read, whatever follows it. -/
theorem decodeProofs_of_entries {link : Bytes32} {proofs : List Bytes} {entries : Bytes}
    (h : Entries link proofs entries) (index : ℕ) (rest : Bytes) :
    ∃ summaries, decodeProofs proofs.length index link (entries ++ rest) =
      .ok (summaries, chainEnd sha256 linkMessage link proofs, rest) := by
  induction h generalizing index with
  | nil => exact ⟨[], rfl⟩
  | @cons link proof lengthBytes entries proofs length hminimal hlength hvalid _ ih =>
    obtain ⟨summaries, hsummaries⟩ := ih (index + 1)
    obtain ⟨summary, hsummary⟩ := (validProof_iff index _).mp hvalid
    refine ⟨summary :: summaries, decodeProofs_succ_eq_ok.mpr ⟨length, lengthBytes, proof,
      entries ++ rest, summary, summaries, hminimal, hlength, ?_, hsummary, hsummaries, rfl⟩⟩
    simp only [List.append_assoc]

theorem utf8_tapf_length : (utf8 "TAPF").length = 4 := by decide

/-- Up to the proofs, a file is its magic, its version and a minimal count. -/
theorem decodeTapdProofFile_eq {countBytes : Bytes} {count : UInt64}
    (hminimal : Minimal count countBytes) (hcount : count.toNat ≠ 0) (entries : Bytes) :
    decodeTapdProofFile
        (utf8 "TAPF" ++ (u32Bytes tapdProofFileVersion ++ (countBytes ++ entries))) = (do
      rejectIf (maxAllocation < proofSummarySize * count.toNat) (.panicked "capacity overflow")
      let (proofs, finalChainChecksum, rest) ← decodeProofs count.toNat 0 Bytes32.ZERO entries
      requireEnd rest
      let bytes := utf8 "TAPF" ++ (u32Bytes tapdProofFileVersion ++ (countBytes ++ entries))
      pure
        { sourceCommit := lightningLabsTaprootAssetsCommit
          version := tapdProofFileVersion
          proofCount := count.toNat
          rawLen := bytes.length
          rawDigest := sha256 bytes
          finalChainChecksum
          proofs }) := by
  rw [decodeTapdProofFile, (expectMagic_eq_ok utf8_tapf_length).mpr rfl, ok_bind,
    takeU32_eq_ok.mpr rfl, ok_bind]
  simp only [ne_eq, not_true_eq_false, rejectIf_false not_false, ok_bind]
  rw [readBigSize_eq_ok.mpr ⟨countBytes, hminimal, rfl⟩, ok_bind]
  simp only [rejectIf_false hcount, ok_bind]

/-- An accepted file has the format, and its summary ends in the last link of its proofs. -/
theorem isProofFile_of_decode {bytes : Bytes} {summary : TapdProofFileSummary}
    (h : decodeTapdProofFile bytes = .ok summary) :
    ∃ proofs, IsProofFile proofs bytes ∧ Allocatable proofs.length ∧
      summary.proofCount = proofs.length ∧
      summary.finalChainChecksum = chainEnd sha256 linkMessage Bytes32.ZERO proofs := by
  simp only [decodeTapdProofFile, bind_eq_ok, pure_eq_ok, Except.ok.injEq, Prod.exists,
    rejectIf_eq_ok, readBigSize_eq_ok, takeU32_eq_ok, expectMagic_eq_ok utf8_tapf_length,
    requireEnd_eq_ok, not_lt] at h
  obtain ⟨_, rfl, version, _, rfl, -, hversion, count, _, ⟨countBytes, hminimal, rfl⟩, -, hzero, -,
    hfits, summaries, final, _, hproofs, -, rfl, rfl⟩ := h
  obtain rfl := not_not.mp hversion
  obtain ⟨proofs, entries, hentries, hlength, rfl, hfinal⟩ := entries_of_decodeProofs hproofs
  refine ⟨proofs, ⟨countBytes, entries, count, hminimal, hlength.symm, ?_, hentries, ?_⟩, ?_,
    hlength.symm, hfinal⟩
  · exact Nat.one_le_iff_ne_zero.mpr (hlength ▸ hzero)
  · rw [List.append_nil]
  · rw [Allocatable, hlength]
    exact hfits

/-- Of the byte strings in the format, the ones with an allocatable count are accepted. -/
theorem accepted_iff_allocatable {proofs : List Bytes} {bytes : Bytes}
    (h : IsProofFile proofs bytes) : Accepted bytes ↔ Allocatable proofs.length := by
  obtain ⟨countBytes, entries, count, hminimal, hcount, hone, hentries, rfl⟩ := h
  rw [Accepted, decodeTapdProofFile_eq hminimal (by omega) entries, hcount]
  constructor
  · rintro ⟨summary, h⟩
    simp only [bind_eq_ok, rejectIf_eq_ok, not_lt] at h
    exact h.choose_spec.1
  · intro hfits
    obtain ⟨summaries, hdecode⟩ := decodeProofs_of_entries hentries 0 []
    rw [List.append_nil] at hdecode
    rw [rejectIf_false (Nat.not_lt.mpr hfits), hdecode]
    exact ⟨_, rfl⟩

theorem entries_length {link : Bytes32} {proofs : List Bytes} {entries : Bytes}
    (h : Entries link proofs entries) : 32 * proofs.length ≤ entries.length := by
  induction h with
  | nil => simp
  | cons _ _ _ _ ih =>
    simp only [List.length_append, FixedBytes.length_eq, List.length_cons]
    omega

/-- The proofs of a file of fewer than `2 ^ 57` bytes can be allocated. -/
theorem allocatable_of_length {proofs : List Bytes} {bytes : Bytes} (h : IsProofFile proofs bytes)
    (hsize : bytes.length < 2 ^ 57) : Allocatable proofs.length := by
  obtain ⟨countBytes, entries, -, -, -, -, hentries, rfl⟩ := h
  have hlength := entries_length hentries
  simp only [List.length_append] at hsize
  rw [Allocatable, proofSummarySize, maxAllocation]
  omega

theorem linkMessage_inj {link link' : Bytes32} {proof proof' : Bytes}
    (h : linkMessage link proof = linkMessage link' proof') : link = link' ∧ proof = proof' := by
  obtain ⟨hlink, hproof⟩ := List.append_inj h (by rw [link.length_eq, link'.length_eq])
  exact ⟨FixedBytes.ext hlink, hproof⟩

/-- The first two messages that collide along the chains of two lists of proofs. -/
def chainCollision (proofs proofs' : List Bytes) : Option (Bytes × Bytes) :=
  firstCollision sha256 (chainMessages sha256 linkMessage Bytes32.ZERO proofs)
    (chainMessages sha256 linkMessage Bytes32.ZERO proofs')

theorem proofs_eq_or_collision {proofs proofs' : List Bytes}
    (hlength : proofs.length = proofs'.length)
    (hend : chainEnd sha256 linkMessage Bytes32.ZERO proofs =
      chainEnd sha256 linkMessage Bytes32.ZERO proofs') :
    proofs = proofs' ∨ ∃ x y, chainCollision proofs proofs' = some (x, y) ∧ Collision x y := by
  refine (chain_eq_or_collision linkMessage_inj hlength hend).imp And.right fun hcollision => ?_
  obtain ⟨⟨x, y⟩, hxy⟩ := Option.isSome_iff_exists.mp hcollision
  exact ⟨x, y, hxy, firstCollision_spec hxy⟩

theorem ofNat_length_toNat {proof : Bytes} (hlength : proof.length < 2 ^ 64) :
    (UInt64.ofNat proof.length).toNat = proof.length := by
  rw [UInt64.toNat_ofNat', Nat.mod_eq_of_lt hlength]

/-- An entry as the encoder writes it. -/
theorem entries_cons {link : Bytes32} {proof entries : Bytes} {proofs : List Bytes}
    (hvalid : ValidProof proof) (hlength : proof.length < 2 ^ 64)
    (hrest : Entries (sha256 (linkMessage link proof)) proofs entries) :
    Entries link (proof :: proofs) (encodeBigSize (UInt64.ofNat proof.length) ++
      (proof ++ ((sha256 (linkMessage link proof)).bytes ++ entries))) :=
  .cons (minimal_iff.mpr rfl) (ofNat_length_toNat hlength) hvalid hrest

/-- The size of the buffer that a wrapped proof is written to. -/
def wrappedCapacity (proof : Bytes) : ℕ := 4 + 4 + 9 + proof.length + 32

/-- The entry that a wrapped proof becomes. -/
def wrappedEntry (proof : Bytes) : Bytes :=
  encodeBigSize (UInt64.ofNat proof.length) ++
    (proof ++ ((sha256 (linkMessage Bytes32.ZERO proof)).bytes ++ []))

def wrappedFile (proof : Bytes) : Bytes :=
  utf8 "TAPF" ++ (u32Bytes tapdProofFileVersion ++ (encodeBigSize 1 ++ wrappedEntry proof))

theorem wrap_eq {proof : Bytes} {single : TapdProofSummary}
    (h : decodeTapdSingleProof proof = .ok single) : wrapSingleProofAsTapdFile proof = (do
      rejectIf (maxAllocation < wrappedCapacity proof) (.panicked "capacity overflow")
      pure (wrappedFile proof)) := by
  rw [wrapSingleProofAsTapdFile, h, ok_bind]
  simp only [wrappedFile, wrappedEntry, linkMessage, chainedChecksum, List.append_assoc,
    List.append_nil]
  rfl

theorem decodeProofs_wrapped {proof : Bytes} {single : TapdProofSummary}
    (h : decodeTapdSingleProof proof = .ok single) (hlength : proof.length < 2 ^ 64) :
    decodeProofs 1 0 Bytes32.ZERO (wrappedEntry proof) =
      .ok ([single], chainedChecksum Bytes32.ZERO proof, []) :=
  decodeProofs_succ_eq_ok.mpr ⟨_, _, proof, [], single, [], minimal_iff.mpr rfl,
    ofNat_length_toNat hlength, rfl, h, rfl, rfl⟩

/-- The wrapped file is a file of this proof, and decodes to it. -/
theorem decode_wrapped {proof : Bytes} {single : TapdProofSummary}
    (h : decodeTapdSingleProof proof = .ok single) (hlength : proof.length < 2 ^ 64) :
    IsProofFile [proof] (wrappedFile proof) ∧
      ∃ summary, decodeTapdProofFile (wrappedFile proof) = .ok summary ∧
        summary.proofs = [single] := by
  have hminimal : TlvCanonical.Minimal 1 (encodeBigSize 1) := minimal_iff.mpr rfl
  have hone : (1 : UInt64).toNat = 1 := rfl
  refine ⟨⟨_, _, 1, hminimal, hone, le_refl 1, entries_cons ⟨single, h⟩ hlength .nil, rfl⟩, ?_⟩
  rw [wrappedFile, decodeTapdProofFile_eq hminimal (by decide), hone, rejectIf_false (by decide),
    ok_bind, decodeProofs_wrapped h hlength]
  exact ⟨_, rfl, rfl⟩

/-- A valid proof is wrapped into the file of this proof alone, which the decoder reads back. -/
def WrapsItself (proof : Bytes) : Prop :=
  ∃ file summary single, wrapSingleProofAsTapdFile proof = .ok file ∧ IsProofFile [proof] file ∧
    decodeTapdProofFile file = .ok summary ∧ decodeTapdSingleProof proof = .ok single ∧
    summary.proofs = [single]

theorem wrapsItself_iff {proof : Bytes} (hvalid : ValidProof proof) :
    WrapsItself proof ↔ wrappedCapacity proof ≤ maxAllocation := by
  obtain ⟨single, hsingle⟩ := hvalid
  constructor
  · rintro ⟨file, -, -, hwrap, -⟩
    simp only [wrap_eq hsingle, bind_eq_ok, rejectIf_eq_ok, not_lt] at hwrap
    exact hwrap.choose_spec.1
  · intro hcapacity
    have hlength : proof.length < 2 ^ 64 := by
      simp only [wrappedCapacity, maxAllocation] at hcapacity
      omega
    obtain ⟨hfile, summary, hdecode, hproofs⟩ := decode_wrapped hsingle hlength
    refine ⟨wrappedFile proof, summary, single, ?_, hfile, hdecode, hsingle, hproofs⟩
    rw [wrap_eq hsingle, rejectIf_false (Nat.not_lt.mpr hcapacity)]
    rfl

/-- The decoder accepts a byte string exactly when it is in the format. A valid proof is wrapped
into a file that decodes to this proof. Two accepted files of one count and one last checksum hold
the same proofs, or their chains hash two colliding messages. -/
theorem accepts_format_iff (bytes : Bytes) (hsize : bytes.length < 2 ^ 57) :
    (Accepted bytes ↔ ∃ proofs, IsProofFile proofs bytes) ∧
    (ValidProof bytes → WrapsItself bytes) ∧
    ∀ bytes' summary summary', decodeTapdProofFile bytes = .ok summary →
      decodeTapdProofFile bytes' = .ok summary' → summary.proofCount = summary'.proofCount →
      summary.finalChainChecksum = summary'.finalChainChecksum →
      ∃ proofs proofs', IsProofFile proofs bytes ∧ IsProofFile proofs' bytes' ∧
        (proofs = proofs' ∨ ∃ x y, chainCollision proofs proofs' = some (x, y) ∧ Collision x y) := by
  refine ⟨⟨?_, ?_⟩, fun hvalid => ?_, fun bytes' summary summary' h h' hcount hfinal => ?_⟩
  · rintro ⟨summary, hsummary⟩
    obtain ⟨proofs, hproofs, -⟩ := isProofFile_of_decode hsummary
    exact ⟨proofs, hproofs⟩
  · rintro ⟨proofs, hproofs⟩
    exact (accepted_iff_allocatable hproofs).mpr (allocatable_of_length hproofs hsize)
  · refine (wrapsItself_iff hvalid).mpr ?_
    rw [wrappedCapacity, maxAllocation]
    omega
  · obtain ⟨proofs, hproofs, -, hlength, hend⟩ := isProofFile_of_decode h
    obtain ⟨proofs', hproofs', -, hlength', hend'⟩ := isProofFile_of_decode h'
    refine ⟨proofs, proofs', hproofs, hproofs', proofs_eq_or_collision ?_ ?_⟩
    · rw [← hlength, ← hlength', hcount]
    · rw [← hend, ← hend', hfinal]

/-- A proof of its version and its block height alone. -/
def heightProof (height : UInt32) : Bytes :=
  utf8 "TAPP" ++ [⟨TapdProof.typeVersion, u32Bytes 0⟩,
    (⟨TapdProof.typeBlockHeight, u32Bytes height⟩ : TlvRecord)].flatMap encodeRecord

def heightLink : Bytes32 := sha256 (linkMessage Bytes32.ZERO (heightProof 100))

/-- The file of two such proofs. -/
def heightFile : Bytes :=
  utf8 "TAPF" ++ (u32Bytes tapdProofFileVersion ++ (encodeBigSize 2 ++
    (encodeBigSize (UInt64.ofNat (heightProof 100).length) ++ (heightProof 100 ++ (heightLink.bytes ++
      (encodeBigSize (UInt64.ofNat (heightProof 101).length) ++ (heightProof 101 ++
        ((sha256 (linkMessage heightLink (heightProof 101))).bytes ++ []))))))))

theorem heightProof_valid : ValidProof (heightProof 100) ∧ ValidProof (heightProof 101) := by
  have hvalid : (decodeTapdSingleProof (heightProof 100)).toOption.isSome ∧
      (decodeTapdSingleProof (heightProof 101)).toOption.isSome := by decide +kernel
  obtain ⟨⟨_, h⟩, ⟨_, h'⟩⟩ := hvalid.imp Option.isSome_iff_exists.mp Option.isSome_iff_exists.mp
  exact ⟨⟨_, toOption_eq_some h⟩, _, toOption_eq_some h'⟩

theorem heightFile_isProofFile : IsProofFile [heightProof 100, heightProof 101] heightFile := by
  obtain ⟨hfirst, hsecond⟩ := heightProof_valid
  exact ⟨_, _, 2, minimal_iff.mpr rfl, rfl, by simp,
    entries_cons hfirst (by decide) (entries_cons hsecond (by decide) .nil), rfl⟩

/-- Two proofs in one file, each of them also in a file of its own. -/
theorem accepts_format_iff_heights : Accepted heightFile ∧ WrapsItself (heightProof 100) ∧
    WrapsItself (heightProof 101) ∧ ∃ summary, decodeTapdProofFile heightFile = .ok summary ∧
      summary.proofCount = 2 ∧ ∃ proofs proofs', IsProofFile proofs heightFile ∧
        IsProofFile proofs' heightFile ∧
        (proofs = proofs' ∨ ∃ x y, chainCollision proofs proofs' = some (x, y) ∧ Collision x y) := by
  have hsize : heightFile.length < 2 ^ 57 := by decide +kernel
  obtain ⟨hiff, -, hbinds⟩ := accepts_format_iff heightFile hsize
  obtain ⟨summary, hsummary⟩ := hiff.mpr ⟨_, heightFile_isProofFile⟩
  obtain ⟨hfirst, hsecond⟩ := heightProof_valid
  have hcount : summary.proofCount = 2 := by
    have hdecoded : (decodeTapdProofFile heightFile).toOption.any (·.proofCount = 2) := by
      decide +kernel
    rw [hsummary] at hdecoded
    exact of_decide_eq_true hdecoded
  exact ⟨⟨summary, hsummary⟩, (accepts_format_iff _ (by decide)).2.1 hfirst,
    (accepts_format_iff _ (by decide)).2.1 hsecond, summary, hsummary, hcount,
    hbinds _ _ _ hsummary hsummary rfl rfl⟩

end TapLdk.TapdProofFormat
