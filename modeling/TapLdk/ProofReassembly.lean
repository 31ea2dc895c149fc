import Mathlib
import TapLdk.LibraryRuns
import TapLdk.LibraryStateful
import TapLdk.LibrarySha256
import TapLdk.RfqInvoice

/-! Proofs split into numbered chunks and put together again by the receiver, whatever the
order of the chunks and however often each one is delivered. -/
namespace TapLdk.ProofReassembly
open TapLdk.LibraryExcept TapLdk.LibraryMaps TapLdk.LibraryRuns TapLdk.LibraryStateful
open TapLdk.LibraryBytes TapLdk.LibrarySha256 TapLdk.Mssmt TapLdk.RfqInvoice

/-- The errors of splitting and reassembling. -/
inductive AssetPeerMessageError where
  | invalidChunkSize
  | emptyProof
  | invalidChunkCount
  | chunkIndexOutOfRange (index count : UInt32)
  | invalidLastChunk (index count : UInt32)
  | mixedProofDigest
  | mixedChunkCount
  | duplicateChunk (index : UInt32)
  | incompleteProof
  | proofDigestMismatch
deriving DecidableEq

/-- The piece of a slice at an index, the last one possibly short. -/
def piece (chunkSize : ℕ) (proof : Bytes) (index : ℕ) : Bytes :=
  (proof.drop (index * chunkSize)).take chunkSize

/-- A slice in pieces of some size. -/
def pieces (chunkSize : ℕ) (proof : Bytes) : List Bytes :=
  (List.range ((proof.length + chunkSize - 1) / chunkSize)).map (piece chunkSize proof)

def split (proof : Bytes) (chunkSize : ℕ) : Except AssetPeerMessageError (List ProofChunk) := do
  rejectIf (chunkSize = 0) .invalidChunkSize
  rejectIf (proof = []) .emptyProof
  let digest := sha256 proof
  let chunks := pieces chunkSize proof
  let chunkCount := UInt32.ofNat chunks.length
  pure (chunks.mapIdx fun index bytes =>
    ⟨digest, UInt32.ofNat index, chunkCount, bytes, UInt32.ofNat index + 1 == chunkCount⟩)

structure ProofReassembler where
  digest : Option Bytes32
  chunkCount : Option UInt32
  chunks : BTreeMap UInt32 Bytes

inductive ProofAssembly where
  | incomplete (received expected : UInt32)
  | complete (proof : Bytes)
deriving DecidableEq

/-- The checks on a chunk alone. -/
def checkShape (chunk : ProofChunk) : Except AssetPeerMessageError Unit := do
  rejectIf (chunk.chunkCount = 0) .invalidChunkCount
  rejectIf (chunk.chunkCount ≤ chunk.chunkIndex)
    (.chunkIndexOutOfRange chunk.chunkIndex chunk.chunkCount)
  rejectIf (chunk.last ∧ chunk.chunkIndex + 1 ≠ chunk.chunkCount)
    (.invalidLastChunk chunk.chunkIndex chunk.chunkCount)

/-- Keep the first value that is announced, and refuse any other. -/
def announce {α : Type} [DecidableEq α] (mixed : AssetPeerMessageError) (value : α) :
    Option α → Except AssetPeerMessageError (Option α)
  | some seen => do
    rejectIf (seen ≠ value) mixed
    pure (some seen)
  | none => pure (some value)

namespace ProofReassembler

def empty : ProofReassembler := ⟨none, none, ∅⟩

/-- The chunks in order, put together. -/
def concatenate (reassembler : ProofReassembler) (count : UInt32) :
    Except AssetPeerMessageError Bytes :=
  (List.range count.toNat).foldlM (fun proof index => do
    let bytes ← okOr reassembler.chunks[UInt32.ofNat index]? .incompleteProof
    pure (proof ++ bytes)) []

def assemble (reassembler : ProofReassembler) (chunk : ProofChunk) :
    Except AssetPeerMessageError ProofAssembly :=
  if reassembler.chunks.size ≠ chunk.chunkCount.toNat then
    pure (.incomplete (UInt32.ofNat reassembler.chunks.size) chunk.chunkCount)
  else do
    let proof ← reassembler.concatenate chunk.chunkCount
    rejectIf (some (sha256 proof) ≠ reassembler.digest) .proofDigestMismatch
    pure (.complete proof)

end ProofReassembler

abbrev Receiving (α : Type) := Stateful ProofReassembler AssetPeerMessageError α

def announceDigest (chunk : ProofChunk) : Receiving Unit :=
  .transact (·.digest) (fun digest r => { r with digest }) id fun digest => do
    pure ((), ← announce .mixedProofDigest chunk.proofDigest digest)

def announceCount (chunk : ProofChunk) : Receiving Unit :=
  .transact (·.chunkCount) (fun chunkCount r => { r with chunkCount }) id fun chunkCount => do
    pure ((), ← announce .mixedChunkCount chunk.chunkCount chunkCount)

/-- A chunk replaces the one that was there before the duplicate is reported. -/
def store (chunk : ProofChunk) : Receiving Unit :=
  .ofCall fun r => (rejectIf (r.chunks[chunk.chunkIndex]?).isSome (.duplicateChunk chunk.chunkIndex),
    { r with chunks := r.chunks.insert chunk.chunkIndex chunk.bytes })

def push (chunk : ProofChunk) : Receiving ProofAssembly := do
  .lift (checkShape chunk)
  announceDigest chunk
  announceCount chunk
  store chunk
  .ofCall fun r => (r.assemble chunk, r)

/-- A receiver that takes whatever chunks arrive. -/
def receiver : Machine ProofReassembler ProofChunk where
  start := .empty
  next r chunk := ((push chunk).call r).2

theorem announce_cases {α : Type} [DecidableEq α] (mixed : AssetPeerMessageError) (value : α)
    (seen : Option α) :
    (seen ≠ none ∧ seen ≠ some value ∧ announce mixed value seen = .error mixed) ∨
    (seen = none ∨ seen = some value) ∧ announce mixed value seen = .ok (some value) := by
  cases seen with
  | none => exact .inr ⟨.inl rfl, rfl⟩
  | some seen =>
    by_cases h : seen = value
    · subst h
      exact .inr ⟨.inr rfl, by simp [announce, rejectIf]⟩
    · exact .inl ⟨by simp, by simpa using h, by simp [announce, rejectIf, h]⟩

/-- The state after a chunk that fits what was announced. -/
def ProofReassembler.stored (r : ProofReassembler) (chunk : ProofChunk) : ProofReassembler :=
  ⟨some chunk.proofDigest, some chunk.chunkCount, r.chunks.insert chunk.chunkIndex chunk.bytes⟩

/-- A delivery is refused for the chunk itself or for a mixed announcement, or it is stored
and then reported as a duplicate or as progress. -/
theorem push_cases (chunk : ProofChunk) (r : ProofReassembler) :
    (∃ e, (push chunk).call r = (.error e, r) ∧ checkShape chunk = .error e) ∨
    (∃ e, checkShape chunk = .ok () ∧ (push chunk).call r = (.error e, r) ∧
      r.digest ≠ none ∧ r.digest ≠ some chunk.proofDigest) ∨
    (∃ e, checkShape chunk = .ok () ∧ (r.digest = none ∨ r.digest = some chunk.proofDigest) ∧
      r.chunkCount ≠ none ∧ r.chunkCount ≠ some chunk.chunkCount ∧
      (push chunk).call r = (.error e, { r with digest := some chunk.proofDigest })) ∨
    checkShape chunk = .ok () ∧ (r.digest = none ∨ r.digest = some chunk.proofDigest) ∧
      (r.chunkCount = none ∨ r.chunkCount = some chunk.chunkCount) ∧
      (push chunk).call r = ((if (r.chunks[chunk.chunkIndex]?).isSome then
        .error (.duplicateChunk chunk.chunkIndex) else (r.stored chunk).assemble chunk),
        r.stored chunk) := by
  cases hshape : checkShape chunk with
  | error e =>
    refine .inl ⟨e, ?_, rfl⟩
    rw [push, hshape]
    rfl
  | ok u =>
    right
    have hlift : (Stateful.lift (checkShape chunk) : Receiving Unit).call r = (.ok (), r) := by
      rw [hshape]
      rfl
    rw [push, Stateful.call_bind_of_ok hlift]
    rcases announce_cases .mixedProofDigest chunk.proofDigest r.digest with
      ⟨hnone, hsome, herror⟩ | ⟨hdigest, hok⟩
    · refine .inl ⟨.mixedProofDigest, rfl, ?_, hnone, hsome⟩
      rw [announceDigest, Stateful.call_bind_of_error (Stateful.call_transact_of_error (by
        rw [herror]
        rfl))]
      rfl
    right
    rw [announceDigest, Stateful.call_bind_of_ok (Stateful.call_transact_of_ok (by
      rw [hok]
      rfl))]
    rcases announce_cases .mixedChunkCount chunk.chunkCount r.chunkCount with
      ⟨hnone, hsome, herror⟩ | ⟨hcount, hok⟩
    · refine .inl ⟨.mixedChunkCount, rfl, hdigest, hnone, hsome, ?_⟩
      rw [announceCount, Stateful.call_bind_of_error (Stateful.call_transact_of_error (by
        dsimp only
        rw [herror]
        rfl))]
      rfl
    · refine .inr ⟨rfl, hdigest, hcount, ?_⟩
      rw [announceCount, Stateful.call_bind_of_ok (Stateful.call_transact_of_ok (by
        dsimp only
        rw [hok]
        rfl)), Stateful.call_bind, store, Stateful.call_ofCall]
      dsimp only
      by_cases hdup : (r.chunks[chunk.chunkIndex]?).isSome
      · rw [if_pos hdup, rejectIf, if_pos hdup]
        rfl
      · rw [if_neg hdup, rejectIf_false hdup]
        rfl

/-- The digest of the first chunk that passes the checks on a chunk alone. -/
def announced (pushed : List ProofChunk) : Option Bytes32 :=
  (pushed.find? fun chunk => (checkShape chunk).isOk).map (·.proofDigest)

theorem run_digest (pushed : List ProofChunk) :
    (receiver.run pushed).digest = announced pushed := by
  induction pushed using List.reverseRecOn with
  | nil => rfl
  | append_singleton pushed chunk ih =>
    have hannounced : announced (pushed ++ [chunk]) = (announced pushed).or
        (if (checkShape chunk).isOk then some chunk.proofDigest else none) := by
      rw [announced, announced, List.find?_append, List.find?_singleton]
      cases pushed.find? fun chunk => (checkShape chunk).isOk with
      | some first => simp
      | none =>
        rw [Option.none_or, Option.map_none, Option.none_or]
        split <;> rfl
    rw [Machine.run_concat, hannounced, ← ih]
    change ((push chunk).call (receiver.run pushed)).2.digest = _
    have hfirst (h : (receiver.run pushed).digest = none ∨
        (receiver.run pushed).digest = some chunk.proofDigest) :
        some chunk.proofDigest = (receiver.run pushed).digest.or (some chunk.proofDigest) := by
      rcases h with h | h <;> rw [h] <;> rfl
    rcases push_cases chunk (receiver.run pushed) with ⟨e, hcall, hshape⟩ |
      ⟨e, hshape, hcall, hnone, -⟩ | ⟨e, hshape, hdigest, -, -, hcall⟩ | ⟨hshape, hdigest, -, hcall⟩
    · rw [hcall, hshape]
      simp [Except.isOk, Except.toBool]
    · obtain ⟨seen, hseen⟩ := Option.ne_none_iff_exists'.mp hnone
      rw [hcall, hseen, Option.some_or]
    · rw [hcall, hshape]
      exact hfirst hdigest
    · rw [hcall, hshape]
      exact hfirst hdigest

/-- A completed proof has the digest that its last chunk announces, and the first one did. -/
theorem complete_digest {pushed : List ProofChunk} {chunk : ProofChunk} {proof : Bytes}
    (h : ((push chunk).call (receiver.run pushed)).1 = .ok (.complete proof)) :
    chunk.proofDigest = sha256 proof ∧ announced (pushed ++ [chunk]) = some (sha256 proof) := by
  have hdigest := run_digest (pushed ++ [chunk])
  rw [Machine.run_concat] at hdigest
  change ((push chunk).call (receiver.run pushed)).2.digest = _ at hdigest
  rcases push_cases chunk (receiver.run pushed) with ⟨e, hcall, -⟩ | ⟨e, -, hcall, -⟩ |
    ⟨e, -, -, -, -, hcall⟩ | ⟨-, -, -, hcall⟩
  · rw [hcall] at h
    cases h
  · rw [hcall] at h
    cases h
  · rw [hcall] at h
    cases h
  · rw [hcall] at h hdigest
    dsimp only at h
    split at h
    · cases h
    · rw [ProofReassembler.assemble] at h
      split at h
      · cases h
      · simp only [bind_eq_ok, rejectIf_eq_ok, exists_const, pure_eq_ok, Except.ok.injEq,
          ProofAssembly.complete.injEq, not_not, ne_eq] at h
        obtain ⟨proof', -, hsame, rfl⟩ := h
        rw [← hdigest, ← hsame]
        exact ⟨(Option.some.inj hsame).symm, rfl⟩

section Chunks

variable {proof : Bytes} {chunkSize : ℕ}

/-- The number of chunks. -/
def chunkTotal (proof : Bytes) (chunkSize : ℕ) : ℕ := (proof.length + chunkSize - 1) / chunkSize

/-- The chunk at an index. -/
def chunkAt (proof : Bytes) (chunkSize index : ℕ) : ProofChunk where
  proofDigest := sha256 proof
  chunkIndex := UInt32.ofNat index
  chunkCount := UInt32.ofNat (chunkTotal proof chunkSize)
  bytes := piece chunkSize proof index
  last := UInt32.ofNat index + 1 == UInt32.ofNat (chunkTotal proof chunkSize)

theorem split_ok (hproof : proof ≠ []) (hsize : 1 ≤ chunkSize) : split proof chunkSize =
    .ok ((List.range (chunkTotal proof chunkSize)).map (chunkAt proof chunkSize)) := by
  rw [split, rejectIf_false (by omega), ok_bind, rejectIf_false hproof, ok_bind]
  simp only [pure_eq_ok, pieces, List.length_map, List.length_range, Except.ok.injEq]
  apply List.ext_getElem
  · simp [chunkTotal]
  · intro index h1 h2
    simp [chunkAt, chunkTotal]

theorem length_le_total (hsize : 1 ≤ chunkSize) :
    proof.length ≤ chunkTotal proof chunkSize * chunkSize := by
  have hmod := Nat.div_add_mod (proof.length + chunkSize - 1) chunkSize
  have hlt := Nat.mod_lt (proof.length + chunkSize - 1) hsize
  rw [chunkTotal, Nat.mul_comm]
  omega

theorem total_pos (hproof : proof ≠ []) (hsize : 1 ≤ chunkSize) : 0 < chunkTotal proof chunkSize := by
  have hlen := List.length_pos_iff.mpr hproof
  exact Nat.div_pos (by omega) hsize

/-- What the receiver holds after deliveries of chunks with the given indices. -/
structure Holds (proof : Bytes) (chunkSize : ℕ) (indices : List ℕ) (r : ProofReassembler) : Prop where
  digest : r.digest = if indices = [] then none else some (sha256 proof)
  count : r.chunkCount =
    if indices = [] then none else some (UInt32.ofNat (chunkTotal proof chunkSize))
  chunks : ∀ (index : UInt32) bytes, r.chunks[index]? = some bytes ↔
    index.toNat ∈ indices ∧ bytes = piece chunkSize proof index.toNat

theorem toNat_index {index : ℕ} (htotal : chunkTotal proof chunkSize < 2 ^ 32)
    (h : index < chunkTotal proof chunkSize) : (UInt32.ofNat index).toNat = index :=
  UInt32.toNat_ofNat_of_lt' (lt_trans h htotal)

theorem checkShape_chunkAt (htotal : chunkTotal proof chunkSize < 2 ^ 32) {index : ℕ}
    (h : index < chunkTotal proof chunkSize) :
    checkShape (chunkAt proof chunkSize index) = .ok () := by
  have hindex := toNat_index htotal h
  have hcount : (UInt32.ofNat (chunkTotal proof chunkSize)).toNat = chunkTotal proof chunkSize :=
    UInt32.toNat_ofNat_of_lt' htotal
  have hzero : ¬ (chunkAt proof chunkSize index).chunkCount = 0 := by
    intro heq
    have hnat := congrArg UInt32.toNat heq
    rw [chunkAt, hcount] at hnat
    simp at hnat
    omega
  have hrange : ¬ (chunkAt proof chunkSize index).chunkCount ≤
      (chunkAt proof chunkSize index).chunkIndex := by
    rw [UInt32.le_iff_toNat_le, chunkAt, hcount, hindex]
    omega
  have hlast : ¬ ((chunkAt proof chunkSize index).last ∧
      (chunkAt proof chunkSize index).chunkIndex + 1 ≠
        (chunkAt proof chunkSize index).chunkCount) := by
    rintro ⟨hlast, hne⟩
    exact hne (by simpa [chunkAt] using hlast)
  rw [checkShape, rejectIf_false hzero, ok_bind, rejectIf_false hrange, ok_bind,
    rejectIf_false hlast]

theorem holds_empty : Holds proof chunkSize [] .empty :=
  ⟨rfl, rfl, fun index bytes => by simp [ProofReassembler.empty]⟩

variable {indices : List ℕ} {r : ProofReassembler} {index : ℕ}

theorem Holds.stored (h : Holds proof chunkSize indices r)
    (htotal : chunkTotal proof chunkSize < 2 ^ 32) (hindex : index < chunkTotal proof chunkSize) :
    Holds proof chunkSize (indices ++ [index]) (r.stored (chunkAt proof chunkSize index)) := by
  have hnat := toNat_index htotal hindex
  refine ⟨by simp [ProofReassembler.stored, chunkAt], by simp [ProofReassembler.stored, chunkAt],
    fun other bytes => ?_⟩
  rw [List.mem_append, List.mem_singleton]
  change (r.chunks.insert (UInt32.ofNat index) (piece chunkSize proof index))[other]? = some bytes ↔ _
  by_cases hsame : other = UInt32.ofNat index
  · rw [hsame, get_insert_self, hnat, Option.some.injEq]
    exact ⟨fun heq => ⟨.inr rfl, heq.symm⟩, fun heq => heq.2.symm⟩
  · have hne : other.toNat ≠ index := by
      rw [← hnat]
      exact mt UInt32.toNat_inj.mp hsame
    rw [get_insert_ne hsame, h.chunks]
    simp [hne]

/-- Storing a chunk again changes nothing. -/
theorem Holds.stored_again (h : Holds proof chunkSize indices r)
    (htotal : chunkTotal proof chunkSize < 2 ^ 32) (hindex : index < chunkTotal proof chunkSize)
    (hmem : index ∈ indices) : r.stored (chunkAt proof chunkSize index) = r := by
  have hne : indices ≠ [] := List.ne_nil_of_mem hmem
  have hget : r.chunks[UInt32.ofNat index]? = some (piece chunkSize proof index) := by
    rw [h.chunks, toNat_index htotal hindex]
    exact ⟨hmem, rfl⟩
  have hchunks : r.chunks.insert (UInt32.ofNat index) (piece chunkSize proof index) = r.chunks := by
    apply Std.ExtTreeMap.ext_getElem?
    intro other
    by_cases hsame : other = UInt32.ofNat index
    · rw [hsame, get_insert_self, hget]
    · rw [get_insert_ne hsame]
  have hdigest := h.digest
  have hcount := h.count
  rw [if_neg hne] at hdigest hcount
  cases r
  rw [ProofReassembler.stored, ProofReassembler.mk.injEq]
  exact ⟨hdigest.symm, hcount.symm, hchunks⟩

/-- The receiver has as many chunks as the proof exactly when it has each of them. -/
theorem Holds.size_eq_iff (h : Holds proof chunkSize indices r)
    (htotal : chunkTotal proof chunkSize < 2 ^ 32)
    (hall : ∀ i ∈ indices, i < chunkTotal proof chunkSize) :
    r.chunks.size = chunkTotal proof chunkSize ↔ ∀ i < chunkTotal proof chunkSize, i ∈ indices := by
  let keys : Finset ℕ := (r.chunks.toList.map fun e => e.1.toNat).toFinset
  have hnodup : (r.chunks.toList.map fun e => e.1.toNat).Nodup := by
    have hkeys := (keys_nodup r.chunks).map (f := UInt32.toNat) fun a b => UInt32.toNat_inj.mp
    rwa [List.map_map] at hkeys
  have hcard : keys.card = r.chunks.size := by
    rw [List.toFinset_card_of_nodup hnodup, List.length_map, Std.ExtTreeMap.length_toList]
  have hmem (i : ℕ) : i ∈ keys ↔ i ∈ indices := by
    simp only [keys, List.mem_toFinset, List.mem_map, Prod.exists, mem_toList_iff, h.chunks]
    constructor
    · rintro ⟨index, _, ⟨hin, -⟩, rfl⟩
      exact hin
    · intro hin
      have hnat := toNat_index htotal (hall i hin)
      exact ⟨UInt32.ofNat i, _, ⟨by rwa [hnat], rfl⟩, hnat⟩
  have hsubset : keys ⊆ Finset.range (chunkTotal proof chunkSize) := fun i hi =>
    Finset.mem_range.mpr (hall i ((hmem i).mp hi))
  constructor
  · intro hsize i hi
    have heq := Finset.eq_of_subset_of_card_le hsubset (by rw [hcard, hsize, Finset.card_range])
    exact (hmem i).mp (heq ▸ Finset.mem_range.mpr hi)
  · intro hfull
    have heq : keys = Finset.range (chunkTotal proof chunkSize) :=
      hsubset.antisymm fun i hi => (hmem i).mpr (hfull i (Finset.mem_range.mp hi))
    rw [← hcard, heq, Finset.card_range]

/-- All chunks together are the proof. -/
theorem Holds.concatenate (h : Holds proof chunkSize indices r) (hsize : 1 ≤ chunkSize)
    (htotal : chunkTotal proof chunkSize < 2 ^ 32)
    (hfull : ∀ i < chunkTotal proof chunkSize, i ∈ indices) :
    r.concatenate (UInt32.ofNat (chunkTotal proof chunkSize)) = .ok proof := by
  have hsame (count : ℕ) (hcount : count ≤ chunkTotal proof chunkSize) :
      (List.range count).foldlM (fun proof index => do
        let bytes ← okOr r.chunks[UInt32.ofNat index]? .incompleteProof
        pure (proof ++ bytes)) [] =
          (.ok (proof.take (count * chunkSize)) : Except AssetPeerMessageError Bytes) := by
    induction count with
    | zero => simp
    | succ count ih =>
      have hget : r.chunks[UInt32.ofNat count]? = some (piece chunkSize proof count) := by
        rw [h.chunks, toNat_index htotal hcount]
        exact ⟨hfull count hcount, rfl⟩
      rw [List.range_succ, foldlM_concat, ih (by omega), ok_bind, hget, Nat.succ_mul, List.take_add]
      rfl
  rw [ProofReassembler.concatenate, UInt32.toNat_ofNat_of_lt' htotal, hsame _ le_rfl,
    List.take_of_length_le (length_le_total hsize)]

/-- One delivery of a chunk of the proof: a duplicate is reported and changes nothing, the
last missing chunk completes the proof, and any other is counted. -/
theorem push_chunk (h : Holds proof chunkSize indices r) (hsize : 1 ≤ chunkSize)
    (htotal : chunkTotal proof chunkSize < 2 ^ 32)
    (hall : ∀ i ∈ indices, i < chunkTotal proof chunkSize)
    (hindex : index < chunkTotal proof chunkSize) :
    Holds proof chunkSize (indices ++ [index])
      ((push (chunkAt proof chunkSize index)).call r).2 ∧
    (index ∈ indices → (push (chunkAt proof chunkSize index)).call r =
      (.error (.duplicateChunk (UInt32.ofNat index)), r)) ∧
    (index ∉ indices → (∀ i < chunkTotal proof chunkSize, i ∈ indices ++ [index]) →
      ((push (chunkAt proof chunkSize index)).call r).1 = .ok (.complete proof)) ∧
    (index ∉ indices → (¬ ∀ i < chunkTotal proof chunkSize, i ∈ indices ++ [index]) →
      ∃ received, ((push (chunkAt proof chunkSize index)).call r).1 =
        .ok (.incomplete received (UInt32.ofNat (chunkTotal proof chunkSize)))) := by
  have hshape := checkShape_chunkAt htotal hindex
  have hstored := h.stored htotal hindex
  have hpush : (push (chunkAt proof chunkSize index)).call r =
      ((if (r.chunks[UInt32.ofNat index]?).isSome then .error (.duplicateChunk (UInt32.ofNat index))
        else (r.stored (chunkAt proof chunkSize index)).assemble (chunkAt proof chunkSize index)),
        r.stored (chunkAt proof chunkSize index)) := by
    rcases push_cases (chunkAt proof chunkSize index) r with ⟨e, -, hbad⟩ |
      ⟨e, -, -, hnone, hother⟩ | ⟨e, -, -, hnone, hother, -⟩ | ⟨-, -, -, hcall⟩
    · rw [hshape] at hbad
      cases hbad
    · rw [h.digest] at hnone hother
      split_ifs at hnone hother
      · exact absurd rfl hnone
      · exact absurd rfl hother
    · rw [h.count] at hnone hother
      split_ifs at hnone hother
      · exact absurd rfl hnone
      · exact absurd rfl hother
    · exact hcall
  have hsome : (r.chunks[UInt32.ofNat index]?).isSome ↔ index ∈ indices := by
    rw [Option.isSome_iff_exists]
    simp only [h.chunks, toNat_index htotal hindex]
    exact ⟨fun ⟨_, hin, _⟩ => hin, fun hin => ⟨_, hin, rfl⟩⟩
  have hcount : (chunkAt proof chunkSize index).chunkCount.toNat = chunkTotal proof chunkSize :=
    UInt32.toNat_ofNat_of_lt' htotal
  have hiff := hstored.size_eq_iff htotal (fun i hi => by
    rcases List.mem_append.mp hi with hi | hi
    · exact hall i hi
    · exact List.mem_singleton.mp hi ▸ hindex)
  rw [hpush]
  refine ⟨hstored, fun hmem => ?_, fun hnew hfull => ?_, fun hnew hmissing => ?_⟩
  · rw [if_pos (hsome.mpr hmem), h.stored_again htotal hindex hmem]
  · dsimp only
    rw [if_neg (mt hsome.mp hnew), ProofReassembler.assemble, hcount,
      if_neg (not_not.mpr (hiff.mpr hfull))]
    have hconcat : (r.stored (chunkAt proof chunkSize index)).concatenate
        (chunkAt proof chunkSize index).chunkCount = .ok proof :=
      hstored.concatenate hsize htotal hfull
    have hdigest : (r.stored (chunkAt proof chunkSize index)).digest = some (sha256 proof) := rfl
    rw [hconcat, ok_bind, hdigest, rejectIf_false (not_not.mpr rfl), ok_bind]
    rfl
  · dsimp only
    rw [if_neg (mt hsome.mp hnew), ProofReassembler.assemble, hcount, if_pos (mt hiff.mp hmissing)]
    exact ⟨_, rfl⟩

theorem holds_run (hsize : 1 ≤ chunkSize) (htotal : chunkTotal proof chunkSize < 2 ^ 32)
    (hall : ∀ i ∈ indices, i < chunkTotal proof chunkSize) :
    Holds proof chunkSize indices (receiver.run (indices.map (chunkAt proof chunkSize))) := by
  induction indices using List.reverseRecOn with
  | nil => exact holds_empty
  | append_singleton indices index ih =>
    have hold := ih fun i hi => hall i (List.mem_append_left _ hi)
    rw [List.map_append, List.map_singleton, Machine.run_concat]
    exact (push_chunk hold hsize htotal (fun i hi => hall i (List.mem_append_left _ hi))
      (hall index (by simp))).1

theorem mem_map_chunkAt (htotal : chunkTotal proof chunkSize < 2 ^ 32)
    (hall : ∀ i ∈ indices, i < chunkTotal proof chunkSize)
    (hindex : index < chunkTotal proof chunkSize) :
    chunkAt proof chunkSize index ∈ indices.map (chunkAt proof chunkSize) ↔ index ∈ indices := by
  constructor
  · intro hmem
    obtain ⟨i, hi, heq⟩ := List.mem_map.mp hmem
    have hnat := congrArg (fun chunk => chunk.chunkIndex.toNat) heq
    dsimp only [chunkAt] at hnat
    rw [toNat_index htotal (hall i hi), toNat_index htotal hindex] at hnat
    exact hnat ▸ hi
  · exact List.mem_map_of_mem

/-- Deliveries of chunks of the proof are given by their indices. -/
theorem exists_indices {before : List ProofChunk}
    (h : ∀ c ∈ before, c ∈ (List.range (chunkTotal proof chunkSize)).map (chunkAt proof chunkSize)) :
    ∃ indices : List ℕ, (∀ i ∈ indices, i < chunkTotal proof chunkSize) ∧
      before = indices.map (chunkAt proof chunkSize) := by
  induction before with
  | nil => exact ⟨[], by simp, rfl⟩
  | cons c before ih =>
    obtain ⟨indices, hall, rfl⟩ := ih fun c hc => h c (List.mem_cons_of_mem _ hc)
    obtain ⟨i, hi, rfl⟩ := List.mem_map.mp (h c (List.mem_cons_self ..))
    exact ⟨i :: indices, List.forall_mem_cons.mpr ⟨List.mem_range.mp hi, hall⟩, rfl⟩

end Chunks

/-- In whatever order the chunks of a proof arrive, and however often, the proof is complete
when the last missing one arrives and not before; and only the announced proof completes. -/
theorem proof_reassembly :
    (∀ proof chunkSize, proof ≠ [] → 1 ≤ chunkSize → (pieces chunkSize proof).length < 2 ^ 32 →
      ∃ chunks, split proof chunkSize = .ok chunks ∧
        ∀ before chunk, (∀ c ∈ before ++ [chunk], c ∈ chunks) →
          (chunk ∈ before → (push chunk).call (receiver.run before) =
            (.error (.duplicateChunk chunk.chunkIndex), receiver.run before)) ∧
          (chunk ∉ before → (∀ c ∈ chunks, c ∈ before ++ [chunk]) →
            ((push chunk).call (receiver.run before)).1 = .ok (.complete proof)) ∧
          (chunk ∉ before → (¬ ∀ c ∈ chunks, c ∈ before ++ [chunk]) →
            ∃ received, ((push chunk).call (receiver.run before)).1 =
              .ok (.incomplete received chunk.chunkCount))) ∧
    ∀ pushed chunk proof, ((push chunk).call (receiver.run pushed)).1 = .ok (.complete proof) →
      chunk.proofDigest = sha256 proof ∧ announced (pushed ++ [chunk]) = some (sha256 proof) := by
  refine ⟨fun proof chunkSize hproof hsize hcount => ?_, fun pushed chunk proof h =>
    complete_digest h⟩
  have htotal : chunkTotal proof chunkSize < 2 ^ 32 := by
    simpa [pieces, chunkTotal] using hcount
  refine ⟨_, split_ok hproof hsize, fun before chunk hchunks => ?_⟩
  obtain ⟨indices, hall, rfl⟩ := exists_indices fun c hc => hchunks c (List.mem_append_left _ hc)
  obtain ⟨index, hmem, rfl⟩ := List.mem_map.mp (hchunks chunk (by simp))
  have hindex := List.mem_range.mp hmem
  have hfull : (∀ c ∈ (List.range (chunkTotal proof chunkSize)).map (chunkAt proof chunkSize),
      c ∈ indices.map (chunkAt proof chunkSize) ++ [chunkAt proof chunkSize index]) ↔
        ∀ i < chunkTotal proof chunkSize, i ∈ indices ++ [index] := by
    have hall' : ∀ i ∈ indices ++ [index], i < chunkTotal proof chunkSize := by
      intro i hi
      rcases List.mem_append.mp hi with hi | hi
      · exact hall i hi
      · exact List.mem_singleton.mp hi ▸ hindex
    have happend : indices.map (chunkAt proof chunkSize) ++ [chunkAt proof chunkSize index] =
        (indices ++ [index]).map (chunkAt proof chunkSize) := by simp
    rw [happend, List.forall_mem_map]
    simp only [List.mem_range]
    exact forall₂_congr fun i hi => mem_map_chunkAt htotal hall' hi
  rw [mem_map_chunkAt htotal hall hindex, hfull]
  exact (push_chunk (holds_run hsize htotal hall) hsize htotal hall hindex).2

end TapLdk.ProofReassembly
