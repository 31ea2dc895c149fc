import Mathlib
import TapLdk.ProofReassembly

/-! Chunks that the receiver refuses: when a refusal leaves it as it was, and what the chunks of
a proof still complete to after such refusals. -/
namespace TapLdk.ProofReassemblyRejected
open TapLdk.LibraryExcept TapLdk.LibraryMaps TapLdk.LibraryRuns TapLdk.LibraryStateful
open TapLdk.LibraryBytes TapLdk.LibrarySha256 TapLdk.RfqInvoice TapLdk.ProofReassembly

/-- The receiver answers a chunk with an error. -/
def Rejected (r : ProofReassembler) (chunk : ProofChunk) : Prop :=
  ∃ e, ((push chunk).call r).1 = .error e

/-- A chunk that is refused leaves the receiver as it was. -/
def LeftAsWas (r : ProofReassembler) (chunk : ProofChunk) : Prop :=
  Rejected r chunk → ((push chunk).call r).2 = r

/-- The chunk is well formed and of the proof that is being received, if one is. -/
def FitsDigest (r : ProofReassembler) (chunk : ProofChunk) : Prop :=
  checkShape chunk = .ok () ∧ (r.digest = none ∨ r.digest = some chunk.proofDigest)

/-- It also has the announced count. -/
def FitsCount (r : ProofReassembler) (chunk : ProofChunk) : Prop :=
  FitsDigest r chunk ∧ (r.chunkCount = none ∨ r.chunkCount = some chunk.chunkCount)

/-- The chunks that a refusal cannot harm the receiver with: none announces a digest beside
another count, repeats an index with other bytes, or makes up a proof of another digest. -/
structure Harmless (r : ProofReassembler) (chunk : ProofChunk) : Prop where
  count : FitsDigest r chunk → r.chunkCount ≠ none → r.chunkCount ≠ some chunk.chunkCount →
    r.digest ≠ none
  duplicate : FitsCount r chunk → ∀ bytes, r.chunks[chunk.chunkIndex]? = some bytes →
    bytes = chunk.bytes ∧ r.digest ≠ none ∧ r.chunkCount ≠ none
  completing : FitsCount r chunk → r.chunks[chunk.chunkIndex]? = none →
    r.chunks.size + 1 = chunk.chunkCount.toNat →
    ∃ proof, (r.stored chunk).concatenate chunk.chunkCount = .ok proof ∧
      sha256 proof = chunk.proofDigest

theorem insert_eq_self_iff {m : BTreeMap UInt32 Bytes} {index : UInt32} {bytes : Bytes} :
    m.insert index bytes = m ↔ m[index]? = some bytes := by
  constructor
  · intro h
    rw [← h, get_insert_self]
  · intro h
    apply Std.ExtTreeMap.ext_getElem?
    intro other
    by_cases hsame : other = index
    · rw [hsame, get_insert_self, h]
    · rw [get_insert_ne hsame]

theorem stored_eq_self_iff {r : ProofReassembler} {chunk : ProofChunk} : r.stored chunk = r ↔
    r.digest = some chunk.proofDigest ∧ r.chunkCount = some chunk.chunkCount ∧
      r.chunks[chunk.chunkIndex]? = some chunk.bytes := by
  rw [← insert_eq_self_iff]
  cases r
  rw [ProofReassembler.stored, ProofReassembler.mk.injEq]
  exact and_congr eq_comm (and_congr eq_comm Iff.rfl)

theorem ne_none_of_fits {α : Type} {seen : Option α} {value : α}
    (h : seen = none ∨ seen = some value) : seen ≠ none ↔ seen = some value := by
  rcases h with h | h <;> simp [h]

/-- A new chunk is taken unless it makes up a proof of another digest. -/
theorem assemble_stored {r : ProofReassembler} {chunk : ProofChunk}
    (hnew : r.chunks[chunk.chunkIndex]? = none) :
    (∃ e, (r.stored chunk).assemble chunk = .error e) ↔
      r.chunks.size + 1 = chunk.chunkCount.toNat ∧
        ¬ ∃ proof, (r.stored chunk).concatenate chunk.chunkCount = .ok proof ∧
          sha256 proof = chunk.proofDigest := by
  have hsize : (r.stored chunk).chunks.size = r.chunks.size + 1 := by
    have hmem : ¬ chunk.chunkIndex ∈ r.chunks := by simpa using hnew
    exact (Std.ExtTreeMap.size_insert).trans (if_neg hmem)
  have hdigest : (r.stored chunk).digest = some chunk.proofDigest := rfl
  rw [ProofReassembler.assemble, hsize, hdigest]
  split_ifs with hcount
  · simp [hcount]
  · rw [not_ne_iff] at hcount
    cases hconcat : (r.stored chunk).concatenate chunk.chunkCount with
    | error e => simp [hcount]
    | ok proof =>
      by_cases hsame : sha256 proof = chunk.proofDigest
      · simp [hcount, hsame, rejectIf]
      · simp [hcount, hsame, rejectIf]

/-- A refusal leaves the receiver as it was exactly when the chunk is harmless. -/
theorem leftAsWas_iff (r : ProofReassembler) (chunk : ProofChunk) :
    LeftAsWas r chunk ↔ Harmless r chunk := by
  rcases push_cases chunk r with ⟨e, hcall, hshape⟩ | ⟨e, hshape, hcall, hnone, hother⟩ |
    ⟨e, hshape, hdigest, hnone, hother, hcall⟩ | ⟨hshape, hdigest, hcount, hcall⟩
  · have hunfit : ¬ FitsDigest r chunk := by
      rintro ⟨hok, -⟩
      rw [hshape] at hok
      cases hok
    refine iff_of_true (fun _ => by rw [hcall]) ⟨fun h => absurd h hunfit,
      fun h => absurd h.1 hunfit, fun h => absurd h.1 hunfit⟩
  · have hunfit : ¬ FitsDigest r chunk := by
      rintro ⟨-, h | h⟩
      · exact hnone h
      · exact hother h
    refine iff_of_true (fun _ => by rw [hcall]) ⟨fun h => absurd h hunfit,
      fun h => absurd h.1 hunfit, fun h => absurd h.1 hunfit⟩
  · have hunfit : ¬ FitsCount r chunk := by
      rintro ⟨-, h | h⟩
      · exact hnone h
      · exact hother h
    have hkeeps : ({ r with digest := some chunk.proofDigest } : ProofReassembler) = r ↔
        r.digest ≠ none := by
      rw [ne_none_of_fits hdigest]
      cases r
      rw [ProofReassembler.mk.injEq]
      exact ⟨fun h => h.1.symm, fun h => ⟨h.symm, rfl, rfl⟩⟩
    rw [LeftAsWas, Rejected, hcall, hkeeps]
    constructor
    · intro h
      exact ⟨fun _ _ _ => h ⟨e, rfl⟩, fun h => absurd h hunfit, fun h => absurd h hunfit⟩
    · rintro h -
      exact h.count ⟨hshape, hdigest⟩ hnone hother
  · have hfits : FitsCount r chunk := ⟨⟨hshape, hdigest⟩, hcount⟩
    have hannounced (hnone : r.chunkCount ≠ none) (hother : r.chunkCount ≠ some chunk.chunkCount) :
        False := hother ((ne_none_of_fits hcount).mp hnone)
    rw [LeftAsWas, Rejected, hcall, stored_eq_self_iff]
    cases hheld : r.chunks[chunk.chunkIndex]? with
    | some bytes =>
      rw [Option.isSome_some, if_pos rfl]
      constructor
      · intro h
        obtain ⟨hd, hc, hb⟩ := h ⟨_, rfl⟩
        refine ⟨fun _ hnone hother => (hannounced hnone hother).elim, fun _ other hget => ?_,
          fun _ hfree => ?_⟩
        · rw [hheld, hb] at hget
          exact ⟨(Option.some.inj hget).symm, by simp [hd], by simp [hc]⟩
        · rw [hheld] at hfree
          cases hfree
      · rintro h -
        obtain ⟨rfl, hd, hc⟩ := h.duplicate hfits bytes hheld
        exact ⟨(ne_none_of_fits hdigest).mp hd, (ne_none_of_fits hcount).mp hc, rfl⟩
    | none =>
      rw [Option.isSome_none, if_neg Bool.false_ne_true, assemble_stored hheld]
      constructor
      · intro h
        refine ⟨fun _ hnone hother => (hannounced hnone hother).elim, fun _ other hget => ?_,
          fun _ _ hsize => ?_⟩
        · rw [hheld] at hget
          cases hget
        · by_contra hproof
          cases (h ⟨hsize, hproof⟩).2.2
      · rintro h ⟨hsize, hproof⟩
        exact absurd (h.completing hfits hheld hsize) hproof

/-- A chunk at an index that is held replaces what was there. -/
theorem push_duplicate {r : ProofReassembler} {chunk : ProofChunk} {bytes : Bytes}
    (hshape : checkShape chunk = .ok ()) (hdigest : r.digest = some chunk.proofDigest)
    (hcount : r.chunkCount = some chunk.chunkCount)
    (hheld : r.chunks[chunk.chunkIndex]? = some bytes) :
    (push chunk).call r = (.error (.duplicateChunk chunk.chunkIndex), r.stored chunk) := by
  rcases push_cases chunk r with ⟨e, -, hbad⟩ | ⟨e, -, -, -, hother⟩ | ⟨e, -, -, -, hother, -⟩ |
    ⟨-, -, -, hcall⟩
  · rw [hshape] at hbad
    cases hbad
  · exact absurd hdigest hother
  · exact absurd hcount hother
  · rw [hcall, hheld, Option.isSome_some, if_pos rfl]

/-- A chunk of the proof, or one that is refused without harm. -/
def Deliverable (chunks : List ProofChunk) (r : ProofReassembler) (chunk : ProofChunk) : Prop :=
  chunk ∈ chunks ∨ Rejected r chunk ∧ Harmless r chunk

section
variable {proof : Bytes} {chunkSize : ℕ}

/-- What the receiver holds are the chunks of the proof that were delivered. -/
theorem holds_delivered (hsize : 1 ≤ chunkSize) (htotal : chunkTotal proof chunkSize < 2 ^ 32)
    {deliveries : List ProofChunk}
    (h : receiver.Guarded (Deliverable ((List.range (chunkTotal proof chunkSize)).map
      (chunkAt proof chunkSize))) deliveries) :
    ∃ indices : List ℕ, (∀ i ∈ indices, i < chunkTotal proof chunkSize) ∧
      (∀ i < chunkTotal proof chunkSize,
        i ∈ indices ↔ chunkAt proof chunkSize i ∈ deliveries) ∧
      Holds proof chunkSize indices (receiver.run deliveries) := by
  induction deliveries using List.reverseRecOn with
  | nil => exact ⟨[], by simp, by simp, holds_empty⟩
  | append_singleton deliveries chunk ih =>
    obtain ⟨hguarded, hdeliverable⟩ := Machine.guarded_of_concat h
    obtain ⟨indices, hall, hmem, hholds⟩ := ih hguarded
    rw [Machine.run_concat]
    by_cases hgenuine : chunk ∈ (List.range (chunkTotal proof chunkSize)).map
        (chunkAt proof chunkSize)
    · obtain ⟨index, hrange, rfl⟩ := List.mem_map.mp hgenuine
      have hindex := List.mem_range.mp hrange
      refine ⟨indices ++ [index], fun i hi => ?_, fun i hi => ?_,
        (push_chunk hholds hsize htotal hall hindex).1⟩
      · rcases List.mem_append.mp hi with hi | hi
        · exact hall i hi
        · exact List.mem_singleton.mp hi ▸ hindex
      · have hsame : chunkAt proof chunkSize i ∈ [index].map (chunkAt proof chunkSize) ↔
            i ∈ [index] := mem_map_chunkAt htotal (by simpa using hindex) hi
        rw [List.mem_append, List.mem_append, hmem i hi, ← hsame, List.map_singleton]
    · obtain ⟨hrejected, hharmless⟩ := hdeliverable.resolve_left hgenuine
      have hkept : receiver.next (receiver.run deliveries) chunk = receiver.run deliveries :=
        (leftAsWas_iff _ _).mpr hharmless hrejected
      rw [hkept]
      refine ⟨indices, hall, fun i hi => ?_, hholds⟩
      have hne : chunkAt proof chunkSize i ≠ chunk := by
        rintro rfl
        exact hgenuine (List.mem_map_of_mem (List.mem_range.mpr hi))
      rw [hmem i hi, List.mem_append, List.mem_singleton, or_iff_left hne]

/-- The last missing chunk completes the proof. -/
theorem completes_after_refusals (hproof : proof ≠ []) (hsize : 1 ≤ chunkSize)
    (hcount : (pieces chunkSize proof).length < 2 ^ 32) :
    ∃ chunks, split proof chunkSize = .ok chunks ∧ ∀ deliveries last,
      receiver.Guarded (Deliverable chunks) deliveries → last ∈ chunks → last ∉ deliveries →
      (∀ c ∈ chunks, c ∈ deliveries ++ [last]) →
      ((push last).call (receiver.run deliveries)).1 = .ok (.complete proof) := by
  have htotal : chunkTotal proof chunkSize < 2 ^ 32 := by
    simpa [pieces, chunkTotal] using hcount
  refine ⟨_, split_ok hproof hsize, fun deliveries last hguarded hlast hnew hfull => ?_⟩
  obtain ⟨indices, hall, hmem, hholds⟩ := holds_delivered hsize htotal hguarded
  obtain ⟨index, hrange, rfl⟩ := List.mem_map.mp hlast
  have hindex := List.mem_range.mp hrange
  have hmissing := mt (hmem index hindex).mp hnew
  refine (push_chunk hholds hsize htotal hall hindex).2.2.1 hmissing fun i hi => ?_
  have hdelivered := hfull _ (List.mem_map_of_mem (List.mem_range.mpr hi))
  have hsame : chunkAt proof chunkSize i ∈ [index].map (chunkAt proof chunkSize) ↔ i ∈ [index] :=
    mem_map_chunkAt htotal (by simpa using hindex) hi
  rw [List.mem_append, ← hmem i hi, ← List.map_singleton, hsame] at hdelivered
  exact List.mem_append.mpr hdelivered

end

/-- A refused chunk leaves the receiver as it was exactly when it is harmless; and the chunks of
a proof complete to it after any deliveries of its own chunks and of refused, harmless ones. -/
theorem rejected_chunks_iff (r : ProofReassembler) (chunk : ProofChunk) :
    (LeftAsWas r chunk ↔ Harmless r chunk) ∧
    ∀ proof chunkSize, proof ≠ [] → 1 ≤ chunkSize → (pieces chunkSize proof).length < 2 ^ 32 →
      ∃ chunks, split proof chunkSize = .ok chunks ∧ ∀ deliveries last,
        receiver.Guarded (Deliverable chunks) deliveries → last ∈ chunks → last ∉ deliveries →
        (∀ c ∈ chunks, c ∈ deliveries ++ [last]) →
        ((push last).call (receiver.run deliveries)).1 = .ok (.complete proof) :=
  ⟨leftAsWas_iff r chunk, fun _ _ => completes_after_refusals⟩

def twoBytes : Bytes := [1, 2]

def malformed : ProofChunk := ⟨sha256 twoBytes, 0, 0, [], false⟩

theorem malformed_rejected (r : ProofReassembler) : Rejected r malformed :=
  ⟨.invalidChunkCount, rfl⟩

theorem malformed_harmless (r : ProofReassembler) : Harmless r malformed := by
  have hunfit : ¬ FitsDigest r malformed := fun h => by cases h.1
  exact ⟨fun h => absurd h hunfit, fun h => absurd h.1 hunfit, fun h => absurd h.1 hunfit⟩

theorem rejected_chunks_malformed :
    (LeftAsWas .empty malformed ↔ Harmless .empty malformed) ∧
      ((push (chunkAt twoBytes 1 1)).call
        (receiver.run [chunkAt twoBytes 1 0, malformed])).1 = .ok (.complete twoBytes) := by
  obtain ⟨hiff, hcompletes⟩ := rejected_chunks_iff .empty malformed
  refine ⟨hiff, ?_⟩
  obtain ⟨chunks, hsplit, hlast⟩ := hcompletes twoBytes 1 (by decide) le_rfl (by decide)
  obtain rfl : (List.range 2).map (chunkAt twoBytes 1) = chunks := by
    rw [split_ok (by decide) le_rfl] at hsplit
    exact Except.ok.inj hsplit
  have hfirst : receiver.Guarded (Deliverable ((List.range 2).map (chunkAt twoBytes 1)))
      ([] ++ [chunkAt twoBytes 1 0]) :=
    Machine.guarded_concat (Machine.guarded_nil _ _) (.inl (List.mem_map_of_mem (by decide)))
  refine hlast ([chunkAt twoBytes 1 0] ++ [malformed]) _ (Machine.guarded_concat hfirst
    (.inr ⟨malformed_rejected _, malformed_harmless _⟩)) (List.mem_map_of_mem (by decide)) ?_ ?_
  · intro hmem
    rcases List.mem_append.mp hmem with hmem | hmem
    · cases congrArg ProofChunk.chunkIndex (List.mem_singleton.mp hmem)
    · cases congrArg ProofChunk.chunkCount (List.mem_singleton.mp hmem)
  · rw [List.forall_mem_map]
    intro i hi
    rcases (by simpa [List.range_succ] using hi : i = 0 ∨ i = 1) with rfl | rfl <;> simp

/-- The first chunk of the proof with another byte in it. -/
def forged : ProofChunk := { chunkAt twoBytes 1 0 with bytes := [9] }

/-- It is refused as a duplicate and replaces the genuine chunk: the proof does not complete. -/
theorem forged_duplicate_replaces :
    Rejected (receiver.run [chunkAt twoBytes 1 0]) forged ∧
      ¬ LeftAsWas (receiver.run [chunkAt twoBytes 1 0]) forged ∧
      ((push (chunkAt twoBytes 1 1)).call
        (receiver.run [chunkAt twoBytes 1 0, forged])).1 = .error .proofDigestMismatch := by
  have hholds : Holds twoBytes 1 [0] (receiver.run [chunkAt twoBytes 1 0]) :=
    holds_run le_rfl (by decide) (by decide)
  have hheld : (receiver.run [chunkAt twoBytes 1 0]).chunks[forged.chunkIndex]? = some [1] :=
    (hholds.chunks _ _).mpr ⟨by decide, rfl⟩
  have hpush := @push_duplicate _ forged _ (by decide) hholds.digest hholds.count hheld
  refine ⟨⟨_, congrArg Prod.fst hpush⟩, fun hleft => ?_, ?_⟩
  · have hsame := (congrArg Prod.snd hpush).symm.trans (hleft ⟨_, congrArg Prod.fst hpush⟩)
    have hbytes := (stored_eq_self_iff.mp hsame).2.2
    rw [hheld] at hbytes
    cases hbytes
  · decide +kernel

end TapLdk.ProofReassemblyRejected
