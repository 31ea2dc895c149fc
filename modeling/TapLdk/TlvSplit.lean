import Mathlib
import TapLdk.TlvFields

/-! Streams that carry the fields of a message and other records beside them. -/
namespace TapLdk.TlvSplit
open TapLdk.LibraryExcept TapLdk.LibraryMaps TapLdk.LibraryBytes TapLdk.Tlv TapLdk.TlvCanonical
open TapLdk.TlvFields

/-- Records beside the fields of a message. -/
structure Others (slots : List Slot) (others : List TlvRecord) : Prop where
  sorted : others.Pairwise fun r r' => r.typeId < r'.typeId
  types : ∀ r ∈ others, r.typeId ∉ slots.map (·.1)
  sizes : ∀ r ∈ others, r.value.length < 2 ^ 64

/-- The records of some fields and others, by their types. -/
def merged (slots : List Slot) (others : List TlvRecord) : List TlvRecord :=
  sortByType (recordsOf slots ++ others)

section

variable {slots : List Slot} (hnodup : (slots.map (·.1)).Nodup) {others : List TlvRecord}
include hnodup

theorem merged_sorted (hsorted : others.Pairwise fun r r' => r.typeId < r'.typeId)
    (htypes : ∀ r ∈ others, r.typeId ∉ slots.map (·.1)) :
    (merged slots others).Pairwise fun r r' => r.typeId < r'.typeId := by
  refine sortByType_sorted ?_
  rw [List.map_append, List.nodup_append]
  refine ⟨recordsOf_nodup hnodup, nodup_of_sorted hsorted, ?_⟩
  rintro _ hknown _ hother rfl
  obtain ⟨r, hr, hr'⟩ := List.mem_map.mp hother
  exact htypes r hr (hr' ▸ (typeIds_recordsOf slots).subset hknown)

/-- Sorted records are those of the fields and some others exactly when the fields read as they
are and the others are the rest. -/
theorem merged_iff (hsorted : others.Pairwise fun r r' => r.typeId < r'.typeId)
    (htypes : ∀ r ∈ others, r.typeId ∉ slots.map (·.1)) {records : List TlvRecord} :
    records = merged slots others ↔
      (records.Pairwise fun r r' => r.typeId < r'.typeId) ∧ Reads (recordMap records) slots ∧
        others = records.filter (·.typeId ∉ slots.map (·.1)) := by
  have hall := merged_sorted hnodup hsorted htypes
  constructor
  · rintro rfl
    refine ⟨hall, ?_, eq_of_mem_iff hsorted (hall.filter _) fun r => ?_⟩
    · rintro ⟨typeId, value⟩ hslot
      refine Option.ext fun v => ?_
      rw [get_recordMap (nodup_of_sorted hall), merged, mem_sortByType, List.mem_append,
        mem_recordsOf]
      constructor
      · rintro (hmem | hmem)
        · exact congrArg Prod.snd (List.inj_on_of_nodup_map hnodup hslot hmem rfl)
        · exact absurd (List.mem_map_of_mem (f := Prod.fst) hslot) (htypes _ hmem)
      · rintro rfl
        exact .inl hslot
    · rw [List.mem_filter, merged, mem_sortByType, List.mem_append, decide_eq_true_eq]
      constructor
      · exact fun hr => ⟨.inr hr, htypes r hr⟩
      · rintro ⟨hknown | hr, htype⟩
        · exact absurd (List.mem_map_of_mem (f := Prod.fst) (mem_recordsOf.mp hknown)) htype
        · exact hr
  · rintro ⟨hrecords, hreads, rfl⟩
    have hknown := sortByType_of_reads hnodup hrecords hreads
    refine eq_of_mem_iff hrecords hall fun r => ?_
    rw [merged, mem_sortByType, List.mem_append, ← @mem_sortByType (recordsOf slots), hknown,
      List.mem_filter, List.mem_filter, decide_eq_true_eq, decide_eq_true_eq, ← and_or_left]
    exact ⟨fun hr => ⟨hr, Decidable.em _⟩, And.left⟩

/-- What is read of the fields and the others of a stream is what the stream is merged from. -/
theorem isStream_merged (hfits : ∀ slot ∈ slots, ∀ value ∈ slot.2, List.length value < 2 ^ 64)
    {records : List TlvRecord} {bytes : Bytes} :
    (IsStream records bytes ∧ Reads (recordMap records) slots ∧
        others = records.filter (·.typeId ∉ slots.map (·.1))) ↔
      Others slots others ∧ records = merged slots others ∧
        bytes = (merged slots others).flatMap encodeRecord := by
  rw [isStream_iff]
  constructor
  · rintro ⟨⟨rfl, hsizes, hsorted⟩, hreads, hrest⟩
    have hmem : ∀ r ∈ others, r ∈ records ∧ r.typeId ∉ slots.map (·.1) := by
      intro r hr
      rwa [hrest, List.mem_filter, decide_eq_true_eq] at hr
    have hothers : Others slots others :=
      ⟨hrest ▸ hsorted.filter _, fun r hr => (hmem r hr).2, fun r hr => hsizes r (hmem r hr).1⟩
    have hmerged := (merged_iff hnodup hothers.sorted hothers.types).mpr ⟨hsorted, hreads, hrest⟩
    exact ⟨hothers, hmerged, congrArg _ hmerged⟩
  · rintro ⟨hothers, rfl, rfl⟩
    obtain ⟨hsorted, hreads, hrest⟩ :=
      (merged_iff hnodup hothers.sorted hothers.types).mp rfl
    refine ⟨⟨rfl, fun r hr => ?_, hsorted⟩, hreads, hrest⟩
    rcases List.mem_append.mp (mem_sortByType.mp hr) with hknown | hother
    · exact fits_of_slots hfits r hknown
    · exact hothers.sizes r hother

end

end TapLdk.TlvSplit
