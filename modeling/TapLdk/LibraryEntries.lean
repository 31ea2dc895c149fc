import Mathlib
import TapLdk.LibraryMaps

/-! Maps whose every entry passes a check, and what an insertion does to them. -/
namespace TapLdk.LibraryEntries
open Std LibraryExcept LibraryMaps

variable {κ ν ε : Type} [Ord κ] [TransOrd κ] [LawfulEqOrd κ] {m : BTreeMap κ ν} {k : κ} {v : ν}
  {check : κ × ν → Except ε Unit}

theorem forM_entries : m.toList.forM check = .ok () ↔
    ∀ (j : κ) (w : ν), m[j]? = some w → check (j, w) = .ok () := by
  simp only [forM_eq_ok, Prod.forall, mem_toList_iff]

theorem forM_insert (h : m.toList.forM check = .ok ()) (hv : check (k, v) = .ok ()) :
    (m.insert k v).toList.forM check = .ok () := by
  rw [forM_entries] at h ⊢
  intro j w hj
  rcases get_insert_eq_some hj with ⟨rfl, rfl⟩ | ⟨-, hj⟩
  · exact hv
  · exact h j w hj

end TapLdk.LibraryEntries
