import Mathlib
import TapLdk.LibraryExcept

/-! Ordered finite maps: the standard library's extensional tree map under the name
`BTreeMap`, and sums of a quantity over its entries. -/
namespace TapLdk.LibraryMaps
open Std LibraryExcept

/-- An ordered map, iterated in key order, equal to another exactly when they agree at
every key. -/
abbrev BTreeMap (κ ν : Type) [Ord κ] := ExtTreeMap κ ν compare

variable {κ ν : Type} [Ord κ] [TransOrd κ] [LawfulEqOrd κ]

theorem get_insert_self (m : BTreeMap κ ν) (k : κ) (v : ν) : (m.insert k v)[k]? = some v := by
  simp

theorem get_insert_ne {m : BTreeMap κ ν} {k j : κ} {v : ν} (h : j ≠ k) :
    (m.insert k v)[j]? = m[j]? := by
  rw [ExtTreeMap.getElem?_insert, if_neg]
  simpa using h.symm

theorem get_erase_self (m : BTreeMap κ ν) (k : κ) : (m.erase k)[k]? = none := by
  simp

theorem get_erase_ne {m : BTreeMap κ ν} {k j : κ} (h : j ≠ k) : (m.erase k)[j]? = m[j]? := by
  rw [ExtTreeMap.getElem?_erase, if_neg]
  simpa using h.symm

theorem get_insert_eq_some {m : BTreeMap κ ν} {k j : κ} {v w : ν}
    (h : (m.insert k v)[j]? = some w) : j = k ∧ w = v ∨ j ≠ k ∧ m[j]? = some w := by
  by_cases hk : j = k
  · subst hk
    rw [get_insert_self] at h
    exact .inl ⟨rfl, (Option.some.inj h).symm⟩
  · rw [get_insert_ne hk] at h
    exact .inr ⟨hk, h⟩

theorem get_erase_eq_some {m : BTreeMap κ ν} {k j : κ} {w : ν}
    (h : (m.erase k)[j]? = some w) : j ≠ k ∧ m[j]? = some w := by
  by_cases hk : j = k
  · subst hk
    rw [get_erase_self] at h
    cases h
  · rw [get_erase_ne hk] at h
    exact ⟨hk, h⟩

theorem mem_toList_iff {m : BTreeMap κ ν} {k : κ} {v : ν} : (k, v) ∈ m.toList ↔ m[k]? = some v :=
  ExtTreeMap.mem_toList_iff_getElem?_eq_some

/-- Maps with the same entries are equal. -/
theorem ext_get {m m' : BTreeMap κ ν}
    (h : ∀ (k : κ) (v : ν), m[k]? = some v ↔ m'[k]? = some v) : m = m' :=
  ExtTreeMap.ext_getElem? fun k => Option.ext fun v => h k v

theorem toList_nodup (m : BTreeMap κ ν) : m.toList.Nodup := by
  refine (ExtTreeMap.distinct_keys_toList (t := m)).imp ?_
  rintro a b h rfl
  exact h (by simp)

/-- Adding a fresh key adds one entry and moves no other. -/
theorem toList_insert_perm {m : BTreeMap κ ν} {k : κ} {v : ν} (h : m[k]? = none) :
    (m.insert k v).toList.Perm ((k, v) :: m.toList) := by
  refine (List.perm_ext_iff_of_nodup (toList_nodup _) ?_).mpr ?_
  · refine List.nodup_cons.mpr ⟨fun hm => ?_, toList_nodup m⟩
    rw [mem_toList_iff, h] at hm
    cases hm
  · rintro ⟨j, w⟩
    rw [List.mem_cons, mem_toList_iff, mem_toList_iff]
    constructor
    · intro hj
      rcases get_insert_eq_some hj with ⟨rfl, rfl⟩ | ⟨-, hj⟩
      · exact .inl rfl
      · exact .inr hj
    · rintro (hj | hj)
      · obtain ⟨rfl, rfl⟩ := Prod.mk.inj hj
        exact get_insert_self m j w
      · have hne : j ≠ k := by
          rintro rfl
          rw [h] at hj
          cases hj
        rwa [get_insert_ne hne]

/-- An entry with a key after all others goes last. -/
theorem toList_insert_last {m : BTreeMap κ ν} {k : κ} {v : ν}
    (h : ∀ (j : κ) (w : ν), m[j]? = some w → compare j k = .lt) :
    (m.insert k v).toList = m.toList ++ [(k, v)] := by
  have hnone : m[k]? = none := by
    by_contra hne
    obtain ⟨w, hw⟩ := Option.ne_none_iff_exists'.mp hne
    have hlt := h k w hw
    have hself : compare k k = .eq := ReflCmp.compare_self
    rw [hself] at hlt
    cases hlt
  have hsorted (n : BTreeMap κ ν) : n.toList.Pairwise fun a b => compare a.1 b.1 = .lt :=
    ExtTreeMap.ordered_keys_toList
  have hantisymm : ∀ a b, a ∈ (m.insert k v).toList → b ∈ m.toList ++ [(k, v)] →
      compare a.1 b.1 = .lt → compare b.1 a.1 = .lt → a = b := by
    intro a b _ _ hab hba
    have hswap : compare b.1 a.1 = (compare a.1 b.1).swap := OrientedCmp.eq_swap
    rw [hswap, hab] at hba
    cases hba
  refine List.Perm.eq_of_pairwise hantisymm (hsorted _) ?_ ?_
  · rw [List.pairwise_append]
    refine ⟨hsorted m, List.pairwise_singleton .., ?_⟩
    rintro ⟨j, w⟩ hj _ hlast
    obtain rfl := List.mem_singleton.mp hlast
    exact h j w (mem_toList_iff.mp hj)
  · exact (toList_insert_perm hnone).trans (List.perm_append_singleton _ _).symm

/-- Removing a key removes its entry and moves no other. -/
theorem toList_erase_perm {m : BTreeMap κ ν} {k : κ} {v : ν} (h : m[k]? = some v) :
    m.toList.Perm ((k, v) :: (m.erase k).toList) := by
  have hm : (m.erase k).insert k v = m := by
    refine ExtTreeMap.ext_getElem? fun j => ?_
    by_cases hj : j = k
    · subst hj
      rw [get_insert_self, h]
    · rw [get_insert_ne hj, get_erase_ne hj]
  have hp := toList_insert_perm (v := v) (get_erase_self m k)
  rwa [hm] at hp

omit [LawfulEqOrd κ] in
@[simp] theorem toList_empty : (∅ : BTreeMap κ ν).toList = [] :=
  ExtTreeMap.toList_eq_nil_iff.mpr rfl

@[simp] theorem toList_singleton (k : κ) (v : ν) :
    ((∅ : BTreeMap κ ν).insert k v).toList = [(k, v)] := by
  have hp := toList_insert_perm (m := (∅ : BTreeMap κ ν)) (k := k) (v := v) (by simp)
  rw [toList_empty] at hp
  exact List.perm_singleton.mp hp

theorem erase_of_none {m : BTreeMap κ ν} {k : κ} (h : m[k]? = none) : m.erase k = m := by
  refine ExtTreeMap.ext_getElem? fun j => ?_
  by_cases hj : j = k
  · subst hj
    rw [get_erase_self, h]
  · exact get_erase_ne hj

theorem erase_insert_of_none {m : BTreeMap κ ν} {k : κ} {v : ν} (h : m[k]? = none) :
    (m.insert k v).erase k = m := by
  refine ExtTreeMap.ext_getElem? fun j => ?_
  by_cases hj : j = k
  · subst hj
    rw [get_erase_self, h]
  · rw [get_erase_ne hj, get_insert_ne hj]

/-- The sum of `f` over the entries of a map. -/
def total (f : κ → ν → ℕ) (m : BTreeMap κ ν) : ℕ := (m.toList.map fun e => f e.1 e.2).sum

omit [LawfulEqOrd κ] in
@[simp] theorem total_empty (f : κ → ν → ℕ) : total f (∅ : BTreeMap κ ν) = 0 := by
  simp [total]

theorem total_insert {f : κ → ν → ℕ} {m : BTreeMap κ ν} {k : κ} {v : ν} (h : m[k]? = none) :
    total f (m.insert k v) = f k v + total f m := by
  have hp := (toList_insert_perm (v := v) h).map fun e => f e.1 e.2
  simpa [total] using hp.sum_eq

theorem total_erase {f : κ → ν → ℕ} {m : BTreeMap κ ν} {k : κ} {v : ν} (h : m[k]? = some v) :
    total f m = f k v + total f (m.erase k) := by
  have hp := (toList_erase_perm h).map fun e => f e.1 e.2
  simpa [total] using hp.sum_eq

theorem total_update {f : κ → ν → ℕ} (m : BTreeMap κ ν) (k : κ) (w : ν) :
    total f (m.insert k w) + (m[k]?).elim 0 (f k) = f k w + total f m := by
  have hinsert : (m.erase k).insert k w = m.insert k w := by
    refine Std.ExtTreeMap.ext_getElem? fun j => ?_
    by_cases hj : j = k
    · rw [hj, get_insert_self, get_insert_self]
    · rw [get_insert_ne hj, get_insert_ne hj, get_erase_ne hj]
  have htotal := total_insert (f := f) (v := w) (get_erase_self m k)
  rw [hinsert] at htotal
  cases hget : m[k]? with
  | none =>
    rw [erase_of_none hget] at htotal
    simpa using htotal
  | some v =>
    have hold := total_erase (f := f) hget
    rw [Option.elim_some]
    omega

theorem keys_nodup (m : BTreeMap κ ν) : (m.toList.map (·.1)).Nodup := by
  refine (List.nodup_map_iff_inj_on (toList_nodup m)).mpr fun x hx y hy hkey => ?_
  have hget := mem_toList_iff.mp hx
  rw [hkey, mem_toList_iff.mp hy, Option.some.injEq] at hget
  exact Prod.ext hkey hget.symm

omit [Ord κ] [TransOrd κ] [LawfulEqOrd κ] in
/-- Sums over a list agree with those over its distinct elements exactly when no element
occurs twice, as long as every element counts in one of the sums. -/
theorem sum_eq_distinct_iff {ι α : Type} [DecidableEq α] {l : List α} {f : ι → α → ℕ}
    (hpos : ∀ x ∈ l, ∃ i, 0 < f i x) :
    (∀ i, (l.map (f i)).sum = ∑ x ∈ l.toFinset, f i x) ↔ l.Nodup := by
  constructor
  · intro h
    refine List.nodup_iff_count_le_one.mpr fun x => ?_
    by_contra! hcount
    have hx : x ∈ l := List.count_pos_iff.mp (by omega)
    obtain ⟨i, hi⟩ := hpos x hx
    have hlt : ∑ y ∈ l.toFinset, f i y < ∑ y ∈ l.toFinset, l.count y • f i y := by
      refine Finset.sum_lt_sum (fun y hy => ?_) ⟨x, List.mem_toFinset.mpr hx, ?_⟩
      · have hone : 1 ≤ l.count y := List.count_pos_iff.mpr (List.mem_toFinset.mp hy)
        exact Nat.le_mul_of_pos_left _ hone
      · exact lt_mul_left hi hcount
    rw [← Finset.sum_list_map_count, h i] at hlt
    exact lt_irrefl _ hlt
  · intro h i
    exact (List.sum_toFinset (f i) h).symm

def insertAll (m : BTreeMap κ ν) (entries : List (κ × ν)) : BTreeMap κ ν :=
  entries.foldl (fun m e => m.insert e.1 e.2) m

def eraseAll (m : BTreeMap κ ν) (keys : List κ) : BTreeMap κ ν :=
  keys.foldl (fun m k => m.erase k) m

omit [LawfulEqOrd κ] in
theorem insertAll_concat (m : BTreeMap κ ν) (entries : List (κ × ν)) (e : κ × ν) :
    insertAll m (entries ++ [e]) = (insertAll m entries).insert e.1 e.2 := by
  simp [insertAll]

theorem get_insertAll_of_not_mem {m : BTreeMap κ ν} {entries : List (κ × ν)} {k : κ}
    (h : k ∉ entries.map (·.1)) : (insertAll m entries)[k]? = m[k]? := by
  induction entries generalizing m with
  | nil => rfl
  | cons e entries ih =>
    rw [List.map_cons, List.mem_cons, not_or] at h
    exact (ih h.2).trans (get_insert_ne h.1)

theorem get_insertAll_of_mem {m : BTreeMap κ ν} {entries : List (κ × ν)}
    (hnodup : (entries.map (·.1)).Nodup) {k : κ} {v : ν} (h : (k, v) ∈ entries) :
    (insertAll m entries)[k]? = some v := by
  induction entries generalizing m with
  | nil => cases h
  | cons e entries ih =>
    rw [List.map_cons, List.nodup_cons] at hnodup
    rcases List.mem_cons.mp h with rfl | h
    · exact (get_insertAll_of_not_mem hnodup.1).trans (get_insert_self m k v)
    · exact ih hnodup.2 h

/-- What a map holds at a key after the insertions, key by key. -/
theorem get_insertAll_eq_some {m : BTreeMap κ ν} {entries : List (κ × ν)} {k : κ} {v : ν}
    (h : (insertAll m entries)[k]? = some v) : (k, v) ∈ entries ∨ m[k]? = some v := by
  induction entries generalizing m with
  | nil => exact .inr h
  | cons e entries ih =>
    rcases ih h with hmem | hget
    · exact .inl (List.mem_cons_of_mem _ hmem)
    · rcases get_insert_eq_some hget with ⟨rfl, rfl⟩ | ⟨-, hget⟩
      · exact .inl (List.mem_cons_self ..)
      · exact .inr hget

/-- A map built from entries with distinct keys holds these entries. -/
theorem get_insertAll_empty {entries : List (κ × ν)} (hnodup : (entries.map (·.1)).Nodup)
    {k : κ} {v : ν} : (insertAll ∅ entries)[k]? = some v ↔ (k, v) ∈ entries := by
  refine ⟨fun h => ?_, get_insertAll_of_mem hnodup⟩
  rcases get_insertAll_eq_some h with hmem | hget
  · exact hmem
  · simp at hget

/-- The order of entries under distinct keys does not matter. -/
theorem insertAll_perm {entries entries' : List (κ × ν)} (hp : entries.Perm entries')
    (hnodup : (entries.map (·.1)).Nodup) :
    (insertAll ∅ entries : BTreeMap κ ν) = insertAll ∅ entries' := by
  apply ext_get
  intro k v
  rw [get_insertAll_empty hnodup, get_insertAll_empty ((hp.map _).nodup_iff.mp hnodup), hp.mem_iff]

theorem insertAll_map {ν' : Type} {f : ν → ν'} {entries : List (κ × ν)}
    (hnodup : (entries.map (·.1)).Nodup) :
    (insertAll ∅ (entries.map fun e => (e.1, f e.2)) : BTreeMap κ ν') =
      (insertAll ∅ entries).map fun _ v => f v := by
  have hnodup' : ((entries.map fun e => (e.1, f e.2)).map (·.1)).Nodup := by
    rw [List.map_map]
    exact hnodup
  apply ext_get
  intro k w
  rw [get_insertAll_empty hnodup', Std.ExtTreeMap.getElem?_map, Option.map_eq_some_iff]
  simp [get_insertAll_empty hnodup]

theorem insertAll_toList (m : BTreeMap κ ν) : insertAll ∅ m.toList = m := by
  apply ext_get
  intro k v
  rw [get_insertAll_empty (keys_nodup m), mem_toList_iff]

theorem get_eraseAll_of_mem {m : BTreeMap κ ν} {keys : List κ} {k : κ} (h : k ∈ keys) :
    (eraseAll m keys)[k]? = none := by
  induction keys using List.reverseRecOn with
  | nil => cases h
  | append_singleton keys last ih =>
    rw [eraseAll, List.foldl_append, List.foldl_cons, List.foldl_nil, ← eraseAll]
    by_cases hk : k = last
    · subst hk
      exact get_erase_self _ _
    · rw [get_erase_ne hk]
      simpa [hk] using ih (by simpa [hk] using h)

theorem get_eraseAll_of_not_mem {m : BTreeMap κ ν} {keys : List κ} {k : κ} (h : k ∉ keys) :
    (eraseAll m keys)[k]? = m[k]? := by
  induction keys generalizing m with
  | nil => rfl
  | cons j keys ih =>
    rw [List.mem_cons, not_or] at h
    exact (ih h.2).trans (get_erase_ne h.1)

theorem total_insertAll {f : κ → ν → ℕ} {m : BTreeMap κ ν} {entries : List (κ × ν)}
    (hnodup : (entries.map (·.1)).Nodup) (hfresh : ∀ e ∈ entries, m[e.1]? = none) :
    total f (insertAll m entries) = (entries.map fun e => f e.1 e.2).sum + total f m := by
  induction entries generalizing m with
  | nil => simp [insertAll]
  | cons e entries ih =>
    rw [List.map_cons, List.nodup_cons] at hnodup
    have hrest : ∀ d ∈ entries, (m.insert e.1 e.2)[d.1]? = none := by
      intro d hd
      have hne : d.1 ≠ e.1 := by
        rintro heq
        exact hnodup.1 (heq ▸ List.mem_map_of_mem hd)
      rw [get_insert_ne hne]
      exact hfresh d (List.mem_cons_of_mem _ hd)
    have htotal := ih hnodup.2 hrest
    rw [total_insert (hfresh e (List.mem_cons_self ..))] at htotal
    rw [List.map_cons, List.sum_cons]
    exact htotal.trans (by ring)

theorem total_eraseAll {f : κ → ν → ℕ} {m : BTreeMap κ ν} {keys : List κ} (hnodup : keys.Nodup) :
    total f m = (keys.map fun k => (m[k]?).elim 0 (f k)).sum + total f (eraseAll m keys) := by
  induction keys generalizing m with
  | nil => simp [eraseAll]
  | cons k keys ih =>
    rw [List.nodup_cons] at hnodup
    have hkeep : (keys.map fun j => ((m.erase k)[j]?).elim 0 (f j)) =
        keys.map fun j => (m[j]?).elim 0 (f j) :=
      List.map_congr_left fun j hj => by rw [get_erase_ne (ne_of_mem_of_not_mem hj hnodup.1)]
    have htotal := ih (m := m.erase k) hnodup.2
    rw [hkeep] at htotal
    rw [List.map_cons, List.sum_cons, add_assoc]
    change total f m = (m[k]?).elim 0 (f k) + (_ + total f (eraseAll (m.erase k) keys))
    rw [← htotal]
    cases hk : m[k]? with
    | none => rw [erase_of_none hk, Option.elim_none, zero_add]
    | some v => rw [Option.elim_some, total_erase hk]

/-- Insert an entry under a new key. -/
def insertNew {ε : Type} (e : κ × ν → ε) (m : BTreeMap κ ν) (entry : κ × ν) :
    Except ε (BTreeMap κ ν) := do
  rejectIf (m[entry.1]?).isSome (e entry)
  pure (m.insert entry.1 entry.2)

/-- A list of entries goes in one by one exactly when its keys are new and distinct. -/
theorem foldlM_insertNew {ε : Type} {e : κ × ν → ε} {m out : BTreeMap κ ν}
    {entries : List (κ × ν)} :
    entries.foldlM (insertNew e) m = .ok out ↔
      (entries.map (·.1)).Nodup ∧ (∀ p ∈ entries, m[p.1]? = none) ∧ insertAll m entries = out := by
  induction entries generalizing m with
  | nil => simp [insertAll]
  | cons p entries ih =>
    simp only [List.foldlM_cons, insertNew, bind_eq_ok, rejectIf_eq_ok, exists_const, pure_eq_ok,
      Except.ok.injEq, Option.isSome_iff_ne_none, ne_eq, not_not, List.map_cons, List.nodup_cons,
      List.forall_mem_cons]
    have hrest (hnot : p.1 ∉ entries.map (·.1)) (q : κ × ν) (hq : q ∈ entries) :
        (m.insert p.1 p.2)[q.1]? = m[q.1]? :=
      get_insert_ne fun heq => hnot (heq ▸ List.mem_map_of_mem hq)
    constructor
    · rintro ⟨_, ⟨hp, rfl⟩, h⟩
      obtain ⟨hnodup, hnone, hout⟩ := ih.mp h
      have hnot : p.1 ∉ entries.map (·.1) := by
        intro hmem
        obtain ⟨q, hq, heq⟩ := List.mem_map.mp hmem
        have hget := hnone q hq
        rw [heq, get_insert_self] at hget
        cases hget
      exact ⟨⟨hnot, hnodup⟩, ⟨hp, fun q hq => (hrest hnot q hq) ▸ hnone q hq⟩, hout⟩
    · rintro ⟨⟨hnot, hnodup⟩, ⟨hp, hnone⟩, hout⟩
      exact ⟨_, ⟨hp, rfl⟩, ih.mpr ⟨hnodup, fun q hq => (hrest hnot q hq).trans (hnone q hq), hout⟩⟩

/-- One turn of a loop over items under distinct keys: `before` on the item, its key against the
keys seen so far, `after` on it. -/
def checkNew {ε α : Type} (key : α → κ) (before : α → Except ε Unit) (duplicate : α → ε)
    (after : α → Except ε Unit) (seen : BTreeMap κ Unit) (item : α) :
    Except ε (BTreeMap κ Unit) := do
  before item
  let seen ← insertNew (fun _ => duplicate item) seen (key item, ())
  after item
  pure seen

def checkDistinct {ε α : Type} (key : α → κ) (before : α → Except ε Unit) (duplicate : α → ε)
    (after : α → Except ε Unit) (items : List α) : Except ε Unit := do
  let _ ← items.foldlM (checkNew key before duplicate after) ∅
  pure ()

section Distinct

variable {ε α : Type} {key : α → κ} {before after : α → Except ε Unit} {duplicate : α → ε}

omit [LawfulEqOrd κ] in
theorem checkNew_eq_ok {seen next : BTreeMap κ Unit} {item : α} :
    checkNew key before duplicate after seen item = .ok next ↔
      before item = .ok () ∧ seen[key item]? = none ∧ after item = .ok () ∧
        seen.insert (key item) () = next := by
  simp only [checkNew, insertNew, bind_eq_ok, rejectIf_eq_ok, exists_const, pure_eq_ok,
    Except.ok.injEq, Option.isSome_iff_ne_none, ne_eq, not_not]
  constructor
  · rintro ⟨_, hbefore, _, ⟨hnew, rfl⟩, _, hafter, rfl⟩
    exact ⟨hbefore, hnew, hafter, rfl⟩
  · rintro ⟨hbefore, hnew, hafter, rfl⟩
    exact ⟨(), hbefore, _, ⟨hnew, rfl⟩, (), hafter, rfl⟩

theorem foldlM_checkNew {seen : BTreeMap κ Unit} {items : List α} :
    (∃ out, items.foldlM (checkNew key before duplicate after) seen = .ok out) ↔
      ((items.map key).Nodup ∧ ∀ item ∈ items, seen[key item]? = none) ∧
        ∀ item ∈ items, before item = .ok () ∧ after item = .ok () := by
  induction items generalizing seen with
  | nil => simp
  | cons item items ih =>
    simp only [List.foldlM_cons, bind_eq_ok, checkNew_eq_ok, List.map_cons, List.nodup_cons,
      List.forall_mem_cons]
    have hrest (hnot : key item ∉ items.map key) (x : α) (hx : x ∈ items) :
        (seen.insert (key item) ())[key x]? = seen[key x]? :=
      get_insert_ne fun heq => hnot (heq ▸ List.mem_map_of_mem hx)
    constructor
    · rintro ⟨out, _, ⟨hbefore, hnew, hafter, rfl⟩, hout⟩
      obtain ⟨⟨hnodup, hnone⟩, hchecks⟩ := ih.mp ⟨out, hout⟩
      have hnot : key item ∉ items.map key := by
        intro hmem
        obtain ⟨x, hx, heq⟩ := List.mem_map.mp hmem
        have hget := hnone x hx
        rw [heq, get_insert_self] at hget
        cases hget
      exact ⟨⟨⟨hnot, hnodup⟩, hnew, fun x hx => (hrest hnot x hx) ▸ hnone x hx⟩,
        ⟨hbefore, hafter⟩, hchecks⟩
    · rintro ⟨⟨⟨hnot, hnodup⟩, hnew, hnone⟩, ⟨hbefore, hafter⟩, hchecks⟩
      obtain ⟨out, hout⟩ := ih.mpr ⟨⟨hnodup, fun x hx => (hrest hnot x hx).trans (hnone x hx)⟩,
        hchecks⟩
      exact ⟨out, _, ⟨hbefore, hnew, hafter, rfl⟩, hout⟩

theorem checkDistinct_eq_ok {items : List α} {u : Unit} :
    checkDistinct key before duplicate after items = .ok u ↔
      (items.map key).Nodup ∧ ∀ item ∈ items, before item = .ok () ∧ after item = .ok () := by
  have hloop : (∃ out, items.foldlM (checkNew key before duplicate after) ∅ = .ok out) ↔ _ :=
    foldlM_checkNew
  simpa [checkDistinct] using hloop

end Distinct

/-- The values `f` computes from the entries, in key order; the first failure is returned. -/
def collect {ε β : Type} (f : κ → ν → Except ε β) (m : BTreeMap κ ν) :
    Except ε (BTreeMap κ β) :=
  m.toList.foldlM (fun acc e => do
    let b ← f e.1 e.2
    pure (acc.insert e.1 b)) ∅

variable {ε β : Type} {f : κ → ν → Except ε β} {m : BTreeMap κ ν}

/-- A collected map holds the value of each entry, and nothing else. -/
theorem get_collect {out : BTreeMap κ β} (h : collect f m = .ok out) {k : κ} {b : β} :
    out[k]? = some b ↔ ∃ v, m[k]? = some v ∧ f k v = .ok b := by
  have hinv := foldlM_induction (fun (done : List (κ × ν)) (acc : BTreeMap κ β) =>
    (∀ j c, acc[j]? = some c → ∃ v, (j, v) ∈ done ∧ f j v = .ok c) ∧
      ∀ e ∈ done, ∃ c, acc[e.1]? = some c) ⟨by simp, by simp⟩ ?_ h
  · obtain ⟨hsound, htotal⟩ := hinv
    constructor
    · intro hb
      obtain ⟨v, hv, hf⟩ := hsound k b hb
      exact ⟨v, mem_toList_iff.mp hv, hf⟩
    · rintro ⟨v, hv, hf⟩
      obtain ⟨c, hc⟩ := htotal (k, v) (mem_toList_iff.mpr hv)
      obtain ⟨w, hw, hf'⟩ := hsound k c hc
      rw [mem_toList_iff, hv, Option.some.injEq] at hw
      subst hw
      rw [hf, Except.ok.injEq] at hf'
      rw [hf']
      exact hc
  · intro done e acc acc' ⟨hsound, htotal⟩ hstep
    simp only [bind_eq_ok, pure_eq_ok, Except.ok.injEq] at hstep
    obtain ⟨c, hc, rfl⟩ := hstep
    refine ⟨fun j d hj => ?_, fun e' he' => ?_⟩
    · rcases get_insert_eq_some hj with ⟨rfl, rfl⟩ | ⟨-, hj⟩
      · exact ⟨e.2, by simp, hc⟩
      · obtain ⟨v, hv, hf⟩ := hsound j d hj
        exact ⟨v, List.mem_append_left _ hv, hf⟩
    · by_cases hkey : e'.1 = e.1
      · exact ⟨c, by rw [hkey, get_insert_self]⟩
      · rw [get_insert_ne hkey]
        rcases List.mem_append.mp he' with hmem | hmem
        · exact htotal e' hmem
        · rw [List.mem_singleton.mp hmem] at hkey
          exact absurd rfl hkey

/-- Collecting succeeds exactly when the function succeeds on every entry. -/
theorem collect_ok : (∃ out, collect f m = .ok out) ↔ ∀ k v, m[k]? = some v → ∃ b, f k v = .ok b := by
  constructor
  · rintro ⟨out, h⟩ k v hv
    have hinv := foldlM_induction (fun (done : List (κ × ν)) (_ : BTreeMap κ β) =>
      ∀ e ∈ done, ∃ c, f e.1 e.2 = .ok c) (by simp) ?_ h
    · exact hinv (k, v) (mem_toList_iff.mpr hv)
    · intro done e acc acc' hdone hstep e' he'
      simp only [bind_eq_ok] at hstep
      obtain ⟨c, hc, -⟩ := hstep
      rcases List.mem_append.mp he' with hmem | hmem
      · exact hdone e' hmem
      · rw [List.mem_singleton.mp hmem]
        exact ⟨c, hc⟩
  · intro h
    refine foldlM_total _ fun acc e he => ?_
    obtain ⟨b, hb⟩ := h e.1 e.2 (mem_toList_iff.mp he)
    exact ⟨acc.insert e.1 b, by rw [hb]; rfl⟩

end TapLdk.LibraryMaps
