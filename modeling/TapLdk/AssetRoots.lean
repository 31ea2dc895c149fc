import Mathlib
import TapLdk.Asset
import TapLdk.MssmtOperations

/-! The hash-sum root of a list of asset leaves does not depend on the order of the list, its
sum is the sum of the amounts, and it exists exactly when that sum fits in 64 bits. -/
namespace TapLdk.AssetRoots
open Std
open TapLdk.LibraryExcept TapLdk.LibraryBytes TapLdk.LibrarySha256
open TapLdk.Mssmt TapLdk.MssmtOperations TapLdk.Asset

theorem compareLeaf_eq : compareLeaf = compareLex (compareOn AssetLeaf.assetId)
    (compareLex (compareOn AssetLeaf.scriptKey) (compareOn AssetLeaf.amount)) := rfl

instance : TransCmp compareLeaf := compareLeaf_eq ▸ inferInstance

theorem eq_of_compareLeaf {a b : AssetLeaf} (h : compareLeaf a b = .eq) : a = b := by
  simp only [compareLeaf, Ordering.then_eq_eq] at h
  obtain ⟨hasset, hkey, hamount⟩ := h
  cases a
  cases b
  congr
  · exact LawfulEqOrd.eq_of_compare hasset
  · exact LawfulEqOrd.eq_of_compare hkey
  · exact LawfulEqOrd.eq_of_compare hamount

abbrev ByLeaf (a b : AssetLeaf) : Prop := (compareLeaf a b).isLE

instance : Std.Total ByLeaf where
  total a b := by
    unfold ByLeaf
    have hswap : compareLeaf b a = (compareLeaf a b).swap := OrientedCmp.eq_swap
    rw [hswap]
    cases compareLeaf a b <;> simp

instance : IsTrans AssetLeaf ByLeaf := ⟨fun _ _ _ => TransCmp.isLE_trans⟩

instance : Std.Antisymm ByLeaf :=
  ⟨fun _ _ h h' => eq_of_compareLeaf (OrientedCmp.isLE_antisymm h h')⟩

/-- The leaves in the order in which they are numbered. -/
def sortLeaves (leaves : List AssetLeaf) : List AssetLeaf := leaves.insertionSort ByLeaf

theorem sortLeaves_perm (leaves : List AssetLeaf) : (sortLeaves leaves).Perm leaves :=
  List.perm_insertionSort ..

/-- The sorted list does not depend on the order of the list. -/
theorem sortLeaves_eq {leaves leaves' : List AssetLeaf} (h : leaves.Perm leaves') :
    sortLeaves leaves' = sortLeaves leaves := by
  have hperm : (sortLeaves leaves').Perm (sortLeaves leaves) :=
    (sortLeaves_perm leaves').trans (h.symm.trans (sortLeaves_perm leaves).symm)
  exact List.Perm.eq_of_pairwise' (List.pairwise_insertionSort ByLeaf leaves')
    (List.pairwise_insertionSort ByLeaf leaves) hperm

/-- What the key of a numbered leaf is the hash of. -/
def leafKeyMessage (entry : AssetLeaf × ℕ) : Bytes :=
  utf8 "tap-ldk:synthetic-asset-mssmt-key:v1" ++ entry.1.assetId.bytes ++
    entry.1.scriptKey.bytes ++ u64Bytes entry.1.amount ++ beBytes 8 entry.2

/-- The messages that the keys of the leaves of a root are the hashes of. -/
def leafKeyMessages (leaves : List AssetLeaf) : List Bytes :=
  (sortLeaves leaves).zipIdx.map leafKeyMessage

/-- The leaf of the tree for a numbered leaf of the root. -/
def treeLeaf (entry : AssetLeaf × ℕ) : Bytes32 × MssmtLeaf :=
  (syntheticAssetLeafKey entry.1 entry.2, mssmtLeafOf entry.1)

def totalAmount (leaves : List AssetLeaf) : ℕ := (leaves.map fun l => l.amount.toNat).sum

theorem totalAmount_sortLeaves (leaves : List AssetLeaf) :
    totalAmount (sortLeaves leaves) = totalAmount leaves :=
  ((sortLeaves_perm leaves).map _).sum_eq

/-- A list of nonzero amounts is no longer than their sum. -/
theorem length_le_totalAmount {leaves : List AssetLeaf}
    (hnonzero : ∀ leaf ∈ leaves, leaf.amount ≠ 0) : leaves.length ≤ totalAmount leaves := by
  induction leaves with
  | nil => simp [totalAmount]
  | cons leaf leaves ih =>
    have hrest := ih fun l hl => hnonzero l (List.mem_cons_of_mem _ hl)
    have hpos : leaf.amount.toNat ≠ 0 := fun h =>
      hnonzero leaf (List.mem_cons_self ..) (UInt64.toNat_inj.mp h)
    simp only [totalAmount, List.length_cons, List.map_cons, List.sum_cons] at hrest ⊢
    omega

theorem listTotal_treeLeaf (entries : List (AssetLeaf × ℕ)) :
    listTotal (entries.map treeLeaf) = totalAmount (entries.map (·.1)) := by
  simp only [listTotal, totalAmount, List.map_map]
  rfl

/-- Two numbered leaves with one message have one number. -/
theorem index_of_message {entry entry' : AssetLeaf × ℕ} (hindex : entry.2 < 2 ^ 64)
    (hindex' : entry'.2 < 2 ^ 64) (h : leafKeyMessage entry = leafKeyMessage entry') :
    entry.2 = entry'.2 := by
  have hlast := List.append_inj_right' h (by simp)
  exact beBytes_inj hindex hindex' hlast

/-- The keys of the tree are distinct, also for equal leaves. -/
theorem treeKeys_nodup {sorted : List AssetLeaf} (hlength : sorted.length < 2 ^ 64)
    (hfree : CollisionFree (sorted.zipIdx.map leafKeyMessage)) :
    ((sorted.zipIdx.map treeLeaf).map (·.1)).Nodup := by
  have hindexes : (sorted.zipIdx.map (·.2)).Nodup := by
    rw [List.zipIdx_map_snd]
    exact List.nodup_range'
  rw [List.map_map]
  refine hindexes.of_map _ |>.map_on fun entry hentry entry' hentry' hkey => ?_
  have hlt : ∀ e ∈ sorted.zipIdx, e.2 < 2 ^ 64 := fun e he =>
    ((List.mem_zipIdx he).2.1.trans_eq (Nat.zero_add _)).trans hlength
  have hmessage := hfree.eq (List.mem_map_of_mem hentry) (List.mem_map_of_mem hentry') hkey
  exact List.inj_on_of_nodup_map hindexes hentry hentry'
    (index_of_message (hlt entry hentry) (hlt entry' hentry') hmessage)

/-- The checked sum fails exactly on the sums that do not fit. -/
theorem sumAmounts_cases (leaves : List AssetLeaf) :
    (∃ sum, sumAmounts leaves = .ok sum ∧ sum.toNat = totalAmount leaves) ∨
    sumAmounts leaves = .error .amountOverflow ∧ 2 ^ 64 ≤ totalAmount leaves := by
  have hcases := foldlM_cases (fun sum (leaf : AssetLeaf) => addAmount sum leaf.amount) leaves 0
    (fun done sum => sum.toNat = totalAmount done)
    (fun e => e = .amountOverflow ∧ 2 ^ 64 ≤ totalAmount leaves) rfl ?_
  · rcases hcases with hok | ⟨e, herror, rfl, hover⟩
    · exact .inl hok
    · exact .inr ⟨herror, hover⟩
  intro done leaf rest sum hleaves hsum
  have hsplit : totalAmount leaves = totalAmount done + leaf.amount.toNat + totalAmount rest := by
    simp [totalAmount, hleaves, Nat.add_assoc]
  by_cases hfits : sum.toNat + leaf.amount.toNat < 2 ^ 64
  · refine .inl ⟨sum + leaf.amount, ?_, ?_⟩
    · rw [addAmount, checkedAdd, if_pos hfits, okOr]
    · rw [UInt64.toNat_add, Nat.mod_eq_of_lt hfits, hsum]
      simp [totalAmount]
  · refine .inr ⟨.amountOverflow, ?_, rfl, by omega⟩
    rw [addAmount, checkedAdd, if_neg hfits, okOr]

theorem deriveHashSumRoot_eq (leaves : List AssetLeaf) : deriveHashSumRoot leaves = (do
    let sum ← sumAmounts (sortLeaves leaves)
    let tree ← (MssmtTree.fromLeaves ((sortLeaves leaves).zipIdx.map treeLeaf)).mapError .mssmt
    pure ⟨tree.root.hash, sum⟩) := rfl

theorem deriveHashSumRoot_perm {leaves leaves' : List AssetLeaf} (h : leaves.Perm leaves') :
    deriveHashSumRoot leaves' = deriveHashSumRoot leaves := by
  rw [deriveHashSumRoot_eq, deriveHashSumRoot_eq, sortLeaves_eq h]

/-- A root exists exactly when the sum of the amounts fits. -/
theorem deriveHashSumRoot_cases {leaves : List AssetLeaf}
    (hnonzero : ∀ leaf ∈ leaves, leaf.amount ≠ 0)
    (hfree : CollisionFree (leafKeyMessages leaves)) :
    (∃ root, deriveHashSumRoot leaves = .ok root ∧ totalAmount leaves < 2 ^ 64) ∨
    deriveHashSumRoot leaves = .error .amountOverflow ∧ 2 ^ 64 ≤ totalAmount leaves := by
  have htotal := totalAmount_sortLeaves leaves
  rw [deriveHashSumRoot_eq]
  rcases sumAmounts_cases (sortLeaves leaves) with ⟨sum, hok, hsum⟩ | ⟨herror, hover⟩
  · have hfits : totalAmount leaves < 2 ^ 64 := by
      rw [← htotal, ← hsum]
      exact sum.toNat_lt
    have hlength : (sortLeaves leaves).length < 2 ^ 64 := by
      rw [(sortLeaves_perm leaves).length_eq]
      exact (length_le_totalAmount hnonzero).trans_lt hfits
    have hfull : ∀ e ∈ (sortLeaves leaves).zipIdx.map treeLeaf, e.2.isEmpty = false := by
      intro e he
      obtain ⟨entry, hentry, rfl⟩ := List.mem_map.mp he
      have hin : entry.1 ∈ leaves :=
        (sortLeaves_perm leaves).mem_iff.mp (List.fst_mem_of_mem_zipIdx hentry)
      simp [treeLeaf, mssmtLeafOf, MssmtLeaf.isEmpty, hnonzero _ hin]
    have htree := fromLeaves_cases (treeKeys_nodup hlength hfree) hfull
    rw [listTotal_treeLeaf, List.zipIdx_map_fst, htotal] at htree
    rcases htree with ⟨tree, htree, -⟩ | ⟨-, hover⟩
    · rw [hok, htree]
      exact .inl ⟨_, rfl, hfits⟩
    · omega
  · rw [herror]
    exact .inr ⟨rfl, htotal ▸ hover⟩

/-- The root of leaves with nonzero amounts, in any order: it exists exactly when the sum of
the amounts fits, it has that sum, and an accepted split has the amount of its input. -/
theorem hashSumRoot_exact (leaves : List AssetLeaf)
    (hnonzero : ∀ leaf ∈ leaves, leaf.amount ≠ 0)
    (hfree : CollisionFree (leafKeyMessages leaves)) :
    (∀ leaves', leaves.Perm leaves' → deriveHashSumRoot leaves' = deriveHashSumRoot leaves) ∧
    (∀ root, deriveHashSumRoot leaves = .ok root → root.sum.toNat = totalAmount leaves) ∧
    ((∃ root, deriveHashSumRoot leaves = .ok root) ↔ totalAmount leaves < 2 ^ 64) ∧
    (deriveHashSumRoot leaves = .error .amountOverflow ↔ 2 ^ 64 ≤ totalAmount leaves) ∧
    ∀ inputAmount root, validateSplitConservation inputAmount leaves = .ok root →
      deriveHashSumRoot leaves = .ok root ∧ root.sum = inputAmount ∧
        totalAmount leaves = inputAmount.toNat := by
  refine ⟨fun _ => deriveHashSumRoot_perm, fun _ => deriveHashSumRoot_sum, ?_, ?_, ?_⟩
  · rcases deriveHashSumRoot_cases hnonzero hfree with ⟨root, hok, hfits⟩ | ⟨herror, hover⟩
    · exact ⟨fun _ => hfits, fun _ => ⟨root, hok⟩⟩
    · refine ⟨?_, fun hfits => absurd hover (Nat.not_le.mpr hfits)⟩
      rintro ⟨root, hok⟩
      rw [herror] at hok
      cases hok
  · rcases deriveHashSumRoot_cases hnonzero hfree with ⟨root, hok, hfits⟩ | ⟨herror, hover⟩
    · refine ⟨fun herror => ?_, fun hover => absurd hfits (Nat.not_lt.mpr hover)⟩
      rw [hok] at herror
      cases herror
    · exact ⟨fun _ => hover, fun _ => herror⟩
  · intro inputAmount root h
    simp only [validateSplitConservation, bind_eq_ok, rejectIf_eq_ok, pure_eq_ok,
      Except.ok.injEq, exists_const] at h
    obtain ⟨root, hroot, hsum, rfl⟩ := h
    have hamount : root.sum = inputAmount := not_not.mp hsum
    exact ⟨hroot, hamount, hamount ▸ (deriveHashSumRoot_sum hroot).symm⟩

/-- Three units under one key. -/
def repeatedLeaf : AssetLeaf := ⟨.zero 32, .zero 33, 3⟩

theorem repeatedLeaf_collisionFree : CollisionFree (leafKeyMessages [repeatedLeaf, repeatedLeaf]) := by
  unfold CollisionFree
  decide +kernel

/-- The same leaf twice has a root, of the sum of both. -/
theorem hashSumRoot_exact_repeated :
    ∃ root, deriveHashSumRoot [repeatedLeaf, repeatedLeaf] = .ok root ∧ root.sum.toNat = 6 := by
  have hnonzero : ∀ leaf ∈ [repeatedLeaf, repeatedLeaf], leaf.amount ≠ 0 := by decide
  obtain ⟨-, hsum, hok, -⟩ := hashSumRoot_exact _ hnonzero repeatedLeaf_collisionFree
  obtain ⟨root, hroot⟩ := hok.mpr (by decide)
  exact ⟨root, hroot, hsum root hroot⟩

end TapLdk.AssetRoots
