import Mathlib
import TapLdk.LibraryRuns
import TapLdk.LibraryStateful
import TapLdk.MssmtNaive

/-! Runs of insertions and deletions on the Merkle-sum sparse Merkle tree, beside the map of
leaves that they leave: the tree's root is the naive root of the map. -/
namespace TapLdk.MssmtOperations
open TapLdk.LibraryExcept TapLdk.LibraryMaps TapLdk.LibraryRuns TapLdk.LibraryStateful
open TapLdk.Mssmt TapLdk.MssmtNaive

/-- The operations that change a tree in place. -/
inductive TreeOp where
  | insert (key : Bytes32) (leaf : MssmtLeaf)
  | delete (key : Bytes32)

namespace TreeOp

/-- An operation assigns the rebuilt tree, or returns before the assignment. -/
def perform : TreeOp → Stateful MssmtTree MssmtError Unit
  | insert key leaf => .transact id (fun next _ => next) id fun tree => do
    pure ((), ← tree.insert key leaf)
  | delete key => .transact id (fun next _ => next) id fun tree => do
    pure ((), ← tree.delete key)

/-- The leaves that an operation asks for: an empty leaf is no leaf. -/
def write : TreeOp → BTreeMap Bytes32 MssmtLeaf → BTreeMap Bytes32 MssmtLeaf
  | insert key leaf, leaves => if leaf.isEmpty then leaves.erase key else leaves.insert key leaf
  | delete key, leaves => leaves.erase key

/-- The tree that an operation leaves behind, whether it succeeds or fails. -/
def after (op : TreeOp) (tree : MssmtTree) : MssmtTree := (op.perform.call tree).2

end TreeOp

def treeMachine : Machine MssmtTree TreeOp where
  start := .new
  next tree op := op.after tree

/-- The leaves after a run: an operation whose sum exceeds 64 bits changes nothing. -/
def mapMachine : Machine (BTreeMap Bytes32 MssmtLeaf) TreeOp where
  start := ∅
  next leaves op := if leafTotal (op.write leaves) < 2 ^ 64 then op.write leaves else leaves

theorem rebuilt_new : Rebuilt MssmtTree.new := by
  refine ⟨by simp [MssmtTree.new], fun d hd => ?_, ?_⟩
  · have hlevel : MssmtTree.new.levels.getD d ∅ = ∅ := by
      rw [MssmtTree.new, List.getD_replicate _ (by omega)]
    rw [hlevel]
    refine ⟨fun key node hget => by simp at hget, fun key => ?_⟩
    have hentries : entriesOf MssmtTree.new.leaves = [] := by simp [MssmtTree.new, entriesOf]
    rw [hentries, MssmtLevels.nodeAt, LibrarySparseTree.Scheme.under, List.filter_nil,
      LibrarySparseTree.Scheme.node_nil, ← exact_emptySubtree]
    simp [emptyTree]
  · simp [MssmtTree.new, MssmtLevels.nodeAt]

/-- An operation rebuilds the tree over the leaves it asks for, or their sum does not fit
and it changes nothing. -/
theorem perform_cases (op : TreeOp) (tree : MssmtTree) :
    (∃ next, op.perform.call tree = (.ok (), next) ∧ next.leaves = op.write tree.leaves ∧
      Rebuilt next) ∨
    op.perform.call tree = (.error .amountOverflow, tree) ∧
      2 ^ 64 ≤ leafTotal (op.write tree.leaves) := by
  have hempty : MssmtLeaf.empty.isEmpty = true := rfl
  have hcall : op.perform.call tree = match MssmtTree.rebuild (op.write tree.leaves) with
      | .ok next => (.ok (), next)
      | .error e => (.error e, tree) := by
    cases op with
    | insert key leaf =>
      rw [TreeOp.perform, Stateful.transact, Stateful.call_ofCall, id, MssmtTree.insert,
        TreeOp.write]
      cases MssmtTree.rebuild (if leaf.isEmpty then tree.leaves.erase key
        else tree.leaves.insert key leaf) <;> rfl
    | delete key =>
      rw [TreeOp.perform, Stateful.transact, Stateful.call_ofCall, id, MssmtTree.delete,
        MssmtTree.insert, if_pos hempty, TreeOp.write]
      cases MssmtTree.rebuild (tree.leaves.erase key) <;> rfl
  rw [hcall]
  rcases rebuild_cases (op.write tree.leaves) with ⟨next, hok, hleaves, hre⟩ | ⟨herror, hover⟩
  · rw [hok]
    exact .inl ⟨next, rfl, hleaves, hre⟩
  · rw [herror]
    exact .inr ⟨rfl, hover⟩

theorem after_leaves {op : TreeOp} {tree : MssmtTree}
    (h : leafTotal (op.write tree.leaves) < 2 ^ 64) :
    (op.after tree).leaves = op.write tree.leaves := by
  rcases perform_cases op tree with ⟨next, hcall, hnext, -⟩ | ⟨-, hover⟩
  · rw [TreeOp.after, hcall, hnext]
  · omega

/-- The tree of a run is rebuilt, over the leaves of the run. -/
theorem run_rebuilt (ops : List TreeOp) :
    Rebuilt (treeMachine.run ops) ∧ (treeMachine.run ops).leaves = mapMachine.run ops := by
  induction ops using List.reverseRecOn with
  | nil => exact ⟨rebuilt_new, rfl⟩
  | append_singleton ops op ih =>
    obtain ⟨hre, hleaves⟩ := ih
    rw [Machine.run_concat, Machine.run_concat]
    change Rebuilt (op.perform.call _).2 ∧ (op.perform.call _).2.leaves =
      if leafTotal (op.write (mapMachine.run ops)) < 2 ^ 64 then _ else _
    rw [← hleaves]
    rcases perform_cases op (treeMachine.run ops) with ⟨next, hcall, hnext, hre'⟩ | ⟨hcall, hover⟩
    · rw [hcall, if_pos (hnext ▸ hre'.total_lt)]
      exact ⟨hre', hnext⟩
    · rw [hcall, if_neg (Nat.not_lt.mpr hover)]
      exact ⟨hre, rfl⟩

/-- The sum of a list of leaves. -/
def listTotal (list : List (Bytes32 × MssmtLeaf)) : ℕ := (list.map fun e => e.2.sum.toNat).sum

theorem foldlM_addLeaf {list : List (Bytes32 × MssmtLeaf)} (hnodup : (list.map (·.1)).Nodup)
    (hfull : ∀ e ∈ list, e.2.isEmpty = false) :
    list.foldlM MssmtTree.addLeaf ∅ = .ok (insertAll ∅ list) := by
  induction list using List.reverseRecOn with
  | nil => rfl
  | append_singleton list e ih =>
    rw [List.map_append, List.nodup_append] at hnodup
    have hnew : e.1 ∉ list.map (·.1) := fun hin =>
      hnodup.2.2 _ hin _ (List.mem_singleton_self _) rfl
    have hnone : (insertAll ∅ list)[e.1]? = none := by
      rw [get_insertAll_of_not_mem hnew]
      simp
    rw [foldlM_concat, ih hnodup.1 fun e he => hfull e (List.mem_append_left _ he), ok_bind,
      MssmtTree.addLeaf, hfull e (by simp), hnone, insertAll_concat]
    rfl

theorem leafTotal_insertAll {list : List (Bytes32 × MssmtLeaf)} (hnodup : (list.map (·.1)).Nodup) :
    leafTotal (insertAll ∅ list) = listTotal list := by
  have hsum := total_insertAll (f := fun _ leaf => leaf.sum.toNat) (m := ∅) hnodup (by simp)
  rw [leafTotal, hsum, total_empty]
  simp [listTotal]

/-- A list of leaves with distinct keys makes a tree exactly when its sum fits. -/
theorem fromLeaves_cases {list : List (Bytes32 × MssmtLeaf)} (hnodup : (list.map (·.1)).Nodup)
    (hfull : ∀ e ∈ list, e.2.isEmpty = false) :
    (∃ tree, MssmtTree.fromLeaves list = .ok tree ∧ tree.leaves = insertAll ∅ list ∧
      Rebuilt tree) ∨
    MssmtTree.fromLeaves list = .error .amountOverflow ∧ 2 ^ 64 ≤ listTotal list := by
  rw [MssmtTree.fromLeaves, foldlM_addLeaf hnodup hfull, ok_bind, ← leafTotal_insertAll hnodup]
  exact rebuild_cases (insertAll ∅ list)

/-- A tree that is new, made from a list of leaves, or left by an operation on such a tree. -/
inductive Built : MssmtTree → Prop where
  | new : Built .new
  | fromLeaves {list : List (Bytes32 × MssmtLeaf)} {tree : MssmtTree}
      (h : MssmtTree.fromLeaves list = .ok tree) : Built tree
  | perform {tree : MssmtTree} (op : TreeOp) (h : Built tree) : Built (op.after tree)

/-- No leaf of the map is empty. -/
def Full (leaves : BTreeMap Bytes32 MssmtLeaf) : Prop :=
  ∀ (key : Bytes32) (leaf : MssmtLeaf), leaves[key]? = some leaf → leaf.isEmpty = false

theorem full_erase {leaves : BTreeMap Bytes32 MssmtLeaf} (h : Full leaves) (key : Bytes32) :
    Full (leaves.erase key) :=
  fun key' leaf hget => h key' leaf (get_erase_eq_some hget).2

theorem full_insert {leaves : BTreeMap Bytes32 MssmtLeaf} (h : Full leaves) (key : Bytes32)
    {leaf : MssmtLeaf} (hleaf : leaf.isEmpty = false) : Full (leaves.insert key leaf) := by
  intro key' leaf' hget
  rcases get_insert_eq_some hget with ⟨-, rfl⟩ | ⟨-, hget⟩
  · exact hleaf
  · exact h key' leaf' hget

theorem full_write (op : TreeOp) {leaves : BTreeMap Bytes32 MssmtLeaf} (h : Full leaves) :
    Full (op.write leaves) := by
  cases op with
  | insert key leaf =>
    rw [TreeOp.write]
    split
    · exact full_erase h key
    · next hleaf => exact full_insert h key (Bool.eq_false_iff.mpr hleaf)
  | delete key => exact full_erase h key

theorem built_spec {tree : MssmtTree} (h : Built tree) : Rebuilt tree ∧ Full tree.leaves := by
  induction h with
  | new => exact ⟨rebuilt_new, fun key leaf hget => by simp [MssmtTree.new] at hget⟩
  | @fromLeaves list tree h =>
    simp only [MssmtTree.fromLeaves, bind_eq_ok] at h
    obtain ⟨leaves, hleaves, hre⟩ := h
    have hfull := foldlM_induction (fun _ leaves => Full leaves)
      (fun key leaf hget => by simp at hget)
      (fun done e leaves leaves' hold hadd => by
        simp only [MssmtTree.addLeaf, bind_eq_ok, rejectIf_eq_ok, exists_const, pure_eq_ok,
          Except.ok.injEq] at hadd
        obtain ⟨hleaf, -, rfl⟩ := hadd
        exact full_insert hold e.1 (Bool.eq_false_iff.mpr hleaf)) hleaves
    rcases rebuild_cases leaves with ⟨tree', hok, hsame, hre'⟩ | ⟨herror, -⟩
    · rw [hok] at hre
      cases hre
      exact ⟨hre', hsame ▸ hfull⟩
    · rw [herror] at hre
      cases hre
  | perform op _ ih =>
    rcases perform_cases op _ with ⟨next, hcall, hnext, hre⟩ | ⟨hcall, -⟩
    · rw [TreeOp.after, hcall]
      exact ⟨hre, hnext ▸ full_write op ih.2⟩
    · rw [TreeOp.after, hcall]
      exact ih

/-- After any run, the tree is the naive tree over the leaves of the run: its root, its exact
sum, the operations that overflow, and the trees made from a list at once. -/
theorem tree_refines_naive (ops : List TreeOp) :
    let tree := treeMachine.run ops
    let leaves := mapMachine.run ops
    tree.leaves = leaves ∧ exact tree.root = naiveRoot leaves ∧
    tree.root.sum.toNat = leafTotal leaves ∧
    (∀ op : TreeOp, ((op.perform.call tree).1 = .error .amountOverflow ↔
        2 ^ 64 ≤ leafTotal (op.write leaves)) ∧
      ∀ e, (op.perform.call tree).1 = .error e →
        e = .amountOverflow ∧ (op.perform.call tree).2 = tree) ∧
    (∀ others, mapMachine.run others = leaves → (treeMachine.run others).root = tree.root) ∧
    ∀ list, (list.map (·.1)).Nodup → (∀ e ∈ list, e.2.isEmpty = false) →
      (MssmtTree.fromLeaves list = .error .amountOverflow ↔ 2 ^ 64 ≤ listTotal list) ∧
      (listTotal list < 2 ^ 64 ↔ ∃ built, MssmtTree.fromLeaves list = .ok built) ∧
      ∀ built, MssmtTree.fromLeaves list = .ok built → built.leaves = insertAll ∅ list ∧
        exact built.root = naiveRoot (insertAll ∅ list) ∧
        built.root.sum.toNat = listTotal list := by
  intro tree leaves
  obtain ⟨hre, hleaves⟩ : Rebuilt tree ∧ tree.leaves = leaves := run_rebuilt ops
  refine ⟨hleaves, hleaves ▸ hre.naive, hleaves ▸ hre.sum, fun op => ?_, fun others h => ?_,
    fun list hnodup hfull => ?_⟩
  · rw [← hleaves]
    rcases perform_cases op tree with ⟨next, hcall, hnext, hre'⟩ | ⟨hcall, hover⟩
    · have hlt := hre'.total_lt
      rw [hnext] at hlt
      rw [hcall]
      refine ⟨⟨fun h => by simp at h, fun h => by omega⟩, fun e h => by simp at h⟩
    · rw [hcall]
      refine ⟨⟨fun _ => hover, fun _ => rfl⟩, fun e h => ⟨?_, rfl⟩⟩
      simpa using h.symm
  · obtain ⟨hre', hleaves'⟩ := run_rebuilt others
    apply hre'.root_eq hre
    rw [hleaves', h, hleaves]
  · rcases fromLeaves_cases hnodup hfull with ⟨built, hok, hbuilt, hre'⟩ | ⟨herror, hover⟩
    · have htotal : leafTotal built.leaves = listTotal list := by
        rw [hbuilt, leafTotal_insertAll hnodup]
      have hlt := hre'.total_lt
      rw [htotal] at hlt
      rw [hok]
      refine ⟨⟨fun h => by simp at h, fun h => by omega⟩, ⟨fun _ => ⟨built, rfl⟩, fun _ => hlt⟩,
        fun tree' h => ?_⟩
      obtain rfl : built = tree' := by simpa using h
      exact ⟨hbuilt, hbuilt ▸ hre'.naive, htotal ▸ hre'.sum⟩
    · rw [herror]
      refine ⟨⟨fun _ => hover, fun _ => rfl⟩, ⟨fun h => by omega, fun h => ?_⟩, fun _ h => ?_⟩
      · obtain ⟨_, h⟩ := h
        cases h
      · cases h

end TapLdk.MssmtOperations
