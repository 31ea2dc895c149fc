import Mathlib
import TapLdk.MssmtProofs

/-! Proofs that a verifier accepts against a tree's root: the leaf is the tree's own, or the
messages hashed along the proof and along the tree hold a SHA-256 collision. -/
namespace TapLdk.MssmtSoundness
open TapLdk.LibraryExcept TapLdk.LibraryBytes TapLdk.LibrarySha256 TapLdk.LibrarySparseTree
open TapLdk.Mssmt TapLdk.MssmtLevels TapLdk.MssmtNaive TapLdk.MssmtOperations TapLdk.MssmtProofs

/-- What a leaf node hashes. -/
def leafMessage (leaf : MssmtLeaf) : Bytes := leaf.value ++ u64Bytes leaf.sum

/-- What a branch node hashes. -/
def branchMessage (left right : MssmtNode) (sum : UInt64) : Bytes :=
  left.hash.bytes ++ right.hash.bytes ++ u64Bytes sum

/-- The child hash inside the message of a branch. -/
def childHash (side : Bool) (message : Bytes) : Bytes :=
  if side then (message.drop 32).take 32 else message.take 32

/-- A step of the verifier that also keeps the message it hashes. -/
def recordStep (key : Bytes32) (state : MssmtNode × List Bytes) (entry : MssmtNode × ℕ) :
    Except MssmtError (MssmtNode × List Bytes) := do
  let node ← MssmtProof.stepUp key state.1 entry
  let depth := maxTreeLevels - 1 - entry.2
  let message :=
    if keyBit key depth then branchMessage entry.1 state.1 node.sum
    else branchMessage state.1 entry.1 node.sum
  pure (node, message :: state.2)

/-- The messages that the verifier hashes, the root's first. -/
def messages (proof : MssmtProof) (key : Bytes32) (leaf : MssmtLeaf) :
    Except MssmtError (List Bytes) := do
  let state ← proof.siblings.zipIdx.foldlM (recordStep key) (leaf.node, [leafMessage leaf])
  pure state.2

/-- Two messages with one digest, from a proof and a tree. -/
def extractCollision (tree : MssmtTree) (claimed : MssmtProof) (key : Bytes32) (leaf : MssmtLeaf) :
    Option (Bytes × Bytes) := do
  let above ← (messages claimed key leaf).toOption
  let stored ← (messages (proof tree key) key (leafAt tree key)).toOption
  firstCollision (fun message => (sha256 message).bytes) above stored

/-- The sides of a key's path below a depth. -/
def sides (key : Bytes32) (depth count : ℕ) : List Bool :=
  (List.range' depth count).map (keyBit key)

abbrev LinkedFrom (key : Bytes32) (depth count : ℕ) (path : List Bytes) : Prop :=
  Linked (fun message => (sha256 message).bytes) childHash (sides key depth count) path

theorem childHash_left (left right : MssmtNode) (sum : UInt64) :
    childHash false (branchMessage left right sum) = left.hash.bytes := by
  rw [childHash, if_neg (by simp), branchMessage, List.append_assoc]
  exact List.take_left' left.hash.length_eq

theorem childHash_right (left right : MssmtNode) (sum : UInt64) :
    childHash true (branchMessage left right sum) = right.hash.bytes := by
  rw [childHash, if_pos rfl, branchMessage, List.append_assoc, List.drop_left' left.hash.length_eq]
  exact List.take_left' right.hash.length_eq

theorem branchNode_hash {left right node : MssmtNode} (h : branchNode left right = .ok node) :
    node.hash = sha256 (branchMessage left right node.sum) := by
  simp only [branchNode, bind_eq_ok, pure_eq_ok, Except.ok.injEq] at h
  obtain ⟨sum, -, rfl⟩ := h
  rfl

theorem leafMessage_inj {leaf leaf' : MssmtLeaf} (h : leafMessage leaf = leafMessage leaf') :
    leaf = leaf' := by
  obtain ⟨hvalue, hsum⟩ := List.append_inj' h (by simp)
  cases leaf
  cases leaf'
  simp only [u64Bytes_inj] at hsum
  rw [MssmtLeaf.mk.injEq]
  exact ⟨hvalue, hsum⟩

/-- The messages of a path hash into each other from its top to its leaf. -/
structure Recorded (key : Bytes32) (leaf : MssmtLeaf) (depth count : ℕ)
    (state : MssmtNode × List Bytes) : Prop where
  path : ∃ top rest, state.2 = top :: rest ∧ sha256 top = state.1.hash
  linked : LinkedFrom key depth count state.2
  last : state.2.getLast? = some (leafMessage leaf)

theorem recorded_step {key : Bytes32} {leaf : MssmtLeaf} {depth count : ℕ}
    {state state' : MssmtNode × List Bytes} {entry : MssmtNode × ℕ}
    (hdepth : maxTreeLevels - 1 - entry.2 = depth)
    (h : Recorded key leaf (depth + 1) count state) (hstep : recordStep key state entry = .ok state') :
    Recorded key leaf depth (count + 1) state' ∧
      MssmtProof.stepUp key state.1 entry = .ok state'.1 := by
  obtain ⟨top, rest, hpath, htop⟩ := h.path
  simp only [recordStep, hdepth, bind_eq_ok, pure_eq_ok, Except.ok.injEq] at hstep
  obtain ⟨node, hnode, rfl⟩ := hstep
  refine ⟨?_, hnode⟩
  have hup := hnode
  simp only [MssmtProof.stepUp, hdepth] at hup
  have hlinked := h.linked
  have hlast := h.last
  rw [hpath] at hlinked hlast
  have hsides : sides key depth (count + 1) = keyBit key depth :: sides key (depth + 1) count := by
    simp [sides, List.range'_succ]
  cases hbit : keyBit key depth with
  | false =>
    rw [if_pos (keyBit_eq_false.mp hbit)] at hup
    refine ⟨⟨_, _, rfl, (branchNode_hash hup).symm⟩, ?_, ?_⟩
    · rw [LinkedFrom, hsides, hpath, hbit]
      exact ⟨(congrArg FixedBytes.bytes htop).trans (childHash_left _ _ _).symm, hlinked⟩
    · rw [hpath, List.getLast?_cons_cons]
      exact hlast
  | true =>
    have hne : bitAt key depth ≠ 0 := fun hzero => by
      rw [keyBit_eq_false.mpr hzero] at hbit
      cases hbit
    rw [if_neg hne] at hup
    refine ⟨⟨_, _, rfl, (branchNode_hash hup).symm⟩, ?_, ?_⟩
    · rw [LinkedFrom, hsides, hpath, hbit]
      exact ⟨(congrArg FixedBytes.bytes htop).trans (childHash_right _ _ _).symm, hlinked⟩
    · rw [hpath, List.getLast?_cons_cons]
      exact hlast

/-- A verified proof has a path of messages from the root down to the leaf. -/
theorem messages_spec {claimed : MssmtProof} {key : Bytes32} {leaf : MssmtLeaf} {root : MssmtNode}
    (h : claimed.rootFor key leaf = .ok root) :
    ∃ top rest, messages claimed key leaf = .ok (top :: rest) ∧ sha256 top = root.hash ∧
      LinkedFrom key 0 maxTreeLevels (top :: rest) ∧
      (top :: rest).getLast? = some (leafMessage leaf) := by
  simp only [MssmtProof.rootFor, bind_eq_ok, rejectIf_eq_ok, exists_const, ne_eq, not_not] at h
  obtain ⟨hlength, hroot⟩ := h
  have hfold := foldlM_cases (recordStep key) claimed.siblings.zipIdx
    (leaf.node, [leafMessage leaf])
    (fun done state => done.foldlM (MssmtProof.stepUp key) leaf.node = .ok state.1 ∧
      ∀ depth, depth + done.length = maxTreeLevels → Recorded key leaf depth done.length state)
    (fun _ => False)
    ⟨rfl, fun depth _ => ⟨⟨_, [], rfl, rfl⟩, trivial, rfl⟩⟩
    (fun done entry rest state hsplit hstate => by
      obtain ⟨hindex, hlt, -⟩ := zipIdx_split hsplit
      have hfolded := hroot
      rw [hsplit, List.foldlM_append, hstate.1, ok_bind, List.foldlM_cons] at hfolded
      simp only [bind_eq_ok] at hfolded
      obtain ⟨node, hnode, -⟩ := hfolded
      obtain ⟨state', hstep⟩ : ∃ state', recordStep key state entry = .ok state' :=
        ⟨_, by rw [recordStep, hnode, ok_bind]; rfl⟩
      have hrecorded (depth : ℕ) (hdepth : depth + (done.length + 1) = maxTreeLevels) :=
        recorded_step (show maxTreeLevels - 1 - entry.2 = depth by omega)
          (hstate.2 (depth + 1) (by omega)) hstep
      have hup := (hrecorded (maxTreeLevels - (done.length + 1)) (by omega)).2
      refine .inl ⟨state', hstep, by rw [foldlM_concat, hstate.1, ok_bind, hup], fun depth hdepth => ?_⟩
      rw [List.length_append, List.length_singleton] at hdepth ⊢
      exact (hrecorded depth hdepth).1)
  rcases hfold with ⟨state, hok, hnode, hall⟩ | ⟨_, _, hfalse⟩
  · obtain ⟨⟨top, rest, hpath, htop⟩, hlinked, hlast⟩ :=
      hall 0 (by rw [List.length_zipIdx, hlength, Nat.zero_add])
    rw [List.length_zipIdx, hlength, hpath] at hlinked
    rw [hpath] at hlast
    rw [hroot, Except.ok.injEq] at hnode
    refine ⟨top, rest, ?_, by rw [htop, hnode], hlinked, hlast⟩
    rw [messages, hok, ok_bind, hpath]
    rfl
  · exact hfalse.elim

/-- A leaf from which a proof recomputes the root of a tree is the leaf of the tree at that key,
or the proof and the tree yield a collision. -/
theorem leafAt_or_collision {tree : MssmtTree} (hre : Rebuilt tree) {claimed : MssmtProof}
    {key : Bytes32} {leaf : MssmtLeaf} (hroot : claimed.rootFor key leaf = .ok tree.root) :
    leafAt tree key = leaf ∨
      ∃ x y, extractCollision tree claimed key leaf = some (x, y) ∧ Collision x y := by
  obtain ⟨top, rest, habove, htop, hlinked, hlast⟩ := messages_spec hroot
  obtain ⟨top', rest', hstored, htop', hlinked', hlast'⟩ := messages_spec (rootFor_proof hre key)
  have hhash : (sha256 top).bytes = (sha256 top').bytes := by rw [htop, htop']
  rcases paths_eq_or_collision hlinked hlinked' hhash with heq | hcollision
  · left
    rw [heq, hlast', Option.some.injEq] at hlast
    exact leafMessage_inj hlast
  · right
    obtain ⟨⟨x, y⟩, hxy⟩ := Option.isSome_iff_exists.mp hcollision
    obtain ⟨hne, hsame⟩ := firstCollision_spec hxy
    refine ⟨x, y, ?_, hne, FixedBytes.ext hsame⟩
    rw [extractCollision, habove, hstored]
    exact hxy

/-- A leaf that verifies against the root of a tree is the leaf of the tree at that key, and
empty exactly where the tree has none, or the proof and the tree yield a collision. -/
theorem proof_sound {tree : MssmtTree} (hbuilt : Built tree) {claimed : MssmtProof}
    {key : Bytes32} {leaf : MssmtLeaf} (h : claimed.verify key leaf tree.root = .ok true) :
    (tree.get key).getD .empty = leaf ∧ (leaf = .empty ↔ tree.get key = none) ∨
    ∃ x y, extractCollision tree claimed key leaf = some (x, y) ∧ Collision x y := by
  obtain ⟨hre, hfull⟩ := built_spec hbuilt
  simp only [MssmtProof.verify, bind_eq_ok, pure_eq_ok, Except.ok.injEq, decide_eq_true_eq] at h
  obtain ⟨root, hroot, rfl⟩ := h
  refine (leafAt_or_collision hre hroot).imp_left fun hleaf => ⟨hleaf, ?_⟩
  rw [← hleaf]
  cases hget : tree.get key with
  | none => simp
  | some stored =>
    have hnonempty := hfull key stored hget
    simp only [Option.getD_some, reduceCtorEq, iff_false]
    rintro rfl
    cases hnonempty

theorem proof_sound_oneLeaf :
    (oneLeaf.get Bytes32.ZERO).getD .empty = ⟨[1], 5⟩ ∧
      ((⟨[1], 5⟩ : MssmtLeaf) = .empty ↔ oneLeaf.get Bytes32.ZERO = none) ∨
    ∃ x y, extractCollision oneLeaf (proof oneLeaf Bytes32.ZERO) Bytes32.ZERO ⟨[1], 5⟩ =
      some (x, y) ∧ Collision x y := by
  have hroot := rootFor_proof (built_spec oneLeaf_built).1 Bytes32.ZERO
  rw [leafAt, oneLeaf_get, Option.getD_some] at hroot
  exact proof_sound oneLeaf_built (by rw [MssmtProof.verify, hroot]; simp)

end TapLdk.MssmtSoundness
