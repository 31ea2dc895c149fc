import Mathlib
import TapLdk.TapVmFixture

/-! What an accepted virtual transition has spent: its inputs against its witnesses, and its
output amounts against its input amounts. -/
namespace TapLdk.TapVmTransfer
open TapLdk.LibraryExcept TapLdk.LibraryBytes TapLdk.LibrarySha256 TapLdk.Mssmt
open TapLdk.Asset (bytes32FromStr toHex CompressedKey)
open TapLdk.TapVm TapLdk.TapVmFixture

def inputTotal (c : TapVmFixtureCase) : ℕ := (c.inputSet.map (·.asset.amount.toNat)).sum

def outputTotal (c : TapVmFixtureCase) : ℕ :=
  if c.splitSet = [] then c.asset.amount.toNat else (c.splitSet.map (·.key.amount.toNat)).sum

/-- The amount of the first input with a previous id. -/
def spentAmount (inputs : List TapVmInput) (prevId : TapVmPrevId) : ℕ :=
  ((inputs.find? fun input => input.prevId = prevId).map (·.asset.amount.toNat)).getD 0

/-- The total over the distinct previous ids. -/
def distinctTotal (c : TapVmFixtureCase) : ℕ :=
  ((c.inputSet.map (·.prevId)).dedup.map (spentAmount c.inputSet)).sum

theorem spentAmount_of_nodup {inputs : List TapVmInput} (h : (inputs.map (·.prevId)).Nodup)
    {input : TapVmInput} (hmem : input ∈ inputs) :
    spentAmount inputs input.prevId = input.asset.amount.toNat := by
  induction inputs with
  | nil => cases hmem
  | cons first rest ih =>
    rw [List.map_cons, List.nodup_cons] at h
    rcases List.mem_cons.mp hmem with rfl | hrest
    · simp [spentAmount]
    · have hne : first.prevId ≠ input.prevId := fun heq =>
        h.1 (heq ▸ List.mem_map_of_mem hrest)
      rw [spentAmount, List.find?_cons_of_neg (by simpa using hne)]
      exact ih h.2 hrest

/-- Without repeated previous ids, the total over the distinct ones is the input total. -/
theorem distinctTotal_of_nodup {c : TapVmFixtureCase} (h : (c.inputSet.map (·.prevId)).Nodup) :
    distinctTotal c = inputTotal c := by
  have hamounts : c.inputSet.map (fun input => spentAmount c.inputSet input.prevId) =
      c.inputSet.map (·.asset.amount.toNat) :=
    List.map_congr_left fun input hinput => spentAmount_of_nodup h hinput
  rw [distinctTotal, h.dedup, List.map_map, inputTotal, ← hamounts]
  rfl

section

variable {ripemd160 : Bytes → FixedBytes 20} {c : TapVmFixtureCase}
variable {witnesses : List TapVmPrevWitness}

/-- An input of the asset's kind whose previous id has a witness that passes. -/
structure InputPasses (ripemd160 : Bytes → FixedBytes 20) (c : TapVmFixtureCase)
    (witnesses : List TapVmPrevWitness) (input : TapVmInput) : Prop where
  shape : validateAssetShape input.asset = .ok ()
  definition : sameAssetDefinition c.asset input.asset = true
  witness : ∃ witness ∈ witnesses, witness.prevId = input.prevId ∧
    ∃ stack, witness.txWitness = some stack ∧ validateWitnessStack ripemd160 stack = .ok ()

theorem checkInput_spec {checked next : UInt64 × ℕ} {input : TapVmInput}
    (h : c.checkInput ripemd160 witnesses checked input = .ok next) :
    InputPasses ripemd160 c witnesses input ∧
      next.1.toNat = checked.1.toNat + input.asset.amount.toNat ∧ next.2 = checked.2 + 1 := by
  simp only [TapVmFixtureCase.checkInput, bind_eq_ok, rejectIf_eq_ok, okOr_eq_ok,
    checkedAdd_eq_some, pure_eq_ok, Except.ok.injEq, Bool.not_eq_true, Bool.not_eq_false] at h
  obtain ⟨_, hshape, _, hdefinition, witness, hwitness, stack, hstack, _, hpasses, total, htotal,
    rfl⟩ := h
  have hprev : witness.prevId = input.prevId := by
    simpa using List.find?_some hwitness
  exact ⟨⟨hshape, hdefinition, witness, List.mem_of_find?_eq_some hwitness, hprev, stack, hstack,
    hpasses⟩, htotal, rfl⟩

/-- The loop over the inputs adds up exactly. -/
theorem checkInputs_spec {checked : UInt64 × ℕ}
    (h : c.inputSet.foldlM (c.checkInput ripemd160 witnesses) (0, 0) = .ok checked) :
    (∀ input ∈ c.inputSet, InputPasses ripemd160 c witnesses input) ∧
      checked.1.toNat = inputTotal c ∧ checked.2 = c.inputSet.length := by
  have hloop := foldlM_induction
    (fun done (checked : UInt64 × ℕ) =>
      (∀ input ∈ done, InputPasses ripemd160 c witnesses input) ∧
        checked.1.toNat = (done.map (·.asset.amount.toNat)).sum ∧ checked.2 = done.length)
    (by simp) (fun done input checked next hdone hstep => by
      obtain ⟨hpasses, htotal, hcount⟩ := checkInput_spec hstep
      obtain ⟨hall, hsum, hlength⟩ := hdone
      refine ⟨fun other hother => ?_, ?_, ?_⟩
      · rcases List.mem_append.mp hother with hold | hnew
        · exact hall other hold
        · rw [List.mem_singleton.mp hnew]
          exact hpasses
      · simp [htotal, hsum]
      · simp [hcount, hlength]) h
  exact hloop

theorem checkSplit_spec {assetId : Bytes32} {root : TapVmRoot} {checked next : UInt64 × Bool}
    {split : TapVmSplit} (h : c.checkSplit assetId root checked split = .ok next) :
    split.validate c.asset assetId root = .ok () ∧
      next.1.toNat = checked.1.toNat + split.key.amount.toNat ∧
      (next.2 = true → checked.2 = true ∨ isTopLevelLocator c.asset assetId split = .ok true) := by
  simp only [TapVmFixtureCase.checkSplit, bind_eq_ok, okOr_eq_ok, checkedAdd_eq_some, pure_eq_ok,
    Except.ok.injEq] at h
  obtain ⟨_, hvalid, total, htotal, found, hfound, rfl⟩ := h
  refine ⟨hvalid, htotal, fun hor => ?_⟩
  rcases Bool.or_eq_true_iff.mp hor with hold | hnew
  · exact .inl hold
  · rw [hfound, hnew]
    exact .inr rfl

/-- The loop over the splits checks each, adds up exactly and has seen the top-level one. -/
theorem checkSplits_spec {assetId : Bytes32} {root : TapVmRoot} {checked : UInt64 × Bool}
    (h : c.splitSet.foldlM (c.checkSplit assetId root) (0, false) = .ok checked) :
    (∀ split ∈ c.splitSet, split.validate c.asset assetId root = .ok ()) ∧
      checked.1.toNat = (c.splitSet.map (·.key.amount.toNat)).sum ∧
      (checked.2 = true →
        ∃ split ∈ c.splitSet, isTopLevelLocator c.asset assetId split = .ok true) := by
  have hloop := foldlM_induction
    (fun done (checked : UInt64 × Bool) =>
      (∀ split ∈ done, split.validate c.asset assetId root = .ok ()) ∧
        checked.1.toNat = (done.map (·.key.amount.toNat)).sum ∧
        (checked.2 = true → ∃ split ∈ done, isTopLevelLocator c.asset assetId split = .ok true))
    (by simp) (fun done split checked next hdone hstep => by
      obtain ⟨hvalid, htotal, hfound⟩ := checkSplit_spec hstep
      obtain ⟨hall, hsum, htop⟩ := hdone
      refine ⟨fun other hother => ?_, ?_, fun hnext => ?_⟩
      · rcases List.mem_append.mp hother with hold | hnew
        · exact hall other hold
        · rw [List.mem_singleton.mp hnew]
          exact hvalid
      · simp [htotal, hsum]
      · rcases hfound hnext with hold | hnew
        · obtain ⟨other, hother, hlocator⟩ := htop hold
          exact ⟨other, List.mem_append_left _ hother, hlocator⟩
        · exact ⟨split, by simp, hnew⟩) h
  exact hloop

theorem splitCommitment_spec {split : TapVmSplit} {splitCommitment : TapVmSplitCommitment}
    (h : split.splitCommitment = .ok splitCommitment) :
    ∃ witness, split.value.asset.prevWitnesses = some [witness] ∧ witness.prevId.isZero = true ∧
      witness.txWitness = none ∧ witness.splitCommitment = some splitCommitment := by
  simp only [TapVmSplit.splitCommitment, bind_eq_ok, okOr_eq_ok] at h
  obtain ⟨witnesses, hwitnesses, h⟩ := h
  split at h
  case h_2 => cases h
  case h_1 witness =>
    simp only [bind_eq_ok, rejectIf_eq_ok, okOr_eq_ok, exists_const, not_or, not_not,
      Option.not_isSome_iff_eq_none] at h
    exact ⟨witness, hwitnesses, h.1.1, h.1.2, h.2⟩

/-- What the validation of a split establishes. -/
structure SplitPasses (asset : TapVmAsset) (assetId : Bytes32) (root : TapVmRoot)
    (split : TapVmSplit) : Prop where
  assetId : split.key.assetId = toHex assetId
  outputIndex : split.key.outputIndex = split.value.outputIndex
  amount : split.key.amount = split.value.asset.amount
  scriptKey : sameScriptKeyXonly split.key.scriptKey split.value.asset.scriptKey = .ok true
  definition : sameAssetDefinition asset split.value.asset = true
  commitment : ∃ splitCommitment, split.splitCommitment = .ok splitCommitment ∧
    (∃ proof, readMssmtProof splitCommitment.proof = .ok proof) ∧
    sameAssetDefinition asset splitCommitment.rootAsset = true ∧
    ∃ rootAssetRoot, splitCommitment.rootAsset.splitCommitmentRoot = some rootAssetRoot ∧
      rootAssetRoot.hash = root.hash ∧ rootAssetRoot.sum = root.sum

theorem split_validate_spec {split : TapVmSplit} {asset : TapVmAsset} {assetId : Bytes32}
    {root : TapVmRoot} (h : split.validate asset assetId root = .ok ()) :
    SplitPasses asset assetId root split := by
  simp only [TapVmSplit.validate, decodeMssmtProof, bind_eq_ok, rejectIf_eq_ok, okOr_eq_ok,
    exists_const, ne_eq, not_not, not_or, Bool.not_eq_true, Bool.not_eq_false, pure_eq_ok,
    and_true] at h
  obtain ⟨hasset, hindex, hamount, same, hkey, hsame, _, -, _, -, hdefinition, splitCommitment,
    hcommitment, hproof, hroot, rootAssetRoot, hrootAsset, hhash, hsum⟩ := h
  rw [hsame] at hkey
  exact ⟨hasset, hindex, hamount, hkey, hdefinition, splitCommitment, hcommitment, hproof, hroot,
    rootAssetRoot, hrootAsset, hhash, hsum⟩

/-- What the acceptance of a split transfer establishes about its splits. -/
structure Split (c : TapVmFixtureCase) (assetId : Bytes32) : Prop where
  splits : ∃ root, c.asset.splitCommitmentRoot = some root ∧ root.sum.toNat = inputTotal c ∧
    ∀ split ∈ c.splitSet, SplitPasses c.asset assetId root split
  amounts : (c.splitSet.map (·.key.amount.toNat)).sum = inputTotal c
  locator : ∃ split ∈ c.splitSet, isTopLevelLocator c.asset assetId split = .ok true

/-- What the acceptance of a transfer establishes. -/
structure Transferred (ripemd160 : Bytes → FixedBytes 20) (c : TapVmFixtureCase)
    (witnesses : List TapVmPrevWitness) : Prop where
  count : witnesses.length = c.inputSet.length
  inputs : ∀ input ∈ c.inputSet, InputPasses ripemd160 c witnesses input
  assetId : ∃ first assetId, witnesses.head? = some first ∧
    bytes32FromStr first.prevId.assetId = .ok assetId ∧ assetId ≠ Bytes32.ZERO ∧
    (c.splitSet ≠ [] → Split c assetId)
  conserved : outputTotal c = inputTotal c

theorem validateTransfer_spec {summary : TapVmValidationSummary}
    (h : c.validateTransfer ripemd160 witnesses = .ok summary) :
    Transferred ripemd160 c witnesses := by
  simp only [TapVmFixtureCase.validateTransfer, bind_eq_ok, rejectIf_eq_ok, okOr_eq_ok,
    mapError_eq_ok, exists_const, ne_eq, not_not] at h
  obtain ⟨hcount, first, hfirst, assetId, hassetId, hnonzero, checked, hchecked, h⟩ := h
  obtain ⟨hinputs, htotal, -⟩ := checkInputs_spec hchecked
  split at h
  case isTrue hwhole =>
    simp only [TapVmFixtureCase.validateWhole, bind_eq_ok, rejectIf_eq_ok, exists_const, ne_eq,
      not_not] at h
    refine ⟨hcount, hinputs, ⟨first, assetId, hfirst, hassetId, hnonzero, absurd hwhole⟩, ?_⟩
    rw [outputTotal, if_pos hwhole, h.1, htotal]
  case isFalse hsplit =>
    simp only [TapVmFixtureCase.validateSplits, bind_eq_ok, rejectIf_eq_ok, okOr_eq_ok,
      exists_const, ne_eq, not_not, Bool.not_eq_true, Bool.not_eq_false] at h
    obtain ⟨root, hroot, hsum, splits, hsplits, hequal, hfound, -⟩ := h
    obtain ⟨hvalid, hsplitTotal, hlocator⟩ := checkSplits_spec hsplits
    have hamounts : (c.splitSet.map (·.key.amount.toNat)).sum = inputTotal c := by
      rw [← hsplitTotal, hequal, htotal]
    refine ⟨hcount, hinputs, ⟨first, assetId, hfirst, hassetId, hnonzero, fun _ =>
      ⟨⟨root, hroot, by rw [hsum, htotal], fun split hmem => ?_⟩, hamounts, hlocator hfound⟩⟩, ?_⟩
    · exact split_validate_spec (hvalid split hmem)
    · rw [outputTotal, if_neg hsplit, hamounts]

theorem validate_spec {summary : TapVmValidationSummary}
    (h : c.validate ripemd160 = .ok summary) (hinputs : c.inputSet ≠ []) :
    ∃ witnesses, c.asset.prevWitnesses = some witnesses ∧
      c.validateTransfer ripemd160 witnesses = .ok summary := by
  simp only [TapVmFixtureCase.validate, bind_eq_ok, okOr_eq_ok, if_neg hinputs] at h
  obtain ⟨_, -, witnesses, hwitnesses, htransfer⟩ := h
  exact ⟨witnesses, hwitnesses, htransfer⟩

end

end TapLdk.TapVmTransfer
