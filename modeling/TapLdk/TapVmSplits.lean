import Mathlib
import TapLdk.TapVmConservation

/-! Split outputs: the proof that each accepted split carries, and why decoding a proof does
not tie the split to the root of the asset. -/
namespace TapLdk.TapVmSplits
open TapLdk.LibraryExcept TapLdk.LibraryBytes TapLdk.LibrarySha256 TapLdk.Mssmt
open TapLdk.Asset (bytes32FromStr toHex)
open TapLdk.MssmtNaive TapLdk.MssmtProofs TapLdk.MssmtCompressed
open TapLdk.TapVm TapLdk.TapVmFixture TapLdk.TapVmTransfer TapLdk.TapVmConservation

theorem decompressFrom_length {index : ℕ} {bits : List Bool} {nodes : List MssmtNode}
    (h : bits.count false = nodes.length) :
    (decompressFrom index bits nodes).length = bits.length := by
  induction bits generalizing index nodes with
  | nil => rfl
  | cons bit bits ih =>
    cases bit with
    | true => simpa [decompressFrom] using ih (by simpa using h)
    | false =>
      cases nodes with
      | nil => simp at h
      | cons node nodes => simpa [decompressFrom] using ih (by simpa using h)

theorem decompress_eq {compressed : MssmtCompressedProof}
    (hbits : compressed.bits.length = maxTreeLevels)
    (hcount : compressed.bits.count false = compressed.nodes.length) :
    compressed.decompress = .ok ⟨decompressFrom 0 compressed.bits compressed.nodes⟩ := by
  rw [MssmtCompressedProof.decompress, rejectIf_false (not_not.mpr hbits), ok_bind]
  dsimp only
  rw [rejectIf_false (not_not.mpr hcount), ok_bind]
  rfl

/-- A proof that can be read has a sibling for every level. -/
theorem readMssmtProof_length {proofHex : String} {proof : MssmtProof}
    (h : readMssmtProof proofHex = .ok proof) : proof.siblings.length = maxTreeLevels := by
  simp only [readMssmtProof, bind_eq_ok, mapError_eq_ok, MssmtCompressedProof.decompress,
    rejectIf_eq_ok, exists_const, ne_eq, not_not, pure_eq_ok, Except.ok.injEq] at h
  obtain ⟨bytes, -, compressed, -, hbits, hcount, rfl⟩ := h
  rw [decompressFrom_length hcount, hbits]

theorem stepUp_sum {key : Bytes32} {current next : MssmtNode} {entry : MssmtNode × ℕ}
    (h : MssmtProof.stepUp key current entry = .ok next) :
    next.sum.toNat = current.sum.toNat + entry.1.sum.toNat := by
  have hbranch {left right : MssmtNode} (hok : branchNode left right = .ok next) :
      next.sum.toNat = left.sum.toNat + right.sum.toNat := by
    simp only [branchNode, bind_eq_ok, okOr_eq_ok, checkedAdd_eq_some, pure_eq_ok,
      Except.ok.injEq] at hok
    obtain ⟨sum, hsum, rfl⟩ := hok
    exact hsum
  simp only [MssmtProof.stepUp] at h
  split at h
  · exact hbranch h
  · rw [hbranch h, Nat.add_comm]

/-- The root that a proof recomputes sums up the leaf and the siblings. -/
theorem rootFor_sum {proof : MssmtProof} {key : Bytes32} {leaf : MssmtLeaf} {root : MssmtNode}
    (h : proof.rootFor key leaf = .ok root) :
    root.sum.toNat = leaf.sum.toNat + (proof.siblings.map (·.sum.toNat)).sum := by
  simp only [MssmtProof.rootFor, bind_eq_ok, rejectIf_eq_ok, exists_const] at h
  have hloop := foldlM_induction
    (fun done (node : MssmtNode) =>
      node.sum.toNat = leaf.sum.toNat + (done.map (·.1.sum.toNat)).sum)
    (by simp [MssmtLeaf.node]) (fun done entry current next hdone hstep => by
      rw [stepUp_sum hstep, hdone, List.map_append, List.sum_append, Nat.add_assoc]
      simp) h.2
  have hsiblings : proof.siblings.zipIdx.map (fun entry => entry.1.sum.toNat) =
      proof.siblings.map (·.sum.toNat) := by
    have hmap := @List.map_map _ _ _ (fun node : MssmtNode => node.sum.toNat) Prod.fst
      proof.siblings.zipIdx
    rw [List.zipIdx_map_fst] at hmap
    exact hmap.symm
  rw [hloop, hsiblings]

/-- A split with a proof that can be read, under the root of the asset. -/
structure CarriesProof (asset : TapVmAsset) (root : TapVmRoot) (split : TapVmSplit) : Prop where
  witness : ∃ witness splitCommitment proof, split.value.asset.prevWitnesses = some [witness] ∧
    witness.prevId.isZero = true ∧ witness.txWitness = none ∧
    witness.splitCommitment = some splitCommitment ∧
    readMssmtProof splitCommitment.proof = .ok proof ∧ proof.siblings.length = maxTreeLevels ∧
    sameAssetDefinition asset splitCommitment.rootAsset = true ∧
    ∃ rootAssetRoot, splitCommitment.rootAsset.splitCommitmentRoot = some rootAssetRoot ∧
      rootAssetRoot.hash = root.hash ∧ rootAssetRoot.sum = root.sum
  definition : sameAssetDefinition asset split.value.asset = true
  outputIndex : split.key.outputIndex = split.value.outputIndex
  amount : split.key.amount = split.value.asset.amount
  scriptKey : sameScriptKeyXonly split.key.scriptKey split.value.asset.scriptKey = .ok true

theorem carriesProof_of_passes {asset : TapVmAsset} {assetId : Bytes32} {root : TapVmRoot}
    {split : TapVmSplit} (h : SplitPasses asset assetId root split) :
    CarriesProof asset root split := by
  obtain ⟨splitCommitment, hcommitment, ⟨proof, hproof⟩, hdefinition, hroot⟩ := h.commitment
  obtain ⟨witness, hwitness, hzero, hstack, hsplit⟩ := splitCommitment_spec hcommitment
  exact ⟨⟨witness, splitCommitment, proof, hwitness, hzero, hstack, hsplit, hproof,
    readMssmtProof_length hproof, hdefinition, hroot⟩, h.definition, h.outputIndex, h.amount,
    h.scriptKey⟩

/-- The split that stands for the asset itself. -/
structure TopLevel (asset : TapVmAsset) (assetId : Bytes32) (split : TapVmSplit) : Prop where
  outputIndex : split.key.outputIndex = 0
  amount : split.key.amount = asset.amount
  scriptKey : sameScriptKeyXonly split.key.scriptKey asset.scriptKey = .ok true
  assetId : split.key.assetId = toHex assetId

theorem isTopLevelLocator_spec {asset : TapVmAsset} {assetId : Bytes32} {split : TapVmSplit}
    (h : isTopLevelLocator asset assetId split = .ok true) : TopLevel asset assetId split := by
  unfold isTopLevelLocator at h
  split at h
  case isFalse => cases h
  case isTrue hplace =>
    simp only [bind_eq_ok, pure_eq_ok, Except.ok.injEq, Bool.and_eq_true, beq_iff_eq] at h
    obtain ⟨same, hsame, rfl, hassetId⟩ := h
    exact ⟨hplace.1, hplace.2, hsame, hassetId⟩

/-- Every accepted split carries a proof under the root of the asset, the splits divide the
root's sum, and one of them stands for the asset. -/
theorem splits_carry_proofs (ripemd160 : Bytes → FixedBytes 20) (c : TapVmFixtureCase)
    (witnesses : List TapVmPrevWitness) (summary : TapVmValidationSummary)
    (h : c.validateTransfer ripemd160 witnesses = .ok summary) (hsplits : c.splitSet ≠ []) :
    ∃ root assetId, c.asset.splitCommitmentRoot = some root ∧
      (∃ first, witnesses.head? = some first ∧
        bytes32FromStr first.prevId.assetId = .ok assetId) ∧
      root.sum.toNat = inputTotal c ∧
      (c.splitSet.map (·.key.amount.toNat)).sum = root.sum.toNat ∧
      (∀ split ∈ c.splitSet, split.key.assetId = toHex assetId ∧
        CarriesProof c.asset root split) ∧
      ∃ split ∈ c.splitSet, TopLevel c.asset assetId split := by
  obtain ⟨first, assetId, hfirst, hassetId, -, hsplit⟩ := (validateTransfer_spec h).assetId
  obtain ⟨⟨root, hroot, hsum, hpasses⟩, hamounts, top, htop, hlocator⟩ := hsplit hsplits
  refine ⟨root, assetId, hroot, ⟨first, hfirst, hassetId⟩, hsum, hamounts.trans hsum.symm,
    fun split hmem => ⟨(hpasses split hmem).assetId, ?_⟩, top, htop, ?_⟩
  · exact carriesProof_of_passes (hpasses split hmem)
  · exact isTopLevelLocator_spec hlocator

/-- Each accepted split is a leaf of the tree under the root, for some way to write an asset
into a leaf and to place it. -/
def SplitsCommitted (ripemd160 : Bytes → FixedBytes 20) (encodeLeaf : TapVmAsset → Bytes)
    (leafKey : TapVmSplitKey → Bytes32) : Prop :=
  ∀ (c : TapVmFixtureCase) (witnesses : List TapVmPrevWitness) (summary : TapVmValidationSummary),
    c.validateTransfer ripemd160 witnesses = .ok summary → ∀ split ∈ c.splitSet,
    ∃ root splitCommitment proof node, c.asset.splitCommitmentRoot = some root ∧
      split.splitCommitment = .ok splitCommitment ∧
      readMssmtProof splitCommitment.proof = .ok proof ∧
      proof.rootFor (leafKey split.key) ⟨encodeLeaf split.value.asset, split.value.asset.amount⟩ =
        .ok node ∧
      decodeHex root.hash = .ok node.hash.bytes ∧ node.sum = root.sum

/-- The compressed proof whose siblings are all empty. -/
def emptyProofHex : String := encodeHex ([0, 0] ++ List.replicate 32 255)

def emptyProof : MssmtProof := ⟨decompressFrom 0 (List.replicate 256 true) []⟩

theorem decompressFrom_empty_sum (index count : ℕ) :
    ((decompressFrom index (List.replicate count true) []).map (·.sum.toNat)).sum = 0 := by
  induction count generalizing index with
  | zero => rfl
  | succ count ih =>
    have hsum : (emptyTree (maxTreeLevels - index)).sum = 0 := emptySubtree_sum _
    simp [List.replicate_succ, decompressFrom, hsum, ih]

theorem decodeHex_emptyProofHex :
    decodeHex emptyProofHex = .ok ([0, 0] ++ List.replicate 32 255) := by
  decide +kernel

theorem decode_emptyProof : MssmtCompressedProof.decode ([0, 0] ++ List.replicate 32 255) =
    .ok ⟨List.replicate 256 true, []⟩ := by
  decide +kernel

theorem readMssmtProof_empty : readMssmtProof emptyProofHex = .ok emptyProof := by
  have hcount : (List.replicate 256 true).count false = 0 :=
    List.count_eq_zero.mpr fun hmem => absurd (List.eq_of_mem_replicate hmem) (by decide)
  have hdecompress : (⟨List.replicate 256 true, []⟩ : MssmtCompressedProof).decompress =
      .ok emptyProof := decompress_eq List.length_replicate hcount
  rw [readMssmtProof, decodeHex_emptyProofHex, ok_bind, decode_emptyProof, Except.mapError, ok_bind,
    hdecompress]
  rfl

/-- An asset under the sample root. -/
def rootAsset (amount : UInt64) : TapVmAsset :=
  { sampleAsset 1 amount with splitCommitmentRoot := some ⟨hex32 9, 2⟩ }

def splitWitness : TapVmPrevWitness :=
  ⟨⟨zeroOutpoint, zeroAssetId, zeroScriptKey⟩, none, some ⟨emptyProofHex, rootAsset 1⟩⟩

/-- A split of one unit, whose proof has only empty siblings. -/
def unitSplit (outputIndex : UInt64) : TapVmSplit :=
  { key := ⟨outputIndex, hex32 1, sampleKey, 1⟩
    value := ⟨{ sampleAsset 1 1 with prevWitnesses := some [splitWitness] }, outputIndex⟩ }

/-- One input of two units, split into two outputs of one. -/
def dividedCase : TapVmFixtureCase :=
  { asset := rootAsset 1
    splitSet := [unitSplit 0, unitSplit 1]
    inputSet := [⟨samplePrevId 1, sampleAsset 1 2⟩] }

def sampleId : Bytes32 := .replicate 32 1

theorem sampleKey_valid : sameScriptKeyXonly sampleKey sampleKey = .ok true ∧
    validateCompressedKey sampleKey = .ok () := by
  decide +kernel

theorem divided_shapes : validateAssetShape (sampleAsset 1 1) = .ok () ∧
    validateAssetShape (sampleAsset 1 2) = .ok () ∧ validateAssetShape (rootAsset 1) = .ok () ∧
    (⟨zeroOutpoint, zeroAssetId, zeroScriptKey⟩ : TapVmPrevId).isZero = true := by
  decide +kernel

theorem unitSplit_commitment (outputIndex : UInt64) :
    (unitSplit outputIndex).splitCommitment = .ok ⟨emptyProofHex, rootAsset 1⟩ := by
  have hzero := divided_shapes.2.2.2
  simp [TapVmSplit.splitCommitment, unitSplit, splitWitness, hzero, rejectIf, okOr]

theorem unitSplit_valid (outputIndex : UInt64) :
    (unitSplit outputIndex).validate (rootAsset 1) sampleId ⟨hex32 9, 2⟩ = .ok () := by
  have hshape : validateAssetShape (unitSplit outputIndex).value.asset = .ok () :=
    divided_shapes.1
  have hassetId : (unitSplit outputIndex).key.assetId = toHex sampleId := rfl
  have hindex : (unitSplit outputIndex).key.outputIndex =
      (unitSplit outputIndex).value.outputIndex := rfl
  have hamount : (unitSplit outputIndex).key.amount =
      (unitSplit outputIndex).value.asset.amount := rfl
  have hkey : sameScriptKeyXonly (unitSplit outputIndex).key.scriptKey
      (unitSplit outputIndex).value.asset.scriptKey = .ok true := sampleKey_valid.1
  have hcompressed : validateCompressedKey (unitSplit outputIndex).key.scriptKey = .ok () :=
    sampleKey_valid.2
  have hdefinition : sameAssetDefinition (rootAsset 1) (unitSplit outputIndex).value.asset =
      true := rfl
  have hroot : sameAssetDefinition (rootAsset 1) (rootAsset 1) = true := rfl
  have hrootAsset : (rootAsset 1).splitCommitmentRoot = some ⟨hex32 9, 2⟩ := rfl
  simp [TapVmSplit.validate, hassetId, hindex, hamount, hkey, hcompressed, hshape, hdefinition,
    unitSplit_commitment, decodeMssmtProof, readMssmtProof_empty, hroot, hrootAsset, rejectIf, okOr]

theorem dividedCase_accepted (ripemd160 : Bytes → FixedBytes 20) :
    ∃ summary, dividedCase.validateTransfer ripemd160 [sampleWitness 1] = .ok summary := by
  have hshape : validateAssetShape (sampleAsset 1 2) = .ok () := divided_shapes.2.1
  have hid : bytes32FromStr (sampleWitness 1).prevId.assetId = .ok sampleId := mergedCase_ids.1
  have hnonzero : sampleId ≠ Bytes32.ZERO := by decide
  have hstack : validateWitnessStack ripemd160 [sampleSignature] = .ok () := sampleSignature_valid
  have hinputs : dividedCase.inputSet.foldlM
      (dividedCase.checkInput ripemd160 [sampleWitness 1]) (0, 0) = .ok (2, 1) := by
    have hsame : sameAssetDefinition dividedCase.asset (sampleAsset 1 2) = true := rfl
    have htotal : checkedAdd 0 (sampleAsset 1 2).amount = some 2 := rfl
    have hinput : dividedCase.inputSet = [⟨samplePrevId 1, sampleAsset 1 2⟩] := rfl
    simp [hinput, TapVmFixtureCase.checkInput, hshape, hsame, sampleWitness, hstack, htotal,
      rejectIf, okOr]
  have hsplits : dividedCase.splitSet.foldlM
      (dividedCase.checkSplit sampleId ⟨hex32 9, 2⟩) (0, false) = .ok (2, true) := by
    have hset : dividedCase.splitSet = [unitSplit 0, unitSplit 1] := rfl
    have hfirst : isTopLevelLocator dividedCase.asset sampleId (unitSplit 0) = .ok true := by
      have hkey : sameScriptKeyXonly (unitSplit 0).key.scriptKey dividedCase.asset.scriptKey =
          .ok true := sampleKey_valid.1
      rw [isTopLevelLocator, if_pos ⟨rfl, rfl⟩, hkey]
      rfl
    have hsecond : isTopLevelLocator dividedCase.asset sampleId (unitSplit 1) = .ok false :=
      if_neg fun h => absurd h.1 (by decide)
    have hone : checkedAdd 0 (unitSplit 0).key.amount = some 1 := rfl
    have htwo : checkedAdd 1 (unitSplit 1).key.amount = some 2 := rfl
    have hvalid (outputIndex : UInt64) : (unitSplit outputIndex).validate dividedCase.asset
        sampleId ⟨hex32 9, 2⟩ = .ok () := unitSplit_valid outputIndex
    simp [hset, TapVmFixtureCase.checkSplit, hvalid, hone, htwo, hfirst, hsecond, okOr]
  have hcount : ¬ [sampleWitness 1].length ≠ dividedCase.inputSet.length := not_not.mpr rfl
  have hne : dividedCase.splitSet ≠ [] := List.cons_ne_nil _ _
  have hroot : dividedCase.asset.splitCommitmentRoot = some ⟨hex32 9, 2⟩ := rfl
  refine ⟨⟨.transfer, 1, 2, 2, 2, 1, some 2, 1⟩, ?_⟩
  rw [TapVmFixtureCase.validateTransfer, rejectIf_false hcount, ok_bind]
  simp only [List.head?_cons, okOr, ok_bind, hid, Except.mapError, rejectIf_false hnonzero, hinputs]
  rw [if_neg hne, TapVmFixtureCase.validateSplits, hroot]
  simp only [okOr, ok_bind, hsplits]
  rfl

/-- The proofs of the splits recompute a root of one unit, whatever their leaves are. -/
theorem divided_splits_uncommitted : ¬ ∃ ripemd160 encodeLeaf leafKey,
    SplitsCommitted ripemd160 encodeLeaf leafKey := by
  rintro ⟨ripemd160, encodeLeaf, leafKey, hcommitted⟩
  obtain ⟨summary, haccepted⟩ := dividedCase_accepted ripemd160
  obtain ⟨root, splitCommitment, proof, node, hroot, hcommitment, hproof, hnode, -, hsum⟩ :=
    hcommitted dividedCase [sampleWitness 1] summary haccepted (unitSplit 0) (by simp [dividedCase])
  rw [unitSplit_commitment, Except.ok.injEq] at hcommitment
  rw [← hcommitment, readMssmtProof_empty, Except.ok.injEq] at hproof
  have htotal := rootFor_sum hnode
  rw [← hproof, emptyProof, decompressFrom_empty_sum, hsum] at htotal
  have htwo : root.sum = 2 := by
    rw [← Option.some.inj hroot]
  have hunit : (unitSplit 0).value.asset.amount = 1 := rfl
  simp only [htwo, hunit] at htotal
  exact absurd htotal (by decide)

theorem splits_carry_proofs_divided : ∃ (root : TapVmRoot) (assetId : Bytes32),
    dividedCase.asset.splitCommitmentRoot = some root ∧
      (∀ split ∈ dividedCase.splitSet, split.key.assetId = toHex assetId ∧
        CarriesProof dividedCase.asset root split) := by
  obtain ⟨summary, haccepted⟩ := dividedCase_accepted fun _ => .zero 20
  obtain ⟨root, assetId, hroot, -, -, -, hsplits, -⟩ := splits_carry_proofs _ dividedCase
    [sampleWitness 1] summary haccepted (List.cons_ne_nil _ _)
  exact ⟨root, assetId, hroot, hsplits⟩

end TapLdk.TapVmSplits
