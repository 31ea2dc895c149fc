import Mathlib
import TapLdk.Proof

/-! What the ancestry check of an import binds: every proof of the file is complete, and
the last one is the proof that is imported. -/
namespace TapLdk.TapdAncestry
open TapLdk.LibraryExcept TapLdk.LibraryBytes TapLdk.LibrarySha256 TapLdk.Mssmt TapLdk.Asset
open TapLdk.Tlv TapLdk.TapdProof TapLdk.Proof

/-- The leaf describes the asset, type and genesis of a proof. -/
structure SameAsset (leaf : TapdAssetLeafSummary) (proof : ProofFile) : Prop where
  assetId : leaf.assetId = proof.assetId
  assetType : leaf.assetType = proof.assetType.asU8
  genesis : leaf.genesis.firstPrevOut = proof.genesisOutpoint

/-- A proof of a file that has all that an import relies on. -/
structure Complete (summary : TapdProofSummary) : Prop where
  version : summary.transitionVersion = some 0 ∨ summary.transitionVersion = some 1
  prevOut : summary.hasPrevOut = true
  blockHeader : summary.hasBlockHeader = true
  anchorTx : summary.hasAnchorTx = true
  txMerkleProof : summary.hasTxMerkleProof = true
  inclusionProof : summary.hasInclusionProof = true
  leaf : ∃ leaf, summary.assetLeaf = some leaf

theorem decodeSingleProofAt_hasAssetLeaf {bytes : Bytes} {index : ℕ} {checksum : Bytes32}
    {summary : TapdProofSummary} (h : decodeSingleProofAt bytes index checksum = .ok summary) :
    summary.hasAssetLeaf = summary.assetLeaf.isSome := by
  simp only [decodeSingleProofAt, bind_eq_ok, pure_eq_ok, Except.ok.injEq] at h
  obtain ⟨_, -, _, -, _, -, _, -, _, -, _, -, rfl⟩ := h
  rfl

/-- The summary of some single proof. -/
def IsDecoded (summary : TapdProofSummary) : Prop :=
  ∃ bytes index checksum, decodeSingleProofAt bytes index checksum = .ok summary

/-- A decoded list has the proofs that were counted, each decoded from bytes of its own. -/
theorem decodeProofs_spec {remaining index : ℕ} {checksum final : Bytes32} {cursor rest : Bytes}
    {proofs : List TapdProofSummary}
    (h : decodeProofs remaining index checksum cursor = .ok (proofs, final, rest)) :
    proofs.length = remaining ∧ ∀ p ∈ proofs, IsDecoded p := by
  induction remaining generalizing index checksum cursor proofs final rest with
  | zero =>
    simp only [decodeProofs, pure_eq_ok, Except.ok.injEq, Prod.mk.injEq] at h
    obtain ⟨rfl, -⟩ := h
    simp
  | succ remaining ih =>
    simp only [decodeProofs, bind_eq_ok, pure_eq_ok, Except.ok.injEq, Prod.mk.injEq] at h
    obtain ⟨_, -, _, -, _, -, _, -, proof, hproof, ⟨proofs', final', rest'⟩, htail, rfl, -⟩ := h
    obtain ⟨hlength, hrest⟩ := ih htail
    refine ⟨by rw [List.length_cons, hlength], fun p hp => ?_⟩
    rcases List.mem_cons.mp hp with rfl | hp
    · exact ⟨_, _, _, hproof⟩
    · exact hrest p hp

theorem decodeTapdProofFile_proofs {bytes : Bytes} {summary : TapdProofFileSummary}
    (h : decodeTapdProofFile bytes = .ok summary) :
    summary.proofs ≠ [] ∧ ∀ p ∈ summary.proofs, IsDecoded p := by
  simp only [decodeTapdProofFile, bind_eq_ok, rejectIf_eq_ok, pure_eq_ok, Except.ok.injEq] at h
  obtain ⟨_, -, _, -, _, -, count, -, _, hcount, _, -, ⟨proofs, final, rest⟩, hproofs, _, -, rfl⟩ := h
  obtain ⟨hlength, hdecoded⟩ := decodeProofs_spec hproofs
  refine ⟨fun hnil => hcount ?_, hdecoded⟩
  rw [← hlength, show proofs = [] from hnil]
  rfl

theorem decodeTapdProofFile_spec {bytes : Bytes} {summary : TapdProofFileSummary}
    (h : decodeTapdProofFile bytes = .ok summary) :
    summary.proofs ≠ [] ∧ ∀ p ∈ summary.proofs, p.hasAssetLeaf = p.assetLeaf.isSome := by
  obtain ⟨hne, hdecoded⟩ := decodeTapdProofFile_proofs h
  refine ⟨hne, fun p hp => ?_⟩
  obtain ⟨_, _, _, hproof⟩ := hdecoded p hp
  exact decodeSingleProofAt_hasAssetLeaf hproof

theorem validateTapdProof_eq_ok {summary : TapdProofSummary}
    (hleaf : summary.hasAssetLeaf = summary.assetLeaf.isSome)
    (h : ProofFile.validateTapdProof summary = .ok ()) : Complete summary := by
  rw [ProofFile.validateTapdProof, check_bind_eq_ok, rejectIf_eq_ok, rejectIf_eq_ok, not_not,
    not_and_or, not_not, not_not] at h
  obtain ⟨hversion, hrecords⟩ := h
  simp only [Bool.and_eq_true, hleaf, Option.isSome_iff_exists] at hrecords
  obtain ⟨⟨⟨⟨⟨hprev, hheader⟩, htx⟩, hmerkle⟩, hleaf⟩, hinclusion⟩ := hrecords
  exact ⟨hversion, hprev, hheader, htx, hmerkle, hinclusion, hleaf⟩

/-- When every proof of a file has a leaf, the latest leaf is the last proof's. -/
theorem latestAssetLeaf_eq {summary : TapdProofFileSummary} {leaf : TapdAssetLeafSummary}
    (hleaves : ∀ p ∈ summary.proofs, ∃ leaf, p.assetLeaf = some leaf)
    (h : summary.latestAssetLeaf = some leaf) :
    ∃ last, summary.proofs.getLast? = some last ∧ last.assetLeaf = some leaf := by
  rw [TapdProofFileSummary.latestAssetLeaf] at h
  rw [← List.head?_reverse]
  have hmem : ∀ p ∈ summary.proofs.reverse, ∃ leaf, p.assetLeaf = some leaf :=
    fun p hp => hleaves p (List.mem_reverse.mp hp)
  cases hproofs : summary.proofs.reverse with
  | nil =>
    rw [hproofs] at h
    cases h
  | cons last earlier =>
    obtain ⟨found, hfound⟩ := hmem last (by simp [hproofs])
    rw [hproofs, List.findSome?_cons, hfound, Option.some.injEq] at h
    exact ⟨last, rfl, h ▸ hfound⟩

theorem validateTapdAncestry_spec {proof : ProofFile} {summary : TapdProofFileSummary}
    {context : ProofValidationContext} (h : proof.validateTapdAncestry summary context = .ok ()) :
    (∀ p ∈ summary.proofs, ProofFile.validateTapdProof p = .ok ()) ∧
      ∃ leaf, summary.latestAssetLeaf = some leaf ∧ SameAsset leaf proof ∧
        leaf.amount = proof.amount ∧ leaf.scriptKey = proof.scriptKey := by
  simp only [ProofFile.validateTapdAncestry, check_bind_eq_ok, forM_eq_ok] at h
  obtain ⟨-, hproofs, h⟩ := h
  rw [bind_eq_ok] at h
  obtain ⟨leaf, hlatest, h⟩ := h
  rw [check_bind_eq_ok, rejectIf_eq_ok, ne_eq, not_not] at h
  obtain ⟨hasset, h⟩ := h
  refine ⟨hproofs, leaf, okOr_eq_ok.mp hlatest, ?_⟩
  split at h
  · simp at h
  · rename_i htype
    simp only [check_bind_eq_ok, rejectIf_eq_ok, ne_eq, not_not] at h htype
    obtain ⟨hamount, hkey, hgenesis⟩ := h
    exact ⟨⟨hasset, htype, hgenesis⟩, hamount, hkey⟩

/-- A verified import binds the ancestry file that comes with it. -/
theorem verify_tapd {proof : ProofFile} {summary : TapdProofFileSummary}
    {report : ProofValidationReport}
    (h : proof.verifySemanticAncestry (.forTapdImport summary) = .ok report) :
    proof.validateTapdAncestry summary (.forTapdImport summary) = .ok () := by
  simp only [ProofFile.verifySemanticAncestry, check_bind_eq_ok] at h
  obtain ⟨-, -, -, -, -, -, -, -, h⟩ := h
  simp only [bind_eq_ok] at h
  obtain ⟨_, -, _, -, _, -, _, -, _, -, _, -, _, -, _, -, _, -, _, -, _, -, h⟩ := h
  have hrequired : (ProofValidationContext.forTapdImport summary).requireTapdAncestry = true := rfl
  rw [if_pos hrequired, bind_eq_ok] at h
  obtain ⟨found, hfound, h⟩ := h
  rw [check_bind_eq_ok] at h
  rw [← Option.some.inj (okOr_eq_ok.mp hfound)] at h
  exact h.1

/-- In a file that an import accepts, every proof is complete and has an asset leaf, and
the last one's leaf is the imported proof: its asset, type, genesis, amount and key. -/
theorem accepted_file_ends_in_proof (bytes : Bytes) (summary : TapdProofFileSummary)
    (proof : ProofFile) (report : ProofValidationReport)
    (hdecode : decodeTapdProofFile bytes = .ok summary)
    (h : proof.verifySemanticAncestry (.forTapdImport summary) = .ok report) :
    (∀ p ∈ summary.proofs, Complete p) ∧
      ∃ last leaf, summary.proofs.getLast? = some last ∧ last.assetLeaf = some leaf ∧
        SameAsset leaf proof ∧ leaf.amount = proof.amount ∧ leaf.scriptKey = proof.scriptKey := by
  obtain ⟨-, hleaves⟩ := decodeTapdProofFile_spec hdecode
  obtain ⟨hproofs, leaf, hlatest, hsame⟩ := validateTapdAncestry_spec (verify_tapd h)
  have hcomplete : ∀ p ∈ summary.proofs, Complete p :=
    fun p hp => validateTapdProof_eq_ok (hleaves p hp) (hproofs p hp)
  obtain ⟨last, hlast, hleaf⟩ := latestAssetLeaf_eq (fun p hp => (hcomplete p hp).leaf) hlatest
  exact ⟨hcomplete, last, leaf, hlast, hleaf, hsame⟩

/-- The claim that every leaf of an accepted file is the proof's asset. -/
def FileIsOneAsset : Prop :=
  ∀ (bytes : Bytes) (summary : TapdProofFileSummary) (proof : ProofFile)
    (report : ProofValidationReport), decodeTapdProofFile bytes = .ok summary →
    proof.verifySemanticAncestry (.forTapdImport summary) = .ok report →
    ∀ p ∈ summary.proofs, ∃ leaf, p.assetLeaf = some leaf ∧ SameAsset leaf proof

/-- The genesis record of the asset issued with a tag. -/
def genesisRecord (tag : Bytes) : Bytes :=
  (beBytes 32 0x9673b7a0ff70658b94b29c7719af53ba52fe624c330f1db166a221898f343a7d).reverse ++
    u32Bytes 0 ++ encodeBigSize (UInt64.ofNat tag.length) ++ tag ++ List.replicate 32 7 ++
    u32Bytes 0 ++ [0]

/-- A leaf of a million units under the regtest key. -/
def leafRecords (tag : Bytes) : List TlvRecord :=
  [⟨assetLeafVersion, [0]⟩, ⟨assetLeafGenesis, genesisRecord tag⟩, ⟨assetLeafType, [0]⟩,
    ⟨assetLeafAmount, encodeBigSize 1000000⟩, ⟨assetLeafScriptVersion, [0, 0]⟩,
    ⟨assetLeafScriptKey, regtestKey.bytes⟩]

def proofRecords (tag : Bytes) : List TlvRecord :=
  [⟨TapdProof.typeVersion, u32Bytes 0⟩, ⟨typePrevOut, []⟩, ⟨typeBlockHeader, []⟩,
    ⟨typeAnchorTx, []⟩, ⟨typeTxMerkleProof, []⟩,
    ⟨typeAssetLeaf, (leafRecords tag).flatMap encodeRecord⟩, ⟨typeInclusionProof, []⟩]

def proofBytes (tag : Bytes) : Bytes := utf8 "TAPP" ++ (proofRecords tag).flatMap encodeRecord

/-- Proofs one after the other, each followed by the checksum of the chain so far. -/
def chainProofs : Bytes32 → List Bytes → Bytes
  | _, [] => []
  | previous, proof :: proofs =>
    let checksum := chainedChecksum previous proof
    encodeBigSize (UInt64.ofNat proof.length) ++ proof ++ checksum.bytes ++
      chainProofs checksum proofs

/-- A file whose first proof is of an asset with another tag. -/
@[irreducible] def twoAssetFile : Bytes :=
  utf8 "TAPF" ++ u32Bytes tapdProofFileVersion ++ encodeBigSize 2 ++
    chainProofs Bytes32.ZERO [proofBytes (utf8 "OTHER"), proofBytes (utf8 "OPENUSD")]

def tapdAsset : Bytes32 :=
  ⟨beBytes 32 0xa541bc106419f1138b89861f98791d9c89593590bc6b8823060e18b71dc2c98a, beBytes_length ..⟩

def tapdRoot : RootHashSum :=
  ⟨⟨beBytes 32 0x71592569f82589ec2a9eebbc3166bc2fca0684b10551299948dc8fcc8bbdc922,
    beBytes_length ..⟩, 1000000⟩

/-- The proof that the last leaf of the file stands for, under any anchor. -/
def tapdProof (anchorOutpoint : String) : ProofFile :=
  { regtestProof anchorOutpoint with assetId := tapdAsset, tapAssetRoot := tapdRoot }

def tapdLeaf : AssetLeaf := ⟨tapdAsset, regtestKey, 1000000⟩

def tapdLeafKey : Bytes32 := syntheticAssetLeafKey tapdLeaf 0

def tapd192 : MssmtNode :=
  nodeOf 0xeba918182674757609df168060b91aa5ab782a1f9805877c5272ea64aacfc839 1000000
def tapd128 : MssmtNode :=
  nodeOf 0x88f595e571eea718a0baba1bafe864a22f2e0f192fc013585a2b8c8b17c5d5c5 1000000
def tapd64 : MssmtNode :=
  nodeOf 0xf1ca593295a3dfa2aa4447bae086775129b8b48024147bb3d79e5977ba1cb680 1000000

theorem singleRoot_tapd : singleRoot ⟨tapdAsset, regtestKey, 1000000⟩ = tapdRoot := by
  have h192 : climbs tapdLeafKey 192 64 ((mssmtLeafOf tapdLeaf).node, MssmtLeaf.empty.node) =
      (tapd192, empty192) := climbs_of_leaf (by decide +kernel)
  have h128 : climbs tapdLeafKey 128 64 (tapd192, empty192) = (tapd128, empty128) :=
    climbs_of_number (by decide +kernel)
  have h64 : climbs tapdLeafKey 64 64 (tapd128, empty128) = (tapd64, empty64) :=
    climbs_of_number (by decide +kernel)
  have h0 : climbs tapdLeafKey 0 64 (tapd64, empty64) = (⟨tapdRoot.hash, 1000000⟩, empty0) :=
    climbs_of_number (by decide +kernel)
  exact @singleRoot_of_climbs tapdLeaf tapdLeafKey _ _ _ _ rfl h192 h128 h64 h0

theorem tapdProof_verified {anchorOutpoint : String} {anchor : ParsedOutpoint}
    (hanchor : outpointOf anchorOutpoint = some anchor)
    (hne : outpointOf regtestGenesis ≠ some anchor) : Verified (tapdProof anchorOutpoint) := by
  have hregtest := regtestProof_verified hanchor hne
  have hasset : tapdAsset ≠ Bytes32.ZERO := by decide
  have hhash : tapdRoot.hash ≠ Bytes32.ZERO := by decide
  exact { hregtest with assetId := hasset, rootHash := hhash, root := singleRoot_tapd.symm }

/-- What the checks read off the file, evaluated once. -/
def readsAs (summary : TapdProofFileSummary) : Bool :=
  summary.proofs.all (fun p => ProofFile.validateTapdProof p = .ok ()) &&
    (summary.proofs.head?.bind (·.assetLeaf)).all (fun leaf => leaf.assetId ≠ tapdAsset) &&
    summary.latestAssetLeaf.any fun leaf => leaf.assetId = tapdAsset && leaf.assetType = 0 &&
      leaf.amount = 1000000 && leaf.scriptKey = regtestKey &&
      leaf.genesis.firstPrevOut = regtestGenesis

theorem twoAssetFile_readsAs : (decodeTapdProofFile twoAssetFile).toOption.any readsAs = true := by
  decide +kernel

theorem twoAssetFile_decodes : ∃ summary, decodeTapdProofFile twoAssetFile = .ok summary ∧
    readsAs summary = true := by
  have hreads := twoAssetFile_readsAs
  cases hdecode : decodeTapdProofFile twoAssetFile with
  | error e =>
    rw [hdecode] at hreads
    cases hreads
  | ok summary =>
    rw [hdecode] at hreads
    exact ⟨summary, rfl, hreads⟩

theorem readsAs_ancestry {summary : TapdProofFileSummary} (h : readsAs summary = true)
    (anchorOutpoint : String) :
    (tapdProof anchorOutpoint).validateTapdAncestry summary (.forTapdImport summary) = .ok () := by
  simp only [readsAs, Bool.and_eq_true, List.all_eq_true, Option.any_eq_true, decide_eq_true_eq] at h
  obtain ⟨⟨hproofs, -⟩, leaf, hleaf, ⟨⟨⟨hasset, htype⟩, hamount⟩, hkey⟩, hgenesis⟩ := h
  have hchecked : summary.proofs.forM ProofFile.validateTapdProof = .ok () := forM_eq_ok.mpr hproofs
  have hasset' : leaf.assetId = (tapdProof anchorOutpoint).assetId := hasset
  have htype' : leaf.assetType = (tapdProof anchorOutpoint).assetType.asU8 := htype
  have hamount' : leaf.amount = (tapdProof anchorOutpoint).amount := hamount
  have hkey' : leaf.scriptKey = (tapdProof anchorOutpoint).scriptKey := hkey
  have hgenesis' : leaf.genesis.firstPrevOut = (tapdProof anchorOutpoint).genesisOutpoint := hgenesis
  simp [ProofFile.validateTapdAncestry, ProofValidationContext.forTapdImport, rejectUnexpected,
    rejectIf, hchecked, hleaf, okOr, hasset', htype', hamount', hkey', hgenesis']

/-- Verified proofs pass with every file that ends in them. -/
theorem verify_tapd_of_verified {proof : ProofFile} (h : Verified proof)
    {summary : TapdProofFileSummary}
    (htapd : proof.validateTapdAncestry summary (.forTapdImport summary) = .ok ()) :
    ∃ report, proof.verifySemanticAncestry (.forTapdImport summary) = .ok report := by
  obtain ⟨genesis, anchor, hgenesis, hanchor, hne⟩ := h.outpoints
  have hsum : proof.tapAssetRoot.sum = proof.amount := by rw [h.root]; rfl
  have hamount : proof.leaf.amount ≠ 0 := h.amount
  have htapd' : proof.validateTapdAncestry summary
      { requireTapdAncestry := true
        expectedTapdProofFileDigest := some summary.rawDigest
        tapdProofSummary := some summary } = .ok () := htapd
  simp [ProofFile.verifySemanticAncestry, rejectIf, h.version, h.scope, h.assetType, h.assetId,
    h.amount, h.rootHash, hsum, parseOutpoint_eq_ok.mpr hgenesis, parseOutpoint_eq_ok.mpr hanchor,
    hne, deriveHashSumRoot_single hamount, ← h.root, ProofValidationContext.forTapdImport,
    rejectUnexpected, okOr, htapd', Except.mapError]

theorem twoAssetFile_accepted : ∃ summary report,
    decodeTapdProofFile twoAssetFile = .ok summary ∧ readsAs summary = true ∧
      (tapdProof regtestAnchor).verifySemanticAncestry (.forTapdImport summary) = .ok report := by
  obtain ⟨summary, hdecode, hreads⟩ := twoAssetFile_decodes
  have hverified : Verified (tapdProof regtestAnchor) :=
    @tapdProof_verified regtestAnchor
      ⟨"aaaaaaaaaaaaaaaaaaaaaaaaaaaaaaaaaaaaaaaaaaaaaaaaaaaaaaaaaaaaaaaa", 1⟩ (by decide +kernel)
      (by decide +kernel)
  obtain ⟨report, hverify⟩ :=
    verify_tapd_of_verified hverified (readsAs_ancestry hreads regtestAnchor)
  exact ⟨summary, report, hdecode, hreads, hverify⟩

/-- An accepted file may start with a proof of another asset. -/
theorem two_asset_file_accepted : ¬ FileIsOneAsset := by
  intro h
  obtain ⟨summary, report, hdecode, hreads, hverify⟩ := twoAssetFile_accepted
  simp only [readsAs, Bool.and_eq_true, Option.all_eq_true, decide_eq_true_eq] at hreads
  obtain ⟨⟨-, hother⟩, -⟩ := hreads
  obtain ⟨first, rest, hproofs⟩ := List.exists_cons_of_ne_nil (decodeTapdProofFile_spec hdecode).1
  obtain ⟨leaf, hleaf, hsame⟩ := h _ _ _ _ hdecode hverify first (by simp [hproofs])
  exact hother leaf (by rw [hproofs]; exact hleaf) hsame.assetId

/-- The last leaf of that file is the imported proof's. -/
theorem two_asset_file_ends_in_proof : ∃ summary : TapdProofFileSummary,
    (∀ p ∈ summary.proofs, Complete p) ∧ ∃ last leaf, summary.proofs.getLast? = some last ∧
      last.assetLeaf = some leaf ∧ SameAsset leaf (tapdProof regtestAnchor) ∧
      leaf.amount = 1000000 ∧ leaf.scriptKey = regtestKey := by
  obtain ⟨summary, report, hdecode, -, hverify⟩ := twoAssetFile_accepted
  exact ⟨summary, accepted_file_ends_in_proof twoAssetFile summary (tapdProof regtestAnchor) report
    hdecode hverify⟩

end TapLdk.TapdAncestry
