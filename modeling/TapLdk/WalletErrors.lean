import Mathlib
import TapLdk.DecodedProofs
import TapLdk.WalletTapd

/-! What a failed operation leaves in the wallet: the contents from before the call, but for
a new proof with a bad key, and for an ancestry file whose bundle does not match the wallet. -/
namespace TapLdk.WalletErrors
open TapLdk.LibraryExcept TapLdk.LibraryMaps TapLdk.LibraryBytes TapLdk.LibrarySha256
open TapLdk.Mssmt TapLdk.Asset TapLdk.TapdProof TapLdk.Proof TapLdk.TapdAncestry
open TapLdk.DecodedProofs TapLdk.ProofHistory TapLdk.ProofCourier TapLdk.Wallet
open TapLdk.LibraryRuns TapLdk.WalletImport TapLdk.WalletSteps TapLdk.WalletOutpoint
open TapLdk.WalletTapd
open TapLdk.Tlv (encodeRecord)

/-- Two wallets with the same proofs, UTXOs and metadata. -/
structure SameContents (w next : WalletState) : Prop where
  proofs : next.proofs = w.proofs
  utxos : next.spendableUtxos = w.spendableUtxos
  metadata : next.metadata = w.metadata

/-- A result that leaves the contents of the wallet alone if it is an error. -/
def KeptOnError {α : Type} (w : WalletState) (r : WalletResult α) : Prop :=
  ∀ e, r.1 = .error e → SameContents w r.2

variable {α β : Type} {w : WalletState}

theorem SameContents.refl (w : WalletState) : SameContents w w := ⟨rfl, rfl, rfl⟩

theorem keptOnError_same (r : Except WalletError α) : KeptOnError w (r, w) :=
  fun _ _ => .refl w

theorem keptOnError_ok (a : α) (next : WalletState) : KeptOnError w (.ok a, next) := by
  intro e he
  cases he

theorem keptOnError_replaceOnOk (r : Except WalletError (α × WalletState)) :
    KeptOnError w (replaceOnOk w r) := by
  cases r with
  | error e => exact keptOnError_same _
  | ok result => exact keptOnError_ok _ _

theorem keptOnError_map {f : α → β} {r : WalletResult α} :
    KeptOnError w (mapReply f r) ↔ KeptOnError w r := by
  rcases r with ⟨a | e, next⟩ <;> simp [KeptOnError, mapReply, Except.map]

/-- A proof that was not there before changes the contents. -/
theorem changed_of_new {next : WalletState} {id : String} {stored : StoredProof}
    (hold : w.proofs[id]? ≠ some stored) (hnew : next.proofs[id]? = some stored) :
    ¬ SameContents w next := fun h => hold (h.proofs ▸ hnew)

/-- A replayed history has a transition id. -/
theorem accepted_transition {id : String} {proof : ProofFile} {metadata : WalletProofHistory}
    (h : acceptedWalletProofHistory id proof = .ok metadata) :
    metadata.transitionId ≠ Bytes32.ZERO := by
  simp only [acceptedWalletProofHistory, bind_eq_ok, replayWalletProofHistory,
    replayWalletProofHistoryWithAnchorPolicy, replayWithAnchorPolicy, replayState,
    List.foldlM_cons, List.foldlM_nil, mapError_eq_ok, pure_eq_ok, Except.ok.injEq] at h
  obtain ⟨metadata', -, _, ⟨_, ⟨_, ⟨s, hrecord, -⟩, -⟩, -⟩, _, -, rfl⟩ := h
  have hkeyed : WellKeyed .empty := by
    intro id e he
    simp [ReplayState.empty] at he
  obtain ⟨priors, hstep⟩ := replayRecord_step hkeyed hrecord
  exact hstep.transitionId

theorem importable_of_prepared {proof : ProofFile} {tapdProofFile : Option Bytes}
    {prepared : PreparedImport} (hp : Prepared proof tapdProofFile prepared)
    (hkey : HasKeyPrefix proof.scriptKey) (hfit : TextsFit proof) : Importable proof := by
  refine ⟨hp.verified, hkey, hfit, fun metadata hmetadata => ?_⟩
  have haccepted := acceptedWalletProofHistory_spec hp.history
  rw [hmetadata, Except.ok.injEq] at haccepted
  rw [haccepted]
  exact accepted_transition hp.history

/-- A proof that passes the checks of an import, alone or with its ancestry file. -/
def Passes (proof : ProofFile) (summary : Option TapdProofFileSummary) : Prop :=
  (∃ report, proof.verifySemanticAncestry (contextOf summary) = .ok report) ∧
    ∃ metadata, acceptedWalletProofHistory (proofId proof) proof = .ok metadata

theorem passes_iff {proof : ProofFile} {summary : Option TapdProofFileSummary}
    (tapdProofFile : Option Bytes) :
    Passes proof summary ↔ ∃ prepared, prepareImport proof tapdProofFile summary = .ok prepared := by
  simp only [Passes, prepareImport, contextOf, bind_eq_ok, mapError_eq_ok, pure_eq_ok,
    Except.ok.injEq]
  constructor
  · rintro ⟨⟨report, hreport⟩, metadata, hmetadata⟩
    exact ⟨_, report, hreport, _, encode_eq proof, metadata, hmetadata, rfl⟩
  · rintro ⟨_, report, hreport, _, -, metadata, hmetadata, -⟩
    exact ⟨⟨report, hreport⟩, metadata, hmetadata⟩

/-- A proof new to the wallet that passes the checks of an import, with a key that cannot be
read back. -/
structure WritesBadKey (w : WalletState) (proof : ProofFile)
    (summary : Option TapdProofFileSummary) : Prop where
  passes : Passes proof summary
  new : w.proofs[proofId proof]? = none
  key : ¬ HasKeyPrefix proof.scriptKey

/-- A proof whose key cannot be read back does not validate in the wallet. -/
theorem key_of_valid {next : WalletState} {proof : ProofFile} {tapdProofFile : Option Bytes}
    {prepared : PreparedImport} (hp : Prepared proof tapdProofFile prepared)
    (hfit : TextsFit proof) (hnext : WalletValid next)
    (hget : next.proofs[proofId proof]? = some (prepared.storedProof proof)) :
    HasKeyPrefix proof.scriptKey := by
  obtain ⟨encoded, hencoded, hhex⟩ := hp.proofHex
  obtain ⟨decoded, hvalid⟩ := hnext.proofs _ _ hget
  have htlv : (prepared.storedProof proof).proofTlvHex = encodeHex encoded := hhex
  simp only [validateStoredProof, htlv, WalletImport.decodeHex_encodeHex, bind_eq_ok,
    mapError_eq_ok, Except.ok.injEq] at hvalid
  obtain ⟨_, -, _, rfl, proof', hdecode, -⟩ := hvalid
  exact ((decode_encode_eq_ok hfit hencoded).mp hdecode).1

/-- What a successful import has done to a valid wallet. -/
inductive ImportedOk (w : WalletState) (proof : ProofFile) (tapdProofFile : Option Bytes)
    (anchorState : ProofAnchorState) : WalletState → Prop where
  | present : ImportedOk w proof tapdProofFile anchorState w
  | attached {prepared : PreparedImport} {existing : StoredProof} {file : Bytes}
      (hp : Prepared proof tapdProofFile prepared) (hfile : tapdProofFile = some file)
      (hold : w.proofs[proofId proof]? = some existing)
      (htlv : existing.proofTlvHex = prepared.proofHex)
      (hhistory : existing.matchesProofHistory prepared.proofHistory = true)
      (hnative : existing.tapdRawProofFileHex = none) :
      ImportedOk w proof tapdProofFile anchorState { w with
        proofs := w.proofs.insert (proofId proof) { existing with
          tapdRawProofFileHex := some (encodeHex file)
          tapdRawProofFileDigest := some (sha256 file) } }
  | inserted {prepared : PreparedImport} (hp : Prepared proof tapdProofFile prepared)
      (hnew : w.proofs[proofId proof]? = none) :
      ImportedOk w proof tapdProofFile anchorState
        (w.insertProof (prepared.storedProof proof) (prepared.utxo proof anchorState))

theorem importExisting_ok {next : WalletState} {existing : StoredProof} {proof : ProofFile}
    {tapdProofFile : Option Bytes} {prepared : PreparedImport} {outcome : ImportOutcome}
    {anchorState : ProofAnchorState} (hp : Prepared proof tapdProofFile prepared)
    (hold : w.proofs[proofId proof]? = some existing)
    (h : w.importExisting existing prepared = .ok (outcome, next)) :
    ImportedOk w proof tapdProofFile anchorState next := by
  simp only [WalletState.importExisting, bind_eq_ok, rejectIf_eq_ok, exists_const, ne_eq,
    not_not] at h
  obtain ⟨htlv, hhistory, _, -, h⟩ := h
  split at h
  case isTrue =>
    obtain ⟨-, rfl⟩ := Prod.mk.inj (Except.ok.inj h)
    exact .present
  case isFalse hfile =>
    simp only [bind_eq_ok, pure_eq_ok, Except.ok.injEq] at h
    obtain ⟨_, -, h⟩ := h
    obtain ⟨-, rfl⟩ := Prod.mk.inj h
    rw [not_or, Option.isNone_iff_eq_none, Option.not_isSome_iff_eq_none, hp.tapdHex] at hfile
    obtain ⟨hsome, hnative⟩ := hfile
    cases tapdProofFile with
    | none => exact absurd rfl hsome
    | some file =>
      rw [hp.tapdHex, hp.tapdDigest, hp.proofId]
      exact .attached hp rfl hold htlv hhistory hnative

/-- An import that fails leaves the contents alone, but for a new proof with a bad key; one
that succeeds has found the proof, attached a file to it, or written it. -/
theorem import_cases (hw : WalletValid w) {proof : ProofFile} (hfit : TextsFit proof)
    {tapdProofFile : Option Bytes} {summary : Option TapdProofFileSummary}
    (hfile : SummaryOf tapdProofFile summary) (anchorState : ProofAnchorState)
    {r : WalletResult ImportOutcome}
    (hr : w.importVerifiedProofWithTapd proof tapdProofFile summary anchorState = r) :
    (∃ e, r = (.error e, w) ∧ ¬ WritesBadKey w proof summary) ∨
      (∃ outcome next, r = (.ok outcome, next) ∧
        ImportedOk w proof tapdProofFile anchorState next ∧ ¬ WritesBadKey w proof summary) ∨
      ∃ e, r.1 = .error e ∧ ¬ SameContents w r.2 ∧ WritesBadKey w proof summary := by
  unfold WalletState.importVerifiedProofWithTapd at hr
  cases hprepare : prepareImport proof tapdProofFile summary with
  | error e =>
    rw [hprepare] at hr
    refine .inl ⟨e, hr.symm, fun hbad => ?_⟩
    obtain ⟨prepared, hprepared⟩ := (passes_iff tapdProofFile).mp hbad.passes
    rw [hprepare] at hprepared
    cases hprepared
  | ok prepared =>
    have hp := prepareImport_spec hprepare
    rw [hprepare] at hr
    dsimp only at hr
    rw [hp.proofId] at hr
    cases hold : w.proofs[proofId proof]? with
    | some existing =>
      have hpresent : ¬ WritesBadKey w proof summary := fun hbad => by
        have hnew := hbad.new
        rw [hold] at hnew
        cases hnew
      rw [hold] at hr
      dsimp only at hr
      cases himport : w.importExisting existing prepared with
      | error e =>
        rw [himport] at hr
        exact .inl ⟨e, hr.symm, hpresent⟩
      | ok result =>
        rw [himport] at hr
        exact .inr (.inl ⟨result.1, result.2, hr.symm, importExisting_ok hp hold himport,
          hpresent⟩)
    | none =>
      rw [hold] at hr
      dsimp only at hr
      obtain ⟨report, hverify⟩ := ((passes_iff tapdProofFile).mpr ⟨prepared, hprepare⟩).1
      by_cases hkey : HasKeyPrefix proof.scriptKey
      · have himportable := importable_of_prepared hp hkey hfit
        have hvalid := walletValid_import hw himportable hold hfile hverify hp anchorState
        rw [validate_eq_ok.mpr hvalid] at hr
        exact .inr (.inl ⟨_, _, hr.symm, .inserted hp hold, fun hbad => hbad.key hkey⟩)
      · have hget := (@get_insertProof w _ _ _ hp anchorState).1
        have hbad : WritesBadKey w proof summary :=
          ⟨(passes_iff tapdProofFile).mpr ⟨prepared, hprepare⟩, hold, hkey⟩
        have hchanged := changed_of_new (by rw [hold]; simp) hget
        cases hvalidate : (w.insertProof (prepared.storedProof proof)
            (prepared.utxo proof anchorState)).validate with
        | ok u => exact absurd (key_of_valid hp hfit (validate_eq_ok.mp hvalidate) hget) hkey
        | error e =>
          rw [hvalidate] at hr
          rw [← hr]
          exact .inr (.inr ⟨e, rfl, hchanged, hbad⟩)

/-- A stored proof in its own encoding. -/
theorem stored_spec {stored : StoredProof} {key : String} {proof decoded : ProofFile}
    (hkey : HasKeyPrefix proof.scriptKey) (hfit : TextsFit proof) {encoded : Bytes}
    (hencoded : proof.encode = .ok encoded) (htlv : stored.proofTlvHex = encodeHex encoded)
    (h : validateStoredProof key stored = .ok decoded) :
    decoded = proof ∧ stored.proofId = key ∧
      stored.verificationScope = proof.verificationScope.asStr := by
  have hdecode := decode_encode hkey hfit hencoded
  simp only [validateStoredProof, htlv, WalletImport.decodeHex_encodeHex, bind_eq_ok,
    mapError_eq_ok, rejectIf_eq_ok, ne_eq, not_not, Except.ok.injEq] at h
  obtain ⟨_, hid, _, rfl, proof', hproof, summary, -, _, -, _, -, _, hscope, h⟩ := h
  rw [hdecode, Except.ok.injEq] at hproof
  have hdecoded : decoded = proof' := by
    cases summary with
    | none =>
      simp only [bind_eq_ok, pure_eq_ok, Except.ok.injEq] at h
      exact h.choose_spec.2.symm
    | some summary =>
      simp only [bind_eq_ok, pure_eq_ok, Except.ok.injEq] at h
      obtain ⟨_, -, _, -, rfl⟩ := h
      rfl
  rw [hdecoded, ← hproof]
  rw [← hproof] at hscope
  exact ⟨rfl, hid.symm, hscope.symm⟩

/-- A stored proof with an ancestry file beside it. -/
def withFile (stored : StoredProof) (file : Bytes) : StoredProof :=
  { stored with
    tapdRawProofFileHex := some (encodeHex file)
    tapdRawProofFileDigest := some (sha256 file) }

/-- A file that passes for a stored proof may be put beside it. -/
theorem walletValid_attach (hw : WalletValid w) {proof : ProofFile}
    (hkey : HasKeyPrefix proof.scriptKey) (hfit : TextsFit proof) {file : Bytes}
    {summary : TapdProofFileSummary} (hfile : decodeTapdProofFile file = .ok summary)
    {report : ProofValidationReport}
    (hverify : proof.verifySemanticAncestry (.forTapdImport summary) = .ok report)
    {existing : StoredProof} (hold : w.proofs[proofId proof]? = some existing) {encoded : Bytes}
    (hencoded : proof.encode = .ok encoded) (htlv : existing.proofTlvHex = encodeHex encoded) :
    WalletValid { w with proofs := w.proofs.insert (proofId proof) (withFile existing file) } := by
  obtain ⟨decoded, hvalid⟩ := hw.proofs _ _ hold
  obtain ⟨rfl, hid, hscope⟩ := stored_spec hkey hfit hencoded htlv hvalid
  have hstored : validateStoredProof (proofId decoded) (withFile existing file) = .ok decoded :=
    validateStoredProof_ok hkey hfit (.tapd hfile) hverify hencoded hid htlv hscope rfl rfl
  refine ⟨hw.version, fun key stored hget => ?_, fun key utxo hget => ?_⟩
  · rcases get_insert_eq_some hget with ⟨rfl, rfl⟩ | ⟨-, hget⟩
    · exact ⟨decoded, hstored⟩
    · exact hw.proofs key stored hget
  · obtain ⟨proof, stored, hget', hproof, hutxo⟩ := hw.utxos key utxo hget
    by_cases hsame : utxo.proofId = proofId decoded
    · rw [hsame] at hget' hproof ⊢
      obtain rfl : existing = stored := Option.some.inj (hold.symm.trans hget')
      obtain rfl : decoded = proof := Except.ok.inj (hvalid.symm.trans hproof)
      exact ⟨decoded, withFile existing file, get_insert_self _ _ _, hstored,
        { hutxo with history := hutxo.history, policy := hutxo.policy }⟩
    · exact ⟨proof, stored, (get_insert_ne hsame).trans hget', hproof, hutxo⟩

/-- A bundle that passes its checks with a proof and repeats the history of the proof. -/
structure Repeats (bundle : ProofCourierBundle) (proof : ProofFile) : Prop where
  validate : ∃ validation, bundle.validate = .ok validation ∧ validation.proof = proof
  history : ∃ metadata, walletProofHistoryMetadata bundle.proofId proof = .ok metadata ∧
    bundle.proofHistoryRecordId = metadata.recordId ∧
    bundle.proofHistoryOutputId = metadata.outputId ∧
    bundle.proofHistoryTransitionId = toHex metadata.transitionId

/-- The request that a bundle with an ancestry file makes. -/
def requestOf (proof : ProofFile) (file : Bytes) : TapdProofImportRequest :=
  ⟨proof.assetId, proof.genesisOutpoint, proof.anchorOutpoint, proof.amount, proof.scriptKey, file⟩

theorem openBundle_cases {bundle : ProofCourierBundle} {content : ProofFile ⊕ TapdProofImportRequest} :
    WalletState.openBundle bundle = .ok content ↔ ∃ proof, Repeats bundle proof ∧
      ((bundle.tapdRawProofFileHex = none ∧ content = .inl proof) ∨
        ∃ hex file, bundle.tapdRawProofFileHex = some hex ∧ Wallet.decodeHex hex = .ok file ∧
          content = .inr (requestOf proof file)) := by
  simp only [WalletState.openBundle, bind_eq_ok, mapError_eq_ok, rejectIf_eq_ok, not_or, not_not,
    ne_eq, exists_const]
  constructor
  · rintro ⟨validation, hvalidate, metadata, hmetadata, ⟨hrecord, houtput, htransition⟩, h⟩
    refine ⟨validation.proof, ⟨⟨validation, hvalidate, rfl⟩, metadata, hmetadata, hrecord, houtput,
      htransition⟩, ?_⟩
    cases hhex : bundle.tapdRawProofFileHex with
    | none =>
      rw [hhex] at h
      exact .inl ⟨rfl, (Except.ok.inj h).symm⟩
    | some hex =>
      rw [hhex] at h
      simp only [bind_eq_ok, pure_eq_ok, Except.ok.injEq] at h
      obtain ⟨file, hfile, rfl⟩ := h
      exact .inr ⟨hex, file, rfl, hfile, rfl⟩
  · rintro ⟨_, ⟨⟨validation, hvalidate, rfl⟩, metadata, hmetadata, hfields⟩, h⟩
    refine ⟨validation, hvalidate, metadata, hmetadata, hfields, ?_⟩
    rcases h with ⟨hhex, rfl⟩ | ⟨hex, file, hhex, hfile, rfl⟩
    · rw [hhex]
      rfl
    · rw [hhex, bind_eq_ok]
      exact ⟨file, hfile, rfl⟩

theorem Repeats.spec {bundle : ProofCourierBundle} {proof : ProofFile} (h : Repeats bundle proof) :
    bundle.proofId = proofId proof ∧ Verified proof ∧ HasKeyPrefix proof.scriptKey ∧
      TextsFit proof := by
  obtain ⟨validation, hvalidate, rfl⟩ := h.validate
  obtain ⟨hid, hverified⟩ := validate_spec hvalidate
  refine ⟨hid, hverified, ?_⟩
  simp only [ProofCourierBundle.validate, bind_eq_ok, mapError_eq_ok, pure_eq_ok,
    Except.ok.injEq] at hvalidate
  obtain ⟨_, -, _, -, _, -, _, -, _, -, _, -, _, -, _, -, _, -, _, -, _, -, _, -, proof, hproof,
    _, -, _, -, _, -, _, -, _, -, _, -, _, -, _, -, rfl⟩ := hvalidate
  exact decode_spec hproof

/-- A verified proof is the one that its own request is turned into. -/
theorem buildSemanticProof_requestOf {proof built : ProofFile} (h : Verified proof) {file : Bytes}
    {summary : TapdProofFileSummary}
    (hbuild : (requestOf proof file).buildSemanticProof summary = .ok built)
    (htype : built.assetType = .normal) : built = proof := by
  simp only [TapdProofImportRequest.buildSemanticProof, requestOf, bind_eq_ok, mapError_eq_ok,
    pure_eq_ok, Except.ok.injEq] at hbuild
  obtain ⟨leaf, -, assetType, -, root, hroot, rfl⟩ := hbuild
  have hleaf : deriveHashSumRoot [proof.leaf] = .ok (singleRoot proof.leaf) :=
    deriveHashSumRoot_single h.amount
  have hsame : root = proof.tapAssetRoot := by
    rw [h.root, ← Except.ok.injEq, ← hleaf, ← hroot]
    rfl
  obtain ⟨version, assetId, genesis, anchor, amount, key, root', scope, network, type⟩ := proof
  have hversion := h.version
  have hscope := h.scope
  have hasset := h.assetType
  cases network
  simp only at hversion hscope hasset hsame htype
  rw [hversion, hscope, hasset, hsame, htype]

/-- The built proof of a request passes only under the type that a verified proof has. -/
theorem passes_verified {proof : ProofFile} {summary : Option TapdProofFileSummary}
    (h : Passes proof summary) : Verified proof := by
  obtain ⟨⟨report, hverify⟩, -⟩ := h
  refine verified_of_verify ?_ hverify
  cases summary <;> rfl

theorem repeats_history {bundle : ProofCourierBundle} {proof : ProofFile}
    (h : Repeats bundle proof) {metadata : WalletProofHistory}
    (hmetadata : acceptedWalletProofHistory (proofId proof) proof = .ok metadata) :
    bundle.proofHistoryRecordId = metadata.recordId ∧
      bundle.proofHistoryOutputId = metadata.outputId ∧
      bundle.proofHistoryTransitionId = toHex metadata.transitionId := by
  obtain ⟨metadata', hmetadata', hfields⟩ := h.history
  rw [h.spec.1, acceptedWalletProofHistory_spec hmetadata, Except.ok.injEq] at hmetadata'
  rw [hmetadata']
  exact hfields

/-- A proof that a bundle has just written has the bundle's history and anchor state. -/
theorem requireImported_inserted {bundle : ProofCourierBundle} {proof : ProofFile}
    (h : Repeats bundle proof) {tapdProofFile : Option Bytes} {prepared : PreparedImport}
    (hp : Prepared proof tapdProofFile prepared) :
    (w.insertProof (prepared.storedProof proof)
      (prepared.utxo proof bundle.anchorState)).requireImportedBundleState bundle = .ok () := by
  obtain ⟨hrecord, houtput, htransition⟩ := repeats_history h hp.history
  simp [WalletState.requireImportedBundleState, WalletState.insertProof, h.spec.1, hp.proofId, okOr,
    PreparedImport.storedProof, PreparedImport.utxo, hrecord, houtput, htransition, rejectIf]

/-- The UTXO under the id of a bundle, in the state that the bundle gives it. -/
def BacksBundle (w : WalletState) (bundle : ProofCourierBundle) : Prop :=
  ∃ utxo, w.spendableUtxos[bundle.proofId]? = some utxo ∧
    utxo.proofHistoryOutputId = bundle.proofHistoryOutputId ∧
    utxo.anchorState = bundle.anchorState

theorem requireImported_attached {bundle : ProofCourierBundle} {proof : ProofFile}
    (h : Repeats bundle proof) {metadata : WalletProofHistory}
    (hmetadata : acceptedWalletProofHistory (proofId proof) proof = .ok metadata)
    {existing : StoredProof} (hmatches : existing.matchesProofHistory metadata = true)
    {file : Bytes} {u : Unit} :
    ({ w with proofs := w.proofs.insert (proofId proof) (withFile existing file) } :
      WalletState).requireImportedBundleState bundle = .ok u ↔ BacksBundle w bundle := by
  obtain ⟨hrecord, houtput, htransition⟩ := repeats_history h hmetadata
  simp only [StoredProof.matchesProofHistory, Bool.and_eq_true, beq_iff_eq] at hmatches
  obtain ⟨⟨hsameRecord, hsameOutput⟩, hsameTransition⟩ := hmatches
  have hget : (w.proofs.insert (proofId proof) (withFile existing file))[bundle.proofId]? =
      some (withFile existing file) := by
    rw [h.spec.1]
    exact get_insert_self _ _ _
  have hstored : (withFile existing file).proofHistoryRecordId = bundle.proofHistoryRecordId ∧
      (withFile existing file).proofHistoryOutputId = bundle.proofHistoryOutputId ∧
      (withFile existing file).proofHistoryTransitionId = bundle.proofHistoryTransitionId :=
    ⟨hsameRecord.trans hrecord.symm, hsameOutput.trans houtput.symm,
      hsameTransition.trans htransition.symm⟩
  simp only [WalletState.requireImportedBundleState, hget, okOr, ok_bind, bind_eq_ok,
    rejectIf_eq_ok, not_or, not_not, ne_eq, hstored, true_and, BacksBundle]
  constructor
  · rintro ⟨utxo, hutxo, hstate⟩
    cases hold : w.spendableUtxos[bundle.proofId]? with
    | none =>
      rw [hold] at hutxo
      cases hutxo
    | some found =>
      rw [hold, Except.ok.injEq] at hutxo
      exact ⟨found, rfl, hutxo ▸ hstate⟩
  · rintro ⟨utxo, hutxo, hstate⟩
    rw [hutxo]
    exact ⟨utxo, rfl, hstate⟩

/-- A bundle whose ancestry file the wallet takes for a stored proof that has none, while its
UTXO under the bundle's id, if it has one, is not in the bundle's state. -/
structure StrandsFile (w : WalletState) (bundle : ProofCourierBundle) : Prop where
  takes : ∃ proof hex file summary existing encoded metadata, Repeats bundle proof ∧
    bundle.tapdRawProofFileHex = some hex ∧ Wallet.decodeHex hex = .ok file ∧
    decodeTapdProofFile file = .ok summary ∧
    (∃ report, proof.verifySemanticAncestry (.forTapdImport summary) = .ok report) ∧
    acceptedWalletProofHistory bundle.proofId proof = .ok metadata ∧
    w.proofs[bundle.proofId]? = some existing ∧ existing.tapdRawProofFileHex = none ∧
    proof.encode = .ok encoded ∧ existing.proofTlvHex = encodeHex encoded ∧
    existing.matchesProofHistory metadata = true
  unmet : ¬ BacksBundle w bundle

/-- The request of an accepted bundle turns into the proof of the bundle, if it passes. -/
theorem buildTapdImport_requestOf {bundle : ProofCourierBundle} {proof built : ProofFile}
    (h : Repeats bundle proof) {file : Bytes} {summary : TapdProofFileSummary}
    (hbuild : WalletState.buildTapdImport (requestOf proof file) = .ok (summary, built))
    (hpasses : Passes built (some summary)) :
    built = proof ∧ decodeTapdProofFile file = .ok summary := by
  simp only [WalletState.buildTapdImport, bind_eq_ok, mapError_eq_ok, pure_eq_ok,
    Except.ok.injEq] at hbuild
  obtain ⟨summary', hdecode, built', hsemantic, hpair⟩ := hbuild
  obtain ⟨rfl, rfl⟩ := Prod.mk.inj hpair
  have htype := (passes_verified hpasses).assetType
  exact ⟨buildSemanticProof_requestOf h.spec.2.1 hsemantic htype, hdecode⟩

/-- A verified proof is built from its own request and a file it passes with. -/
theorem buildTapdImport_of_verified {proof : ProofFile} (h : Verified proof) {file : Bytes}
    {summary : TapdProofFileSummary} (hdecode : decodeTapdProofFile file = .ok summary)
    {report : ProofValidationReport}
    (hverify : proof.verifySemanticAncestry (.forTapdImport summary) = .ok report) :
    WalletState.buildTapdImport (requestOf proof file) = .ok (summary, proof) := by
  obtain ⟨-, leaf, hlatest, hsame, -, -⟩ := validateTapdAncestry_spec (verify_tapd hverify)
  have htype : AssetType.fromU8 leaf.assetType = .ok .normal := by
    rw [hsame.assetType, h.assetType]
    rfl
  have hroot : deriveHashSumRoot [⟨(requestOf proof file).assetId, (requestOf proof file).scriptKey,
      (requestOf proof file).amount⟩] = .ok (singleRoot proof.leaf) :=
    @deriveHashSumRoot_single proof.leaf h.amount
  obtain ⟨built, hbuild, hnormal⟩ : ∃ built,
      (requestOf proof file).buildSemanticProof summary = .ok built ∧
        built.assetType = .normal := by
    simp [TapdProofImportRequest.buildSemanticProof, hlatest, htype, hroot, okOr, Except.mapError]
  rw [buildSemanticProof_requestOf h hbuild hnormal] at hbuild
  have hfile : (requestOf proof file).tapdProofFile = file := rfl
  rw [WalletState.buildTapdImport, hfile, mapError_eq_ok.mpr hdecode, ok_bind, hbuild]
  rfl

theorem importBundle_native {bundle : ProofCourierBundle} {proof : ProofFile}
    (hopen : WalletState.openBundle bundle = .ok (.inl proof)) {r : WalletResult ImportOutcome}
    (hr : w.importVerifiedProofWithAnchorState proof bundle.anchorState = r) :
    w.importProofCourierBundle bundle =
      (r.1 >>= fun outcome => r.2.requireImportedBundleState bundle >>= fun _ => .ok outcome,
        r.2) := by
  rw [WalletState.importProofCourierBundle, hopen]
  dsimp only
  rw [hr]

theorem importBundle_tapd {bundle : ProofCourierBundle} {request : TapdProofImportRequest}
    (hopen : WalletState.openBundle bundle = .ok (.inr request)) {r : WalletResult ImportOutcome}
    (hr : w.importTapdProofFileWithAnchorState request bundle.anchorState = r) :
    w.importProofCourierBundle bundle =
      (r.1 >>= fun outcome => r.2.requireImportedBundleState bundle >>= fun _ => .ok outcome,
        r.2) := by
  rw [WalletState.importProofCourierBundle, hopen]
  dsimp only
  rw [hr]

/-- After a successful import, a bundle fails with a changed wallet only where a file was
attached for a UTXO in another state. -/
theorem bundle_after_import {bundle : ProofCourierBundle} {proof : ProofFile}
    (h : Repeats bundle proof) {tapdProofFile : Option Bytes} {next : WalletState}
    {outcome : ImportOutcome}
    (himport : ImportedOk w proof tapdProofFile bundle.anchorState next)
    (hmet : ∀ (existing : StoredProof) (metadata : WalletProofHistory) (encoded : Bytes),
      tapdProofFile ≠ none → w.proofs[proofId proof]? = some existing →
      acceptedWalletProofHistory (proofId proof) proof = .ok metadata →
      existing.tapdRawProofFileHex = none → proof.encode = .ok encoded →
      existing.proofTlvHex = encodeHex encoded → existing.matchesProofHistory metadata = true →
      BacksBundle w bundle) :
    KeptOnError w
      (((.ok outcome : Except WalletError ImportOutcome) >>= fun outcome =>
        next.requireImportedBundleState bundle >>= fun _ => .ok outcome), next) := by
  cases himport with
  | present => exact keptOnError_same _
  | inserted hp hnew =>
    rw [ok_bind, requireImported_inserted h hp, ok_bind]
    exact keptOnError_ok _ _
  | attached hp hfile hold htlv hhistory hnative =>
    rename_i prepared existing file
    obtain ⟨encoded, hencoded, hhex⟩ := hp.proofHex
    have hbacks := hmet existing _ encoded (by simp [hfile]) hold hp.history hnative hencoded
      (htlv.trans hhex) hhistory
    have hrequire :=
      (@requireImported_attached w _ _ h _ hp.history _ hhistory file ()).mpr hbacks
    rw [ok_bind]
    change KeptOnError w ((WalletState.requireImportedBundleState
      { w with proofs := w.proofs.insert (proofId proof) (withFile existing file) } bundle >>=
        fun _ => Except.ok outcome), _)
    rw [hrequire, ok_bind]
    exact keptOnError_ok _ _

theorem bundle_keeps (hw : WalletValid w) {bundle : ProofCourierBundle}
    (h : ¬ StrandsFile w bundle) : KeptOnError w (w.importProofCourierBundle bundle) := by
  cases hopen : WalletState.openBundle bundle with
  | error e =>
    rw [WalletState.importProofCourierBundle, hopen]
    exact keptOnError_same _
  | ok content =>
    obtain ⟨proof, hrepeats, hcontent⟩ := openBundle_cases.mp hopen
    obtain ⟨hid, -, hkey, hfit⟩ := hrepeats.spec
    rcases hcontent with ⟨-, rfl⟩ | ⟨hex, file, hhex, hfile, rfl⟩
    · generalize hr : w.importVerifiedProofWithAnchorState proof bundle.anchorState = r
      rw [importBundle_native hopen hr]
      rcases import_cases hw hfit .native bundle.anchorState hr with
        ⟨e, rfl, -⟩ | ⟨outcome, next, rfl, himport, -⟩ | ⟨e, -, -, hbad⟩
      · exact keptOnError_same _
      · exact bundle_after_import hrepeats himport
          fun existing metadata encoded hne => absurd rfl hne
      · exact absurd hkey hbad.key
    · generalize hr : w.importTapdProofFileWithAnchorState (requestOf proof file)
        bundle.anchorState = r
      rw [importBundle_tapd hopen hr]
      unfold WalletState.importTapdProofFileWithAnchorState at hr
      cases hbuild : WalletState.buildTapdImport (requestOf proof file) with
      | error e =>
        rw [hbuild] at hr
        rw [← hr]
        exact keptOnError_same _
      | ok built =>
        obtain ⟨summary, built⟩ := built
        rw [hbuild] at hr
        dsimp only at hr
        by_cases hpasses : Passes built (some summary)
        · obtain ⟨rfl, hdecode⟩ := buildTapdImport_requestOf hrepeats hbuild hpasses
          rcases import_cases hw hfit (.tapd hdecode) bundle.anchorState hr with
            ⟨e, rfl, -⟩ | ⟨outcome, next, rfl, himport, -⟩ | ⟨e, -, -, hbad⟩
          · exact keptOnError_same _
          · refine bundle_after_import hrepeats himport fun existing metadata encoded _ hold
              hmetadata hnative hencoded htlv hmatches => ?_
            by_contra hunmet
            rw [← hid] at hold hmetadata
            exact h ⟨⟨built, hex, file, summary, existing, encoded, metadata, hrepeats, hhex, hfile,
              hdecode, hpasses.1, hmetadata, hold, hnative, hencoded, htlv, hmatches⟩, hunmet⟩
          · exact absurd hkey hbad.key
        · have herror : ∃ e, prepareImport built (some file) (some summary) = .error e := by
            cases hprepare : prepareImport built (some file) (some summary) with
            | error e => exact ⟨e, rfl⟩
            | ok prepared => exact absurd ((passes_iff (some file)).mpr ⟨_, hprepare⟩) hpasses
          obtain ⟨e, he⟩ := herror
          have htapd : (requestOf proof file).tapdProofFile = file := rfl
          rw [htapd, WalletState.importVerifiedProofWithTapd, he] at hr
          rw [← hr]
          exact keptOnError_same _

/-- A stranded file stays in the wallet of a failed import. -/
theorem bundle_strands (hw : WalletValid w) {bundle : ProofCourierBundle}
    (h : StrandsFile w bundle) : ∃ e, (w.importProofCourierBundle bundle).1 = .error e ∧
      ¬ SameContents w (w.importProofCourierBundle bundle).2 := by
  obtain ⟨proof, hex, file, summary, existing, encoded, metadata, hrepeats, hhex, hfile, hdecode,
    ⟨report, hverify⟩, hmetadata, hold, hnative, hencoded, htlv, hmatches⟩ := h.takes
  obtain ⟨hid, hverified, hkey, hfit⟩ := hrepeats.spec
  rw [hid] at hmetadata hold
  have hopen : WalletState.openBundle bundle = .ok (.inr (requestOf proof file)) :=
    openBundle_cases.mpr ⟨proof, hrepeats, .inr ⟨hex, file, hhex, hfile, rfl⟩⟩
  have hvalid := walletValid_attach hw hkey hfit hdecode hverify hold hencoded htlv
  have hprepare : prepareImport proof (some file) (some summary) = .ok
      ⟨proofId proof, encodeHex encoded, metadata, some (encodeHex file), some (sha256 file)⟩ := by
    simp [prepareImport, hverify, hencoded, hmetadata, Except.mapError]
  have himport : w.importTapdProofFileWithAnchorState (requestOf proof file) bundle.anchorState =
      (.ok (.imported (proofId proof)),
        { w with proofs := w.proofs.insert (proofId proof) (withFile existing file) }) := by
    have hfileOf : (requestOf proof file).tapdProofFile = file := rfl
    have hvalidate := validate_eq_ok.mpr hvalid
    rw [WalletState.importTapdProofFileWithAnchorState,
      buildTapdImport_of_verified hverified hdecode hverify]
    dsimp only
    rw [hfileOf, WalletState.importVerifiedProofWithTapd, hprepare]
    dsimp only
    rw [hold]
    dsimp only
    have hexisting : w.importExisting existing ⟨proofId proof, encodeHex encoded, metadata,
        some (encodeHex file), some (sha256 file)⟩ = .ok (.imported (proofId proof),
          { w with proofs := w.proofs.insert (proofId proof) (withFile existing file) }) := by
      have hother : WalletState.rejectOtherTapdFile (proofId proof) existing.tapdRawProofFileHex
          (some (encodeHex file)) = .ok () := by
        rw [hnative]
        rfl
      rw [WalletState.importExisting]
      dsimp only
      rw [rejectIf_false (not_not.mpr htlv), ok_bind, rejectIf_false (not_not.mpr hmatches), ok_bind,
        hother, ok_bind, if_neg (by simp [hnative])]
      change (WalletState.validate
        { w with proofs := w.proofs.insert (proofId proof) (withFile existing file) } >>= _) = _
      rw [hvalidate]
      rfl
    rw [hexisting]
    rfl
  rw [importBundle_tapd hopen himport]
  cases hrequire : WalletState.requireImportedBundleState
      { w with proofs := w.proofs.insert (proofId proof) (withFile existing file) } bundle with
  | ok u => exact absurd ((requireImported_attached hrepeats hmetadata hmatches).mp hrequire) h.unmet
  | error e =>
    refine ⟨e, rfl, ?_⟩
    refine @changed_of_new _ _ (proofId proof) (withFile existing file) ?_
      (get_insert_self _ _ _)
    rw [hold]
    intro heq
    have hsome := congrArg StoredProof.tapdRawProofFileHex (Option.some.inj heq)
    rw [hnative] at hsome
    cases hsome

/-- The texts of an operation fit a machine, as every string does. -/
def Fits : WalletOp → Prop
  | .importVerifiedProof proof | .importVerifiedProofWithAnchorState proof _ => TextsFit proof
  | .importTapdProofFile request | .importTapdProofFileWithAnchorState request _ =>
    (utf8 request.genesisOutpoint).length < 2 ^ 64 ∧ (utf8 request.anchorOutpoint).length < 2 ^ 64
  | _ => True

/-- The operations that fail and leave something behind. -/
def Spoils (w : WalletState) : WalletOp → Prop
  | .importVerifiedProof proof | .importVerifiedProofWithAnchorState proof _ =>
    WritesBadKey w proof none
  | .issueRegtestAsset request =>
    ∃ proof, request.buildProof = .ok proof ∧ WritesBadKey w proof none
  | .importProofCourierBundle bundle => StrandsFile w bundle
  | _ => False

/-- The proof built from a request has the texts of the request. -/
theorem buildTapdImport_spec {request : TapdProofImportRequest} {summary : TapdProofFileSummary}
    {proof : ProofFile} (h : WalletState.buildTapdImport request = .ok (summary, proof)) :
    decodeTapdProofFile request.tapdProofFile = .ok summary ∧
      proof.genesisOutpoint = request.genesisOutpoint ∧
      proof.anchorOutpoint = request.anchorOutpoint := by
  simp only [WalletState.buildTapdImport, TapdProofImportRequest.buildSemanticProof, bind_eq_ok,
    mapError_eq_ok, pure_eq_ok, Except.ok.injEq] at h
  obtain ⟨summary', hdecode, _, ⟨leaf, -, assetType, -, root, -, rfl⟩, hpair⟩ := h
  obtain ⟨rfl, rfl⟩ := Prod.mk.inj hpair
  exact ⟨hdecode, rfl, rfl⟩

theorem import_kept_iff (hw : WalletValid w) {proof : ProofFile} (hfit : TextsFit proof)
    (anchorState : ProofAnchorState) :
    KeptOnError w (w.importVerifiedProofWithAnchorState proof anchorState) ↔
      ¬ WritesBadKey w proof none := by
  generalize hr : w.importVerifiedProofWithAnchorState proof anchorState = r
  rcases import_cases hw hfit .native anchorState hr with
    ⟨e, rfl, hgood⟩ | ⟨outcome, next, rfl, -, hgood⟩ | ⟨e, he, hchanged, hbad⟩
  · exact iff_of_true (keptOnError_same _) hgood
  · exact iff_of_true (keptOnError_ok _ _) hgood
  · exact iff_of_false (fun hkept => hchanged (hkept e he)) (not_not.mpr hbad)

/-- The import of an ancestry file never fails with a changed wallet: its key can be read. -/
theorem importTapd_keeps (hw : WalletValid w) {request : TapdProofImportRequest}
    (hfit : (utf8 request.genesisOutpoint).length < 2 ^ 64 ∧
      (utf8 request.anchorOutpoint).length < 2 ^ 64) (anchorState : ProofAnchorState) :
    KeptOnError w (w.importTapdProofFileWithAnchorState request anchorState) := by
  cases hbuild : WalletState.buildTapdImport request with
  | error e =>
    rw [WalletState.importTapdProofFileWithAnchorState, hbuild]
    exact keptOnError_same _
  | ok built =>
    obtain ⟨summary, proof⟩ := built
    obtain ⟨hdecode, hgenesis, hanchor⟩ := buildTapdImport_spec hbuild
    rw [← hgenesis, ← hanchor] at hfit
    rw [WalletState.importTapdProofFileWithAnchorState, hbuild]
    dsimp only
    generalize hr : w.importVerifiedProofWithTapd _ _ _ _ = r
    rcases import_cases hw hfit (.tapd hdecode) anchorState hr with
      ⟨e, rfl, -⟩ | ⟨outcome, next, rfl, -, -⟩ | ⟨e, -, -, hbad⟩
    · exact keptOnError_same _
    · exact keptOnError_ok _ _
    · obtain ⟨⟨report, hverify⟩, -⟩ := hbad.passes
      exact absurd (tapd_hasKeyPrefix hdecode hverify) hbad.key

theorem toHex_length_lt {n : ℕ} (b : FixedBytes n) (hn : n < 2 ^ 62) :
    (utf8 (toHex b ++ ":0")).length < 2 ^ 64 := by
  have hsuffix : (utf8 ":0").length = 2 := by decide
  rw [utf8_append, List.length_append, toHex, utf8_encodeHex_length, b.length_eq, hsuffix]
  omega

theorem buildProof_fits {request : RegtestIssueRequest} {proof : ProofFile}
    (h : request.buildProof = .ok proof) : TextsFit proof := by
  simp only [RegtestIssueRequest.buildProof, bind_eq_ok, mapError_eq_ok, pure_eq_ok,
    Except.ok.injEq] at h
  obtain ⟨_, -, _, -, root, -, rfl⟩ := h
  exact ⟨toHex_length_lt _ (by decide), toHex_length_lt _ (by decide)⟩

/-- A failed operation leaves the contents of a valid wallet alone exactly when it neither
writes a new proof with a bad key nor strands an ancestry file. -/
theorem errors_keep_wallet_iff (w : WalletState) (op : WalletOp) (hw : w.validate = .ok ())
    (hfit : Fits op) : KeptOnError w (step w op) ↔ ¬ Spoils w op := by
  have hvalid := validate_eq_ok.mp hw
  cases op with
  | importVerifiedProof proof => exact keptOnError_map.trans (import_kept_iff hvalid hfit .confirmed)
  | importVerifiedProofWithAnchorState proof anchorState =>
    exact keptOnError_map.trans (import_kept_iff hvalid hfit anchorState)
  | importEncodedProof bytes =>
    refine iff_of_true (keptOnError_map.mpr ?_) not_false
    cases hdecode : ProofFile.decode bytes with
    | error e =>
      rw [WalletState.importEncodedProof, hdecode]
      exact keptOnError_same _
    | ok proof =>
      obtain ⟨hkey, htexts⟩ := decode_spec hdecode
      rw [WalletState.importEncodedProof, hdecode]
      exact (import_kept_iff hvalid htexts .confirmed).mpr fun hbad => hbad.key hkey
  | importTapdProofFile request =>
    exact iff_of_true (keptOnError_map.mpr (importTapd_keeps hvalid hfit .confirmed)) not_false
  | importTapdProofFileWithAnchorState request anchorState =>
    exact iff_of_true (keptOnError_map.mpr (importTapd_keeps hvalid hfit anchorState)) not_false
  | importProofCourierBundle bundle =>
    refine keptOnError_map.trans ⟨fun hkept hstrands => ?_, fun h => bundle_keeps hvalid h⟩
    obtain ⟨e, he, hchanged⟩ := bundle_strands hvalid hstrands
    exact hchanged (hkept e he)
  | issueRegtestAsset request =>
    refine keptOnError_map.trans ?_
    cases hbuild : request.buildProof with
    | error e =>
      rw [WalletState.issueRegtestAsset, hbuild]
      exact iff_of_true (keptOnError_same _) (by simp [Spoils, hbuild])
    | ok proof =>
      have hiff : KeptOnError w (w.importVerifiedProof proof) ↔ ¬ WritesBadKey w proof none :=
        import_kept_iff hvalid (buildProof_fits hbuild) .confirmed
      have hissue : KeptOnError w (w.issueRegtestAsset request) ↔
          KeptOnError w (w.importVerifiedProof proof) := by
        rw [WalletState.issueRegtestAsset, hbuild]
        exact keptOnError_map
      rw [hissue]
      simpa [Spoils, hbuild] using hiff
  | updateAnchorState anchorOutpoint anchorState =>
    exact iff_of_true (keptOnError_map.mpr (keptOnError_replaceOnOk _)) not_false
  | sendLocalTransfer request =>
    exact iff_of_true (keptOnError_map.mpr (keptOnError_replaceOnOk _)) not_false

/-- The bundle that a wallet exports for a proof and an ancestry file. -/
def bundleOf (proof : ProofFile) (encoded : Bytes) (metadata : WalletProofHistory)
    (anchorState : ProofAnchorState) (file : Bytes) : ProofCourierBundle :=
  { version := proofCourierBundleSchemaVersion
    transport := proofCourierTransport
    proofId := proofId proof
    assetId := toHex proof.assetId
    amount := proof.amount
    scriptKey := toHex proof.scriptKey
    genesisOutpoint := proof.genesisOutpoint
    anchorOutpoint := proof.anchorOutpoint
    anchorState
    proofHistoryRecordId := metadata.recordId
    proofHistoryOutputId := metadata.outputId
    proofHistoryTransitionId := toHex metadata.transitionId
    proofTlvHex := proofHexFor encoded
    proofTlvDigest := proofDigestFor encoded
    tapdRawProofFileHex := some (encodeHex file)
    tapdRawProofFileDigest := some (sha256 file) }

theorem encodeHex_ne_empty {bs : Bytes} (h : bs ≠ []) : encodeHex bs ≠ "" := by
  intro hempty
  have hlength := utf8_encodeHex_length bs
  have hpos := List.length_pos_iff.mpr h
  have hzero : (utf8 "").length = 0 := by decide
  rw [hempty, hzero] at hlength
  omega

theorem toHex_ne_empty {n : ℕ} (b : FixedBytes n) (hn : 0 < n) : toHex b ≠ "" := by
  apply encodeHex_ne_empty
  apply List.ne_nil_of_length_pos
  rw [b.length_eq]
  exact hn

theorem decodeHexText_encodeHex {bs : Bytes} (h : bs ≠ []) :
    decodeHexText (encodeHex bs) = .ok bs := by
  have hdigits : ∀ v < 16, isWhitespace (hexChar v) = false := by decide
  have hcompact : (encodeHex bs).toList.filter (fun c => !isWhitespace c) =
      (encodeHex bs).toList := by
    apply List.filter_eq_self.mpr
    intro c hc
    obtain ⟨v, hv, rfl⟩ := mem_encodeHex hc
    rw [hdigits v hv]
    rfl
  have heven : ¬ (utf8 (encodeHex bs)).length % 2 ≠ 0 := by
    rw [utf8_encodeHex_length]
    omega
  rw [decodeHexText, hcompact, String.ofList_toList]
  rw [rejectIf_false (encodeHex_ne_empty h), ok_bind, rejectIf_false heven, ok_bind]
  exact decodeHexPairs_encodeHex _ _ bs

theorem outpoint_ne_empty {value : String} {outpoint : ParsedOutpoint}
    (h : outpointOf value = some outpoint) : value ≠ "" := by
  rintro rfl
  have hnone : outpointOf "" = none := by decide
  rw [hnone] at h
  cases h

/-- A bundle made for an importable proof with a file it passes with is accepted. -/
theorem bundleOf_repeats {proof : ProofFile} (h : Importable proof) {encoded : Bytes}
    (hencoded : proof.encode = .ok encoded) {metadata : WalletProofHistory}
    (hmetadata : walletProofHistoryMetadata (proofId proof) proof = .ok metadata)
    (anchorState : ProofAnchorState) {file : Bytes} {summary : TapdProofFileSummary}
    (hdecode : decodeTapdProofFile file = .ok summary) (hfile : file ≠ [])
    {report : ProofValidationReport}
    (hverify : proof.verifySemanticAncestry (.forTapdImport summary) = .ok report) :
    Repeats (bundleOf proof encoded metadata anchorState file) proof := by
  obtain ⟨genesis, anchor, hgenesis, hanchor, -⟩ := h.verified.outpoints
  obtain ⟨hrecord, houtput⟩ := walletProofHistoryMetadata_spec hmetadata
  have hproof := decode_encode h.key h.fit hencoded
  have hne : encoded ≠ [] := by
    rintro rfl
    cases hproof
  have hid : proofIdFor proof = proofId proof := rfl
  have hraw := decodeTapdProofFile_rawDigest hdecode
  have hrecordId : metadata.recordId ≠ "" := hrecord ▸ recordId_ne_empty proof
  have houtputId : metadata.outputId ≠ "" := houtput ▸ proofId_ne_empty proof
  refine ⟨?_, metadata, hmetadata, rfl, rfl, rfl⟩
  simp [ProofCourierBundle.validate, bundleOf, rejectIf, requireNonempty, proofId_ne_empty,
    toHex_ne_empty, outpoint_ne_empty hgenesis, outpoint_ne_empty hanchor, hrecordId, houtputId,
    proofHexFor, proofDigestFor, decodeHexText_encodeHex hne, hproof, requireField, hid,
    ProofCourierBundle.tapdSummary, decodeHexText_encodeHex hfile, hdecode, hraw, hverify,
    Except.mapError]

/-- A wallet with a stored proof whose anchor is pending, and a bundle that gives the proof its
ancestry file with a confirmed anchor. -/
theorem strands_pending {proof : ProofFile} (h : Importable proof) {prepared : PreparedImport}
    (hp : Prepared proof none prepared) {encoded : Bytes} (hencoded : proof.encode = .ok encoded)
    {file : Bytes} {summary : TapdProofFileSummary}
    (hdecode : decodeTapdProofFile file = .ok summary) (hfile : file ≠ [])
    {report : ProofValidationReport}
    (hverify : proof.verifySemanticAncestry (.forTapdImport summary) = .ok report) :
    StrandsFile (w.insertProof (prepared.storedProof proof) (prepared.utxo proof .pending))
      (bundleOf proof encoded prepared.proofHistory .confirmed file) := by
  have hmetadata := acceptedWalletProofHistory_spec hp.history
  have hrepeats := bundleOf_repeats h hencoded hmetadata .confirmed hdecode hfile hverify
  obtain ⟨hstored, hutxo⟩ := @get_insertProof w _ _ _ hp .pending
  obtain ⟨encoded', hencoded', hhex⟩ := hp.proofHex
  obtain rfl : encoded = encoded' := Except.ok.inj (hencoded.symm.trans hencoded')
  refine ⟨⟨proof, encodeHex file, file, summary, prepared.storedProof proof, encoded,
    prepared.proofHistory, hrepeats, rfl, WalletImport.decodeHex_encodeHex file, hdecode,
    ⟨report, hverify⟩, hp.history, hstored, hp.tapdHex, hencoded, hhex, ?_⟩, ?_⟩
  · simp [StoredProof.matchesProofHistory, PreparedImport.storedProof]
  · rintro ⟨utxo, hget, -, hstate⟩
    rw [show (bundleOf proof encoded prepared.proofHistory .confirmed file).proofId =
      proofId proof from rfl, hutxo, Option.some.injEq] at hget
    rw [← hget] at hstate
    cases hstate

/-- The wallet after one proof was imported under a pending anchor. -/
def pendingRun : List WalletOp :=
  [.importVerifiedProofWithAnchorState (tapdProof regtestAnchor) .pending]

theorem pendingRun_spec : ∃ prepared, Prepared (tapdProof regtestAnchor) none prepared ∧
    walletMachine.run pendingRun =
      WalletState.default.insertProof (prepared.storedProof (tapdProof regtestAnchor))
        (prepared.utxo (tapdProof regtestAnchor) .pending) ∧
    (walletMachine.run pendingRun).validate = .ok () := by
  obtain ⟨prepared, hp, himport, hvalid⟩ := importVerifiedProof_new walletValid_default
    tapdAnchor_importable (by simp [WalletState.default]) .pending
  have hrun := walletMachine_concat []
    (.importVerifiedProofWithAnchorState (tapdProof regtestAnchor) .pending)
  rw [List.nil_append, Machine.run_nil] at hrun
  have hstart : walletMachine.start = .default := rfl
  rw [hstart, step, himport, mapReply] at hrun
  refine ⟨prepared, hp, hrun, ?_⟩
  rw [pendingRun, hrun]
  exact validate_eq_ok.mpr hvalid

/-- The history that an import writes for a proof. -/
def historyOf (proof : ProofFile) : WalletProofHistory :=
  ⟨s!"wallet-import:{proofId proof}", proofId proof,
    taggedHash (utf8 "tap-ldk:wallet-proof-history-transition:v1")
      (utf8 (proofId proof) ++ proof.records.flatMap encodeRecord)⟩

theorem walletProofHistoryMetadata_eq (proof : ProofFile) :
    walletProofHistoryMetadata (proofId proof) proof = .ok (historyOf proof) := by
  rw [walletProofHistoryMetadata, encode_eq]
  rfl

/-- The bundle of that proof with its ancestry file, under a confirmed anchor. -/
def confirmedBundle : ProofCourierBundle :=
  bundleOf (tapdProof regtestAnchor) ((tapdProof regtestAnchor).records.flatMap encodeRecord)
    (historyOf (tapdProof regtestAnchor)) .confirmed twoAssetFile

theorem confirmedBundle_strands : (walletMachine.run pendingRun).validate = .ok () ∧
    StrandsFile (walletMachine.run pendingRun) confirmedBundle := by
  obtain ⟨prepared, hp, hrun, hvalid⟩ := pendingRun_spec
  obtain ⟨summary, report, hdecode, -, hverify⟩ := twoAssetFile_accepted
  have hhistory : prepared.proofHistory = historyOf (tapdProof regtestAnchor) := by
    have haccepted := acceptedWalletProofHistory_spec hp.history
    rw [walletProofHistoryMetadata_eq, Except.ok.injEq] at haccepted
    exact haccepted.symm
  have hfile : twoAssetFile ≠ [] := by
    intro hnil
    rw [hnil] at hdecode
    cases hdecode
  have hstrands := @strands_pending .default _ tapdAnchor_importable _ hp _ (encode_eq _) _ _
    hdecode hfile _ hverify
  rw [← hrun, hhistory] at hstrands
  exact ⟨hvalid, hstrands⟩

/-- The failed import of the bundle leaves its ancestry file in the valid wallet. -/
theorem stranded_file_stays : (walletMachine.run pendingRun).validate = .ok () ∧
    ¬ KeptOnError (walletMachine.run pendingRun)
      (step (walletMachine.run pendingRun) (.importProofCourierBundle confirmedBundle)) := by
  obtain ⟨hvalid, hstrands⟩ := confirmedBundle_strands
  refine ⟨hvalid, fun hkept => ?_⟩
  obtain ⟨e, he, hchanged⟩ := bundle_strands (validate_eq_ok.mp hvalid) hstrands
  exact hchanged (keptOnError_map.mp hkept e he)

/-- The bundle reaches the insertion and spoils the wallet, and bytes that cannot be decoded do
not. -/
theorem errors_keep_wallet_iff_bundle :
    (∃ e, (step (walletMachine.run pendingRun)
        (.importProofCourierBundle confirmedBundle)).1 = .error e) ∧
      ¬ KeptOnError (walletMachine.run pendingRun)
        (step (walletMachine.run pendingRun) (.importProofCourierBundle confirmedBundle)) ∧
      (∃ e, (step (walletMachine.run pendingRun) (.importEncodedProof [])).1 = .error e) ∧
      KeptOnError (walletMachine.run pendingRun)
        (step (walletMachine.run pendingRun) (.importEncodedProof [])) := by
  obtain ⟨hvalid, hstrands⟩ := confirmedBundle_strands
  obtain ⟨e, he, -⟩ := bundle_strands (validate_eq_ok.mp hvalid) hstrands
  have hbundle := errors_keep_wallet_iff _ (.importProofCourierBundle confirmedBundle) hvalid trivial
  refine ⟨⟨e, ?_⟩, fun hkept => hbundle.mp hkept hstrands, ⟨_, rfl⟩,
    (errors_keep_wallet_iff _ (.importEncodedProof []) hvalid trivial).mpr not_false⟩
  rw [step, mapReply, he]
  rfl

end TapLdk.WalletErrors
