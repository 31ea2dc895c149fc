import Mathlib
import TapLdk.Wallet

/-! What a valid wallet is, and that importing a proof which passes the semantic checks
succeeds and leaves a valid wallet. -/
namespace TapLdk.WalletImport
open TapLdk.LibraryExcept TapLdk.LibraryMaps TapLdk.LibraryBytes TapLdk.LibrarySha256
open TapLdk.Mssmt TapLdk.Asset TapLdk.TapdProof TapLdk.Proof TapLdk.ProofHistory
open TapLdk.ProofCourier TapLdk.Wallet

@[simp] theorem decodeHex_encodeHex (bs : Bytes) : Wallet.decodeHex (encodeHex bs) = .ok bs := by
  have hlen : ¬ (utf8 (encodeHex bs)).length % 2 ≠ 0 := by
    rw [utf8_encodeHex_length]
    omega
  rw [Wallet.decodeHex, rejectIf_false hlen, ok_bind]
  exact decodeHexPairs_encodeHex _ _ bs

/-- A UTXO that repeats the fields of its proof and whose history explains it. -/
structure UtxoValid (key : String) (utxo : SpendableAssetUtxo) (stored : StoredProof)
    (proof : ProofFile) : Prop where
  key : key = utxo.utxoId
  assetId : bytes32FromStr utxo.assetId = .ok proof.assetId
  scriptKey : compressedKeyFromStr utxo.scriptKey = .ok proof.scriptKey
  genesis : utxo.genesisOutpoint = proof.genesisOutpoint
  anchor : utxo.anchorOutpoint = proof.anchorOutpoint
  amount : utxo.amount = proof.amount
  historyOutput : utxo.proofHistoryOutputId = utxo.proofId
  status : utxo.status = .fromAnchorState utxo.anchorState
  history : ∃ e, validateStoredProofHistory stored proof = .ok e ∧
    e.outputId = utxo.proofHistoryOutputId
  policy : utxo.status = .spendable →
    ∃ e, validateStoredProofHistoryWithAnchorPolicy stored proof (anchorPolicyForUtxo utxo) = .ok e

theorem validateUtxo_eq_ok {w : WalletState} {decoded : BTreeMap String ProofFile} {key : String}
    {utxo : SpendableAssetUtxo} :
    w.validateUtxo decoded key utxo = .ok () ↔ ∃ proof stored, decoded[utxo.proofId]? = some proof ∧
      w.proofs[utxo.proofId]? = some stored ∧ UtxoValid key utxo stored proof := by
  simp only [WalletState.validateUtxo, bind_eq_ok, rejectIf_eq_ok, okOr_eq_ok, mapError_eq_ok,
    ne_eq, not_or, not_not, exists_const]
  constructor
  · rintro ⟨hkey, proof, hproof, assetId, hasset, scriptKey, hscript, ⟨rfl, hgen, hanchor, rfl,
      hamount, hout⟩, stored, hstored, hstatus, e, he, hid, hpolicy⟩
    refine ⟨proof, stored, hproof, hstored, hkey, hasset, hscript, hgen, hanchor, hamount, hout,
      hstatus, ⟨e, he, hid⟩, fun hs => ?_⟩
    rw [if_pos hs, bind_eq_ok] at hpolicy
    obtain ⟨e', he', -⟩ := hpolicy
    exact ⟨e', he'⟩
  · rintro ⟨proof, stored, hproof, hstored, h⟩
    obtain ⟨e, he, hid⟩ := h.history
    refine ⟨h.key, proof, hproof, _, h.assetId, _, h.scriptKey,
      ⟨rfl, h.genesis, h.anchor, rfl, h.amount, h.historyOutput⟩, stored, hstored, h.status, e, he,
      hid, ?_⟩
    split
    · rename_i hs
      obtain ⟨e', he'⟩ := h.policy hs
      rw [he']
      rfl
    · rfl

/-- What the validation of a wallet establishes, entry by entry. -/
structure WalletValid (w : WalletState) : Prop where
  version : w.version = walletSchemaVersion
  proofs : ∀ (key : String) (stored : StoredProof), w.proofs[key]? = some stored →
    ∃ proof, validateStoredProof key stored = .ok proof
  utxos : ∀ (key : String) (utxo : SpendableAssetUtxo), w.spendableUtxos[key]? = some utxo →
    ∃ proof stored, w.proofs[utxo.proofId]? = some stored ∧
      validateStoredProof utxo.proofId stored = .ok proof ∧ UtxoValid key utxo stored proof

theorem validate_eq_ok {w : WalletState} : w.validate = .ok () ↔ WalletValid w := by
  simp only [WalletState.validate, WalletState.decodedProofs, bind_eq_ok, rejectIf_eq_ok,
    forM_eq_ok, ne_eq, not_not, exists_const]
  constructor
  · rintro ⟨hversion, decoded, hdecoded, hutxos⟩
    refine ⟨hversion, collect_ok.mp ⟨decoded, hdecoded⟩, fun key utxo hutxo => ?_⟩
    obtain ⟨proof, stored, hproof, hstored, hvalid⟩ :=
      validateUtxo_eq_ok.mp (hutxos (key, utxo) (mem_toList_iff.mpr hutxo))
    obtain ⟨stored', hstored', hok⟩ := (get_collect hdecoded).mp hproof
    rw [hstored, Option.some.injEq] at hstored'
    subst hstored'
    exact ⟨proof, stored, hstored, hok, hvalid⟩
  · intro h
    obtain ⟨decoded, hdecoded⟩ := collect_ok.mpr h.proofs
    refine ⟨h.version, decoded, hdecoded, fun e he => validateUtxo_eq_ok.mpr ?_⟩
    obtain ⟨proof, stored, hstored, hok, hvalid⟩ := h.utxos e.1 e.2 (mem_toList_iff.mp he)
    exact ⟨proof, stored, (get_collect hdecoded).mpr ⟨stored, hstored, hok⟩, hstored, hvalid⟩

theorem walletValid_default : WalletValid .default := by
  refine ⟨rfl, ?_, ?_⟩ <;> simp [WalletState.default]

/-- A UTXO added with its proof keeps a wallet valid. -/
theorem WalletValid.insertProof {w : WalletState} (h : WalletValid w) {stored : StoredProof}
    {utxo : SpendableAssetUtxo} {proof : ProofFile} (hid : utxo.proofId = stored.proofId)
    (hnew : w.proofs[stored.proofId]? = none)
    (hstored : validateStoredProof stored.proofId stored = .ok proof)
    (hutxo : UtxoValid utxo.utxoId utxo stored proof) : WalletValid (w.insertProof stored utxo) := by
  refine ⟨h.version, fun key s hs => ?_, fun key u hu => ?_⟩
  · rcases get_insert_eq_some hs with ⟨rfl, rfl⟩ | ⟨-, hs⟩
    · exact ⟨proof, hstored⟩
    · exact h.proofs key s hs
  · rcases get_insert_eq_some hu with ⟨rfl, rfl⟩ | ⟨-, hu⟩
    · refine ⟨proof, stored, ?_, ?_, hutxo⟩
      · rw [hid]
        exact get_insert_self _ _ _
      · rwa [hid]
    · obtain ⟨p, s, hs, hp, hvalid⟩ := h.utxos key u hu
      have hne : u.proofId ≠ stored.proofId := by
        intro heq
        rw [heq, hnew] at hs
        cases hs
      exact ⟨p, s, (get_insert_ne hne).trans hs, hp, hvalid⟩

/-- An input that backs only its own UTXO may be removed from a valid wallet. -/
theorem WalletValid.removeInput {w : WalletState} (h : WalletValid w) (inputId : String)
    (hown : ∀ (key : String) (utxo : SpendableAssetUtxo), w.spendableUtxos[key]? = some utxo →
      key ≠ inputId → utxo.proofId ≠ inputId) : WalletValid (w.removeInput inputId) := by
  refine ⟨h.version, fun key s hs => h.proofs key s (get_erase_eq_some hs).2, fun key u hu => ?_⟩
  obtain ⟨hne, hu⟩ := get_erase_eq_some hu
  obtain ⟨p, s, hs, hp, hvalid⟩ := h.utxos key u hu
  exact ⟨p, s, (get_erase_ne (hown key u hu hne)).trans hs, hp, hvalid⟩

theorem fromAnchorState_spendable {state : ProofAnchorState} :
    UtxoStatus.fromAnchorState state = .spendable ↔ state = .confirmed := by
  cases state <;> simp [UtxoStatus.fromAnchorState]

/-- A notice of any state but confirmed keeps a wallet valid. -/
theorem WalletValid.updated {w : WalletState} (h : WalletValid w) (anchorOutpoint : String)
    {anchorState : ProofAnchorState} (hstate : anchorState ≠ .confirmed) :
    WalletValid { w with spendableUtxos := w.spendableUtxos.map fun _ utxo =>
      utxo.withAnchorState anchorOutpoint anchorState } := by
  refine ⟨h.version, h.proofs, fun key utxo hu => ?_⟩
  rw [Std.ExtTreeMap.getElem?_map, Option.map_eq_some_iff] at hu
  obtain ⟨old, hold, rfl⟩ := hu
  obtain ⟨proof, stored, hstored, hproof, hvalid⟩ := h.utxos key old hold
  unfold SpendableAssetUtxo.withAnchorState
  split
  · refine ⟨proof, stored, hstored, hproof,
      { hvalid with status := rfl, policy := fun hs => ?_ }⟩
    exact absurd (fromAnchorState_spendable.mp hs) hstate
  · exact ⟨proof, stored, hstored, hproof, hvalid⟩

/-- A notice for an anchor in the wallet is accepted, at least when it is no confirmation. -/
theorem updateAnchorState_ok {w : WalletState} (h : WalletValid w) {anchorOutpoint : String}
    {anchorState : ProofAnchorState} (hstate : anchorState ≠ .confirmed) {key : String}
    {utxo : SpendableAssetUtxo} (hu : w.spendableUtxos[key]? = some utxo)
    (hanchor : utxo.anchorOutpoint = anchorOutpoint) :
    ∃ next, w.updateAnchorState anchorOutpoint anchorState = .ok ((), next) ∧ WalletValid next := by
  have hvalid := h.updated anchorOutpoint hstate
  have hany : w.spendableUtxos.toList.any (fun e => e.2.anchorOutpoint = anchorOutpoint) = true :=
    List.any_eq_true.mpr ⟨(key, utxo), mem_toList_iff.mpr hu, by simp [hanchor]⟩
  refine ⟨_, ?_, hvalid⟩
  rw [WalletState.updateAnchorState, rejectIf_false (by rw [hany]; simp), ok_bind,
    validate_eq_ok.mpr hvalid]
  rfl

/-- The proofs a wallet can import: verified, readable back from their encoding, and with
a transition id. -/
structure Importable (proof : ProofFile) : Prop where
  verified : Verified proof
  key : HasKeyPrefix proof.scriptKey
  fit : TextsFit proof
  transition : ∀ metadata, walletProofHistoryMetadata (proofId proof) proof = .ok metadata →
    metadata.transitionId ≠ Bytes32.ZERO

theorem proofId_ne_empty (proof : ProofFile) : proofId proof ≠ "" := by
  intro h
  simp only [proofId, String.append_eq_empty_iff] at h
  exact absurd h.1.2 (by decide)

theorem recordId_ne_empty (proof : ProofFile) : s!"wallet-import:{proofId proof}" ≠ "" := by
  intro h
  rw [String.append_eq_empty_iff] at h
  exact absurd h.1 (by decide)

theorem walletProofHistoryMetadata_spec {id : String} {proof : ProofFile}
    {metadata : WalletProofHistory} (h : walletProofHistoryMetadata id proof = .ok metadata) :
    metadata.recordId = s!"wallet-import:{id}" ∧ metadata.outputId = id := by
  simp only [walletProofHistoryMetadata, bind_eq_ok, pure_eq_ok, Except.ok.injEq] at h
  obtain ⟨encoded, -, rfl⟩ := h
  exact ⟨rfl, rfl⟩

theorem acceptedWalletProofHistory_spec {id : String} {proof : ProofFile}
    {metadata : WalletProofHistory} (h : acceptedWalletProofHistory id proof = .ok metadata) :
    walletProofHistoryMetadata id proof = .ok metadata := by
  simp only [acceptedWalletProofHistory, bind_eq_ok, pure_eq_ok, Except.ok.injEq] at h
  obtain ⟨metadata', hmetadata, _, -, _, -, rfl⟩ := h
  exact hmetadata

/-- The explanation that a replay gives for an imported proof. -/
def importExplanation (metadata : WalletProofHistory) (proof : ProofFile)
    (policy : ProofAnchorPolicy) : AcceptedBalanceExplanation :=
  { outputId := metadata.outputId
    recordId := metadata.recordId
    transitionKind := .issuance
    virtualTransitionId := metadata.transitionId
    assetId := proof.assetId
    amount := proof.amount
    scriptKey := proof.scriptKey
    anchorOutpoint := proof.anchorOutpoint
    anchorState := policy.anchorState proof.anchorOutpoint
    tapAssetRoot := proof.tapAssetRoot
    priorStates := []
    resultingState := .accepted }

/-- The history of a verified proof replays under every policy that accepts its anchor. -/
theorem replay_import {metadata : WalletProofHistory} {proof : ProofFile}
    (policy : ProofAnchorPolicy) (hproof : Verified proof) (hrecord : metadata.recordId ≠ "")
    (houtput : metadata.outputId ≠ "") (htransition : metadata.transitionId ≠ Bytes32.ZERO)
    (hpolicy : policy.acceptsAnchorState (policy.anchorState proof.anchorOutpoint) = true) :
    replayWalletProofHistoryWithAnchorPolicy metadata proof policy =
      .ok (importExplanation metadata proof policy) := by
  obtain ⟨-, anchor, -, hanchor, -⟩ := hproof.outpoints
  have hkeyed : WellKeyed .empty := by
    intro id e he
    simp [ReplayState.empty] at he
  obtain ⟨o, ho⟩ : ∃ o, (historyRecord metadata proof).outputs = [o] := ⟨_, rfl⟩
  have hoId : o.outputId = metadata.outputId := by
    rw [← (List.cons.inj ho).1]
  have hvalid : IsOutput (historyRecord metadata proof) o := by
    rw [← (List.cons.inj ho).1]
    exact ⟨houtput, rfl, hproof.amount, ⟨anchor, hanchor⟩, hproof.root⟩
  have hanchor : policy.acceptsAnchorState (policy.anchorState o.anchorOutpoint) = true := by
    rw [← (List.cons.inj ho).1]
    exact hpolicy
  obtain ⟨s, hs, hstep⟩ := replayStep_issue hkeyed rfl rfl ho hrecord (by simp [ReplayState.empty])
    htransition hvalid (by simp [ReplayState.empty]) hanchor
  have hget := (hstep.get_new (o := o) (by simp [ho])).2.1
  have hexplain : explanationOf (historyRecord metadata proof) policy [] o =
      importExplanation metadata proof policy := by
    rw [← (List.cons.inj ho).1]
    rfl
  rw [hoId, hexplain] at hget
  simp [replayWalletProofHistoryWithAnchorPolicy, replayWithAnchorPolicy, replayState, hs,
    Except.mapError, ProofHistoryReplay.acceptedExplanation, hget, okOr]

/-- The history of a verified proof is accepted, whatever its key. -/
theorem acceptedWalletProofHistory_of_verified {proof : ProofFile} (h : Verified proof)
    (htransition : ∀ metadata, walletProofHistoryMetadata (proofId proof) proof = .ok metadata →
      metadata.transitionId ≠ Bytes32.ZERO) :
    ∃ metadata, walletProofHistoryMetadata (proofId proof) proof = .ok metadata ∧
      acceptedWalletProofHistory (proofId proof) proof = .ok metadata := by
  obtain ⟨metadata, hmetadata⟩ :
      ∃ metadata, walletProofHistoryMetadata (proofId proof) proof = .ok metadata := by
    simp [walletProofHistoryMetadata, encode_eq, Except.mapError]
  obtain ⟨hrecord, houtput⟩ := walletProofHistoryMetadata_spec hmetadata
  have hreplay := replay_import .assumeAllConfirmedForRegtest h
    (hrecord ▸ recordId_ne_empty proof) (houtput ▸ proofId_ne_empty proof)
    (htransition _ hmetadata) rfl
  refine ⟨metadata, hmetadata, ?_⟩
  simp [acceptedWalletProofHistory, hmetadata, replayWalletProofHistory, hreplay, importExplanation,
    rejectIf]

theorem acceptedWalletProofHistory_ok {proof : ProofFile} (h : Importable proof) :
    ∃ metadata, walletProofHistoryMetadata (proofId proof) proof = .ok metadata ∧
      acceptedWalletProofHistory (proofId proof) proof = .ok metadata :=
  acceptedWalletProofHistory_of_verified h.verified h.transition

/-- What a prepared import is made of. -/
structure Prepared (proof : ProofFile) (tapdProofFile : Option Bytes) (prepared : PreparedImport) :
    Prop where
  verified : Verified proof
  proofId : prepared.proofId = proofId proof
  proofHex : ∃ encoded, proof.encode = .ok encoded ∧ prepared.proofHex = encodeHex encoded
  history : acceptedWalletProofHistory (Wallet.proofId proof) proof = .ok prepared.proofHistory
  outputId : prepared.proofHistory.outputId = Wallet.proofId proof
  tapdHex : prepared.tapdRawProofFileHex = tapdProofFile.map encodeHex
  tapdDigest : prepared.tapdRawProofFileDigest = tapdProofFile.map sha256

theorem prepareImport_spec {proof : ProofFile} {tapdProofFile : Option Bytes}
    {summary : Option TapdProofFileSummary} {prepared : PreparedImport}
    (h : prepareImport proof tapdProofFile summary = .ok prepared) :
    Prepared proof tapdProofFile prepared := by
  simp only [prepareImport, bind_eq_ok, mapError_eq_ok, pure_eq_ok, Except.ok.injEq] at h
  obtain ⟨report, hverify, encoded, hencoded, history, hhistory, rfl⟩ := h
  have hverified : Verified proof := by
    refine verified_of_verify ?_ hverify
    cases summary <;> rfl
  have hmetadata := acceptedWalletProofHistory_spec hhistory
  exact ⟨hverified, rfl, ⟨encoded, hencoded, rfl⟩, hhistory,
    (walletProofHistoryMetadata_spec hmetadata).2, rfl, rfl⟩

theorem prepareImport_ok {proof : ProofFile} (h : Importable proof) :
    ∃ prepared, prepareImport proof none none = .ok prepared := by
  obtain ⟨report, hverify⟩ := verify_of_verified h.verified
  obtain ⟨metadata, -, haccepted⟩ := acceptedWalletProofHistory_ok h
  simp [prepareImport, hverify, Except.mapError, encode_eq, haccepted]

/-- An ancestry file with its summary, or neither. -/
inductive SummaryOf : Option Bytes → Option TapdProofFileSummary → Prop where
  | native : SummaryOf none none
  | tapd {file : Bytes} {summary : TapdProofFileSummary}
      (h : decodeTapdProofFile file = .ok summary) : SummaryOf (some file) (some summary)

/-- The expectations on a proof that comes with an ancestry file, or without. -/
def contextOf (summary : Option TapdProofFileSummary) : ProofValidationContext :=
  summary.elim .default .forTapdImport

/-- A checked proof in its encoding, beside its ancestry file, passes the checks on stored
proofs. -/
theorem validateStoredProof_ok {proof : ProofFile} (hkey : HasKeyPrefix proof.scriptKey)
    (hfit : TextsFit proof) {tapdProofFile : Option Bytes} {summary : Option TapdProofFileSummary}
    (hfile : SummaryOf tapdProofFile summary) {report : ProofValidationReport}
    (hverify : proof.verifySemanticAncestry (contextOf summary) = .ok report) {encoded : Bytes}
    (hencoded : proof.encode = .ok encoded) {stored : StoredProof}
    (hid : stored.proofId = proofId proof) (hhex : stored.proofTlvHex = encodeHex encoded)
    (hscope : stored.verificationScope = proof.verificationScope.asStr)
    (htapdHex : stored.tapdRawProofFileHex = tapdProofFile.map encodeHex)
    (hdigest : stored.tapdRawProofFileDigest = tapdProofFile.map sha256) :
    validateStoredProof (proofId proof) stored = .ok proof := by
  have hdecode := decode_encode hkey hfit hencoded
  cases hfile with
  | native =>
    have hcontext : proof.verifySemanticAncestry .default = .ok report := hverify
    simp [validateStoredProof, hid, rejectIf, hhex, hdecode, StoredProof.tapdSummary, htapdHex,
      hdigest, hscope, hcontext, Except.mapError]
  | tapd h =>
    rename_i file summary
    have hcontext : proof.verifySemanticAncestry (.forTapdImport summary) = .ok report := hverify
    have hraw := decodeTapdProofFile_rawDigest h
    simp [validateStoredProof, hid, rejectIf, hhex, hdecode, StoredProof.tapdSummary, htapdHex,
      hdigest, hscope, h, hcontext, Except.mapError, okOr, hraw]

/-- The entry an import writes passes the checks on stored proofs. -/
theorem validateStoredProof_import {proof : ProofFile} (h : Importable proof)
    {tapdProofFile : Option Bytes} {summary : Option TapdProofFileSummary}
    (hfile : SummaryOf tapdProofFile summary) {report : ProofValidationReport}
    (hverify : proof.verifySemanticAncestry (contextOf summary) = .ok report)
    {prepared : PreparedImport} (hp : Prepared proof tapdProofFile prepared) :
    validateStoredProof (proofId proof) (prepared.storedProof proof) = .ok proof := by
  obtain ⟨encoded, hencoded, hhex⟩ := hp.proofHex
  exact validateStoredProof_ok h.key h.fit hfile hverify hencoded hp.proofId hhex rfl hp.tapdHex
    hp.tapdDigest

/-- An import is prepared from a proof that passes with its ancestry file, or without. -/
theorem prepareImport_of_prepared {proof : ProofFile} {tapdProofFile : Option Bytes}
    {prepared : PreparedImport} (hp : Prepared proof tapdProofFile prepared)
    {summary : Option TapdProofFileSummary} {report : ProofValidationReport}
    (hverify : proof.verifySemanticAncestry (contextOf summary) = .ok report) :
    prepareImport proof tapdProofFile summary = .ok prepared := by
  obtain ⟨encoded, hencoded, hhex⟩ := hp.proofHex
  obtain ⟨id, hex, history, tapdHex, tapdDigest⟩ := prepared
  obtain rfl := hp.proofId
  obtain rfl : hex = encodeHex encoded := hhex
  obtain rfl := hp.tapdHex
  obtain rfl := hp.tapdDigest
  have hcontext : proof.verifySemanticAncestry
      (summary.elim .default .forTapdImport) = .ok report := hverify
  simp [prepareImport, hcontext, hencoded, hp.history, Except.mapError]

/-- The history written by an import is the one its proof replays to. -/
theorem validateStoredProofHistory_import {proof : ProofFile} (h : Importable proof)
    {tapdProofFile : Option Bytes} {prepared : PreparedImport}
    (hp : Prepared proof tapdProofFile prepared) (policy : ProofAnchorPolicy)
    (hpolicy : policy.acceptsAnchorState (policy.anchorState proof.anchorOutpoint) = true) :
    validateStoredProofHistoryWithAnchorPolicy (prepared.storedProof proof) proof policy =
      .ok (importExplanation prepared.proofHistory proof policy) := by
  have hmetadata := acceptedWalletProofHistory_spec hp.history
  have hrecord := (walletProofHistoryMetadata_spec hmetadata).1
  have hreplay := replay_import policy h.verified (hrecord ▸ recordId_ne_empty proof)
    (hp.outputId ▸ proofId_ne_empty proof) (h.transition _ hmetadata) hpolicy
  have hmatches : (prepared.storedProof proof).matchesProofHistory prepared.proofHistory = true := by
    simp [StoredProof.matchesProofHistory, PreparedImport.storedProof]
  have hid : (prepared.storedProof proof).proofId = Wallet.proofId proof := hp.proofId
  simp [validateStoredProofHistoryWithAnchorPolicy, hid, hp.history, hmatches, rejectIf, hreplay]

theorem anchorState_forUtxo (utxo : SpendableAssetUtxo) :
    (anchorPolicyForUtxo utxo).anchorState utxo.anchorOutpoint = utxo.anchorState := by
  simp [anchorPolicyForUtxo, ProofAnchorPolicy.anchorState, ProofAnchorPolicy.withAnchorState]

/-- The UTXO that an import writes is valid under every anchor state. -/
theorem utxoValid_import {proof : ProofFile} (h : Importable proof)
    {tapdProofFile : Option Bytes} {prepared : PreparedImport}
    (hp : Prepared proof tapdProofFile prepared) (anchorState : ProofAnchorState) :
    UtxoValid (proofId proof) (prepared.utxo proof anchorState) (prepared.storedProof proof)
      proof := by
  refine ⟨hp.proofId.symm, bytes32FromStr_toHex _, compressedKeyFromStr_toHex.mpr ⟨rfl, h.key⟩, rfl,
    rfl, rfl, hp.outputId.trans hp.proofId.symm, rfl, ?_, fun hs => ?_⟩
  · exact ⟨_, validateStoredProofHistory_import h hp _ rfl, rfl⟩
  · have hstate := fromAnchorState_spendable.mp hs
    refine ⟨_, validateStoredProofHistory_import h hp _ ?_⟩
    have hanchor := anchorState_forUtxo (prepared.utxo proof anchorState)
    simp only [PreparedImport.utxo, hstate] at hanchor ⊢
    rw [hanchor]
    rfl

/-- Writing an importable proof with a new id keeps a wallet valid. -/
theorem walletValid_import {w : WalletState} (hw : WalletValid w) {proof : ProofFile}
    (h : Importable proof) (hnew : w.proofs[proofId proof]? = none)
    {tapdProofFile : Option Bytes} {summary : Option TapdProofFileSummary}
    (hfile : SummaryOf tapdProofFile summary) {report : ProofValidationReport}
    (hverify : proof.verifySemanticAncestry (contextOf summary) = .ok report)
    {prepared : PreparedImport} (hp : Prepared proof tapdProofFile prepared)
    (anchorState : ProofAnchorState) :
    WalletValid (w.insertProof (prepared.storedProof proof) (prepared.utxo proof anchorState)) := by
  have hid : (prepared.storedProof proof).proofId = proofId proof := hp.proofId
  have hutxo : (prepared.utxo proof anchorState).utxoId = proofId proof := hp.proofId
  exact hw.insertProof rfl (hid ▸ hnew) (hid ▸ validateStoredProof_import h hfile hverify hp)
    (hutxo ▸ utxoValid_import h hp anchorState)

/-- Writing an importable proof that comes without an ancestry file keeps a wallet valid. -/
theorem walletValid_importNative {w : WalletState} (hw : WalletValid w) {proof : ProofFile}
    (h : Importable proof) (hnew : w.proofs[proofId proof]? = none) {prepared : PreparedImport}
    (hp : Prepared proof none prepared) (anchorState : ProofAnchorState) :
    WalletValid (w.insertProof (prepared.storedProof proof) (prepared.utxo proof anchorState)) := by
  obtain ⟨report, hverify⟩ := verify_of_verified h.verified
  exact walletValid_import hw h hnew .native hverify hp anchorState

/-- A proof whose id is new to a valid wallet is imported with the file and the state that it
comes with. -/
theorem importWithTapd_new {w : WalletState} (hw : WalletValid w) {proof : ProofFile}
    (h : Importable proof) (hnew : w.proofs[proofId proof]? = none)
    {tapdProofFile : Option Bytes} {summary : Option TapdProofFileSummary}
    (hfile : SummaryOf tapdProofFile summary) {report : ProofValidationReport}
    (hverify : proof.verifySemanticAncestry (contextOf summary) = .ok report)
    {prepared : PreparedImport} (hp : Prepared proof tapdProofFile prepared)
    (anchorState : ProofAnchorState) :
    w.importVerifiedProofWithTapd proof tapdProofFile summary anchorState =
        (.ok (.imported (proofId proof)),
          w.insertProof (prepared.storedProof proof) (prepared.utxo proof anchorState)) ∧
      WalletValid (w.insertProof (prepared.storedProof proof) (prepared.utxo proof anchorState)) := by
  have hvalid := walletValid_import hw h hnew hfile hverify hp anchorState
  refine ⟨?_, hvalid⟩
  simp [WalletState.importVerifiedProofWithTapd, prepareImport_of_prepared hp hverify, hp.proofId,
    hnew, validate_eq_ok.mpr hvalid, Except.map]

/-- A proof whose id is new to a valid wallet is imported with the state it comes with. -/
theorem importVerifiedProof_new {w : WalletState} (hw : WalletValid w) {proof : ProofFile}
    (h : Importable proof) (hnew : w.proofs[proofId proof]? = none)
    (anchorState : ProofAnchorState) : ∃ prepared, Prepared proof none prepared ∧
      w.importVerifiedProofWithAnchorState proof anchorState =
        (.ok (.imported (proofId proof)),
          w.insertProof (prepared.storedProof proof) (prepared.utxo proof anchorState)) ∧
      WalletValid (w.insertProof (prepared.storedProof proof) (prepared.utxo proof anchorState)) := by
  obtain ⟨prepared, hprepared⟩ := prepareImport_ok h
  have hp := prepareImport_spec hprepared
  obtain ⟨report, hverify⟩ := verify_of_verified h.verified
  obtain ⟨himport, hvalid⟩ := importWithTapd_new hw h hnew .native hverify hp anchorState
  exact ⟨prepared, hp, himport, hvalid⟩

/-- A spendable UTXO at the confirmed anchor of a proof. -/
structure Counts (utxo : SpendableAssetUtxo) (proof : ProofFile) : Prop where
  anchor : utxo.anchorOutpoint = proof.anchorOutpoint
  state : utxo.anchorState = .confirmed
  status : utxo.status = .spendable
  output : utxo.proofHistoryOutputId = proofId proof

/-- The entry of an import explains its balance to a UTXO that counts it. -/
theorem accepted_of_entry {w : WalletState} {proof : ProofFile} (h : Importable proof)
    {tapdProofFile : Option Bytes} {prepared : PreparedImport}
    (hp : Prepared proof tapdProofFile prepared)
    (hstored : w.proofs[proofId proof]? = some (prepared.storedProof proof))
    {utxo : SpendableAssetUtxo} (hutxo : w.spendableUtxos[proofId proof]? = some utxo)
    (hcounts : Counts utxo proof) : w.acceptedWalletBalanceExplanation (proofId proof) =
      .ok (importExplanation prepared.proofHistory proof (anchorPolicyForUtxo utxo)) := by
  obtain ⟨encoded, hencoded, hhex⟩ := hp.proofHex
  have hdecode := decode_encode h.key h.fit hencoded
  have hanchor := anchorState_forUtxo utxo
  rw [hcounts.anchor, hcounts.state] at hanchor
  have hhistory := validateStoredProofHistory_import h hp (anchorPolicyForUtxo utxo)
    (by rw [hanchor]; rfl)
  have htlv : (prepared.storedProof proof).proofTlvHex = encodeHex encoded := hhex
  have hexplained : (importExplanation prepared.proofHistory proof
      (anchorPolicyForUtxo utxo)).outputId = proofId proof := hp.outputId
  simp [WalletState.acceptedWalletBalanceExplanation, hstored, hutxo, okOr, hcounts.status,
    hcounts.output, htlv, hdecode, Except.mapError, hhistory, hexplained, rejectIf]

theorem counts_import {proof : ProofFile} {tapdProofFile : Option Bytes} {prepared : PreparedImport}
    (hp : Prepared proof tapdProofFile prepared) : Counts (prepared.utxo proof .confirmed) proof :=
  ⟨rfl, rfl, rfl, hp.outputId⟩

theorem get_insertProof {w : WalletState} {proof : ProofFile} {tapdProofFile : Option Bytes}
    {prepared : PreparedImport} (hp : Prepared proof tapdProofFile prepared)
    (anchorState : ProofAnchorState) :
    (w.insertProof (prepared.storedProof proof) (prepared.utxo proof anchorState)).proofs[proofId
        proof]? = some (prepared.storedProof proof) ∧
      (w.insertProof (prepared.storedProof proof)
        (prepared.utxo proof anchorState)).spendableUtxos[proofId proof]? =
          some (prepared.utxo proof anchorState) := by
  have hid : (prepared.storedProof proof).proofId = proofId proof := hp.proofId
  have hutxo : (prepared.utxo proof anchorState).utxoId = proofId proof := hp.proofId
  rw [WalletState.insertProof, hid, hutxo]
  exact ⟨get_insert_self _ _ _, get_insert_self _ _ _⟩

theorem get_insertProof_ne {w : WalletState} {proof : ProofFile} {tapdProofFile : Option Bytes}
    {prepared : PreparedImport} (hp : Prepared proof tapdProofFile prepared)
    (anchorState : ProofAnchorState) {id : String} (hne : id ≠ proofId proof) :
    (w.insertProof (prepared.storedProof proof)
        (prepared.utxo proof anchorState)).proofs[id]? = w.proofs[id]? ∧
      (w.insertProof (prepared.storedProof proof)
        (prepared.utxo proof anchorState)).spendableUtxos[id]? = w.spendableUtxos[id]? := by
  have hid : (prepared.storedProof proof).proofId = proofId proof := hp.proofId
  have hutxo : (prepared.utxo proof anchorState).utxoId = proofId proof := hp.proofId
  rw [WalletState.insertProof, hid, hutxo]
  exact ⟨get_insert_ne hne, get_insert_ne hne⟩

/-- A freshly imported, confirmed proof explains its balance. -/
theorem accepted_of_import {w : WalletState} {proof : ProofFile} (h : Importable proof)
    {tapdProofFile : Option Bytes} {prepared : PreparedImport}
    (hp : Prepared proof tapdProofFile prepared) :
    (w.insertProof (prepared.storedProof proof)
        (prepared.utxo proof .confirmed)).acceptedWalletBalanceExplanation (proofId proof) =
      .ok (importExplanation prepared.proofHistory proof
        (anchorPolicyForUtxo (prepared.utxo proof .confirmed))) := by
  obtain ⟨hstored, hutxo⟩ := @get_insertProof w _ _ _ hp .confirmed
  exact accepted_of_entry h hp hstored hutxo (counts_import hp)

theorem decodeProof_of_import {w : WalletState} {proof : ProofFile} (h : Importable proof)
    {prepared : PreparedImport} (hp : Prepared proof none prepared) :
    (w.insertProof (prepared.storedProof proof) (prepared.utxo proof .confirmed)).decodeProof
      (proofId proof) = .ok proof := by
  obtain ⟨encoded, hencoded, hhex⟩ := hp.proofHex
  have hdecode := decode_encode h.key h.fit hencoded
  have htlv : (prepared.storedProof proof).proofTlvHex = encodeHex encoded := hhex
  have hget := (@get_insertProof w _ _ _ hp .confirmed).1
  simp [WalletState.decodeProof, WalletState.exportEncodedProof, accepted_of_import h hp, hget, okOr,
    htlv, hdecode, Except.mapError]

/-- A freshly imported proof can be sent away whole, which leaves the wallet without it. -/
theorem sendLocalTransfer_whole {w : WalletState} (hw : WalletValid w) {proof : ProofFile}
    (h : Importable proof) (hnew : w.proofs[proofId proof]? = none) {prepared : PreparedImport}
    (hp : Prepared proof none prepared) {request : LocalTransferRequest}
    (hselect : (w.insertProof (prepared.storedProof proof)
      (prepared.utxo proof .confirmed)).selectInput request =
        some (proofId proof, prepared.utxo proof .confirmed))
    (hamount : request.amount = proof.amount) : ∃ outcome,
      (w.insertProof (prepared.storedProof proof)
          (prepared.utxo proof .confirmed)).sendLocalTransfer request =
        .ok (outcome, (w.insertProof (prepared.storedProof proof)
          (prepared.utxo proof .confirmed)).removeInput (proofId proof)) ∧
      outcome.spentProofId = proofId proof := by
  have hutxo : (prepared.utxo proof .confirmed).utxoId = proofId proof := hp.proofId
  have hvalid := walletValid_importNative hw h hnew hp .confirmed
  have hremoved := hvalid.removeInput (proofId proof) fun key utxo hget hne => by
    rw [WalletState.insertProof, hutxo, get_insert_ne hne] at hget
    obtain ⟨_, _, hstored, -, -⟩ := hw.utxos key utxo hget
    rintro heq
    rw [heq, hnew] at hstored
    cases hstored
  have hpositive : proof.amount ≠ 0 := h.verified.amount
  have hutxoAmount : (prepared.utxo proof .confirmed).amount = proof.amount := rfl
  have hutxoProof : (prepared.utxo proof .confirmed).proofId = proofId proof := hp.proofId
  have hkey : compressedKeyFromStr (prepared.utxo proof .confirmed).scriptKey =
      .ok proof.scriptKey := compressedKeyFromStr_toHex.mpr ⟨rfl, h.key⟩
  have hchange : subAmount proof.amount proof.amount = .ok 0 :=
    subAmount_eq_ok.mpr (by simp)
  have hsplit : ∀ key asset, ∃ root,
      validateSplitConservation proof.amount [⟨asset, key, proof.amount⟩] = .ok root := by
    intro key asset
    have hroot : deriveHashSumRoot [⟨asset, key, proof.amount⟩] = .ok (singleRoot _) :=
      deriveHashSumRoot_single hpositive
    exact ⟨_, by rw [validateSplitConservation, hroot, ok_bind, rejectIf_false (by simp [singleRoot])]; rfl⟩
  have hreceiver : ∀ key, ∃ out, transferOutputProof proof proof.amount key 0 = .ok out := by
    intro key
    have hroot : deriveHashSumRoot [⟨proof.assetId, key, proof.amount⟩] = .ok (singleRoot _) :=
      deriveHashSumRoot_single hpositive
    exact ⟨_, by rw [transferOutputProof, hroot]; rfl⟩
  obtain ⟨report, hverify⟩ := verify_of_verified h.verified
  obtain ⟨root, hroot⟩ := hsplit request.receiverScriptKey request.assetId
  obtain ⟨out, hout⟩ := hreceiver request.receiverScriptKey
  simp [WalletState.sendLocalTransfer, rejectIf, hamount, hpositive, hselect, okOr, hutxoProof,
    decodeProof_of_import h hp, hverify, hutxoAmount, hkey, hchange, hroot, hout, encode_eq,
    Except.mapError, WalletState.payChange, validate_eq_ok.mpr hremoved]

theorem regtestProof_importable {anchorOutpoint : String} (anchor : ParsedOutpoint)
    (hanchor : outpointOf anchorOutpoint = some anchor) (hne : outpointOf regtestGenesis ≠ some anchor)
    (hlength : (utf8 anchorOutpoint).length < 2 ^ 64)
    (htransition : (walletProofHistoryMetadata (proofId (regtestProof anchorOutpoint))
      (regtestProof anchorOutpoint)).toOption.all (fun m => m.transitionId ≠ Bytes32.ZERO) = true) :
    Importable (regtestProof anchorOutpoint) := by
  have hgenesis : (utf8 regtestGenesis).length < 2 ^ 64 := by decide +kernel
  have hkey : HasKeyPrefix regtestKey := .inl (by decide)
  refine ⟨regtestProof_verified hanchor hne, hkey, ⟨hgenesis, hlength⟩, fun metadata hm => ?_⟩
  rw [hm] at htransition
  simpa [Except.toOption] using htransition

theorem regtestAnchor_importable : Importable (regtestProof regtestAnchor) :=
  regtestProof_importable ⟨"aaaaaaaaaaaaaaaaaaaaaaaaaaaaaaaaaaaaaaaaaaaaaaaaaaaaaaaaaaaaaaaa", 1⟩
    (by decide +kernel) (by decide +kernel) (by decide +kernel) (by decide +kernel)

end TapLdk.WalletImport
