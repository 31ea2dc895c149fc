import Mathlib
import TapLdk.WalletRuns

/-! Courier bundles between wallets. The exporter derives the fields of a bundle from the
stored proof, and its own checks and the import compare them with the proof in the bundle. -/
namespace TapLdk.WalletCourier
open TapLdk.LibraryExcept TapLdk.LibraryMaps TapLdk.LibraryBytes TapLdk.LibraryRuns
open TapLdk.LibrarySha256 TapLdk.Mssmt TapLdk.Asset TapLdk.TapdProof TapLdk.Proof
open TapLdk.TapdAncestry TapLdk.ProofHistory TapLdk.ProofCourier TapLdk.Wallet
open TapLdk.WalletImport TapLdk.WalletSteps TapLdk.WalletSpend TapLdk.WalletOutpoint
open TapLdk.WalletTapd TapLdk.WalletErrors TapLdk.WalletRuns

/-- A bundle accepted by its own checks, and the proof under its id moved with it: the empty
wallet that imports it counts the proof, has the same bytes, and exports the bundle again. -/
structure Travels (w : WalletState) (id : String) (proof : ProofFile) (bundle : ProofCourierBundle)
    (next : WalletState) : Prop where
  encoded : ∃ bytes, w.exportEncodedProof id = .ok bytes ∧ ProofFile.decode bytes = .ok proof ∧
    next.exportEncodedProof id = .ok bytes
  exported : w.exportProofCourierBundle id = .ok bundle
  validates : ∃ validation, bundle.validate = .ok validation
  imported : ∃ outcome, WalletState.default.importProofCourierBundle bundle = (.ok outcome, next)
  balances : next.balances = .ok [⟨toHex proof.assetId, proof.amount⟩]
  tapd : next.exportTapdProofFile id = w.exportTapdProofFile id
  again : next.exportProofCourierBundle id = .ok bundle

/-- The fields of a bundle are those of a proof with the given encoding. -/
structure Derived (bundle : ProofCourierBundle) (bytes : Bytes) (proof : ProofFile) : Prop where
  proofId : bundle.proofId = proofId proof
  assetId : bundle.assetId = toHex proof.assetId
  amount : bundle.amount = proof.amount
  scriptKey : bundle.scriptKey = toHex proof.scriptKey
  genesis : bundle.genesisOutpoint = proof.genesisOutpoint
  anchor : bundle.anchorOutpoint = proof.anchorOutpoint
  recordId : bundle.proofHistoryRecordId = (historyOf proof).recordId
  outputId : bundle.proofHistoryOutputId = (historyOf proof).outputId
  transitionId : bundle.proofHistoryTransitionId = toHex (historyOf proof).transitionId
  proofDigest : bundle.proofTlvDigest = sha256 bytes
  tapdDigest : (bundle.tapdRawProofFileHex = none ∧ bundle.tapdRawProofFileDigest = none) ∨
    ∃ hex file, bundle.tapdRawProofFileHex = some hex ∧ decodeHexText hex = .ok file ∧
      bundle.tapdRawProofFileDigest = some (sha256 file)

/-- The bundle repeats what its proof bytes decode to. -/
def DerivedFromProof (bundle : ProofCourierBundle) : Prop :=
  ∃ bytes proof, decodeHexText bundle.proofTlvHex = .ok bytes ∧
    ProofFile.decode bytes = .ok proof ∧ Derived bundle bytes proof

/-- Every counted proof travels from the wallet, and no other bundle gets in. -/
structure FaithfulCourier (w : WalletState) : Prop where
  travels : ∀ (key : String) (utxo : SpendableAssetUtxo), w.spendableUtxos[key]? = some utxo →
    utxo.status = .spendable → ∃ proof bundle next, Travels w utxo.proofId proof bundle next
  rejects : ∀ bundle, ¬ DerivedFromProof bundle →
    ∃ e, w.importProofCourierBundle bundle = (.error e, w)

variable {w : WalletState}

theorem tapdSummary_spec {bundle : ProofCourierBundle} {summary : Option TapdProofFileSummary}
    (h : bundle.tapdSummary = .ok summary) :
    (bundle.tapdRawProofFileHex = none ∧ bundle.tapdRawProofFileDigest = none) ∨
      ∃ hex file, bundle.tapdRawProofFileHex = some hex ∧ decodeHexText hex = .ok file ∧
        bundle.tapdRawProofFileDigest = some (sha256 file) := by
  unfold ProofCourierBundle.tapdSummary at h
  split at h
  case h_1 hex digest hhex hdigest =>
    simp only [bind_eq_ok, mapError_eq_ok, rejectIf_eq_ok, ne_eq, not_not] at h
    obtain ⟨file, hfile, _, hsame, -⟩ := h
    exact .inr ⟨hex, file, hhex, hfile, hdigest.trans (congrArg some hsame.symm)⟩
  case h_2 hhex hdigest => exact .inl ⟨hhex, hdigest⟩
  case h_3 => cases h
  case h_4 => cases h

/-- A bundle that passes its checks and repeats the history of its proof is derived from it. -/
theorem derived_of_repeats {bundle : ProofCourierBundle} {proof : ProofFile}
    (h : Repeats bundle proof) : DerivedFromProof bundle := by
  obtain ⟨validation, hvalidate, rfl⟩ := h.validate
  obtain ⟨metadata, hmetadata, hrecord, houtput, htransition⟩ := h.history
  rw [h.spec.1, walletProofHistoryMetadata_eq, Except.ok.injEq] at hmetadata
  simp only [ProofCourierBundle.validate, bind_eq_ok, mapError_eq_ok, requireField_eq_ok,
    rejectIf_eq_ok, pure_eq_ok, Except.ok.injEq, ne_eq, not_not] at hvalidate
  obtain ⟨_, -, _, -, _, -, _, -, _, -, _, -, _, -, _, -, _, -, _, -, bytes, hbytes, _, hdigest,
    proof, hdecode, _, hid, _, hasset, _, hamount, _, hkey, _, hgenesis, _, hanchor, summary,
    hsummary, _, -, rfl⟩ := hvalidate
  refine ⟨bytes, proof, hbytes, hdecode, ?_⟩
  exact ⟨hid, hasset, hamount, hkey, hgenesis, hanchor, hmetadata ▸ hrecord, hmetadata ▸ houtput,
    hmetadata ▸ htransition, hdigest.symm, tapdSummary_spec hsummary⟩

theorem import_rejects {bundle : ProofCourierBundle} (h : ¬ DerivedFromProof bundle) :
    ∃ e, w.importProofCourierBundle bundle = (.error e, w) := by
  cases hopen : WalletState.openBundle bundle with
  | error e => exact ⟨e, by rw [WalletState.importProofCourierBundle, hopen]⟩
  | ok content =>
    obtain ⟨proof, hrepeats, -⟩ := openBundle_cases.mp hopen
    exact absurd (derived_of_repeats hrepeats) h

/-- The wallet holds what an import writes for a proof, and counts it. -/
structure Holds (w : WalletState) (proof : ProofFile) (file : Option Bytes)
    (prepared : PreparedImport) : Prop where
  importable : Importable proof
  entry : Prepared proof file prepared
  passes : ∃ summary report, SummaryOf file summary ∧
    proof.verifySemanticAncestry (contextOf summary) = .ok report
  stored : w.proofs[proofId proof]? = some (prepared.storedProof proof)
  utxo : ∃ utxo, w.spendableUtxos[proofId proof]? = some utxo ∧ Counts utxo proof

/-- A written ancestry file decodes with its stored proof. -/
theorem summaryOf_written {stored : StoredProof} {proof : ProofFile} {file : Option Bytes}
    (h : Written stored proof file) {summary : Option TapdProofFileSummary}
    (hsummary : stored.tapdSummary = .ok summary) : SummaryOf file summary := by
  rw [StoredProof.tapdSummary, h.tapd] at hsummary
  cases file with
  | none =>
    obtain rfl := Except.ok.inj hsummary
    exact .native
  | some bytes =>
    simp only [Option.map_some, WalletImport.decodeHex_encodeHex, ok_bind, bind_eq_ok,
      mapError_eq_ok, pure_eq_ok, Except.ok.injEq] at hsummary
    obtain ⟨decoded, hdecode, rfl⟩ := hsummary
    exact .tapd hdecode

/-- A written proof that validates under its history is the entry of an import. -/
theorem stored_eq_prepared {key : String} {stored : StoredProof} {proof written : ProofFile}
    {file : Option Bytes} (hwritten : Written stored written file)
    (hvalid : validateStoredProof key stored = .ok proof) {metadata : WalletProofHistory}
    (hhistory : acceptedWalletProofHistory stored.proofId proof = .ok metadata)
    (hmatches : stored.matchesProofHistory metadata = true) :
    key = proofId proof ∧ ∃ prepared summary report, Prepared proof file prepared ∧
      HasKeyPrefix proof.scriptKey ∧ TextsFit proof ∧ SummaryOf file summary ∧
      proof.verifySemanticAncestry (contextOf summary) = .ok report ∧
      stored = prepared.storedProof proof := by
  obtain ⟨encoded, hencoded, hhex⟩ := hwritten.tlv
  have htapd := hwritten.tapd
  simp only [validateStoredProof, hhex, WalletImport.decodeHex_encodeHex, ok_bind, bind_eq_ok,
    mapError_eq_ok, rejectIf_eq_ok, exists_const, ne_eq, not_not] at hvalid
  obtain ⟨hkey, decoded, hdecode, summary, hsummary, report, hverify, hid, hscope, htail⟩ := hvalid
  have hfile := summaryOf_written hwritten hsummary
  obtain ⟨hpoint, rfl⟩ := (decode_encode_eq_ok hwritten.fit hencoded).mp hdecode
  have hsame : decoded = proof ∧ stored.tapdRawProofFileDigest = file.map sha256 := by
    cases hfile with
    | native =>
      simp only [bind_eq_ok, rejectIf_eq_ok, exists_const, pure_eq_ok, Except.ok.injEq,
        Option.not_isSome_iff_eq_none] at htail
      exact ⟨htail.2, htail.1⟩
    | tapd hfile =>
      simp only [bind_eq_ok, okOr_eq_ok, rejectIf_eq_ok, exists_const, pure_eq_ok,
        Except.ok.injEq, not_not] at htail
      obtain ⟨digest, hstored, hraw, hproof⟩ := htail
      rw [decodeTapdProofFile_rawDigest hfile] at hraw
      exact ⟨hproof, hstored.trans (congrArg some hraw.symm)⟩
  obtain ⟨rfl, hdigest⟩ := hsame
  rw [← hkey, ← hid] at hhistory
  simp only [StoredProof.matchesProofHistory, Bool.and_eq_true, beq_iff_eq] at hmatches
  obtain ⟨⟨hrecord, houtput⟩, htransition⟩ := hmatches
  refine ⟨hid.symm, ⟨proofId decoded, encodeHex encoded, metadata, file.map encodeHex,
    file.map sha256⟩, summary, report, ?_, hpoint, hwritten.fit, hfile, hverify, ?_⟩
  · refine ⟨verified_of_verify ?_ hverify, rfl, ⟨encoded, hencoded, rfl⟩, hhistory, ?_, rfl, rfl⟩
    · cases summary <;> rfl
    · exact (walletProofHistoryMetadata_spec (acceptedWalletProofHistory_spec hhistory)).2
  · obtain ⟨id, tlv, scope, record, output, transition, hex, digest⟩ := stored
    simp only at hkey hhex hscope hrecord houtput htransition htapd hdigest
    rw [PreparedImport.storedProof, ← hkey, ← hid, hhex, ← hscope, hrecord, houtput, htransition,
      htapd, hdigest]

/-- The entry behind a spendable UTXO of a sound wallet. -/
theorem sound_holds (hw : Sound w) {key : String} {utxo : SpendableAssetUtxo}
    (hutxo : w.spendableUtxos[key]? = some utxo) (hstatus : utxo.status = .spendable) :
    ∃ proof file prepared, utxo.proofId = proofId proof ∧ Holds w proof file prepared := by
  obtain ⟨proof, stored, hstored, hvalid, hu⟩ := hw.valid.utxos key utxo hutxo
  obtain ⟨written, file, hwritten⟩ := hw.written _ stored hstored
  obtain ⟨e, hhistory, -⟩ := hu.history
  simp only [validateStoredProofHistory, bind_eq_ok, rejectIf_eq_ok, not_not, exists_const] at hhistory
  obtain ⟨metadata, hmetadata, hmatches, -⟩ := hhistory
  obtain ⟨hid, prepared, summary, report, hp, hpoint, hfit, hfile, hverify, rfl⟩ :=
    stored_eq_prepared hwritten hvalid hmetadata hmatches
  have hkey := hw.keyed key utxo hutxo
  rw [hid] at hstored
  rw [← hkey, hid] at hutxo
  refine ⟨proof, file, prepared, hid, importable_of_prepared hp hpoint hfit, hp,
    ⟨summary, report, hfile, hverify⟩, hstored, utxo, hutxo, hu.anchor, ?_, hstatus, ?_⟩
  · rw [hu.status] at hstatus
    exact fromAnchorState_spendable.mp hstatus
  · exact hu.historyOutput.trans hid

/-- The bundle that a wallet exports for a proof, with an ancestry file or without. -/
def courierBundle (proof : ProofFile) (encoded : Bytes) (metadata : WalletProofHistory)
    (file : Option Bytes) : ProofCourierBundle :=
  { bundleOf proof encoded metadata .confirmed [] with
    tapdRawProofFileHex := file.map encodeHex
    tapdRawProofFileDigest := file.map sha256 }

theorem courierBundle_repeats {proof : ProofFile} (h : Importable proof) {encoded : Bytes}
    (hencoded : proof.encode = .ok encoded) {file : Option Bytes}
    {summary : Option TapdProofFileSummary} (hfile : SummaryOf file summary)
    {report : ProofValidationReport}
    (hverify : proof.verifySemanticAncestry (contextOf summary) = .ok report)
    {metadata : WalletProofHistory}
    (hmetadata : walletProofHistoryMetadata (proofId proof) proof = .ok metadata) :
    Repeats (courierBundle proof encoded metadata file) proof := by
  cases hfile with
  | @tapd bytes summary hdecode =>
    have hbytes : bytes ≠ [] := by
      rintro rfl
      cases hdecode
    exact bundleOf_repeats h hencoded hmetadata .confirmed hdecode hbytes hverify
  | native =>
    obtain ⟨genesis, anchor, hgenesis, hanchor, -⟩ := h.verified.outpoints
    obtain ⟨hrecord, houtput⟩ := walletProofHistoryMetadata_spec hmetadata
    have hproof := decode_encode h.key h.fit hencoded
    have hne : encoded ≠ [] := by
      rintro rfl
      cases hproof
    have hid : proofIdFor proof = proofId proof := rfl
    have hcontext : proof.verifySemanticAncestry .default = .ok report := hverify
    have hrecordId : metadata.recordId ≠ "" := hrecord ▸ recordId_ne_empty proof
    have houtputId : metadata.outputId ≠ "" := houtput ▸ proofId_ne_empty proof
    refine ⟨?_, metadata, hmetadata, rfl, rfl, rfl⟩
    simp [ProofCourierBundle.validate, courierBundle, bundleOf, rejectIf, requireNonempty,
      proofId_ne_empty, toHex_ne_empty, outpoint_ne_empty hgenesis, outpoint_ne_empty hanchor,
      hrecordId, houtputId, proofHexFor, proofDigestFor, decodeHexText_encodeHex hne, hproof,
      requireField, hid, ProofCourierBundle.tapdSummary, hcontext, Except.mapError]

section

variable {proof : ProofFile} {file : Option Bytes} {prepared : PreparedImport} {encoded : Bytes}
  (h : Holds w proof file prepared) (hencoded : proof.encode = .ok encoded)
include h hencoded

theorem Holds.repeats : Repeats (courierBundle proof encoded prepared.proofHistory file) proof := by
  obtain ⟨summary, report, hfile, hverify⟩ := h.passes
  exact courierBundle_repeats h.importable hencoded hfile hverify
    (acceptedWalletProofHistory_spec h.entry.history)

theorem Holds.tlv : (prepared.storedProof proof).proofTlvHex = encodeHex encoded := by
  obtain ⟨encoded', hencoded', hhex⟩ := h.entry.proofHex
  rw [hencoded, Except.ok.injEq] at hencoded'
  rw [hencoded']
  exact hhex

theorem exportEncodedProof_of_holds : w.exportEncodedProof (proofId proof) = .ok encoded := by
  obtain ⟨utxo, hutxo, hcounts⟩ := h.utxo
  have haccepted := accepted_of_entry h.importable h.entry h.stored hutxo hcounts
  simp [WalletState.exportEncodedProof, haccepted, h.stored, okOr, h.tlv hencoded]

omit hencoded in
theorem exportTapdProofFile_of_holds :
    w.exportTapdProofFile (proofId proof) = okOr file (.noTapdProofFile (proofId proof)) := by
  obtain ⟨utxo, hutxo, hcounts⟩ := h.utxo
  have haccepted := accepted_of_entry h.importable h.entry h.stored hutxo hcounts
  have hhex : (prepared.storedProof proof).tapdRawProofFileHex = file.map encodeHex :=
    h.entry.tapdHex
  cases file <;>
    simp [WalletState.exportTapdProofFile, haccepted, h.stored, okOr, hhex]

/-- A valid wallet exports the bundle of every proof that it counts. -/
theorem exportBundle_of_holds (hvalid : WalletValid w) :
    w.exportProofCourierBundle (proofId proof) =
      .ok (courierBundle proof encoded prepared.proofHistory file) := by
  obtain ⟨utxo, hutxo, hcounts⟩ := h.utxo
  have hdecode := decode_encode h.importable.key h.importable.fit hencoded
  have hhex : (prepared.storedProof proof).tapdRawProofFileHex = file.map encodeHex :=
    h.entry.tapdHex
  have hdigest : (prepared.storedProof proof).tapdRawProofFileDigest = file.map sha256 :=
    h.entry.tapdDigest
  simp only [WalletState.exportProofCourierBundle, validate_eq_ok.mpr hvalid, ok_bind,
    exportEncodedProof_of_holds h hencoded, hdecode, Except.mapError, h.stored, hutxo, okOr,
    hcounts.state, hhex, hdigest]
  rfl

/-- A valid wallet without the proof imports its bundle, and holds what the exporter holds. -/
theorem importBundle_of_holds {next : WalletState} (hnext : WalletValid next)
    (hnew : next.proofs[proofId proof]? = none) :
    next.importProofCourierBundle (courierBundle proof encoded prepared.proofHistory file) =
        (.ok (.imported (proofId proof)),
          next.insertProof (prepared.storedProof proof) (prepared.utxo proof .confirmed)) ∧
      WalletValid (next.insertProof (prepared.storedProof proof) (prepared.utxo proof .confirmed)) ∧
      Holds (next.insertProof (prepared.storedProof proof) (prepared.utxo proof .confirmed)) proof
        file prepared := by
  obtain ⟨summary, report, hfile, hverify⟩ := h.passes
  have hrepeats := h.repeats hencoded
  obtain ⟨himport, hvalid⟩ := importWithTapd_new hnext h.importable hnew hfile hverify h.entry
    .confirmed
  have hrequire : (next.insertProof (prepared.storedProof proof)
      (prepared.utxo proof .confirmed)).requireImportedBundleState
        (courierBundle proof encoded prepared.proofHistory file) = .ok () :=
    requireImported_inserted hrepeats h.entry
  obtain ⟨hstored, hutxo⟩ := @get_insertProof next _ _ _ h.entry .confirmed
  refine ⟨?_, hvalid, h.importable, h.entry, h.passes, hstored, _, hutxo, counts_import h.entry⟩
  cases hfile with
  | native =>
    have hopen : WalletState.openBundle (courierBundle proof encoded prepared.proofHistory none) =
        .ok (.inl proof) := openBundle_cases.mpr ⟨proof, hrepeats, .inl ⟨rfl, rfl⟩⟩
    rw [importBundle_native hopen himport, ok_bind]
    dsimp only
    rw [hrequire, ok_bind]
  | @tapd bytes summary hdecode =>
    have hopen : WalletState.openBundle
        (courierBundle proof encoded prepared.proofHistory (some bytes)) =
          .ok (.inr (requestOf proof bytes)) :=
      openBundle_cases.mpr ⟨proof, hrepeats, .inr ⟨encodeHex bytes, bytes, rfl,
        WalletImport.decodeHex_encodeHex bytes, rfl⟩⟩
    have htapd : next.importTapdProofFileWithAnchorState (requestOf proof bytes) .confirmed =
        (.ok (.imported (proofId proof)),
          next.insertProof (prepared.storedProof proof) (prepared.utxo proof .confirmed)) := by
      rw [WalletState.importTapdProofFileWithAnchorState,
        buildTapdImport_of_verified h.importable.verified hdecode hverify]
      exact himport
    rw [importBundle_tapd hopen htapd, ok_bind]
    dsimp only
    rw [hrequire, ok_bind]

/-- A proof that a valid wallet counts travels to the empty wallet. -/
theorem travels_of_holds (hvalid : WalletValid w) : Travels w (proofId proof) proof
    (courierBundle proof encoded prepared.proofHistory file)
    (WalletState.default.insertProof (prepared.storedProof proof)
      (prepared.utxo proof .confirmed)) := by
  obtain ⟨himport, hnext, hholds⟩ := importBundle_of_holds h hencoded walletValid_default
    (by simp [WalletState.default])
  obtain ⟨validation, hvalidate, -⟩ := (h.repeats hencoded).validate
  refine
    { encoded := ⟨encoded, exportEncodedProof_of_holds h hencoded,
        decode_encode h.importable.key h.importable.fit hencoded,
        exportEncodedProof_of_holds hholds hencoded⟩
      exported := exportBundle_of_holds h hencoded hvalid
      validates := ⟨validation, hvalidate⟩
      imported := ⟨_, himport⟩
      balances := (balances_holding h.importable h.entry).2
      tapd := ?_
      again := exportBundle_of_holds hholds hencoded hnext }
  rw [exportTapdProofFile_of_holds hholds, exportTapdProofFile_of_holds h]

end

theorem faithful_of_sound (hw : Sound w) : FaithfulCourier w := by
  refine ⟨fun key utxo hutxo hstatus => ?_, fun bundle h => import_rejects h⟩
  obtain ⟨proof, file, prepared, hid, hholds⟩ := sound_holds hw hutxo hstatus
  obtain ⟨encoded, hencoded, -⟩ := hholds.entry.proofHex
  rw [hid]
  exact ⟨proof, _, _, travels_of_holds hholds hencoded hw.valid⟩

/-- From the empty wallet, bundles carry every counted proof faithfully through every run in
which no operation leaves a proof with a bad key. -/
theorem bundles_carry_proofs (ops : List WalletOp) (hfit : ∀ op ∈ ops, Fits op)
    (h : walletMachine.Guarded (fun w op => ¬ LeavesBadKey w op) ops) :
    FaithfulCourier (walletMachine.run ops) :=
  faithful_of_sound (sound_run ops hfit h)

theorem importVerifiedProof_badKey {proof : ProofFile} (hbad : WritesBadKey w proof none) :
    ∃ prepared, Prepared proof none prepared ∧ (step w (.importVerifiedProof proof)).2 =
      w.insertProof (prepared.storedProof proof) (prepared.utxo proof .confirmed) := by
  obtain ⟨prepared, hprepare⟩ := (passes_iff none).mp hbad.passes
  have hp := prepareImport_spec hprepare
  refine ⟨prepared, hp, ?_⟩
  simp [step, mapReply, WalletState.importVerifiedProof,
    WalletState.importVerifiedProofWithAnchorState, WalletState.importVerifiedProofWithTapd,
    hprepare, hp.proofId, hbad.new]

/-- A wallet that stores a bad key exports no bundle at all. -/
theorem export_blocked {proof : ProofFile} (hfit : TextsFit proof)
    (hkey : ¬ HasKeyPrefix proof.scriptKey) {prepared : PreparedImport}
    (hp : Prepared proof none prepared)
    (hstored : w.proofs[proofId proof]? = some (prepared.storedProof proof)) (id : String)
    (bundle : ProofCourierBundle) : w.exportProofCourierBundle id ≠ .ok bundle := by
  intro hexport
  simp only [WalletState.exportProofCourierBundle, bind_eq_ok] at hexport
  obtain ⟨_, hvalid, -⟩ := hexport
  exact hkey (key_of_valid hp hfit (validate_eq_ok.mp hvalid) hstored)

/-- A good proof imported before one with a bad key is counted, but no bundle is exported. -/
theorem badKey_run {good bad : ProofFile} (h : Importable good) (hfit : TextsFit bad)
    (hpasses : Passes bad none) (hkey : ¬ HasKeyPrefix bad.scriptKey)
    (hne : proofId good ≠ proofId bad) : ∃ utxo,
    (walletMachine.run [.importVerifiedProof good, .importVerifiedProof bad]).spendableUtxos[proofId
      good]? = some utxo ∧ utxo.status = .spendable ∧
    ∀ id bundle, (walletMachine.run [.importVerifiedProof good,
      .importVerifiedProof bad]).exportProofCourierBundle id ≠ .ok bundle := by
  obtain ⟨prepared, hgood, hfirst⟩ := import_step h
  obtain ⟨written, hp, hsecond⟩ := importVerifiedProof_badKey
    ⟨hpasses, holding_fresh hgood hne, hkey⟩
  have hrun : walletMachine.run [.importVerifiedProof good, .importVerifiedProof bad] =
      (holding good prepared).insertProof (written.storedProof bad) (written.utxo bad .confirmed) := by
    simp only [Machine.run, walletMachine, List.foldl_cons, List.foldl_nil, hfirst, hsecond]
  rw [hrun]
  refine ⟨prepared.utxo good .confirmed, ?_, rfl,
    export_blocked hfit hkey hp (get_insertProof hp .confirmed).1⟩
  rw [(get_insertProof_ne hp .confirmed hne).2]
  exact (get_insertProof hgood .confirmed).2

/-- A key of zero bytes, which no compressed point starts with. -/
def zeroKey : CompressedKey := ⟨beBytes 33 0, beBytes_length ..⟩

def zeroKeyRoot : RootHashSum :=
  ⟨⟨beBytes 32 0x7eb3cd541ff9c9b6ac018e01e60bb10ea6e3f904c3493b203320bd08ffb77438,
    beBytes_length ..⟩, 1000000⟩

def zeroKeyProof : ProofFile :=
  { regtestProof otherAnchor with scriptKey := zeroKey, tapAssetRoot := zeroKeyRoot }

def zeroKeyLeaf : AssetLeaf := ⟨regtestAsset, zeroKey, 1000000⟩

def zeroKeyLeafKey : Bytes32 := syntheticAssetLeafKey zeroKeyLeaf 0

theorem zeroKeyProof_fits : TextsFit zeroKeyProof :=
  ⟨by decide +kernel, by decide +kernel⟩

theorem zeroKeyProof_other : proofId (regtestProof regtestAnchor) ≠ proofId zeroKeyProof := by
  decide +kernel

theorem zeroKey_bad : ¬ HasKeyPrefix zeroKeyProof.scriptKey := by
  unfold HasKeyPrefix
  decide

def zeroKey192 : MssmtNode :=
  nodeOf 0x4d8a85a41a79f39687abb06417e983d020c705415ebe0b78019f56f9b159c5ad 1000000
def zeroKey128 : MssmtNode :=
  nodeOf 0xf9ff335522bd45a698eb8dd8011f5a81e853d6502441c4229aea53bd4d751d13 1000000
def zeroKey64 : MssmtNode :=
  nodeOf 0x5fbf357597922f7130257c8399570b8d8d1c6fc1997662c271ca3ab8143ad06b 1000000

theorem singleRoot_zeroKey : singleRoot ⟨regtestAsset, zeroKey, 1000000⟩ = zeroKeyRoot := by
  have h192 : climbs zeroKeyLeafKey 192 64 ((mssmtLeafOf zeroKeyLeaf).node, MssmtLeaf.empty.node) =
      (zeroKey192, empty192) := climbs_of_leaf (by decide +kernel)
  have h128 : climbs zeroKeyLeafKey 128 64 (zeroKey192, empty192) = (zeroKey128, empty128) :=
    climbs_of_number (by decide +kernel)
  have h64 : climbs zeroKeyLeafKey 64 64 (zeroKey128, empty128) = (zeroKey64, empty64) :=
    climbs_of_number (by decide +kernel)
  have h0 : climbs zeroKeyLeafKey 0 64 (zeroKey64, empty64) = (⟨zeroKeyRoot.hash, 1000000⟩, empty0) :=
    climbs_of_number (by decide +kernel)
  exact @singleRoot_of_climbs zeroKeyLeaf zeroKeyLeafKey _ _ _ _ rfl h192 h128 h64 h0

theorem zeroKeyProof_verified : Verified zeroKeyProof := by
  have hregtest := regtestProof_verified otherAnchor_parses (by decide +kernel)
  have hhash : zeroKeyRoot.hash ≠ Bytes32.ZERO := by decide
  exact { hregtest with rootHash := hhash, root := singleRoot_zeroKey.symm }

theorem zeroKeyProof_passes : Passes zeroKeyProof none := by
  obtain ⟨report, hverify⟩ := verify_of_verified zeroKeyProof_verified
  have htransition : (walletProofHistoryMetadata (proofId zeroKeyProof) zeroKeyProof).toOption.all
      (fun m => m.transitionId ≠ Bytes32.ZERO) = true := by decide +kernel
  obtain ⟨metadata, -, haccepted⟩ := acceptedWalletProofHistory_of_verified zeroKeyProof_verified
    fun metadata hmetadata => by
      rw [hmetadata] at htransition
      simpa [Except.toOption] using htransition
  exact ⟨⟨report, hverify⟩, metadata, haccepted⟩

def badKeyRun : List WalletOp :=
  [.importVerifiedProof (regtestProof regtestAnchor), .importVerifiedProof zeroKeyProof]

theorem badKeyRun_fits : ∀ op ∈ badKeyRun, Fits op := by
  intro op hop
  rcases List.mem_cons.mp hop with rfl | hop
  · exact regtestAnchor_importable.fit
  · obtain rfl := List.mem_singleton.mp hop
    exact zeroKeyProof_fits

/-- The failed import of a proof with a bad key blocks the export of the good one. -/
theorem bad_key_blocks_export : (∀ op ∈ badKeyRun, Fits op) ∧
    (∃ utxo, (walletMachine.run badKeyRun).spendableUtxos[proofId (regtestProof regtestAnchor)]? =
        some utxo ∧ utxo.status = .spendable ∧
      ∀ bundle, (walletMachine.run badKeyRun).exportProofCourierBundle utxo.proofId ≠ .ok bundle) ∧
    ¬ FaithfulCourier (walletMachine.run badKeyRun) := by
  obtain ⟨utxo, hutxo, hstatus, hblocked⟩ := badKey_run regtestAnchor_importable zeroKeyProof_fits
    zeroKeyProof_passes zeroKey_bad zeroKeyProof_other
  refine ⟨badKeyRun_fits, ⟨utxo, hutxo, hstatus, hblocked _⟩, fun hfaithful => ?_⟩
  obtain ⟨proof, bundle, next, htravels⟩ := hfaithful.travels _ _ hutxo hstatus
  exact hblocked _ _ htravels.exported

/-- A proof with an ancestry file is counted by the wallet that imports it, and travels. -/
theorem bundles_carry_proofs_tapd : ∃ utxo,
    (walletMachine.run [.importTapdProofFile (tapdRequest regtestAnchor)]).spendableUtxos[proofId
      (tapdProof regtestAnchor)]? = some utxo ∧ utxo.status = .spendable ∧
    FaithfulCourier (walletMachine.run [.importTapdProofFile (tapdRequest regtestAnchor)]) := by
  obtain ⟨prepared, hp, hrun, -⟩ := importTapd_run
  refine ⟨prepared.utxo (tapdProof regtestAnchor) .confirmed, ?_, rfl, ?_⟩
  · rw [hrun]
    exact (get_insertProof hp .confirmed).2
  · refine bundles_carry_proofs _ ?_ (Machine.guarded_concat (Machine.guarded_nil _ _) not_false)
    intro op hop
    obtain rfl := List.mem_singleton.mp hop
    exact tapdAnchor_importable.fit

end TapLdk.WalletCourier
