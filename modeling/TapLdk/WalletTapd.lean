import Mathlib
import TapLdk.TapdAncestry
import TapLdk.WalletOutpoint

/-! Ancestry files against the proofs they back: the wallet compares a file with the one
stored for the same proof, and with no other. -/
namespace TapLdk.WalletTapd
open TapLdk.LibraryExcept TapLdk.LibraryMaps TapLdk.LibraryBytes TapLdk.LibraryRuns
open TapLdk.LibrarySha256 TapLdk.Mssmt TapLdk.Asset TapLdk.TapdProof TapLdk.Proof
open TapLdk.ProofHistory TapLdk.TapdAncestry TapLdk.Wallet TapLdk.WalletImport TapLdk.WalletSteps
open TapLdk.WalletOutpoint

/-- No two spendable UTXOs are backed by one ancestry file. -/
def TapdBackedOnce (w : WalletState) : Prop :=
  ∀ (k₁ k₂ : String) (u₁ u₂ : SpendableAssetUtxo) (s₁ s₂ : StoredProof) (digest : Bytes32),
    w.spendableUtxos[k₁]? = some u₁ → w.spendableUtxos[k₂]? = some u₂ →
    u₁.status = .spendable → u₂.status = .spendable →
    w.proofs[u₁.proofId]? = some s₁ → w.proofs[u₂.proofId]? = some s₂ →
    s₁.tapdRawProofFileDigest = some digest → s₂.tapdRawProofFileDigest = some digest → k₁ = k₂

/-- The operation brings in an ancestry file that is stored for another proof. -/
def ReusesFile (w : WalletState) (op : WalletOp) : Prop :=
  ∃ o file, offer w op = some o ∧ o.tapdProofFile = some file ∧
    ∃ (key : String) (stored : StoredProof), (o.wallet w).proofs[key]? = some stored ∧
      stored.tapdRawProofFileDigest = some (sha256 file) ∧ key ≠ proofId o.proof

/-- Every UTXO has the key of its proof, and no two proofs share an ancestry file. -/
structure FiledOnce (w : WalletState) : Prop where
  keyed : ∀ (key : String) (utxo : SpendableAssetUtxo), w.spendableUtxos[key]? = some utxo →
    utxo.proofId = key
  once : ∀ (k₁ k₂ : String) (s₁ s₂ : StoredProof) (digest : Bytes32),
    w.proofs[k₁]? = some s₁ → w.proofs[k₂]? = some s₂ →
    s₁.tapdRawProofFileDigest = some digest → s₂.tapdRawProofFileDigest = some digest → k₁ = k₂

theorem filedOnce_backedOnce {w : WalletState} (h : FiledOnce w) : TapdBackedOnce w := by
  intro k₁ k₂ u₁ u₂ s₁ s₂ digest hu₁ hu₂ _ _ hs₁ hs₂ hd₁ hd₂
  rw [h.keyed k₁ u₁ hu₁] at hs₁
  rw [h.keyed k₂ u₂ hu₂] at hs₂
  exact h.once k₁ k₂ s₁ s₂ digest hs₁ hs₂ hd₁ hd₂

/-- The stored proofs after an import: at most one entry is new or changed, and it carries
the file of the offer. -/
theorem imported_proofs {w next : WalletState} {o : Offer} (h : Imported w o next) :
    next.proofs = w.proofs ∨ ∃ stored, next.proofs = w.proofs.insert (proofId o.proof) stored ∧
      stored.tapdRawProofFileDigest = o.tapdProofFile.map sha256 := by
  cases h with
  | same => exact .inl rfl
  | attached hold hdigest => exact .inr ⟨_, rfl, hdigest⟩
  | @inserted prepared hp hnew =>
    refine .inr ⟨prepared.storedProof o.proof, ?_, hp.tapdDigest⟩
    rw [WalletState.insertProof, ← hp.proofId]
    rfl

theorem filedOnce_imported {w next : WalletState} {o : Offer} (h : FiledOnce w)
    (himport : Imported w o next)
    (hfile : ∀ file, o.tapdProofFile = some file → ∀ (key : String) (stored : StoredProof),
      w.proofs[key]? = some stored → stored.tapdRawProofFileDigest = some (sha256 file) →
      key = proofId o.proof) : FiledOnce next := by
  refine ⟨fun key utxo hu => ?_, fun k₁ k₂ s₁ s₂ digest h₁ h₂ hd₁ hd₂ => ?_⟩
  · rcases imported_utxos himport with ⟨hutxos, -⟩ | ⟨prepared, hp, -, -, hutxos⟩
    · exact h.keyed key utxo (hutxos ▸ hu)
    · rw [hutxos] at hu
      rcases get_insert_eq_some hu with ⟨rfl, rfl⟩ | ⟨-, hu⟩
      · exact hp.proofId
      · exact h.keyed key utxo hu
  · rcases imported_proofs himport with hproofs | ⟨stored, hproofs, hdigest⟩
    · rw [hproofs] at h₁ h₂
      exact h.once k₁ k₂ s₁ s₂ digest h₁ h₂ hd₁ hd₂
    · -- an old proof with the file of the offer is the one that the offer is stored under
      have hsame : ∀ (key : String) (s : StoredProof), w.proofs[key]? = some s →
          s.tapdRawProofFileDigest = some digest → stored.tapdRawProofFileDigest = some digest →
          key = proofId o.proof := by
        intro key s hs hd hnew
        rw [hdigest, Option.map_eq_some_iff] at hnew
        obtain ⟨file, ho, rfl⟩ := hnew
        exact hfile file ho key s hs hd
      rw [hproofs] at h₁ h₂
      rcases get_insert_eq_some h₁ with ⟨rfl, rfl⟩ | ⟨-, hold₁⟩ <;>
        rcases get_insert_eq_some h₂ with ⟨rfl, rfl⟩ | ⟨-, hold₂⟩
      · rfl
      · exact (hsame k₂ s₂ hold₂ hd₂ hd₁).symm
      · exact hsame k₁ s₁ hold₁ hd₁ hd₂
      · exact h.once k₁ k₂ s₁ s₂ digest hold₁ hold₂ hd₁ hd₂

theorem filedOnce_step {w : WalletState} {op : WalletOp} (h : FiledOnce w)
    (hfile : ¬ ReusesFile w op) : FiledOnce (step w op).2 := by
  refine step_preserves h ?_ ?_ ?_
  · intro _ inputId _ _ h
    exact ⟨fun key utxo hu => h.keyed key utxo (get_erase_eq_some hu).2,
      fun k₁ k₂ s₁ s₂ digest h₁ h₂ =>
        h.once k₁ k₂ s₁ s₂ digest (get_erase_eq_some h₁).2 (get_erase_eq_some h₂).2⟩
  · intro o next ho h himport
    refine filedOnce_imported h himport fun file ho' key stored hs hd => ?_
    by_contra hne
    exact hfile ⟨o, file, ho, ho', key, stored, hs, hd, hne⟩
  · intro anchorOutpoint anchorState next _ hok
    refine ⟨fun key utxo hu => ?_, ?_⟩
    · obtain ⟨old, hold, rfl⟩ := updated_utxo hok hu
      rw [WalletSpend.withAnchorState_proofId]
      exact h.keyed key old hold
    · rw [(updateAnchorState_spec hok).2.1]
      exact h.once

/-- From the empty wallet, an ancestry file backs at most one spendable UTXO through every
run in which no file is brought in again for another proof. -/
theorem tapd_file_backs_one_utxo (ops : List WalletOp)
    (h : walletMachine.Guarded (fun w op => ¬ ReusesFile w op) ops) :
    TapdBackedOnce (walletMachine.run ops) := by
  have hinit : FiledOnce walletMachine.start := by
    refine ⟨?_, ?_⟩ <;> simp [walletMachine, WalletState.default]
  refine filedOnce_backedOnce (walletMachine.guarded_induction (fun w op => ¬ ReusesFile w op)
    (fun _ w => FiledOnce w) hinit ?_ ops h)
  intro _ w op h hfile
  exact filedOnce_step h hfile

/-- An ancestry file is brought into the wallet as it is. -/
theorem tapdOffer_wallet {request : TapdProofImportRequest} {anchorState : ProofAnchorState}
    {o : Offer} (w : WalletState) (h : tapdOffer request anchorState = some o) :
    o.wallet w = w := by
  cases hbuild : WalletState.buildTapdImport request with
  | error e => simp [tapdOffer, hbuild, Except.toOption] at h
  | ok built =>
    simp only [tapdOffer, hbuild, Except.toOption, Option.bind_eq_bind, Option.bind_some,
      Option.some.injEq] at h
    rw [← h]
    rfl

/-- An ancestry file whose proof is new to a valid wallet is imported with it. -/
theorem importTapd_new {w : WalletState} (hw : WalletValid w) {request : TapdProofImportRequest}
    {summary : TapdProofFileSummary} {proof : ProofFile} {report : ProofValidationReport}
    (hbuild : WalletState.buildTapdImport request = .ok (summary, proof))
    (hdecode : decodeTapdProofFile request.tapdProofFile = .ok summary)
    (hverify : proof.verifySemanticAncestry (.forTapdImport summary) = .ok report)
    (h : Importable proof) (hnew : w.proofs[proofId proof]? = none) : ∃ prepared,
    Prepared proof (some request.tapdProofFile) prepared ∧
      (step w (.importTapdProofFile request)).2 =
        w.insertProof (prepared.storedProof proof) (prepared.utxo proof .confirmed) ∧
      WalletValid (w.insertProof (prepared.storedProof proof) (prepared.utxo proof .confirmed)) := by
  obtain ⟨metadata, -, haccepted⟩ := acceptedWalletProofHistory_ok h
  obtain ⟨prepared, hprepared⟩ : ∃ prepared,
      prepareImport proof (some request.tapdProofFile) (some summary) = .ok prepared := by
    simp [prepareImport, hverify, Except.mapError, encode_eq, haccepted]
  have hp := prepareImport_spec hprepared
  obtain ⟨himport, hvalid⟩ := importWithTapd_new hw h hnew (.tapd hdecode) hverify hp .confirmed
  refine ⟨prepared, hp, ?_, hvalid⟩
  simp only [step, WalletState.importTapdProofFile, WalletState.importTapdProofFileWithAnchorState,
    hbuild, mapReply, himport]

def tapdRequest (anchorOutpoint : String) : TapdProofImportRequest :=
  ⟨tapdAsset, regtestGenesis, anchorOutpoint, 1000000, regtestKey, twoAssetFile⟩

theorem tapdProof_importable {anchorOutpoint : String} (anchor : ParsedOutpoint)
    (hanchor : outpointOf anchorOutpoint = some anchor) (hne : outpointOf regtestGenesis ≠ some anchor)
    (hlength : (utf8 anchorOutpoint).length < 2 ^ 64)
    (htransition : (walletProofHistoryMetadata (proofId (tapdProof anchorOutpoint))
      (tapdProof anchorOutpoint)).toOption.all (fun m => m.transitionId ≠ Bytes32.ZERO) = true) :
    Importable (tapdProof anchorOutpoint) := by
  have hgenesis : (utf8 regtestGenesis).length < 2 ^ 64 := by decide +kernel
  have hkey : HasKeyPrefix regtestKey := .inl (by decide)
  refine ⟨tapdProof_verified hanchor hne, hkey, ⟨hgenesis, hlength⟩, fun metadata hm => ?_⟩
  rw [hm] at htransition
  simpa [Except.toOption] using htransition

theorem tapdAnchor_importable : Importable (tapdProof regtestAnchor) :=
  tapdProof_importable ⟨"aaaaaaaaaaaaaaaaaaaaaaaaaaaaaaaaaaaaaaaaaaaaaaaaaaaaaaaaaaaaaaaa", 1⟩
    (by decide +kernel) (by decide +kernel) (by decide +kernel) (by decide +kernel)

theorem otherAnchor_importable : Importable (tapdProof otherAnchor) :=
  tapdProof_importable ⟨"bbbbbbbbbbbbbbbbbbbbbbbbbbbbbbbbbbbbbbbbbbbbbbbbbbbbbbbbbbbbbbbb", 1⟩
    (by decide +kernel) (by decide +kernel) (by decide +kernel) (by decide +kernel)

/-- The request turns into the proof of the file's last leaf, under the anchor it names. -/
theorem buildTapdImport_ok (anchorOutpoint : String) : ∃ summary,
    WalletState.buildTapdImport (tapdRequest anchorOutpoint) =
        .ok (summary, tapdProof anchorOutpoint) ∧
      decodeTapdProofFile twoAssetFile = .ok summary ∧ readsAs summary = true := by
  obtain ⟨summary, hdecode, hreads⟩ := twoAssetFile_decodes
  have hleaf := hreads
  simp only [readsAs, Bool.and_eq_true, Option.any_eq_true, decide_eq_true_eq] at hleaf
  obtain ⟨-, leaf, hlatest, ⟨⟨⟨-, htype⟩, -⟩, -⟩, -⟩ := hleaf
  have hamount : (1000000 : AssetAmount) ≠ 0 := by decide
  have hroot : deriveHashSumRoot [⟨(tapdRequest anchorOutpoint).assetId,
      (tapdRequest anchorOutpoint).scriptKey, (tapdRequest anchorOutpoint).amount⟩] =
        .ok tapdRoot := by
    refine Eq.trans ?_ (congrArg Except.ok singleRoot_tapd)
    exact @deriveHashSumRoot_single ⟨tapdAsset, regtestKey, 1000000⟩ hamount
  have hnormal : (AssetType.fromU8 leaf.assetType).mapError WalletError.asset = .ok .normal := by
    rw [htype]
    rfl
  have hsemantic : (tapdRequest anchorOutpoint).buildSemanticProof summary =
      .ok (tapdProof anchorOutpoint) := by
    rw [TapdProofImportRequest.buildSemanticProof, okOr_eq_ok.mpr hlatest, ok_bind, hnormal,
      ok_bind, mapError_eq_ok.mpr hroot, ok_bind]
    rfl
  refine ⟨summary, ?_, hdecode, hreads⟩
  have hfile : (tapdRequest anchorOutpoint).tapdProofFile = twoAssetFile := rfl
  rw [WalletState.buildTapdImport, hfile, hdecode, Except.mapError, ok_bind, hsemantic]
  rfl

/-- The file is imported under every new anchor. -/
theorem importTapd_step {w : WalletState} {anchorOutpoint : String} (hw : WalletValid w)
    (h : Importable (tapdProof anchorOutpoint))
    (hnew : w.proofs[proofId (tapdProof anchorOutpoint)]? = none) : ∃ prepared,
    Prepared (tapdProof anchorOutpoint) (some twoAssetFile) prepared ∧
      (step w (.importTapdProofFile (tapdRequest anchorOutpoint))).2 =
        w.insertProof (prepared.storedProof (tapdProof anchorOutpoint))
          (prepared.utxo (tapdProof anchorOutpoint) .confirmed) ∧
      WalletValid (w.insertProof (prepared.storedProof (tapdProof anchorOutpoint))
        (prepared.utxo (tapdProof anchorOutpoint) .confirmed)) := by
  obtain ⟨summary, hbuild, hdecode, hreads⟩ := buildTapdImport_ok anchorOutpoint
  obtain ⟨report, hverify⟩ :=
    verify_tapd_of_verified h.verified (readsAs_ancestry hreads anchorOutpoint)
  exact importTapd_new hw hbuild hdecode hverify h hnew

theorem proofId_other : proofId (tapdProof otherAnchor) ≠ proofId (tapdProof regtestAnchor) := by
  decide +kernel

theorem importTapd_run : ∃ prepared,
    Prepared (tapdProof regtestAnchor) (some twoAssetFile) prepared ∧
      walletMachine.run [.importTapdProofFile (tapdRequest regtestAnchor)] =
        WalletState.default.insertProof (prepared.storedProof (tapdProof regtestAnchor))
          (prepared.utxo (tapdProof regtestAnchor) .confirmed) ∧
      WalletValid (walletMachine.run [.importTapdProofFile (tapdRequest regtestAnchor)]) := by
  obtain ⟨prepared, hp, hstep, hvalid⟩ := importTapd_step walletValid_default tapdAnchor_importable
    (by simp [WalletState.default])
  have hrun := walletMachine_concat [] (.importTapdProofFile (tapdRequest regtestAnchor))
  rw [List.nil_append, Machine.run_nil] at hrun
  have hstart : walletMachine.start = .default := rfl
  rw [hstart, hstep] at hrun
  refine ⟨prepared, hp, hrun, ?_⟩
  rw [hrun]
  exact hvalid

/-- One file of a million units, imported under two anchors, backs two spendable UTXOs. -/
theorem tapd_file_backs_two_utxos : ¬ TapdBackedOnce (walletMachine.run
    [.importTapdProofFile (tapdRequest regtestAnchor),
      .importTapdProofFile (tapdRequest otherAnchor)]) := by
  obtain ⟨first, hfirst, hrun, hvalid⟩ := importTapd_run
  obtain ⟨hstored₁, hutxo₁⟩ := @get_insertProof .default _ _ _ hfirst .confirmed
  have hnew : (walletMachine.run [.importTapdProofFile (tapdRequest regtestAnchor)]).proofs[proofId
      (tapdProof otherAnchor)]? = none := by
    rw [hrun, (get_insertProof_ne hfirst .confirmed proofId_other).1]
    simp [WalletState.default]
  obtain ⟨second, hsecond, hstep, -⟩ := importTapd_step hvalid otherAnchor_importable hnew
  rw [hrun] at hstep
  obtain ⟨hstored₂, hutxo₂⟩ := @get_insertProof (WalletState.default.insertProof
    (first.storedProof (tapdProof regtestAnchor)) (first.utxo (tapdProof regtestAnchor) .confirmed))
    _ _ _ hsecond .confirmed
  have hother := @get_insertProof_ne (WalletState.default.insertProof
    (first.storedProof (tapdProof regtestAnchor)) (first.utxo (tapdProof regtestAnchor) .confirmed))
    _ _ _ hsecond .confirmed _ proofId_other.symm
  have hproof₁ : (first.utxo (tapdProof regtestAnchor) .confirmed).proofId =
      proofId (tapdProof regtestAnchor) := hfirst.proofId
  have hproof₂ : (second.utxo (tapdProof otherAnchor) .confirmed).proofId =
      proofId (tapdProof otherAnchor) := hsecond.proofId
  have hboth := walletMachine_concat [.importTapdProofFile (tapdRequest regtestAnchor)]
    (.importTapdProofFile (tapdRequest otherAnchor))
  rw [hrun, hstep, List.singleton_append] at hboth
  intro honce
  rw [hboth] at honce
  exact proofId_other (honce _ _ _ _ _ _ (sha256 twoAssetFile) hutxo₂ (hother.2.trans hutxo₁) rfl rfl
    (hproof₂ ▸ hstored₂) (hproof₁ ▸ hother.1.trans hstored₁) hsecond.tapdDigest hfirst.tapdDigest)

/-- An import of the file and one of a second proof without it make two UTXOs, of which the
file backs one. -/
theorem tapd_file_backs_one_utxo_imports : ∃ (w : WalletState) (utxo utxo' : SpendableAssetUtxo),
    w = walletMachine.run [.importTapdProofFile (tapdRequest regtestAnchor),
        .importVerifiedProof (tapdProof otherAnchor)] ∧
      w.spendableUtxos[proofId (tapdProof regtestAnchor)]? = some utxo ∧
      w.spendableUtxos[proofId (tapdProof otherAnchor)]? = some utxo' ∧
      utxo.status = .spendable ∧ utxo'.status = .spendable ∧ TapdBackedOnce w := by
  obtain ⟨prepared, hp, hrun, hvalid⟩ := importTapd_run
  have hnew : (walletMachine.run [.importTapdProofFile (tapdRequest regtestAnchor)]).proofs[proofId
      (tapdProof otherAnchor)]? = none := by
    rw [hrun, (get_insertProof_ne hp .confirmed proofId_other).1]
    simp [WalletState.default]
  obtain ⟨next, utxo', hstep, -, hutxos, -, -, -, hstatus⟩ :=
    importBeside hvalid otherAnchor_importable hnew
  have hguarded : walletMachine.Guarded (fun w op => ¬ ReusesFile w op)
      ([] ++ [.importTapdProofFile (tapdRequest regtestAnchor)] ++
        [.importVerifiedProof (tapdProof otherAnchor)]) := by
    apply Machine.guarded_concat
    · refine Machine.guarded_concat (Machine.guarded_nil _ _) ?_
      rintro ⟨o, file, ho, -, key, stored, hget, -⟩
      have hstart : walletMachine.run [] = .default := rfl
      rw [hstart, tapdOffer_wallet .default ho] at hget
      simp [WalletState.default] at hget
    · rintro ⟨o, file, ho, hfile, -⟩
      obtain rfl := Option.some.inj ho
      cases hfile
  have hboth : walletMachine.run [.importTapdProofFile (tapdRequest regtestAnchor),
      .importVerifiedProof (tapdProof otherAnchor)] = next :=
    (walletMachine_concat [.importTapdProofFile (tapdRequest regtestAnchor)] _).trans
      (congrArg Prod.snd hstep)
  refine ⟨_, prepared.utxo (tapdProof regtestAnchor) .confirmed, utxo', rfl, ?_, ?_, rfl, hstatus,
    tapd_file_backs_one_utxo _ hguarded⟩
  · rw [hboth, hutxos, get_insert_ne proofId_other.symm, hrun]
    exact (@get_insertProof .default _ _ _ hp .confirmed).2
  · rw [hboth, hutxos]
    exact get_insert_self ..

end TapLdk.WalletTapd
