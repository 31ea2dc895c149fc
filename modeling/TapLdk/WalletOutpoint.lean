import Mathlib
import TapLdk.WalletSpend

/-! Outpoints against their spellings. The wallet keys a UTXO by the text of its anchor,
while many texts parse to one outpoint. -/
namespace TapLdk.WalletOutpoint
open TapLdk.LibraryExcept TapLdk.LibraryMaps TapLdk.LibraryBytes TapLdk.LibraryRuns
open TapLdk.Mssmt TapLdk.Asset TapLdk.Proof TapLdk.ProofHistory TapLdk.Wallet
open TapLdk.WalletImport TapLdk.WalletSteps TapLdk.WalletSpend

def walletMachine : Machine WalletState WalletOp := ⟨.default, fun w op => (step w op).2⟩

theorem walletMachine_concat (ops : List WalletOp) (op : WalletOp) :
    walletMachine.run (ops ++ [op]) = (step (walletMachine.run ops) op).2 :=
  Machine.run_concat walletMachine ops op

/-- What every UTXO of a wallet built by its own operations looks like. -/
structure Shape (w : WalletState) : Prop where
  keyed : ∀ (key : String) (utxo : SpendableAssetUtxo), w.spendableUtxos[key]? = some utxo →
    key = s!"{utxo.assetId}:{utxo.anchorOutpoint}"
  status : ∀ (key : String) (utxo : SpendableAssetUtxo), w.spendableUtxos[key]? = some utxo →
    utxo.status = .fromAnchorState utxo.anchorState
  stored : ∀ (key : String) (utxo : SpendableAssetUtxo), w.spendableUtxos[key]? = some utxo →
    w.proofs[key]? ≠ none

/-- The UTXOs after an import: those of the wallet, and the new one if there is one. -/
theorem imported_utxos {w next : WalletState} {o : Offer} (h : Imported w o next) :
    (next.spendableUtxos = w.spendableUtxos ∧
      ∀ key : String, w.proofs[key]? ≠ none → next.proofs[key]? ≠ none) ∨
      ∃ prepared, Prepared o.proof o.tapdProofFile prepared ∧ w.proofs[proofId o.proof]? = none ∧
        next.proofs = w.proofs.insert (proofId o.proof) (prepared.storedProof o.proof) ∧
        next.spendableUtxos =
          w.spendableUtxos.insert (proofId o.proof) (prepared.utxo o.proof o.anchorState) := by
  cases h with
  | same => exact .inl ⟨rfl, fun _ h => h⟩
  | attached hold =>
    refine .inl ⟨rfl, fun key hkey => ?_⟩
    by_cases hid : key = proofId o.proof
    · rw [hid, get_insert_self]
      exact Option.some_ne_none _
    · rwa [get_insert_ne hid]
  | inserted hp hnew =>
    rename_i prepared
    refine .inr ⟨prepared, hp, hnew, ?_, ?_⟩
    · rw [WalletState.insertProof, ← hp.proofId]
      rfl
    · rw [WalletState.insertProof, ← hp.proofId]
      rfl

theorem shape_removeInput {w : WalletState} (h : Shape w) (inputId : String) :
    Shape (w.removeInput inputId) := by
  refine ⟨fun key utxo hu => h.keyed key utxo (get_erase_eq_some hu).2,
    fun key utxo hu => h.status key utxo (get_erase_eq_some hu).2, fun key utxo hu => ?_⟩
  obtain ⟨hne, hu⟩ := get_erase_eq_some hu
  rw [WalletState.removeInput, get_erase_ne hne]
  exact h.stored key utxo hu

theorem shape_imported {w next : WalletState} {o : Offer} (h : Shape w) (himport : Imported w o next) :
    Shape next := by
  rcases imported_utxos himport with ⟨hutxos, hproofs⟩ | ⟨prepared, hp, -, hproofs, hutxos⟩
  · refine ⟨fun key utxo hu => h.keyed key utxo (hutxos ▸ hu),
      fun key utxo hu => h.status key utxo (hutxos ▸ hu),
      fun key utxo hu => hproofs key (h.stored key utxo (hutxos ▸ hu))⟩
  · refine ⟨fun key utxo hu => ?_, fun key utxo hu => ?_, fun key utxo hu => ?_⟩
    · rw [hutxos] at hu
      rcases get_insert_eq_some hu with ⟨rfl, rfl⟩ | ⟨-, hu⟩
      · rfl
      · exact h.keyed key utxo hu
    · rw [hutxos] at hu
      rcases get_insert_eq_some hu with ⟨rfl, rfl⟩ | ⟨-, hu⟩
      · rfl
      · exact h.status key utxo hu
    · rw [hproofs]
      rw [hutxos] at hu
      rcases get_insert_eq_some hu with ⟨rfl, -⟩ | ⟨hne, hu⟩
      · rw [get_insert_self]
        exact Option.some_ne_none _
      · rw [get_insert_ne hne]
        exact h.stored key utxo hu

/-- A notice changes the state and status of a UTXO and nothing else. -/
theorem withAnchorState_spec (utxo : SpendableAssetUtxo) (anchorOutpoint : String)
    (anchorState : ProofAnchorState) :
    (utxo.withAnchorState anchorOutpoint anchorState).assetId = utxo.assetId ∧
      (utxo.withAnchorState anchorOutpoint anchorState).anchorOutpoint = utxo.anchorOutpoint ∧
      (utxo.withAnchorState anchorOutpoint anchorState).anchorState =
        if utxo.anchorOutpoint = anchorOutpoint then anchorState else utxo.anchorState := by
  unfold SpendableAssetUtxo.withAnchorState
  split <;> exact ⟨rfl, rfl, rfl⟩

theorem withAnchorState_status {utxo : SpendableAssetUtxo} (anchorOutpoint : String)
    (anchorState : ProofAnchorState) (h : utxo.status = .fromAnchorState utxo.anchorState) :
    (utxo.withAnchorState anchorOutpoint anchorState).status =
      .fromAnchorState (utxo.withAnchorState anchorOutpoint anchorState).anchorState := by
  unfold SpendableAssetUtxo.withAnchorState
  split
  · rfl
  · exact h

theorem updated_utxo {w next : WalletState} {anchorOutpoint : String} {anchorState : ProofAnchorState}
    (h : w.updateAnchorState anchorOutpoint anchorState = .ok ((), next)) {key : String}
    {utxo : SpendableAssetUtxo} (hu : next.spendableUtxos[key]? = some utxo) :
    ∃ old, w.spendableUtxos[key]? = some old ∧
      utxo = old.withAnchorState anchorOutpoint anchorState := by
  rw [(updateAnchorState_spec h).2.2, Option.map_eq_some_iff] at hu
  obtain ⟨old, hold, rfl⟩ := hu
  exact ⟨old, hold, rfl⟩

theorem shape_updated {w next : WalletState} {anchorOutpoint : String} {anchorState : ProofAnchorState}
    (h : Shape w) (hupdate : w.updateAnchorState anchorOutpoint anchorState = .ok ((), next)) :
    Shape next := by
  refine ⟨fun key utxo hu => ?_, fun key utxo hu => ?_, fun key utxo hu => ?_⟩ <;>
    obtain ⟨old, hold, rfl⟩ := updated_utxo hupdate hu
  · obtain ⟨hasset, hanchor, -⟩ := withAnchorState_spec old anchorOutpoint anchorState
    rw [hasset, hanchor]
    exact h.keyed key old hold
  · exact withAnchorState_status _ _ (h.status key old hold)
  · rw [(updateAnchorState_spec hupdate).2.1]
    exact h.stored key old hold

theorem shape_step {w : WalletState} (h : Shape w) (op : WalletOp) : Shape (step w op).2 :=
  step_preserves h (fun _ inputId _ _ h => shape_removeInput h inputId)
    (fun _ _ _ h himport => shape_imported h himport) (fun _ _ _ _ hok => shape_updated h hok)

theorem shape_default : Shape .default := by
  refine ⟨?_, ?_, ?_⟩ <;> simp [WalletState.default]

/-- No two UTXOs of one asset are anchored at one outpoint. -/
def CreditedOnce (w : WalletState) : Prop :=
  ∀ (k₁ k₂ : String) (u₁ u₂ : SpendableAssetUtxo) (p : ParsedOutpoint),
    w.spendableUtxos[k₁]? = some u₁ → w.spendableUtxos[k₂]? = some u₂ → u₁.assetId = u₂.assetId →
      outpointOf u₁.anchorOutpoint = some p → outpointOf u₂.anchorOutpoint = some p → k₁ = k₂

/-- The operation brings in a new proof that spells the anchor of a UTXO of its asset in
another way. -/
def Respells (w : WalletState) (op : WalletOp) : Prop :=
  ∃ o, offer w op = some o ∧ Verified o.proof ∧ (o.wallet w).proofs[proofId o.proof]? = none ∧
    ∃ (key : String) (utxo : SpendableAssetUtxo), (o.wallet w).spendableUtxos[key]? = some utxo ∧
      utxo.assetId = toHex o.proof.assetId ∧ utxo.anchorOutpoint ≠ o.proof.anchorOutpoint ∧
      outpointOf utxo.anchorOutpoint = outpointOf o.proof.anchorOutpoint

theorem creditedOnce_imported {w next : WalletState} {o : Offer} (hshape : Shape w)
    (h : CreditedOnce w) (himport : Imported w o next)
    (hspelling : Verified o.proof → w.proofs[proofId o.proof]? = none →
      ∀ (key : String) (utxo : SpendableAssetUtxo), w.spendableUtxos[key]? = some utxo →
        utxo.assetId = toHex o.proof.assetId →
        outpointOf utxo.anchorOutpoint = outpointOf o.proof.anchorOutpoint →
        utxo.anchorOutpoint = o.proof.anchorOutpoint) : CreditedOnce next := by
  rcases imported_utxos himport with ⟨hutxos, -⟩ | ⟨prepared, hp, hnew, -, hutxos⟩
  · simpa only [CreditedOnce, hutxos] using h
  · -- an old UTXO of the asset at the outpoint of the new one has its key
    have hsame : ∀ (key : String) (utxo : SpendableAssetUtxo), w.spendableUtxos[key]? = some utxo →
        utxo.assetId = toHex o.proof.assetId →
        outpointOf utxo.anchorOutpoint = outpointOf o.proof.anchorOutpoint →
        key = proofId o.proof := by
      intro key utxo hu hasset hanchor
      rw [hshape.keyed key utxo hu, hasset, hspelling hp.verified hnew key utxo hu hasset hanchor]
      rfl
    intro k₁ k₂ u₁ u₂ p h₁ h₂ hasset hp₁ hp₂
    rw [hutxos] at h₁ h₂
    rcases get_insert_eq_some h₁ with ⟨rfl, rfl⟩ | ⟨-, h₁⟩ <;>
      rcases get_insert_eq_some h₂ with ⟨rfl, rfl⟩ | ⟨-, h₂⟩
    · rfl
    · exact (hsame k₂ u₂ h₂ hasset.symm (hp₂.trans hp₁.symm)).symm
    · exact hsame k₁ u₁ h₁ hasset (hp₁.trans hp₂.symm)
    · exact h k₁ k₂ u₁ u₂ p h₁ h₂ hasset hp₁ hp₂

theorem creditedOnce_step {w : WalletState} {op : WalletOp} (hshape : Shape w) (h : CreditedOnce w)
    (hspelling : ¬ Respells w op) : CreditedOnce (step w op).2 := by
  refine (step_preserves (P := fun w => Shape w ∧ CreditedOnce w) ⟨hshape, h⟩ ?_ ?_ ?_).2
  · rintro _ inputId _ - ⟨hs, h⟩
    refine ⟨shape_removeInput hs inputId, fun k₁ k₂ u₁ u₂ p h₁ h₂ => ?_⟩
    exact h k₁ k₂ u₁ u₂ p (get_erase_eq_some h₁).2 (get_erase_eq_some h₂).2
  · rintro o next ho ⟨hs, h⟩ himport
    refine ⟨shape_imported hs himport, creditedOnce_imported hs h himport ?_⟩
    intro hverified hnew key utxo hu hasset hanchor
    by_contra hne
    exact hspelling ⟨o, ho, hverified, hnew, key, utxo, hu, hasset, hne, hanchor⟩
  · intro anchorOutpoint anchorState next _ hok
    refine ⟨shape_updated hshape hok, fun k₁ k₂ u₁ u₂ p h₁ h₂ hasset hp₁ hp₂ => ?_⟩
    obtain ⟨o₁, ho₁, rfl⟩ := updated_utxo hok h₁
    obtain ⟨o₂, ho₂, rfl⟩ := updated_utxo hok h₂
    obtain ⟨ha₁, hc₁, -⟩ := withAnchorState_spec o₁ anchorOutpoint anchorState
    obtain ⟨ha₂, hc₂, -⟩ := withAnchorState_spec o₂ anchorOutpoint anchorState
    exact h k₁ k₂ o₁ o₂ p ho₁ ho₂ (by rw [← ha₁, hasset, ha₂]) (hc₁ ▸ hp₁) (hc₂ ▸ hp₂)

/-- From the empty wallet, an outpoint is credited once for each asset through every run in
which no new proof respells an anchor. -/
theorem outpoint_credited_once (ops : List WalletOp)
    (h : walletMachine.Guarded (fun w op => ¬ Respells w op) ops) :
    CreditedOnce (walletMachine.run ops) := by
  have hinit : CreditedOnce walletMachine.start := by
    intro k₁ k₂ u₁ u₂ p h₁
    simp [walletMachine, WalletState.default] at h₁
  refine (walletMachine.guarded_induction (fun w op => ¬ Respells w op)
    (fun _ w => Shape w ∧ CreditedOnce w) ⟨shape_default, hinit⟩ ?_ ops h).2
  rintro _ w op ⟨hshape, h⟩ hspelling
  exact ⟨shape_step hshape op, creditedOnce_step hshape h hspelling⟩

/-- The regtest anchor in capitals and with a leading zero. -/
def respelledAnchor : String := "AAAAAAAAAAAAAAAAAAAAAAAAAAAAAAAAAAAAAAAAAAAAAAAAAAAAAAAAAAAAAAAA:01"

def regtestOutpoint : ParsedOutpoint :=
  ⟨"aaaaaaaaaaaaaaaaaaaaaaaaaaaaaaaaaaaaaaaaaaaaaaaaaaaaaaaaaaaaaaaa", 1⟩

theorem regtestAnchor_parses : outpointOf regtestAnchor = some regtestOutpoint := by
  decide +kernel

theorem respelledAnchor_parses : outpointOf respelledAnchor = some regtestOutpoint := by
  decide +kernel

theorem respelledAnchor_importable : Importable (regtestProof respelledAnchor) :=
  regtestProof_importable _ respelledAnchor_parses (by decide +kernel) (by decide +kernel)
    (by decide +kernel)

/-- A second proof beside an imported one. -/
theorem importBeside {w : WalletState} (hw : WalletValid w) {proof : ProofFile} (h : Importable proof)
    (hnew : w.proofs[proofId proof]? = none) : ∃ next utxo,
    step w (.importVerifiedProof proof) = (.ok (.import (.imported (proofId proof))), next) ∧
      WalletValid next ∧ next.spendableUtxos = w.spendableUtxos.insert (proofId proof) utxo ∧
      utxo.anchorOutpoint = proof.anchorOutpoint ∧ utxo.assetId = toHex proof.assetId ∧
      utxo.anchorState = .confirmed ∧ utxo.status = .spendable := by
  obtain ⟨prepared, hp, himport, hvalid⟩ := importVerifiedProof_new hw h hnew .confirmed
  refine ⟨_, prepared.utxo proof .confirmed, ?_, hvalid, ?_, rfl, rfl, rfl, rfl⟩
  · rw [step, WalletState.importVerifiedProof, himport]
    rfl
  · rw [← hp.proofId]
    rfl

section

variable {proof respelled : ProofFile} {prepared : PreparedImport}

theorem holding_valid (h : Importable proof) (hp : Prepared proof none prepared) :
    WalletValid (holding proof prepared) :=
  walletValid_importNative walletValid_default h (by simp [WalletState.default]) hp .confirmed

theorem holding_utxos (hp : Prepared proof none prepared) :
    (holding proof prepared).spendableUtxos =
      (∅ : BTreeMap String SpendableAssetUtxo).insert (proofId proof)
        (prepared.utxo proof .confirmed) := by
  rw [← hp.proofId]
  rfl

theorem holding_fresh (hp : Prepared proof none prepared) (hne : proofId proof ≠ proofId respelled) :
    (holding proof prepared).proofs[proofId respelled]? = none := by
  rw [holding, (get_insertProof_ne hp .confirmed hne.symm).1]
  simp [WalletState.default]

/-- One asset under two spellings of its anchor makes two spendable UTXOs. -/
theorem respelled_run (h : Importable proof) (h' : Importable respelled)
    (hne : proofId proof ≠ proofId respelled) :
    ∃ (w : WalletState) (k₁ k₂ : String) (u₁ u₂ : SpendableAssetUtxo),
      w = walletMachine.run [.importVerifiedProof proof, .importVerifiedProof respelled] ∧
      w.spendableUtxos[k₁]? = some u₁ ∧ w.spendableUtxos[k₂]? = some u₂ ∧ k₁ ≠ k₂ ∧
      u₁.status = .spendable ∧ u₂.status = .spendable ∧ u₁.assetId = toHex proof.assetId ∧
      u₂.assetId = toHex respelled.assetId ∧ u₁.anchorOutpoint = proof.anchorOutpoint ∧
      u₂.anchorOutpoint = respelled.anchorOutpoint := by
  obtain ⟨prepared, hp, hfirst⟩ := import_step h
  obtain ⟨next, utxo, hsecond, -, hutxos, hanchor, hasset, -, hstatus⟩ :=
    importBeside (holding_valid h hp) h' (holding_fresh hp hne)
  have hrun : walletMachine.run [.importVerifiedProof proof, .importVerifiedProof respelled] =
      next := by
    simp only [Machine.run, walletMachine, List.foldl_cons, List.foldl_nil, hfirst, hsecond]
  refine ⟨next, _, _, prepared.utxo proof .confirmed, utxo, hrun.symm, ?_, ?_, hne, rfl, hstatus,
    rfl, hasset, rfl, hanchor⟩
  · rw [hutxos, get_insert_ne hne, holding_utxos hp]
    exact get_insert_self _ _ _
  · rw [hutxos]
    exact get_insert_self _ _ _

end

theorem respelledAnchor_other :
    proofId (regtestProof regtestAnchor) ≠ proofId (regtestProof respelledAnchor) := by
  decide +kernel

theorem respelled_credited_twice :
    ∃ (w : WalletState) (k₁ k₂ : String) (u₁ u₂ : SpendableAssetUtxo),
      w = walletMachine.run [.importVerifiedProof (regtestProof regtestAnchor),
        .importVerifiedProof (regtestProof respelledAnchor)] ∧
      w.spendableUtxos[k₁]? = some u₁ ∧ w.spendableUtxos[k₂]? = some u₂ ∧ k₁ ≠ k₂ ∧
      u₁.status = .spendable ∧ u₂.status = .spendable ∧ u₁.assetId = u₂.assetId ∧
      outpointOf u₁.anchorOutpoint = some regtestOutpoint ∧
      outpointOf u₂.anchorOutpoint = some regtestOutpoint := by
  obtain ⟨w, k₁, k₂, u₁, u₂, hw, h₁, h₂, hne, hs₁, hs₂, ha₁, ha₂, hc₁, hc₂⟩ :=
    respelled_run regtestAnchor_importable respelledAnchor_importable respelledAnchor_other
  refine ⟨w, k₁, k₂, u₁, u₂, hw, h₁, h₂, hne, hs₁, hs₂, ha₁.trans ha₂.symm, ?_, ?_⟩
  · rw [hc₁]
    exact regtestAnchor_parses
  · rw [hc₂]
    exact respelledAnchor_parses

/-- A second anchor, in another transaction. -/
def otherAnchor : String := "bbbbbbbbbbbbbbbbbbbbbbbbbbbbbbbbbbbbbbbbbbbbbbbbbbbbbbbbbbbbbbbb:1"

theorem otherAnchor_parses : outpointOf otherAnchor =
    some ⟨"bbbbbbbbbbbbbbbbbbbbbbbbbbbbbbbbbbbbbbbbbbbbbbbbbbbbbbbbbbbbbbbb", 1⟩ := by
  decide +kernel

theorem otherProof_importable : Importable (regtestProof otherAnchor) :=
  regtestProof_importable _ otherAnchor_parses (by decide +kernel) (by decide +kernel)
    (by decide +kernel)

theorem otherProof_other : proofId (regtestProof regtestAnchor) ≠ proofId (regtestProof otherAnchor) := by
  decide +kernel

/-- Two imports under two outpoints respell nothing, and make two UTXOs. -/
theorem outpoint_credited_once_imports : ∃ (w : WalletState) (k₁ k₂ : String)
    (u₁ u₂ : SpendableAssetUtxo), w = walletMachine.run
        [.importVerifiedProof (regtestProof regtestAnchor),
          .importVerifiedProof (regtestProof otherAnchor)] ∧
      w.spendableUtxos[k₁]? = some u₁ ∧ w.spendableUtxos[k₂]? = some u₂ ∧ k₁ ≠ k₂ ∧
      u₁.assetId = u₂.assetId ∧ CreditedOnce w := by
  obtain ⟨prepared, hp, hstep⟩ := import_step regtestAnchor_importable
  have hrun : walletMachine.run ([] ++ [.importVerifiedProof (regtestProof regtestAnchor)]) =
      holding (regtestProof regtestAnchor) prepared :=
    (walletMachine_concat [] _).trans (congrArg Prod.snd hstep)
  have hguarded : walletMachine.Guarded (fun w op => ¬ Respells w op)
      ([] ++ [.importVerifiedProof (regtestProof regtestAnchor)] ++
        [.importVerifiedProof (regtestProof otherAnchor)]) := by
    apply Machine.guarded_concat
    · refine Machine.guarded_concat (Machine.guarded_nil _ _) ?_
      rintro ⟨o, ho, -, -, key, utxo, hu, -⟩
      obtain rfl := Option.some.inj ho
      simp [Offer.wallet, Offer.native, walletMachine, WalletState.default] at hu
    · rw [hrun]
      rintro ⟨o, ho, -, -, key, utxo, hu, -, -, hsame⟩
      obtain rfl := Option.some.inj ho
      change (holding (regtestProof regtestAnchor) prepared).spendableUtxos[key]? = some utxo at hu
      rw [holding_utxos hp] at hu
      rcases get_insert_eq_some hu with ⟨-, rfl⟩ | ⟨-, hget⟩
      · change outpointOf regtestAnchor = outpointOf otherAnchor at hsame
        rw [regtestAnchor_parses, otherAnchor_parses] at hsame
        exact absurd hsame (by decide +kernel)
      · simp at hget
  have honce := outpoint_credited_once _ hguarded
  obtain ⟨w, k₁, k₂, u₁, u₂, hw, h₁, h₂, hne, -, -, hasset₁, hasset₂, -⟩ :=
    respelled_run regtestAnchor_importable otherProof_importable otherProof_other
  have hasset : u₁.assetId = u₂.assetId := by
    rw [hasset₁, hasset₂]
    rfl
  exact ⟨w, k₁, k₂, u₁, u₂, hw, h₁, h₂, hne, hasset, hw ▸ honce⟩

end TapLdk.WalletOutpoint
