import Mathlib
import TapLdk.WalletSteps

/-! Spent proofs. A transfer removes its input from the wallet and keeps no record of it, so
a spent proof stays away exactly as long as no later operation brings it back. -/
namespace TapLdk.WalletSpend
open TapLdk.LibraryExcept TapLdk.LibraryMaps TapLdk.LibraryBytes TapLdk.LibraryRuns
open TapLdk.Mssmt TapLdk.Asset TapLdk.Proof TapLdk.ProofHistory TapLdk.Wallet
open TapLdk.WalletImport TapLdk.WalletSteps

/-- A wallet and the proof ids that its transfers have reported as spent. -/
structure SpendLog where
  wallet : WalletState
  spent : List String

def recordSpend (spent : List String) : Except WalletError WalletReply → List String
  | .ok (.transfer outcome) => outcome.spentProofId :: spent
  | _ => spent

def spendMachine (start : WalletState) : Machine SpendLog WalletOp :=
  { start := ⟨start, []⟩
    next := fun s op =>
      let (reply, next) := step s.wallet op
      ⟨next, recordSpend s.spent reply⟩ }

/-- The operation hands the import a proof that a transfer has spent, or that it spends itself. -/
def BringsBack (s : SpendLog) (op : WalletOp) : Prop :=
  ∃ o, offer s.wallet op = some o ∧ Verified o.proof ∧
    (proofId o.proof ∈ s.spent ∨ o.consumes = some (proofId o.proof))

structure Gone (w : WalletState) (id : String) : Prop where
  proof : w.proofs[id]? = none
  utxo : w.spendableUtxos[id]? = none
  backed : ∀ (key : String) (utxo : SpendableAssetUtxo), w.spendableUtxos[key]? = some utxo →
    utxo.proofId ≠ id

theorem gone_removeInput {w : WalletState} {id : String} (h : Gone w id) (inputId : String) :
    Gone (w.removeInput inputId) id := by
  refine ⟨?_, ?_, fun key utxo hu => h.backed key utxo (get_erase_eq_some hu).2⟩
  · by_cases hid : id = inputId
    · rw [hid]
      exact get_erase_self _ _
    · exact (get_erase_ne hid).trans h.proof
  · by_cases hid : id = inputId
    · rw [hid]
      exact get_erase_self _ _
    · exact (get_erase_ne hid).trans h.utxo

theorem gone_imported {w next : WalletState} {o : Offer} {id : String} (h : Gone w id)
    (hother : Verified o.proof → proofId o.proof ≠ id) (himport : Imported w o next) :
    Gone next id := by
  cases himport with
  | same => exact h
  | attached hold =>
    refine ⟨?_, h.utxo, h.backed⟩
    have hne : id ≠ proofId o.proof := by
      rintro rfl
      rw [h.proof] at hold
      cases hold
    exact (get_insert_ne hne).trans h.proof
  | inserted hp hnew =>
    rename_i prepared
    have hne := hother hp.verified
    have hproof : (prepared.storedProof o.proof).proofId ≠ id := by
      rw [show (prepared.storedProof o.proof).proofId = proofId o.proof from hp.proofId]
      exact hne
    have hutxo : (prepared.utxo o.proof o.anchorState).utxoId ≠ id := by
      rw [show (prepared.utxo o.proof o.anchorState).utxoId = proofId o.proof from hp.proofId]
      exact hne
    refine ⟨(get_insert_ne hproof.symm).trans h.proof, (get_insert_ne hutxo.symm).trans h.utxo, ?_⟩
    intro key utxo hu
    rcases get_insert_eq_some hu with ⟨-, rfl⟩ | ⟨-, hu⟩
    · rw [show (prepared.utxo o.proof o.anchorState).proofId = proofId o.proof from hp.proofId]
      exact hne
    · exact h.backed key utxo hu

theorem withAnchorState_proofId (utxo : SpendableAssetUtxo) (anchorOutpoint : String)
    (anchorState : ProofAnchorState) :
    (utxo.withAnchorState anchorOutpoint anchorState).proofId = utxo.proofId := by
  unfold SpendableAssetUtxo.withAnchorState
  split <;> rfl

theorem gone_anchorUpdated {w next : WalletState} {id anchorOutpoint : String}
    {anchorState : ProofAnchorState} (h : Gone w id)
    (hupdate : w.updateAnchorState anchorOutpoint anchorState = .ok ((), next)) : Gone next id := by
  obtain ⟨-, hproofs, hutxos⟩ := updateAnchorState_spec hupdate
  refine ⟨hproofs ▸ h.proof, by rw [hutxos, h.utxo]; rfl, fun key utxo hu => ?_⟩
  rw [hutxos, Option.map_eq_some_iff] at hu
  obtain ⟨old, hold, rfl⟩ := hu
  rw [withAnchorState_proofId]
  exact h.backed key old hold

/-- A transfer makes its input gone, unless its own change brings the input back. -/
theorem gone_spent {w next : WalletState} {request : LocalTransferRequest}
    {outcome : LocalTransferOutcome} (h : w.sendLocalTransfer request = .ok (outcome, next))
    (hback : ∀ o, changeOffer w request = some o → Verified o.proof →
      o.consumes ≠ some (proofId o.proof)) : Gone next outcome.spentProofId := by
  obtain ⟨-, hvalid, hnext⟩ := sendLocalTransfer_spec h
  have hremoved : (w.removeInput outcome.spentProofId).proofs[outcome.spentProofId]? = none ∧
      (w.removeInput outcome.spentProofId).spendableUtxos[outcome.spentProofId]? = none :=
    ⟨get_erase_self _ _, get_erase_self _ _⟩
  have habsent : next.proofs[outcome.spentProofId]? = none ∧
      next.spendableUtxos[outcome.spentProofId]? = none := by
    rcases hnext with rfl | ⟨o, ho, hconsumes, himport⟩
    · exact hremoved
    · cases himport with
      | same => exact hremoved
      | attached hold =>
        have hne : outcome.spentProofId ≠ proofId o.proof := by
          intro heq
          rw [← heq, hremoved.1] at hold
          cases hold
        exact ⟨(get_insert_ne hne).trans hremoved.1, hremoved.2⟩
      | inserted hp hnew =>
        have hne := hback o ho hp.verified
        rw [hconsumes, ne_eq, Option.some.injEq] at hne
        rw [WalletState.insertProof, PreparedImport.storedProof, PreparedImport.utxo, hp.proofId]
        exact ⟨(get_insert_ne hne).trans hremoved.1, (get_insert_ne hne).trans hremoved.2⟩
  refine ⟨habsent.1, habsent.2, fun key utxo hu heq => ?_⟩
  obtain ⟨_, _, hstored, -, -⟩ := hvalid.utxos key utxo hu
  rw [heq, habsent.1] at hstored
  cases hstored

/-- What a step spends was the input of a successful transfer. -/
theorem mem_recordSpend {spent : List String} {id : String} {reply : Except WalletError WalletReply}
    (h : id ∈ recordSpend spent reply) :
    id ∈ spent ∨ ∃ outcome, reply = .ok (.transfer outcome) ∧ id = outcome.spentProofId := by
  unfold recordSpend at h
  split at h
  · rcases List.mem_cons.mp h with rfl | h
    · exact .inr ⟨_, rfl, rfl⟩
    · exact .inl h
  · exact .inl h

/-- One step keeps every spent proof gone. -/
theorem gone_step {s : SpendLog} {op : WalletOp} (hgone : ∀ id ∈ s.spent, Gone s.wallet id)
    (hback : ¬ BringsBack s op) :
    ∀ id ∈ recordSpend s.spent (step s.wallet op).1, Gone (step s.wallet op).2 id := by
  intro id hid
  rcases mem_recordSpend hid with hid | ⟨outcome, hreply, rfl⟩
  · refine step_preserves (P := fun w => Gone w id) (hgone id hid)
      (fun _ inputId _ _ h => gone_removeInput h inputId) (fun o next ho h himport => ?_)
      (fun _ _ _ _ hok => gone_anchorUpdated (hgone id hid) hok)
    refine gone_imported h (fun hverified => ?_) himport
    rintro rfl
    exact hback ⟨o, ho, hverified, .inl hid⟩
  · have heffect := step_effect s.wallet op
    generalize step s.wallet op = result at heffect hreply
    cases heffect with
    | unchanged hne => exact absurd hreply (hne outcome)
    | imported hne => exact absurd hreply (hne outcome)
    | anchorUpdated hop h => cases hreply
    | @transferred request outcome' next hop h =>
      cases hreply
      subst hop
      refine gone_spent h fun o ho hverified hconsumes => ?_
      exact hback ⟨o, ho, hverified, .inr hconsumes⟩

theorem gone_run (start : WalletState) (ops : List WalletOp)
    (h : (spendMachine start).Guarded (fun s op => ¬ BringsBack s op) ops) :
    ∀ id ∈ ((spendMachine start).run ops).spent, Gone ((spendMachine start).run ops).wallet id := by
  refine (spendMachine start).guarded_induction (fun s op => ¬ BringsBack s op)
    (fun _ s => ∀ id ∈ s.spent, Gone s.wallet id) (fun id hid => by cases hid) ?_ ops h
  exact fun _ s op hgone hback => gone_step hgone hback

/-- The proof id counts in no balance, is exported by no method, and is no transfer input. -/
structure Unusable (w : WalletState) (id : String) : Prop where
  counted : ∀ utxo ∈ w.counted, utxo.proofId ≠ id
  exportEncoded : ∀ bytes, w.exportEncodedProof id ≠ .ok bytes
  exportTapd : ∀ bytes, w.exportTapdProofFile id ≠ .ok bytes
  exportBundle : ∀ bundle, w.exportProofCourierBundle id ≠ .ok bundle
  selected : ∀ request outcome next, w.sendLocalTransfer request = .ok (outcome, next) →
    outcome.spentProofId ≠ id

theorem gone_unusable {w : WalletState} {id : String} (h : Gone w id) : Unusable w id := by
  have hunexplained : ∀ e, w.acceptedWalletBalanceExplanation id ≠ .ok e := by
    intro e he
    simp only [WalletState.acceptedWalletBalanceExplanation, bind_eq_ok, okOr_eq_ok] at he
    obtain ⟨stored, hstored, -⟩ := he
    rw [h.proof] at hstored
    cases hstored
  have hencoded : ∀ bytes, w.exportEncodedProof id ≠ .ok bytes := by
    intro bytes hb
    simp only [WalletState.exportEncodedProof, bind_eq_ok] at hb
    obtain ⟨e, he, -⟩ := hb
    exact hunexplained e he
  refine ⟨fun utxo hu => ?_, hencoded, fun bytes hb => ?_, fun bundle hb => ?_, ?_⟩
  · obtain ⟨e, he, rfl⟩ := List.mem_map.mp (List.mem_filter.mp hu).1
    exact h.backed e.1 e.2 (mem_toList_iff.mp he)
  · simp only [WalletState.exportTapdProofFile, bind_eq_ok] at hb
    obtain ⟨e, he, -⟩ := hb
    exact hunexplained e he
  · simp only [WalletState.exportProofCourierBundle, bind_eq_ok] at hb
    obtain ⟨_, -, bytes, hbytes, -⟩ := hb
    exact hencoded bytes hbytes
  · rintro request outcome next hsend rfl
    obtain ⟨⟨utxo, hselect⟩, -⟩ := sendLocalTransfer_spec hsend
    have hmem := List.mem_of_find?_eq_some hselect
    rw [mem_toList_iff, h.utxo] at hmem
    cases hmem

def SpentUnusable (s : SpendLog) : Prop := ∀ id ∈ s.spent, Unusable s.wallet id

/-- From any wallet, a spent proof stays spent through every run in which no operation
brings a spent proof back. -/
theorem spent_stays_spent (start : WalletState) (ops : List WalletOp)
    (h : (spendMachine start).Guarded (fun s op => ¬ BringsBack s op) ops) :
    SpentUnusable ((spendMachine start).run ops) :=
  fun id hid => gone_unusable (gone_run start ops h id hid)

theorem removeInput_insertProof {w : WalletState} {stored : StoredProof} {utxo : SpendableAssetUtxo}
    {id : String} (hstored : stored.proofId = id) (hutxo : utxo.utxoId = id)
    (hproof : w.proofs[id]? = none) (hnone : w.spendableUtxos[id]? = none) :
    (w.insertProof stored utxo).removeInput id = w := by
  simp only [WalletState.removeInput, WalletState.insertProof, hstored, hutxo]
  have hproofs : (w.proofs.insert id stored).erase id = w.proofs := erase_insert_of_none hproof
  have hutxos : (w.spendableUtxos.insert id utxo).erase id = w.spendableUtxos :=
    erase_insert_of_none hnone
  rw [hproofs, hutxos]

def importAndSend (proof : ProofFile) : List WalletOp :=
  [.importVerifiedProof proof, .sendLocalTransfer ⟨proof.assetId, proof.amount, proof.scriptKey⟩]

/-- The wallet that holds one imported proof. -/
def holding (proof : ProofFile) (prepared : PreparedImport) : WalletState :=
  WalletState.default.insertProof (prepared.storedProof proof) (prepared.utxo proof .confirmed)

theorem import_step {proof : ProofFile} (h : Importable proof) : ∃ prepared,
    Prepared proof none prepared ∧
      step .default (.importVerifiedProof proof) =
        (.ok (.import (.imported (proofId proof))), holding proof prepared) := by
  obtain ⟨prepared, hp, himport, -⟩ := importVerifiedProof_new walletValid_default h
    (by simp [WalletState.default]) .confirmed
  refine ⟨prepared, hp, ?_⟩
  simp only [step, WalletState.importVerifiedProof, himport]
  rfl

section

variable {proof : ProofFile} {prepared : PreparedImport}

theorem select_holding (hp : Prepared proof none prepared) :
    (holding proof prepared).selectInput ⟨proof.assetId, proof.amount, proof.scriptKey⟩ =
      some (proofId proof, prepared.utxo proof .confirmed) := by
  have hutxo : (prepared.utxo proof .confirmed).utxoId = proofId proof := hp.proofId
  simp only [WalletState.selectInput, holding, WalletState.insertProof, WalletState.default, hutxo,
    toList_singleton]
  simp [PreparedImport.utxo, UtxoStatus.fromAnchorState]

variable (h : Importable proof) (hp : Prepared proof none prepared)
include h hp

theorem send_step : ∃ outcome,
    step (holding proof prepared)
        (.sendLocalTransfer ⟨proof.assetId, proof.amount, proof.scriptKey⟩) =
      (.ok (.transfer outcome), .default) ∧ outcome.spentProofId = proofId proof := by
  have hutxo : (prepared.utxo proof .confirmed).utxoId = proofId proof := hp.proofId
  have hnone : WalletState.default.proofs[proofId proof]? = none := by simp [WalletState.default]
  obtain ⟨outcome, hsend, hid⟩ :=
    sendLocalTransfer_whole walletValid_default h hnone hp (select_holding hp) rfl
  rw [removeInput_insertProof hp.proofId hutxo hnone (by simp [WalletState.default])] at hsend
  refine ⟨outcome, ?_, hid⟩
  simp only [step, holding, hsend]
  rfl

/-- A whole transfer pays no change. -/
theorem changeOffer_holding :
    changeOffer (holding proof prepared) ⟨proof.assetId, proof.amount, proof.scriptKey⟩ = none := by
  have hproofId : (prepared.utxo proof .confirmed).proofId = proofId proof := hp.proofId
  have hamount : (prepared.utxo proof .confirmed).amount = proof.amount := rfl
  have hdecode : (holding proof prepared).decodeProof (proofId proof) = .ok proof :=
    decodeProof_of_import h hp
  have hkey : compressedKeyFromStr (prepared.utxo proof .confirmed).scriptKey =
      .ok proof.scriptKey := compressedKeyFromStr_toHex.mpr ⟨rfl, h.key⟩
  have hchange : checkedSub proof.amount proof.amount = some 0 := checkedSub_eq_some.mpr (by simp)
  simp [changeOffer, select_holding hp, hproofId, hdecode, hamount, hchange, hkey,
    Except.toOption]

omit hp in
theorem balances_holding {tapdProofFile : Option Bytes}
    (hp : Prepared proof tapdProofFile prepared) :
    (holding proof prepared).counted = [prepared.utxo proof .confirmed] ∧
      (holding proof prepared).balances = .ok [⟨toHex proof.assetId, proof.amount⟩] := by
  have hutxo : (prepared.utxo proof .confirmed).utxoId = proofId proof := hp.proofId
  have hproofId : (prepared.utxo proof .confirmed).proofId = proofId proof := hp.proofId
  have hcounted : (holding proof prepared).counted = [prepared.utxo proof .confirmed] := by
    simp only [WalletState.counted, holding, WalletState.insertProof, WalletState.default, hutxo,
      toList_singleton]
    simp [PreparedImport.utxo, UtxoStatus.fromAnchorState]
  have haccepted : (holding proof prepared).acceptedWalletBalanceExplanation (proofId proof) = _ :=
    accepted_of_import h hp
  refine ⟨hcounted, ?_⟩
  simp [WalletState.balances, hcounted, WalletState.addBalance, hproofId, haccepted,
    importExplanation, addAmount, zero_checkedAdd, okOr, Except.mapError]

end

theorem importAndSend_run {proof : ProofFile} (h : Importable proof) :
    (spendMachine .default).run (importAndSend proof) = ⟨.default, [proofId proof]⟩ := by
  obtain ⟨prepared, hp, himport⟩ := import_step h
  obtain ⟨outcome, hsend, hid⟩ := send_step h hp
  simp [Machine.run, importAndSend, spendMachine, himport, hsend, recordSpend, hid]

theorem importAndSend_guarded {proof : ProofFile} (h : Importable proof) :
    (spendMachine .default).Guarded (fun s op => ¬ BringsBack s op) (importAndSend proof) := by
  obtain ⟨prepared, hp, himport⟩ := import_step h
  have hrun : (spendMachine .default).run [.importVerifiedProof proof] =
      ⟨holding proof prepared, []⟩ := by
    simp [Machine.run, spendMachine, himport, recordSpend]
  have himportGuarded : (spendMachine .default).Guarded (fun s op => ¬ BringsBack s op)
      [.importVerifiedProof proof] := by
    refine Machine.guarded_concat (Machine.guarded_nil _ _) ?_
    rintro ⟨o, ho, -, hback⟩
    obtain rfl := Option.some.inj ho
    rcases hback with hback | hback <;> cases hback
  refine Machine.guarded_concat himportGuarded ?_
  rintro ⟨o, ho, -⟩
  rw [hrun, offer, changeOffer_holding h hp] at ho
  cases ho

/-- Imported, sent away whole, and imported once more, a proof counts again. -/
theorem reimport_run {proof : ProofFile} (h : Importable proof) : ∃ s utxo,
    s = (spendMachine .default).run (importAndSend proof ++ [.importVerifiedProof proof]) ∧
    proofId proof ∈ s.spent ∧ utxo ∈ s.wallet.counted ∧ utxo.proofId = proofId proof ∧
    s.wallet.balances = .ok [⟨toHex proof.assetId, proof.amount⟩] := by
  obtain ⟨prepared, hp, himport⟩ := import_step h
  obtain ⟨hcounted, hbalances⟩ := balances_holding h hp
  refine ⟨_, prepared.utxo proof .confirmed, rfl, ?_⟩
  rw [Machine.run_concat, importAndSend_run h]
  simp only [spendMachine, himport, recordSpend]
  exact ⟨by simp, by simp [hcounted], hp.proofId, hbalances⟩

theorem reimport_restores_spent : ∃ s utxo,
    s = (spendMachine .default).run (importAndSend (regtestProof regtestAnchor) ++
      [.importVerifiedProof (regtestProof regtestAnchor)]) ∧
    proofId (regtestProof regtestAnchor) ∈ s.spent ∧ utxo ∈ s.wallet.counted ∧
    utxo.proofId = proofId (regtestProof regtestAnchor) ∧
    s.wallet.balances = .ok [⟨toHex regtestAsset, 1000000⟩] :=
  reimport_run regtestAnchor_importable

/-- Nothing brings the proof back when it is only imported and sent away. -/
theorem spent_stays_spent_send :
    SpentUnusable ((spendMachine .default).run (importAndSend (regtestProof regtestAnchor))) :=
  spent_stays_spent .default (importAndSend (regtestProof regtestAnchor))
    (importAndSend_guarded regtestAnchor_importable)

end TapLdk.WalletSpend
