import Mathlib
import TapLdk.WalletAnchor
import TapLdk.WalletBalance

/-! Anchor observations. What the wallet records of a UTXO's anchor is the state its proof was
first imported with or that of the latest notice for it, and imports of a proof that is
already stored change neither. -/
namespace TapLdk.WalletReimport
open TapLdk.LibraryExcept TapLdk.LibraryMaps TapLdk.LibraryBytes TapLdk.LibraryRuns
open TapLdk.Mssmt TapLdk.Asset TapLdk.Proof TapLdk.ProofHistory TapLdk.Wallet
open TapLdk.WalletImport TapLdk.WalletSteps TapLdk.WalletSpend TapLdk.WalletOutpoint
open TapLdk.WalletAnchor TapLdk.WalletBalance

/-- The offered proof has the id, and the operation stores it for the first time. -/
def StoresFirst (w : WalletState) (op : WalletOp) (o : Offer) (id : String) : Prop :=
  id = proofId o.proof ∧ (o.wallet w).proofs[id]? = none ∧ (step w op).2.proofs[id]? ≠ none ∧
    (o.consumes = none ∨ (step w op).1.isOk)

instance (w : WalletState) (op : WalletOp) (o : Offer) (id : String) :
    Decidable (StoresFirst w op o id) := inferInstanceAs (Decidable (_ ∧ _))

/-- What an operation tells of the anchor of the UTXO with an id: the state in a notice that the
wallet accepts for the text of the anchor, or the state a proof is first imported with. -/
def observation (w : WalletState) (op : WalletOp) (id : String) : Option ProofAnchorState :=
  match op with
  | .updateAnchorState anchorOutpoint anchorState =>
    if (step w op).1.isOk ∧ (w.spendableUtxos[id]?).any (·.anchorOutpoint = anchorOutpoint) then
      some anchorState
    else none
  | _ => (offer w op).bind fun o => if StoresFirst w op o id then some o.anchorState else none

/-- A wallet and the last observation of each UTXO's anchor. -/
structure AnchorLog where
  wallet : WalletState
  observed : String → Option ProofAnchorState

/-- The log starts with what the wallet has recorded so far. -/
def anchorMachine (start : WalletState) : Machine AnchorLog WalletOp :=
  { start := ⟨start, fun id => (start.spendableUtxos[id]?).map (·.anchorState)⟩
    next := fun s op =>
      ⟨(step s.wallet op).2, fun id => (observation s.wallet op id).or (s.observed id)⟩ }

/-- Each UTXO is in the state last observed, with the status of that state. -/
def Recorded (s : AnchorLog) : Prop :=
  ∀ (id : String) (utxo : SpendableAssetUtxo), s.wallet.spendableUtxos[id]? = some utxo →
    s.observed id = some utxo.anchorState ∧ utxo.status = .fromAnchorState utxo.anchorState

theorem tapdOffer_whole {request : TapdProofImportRequest} {anchorState : ProofAnchorState} {o : Offer}
    (h : tapdOffer request anchorState = some o) : o.consumes = none := by
  simp only [tapdOffer, Option.bind_eq_bind, Option.bind_eq_some_iff, Option.some.injEq] at h
  obtain ⟨_, -, rfl⟩ := h
  rfl

/-- Only a transfer takes an input away before its proof comes in. -/
theorem offer_whole {w : WalletState} {op : WalletOp} {o : Offer} (h : offer w op = some o)
    (hop : ∀ request, op ≠ .sendLocalTransfer request) : o.consumes = none := by
  cases op with
  | importVerifiedProof proof => exact Option.some.inj h ▸ rfl
  | importVerifiedProofWithAnchorState proof anchorState => exact Option.some.inj h ▸ rfl
  | importEncodedProof bytes =>
    obtain ⟨_, -, rfl⟩ := Option.map_eq_some_iff.mp h
    rfl
  | importTapdProofFile request => exact tapdOffer_whole h
  | importTapdProofFileWithAnchorState request anchorState => exact tapdOffer_whole h
  | importProofCourierBundle bundle =>
    simp only [offer, Option.bind_eq_bind, Option.bind_eq_some_iff] at h
    obtain ⟨content, -, h⟩ := h
    cases content with
    | inl proof => exact Option.some.inj h ▸ rfl
    | inr request => exact tapdOffer_whole h
  | issueRegtestAsset request =>
    obtain ⟨_, -, rfl⟩ := Option.map_eq_some_iff.mp h
    rfl
  | updateAnchorState anchorOutpoint anchorState => cases h
  | sendLocalTransfer request => exact absurd rfl (hop request)

/-- The change of a transfer comes in after the selected input has left. -/
theorem changeOffer_wallet {w : WalletState} {request : LocalTransferRequest} {o : Offer}
    (h : changeOffer w request = some o) {inputId : String} {utxo : SpendableAssetUtxo}
    (hselect : w.selectInput request = some (inputId, utxo)) :
    o.consumes = some inputId ∧ o.wallet w = w.removeInput inputId := by
  simp only [changeOffer, hselect, Option.bind_eq_bind, Option.bind_some,
    Option.bind_eq_some_iff] at h
  obtain ⟨_, -, _, -, _, -, h⟩ := h
  split at h
  · cases h
  · simp only [Option.bind_eq_some_iff, Option.some.injEq] at h
    obtain ⟨_, -, rfl⟩ := h
    exact ⟨rfl, rfl⟩

/-- The UTXOs after an import: those there were, and the one of the proof it stores first. -/
theorem imported_entry {w next : WalletState} {o : Offer} (h : Imported w o next) {id : String}
    {utxo : SpendableAssetUtxo} (hget : next.spendableUtxos[id]? = some utxo) :
    (id = proofId o.proof ∧ w.proofs[id]? = none ∧ next.proofs[id]? ≠ none ∧
        utxo.anchorState = o.anchorState ∧ utxo.status = .fromAnchorState o.anchorState) ∨
      (w.spendableUtxos[id]? = some utxo ∧
        ¬ (id = proofId o.proof ∧ w.proofs[id]? = none ∧ next.proofs[id]? ≠ none)) := by
  cases h with
  | same => exact .inr ⟨hget, fun h => h.2.2 h.2.1⟩
  | attached hold =>
    refine .inr ⟨hget, ?_⟩
    rintro ⟨rfl, hnone, -⟩
    rw [hold] at hnone
    cases hnone
  | @inserted prepared hp hnew =>
    have hid : prepared.proofId = proofId o.proof := hp.proofId
    rcases get_insert_eq_some hget with ⟨rfl, rfl⟩ | ⟨hne, hget⟩
    · have hstored : (w.insertProof (prepared.storedProof o.proof)
          (prepared.utxo o.proof o.anchorState)).proofs[prepared.proofId]? ≠ none := by
        rw [WalletState.insertProof]
        exact ne_of_eq_of_ne (get_insert_self _ _ _) (Option.some_ne_none _)
      have hnone : w.proofs[prepared.proofId]? = none := by rw [hid, hnew]
      exact .inl ⟨hid, hnone, hstored, rfl, rfl⟩
    · refine .inr ⟨hget, ?_⟩
      rintro ⟨rfl, -⟩
      exact hne hid.symm

theorem observation_of_offer {w : WalletState} {op : WalletOp} {o : Offer} (h : offer w op = some o)
    (id : String) : observation w op id = if StoresFirst w op o id then some o.anchorState else none := by
  cases op with
  | updateAnchorState anchorOutpoint anchorState => cases h
  | _ => simp only [observation, h, Option.bind_some]

/-- Without a first import there is nothing to tell. -/
theorem observation_eq_none {w : WalletState} {op : WalletOp} {id : String}
    (hop : ∀ anchorOutpoint anchorState, op ≠ .updateAnchorState anchorOutpoint anchorState)
    (h : ∀ o, offer w op = some o → ¬ StoresFirst w op o id) : observation w op id = none := by
  cases hoffer : offer w op with
  | some o => rw [observation_of_offer hoffer, if_neg (h o hoffer)]
  | none =>
    cases op with
    | updateAnchorState anchorOutpoint anchorState => exact absurd rfl (hop _ _)
    | _ => simp only [observation, hoffer, Option.bind_none]

/-- An operation that leaves the wallet as it is tells of no UTXO, unless it is a transfer that
says it went through. -/
theorem storesFirst_changes {w : WalletState} {op : WalletOp} {o : Offer} {id : String}
    (hoffer : offer w op = some o) (h : StoresFirst w op o id) (hsame : (step w op).2 = w) :
    ∃ request, op = .sendLocalTransfer request ∧ (step w op).1.isOk := by
  obtain ⟨-, hnone, hstored, hreply⟩ := h
  by_cases hop : ∃ request, op = .sendLocalTransfer request
  · obtain ⟨request, rfl⟩ := hop
    refine ⟨request, rfl, hreply.resolve_left fun hwhole => ?_⟩
    rw [Offer.wallet, hwhole] at hnone
    rw [hsame] at hstored
    exact hstored hnone
  · have hwhole := offer_whole hoffer fun request h => hop ⟨request, h⟩
    rw [Offer.wallet, hwhole] at hnone
    rw [hsame] at hstored
    exact absurd hnone hstored

/-- An accepted notice is the last observation of the UTXOs at its anchor. -/
theorem recorded_updated (start : WalletState) {s : AnchorLog} (h : Recorded s) {anchorOutpoint : String}
    {anchorState : ProofAnchorState} {next : WalletState}
    (hupdate : s.wallet.updateAnchorState anchorOutpoint anchorState = .ok ((), next)) :
    Recorded ((anchorMachine start).next s (.updateAnchorState anchorOutpoint anchorState)) := by
  have hstep : step s.wallet (.updateAnchorState anchorOutpoint anchorState) =
      (.ok .anchorUpdated, next) := by
    simp [step, hupdate, replaceOnOk, mapReply, Except.map]
  intro id utxo hget
  simp only [anchorMachine, hstep] at hget
  obtain ⟨old, hold, rfl⟩ := updated_utxo hupdate hget
  obtain ⟨hobserved, hstatus⟩ := h id old hold
  obtain ⟨-, -, hstate⟩ := withAnchorState_spec old anchorOutpoint anchorState
  refine ⟨?_, withAnchorState_status _ _ hstatus⟩
  simp only [anchorMachine, observation, hstep, hold, Option.any_some, decide_eq_true_eq]
  rw [hstate]
  by_cases hanchor : old.anchorOutpoint = anchorOutpoint
  · simp [hanchor, Except.isOk, Except.toBool]
  · simp [hanchor, hobserved]

/-- The UTXOs after an import, with the state each was stored with or had before. -/
theorem recorded_imported (start : WalletState) {s : AnchorLog} (h : Recorded s) {op : WalletOp} {o : Offer}
    (hoffer : offer s.wallet op = some o) (himport : Imported (o.wallet s.wallet) o (step s.wallet op).2)
    (hreply : o.consumes = none ∨ (step s.wallet op).1.isOk)
    (hkept : ∀ (id : String) (utxo : SpendableAssetUtxo),
      (o.wallet s.wallet).spendableUtxos[id]? = some utxo → s.wallet.spendableUtxos[id]? = some utxo) :
    Recorded ((anchorMachine start).next s op) := by
  intro id utxo hget
  simp only [anchorMachine, observation_of_offer hoffer] at hget ⊢
  rcases imported_entry himport hget with ⟨hid, hnone, hstored, hstate, hstatus⟩ | ⟨hold, hfirst⟩
  · rw [if_pos ⟨hid, hnone, hstored, hreply⟩, hstate]
    exact ⟨rfl, hstatus⟩
  · rw [if_neg fun hstores => hfirst ⟨hstores.1, hstores.2.1, hstores.2.2.1⟩]
    exact h id utxo (hkept id utxo hold)

/-- An operation that changes nothing and tells nothing leaves the records right. -/
theorem recorded_quiet (start : WalletState) {s : AnchorLog} (h : Recorded s) {op : WalletOp}
    (hsame : (step s.wallet op).2 = s.wallet)
    (hquiet : ∀ id, observation s.wallet op id = none) :
    Recorded ((anchorMachine start).next s op) := by
  intro id utxo hget
  simp only [anchorMachine, hsame, hquiet, Option.none_or] at hget ⊢
  exact h id utxo hget

theorem refused_notice_quiet {w : WalletState} {anchorOutpoint : String}
    {anchorState : ProofAnchorState} {e : WalletError}
    (hupdate : w.updateAnchorState anchorOutpoint anchorState = .error e) :
    (step w (.updateAnchorState anchorOutpoint anchorState)).2 = w ∧
      ∀ id, observation w (.updateAnchorState anchorOutpoint anchorState) id = none := by
  have hstep : step w (.updateAnchorState anchorOutpoint anchorState) = (.error e, w) := by
    simp [step, hupdate, replaceOnOk, mapReply, Except.map]
  refine ⟨by rw [hstep], fun id => ?_⟩
  simp [observation, hstep, Except.isOk, Except.toBool]

theorem unchanged_quiet {w : WalletState} {op : WalletOp} (hsame : (step w op).2 = w)
    (hreply : ∀ outcome, (step w op).1 ≠ .ok (.transfer outcome))
    (hop : ∀ anchorOutpoint anchorState, op ≠ .updateAnchorState anchorOutpoint anchorState)
    (id : String) : observation w op id = none := by
  refine observation_eq_none hop fun o ho hstores => ?_
  obtain ⟨request, rfl, hok⟩ := storesFirst_changes ho hstores hsame
  cases hsend : w.sendLocalTransfer request with
  | error e => simp [step, hsend, replaceOnOk, mapReply, Except.map, Except.isOk, Except.toBool] at hok
  | ok result =>
    refine hreply result.1 ?_
    simp [step, hsend, replaceOnOk, mapReply, Except.map]

/-- A transfer takes an entry away, and its change comes in confirmed. -/
theorem recorded_transferred (start : WalletState) {s : AnchorLog} (h : Recorded s)
    {request : LocalTransferRequest} {outcome : LocalTransferOutcome} {next : WalletState}
    (hsend : s.wallet.sendLocalTransfer request = .ok (outcome, next)) :
    Recorded ((anchorMachine start).next s (.sendLocalTransfer request)) := by
  have hstep : step s.wallet (.sendLocalTransfer request) = (.ok (.transfer outcome), next) := by
    simp [step, hsend, replaceOnOk, mapReply, Except.map]
  obtain ⟨⟨input, hselect⟩, -, hnext⟩ := sendLocalTransfer_spec hsend
  rcases hnext with rfl | ⟨o, ho, hconsumes, himport⟩
  · have hquiet (id : String) : observation s.wallet (.sendLocalTransfer request) id = none := by
      refine observation_eq_none (by simp) fun o ho hstores => ?_
      obtain ⟨-, hnone, hstored, -⟩ := hstores
      rw [(changeOffer_wallet ho hselect).2] at hnone
      rw [hstep] at hstored
      exact hstored hnone
    intro id utxo hget
    simp only [anchorMachine, hstep, hquiet, Option.none_or] at hget ⊢
    exact h id utxo (get_erase_eq_some hget).2
  · have hwallet : o.wallet s.wallet = s.wallet.removeInput outcome.spentProofId :=
      (changeOffer_wallet ho hselect).2
    refine recorded_imported start h ho ?_ (.inr ?_) fun id utxo hget => ?_
    · rwa [hwallet, hstep]
    · rw [hstep]
      rfl
    · rw [hwallet] at hget
      exact (get_erase_eq_some hget).2

theorem recorded_step (start : WalletState) {s : AnchorLog} (h : Recorded s) (op : WalletOp) :
    Recorded ((anchorMachine start).next s op) := by
  by_cases hop : ∃ anchorOutpoint anchorState, op = .updateAnchorState anchorOutpoint anchorState
  · obtain ⟨anchorOutpoint, anchorState, rfl⟩ := hop
    cases hupdate : s.wallet.updateAnchorState anchorOutpoint anchorState with
    | ok result => exact recorded_updated start h hupdate
    | error e =>
      obtain ⟨hsame, hquiet⟩ := refused_notice_quiet hupdate
      exact recorded_quiet start h hsame hquiet
  · have hnotice : ∀ a b, op ≠ .updateAnchorState a b := fun a b hab => hop ⟨a, b, hab⟩
    have heffect := step_effect s.wallet op
    generalize hstep : step s.wallet op = result at heffect
    cases heffect with
    | unchanged hreply =>
      have hsame : (step s.wallet op).2 = s.wallet := by rw [hstep]
      exact recorded_quiet start h hsame (unchanged_quiet hsame (by rwa [hstep]) hnotice)
    | @imported _ o _ hreply ho hwhole himport =>
      have hwallet : o.wallet s.wallet = s.wallet := by
        rw [Offer.wallet, hwhole]
        rfl
      refine recorded_imported start h ho ?_ (.inl hwhole) fun id utxo hget => ?_
      · rwa [hwallet, hstep]
      · rwa [hwallet] at hget
    | anchorUpdated hop' => exact absurd hop' (hnotice _ _)
    | transferred hop' hsend =>
      subst hop'
      exact recorded_transferred start h hsend

theorem recorded_run {start : WalletState} (hvalid : WalletValid start) (ops : List WalletOp) :
    Recorded ((anchorMachine start).run ops) := by
  refine (anchorMachine start).run_induction (fun _ s => Recorded s) ?_ ?_ ops
  · intro id utxo hget
    obtain ⟨_, _, -, -, hu⟩ := hvalid.utxos id utxo hget
    refine ⟨?_, hu.status⟩
    simp only [anchorMachine] at hget ⊢
    rw [hget]
    rfl
  · intro _ s op h
    exact recorded_step start h op

/-- The operation imports a proof that the wallet has stored, whatever anchor state it claims. -/
def Reimports (w : WalletState) (op : WalletOp) : Prop :=
  ∃ o, offer w op = some o ∧ o.consumes = none ∧ w.proofs[proofId o.proof]? ≠ none

/-- The wallet alone under any operations. -/
def walletMachineFrom (start : WalletState) : Machine WalletState WalletOp :=
  { start := start, next := fun w op => (step w op).2 }

theorem reimport_step {w : WalletState} {op : WalletOp} (h : Reimports w op) :
    (step w op).2.spendableUtxos = w.spendableUtxos ∧ ∀ id, observation w op id = none := by
  obtain ⟨o, ho, hwhole, hstored⟩ := h
  have hwallet : o.wallet w = w := by
    rw [Offer.wallet, hwhole]
    rfl
  constructor
  · have heffect := step_effect w op
    generalize step w op = result at heffect
    cases heffect with
    | unchanged hreply => rfl
    | @imported _ o' _ hreply ho' hwhole' himport =>
      rw [ho, Option.some.injEq] at ho'
      subst ho'
      cases himport with
      | same => rfl
      | attached hold hdigest => rfl
      | inserted hp hnew => exact absurd hnew hstored
    | anchorUpdated hop hok =>
      subst hop
      cases ho
    | transferred hop hsend =>
      subst hop
      obtain ⟨⟨input, hselect⟩, -⟩ := sendLocalTransfer_spec hsend
      rw [(changeOffer_wallet ho hselect).1] at hwhole
      cases hwhole
  · intro id
    rw [observation_of_offer ho, if_neg]
    rintro ⟨rfl, hnone, -⟩
    rw [hwallet] at hnone
    exact hstored hnone

/-- The wallet of the log moves as the wallet alone does. -/
theorem run_wallet (start : WalletState) (ops again : List WalletOp) :
    ((anchorMachine start).run (ops ++ again)).wallet =
      (walletMachineFrom ((anchorMachine start).run ops).wallet).run again := by
  induction again using List.reverseRecOn with
  | nil => rw [List.append_nil, Machine.run_nil, walletMachineFrom]
  | append_singleton again op ih =>
    rw [← List.append_assoc, Machine.run_concat, Machine.run_concat, ← ih]
    rfl

theorem reimports_run (start : WalletState) (ops again : List WalletOp)
    (h : (walletMachineFrom ((anchorMachine start).run ops).wallet).Guarded Reimports again) :
    ((anchorMachine start).run (ops ++ again)).wallet.spendableUtxos =
        ((anchorMachine start).run ops).wallet.spendableUtxos ∧
      ((anchorMachine start).run (ops ++ again)).observed =
        ((anchorMachine start).run ops).observed := by
  induction again using List.reverseRecOn with
  | nil => simp
  | append_singleton again op ih =>
    obtain ⟨hagain, hop⟩ := Machine.guarded_of_concat h
    obtain ⟨hutxos, hobserved⟩ := ih hagain
    rw [← run_wallet] at hop
    obtain ⟨hkept, hquiet⟩ := reimport_step hop
    rw [← List.append_assoc, Machine.run_concat, ← hutxos, ← hobserved]
    refine ⟨hkept, funext fun id => ?_⟩
    simp only [anchorMachine] at hquiet ⊢
    rw [hquiet, Option.none_or]

/-- What the entries of an asset add up to whose anchor was last observed as confirmed. -/
def observedTotal (s : AnchorLog) (asset : Bytes32) : ℕ :=
  ((s.wallet.spendableUtxos.toList.filter fun e => s.observed e.1 = some .confirmed).map
    fun e => amountOf s.wallet asset e.2.proofId).sum

/-- The wallet records the last observation of each anchor, and counts a UTXO in its balances
exactly when that was a confirmation. -/
structure FollowsObservations (s : AnchorLog) : Prop where
  recorded : Recorded s
  counted : ∀ (id : String) (utxo : SpendableAssetUtxo), s.wallet.spendableUtxos[id]? = some utxo →
    (utxo ∈ s.wallet.counted ↔ s.observed id = some .confirmed)
  reported : ∀ balances, s.wallet.balances = .ok balances →
    ∀ asset, reported balances asset = observedTotal s asset

theorem spendable_iff_observed {s : AnchorLog} (h : Recorded s) {id : String}
    {utxo : SpendableAssetUtxo} (hget : s.wallet.spendableUtxos[id]? = some utxo) :
    utxo.status = .spendable ↔ s.observed id = some .confirmed := by
  obtain ⟨hobserved, hstatus⟩ := h id utxo hget
  rw [hstatus, hobserved, fromAnchorState_spendable, Option.some.injEq]

theorem recorded_follows {s : AnchorLog} (h : Recorded s) : FollowsObservations s := by
  refine ⟨h, fun id utxo hget => ?_, fun balances hbalances asset => ?_⟩
  · rw [mem_counted, ← spendable_iff_observed h hget]
    exact ⟨fun hcounted => hcounted.1, fun hstatus => ⟨hstatus, id, hget⟩⟩
  · have hsame : (s.wallet.spendableUtxos.toList.filter fun e => e.2.status = .spendable) =
        s.wallet.spendableUtxos.toList.filter fun e => s.observed e.1 = some .confirmed := by
      refine List.filter_congr fun e he => ?_
      rw [decide_eq_decide, spendable_iff_observed h (mem_toList_iff.mp he)]
    rw [reported_eq_sum hbalances, WalletState.counted, List.filter_map, List.map_map,
      List.map_map, observedTotal, ← hsame]
    rfl

/-- In a valid wallet every run ends with the last observation recorded for each UTXO, and
imports of proofs that are stored by then leave the UTXOs and what was observed as they are. -/
theorem anchor_follows_observations (start : WalletState) (hvalid : start.validate = .ok ())
    (ops again : List WalletOp)
    (hagain : (walletMachineFrom ((anchorMachine start).run ops).wallet).Guarded Reimports again) :
    FollowsObservations ((anchorMachine start).run (ops ++ again)) ∧
      ((anchorMachine start).run (ops ++ again)).wallet.spendableUtxos =
        ((anchorMachine start).run ops).wallet.spendableUtxos ∧
      ((anchorMachine start).run (ops ++ again)).observed =
        ((anchorMachine start).run ops).observed :=
  ⟨recorded_follows (recorded_run (validate_eq_ok.mp hvalid) (ops ++ again)),
    reimports_run start ops again hagain⟩

def importThenReorg (proof : ProofFile) : List WalletOp :=
  [.importVerifiedProof proof, .updateAnchorState proof.anchorOutpoint .reorged]

theorem confirmedAgain_reimports {proof : ProofFile} (h : Importable proof) :
    (walletMachineFrom ((anchorMachine .default).run (importThenReorg proof)).wallet).Guarded
      Reimports [.importVerifiedProofWithAnchorState proof .confirmed] := by
  obtain ⟨prepared, hp, hfirst⟩ := import_step h
  obtain ⟨next, hsecond, -, hproofs, -⟩ := notice_step h hp
  have hwallet : ((anchorMachine .default).run (importThenReorg proof)).wallet = next := by
    simp only [Machine.run, anchorMachine, importThenReorg, List.foldl_cons, List.foldl_nil, hfirst,
      hsecond]
  have hstored : next.proofs[proofId proof]? ≠ none := by
    have hid : (prepared.storedProof proof).proofId = proofId proof := hp.proofId
    rw [hproofs, holding, WalletState.insertProof, hid]
    exact ne_of_eq_of_ne (get_insert_self _ _ _) (Option.some_ne_none _)
  rw [hwallet]
  exact Machine.guarded_concat (Machine.guarded_nil _ _) ⟨.native proof .confirmed, rfl, rfl, hstored⟩

/-- A proof whose anchor was reorganised stays uncounted when it is imported as confirmed. -/
theorem anchor_follows_observations_reorged :
    FollowsObservations ((anchorMachine .default).run
        (importThenReorg (regtestProof regtestAnchor) ++
          [.importVerifiedProofWithAnchorState (regtestProof regtestAnchor) .confirmed])) ∧
      ((anchorMachine .default).run (importThenReorg (regtestProof regtestAnchor) ++
          [.importVerifiedProofWithAnchorState (regtestProof regtestAnchor)
            .confirmed])).wallet.spendableUtxos =
        ((anchorMachine .default).run
          (importThenReorg (regtestProof regtestAnchor))).wallet.spendableUtxos ∧
      ((anchorMachine .default).run (importThenReorg (regtestProof regtestAnchor) ++
          [.importVerifiedProofWithAnchorState (regtestProof regtestAnchor) .confirmed])).observed =
        ((anchorMachine .default).run (importThenReorg (regtestProof regtestAnchor))).observed :=
  anchor_follows_observations .default (validate_eq_ok.mpr walletValid_default) _ _
    (confirmedAgain_reimports regtestAnchor_importable)

end TapLdk.WalletReimport
