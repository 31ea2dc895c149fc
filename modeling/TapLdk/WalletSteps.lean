import Mathlib
import TapLdk.LibraryRuns
import TapLdk.WalletImport

/-! The operations of a wallet as one step function, and what a step can do: leave the
wallet alone, import one proof, follow an anchor notice, or spend an input. -/
namespace TapLdk.WalletSteps
open TapLdk.LibraryExcept TapLdk.LibraryMaps TapLdk.LibraryBytes TapLdk.LibrarySha256
open TapLdk.Mssmt TapLdk.Asset TapLdk.TapdProof TapLdk.Proof TapLdk.ProofHistory
open TapLdk.ProofCourier TapLdk.Wallet TapLdk.WalletImport

inductive WalletOp where
  | importVerifiedProof (proof : ProofFile)
  | importVerifiedProofWithAnchorState (proof : ProofFile) (anchorState : ProofAnchorState)
  | importEncodedProof (bytes : Bytes)
  | importTapdProofFile (request : TapdProofImportRequest)
  | importTapdProofFileWithAnchorState (request : TapdProofImportRequest)
      (anchorState : ProofAnchorState)
  | importProofCourierBundle (bundle : ProofCourierBundle)
  | issueRegtestAsset (request : RegtestIssueRequest)
  | updateAnchorState (anchorOutpoint : String) (anchorState : ProofAnchorState)
  | sendLocalTransfer (request : LocalTransferRequest)

inductive WalletReply where
  | import (outcome : ImportOutcome)
  | issue (outcome : RegtestIssueOutcome)
  | anchorUpdated
  | transfer (outcome : LocalTransferOutcome)
deriving DecidableEq

/-- The same reply under another type. -/
def mapReply {α β : Type} (f : α → β) (r : WalletResult α) : WalletResult β := (r.1.map f, r.2)

def step (w : WalletState) : WalletOp → WalletResult WalletReply
  | .importVerifiedProof proof => mapReply .import (w.importVerifiedProof proof)
  | .importVerifiedProofWithAnchorState proof anchorState =>
    mapReply .import (w.importVerifiedProofWithAnchorState proof anchorState)
  | .importEncodedProof bytes => mapReply .import (w.importEncodedProof bytes)
  | .importTapdProofFile request => mapReply .import (w.importTapdProofFile request)
  | .importTapdProofFileWithAnchorState request anchorState =>
    mapReply .import (w.importTapdProofFileWithAnchorState request anchorState)
  | .importProofCourierBundle bundle => mapReply .import (w.importProofCourierBundle bundle)
  | .issueRegtestAsset request => mapReply .issue (w.issueRegtestAsset request)
  | .updateAnchorState anchorOutpoint anchorState =>
    mapReply (fun _ => .anchorUpdated)
      (replaceOnOk w (w.updateAnchorState anchorOutpoint anchorState))
  | .sendLocalTransfer request =>
    mapReply .transfer (replaceOnOk w (w.sendLocalTransfer request))

/-- A proof on its way into a wallet, after the input with id `consumes`, if any, left it. -/
structure Offer where
  consumes : Option String
  proof : ProofFile
  tapdProofFile : Option Bytes
  tapdProofSummary : Option TapdProofFileSummary
  anchorState : ProofAnchorState

def Offer.native (proof : ProofFile) (anchorState : ProofAnchorState) : Offer :=
  ⟨none, proof, none, none, anchorState⟩

/-- The wallet that an offer is imported into. -/
def Offer.wallet (w : WalletState) (o : Offer) : WalletState := o.consumes.elim w w.removeInput

def tapdOffer (request : TapdProofImportRequest) (anchorState : ProofAnchorState) : Option Offer := do
  let (summary, proof) ← (WalletState.buildTapdImport request).toOption
  some ⟨none, proof, some request.tapdProofFile, some summary, anchorState⟩

/-- The change that a transfer pays back, with the input it spends. -/
def changeOffer (w : WalletState) (request : LocalTransferRequest) : Option Offer := do
  let (inputId, inputUtxo) ← w.selectInput request
  let inputProof ← (w.decodeProof inputUtxo.proofId).toOption
  let changeAmount ← checkedSub inputUtxo.amount request.amount
  let changeScriptKey ← (compressedKeyFromStr inputUtxo.scriptKey).toOption
  if changeAmount = 0 then none
  else
    let proof ← (transferOutputProof inputProof changeAmount changeScriptKey 1).toOption
    some ⟨some inputId, proof, none, none, .confirmed⟩

/-- The proof that an operation hands to the import, from its arguments and the wallet. -/
def offer (w : WalletState) : WalletOp → Option Offer
  | .importVerifiedProof proof => some (.native proof .confirmed)
  | .importVerifiedProofWithAnchorState proof anchorState => some (.native proof anchorState)
  | .importEncodedProof bytes =>
    (ProofFile.decode bytes).toOption.map fun proof => .native proof .confirmed
  | .importTapdProofFile request => tapdOffer request .confirmed
  | .importTapdProofFileWithAnchorState request anchorState => tapdOffer request anchorState
  | .importProofCourierBundle bundle => do
    match ← (WalletState.openBundle bundle).toOption with
    | .inl proof => some (.native proof bundle.anchorState)
    | .inr request => tapdOffer request bundle.anchorState
  | .issueRegtestAsset request => request.buildProof.toOption.map fun proof =>
    .native proof .confirmed
  | .updateAnchorState _ _ => none
  | .sendLocalTransfer request => changeOffer w request

/-- The wallets that an import of an offer can leave behind. -/
inductive Imported (w : WalletState) (o : Offer) : WalletState → Prop where
  | same : Imported w o w
  | attached {stored existing : StoredProof} (hold : w.proofs[proofId o.proof]? = some existing)
      (hdigest : stored.tapdRawProofFileDigest = o.tapdProofFile.map sha256) :
      Imported w o { w with proofs := w.proofs.insert (proofId o.proof) stored }
  | inserted {prepared : PreparedImport} (hp : Prepared o.proof o.tapdProofFile prepared)
      (hnew : w.proofs[proofId o.proof]? = none) :
      Imported w o
        (w.insertProof (prepared.storedProof o.proof) (prepared.utxo o.proof o.anchorState))

theorem importExisting_spec {w next : WalletState} {existing : StoredProof}
    {prepared : PreparedImport} {outcome : ImportOutcome}
    (h : w.importExisting existing prepared = .ok (outcome, next)) :
    next = w ∨ ∃ stored, next = { w with proofs := w.proofs.insert prepared.proofId stored } ∧
      stored.tapdRawProofFileDigest = prepared.tapdRawProofFileDigest := by
  simp only [WalletState.importExisting, bind_eq_ok] at h
  obtain ⟨_, -, _, -, _, -, h⟩ := h
  split at h
  · exact .inl (Prod.mk.inj (Except.ok.inj h)).2.symm
  · simp only [bind_eq_ok, pure_eq_ok, Except.ok.injEq] at h
    obtain ⟨_, -, h⟩ := h
    exact .inr ⟨_, (Prod.mk.inj h).2.symm, rfl⟩

/-- An import of an offer leaves one of the wallets above, whether it succeeds or fails. -/
theorem imported_of_import (w : WalletState) (o : Offer) :
    Imported w o (w.importVerifiedProofWithTapd o.proof o.tapdProofFile o.tapdProofSummary
      o.anchorState).2 := by
  unfold WalletState.importVerifiedProofWithTapd
  cases hprep : prepareImport o.proof o.tapdProofFile o.tapdProofSummary with
  | error e => exact .same
  | ok prepared =>
    have hp := prepareImport_spec hprep
    dsimp only
    cases hold : w.proofs[prepared.proofId]? with
    | none =>
      rw [hp.proofId] at hold
      exact .inserted hp hold
    | some existing =>
      dsimp only
      cases himport : w.importExisting existing prepared with
      | error e => exact .same
      | ok result =>
        obtain ⟨outcome, next⟩ := result
        rcases importExisting_spec himport with rfl | ⟨stored, rfl, hdigest⟩
        · exact .same
        · rw [hp.proofId] at hold ⊢
          exact .attached hold (hdigest.trans hp.tapdDigest)

/-- A successful transfer spends the UTXO it selected, pays back the change, if there is
any, and leaves a valid wallet. -/
theorem sendLocalTransfer_spec {w next : WalletState} {request : LocalTransferRequest}
    {outcome : LocalTransferOutcome} (h : w.sendLocalTransfer request = .ok (outcome, next)) :
    (∃ utxo, w.selectInput request = some (outcome.spentProofId, utxo)) ∧ WalletValid next ∧
      (next = w.removeInput outcome.spentProofId ∨
        ∃ o, changeOffer w request = some o ∧ o.consumes = some outcome.spentProofId ∧
          Imported (w.removeInput outcome.spentProofId) o next) := by
  simp only [WalletState.sendLocalTransfer, bind_eq_ok, okOr_eq_ok, mapError_eq_ok] at h
  obtain ⟨_, -, ⟨inputId, utxo⟩, hselect, proof, hproof, _, -, change, hchange, key, hkey, _, -,
    receiver, -, tlv, -, ⟨changeId, next'⟩, hnext, _, hvalid, hout⟩ := h
  obtain ⟨rfl, rfl⟩ := Prod.mk.inj (Except.ok.inj hout)
  refine ⟨⟨utxo, hselect⟩, validate_eq_ok.mp hvalid, ?_⟩
  rw [subAmount, okOr_eq_ok] at hchange
  unfold WalletState.payChange at hnext
  split at hnext
  · exact .inl (Prod.mk.inj (Except.ok.inj hnext)).2.symm
  · rename_i hzero
    simp only [bind_eq_ok, pure_eq_ok, Except.ok.injEq] at hnext
    obtain ⟨changeProof, hproof', outcome, -, hnext⟩ := hnext
    obtain ⟨-, rfl⟩ := Prod.mk.inj hnext
    refine .inr ⟨⟨some inputId, changeProof, none, none, .confirmed⟩, ?_, rfl,
      imported_of_import _ _⟩
    simp [changeOffer, hselect, hproof, hchange, hkey, hzero, hproof', Except.toOption]

/-- A successful notice restates the UTXOs whose anchor text is the one in the notice. -/
theorem updateAnchorState_spec {w next : WalletState} {anchorOutpoint : String}
    {anchorState : ProofAnchorState}
    (h : w.updateAnchorState anchorOutpoint anchorState = .ok ((), next)) :
    (∃ (key : String) (utxo : SpendableAssetUtxo), w.spendableUtxos[key]? = some utxo ∧
      utxo.anchorOutpoint = anchorOutpoint) ∧ next.proofs = w.proofs ∧
      ∀ key : String, next.spendableUtxos[key]? =
        (w.spendableUtxos[key]?).map (·.withAnchorState anchorOutpoint anchorState) := by
  simp only [WalletState.updateAnchorState, bind_eq_ok, rejectIf_eq_ok, pure_eq_ok,
    Except.ok.injEq, not_not, exists_const, List.any_eq_true, decide_eq_true_eq] at h
  obtain ⟨⟨e, he, hanchor⟩, _, -, hout⟩ := h
  obtain ⟨-, rfl⟩ := Prod.mk.inj hout
  refine ⟨⟨e.1, e.2, mem_toList_iff.mp he, hanchor⟩, rfl, fun key => ?_⟩
  simp

/-- The effect of one operation on the wallet, with its reply. -/
inductive StepEffect (w : WalletState) (op : WalletOp) : WalletResult WalletReply → Prop where
  | unchanged {reply : Except WalletError WalletReply}
      (hreply : ∀ outcome, reply ≠ .ok (.transfer outcome)) : StepEffect w op (reply, w)
  | imported {reply : Except WalletError WalletReply} {o : Offer} {next : WalletState}
      (hreply : ∀ outcome, reply ≠ .ok (.transfer outcome)) (ho : offer w op = some o)
      (hwhole : o.consumes = none) (h : Imported w o next) : StepEffect w op (reply, next)
  | anchorUpdated {anchorOutpoint : String} {anchorState : ProofAnchorState} {next : WalletState}
      (hop : op = .updateAnchorState anchorOutpoint anchorState)
      (h : w.updateAnchorState anchorOutpoint anchorState = .ok ((), next)) :
      StepEffect w op (.ok .anchorUpdated, next)
  | transferred {request : LocalTransferRequest} {outcome : LocalTransferOutcome}
      {next : WalletState} (hop : op = .sendLocalTransfer request)
      (h : w.sendLocalTransfer request = .ok (outcome, next)) :
      StepEffect w op (.ok (.transfer outcome), next)

theorem map_ne_transfer {α : Type} {f : α → WalletReply} (hf : ∀ a outcome, f a ≠ .transfer outcome)
    (r : Except WalletError α) (outcome : LocalTransferOutcome) : r.map f ≠ .ok (.transfer outcome) := by
  cases r with
  | error e => simp [Except.map]
  | ok a => simpa [Except.map] using hf a outcome

theorem import_ne_transfer (r : Except WalletError ImportOutcome) (outcome : LocalTransferOutcome) :
    r.map WalletReply.import ≠ .ok (.transfer outcome) :=
  map_ne_transfer (fun _ _ => by simp) r outcome

theorem native_effect {w : WalletState} {op : WalletOp} {proof : ProofFile}
    {anchorState : ProofAnchorState} (ho : offer w op = some (.native proof anchorState)) :
    StepEffect w op
      (mapReply .import (w.importVerifiedProofWithAnchorState proof anchorState)) :=
  .imported (import_ne_transfer _) ho rfl (imported_of_import w (.native proof anchorState))

theorem tapd_effect {w : WalletState} {op : WalletOp} {request : TapdProofImportRequest}
    {anchorState : ProofAnchorState} (ho : offer w op = tapdOffer request anchorState) :
    StepEffect w op
      (mapReply .import (w.importTapdProofFileWithAnchorState request anchorState)) := by
  unfold WalletState.importTapdProofFileWithAnchorState
  cases hbuild : WalletState.buildTapdImport request with
  | error e => exact .unchanged (import_ne_transfer _)
  | ok built =>
    obtain ⟨summary, proof⟩ := built
    simp only [tapdOffer, hbuild, Except.toOption] at ho
    exact .imported (import_ne_transfer _) ho rfl (imported_of_import w _)

/-- Every step has one of the effects above. -/
theorem step_effect (w : WalletState) (op : WalletOp) : StepEffect w op (step w op) := by
  cases op with
  | importVerifiedProof proof => exact native_effect rfl
  | importVerifiedProofWithAnchorState proof anchorState => exact native_effect rfl
  | importEncodedProof bytes =>
    simp only [step, WalletState.importEncodedProof]
    cases hdecode : ProofFile.decode bytes with
    | error e => exact .unchanged (import_ne_transfer _)
    | ok proof => exact native_effect (by simp [offer, hdecode, Except.toOption])
  | importTapdProofFile request => exact tapd_effect rfl
  | importTapdProofFileWithAnchorState request anchorState => exact tapd_effect rfl
  | importProofCourierBundle bundle =>
    simp only [step, WalletState.importProofCourierBundle]
    cases hopen : WalletState.openBundle bundle with
    | error e => exact .unchanged (import_ne_transfer _)
    | ok content =>
      cases content with
      | inl proof =>
        exact .imported (import_ne_transfer _) (o := .native proof bundle.anchorState)
          (by simp [offer, hopen, Except.toOption]) rfl (imported_of_import w _)
      | inr request =>
        dsimp only [WalletState.importTapdProofFileWithAnchorState]
        cases hbuild : WalletState.buildTapdImport request with
        | error e => exact .unchanged (import_ne_transfer _)
        | ok built =>
          obtain ⟨summary, proof⟩ := built
          exact .imported (import_ne_transfer _)
            (o := ⟨none, proof, some request.tapdProofFile, some summary, bundle.anchorState⟩)
            (by simp [offer, hopen, tapdOffer, hbuild, Except.toOption]) rfl
            (imported_of_import w _)
  | issueRegtestAsset request =>
    have hissue := map_ne_transfer (f := WalletReply.issue) (fun _ _ => by simp)
    simp only [step, WalletState.issueRegtestAsset]
    cases hbuild : request.buildProof with
    | error e => exact .unchanged (hissue _)
    | ok proof =>
      exact .imported (hissue _) (o := .native proof .confirmed)
        (by simp [offer, hbuild, Except.toOption]) rfl (imported_of_import w _)
  | updateAnchorState anchorOutpoint anchorState =>
    simp only [step]
    cases hupdate : w.updateAnchorState anchorOutpoint anchorState with
    | error e => exact .unchanged (by simp [replaceOnOk, Except.map])
    | ok result => exact .anchorUpdated rfl hupdate
  | sendLocalTransfer request =>
    simp only [step]
    cases hsend : w.sendLocalTransfer request with
    | error e => exact .unchanged (by simp [replaceOnOk, Except.map])
    | ok result => exact .transferred rfl hsend

/-- The step rule: a property that removing an input, importing the offered proof and
following a notice preserve is preserved by the step. -/
theorem step_preserves {P : WalletState → Prop} {w : WalletState} {op : WalletOp} (h : P w)
    (hremove : ∀ request inputId utxo, w.selectInput request = some (inputId, utxo) → P w →
      P (w.removeInput inputId))
    (himport : ∀ o next, offer w op = some o → P (o.wallet w) → Imported (o.wallet w) o next →
      P next)
    (hupdate : ∀ anchorOutpoint anchorState next, op = .updateAnchorState anchorOutpoint anchorState →
      w.updateAnchorState anchorOutpoint anchorState = .ok ((), next) → P next) :
    P (step w op).2 := by
  have heffect := step_effect w op
  generalize step w op = result at heffect
  cases heffect with
  | unchanged hreply => exact h
  | @imported _ o _ hreply ho hwhole himported =>
    have hwallet : o.wallet w = w := by
      rw [Offer.wallet, hwhole]
      rfl
    exact himport o _ ho (by rwa [hwallet]) (by rwa [hwallet])
  | anchorUpdated hop hok => exact hupdate _ _ _ hop hok
  | @transferred request outcome next hop hok =>
    subst hop
    obtain ⟨⟨utxo, hselect⟩, -, hnext⟩ := sendLocalTransfer_spec hok
    have hremoved := hremove request outcome.spentProofId utxo hselect h
    rcases hnext with rfl | ⟨o, ho, hconsumes, himported⟩
    · exact hremoved
    · have hwallet : o.wallet w = w.removeInput outcome.spentProofId := by
        rw [Offer.wallet, hconsumes]
        rfl
      exact himport o _ ho (by rwa [hwallet]) (by rwa [hwallet])

end TapLdk.WalletSteps
