import Mathlib
import TapLdk.WalletErrors

/-! Wallets built by their own operations. Unless an operation has left a proof whose key
cannot be read back, the wallet validates, and every entry is as an import writes it. -/
namespace TapLdk.WalletRuns
open TapLdk.LibraryExcept TapLdk.LibraryMaps TapLdk.LibraryBytes TapLdk.LibraryRuns
open TapLdk.Mssmt TapLdk.Asset TapLdk.TapdProof TapLdk.Proof TapLdk.TapdAncestry
open TapLdk.DecodedProofs TapLdk.ProofHistory TapLdk.ProofCourier TapLdk.Wallet
open TapLdk.WalletImport TapLdk.WalletSteps TapLdk.WalletOutpoint TapLdk.WalletErrors

/-- The stored texts are those of a proof and an ancestry file in their own encodings. -/
structure Written (stored : StoredProof) (proof : ProofFile) (file : Option Bytes) : Prop where
  fit : TextsFit proof
  tlv : ∃ encoded, proof.encode = .ok encoded ∧ stored.proofTlvHex = encodeHex encoded
  tapd : stored.tapdRawProofFileHex = file.map encodeHex

/-- A valid wallet of written entries, with each UTXO under the id of its proof. -/
structure Sound (w : WalletState) : Prop where
  valid : WalletValid w
  written : ∀ (key : String) (stored : StoredProof), w.proofs[key]? = some stored →
    ∃ proof file, Written stored proof file
  keyed : ∀ (key : String) (utxo : SpendableAssetUtxo), w.spendableUtxos[key]? = some utxo →
    utxo.proofId = key

variable {w next : WalletState}

theorem sound_default : Sound .default := by
  refine ⟨walletValid_default, ?_, ?_⟩ <;> simp [WalletState.default]

/-- An import, whether it succeeds or fails, has left the wallet alone, attached a file to the
proof, or written it. -/
theorem importedOk_of_import (w : WalletState) (proof : ProofFile) (file : Option Bytes)
    (summary : Option TapdProofFileSummary) (anchorState : ProofAnchorState) :
    ImportedOk w proof file anchorState
      (w.importVerifiedProofWithTapd proof file summary anchorState).2 := by
  unfold WalletState.importVerifiedProofWithTapd
  cases hprepare : prepareImport proof file summary with
  | error e => exact .present
  | ok prepared =>
    have hp := prepareImport_spec hprepare
    dsimp only
    rw [hp.proofId]
    cases hold : w.proofs[proofId proof]? with
    | none => exact .inserted hp hold
    | some existing =>
      dsimp only
      cases himport : w.importExisting existing prepared with
      | error e => exact .present
      | ok result => exact importExisting_ok hp hold himport

/-- A successful import has validated the wallet that it changed. -/
theorem import_ok {proof : ProofFile} {file : Option Bytes} {summary : Option TapdProofFileSummary}
    {anchorState : ProofAnchorState} {outcome : ImportOutcome} (hw : WalletValid w)
    (h : w.importVerifiedProofWithTapd proof file summary anchorState = (.ok outcome, next)) :
    ImportedOk w proof file anchorState next ∧ WalletValid next := by
  have himported := importedOk_of_import w proof file summary anchorState
  rw [h] at himported
  refine ⟨himported, ?_⟩
  unfold WalletState.importVerifiedProofWithTapd at h
  cases hprepare : prepareImport proof file summary with
  | error e =>
    rw [hprepare] at h
    cases congrArg Prod.fst h
  | ok prepared =>
    rw [hprepare] at h
    dsimp only at h
    cases hold : w.proofs[prepared.proofId]? with
    | none =>
      rw [hold] at h
      obtain ⟨hvalidate, rfl⟩ := Prod.mk.inj h
      cases hnext : (w.insertProof (prepared.storedProof proof)
          (prepared.utxo proof anchorState)).validate with
      | error e =>
        rw [hnext] at hvalidate
        cases hvalidate
      | ok u => exact validate_eq_ok.mp hnext
    | some existing =>
      rw [hold] at h
      dsimp only at h
      cases himport : w.importExisting existing prepared with
      | error e =>
        rw [himport] at h
        cases congrArg Prod.fst h
      | ok result =>
        rw [himport] at h
        obtain ⟨-, rfl⟩ := Prod.mk.inj h
        simp only [WalletState.importExisting, bind_eq_ok] at himport
        obtain ⟨_, -, _, -, _, -, himport⟩ := himport
        split at himport
        · obtain rfl := Except.ok.inj himport
          exact hw
        · simp only [bind_eq_ok, pure_eq_ok, Except.ok.injEq] at himport
          obtain ⟨_, hnext, rfl⟩ := himport
          exact validate_eq_ok.mp hnext

theorem sound_importedOk {proof : ProofFile} {file : Option Bytes} {anchorState : ProofAnchorState}
    (hw : Sound w) (hfit : TextsFit proof) (h : ImportedOk w proof file anchorState next)
    (hnext : WalletValid next) : Sound next := by
  cases h with
  | present => exact hw
  | @attached prepared existing tapdProofFile hp hfile hold htlv hhistory hnative =>
    refine ⟨hnext, fun key stored hget => ?_, hw.keyed⟩
    rcases get_insert_eq_some hget with ⟨-, rfl⟩ | ⟨-, hget⟩
    · obtain ⟨encoded, hencoded, hhex⟩ := hp.proofHex
      exact ⟨proof, some tapdProofFile, hfit, ⟨encoded, hencoded, htlv.trans hhex⟩, rfl⟩
    · exact hw.written key stored hget
  | @inserted prepared hp hnew =>
    refine ⟨hnext, fun key stored hget => ?_, fun key utxo hget => ?_⟩
    · rcases get_insert_eq_some hget with ⟨-, rfl⟩ | ⟨-, hget⟩
      · exact ⟨proof, file, hfit, hp.proofHex, hp.tapdHex⟩
      · exact hw.written key stored hget
    · rcases get_insert_eq_some hget with ⟨rfl, rfl⟩ | ⟨-, hget⟩
      · rfl
      · exact hw.keyed key utxo hget

/-- An import leaves a sound wallet unless it writes a bad key. -/
theorem sound_import (hw : Sound w) {proof : ProofFile} (hfit : TextsFit proof)
    {file : Option Bytes} {summary : Option TapdProofFileSummary} (hfile : SummaryOf file summary)
    (anchorState : ProofAnchorState) (hgood : ¬ WritesBadKey w proof summary) :
    Sound (w.importVerifiedProofWithTapd proof file summary anchorState).2 := by
  generalize hr : w.importVerifiedProofWithTapd proof file summary anchorState = r
  rcases import_cases hw.valid hfit hfile anchorState hr with
    ⟨e, rfl, -⟩ | ⟨outcome, next, rfl, -, -⟩ | ⟨e, -, -, hbad⟩
  · exact hw
  · obtain ⟨himport, hnext⟩ := import_ok hw.valid hr
    exact sound_importedOk hw hfit himport hnext
  · exact absurd hbad hgood

theorem sound_updated {anchorOutpoint : String} {anchorState : ProofAnchorState} (hw : Sound w)
    (h : w.updateAnchorState anchorOutpoint anchorState = .ok ((), next)) : Sound next := by
  have hvalid := h
  simp only [WalletState.updateAnchorState, bind_eq_ok, pure_eq_ok, Except.ok.injEq] at hvalid
  obtain ⟨_, -, _, hnext, hpair⟩ := hvalid
  obtain ⟨-, rfl⟩ := Prod.mk.inj hpair
  refine ⟨validate_eq_ok.mp hnext, hw.written, fun key utxo hget => ?_⟩
  obtain ⟨old, hold, rfl⟩ := updated_utxo h hget
  rw [WalletSpend.withAnchorState_proofId]
  exact hw.keyed key old hold

theorem sound_removeInput (hw : Sound w) (inputId : String) : Sound (w.removeInput inputId) := by
  refine ⟨hw.valid.removeInput inputId fun key utxo hget hne => ?_, fun key stored hget => ?_,
    fun key utxo hget => ?_⟩
  · rw [hw.keyed key utxo hget]
    exact hne
  · exact hw.written key stored (get_erase_eq_some hget).2
  · exact hw.keyed key utxo (get_erase_eq_some hget).2

/-- The proof that a transfer builds has short texts if the proof it spends does. -/
theorem transferOutputProof_fits {inputProof proof : ProofFile} {amount : AssetAmount}
    {scriptKey : CompressedKey} {outputIndex : UInt32} (hfit : TextsFit inputProof)
    (hindex : (utf8 (toString outputIndex)).length = 1)
    (h : transferOutputProof inputProof amount scriptKey outputIndex = .ok proof) :
    TextsFit proof := by
  simp only [transferOutputProof, bind_eq_ok, mapError_eq_ok, pure_eq_ok, Except.ok.injEq] at h
  obtain ⟨root, -, rfl⟩ := h
  have hcolon : (utf8 ":").length = 1 := by decide
  refine ⟨hfit.1, ?_⟩
  simp only [toString_string, utf8_append, List.length_append, hindex, hcolon, toHex,
    utf8_encodeHex_length, FixedBytes.length_eq]
  omega

theorem sound_sent {request : LocalTransferRequest} {outcome : LocalTransferOutcome} (hw : Sound w)
    (h : w.sendLocalTransfer request = .ok (outcome, next)) : Sound next := by
  simp only [WalletState.sendLocalTransfer, bind_eq_ok, okOr_eq_ok, mapError_eq_ok] at h
  obtain ⟨_, -, ⟨inputId, utxo⟩, -, inputProof, hinput, _, -, change, -, key, -, _, -, receiver, -,
    tlv, -, ⟨changeId, next'⟩, hnext, _, -, hpair⟩ := h
  obtain ⟨-, rfl⟩ := Prod.mk.inj (Except.ok.inj hpair)
  have hremoved := sound_removeInput hw inputId
  unfold WalletState.payChange at hnext
  split at hnext
  · obtain ⟨-, rfl⟩ := Prod.mk.inj (Except.ok.inj hnext)
    exact hremoved
  · simp only [bind_eq_ok, pure_eq_ok, Except.ok.injEq] at hnext
    obtain ⟨changeProof, hchange, outcome', himport, hnext⟩ := hnext
    obtain ⟨-, rfl⟩ := Prod.mk.inj hnext
    simp only [WalletState.decodeProof, bind_eq_ok, mapError_eq_ok] at hinput
    obtain ⟨encoded, -, hdecode⟩ := hinput
    obtain ⟨himported, hvalid⟩ := import_ok hremoved.valid (Prod.ext himport rfl)
    exact sound_importedOk hremoved (transferOutputProof_fits (decode_spec hdecode).2 (by decide)
      hchange) himported hvalid

/-- The operation writes a new proof whose key cannot be read back. -/
def LeavesBadKey (w : WalletState) : WalletOp → Prop
  | .importVerifiedProof proof | .importVerifiedProofWithAnchorState proof _ =>
    WritesBadKey w proof none
  | .issueRegtestAsset request =>
    ∃ proof, request.buildProof = .ok proof ∧ WritesBadKey w proof none
  | _ => False

section

variable {P : WalletState → Prop} {op : WalletOp}

/-- The import of an ancestry file brings in a proof whose key can be read back. -/
theorem importTapd_preserves (hw : P w) {request : TapdProofImportRequest}
    (hfit : (utf8 request.genesisOutpoint).length < 2 ^ 64 ∧
      (utf8 request.anchorOutpoint).length < 2 ^ 64) (anchorState : ProofAnchorState)
    (himport : ∀ proof file summary, TextsFit proof → SummaryOf file summary →
      ¬ WritesBadKey w proof summary →
        P (w.importVerifiedProofWithTapd proof file summary anchorState).2) :
    P (w.importTapdProofFileWithAnchorState request anchorState).2 := by
  unfold WalletState.importTapdProofFileWithAnchorState
  cases hbuild : WalletState.buildTapdImport request with
  | error e => exact hw
  | ok built =>
    obtain ⟨summary, proof⟩ := built
    obtain ⟨hdecode, hgenesis, hanchor⟩ := buildTapdImport_spec hbuild
    rw [← hgenesis, ← hanchor] at hfit
    refine himport proof _ _ hfit (.tapd hdecode) fun hbad => ?_
    obtain ⟨⟨report, hverify⟩, -⟩ := hbad.passes
    exact hbad.key (tapd_hasKeyPrefix hdecode hverify)

theorem importBundle_preserves (hw : P w) (bundle : ProofCourierBundle)
    (himport : ∀ proof file summary, TextsFit proof → SummaryOf file summary →
      ¬ WritesBadKey w proof summary →
        P (w.importVerifiedProofWithTapd proof file summary bundle.anchorState).2) :
    P (w.importProofCourierBundle bundle).2 := by
  cases hopen : WalletState.openBundle bundle with
  | error e =>
    rw [WalletState.importProofCourierBundle, hopen]
    exact hw
  | ok content =>
    obtain ⟨proof, hrepeats, hcontent⟩ := openBundle_cases.mp hopen
    obtain ⟨-, -, hkey, hfit⟩ := hrepeats.spec
    rcases hcontent with ⟨-, rfl⟩ | ⟨hex, file, -, -, rfl⟩
    · rw [importBundle_native hopen rfl]
      exact himport proof none none hfit .native fun hbad => hbad.key hkey
    · rw [importBundle_tapd hopen rfl]
      exact @importTapd_preserves _ _ hw (requestOf proof file) hfit _ himport

/-- The step rule for imports: a property is preserved by every step that preserves it by
imports of proofs with short texts, by notices and by transfers. -/
theorem step_of_imports (hw : P w) (hfit : Fits op)
    (himport : ∀ proof file summary anchorState, TextsFit proof → SummaryOf file summary →
      (¬ LeavesBadKey w op → ¬ WritesBadKey w proof summary) →
        P (w.importVerifiedProofWithTapd proof file summary anchorState).2)
    (hupdate : ∀ anchorOutpoint anchorState next,
      w.updateAnchorState anchorOutpoint anchorState = .ok ((), next) → P next)
    (hsend : ∀ request outcome next, w.sendLocalTransfer request = .ok (outcome, next) → P next) :
    P (step w op).2 := by
  cases op with
  | importVerifiedProof proof => exact himport proof none none _ hfit .native id
  | importVerifiedProofWithAnchorState proof anchorState =>
    exact himport proof none none anchorState hfit .native id
  | importEncodedProof bytes =>
    simp only [step, mapReply, WalletState.importEncodedProof]
    cases hdecode : ProofFile.decode bytes with
    | error e => exact hw
    | ok proof =>
      obtain ⟨hkey, htexts⟩ := decode_spec hdecode
      exact himport proof none none _ htexts .native fun _ hbad => hbad.key hkey
  | importTapdProofFile request =>
    exact importTapd_preserves hw hfit _ fun proof file summary hfit hfile hgood =>
      himport proof file summary _ hfit hfile fun _ => hgood
  | importTapdProofFileWithAnchorState request anchorState =>
    exact importTapd_preserves hw hfit anchorState fun proof file summary hfit hfile hgood =>
      himport proof file summary anchorState hfit hfile fun _ => hgood
  | importProofCourierBundle bundle =>
    exact importBundle_preserves hw bundle fun proof file summary hfit hfile hgood =>
      himport proof file summary _ hfit hfile fun _ => hgood
  | issueRegtestAsset request =>
    simp only [step, mapReply, WalletState.issueRegtestAsset]
    cases hbuild : request.buildProof with
    | error e => exact hw
    | ok proof =>
      exact himport proof none none _ (buildProof_fits hbuild) .native fun hgood hbad =>
        hgood ⟨proof, hbuild, hbad⟩
  | updateAnchorState anchorOutpoint anchorState =>
    simp only [step, mapReply]
    cases hok : w.updateAnchorState anchorOutpoint anchorState with
    | error e => exact hw
    | ok result => exact hupdate anchorOutpoint anchorState _ hok
  | sendLocalTransfer request =>
    simp only [step, mapReply]
    cases hok : w.sendLocalTransfer request with
    | error e => exact hw
    | ok result => exact hsend request _ _ hok

end

/-- Every step of a sound wallet, also one that fails, leads to a sound wallet, unless it leaves
a bad key. -/
theorem sound_step {op : WalletOp} (hw : Sound w) (hfit : Fits op) (hgood : ¬ LeavesBadKey w op) :
    Sound (step w op).2 :=
  step_of_imports hw hfit
    (fun _ _ _ anchorState htexts hfile hkeys =>
      sound_import hw htexts hfile anchorState (hkeys hgood))
    (fun _ _ _ hok => sound_updated hw hok) (fun _ _ _ hok => sound_sent hw hok)

/-- From the empty wallet, every run that leaves no bad key reaches a sound wallet. -/
theorem sound_run (ops : List WalletOp) (hfit : ∀ op ∈ ops, Fits op)
    (h : walletMachine.Guarded (fun w op => ¬ LeavesBadKey w op) ops) :
    Sound (walletMachine.run ops) := by
  induction ops using List.reverseRecOn with
  | nil => exact sound_default
  | append_singleton ops op ih =>
    obtain ⟨hguarded, hgood⟩ := Machine.guarded_of_concat h
    rw [walletMachine_concat]
    refine sound_step (ih (fun op hop => hfit op ?_) hguarded) (hfit op ?_) hgood
    · exact List.mem_append_left _ hop
    · simp

end TapLdk.WalletRuns
