import Mathlib
import TapLdk.ProofHistoryAnchors
import TapLdk.AssetRoots
import TapLdk.WalletTotals

/-! What a local transfer moves. It takes its input out of the wallet and imports the change, and
the import leaves a wallet alone that already stores a proof under the id of the change: then the
whole input is gone. The receiver's proof is encoded without any check. -/
namespace TapLdk.WalletTransfers
open TapLdk.LibraryExcept TapLdk.LibraryMaps TapLdk.LibraryBytes TapLdk.LibraryRuns
open TapLdk.LibrarySha256 TapLdk.Mssmt TapLdk.Asset TapLdk.Proof TapLdk.DecodedProofs
open TapLdk.ProofHistory TapLdk.ProofHistoryAnchors TapLdk.Wallet TapLdk.WalletImport
open TapLdk.WalletSteps TapLdk.WalletSpend TapLdk.WalletOutpoint TapLdk.WalletErrors
open TapLdk.WalletBalance TapLdk.WalletRuns TapLdk.WalletTotals

variable {w next : WalletState}

/-- Every stored proof is in its own encoding, and every UTXO is under the id of its proof and
repeats its asset and amount. -/
structure Filed (w : WalletState) : Prop where
  written : ∀ (key : String) (stored : StoredProof), w.proofs[key]? = some stored →
    ∃ proof file, Written stored proof file
  keyed : ∀ (key : String) (utxo : SpendableAssetUtxo), w.spendableUtxos[key]? = some utxo →
    utxo.proofId = key
  repeats : ∀ (key : String) (utxo : SpendableAssetUtxo), w.spendableUtxos[key]? = some utxo →
    ∃ stored proof file, w.proofs[key]? = some stored ∧ Written stored proof file ∧
      utxo.assetId = toHex proof.assetId ∧ utxo.amount = proof.amount

theorem filed_default : Filed .default := by
  refine ⟨?_, ?_, ?_⟩ <;> simp [WalletState.default]

theorem filed_importedOk {proof : ProofFile} {file : Option Bytes} {anchorState : ProofAnchorState}
    (hw : Filed w) (hfit : TextsFit proof) (h : ImportedOk w proof file anchorState next) :
    Filed next := by
  cases h with
  | present => exact hw
  | @attached prepared existing tapdProofFile hp hfile hold htlv hhistory hnative =>
    refine ⟨fun key stored hget => ?_, hw.keyed, fun key utxo hget => ?_⟩
    · rcases get_insert_eq_some hget with ⟨-, rfl⟩ | ⟨-, hget⟩
      · obtain ⟨encoded, hencoded, hhex⟩ := hp.proofHex
        exact ⟨proof, some tapdProofFile, hfit, ⟨encoded, hencoded, htlv.trans hhex⟩, rfl⟩
      · exact hw.written key stored hget
    · obtain ⟨stored, written, oldFile, hstored, hwritten, hrest⟩ := hw.repeats key utxo hget
      by_cases hkey : key = proofId proof
      · rw [hkey, hold, Option.some.injEq] at hstored
        subst hstored hkey
        exact ⟨_, written, some tapdProofFile, get_insert_self _ _ _,
          ⟨hwritten.fit, hwritten.tlv, rfl⟩, hrest⟩
      · exact ⟨stored, written, oldFile, (get_insert_ne hkey).trans hstored, hwritten, hrest⟩
  | @inserted prepared hp hnew =>
    have hwritten : Written (prepared.storedProof proof) proof file :=
      ⟨hfit, hp.proofHex, hp.tapdHex⟩
    refine ⟨fun key stored hget => ?_, fun key utxo hget => ?_, fun key utxo hget => ?_⟩
    · rcases get_insert_eq_some hget with ⟨-, rfl⟩ | ⟨-, hget⟩
      · exact ⟨proof, file, hwritten⟩
      · exact hw.written key stored hget
    · rcases get_insert_eq_some hget with ⟨rfl, rfl⟩ | ⟨-, hget⟩
      · rfl
      · exact hw.keyed key utxo hget
    · rcases get_insert_eq_some hget with ⟨rfl, rfl⟩ | ⟨hne, hget⟩
      · exact ⟨_, proof, file, get_insert_self _ _ _, hwritten, rfl, rfl⟩
      · obtain ⟨stored, written, oldFile, hstored, hrest⟩ := hw.repeats key utxo hget
        exact ⟨stored, written, oldFile, (get_insert_ne hne).trans hstored, hrest⟩

theorem filed_import (hw : Filed w) {proof : ProofFile} (hfit : TextsFit proof)
    (file : Option Bytes) (summary : Option TapdProof.TapdProofFileSummary)
    (anchorState : ProofAnchorState) :
    Filed (w.importVerifiedProofWithTapd proof file summary anchorState).2 :=
  filed_importedOk hw hfit (importedOk_of_import w proof file summary anchorState)

theorem filed_updated {anchorOutpoint : String} {anchorState : ProofAnchorState} (hw : Filed w)
    (h : w.updateAnchorState anchorOutpoint anchorState = .ok ((), next)) : Filed next := by
  obtain ⟨-, hproofs, -⟩ := updateAnchorState_spec h
  refine ⟨hproofs ▸ hw.written, fun key utxo hget => ?_, fun key utxo hget => ?_⟩
  · obtain ⟨old, hold, rfl⟩ := updated_utxo h hget
    rw [withAnchorState_proofId]
    exact hw.keyed key old hold
  · obtain ⟨old, hold, rfl⟩ := updated_utxo h hget
    obtain ⟨stored, proof, file, hstored, hwritten, hasset, hamount⟩ := hw.repeats key old hold
    refine ⟨stored, proof, file, hproofs ▸ hstored, hwritten, ?_, ?_⟩
    · rw [(withAnchorState_spec old anchorOutpoint anchorState).1, hasset]
    · rw [← hamount]
      unfold SpendableAssetUtxo.withAnchorState
      split <;> rfl

theorem filed_removeInput (hw : Filed w) (inputId : String) : Filed (w.removeInput inputId) := by
  refine ⟨fun key stored hget => hw.written key stored (get_erase_eq_some hget).2,
    fun key utxo hget => hw.keyed key utxo (get_erase_eq_some hget).2, fun key utxo hget => ?_⟩
  obtain ⟨hne, hget⟩ := get_erase_eq_some hget
  obtain ⟨stored, proof, file, hstored, hrest⟩ := hw.repeats key utxo hget
  exact ⟨stored, proof, file, (get_erase_ne hne).trans hstored, hrest⟩

/-- A proof id that is new to a filed wallet is in none of its UTXOs. -/
theorem filed_fresh (hw : Filed w) {id : String} (hnew : w.proofs[id]? = none) :
    w.spendableUtxos[id]? = none ∧
      ∀ (key : String) (u : SpendableAssetUtxo), w.spendableUtxos[key]? = some u → u.proofId ≠ id := by
  have hother : ∀ (key : String) (u : SpendableAssetUtxo), w.spendableUtxos[key]? = some u →
      key ≠ id := by
    rintro key u hu rfl
    obtain ⟨stored, _, _, hstored, -⟩ := hw.repeats key u hu
    rw [hnew] at hstored
    cases hstored
  refine ⟨Option.eq_none_iff_forall_ne_some.mpr fun u hu => hother id u hu rfl, fun key u hu => ?_⟩
  rw [hw.keyed key u hu]
  exact hother key u hu

/-- Wallets as their own operations file them are sound if they validate. -/
theorem sound_of_filed (hw : Filed w) (hvalid : WalletValid w) : Sound w :=
  ⟨hvalid, hw.written, hw.keyed⟩

/-- The digest in the anchor of a transfer's output. -/
def outputDigest (input : ProofFile) (amount : AssetAmount) (scriptKey : CompressedKey)
    (outputIndex : UInt32) : Bytes32 :=
  taggedHash (utf8 "tap-ldk:regtest:transfer-anchor:v1")
    (utf8 s!"{input.anchorOutpoint}:{toHex scriptKey}:{amount}:{outputIndex}")

/-- The proof of a transfer's output. -/
def outputProof (input : ProofFile) (amount : AssetAmount) (scriptKey : CompressedKey)
    (outputIndex : UInt32) : ProofFile :=
  { version := 0
    assetId := input.assetId
    genesisOutpoint := input.genesisOutpoint
    anchorOutpoint := s!"{toHex (outputDigest input amount scriptKey outputIndex)}:{outputIndex}"
    amount
    scriptKey
    tapAssetRoot := singleRoot ⟨input.assetId, scriptKey, amount⟩
    verificationScope := .semanticAncestry
    network := input.network
    assetType := input.assetType }

theorem transferOutputProof_ok {input : ProofFile} {amount : AssetAmount} (h : amount ≠ 0)
    (scriptKey : CompressedKey) (outputIndex : UInt32) :
    transferOutputProof input amount scriptKey outputIndex =
      .ok (outputProof input amount scriptKey outputIndex) := by
  have hroot : deriveHashSumRoot [⟨input.assetId, scriptKey, amount⟩] =
      .ok (singleRoot ⟨input.assetId, scriptKey, amount⟩) := deriveHashSumRoot_single h
  rw [transferOutputProof, hroot]
  rfl

/-- A successful transfer in its parts. -/
structure Transferred (w : WalletState) (request : LocalTransferRequest)
    (outcome : LocalTransferOutcome) (next : WalletState) (utxo : SpendableAssetUtxo)
    (input : ProofFile) (change : AssetAmount) (changeKey : CompressedKey) : Prop where
  amount : request.amount ≠ 0
  selected : w.selectInput request = some (outcome.spentProofId, utxo)
  decoded : w.decodeProof utxo.proofId = .ok input
  verified : Verified input
  difference : checkedSub utxo.amount request.amount = some change
  owner : compressedKeyFromStr utxo.scriptKey = .ok changeKey
  receiver : (outputProof input request.amount request.receiverScriptKey 0).encode =
    .ok outcome.receiverProofTlv
  paid : (w.removeInput outcome.spentProofId).payChange input change changeKey =
    .ok (outcome.changeProofId, next)
  valid : WalletValid next

theorem transferred_of_send {request : LocalTransferRequest} {outcome : LocalTransferOutcome}
    (h : w.sendLocalTransfer request = .ok (outcome, next)) :
    ∃ utxo input change changeKey,
      Transferred w request outcome next utxo input change changeKey := by
  simp only [WalletState.sendLocalTransfer, bind_eq_ok, okOr_eq_ok, mapError_eq_ok, rejectIf_eq_ok,
    exists_const] at h
  obtain ⟨hamount, ⟨inputId, utxo⟩, hselect, input, hinput, report, hverify, change, hchange, key,
    hkey, _, -, receiver, hreceiver, tlv, htlv, ⟨changeId, paid⟩, hpaid, _, hvalid, hpair⟩ := h
  obtain ⟨rfl, rfl⟩ := Prod.mk.inj (Except.ok.inj hpair)
  rw [transferOutputProof_ok hamount, Except.ok.injEq] at hreceiver
  subst hreceiver
  rw [subAmount, okOr_eq_ok] at hchange
  exact ⟨utxo, input, change, key, hamount, hselect, hinput, verified_of_verify rfl hverify, hchange,
    hkey, htlv, hpaid, validate_eq_ok.mp hvalid⟩

/-- A successful transfer only takes its input away, or imports the change as well. -/
theorem filed_sent {request : LocalTransferRequest} {outcome : LocalTransferOutcome} (hw : Filed w)
    (h : w.sendLocalTransfer request = .ok (outcome, next)) : Filed next := by
  obtain ⟨utxo, input, change, key, ht⟩ := transferred_of_send h
  have hremoved := filed_removeInput hw outcome.spentProofId
  have hpaid := ht.paid
  unfold WalletState.payChange at hpaid
  split at hpaid
  case isTrue =>
    obtain ⟨-, rfl⟩ := Prod.mk.inj (Except.ok.inj hpaid)
    exact hremoved
  case isFalse hzero =>
    have hdecode := ht.decoded
    simp only [WalletState.decodeProof, bind_eq_ok, mapError_eq_ok] at hdecode
    obtain ⟨encoded, -, hdecode⟩ := hdecode
    rw [transferOutputProof_ok hzero, ok_bind] at hpaid
    simp only [bind_eq_ok, pure_eq_ok, Except.ok.injEq] at hpaid
    obtain ⟨_, -, hpair⟩ := hpaid
    obtain ⟨-, rfl⟩ := Prod.mk.inj hpair
    exact filed_import hremoved (transferOutputProof_fits (decode_spec hdecode).2 (by decide)
      (transferOutputProof_ok hzero key 1)) none none .confirmed

/-- Every run of operations leads from the empty wallet to a filed wallet. -/
theorem filed_run (ops : List WalletOp) (hfit : ∀ op ∈ ops, Fits op) :
    Filed (walletMachine.run ops) := by
  induction ops using List.reverseRecOn with
  | nil => exact filed_default
  | append_singleton ops op ih =>
    have hrun := ih fun op hop => hfit op (List.mem_append_left _ hop)
    rw [walletMachine_concat]
    refine step_of_imports hrun (hfit op (by simp)) ?_ ?_ ?_
    · exact fun proof file summary anchorState htexts _ _ =>
        filed_import hrun htexts file summary anchorState
    · exact fun _ _ _ hok => filed_updated hrun hok
    · exact fun _ _ _ hok => filed_sent hrun hok

/-- What a request takes from the balance of an asset. -/
def sent (request : LocalTransferRequest) (asset : Bytes32) : ℕ :=
  if request.assetId = asset then request.amount.toNat else 0

/-- The transfer moves exactly what the request asks for. -/
structure MovesExactly (w : WalletState) (request : LocalTransferRequest)
    (outcome : LocalTransferOutcome) (next : WalletState) : Prop where
  spendable : ∀ asset, spendable next asset + sent request asset = spendable w asset
  balances : ∀ before, w.balances = .ok before → ∃ after, next.balances = .ok after ∧
    ∀ asset, reported after asset + sent request asset = reported before asset
  receiver : Pays [outcome.receiverProofTlv] request.assetId request.amount.toNat

/-- Digests that the proof of a transfer's output can use. -/
structure UsableOutput (input : ProofFile) (amount : AssetAmount) (scriptKey : CompressedKey)
    (outputIndex : UInt32) : Prop where
  root : (singleRoot ⟨input.assetId, scriptKey, amount⟩).hash ≠ Bytes32.ZERO
  anchor : outputDigest input amount scriptKey outputIndex ≠ Bytes32.ZERO
  distinct : outpointOf input.genesisOutpoint ≠
    some ⟨toHex (outputDigest input amount scriptKey outputIndex), outputIndex⟩
  transition : (historyOf (outputProof input amount scriptKey outputIndex)).transitionId ≠
    Bytes32.ZERO

/-- The wallet does not store a proof under the id of the change, and the receiver's proof can be
imported. -/
structure Payable (w : WalletState) (request : LocalTransferRequest) : Prop where
  change : ∀ o, changeOffer w request = some o → (o.wallet w).proofs[proofId o.proof]? = none
  key : HasKeyPrefix request.receiverScriptKey
  digests : ∀ inputId utxo input, w.selectInput request = some (inputId, utxo) →
    w.decodeProof utxo.proofId = .ok input →
      UsableOutput input request.amount request.receiverScriptKey 0

section

variable {request : LocalTransferRequest} {outcome : LocalTransferOutcome}
  {utxo : SpendableAssetUtxo} {input : ProofFile} {change : AssetAmount} {changeKey : CompressedKey}

/-- The input of a transfer is the proof that its UTXO repeats. -/
theorem input_spec (hw : Filed w) (h : Transferred w request outcome next utxo input change changeKey) :
    w.spendableUtxos[outcome.spentProofId]? = some utxo ∧ input.assetId = request.assetId ∧
      input.amount = utxo.amount ∧ TextsFit input ∧
      ∀ asset, share w asset utxo = amountIn asset input := by
  have hget := mem_toList_iff.mp (List.mem_of_find?_eq_some h.selected)
  have hfound := List.find?_some h.selected
  simp only [decide_eq_true_eq] at hfound
  obtain ⟨hstatus, hrequested, -⟩ := hfound
  have hid := hw.keyed _ utxo hget
  obtain ⟨stored, proof, file, hstored, hwritten, hasset, hamount⟩ := hw.repeats _ utxo hget
  obtain ⟨encoded, hencoded, hhex⟩ := hwritten.tlv
  have hdecode := h.decoded
  simp only [WalletState.decodeProof, WalletState.exportEncodedProof, hid, hstored, okOr_eq_ok,
    bind_eq_ok, mapError_eq_ok, Option.some.injEq] at hdecode
  obtain ⟨bytes, ⟨_, -, _, rfl, hbytes⟩, hdecode⟩ := hdecode
  rw [hhex, WalletImport.decodeHex_encodeHex, Except.ok.injEq] at hbytes
  subst hbytes
  obtain ⟨-, rfl⟩ := (decode_encode_eq_ok hwritten.fit hencoded).mp hdecode
  refine ⟨hget, toHex_injective (hasset.symm.trans hrequested), hamount.symm, hwritten.fit,
    fun asset => ?_⟩
  have hdecoded : decoded stored = .ok input := by
    rw [decoded, hhex, WalletImport.decodeHex_encodeHex, ok_bind, hdecode]
    rfl
  rw [share, if_pos hstatus, hid, amountOf, hstored, Option.elim_some, decodedAmount, hdecoded]
  rfl

/-- The change that a transfer offers to the import. -/
theorem changeOffer_eq (h : Transferred w request outcome next utxo input change changeKey) :
    changeOffer w request = if change = 0 then none else
      some ⟨some outcome.spentProofId, outputProof input change changeKey 1, none, none,
        .confirmed⟩ := by
  by_cases hzero : change = 0
  · simp [changeOffer, h.selected, h.decoded, h.difference, h.owner, hzero, Except.toOption]
  · simp [changeOffer, h.selected, h.decoded, h.difference, h.owner, hzero,
      transferOutputProof_ok hzero, Except.toOption]

/-- A native import that succeeds writes a proof with a new id, and does nothing otherwise. -/
theorem importNative_ok {proof : ProofFile} {imported : ImportOutcome}
    (h : w.importVerifiedProof proof = (.ok imported, next)) :
    (w.proofs[proofId proof]? = none ∧ ∃ prepared, Prepared proof none prepared ∧
        next = w.insertProof (prepared.storedProof proof) (prepared.utxo proof .confirmed)) ∨
      w.proofs[proofId proof]? ≠ none ∧ next = w := by
  change w.importVerifiedProofWithTapd proof none none .confirmed = _ at h
  unfold WalletState.importVerifiedProofWithTapd at h
  cases hprepare : prepareImport proof none none with
  | error e =>
    rw [hprepare] at h
    cases congrArg Prod.fst h
  | ok prepared =>
    have hp := prepareImport_spec hprepare
    rw [hprepare] at h
    dsimp only at h
    rw [hp.proofId] at h
    cases hold : w.proofs[proofId proof]? with
    | none =>
      rw [hold] at h
      exact .inl ⟨rfl, prepared, hp, (Prod.mk.inj h).2.symm⟩
    | some existing =>
      rw [hold] at h
      dsimp only at h
      cases himport : w.importExisting existing prepared with
      | error e =>
        rw [himport] at h
        cases congrArg Prod.fst h
      | ok result =>
        rw [himport] at h
        obtain ⟨-, rfl⟩ := Prod.mk.inj h
        have hok : ImportedOk w proof none .confirmed result.2 := importExisting_ok hp hold himport
        generalize result.2 = next at hok
        cases hok with
        | present => exact .inr ⟨Option.some_ne_none _, rfl⟩
        | attached _ hfile => cases hfile
        | inserted _ hnew =>
          rw [hold] at hnew
          cases hnew

/-- The id of the change is new to the wallet without the input. -/
def ChangeIsNew (w : WalletState) (inputId : String) (input : ProofFile) (change : AssetAmount)
    (changeKey : CompressedKey) : Prop :=
  change ≠ 0 → (w.removeInput inputId).proofs[proofId (outputProof input change changeKey 1)]? = none

theorem change_iff (h : Transferred w request outcome next utxo input change changeKey) :
    (∀ o, changeOffer w request = some o → (o.wallet w).proofs[proofId o.proof]? = none) ↔
      ChangeIsNew w outcome.spentProofId input change changeKey := by
  rw [changeOffer_eq h, ChangeIsNew]
  generalize outputProof input change changeKey 1 = proof
  by_cases hzero : change = 0
  · simp only [hzero, if_true, reduceCtorEq, false_implies, implies_true, ne_eq, not_true_eq_false]
  · rw [if_neg hzero]
    refine ⟨fun hall _ => ?_, fun hnew o ho => ?_⟩
    · have hnew := hall _ rfl
      rwa [Offer.wallet, Option.elim_some] at hnew
    · obtain rfl := Option.some.inj ho
      rw [Offer.wallet, Option.elim_some]
      exact hnew hzero

/-- What a transfer leaves: the wallet without its input, and the change if its id is new. -/
theorem paid_cases (hw : Filed w)
    (h : Transferred w request outcome next utxo input change changeKey) :
    (∀ asset, ChangeIsNew w outcome.spentProofId input change changeKey →
      spendable next asset =
        (if request.assetId = asset then change.toNat else 0) +
          spendable (w.removeInput outcome.spentProofId) asset) ∧
      (¬ ChangeIsNew w outcome.spentProofId input change changeKey →
        next = w.removeInput outcome.spentProofId) := by
  obtain ⟨-, hasset, -, hfit, -⟩ := input_spec hw h
  have hpaid := h.paid
  unfold WalletState.payChange at hpaid
  split at hpaid
  case isTrue hzero =>
    obtain ⟨-, rfl⟩ := Prod.mk.inj (Except.ok.inj hpaid)
    refine ⟨fun asset _ => ?_, fun _ => rfl⟩
    rw [hzero]
    simp
  case isFalse hzero =>
    rw [transferOutputProof_ok hzero, ok_bind] at hpaid
    simp only [bind_eq_ok, pure_eq_ok, Except.ok.injEq] at hpaid
    obtain ⟨imported, himport, hpair⟩ := hpaid
    obtain ⟨-, hnext⟩ := Prod.mk.inj hpair
    have hfits := transferOutputProof_fits hfit (by decide) (transferOutputProof_ok hzero changeKey 1)
    have hchangeAsset : (outputProof input change changeKey 1).assetId = request.assetId := hasset
    have hchangeAmount : (outputProof input change changeKey 1).amount = change := rfl
    unfold ChangeIsNew
    generalize outputProof input change changeKey 1 = proof at *
    rcases importNative_ok (Prod.ext himport hnext) with ⟨hnew, prepared, hp, rfl⟩ | ⟨hheld, rfl⟩
    · refine ⟨fun asset _ => ?_, fun hnot => absurd (fun _ => hnew) hnot⟩
      have hget := (@get_insertProof (w.removeInput outcome.spentProofId) _ _ _ hp .confirmed).1
      have himportable := importable_of_prepared hp (key_of_valid hp hfits h.valid hget) hfits
      obtain ⟨hfresh, hother⟩ := filed_fresh (filed_removeInput hw _) hnew
      rw [spendable_insertProof himportable hp hfresh hother, amountIn, hchangeAsset, hchangeAmount]
    · exact ⟨fun asset hnew => absurd (hnew hzero) hheld, fun _ => rfl⟩

/-- What the wallet had is what it keeps without the input, and the input's amount. -/
theorem spendable_input (hw : Filed w)
    (h : Transferred w request outcome next utxo input change changeKey) (asset : Bytes32) :
    spendable w asset = (if request.assetId = asset then utxo.amount.toNat else 0) +
      spendable (w.removeInput outcome.spentProofId) asset := by
  obtain ⟨hget, hasset, hamount, -, hshare⟩ := input_spec hw h
  rw [spendable_removeInput hget fun key u hu hne => hw.keyed key u hu ▸ hne, hshare, amountIn,
    hasset, hamount]

/-- The totals change by what the request asks for exactly when the change is new. -/
theorem spendable_iff (hw : Filed w)
    (h : Transferred w request outcome next utxo input change changeKey) :
    (∀ asset, spendable next asset + sent request asset = spendable w asset) ↔
      ChangeIsNew w outcome.spentProofId input change changeKey := by
  have hdifference := checkedSub_eq_some.mp h.difference
  obtain ⟨hnew, hheld⟩ := paid_cases hw h
  constructor
  · intro hall
    by_contra hnot
    have hrequested := hall request.assetId
    rw [hheld hnot, spendable_input hw h, sent, if_pos rfl, if_pos rfl] at hrequested
    refine hnot fun hzero => absurd (UInt64.toNat_inj.mp ?_) hzero
    rw [UInt64.toNat_zero]
    omega
  · intro hchange asset
    rw [hnew asset hchange, spendable_input hw h, sent]
    by_cases hasset : request.assetId = asset
    · rw [if_pos hasset, if_pos hasset, if_pos hasset]
      omega
    · rw [if_neg hasset, if_neg hasset, if_neg hasset]
      omega

/-- Balances follow the totals. -/
theorem balances_of_spendable (hnext : Sound next)
    (h : ∀ asset, spendable next asset + sent request asset = spendable w asset)
    {before : List AssetBalance} (hbefore : w.balances = .ok before) :
    ∃ after, next.balances = .ok after ∧
      ∀ asset, reported after asset + sent request asset = reported before asset := by
  have hfits : ∀ asset, spendable next asset < 2 ^ 64 := by
    intro asset
    have hlt := reported_lt before asset
    rw [reported_eq_spendable hbefore, ← h] at hlt
    omega
  obtain ⟨after, hafter⟩ := balances_ok hnext hfits
  refine ⟨after, hafter, fun asset => ?_⟩
  rw [reported_eq_spendable hafter, reported_eq_spendable hbefore, h]

theorem outputProof_text (input : ProofFile) (amount : AssetAmount) (scriptKey : CompressedKey)
    {outputIndex : UInt32} {digit : Char} (hdigit : (toString outputIndex).toList = [digit]) :
    (outputProof input amount scriptKey outputIndex).anchorOutpoint.toList =
      (toHex (outputDigest input amount scriptKey outputIndex)).toList ++ [':', digit] := by
  obtain ⟨digest, hdigest⟩ : ∃ d, d = outputDigest input amount scriptKey outputIndex := ⟨_, rfl⟩
  change (toHex (outputDigest input amount scriptKey outputIndex) ++ ":" ++
    toString outputIndex).toList = _
  rw [← hdigest, String.toList_append, String.toList_append, hdigit, List.append_assoc]
  rfl

/-- The two output indices of a transfer are single digits. -/
theorem outputIndex_text {outputIndex : UInt32} (h : outputIndex = 0 ∨ outputIndex = 1) :
    ∃ digit : Char, (toString outputIndex).toList = [digit] ∧ digit.isDigit = true ∧
      UInt32.ofNat (digit.toNat - 48) = outputIndex ∧ (utf8 (toString outputIndex)).length = 1 := by
  rcases h with rfl | rfl
  · exact ⟨'0', by decide, by decide, by decide, by decide⟩
  · exact ⟨'1', by decide, by decide, by decide, by decide⟩

/-- The proof of an output is importable exactly when its key can be read back and its digests
can be used. -/
theorem importable_output_iff {input : ProofFile} (hinput : Verified input) (hfit : TextsFit input)
    {amount : AssetAmount} (hamount : amount ≠ 0) {scriptKey : CompressedKey} {outputIndex : UInt32}
    (hindex : outputIndex = 0 ∨ outputIndex = 1) :
    Importable (outputProof input amount scriptKey outputIndex) ↔
      HasKeyPrefix scriptKey ∧ UsableOutput input amount scriptKey outputIndex := by
  obtain ⟨digit, hdigit, hascii, hnumber, hlength⟩ := outputIndex_text hindex
  obtain ⟨genesis, _, hgenesis, -⟩ := hinput.outpoints
  have hanchor {p : ParsedOutpoint} :
      outpointOf (outputProof input amount scriptKey outputIndex).anchorOutpoint = some p ↔ _ :=
    outpointOf_digest (outputDigest input amount scriptKey outputIndex) hascii
      (outputProof_text input amount scriptKey hdigit)
  rw [hnumber] at hanchor
  constructor
  · intro h
    obtain ⟨g, a, hg, ha, hne⟩ := h.verified.outpoints
    obtain ⟨hzero, rfl⟩ := hanchor.mp ha
    have hroot := h.verified.rootHash
    refine ⟨h.key, hroot, hzero, fun heq => hne ?_, ?_⟩
    · exact Option.some.inj (hg.symm.trans heq)
    · exact h.transition _ (walletProofHistoryMetadata_eq _)
  · rintro ⟨hkey, h⟩
    have hverified : Verified (outputProof input amount scriptKey outputIndex) := by
      refine ⟨rfl, rfl, hinput.assetType, hinput.assetId, hamount, h.root, rfl, genesis, _, hgenesis,
        hanchor.mpr ⟨h.anchor, rfl⟩, ?_⟩
      rintro rfl
      exact h.distinct hgenesis
    refine ⟨hverified, hkey, transferOutputProof_fits hfit hlength
      (transferOutputProof_ok hamount scriptKey outputIndex), fun metadata hmetadata => ?_⟩
    rw [walletProofHistoryMetadata_eq, Except.ok.injEq] at hmetadata
    rw [← hmetadata]
    exact h.transition

/-- The receiver is paid by the returned bytes exactly when they are an importable proof. -/
theorem receiver_iff (hw : Filed w)
    (h : Transferred w request outcome next utxo input change changeKey) :
    Pays [outcome.receiverProofTlv] request.assetId request.amount.toNat ↔
      HasKeyPrefix request.receiverScriptKey ∧
        UsableOutput input request.amount request.receiverScriptKey 0 := by
  obtain ⟨-, hasset, -, hfit, -⟩ := input_spec hw h
  have hfits : TextsFit (outputProof input request.amount request.receiverScriptKey 0) :=
    transferOutputProof_fits hfit (by decide) (transferOutputProof_ok h.amount _ 0)
  rw [← importable_output_iff h.verified hfit h.amount (.inl rfl)]
  constructor
  · intro hpays
    obtain ⟨proof, hdecode, himportable⟩ := importable_of_pays hpays
    obtain ⟨-, rfl⟩ := (decode_encode_eq_ok hfits h.receiver).mp hdecode
    exact himportable
  · intro himportable
    have hdecode := decode_encode himportable.key himportable.fit h.receiver
    have hreceiver : (outputProof input request.amount request.receiverScriptKey 0).assetId =
        request.assetId := hasset
    exact hreceiver ▸ pays_one hdecode himportable

/-- What a transfer of a filed wallet moves. -/
theorem moves_exactly_iff (hw : Filed w)
    (h : w.sendLocalTransfer request = .ok (outcome, next)) :
    MovesExactly w request outcome next ↔ Payable w request := by
  obtain ⟨utxo, input, change, changeKey, ht⟩ := transferred_of_send h
  have hspendable := spendable_iff hw ht
  have hreceiver := receiver_iff hw ht
  have hchange := change_iff ht
  constructor
  · intro hmoves
    obtain ⟨hkey, hdigests⟩ := hreceiver.mp hmoves.receiver
    refine ⟨hchange.mpr (hspendable.mp hmoves.spendable), hkey, fun inputId u p hselect hdecode => ?_⟩
    rw [ht.selected, Option.some.injEq, Prod.mk.injEq] at hselect
    obtain ⟨rfl, rfl⟩ := hselect
    rw [ht.decoded, Except.ok.injEq] at hdecode
    exact hdecode ▸ hdigests
  · intro hpayable
    have hall := hspendable.mpr (hchange.mp hpayable.change)
    exact ⟨hall, fun before hbefore => balances_of_spendable
      (sound_of_filed (filed_sent hw h) ht.valid) hall hbefore,
      hreceiver.mpr ⟨hpayable.key, hpayable.digests _ _ _ ht.selected ht.decoded⟩⟩

end

theorem payChange_import {input : ProofFile} {change : AssetAmount} (hzero : change ≠ 0)
    {changeKey : CompressedKey} {imported : ImportOutcome}
    (h : w.importVerifiedProof (outputProof input change changeKey 1) = (.ok imported, next)) :
    w.payChange input change changeKey = .ok (some imported.proofId, next) := by
  rw [WalletState.payChange, if_neg hzero, transferOutputProof_ok hzero, ok_bind]
  dsimp only
  rw [h]
  rfl

theorem sendLocalTransfer_ok {request : LocalTransferRequest} (hamount : request.amount ≠ 0)
    {inputId : String} {utxo : SpendableAssetUtxo}
    (hselect : w.selectInput request = some (inputId, utxo)) {input : ProofFile}
    (hdecode : w.decodeProof utxo.proofId = .ok input) (hverified : Verified input)
    {change : AssetAmount} (hchange : checkedSub utxo.amount request.amount = some change)
    (hzero : change ≠ 0) {changeKey : CompressedKey}
    (hkey : compressedKeyFromStr utxo.scriptKey = .ok changeKey) {root : RootHashSum}
    (hsplit : validateSplitConservation utxo.amount
      [⟨request.assetId, request.receiverScriptKey, request.amount⟩,
        ⟨request.assetId, changeKey, change⟩] = .ok root) {changeId : Option String}
    (hpaid : (w.removeInput inputId).payChange input change changeKey = .ok (changeId, next))
    (hvalid : WalletValid next) : ∃ outcome, w.sendLocalTransfer request = .ok (outcome, next) := by
  obtain ⟨report, hverify⟩ := verify_of_verified hverified
  have hdifference : subAmount utxo.amount request.amount = .ok change := by
    rw [subAmount, hchange]
    rfl
  have hencoded := encode_eq (outputProof input request.amount request.receiverScriptKey 0)
  simp only [WalletState.sendLocalTransfer, bind_eq_ok, okOr_eq_ok, mapError_eq_ok, rejectIf_eq_ok,
    exists_const, pure_eq_ok, Except.ok.injEq, Prod.mk.injEq]
  exact ⟨_, hamount, _, hselect, _, hdecode, report, hverify, _, hdifference, _, hkey, root,
    by rwa [if_pos hzero], _, transferOutputProof_ok hamount _ 0, _, hencoded, _, hpaid, (),
    validate_eq_ok.mpr hvalid, rfl, rfl⟩

/-- An importable proof that the wallet holds is found again, and nothing changes. -/
theorem import_present {proof : ProofFile} (h : Importable proof) {prepared : PreparedImport}
    (hp : Prepared proof none prepared)
    (hstored : w.proofs[proofId proof]? = some (prepared.storedProof proof)) :
    w.importVerifiedProof proof = (.ok (.alreadyPresent (proofId proof)), w) := by
  obtain ⟨report, hverify⟩ := verify_of_verified h.verified
  have hprepare : prepareImport proof none none = .ok prepared := prepareImport_of_prepared hp hverify
  have htlv : (prepared.storedProof proof).proofTlvHex = prepared.proofHex := rfl
  have hmatches : (prepared.storedProof proof).matchesProofHistory prepared.proofHistory = true := by
    simp [StoredProof.matchesProofHistory, PreparedImport.storedProof]
  change w.importVerifiedProofWithTapd proof none none .confirmed = _
  simp [WalletState.importVerifiedProofWithTapd, hprepare, hp.proofId, hstored,
    WalletState.importExisting, rejectIf, htlv, hmatches, WalletState.rejectOtherTapdFile, hp.tapdHex,
    replaceOnOk]

section

variable {u : WalletState} {proof : ProofFile} {prepared : PreparedImport}
  {request : LocalTransferRequest} (h : Importable proof) (hp : Prepared proof none prepared)
  (hproofs : u.proofs[proofId proof]? = none) (hutxos : u.spendableUtxos[proofId proof]? = none)
  (hasset : request.assetId = proof.assetId)
  (hsmall : ∀ (key : String) (utxo : SpendableAssetUtxo), u.spendableUtxos[key]? = some utxo →
    utxo.amount < request.amount)

include hp hasset hsmall in
/-- A proof that alone covers the request is selected. -/
theorem select_covering (hcovers : request.amount ≤ proof.amount) :
    (u.insertProof (prepared.storedProof proof) (prepared.utxo proof .confirmed)).selectInput
      request = some (proofId proof, prepared.utxo proof .confirmed) := by
  have hutxoId : (prepared.utxo proof .confirmed).utxoId = proofId proof := hp.proofId
  have hget := (@get_insertProof u _ _ _ hp .confirmed).2
  unfold WalletState.selectInput
  cases hfind : List.find? _ _ with
  | none =>
    have hnot := List.find?_eq_none.mp hfind _ (mem_toList_iff.mpr hget)
    simp [PreparedImport.utxo, UtxoStatus.fromAnchorState, hasset, hcovers] at hnot
  | some e =>
    have hcovered := List.find?_some hfind
    have hmem := mem_toList_iff.mp (List.mem_of_find?_eq_some hfind)
    simp only [decide_eq_true_eq] at hcovered
    rw [WalletState.insertProof, hutxoId] at hmem
    rcases get_insert_eq_some hmem with ⟨hkey, hutxo⟩ | ⟨-, hold⟩
    · rw [← hkey, ← hutxo]
    · exact absurd hcovered.2.2 (UInt64.not_le.mpr (hsmall _ _ hold))

include h hp hproofs hutxos hasset hsmall in
/-- The proof is split: what is not sent is paid back into the rest of the wallet. -/
theorem send_split (hamount : request.amount ≠ 0) {change : AssetAmount}
    (hchange : checkedSub proof.amount request.amount = some change) (hzero : change ≠ 0)
    {root : RootHashSum} (hsplit : validateSplitConservation proof.amount
      [⟨request.assetId, request.receiverScriptKey, request.amount⟩,
        ⟨request.assetId, proof.scriptKey, change⟩] = .ok root) {changeId : Option String}
    (hpaid : u.payChange proof change proof.scriptKey = .ok (changeId, next))
    (hvalid : WalletValid next) : ∃ outcome,
      (u.insertProof (prepared.storedProof proof)
        (prepared.utxo proof .confirmed)).sendLocalTransfer request = .ok (outcome, next) := by
  have hproofId : (prepared.utxo proof .confirmed).proofId = proofId proof := hp.proofId
  have hcovers : request.amount ≤ proof.amount := by
    have hsum := checkedSub_eq_some.mp hchange
    rw [UInt64.le_iff_toNat_le]
    omega
  have hkey : compressedKeyFromStr (prepared.utxo proof .confirmed).scriptKey =
      .ok proof.scriptKey := compressedKeyFromStr_toHex.mpr ⟨rfl, h.key⟩
  have hdecode := @decodeProof_of_import u _ h _ hp
  have hremoved := @removeInput_insertProof u (prepared.storedProof proof)
    (prepared.utxo proof .confirmed) _ hp.proofId hp.proofId hproofs hutxos
  rw [← hremoved] at hpaid
  exact sendLocalTransfer_ok hamount (select_covering hp hasset hsmall hcovers)
    (by rw [hproofId]; exact hdecode) h.verified hchange hzero hkey hsplit hpaid hvalid

end

theorem sound_holding {proof : ProofFile} (h : Importable proof) {prepared : PreparedImport}
    (hp : Prepared proof none prepared) : Sound (holding proof prepared) ∧
      ∀ asset, spendable (holding proof prepared) asset = amountIn asset proof := by
  refine ⟨sound_importedOk sound_default h.fit (.inserted hp (by simp [WalletState.default]))
    (holding_valid h hp), fun asset => ?_⟩
  rw [holding, spendable_insertProof h hp (by simp [WalletState.default])
    (by simp [WalletState.default])]
  simp [spendable, WalletState.default]

/-- Imports a proof, sends a part of it, and imports it again. -/
def importSendImport (proof : ProofFile) (request : LocalTransferRequest) : List WalletOp :=
  [.importVerifiedProof proof, .sendLocalTransfer request, .importVerifiedProof proof]

section

variable {proof : ProofFile} {request : LocalTransferRequest} {change : AssetAmount}
  {root : RootHashSum} (h : Importable proof)
  (hpaidBack : Importable (outputProof proof change proof.scriptKey 1))
  (hne : proofId proof ≠ proofId (outputProof proof change proof.scriptKey 1))
  (hasset : request.assetId = proof.assetId) (hamount : request.amount ≠ 0)
  (hchange : checkedSub proof.amount request.amount = some change)
  (hsplit : validateSplitConservation proof.amount
    [⟨request.assetId, request.receiverScriptKey, request.amount⟩,
      ⟨request.assetId, proof.scriptKey, change⟩] = .ok root)
include h hpaidBack hasset hamount hchange hsplit

/-- The first transfer leaves the change alone. -/
theorem send_holding {prepared prepared' : PreparedImport} (hp : Prepared proof none prepared)
    (hp' : Prepared (outputProof proof change proof.scriptKey 1) none prepared') : ∃ outcome,
      (holding proof prepared).sendLocalTransfer request =
        .ok (outcome, holding (outputProof proof change proof.scriptKey 1) prepared') := by
  obtain ⟨report, hverify⟩ := verify_of_verified hpaidBack.verified
  obtain ⟨himport, hvalid⟩ := importWithTapd_new walletValid_default hpaidBack
    (by simp [WalletState.default]) .native hverify hp' .confirmed
  refine send_split h hp (by simp [WalletState.default]) (by simp [WalletState.default]) hasset
    (by simp [WalletState.default]) hamount hchange hpaidBack.verified.amount hsplit
    (payChange_import hpaidBack.verified.amount himport) hvalid

include hne in
/-- Beside its change, the proof is selected again, and the change is already there. -/
theorem send_again (hless : change < request.amount) {prepared prepared' : PreparedImport}
    (hp : Prepared proof none prepared)
    (hp' : Prepared (outputProof proof change proof.scriptKey 1) none prepared') : ∃ outcome,
      ((holding (outputProof proof change proof.scriptKey 1) prepared').insertProof
        (prepared.storedProof proof) (prepared.utxo proof .confirmed)).sendLocalTransfer request =
          .ok (outcome, holding (outputProof proof change proof.scriptKey 1) prepared') := by
  have hstored := (@get_insertProof .default _ _ _ hp' .confirmed).1
  have hpresent := import_present hpaidBack hp' hstored
  have hutxos := holding_utxos hp'
  refine send_split h hp (holding_fresh hp' hne.symm) ?_ hasset ?_ hamount hchange
    hpaidBack.verified.amount hsplit (payChange_import hpaidBack.verified.amount hpresent)
    (holding_valid hpaidBack hp')
  · rw [hutxos, get_insert_ne hne]
    simp
  · intro key utxo hget
    rw [hutxos] at hget
    rcases get_insert_eq_some hget with ⟨-, rfl⟩ | ⟨-, hget⟩
    · exact hless
    · simp at hget

include hne in
/-- After an import, a transfer and the same import, the same transfer takes the whole proof. -/
theorem lost_run (hless : change < request.amount)
    (hfits : proof.amount.toNat + change.toNat < 2 ^ 64) : ∃ outcome next,
      (walletMachine.run (importSendImport proof request)).sendLocalTransfer request =
        .ok (outcome, next) ∧
      HoldsOnly (walletMachine.run (importSendImport proof request)) proof.assetId
        (proof.amount.toNat + change.toNat) ∧
      HoldsOnly next proof.assetId change.toNat := by
  obtain ⟨prepared, hp, hfirst⟩ := import_step h
  obtain ⟨prepared', hp', -⟩ := import_step hpaidBack
  obtain ⟨hsound, htotal⟩ := sound_holding hpaidBack hp'
  obtain ⟨_, hsend⟩ := send_holding h hpaidBack hasset hamount hchange hsplit hp hp'
  have hnew := holding_fresh hp' hne.symm
  obtain ⟨prepared'', hp'', himport, -⟩ := importVerifiedProof_new hsound.valid h hnew .confirmed
  obtain ⟨last, hlast, hlastSound, hadds, -⟩ := import_adds hsound h hnew
  obtain rfl := (Prod.mk.inj (hlast.symm.trans himport)).2
  have hone : walletMachine.run [.importVerifiedProof proof] = holding proof prepared :=
    (walletMachine_concat [] _).trans (congrArg Prod.snd hfirst)
  have htwo : walletMachine.run ([.importVerifiedProof proof] ++ [.sendLocalTransfer request]) =
      holding (outputProof proof change proof.scriptKey 1) prepared' := by
    rw [walletMachine_concat, hone, step, hsend]
    rfl
  have hthree : walletMachine.run (importSendImport proof request) =
      (holding (outputProof proof change proof.scriptKey 1) prepared').insertProof
        (prepared''.storedProof proof) (prepared''.utxo proof .confirmed) := by
    refine (walletMachine_concat ([.importVerifiedProof proof] ++ [.sendLocalTransfer request])
      (.importVerifiedProof proof)).trans ?_
    rw [htwo, step, hlast]
    rfl
  obtain ⟨outcome, hagain⟩ :=
    send_again h hpaidBack hne hasset hamount hchange hsplit hless hp'' hp'
  rw [hthree]
  refine ⟨outcome, _, hagain, holdsOnly_of_sound hlastSound hfits fun other => ?_,
    holdsOnly_of_sound hsound change.toNat_lt fun other => ?_⟩
  · rw [hadds, htotal, amountIn, amountIn]
    by_cases hother : proof.assetId = other
    · exact congrArg₂ (· + ·) (if_pos hother) (if_pos hother) |>.trans (if_pos hother.symm).symm
    · exact congrArg₂ (· + ·) (if_neg hother) (if_neg hother) |>.trans (if_neg (Ne.symm hother)).symm
  · rw [htotal, amountIn]
    exact if_congr eq_comm rfl rfl

end

def payeeKey : CompressedKey := .cons 2 (.replicate 32 7)

/-- Six tenths of the regtest proof, for another owner. -/
def partialRequest : LocalTransferRequest := ⟨regtestAsset, 600000, payeeKey⟩

theorem partial_split : ∃ root, validateSplitConservation 1000000
    [⟨regtestAsset, payeeKey, 600000⟩, ⟨regtestAsset, regtestKey, 400000⟩] = .ok root := by
  have hfree : CollisionFree (AssetRoots.leafKeyMessages
      [⟨regtestAsset, payeeKey, 600000⟩, ⟨regtestAsset, regtestKey, 400000⟩]) := by
    unfold CollisionFree
    decide +kernel
  obtain ⟨root, hroot, -⟩ | ⟨-, hover⟩ := AssetRoots.deriveHashSumRoot_cases (by decide) hfree
  · have hsum : root.sum = 1000000 := UInt64.toNat_inj.mp (deriveHashSumRoot_sum hroot)
    exact ⟨root, by rw [validateSplitConservation, hroot, ok_bind, rejectIf_false (by simp [hsum])]; rfl⟩
  · exact absurd hover (by decide)

/-- The regtest proof with other owners, anchors, amounts and roots. -/
def regtestOutput (scriptKey : CompressedKey) (anchorOutpoint : String) (amount : AssetAmount)
    (root : RootHashSum) : ProofFile :=
  { regtestProof anchorOutpoint with amount, scriptKey, tapAssetRoot := root }

section

variable {scriptKey : CompressedKey} {amount : AssetAmount} {outputIndex : UInt32}
  {anchorOutpoint : String} {root : RootHashSum}

theorem outputProof_regtest (hroot : singleRoot ⟨regtestAsset, scriptKey, amount⟩ = root)
    (hanchor : s!"{toHex (outputDigest (regtestProof regtestAnchor) amount scriptKey
      outputIndex)}:{outputIndex}" = anchorOutpoint) :
    outputProof (regtestProof regtestAnchor) amount scriptKey outputIndex =
      regtestOutput scriptKey anchorOutpoint amount root := by
  subst hroot hanchor
  rfl

/-- The digests of an output of the regtest proof, one by one. -/
theorem usable_regtest (hroot : singleRoot ⟨regtestAsset, scriptKey, amount⟩ = root)
    (hanchor : s!"{toHex (outputDigest (regtestProof regtestAnchor) amount scriptKey
      outputIndex)}:{outputIndex}" = anchorOutpoint) (hhash : root.hash ≠ Bytes32.ZERO)
    (hdigest : outputDigest (regtestProof regtestAnchor) amount scriptKey outputIndex ≠
      Bytes32.ZERO)
    (hdistinct : outpointOf regtestGenesis ≠
      some ⟨toHex (outputDigest (regtestProof regtestAnchor) amount scriptKey outputIndex),
        outputIndex⟩)
    (htransition : (historyOf (regtestOutput scriptKey anchorOutpoint amount root)).transitionId ≠
      Bytes32.ZERO) : UsableOutput (regtestProof regtestAnchor) amount scriptKey outputIndex where
  root := by
    have hsame : singleRoot ⟨(regtestProof regtestAnchor).assetId, scriptKey, amount⟩ = root := hroot
    rw [hsame]
    exact hhash
  anchor := hdigest
  distinct := hdistinct
  transition := by
    rw [outputProof_regtest hroot hanchor]
    exact htransition

end

def payeeLeaf : AssetLeaf := ⟨regtestAsset, payeeKey, 600000⟩

def payeeLeafKey : Bytes32 := syntheticAssetLeafKey payeeLeaf 0

def payee192 : MssmtNode :=
  nodeOf 0x7dccf500ed2e1427aef958dfd2d970186f3f9c815422ff31ac9f2d38c727653a 600000
def payee128 : MssmtNode :=
  nodeOf 0x582ce5071bf51302d2a51f880c65c377034fbd0b84334f84de0bc47807ac8e97 600000
def payee64 : MssmtNode :=
  nodeOf 0xd3a403802477cdcbded0bb44ea585d9551714d9637ef8fc8395a1afded6e39f7 600000
def payeeRoot : MssmtNode :=
  nodeOf 0x2b6845469b31a10a62cdee60da27b7220f2a5c5bd9d57c7c70d4db806954f551 600000

theorem singleRoot_payee : singleRoot ⟨regtestAsset, payeeKey, 600000⟩ =
    ⟨payeeRoot.hash, 600000⟩ := by
  have h192 : climbs payeeLeafKey 192 64 ((mssmtLeafOf payeeLeaf).node, MssmtLeaf.empty.node) =
      (payee192, empty192) := climbs_of_leaf (by decide +kernel)
  have h128 : climbs payeeLeafKey 128 64 (payee192, empty192) = (payee128, empty128) :=
    climbs_of_number (by decide +kernel)
  have h64 : climbs payeeLeafKey 64 64 (payee128, empty128) = (payee64, empty64) :=
    climbs_of_number (by decide +kernel)
  have h0 : climbs payeeLeafKey 0 64 (payee64, empty64) = (payeeRoot, empty0) :=
    climbs_of_number (by decide +kernel)
  exact @singleRoot_of_climbs payeeLeaf payeeLeafKey _ _ _ _ rfl h192 h128 h64 h0

theorem usable_payee : UsableOutput (regtestProof regtestAnchor) 600000 payeeKey 0 :=
  @usable_regtest payeeKey 600000 0
    "d7a6934f1f3bdb6a3dd053da72d29077f5c19c195475f0767bcc2535460dacf3:0" _ singleRoot_payee
    (by decide +kernel) (by decide) (by decide +kernel) (by decide +kernel) (by decide +kernel)

theorem change_other : proofId (regtestProof regtestAnchor) ≠
    proofId (outputProof (regtestProof regtestAnchor) 400000 regtestKey 1) := by
  decide +kernel

def changeLeaf : AssetLeaf := ⟨regtestAsset, regtestKey, 400000⟩

def changeLeafKey : Bytes32 := syntheticAssetLeafKey changeLeaf 0

def change192 : MssmtNode :=
  nodeOf 0x82053ee422b95200948093242cea895062dd81573456edddc40f1b0978af048d 400000
def change128 : MssmtNode :=
  nodeOf 0xc2d2b94b523f5bf0d5c252b61216ae6097a300d865ff51edbed4592b47bac907 400000
def change64 : MssmtNode :=
  nodeOf 0xf680ee64f54709c4165c3ad691c889821748a801534af2788aa03acf89850f56 400000
def changeRoot : MssmtNode :=
  nodeOf 0xd6f63b5249cdfd3f94c82fcb30c7b24bd2a31b2e8ab1ebba6da42e45a48a7152 400000

theorem singleRoot_change : singleRoot ⟨regtestAsset, regtestKey, 400000⟩ =
    ⟨changeRoot.hash, 400000⟩ := by
  have h192 : climbs changeLeafKey 192 64 ((mssmtLeafOf changeLeaf).node, MssmtLeaf.empty.node) =
      (change192, empty192) := climbs_of_leaf (by decide +kernel)
  have h128 : climbs changeLeafKey 128 64 (change192, empty192) = (change128, empty128) :=
    climbs_of_number (by decide +kernel)
  have h64 : climbs changeLeafKey 64 64 (change128, empty128) = (change64, empty64) :=
    climbs_of_number (by decide +kernel)
  have h0 : climbs changeLeafKey 0 64 (change64, empty64) = (changeRoot, empty0) :=
    climbs_of_number (by decide +kernel)
  exact @singleRoot_of_climbs changeLeaf changeLeafKey _ _ _ _ rfl h192 h128 h64 h0

theorem usable_change : UsableOutput (regtestProof regtestAnchor) 400000 regtestKey 1 :=
  @usable_regtest regtestKey 400000 1
    "10b1ec9b30784b311daa823dd016bfaf58706fca26a7d7b497b5c265219f33b5:1" _ singleRoot_change
    (by decide +kernel) (by decide) (by decide +kernel) (by decide +kernel) (by decide +kernel)

theorem regtestInput : Verified (regtestProof regtestAnchor) ∧ TextsFit (regtestProof regtestAnchor) :=
  ⟨regtestAnchor_importable.verified, regtestAnchor_importable.fit⟩

theorem change_importable :
    Importable (outputProof (regtestProof regtestAnchor) 400000 regtestKey 1) :=
  (importable_output_iff regtestInput.1 regtestInput.2 (by decide) (.inr rfl)).mpr
    ⟨regtestAnchor_importable.key, usable_change⟩

theorem importSendImport_fits : ∀ op ∈ importSendImport (regtestProof regtestAnchor) partialRequest,
    Fits op := by
  simp only [importSendImport, List.forall_mem_cons, List.not_mem_nil, false_implies, implies_true,
    and_true]
  exact ⟨regtestInput.2, trivial, regtestInput.2⟩

/-- In every wallet that a run of operations leads to, a transfer moves exactly what is requested
if and only if the id of the change is new and the receiver's proof can be imported. -/
theorem transfer_moves_exactly_iff (ops : List WalletOp) (hfit : ∀ op ∈ ops, Fits op)
    (request : LocalTransferRequest) (outcome : LocalTransferOutcome) (next : WalletState)
    (h : (walletMachine.run ops).sendLocalTransfer request = .ok (outcome, next)) :
    MovesExactly (walletMachine.run ops) request outcome next ↔
      Payable (walletMachine.run ops) request :=
  moves_exactly_iff (filed_run ops hfit) h

/-- Six tenths of a proof are sent, and the rest is paid back. -/
theorem transfer_moves_exactly_partial : ∃ (ops : List WalletOp) (outcome : LocalTransferOutcome)
    (next : WalletState),
      (walletMachine.run ops).sendLocalTransfer partialRequest = .ok (outcome, next) ∧
      next.proofs[proofId (outputProof (regtestProof regtestAnchor) 400000 regtestKey 1)]? ≠ none ∧
      MovesExactly (walletMachine.run ops) partialRequest outcome next := by
  obtain ⟨prepared, hp, hfirst⟩ := import_step regtestAnchor_importable
  obtain ⟨prepared', hp', -⟩ := import_step change_importable
  obtain ⟨root, hsplit⟩ := partial_split
  have hrun : walletMachine.run [.importVerifiedProof (regtestProof regtestAnchor)] =
      holding (regtestProof regtestAnchor) prepared :=
    (walletMachine_concat [] _).trans (congrArg Prod.snd hfirst)
  obtain ⟨outcome, hsend⟩ := @send_holding _ partialRequest _ _ regtestAnchor_importable
    change_importable rfl (by decide) (by decide) hsplit _ _ hp hp'
  rw [← hrun] at hsend
  obtain ⟨utxo, input, change, changeKey, ht⟩ := transferred_of_send hsend
  have hselected : (walletMachine.run [.importVerifiedProof (regtestProof regtestAnchor)]).selectInput
      partialRequest = some (proofId (regtestProof regtestAnchor),
        prepared.utxo (regtestProof regtestAnchor) .confirmed) := by
    rw [hrun]
    exact select_covering hp rfl (by simp [WalletState.default]) (by decide)
  have hdecode := decodeProof_of_import (w := .default) regtestAnchor_importable hp
  obtain ⟨hspent, rfl⟩ := Prod.mk.inj (Option.some.inj (ht.selected.symm.trans hselected))
  have hinput : input = regtestProof regtestAnchor := by
    have hproofId : (prepared.utxo (regtestProof regtestAnchor) .confirmed).proofId =
        proofId (regtestProof regtestAnchor) := hp.proofId
    have hdecoded := ht.decoded
    rw [hrun, hproofId] at hdecoded
    exact Except.ok.inj (hdecoded.symm.trans hdecode)
  subst hinput
  have hmoves := transfer_moves_exactly_iff [.importVerifiedProof (regtestProof regtestAnchor)]
    (by simpa [Fits] using regtestInput.2) _ outcome _ hsend
  refine ⟨_, outcome, _, hsend, ?_, hmoves.mpr ⟨fun o ho => ?_, .inl rfl, ?_⟩⟩
  · have hstored := (@get_insertProof .default _ _ _ hp' .confirmed).1
    exact fun hnone => Option.some_ne_none _ (hstored.symm.trans hnone)
  · -- without its only proof the wallet stores nothing
    have hremoved := @removeInput_insertProof .default (prepared.storedProof
      (regtestProof regtestAnchor)) (prepared.utxo (regtestProof regtestAnchor) .confirmed) _
        hp.proofId hp.proofId (by simp [WalletState.default]) (by simp [WalletState.default])
    rw [changeOffer_eq ht] at ho
    split at ho
    · cases ho
    · obtain rfl := Option.some.inj ho
      rw [hrun]
      change ((holding (regtestProof regtestAnchor) prepared).removeInput
        outcome.spentProofId).proofs[_]? = none
      rw [hspent, holding, hremoved]
      simp [WalletState.default]
  · intro inputId utxo' input hselect hdecode'
    obtain ⟨-, rfl⟩ := Prod.mk.inj (Option.some.inj (hselected.symm.trans hselect))
    obtain rfl := Except.ok.inj (ht.decoded.symm.trans hdecode')
    exact usable_payee

/-- A wallet of 1400000 units sends 600000 and is left with 400000. -/
theorem change_already_held : ∃ (ops : List WalletOp) (request : LocalTransferRequest)
    (outcome : LocalTransferOutcome) (next : WalletState), (∀ op ∈ ops, Fits op) ∧
      (walletMachine.run ops).sendLocalTransfer request = .ok (outcome, next) ∧
      request.assetId = regtestAsset ∧ request.amount = 600000 ∧
      HoldsOnly (walletMachine.run ops) regtestAsset 1400000 ∧ HoldsOnly next regtestAsset 400000 ∧
      ¬ MovesExactly (walletMachine.run ops) request outcome next := by
  obtain ⟨root, hsplit⟩ := partial_split
  obtain ⟨outcome, next, hsend, hbefore, hafter⟩ := @lost_run _ partialRequest _ _
    regtestAnchor_importable change_importable change_other rfl (by decide) (by decide) hsplit
    (by decide) (by decide)
  refine ⟨_, _, outcome, next, importSendImport_fits, hsend, rfl, rfl, hbefore, hafter, ?_⟩
  intro hmoves
  obtain ⟨before, hbalances, hreports⟩ := hbefore
  obtain ⟨after, hnext, hleft⟩ := hafter
  obtain ⟨after', hnext', hmoved⟩ := hmoves.balances before hbalances
  obtain rfl := Except.ok.inj (hnext.symm.trans hnext')
  have hasset := hmoved regtestAsset
  rw [hreports, hleft] at hasset
  exact absurd hasset (by decide)

end TapLdk.WalletTransfers
