import Mathlib
import TapLdk.WalletBalance
import TapLdk.WalletCourier

/-! What the spendable entries of a wallet add up to, asset by asset: how imports and removed
inputs change the totals, and that the balances of a sound wallet are its totals. -/
namespace TapLdk.WalletTotals
open TapLdk.LibraryExcept TapLdk.LibraryMaps TapLdk.LibraryBytes TapLdk.Mssmt TapLdk.Asset
open TapLdk.Proof TapLdk.DecodedProofs TapLdk.ProofHistory TapLdk.Wallet TapLdk.WalletImport
open TapLdk.WalletErrors TapLdk.WalletBalance TapLdk.WalletRuns TapLdk.WalletCourier

/-- The amount of an asset that an entry adds to the balance. -/
def share (w : WalletState) (asset : Bytes32) (utxo : SpendableAssetUtxo) : ℕ :=
  if utxo.status = .spendable then amountOf w asset utxo.proofId else 0

/-- What the spendable entries hold of an asset. -/
def spendable (w : WalletState) (asset : Bytes32) : ℕ :=
  (w.spendableUtxos.toList.map fun e => share w asset e.2).sum

/-- The amount of an asset that a proof stands for. -/
def amountIn (asset : Bytes32) (proof : ProofFile) : ℕ :=
  if proof.assetId = asset then proof.amount.toNat else 0

variable {w : WalletState}

theorem sum_filter_map {α β : Type} (p : β → Bool) (f : β → ℕ) (g : α → β) (l : List α) :
    (((l.map g).filter p).map f).sum = (l.map fun a => if p (g a) then f (g a) else 0).sum := by
  induction l with
  | nil => rfl
  | cons a l ih =>
    rw [List.map_cons, List.filter_cons, List.map_cons, List.sum_cons, ← ih]
    by_cases h : p (g a) = true
    · rw [if_pos h, if_pos h, List.map_cons, List.sum_cons]
    · rw [if_neg h, if_neg h, Nat.zero_add]

/-- The totals are what the counted entries add up to. -/
theorem spendable_eq_counted (w : WalletState) (asset : Bytes32) :
    spendable w asset = ((w.counted.map (·.proofId)).map (amountOf w asset)).sum := by
  rw [WalletState.counted, List.map_map, sum_filter_map, spendable]
  simp only [share, decide_eq_true_eq, Function.comp_apply]

/-- Balances report the totals. -/
theorem reported_eq_spendable {balances : List AssetBalance} (h : w.balances = .ok balances)
    (asset : Bytes32) : reported balances asset = spendable w asset := by
  rw [reported_eq_sum h, spendable_eq_counted]

theorem reported_lt (balances : List AssetBalance) (asset : Bytes32) :
    reported balances asset < 2 ^ 64 := by
  unfold reported
  cases balances.find? fun b => b.assetId = toHex asset with
  | none => exact Nat.two_pow_pos 64
  | some b => exact b.spendable.toNat_lt

/-- A sound wallet reports balances if each total fits. -/
theorem balances_ok (hw : Sound w) (hfits : ∀ asset, spendable w asset < 2 ^ 64) :
    ∃ balances, w.balances = .ok balances := by
  have hfold := foldlM_cases w.addBalance w.counted ∅
    (fun done totals => ∀ asset, ((totals[toHex asset]?).getD 0).toNat =
      ((done.map (·.proofId)).map (amountOf w asset)).sum) (fun _ => False) (by simp) ?_
  · obtain ⟨totals, hok, -⟩ | ⟨_, -, hfalse⟩ := hfold
    · exact ⟨_, by rw [WalletState.balances, hok]; rfl⟩
    · exact hfalse.elim
  intro done utxo rest totals hall hdone
  have hmem : utxo ∈ w.counted := by simp [hall]
  obtain ⟨hstatus, key, hget⟩ := mem_counted.mp hmem
  obtain ⟨proof, file, prepared, hid, hholds⟩ := sound_holds hw hget hstatus
  obtain ⟨entry, hentry, hcounts⟩ := hholds.utxo
  have haccepted := accepted_of_entry hholds.importable hholds.entry hholds.stored hentry hcounts
  rw [← hid] at haccepted
  generalize importExplanation prepared.proofHistory proof (anchorPolicyForUtxo entry) = e
    at haccepted
  obtain ⟨stored, decodedProof, hstored, hdecoded, hasset, hamount⟩ := accepted_decoded haccepted
  -- what is collected so far and the entry are part of the total
  have htotal := hfits e.assetId
  rw [spendable_eq_counted, hall] at htotal
  simp only [List.map_append, List.map_cons, List.sum_append, List.sum_cons] at htotal
  have hshare : amountOf w e.assetId utxo.proofId = e.amount.toNat := by
    rw [amountOf, hstored, Option.elim_some, decodedAmount, hdecoded, hasset, hamount]
    exact if_pos rfl
  have hnext : (UInt64.ofNat (((totals[toHex e.assetId]?).getD 0).toNat + e.amount.toNat)).toNat =
      ((totals[toHex e.assetId]?).getD 0).toNat + e.amount.toNat := by
    have hdone' := hdone e.assetId
    exact UInt64.toNat_ofNat_of_lt' (show _ < 2 ^ 64 by omega)
  have hadd : w.addBalance totals utxo = .ok (totals.insert (toHex e.assetId)
      (UInt64.ofNat (((totals[toHex e.assetId]?).getD 0).toNat + e.amount.toNat))) := by
    simp only [WalletState.addBalance, haccepted, ok_bind, addAmount_eq_ok.mpr hnext]
    rfl
  refine .inl ⟨_, hadd, fun asset => ?_⟩
  rw [addBalance_total hadd, hdone]
  simp

/-- The wallet has this amount of one asset, and nothing of any other. -/
def HoldsOnly (w : WalletState) (asset : Bytes32) (amount : ℕ) : Prop :=
  ∃ balances, w.balances = .ok balances ∧
    ∀ other, reported balances other = if other = asset then amount else 0

theorem holdsOnly_of_sound (hw : Sound w) {asset : Bytes32} {amount : ℕ} (hfits : amount < 2 ^ 64)
    (h : ∀ other, spendable w other = if other = asset then amount else 0) :
    HoldsOnly w asset amount := by
  obtain ⟨balances, hbalances⟩ := balances_ok hw fun other => by
    rw [h]
    split
    · exact hfits
    · exact Nat.two_pow_pos 64
  exact ⟨balances, hbalances, fun other => (reported_eq_spendable hbalances other).trans (h other)⟩

theorem spendable_removeInput {inputId : String} {utxo : SpendableAssetUtxo}
    (hget : w.spendableUtxos[inputId]? = some utxo)
    (hother : ∀ (key : String) (u : SpendableAssetUtxo), w.spendableUtxos[key]? = some u →
      key ≠ inputId → u.proofId ≠ inputId) (asset : Bytes32) :
    spendable w asset = share w asset utxo + spendable (w.removeInput inputId) asset := by
  rw [spendable, ((toList_erase_perm hget).map _).sum_eq, List.map_cons, List.sum_cons, spendable]
  refine congrArg (share w asset utxo + List.sum ·) (List.map_congr_left fun e he => ?_)
  obtain ⟨hne, hu⟩ := get_erase_eq_some (mem_toList_iff.mp he)
  have hsame : (w.removeInput inputId).proofs[e.2.proofId]? = w.proofs[e.2.proofId]? :=
    get_erase_ne (hother e.1 e.2 hu hne)
  rw [share, share, amountOf, amountOf, hsame]

section

variable {proof : ProofFile} {file : Option Bytes} {prepared : PreparedImport}

theorem amountOf_import (h : Importable proof) (hp : Prepared proof file prepared)
    (anchorState : ProofAnchorState) (asset : Bytes32) :
    amountOf (w.insertProof (prepared.storedProof proof) (prepared.utxo proof anchorState)) asset
      (proofId proof) = amountIn asset proof := by
  obtain ⟨encoded, hencoded, hhex⟩ := hp.proofHex
  have htlv : (prepared.storedProof proof).proofTlvHex = encodeHex encoded := hhex
  have hdecoded : decoded (prepared.storedProof proof) = .ok proof := by
    rw [decoded, htlv, WalletImport.decodeHex_encodeHex, ok_bind, decode_encode h.key h.fit hencoded]
    rfl
  rw [amountOf, (get_insertProof hp anchorState).1, Option.elim_some, decodedAmount, hdecoded]
  rfl

/-- A new confirmed entry adds the amount of its proof. -/
theorem spendable_insertProof (h : Importable proof) (hp : Prepared proof file prepared)
    (hnew : w.spendableUtxos[proofId proof]? = none)
    (hother : ∀ (key : String) (u : SpendableAssetUtxo), w.spendableUtxos[key]? = some u →
      u.proofId ≠ proofId proof) (asset : Bytes32) :
    spendable (w.insertProof (prepared.storedProof proof) (prepared.utxo proof .confirmed)) asset =
      amountIn asset proof + spendable w asset := by
  have hutxoId : (prepared.utxo proof .confirmed).utxoId = proofId proof := hp.proofId
  have hproofId : (prepared.utxo proof .confirmed).proofId = proofId proof := hp.proofId
  have hperm : (w.insertProof (prepared.storedProof proof)
      (prepared.utxo proof .confirmed)).spendableUtxos.toList.Perm
        ((proofId proof, prepared.utxo proof .confirmed) :: w.spendableUtxos.toList) := by
    rw [WalletState.insertProof, hutxoId]
    exact toList_insert_perm hnew
  have hfirst : share (w.insertProof (prepared.storedProof proof)
      (prepared.utxo proof .confirmed)) asset (prepared.utxo proof .confirmed) =
        amountIn asset proof := by
    rw [share, hproofId, amountOf_import h hp]
    exact if_pos rfl
  rw [spendable, (hperm.map _).sum_eq, List.map_cons, List.sum_cons, hfirst, spendable]
  refine congrArg (amountIn asset proof + List.sum ·) (List.map_congr_left fun e he => ?_)
  have hne := hother e.1 e.2 (mem_toList_iff.mp he)
  rw [share, share, amountOf, amountOf, (get_insertProof_ne hp .confirmed hne).1]

/-- An importable proof that is new to a sound wallet is imported and adds its amount. -/
theorem import_adds (hw : Sound w) (h : Importable proof)
    (hnew : w.proofs[proofId proof]? = none) : ∃ next,
      w.importVerifiedProof proof = (.ok (.imported (proofId proof)), next) ∧ Sound next ∧
      (∀ asset, spendable next asset = amountIn asset proof + spendable w asset) ∧
      ∀ id, id ≠ proofId proof → next.proofs[id]? = w.proofs[id]? := by
  obtain ⟨prepared, hp, himport, hvalid⟩ := importVerifiedProof_new hw.valid h hnew .confirmed
  have hbacked : ∀ (key : String) (u : SpendableAssetUtxo), w.spendableUtxos[key]? = some u →
      u.proofId ≠ proofId proof := by
    intro key u hu heq
    obtain ⟨_, _, hstored, -⟩ := hw.valid.utxos key u hu
    rw [heq, hnew] at hstored
    cases hstored
  have hfresh : w.spendableUtxos[proofId proof]? = none := by
    by_contra hsome
    obtain ⟨u, hu⟩ := Option.ne_none_iff_exists'.mp hsome
    exact hbacked _ u hu (hw.keyed _ u hu)
  exact ⟨_, himport, sound_importedOk hw h.fit (.inserted hp hnew) hvalid,
    spendable_insertProof h hp hfresh hbacked,
    fun id hne => (get_insertProof_ne hp .confirmed hne).1⟩

end

/-- Imports encoded proofs one after another, each of them new to the wallet. -/
def importAll : WalletState → List Bytes → Option WalletState
  | w, [] => some w
  | w, tlv :: tlvs =>
    match w.importEncodedProof tlv with
    | (.ok (.imported _), next) => importAll next tlvs
    | _ => none

/-- The empty wallet imports the encoded proofs and then has this amount of one asset. -/
def Pays (tlvs : List Bytes) (asset : Bytes32) (amount : ℕ) : Prop :=
  ∃ w, importAll .default tlvs = some w ∧ HoldsOnly w asset amount

theorem importEncodedProof_eq {tlv : Bytes} {proof : ProofFile}
    (h : ProofFile.decode tlv = .ok proof) :
    w.importEncodedProof tlv = w.importVerifiedProof proof := by
  rw [WalletState.importEncodedProof, h]
  rfl

/-- Importable proofs with different ids are imported one after another, and each adds its
amount. -/
theorem importAll_adds {tlvs : List Bytes} {proofs : List ProofFile} (hw : Sound w)
    (hdecode : List.Forall₂ (fun tlv proof => ProofFile.decode tlv = .ok proof) tlvs proofs)
    (himportable : ∀ proof ∈ proofs, Importable proof) (hnodup : (proofs.map proofId).Nodup)
    (hnew : ∀ proof ∈ proofs, w.proofs[proofId proof]? = none) :
    ∃ next, importAll w tlvs = some next ∧ Sound next ∧
      ∀ asset, spendable next asset = (proofs.map (amountIn asset)).sum + spendable w asset := by
  induction hdecode generalizing w with
  | nil => exact ⟨w, rfl, hw, fun asset => by simp⟩
  | @cons tlv proof tlvs proofs htlv _ ih =>
    rw [List.forall_mem_cons] at himportable hnew
    rw [List.map_cons, List.nodup_cons] at hnodup
    obtain ⟨next, himport, hnext, hadds, hother⟩ := import_adds hw himportable.1 hnew.1
    obtain ⟨last, hall, hlast, htotal⟩ := ih hnext himportable.2 hnodup.2 fun p hp => by
      have hne : proofId p ≠ proofId proof := fun heq => hnodup.1 (heq ▸ List.mem_map_of_mem hp)
      rw [hother _ hne]
      exact hnew.2 p hp
    refine ⟨last, ?_, hlast, fun asset => ?_⟩
    · rw [importAll, importEncodedProof_eq htlv, himport]
      exact hall
    · rw [htotal, hadds, List.map_cons, List.sum_cons]
      omega

/-- Importable proofs of one asset with different ids pay an empty wallet their sum. -/
theorem pays_of_importable {tlvs : List Bytes} {proofs : List ProofFile} {asset : Bytes32}
    (hdecode : List.Forall₂ (fun tlv proof => ProofFile.decode tlv = .ok proof) tlvs proofs)
    (himportable : ∀ proof ∈ proofs, Importable proof) (hnodup : (proofs.map proofId).Nodup)
    (hasset : ∀ proof ∈ proofs, proof.assetId = asset)
    (hfits : (proofs.map (·.amount.toNat)).sum < 2 ^ 64) :
    Pays tlvs asset (proofs.map (·.amount.toNat)).sum := by
  obtain ⟨w, himport, hw, htotal⟩ := importAll_adds sound_default hdecode himportable hnodup
    fun proof _ => by simp [WalletState.default]
  refine ⟨w, himport, holdsOnly_of_sound hw hfits fun other => ?_⟩
  have hempty : spendable .default other = 0 := by simp [spendable, WalletState.default]
  rw [htotal, hempty, Nat.add_zero]
  split
  case isTrue heq =>
    refine congrArg List.sum (List.map_congr_left fun proof hproof => ?_)
    exact if_pos ((hasset proof hproof).trans heq.symm)
  case isFalse hne =>
    refine List.sum_eq_zero fun amount hamount => ?_
    obtain ⟨proof, hproof, rfl⟩ := List.mem_map.mp hamount
    exact if_neg fun heq => hne (heq.symm.trans (hasset proof hproof))

theorem pays_one {tlv : Bytes} {proof : ProofFile} (hdecode : ProofFile.decode tlv = .ok proof)
    (himportable : Importable proof) : Pays [tlv] proof.assetId proof.amount.toNat := by
  have hpays := @pays_of_importable [tlv] [proof] proof.assetId (.cons hdecode .nil)
    (by simp [himportable]) (by simp) (by simp) (by simpa using proof.amount.toNat_lt)
  simpa using hpays

/-- Two proofs of one asset with different ids pay one wallet their sum. -/
theorem pays_two {tlv tlv' : Bytes} {proof proof' : ProofFile}
    (hdecode : ProofFile.decode tlv = .ok proof) (hdecode' : ProofFile.decode tlv' = .ok proof')
    (himportable : Importable proof) (himportable' : Importable proof')
    (hid : proofId proof ≠ proofId proof') (hasset : proof'.assetId = proof.assetId)
    {total : UInt64} (htotal : proof.amount.toNat + proof'.amount.toNat = total.toNat) :
    Pays [tlv, tlv'] proof.assetId total.toNat := by
  have hamounts : ([proof, proof'].map (·.amount.toNat)).sum = total.toNat := by simpa using htotal
  have hlt := total.toNat_lt
  rw [← hamounts] at hlt ⊢
  exact pays_of_importable (.cons hdecode (.cons hdecode' .nil))
    (by simp [himportable, himportable']) (by simpa using hid) (by simp [hasset]) hlt

/-- Only importable proofs are imported from their encoding. -/
theorem importable_of_import {tlv : Bytes} {outcome : ImportOutcome} {next : WalletState}
    (h : w.importEncodedProof tlv = (.ok outcome, next)) :
    ∃ proof, ProofFile.decode tlv = .ok proof ∧ Importable proof := by
  unfold WalletState.importEncodedProof at h
  cases hdecode : ProofFile.decode tlv with
  | error e =>
    rw [hdecode] at h
    cases congrArg Prod.fst h
  | ok proof =>
    obtain ⟨hkey, hfit⟩ := decode_spec hdecode
    rw [hdecode] at h
    change w.importVerifiedProofWithTapd proof none none .confirmed = _ at h
    unfold WalletState.importVerifiedProofWithTapd at h
    cases hprepare : prepareImport proof none none with
    | error e =>
      rw [hprepare] at h
      cases congrArg Prod.fst h
    | ok prepared =>
      exact ⟨proof, rfl, importable_of_prepared (prepareImport_spec hprepare) hkey hfit⟩

theorem importable_of_pays {tlv : Bytes} {asset : Bytes32} {amount : ℕ}
    (h : Pays [tlv] asset amount) : ∃ proof, ProofFile.decode tlv = .ok proof ∧ Importable proof := by
  obtain ⟨w, himport, -⟩ := h
  unfold importAll at himport
  split at himport
  case h_1 hok => exact importable_of_import hok
  case h_2 => cases himport

end TapLdk.WalletTotals
