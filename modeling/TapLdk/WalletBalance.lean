import Mathlib
import TapLdk.WalletOutpoint

/-! Reported balances against the stored proofs: the totals add up the decoded amounts of
the proofs behind the spendable entries, once for each entry. -/
namespace TapLdk.WalletBalance
open TapLdk.LibraryExcept TapLdk.LibraryMaps TapLdk.LibraryBytes TapLdk.Mssmt
open TapLdk.Asset TapLdk.Proof TapLdk.ProofHistory TapLdk.Wallet TapLdk.WalletImport
open TapLdk.WalletSteps TapLdk.WalletSpend TapLdk.WalletOutpoint

/-- The proof that a stored entry encodes. -/
def decoded (stored : StoredProof) : Except WalletError ProofFile := do
  let encoded ← Wallet.decodeHex stored.proofTlvHex
  (ProofFile.decode encoded).mapError .proof

/-- The amount of an asset that a stored proof stands for. -/
def decodedAmount (asset : Bytes32) (stored : StoredProof) : ℕ :=
  match decoded stored with
  | .ok proof => if proof.assetId = asset then proof.amount.toNat else 0
  | .error _ => 0

/-- The amount a balance reports for an asset. -/
def reported (balances : List AssetBalance) (asset : Bytes32) : ℕ :=
  (balances.find? fun b => b.assetId = toHex asset).elim 0 fun b => b.spendable.toNat

/-- The stored proofs that some UTXO entry with a confirmed anchor refers to. -/
def confirmedProofs (w : WalletState) : List (String × StoredProof) :=
  w.proofs.toList.filter fun e =>
    w.spendableUtxos.toList.any fun u => u.2.proofId = e.1 ∧ u.2.anchorState = .confirmed

/-- What the proofs of an asset add up to, each stored proof counted once. -/
def backed (w : WalletState) (asset : Bytes32) : ℕ :=
  ((confirmedProofs w).map fun e => decodedAmount asset e.2).sum

/-- No two spendable entries refer to one stored proof. -/
def CountedOnce (w : WalletState) : Prop :=
  ∀ (key key' : String) (utxo utxo' : SpendableAssetUtxo), w.spendableUtxos[key]? = some utxo →
    w.spendableUtxos[key']? = some utxo' → utxo.status = .spendable → utxo'.status = .spendable →
    utxo.proofId = utxo'.proofId → key = key'

/-- A replay explains an imported proof by the proof itself. -/
theorem replay_import_eq_ok {metadata : WalletProofHistory} {proof : ProofFile}
    {policy : ProofAnchorPolicy} {e : AcceptedBalanceExplanation}
    (h : replayWalletProofHistoryWithAnchorPolicy metadata proof policy = .ok e) :
    e.assetId = proof.assetId ∧ e.amount = proof.amount := by
  simp only [replayWalletProofHistoryWithAnchorPolicy, replayWithAnchorPolicy, replayState,
    List.foldlM_cons, List.foldlM_nil, bind_eq_ok, mapError_eq_ok, pure_eq_ok, Except.ok.injEq,
    okOr_eq_ok, ProofHistoryReplay.acceptedExplanation] at h
  obtain ⟨_, ⟨s, ⟨s', hrecord, rfl⟩, rfl⟩, hget⟩ := h
  have hkeyed : WellKeyed .empty := by
    intro id e he
    simp [ReplayState.empty] at he
  obtain ⟨priors, hstep⟩ := replayRecord_step hkeyed hrecord
  have hnew := (hstep.get_new (List.mem_cons_self ..)).2.1
  rw [hget, Option.some.injEq] at hnew
  rw [hnew]
  exact ⟨rfl, rfl⟩

/-- An explained balance is that of the proof stored under the id. -/
theorem accepted_decoded {w : WalletState} {id : String} {e : AcceptedBalanceExplanation}
    (h : w.acceptedWalletBalanceExplanation id = .ok e) :
    ∃ stored proof, w.proofs[id]? = some stored ∧ decoded stored = .ok proof ∧
      e.assetId = proof.assetId ∧ e.amount = proof.amount := by
  simp only [WalletState.acceptedWalletBalanceExplanation, bind_eq_ok, okOr_eq_ok, pure_eq_ok,
    Except.ok.injEq] at h
  obtain ⟨stored, hstored, utxo, -, -, -, encoded, hencoded, proof, hproof, e', hexplained, -, -,
    rfl⟩ := h
  simp only [validateStoredProofHistoryWithAnchorPolicy, bind_eq_ok] at hexplained
  obtain ⟨metadata, -, -, -, hreplay⟩ := hexplained
  refine ⟨stored, proof, hstored, ?_, replay_import_eq_ok hreplay⟩
  rw [decoded, hencoded]
  exact hproof

/-- The amount of an asset behind a proof id. -/
def amountOf (w : WalletState) (asset : Bytes32) (id : String) : ℕ :=
  (w.proofs[id]?).elim 0 (decodedAmount asset)

theorem addBalance_total {w : WalletState} {totals totals' : BTreeMap String AssetAmount}
    {utxo : SpendableAssetUtxo} (h : w.addBalance totals utxo = .ok totals') (asset : Bytes32) :
    ((totals'[toHex asset]?).getD 0).toNat =
      ((totals[toHex asset]?).getD 0).toNat + amountOf w asset utxo.proofId := by
  simp only [WalletState.addBalance, bind_eq_ok, mapError_eq_ok, pure_eq_ok, Except.ok.injEq] at h
  obtain ⟨e, haccepted, total, hadd, rfl⟩ := h
  obtain ⟨stored, proof, hstored, hproof, hasset, hamount⟩ := accepted_decoded haccepted
  have hof : amountOf w asset utxo.proofId =
      if e.assetId = asset then e.amount.toNat else 0 := by
    rw [amountOf, hstored, Option.elim_some, decodedAmount, hproof, hasset, hamount]
  rw [hof]
  by_cases heq : e.assetId = asset
  · subst heq
    rw [get_insert_self, Option.getD_some, if_pos rfl]
    exact addAmount_eq_ok.mp hadd
  · have hne : toHex asset ≠ toHex e.assetId := fun hhex => heq (toHex_injective hhex).symm
    rw [get_insert_ne hne, if_neg heq, Nat.add_zero]

/-- A reported amount is the total collected under the asset's name. -/
theorem reported_totals (totals : BTreeMap String AssetAmount) (asset : Bytes32) :
    reported (totals.toList.map fun e => ⟨e.1, e.2⟩) asset =
      ((totals[toHex asset]?).getD 0).toNat := by
  rw [reported]
  cases hfind : (totals.toList.map fun e => (⟨e.1, e.2⟩ : AssetBalance)).find?
      fun b => b.assetId = toHex asset with
  | none =>
    cases hget : totals[toHex asset]? with
    | none => rfl
    | some total =>
      have hmem : (⟨toHex asset, total⟩ : AssetBalance) ∈
          totals.toList.map fun e => (⟨e.1, e.2⟩ : AssetBalance) :=
        List.mem_map.mpr ⟨(toHex asset, total), mem_toList_iff.mpr hget, rfl⟩
      have hnone := List.find?_eq_none.mp hfind _ hmem
      simp at hnone
  | some balance =>
    have hkey := List.find?_some hfind
    obtain ⟨e, he, rfl⟩ := List.mem_map.mp (List.mem_of_find?_eq_some hfind)
    simp only [decide_eq_true_eq] at hkey
    have hget := mem_toList_iff.mp he
    rw [hkey] at hget
    rw [hget]
    rfl

/-- A balance reports, for each asset, the amounts behind all counted entries. -/
theorem reported_eq_sum {w : WalletState} {balances : List AssetBalance}
    (h : w.balances = .ok balances) (asset : Bytes32) :
    reported balances asset = ((w.counted.map (·.proofId)).map (amountOf w asset)).sum := by
  simp only [WalletState.balances, bind_eq_ok, pure_eq_ok, Except.ok.injEq] at h
  obtain ⟨totals, hfold, rfl⟩ := h
  rw [reported_totals]
  refine foldlM_induction (fun (done : List SpendableAssetUtxo) totals =>
    ((totals[toHex asset]?).getD 0).toNat = ((done.map (·.proofId)).map (amountOf w asset)).sum)
    (by simp) ?_ hfold
  intro done utxo totals totals' ih hstep
  rw [addBalance_total hstep, ih]
  simp

theorem mem_counted {w : WalletState} {utxo : SpendableAssetUtxo} :
    utxo ∈ w.counted ↔ utxo.status = .spendable ∧ ∃ key : String, w.spendableUtxos[key]? = some utxo := by
  rw [WalletState.counted, List.mem_filter, decide_eq_true_iff, and_comm, List.mem_map]
  refine and_congr_right fun _ => ⟨?_, ?_⟩
  · rintro ⟨⟨key, u⟩, hmem, rfl⟩
    exact ⟨key, mem_toList_iff.mp hmem⟩
  · rintro ⟨key, hget⟩
    exact ⟨(key, utxo), mem_toList_iff.mpr hget, rfl⟩

theorem counted_nodup_iff (w : WalletState) :
    (w.counted.map (·.proofId)).Nodup ↔ CountedOnce w := by
  have hentries : w.counted.map (·.proofId) =
      (w.spendableUtxos.toList.filter fun e => e.2.status = .spendable).map (·.2.proofId) := by
    rw [WalletState.counted, List.filter_map, List.map_map]
    rfl
  rw [hentries, List.nodup_map_iff_inj_on ((toList_nodup _).filter _)]
  simp only [List.mem_filter, decide_eq_true_iff, Prod.forall, mem_toList_iff]
  constructor
  · intro h key key' utxo utxo' hget hget' hs hs' hid
    exact congrArg Prod.fst (h key utxo ⟨hget, hs⟩ key' utxo' ⟨hget', hs'⟩ hid)
  · rintro h key utxo ⟨hget, hs⟩ key' utxo' ⟨hget', hs'⟩ hid
    obtain rfl := h key key' utxo utxo' hget hget' hs hs' hid
    rw [hget, Option.some.injEq] at hget'
    rw [hget']

/-- In a valid wallet the confirmed proofs are those behind the counted entries. -/
theorem backed_eq_sum {w : WalletState} (hvalid : WalletValid w) (asset : Bytes32) :
    backed w asset = ∑ id ∈ (w.counted.map (·.proofId)).toFinset, amountOf w asset id := by
  have hkeys : ((confirmedProofs w).map (·.1)).Nodup :=
    (keys_nodup w.proofs).sublist (List.filter_sublist.map _)
  have hamounts : (confirmedProofs w).map (fun e => decodedAmount asset e.2) =
      ((confirmedProofs w).map (·.1)).map (amountOf w asset) := by
    rw [List.map_map]
    refine List.map_congr_left fun e he => ?_
    have hget := mem_toList_iff.mp (List.mem_filter.mp he).1
    rw [Function.comp_apply, amountOf, hget, Option.elim_some]
  have hsame : ((confirmedProofs w).map (·.1)).toFinset =
      (w.counted.map (·.proofId)).toFinset := by
    ext id
    simp only [List.mem_toFinset, List.mem_map, confirmedProofs, List.mem_filter,
      List.any_eq_true, decide_eq_true_eq, mem_counted]
    constructor
    · rintro ⟨⟨key, stored⟩, ⟨hstored, ⟨k, utxo⟩, hutxo, rfl, hstate⟩, rfl⟩
      have hget := mem_toList_iff.mp hutxo
      obtain ⟨_, _, -, -, hu⟩ := hvalid.utxos k utxo hget
      exact ⟨utxo, ⟨by rw [hu.status]; exact fromAnchorState_spendable.mpr hstate, k, hget⟩, rfl⟩
    · rintro ⟨utxo, ⟨hstatus, k, hget⟩, rfl⟩
      obtain ⟨_, stored, hstored, -, hu⟩ := hvalid.utxos k utxo hget
      rw [hu.status] at hstatus
      exact ⟨(utxo.proofId, stored), ⟨mem_toList_iff.mpr hstored, (k, utxo),
        mem_toList_iff.mpr hget, rfl, fromAnchorState_spendable.mp hstatus⟩, rfl⟩
  rw [backed, hamounts, ← hsame, List.sum_toFinset _ hkeys]

/-- Every counted entry of a valid wallet stands for a positive amount of some asset. -/
theorem counted_positive {w : WalletState} (hvalid : WalletValid w) :
    ∀ id ∈ w.counted.map (·.proofId), ∃ asset, 0 < amountOf w asset id := by
  intro id hid
  obtain ⟨utxo, hutxo, rfl⟩ := List.mem_map.mp hid
  obtain ⟨-, key, hget⟩ := mem_counted.mp hutxo
  obtain ⟨proof, stored, hstored, hproof, -⟩ := hvalid.utxos key utxo hget
  simp only [validateStoredProof, bind_eq_ok, mapError_eq_ok] at hproof
  obtain ⟨-, -, encoded, hencoded, proof', hdecode, summary, -, report, hverify, -⟩ := hproof
  have hverified : Verified proof' := by
    refine verified_of_verify ?_ hverify
    cases summary <;> rfl
  have hdecoded : decoded stored = .ok proof' := by
    rw [decoded, hencoded, ok_bind, hdecode]
    rfl
  refine ⟨proof'.assetId, ?_⟩
  rw [amountOf, hstored, Option.elim_some, decodedAmount, hdecoded]
  simp only [if_true]
  exact Nat.pos_of_ne_zero fun hzero => hverified.amount (UInt64.toNat_inj.mp hzero)

theorem backed_iff {w : WalletState} (hvalid : WalletValid w) {balances : List AssetBalance}
    (h : w.balances = .ok balances) :
    (∀ asset, reported balances asset = backed w asset) ↔ CountedOnce w := by
  rw [← counted_nodup_iff, ← sum_eq_distinct_iff (counted_positive hvalid)]
  refine forall_congr' fun asset => ?_
  rw [reported_eq_sum h, backed_eq_sum hvalid]

/-- The balances of a valid wallet are what its confirmed proofs add up to, asset by asset,
exactly when no two spendable entries refer to one proof. -/
theorem balances_backed_iff_counted_once (w : WalletState) (balances : List AssetBalance)
    (hvalid : w.validate = .ok ()) (h : w.balances = .ok balances) :
    (∀ asset, reported balances asset = backed w asset) ↔ CountedOnce w :=
  backed_iff (validate_eq_ok.mp hvalid) h

/-- Two counted entries of one asset are reported with their sum. -/
theorem balances_two {w : WalletState} {first second : SpendableAssetUtxo}
    {e e' : AcceptedBalanceExplanation} {total : UInt64} (hcounted : w.counted = [first, second])
    (h : w.acceptedWalletBalanceExplanation first.proofId = .ok e)
    (h' : w.acceptedWalletBalanceExplanation second.proofId = .ok e')
    (hasset : e'.assetId = e.assetId) (htotal : checkedAdd e.amount e'.amount = some total) :
    w.balances = .ok [⟨toHex e.assetId, total⟩] := by
  have hagain (totals : BTreeMap String AssetAmount) (key : String) (a b : AssetAmount) :
      (totals.insert key a).insert key b = totals.insert key b := by
    refine ext_get fun k value => ?_
    by_cases hkey : k = key
    · rw [hkey, get_insert_self, get_insert_self]
    · rw [get_insert_ne hkey, get_insert_ne hkey, get_insert_ne hkey]
  simp [WalletState.balances, hcounted, WalletState.addBalance, h, h', hasset, addAmount,
    zero_checkedAdd, htotal, okOr, Except.mapError, hagain]

section

variable {proof : ProofFile} {prepared : PreparedImport}

def copyUtxo (proof : ProofFile) (prepared : PreparedImport) : SpendableAssetUtxo :=
  { prepared.utxo proof .confirmed with utxoId := "copy" }

/-- The wallet of one imported proof, with a second entry for it. -/
def copied (proof : ProofFile) (prepared : PreparedImport) : WalletState :=
  { WalletState.default with
    spendableUtxos := (∅ : BTreeMap String SpendableAssetUtxo).insert "copy"
      (copyUtxo proof prepared) }.insertProof (prepared.storedProof proof)
        (prepared.utxo proof .confirmed)

theorem copied_valid (h : Importable proof) (hp : Prepared proof none prepared) :
    WalletValid (copied proof prepared) := by
  have hutxo := utxoValid_import h hp .confirmed
  have hid : (prepared.storedProof proof).proofId = proofId proof := hp.proofId
  have hproofId : (prepared.utxo proof .confirmed).proofId = proofId proof := hp.proofId
  have hstored : (copied proof prepared).proofs[proofId proof]? =
      some (prepared.storedProof proof) := by
    rw [copied, WalletState.insertProof, hid]
    exact get_insert_self _ _ _
  obtain ⟨report, hverify⟩ := verify_of_verified h.verified
  have hvalid := validateStoredProof_import h .native hverify hp
  refine ⟨rfl, fun key stored hget => ?_, fun key utxo hget => ?_⟩
  · rcases get_insert_eq_some hget with ⟨rfl, rfl⟩ | ⟨-, hget⟩
    · exact ⟨proof, hid ▸ hvalid⟩
    · simp [WalletState.default] at hget
  · rcases get_insert_eq_some hget with ⟨rfl, rfl⟩ | ⟨-, hget⟩
    · exact ⟨proof, _, hproofId ▸ hstored, hproofId ▸ hvalid, { hutxo with key := rfl }⟩
    · rcases get_insert_eq_some hget with ⟨rfl, rfl⟩ | ⟨-, hget⟩
      · exact ⟨proof, _, hproofId ▸ hstored, hproofId ▸ hvalid, { hutxo with key := rfl }⟩
      · simp at hget

variable (hp : Prepared proof none prepared) (hne : proofId proof ≠ "copy")
include hp hne

/-- Both entries count, and each brings in the explanation of the one proof. -/
theorem copied_counted : ∃ first second, (copied proof prepared).counted = [first, second] ∧
    first.proofId = proofId proof ∧ second.proofId = proofId proof := by
  have hutxoId : (prepared.utxo proof .confirmed).utxoId = proofId proof := hp.proofId
  have hfresh : ((∅ : BTreeMap String SpendableAssetUtxo).insert "copy"
      (copyUtxo proof prepared))[proofId proof]? = none := by
    rw [get_insert_ne hne]
    simp
  have hperm := toList_insert_perm (v := prepared.utxo proof .confirmed) hfresh
  rw [toList_singleton] at hperm
  have hcounted : (copied proof prepared).counted.Perm
      [prepared.utxo proof .confirmed, copyUtxo proof prepared] := by
    rw [WalletState.counted, copied, WalletState.insertProof, hutxoId]
    exact (hperm.map (·.2)).filter _
  have hproofs : ∀ utxo ∈ (copied proof prepared).counted, utxo.proofId = proofId proof := by
    intro utxo hutxo
    rcases List.mem_pair.mp (hcounted.mem_iff.mp hutxo) with rfl | rfl
    · exact hp.proofId
    · exact hp.proofId
  obtain ⟨first, second, heq⟩ := List.length_eq_two.mp hcounted.length_eq
  exact ⟨first, second, heq, hproofs _ (by simp [heq]), hproofs _ (by simp [heq])⟩

theorem copied_balances (h : Importable proof) {twice : UInt64}
    (htwice : checkedAdd proof.amount proof.amount = some twice) :
    (copied proof prepared).balances = .ok [⟨toHex proof.assetId, twice⟩] := by
  obtain ⟨first, second, hcounted, hfirst, hsecond⟩ := copied_counted hp hne
  have haccepted : (copied proof prepared).acceptedWalletBalanceExplanation (proofId proof) = _ :=
    accepted_of_import h hp
  exact balances_two hcounted (hfirst ▸ haccepted) (hsecond ▸ haccepted) rfl htwice

theorem copied_counted_twice : ¬ CountedOnce (copied proof prepared) := by
  obtain ⟨first, second, hcounted, hfirst, hsecond⟩ := copied_counted hp hne
  rw [← counted_nodup_iff, hcounted, List.map_cons, List.map_cons, hfirst, hsecond]
  simp

end

theorem regtestProofId_ne : proofId (regtestProof regtestAnchor) ≠ "copy" := by decide +kernel

/-- A wallet file that lists a proof of 1000000 units twice is valid and reports 2000000. -/
theorem copied_entry_counted_twice : ∃ w : WalletState, w.validate = .ok () ∧
    w.balances = .ok [⟨toHex regtestAsset, 2000000⟩] ∧
    ¬ ∀ asset, reported [⟨toHex regtestAsset, 2000000⟩] asset = backed w asset := by
  obtain ⟨prepared, hprepared⟩ := prepareImport_ok regtestAnchor_importable
  have hp := prepareImport_spec hprepared
  have hvalid := copied_valid regtestAnchor_importable hp
  have htwice : checkedAdd (regtestProof regtestAnchor).amount (regtestProof regtestAnchor).amount =
      some 2000000 := by decide
  have hbalances := copied_balances hp regtestProofId_ne regtestAnchor_importable htwice
  refine ⟨copied (regtestProof regtestAnchor) prepared, validate_eq_ok.mpr hvalid, hbalances, ?_⟩
  intro hbacked
  have honce := (backed_iff hvalid hbalances).mp hbacked
  exact copied_counted_twice hp regtestProofId_ne honce

section

variable {proof other : ProofFile} {prepared prepared' : PreparedImport}

/-- The wallet of two imported proofs. -/
def pair (proof : ProofFile) (prepared : PreparedImport) (other : ProofFile)
    (prepared' : PreparedImport) : WalletState :=
  (holding proof prepared).insertProof (prepared'.storedProof other)
    (prepared'.utxo other .confirmed)

variable (hp : Prepared proof none prepared) (hp' : Prepared other none prepared')
  (hne : proofId proof ≠ proofId other)
include hp hp' hne

theorem pair_counted : (pair proof prepared other prepared').counted.Perm
    [prepared'.utxo other .confirmed, prepared.utxo proof .confirmed] := by
  have hutxoId : (prepared'.utxo other .confirmed).utxoId = proofId other := hp'.proofId
  have hfresh : (holding proof prepared).spendableUtxos[proofId other]? = none := by
    rw [holding_utxos hp, get_insert_ne hne.symm]
    simp
  have hperm := toList_insert_perm (v := prepared'.utxo other .confirmed) hfresh
  rw [WalletState.counted, pair, WalletState.insertProof, hutxoId]
  rw [holding_utxos hp, toList_singleton] at hperm
  rw [holding_utxos hp]
  exact (hperm.map (·.2)).filter _

theorem pair_countedOnce : CountedOnce (pair proof prepared other prepared') := by
  have hid : (prepared.utxo proof .confirmed).proofId = proofId proof := hp.proofId
  have hid' : (prepared'.utxo other .confirmed).proofId = proofId other := hp'.proofId
  rw [← counted_nodup_iff, ((pair_counted hp hp' hne).map _).nodup_iff]
  simp [hid, hid', hne.symm]

/-- Both proofs count, whichever of them the map lists first. -/
theorem pair_balances (h : Importable proof) (h' : Importable other)
    (hasset : other.assetId = proof.assetId) (hamount : other.amount = proof.amount)
    {total : UInt64} (htotal : checkedAdd proof.amount proof.amount = some total) :
    (pair proof prepared other prepared').balances = .ok [⟨toHex proof.assetId, total⟩] := by
  have haccepted : ∀ utxo ∈ (pair proof prepared other prepared').counted, ∃ e,
      (pair proof prepared other prepared').acceptedWalletBalanceExplanation utxo.proofId = .ok e ∧
        e.assetId = proof.assetId ∧ e.amount = proof.amount := by
    intro utxo hutxo
    rcases List.mem_pair.mp ((pair_counted hp hp' hne).mem_iff.mp hutxo) with rfl | rfl
    · have hid' : (prepared'.utxo other .confirmed).proofId = proofId other := hp'.proofId
      rw [hid']
      exact ⟨_, accepted_of_import h' hp', hasset, hamount⟩
    · have hid : (prepared.utxo proof .confirmed).proofId = proofId proof := hp.proofId
      obtain ⟨hstored, hheld⟩ := @get_insertProof .default _ _ _ hp .confirmed
      obtain ⟨hproofs, hutxos⟩ := @get_insertProof_ne (holding proof prepared) _ _ _ hp' .confirmed
        _ hne
      rw [hid]
      exact ⟨_, accepted_of_entry h hp (hproofs.trans hstored) (hutxos.trans hheld)
        (counts_import hp), rfl, rfl⟩
  obtain ⟨first, second, heq⟩ := List.length_eq_two.mp (pair_counted hp hp' hne).length_eq
  obtain ⟨e, he, heasset, heamount⟩ := haccepted first (by simp [heq])
  obtain ⟨e', he', heasset', heamount'⟩ := haccepted second (by simp [heq])
  rw [← heamount] at htotal
  rw [← heasset]
  exact balances_two heq he he' (heasset'.trans heasset.symm)
    (by rw [heamount', ← heamount]; exact htotal)

end

/-- Two imported proofs of a million units each are reported with what they stand for. -/
theorem imported_proofs_backed : ∃ w balances, w = walletMachine.run
      [.importVerifiedProof (regtestProof regtestAnchor),
        .importVerifiedProof (regtestProof otherAnchor)] ∧
    w.balances = .ok balances ∧ reported balances regtestAsset = 2000000 ∧ CountedOnce w ∧
    ∀ asset, reported balances asset = backed w asset := by
  obtain ⟨prepared, hp, hstep⟩ := import_step regtestAnchor_importable
  obtain ⟨prepared', hp', himport, hvalid⟩ := importVerifiedProof_new
    (holding_valid regtestAnchor_importable hp) otherProof_importable
    (holding_fresh hp otherProof_other) .confirmed
  have hone : walletMachine.run [.importVerifiedProof (regtestProof regtestAnchor)] =
      holding (regtestProof regtestAnchor) prepared :=
    (walletMachine_concat [] _).trans (congrArg Prod.snd hstep)
  have hrun : walletMachine.run ([.importVerifiedProof (regtestProof regtestAnchor)] ++
      [.importVerifiedProof (regtestProof otherAnchor)]) =
        pair (regtestProof regtestAnchor) prepared (regtestProof otherAnchor) prepared' := by
    rw [walletMachine_concat, hone, step, WalletState.importVerifiedProof, himport]
    rfl
  have hbalances := pair_balances hp hp' otherProof_other regtestAnchor_importable
    otherProof_importable rfl rfl (show checkedAdd 1000000 1000000 = some 2000000 by decide)
  have honce := pair_countedOnce hp hp' otherProof_other
  refine ⟨_, _, hrun.symm, hbalances, ?_, honce,
    (balances_backed_iff_counted_once _ _ (validate_eq_ok.mpr hvalid) hbalances).mpr honce⟩
  simp [reported]
  rfl

end TapLdk.WalletBalance
