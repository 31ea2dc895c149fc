import Mathlib
import TapLdk.AssetCloseGenesis
import TapLdk.AssetCloseLatest
import TapLdk.WalletTotals

/-! Exported proofs of a close in wallets. Validation has checked all that an import asks of a
proof but the transition id that the import makes up for it, and the two anchors differ in their
index, so both proofs are imported and pay out the channel. -/
namespace TapLdk.AssetCloseImports
open TapLdk.LibraryExcept TapLdk.LibraryMaps TapLdk.LibraryBytes TapLdk.Mssmt TapLdk.Asset
open TapLdk.Proof TapLdk.DecodedProofs TapLdk.LdkFork TapLdk.Commitment TapLdk.CommitmentSteps
open TapLdk.Wallet TapLdk.WalletImport TapLdk.WalletTotals TapLdk.AssetClose TapLdk.AssetCloseSpec
open TapLdk.AssetCloseAccepts TapLdk.AssetCloseLatest TapLdk.AssetCloseGenesis
open TapLdk.RegtestChannel TapLdk.ChannelFundingAccepts

/-- The two exported proofs pay one wallet each their side's amount, and one wallet that imports
both, in either order, the whole channel. -/
structure PaysOut (state : AssetCommitmentChannelState) (close : NativeAssetClose)
    (localTlv remoteTlv : Bytes) : Prop where
  localHex : decodeCloseHex close.localProofTlvHex = .ok localTlv
  remoteHex : decodeCloseHex close.remoteProofTlvHex = .ok remoteTlv
  localWallet : Pays [localTlv] state.assetId close.localAmount.toNat
  remoteWallet : Pays [remoteTlv] state.assetId close.remoteAmount.toNat
  total : close.localAmount.toNat + close.remoteAmount.toNat = state.totalAmount.toNat
  oneWallet : Pays [localTlv, remoteTlv] state.assetId state.totalAmount.toNat
  otherOrder : Pays [remoteTlv, localTlv] state.assetId state.totalAmount.toNat

/-- The anchor of a side ends in its index. -/
theorem closeAnchorOutpoint_index (channelId : String) (owner : CloseOwnerSide)
    (commitmentNumber : UInt64) (assetId : Bytes32) (amount : UInt64) (scriptKey : CompressedKey) :
    ∃ txid, (closeAnchorOutpoint channelId owner commitmentNumber assetId amount
      scriptKey).toList = txid ++ [ownerIndex owner] := by
  have hindex : (toString owner.asU8).toList = [ownerIndex owner] := by
    cases owner <;> decide
  obtain ⟨text, htext⟩ : ∃ text, closeAnchorOutpoint channelId owner commitmentNumber assetId amount
      scriptKey = text ++ toString owner.asU8 := ⟨_, rfl⟩
  exact ⟨text.toList, by rw [htext, String.toList_append, hindex]⟩

theorem expectedAnchor_ne (close : NativeAssetClose) :
    close.expectedAnchor .localOwner ≠ close.expectedAnchor .remoteOwner := by
  intro heq
  obtain ⟨first, hfirst⟩ : ∃ txid, (close.expectedAnchor .localOwner).toList = _ :=
    closeAnchorOutpoint_index ..
  obtain ⟨second, hsecond⟩ : ∃ txid, (close.expectedAnchor .remoteOwner).toList = _ :=
    closeAnchorOutpoint_index ..
  rw [heq, hsecond] at hfirst
  have hindex := (List.append_inj' hfirst rfl).2
  exact absurd hindex (by decide)

/-- A proof with the amount and the anchor of one side. -/
structure Checked (close : NativeAssetClose) (owner : CloseOwnerSide) (proof : ProofFile) :
    Prop where
  verified : Verified proof
  assetId : proof.assetId = close.assetId
  amount : proof.amount = close.amount owner
  anchor : proof.anchorOutpoint = close.expectedAnchor owner

theorem checked_of_validate {close : NativeAssetClose} {owner : CloseOwnerSide} {proof : ProofFile}
    {u : Unit} (h : close.validateCloseProof owner proof = .ok u) : Checked close owner proof := by
  simp only [NativeAssetClose.validateCloseProof, bind_eq_ok, mapError_eq_ok, rejectIf_eq_ok, ne_eq,
    not_or, not_not] at h
  obtain ⟨report, hverify, hasset, hamount, -, hanchor, -⟩ := h
  exact ⟨verified_of_verify rfl hverify, hasset, hamount, hanchor⟩

/-- The proofs of a valid close are those of its two sides. -/
theorem proofs_of_validate {ldk : Ldk} {closing : LdkClose ldk.ChannelDescriptor}
    {close : NativeAssetClose} {u : Unit} (h : close.validate ldk closing = .ok u) :
    ∃ localProof remoteProof, close.localProof = .ok localProof ∧
      close.remoteProof = .ok remoteProof ∧ Checked close .localOwner localProof ∧
      Checked close .remoteOwner remoteProof := by
  simp only [NativeAssetClose.validate, bind_eq_ok] at h
  obtain ⟨_, -, _, -, _, -, _, -, localProof, hlocal, remoteProof, hremote, _, hlocalOk, _,
    hremoteOk, -⟩ := h
  exact ⟨localProof, remoteProof, hlocal, hremote, checked_of_validate hlocalOk,
    checked_of_validate hremoteOk⟩

/-- A checked proof that is decoded from its hexadecimal text is importable, unless its
transition id is zero. -/
theorem importable_of_checked {close : NativeAssetClose} {owner : CloseOwnerSide} {hex : String}
    {proof : ProofFile} (hchecked : Checked close owner proof)
    (hdecode : decodeCloseProof hex = .ok proof)
    (htransition : (WalletErrors.historyOf proof).transitionId ≠ Bytes32.ZERO) :
    Importable proof ∧ ∃ tlv, decodeCloseHex hex = .ok tlv ∧ ProofFile.decode tlv = .ok proof := by
  simp only [decodeCloseProof, bind_eq_ok, mapError_eq_ok] at hdecode
  obtain ⟨tlv, htlv, hproof⟩ := hdecode
  obtain ⟨hkey, hfit⟩ := decode_spec hproof
  refine ⟨⟨hchecked.verified, hkey, hfit, fun metadata hmetadata => ?_⟩, tlv, htlv, hproof⟩
  rw [WalletErrors.walletProofHistoryMetadata_eq, Except.ok.injEq] at hmetadata
  rw [← hmetadata]
  exact htransition

/-- Proofs of the two sides are stored under different ids. -/
theorem proofId_ne {close : NativeAssetClose} {localProof remoteProof : ProofFile}
    (hlocal : Checked close .localOwner localProof)
    (hremote : Checked close .remoteOwner remoteProof) : proofId localProof ≠ proofId remoteProof := by
  intro heq
  unfold proofId at heq
  rw [hlocal.assetId, hremote.assetId, hlocal.anchor, hremote.anchor] at heq
  exact expectedAnchor_ne close ((String.append_right_inj _).mp heq)

/-- The exported proofs of a close of any reachable channel pay out the channel, unless an import
makes up the zero id for one of them. -/
theorem close_proofs_pay_out {ldk : Ldk} {closing : LdkClose ldk.ChannelDescriptor}
    (ops : List (CommitmentOperation ldk)) (id : String) (state : AssetCommitmentChannelState)
    (hheld : ((commitmentMachine ldk).run ops).channels[id]? = some state)
    (localScriptKey remoteScriptKey : CompressedKey) (close : NativeAssetClose)
    (h : cooperativeClose ldk closing ((commitmentMachine ldk).run ops) id localScriptKey
      remoteScriptKey = .ok close)
    (htransition : ∀ proof, close.localProof = .ok proof ∨ close.remoteProof = .ok proof →
      (WalletErrors.historyOf proof).transitionId ≠ Bytes32.ZERO) :
    ∃ localTlv remoteTlv, PaysOut state close localTlv remoteTlv := by
  obtain ⟨held, hstate, hcloses⟩ := cooperativeClose_spec h
  obtain rfl := Option.some.inj (hstate.symm.trans hheld)
  have hvalid : close.validate ldk closing = .ok () := by
    simp only [cooperativeClose, closeFromState, bind_eq_ok, pure_eq_ok, Except.ok.injEq] at h
    obtain ⟨_, -, _, -, _, -, _, -, _, -, _, -, _, -, _, -, _, hvalid, rfl⟩ := h
    exact hvalid
  obtain ⟨localProof, remoteProof, hlocal, hremote, hlocalChecked, hremoteChecked⟩ :=
    proofs_of_validate hvalid
  obtain ⟨hlocalImportable, localTlv, hlocalHex, hlocalDecode⟩ :=
    importable_of_checked hlocalChecked hlocal (htransition _ (.inl hlocal))
  obtain ⟨hremoteImportable, remoteTlv, hremoteHex, hremoteDecode⟩ :=
    importable_of_checked hremoteChecked hremote (htransition _ (.inr hremote))
  have hlocalAsset : localProof.assetId = held.assetId :=
    hlocalChecked.assetId.trans hcloses.assetId
  have hremoteAsset : remoteProof.assetId = held.assetId :=
    hremoteChecked.assetId.trans hcloses.assetId
  have hlocalAmount : localProof.amount = close.localAmount := hlocalChecked.amount
  have hremoteAmount : remoteProof.amount = close.remoteAmount := hremoteChecked.amount
  have hne := proofId_ne hlocalChecked hremoteChecked
  have hsum := checkedAdd_eq_some.mp hcloses.valid.balances
  rw [hcloses.totalAmount] at hsum
  refine ⟨localTlv, remoteTlv, hlocalHex, hremoteHex, ?_, ?_, hsum.symm, ?_, ?_⟩
  · rw [← hlocalAsset, ← hlocalAmount]
    exact pays_one hlocalDecode hlocalImportable
  · rw [← hremoteAsset, ← hremoteAmount]
    exact pays_one hremoteDecode hremoteImportable
  · rw [← hlocalAsset]
    refine pays_two hlocalDecode hremoteDecode hlocalImportable hremoteImportable hne
      (hremoteAsset.trans hlocalAsset.symm) ?_
    rw [hlocalAmount, hremoteAmount, hsum]
  · rw [← hremoteAsset]
    refine pays_two hremoteDecode hlocalDecode hremoteImportable hlocalImportable hne.symm
      (hlocalAsset.trans hremoteAsset.symm) ?_
    rw [hlocalAmount, hremoteAmount, hsum, Nat.add_comm]

/-- The transition ids that imports make up for the regtest channel's exported proofs. -/
theorem regtestExports_transition : ∀ anchor ∈ [firstClose.localAnchor, firstClose.remoteAnchor],
    (WalletErrors.historyOf (exportedProof anchor)).transitionId ≠ Bytes32.ZERO := by
  decide +kernel

/-- The proofs that the regtest channel exports. -/
theorem regtest_exports {c : FundedChannel acceptingLdk} {root : RootHashSum} {id : Bytes32}
    {state updated : AssetCommitmentChannelState} {request : AssetCommitmentUpdateRequest}
    {snapshot : AssetCommitmentSnapshot} (h : RegtestRun c root id state updated request snapshot) :
    (acceptedClose state id regtestKey regtestKey).localProof =
        .ok (exportedProof firstClose.localAnchor) ∧
      (acceptedClose state id regtestKey regtestKey).remoteProof =
        .ok (exportedProof firstClose.remoteAnchor) := by
  have hlocal := closeProof_regtest h.before .localOwner
  have hremote := closeProof_regtest h.before .remoteOwner
  rw [firstClose_computed.localAnchor] at hlocal
  rw [firstClose_computed.remoteAnchor] at hremote
  rw [acceptedClose_localProof (closable_before h), acceptedClose_remoteProof (closable_before h),
    h.before.localBalance, h.before.remoteBalance, hlocal, hremote]
  exact ⟨rfl, rfl⟩

/-- The channel of two peers, closed after its initialisation, is paid out by its proofs. -/
theorem close_proofs_pay_out_twoPeer :
    ∃ (ops : List (CommitmentOperation acceptingLdk)) (id : String)
      (state : AssetCommitmentChannelState) (close : NativeAssetClose) (localTlv remoteTlv : Bytes),
      ((commitmentMachine acceptingLdk).run ops).channels[id]? = some state ∧
      cooperativeClose acceptingLdk acceptingClose ((commitmentMachine acceptingLdk).run ops) id
        regtestKey regtestKey = .ok close ∧ PaysOut state close localTlv remoteTlv := by
  obtain ⟨c, root, id, state, updated, request, snapshot, h⟩ := regtest_run
  have hheld : ((commitmentMachine acceptingLdk).run [.initializeChannel c]).channels[
      regtestChannelId]? = some state := by
    rw [regtest_initialized h.initializes]
    exact get_insert_self ..
  obtain ⟨hlocal, hremote⟩ := regtest_exports h
  obtain ⟨localTlv, remoteTlv, hpays⟩ := close_proofs_pay_out [.initializeChannel c]
    regtestChannelId state hheld regtestKey regtestKey _ (regtest_closed h) fun proof hproof => by
      refine hproof.elim (fun heq => ?_) (fun heq => ?_)
      · rw [hlocal, Except.ok.injEq] at heq
        exact heq ▸ regtestExports_transition _ (List.mem_cons_self ..)
      · rw [hremote, Except.ok.injEq] at heq
        exact heq ▸ regtestExports_transition _ (by simp)
  exact ⟨_, _, state, _, localTlv, remoteTlv, hheld, regtest_closed h, hpays⟩

end TapLdk.AssetCloseImports
