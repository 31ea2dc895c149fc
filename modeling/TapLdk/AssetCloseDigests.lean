import Mathlib
import TapLdk.AssetCloseOnce

/-! What binds a close to its stored proofs. The proofs pay the amounts of the close to its keys;
the digests of the proofs are those of the proofs when the close is recorded as it was returned,
and validation compares the two nowhere. -/
namespace TapLdk.AssetCloseDigests
open TapLdk.LibraryExcept TapLdk.LibraryMaps TapLdk.LibraryBytes TapLdk.LibrarySha256
open TapLdk.LibraryRuns TapLdk.Mssmt TapLdk.Asset TapLdk.Proof TapLdk.LdkFork
open TapLdk.ChannelFundingAccepts TapLdk.Commitment TapLdk.CommitmentSteps TapLdk.AssetClose
open TapLdk.AssetCloseSpec TapLdk.AssetCloseAccepts TapLdk.AssetCloseOnce TapLdk.RegtestChannel

/-- The stored bytes are a proof of what the close pays to the owner. -/
def PaysOwner (close : NativeAssetClose) (owner : CloseOwnerSide)
    (proof : Except NativeAssetCloseError ProofFile) : Prop :=
  ∃ p, proof = .ok p ∧ p.assetId = close.assetId ∧ p.amount = close.amount owner ∧
    p.scriptKey = close.scriptKey owner

/-- A close that is bound to its stored proofs. -/
structure BoundToProofs (close : NativeAssetClose) : Prop where
  localDigest : close.localProofDigest = proofHandoffDigest .localOwner close.localProofTlvHex
  remoteDigest : close.remoteProofDigest = proofHandoffDigest .remoteOwner close.remoteProofTlvHex
  localProof : PaysOwner close .localOwner close.localProof
  remoteProof : PaysOwner close .remoteOwner close.remoteProof

/-- A close as some call returned it. -/
def Returned (ldk : Ldk) (closing : LdkClose ldk.ChannelDescriptor) (close : NativeAssetClose) :
    Prop :=
  ∃ store channelId localScriptKey remoteScriptKey,
    cooperativeClose ldk closing store channelId localScriptKey remoteScriptKey = .ok close

/-- A close that has the stored proofs of a returned one. -/
def HasProofsOf (close returned : NativeAssetClose) : Prop :=
  close.localProofTlvHex = returned.localProofTlvHex ∧
    close.remoteProofTlvHex = returned.remoteProofTlvHex

/-- A close that has the digests of a returned one. -/
def HasDigestsOf (close returned : NativeAssetClose) : Prop :=
  close.localProofDigest = returned.localProofDigest ∧
    close.remoteProofDigest = returned.remoteProofDigest

theorem validateCloseProof_pays {close : NativeAssetClose} {owner : CloseOwnerSide}
    {proof : ProofFile} {u : Unit} (h : close.validateCloseProof owner proof = .ok u) :
    PaysOwner close owner (.ok proof) := by
  simp only [NativeAssetClose.validateCloseProof, bind_eq_ok, rejectIf_eq_ok, ne_eq, not_or,
    not_not] at h
  obtain ⟨_, -, hasset, hamount, hkey, -, -⟩ := h
  exact ⟨proof, rfl, hasset, hamount, hkey⟩

/-- What validation says of the proofs. -/
theorem validate_proofs {ldk : Ldk} {closing : LdkClose ldk.ChannelDescriptor}
    {close : NativeAssetClose} {u : Unit} (h : close.validate ldk closing = .ok u) :
    PaysOwner close .localOwner close.localProof ∧
      PaysOwner close .remoteOwner close.remoteProof := by
  simp only [NativeAssetClose.validate, bind_eq_ok] at h
  obtain ⟨_, -, _, -, _, -, _, -, localProof, hlocal, remoteProof, hremote, _, hlocalOk, _,
    hremoteOk, -⟩ := h
  rw [hlocal, hremote]
  exact ⟨validateCloseProof_pays hlocalOk, validateCloseProof_pays hremoteOk⟩

/-- A close computes its digests from the proofs that it stores. -/
theorem returned_bound {ldk : Ldk} {closing : LdkClose ldk.ChannelDescriptor}
    {close : NativeAssetClose} (h : Returned ldk closing close) : BoundToProofs close := by
  obtain ⟨store, channelId, localScriptKey, remoteScriptKey, hcall⟩ := h
  simp only [cooperativeClose, bind_eq_ok] at hcall
  obtain ⟨state, -, hclose⟩ := hcall
  simp only [closeFromState, bind_eq_ok, pure_eq_ok, Except.ok.injEq] at hclose
  obtain ⟨_, -, _, -, _, -, _, -, _, -, _, -, _, -, _, hvalid, rfl⟩ := hclose
  obtain ⟨hlocal, hremote⟩ := validate_proofs hvalid
  exact ⟨rfl, rfl, hlocal, hremote⟩

/-- Over every run, what is recorded is what a call returned. -/
theorem returned_of_run (ldk : Ldk) (closing : LdkClose ldk.ChannelDescriptor)
    (ops : List (CloseOperation ldk)) :
    (∀ close ∈ ((closeMachine ldk closing).run ops).returned, Returned ldk closing close) ∧
      ∀ (id : String) (close : NativeAssetClose),
        ((closeMachine ldk closing).run ops).closes.closes[id]? = some close →
          Returned ldk closing close := by
  induction ops using List.reverseRecOn with
  | nil => simp [closeMachine, NativeAssetCloseStore.default]
  | append_singleton ops op ih =>
    obtain ⟨hreturned, hrecorded⟩ := ih
    rw [Machine.run_concat]
    cases op with
    | commitment op => exact ⟨hreturned, hrecorded⟩
    | cooperativeClose channelId localScriptKey remoteScriptKey =>
      simp only [closeMachine] at hreturned hrecorded ⊢
      cases hcall : cooperativeClose ldk closing _ channelId localScriptKey remoteScriptKey with
      | error e => exact ⟨hreturned, hrecorded⟩
      | ok close =>
        refine ⟨fun other hother => ?_, hrecorded⟩
        rcases List.mem_append.mp hother with hold | hnew
        · exact hreturned other hold
        · obtain rfl := List.mem_singleton.mp hnew
          exact ⟨_, _, _, _, hcall⟩
    | recordClose index =>
      simp only [closeMachine] at hreturned hrecorded ⊢
      split
      · rename_i close hget
        refine ⟨hreturned, fun id other hother => ?_⟩
        dsimp only at hother
        cases hcall : NativeAssetCloseStore.recordClose ldk closing _ close with
        | error e =>
          rw [hcall] at hother
          exact hrecorded id other hother
        | ok r =>
          rw [hcall, storeAfter, (recordClose_spec hcall).2] at hother
          rcases get_insert_eq_some hother with ⟨-, rfl⟩ | ⟨-, hold⟩
          · exact hreturned _ (List.mem_of_getElem? hget)
          · exact hrecorded id other hold
      · exact ⟨hreturned, hrecorded⟩

/-- The proofs of every valid close pay its amounts to its keys. A close that is recorded as it was
returned is bound to them, over every run; and a valid close with the proofs of a returned one is
bound to them exactly when it has kept the digests too. -/
theorem bound_iff_recorded {ldk : Ldk} {closing : LdkClose ldk.ChannelDescriptor} :
    (∀ close : NativeAssetClose, close.validate ldk closing = .ok () →
      PaysOwner close .localOwner close.localProof ∧
        PaysOwner close .remoteOwner close.remoteProof) ∧
    (∀ (ops : List (CloseOperation ldk)) (id : String) (close : NativeAssetClose),
      ((closeMachine ldk closing).run ops).closes.closes[id]? = some close →
        BoundToProofs close) ∧
    ∀ close returned : NativeAssetClose, close.validate ldk closing = .ok () →
      Returned ldk closing returned → HasProofsOf close returned →
        (BoundToProofs close ↔ HasDigestsOf close returned) := by
  refine ⟨fun close hvalid => validate_proofs hvalid,
    fun ops id close hget => returned_bound ((returned_of_run ldk closing ops).2 id close hget),
    fun close returned hvalid hreturned hproofs => ?_⟩
  obtain ⟨hlocal, hremote⟩ := validate_proofs hvalid
  have hbound := returned_bound hreturned
  rw [HasDigestsOf, hbound.localDigest, hbound.remoteDigest, ← hproofs.1, ← hproofs.2]
  exact ⟨fun h => ⟨h.localDigest, h.remoteDigest⟩,
    fun hdigests => ⟨hdigests.1, hdigests.2, hlocal, hremote⟩⟩

def withLocalDigest (close : NativeAssetClose) (id digest : Bytes32) : NativeAssetClose :=
  let other := { close with localProofDigest := digest }
  let history := other.expectedHistory
  let allocationDigest := closeAllocationDigest (allocationOf other id)
  { other with
    closeProofHistoryTransitionId := history.closeTransitionId
    localExportProofHistoryOutputId := history.localExportOutputId
    localExportProofHistoryTransitionId := history.localExportTransitionId
    ldkCloseAllocationDigest := allocationDigest
    closeDigest := AssetClose.closeDigest close.channelId close.assetId close.commitmentNumber
      close.localAmount close.remoteAmount close.localProofTlvHex close.remoteProofTlvHex
      allocationDigest close.priorProofHistoryOutputId history.localExportOutputId
      close.remoteExportProofHistoryOutputId }

theorem withLocalDigest_derived {close : NativeAssetClose} {id : Bytes32} (h : Derived close id)
    (digest : Bytes32) : Derived (withLocalDigest close id digest) id where
  channelId := h.channelId
  closeId := h.closeId
  history := by
    have hhistory := h.history
    simp only [NativeAssetClose.storedHistory, NativeAssetClose.expectedHistory,
      closeProofHistoryMetadataFromParts, withLocalDigest, CloseProofHistory.mk.injEq]
      at hhistory ⊢
    obtain ⟨-, -, hrecord, -, hlocal, hremote, hlocalRecord, -, -, hremoteRecord, hremoteExport,
      hremoteTransition⟩ := hhistory
    exact ⟨trivial, trivial, hrecord, trivial, hlocal, hremote, hlocalRecord, trivial, trivial,
      hremoteRecord, hremoteExport, hremoteTransition⟩
  allocation := rfl
  closeDigest := rfl
  status := h.status
  forceCloseStatus := h.forceCloseStatus

theorem withLocalDigest_localProof (close : NativeAssetClose) (id digest : Bytes32) :
    (withLocalDigest close id digest).localProof = close.localProof := by
  unfold NativeAssetClose.localProof
  rfl

theorem withLocalDigest_remoteProof (close : NativeAssetClose) (id digest : Bytes32) :
    (withLocalDigest close id digest).remoteProof = close.remoteProof := by
  unfold NativeAssetClose.remoteProof
  rfl

theorem withLocalDigest_closeTransition (close : NativeAssetClose) (id digest : Bytes32) :
    (withLocalDigest close id digest).closeProofHistoryTransitionId =
      closeTransitionId close.closeId close.assetId close.commitmentNumber close.localAmount
        close.remoteAmount close.priorProofHistoryOutputId digest close.remoteProofDigest := rfl

theorem withLocalDigest_localExport (close : NativeAssetClose) (id digest : Bytes32) :
    (withLocalDigest close id digest).localExportProofHistoryTransitionId =
      closeExportTransitionId close.closeId .localOwner
        s!"native-asset-close-output:{close.closeId}:local" digest := rfl

theorem withLocalDigest_exports {close : NativeAssetClose} {owner : CloseOwnerSide}
    {proof : ProofFile} (h : Exports close owner proof) (id digest : Bytes32) :
    Exports (withLocalDigest close id digest) owner proof := by
  cases owner <;> exact ⟨h.verified, h.assetId, h.amount, h.scriptKey, h.anchor, h.genesis⟩

theorem withLocalDigest_replayable {close : NativeAssetClose} {id digest : Bytes32}
    (h : Replayable close)
    (hclose : (withLocalDigest close id digest).closeProofHistoryTransitionId ≠ Bytes32.ZERO)
    (hexport : (withLocalDigest close id digest).localExportProofHistoryTransitionId ≠
      Bytes32.ZERO) : Replayable (withLocalDigest close id digest) where
  balances := h.balances
  total := h.total
  anchor := h.anchor
  prior := h.prior
  transitions k := by
    fin_cases k
    · exact h.transitions 0
    · exact h.transitions 1
    · exact hclose
    · exact hexport
    · exact h.transitions 4

/-- The transitions that the zero digest leads to, on the first close of the regtest channel. -/
theorem zeroDigest_transitions :
    closeTransitionId firstClose.closeId regtestAsset 0 1000000 1000000 fundingOutput Bytes32.ZERO
        firstClose.remoteDigest ≠ Bytes32.ZERO ∧
      closeExportTransitionId firstClose.closeId .localOwner
        s!"native-asset-close-output:{firstClose.closeId}:local" Bytes32.ZERO ≠ Bytes32.ZERO := by
  decide +kernel

theorem zeroDigest_validate {state : AssetCommitmentChannelState} {id transition : Bytes32}
    (h : RegtestState 1000000 1000000 0 fundingOutput transition state)
    (hclosable : Closable state id regtestKey regtestKey) :
    (withLocalDigest (acceptedClose state id regtestKey regtestKey) id Bytes32.ZERO).validate
      acceptingLdk acceptingClose = .ok () := by
  have hcloseId := acceptedClose_closeId id h firstClose_computed
  obtain ⟨hclose, hexport⟩ := zeroDigest_transitions
  refine validate_of_derived (withLocalDigest_derived (acceptedClose_derived hclosable) _)
    (withLocalDigest_replayable (acceptedClose_replayable hclosable) ?_ ?_)
    ((withLocalDigest_localProof ..).trans (acceptedClose_localProof hclosable))
    ((withLocalDigest_remoteProof ..).trans (acceptedClose_remoteProof hclosable))
    (withLocalDigest_exports (acceptedClose_localExports hclosable) _ _)
    (withLocalDigest_exports (acceptedClose_remoteExports hclosable) _ _)
  · rw [withLocalDigest_closeTransition, hcloseId]
    change closeTransitionId firstClose.closeId state.assetId state.latestCommitmentNumber
      state.localBalance state.remoteBalance state.latestProofHistoryOutputId Bytes32.ZERO
      (proofHandoffDigest .remoteOwner (proofHex (closeProof state .remoteOwner regtestKey
        state.remoteBalance))) ≠ Bytes32.ZERO
    rw [(handoffDigests_regtest h firstClose_computed).2, h.assetId, h.number, h.localBalance,
      h.remoteBalance, h.output]
    exact hclose
  · rw [withLocalDigest_localExport, hcloseId]
    exact hexport

theorem zeroDigest_not_bound {state : AssetCommitmentChannelState} {id transition : Bytes32}
    (h : RegtestState 1000000 1000000 0 fundingOutput transition state) :
    ¬ BoundToProofs (withLocalDigest (regtestCloseOf state id) id Bytes32.ZERO) := by
  intro hbound
  have hdigest : Bytes32.ZERO = proofHandoffDigest .localOwner (proofHex (closeProof state
      .localOwner regtestKey state.localBalance)) := hbound.localDigest
  rw [(handoffDigests_regtest h firstClose_computed).1] at hdigest
  exact absurd hdigest (by decide)

/-- A close that stores the zero digest for its local proof is valid. -/
theorem zero_digest_accepted : ∃ close : NativeAssetClose,
    close.validate acceptingLdk acceptingClose = .ok () ∧ close.localProofDigest = Bytes32.ZERO ∧
      ¬ BoundToProofs close := by
  obtain ⟨c, root, id, state, updated, request, snapshot, h⟩ := regtest_run
  exact ⟨_, zeroDigest_validate h.before (closable_before h), rfl, zeroDigest_not_bound h.before⟩

/-- Two closes of one channel, recorded as they were returned, and the first of them with another
digest. -/
theorem bound_iff_recorded_regtest : ∃ (ops : List (CloseOperation acceptingLdk))
    (first second other : NativeAssetClose), first.closeId ≠ second.closeId ∧
      ((closeMachine acceptingLdk acceptingClose).run ops).closes.closes[first.closeId]? =
        some first ∧ BoundToProofs first ∧
      ((closeMachine acceptingLdk acceptingClose).run ops).closes.closes[second.closeId]? =
        some second ∧ BoundToProofs second ∧
      other.validate acceptingLdk acceptingClose = .ok () ∧ HasProofsOf other first ∧
      ¬ HasDigestsOf other first := by
  obtain ⟨c, root, id, state, updated, request, snapshot, h⟩ := regtest_run
  obtain ⟨-, hrecorded, hdigests⟩ := @bound_iff_recorded acceptingLdk acceptingClose
  have hfirst : ((closeMachine acceptingLdk acceptingClose).run (twiceRun c
      request)).closes.closes[(regtestCloseOf state id).closeId]? =
        some (regtestCloseOf state id) := by
    rw [run_twiceRun h]
    exact (get_insert_ne (closeIds_ne h).symm).trans (get_insert_self ..)
  have hsecond : ((closeMachine acceptingLdk acceptingClose).run (twiceRun c
      request)).closes.closes[(regtestCloseOf updated id).closeId]? =
        some (regtestCloseOf updated id) := by
    rw [run_twiceRun h]
    exact get_insert_self ..
  have hreturned : Returned acceptingLdk acceptingClose (regtestCloseOf state id) :=
    ⟨storeOf state, _, _, _, cooperativeClose_ok (get_insert_self ..) (closable_before h)⟩
  have hother := zeroDigest_validate h.before (closable_before h)
  exact ⟨_, _, _, _, (closeIds_ne h).symm, hfirst, hrecorded _ _ _ hfirst, hsecond,
    hrecorded _ _ _ hsecond, hother, ⟨rfl, rfl⟩, fun hkept => zeroDigest_not_bound h.before
      ((hdigests _ _ hother hreturned ⟨rfl, rfl⟩).mpr hkept)⟩

end TapLdk.AssetCloseDigests
