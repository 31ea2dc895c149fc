import Mathlib
import TapLdk.AssetClose
import TapLdk.CommitmentStory

/-! What a successful close and a successful record of one establish, and the machine of all
commitment and close calls. -/
namespace TapLdk.AssetCloseSpec
open TapLdk.LibraryExcept TapLdk.LibraryMaps TapLdk.LibraryBytes TapLdk.LibrarySha256
open TapLdk.LibraryRuns TapLdk.Mssmt TapLdk.Asset TapLdk.Proof TapLdk.ProofHistory TapLdk.LdkFork
open TapLdk.ChannelFunding TapLdk.Commitment TapLdk.CommitmentSteps TapLdk.CommitmentStory
open TapLdk.AssetClose

theorem decodeHexNibble_hexChar {v : ℕ} (h : v < 16) :
    decodeHexNibble (UInt8.ofNat (hexChar v).toNat) = .ok (UInt8.ofNat v) := by
  rw [decodeHexNibble, (hexChar_spec v h).2]
  rfl

theorem nibbles_byte (b : UInt8) :
    UInt8.ofNat (b.toNat / 16) <<< 4 ||| UInt8.ofNat (b.toNat % 16) = b := by
  have hall : ∀ n < 256, UInt8.ofNat (n / 16) <<< 4 ||| UInt8.ofNat (n % 16) = UInt8.ofNat n := by
    decide +kernel
  rw [hall b.toNat b.toNat_lt, UInt8.ofNat_toNat]

theorem decodeCloseHex_encodeHex (bs : Bytes) : decodeCloseHex (encodeHex bs) = .ok bs := by
  have hchunks : decodeHexChunks (utf8 (encodeHex bs)) = .ok bs := by
    rw [utf8_encodeHex]
    induction bs with
    | nil => rfl
    | cons b bs ih =>
      have hlt := b.toNat_lt
      have hhi : b.toNat / 16 < 16 := by omega
      have hlo : b.toNat % 16 < 16 := by omega
      rw [List.flatMap_cons, List.cons_append, List.cons_append, List.nil_append, decodeHexChunks,
        decodeHexNibble_hexChar hhi, ok_bind, decodeHexNibble_hexChar hlo, ok_bind, ih, ok_bind,
        nibbles_byte, pure_eq_ok]
  have heven : ¬ (utf8 (encodeHex bs)).length % 2 ≠ 0 := by
    rw [utf8_encodeHex_length]
    omega
  rw [decodeCloseHex, rejectIf_false heven, ok_bind, hchunks]

/-- What validation establishes about a close that later steps rely on. -/
structure CloseValid (close : NativeAssetClose) : Prop where
  balances : checkedAdd close.localAmount close.remoteAmount = some close.totalAmount
  localProof : ∃ proof, close.localProof = .ok proof ∧
    proof.genesisOutpoint = closeGenesisOutpoint close.assetId ∧ proof.assetId = close.assetId
  remoteProof : ∃ proof, close.remoteProof = .ok proof ∧
    proof.genesisOutpoint = closeGenesisOutpoint close.assetId ∧ proof.assetId = close.assetId
  closeId : close.closeId = closeIdFromParts close.channelId close.assetId
    close.commitmentNumber close.localAmount close.remoteAmount close.priorProofHistoryOutputId

theorem validateCloseProof_spec {close : NativeAssetClose} {owner : CloseOwnerSide}
    {proof : ProofFile} {u : Unit} (h : close.validateCloseProof owner proof = .ok u) :
    proof.genesisOutpoint = closeGenesisOutpoint close.assetId ∧ proof.assetId = close.assetId := by
  simp only [NativeAssetClose.validateCloseProof, bind_eq_ok, rejectIf_eq_ok, ne_eq, not_or,
    not_not] at h
  obtain ⟨_, -, hasset, -, -, -, hgenesis⟩ := h
  exact ⟨hgenesis, hasset⟩

theorem validate_spec {ldk : Ldk} {closing : LdkClose ldk.ChannelDescriptor}
    {close : NativeAssetClose} {u : Unit} (h : close.validate ldk closing = .ok u) :
    CloseValid close := by
  simp only [NativeAssetClose.validate, bind_eq_ok, okOr_eq_ok, rejectIf_eq_ok, exists_const,
    ne_eq, not_not] at h
  obtain ⟨sum, hsum, rfl, -, -, localProof, hlocal, remoteProof, hremote, _, hlocalOk, _, hremoteOk,
    _, -, _, -, hid, -⟩ := h
  exact ⟨hsum, ⟨_, hlocal, validateCloseProof_spec hlocalOk⟩,
    ⟨_, hremote, validateCloseProof_spec hremoteOk⟩, hid⟩

/-- A close of the state a channel is in. -/
structure Closes (state : AssetCommitmentChannelState) (close : NativeAssetClose) : Prop where
  valid : CloseValid close
  channelId : close.channelId = state.channelId
  assetId : close.assetId = state.assetId
  number : close.commitmentNumber = state.latestCommitmentNumber
  localAmount : close.localAmount = state.localBalance
  remoteAmount : close.remoteAmount = state.remoteBalance
  totalAmount : close.totalAmount = state.totalAmount
  priorOutput : close.priorProofHistoryOutputId = state.latestProofHistoryOutputId

theorem cooperativeClose_spec {ldk : Ldk} {closing : LdkClose ldk.ChannelDescriptor}
    {store : AssetCommitmentStore} {channelId : String}
    {localScriptKey remoteScriptKey : CompressedKey} {close : NativeAssetClose}
    (h : cooperativeClose ldk closing store channelId localScriptKey remoteScriptKey = .ok close) :
    ∃ state, store.channels[channelId]? = some state ∧ Closes state close := by
  simp only [cooperativeClose, AssetCommitmentStore.channelState, bind_eq_ok, mapError_eq_ok,
    okOr_eq_ok] at h
  obtain ⟨state, hstate, hclose⟩ := h
  simp only [closeFromState, bind_eq_ok, pure_eq_ok, Except.ok.injEq] at hclose
  obtain ⟨_, -, _, -, _, -, _, -, _, -, _, -, _, -, _, hvalid, rfl⟩ := hclose
  exact ⟨state, hstate, validate_spec hvalid, rfl, rfl, rfl, rfl, rfl, rfl, rfl⟩

theorem recordClose_spec {ldk : Ldk} {closing : LdkClose ldk.ChannelDescriptor}
    {store next : NativeAssetCloseStore} {close recorded : NativeAssetClose}
    (h : store.recordClose ldk closing close = .ok (recorded, next)) :
    store.closes[close.closeId]? = none ∧
      next.closes = store.closes.insert close.closeId close := by
  simp only [NativeAssetCloseStore.recordClose, bind_eq_ok, rejectIf_eq_ok, exists_const,
    pure_eq_ok, Except.ok.injEq, Prod.mk.injEq] at h
  obtain ⟨hfresh, _, -, -, rfl⟩ := h
  exact ⟨by simpa [Option.isSome_iff_ne_none] using hfresh, rfl⟩

/-- The two stores, and the closes that calls have returned so far. -/
structure CloseState where
  commitments : AssetCommitmentStore
  closes : NativeAssetCloseStore
  returned : List NativeAssetClose

/-- A close is recorded as an earlier call returned it. -/
inductive CloseOperation (ldk : Ldk) where
  | commitment (op : CommitmentOperation ldk)
  | cooperativeClose (channelId : String) (localScriptKey remoteScriptKey : CompressedKey)
  | recordClose (index : ℕ)

def returnClose (s : CloseState) :
    Except NativeAssetCloseError NativeAssetClose → CloseState
  | .ok close => { s with returned := s.returned ++ [close] }
  | .error _ => s

def closeMachine (ldk : Ldk) (closing : LdkClose ldk.ChannelDescriptor) :
    Machine CloseState (CloseOperation ldk) where
  start := ⟨.default, .default, []⟩
  next s
    | .commitment op => { s with commitments := (commitmentMachine ldk).next s.commitments op }
    | .cooperativeClose channelId localScriptKey remoteScriptKey => returnClose s
        (cooperativeClose ldk closing s.commitments channelId localScriptKey remoteScriptKey)
    | .recordClose index =>
      match s.returned[index]? with
      | some close =>
        { s with closes := storeAfter s.closes (s.closes.recordClose ldk closing close) }
      | none => s

/-- The commitment call of a step. -/
def commitmentOf {ldk : Ldk} (_ : CloseState) : CloseOperation ldk → Option (CommitmentOperation ldk)
  | .commitment op => some op
  | _ => none

/-- What a step does: a commitment call, nothing, one more returned close, or one more
recorded close. -/
theorem close_next_cases {ldk : Ldk} {closing : LdkClose ldk.ChannelDescriptor} (s : CloseState)
    (op : CloseOperation ldk) :
    (∃ c, op = .commitment c ∧ (closeMachine ldk closing).next s op =
      { s with commitments := (commitmentMachine ldk).next s.commitments c }) ∨
    (closeMachine ldk closing).next s op = s ∨
    (∃ (id : String) (close : NativeAssetClose) (state : AssetCommitmentChannelState),
      s.commitments.channels[id]? = some state ∧ Closes state close ∧
      (closeMachine ldk closing).next s op = { s with returned := s.returned ++ [close] }) ∨
    ∃ (index : ℕ) (close : NativeAssetClose) (next : NativeAssetCloseStore),
      op = .recordClose index ∧ s.returned[index]? = some close ∧
      s.closes.closes[close.closeId]? = none ∧
      next.closes = s.closes.closes.insert close.closeId close ∧
      (closeMachine ldk closing).next s op = { s with closes := next } := by
  cases op with
  | commitment c => exact .inl ⟨c, rfl, rfl⟩
  | cooperativeClose id localScriptKey remoteScriptKey =>
    refine .inr ?_
    simp only [closeMachine]
    cases hcall : cooperativeClose ldk closing s.commitments id localScriptKey remoteScriptKey with
    | error e => exact .inl rfl
    | ok close =>
      obtain ⟨state, hstate, hclose⟩ := cooperativeClose_spec hcall
      exact .inr (.inl ⟨id, close, state, hstate, hclose, rfl⟩)
  | recordClose index =>
    refine .inr ?_
    simp only [closeMachine]
    cases hget : s.returned[index]? with
    | none => exact .inl rfl
    | some close =>
      dsimp only
      cases hcall : s.closes.recordClose ldk closing close with
      | error e => exact .inl rfl
      | ok r =>
        obtain ⟨hfresh, hnext⟩ := recordClose_spec hcall
        exact .inr (.inr ⟨index, close, r.2, rfl, hget, hfresh, hnext, rfl⟩)

/-- The commitment store of a run is that of its commitment calls. -/
theorem run_commitments (ldk : Ldk) (closing : LdkClose ldk.ChannelDescriptor)
    (ops : List (CloseOperation ldk)) : ((closeMachine ldk closing).run ops).commitments =
      (commitmentMachine ldk).run ((closeMachine ldk closing).emitted commitmentOf ops) := by
  refine Machine.run_component CloseState.commitments rfl (fun s op => ?_) ops
  cases op with
  | commitment c => rfl
  | cooperativeClose id localScriptKey remoteScriptKey =>
    simp only [closeMachine, commitmentOf]
    cases cooperativeClose ldk closing s.commitments id localScriptKey remoteScriptKey <;> rfl
  | recordClose index =>
    simp only [closeMachine, commitmentOf]
    cases s.returned[index]? <;> rfl

end TapLdk.AssetCloseSpec
