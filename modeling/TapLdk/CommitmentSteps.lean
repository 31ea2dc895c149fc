import Mathlib
import TapLdk.ChannelFundingSpec
import TapLdk.Commitment
import TapLdk.LibraryRuns

/-! What the commitment store checks, what its two operations do when they succeed, and the
machine of all their calls. -/
namespace TapLdk.CommitmentSteps
open TapLdk.LibraryExcept TapLdk.LibraryMaps TapLdk.LibraryBytes TapLdk.LibrarySha256
open TapLdk.LibraryRuns TapLdk.Mssmt TapLdk.Asset TapLdk.ProofHistory TapLdk.TapVm TapLdk.LdkFork
open TapLdk.ChannelFunding TapLdk.Commitment

/-- A recorded commitment that agrees with its key and its channel. -/
structure CommitmentValid (state : AssetCommitmentChannelState) (n : UInt64)
    (c : StoredAssetCommitment) : Prop where
  number : n = c.commitmentNumber
  balances : checkedAdd c.localBalance c.remoteBalance = some state.totalAmount
  digest : c.stateDigest = commitmentStateDigest state.channelId state.assetId
    c.commitmentNumber c.localBalance c.remoteBalance

structure StateValid (ldk : Ldk) (state : AssetCommitmentChannelState) : Prop where
  balances : checkedAdd state.localBalance state.remoteBalance = some state.totalAmount
  unrevoked : state.revokedCommitmentNumbers[state.latestCommitmentNumber]? = none
  monitor : state.validateMonitor ldk = .ok ()
  nonces : ∀ (nonce : Bytes32) (n : UInt64), state.usedAssetNonces[nonce]? = some n →
    ∃ c, state.commitments[n]? = some c ∧ c.assetNonce = nonce
  commitments : ∀ (n : UInt64) (c : StoredAssetCommitment), state.commitments[n]? = some c →
    CommitmentValid state n c
  history : state.validateProofHistoryChain = .ok ()

theorem validateNonce_eq_ok {state : AssetCommitmentChannelState} {entry : Bytes32 × UInt64}
    {u : Unit} : state.validateNonce entry = .ok u ↔
      ∃ c, state.commitments[entry.2]? = some c ∧ c.assetNonce = entry.1 := by
  simp [AssetCommitmentChannelState.validateNonce]

theorem validateCommitment_eq_ok {state : AssetCommitmentChannelState}
    {entry : UInt64 × StoredAssetCommitment} {u : Unit} :
    state.validateCommitment entry = .ok u ↔ CommitmentValid state entry.1 entry.2 := by
  simp only [AssetCommitmentChannelState.validateCommitment, bind_eq_ok, rejectIf_eq_ok, ne_eq,
    not_not, okOr_eq_ok, exists_const]
  constructor
  · rintro ⟨hnumber, sum, hsum, rfl, hdigest⟩
    exact ⟨hnumber, hsum, hdigest⟩
  · rintro ⟨hnumber, hsum, hdigest⟩
    exact ⟨hnumber, _, hsum, rfl, hdigest⟩

theorem validate_eq_ok {ldk : Ldk} {state : AssetCommitmentChannelState} :
    state.validate ldk = .ok () ↔ StateValid ldk state := by
  simp only [AssetCommitmentChannelState.validate, bind_eq_ok, okOr_eq_ok, rejectIf_eq_ok, ne_eq,
    not_not, exists_const, forM_eq_ok, validateNonce_eq_ok, validateCommitment_eq_ok, Prod.forall,
    mem_toList_iff, Option.isSome_iff_ne_none]
  constructor
  · rintro ⟨sum, hsum, rfl, hunrevoked, _, hmonitor, hnonces, hcommitments, hhistory⟩
    exact ⟨hsum, hunrevoked, hmonitor, hnonces, hcommitments, hhistory⟩
  · intro h
    exact ⟨_, h.balances, rfl, h.unrevoked, (), h.monitor, h.nonces, h.commitments, h.history⟩

structure StoreValid (ldk : Ldk) (store : AssetCommitmentStore) : Prop where
  version : store.version = commitmentStoreSchemaVersion
  key : ∀ (id : String) (state : AssetCommitmentChannelState), store.channels[id]? = some state →
    id = state.channelId
  state : ∀ (id : String) (state : AssetCommitmentChannelState), store.channels[id]? = some state →
    StateValid ldk state

theorem store_validate_eq_ok {ldk : Ldk} {store : AssetCommitmentStore} :
    store.validate ldk = .ok () ↔ StoreValid ldk store := by
  simp only [AssetCommitmentStore.validate, AssetCommitmentStore.validateChannel, bind_eq_ok,
    rejectIf_eq_ok, ne_eq, not_not, exists_const, forM_eq_ok, Prod.forall, mem_toList_iff,
    validate_eq_ok]
  constructor
  · rintro ⟨hversion, hall⟩
    exact ⟨hversion, fun id state h => (hall id state h).1, fun id state h => (hall id state h).2⟩
  · intro h
    exact ⟨h.version, fun id state hs => ⟨h.key id state hs, h.state id state hs⟩⟩

theorem new_spec {ldk : Ldk} {channelId : String} {assetId stateDigest nonce signature : Bytes32}
    {number localBalance remoteBalance : UInt64} {root : StoredRootHashSum}
    {blob : AssetCommitmentMonitorBlob}
    (h : AssetCommitmentMonitorBlob.new ldk channelId assetId number localBalance remoteBalance
      stateDigest root nonce signature = .ok blob) : blob.fundingRoot = root := by
  simp only [AssetCommitmentMonitorBlob.new, bind_eq_ok, pure_eq_ok, Except.ok.injEq] at h
  obtain ⟨_, -, _, -, rfl⟩ := h
  rfl

/-- A state just taken over from a funded channel. -/
structure FromFunded (channel : StoredAssetChannel) (state : AssetCommitmentChannelState) : Prop where
  channelId : state.channelId = channel.channelId
  assetId : state.assetId = channel.assetId
  fundingOutpoint : state.fundingOutpoint = channel.fundingOutpoint
  totalAmount : state.totalAmount = channel.totalAmount
  number : state.latestCommitmentNumber = channel.monitor.commitmentNumber
  localBalance : state.localBalance = channel.localBalance
  remoteBalance : state.remoteBalance = channel.remoteBalance
  commitments : state.commitments = ∅
  revoked : state.revokedCommitmentNumbers = ∅
  nonces : state.usedAssetNonces = ∅
  signingKey : state.assetSigningKey = channel.fundingScriptKey
  root : state.monitorBlob.fundingRoot = channel.fundingTapAssetRoot
  fundingOutput : state.fundingProofHistoryOutputId = channel.fundingProofHistoryOutputId
  latestOutput : state.latestProofHistoryOutputId = channel.fundingProofHistoryOutputId

/-- What a successful initialisation does. -/
structure Initializes (ldk : Ldk) (store : AssetCommitmentStore) (channel : StoredAssetChannel)
    (state : AssetCommitmentChannelState) (next : AssetCommitmentStore) : Prop where
  fresh : store.channels[channel.channelId]? = none
  funded : FromFunded channel state
  store : next = store.putChannel channel.channelId state
  valid : StoreValid ldk next

theorem initializeChannel_spec {ldk : Ldk} {store next : AssetCommitmentStore}
    {channel : StoredAssetChannel} {state : AssetCommitmentChannelState}
    (h : store.initializeChannel ldk channel = .ok (state, next)) :
    Initializes ldk store channel state next := by
  simp only [AssetCommitmentStore.initializeChannel, AssetCommitmentChannelState.fromFundedChannel,
    bind_eq_ok, rejectIf_eq_ok, mapError_eq_ok, exists_const, pure_eq_ok, Except.ok.injEq,
    Prod.mk.injEq] at h
  obtain ⟨hfresh, _, ⟨blob, hblob, id, hid, rfl⟩, _, hvalid, rfl, rfl⟩ := h
  refine ⟨by simpa [Option.isSome_iff_ne_none] using hfresh, ?_, rfl,
    store_validate_eq_ok.mp hvalid⟩
  constructor
  case root => exact new_spec hblob
  all_goals rfl

/-- The metadata of the history record an update appends. -/
def updateMetadata (current : AssetCommitmentChannelState) (request : AssetCommitmentUpdateRequest)
    (snapshot : AssetCommitmentSnapshot) : CommitmentProofHistory :=
  current.commitmentProofHistoryMetadataFromParts snapshot.commitmentNumber snapshot.localBalance
    snapshot.remoteBalance snapshot.stateDigest request.virtualTxId
    current.latestProofHistoryOutputId

theorem movedBalances_eq_ok {state : AssetCommitmentChannelState} {sent received : UInt64}
    {localBalance remoteBalance : UInt64}
    (h : state.movedBalances sent received = .ok (localBalance, remoteBalance)) :
    localBalance.toNat + sent.toNat = state.localBalance.toNat + received.toNat ∧
      remoteBalance.toNat + received.toNat = state.remoteBalance.toNat + sent.toNat := by
  simp only [AssetCommitmentChannelState.movedBalances, bind_eq_ok, okOr_eq_ok, pure_eq_ok,
    Except.ok.injEq, Prod.mk.injEq, checkedSub_eq_some, checkedAdd_eq_some] at h
  obtain ⟨_, hlocal, _, hremote, _, hlocal', _, hremote', rfl, rfl⟩ := h
  omega

/-- What the checks on a request establish, and the snapshot they return. -/
structure UpdateValid (state : AssetCommitmentChannelState) (request : AssetCommitmentUpdateRequest)
    (snapshot : AssetCommitmentSnapshot) : Prop where
  channelId : request.channelId = state.channelId
  number : request.nextCommitmentNumber.toNat = state.latestCommitmentNumber.toNat + 1
  nonce : state.usedAssetNonces[request.assetNonce]? = none
  balances : state.movedBalances request.localToRemote request.remoteToLocal =
    .ok (snapshot.localBalance, snapshot.remoteBalance)
  conserved : checkedAdd snapshot.localBalance snapshot.remoteBalance = some state.totalAmount
  virtualTxId : (state.updateTransition snapshot.localBalance snapshot.remoteBalance
    request.assetNonce).txId = .ok request.virtualTxId
  witnessDigest : (state.updateTransition snapshot.localBalance snapshot.remoteBalance
    request.assetNonce).witnessDigest = .ok request.witnessDigest
  signature : request.assetSignature = expectedAssetSignature state.channelId state.assetId
    state.assetSigningKey request.nextCommitmentNumber snapshot.localBalance
    snapshot.remoteBalance request.assetNonce request.virtualTxId request.witnessDigest
  snapshot : snapshot = ⟨state.channelId, state.assetId, request.nextCommitmentNumber,
    snapshot.localBalance, snapshot.remoteBalance, state.totalAmount,
    commitmentStateDigest state.channelId state.assetId request.nextCommitmentNumber
      snapshot.localBalance snapshot.remoteBalance⟩

theorem validateUpdate_eq_ok {state : AssetCommitmentChannelState}
    {request : AssetCommitmentUpdateRequest} {snapshot : AssetCommitmentSnapshot} :
    state.validateUpdate request = .ok snapshot ↔ UpdateValid state request snapshot := by
  simp only [AssetCommitmentChannelState.validateUpdate, bind_eq_ok, rejectIf_eq_ok, okOr_eq_ok,
    mapError_eq_ok, exists_const, ne_eq, not_not, not_or, Option.isSome_iff_ne_none, pure_eq_ok,
    Except.ok.injEq, Prod.exists, checkedAdd_eq_some]
  constructor
  · rintro ⟨hid, _, hnumber, rfl, hnonce, localBalance, remoteBalance, hmoved, sum, hsum, rfl, txId,
      htx, digest, hdigest, ⟨rfl, rfl⟩, hsignature, rfl⟩
    exact ⟨hid, hnumber, hnonce, hmoved, checkedAdd_eq_some.mpr hsum, htx, hdigest, hsignature, rfl⟩
  · intro h
    exact ⟨h.channelId, _, h.number, rfl, h.nonce, _, _, h.balances, _,
      checkedAdd_eq_some.mp h.conserved, rfl, _, h.virtualTxId, _, h.witnessDigest, ⟨rfl, rfl⟩,
      h.signature, h.snapshot.symm⟩

theorem validateCommitmentProofHistory_spec {state : AssetCommitmentChannelState}
    {request : AssetCommitmentUpdateRequest} {snapshot : AssetCommitmentSnapshot}
    {history : CommitmentProofHistory}
    (h : state.validateCommitmentProofHistory request snapshot = .ok history) :
    history = updateMetadata state request snapshot := by
  simp only [AssetCommitmentChannelState.validateCommitmentProofHistory, bind_eq_ok,
    pure_eq_ok, Except.ok.injEq] at h
  obtain ⟨_, -, _, -, _, -, _, -, _, -, _, -, rfl⟩ := h
  rfl

/-- What an update requires of the state it is applied to, and the state it leads to. -/
structure UpdateStep (current : AssetCommitmentChannelState) (request : AssetCommitmentUpdateRequest)
    (snapshot : AssetCommitmentSnapshot) (updated : AssetCommitmentChannelState) : Prop where
  checked : UpdateValid current request snapshot
  updated : ∃ blob, blob.fundingRoot = current.monitorBlob.fundingRoot ∧
    updated = { current.recordCommitment request snapshot
      (updateMetadata current request snapshot) with monitorBlob := blob }

/-- What a successful update does. -/
structure Applies (ldk : Ldk) (store : AssetCommitmentStore)
    (request : AssetCommitmentUpdateRequest) (current : AssetCommitmentChannelState)
    (snapshot : AssetCommitmentSnapshot) (updated : AssetCommitmentChannelState)
    (next : AssetCommitmentStore) : Prop where
  held : store.channels[request.channelId]? = some current
  heldValid : StateValid ldk current
  step : UpdateStep current request snapshot updated
  store : next = store.putChannel request.channelId updated
  valid : StoreValid ldk next

theorem applyUpdate_spec {ldk : Ldk} {store next : AssetCommitmentStore}
    {request : AssetCommitmentUpdateRequest} {snapshot : AssetCommitmentSnapshot}
    (h : store.applyUpdate ldk request = .ok (snapshot, next)) :
    ∃ current updated, Applies ldk store request current snapshot updated next := by
  simp only [AssetCommitmentStore.applyUpdate, bind_eq_ok, okOr_eq_ok, pure_eq_ok, Except.ok.injEq,
    Prod.mk.injEq] at h
  obtain ⟨current, hcurrent, _, hvalid, _, hupdate, history, hhistory, blob, hblob, _, hnext, rfl,
    rfl⟩ := h
  have hchecked := validateUpdate_eq_ok.mp hupdate
  obtain rfl := validateCommitmentProofHistory_spec hhistory
  have hid : request.channelId = current.channelId := hchecked.channelId
  exact ⟨current, _,
    { held := hcurrent
      heldValid := validate_eq_ok.mp hvalid
      step := ⟨hchecked, blob, new_spec hblob, rfl⟩
      store := by rw [hid]; rfl
      valid := store_validate_eq_ok.mp hnext }⟩

/-- A channel as some funding call returned it. -/
structure FundedChannel (ldk : Ldk) where
  channel : StoredAssetChannel
  funded : ∃ store request next, AssetChannelStore.fundChannel ldk store request =
    .ok (channel, next)

inductive CommitmentOperation (ldk : Ldk) where
  | initializeChannel (channel : FundedChannel ldk)
  | applyUpdate (request : AssetCommitmentUpdateRequest)

/-- The store after a call, which is the store before it when the call fails. -/
def storeAfter {ε α σ : Type} (s : σ) : Except ε (α × σ) → σ
  | .ok (_, next) => next
  | .error _ => s

@[simp] theorem storeAfter_ok {ε α σ : Type} (s : σ) (a : α) (next : σ) :
    storeAfter s (.ok (a, next) : Except ε (α × σ)) = next := rfl

@[simp] theorem storeAfter_error {ε α σ : Type} (s : σ) (e : ε) :
    storeAfter s (.error e : Except ε (α × σ)) = s := rfl

def commitmentMachine (ldk : Ldk) : Machine AssetCommitmentStore (CommitmentOperation ldk) where
  start := .default
  next store
    | .initializeChannel c => storeAfter store (store.initializeChannel ldk c.channel)
    | .applyUpdate request => storeAfter store (store.applyUpdate ldk request)

/-- An update of a channel that succeeds. -/
def updatesChannel (ldk : Ldk) (id : String) (store : AssetCommitmentStore) :
    CommitmentOperation ldk → Bool
  | .initializeChannel _ => false
  | .applyUpdate request => (store.applyUpdate ldk request).isOk && request.channelId == id

/-- What a step of the machine does: nothing, one initialisation or one update. -/
theorem next_cases {ldk : Ldk} (store : AssetCommitmentStore) (op : CommitmentOperation ldk) :
    (commitmentMachine ldk).next store op = store ∧ (∀ id, updatesChannel ldk id store op = false) ∨
    (∃ c state, op = .initializeChannel c ∧ Initializes ldk store c.channel state
      ((commitmentMachine ldk).next store op)) ∨
    ∃ request current snapshot updated, op = .applyUpdate request ∧
      (∀ id, updatesChannel ldk id store op = (request.channelId == id)) ∧
      Applies ldk store request current snapshot updated
        ((commitmentMachine ldk).next store op) := by
  cases op with
  | initializeChannel c =>
    simp only [commitmentMachine, updatesChannel]
    cases hcall : store.initializeChannel ldk c.channel with
    | error e => exact .inl ⟨rfl, fun _ => trivial⟩
    | ok r => exact .inr (.inl ⟨c, r.1, rfl, initializeChannel_spec hcall⟩)
  | applyUpdate request =>
    simp only [commitmentMachine, updatesChannel]
    cases hcall : store.applyUpdate ldk request with
    | error e => exact .inl ⟨rfl, fun _ => rfl⟩
    | ok r =>
      obtain ⟨current, updated, happlies⟩ := applyUpdate_spec hcall
      exact .inr (.inr ⟨request, current, r.1, updated, rfl, fun _ => rfl, happlies⟩)

end TapLdk.CommitmentSteps
