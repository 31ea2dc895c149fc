import Mathlib
import TapLdk.AssetPayment

/-! Recovery after a restart: a checkpoint records the state of a channel at some stage of a
payment, and is recovered against stores that have to hold that state. -/
namespace TapLdk.AssetRecovery
open TapLdk.LibraryExcept TapLdk.LibraryMaps TapLdk.LibraryBytes TapLdk.LibrarySha256
open TapLdk.Mssmt TapLdk.Asset TapLdk.ProofHistory TapLdk.LdkFork TapLdk.RfqQuotes
open TapLdk.ChannelFunding TapLdk.Commitment TapLdk.AssetHtlc TapLdk.AssetPayment

def nativeAssetRecoveryCheckpointSchemaVersion : UInt32 := 1

inductive NativeAssetRecoveryStage where
  | funding
  | quoteAccepted
  | htlcAdded
  | commitmentSigned
  | settled
  | closePrepared
deriving DecidableEq

def NativeAssetRecoveryStage.asU8 : NativeAssetRecoveryStage → UInt8
  | .funding => 0
  | .quoteAccepted => 1
  | .htlcAdded => 2
  | .commitmentSigned => 3
  | .settled => 4
  | .closePrepared => 5

structure NativeAssetClosePreparation where
  channelId : String
  assetId : Bytes32
  commitmentNumber : UInt64
  localBalance : UInt64
  remoteBalance : UInt64
  totalBalance : UInt64
  closeTxDigest : Bytes32
  prepared : Bool
deriving DecidableEq

structure NativeAssetRecoveryCheckpoint where
  version : UInt32
  stage : NativeAssetRecoveryStage
  channelId : String
  assetId : Bytes32
  commitmentNumber : UInt64
  localBalance : UInt64
  remoteBalance : UInt64
  totalBalance : UInt64
  quoteId : Option String
  htlcId : Option String
  paymentId : Option String
  closePreparation : Option NativeAssetClosePreparation
  checkpointDigest : Bytes32
deriving DecidableEq

structure NativeAssetRecoveryStageReport where
  stage : NativeAssetRecoveryStage
  recovered : Bool
  channelId : String
  assetId : Bytes32
  commitmentNumber : UInt64
  localBalance : UInt64
  remoteBalance : UInt64
  totalBalance : UInt64
  quoteStatus : Option RfqQuoteStatus
  htlcStatus : Option AssetHtlcStatus
  paymentStatus : Option NativeAssetPaymentStatus
  closePrepared : Bool
  refusalReason : Option String
deriving DecidableEq

inductive NativeAssetProofRecoverySpendKind where
  | commitment
  | secondLevelHtlc
  | finalSweep
deriving DecidableEq

namespace NativeAssetProofRecoverySpendKind

def asLdkSpendKind {D : Type} (own : LdkOwnership D) : NativeAssetProofRecoverySpendKind → UInt8
  | .commitment => own.recoverySpendCommitment
  | .secondLevelHtlc => own.recoverySpendSecondLevelHtlc
  | .finalSweep => own.recoverySpendFinalSweep

def asStr : NativeAssetProofRecoverySpendKind → String
  | .commitment => "commitment"
  | .secondLevelHtlc => "second_level_htlc"
  | .finalSweep => "final_sweep"

def asU8 : NativeAssetProofRecoverySpendKind → UInt8
  | .commitment => 0
  | .secondLevelHtlc => 1
  | .finalSweep => 2

end NativeAssetProofRecoverySpendKind

inductive NativeAssetRecoveryError where
  | asset (error : AssetError)
  | proofHistory (error : ProofHistoryReplayError)
  | commitment (error : AssetCommitmentError)
  | ldkProofOwnership (error : TaprootAssetProofOwnershipError)
  | rfqStore (error : RfqQuoteError)
  | htlc (error : AssetHtlcError)
  | payment (error : NativeAssetPaymentError)
  | unsupportedVersion (version : UInt32)
  | missingRfqStore
  | missingHtlcStore
  | missingPaymentStore
  | missingClosePreparation
  | proofHistoryDoesNotMatchRecovery (spendKind : NativeAssetProofRecoverySpendKind)
  | staleCheckpoint (expected actual : UInt64)
  | recoveredStateMismatch
  | balanceOverflow
  | balanceNotConserved (localBalance remoteBalance totalBalance : UInt64)
  | storageInvariant (message : String)
  /-- Stands for a panic of the program. -/
  | panicked (message : String)
deriving DecidableEq

/-- The check that both kinds of record make of their balances. -/
def checkBalances (localBalance remoteBalance totalBalance : UInt64) :
    Except NativeAssetRecoveryError Unit := do
  let sum ← okOr (checkedAdd localBalance remoteBalance) .balanceOverflow
  rejectIf (sum ≠ totalBalance) (.balanceNotConserved localBalance remoteBalance totalBalance)

def closeTxDigestFromParts (channelId : String) (assetId : Bytes32)
    (commitmentNumber localBalance remoteBalance : UInt64) : Bytes32 :=
  sha256 (utf8 "tap-ldk:native-close-preparation:v1" ++ lengthPrefixed channelId ++
    assetId.bytes ++ u64Bytes commitmentNumber ++ u64Bytes localBalance ++ u64Bytes remoteBalance)

def closeTxDigest (state : AssetCommitmentChannelState) : Bytes32 :=
  closeTxDigestFromParts state.channelId state.assetId state.latestCommitmentNumber
    state.localBalance state.remoteBalance

namespace NativeAssetClosePreparation

def new (state : AssetCommitmentChannelState) : NativeAssetClosePreparation where
  channelId := state.channelId
  assetId := state.assetId
  commitmentNumber := state.latestCommitmentNumber
  localBalance := state.localBalance
  remoteBalance := state.remoteBalance
  totalBalance := state.totalAmount
  closeTxDigest := AssetRecovery.closeTxDigest state
  prepared := true

def validate (preparation : NativeAssetClosePreparation) :
    Except NativeAssetRecoveryError Unit := do
  rejectIf (preparation.prepared = false)
    (.storageInvariant "close preparation marker is not prepared")
  checkBalances preparation.localBalance preparation.remoteBalance preparation.totalBalance
  let expected := closeTxDigestFromParts preparation.channelId preparation.assetId
    preparation.commitmentNumber preparation.localBalance preparation.remoteBalance
  rejectIf (preparation.closeTxDigest ≠ expected)
    (.storageInvariant "close preparation digest mismatch")

end NativeAssetClosePreparation

def hashOptionalString : Option String → Bytes
  | some value => [1] ++ lengthPrefixed value
  | none => [0]

namespace NativeAssetRecoveryCheckpoint

def digest (checkpoint : NativeAssetRecoveryCheckpoint) : Bytes32 :=
  sha256 (utf8 "tap-ldk:native-asset-recovery-checkpoint:v1" ++ [checkpoint.stage.asU8] ++
    lengthPrefixed checkpoint.channelId ++ checkpoint.assetId.bytes ++
    u64Bytes checkpoint.commitmentNumber ++ u64Bytes checkpoint.localBalance ++
    u64Bytes checkpoint.remoteBalance ++ u64Bytes checkpoint.totalBalance ++
    hashOptionalString checkpoint.quoteId ++ hashOptionalString checkpoint.htlcId ++
    hashOptionalString checkpoint.paymentId ++
    checkpoint.closePreparation.elim [0] fun preparation => [1] ++ preparation.closeTxDigest.bytes)

def validate (checkpoint : NativeAssetRecoveryCheckpoint) :
    Except NativeAssetRecoveryError Unit := do
  rejectIf (checkpoint.version ≠ nativeAssetRecoveryCheckpointSchemaVersion)
    (.unsupportedVersion checkpoint.version)
  checkBalances checkpoint.localBalance checkpoint.remoteBalance checkpoint.totalBalance
  rejectIf (checkpoint.checkpointDigest ≠ checkpoint.digest)
    (.storageInvariant "recovery checkpoint digest mismatch")
  if checkpoint.stage = .closePrepared then
    let preparation ← okOr checkpoint.closePreparation .missingClosePreparation
    preparation.validate

def new (stage : NativeAssetRecoveryStage) (state : AssetCommitmentChannelState)
    (quoteId htlcId paymentId : Option String)
    (closePreparation : Option NativeAssetClosePreparation) :
    Except NativeAssetRecoveryError NativeAssetRecoveryCheckpoint := do
  let unsealed : NativeAssetRecoveryCheckpoint :=
    { version := nativeAssetRecoveryCheckpointSchemaVersion
      stage
      channelId := state.channelId
      assetId := state.assetId
      commitmentNumber := state.latestCommitmentNumber
      localBalance := state.localBalance
      remoteBalance := state.remoteBalance
      totalBalance := state.totalAmount
      quoteId
      htlcId
      paymentId
      closePreparation
      checkpointDigest := Bytes32.ZERO }
  let checkpoint := { unsealed with checkpointDigest := unsealed.digest }
  checkpoint.validate
  pure checkpoint

end NativeAssetRecoveryCheckpoint

/-- The lookup of an optional reference, for which its store has to be supplied. -/
def referenced {σ α : Type} (id : Option String) (store : Option σ)
    (missing : NativeAssetRecoveryError) (find : σ → String → Except NativeAssetRecoveryError α) :
    Except NativeAssetRecoveryError (Option α) :=
  match id, store with
  | some id, some store => (find store id).map some
  | some _, none => .error missing
  | none, _ => .ok none

def quoteStatusOf (store : RfqQuoteStore) (quoteId : String) :
    Except NativeAssetRecoveryError RfqQuoteStatus := do
  let quote ← (store.inspectQuote quoteId).mapError .rfqStore
  pure quote.status

def htlcStatusOf (store : AssetHtlcStore) (htlcId : String) :
    Except NativeAssetRecoveryError AssetHtlcStatus := do
  let htlc ← okOr store.htlcs[htlcId]? (.htlc (.unknownHtlc htlcId))
  pure htlc.status

def paymentStatusOf (store : NativeAssetPaymentStore) (paymentId : String) :
    Except NativeAssetRecoveryError NativeAssetPaymentStatus := do
  let payment ← (store.inspectPayment paymentId).mapError .payment
  pure payment.status

def recoverNativeAssetCheckpoint (checkpoint : NativeAssetRecoveryCheckpoint)
    (commitmentStore : AssetCommitmentStore) (rfqStore : Option RfqQuoteStore)
    (htlcStore : Option AssetHtlcStore) (paymentStore : Option NativeAssetPaymentStore) :
    Except NativeAssetRecoveryError NativeAssetRecoveryStageReport := do
  checkpoint.validate
  let state ← (commitmentStore.channelState checkpoint.channelId).mapError .commitment
  rejectIf (state.latestCommitmentNumber ≠ checkpoint.commitmentNumber)
    (.staleCheckpoint state.latestCommitmentNumber checkpoint.commitmentNumber)
  rejectIf (state.assetId ≠ checkpoint.assetId ∨ state.localBalance ≠ checkpoint.localBalance ∨
    state.remoteBalance ≠ checkpoint.remoteBalance ∨ state.totalAmount ≠ checkpoint.totalBalance)
    .recoveredStateMismatch
  let quoteStatus ← referenced checkpoint.quoteId rfqStore .missingRfqStore quoteStatusOf
  let htlcStatus ← referenced checkpoint.htlcId htlcStore .missingHtlcStore htlcStatusOf
  let paymentStatus ←
    referenced checkpoint.paymentId paymentStore .missingPaymentStore paymentStatusOf
  pure
    { stage := checkpoint.stage
      recovered := true
      channelId := checkpoint.channelId
      assetId := checkpoint.assetId
      commitmentNumber := checkpoint.commitmentNumber
      localBalance := checkpoint.localBalance
      remoteBalance := checkpoint.remoteBalance
      totalBalance := checkpoint.totalBalance
      quoteStatus
      htlcStatus
      paymentStatus
      closePrepared := checkpoint.closePreparation.isSome
      refusalReason := none }

theorem checkBalances_eq_ok {localBalance remoteBalance totalBalance : UInt64} {u : Unit} :
    checkBalances localBalance remoteBalance totalBalance = .ok u ↔
      checkedAdd localBalance remoteBalance = some totalBalance := by
  simp only [checkBalances, bind_eq_ok, okOr_eq_ok, rejectIf_eq_ok, ne_eq, not_not]
  constructor
  · rintro ⟨_, hsum, rfl⟩
    exact hsum
  · intro hsum
    exact ⟨_, hsum, rfl⟩

/-- A close preparation that is valid by itself. -/
structure Prepared (preparation : NativeAssetClosePreparation) : Prop where
  prepared : preparation.prepared = true
  balances : checkedAdd preparation.localBalance preparation.remoteBalance =
    some preparation.totalBalance
  digest : preparation.closeTxDigest = closeTxDigestFromParts preparation.channelId
    preparation.assetId preparation.commitmentNumber preparation.localBalance
    preparation.remoteBalance

theorem preparation_validate_eq_ok {preparation : NativeAssetClosePreparation} {u : Unit} :
    preparation.validate = .ok u ↔ Prepared preparation := by
  simp only [NativeAssetClosePreparation.validate, check_bind_eq_ok, rejectIf_eq_ok,
    checkBalances_eq_ok, ne_eq, not_not, Bool.not_eq_false]
  constructor
  · rintro ⟨hprepared, hbalances, hdigest⟩
    exact ⟨hprepared, hbalances, hdigest⟩
  · intro h
    exact ⟨h.prepared, h.balances, h.digest⟩

/-- A checkpoint that is sealed by its digest. -/
structure Sealed (checkpoint : NativeAssetRecoveryCheckpoint) : Prop where
  version : checkpoint.version = nativeAssetRecoveryCheckpointSchemaVersion
  balances : checkedAdd checkpoint.localBalance checkpoint.remoteBalance =
    some checkpoint.totalBalance
  digest : checkpoint.checkpointDigest = checkpoint.digest
  prepared : checkpoint.stage = .closePrepared →
    ∃ preparation, checkpoint.closePreparation = some preparation ∧ Prepared preparation

theorem checkpoint_validate_eq_ok {checkpoint : NativeAssetRecoveryCheckpoint} {u : Unit} :
    checkpoint.validate = .ok u ↔ Sealed checkpoint := by
  have hstage : (if checkpoint.stage = .closePrepared then do
        let preparation ← okOr checkpoint.closePreparation .missingClosePreparation
        preparation.validate
      else pure () : Except NativeAssetRecoveryError Unit) = .ok u ↔
      (checkpoint.stage = .closePrepared →
        ∃ preparation, checkpoint.closePreparation = some preparation ∧ Prepared preparation) := by
    by_cases h : checkpoint.stage = .closePrepared <;>
      simp [h, preparation_validate_eq_ok]
  simp only [NativeAssetRecoveryCheckpoint.validate, check_bind_eq_ok, rejectIf_eq_ok,
    checkBalances_eq_ok, ne_eq, not_not]
  constructor
  · rintro ⟨hversion, hbalances, hdigest, hrest⟩
    exact ⟨hversion, hbalances, hdigest, hstage.mp hrest⟩
  · intro h
    exact ⟨h.version, h.balances, h.digest, hstage.mpr h.prepared⟩

/-- The status reported for an optional reference is that of an entry it names. -/
def Reported {σ α β : Type} (id : Option String) (store : Option σ) (entry : σ → String → Option α)
    (statusOf : α → β) (status : Option β) : Prop :=
  match id with
  | none => status = none
  | some id => ∃ held a, store = some held ∧ entry held id = some a ∧ status = some (statusOf a)

theorem referenced_eq_ok {σ α β : Type} {id : Option String} {store : Option σ}
    {missing : NativeAssetRecoveryError} {find : σ → String → Except NativeAssetRecoveryError β}
    {entry : σ → String → Option α} {statusOf : α → β} {status : Option β}
    (hfind : ∀ held id b, find held id = .ok b ↔ ∃ a, entry held id = some a ∧ b = statusOf a) :
    referenced id store missing find = .ok status ↔ Reported id store entry statusOf status := by
  cases id with
  | none => simp [referenced, Reported, eq_comm]
  | some id =>
    cases store with
    | none => simp [referenced, Reported]
    | some held =>
      simp only [referenced, Reported, Option.some.injEq]
      constructor
      · intro h
        cases hcall : find held id with
        | error e => simp [hcall, Except.map] at h
        | ok b =>
          obtain ⟨a, ha, rfl⟩ := (hfind held id b).mp hcall
          simp only [hcall, Except.map, Except.ok.injEq] at h
          exact ⟨held, a, rfl, ha, h.symm⟩
      · rintro ⟨_, a, rfl, ha, rfl⟩
        rw [(hfind held id (statusOf a)).mpr ⟨a, ha, rfl⟩]
        rfl

/-- The commitment state of a checkpoint is the one a channel is in. -/
structure IsCurrent (checkpoint : NativeAssetRecoveryCheckpoint)
    (state : AssetCommitmentChannelState) : Prop where
  number : state.latestCommitmentNumber = checkpoint.commitmentNumber
  assetId : state.assetId = checkpoint.assetId
  localBalance : state.localBalance = checkpoint.localBalance
  remoteBalance : state.remoteBalance = checkpoint.remoteBalance
  total : state.totalAmount = checkpoint.totalBalance

/-- What a recovery requires, and the report it makes. -/
structure Recovers (checkpoint : NativeAssetRecoveryCheckpoint)
    (commitmentStore : AssetCommitmentStore) (rfqStore : Option RfqQuoteStore)
    (htlcStore : Option AssetHtlcStore) (paymentStore : Option NativeAssetPaymentStore)
    (report : NativeAssetRecoveryStageReport) : Prop where
  isSealed : Sealed checkpoint
  current : ∃ state, commitmentStore.channels[checkpoint.channelId]? = some state ∧
    IsCurrent checkpoint state
  quote : Reported checkpoint.quoteId rfqStore (fun s id => s.quotes[id]?) (·.status)
    report.quoteStatus
  htlc : Reported checkpoint.htlcId htlcStore (fun s id => s.htlcs[id]?) (·.status)
    report.htlcStatus
  payment : Reported checkpoint.paymentId paymentStore (fun s id => s.payments[id]?) (·.status)
    report.paymentStatus
  report : report = ⟨checkpoint.stage, true, checkpoint.channelId, checkpoint.assetId,
    checkpoint.commitmentNumber, checkpoint.localBalance, checkpoint.remoteBalance,
    checkpoint.totalBalance, report.quoteStatus, report.htlcStatus, report.paymentStatus,
    checkpoint.closePreparation.isSome, none⟩

theorem recover_eq_ok {checkpoint : NativeAssetRecoveryCheckpoint}
    {commitmentStore : AssetCommitmentStore} {rfqStore : Option RfqQuoteStore}
    {htlcStore : Option AssetHtlcStore} {paymentStore : Option NativeAssetPaymentStore}
    {report : NativeAssetRecoveryStageReport} :
    recoverNativeAssetCheckpoint checkpoint commitmentStore rfqStore htlcStore paymentStore =
      .ok report ↔ Recovers checkpoint commitmentStore rfqStore htlcStore paymentStore report := by
  have hquote (held : RfqQuoteStore) (id : String) (status : RfqQuoteStatus) :
      quoteStatusOf held id = .ok status ↔ ∃ quote, held.quotes[id]? = some quote ∧
        status = quote.status := by
    simp only [quoteStatusOf, RfqQuoteStore.inspectQuote, bind_eq_ok, mapError_eq_ok, okOr_eq_ok,
      pure_eq_ok, Except.ok.injEq, @eq_comm _ status]
  have hhtlc (held : AssetHtlcStore) (id : String) (status : AssetHtlcStatus) :
      htlcStatusOf held id = .ok status ↔ ∃ htlc, held.htlcs[id]? = some htlc ∧
        status = htlc.status := by
    simp only [htlcStatusOf, bind_eq_ok, okOr_eq_ok, pure_eq_ok, Except.ok.injEq, @eq_comm _ status]
  have hpayment (held : NativeAssetPaymentStore) (id : String) (status : NativeAssetPaymentStatus) :
      paymentStatusOf held id = .ok status ↔ ∃ payment, held.payments[id]? = some payment ∧
        status = payment.status := by
    simp only [paymentStatusOf, NativeAssetPaymentStore.inspectPayment, bind_eq_ok, mapError_eq_ok,
      okOr_eq_ok, pure_eq_ok, Except.ok.injEq, @eq_comm _ status]
  simp only [recoverNativeAssetCheckpoint, AssetCommitmentStore.channelState, bind_eq_ok,
    checkpoint_validate_eq_ok, mapError_eq_ok, okOr_eq_ok, rejectIf_eq_ok, exists_const, ne_eq,
    not_not, not_or, referenced_eq_ok hquote, referenced_eq_ok hhtlc, referenced_eq_ok hpayment,
    pure_eq_ok, Except.ok.injEq]
  constructor
  · rintro ⟨hsealed, state, hheld, hnumber, ⟨hasset, hlocal, hremote, htotal⟩, quoteStatus, hq,
      htlcStatus, hh, paymentStatus, hp, rfl⟩
    exact ⟨hsealed, ⟨state, hheld, hnumber, hasset, hlocal, hremote, htotal⟩, hq, hh, hp, rfl⟩
  · intro h
    obtain ⟨state, hheld, hcurrent⟩ := h.current
    exact ⟨h.isSealed, state, hheld, hcurrent.number, ⟨hcurrent.assetId, hcurrent.localBalance,
      hcurrent.remoteBalance, hcurrent.total⟩, _, h.quote, _, h.htlc, _, h.payment, h.report.symm⟩

/-- The checkpoint taken of a state. -/
structure CheckpointOf (state : AssetCommitmentChannelState)
    (checkpoint : NativeAssetRecoveryCheckpoint) : Prop where
  channelId : checkpoint.channelId = state.channelId
  isSealed : Sealed checkpoint
  current : IsCurrent checkpoint state

theorem new_spec {stage : NativeAssetRecoveryStage} {state : AssetCommitmentChannelState}
    {quoteId htlcId paymentId : Option String}
    {closePreparation : Option NativeAssetClosePreparation}
    {checkpoint : NativeAssetRecoveryCheckpoint}
    (h : NativeAssetRecoveryCheckpoint.new stage state quoteId htlcId paymentId closePreparation =
      .ok checkpoint) : CheckpointOf state checkpoint := by
  simp only [NativeAssetRecoveryCheckpoint.new, check_bind_eq_ok, checkpoint_validate_eq_ok,
    pure_eq_ok, Except.ok.injEq] at h
  obtain ⟨hsealed, rfl⟩ := h
  exact ⟨rfl, hsealed, rfl, rfl, rfl, rfl, rfl⟩

/-- A state whose balances add up has a checkpoint with any references, at every stage but the
one that asks for a close preparation. -/
theorem new_ok (stage : NativeAssetRecoveryStage) {state : AssetCommitmentChannelState}
    (closePreparation : Option NativeAssetClosePreparation)
    (hbalances : checkedAdd state.localBalance state.remoteBalance = some state.totalAmount)
    (hprepared : stage = .closePrepared →
      ∃ preparation, closePreparation = some preparation ∧ Prepared preparation)
    (quoteId htlcId paymentId : Option String) :
    ∃ checkpoint, NativeAssetRecoveryCheckpoint.new stage state quoteId htlcId paymentId
      closePreparation = .ok checkpoint ∧ checkpoint.quoteId = quoteId ∧
        checkpoint.htlcId = htlcId ∧ checkpoint.paymentId = paymentId ∧
        checkpoint.closePreparation = closePreparation := by
  simp only [NativeAssetRecoveryCheckpoint.new, check_bind_eq_ok, checkpoint_validate_eq_ok,
    pure_eq_ok, Except.ok.injEq]
  exact ⟨_, ⟨⟨rfl, hbalances, rfl, hprepared⟩, rfl⟩, rfl, rfl, rfl, rfl⟩

/-- An optional reference names an entry of its store. -/
def Names {σ α : Type} (id : Option String) (store : Option σ) (entry : σ → String → Option α) :
    Prop :=
  ∀ key, id = some key → ∃ held a, store = some held ∧ entry held key = some a

theorem names_none {σ α : Type} {store : Option σ} {entry : σ → String → Option α} :
    Names none store entry := by
  intro key h
  cases h

theorem reported_of_names {σ α β : Type} {id : Option String} {store : Option σ}
    {entry : σ → String → Option α} (h : Names id store entry) (statusOf : α → β) :
    ∃ status, Reported id store entry statusOf status := by
  cases id with
  | none => exact ⟨none, rfl⟩
  | some key =>
    obtain ⟨held, a, hheld, ha⟩ := h key rfl
    exact ⟨_, held, a, hheld, ha, rfl⟩

/-- Every reference of a checkpoint names an entry of the store supplied for it. -/
structure Named (checkpoint : NativeAssetRecoveryCheckpoint) (rfqStore : Option RfqQuoteStore)
    (htlcStore : Option AssetHtlcStore) (paymentStore : Option NativeAssetPaymentStore) : Prop where
  quote : Names checkpoint.quoteId rfqStore (fun s id => s.quotes[id]?)
  htlc : Names checkpoint.htlcId htlcStore (fun s id => s.htlcs[id]?)
  payment : Names checkpoint.paymentId paymentStore (fun s id => s.payments[id]?)

/-- A checkpoint recovers against a store that holds the state it was taken of. -/
theorem recovers_of_held {checkpoint : NativeAssetRecoveryCheckpoint}
    {commitmentStore : AssetCommitmentStore} {rfqStore : Option RfqQuoteStore}
    {htlcStore : Option AssetHtlcStore} {paymentStore : Option NativeAssetPaymentStore}
    {state : AssetCommitmentChannelState} (h : CheckpointOf state checkpoint)
    (hheld : commitmentStore.channels[checkpoint.channelId]? = some state)
    (hnamed : Named checkpoint rfqStore htlcStore paymentStore) :
    ∃ report, recoverNativeAssetCheckpoint checkpoint commitmentStore rfqStore htlcStore
      paymentStore = .ok report := by
  obtain ⟨quoteStatus, hquote⟩ := reported_of_names hnamed.quote (·.status)
  obtain ⟨htlcStatus, hhtlc⟩ := reported_of_names hnamed.htlc (·.status)
  obtain ⟨paymentStatus, hpayment⟩ := reported_of_names hnamed.payment (·.status)
  have hrecovers : Recovers checkpoint commitmentStore rfqStore htlcStore paymentStore
      ⟨checkpoint.stage, true, checkpoint.channelId, checkpoint.assetId,
        checkpoint.commitmentNumber, checkpoint.localBalance, checkpoint.remoteBalance,
        checkpoint.totalBalance, quoteStatus, htlcStatus, paymentStatus,
        checkpoint.closePreparation.isSome, none⟩ :=
    { isSealed := h.isSealed
      current := ⟨state, hheld, h.current⟩
      quote := hquote
      htlc := hhtlc
      payment := hpayment
      report := rfl }
  exact ⟨_, recover_eq_ok.mpr hrecovers⟩

end TapLdk.AssetRecovery
