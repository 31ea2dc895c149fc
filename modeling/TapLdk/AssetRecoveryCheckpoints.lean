import Mathlib
import TapLdk.AssetPaymentRuns
import TapLdk.AssetRecovery
import TapLdk.RegtestChannel

/-! Which checkpoints recover: those whose channel has not been updated since they were taken,
whatever the HTLC, payment, quote and close preparation they refer to. -/
namespace TapLdk.AssetRecoveryCheckpoints
open TapLdk.LibraryMaps TapLdk.LibraryBytes TapLdk.LibraryRuns TapLdk.Mssmt TapLdk.Asset TapLdk.Proof
open TapLdk.LdkFork TapLdk.RfqQuotes TapLdk.Commitment TapLdk.CommitmentSteps
open TapLdk.CommitmentStory TapLdk.AssetHtlc TapLdk.AssetPayment TapLdk.AssetPaymentRuns
open TapLdk.AssetRecovery TapLdk.RegtestChannel

/-- The state of a recovered checkpoint is the channel's, its references are entries of the
stores, and a close that is due has been prepared. -/
structure BoundToStores (checkpoint : NativeAssetRecoveryCheckpoint)
    (commitmentStore : AssetCommitmentStore) (rfqStore : Option RfqQuoteStore)
    (htlcStore : Option AssetHtlcStore) (paymentStore : Option NativeAssetPaymentStore)
    (report : NativeAssetRecoveryStageReport) : Prop where
  current : ∃ state, commitmentStore.channels[checkpoint.channelId]? = some state ∧
    IsCurrent checkpoint state
  quote : Reported checkpoint.quoteId rfqStore (fun s id => s.quotes[id]?) (·.status)
    report.quoteStatus
  htlc : Reported checkpoint.htlcId htlcStore (fun s id => s.htlcs[id]?) (·.status)
    report.htlcStatus
  payment : Reported checkpoint.paymentId paymentStore (fun s id => s.payments[id]?) (·.status)
    report.paymentStatus
  prepared : checkpoint.stage = .closePrepared →
    ∃ preparation, checkpoint.closePreparation = some preparation ∧ Prepared preparation

def foreignQuote : StoredRfqQuote where
  quoteId := "quote"
  peer := "alice"
  assetId := Bytes32.ZERO
  assetAmount := 1
  btcMsat := 100
  expiryUnixSeconds := 2000
  invoiceContext := Bytes32.ZERO
  scidAlias := rfqAliasBase
  replayDomain := "domain"
  status := .used
  createdAtUnixSeconds := 1000
  acceptedAtUnixSeconds := some 1000
  rejectedAtUnixSeconds := none
  rejectedReason := none
  expiredAtUnixSeconds := none
  usedAtUnixSeconds := some 1000

def foreignHtlc : StoredAssetHtlc where
  htlcId := "htlc"
  channelId := "other"
  assetId := Bytes32.ZERO
  assetAmount := 1
  quoteId := Bytes32.ZERO
  btcMsat := 100
  paymentHash := Bytes32.ZERO
  status := .settled

def foreignPayment : NativeAssetPayment where
  paymentId := "payment"
  channelId := "other"
  senderPeer := "alice"
  receiverPeer := "bob"
  assetId := Bytes32.ZERO
  assetAmount := 1
  quoteId := "quote"
  btcMsat := 100
  paymentHash := Bytes32.ZERO
  htlcId := some "htlc"
  commitmentNumber := some 7
  status := .settled
  failureReason := none
  senderBalanceAfter := 1
  receiverBalanceAfter := 2
  totalBalance := 3

def foreignPreparation (prepared : Bool) : NativeAssetClosePreparation where
  channelId := "other"
  assetId := Bytes32.ZERO
  commitmentNumber := 7
  localBalance := 1
  remoteBalance := 2
  totalBalance := 3
  closeTxDigest := closeTxDigestFromParts "other" Bytes32.ZERO 7 1 2
  prepared

def foreignQuotes : RfqQuoteStore :=
  { RfqQuoteStore.default with quotes := (∅ : BTreeMap String StoredRfqQuote).insert "quote" foreignQuote }

def foreignHtlcs : AssetHtlcStore :=
  ⟨(∅ : BTreeMap String StoredAssetHtlc).insert "htlc" foreignHtlc⟩

def foreignPayments : NativeAssetPaymentStore :=
  { NativeAssetPaymentStore.default with
    payments := (∅ : BTreeMap String NativeAssetPayment).insert "payment" foreignPayment }

/-- A checkpoint of the regtest channel, taken with artefacts that are all of another channel and
of another asset, and its recovery. -/
structure ForeignTaken (stage : NativeAssetRecoveryStage) (prepared : Bool)
    (store : AssetCommitmentStore) (state : AssetCommitmentChannelState)
    (checkpoint : NativeAssetRecoveryCheckpoint) (report : NativeAssetRecoveryStageReport) :
    Prop where
  held : store.channels[regtestChannelId]? = some state
  creates : NativeAssetRecoveryCheckpoint.new stage state (some "quote") (some "htlc")
    (some "payment") (some (foreignPreparation prepared)) = .ok checkpoint
  recovers : recoverNativeAssetCheckpoint checkpoint store (some foreignQuotes) (some foreignHtlcs)
    (some foreignPayments) = .ok report
  channelId : checkpoint.channelId = regtestChannelId
  assetId : checkpoint.assetId = regtestAsset
  quoteId : checkpoint.quoteId = some "quote"
  htlcId : checkpoint.htlcId = some "htlc"
  paymentId : checkpoint.paymentId = some "payment"
  closePreparation : checkpoint.closePreparation = some (foreignPreparation prepared)

theorem foreignQuotes_held : foreignQuotes.quotes["quote"]? = some foreignQuote :=
  get_insert_self ..

theorem foreignHtlcs_held : foreignHtlcs.htlcs["htlc"]? = some foreignHtlc := get_insert_self ..

theorem foreignPayments_held : foreignPayments.payments["payment"]? = some foreignPayment :=
  get_insert_self ..

/-- Every stage accepts such artefacts, the last one only with a prepared close. -/
theorem foreign_taken (stage : NativeAssetRecoveryStage) {prepared : Bool}
    (hprepared : stage = .closePrepared → prepared = true) :
    ∃ store state checkpoint report, ForeignTaken stage prepared store state checkpoint report := by
  obtain ⟨c, root, id, state, updated, request, snapshot, h⟩ := regtest_run
  have hbalances : checkedAdd state.localBalance state.remoteBalance = some state.totalAmount := by
    rw [h.before.localBalance, h.before.remoteBalance, h.before.total]
    rfl
  have hclosing : stage = .closePrepared →
      ∃ preparation, some (foreignPreparation prepared) = some preparation ∧ Prepared preparation :=
    fun hstage => ⟨_, rfl, hprepared hstage, rfl, rfl⟩
  obtain ⟨checkpoint, hnew, hquote, hhtlc, hpayment, hclose⟩ :=
    new_ok stage _ hbalances hclosing (some "quote") (some "htlc") (some "payment")
  have hof := new_spec hnew
  have hchannel : checkpoint.channelId = regtestChannelId := hof.channelId.trans h.before.channelId
  have hnamed : Named checkpoint (some foreignQuotes) (some foreignHtlcs) (some foreignPayments) := by
    constructor
    · intro key hkey
      rw [hquote] at hkey
      obtain rfl := Option.some.inj hkey
      exact ⟨_, _, rfl, foreignQuotes_held⟩
    · intro key hkey
      rw [hhtlc] at hkey
      obtain rfl := Option.some.inj hkey
      exact ⟨_, _, rfl, foreignHtlcs_held⟩
    · intro key hkey
      rw [hpayment] at hkey
      obtain rfl := Option.some.inj hkey
      exact ⟨_, _, rfl, foreignPayments_held⟩
  let store := AssetCommitmentStore.default.putChannel regtestChannelId state
  have hheld : store.channels[regtestChannelId]? = some state := get_insert_self ..
  have hheldOf : store.channels[checkpoint.channelId]? = some state := hchannel ▸ hheld
  obtain ⟨report, hreport⟩ := recovers_of_held hof hheldOf hnamed
  exact ⟨store, state, checkpoint, report,
    { held := hheld
      creates := hnew
      recovers := hreport
      channelId := hchannel
      assetId := hof.current.assetId.symm.trans h.before.assetId
      quoteId := hquote
      htlcId := hhtlc
      paymentId := hpayment
      closePreparation := hclose }⟩

theorem recovered_checkpoint_bound {checkpoint : NativeAssetRecoveryCheckpoint}
    {commitmentStore : AssetCommitmentStore} {rfqStore : Option RfqQuoteStore}
    {htlcStore : Option AssetHtlcStore} {paymentStore : Option NativeAssetPaymentStore}
    {report : NativeAssetRecoveryStageReport}
    (h : recoverNativeAssetCheckpoint checkpoint commitmentStore rfqStore htlcStore paymentStore =
      .ok report) :
    BoundToStores checkpoint commitmentStore rfqStore htlcStore paymentStore report := by
  have hrecovers := recover_eq_ok.mp h
  exact
    { current := hrecovers.current
      quote := hrecovers.quote
      htlc := hrecovers.htlc
      payment := hrecovers.payment
      prepared := hrecovers.isSealed.prepared }

/-- A checkpoint of the regtest channel with a quote, an HTLC, a payment and a prepared close
recovers and is bound to the entries it names. -/
theorem recovered_checkpoint_bound_regtest : ∃ store state checkpoint report,
    NativeAssetRecoveryCheckpoint.new .closePrepared state (some "quote") (some "htlc")
      (some "payment") (some (foreignPreparation true)) = .ok checkpoint ∧
    recoverNativeAssetCheckpoint checkpoint store (some foreignQuotes) (some foreignHtlcs)
      (some foreignPayments) = .ok report ∧
    BoundToStores checkpoint store (some foreignQuotes) (some foreignHtlcs) (some foreignPayments)
      report := by
  obtain ⟨store, state, checkpoint, report, h⟩ := foreign_taken .closePrepared (fun _ => rfl)
  exact ⟨store, state, checkpoint, report, h.creates, h.recovers, recovered_checkpoint_bound h.recovers⟩

def OwnQuote (checkpoint : NativeAssetRecoveryCheckpoint) (store : RfqQuoteStore) : Prop :=
  ∀ (id : String) (quote : StoredRfqQuote), checkpoint.quoteId = some id →
    store.quotes[id]? = some quote → quote.assetId = checkpoint.assetId

def OwnHtlc (checkpoint : NativeAssetRecoveryCheckpoint) (store : AssetHtlcStore) : Prop :=
  ∀ (id : String) (htlc : StoredAssetHtlc), checkpoint.htlcId = some id →
    store.htlcs[id]? = some htlc →
      htlc.channelId = checkpoint.channelId ∧ htlc.assetId = checkpoint.assetId

def OwnPayment (checkpoint : NativeAssetRecoveryCheckpoint) (store : NativeAssetPaymentStore) :
    Prop :=
  ∀ (id : String) (payment : NativeAssetPayment), checkpoint.paymentId = some id →
    store.payments[id]? = some payment →
      payment.channelId = checkpoint.channelId ∧ payment.assetId = checkpoint.assetId

/-- The channel, the asset and the allocation of a close preparation are the checkpoint's. -/
structure SameAllocation (checkpoint : NativeAssetRecoveryCheckpoint)
    (preparation : NativeAssetClosePreparation) : Prop where
  channelId : preparation.channelId = checkpoint.channelId
  assetId : preparation.assetId = checkpoint.assetId
  number : preparation.commitmentNumber = checkpoint.commitmentNumber
  localBalance : preparation.localBalance = checkpoint.localBalance
  remoteBalance : preparation.remoteBalance = checkpoint.remoteBalance

def OwnPreparation (checkpoint : NativeAssetRecoveryCheckpoint) : Prop :=
  ∀ preparation, checkpoint.closePreparation = some preparation →
    Prepared preparation ∧ SameAllocation checkpoint preparation

theorem ForeignTaken.not_own {stage : NativeAssetRecoveryStage} {prepared : Bool}
    {store : AssetCommitmentStore} {state : AssetCommitmentChannelState}
    {checkpoint : NativeAssetRecoveryCheckpoint} {report : NativeAssetRecoveryStageReport}
    (h : ForeignTaken stage prepared store state checkpoint report) :
    ¬ OwnQuote checkpoint foreignQuotes ∧ ¬ OwnHtlc checkpoint foreignHtlcs ∧
      ¬ OwnPayment checkpoint foreignPayments ∧ ¬ OwnPreparation checkpoint := by
  have hother : "other" ≠ regtestChannelId := by decide
  have hzero : Bytes32.ZERO ≠ regtestAsset := by decide
  refine ⟨?_, ?_, ?_, ?_⟩
  · intro hown
    exact hzero ((hown _ _ h.quoteId foreignQuotes_held).trans h.assetId)
  · intro hown
    exact hother ((hown _ _ h.htlcId foreignHtlcs_held).1.trans h.channelId)
  · intro hown
    exact hother ((hown _ _ h.paymentId foreignPayments_held).1.trans h.channelId)
  · intro hown
    exact hother ((hown _ h.closePreparation).2.channelId.trans h.channelId)

/-- A checkpoint of the initialised regtest channel recovers with a quote, an HTLC, a payment and
a close preparation that are none of its own, and with one that was never prepared. -/
theorem foreign_artefacts_recovered :
    (∃ store state checkpoint report, store.channels[regtestChannelId]? = some state ∧
      NativeAssetRecoveryCheckpoint.new .closePrepared state (some "quote") (some "htlc")
        (some "payment") (some (foreignPreparation true)) = .ok checkpoint ∧
      recoverNativeAssetCheckpoint checkpoint store (some foreignQuotes) (some foreignHtlcs)
        (some foreignPayments) = .ok report ∧
      ¬ OwnQuote checkpoint foreignQuotes ∧ ¬ OwnHtlc checkpoint foreignHtlcs ∧
        ¬ OwnPayment checkpoint foreignPayments ∧ ¬ OwnPreparation checkpoint) ∧
    ∃ store state checkpoint report, store.channels[regtestChannelId]? = some state ∧
      NativeAssetRecoveryCheckpoint.new .settled state (some "quote") (some "htlc")
        (some "payment") (some (foreignPreparation false)) = .ok checkpoint ∧
      recoverNativeAssetCheckpoint checkpoint store (some foreignQuotes) (some foreignHtlcs)
        (some foreignPayments) = .ok report ∧ ¬ OwnPreparation checkpoint ∧
        ¬ Prepared (foreignPreparation false) := by
  have hunprepared : ¬ Prepared (foreignPreparation false) := by
    intro h
    cases h.prepared
  constructor
  · obtain ⟨store, state, checkpoint, report, h⟩ := foreign_taken .closePrepared (fun _ => rfl)
    exact ⟨store, state, checkpoint, report, h.held, h.creates, h.recovers, h.not_own⟩
  · obtain ⟨store, state, checkpoint, report, h⟩ := @foreign_taken .settled false (by simp)
    refine ⟨store, state, checkpoint, report, h.held, h.creates, h.recovers, ?_, hunprepared⟩
    exact h.not_own.2.2.2

/-- A step that applies an update to a channel, by itself or in a payment. -/
def movesChannel (ldk : Ldk) (id : String) (s : PaymentStores) (op : PaymentOperation ldk) : Bool :=
  (commitmentCall ldk s op).any (updatesChannel ldk id s.commitments)

/-- No step of `later`, taken after `ops`, applies an update to the channel. -/
def Untouched (ldk : Ldk) (ops later : List (PaymentOperation ldk)) (id : String) : Prop :=
  (paymentMachine ldk).Quiet (movesChannel ldk id) ops later

/-- A checkpoint taken of the state a channel is in after some steps. -/
def TakenAfter (ldk : Ldk) (ops : List (PaymentOperation ldk)) (id : String)
    (checkpoint : NativeAssetRecoveryCheckpoint) : Prop :=
  ∃ stage state quoteId htlcId paymentId closePreparation,
    ((paymentMachine ldk).run ops).commitments.channels[id]? = some state ∧
      NativeAssetRecoveryCheckpoint.new stage state quoteId htlcId paymentId closePreparation =
        .ok checkpoint

/-- The report tells the number and the balances that a channel has now. -/
structure ReportsCurrent (store : AssetCommitmentStore) (id : String)
    (state : AssetCommitmentChannelState) (report : NativeAssetRecoveryStageReport) : Prop where
  held : store.channels[id]? = some state
  channelId : report.channelId = id
  assetId : report.assetId = state.assetId
  number : report.commitmentNumber = state.latestCommitmentNumber
  localBalance : report.localBalance = state.localBalance
  remoteBalance : report.remoteBalance = state.remoteBalance
  total : report.totalBalance = state.totalAmount

section Run

variable {ldk : Ldk} {ops later : List (PaymentOperation ldk)} {id : String}
  {state : AssetCommitmentChannelState}

theorem updates_eq_count (ldk : Ldk) (ops : List (PaymentOperation ldk)) (id : String) :
    updates ldk (commitmentCalls ldk ops) id =
      (paymentMachine ldk).count (movesChannel ldk id) ops := by
  have hcount := Machine.count_component (M := paymentMachine ldk) (N := commitmentMachine ldk)
    (·.commitments) rfl (fun s op => (payment_step ldk s op).commitments) (updatesChannel ldk id) ops
  exact hcount

/-- The latest commitment number of a held channel counts the updates applied to it. -/
theorem latest_eq_count
    (hheld : ((paymentMachine ldk).run ops).commitments.channels[id]? = some state) :
    state.channelId = id ∧ state.latestCommitmentNumber.toNat =
      (paymentMachine ldk).count (movesChannel ldk id) ops := by
  rw [run_commitments] at hheld
  obtain ⟨channel, hfrom, hstory⟩ := (story_run ldk _).channel id state hheld
  obtain ⟨_, _, _, _, -, -, hid, -⟩ := hfrom
  exact ⟨hstory.channelId.trans hid, by rw [hstory.latest, updates_eq_count]⟩

theorem held_call {store : AssetCommitmentStore} {call : CommitmentOperation ldk}
    (hquiet : updatesChannel ldk id store call = false)
    (hheld : store.channels[id]? = some state) :
    ((commitmentMachine ldk).next store call).channels[id]? = some state := by
  rcases next_cases store call with ⟨hsame, -⟩ | ⟨c, taken, -, hinit⟩ |
    ⟨request, current, snapshot, updated, -, hcount, happlies⟩
  · rwa [hsame]
  · have hne : id ≠ c.channel.channelId := by
      intro heq
      rw [heq, hinit.fresh] at hheld
      cases hheld
    rwa [hinit.store, AssetCommitmentStore.putChannel, get_insert_ne hne]
  · have hne : id ≠ request.channelId := by
      intro heq
      rw [hcount, heq, beq_self_eq_true] at hquiet
      cases hquiet
    rwa [happlies.store, AssetCommitmentStore.putChannel, get_insert_ne hne]

/-- An untouched channel stays in its state, whatever happens to the others. -/
theorem held_untouched (huntouched : Untouched ldk ops later id)
    (hheld : ((paymentMachine ldk).run ops).commitments.channels[id]? = some state) :
    ((paymentMachine ldk).run (ops ++ later)).commitments.channels[id]? = some state := by
  refine Machine.quiet_induction (fun s => s.commitments.channels[id]? = some state) ?_ hheld huntouched
  intro s op hquiet hheld
  rw [(payment_step ldk s op).commitments]
  rw [movesChannel] at hquiet
  cases hcall : commitmentCall ldk s op with
  | none => exact hheld
  | some call =>
    rw [hcall, Option.any_some] at hquiet
    exact held_call hquiet hheld

end Run

/-- A checkpoint taken at one point of a run recovers at a later point exactly when no update was
applied to its channel in between, and then reports the channel as it is. -/
theorem current_checkpoint_recovers {ldk : Ldk} {ops : List (PaymentOperation ldk)} {id : String}
    {checkpoint : NativeAssetRecoveryCheckpoint} {rfqStore : Option RfqQuoteStore}
    {htlcStore : Option AssetHtlcStore} {paymentStore : Option NativeAssetPaymentStore}
    (htaken : TakenAfter ldk ops id checkpoint)
    (hnamed : Named checkpoint rfqStore htlcStore paymentStore)
    (later : List (PaymentOperation ldk)) :
    ((∃ report, recoverNativeAssetCheckpoint checkpoint
        ((paymentMachine ldk).run (ops ++ later)).commitments rfqStore htlcStore paymentStore =
          .ok report) ↔ Untouched ldk ops later id) ∧
      ∀ report, recoverNativeAssetCheckpoint checkpoint
        ((paymentMachine ldk).run (ops ++ later)).commitments rfqStore htlcStore paymentStore =
          .ok report → ∃ state, ReportsCurrent ((paymentMachine ldk).run (ops ++ later)).commitments
            id state report := by
  obtain ⟨stage, state, quoteId, htlcId, paymentId, closePreparation, hheld, hnew⟩ := htaken
  have hof := new_spec hnew
  obtain ⟨hstateId, hlatest⟩ := latest_eq_count hheld
  have hid : checkpoint.channelId = id := hof.channelId.trans hstateId
  refine ⟨⟨?_, ?_⟩, ?_⟩
  · rintro ⟨report, hreport⟩
    obtain ⟨current, hcurrent, hsame⟩ := (recover_eq_ok.mp hreport).current
    rw [hid] at hcurrent
    have hnumber : current.latestCommitmentNumber = state.latestCommitmentNumber := by
      rw [hsame.number, hof.current.number]
    have hlatest' := (latest_eq_count hcurrent).2
    rw [hnumber, hlatest] at hlatest'
    exact (Machine.count_append_eq_iff ..).mp hlatest'.symm
  · intro huntouched
    have hstill := held_untouched huntouched hheld
    exact recovers_of_held hof (by rwa [hid]) hnamed
  · intro report hreport
    have hrecovers := recover_eq_ok.mp hreport
    obtain ⟨current, hcurrent, hsame⟩ := hrecovers.current
    rw [hid] at hcurrent
    refine ⟨current, ?_⟩
    rw [hrecovers.report]
    exact ⟨hcurrent, hid, hsame.assetId.symm, hsame.number.symm, hsame.localBalance.symm,
      hsame.remoteBalance.symm, hsame.total.symm⟩

/-- A checkpoint of the initialised regtest channel recovers at once, and not after an update. -/
theorem current_checkpoint_recovers_regtest : ∃ (c : FundedChannel acceptingLdk)
    (request : AssetCommitmentUpdateRequest) (checkpoint : NativeAssetRecoveryCheckpoint),
    (∃ report, recoverNativeAssetCheckpoint checkpoint ((paymentMachine acceptingLdk).run
      ([.initializeChannel c] ++ [])).commitments none none none = .ok report) ∧
    ¬ ∃ report, recoverNativeAssetCheckpoint checkpoint ((paymentMachine acceptingLdk).run
      ([.initializeChannel c] ++ [.applyUpdate request])).commitments none none none =
        .ok report := by
  obtain ⟨c, root, id, state, updated, request, snapshot, h⟩ := regtest_run
  have hstore : ((paymentMachine acceptingLdk).run [.initializeChannel c]).commitments =
      AssetCommitmentStore.default.putChannel regtestChannelId state := by
    change storeAfter _ (AssetCommitmentStore.default.initializeChannel acceptingLdk c.channel) = _
    rw [h.initializes, storeAfter_ok]
  have hbalances : checkedAdd state.localBalance state.remoteBalance = some state.totalAmount := by
    rw [h.before.localBalance, h.before.remoteBalance, h.before.total]
    rfl
  obtain ⟨checkpoint, hnew, hquote, hhtlc, hpayment, -⟩ :=
    new_ok .funding none hbalances (by simp) none none none
  have htaken : TakenAfter acceptingLdk [.initializeChannel c] regtestChannelId checkpoint := by
    refine ⟨_, state, _, _, _, _, ?_, hnew⟩
    rw [hstore]
    exact get_insert_self ..
  have hnamed : Named checkpoint none none none :=
    ⟨hquote ▸ names_none, hhtlc ▸ names_none, hpayment ▸ names_none⟩
  refine ⟨c, request, checkpoint, ?_, ?_⟩
  · have huntouched : Untouched acceptingLdk [.initializeChannel c] [] regtestChannelId :=
      Machine.quiet_nil _ _ _
    exact (current_checkpoint_recovers htaken hnamed []).1.mpr huntouched
  · intro hrecovers
    have huntouched := (current_checkpoint_recovers htaken hnamed [.applyUpdate request]).1.mp
      hrecovers
    have hquiet := huntouched [] (.applyUpdate request) [] rfl
    have hid : request.channelId = regtestChannelId := by
      obtain ⟨current, _, happlies⟩ := applyUpdate_spec h.updates
      have hheld := happlies.held
      by_contra hne
      rw [AssetCommitmentStore.putChannel, get_insert_ne hne] at hheld
      simp [AssetCommitmentStore.default] at hheld
    rw [List.append_nil, movesChannel, commitmentCall, Option.any_some, updatesChannel, hstore,
      h.updates, hid] at hquiet
    simp [Except.isOk, Except.toBool] at hquiet

end TapLdk.AssetRecoveryCheckpoints
