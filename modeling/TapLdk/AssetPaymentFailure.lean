import Mathlib
import TapLdk.AssetHtlcTlv
import TapLdk.AssetPaymentAtomic

/-! Payments with an injected failure: what each failure changes, and the check that a failed
attempt has not moved the channel. -/
namespace TapLdk.AssetPaymentFailure
open TapLdk.LibraryExcept TapLdk.LibraryMaps TapLdk.LibraryBytes TapLdk.LibraryStateful
open TapLdk.Mssmt TapLdk.Asset TapLdk.LdkFork TapLdk.RfqQuotes TapLdk.RfqInvoice
open TapLdk.RfqInvoiceSpec TapLdk.Commitment TapLdk.CommitmentSteps TapLdk.CommitmentStory
open TapLdk.AssetHtlc TapLdk.AssetHtlcTlv TapLdk.AssetPayment TapLdk.AssetPaymentSteps
open TapLdk.AssetPaymentBooking TapLdk.AssetPaymentRuns TapLdk.AssetPaymentAtomic

/-- The errors of a payment, and that of the check after a failed attempt. -/
inductive InjectedPaymentError where
  | payment (error : NativeAssetPaymentError)
  | failedPaymentAdvancedState
deriving DecidableEq

/-- The payment that is attempted over a channel. -/
def attemptPayment (ldk : Ldk) (request : NativeAssetPaymentRequest)
    (failureMode : NativeAssetPaymentFailureMode) (before : AssetCommitmentChannelState) :
    Stateful PaymentStores NativeAssetPaymentError NativeAssetPayment := do
  let prepared ← onQuotes (preparePayment ldk request (some failureMode)
    before.monitorBlob.proofRootHash before.monitorBlob.proofRootSum)
  settlePreparedPayment ldk request prepared

/-- Whether a channel has moved between two of its states. -/
def Advanced (before after : AssetCommitmentChannelState) : Prop :=
  before.localBalance ≠ after.localBalance ∨ before.remoteBalance ≠ after.remoteBalance ∨
    before.latestCommitmentNumber ≠ after.latestCommitmentNumber

instance (before after : AssetCommitmentChannelState) : Decidable (Advanced before after) :=
  inferInstanceAs (Decidable (_ ∨ _ ∨ _))

/-- What is made of the error of an attempt. -/
def afterFailure (request : NativeAssetPaymentRequest) (before : AssetCommitmentChannelState)
    (error : NativeAssetPaymentError) (t : PaymentStores) : InjectedPaymentError :=
  match t.commitments.channelState request.channelId with
  | .error e => .payment (.commitment e)
  | .ok after => if Advanced before after then .failedPaymentAdvancedState else .payment error

def tryNativeAssetPaymentWithFailure (ldk : Ldk) (request : NativeAssetPaymentRequest)
    (failureMode : NativeAssetPaymentFailureMode) (s : PaymentStores) :
    Except InjectedPaymentError NativeAssetPayment × PaymentStores :=
  match s.commitments.channelState request.channelId with
  | .error e => (.error (.payment (.commitment e)), s)
  | .ok before =>
    match (attemptPayment ldk request failureMode before).call s with
    | (.ok payment, t) => (.ok payment, t)
    | (.error e, t) => (.error (afterFailure request before e t), t)

/-- The receiver's store once it has answered the request of a payment. -/
def quotesAfterRequest (request : NativeAssetPaymentRequest) (quotes : RfqQuoteStore) :
    RfqQuoteStore :=
  ((receiveNativeRfqRequest request.senderPeer request.rfqRequest request.nowUnixSeconds {}).call
    quotes).2

/-- An injected failure can be told from the payment that was asked for. -/
def Shows (request : NativeAssetPaymentRequest) (quotes : RfqQuoteStore) :
    NativeAssetPaymentFailureMode → Prop
  | .wrongQuote => (quotesAfterRequest request quotes).quotes[toHex (repeated32 99)]? = none
  | .wrongInvoice => request.paymentHash ≠ repeated32 98
  | .wrongMetadata => True

/-- The records that pass at the final hop are those of its invoice. -/
theorem prepareRecords_spec {ldk : Ldk} {failureMode : NativeAssetPaymentFailureMode}
    {payment : QuoteBoundPayment} {hash : Bytes32} {sum time : UInt64}
    {records : AssetHtlcCustomRecords}
    (h : prepareRecords ldk (some failureMode) payment hash sum time = .ok records) :
    failureMode ≠ .wrongMetadata ∧
      (failureMode = .wrongInvoice → payment.invoice.paymentHash = repeated32 98) := by
  simp only [prepareRecords, bind_eq_ok, mapError_eq_ok, pure_eq_ok, Except.ok.injEq] at h
  obtain ⟨made, hmade, ⟨invoice, sent⟩, hinput, bytes, hbytes, decoded, hdecoded, seen, hseen, _,
    hvalid, -⟩ := h
  obtain rfl : streamWith sent [] = bytes := Except.ok.inj ((encodeTlv_eq sent).symm.trans hbytes)
  obtain rfl : .asset sent = decoded := Except.ok.inj ((decode_streamWith sent).symm.trans hdecoded)
  obtain rfl : sent = seen := Except.ok.inj hseen
  obtain ⟨-, hamount, -, hhash⟩ := validateFinalHop_invoice hvalid
  simp only [AssetHtlcCustomRecords.fromAuthorizationWithProofRoot, bind_eq_ok, rejectIf_eq_ok,
    not_or, ne_eq, not_not, pure_eq_ok, Except.ok.injEq, exists_const] at hmade
  obtain ⟨_, -, ⟨-, -, hunits, -⟩, rfl⟩ := hmade
  cases failureMode with
  | wrongQuote => exact ⟨by simp, by simp⟩
  | wrongInvoice =>
    simp only [validationInput, Except.ok.injEq, Prod.mk.injEq] at hinput
    obtain ⟨rfl, rfl⟩ := hinput
    exact ⟨by simp, fun _ => hhash⟩
  | wrongMetadata =>
    simp only [validationInput, bind_eq_ok, okOr_eq_ok, pure_eq_ok, Except.ok.injEq,
      Prod.mk.injEq, checkedAdd_eq_some] at hinput
    obtain ⟨units, hmore, rfl, rfl⟩ := hinput
    have hunits' : units = payment.authorization.assetAmount := hamount.trans hunits
    rw [hunits'] at hmore
    simp at hmore

/-- A payment is prepared under an injected failure only when the failure does not show. -/
theorem preparePayment_failure {ldk : Ldk} {request : NativeAssetPaymentRequest}
    {failureMode : NativeAssetPaymentFailureMode} {hash : Bytes32} {sum : UInt64}
    {store store' : RfqQuoteStore} {prepared : PreparedPayment}
    (h : (preparePayment ldk request (some failureMode) hash sum).call store =
      (.ok prepared, store')) : ¬ Shows request store failureMode := by
  simp only [preparePayment, rfqCall, Stateful.call_bind_eq_ok, Stateful.call_onPart_eq_ok,
    Stateful.call_lift, Stateful.call_pure, Prod.mk.injEq, Except.ok.injEq, id, mapError_eq_ok] at h
  obtain ⟨_, _, ⟨-, rfl⟩, accept, _, ⟨-, rfl⟩, _, _, ⟨-, rfl⟩, _, _, ⟨-, rfl⟩, _, _, ⟨-, rfl⟩, _, _,
    ⟨-, rfl⟩, invoice, _, ⟨hbind, rfl⟩, payment, _, ⟨hpay, -⟩, records, _, ⟨hrecords, -⟩, -, -⟩ := h
  obtain ⟨hmetadata, hinvoice⟩ := prepareRecords_spec hrecords
  cases failureMode with
  | wrongQuote =>
    obtain ⟨quote, hquote, -⟩ := payQuoteBoundInvoice_eq_ok (Prod.ext hpay rfl)
    intro hshows
    have hnone := hquote.symm.trans hshows
    cases hnone
  | wrongInvoice =>
    intro hshows
    obtain ⟨-, -, -, -, hhash⟩ := paid_invoice (Prod.ext hpay rfl)
    exact hshows ((bound_paymentHash hbind).symm.trans (hhash.symm.trans (hinvoice rfl)))
  | wrongMetadata => exact absurd rfl hmetadata

/-- A channel takes the update of a payment, which is recorded or not. -/
structure Settles (ldk : Ldk) (request : NativeAssetPaymentRequest) (proposal : PaymentProposal)
    (snapshot : AssetCommitmentSnapshot) (s t : PaymentStores) : Prop where
  held : ∃ state, s.commitments.channels[request.channelId]? = some state ∧
    proposal.update.channelId = state.channelId
  applied : s.commitments.applyUpdate ldk proposal.update = .ok (snapshot, t.commitments)
  recorded : t.payments = s.payments ∨ ∃ payment, Books request proposal snapshot payment s t

section Settle

variable {ldk : Ldk} {request : NativeAssetPaymentRequest} {prepared : PreparedPayment}
  {proposal : PaymentProposal} {snapshot : AssetCommitmentSnapshot} {s t : PaymentStores}
  {result : Except NativeAssetPaymentError NativeAssetPayment}

/-- The update of a payment is one of its channel. -/
theorem Settles.applies (h : Settles ldk request proposal snapshot s t) :
    ∃ current updated, Applies ldk s.commitments proposal.update current snapshot updated
        t.commitments ∧ proposal.update.channelId = request.channelId := by
  obtain ⟨state, hstate, hid⟩ := h.held
  obtain ⟨current, updated, happlies⟩ := applyUpdate_spec h.applied
  refine ⟨current, updated, happlies, ?_⟩
  by_contra hne
  have hstill : t.commitments.channels[request.channelId]? = some state := by
    rw [happlies.store, AssetCommitmentStore.putChannel, get_insert_ne (Ne.symm hne), hstate]
  exact hne (hid.trans (happlies.valid.key _ _ hstill).symm)

/-- Settling stops before it writes, or its channel takes an update. -/
theorem settlePreparedPayment_cases
    (h : (settlePreparedPayment ldk request prepared).call s = (result, t)) :
    (∃ e, result = .error e ∧ t = s) ∨
      ∃ proposal snapshot, Settles ldk request proposal snapshot s t := by
  have hread := readChannel_call request.channelId s
  rw [settlePreparedPayment] at h
  cases hstate : s.commitments.channelState request.channelId with
  | error e =>
    rw [hstate] at hread
    rw [Stateful.call_bind_of_error hread] at h
    obtain ⟨rfl, rfl⟩ := Prod.mk.inj h
    exact .inl ⟨_, rfl, rfl⟩
  | ok state =>
    rw [hstate] at hread
    rw [Stateful.call_bind_of_ok hread] at h
    have hheld := okOr_eq_ok.mp hstate
    cases hupdate : settlementUpdate ldk state request prepared with
    | error e =>
      rw [hupdate, Stateful.call_bind_of_error (Stateful.call_lift ..)] at h
      obtain ⟨rfl, rfl⟩ := Prod.mk.inj h
      exact .inl ⟨_, rfl, rfl⟩
    | ok settlement =>
      obtain ⟨validation, update⟩ := settlement
      rw [hupdate, Stateful.call_bind_of_ok (Stateful.call_lift ..)] at h
      dsimp only at h
      simp only [settlementUpdate, bind_eq_ok, mapError_eq_ok, pure_eq_ok, Except.ok.injEq,
        Prod.mk.injEq] at hupdate
      obtain ⟨_, -, _, -, _, -, built, hbuild, -, rfl⟩ := hupdate
      have hmoves := buildCommitmentUpdate_moves hbuild
      rcases Stateful.call_transact_cases (fun s : PaymentStores => s.commitments)
        (fun store s => { s with commitments := store }) NativeAssetPaymentError.commitment
        (·.applyUpdate ldk built) s with ⟨e, -, herror⟩ | ⟨snapshot, next, hok, happlied⟩
      · rw [onCommitments, Stateful.call_bind_of_error herror] at h
        obtain ⟨rfl, rfl⟩ := Prod.mk.inj h
        exact .inl ⟨_, rfl, rfl⟩
      · rw [onCommitments, Stateful.call_bind_of_ok happlied] at h
        have hbook : (bookPayment request ⟨prepared, validation, built⟩ snapshot).call
            { s with commitments := next } = (result, t) := by
          rw [← h, bookPayment, bookHtlc]
          simp only [bind_assoc, pure_bind]
        obtain ⟨rfl, -, hrecorded⟩ := bookPayment_cases _ _ _ _ hbook
        refine .inr ⟨⟨prepared, validation, built⟩, snapshot, ⟨state, hheld, hmoves.1⟩, hok, ?_⟩
        rcases hrecorded with ⟨e, -, hpayments⟩ | ⟨payment, -, hbooks⟩
        · exact .inl hpayments
        · exact .inr ⟨payment, hbooks.recorded, hbooks.fresh, hbooks.payments, hbooks.htlc⟩

/-- A payment stops before it writes, or its channel takes an update. -/
theorem sendNativeAssetPayment_settles
    (h : (sendNativeAssetPayment ldk request).call s = (result, t)) :
    written t = written s ∨ ∃ proposal snapshot, Settles ldk request proposal snapshot s t := by
  rcases sendNativeAssetPayment_cases ldk request s h with ⟨e, -, -, hsame⟩ |
    ⟨proposal, -, hproposes, ⟨e, -, -, hsame⟩ | ⟨snapshot, next, hok, rfl, -, hrecorded⟩⟩
  · exact .inl hsame
  · exact .inl hsame
  · obtain ⟨state, hstate, hbuild⟩ := hproposes.update
    have hmoves := buildCommitmentUpdate_moves hbuild
    refine .inr ⟨proposal, snapshot, ⟨state, hstate, hmoves.1⟩, hok, ?_⟩
    rcases hrecorded with ⟨e, -, hpayments⟩ | ⟨payment, -, hbooks⟩
    · exact .inl hpayments
    · exact .inr ⟨payment, hbooks⟩

end Settle

section Attempt

variable {ldk : Ldk} {request : NativeAssetPaymentRequest}
  {failureMode : NativeAssetPaymentFailureMode} {before : AssetCommitmentChannelState}
  {proposal : PaymentProposal} {snapshot : AssetCommitmentSnapshot} {s t : PaymentStores}
  {result : Except NativeAssetPaymentError NativeAssetPayment} {e : NativeAssetPaymentError}

/-- An attempt stops before it writes, or its failure does not show and its channel takes an
update. -/
theorem attemptPayment_cases
    (h : (attemptPayment ldk request failureMode before).call s = (result, t)) :
    (∃ e, result = .error e ∧ written t = written s) ∨
      ¬ Shows request s.quotes failureMode ∧
        ∃ proposal snapshot, Settles ldk request proposal snapshot s t := by
  have hleft : written ((onQuotes (preparePayment ldk request (some failureMode)
        before.monitorBlob.proofRootHash before.monitorBlob.proofRootSum)).call s).2 =
      written s := rfl
  rw [attemptPayment] at h
  rcases Stateful.call_bind_cases (onQuotes (preparePayment ldk request (some failureMode)
      before.monitorBlob.proofRootHash before.monitorBlob.proofRootSum))
    (fun prepared => settlePreparedPayment ldk request prepared) s with
    ⟨e, -, herror⟩ | ⟨prepared, hok, hcall⟩
  · obtain ⟨rfl, rfl⟩ := Prod.mk.inj (herror.symm.trans h)
    exact .inl ⟨e, rfl, hleft⟩
  · rw [hcall] at h
    have hshows : ¬ Shows request s.quotes failureMode := by
      rw [onQuotes, Stateful.onPart, Stateful.call_ofCall, mapError_eq_ok] at hok
      exact preparePayment_failure (Prod.ext hok rfl)
    rcases settlePreparedPayment_cases h with ⟨e, rfl, rfl⟩ | ⟨proposal, snapshot, hsettles⟩
    · exact .inl ⟨e, rfl, hleft⟩
    · refine .inr ⟨hshows, proposal, snapshot, hsettles.held, hsettles.applied, ?_⟩
      rcases hsettles.recorded with hpayments | ⟨payment, hbooks⟩
      · exact .inl hpayments
      · exact .inr ⟨payment, hbooks.recorded, hbooks.fresh, hbooks.payments, hbooks.htlc⟩

theorem afterFailure_same (hbefore : s.commitments.channelState request.channelId = .ok before)
    (hsame : written t = written s) : afterFailure request before e t = .payment e := by
  have hafter : t.commitments.channelState request.channelId = .ok before := by
    rw [(Prod.mk.inj hsame).1, hbefore]
  rw [afterFailure, hafter]
  exact if_neg (by simp [Advanced])

/-- The check tells a channel that took an update. -/
theorem afterFailure_settles
    (hbefore : s.commitments.channelState request.channelId = .ok before)
    (h : Settles ldk request proposal snapshot s t) :
    afterFailure request before e t = .failedPaymentAdvancedState := by
  obtain ⟨current, updated, happlies, hkey⟩ := h.applies
  have hheld := happlies.held
  rw [hkey, okOr_eq_ok.mp hbefore, Option.some.injEq] at hheld
  subst hheld
  have hafter : t.commitments.channelState request.channelId = .ok updated := by
    rw [AssetCommitmentStore.channelState, happlies.store, AssetCommitmentStore.putChannel, hkey,
      get_insert_self]
    rfl
  have hnumber := happlies.step.checked.number
  obtain ⟨blob, -, hupdated⟩ := happlies.step.updated
  have hlatest : updated.latestCommitmentNumber = proposal.update.nextCommitmentNumber := by
    rw [hupdated, ← snapshot_number happlies.step]
    rfl
  rw [← hlatest] at hnumber
  rw [afterFailure, hafter]
  refine if_pos (.inr (.inr fun hsame => ?_))
  rw [← hsame] at hnumber
  omega

/-- What a call with an injected failure does. -/
theorem injected_cases
    {outcome : Except InjectedPaymentError NativeAssetPayment}
    (h : tryNativeAssetPaymentWithFailure ldk request failureMode s = (outcome, t)) :
    (∃ e, outcome = .error (.payment e) ∧ written t = written s) ∨
      ¬ Shows request s.quotes failureMode ∧
        (∃ proposal snapshot, Settles ldk request proposal snapshot s t) ∧
        (outcome = .error .failedPaymentAdvancedState ∨ ∃ payment, outcome = .ok payment) := by
  rw [tryNativeAssetPaymentWithFailure] at h
  cases hbefore : s.commitments.channelState request.channelId with
  | error e =>
    rw [hbefore] at h
    obtain ⟨rfl, rfl⟩ := Prod.mk.inj h
    exact .inl ⟨_, rfl, rfl⟩
  | ok before =>
    rw [hbefore] at h
    dsimp only at h
    rcases hattempt : (attemptPayment ldk request failureMode before).call s with ⟨result, u⟩
    rw [hattempt] at h
    rcases attemptPayment_cases hattempt with
      ⟨e, rfl, hsame⟩ | ⟨hshows, proposal, snapshot, hsettles⟩
    · obtain ⟨rfl, rfl⟩ := Prod.mk.inj h
      exact .inl ⟨e, congrArg Except.error (afterFailure_same hbefore hsame), hsame⟩
    · cases result with
      | error e =>
        obtain ⟨rfl, rfl⟩ := Prod.mk.inj h
        exact .inr ⟨hshows, ⟨proposal, snapshot, hsettles⟩,
          .inl (congrArg Except.error (afterFailure_settles hbefore hsettles))⟩
      | ok payment =>
        obtain ⟨rfl, rfl⟩ := Prod.mk.inj h
        exact .inr ⟨hshows, ⟨proposal, snapshot, hsettles⟩, .inr ⟨payment, rfl⟩⟩

end Attempt

/-- An injected failure is contained, whatever the stores hold: the payment is refused and nothing
is written, or the failure could not be told from the payment and its channel has taken the update
of the payment, which the call reports unless the payment went through. -/
theorem failure_contained (ldk : Ldk) (request : NativeAssetPaymentRequest)
    (failureMode : NativeAssetPaymentFailureMode) (s : PaymentStores) :
    let (outcome, t) := tryNativeAssetPaymentWithFailure ldk request failureMode s
    (∃ e, outcome = .error (.payment e) ∧ written t = written s) ∨
      ¬ Shows request s.quotes failureMode ∧ t.commitments ≠ s.commitments ∧
        (∃ proposal snapshot, Settles ldk request proposal snapshot s t) ∧
        (outcome = .error .failedPaymentAdvancedState ∨ ∃ payment, outcome = .ok payment) := by
  rcases hcall : tryNativeAssetPaymentWithFailure ldk request failureMode s with ⟨outcome, t⟩
  rcases injected_cases hcall with hsame | ⟨hshows, ⟨proposal, snapshot, hsettles⟩, hdone⟩
  · exact .inl hsame
  · exact .inr ⟨hshows, update_changes hsettles.applied, ⟨proposal, snapshot, hsettles⟩, hdone⟩

end TapLdk.AssetPaymentFailure
