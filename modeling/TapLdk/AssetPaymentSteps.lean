import Mathlib
import TapLdk.AssetHtlcFinalHop
import TapLdk.AssetPayment
import TapLdk.CommitmentSteps

/-! A payment in steps: what it proposes without writing, the update it has the channel apply,
and the HTLC and the payment it books afterwards. -/
namespace TapLdk.AssetPaymentSteps
open TapLdk.LibraryExcept TapLdk.LibraryMaps TapLdk.LibraryBytes TapLdk.LibrarySha256
open TapLdk.LibraryStateful TapLdk.Mssmt TapLdk.Asset TapLdk.LdkFork TapLdk.RfqQuotes
open TapLdk.RfqInvoice TapLdk.RfqInvoiceSpec TapLdk.ChannelFunding TapLdk.Commitment
open TapLdk.AssetHtlc TapLdk.AssetHtlcFinalHop TapLdk.AssetPayment

/-- What a payment works out before it writes to any store but that of the quotes. -/
structure PaymentProposal where
  prepared : PreparedPayment
  validation : AssetHtlcValidation
  update : AssetCommitmentUpdateRequest

def proposePayment (ldk : Ldk) (request : NativeAssetPaymentRequest) :
    Stateful PaymentStores NativeAssetPaymentError PaymentProposal := do
  let state ← readChannel request.channelId
  let prepared ← onQuotes (preparePayment ldk request none state.monitorBlob.proofRootHash
    state.monitorBlob.proofRootSum)
  let state ← readChannel request.channelId
  let settlement ← .lift (settlementUpdate ldk state request prepared)
  pure ⟨prepared, settlement.1, settlement.2⟩

/-- The HTLC of a payment, offered and settled. -/
def bookHtlc (channelId : String) (validation : AssetHtlcValidation) :
    Stateful PaymentStores NativeAssetPaymentError StoredAssetHtlc := do
  let offered ← onHtlcs (·.addHtlc channelId validation)
  let settled ← onHtlcs (·.settleHtlc offered.htlcId)
  onHtlcs fun store => store.validate.map fun _ => ((), store)
  pure settled

def bookPayment (request : NativeAssetPaymentRequest) (proposal : PaymentProposal)
    (snapshot : AssetCommitmentSnapshot) :
    Stateful PaymentStores NativeAssetPaymentError NativeAssetPayment := do
  let settled ← bookHtlc request.channelId proposal.validation
  onPayments (·.recordPayment (settledPayment request proposal.prepared settled.htlcId snapshot))

theorem sendNativeAssetPayment_steps (ldk : Ldk) (request : NativeAssetPaymentRequest) :
    sendNativeAssetPayment ldk request = (do
      let proposal ← proposePayment ldk request
      let snapshot ← onCommitments (·.applyUpdate ldk proposal.update)
      bookPayment request proposal snapshot) := by
  simp only [sendNativeAssetPayment, settlePreparedPayment, proposePayment, bookPayment, bookHtlc,
    bind_assoc, pure_bind]

theorem readChannel_call (channelId : String) (s : PaymentStores) :
    (readChannel channelId).call s =
      ((s.commitments.channelState channelId).mapError .commitment, s) := by
  rw [readChannel, onCommitments]
  cases h : s.commitments.channelState channelId with
  | error e => exact Stateful.call_transact_of_error (by rw [h]; rfl)
  | ok state => exact Stateful.call_transact_of_ok (by rw [h]; rfl)

/-- The stores that a payment is about, without those of the quotes. -/
def written (s : PaymentStores) : AssetCommitmentStore × AssetHtlcStore × NativeAssetPaymentStore :=
  (s.commitments, s.htlcs, s.payments)

theorem proposePayment_steps (ldk : Ldk) (request : NativeAssetPaymentRequest) :
    Stateful.Steps (fun s t => written t = written s) (proposePayment ldk request) := by
  have htrans (s t u : PaymentStores) (hst : written t = written s) (htu : written u = written t) :
      written u = written s := htu.trans hst
  have hread : Stateful.Steps (fun s t => written t = written s)
      (readChannel request.channelId) := fun s => by rw [readChannel_call]
  refine hread.bind htrans fun state => ?_
  refine Stateful.Steps.bind htrans (Stateful.steps_onPart fun _ => rfl) fun prepared => ?_
  refine hread.bind htrans fun state => ?_
  have hrefl (s : PaymentStores) : written s = written s := rfl
  refine Stateful.Steps.bind htrans (fun s => hrefl s) fun settlement => ?_
  exact fun s => hrefl s

/-- What a successful payment of an invoice says of its quote id. -/
theorem paid_digest {store store' : RfqQuoteStore} {invoice : QuoteBoundInvoice} {now : UInt64}
    {payment : QuoteBoundPayment}
    (h : (payQuoteBoundInvoice invoice now).call store = (.ok payment, store')) :
    ∃ digest : Bytes32, payment.invoice.quoteId = toHex digest := by
  obtain ⟨quote, -, hbind, -, hkey, hbinding⟩ := payQuoteBoundInvoice_eq_ok h
  obtain ⟨-, -, -, -, -, -, ⟨hquote, -⟩, -⟩ := bindQuoteToInvoice_eq_ok hbind
  refine ⟨sha256 (quoteBindingPreimage quote.peer quote.assetId quote.assetAmount quote.btcMsat
    quote.expiryUnixSeconds quote.invoiceContext quote.scidAlias quote.replayDomain), ?_⟩
  have hid : payment.invoice.quoteId = quote.quoteId := hquote
  rw [hid, ← hkey, ← hbinding]
  rfl

theorem preparePayment_digest {ldk : Ldk} {request : NativeAssetPaymentRequest}
    {failureMode : Option NativeAssetPaymentFailureMode} {proofRootHash : Bytes32}
    {proofRootSum : UInt64} {store store' : RfqQuoteStore} {prepared : PreparedPayment}
    (h : (preparePayment ldk request failureMode proofRootHash proofRootSum).call store =
      (.ok prepared, store')) : ∃ digest : Bytes32, prepared.invoice.quoteId = toHex digest := by
  simp only [preparePayment, rfqCall, Stateful.call_bind_eq_ok, Stateful.call_onPart_eq_ok,
    Stateful.call_lift, Stateful.call_pure, Prod.mk.injEq, Except.ok.injEq, id] at h
  obtain ⟨_, _, -, _, _, -, _, _, -, _, _, -, _, _, -, _, _, -, _, _, -, payment, _, ⟨hpay, -⟩, _, _,
    -, rfl, -⟩ := h
  exact paid_digest (Prod.ext hpay rfl)

theorem validateFinalHop_terms {ldk : Ldk} {records : AssetHtlcCustomRecords}
    {invoice : QuoteBoundInvoice} {authorization : RfqHtlcAuthorization} {hash : Bytes32}
    {sum now : UInt64} {validation : AssetHtlcValidation}
    (h : validateFinalHopAgainstProofRoot ldk records invoice authorization hash sum now =
      .ok validation) :
    validation = ⟨records.assetId, records.assetAmount, records.quoteId, records.btcMsat,
        records.paymentHash, true⟩ ∧
      bytes32FromStr invoice.quoteId = .ok records.quoteId := by
  simp only [validateFinalHopAgainstProofRoot, validateFinalHop, bind_eq_ok, rejectIf_eq_ok, not_or,
    ne_eq, not_not, pure_eq_ok, Except.ok.injEq, exists_const, parseQuoteId, mapError_eq_ok] at h
  obtain ⟨_, ⟨-, quoteId, hid, ⟨rfl, hquote⟩, -, -, -, -, -, -, -, -, -, -, -, rfl⟩, -, rfl⟩ := h
  exact ⟨rfl, hquote ▸ hid⟩

/-- What a proposal establishes: the update moves the validated amount to the remote side. -/
structure Proposes (store : AssetCommitmentStore) (request : NativeAssetPaymentRequest)
    (proposal : PaymentProposal) : Prop where
  terms : proposal.validation = ⟨proposal.prepared.records.assetId,
    proposal.prepared.records.assetAmount, proposal.prepared.records.quoteId,
    proposal.prepared.records.btcMsat, proposal.prepared.records.paymentHash, true⟩
  quoteId : proposal.prepared.invoice.quoteId = toHex proposal.validation.quoteId
  update : ∃ state, store.channels[request.channelId]? = some state ∧
    state.buildCommitmentUpdate proposal.validation.assetAmount 0 request.assetNonce =
      .ok proposal.update

theorem proposePayment_spec {ldk : Ldk} {request : NativeAssetPaymentRequest}
    {s t : PaymentStores} {proposal : PaymentProposal}
    (h : (proposePayment ldk request).call s = (.ok proposal, t)) :
    Proposes s.commitments request proposal := by
  simp only [proposePayment, onQuotes, Stateful.call_bind_eq_ok, readChannel_call,
    Stateful.call_onPart_eq_ok, Stateful.call_lift, Stateful.call_pure, Prod.mk.injEq,
    Except.ok.injEq, AssetCommitmentStore.channelState, mapError_eq_ok, okOr_eq_ok] at h
  obtain ⟨state, _, ⟨hstate, rfl⟩, prepared, _, ⟨hprepared, rfl⟩, state', _, ⟨hstate', rfl⟩,
    settlement, _, ⟨hsettlement, rfl⟩, rfl, -⟩ := h
  obtain ⟨validation, update⟩ := settlement
  simp only [settlementUpdate, bind_eq_ok, rejectIf_eq_ok, mapError_eq_ok, pure_eq_ok,
    Except.ok.injEq, Prod.mk.injEq, exists_const] at hsettlement
  obtain ⟨-, _, -, _, hvalid, _, hupdate, rfl, rfl⟩ := hsettlement
  obtain ⟨digest, hdigest⟩ := preparePayment_digest (Prod.ext hprepared rfl)
  obtain ⟨rfl, hid⟩ := validateFinalHop_terms hvalid
  refine ⟨rfl, ?_, state', hstate', hupdate⟩
  rw [hdigest, bytes32FromStr_toHex, Except.ok.injEq] at hid
  rw [hdigest, hid]

/-- HTLCs that have been settled or have failed stay as they are. -/
def KeepsTerminal (before after : AssetHtlcStore) : Prop :=
  ∀ (id : String) (htlc : StoredAssetHtlc), before.htlcs[id]? = some htlc →
    htlc.status ≠ .offered → after.htlcs[id]? = some htlc

theorem keepsTerminal_refl (store : AssetHtlcStore) : KeepsTerminal store store :=
  fun _ _ h _ => h

theorem KeepsTerminal.trans {a b c : AssetHtlcStore} (hab : KeepsTerminal a b)
    (hbc : KeepsTerminal b c) : KeepsTerminal a c := fun id htlc h hstatus =>
  hbc id htlc (hab id htlc h hstatus) hstatus

/-- What a successful offer does. -/
structure Offers (store : AssetHtlcStore) (channelId : String) (validation : AssetHtlcValidation)
    (htlc : StoredAssetHtlc) (next : AssetHtlcStore) : Prop where
  fresh : store.htlcs[htlcIdOf channelId validation]? = none
  offered : htlc = ⟨htlcIdOf channelId validation, channelId, validation.assetId,
    validation.assetAmount, validation.quoteId, validation.btcMsat, validation.paymentHash, .offered⟩
  store : next.htlcs = store.htlcs.insert (htlcIdOf channelId validation) htlc

theorem addHtlc_spec {store next : AssetHtlcStore} {channelId : String}
    {validation : AssetHtlcValidation} {htlc : StoredAssetHtlc}
    (h : store.addHtlc channelId validation = .ok (htlc, next)) :
    Offers store channelId validation htlc next := by
  simp only [AssetHtlcStore.addHtlc, bind_eq_ok, rejectIf_eq_ok, exists_const, pure_eq_ok,
    Except.ok.injEq, Prod.mk.injEq, Option.isSome_iff_ne_none, ne_eq, not_not] at h
  obtain ⟨hfresh, rfl, rfl⟩ := h
  exact ⟨hfresh, rfl, rfl⟩

theorem transition_spec {store next : AssetHtlcStore} {id : String} {status : AssetHtlcStatus}
    {htlc : StoredAssetHtlc} (h : store.transition id status = .ok (htlc, next)) :
    ∃ offered, store.htlcs[id]? = some offered ∧ offered.status = .offered ∧
      htlc = { offered with status } ∧ next.htlcs = store.htlcs.insert id htlc := by
  simp only [AssetHtlcStore.transition, bind_eq_ok, okOr_eq_ok, rejectIf_eq_ok, exists_const,
    pure_eq_ok, Except.ok.injEq, Prod.mk.injEq, ne_eq, not_not] at h
  obtain ⟨offered, hget, hstatus, rfl, rfl⟩ := h
  exact ⟨offered, hget, hstatus, rfl, rfl⟩

theorem addHtlc_keeps {store next : AssetHtlcStore} {channelId : String}
    {validation : AssetHtlcValidation} {htlc : StoredAssetHtlc}
    (h : store.addHtlc channelId validation = .ok (htlc, next)) : KeepsTerminal store next := by
  intro id old hold _
  have hoffers := addHtlc_spec h
  have hne : id ≠ htlcIdOf channelId validation := by
    rintro rfl
    rw [hoffers.fresh] at hold
    cases hold
  rw [hoffers.store, get_insert_ne hne, hold]

theorem transition_keeps {store next : AssetHtlcStore} {id : String} {status : AssetHtlcStatus}
    {htlc : StoredAssetHtlc} (h : store.transition id status = .ok (htlc, next)) :
    KeepsTerminal store next := by
  intro other old hold hterminal
  obtain ⟨offered, hget, hstatus, -, hnext⟩ := transition_spec h
  have hne : other ≠ id := by
    rintro rfl
    rw [hget, Option.some.injEq] at hold
    exact hterminal (hold ▸ hstatus)
  rw [hnext, get_insert_ne hne, hold]

theorem checked_eq_ok {store next : AssetHtlcStore} {u : Unit}
    (h : (store.validate.map fun _ => ((), store)) = .ok (u, next)) : next = store := by
  cases hvalid : store.validate with
  | error e => simp [hvalid, Except.map] at h
  | ok v => simpa [hvalid, Except.map, eq_comm] using h

/-- What the HTLC of a payment changes. -/
def BooksHtlcOnly (s t : PaymentStores) : Prop :=
  t.commitments = s.commitments ∧ t.payments = s.payments ∧ KeepsTerminal s.htlcs t.htlcs

theorem bookHtlc_steps (channelId : String) (validation : AssetHtlcValidation) :
    Stateful.Steps BooksHtlcOnly (bookHtlc channelId validation) := by
  have htrans (s t u : PaymentStores) (hst : BooksHtlcOnly s t) (htu : BooksHtlcOnly t u) :
      BooksHtlcOnly s u := ⟨htu.1.trans hst.1, htu.2.1.trans hst.2.1, hst.2.2.trans htu.2.2⟩
  have hrefl (s : PaymentStores) : BooksHtlcOnly s s := ⟨rfl, rfl, keepsTerminal_refl _⟩
  have hstep {α : Type} {m : AssetHtlcStore → Except AssetHtlcError (α × AssetHtlcStore)}
      (hm : ∀ store a next, m store = .ok (a, next) → KeepsTerminal store next) :
      Stateful.Steps BooksHtlcOnly (onHtlcs m) :=
    Stateful.steps_transact hrefl fun s a t h => ⟨rfl, rfl, hm _ a t h⟩
  refine (hstep fun _ _ _ h => addHtlc_keeps h).bind htrans fun offered => ?_
  refine (hstep fun _ _ _ h => transition_keeps h).bind htrans fun settled => ?_
  refine (hstep fun store _ next h => ?_).bind htrans fun _ => Stateful.steps_pure hrefl _
  rw [checked_eq_ok h]
  exact keepsTerminal_refl _

/-- The HTLC that a payment leaves. -/
def settledHtlc (channelId : String) (validation : AssetHtlcValidation) : StoredAssetHtlc :=
  ⟨htlcIdOf channelId validation, channelId, validation.assetId, validation.assetAmount,
    validation.quoteId, validation.btcMsat, validation.paymentHash, .settled⟩

theorem bookHtlc_spec {channelId : String} {validation : AssetHtlcValidation} {s t : PaymentStores}
    {settled : StoredAssetHtlc} (h : (bookHtlc channelId validation).call s = (.ok settled, t)) :
    settled = settledHtlc channelId validation ∧
      t.htlcs.htlcs[htlcIdOf channelId validation]? = some settled := by
  simp only [bookHtlc, onHtlcs, Stateful.call_bind_eq_ok, Stateful.call_transact_eq_ok,
    Stateful.call_pure, Prod.mk.injEq, Except.ok.injEq] at h
  obtain ⟨offered, _, ⟨_, hadd, rfl⟩, settled', _, ⟨next, hsettle, rfl⟩, _, _, ⟨_, hvalid, rfl⟩, rfl,
    rfl⟩ := h
  obtain ⟨-, hoffered, hstore⟩ := addHtlc_spec hadd
  obtain ⟨old, hold, -, hsettled, hnext⟩ := transition_spec hsettle
  obtain rfl := checked_eq_ok hvalid
  have hid : offered.htlcId = htlcIdOf channelId validation := by rw [hoffered]
  rw [hid] at hold hnext
  rw [hstore, get_insert_self, Option.some.injEq] at hold
  subst hold
  refine ⟨?_, ?_⟩
  · rw [hsettled, hoffered]
    rfl
  · rw [hnext]
    exact get_insert_self ..

/-- What a successful record does. -/
theorem recordPayment_spec {store next : NativeAssetPaymentStore} {payment recorded : NativeAssetPayment}
    (h : store.recordPayment payment = .ok (recorded, next)) :
    recorded = payment ∧ store.payments[payment.paymentId]? = none ∧
      next.payments = store.payments.insert payment.paymentId payment := by
  simp only [NativeAssetPaymentStore.recordPayment, bind_eq_ok, rejectIf_eq_ok, exists_const,
    pure_eq_ok, Except.ok.injEq, Prod.mk.injEq, Option.isSome_iff_ne_none, ne_eq, not_not] at h
  obtain ⟨hfresh, _, -, rfl, rfl⟩ := h
  exact ⟨rfl, hfresh, rfl⟩

/-- The HTLC and the payment that a call books for an update. -/
structure Books (request : NativeAssetPaymentRequest) (proposal : PaymentProposal)
    (snapshot : AssetCommitmentSnapshot) (payment : NativeAssetPayment) (s t : PaymentStores) : Prop where
  recorded : payment = settledPayment request proposal.prepared
    (htlcIdOf request.channelId proposal.validation) snapshot
  fresh : s.payments.payments[payment.paymentId]? = none
  payments : t.payments.payments = s.payments.payments.insert payment.paymentId payment
  htlc : t.htlcs.htlcs[htlcIdOf request.channelId proposal.validation]? =
    some (settledHtlc request.channelId proposal.validation)

/-- Booking leaves the channel alone and HTLCs that are done, and records a payment exactly if
it succeeds. -/
theorem bookPayment_cases (request : NativeAssetPaymentRequest) (proposal : PaymentProposal)
    (snapshot : AssetCommitmentSnapshot) (s : PaymentStores) {result : Except _ NativeAssetPayment}
    {t : PaymentStores} (h : (bookPayment request proposal snapshot).call s = (result, t)) :
    t.commitments = s.commitments ∧ KeepsTerminal s.htlcs t.htlcs ∧
      ((∃ e, result = .error e ∧ t.payments = s.payments) ∨
        ∃ payment, result = .ok payment ∧ Books request proposal snapshot payment s t) := by
  have hsteps := bookHtlc_steps request.channelId proposal.validation s
  rw [bookPayment] at h
  rcases Stateful.call_bind_cases (bookHtlc request.channelId proposal.validation) _ s with
    ⟨e, -, hcall⟩ | ⟨settled, hsettled, hcall⟩
  · rw [hcall] at h
    obtain ⟨rfl, rfl⟩ := Prod.mk.inj h
    exact ⟨hsteps.1, hsteps.2.2, .inl ⟨e, rfl, hsteps.2.1⟩⟩
  · rw [hcall] at h
    obtain ⟨u, hu⟩ : ∃ u, (bookHtlc request.channelId proposal.validation).call s =
        (.ok settled, u) := ⟨_, Prod.ext hsettled rfl⟩
    obtain ⟨rfl, hhtlc⟩ := bookHtlc_spec hu
    rw [hu] at hsteps h
    rcases Stateful.call_transact_cases (·.payments)
      (fun store (s : PaymentStores) => { s with payments := store }) id
      (·.recordPayment (settledPayment request proposal.prepared
        (settledHtlc request.channelId proposal.validation).htlcId snapshot)) u with
      ⟨e, -, hrecord⟩ | ⟨payment, next, hok, hrecord⟩
    · rw [onPayments, hrecord] at h
      obtain ⟨rfl, rfl⟩ := Prod.mk.inj h
      exact ⟨hsteps.1, hsteps.2.2, .inl ⟨_, rfl, hsteps.2.1⟩⟩
    · rw [onPayments, hrecord] at h
      obtain ⟨rfl, rfl⟩ := Prod.mk.inj h
      obtain ⟨rfl, hfresh, hnext⟩ := recordPayment_spec hok
      rw [hsteps.2.1] at hfresh hnext
      exact ⟨hsteps.1, hsteps.2.2, .inr ⟨_, rfl, rfl, hfresh, hnext, hhtlc⟩⟩

/-- A payment stops at its proposal, or at the update of the channel, or goes on to its HTLC
and its record. -/
theorem sendNativeAssetPayment_cases (ldk : Ldk) (request : NativeAssetPaymentRequest)
    (s : PaymentStores) {result : Except _ NativeAssetPayment} {t : PaymentStores}
    (h : (sendNativeAssetPayment ldk request).call s = (result, t)) :
    (∃ e, ((proposePayment ldk request).call s).1 = .error e ∧ result = .error e ∧
        written t = written s) ∨
      ∃ proposal, ((proposePayment ldk request).call s).1 = .ok proposal ∧
        Proposes s.commitments request proposal ∧
        ((∃ e, s.commitments.applyUpdate ldk proposal.update = .error e ∧
            result = .error (.commitment e) ∧ written t = written s) ∨
          ∃ snapshot next, s.commitments.applyUpdate ldk proposal.update = .ok (snapshot, next) ∧
            t.commitments = next ∧ KeepsTerminal s.htlcs t.htlcs ∧
            ((∃ e, result = .error e ∧ t.payments = s.payments) ∨
              ∃ payment, result = .ok payment ∧ Books request proposal snapshot payment s t)) := by
  have hleft := proposePayment_steps ldk request s
  rw [sendNativeAssetPayment_steps] at h
  rcases Stateful.call_bind_cases (proposePayment ldk request) _ s with
    ⟨e, he, hcall⟩ | ⟨proposal, hproposal, hcall⟩
  · rw [hcall] at h
    obtain ⟨rfl, rfl⟩ := Prod.mk.inj h
    exact .inl ⟨e, he, rfl, hleft⟩
  · rw [hcall] at h
    refine .inr ⟨proposal, hproposal, proposePayment_spec (Prod.ext hproposal rfl), ?_⟩
    generalize ((proposePayment ldk request).call s).2 = u at h hleft
    obtain ⟨hcommitments, hrest⟩ := Prod.mk.inj hleft
    obtain ⟨hhtlcs, hpayments⟩ := Prod.mk.inj hrest
    rcases Stateful.call_transact_cases (·.commitments)
      (fun store (s : PaymentStores) => { s with commitments := store })
      NativeAssetPaymentError.commitment (·.applyUpdate ldk proposal.update) u with
      ⟨e, hfails, happly⟩ | ⟨snapshot, next, hok, happly⟩
    · rw [onCommitments, Stateful.call_bind_of_error happly] at h
      obtain ⟨rfl, rfl⟩ := Prod.mk.inj h
      exact .inl ⟨e, hcommitments ▸ hfails, rfl, hleft⟩
    · rw [onCommitments, Stateful.call_bind_of_ok happly] at h
      obtain ⟨hsame, hkeeps, hrecorded⟩ := bookPayment_cases _ _ _ _ h
      refine .inr ⟨snapshot, next, hcommitments ▸ hok, hsame, hhtlcs ▸ hkeeps, ?_⟩
      rcases hrecorded with ⟨e, rfl, hpaid⟩ | ⟨payment, rfl, hbooks⟩
      · exact .inl ⟨e, rfl, hpaid.trans hpayments⟩
      · refine .inr ⟨payment, rfl, hbooks.recorded, ?_, ?_, hbooks.htlc⟩
        · rw [← hpayments]
          exact hbooks.fresh
        · rw [← hpayments]
          exact hbooks.payments

end TapLdk.AssetPaymentSteps
