import Mathlib
import TapLdk.AssetPaymentBooking
import TapLdk.AssetPaymentRuns

/-! Payments as transactions: which calls leave something behind when they fail, and what the
balance of a channel says about its recorded payments over whole runs. -/
namespace TapLdk.AssetPaymentAtomic
open TapLdk.LibraryExcept TapLdk.LibraryMaps TapLdk.LibraryBytes TapLdk.LibraryStateful
open TapLdk.LibraryRuns TapLdk.Mssmt TapLdk.Asset TapLdk.LdkFork TapLdk.RfqQuotes
open TapLdk.ChannelFunding TapLdk.ChannelFundingSpec TapLdk.Commitment TapLdk.CommitmentSteps
open TapLdk.CommitmentStory TapLdk.AssetHtlc TapLdk.AssetPayment TapLdk.AssetPaymentSteps
open TapLdk.AssetPaymentBooking TapLdk.AssetPaymentRuns

/-- The channel takes the update of a payment. -/
def Accepted (ldk : Ldk) (request : NativeAssetPaymentRequest) (s : PaymentStores) : Prop :=
  ∃ proposal snapshot next, ((proposePayment ldk request).call s).1 = .ok proposal ∧
    s.commitments.applyUpdate ldk proposal.update = .ok (snapshot, next)

/-- The stores hold the HTLC or the payment that a request has under the quote it is given. -/
def IdsHeld (request : NativeAssetPaymentRequest) (s : PaymentStores) : Prop :=
  ∃ quote quoteId, answeredQuote request s.quotes = some quote ∧ quote.quoteId = toHex quoteId ∧
    (s.htlcs.htlcs[htlcIdOf request.channelId (quotedHtlc request quote quoteId)]? ≠ none ∨
      s.payments.payments[quotedPaymentId request quote]? ≠ none)

/-- A failure of the payment leaves the channels, the HTLCs and the payments as they were. -/
def Traceless (ldk : Ldk) (request : NativeAssetPaymentRequest) (s : PaymentStores) : Prop :=
  ∀ e t, (sendNativeAssetPayment ldk request).call s = (.error e, t) → written t = written s

section Call

variable {ldk : Ldk} {request : NativeAssetPaymentRequest} {s t : PaymentStores}

theorem idsHeld_iff {quote : StoredRfqQuote} {proposal : PaymentProposal}
    (hquote : answeredQuote request s.quotes = some quote) (h : OnTerms request quote proposal) :
    IdsHeld request s ↔
      s.htlcs.htlcs[htlcIdOf request.channelId proposal.validation]? ≠ none ∨
        s.payments.payments[quotedPaymentId request quote]? ≠ none := by
  constructor
  · rintro ⟨quote', quoteId, hquote', hid, hheld⟩
    obtain rfl := Option.some.inj (hquote.symm.trans hquote')
    obtain rfl : proposal.validation.quoteId = quoteId := toHex_injective (h.quoteId.symm.trans hid)
    rwa [← h.validation] at hheld
  · intro hheld
    refine ⟨quote, proposal.validation.quoteId, hquote, h.quoteId, ?_⟩
    rwa [← h.validation]

/-- A call from its proposal on. -/
theorem send_from_proposal {proposal : PaymentProposal}
    (h : ((proposePayment ldk request).call s).1 = .ok proposal) :
    ∃ u, written u = written s ∧ (sendNativeAssetPayment ldk request).call s =
      (onCommitments (·.applyUpdate ldk proposal.update) >>=
        bookPayment request proposal).call u := by
  have hleft := proposePayment_steps ldk request s
  refine ⟨((proposePayment ldk request).call s).2, hleft, ?_⟩
  rw [sendNativeAssetPayment_steps]
  exact Stateful.call_bind_of_ok (Prod.ext h rfl)

/-- A call from its update on. -/
theorem send_from_update {proposal : PaymentProposal} {snapshot : AssetCommitmentSnapshot}
    {next : AssetCommitmentStore} (h : ((proposePayment ldk request).call s).1 = .ok proposal)
    (hok : s.commitments.applyUpdate ldk proposal.update = .ok (snapshot, next)) :
    ∃ u, u.commitments = next ∧ u.htlcs = s.htlcs ∧ u.payments = s.payments ∧
      (sendNativeAssetPayment ldk request).call s =
        (bookPayment request proposal snapshot).call u := by
  obtain ⟨u, hu, hcall⟩ := send_from_proposal h
  obtain ⟨hcommitments, hrest⟩ := Prod.mk.inj hu
  obtain ⟨hhtlcs, hpayments⟩ := Prod.mk.inj hrest
  refine ⟨{ u with commitments := next }, rfl, hhtlcs, hpayments, ?_⟩
  rw [hcall]
  have hok : u.commitments.applyUpdate ldk proposal.update = .ok (snapshot, next) := by
    rw [hcommitments, hok]
  exact Stateful.call_bind_of_ok (Stateful.call_transact_of_ok hok)

theorem update_changes {store next : AssetCommitmentStore} {update : AssetCommitmentUpdateRequest}
    {snapshot : AssetCommitmentSnapshot} (h : store.applyUpdate ldk update = .ok (snapshot, next)) :
    next ≠ store := by
  intro hsame
  obtain ⟨current, updated, happlies⟩ := applyUpdate_spec h
  have hheld := happlies.held
  rw [← hsame, happlies.store, AssetCommitmentStore.putChannel, get_insert_self,
    Option.some.injEq] at hheld
  have hnumber := happlies.step.checked.number
  obtain ⟨blob, -, hupdated⟩ := happlies.step.updated
  have hlatest : updated.latestCommitmentNumber = update.nextCommitmentNumber := by
    rw [hupdated, ← snapshot_number happlies.step]
    rfl
  rw [← hlatest, hheld] at hnumber
  omega

/-- A payment that the channel takes under ids that are held is not booked. -/
theorem send_held_fails {proposal : PaymentProposal} {snapshot : AssetCommitmentSnapshot}
    {next : AssetCommitmentStore} (h : ((proposePayment ldk request).call s).1 = .ok proposal)
    (hok : s.commitments.applyUpdate ldk proposal.update = .ok (snapshot, next))
    (hheld : IdsHeld request s) {result : Except NativeAssetPaymentError NativeAssetPayment}
    (hcall : (sendNativeAssetPayment ldk request).call s = (result, t)) :
    (∃ e, result = .error e) ∧ t.commitments = next ∧ t.payments = s.payments := by
  obtain ⟨quote, hquote, hterms⟩ := proposePayment_terms (Prod.ext h rfl)
  rw [idsHeld_iff hquote hterms] at hheld
  obtain ⟨u, hnext, hhtlcs, hpayments, hbook⟩ := send_from_update h hok
  rw [hcall] at hbook
  obtain ⟨hsame, -, ⟨e, rfl, hpaid⟩ | ⟨payment, rfl, hbooks⟩⟩ :=
    bookPayment_cases _ _ _ _ hbook.symm
  · exact ⟨⟨e, rfl⟩, hsame.trans hnext, hpaid.trans hpayments⟩
  · obtain ⟨hfresh, hunpaid⟩ := bookPayment_fresh hbook.symm
    have hid : payment.paymentId = quotedPaymentId request quote := by
      rw [hbooks.recorded]
      exact settledPayment_id hterms _
    rw [hhtlcs] at hfresh
    rw [hpayments, hid] at hunpaid
    rcases hheld with hheld | hheld
    · exact absurd hfresh hheld
    · exact absurd hunpaid hheld

/-- An accepted payment whose ids are held fails after its update. -/
theorem send_of_held (haccepted : Accepted ldk request s) (hheld : IdsHeld request s) :
    ¬ Traceless ldk request s := by
  obtain ⟨proposal, snapshot, next, hproposal, hok⟩ := haccepted
  intro hatomic
  rcases hcall : (sendNativeAssetPayment ldk request).call s with ⟨result, t⟩
  obtain ⟨⟨e, rfl⟩, hnext, -⟩ := send_held_fails hproposal hok hheld hcall
  have hleft : t.commitments = s.commitments := congrArg (·.1) (hatomic e t hcall)
  exact update_changes hok (hnext.symm.trans hleft)

/-- A payment that the channel takes under new ids goes through. -/
theorem send_of_new (hvalid : StoresValid s) (hchannel : isBlank request.channelId = false)
    (haccepted : Accepted ldk request s) (hnew : ¬ IdsHeld request s)
    {result : Except NativeAssetPaymentError NativeAssetPayment}
    (hsent : (sendNativeAssetPayment ldk request).call s = (result, t)) :
    ∃ payment, result = .ok payment := by
  obtain ⟨proposal, snapshot, next, hproposal, hok⟩ := haccepted
  obtain ⟨w, hw⟩ : ∃ w, (proposePayment ldk request).call s = (.ok proposal, w) :=
    ⟨_, Prod.ext hproposal rfl⟩
  obtain ⟨quote, hquote, hterms⟩ := proposePayment_terms hw
  rw [idsHeld_iff hquote hterms, not_or, not_not, not_not] at hnew
  obtain ⟨u, -, hhtlcs, hpayments, hcall⟩ := send_from_update hproposal hok
  obtain ⟨current, updated, happlies⟩ := applyUpdate_spec hok
  have htotal : snapshot.totalAmount = current.totalAmount := by
    rw [happlies.step.checked.snapshot]
  have hsum := happlies.step.checked.conserved
  rw [← htotal] at hsum
  have hvalid' : StoresValid u := ⟨hhtlcs ▸ hvalid.htlcs, hpayments ▸ hvalid.payments⟩
  obtain ⟨payment, t', hbook⟩ := bookPayment_ok hvalid' (proposePayment_spec hw) hterms hchannel
    hsum (hhtlcs ▸ hnew.1) (hpayments ▸ hnew.2)
  rw [hsent, hbook] at hcall
  exact ⟨payment, congrArg (·.1) hcall⟩

/-- What a payment that goes through writes. -/
theorem sent_books {payment : NativeAssetPayment}
    (hsent : (sendNativeAssetPayment ldk request).call s = (.ok payment, t)) :
    ∃ proposal snapshot, ((proposePayment ldk request).call s).1 = .ok proposal ∧
      s.commitments.applyUpdate ldk proposal.update = .ok (snapshot, t.commitments) ∧
      Books request proposal snapshot payment s t := by
  rcases sendNativeAssetPayment_cases ldk request s hsent with ⟨e, -, herror, -⟩ |
    ⟨proposal, hproposal, -, ⟨e, -, herror, -⟩ | ⟨snapshot, _, hok, rfl, -, hrecorded⟩⟩
  · cases herror
  · cases herror
  · rcases hrecorded with ⟨e, herror, -⟩ | ⟨payment', hpayment, hbooks⟩
    · cases herror
    · obtain rfl := Except.ok.inj hpayment
      exact ⟨proposal, snapshot, hproposal, hok, hbooks⟩

/-- A payment that the channel does not take leaves the stores alone. -/
theorem send_of_refused (hrefused : ¬ Accepted ldk request s)
    {result : Except NativeAssetPaymentError NativeAssetPayment}
    (h : (sendNativeAssetPayment ldk request).call s = (result, t)) : written t = written s := by
  rcases sendNativeAssetPayment_cases ldk request s h with ⟨e, -, -, hsame⟩ |
    ⟨proposal, hproposal, -, ⟨e, -, -, hsame⟩ | ⟨snapshot, next, hok, -⟩⟩
  · exact hsame
  · exact hsame
  · exact absurd ⟨proposal, snapshot, next, hproposal, hok⟩ hrefused

/-- Whether it succeeds or not, a call keeps the HTLCs and the payments valid. -/
theorem send_valid (hvalid : StoresValid s)
    (hchannel : s.commitments.channels[request.channelId]? ≠ none →
      isBlank request.channelId = false)
    {result : Except NativeAssetPaymentError NativeAssetPayment}
    (hcall : (sendNativeAssetPayment ldk request).call s = (result, t)) : StoresValid t := by
  by_cases haccepted : Accepted ldk request s
  · obtain ⟨proposal, snapshot, next, hproposal, hok⟩ := haccepted
    obtain ⟨quote, -, hterms⟩ := proposePayment_terms (Prod.ext hproposal rfl)
    obtain ⟨state, hstate, -⟩ := (proposePayment_spec (Prod.ext hproposal rfl)).update
    have hblank := hchannel (by rw [hstate]; exact Option.some_ne_none _)
    obtain ⟨u, -, hhtlcs, hpayments, hbook⟩ := send_from_update hproposal hok
    have hvalid' : StoresValid u := ⟨hhtlcs ▸ hvalid.htlcs, hpayments ▸ hvalid.payments⟩
    have hkept : StoresValid ((bookPayment request proposal snapshot).call u).2 :=
      bookPayment_valid hterms hblank u hvalid'
    rwa [← hbook, hcall] at hkept
  · obtain ⟨-, hrest⟩ := Prod.mk.inj (send_of_refused haccepted hcall)
    obtain ⟨hhtlcs, hpayments⟩ := Prod.mk.inj hrest
    exact ⟨hhtlcs ▸ hvalid.htlcs, hpayments ▸ hvalid.payments⟩

/-- A call fails without a trace exactly if it is not one that the channel takes under ids that
are held. -/
theorem traceless_iff (hvalid : StoresValid s)
    (hchannel : s.commitments.channels[request.channelId]? ≠ none →
      isBlank request.channelId = false) :
    Traceless ldk request s ↔ ¬ (Accepted ldk request s ∧ IdsHeld request s) := by
  constructor
  · rintro hatomic ⟨haccepted, hheld⟩
    exact send_of_held haccepted hheld hatomic
  · intro hfresh e t hcall
    by_cases haccepted : Accepted ldk request s
    · have hheld : s.commitments.channels[request.channelId]? ≠ none := by
        obtain ⟨proposal, -, -, hproposal, -⟩ := haccepted
        obtain ⟨state, hstate, -⟩ := (proposePayment_spec (Prod.ext hproposal rfl)).update
        rw [hstate]
        exact Option.some_ne_none _
      obtain ⟨payment, hok⟩ := send_of_new hvalid (hchannel hheld) haccepted
        (fun hids => hfresh ⟨haccepted, hids⟩) hcall
      cases hok
    · exact send_of_refused haccepted hcall

end Call

inductive PaymentCall (ldk : Ldk) where
  | initializeChannel (channel : FundedChannel ldk)
  | sendNativeAssetPayment (request : NativeAssetPaymentRequest) (quotes : RfqQuoteStore)

def PaymentCall.operation {ldk : Ldk} : PaymentCall ldk → PaymentOperation ldk
  | .initializeChannel channel => .initializeChannel channel
  | .sendNativeAssetPayment request quotes => .sendNativeAssetPayment request quotes

/-- The machine of initialisations and payments alone. -/
def callMachine (ldk : Ldk) : Machine PaymentStores (PaymentCall ldk) :=
  ⟨(paymentMachine ldk).start, fun s call => (paymentMachine ldk).next s call.operation⟩

/-- No call is a payment that the channel takes under ids that the stores hold already. -/
def NewIds (ldk : Ldk) (s : PaymentStores) : PaymentCall ldk → Prop
  | .initializeChannel _ => True
  | .sendNativeAssetPayment request quotes =>
    ¬ (Accepted ldk request { s with quotes } ∧ IdsHeld request { s with quotes })

/-- A call that fails leaves the channels, the HTLCs and the payments as they were. -/
def LeavesNoTrace (ldk : Ldk) (s : PaymentStores) : PaymentCall ldk → Prop
  | .initializeChannel _ => True
  | .sendNativeAssetPayment request quotes => Traceless ldk request { s with quotes }

/-- The sum of the amounts of the payments recorded for a channel. -/
def paid (store : NativeAssetPaymentStore) (channelId : String) : ℕ :=
  total (fun _ p => if p.channelId = channelId then p.assetAmount.toNat else 0) store.payments

/-- A channel has its initial local balance, less the payments recorded for it. -/
structure Balanced (ldk : Ldk) (ops : List (CommitmentOperation ldk)) (s : PaymentStores) :
    Prop where
  held : ∀ (id : String) (state : AssetCommitmentChannelState),
    s.commitments.channels[id]? = some state → ∃ channel, InitializedFrom ldk ops id channel ∧
      state.localBalance.toNat + paid s.payments id = channel.localBalance.toNat
  absent : ∀ id : String, s.commitments.channels[id]? = none → paid s.payments id = 0

/-- The same with what has been lost: amounts that left a channel without a record. -/
structure Accounted (ldk : Ldk) (ops : List (CommitmentOperation ldk)) (lost : String → ℕ)
    (s : PaymentStores) : Prop where
  held : ∀ (id : String) (state : AssetCommitmentChannelState),
    s.commitments.channels[id]? = some state → ∃ channel, InitializedFrom ldk ops id channel ∧
      state.localBalance.toNat + (paid s.payments id + lost id) = channel.localBalance.toNat
  absent : ∀ id : String, s.commitments.channels[id]? = none → paid s.payments id + lost id = 0

/-- The calls of the commitment store that a run of payments makes. -/
def channelCalls (ldk : Ldk) (calls : List (PaymentCall ldk)) : List (CommitmentOperation ldk) :=
  commitmentCalls ldk (calls.map (·.operation))

theorem callMachine_run (ldk : Ldk) (calls : List (PaymentCall ldk)) :
    (callMachine ldk).run calls = (paymentMachine ldk).run (calls.map (·.operation)) := by
  rw [Machine.run, Machine.run, List.foldl_map]
  rfl

theorem run_channelCalls (ldk : Ldk) (calls : List (PaymentCall ldk)) :
    ((callMachine ldk).run calls).commitments =
      (commitmentMachine ldk).run (channelCalls ldk calls) := by
  rw [callMachine_run, run_commitments]
  rfl

theorem channelCalls_concat (ldk : Ldk) (calls : List (PaymentCall ldk)) (call : PaymentCall ldk) :
    channelCalls ldk (calls ++ [call]) = channelCalls ldk calls ++
      (commitmentCall ldk ((callMachine ldk).run calls) call.operation).toList := by
  rw [channelCalls, List.map_append, List.map_singleton, commitmentCalls, Machine.emitted_concat,
    callMachine_run]
  rfl

theorem hexChar_black : ∀ v < 16, isWhitespace (hexChar v) = false := by decide

theorem isBlank_toHex (b : Bytes32) : isBlank (toHex b) = false := by
  have hlength := b.length_eq
  cases hbytes : b.bytes with
  | nil =>
    rw [hbytes] at hlength
    cases hlength
  | cons byte rest =>
    have hblack : isWhitespace (hexChar (byte.toNat / 16)) = false := by
      refine hexChar_black _ ?_
      have hlt := byte.toNat_lt
      omega
    simp [toHex, encodeHex, isBlank, hbytes, hblack]

/-- The id of a funded channel is a digest in hexadecimal. -/
theorem funded_channelId {ldk : Ldk} (c : FundedChannel ldk) :
    isBlank c.channel.channelId = false := by
  obtain ⟨store, request, next, h⟩ := c.funded
  have hfunds := fundChannel_spec h
  have hget : next.channels[c.channel.channelId]? = some c.channel := by
    rw [hfunds.store]
    exact get_insert_self ..
  have hvalid := hfunds.valid.channel _ _ hget
  simp only [AssetChannelStore.validateChannel, check_bind_eq_ok, rejectIf_eq_ok, ne_eq,
    not_not] at hvalid
  obtain ⟨-, -, hbinding, -⟩ := hvalid
  rw [← hbinding]
  exact isBlank_toHex _

section Balance

variable {ldk : Ldk} {ops : List (CommitmentOperation ldk)} {lost : String → ℕ}
  {s t : PaymentStores}

/-- The balances are those of the recorded payments exactly if nothing is lost. -/
theorem balanced_iff (h : Accounted ldk ops lost s) : Balanced ldk ops s ↔ ∀ id, lost id = 0 := by
  constructor
  · intro hbalanced id
    cases hget : s.commitments.channels[id]? with
    | none =>
      have hgone := h.absent id hget
      omega
    | some state =>
      obtain ⟨channel, hfrom, hsum⟩ := h.held id state hget
      obtain ⟨channel', hfrom', hsum'⟩ := hbalanced.held id state hget
      rw [initializedFrom_unique hfrom' hfrom] at hsum'
      omega
  · intro hlost
    constructor
    · intro id state hget
      obtain ⟨channel, hfrom, hsum⟩ := h.held id state hget
      rw [hlost, Nat.add_zero] at hsum
      exact ⟨channel, hfrom, hsum⟩
    · intro id hget
      have hgone := h.absent id hget
      omega

theorem accounted_kept (h : Accounted ldk ops lost s) (hcommitments : t.commitments = s.commitments)
    (hpayments : t.payments = s.payments) (made : Option (CommitmentOperation ldk)) :
    Accounted ldk (ops ++ made.toList) lost t := by
  constructor
  · intro id state hheld
    rw [hcommitments] at hheld
    rw [hpayments]
    obtain ⟨channel, hfrom, hsum⟩ := h.held id state hheld
    refine ⟨channel, ?_, hsum⟩
    cases made with
    | none => rwa [Option.toList_none, List.append_nil]
    | some op => exact initializedFrom_concat hfrom op
  · rw [hcommitments, hpayments]
    exact h.absent

theorem accounted_initialized (h : Accounted ldk ops lost s)
    (hrun : s.commitments = (commitmentMachine ldk).run ops) {c : FundedChannel ldk}
    {state : AssetCommitmentChannelState} (hnext : t.commitments =
      (commitmentMachine ldk).next s.commitments (.initializeChannel c))
    (hinit : Initializes ldk s.commitments c.channel state t.commitments)
    (hpayments : t.payments = s.payments) :
    Accounted ldk (ops ++ [.initializeChannel c]) lost t := by
  constructor
  · intro id held hheld
    rw [hpayments]
    rw [hinit.store] at hheld
    rcases get_insert_eq_some hheld with ⟨rfl, rfl⟩ | ⟨-, hheld⟩
    · refine ⟨c.channel, ⟨ops, [], c, held, rfl, rfl, rfl, ?_⟩, ?_⟩
      · rwa [Machine.run_concat, ← hrun, ← hnext]
      · rw [h.absent _ hinit.fresh, hinit.funded.localBalance, Nat.add_zero]
    · obtain ⟨channel, hfrom, hsum⟩ := h.held id held hheld
      exact ⟨channel, initializedFrom_concat hfrom _, hsum⟩
  · intro id hnone
    rw [hpayments]
    refine h.absent id ?_
    by_contra hheld
    have hstill : t.commitments.channels[id]? ≠ none := by
      rw [hnext]
      exact held_next _ hheld
    exact hstill hnone

/-- What an update takes from a channel is either recorded or lost. -/
theorem accounted_updated (h : Accounted ldk ops lost s) (hstory : StoreStory ldk ops s.commitments)
    {request : NativeAssetPaymentRequest} {proposal : PaymentProposal}
    {snapshot : AssetCommitmentSnapshot} (hproposes : Proposes s.commitments request proposal)
    (hok : s.commitments.applyUpdate ldk proposal.update = .ok (snapshot, t.commitments))
    {lost' : String → ℕ} (hgone : ∀ id, paid t.payments id + lost' id = paid s.payments id +
      lost id + if request.channelId = id then proposal.validation.assetAmount.toNat else 0) :
    Accounted ldk (ops ++ [.applyUpdate proposal.update]) lost' t := by
  obtain ⟨-, current, updated, -, hheld, -, hstep, hstore, hmoved⟩ :=
    paid_update hstory hproposes hok
  constructor
  · intro id state hget
    rw [hstore] at hget
    rw [hgone]
    rcases get_insert_eq_some hget with ⟨rfl, rfl⟩ | ⟨hne, hget⟩
    · obtain ⟨channel, hfrom, hsum⟩ := h.held _ current hheld
      refine ⟨channel, initializedFrom_concat hfrom _, ?_⟩
      obtain ⟨blob, -, hupdated⟩ := hstep.updated
      have hlocal : state.localBalance = snapshot.localBalance := by
        rw [hupdated]
        rfl
      rw [if_pos rfl, hlocal]
      omega
    · obtain ⟨channel, hfrom, hsum⟩ := h.held id state hget
      refine ⟨channel, initializedFrom_concat hfrom _, ?_⟩
      rw [if_neg (Ne.symm hne), Nat.add_zero]
      exact hsum
  · intro id hnone
    have hne : id ≠ request.channelId := by
      rintro rfl
      rw [hstore, AssetCommitmentStore.putChannel, get_insert_self] at hnone
      cases hnone
    rw [hstore, AssetCommitmentStore.putChannel, get_insert_ne hne] at hnone
    rw [hgone, if_neg (Ne.symm hne), Nat.add_zero, h.absent id hnone]

theorem paid_booked {request : NativeAssetPaymentRequest} {proposal : PaymentProposal}
    {snapshot : AssetCommitmentSnapshot} {p : NativeAssetPayment} {store : AssetCommitmentStore}
    (hproposes : Proposes store request proposal) (hbooks : Books request proposal snapshot p s t)
    (id : String) : paid t.payments id = paid s.payments id +
      if request.channelId = id then proposal.validation.assetAmount.toNat else 0 := by
  have hid : p.channelId = request.channelId := by
    rw [hbooks.recorded]
    rfl
  have hamount : p.assetAmount = proposal.validation.assetAmount := by
    rw [hbooks.recorded, hproposes.terms]
    rfl
  rw [paid, hbooks.payments, total_insert hbooks.fresh, hid, hamount, Nat.add_comm]
  rfl

end Balance

/-- The stores and the ids of the channels are valid, and the balances are accounted for. -/
structure Booked (ldk : Ldk) (ops : List (CommitmentOperation ldk)) (lost : String → ℕ)
    (s : PaymentStores) : Prop where
  stores : StoresValid s
  ids : ∀ id : String, s.commitments.channels[id]? ≠ none → isBlank id = false
  accounted : Accounted ldk ops lost s

theorem ids_next {ldk : Ldk} {store : AssetCommitmentStore} (op : CommitmentOperation ldk)
    (h : ∀ id : String, store.channels[id]? ≠ none → isBlank id = false) (id : String)
    (hid : ((commitmentMachine ldk).next store op).channels[id]? ≠ none) : isBlank id = false := by
  rcases next_cases store op with ⟨hsame, -⟩ | ⟨c, state, -, hinit⟩ |
    ⟨request, current, snapshot, updated, -, -, happlies⟩
  · rw [hsame] at hid
    exact h id hid
  · by_cases hnew : id = c.channel.channelId
    · rw [hnew]
      exact funded_channelId c
    · rw [hinit.store, AssetCommitmentStore.putChannel, get_insert_ne hnew] at hid
      exact h id hid
  · refine h id ?_
    by_cases hnew : id = request.channelId
    · rw [hnew, happlies.held]
      exact Option.some_ne_none _
    · rwa [happlies.store, AssetCommitmentStore.putChannel, get_insert_ne hnew] at hid

section Step

variable {ldk : Ldk} {ops : List (CommitmentOperation ldk)} {lost : String → ℕ}
  {s : PaymentStores}

theorem accounted_initialize (h : Accounted ldk ops lost s)
    (hrun : s.commitments = (commitmentMachine ldk).run ops) (c : FundedChannel ldk) :
    Accounted ldk (ops ++ [.initializeChannel c]) lost
      ((paymentMachine ldk).next s (.initializeChannel c)) := by
  have hstep := (payment_step ldk s (.initializeChannel c)).commitments
  rcases next_cases s.commitments (.initializeChannel c) with ⟨hsame, -⟩ |
    ⟨d, state, hd, hinit⟩ | ⟨_, _, _, _, hother, -⟩
  · exact accounted_kept h (hstep.trans hsame) rfl (some _)
  · cases hd
    exact accounted_initialized h hrun rfl hinit rfl
  · cases hother

/-- What is lost when one more amount has left a channel without a record. -/
def lostAfter (lost : String → ℕ) (channelId : String) (amount : ℕ) (id : String) : ℕ :=
  lost id + if channelId = id then amount else 0

theorem lostAfter_ne {channelId : String} {amount : ℕ} (h : amount ≠ 0) :
    lostAfter lost channelId amount channelId ≠ 0 := by
  rw [lostAfter, if_pos rfl]
  omega

/-- What a payment takes from its channel is recorded, or lost when its ids are held already. -/
theorem accounted_payment (h : Accounted ldk ops lost s) (hstory : StoreStory ldk ops s.commitments)
    (hvalid : StoresValid s) (request : NativeAssetPaymentRequest) (quotes : RfqQuoteStore)
    (hchannel : s.commitments.channels[request.channelId]? ≠ none →
      isBlank request.channelId = false) : ∃ lost',
    Accounted ldk (ops ++ (commitmentCall ldk s (.sendNativeAssetPayment request quotes)).toList)
        lost' ((sendNativeAssetPayment ldk request).call { s with quotes }).2 ∧
      ((∀ id, lost' id = 0) ↔ (∀ id, lost id = 0) ∧
        NewIds ldk s (.sendNativeAssetPayment request quotes)) := by
  rcases hcall : (sendNativeAssetPayment ldk request).call { s with quotes } with ⟨result, t⟩
  by_cases haccepted : Accepted ldk request { s with quotes }
  · obtain ⟨proposal, snapshot, next, hproposal, hok⟩ := id haccepted
    have hproposes := proposePayment_spec (Prod.ext hproposal rfl)
    obtain ⟨quote, -, hterms⟩ := proposePayment_terms (Prod.ext hproposal rfl)
    have hmade : commitmentCall ldk s (.sendNativeAssetPayment request quotes) =
        some (.applyUpdate proposal.update) := by
      rw [commitmentCall, hproposal]
      rfl
    rw [hmade]
    by_cases hheld : IdsHeld request { s with quotes }
    · obtain ⟨-, rfl, hpayments⟩ := send_held_fails hproposal hok hheld hcall
      refine ⟨lostAfter lost request.channelId proposal.validation.assetAmount.toNat,
        accounted_updated h hstory hproposes hok fun id => ?_, ?_⟩
      · rw [hpayments, lostAfter, Nat.add_assoc]
      · have hamount : proposal.validation.assetAmount.toNat ≠ 0 := by
          rw [hterms.validation, ne_eq, ← UInt64.toNat_zero, UInt64.toNat_inj]
          exact hterms.prepared.amount
        constructor
        · intro hzero
          exact absurd (hzero request.channelId) (lostAfter_ne hamount)
        · rintro ⟨-, hnew⟩
          exact absurd ⟨haccepted, hheld⟩ hnew
    · have hblank : isBlank request.channelId = false := by
        obtain ⟨state, hstate, -⟩ := hproposes.update
        refine hchannel ?_
        rw [hstate]
        exact Option.some_ne_none _
      have hstores : StoresValid { s with quotes } := ⟨hvalid.htlcs, hvalid.payments⟩
      obtain ⟨payment, rfl⟩ := send_of_new hstores hblank haccepted hheld hcall
      obtain ⟨proposal', snapshot', hproposal', hok', hbooks⟩ := sent_books hcall
      obtain rfl := Except.ok.inj (hproposal.symm.trans hproposal')
      refine ⟨lost, accounted_updated h hstory hproposes hok' fun id => ?_, ?_⟩
      · rw [paid_booked hproposes hbooks, Nat.add_right_comm]
      · exact (and_iff_left fun hboth => hheld hboth.2).symm
  · obtain ⟨hcommitments, hrest⟩ := Prod.mk.inj (send_of_refused haccepted hcall)
    obtain ⟨-, hpayments⟩ := Prod.mk.inj hrest
    exact ⟨lost, accounted_kept h hcommitments hpayments _,
      (and_iff_left fun hboth => haccepted hboth.1).symm⟩

end Step

theorem booked_next {ldk : Ldk} {calls : List (PaymentCall ldk)} {lost : String → ℕ}
    (h : Booked ldk (channelCalls ldk calls) lost ((callMachine ldk).run calls))
    (call : PaymentCall ldk) : ∃ lost', Booked ldk (channelCalls ldk (calls ++ [call])) lost'
        ((callMachine ldk).run (calls ++ [call])) ∧
      ((∀ id, lost' id = 0) ↔ (∀ id, lost id = 0) ∧
        NewIds ldk ((callMachine ldk).run calls) call) := by
  have hrun := run_channelCalls ldk calls
  have hstory := story_run ldk (channelCalls ldk calls)
  rw [← hrun] at hstory
  rw [channelCalls_concat, Machine.run_concat]
  generalize (callMachine ldk).run calls = s at *
  have hstep := (payment_step ldk s call.operation).commitments
  have hnext : (callMachine ldk).next s call = (paymentMachine ldk).next s call.operation := rfl
  rw [← hnext] at hstep
  have hids : ∀ id : String, ((callMachine ldk).next s call).commitments.channels[id]? ≠ none →
      isBlank id = false := by
    rw [hstep]
    cases commitmentCall ldk s call.operation with
    | none => exact h.ids
    | some op => exact ids_next op h.ids
  cases call with
  | initializeChannel c =>
    refine ⟨lost, ⟨⟨h.stores.htlcs, h.stores.payments⟩, hids,
      accounted_initialize h.accounted hrun c⟩, ?_⟩
    exact (and_iff_left trivial).symm
  | sendNativeAssetPayment request quotes =>
    obtain ⟨lost', haccounted, hlost⟩ := accounted_payment h.accounted hstory h.stores request quotes
      (h.ids _)
    have hstores : StoresValid { s with quotes } := ⟨h.stores.htlcs, h.stores.payments⟩
    exact ⟨lost', ⟨send_valid hstores (h.ids _) rfl, hids, haccounted⟩, hlost⟩

/-- Over any run the balances are accounted for, and nothing is lost exactly if every payment
that a channel took had new ids. -/
theorem booked_run (ldk : Ldk) (calls : List (PaymentCall ldk)) : ∃ lost,
    Booked ldk (channelCalls ldk calls) lost ((callMachine ldk).run calls) ∧
      ((∀ id, lost id = 0) ↔ (callMachine ldk).Guarded (NewIds ldk) calls) := by
  induction calls using List.reverseRecOn with
  | nil =>
    have hnone (id : String) : (callMachine ldk).start.commitments.channels[id]? = none := by
      simp [callMachine, paymentMachine, AssetCommitmentStore.default]
    refine ⟨fun _ => 0, ⟨⟨rfl, rfl⟩, ?_, ?_, ?_⟩, ?_⟩
    · intro id hid
      exact absurd (hnone id) hid
    · intro id state hstate
      rw [Machine.run_nil, hnone] at hstate
      cases hstate
    · intro id _
      simp [callMachine, paymentMachine, NativeAssetPaymentStore.default, paid]
    · exact iff_of_true (fun _ => rfl) (Machine.guarded_nil _ _)
  | append_singleton calls call ih =>
    obtain ⟨lost, hbooked, hlost⟩ := ih
    obtain ⟨lost', hbooked', hlost'⟩ := booked_next hbooked call
    refine ⟨lost', hbooked', ?_⟩
    rw [hlost', hlost, Machine.guarded_concat_iff]

/-- In every reachable state a call fails without a trace exactly if it is new. -/
theorem newIds_iff (ldk : Ldk) (calls : List (PaymentCall ldk)) (call : PaymentCall ldk) :
    NewIds ldk ((callMachine ldk).run calls) call ↔
      LeavesNoTrace ldk ((callMachine ldk).run calls) call := by
  obtain ⟨lost, hbooked, -⟩ := booked_run ldk calls
  cases call with
  | initializeChannel c => rfl
  | sendNativeAssetPayment request quotes =>
    have hvalid : StoresValid { (callMachine ldk).run calls with quotes } :=
      ⟨hbooked.stores.htlcs, hbooked.stores.payments⟩
    exact (traceless_iff hvalid (hbooked.ids request.channelId)).symm

/-- Over every run of initialisations and payments, each call that fails leaves the channels,
the HTLCs and the payments as they were, and each channel has its initial local balance less
the payments recorded for it, exactly if the run never has a channel take a payment whose HTLC
or whose payment the stores hold already. -/
theorem payments_atomic_iff (ldk : Ldk) (calls : List (PaymentCall ldk)) :
    ((callMachine ldk).Guarded (LeavesNoTrace ldk) calls ∧
        Balanced ldk (channelCalls ldk calls) ((callMachine ldk).run calls)) ↔
      (callMachine ldk).Guarded (NewIds ldk) calls := by
  have hsame := Machine.guarded_congr (fun calls call _ => newIds_iff ldk calls call) calls
  obtain ⟨lost, hbooked, hlost⟩ := booked_run ldk calls
  rw [← hsame, balanced_iff hbooked.accounted, hlost, and_self]

end TapLdk.AssetPaymentAtomic
