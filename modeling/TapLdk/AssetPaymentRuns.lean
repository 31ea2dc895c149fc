import Mathlib
import TapLdk.AssetPaymentSteps
import TapLdk.CommitmentStory

/-! Runs of payments beside direct calls of the commitment and HTLC stores: whatever the order
and the failures, the three stores tell one story of each recorded payment. -/
namespace TapLdk.AssetPaymentRuns
open TapLdk.LibraryExcept TapLdk.LibraryMaps TapLdk.LibraryBytes TapLdk.LibraryStateful
open TapLdk.LibraryRuns TapLdk.Mssmt TapLdk.Asset TapLdk.LdkFork TapLdk.RfqQuotes
open TapLdk.ChannelFunding TapLdk.Commitment TapLdk.CommitmentSteps TapLdk.CommitmentStory
open TapLdk.AssetHtlc TapLdk.AssetPayment TapLdk.AssetPaymentSteps

inductive PaymentOperation (ldk : Ldk) where
  | initializeChannel (channel : FundedChannel ldk)
  | applyUpdate (request : AssetCommitmentUpdateRequest)
  | addHtlc (channelId : String) (validation : AssetHtlcValidation)
  | settleHtlc (htlcId : String)
  | failHtlc (htlcId : String)
  | sendNativeAssetPayment (request : NativeAssetPaymentRequest) (quotes : RfqQuoteStore)

def paymentMachine (ldk : Ldk) : Machine PaymentStores (PaymentOperation ldk) where
  start := ⟨.default, .default, .default, .default⟩
  next s
    | .initializeChannel c =>
      { s with commitments := storeAfter s.commitments (s.commitments.initializeChannel ldk c.channel) }
    | .applyUpdate request =>
      { s with commitments := storeAfter s.commitments (s.commitments.applyUpdate ldk request) }
    | .addHtlc channelId validation =>
      { s with htlcs := storeAfter s.htlcs (s.htlcs.addHtlc channelId validation) }
    | .settleHtlc htlcId => { s with htlcs := storeAfter s.htlcs (s.htlcs.settleHtlc htlcId) }
    | .failHtlc htlcId => { s with htlcs := storeAfter s.htlcs (s.htlcs.failHtlc htlcId) }
    | .sendNativeAssetPayment request quotes =>
      ((sendNativeAssetPayment ldk request).call { s with quotes }).2

/-- The call of the commitment store that an operation makes. -/
def commitmentCall (ldk : Ldk) (s : PaymentStores) :
    PaymentOperation ldk → Option (CommitmentOperation ldk)
  | .initializeChannel c => some (.initializeChannel c)
  | .applyUpdate request => some (.applyUpdate request)
  | .addHtlc _ _ | .settleHtlc _ | .failHtlc _ => none
  | .sendNativeAssetPayment request quotes =>
    ((proposePayment ldk request).call { s with quotes }).1.toOption.map fun proposal =>
      .applyUpdate proposal.update

/-- The calls of the commitment store that a run makes. -/
def commitmentCalls (ldk : Ldk) (ops : List (PaymentOperation ldk)) :
    List (CommitmentOperation ldk) :=
  (paymentMachine ldk).emitted (commitmentCall ldk) ops

/-- What an operation does to the three stores. -/
structure PaymentStep (ldk : Ldk) (s : PaymentStores) (op : PaymentOperation ldk)
    (t : PaymentStores) : Prop where
  commitments : t.commitments = (commitmentCall ldk s op).elim s.commitments
    ((commitmentMachine ldk).next s.commitments)
  htlcs : KeepsTerminal s.htlcs t.htlcs
  payments : t.payments = s.payments ∨ ∃ request proposal snapshot payment,
    commitmentCall ldk s op = some (.applyUpdate proposal.update) ∧
      Proposes s.commitments request proposal ∧
      s.commitments.applyUpdate ldk proposal.update = .ok (snapshot, t.commitments) ∧
      Books request proposal snapshot payment s t

theorem next_update (ldk : Ldk) (store : AssetCommitmentStore)
    (request : AssetCommitmentUpdateRequest) :
    (commitmentMachine ldk).next store (.applyUpdate request) =
      storeAfter store (store.applyUpdate ldk request) := rfl

theorem send_step (ldk : Ldk) (s : PaymentStores) (request : NativeAssetPaymentRequest)
    (quotes : RfqQuoteStore) : PaymentStep ldk s (.sendNativeAssetPayment request quotes)
      ((paymentMachine ldk).next s (.sendNativeAssetPayment request quotes)) := by
  have hnext : (paymentMachine ldk).next s (.sendNativeAssetPayment request quotes) =
      ((sendNativeAssetPayment ldk request).call { s with quotes }).2 := rfl
  rw [hnext]
  generalize hcall : (sendNativeAssetPayment ldk request).call { s with quotes } = r
  obtain ⟨result, t⟩ := r
  rcases sendNativeAssetPayment_cases ldk request _ hcall with ⟨e, he, -, hsame⟩ |
    ⟨proposal, hproposal, hproposes, hrest⟩
  · obtain ⟨hcommitments, hrest⟩ := Prod.mk.inj hsame
    obtain ⟨hhtlcs, hpayments⟩ := Prod.mk.inj hrest
    refine ⟨?_, ?_, .inl hpayments⟩
    · rw [commitmentCall, he]
      exact hcommitments
    · rw [hhtlcs]
      exact keepsTerminal_refl _
  · have hmade : commitmentCall ldk s (.sendNativeAssetPayment request quotes) =
        some (.applyUpdate proposal.update) := by
      rw [commitmentCall, hproposal]
      rfl
    rcases hrest with ⟨e, hfails, -, hsame⟩ | ⟨snapshot, next, hok, rfl, hkeeps, hrecorded⟩
    · obtain ⟨hcommitments, hrest⟩ := Prod.mk.inj hsame
      obtain ⟨hhtlcs, hpayments⟩ := Prod.mk.inj hrest
      have hfails : s.commitments.applyUpdate ldk proposal.update = .error e := hfails
      refine ⟨?_, ?_, .inl hpayments⟩
      · rw [hmade, Option.elim_some, next_update, hfails, storeAfter_error]
        exact hcommitments
      · rw [hhtlcs]
        exact keepsTerminal_refl _
    · have hok : s.commitments.applyUpdate ldk proposal.update = .ok (snapshot, t.commitments) := hok
      refine ⟨?_, hkeeps, ?_⟩
      · rw [hmade, Option.elim_some, next_update, hok, storeAfter_ok]
      · rcases hrecorded with ⟨e, -, hpayments⟩ | ⟨payment, -, hbooks⟩
        · exact .inl hpayments
        · exact .inr ⟨request, proposal, snapshot, payment, hmade, hproposes, hok, hbooks.recorded,
            hbooks.fresh, hbooks.payments, hbooks.htlc⟩

theorem payment_step (ldk : Ldk) (s : PaymentStores) (op : PaymentOperation ldk) :
    PaymentStep ldk s op ((paymentMachine ldk).next s op) := by
  cases op with
  | initializeChannel c => exact ⟨rfl, keepsTerminal_refl _, .inl rfl⟩
  | applyUpdate request => exact ⟨rfl, keepsTerminal_refl _, .inl rfl⟩
  | addHtlc channelId validation =>
    refine ⟨rfl, ?_, .inl rfl⟩
    simp only [paymentMachine]
    cases h : s.htlcs.addHtlc channelId validation with
    | error e => exact keepsTerminal_refl _
    | ok r => exact addHtlc_keeps h
  | settleHtlc htlcId =>
    refine ⟨rfl, ?_, .inl rfl⟩
    simp only [paymentMachine]
    cases h : s.htlcs.settleHtlc htlcId with
    | error e => exact keepsTerminal_refl _
    | ok r => exact transition_keeps h
  | failHtlc htlcId =>
    refine ⟨rfl, ?_, .inl rfl⟩
    simp only [paymentMachine]
    cases h : s.htlcs.failHtlc htlcId with
    | error e => exact keepsTerminal_refl _
    | ok r => exact transition_keeps h
  | sendNativeAssetPayment request quotes => exact send_step ldk s request quotes

/-- The commitment store is where its own calls lead. -/
theorem run_commitments (ldk : Ldk) (ops : List (PaymentOperation ldk)) :
    ((paymentMachine ldk).run ops).commitments =
      (commitmentMachine ldk).run (commitmentCalls ldk ops) :=
  Machine.run_component (·.commitments) rfl
    (fun s op => (payment_step ldk s op).commitments) ops

/-- A payment has a settled HTLC on its channel, with its terms. -/
def HtlcTold (store : AssetHtlcStore) (p : NativeAssetPayment) : Prop :=
  ∃ id quoteId, p.htlcId = some id ∧ p.quoteId = toHex quoteId ∧
    store.htlcs[id]? = some ⟨id, p.channelId, p.assetId, p.assetAmount, quoteId, p.btcMsat,
      p.paymentHash, .settled⟩

/-- A payment has a commitment of its channel with its number and balances, and has moved its
amount away from the local balance before that commitment. -/
def CommitmentTold (ldk : Ldk) (calls : List (CommitmentOperation ldk))
    (store : AssetCommitmentStore) (p : NativeAssetPayment) : Prop :=
  ∃ channel state n c k number localBalance remoteBalance,
    InitializedFrom ldk calls p.channelId channel ∧ store.channels[p.channelId]? = some state ∧
      ChannelStory channel n state ∧ p.commitmentNumber = some number ∧ number.toNat = k + 1 ∧
      CommitmentAt state (k + 1) c ∧ p.senderBalanceAfter = c.localBalance ∧
      p.receiverBalanceAfter = c.remoteBalance ∧
      AllocationAt channel state k localBalance remoteBalance ∧
      p.senderBalanceAfter.toNat + p.assetAmount.toNat = localBalance.toNat

theorem commitmentTold_call {ldk : Ldk} {calls : List (CommitmentOperation ldk)}
    {store : AssetCommitmentStore} {p : NativeAssetPayment} (h : CommitmentTold ldk calls store p)
    (call : CommitmentOperation ldk) :
    CommitmentTold ldk (calls ++ [call]) ((commitmentMachine ldk).next store call) p := by
  obtain ⟨channel, state, n, c, k, number, localBalance, remoteBalance, hfrom, hheld, hstory, hnumber,
    hk, hc, hlocal, hremote, hallocation, hmoved⟩ := h
  have hfrom' := initializedFrom_concat hfrom call
  rcases next_cases store call with ⟨hsame, -⟩ | ⟨d, state', rfl, hinit⟩ |
    ⟨request, current, snapshot, updated, rfl, -, happlies⟩
  · rw [hsame]
    exact ⟨channel, state, n, c, k, number, localBalance, remoteBalance, hfrom', hheld, hstory,
      hnumber, hk, hc, hlocal, hremote, hallocation, hmoved⟩
  · have hne : p.channelId ≠ d.channel.channelId := by
      intro heq
      rw [heq, hinit.fresh] at hheld
      cases hheld
    refine ⟨channel, state, n, c, k, number, localBalance, remoteBalance, hfrom', ?_, hstory,
      hnumber, hk, hc, hlocal, hremote, hallocation, hmoved⟩
    rw [hinit.store, AssetCommitmentStore.putChannel, get_insert_ne hne, hheld]
  · rw [happlies.store]
    by_cases hid : p.channelId = request.channelId
    · have hcurrent : state = current := by
        rw [hid, happlies.held] at hheld
        exact (Option.some.inj hheld).symm
      subst hcurrent
      exact ⟨channel, updated, n + 1, c, k, number, localBalance, remoteBalance, hfrom',
        hid ▸ get_insert_self .., story_update hstory happlies.step, hnumber, hk,
        (commitmentAt_updated hstory happlies.step).mpr (.inr hc), hlocal, hremote,
        allocationAt_updated hstory happlies.step hallocation, hmoved⟩
    · refine ⟨channel, state, n, c, k, number, localBalance, remoteBalance, hfrom', ?_, hstory,
        hnumber, hk, hc, hlocal, hremote, hallocation, hmoved⟩
      rw [AssetCommitmentStore.putChannel, get_insert_ne hid, hheld]

/-- The stores agree about each payment, and no two payments of a channel have one number. -/
structure OneStory (ldk : Ldk) (calls : List (CommitmentOperation ldk)) (s : PaymentStores) : Prop where
  htlc : ∀ (id : String) (p : NativeAssetPayment), s.payments.payments[id]? = some p →
    HtlcTold s.htlcs p
  commitment : ∀ (id : String) (p : NativeAssetPayment), s.payments.payments[id]? = some p →
    CommitmentTold ldk calls s.commitments p
  alone : ∀ (id id' : String) (p p' : NativeAssetPayment), s.payments.payments[id]? = some p →
    s.payments.payments[id']? = some p' → p.channelId = p'.channelId →
    p.commitmentNumber = p'.commitmentNumber → id = id'

theorem buildCommitmentUpdate_moves {state : AssetCommitmentChannelState} {sent received : UInt64}
    {nonce : Bytes32} {update : AssetCommitmentUpdateRequest}
    (h : state.buildCommitmentUpdate sent received nonce = .ok update) :
    update.channelId = state.channelId ∧ update.localToRemote = sent ∧
      update.remoteToLocal = received ∧ update.assetNonce = nonce := by
  simp only [AssetCommitmentChannelState.buildCommitmentUpdate, bind_eq_ok, pure_eq_ok,
    Except.ok.injEq] at h
  obtain ⟨_, -, _, -, _, -, _, -, rfl⟩ := h
  exact ⟨rfl, rfl, rfl, rfl⟩

section NewPayment

variable {ldk : Ldk} {calls : List (CommitmentOperation ldk)} {s t : PaymentStores}
  {request : NativeAssetPaymentRequest} {proposal : PaymentProposal}
  {snapshot : AssetCommitmentSnapshot} {p : NativeAssetPayment}

theorem htlcTold_new (hproposes : Proposes s.commitments request proposal)
    (hbooks : Books request proposal snapshot p s t) : HtlcTold t.htlcs p := by
  refine ⟨htlcIdOf request.channelId proposal.validation, proposal.validation.quoteId, ?_, ?_, ?_⟩
  · rw [hbooks.recorded]
    rfl
  · rw [hbooks.recorded]
    exact hproposes.quoteId
  · rw [hbooks.htlc, hbooks.recorded, settledHtlc]
    have hterms := hproposes.terms
    rw [hterms]
    rfl

/-- The update of a payment, on the channel it is for. -/
theorem paid_update (hstory : StoreStory ldk calls s.commitments)
    (hproposes : Proposes s.commitments request proposal)
    (hok : s.commitments.applyUpdate ldk proposal.update = .ok (snapshot, t.commitments)) :
    ∃ channel current updated, InitializedFrom ldk calls request.channelId channel ∧
      s.commitments.channels[request.channelId]? = some current ∧
      ChannelStory channel (updates ldk calls request.channelId) current ∧
      UpdateStep current proposal.update snapshot updated ∧
      t.commitments = s.commitments.putChannel request.channelId updated ∧
      snapshot.localBalance.toNat + proposal.validation.assetAmount.toNat =
        current.localBalance.toNat := by
  obtain ⟨state, hstate, hbuilt⟩ := hproposes.update
  obtain ⟨hid, hsent, hreceived, -⟩ := buildCommitmentUpdate_moves hbuilt
  obtain ⟨channel, hfrom, hchannel⟩ := hstory.channel _ _ hstate
  have hsame : proposal.update.channelId = request.channelId := by
    obtain ⟨_, _, _, _, -, -, hchannelId, -⟩ := hfrom
    rw [hid, hchannel.channelId, hchannelId]
  obtain ⟨current, updated, happlies⟩ := applyUpdate_spec hok
  have hcurrent : state = current := by
    have hheld := happlies.held
    rw [hsame, hstate] at hheld
    exact Option.some.inj hheld
  subst hcurrent
  have hmoved := (movedBalances_eq_ok happlies.step.checked.balances).1
  rw [hsent, hreceived] at hmoved
  exact ⟨channel, state, updated, hfrom, hstate, hchannel, happlies.step, hsame ▸ happlies.store,
    hmoved⟩

theorem commitmentTold_new (hstory : StoreStory ldk calls s.commitments)
    (hproposes : Proposes s.commitments request proposal)
    (hok : s.commitments.applyUpdate ldk proposal.update = .ok (snapshot, t.commitments))
    (hbooks : Books request proposal snapshot p s t) :
    CommitmentTold ldk (calls ++ [.applyUpdate proposal.update]) t.commitments p ∧
      ∀ p', CommitmentTold ldk calls s.commitments p' → p.channelId = p'.channelId →
        p.commitmentNumber ≠ p'.commitmentNumber := by
  obtain ⟨channel, current, updated, hfrom, hheld, hchannel, hstep, hstore, hmoved⟩ :=
    paid_update hstory hproposes hok
  have hnumber : snapshot.commitmentNumber.toNat = updates ldk calls request.channelId + 1 := by
    rw [snapshot_number hstep, hstep.checked.number, hchannel.latest]
  have hid : p.channelId = request.channelId := by
    rw [hbooks.recorded]
    rfl
  have hrecorded : p.commitmentNumber = some snapshot.commitmentNumber := by
    rw [hbooks.recorded]
    rfl
  constructor
  · refine ⟨channel, updated, _, newCommitment current proposal.update snapshot, _,
      snapshot.commitmentNumber, current.localBalance, current.remoteBalance,
      hid ▸ initializedFrom_concat hfrom _, ?_, story_update hchannel hstep, hrecorded, hnumber,
      (commitmentAt_updated hchannel hstep).mpr (.inl ⟨rfl, rfl⟩), ?_, ?_,
      allocationAt_updated hchannel hstep hchannel.allocation, ?_⟩
    · rw [hstore, hid]
      exact get_insert_self ..
    · rw [hbooks.recorded]
      rfl
    · rw [hbooks.recorded]
      rfl
    · have hterms := hproposes.terms
      rw [hterms] at hmoved
      rw [hbooks.recorded]
      exact hmoved
  · rintro p' ⟨channel', state', n, c, k, number, _, _, -, hheld', hchannel', hnumber', hk, hc, -⟩ hsame
      heq
    rw [← hsame, hid, hheld, Option.some.injEq] at hheld'
    subst hheld'
    have hrange := (hchannel'.recorded (k + 1)).mp ⟨c, hc⟩
    have hlatest := hchannel.latest.symm.trans hchannel'.latest
    rw [hrecorded, hnumber', Option.some.injEq] at heq
    rw [heq] at hnumber
    omega

/-- The stores still tell one story after a call that records a payment. -/
theorem oneStory_new (h : OneStory ldk calls s) (hstory : StoreStory ldk calls s.commitments)
    (hnext : t.commitments = (commitmentMachine ldk).next s.commitments (.applyUpdate proposal.update))
    (hkeeps : KeepsTerminal s.htlcs t.htlcs) (hproposes : Proposes s.commitments request proposal)
    (hok : s.commitments.applyUpdate ldk proposal.update = .ok (snapshot, t.commitments))
    (hbooks : Books request proposal snapshot p s t) :
    OneStory ldk (calls ++ [.applyUpdate proposal.update]) t := by
  obtain ⟨hnew, hapart⟩ := commitmentTold_new hstory hproposes hok hbooks
  have hheld {id : String} {q : NativeAssetPayment} (hget : t.payments.payments[id]? = some q) :
      (id = p.paymentId ∧ q = p) ∨ s.payments.payments[id]? = some q := by
    rw [hbooks.payments] at hget
    rcases get_insert_eq_some hget with ⟨rfl, rfl⟩ | ⟨-, hget⟩
    · exact .inl ⟨rfl, rfl⟩
    · exact .inr hget
  constructor
  · intro id q hget
    rcases hheld hget with ⟨-, rfl⟩ | hget
    · exact htlcTold_new hproposes hbooks
    · obtain ⟨htlcId, quoteId, hid, hquote, hhtlc⟩ := h.htlc id q hget
      exact ⟨htlcId, quoteId, hid, hquote, hkeeps _ _ hhtlc (by simp)⟩
  · intro id q hget
    rcases hheld hget with ⟨-, rfl⟩ | hget
    · exact hnew
    · rw [hnext]
      exact commitmentTold_call (h.commitment id q hget) _
  · intro id id' q q' hget hget' hchannel hnumber
    rcases hheld hget with ⟨rfl, rfl⟩ | hget <;> rcases hheld hget' with ⟨rfl, rfl⟩ | hget'
    · rfl
    · exact absurd hnumber (hapart _ (h.commitment _ _ hget') hchannel)
    · exact absurd hnumber.symm (hapart _ (h.commitment _ _ hget) hchannel.symm)
    · exact h.alone id id' q q' hget hget' hchannel hnumber

end NewPayment

/-- The stores still tell one story after a call that records no payment. -/
theorem oneStory_kept {ldk : Ldk} {calls calls' : List (CommitmentOperation ldk)}
    {s t : PaymentStores} (h : OneStory ldk calls s) (hkeeps : KeepsTerminal s.htlcs t.htlcs)
    (hpayments : t.payments = s.payments)
    (htold : ∀ p, CommitmentTold ldk calls s.commitments p →
      CommitmentTold ldk calls' t.commitments p) : OneStory ldk calls' t := by
  constructor
  · intro id p hget
    rw [hpayments] at hget
    obtain ⟨htlcId, quoteId, hid, hquote, hhtlc⟩ := h.htlc id p hget
    exact ⟨htlcId, quoteId, hid, hquote, hkeeps _ _ hhtlc (by simp)⟩
  · intro id p hget
    rw [hpayments] at hget
    exact htold p (h.commitment id p hget)
  · rw [hpayments]
    exact h.alone

theorem oneStory_step {ldk : Ldk} {ops : List (PaymentOperation ldk)}
    (h : OneStory ldk (commitmentCalls ldk ops) ((paymentMachine ldk).run ops))
    (op : PaymentOperation ldk) :
    OneStory ldk (commitmentCalls ldk (ops ++ [op])) ((paymentMachine ldk).run (ops ++ [op])) := by
  have hstory := story_run ldk (commitmentCalls ldk ops)
  rw [← run_commitments] at hstory
  have hcalls : commitmentCalls ldk (ops ++ [op]) = commitmentCalls ldk ops ++
      (commitmentCall ldk ((paymentMachine ldk).run ops) op).toList := Machine.emitted_concat ..
  rw [hcalls, Machine.run_concat]
  have hstep := payment_step ldk ((paymentMachine ldk).run ops) op
  have hcommitments := hstep.commitments
  generalize (paymentMachine ldk).next ((paymentMachine ldk).run ops) op = t at hstep hcommitments ⊢
  rcases hstep.payments with hpayments | ⟨request, proposal, snapshot, p, hmade, hproposes, hok, hbooks⟩
  · refine oneStory_kept h hstep.htlcs hpayments fun p htold => ?_
    rw [hcommitments]
    cases commitmentCall ldk ((paymentMachine ldk).run ops) op with
    | none => simpa using htold
    | some call => exact commitmentTold_call htold call
  · rw [hmade] at hcommitments ⊢
    exact oneStory_new h hstory hcommitments hstep.htlcs hproposes hok hbooks

/-- Over every run of initialisations, updates, HTLC calls and payments, in any order and with
any failures, each recorded payment has its settled HTLC and its own numbered commitment. -/
theorem payments_tell_one_story (ldk : Ldk) (ops : List (PaymentOperation ldk)) :
    OneStory ldk (commitmentCalls ldk ops) ((paymentMachine ldk).run ops) := by
  induction ops using List.reverseRecOn with
  | nil =>
    have hnone (id : String) : (paymentMachine ldk).start.payments.payments[id]? = none := by
      simp [paymentMachine, NativeAssetPaymentStore.default]
    constructor
    · intro id p hget
      rw [Machine.run_nil, hnone] at hget
      cases hget
    · intro id p hget
      rw [Machine.run_nil, hnone] at hget
      cases hget
    · intro id id' p p' hget
      rw [Machine.run_nil, hnone] at hget
      cases hget
  | append_singleton ops op ih => exact oneStory_step ih op

end TapLdk.AssetPaymentRuns
