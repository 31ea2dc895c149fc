import Mathlib
import TapLdk.RfqQuoteSteps

/-! Authorizations over whole runs of the quote store: no quote id and no replay domain is
authorized twice, and each authorization repeats the terms of a request that was accepted
before its expiry. -/
namespace TapLdk.RfqQuoteAuthorization
open TapLdk.LibraryExcept TapLdk.LibraryMaps TapLdk.LibraryRuns TapLdk.RfqQuotes
open TapLdk.RfqQuoteSteps

/-- The authorizations returned along a run, in order. -/
def authorizations (ops : List RfqOperation) : List RfqHtlcAuthorization :=
  quoteMachine.emitted RfqQuoteStore.authorized ops

/-- A call of the run answered a request with this quote and stored it. -/
def RequestedIn (ops : List RfqOperation) (quote : StoredRfqQuote) : Prop :=
  ∃ start request rest, ops = start ++ .requestQuote request :: rest ∧
    (quoteMachine.run start).prepareQuote request = .ok quote

/-- The quote was requested by a call of the run, and a later call accepted it: that call
found it stored as requested, on the same terms. -/
def AcceptedIn (ops : List RfqOperation) (quote : StoredRfqQuote) : Prop :=
  ∃ start now rest stored, ops = start ++ .acceptQuote quote.quoteId now :: rest ∧
    RequestedIn start quote ∧ (quoteMachine.run start).quotes[quote.quoteId]? = some stored ∧
    SameTerms quote stored ∧ stored.status = .requested ∧ now ≤ quote.expiryUnixSeconds

theorem RequestedIn.concat {ops : List RfqOperation} {quote : StoredRfqQuote}
    (h : RequestedIn ops quote) (op : RfqOperation) : RequestedIn (ops ++ [op]) quote := by
  obtain ⟨start, request, rest, rfl, hprepare⟩ := h
  exact ⟨start, request, rest ++ [op], by simp, hprepare⟩

theorem AcceptedIn.concat {ops : List RfqOperation} {quote : StoredRfqQuote}
    (h : AcceptedIn ops quote) (op : RfqOperation) : AcceptedIn (ops ++ [op]) quote := by
  obtain ⟨start, now, rest, stored, rfl, hrest⟩ := h
  exact ⟨start, now, rest ++ [op], stored, by simp, hrest⟩

/-- Where a stored quote comes from: a request on its terms, and an acceptance once it
counts as accepted. -/
structure Recorded (ops : List RfqOperation) (quoteId : String) (quote : StoredRfqQuote) :
    Prop where
  key : quote.quoteId = quoteId
  origin : ∃ first, SameTerms first quote ∧ RequestedIn ops first ∧
    (quote.status = .accepted → AcceptedIn ops first)

/-- A quote on the same terms keeps its history, unless it has just been accepted. -/
theorem Recorded.update {ops : List RfqOperation} {quoteId : String} {quote quote' : StoredRfqQuote}
    (h : Recorded ops quoteId quote) (op : RfqOperation) (hterms : SameTerms quote quote')
    (hstatus : quote'.status = .accepted → quote.status = .accepted) :
    Recorded (ops ++ [op]) quoteId quote' := by
  obtain ⟨hkey, first, hfirst, hrequested, haccepted⟩ := h
  refine ⟨hterms.quoteId ▸ hkey, first, hfirst.trans hterms, hrequested.concat op, fun hs => ?_⟩
  exact (haccepted (hstatus hs)).concat op

/-- Every quote of a reachable store has its history in the run. -/
theorem quotes_recorded (ops : List RfqOperation) :
    ∀ quoteId quote, (quoteMachine.run ops).quotes[quoteId]? = some quote →
      Recorded ops quoteId quote := by
  induction ops using List.reverseRecOn with
  | nil =>
    intro quoteId quote h
    simp [quoteMachine, RfqQuoteStore.default] at h
  | append_singleton ops op ih =>
    rw [Machine.run_concat]
    have hkeep (quoteId : String) (quote : StoredRfqQuote)
        (h : (quoteMachine.run ops).quotes[quoteId]? = some quote) :
        Recorded (ops ++ [op]) quoteId quote :=
      (ih quoteId quote h).update op (.refl quote) id
    have heffect := after_effect (quoteMachine.run ops) op
    intro quoteId quote h
    change ((quoteMachine.run ops).after op).quotes[quoteId]? = some quote at h
    generalize hnext : (quoteMachine.run ops).after op = next at heffect h
    cases heffect with
    | refused => exact hkeep quoteId quote h
    | registered => exact hkeep quoteId quote h
    | requested hprepare =>
      rcases get_insert_eq_some h with ⟨rfl, rfl⟩ | ⟨-, h⟩
      · have hrequested : (quote.status = .accepted) = False := by
          rw [(prepareQuote_spec hprepare).1]
          exact eq_false nofun
        refine ⟨rfl, quote, .refl quote, ⟨ops, _, [], rfl, hprepare⟩, fun hs => ?_⟩
        exact (hrequested ▸ hs).elim
      · exact hkeep quoteId quote h
    | accepted hget hstatus htime hterms hstatus' =>
      rcases get_insert_eq_some h with ⟨rfl, rfl⟩ | ⟨-, h⟩
      · obtain ⟨hkey, first, hfirst, hrequested, -⟩ := ih _ _ hget
        have hid := hfirst.quoteId.trans hkey
        refine ⟨hterms.quoteId ▸ hkey, first, hfirst.trans hterms, hrequested.concat _, fun _ => ?_⟩
        exact ⟨ops, _, [], _, by rw [hid], hrequested, by rw [hid]; exact hget, hfirst, hstatus,
          hfirst.2 ▸ htime⟩
      · exact hkeep quoteId quote h
    | closed hget hlive hterms hstatus =>
      rcases get_insert_eq_some h with ⟨rfl, rfl⟩ | ⟨-, h⟩
      · refine (ih _ _ hget).update op hterms fun hs => ?_
        rcases hstatus with hstatus | hstatus <;> rw [hstatus] at hs <;> cases hs
      · exact hkeep quoteId quote h
    | authorized hget hstatus htime hfresh hterms hstatus' =>
      rcases get_insert_eq_some h with ⟨rfl, rfl⟩ | ⟨-, h⟩
      · exact (ih _ _ hget).update _ hterms fun _ => hstatus
      · exact hkeep quoteId quote h

/-- What an authorization that was returned says about the store before and after it. -/
theorem authorizeAssetHtlc_eq_ok {store : RfqQuoteStore} {quoteId : String} {now : UInt64}
    {authorization : RfqHtlcAuthorization}
    (h : (store.authorizeAssetHtlc quoteId now).1 = .ok authorization) :
    ∃ quote, store.quotes[quoteId]? = some quote ∧ quote.status = .accepted ∧
      now ≤ quote.expiryUnixSeconds ∧ store.usedReplayDomains[quote.replayDomain]? = none ∧
      authorization = .fromQuote quote ∧
      (store.authorizeAssetHtlc quoteId now).2.usedReplayDomains =
        store.usedReplayDomains.insert quote.replayDomain quote.quoteId ∧
      (store.authorizeAssetHtlc quoteId now).2.validate = .ok () := by
  obtain ⟨next, hprepared, hnext, hvalid⟩ := mutate_fst h
  simp only [bind_eq_ok, okOr_eq_ok, rejectIf_eq_ok, pure_eq_ok, Except.ok.injEq, Prod.mk.injEq,
    Option.isSome_iff_ne_none, ne_eq, not_not] at hprepared
  obtain ⟨quote, hget, u, htime, -, hstatus, -, hfresh, rfl, rfl⟩ := hprepared
  rw [RfqQuoteStore.authorizeAssetHtlc, hnext]
  exact ⟨quote, hget, hstatus, not_expired htime, hfresh, rfl, rfl, hvalid⟩

theorem authorized_eq_some {store : RfqQuoteStore} {op : RfqOperation}
    {authorization : RfqHtlcAuthorization} (h : store.authorized op = some authorization) :
    ∃ quoteId now, op = .authorizeAssetHtlc quoteId now ∧
      (store.authorizeAssetHtlc quoteId now).1 = .ok authorization := by
  cases op with
  | authorizeAssetHtlc quoteId now =>
    refine ⟨quoteId, now, rfl, ?_⟩
    simp only [RfqQuoteStore.authorized] at h
    cases hresult : (store.authorizeAssetHtlc quoteId now).1 with
    | error e =>
      rw [hresult] at h
      cases h
    | ok a =>
      rw [hresult] at h
      rw [Option.some.inj h]
  | _ => cases h

/-- A used replay domain is never released. -/
theorem usedReplayDomains_mono {store next : RfqQuoteStore} {op : RfqOperation}
    (h : Effect store op next) {replayDomain quoteId : String}
    (hused : store.usedReplayDomains[replayDomain]? = some quoteId) :
    next.usedReplayDomains[replayDomain]? = some quoteId := by
  cases h with
  | @authorized _ _ _ quote' _ _ _ hfresh hterms _ =>
    have hne : replayDomain ≠ quote'.replayDomain := by
      rintro rfl
      rw [← hterms.replayDomain, hfresh] at hused
      cases hused
    exact (get_insert_ne hne).trans hused
  | _ => exact hused

/-- An authorization that was returned leaves its replay domain used by its quote. -/
theorem authorizations_used (ops : List RfqOperation) :
    ∀ a ∈ authorizations ops,
      (quoteMachine.run ops).usedReplayDomains[a.replayDomain]? = some a.quoteId := by
  induction ops using List.reverseRecOn with
  | nil =>
    intro a ha
    cases ha
  | append_singleton ops op ih =>
    intro a ha
    rw [authorizations, Machine.emitted_concat, List.mem_append, Option.mem_toList] at ha
    rw [Machine.run_concat]
    rcases ha with ha | ha
    · exact usedReplayDomains_mono (after_effect _ op) (ih a ha)
    · obtain ⟨quoteId, now, rfl, hok⟩ := authorized_eq_some ha
      obtain ⟨quote, -, -, -, -, rfl, hnext, -⟩ := authorizeAssetHtlc_eq_ok hok
      change ((quoteMachine.run ops).authorizeAssetHtlc quoteId now).2.usedReplayDomains[_]? = _
      rw [hnext]
      exact get_insert_self _ _ _

/-- A new authorization has a replay domain and a quote id of its own. -/
theorem authorization_fresh {ops : List RfqOperation} {quoteId : String} {now : UInt64}
    {authorization : RfqHtlcAuthorization}
    (h : ((quoteMachine.run ops).authorizeAssetHtlc quoteId now).1 = .ok authorization) :
    ∀ a ∈ authorizations ops, a.replayDomain ≠ authorization.replayDomain ∧
      a.quoteId ≠ authorization.quoteId := by
  intro a ha
  have hused := authorizations_used ops a ha
  obtain ⟨quote, -, -, -, hfresh, rfl, hnext, hvalid⟩ := authorizeAssetHtlc_eq_ok h
  have hdomain : a.replayDomain ≠ quote.replayDomain := by
    intro heq
    rw [heq, hfresh] at hused
    cases hused
  refine ⟨hdomain, fun hid => hdomain ?_⟩
  -- the valid store left behind keeps one replay domain for each used quote id
  have hold := (get_insert_ne (v := quote.quoteId) hdomain).trans hused
  have hnew := get_insert_self (quoteMachine.run ops).usedReplayDomains quote.replayDomain
    quote.quoteId
  rw [← hnext] at hold hnew
  obtain ⟨first, hfirst, hfirstDomain⟩ := validate_usedReplayDomains hvalid hold
  obtain ⟨second, hsecond, hsecondDomain⟩ := validate_usedReplayDomains hvalid hnew
  have hsame : a.quoteId = quote.quoteId := hid
  rw [hsame, hsecond, Option.some.injEq] at hfirst
  rw [← hfirstDomain, ← hsecondDomain, hfirst]

/-- The values of a field stay distinct when the field of each new value is fresh. -/
theorem authorizations_nodup {β : Type} (f : RfqHtlcAuthorization → β)
    (hfresh : ∀ ops quoteId now authorization,
      ((quoteMachine.run ops).authorizeAssetHtlc quoteId now).1 = .ok authorization →
      ∀ a ∈ authorizations ops, f a ≠ f authorization) (ops : List RfqOperation) :
    ((authorizations ops).map f).Nodup := by
  induction ops using List.reverseRecOn with
  | nil => exact List.nodup_nil
  | append_singleton ops op ih =>
    rw [authorizations, Machine.emitted_concat, List.map_append, List.nodup_append]
    refine ⟨ih, ?_, ?_⟩
    · cases (quoteMachine.run ops).authorized op <;> simp
    · intro b hb c hc heq
      obtain ⟨a, ha, rfl⟩ := List.mem_map.mp hb
      obtain ⟨authorization, hnew, rfl⟩ := List.mem_map.mp hc
      obtain ⟨quoteId, now, rfl, hok⟩ := authorized_eq_some (Option.mem_toList.mp hnew)
      exact hfresh ops quoteId now authorization hok a ha heq

/-- Along every run each quote id and each replay domain is authorized at most once, and
every authorization repeats the terms of a quote that an earlier call stored for a request
and a later one accepted, and is issued no later than that quote's expiry. -/
theorem authorizations_single_use_and_faithful (ops : List RfqOperation) :
    ((authorizations ops).map (·.quoteId)).Nodup ∧
      ((authorizations ops).map (·.replayDomain)).Nodup ∧
      ∀ before quoteId now after authorization,
        ops = before ++ .authorizeAssetHtlc quoteId now :: after →
        ((quoteMachine.run before).authorizeAssetHtlc quoteId now).1 = .ok authorization →
        ∃ quote, AcceptedIn before quote ∧ authorization = .fromQuote quote ∧
          quote.quoteId = quoteId ∧ now ≤ quote.expiryUnixSeconds := by
  refine ⟨?_, ?_, ?_⟩
  · exact authorizations_nodup _ (fun ops _ _ _ h a ha => (authorization_fresh h a ha).2) ops
  · exact authorizations_nodup _ (fun ops _ _ _ h a ha => (authorization_fresh h a ha).1) ops
  · intro before quoteId now after authorization _ h
    obtain ⟨quote, hget, hstatus, htime, -, rfl, -⟩ := authorizeAssetHtlc_eq_ok h
    obtain ⟨hkey, first, hterms, -, haccepted⟩ := quotes_recorded before quoteId quote hget
    exact ⟨first, haccepted hstatus, hterms.1.symm, hterms.quoteId.trans hkey, hterms.2 ▸ htime⟩

end TapLdk.RfqQuoteAuthorization
