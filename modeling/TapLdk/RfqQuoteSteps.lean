import Mathlib
import TapLdk.RfqQuotes

/-! What each operation on the quote store may do, as one case list, and what a store that
passed validation says about its used replay domains. -/
namespace TapLdk.RfqQuoteSteps
open TapLdk.LibraryExcept TapLdk.LibraryMaps TapLdk.LibraryBytes TapLdk.LibrarySha256
open TapLdk.LibraryRuns TapLdk.Mssmt TapLdk.Asset TapLdk.RfqQuotes

/-- The terms of a quote: everything but its status and timestamps. -/
def SameTerms (quote quote' : StoredRfqQuote) : Prop :=
  RfqHtlcAuthorization.fromQuote quote = .fromQuote quote' ∧
    quote.expiryUnixSeconds = quote'.expiryUnixSeconds

theorem SameTerms.refl (quote : StoredRfqQuote) : SameTerms quote quote := ⟨rfl, rfl⟩

theorem SameTerms.trans {a b c : StoredRfqQuote} (h : SameTerms a b) (h' : SameTerms b c) :
    SameTerms a c := ⟨h.1.trans h'.1, h.2.trans h'.2⟩

theorem SameTerms.quoteId {a b : StoredRfqQuote} (h : SameTerms a b) : a.quoteId = b.quoteId :=
  congrArg RfqHtlcAuthorization.quoteId h.1

theorem SameTerms.replayDomain {a b : StoredRfqQuote} (h : SameTerms a b) :
    a.replayDomain = b.replayDomain :=
  congrArg RfqHtlcAuthorization.replayDomain h.1

theorem SameTerms.bindingId {a b : StoredRfqQuote} (h : SameTerms a b) :
    a.bindingId = b.bindingId := by
  obtain ⟨hterms, hexpiry⟩ := h
  simp only [RfqHtlcAuthorization.fromQuote, RfqHtlcAuthorization.mk.injEq] at hterms
  obtain ⟨-, hpeer, hasset, hamount, hmsat, hcontext, halias, hdomain⟩ := hterms
  rw [StoredRfqQuote.bindingId, StoredRfqQuote.bindingId, hpeer, hasset, hamount, hmsat, hcontext,
    halias, hdomain, hexpiry]

/-- What one operation does to the store. -/
inductive Effect (store : RfqQuoteStore) : RfqOperation → RfqQuoteStore → Prop where
  | refused {op : RfqOperation} : Effect store op store
  | registered {scid : UInt64} : Effect store (.registerRealLocalScid scid)
      { store with realLocalScids := store.realLocalScids.insert scid () }
  | requested {request : RfqQuoteRequest} {quote : StoredRfqQuote}
      (hprepare : store.prepareQuote request = .ok quote) :
      Effect store (.requestQuote request) (store.insertQuote quote)
  | accepted {quoteId : String} {now : UInt64} {quote quote' : StoredRfqQuote}
      (hget : store.quotes[quoteId]? = some quote) (hstatus : quote.status = .requested)
      (htime : now ≤ quote.expiryUnixSeconds) (hterms : SameTerms quote quote')
      (hstatus' : quote'.status = .accepted) :
      Effect store (.acceptQuote quoteId now) (store.putQuote quoteId quote')
  | closed {op : RfqOperation} {quoteId : String} {quote quote' : StoredRfqQuote}
      (hget : store.quotes[quoteId]? = some quote) (hlive : quote.status.isLive)
      (hterms : SameTerms quote quote')
      (hstatus : quote'.status = .rejected ∨ quote'.status = .expired) :
      Effect store op (store.closeQuote quoteId quote')
  | authorized {quoteId : String} {now : UInt64} {quote quote' : StoredRfqQuote}
      (hget : store.quotes[quoteId]? = some quote) (hstatus : quote.status = .accepted)
      (htime : now ≤ quote.expiryUnixSeconds)
      (hfresh : store.usedReplayDomains[quote.replayDomain]? = none)
      (hterms : SameTerms quote quote') (hstatus' : quote'.status = .used) :
      Effect store (.authorizeAssetHtlc quoteId now) (store.useQuote quoteId quote')

/-- A mutation leaves the store alone or writes the store it prepared. -/
theorem mutate_effect {α : Type} {store : RfqQuoteStore} {op : RfqOperation}
    {prepared : Except RfqQuoteError (α × RfqQuoteStore)}
    (h : ∀ a next, prepared = .ok (a, next) → Effect store op next) :
    Effect store op (store.mutate prepared).2 := by
  cases prepared with
  | error e => exact .refused
  | ok p => exact h p.1 p.2 rfl

/-- A mutation that succeeds prepared its result and left a valid store. -/
theorem mutate_fst {α : Type} {store : RfqQuoteStore}
    {prepared : Except RfqQuoteError (α × RfqQuoteStore)} {a : α}
    (h : (store.mutate prepared).1 = .ok a) :
    ∃ next, prepared = .ok (a, next) ∧ (store.mutate prepared).2 = next ∧
      next.validate = .ok () := by
  cases prepared with
  | error e => cases h
  | ok p =>
    obtain ⟨b, next⟩ := p
    simp only [RfqQuoteStore.mutate] at h
    cases hv : next.validate with
    | error e =>
      rw [hv] at h
      cases h
    | ok u =>
      rw [hv] at h
      exact ⟨next, by rw [← Except.ok.inj h], rfl, hv⟩

theorem not_expired {quote : StoredRfqQuote} {now : UInt64} {u : Unit}
    (h : quote.ensureNotExpired now = .ok u) : now ≤ quote.expiryUnixSeconds := by
  rw [StoredRfqQuote.ensureNotExpired, rejectIf_eq_ok] at h
  exact UInt64.not_lt.mp h

/-- Every operation has one of the listed effects. -/
theorem after_effect (store : RfqQuoteStore) (op : RfqOperation) :
    Effect store op (store.after op) := by
  cases op <;> apply mutate_effect <;> intro a next h <;>
    simp only [bind_eq_ok, okOr_eq_ok, rejectIf_eq_ok, pure_eq_ok, Except.ok.injEq,
      Prod.mk.injEq, Option.isSome_iff_ne_none, ne_eq, not_not] at h
  case requestQuote request =>
    obtain ⟨quote, hprepare, -, rfl⟩ := h
    exact .requested hprepare
  case acceptQuote quoteId now =>
    obtain ⟨quote, hget, u, htime, -, hstatus, -, -, -, rfl⟩ := h
    exact .accepted hget hstatus (not_expired htime) ⟨rfl, rfl⟩ rfl
  case rejectQuote quoteId now reason =>
    obtain ⟨-, -, quote, hget, -, hlive, -, rfl⟩ := h
    exact .closed hget hlive ⟨rfl, rfl⟩ (.inl rfl)
  case expireQuote quoteId now =>
    obtain ⟨quote, hget, -, hlive, -, -, -, rfl⟩ := h
    exact .closed hget hlive ⟨rfl, rfl⟩ (.inr rfl)
  case authorizeAssetHtlc quoteId now =>
    obtain ⟨quote, hget, u, htime, -, hstatus, -, hfresh, -, rfl⟩ := h
    exact .authorized hget hstatus (not_expired htime) hfresh ⟨rfl, rfl⟩ rfl
  case registerRealLocalScid scid =>
    obtain ⟨-, -, -, rfl⟩ := h
    exact .registered

/-- A prepared quote is a request's terms in the status they start in. -/
theorem prepareQuote_spec {store : RfqQuoteStore} {request : RfqQuoteRequest}
    {quote : StoredRfqQuote} (h : store.prepareQuote request = .ok quote) :
    quote.status = .requested ∧ quote.quoteId = quote.bindingId ∧
      quote.peer = request.peer ∧ quote.assetId = request.assetId ∧
      quote.assetAmount = request.assetAmount ∧
      quote.expiryUnixSeconds = request.expiryUnixSeconds ∧
      quote.invoiceContext = request.invoiceContext ∧
      quote.replayDomain = request.replayDomain ∧
      store.usedReplayDomains[request.replayDomain]? = none := by
  simp only [RfqQuoteStore.prepareQuote, bind_eq_ok, rejectIf_eq_ok, pure_eq_ok,
    Except.ok.injEq, not_or, Option.isSome_iff_ne_none, ne_eq, not_not] at h
  obtain ⟨-, -, -, -, -, ⟨hfresh, -⟩, btcMsat, -, scidAlias, -, rfl⟩ := h
  exact ⟨rfl, rfl, rfl, rfl, rfl, rfl, rfl, rfl, hfresh⟩

theorem addQuote_usedReplayDomains {indexes indexes' : QuoteIndexes} {quoteId : String}
    {quote : StoredRfqQuote} (h : indexes.addQuote quoteId quote = .ok indexes') :
    indexes'.usedReplayDomains = indexes.usedReplayDomains ∨
      indexes'.usedReplayDomains =
        indexes.usedReplayDomains.insert quote.replayDomain quote.quoteId := by
  unfold QuoteIndexes.addQuote at h
  split at h <;> simp only [QuoteIndexes.insertUniqueLiveAlias,
    QuoteIndexes.insertUniqueLiveReplayDomain, QuoteIndexes.insertUsedReplayDomain, bind_eq_ok,
    pure_eq_ok, Except.ok.injEq] at h
  case h_1 =>
    obtain ⟨-, -, -, -, -, -, -, -, _, ⟨-, -, rfl⟩, -, -, rfl⟩ := h
    exact .inl rfl
  case h_2 =>
    obtain ⟨-, -, -, -, -, -, -, -, _, ⟨-, -, rfl⟩, -, -, rfl⟩ := h
    exact .inl rfl
  case h_3 =>
    obtain ⟨-, -, -, -, -, -, -, -, rfl⟩ := h
    exact .inl rfl
  case h_4 =>
    obtain ⟨-, -, -, -, rfl⟩ := h
    exact .inl rfl
  case h_5 =>
    obtain ⟨-, -, -, -, -, -, rfl⟩ := h
    exact .inr rfl

/-- A used replay domain of a valid store is that of the quote it names. -/
theorem validate_usedReplayDomains {store : RfqQuoteStore} (h : store.validate = .ok ())
    {replayDomain quoteId : String}
    (hused : store.usedReplayDomains[replayDomain]? = some quoteId) :
    ∃ quote, store.quotes[quoteId]? = some quote ∧ quote.replayDomain = replayDomain := by
  simp only [RfqQuoteStore.validate, bind_eq_ok, rejectIf_eq_ok, ne_eq, not_not] at h
  obtain ⟨-, -, indexes, hindexes, -, -, heq⟩ := h
  have hinv := foldlM_induction (fun (done : List (String × StoredRfqQuote)) indexes =>
    ∀ domain id, indexes.usedReplayDomains[domain]? = some id →
      ∃ quote, (id, quote) ∈ done ∧ quote.replayDomain = domain) (by simp) ?_ hindexes
  · rw [← mem_toList_iff, ← heq, mem_toList_iff] at hused
    obtain ⟨quote, hmem, hdomain⟩ := hinv replayDomain quoteId hused
    exact ⟨quote, mem_toList_iff.mp hmem, hdomain⟩
  · intro done e acc acc' hdone hstep domain id hget
    simp only [RfqQuoteStore.indexQuote, bind_eq_ok, rejectIf_eq_ok, ne_eq, not_not] at hstep
    obtain ⟨-, -, -, hkey, -, -, -, -, hadd⟩ := hstep
    have hold (hget : acc.usedReplayDomains[domain]? = some id) :
        ∃ quote, (id, quote) ∈ done ++ [e] ∧ quote.replayDomain = domain := by
      obtain ⟨quote, hmem, hdomain⟩ := hdone domain id hget
      exact ⟨quote, List.mem_append_left _ hmem, hdomain⟩
    rcases addQuote_usedReplayDomains hadd with hsame | hinsert
    · rw [hsame] at hget
      exact hold hget
    · rw [hinsert] at hget
      rcases get_insert_eq_some hget with ⟨rfl, rfl⟩ | ⟨-, hget⟩
      · exact ⟨e.2, by rw [← hkey]; simp, rfl⟩
      · exact hold hget

end TapLdk.RfqQuoteSteps
