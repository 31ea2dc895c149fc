import Mathlib
import TapLdk.RfqQuoteTerminal

/-! The registry of live aliases: what validation says about the quotes that hold one, and
where the aliases come from. -/
namespace TapLdk.RfqAliasRegistry
open TapLdk.LibraryExcept TapLdk.LibraryMaps TapLdk.LibraryBytes TapLdk.LibrarySha256
open TapLdk.LibraryRuns TapLdk.Mssmt TapLdk.Asset TapLdk.RfqQuotes TapLdk.RfqQuoteSteps
open TapLdk.RfqQuoteTerminal

/-- The operation returns `Ok`. -/
def Succeeds (store : RfqQuoteStore) : RfqOperation → Prop
  | .requestQuote request => ∃ quote, (store.requestQuote request).1 = .ok quote
  | .acceptQuote quoteId now => ∃ quote, (store.acceptQuote quoteId now).1 = .ok quote
  | .rejectQuote quoteId now reason => ∃ quote, (store.rejectQuote quoteId now reason).1 = .ok quote
  | .expireQuote quoteId now => ∃ quote, (store.expireQuote quoteId now).1 = .ok quote
  | .authorizeAssetHtlc quoteId now => ∃ auth, (store.authorizeAssetHtlc quoteId now).1 = .ok auth
  | .registerRealLocalScid scid => (store.registerRealLocalScid scid).1 = .ok ()

/-- An operation that succeeds leaves a valid store. -/
theorem validate_after {store : RfqQuoteStore} {op : RfqOperation} (h : Succeeds store op) :
    (store.after op).validate = .ok () := by
  cases op with
  | requestQuote | acceptQuote | rejectQuote | expireQuote | authorizeAssetHtlc =>
    obtain ⟨_, h⟩ := h
    obtain ⟨next, -, hnext, hvalid⟩ := mutate_fst h
    rwa [← hnext] at hvalid
  | registerRealLocalScid scid =>
    obtain ⟨next, -, hnext, hvalid⟩ := mutate_fst h
    rwa [← hnext] at hvalid

/-- A quote that is live is listed under its alias and its replay domain, which were free;
any other quote is not listed. -/
theorem addQuote_live {indexes indexes' : QuoteIndexes} {quoteId : String} {quote : StoredRfqQuote}
    (h : indexes.addQuote quoteId quote = .ok indexes') :
    (quote.status.isLive ∧ indexes.liveAliases[quote.scidAlias]? = none ∧
      indexes.liveReplayDomains[quote.replayDomain]? = none ∧
      indexes'.liveAliases = indexes.liveAliases.insert quote.scidAlias quote.quoteId ∧
      indexes'.liveReplayDomains = indexes.liveReplayDomains.insert quote.replayDomain ()) ∨
    quote.status.isLive = false ∧ indexes'.liveAliases = indexes.liveAliases ∧
      indexes'.liveReplayDomains = indexes.liveReplayDomains := by
  have hboth {u : QuoteIndexes} (halias : indexes.insertUniqueLiveAlias quote = .ok u)
      (hdomain : u.insertUniqueLiveReplayDomain quote = .ok indexes') :
      indexes.liveAliases[quote.scidAlias]? = none ∧
      indexes.liveReplayDomains[quote.replayDomain]? = none ∧
      indexes'.liveAliases = indexes.liveAliases.insert quote.scidAlias quote.quoteId ∧
      indexes'.liveReplayDomains = indexes.liveReplayDomains.insert quote.replayDomain () := by
    simp only [QuoteIndexes.insertUniqueLiveAlias, QuoteIndexes.insertUniqueLiveReplayDomain,
      bind_eq_ok, rejectIf_eq_ok, exists_const, pure_eq_ok, Except.ok.injEq,
      Option.isSome_iff_ne_none, ne_eq, not_not] at halias hdomain
    obtain ⟨hfree, rfl⟩ := halias
    obtain ⟨hfree', rfl⟩ := hdomain
    exact ⟨hfree, hfree', rfl, rfl⟩
  unfold QuoteIndexes.addQuote at h
  split at h <;> rename_i hstatus <;> simp only [bind_eq_ok, pure_eq_ok, Except.ok.injEq] at h
  case h_1 =>
    obtain ⟨-, -, -, -, -, -, -, -, _, halias, hdomain⟩ := h
    exact .inl ⟨by rw [hstatus]; rfl, hboth halias hdomain⟩
  case h_2 =>
    obtain ⟨-, -, -, -, -, -, -, -, _, halias, hdomain⟩ := h
    exact .inl ⟨by rw [hstatus]; rfl, hboth halias hdomain⟩
  case h_3 =>
    obtain ⟨-, -, -, -, -, -, -, -, rfl⟩ := h
    exact .inr ⟨by rw [hstatus]; rfl, rfl, rfl⟩
  case h_4 =>
    obtain ⟨-, -, -, -, rfl⟩ := h
    exact .inr ⟨by rw [hstatus]; rfl, rfl, rfl⟩
  case h_5 =>
    simp only [QuoteIndexes.insertUsedReplayDomain, bind_eq_ok, pure_eq_ok, Except.ok.injEq] at h
    obtain ⟨-, -, -, -, -, -, rfl⟩ := h
    exact .inr ⟨by rw [hstatus]; rfl, rfl, rfl⟩

/-- What the indexes say about the quotes already checked. -/
structure Indexed (store : RfqQuoteStore) (checked : List (String × StoredRfqQuote))
    (indexes : QuoteIndexes) : Prop where
  aliases : ∀ (scid : UInt64) (quoteId : String), indexes.liveAliases[scid]? = some quoteId ↔
    ∃ quote, (quoteId, quote) ∈ checked ∧ quote.status.isLive ∧ quote.scidAlias = scid
  domains : ∀ domain : String, indexes.liveReplayDomains[domain]? ≠ none ↔
    ∃ entry ∈ checked, entry.2.status.isLive ∧ entry.2.replayDomain = domain
  apart : ∀ entry ∈ checked, ∀ entry' ∈ checked, entry.2.status.isLive → entry'.2.status.isLive →
    entry.2.scidAlias = entry'.2.scidAlias ∨ entry.2.replayDomain = entry'.2.replayDomain →
      entry = entry'
  unreal : ∀ entry ∈ checked, store.realLocalScids[entry.2.scidAlias]? = none

theorem indexQuote_step {store : RfqQuoteStore} {checked : List (String × StoredRfqQuote)}
    {indexes indexes' : QuoteIndexes} {entry : String × StoredRfqQuote}
    (h : Indexed store checked indexes) (hstep : store.indexQuote indexes entry = .ok indexes') :
    Indexed store (checked ++ [entry]) indexes' := by
  simp only [RfqQuoteStore.indexQuote, bind_eq_ok, rejectIf_eq_ok, exists_const, ne_eq, not_not,
    Option.isSome_iff_ne_none] at hstep
  obtain ⟨-, -, hkey, -, hreal, hadd⟩ := hstep
  have hunreal : ∀ e ∈ checked ++ [entry], store.realLocalScids[e.2.scidAlias]? = none := by
    intro e he
    rcases List.mem_append.mp he with he | he
    · exact h.unreal e he
    · exact List.mem_singleton.mp he ▸ hreal
  rcases addQuote_live hadd with ⟨hlive, hfree, hfree', haliases, hdomains⟩ |
    ⟨hdead, haliases, hdomains⟩
  · have halone (e : String × StoredRfqQuote) (he : e ∈ checked) (helive : e.2.status.isLive) :
        ¬ (e.2.scidAlias = entry.2.scidAlias ∨ e.2.replayDomain = entry.2.replayDomain) := by
      rintro (hsame | hsame)
      · have hget := (h.aliases e.2.scidAlias e.1).mpr ⟨e.2, he, helive, rfl⟩
        rw [hsame, hfree] at hget
        cases hget
      · exact (h.domains e.2.replayDomain).mpr ⟨e, he, helive, rfl⟩ (hsame ▸ hfree')
    refine ⟨fun scid quoteId => ?_, fun domain => ?_, fun e he e' he' helive helive' hsame => ?_,
      hunreal⟩
    · rw [haliases]
      simp only [List.mem_append, List.mem_singleton]
      by_cases hscid : scid = entry.2.scidAlias
      · rw [hscid, get_insert_self, ← hkey, Option.some.injEq]
        constructor
        · rintro rfl
          exact ⟨entry.2, .inr rfl, hlive, rfl⟩
        · rintro ⟨quote, hmem | hmem, hqlive, hsame⟩
          · exact absurd (.inl hsame) (halone _ hmem hqlive)
          · exact (congrArg Prod.fst hmem).symm
      · rw [get_insert_ne hscid, h.aliases]
        constructor
        · rintro ⟨quote, hmem, hqlive, hsame⟩
          exact ⟨quote, .inl hmem, hqlive, hsame⟩
        · rintro ⟨quote, hmem | rfl, hqlive, hsame⟩
          · exact ⟨quote, hmem, hqlive, hsame⟩
          · exact absurd hsame.symm hscid
    · rw [hdomains]
      simp only [List.mem_append, List.mem_singleton]
      by_cases hdomain : domain = entry.2.replayDomain
      · rw [hdomain, get_insert_self]
        exact ⟨fun _ => ⟨entry, .inr rfl, hlive, rfl⟩, fun _ => by simp⟩
      · rw [get_insert_ne hdomain, h.domains]
        constructor
        · rintro ⟨e, hmem, helive, hsame⟩
          exact ⟨e, .inl hmem, helive, hsame⟩
        · rintro ⟨e, hmem | rfl, helive, hsame⟩
          · exact ⟨e, hmem, helive, hsame⟩
          · exact absurd hsame.symm hdomain
    · rw [List.mem_append, List.mem_singleton] at he he'
      rcases he with he | rfl
      · rcases he' with he' | rfl
        · exact h.apart e he e' he' helive helive' hsame
        · exact absurd hsame (halone e he helive)
      · rcases he' with he' | rfl
        · exact absurd (hsame.imp Eq.symm Eq.symm) (halone e' he' helive')
        · rfl
  · refine ⟨fun scid quoteId => ?_, fun domain => ?_, fun e he e' he' helive helive' heq => ?_,
      hunreal⟩
    · rw [haliases, h.aliases]
      apply exists_congr
      intro quote
      rw [List.mem_append, List.mem_singleton]
      constructor
      · rintro ⟨hmem, hrest⟩
        exact ⟨.inl hmem, hrest⟩
      · rintro ⟨hmem | rfl, hlive, hscid⟩
        · exact ⟨hmem, hlive, hscid⟩
        · rw [hdead] at hlive
          cases hlive
    · rw [hdomains, h.domains]
      simp only [List.mem_append, List.mem_singleton]
      constructor
      · rintro ⟨e, hmem, hrest⟩
        exact ⟨e, .inl hmem, hrest⟩
      · rintro ⟨e, hmem | rfl, hlive, hdomain⟩
        · exact ⟨e, hmem, hlive, hdomain⟩
        · rw [hdead] at hlive
          cases hlive
    · rw [List.mem_append, List.mem_singleton] at he he'
      rcases he with he | rfl
      · rcases he' with he' | rfl
        · exact h.apart e he e' he' helive helive' heq
        · rw [hdead] at helive'
          cases helive'
      · rw [hdead] at helive
        cases helive

/-- The quotes of a valid store that hold an alias. -/
theorem validate_indexed {store : RfqQuoteStore} (h : store.validate = .ok ()) :
    ∃ indexes, Indexed store store.quotes.toList indexes ∧
      indexes.liveAliases = store.liveAliases := by
  simp only [RfqQuoteStore.validate, bind_eq_ok, rejectIf_eq_ok, ne_eq, not_not] at h
  obtain ⟨-, -, indexes, hindexes, -, haliases, -⟩ := h
  have hindexed := foldlM_induction (fun checked indexes => Indexed store checked indexes)
    ⟨by simp, by simp, by simp, by simp⟩ (fun _ _ _ _ => indexQuote_step) hindexes
  refine ⟨indexes, hindexed, ext_get fun k v => ?_⟩
  rw [← mem_toList_iff, haliases, mem_toList_iff]

theorem le_or (a b : UInt64) : a ≤ a ||| b := by
  rw [UInt64.le_iff_toNat_le, UInt64.toNat_or]
  exact Nat.left_le_or

theorem firstFreeAlias_ge {store : RfqQuoteStore} {tries : ℕ} {candidate scid : UInt64}
    (h : store.firstFreeAlias tries candidate = .ok scid) : candidate ≤ scid := by
  induction tries generalizing candidate with
  | zero => cases h
  | succ tries ih =>
    rw [RfqQuoteStore.firstFreeAlias] at h
    split at h
    · rw [Except.ok.inj h]
      exact UInt64.le_refl scid
    · simp only [bind_eq_ok, okOr_eq_ok, checkedAdd_eq_some] at h
      obtain ⟨next, hnext, h⟩ := h
      have hle := UInt64.le_iff_toNat_le.mp (ih h)
      rw [hnext] at hle
      rw [UInt64.le_iff_toNat_le]
      omega

/-- A request is given an alias above the base. -/
theorem prepareQuote_alias {store : RfqQuoteStore} {request : RfqQuoteRequest}
    {quote : StoredRfqQuote} (h : store.prepareQuote request = .ok quote) :
    rfqAliasBase ≤ quote.scidAlias := by
  simp only [RfqQuoteStore.prepareQuote, bind_eq_ok, pure_eq_ok, Except.ok.injEq] at h
  obtain ⟨-, -, -, -, -, -, btcMsat, -, scid, hscid, rfl⟩ := h
  exact UInt64.le_trans (le_or _ _) (firstFreeAlias_ge hscid)

/-- Every quote of a reachable store has an alias above the base. -/
theorem aliases_above (ops : List RfqOperation) : ∀ (quoteId : String) (quote : StoredRfqQuote),
    (quoteMachine.run ops).quotes[quoteId]? = some quote → rfqAliasBase ≤ quote.scidAlias := by
  induction ops using List.reverseRecOn with
  | nil =>
    intro quoteId quote h
    simp [quoteMachine, RfqQuoteStore.default] at h
  | append_singleton ops op ih =>
    rw [Machine.run_concat]
    have heffect := after_effect (quoteMachine.run ops) op
    change ∀ (quoteId : String) (quote : StoredRfqQuote),
      ((quoteMachine.run ops).after op).quotes[quoteId]? = some quote → rfqAliasBase ≤ quote.scidAlias
    generalize (quoteMachine.run ops).after op = next at heffect
    intro quoteId quote h
    have hmove {quote quote' : StoredRfqQuote} (hterms : SameTerms quote quote')
        (hquote : rfqAliasBase ≤ quote.scidAlias) : rfqAliasBase ≤ quote'.scidAlias := by
      have hscid : quote.scidAlias = quote'.scidAlias :=
        congrArg RfqHtlcAuthorization.scidAlias hterms.1
      rwa [← hscid]
    cases heffect with
    | refused => exact ih quoteId quote h
    | registered => exact ih quoteId quote h
    | requested hprepare =>
      rcases get_insert_eq_some h with ⟨-, rfl⟩ | ⟨-, h⟩
      · exact prepareQuote_alias hprepare
      · exact ih quoteId quote h
    | accepted hget _ _ hterms =>
      rcases get_insert_eq_some h with ⟨-, rfl⟩ | ⟨-, h⟩
      · exact hmove hterms (ih _ _ hget)
      · exact ih quoteId quote h
    | closed hget _ hterms =>
      rcases get_insert_eq_some h with ⟨-, rfl⟩ | ⟨-, h⟩
      · exact hmove hterms (ih _ _ hget)
      · exact ih quoteId quote h
    | authorized hget _ _ _ hterms =>
      rcases get_insert_eq_some h with ⟨-, rfl⟩ | ⟨-, h⟩
      · exact hmove hterms (ih _ _ hget)
      · exact ih quoteId quote h

/-- The live aliases are those of the live quotes, each with one alias and one replay domain
of its own, above the base and apart from the real channels. -/
structure Registry (store : RfqQuoteStore) : Prop where
  exact : ∀ (scid : UInt64) (quoteId : String), store.liveAliases[scid]? = some quoteId ↔
    ∃ quote, store.quotes[quoteId]? = some quote ∧
      (quote.status = .requested ∨ quote.status = .accepted) ∧ quote.scidAlias = scid
  apart : ∀ (quoteId quoteId' : String) (quote quote' : StoredRfqQuote),
    store.quotes[quoteId]? = some quote → store.quotes[quoteId']? = some quote' →
    (quote.status = .requested ∨ quote.status = .accepted) →
    (quote'.status = .requested ∨ quote'.status = .accepted) → quoteId ≠ quoteId' →
      quote.scidAlias ≠ quote'.scidAlias ∧ quote.replayDomain ≠ quote'.replayDomain
  above : ∀ (scid : UInt64) (quoteId : String), store.liveAliases[scid]? = some quoteId →
    2 ^ 62 ≤ scid.toNat ∧ store.realLocalScids[scid]? = none

theorem isLive_iff (status : RfqQuoteStatus) :
    status.isLive = true ↔ status = .requested ∨ status = .accepted := by
  cases status <;> simp [RfqQuoteStatus.isLive]

theorem registry_of_valid {store : RfqQuoteStore} (h : store.validate = .ok ())
    (habove : ∀ (quoteId : String) (quote : StoredRfqQuote), store.quotes[quoteId]? = some quote →
      rfqAliasBase ≤ quote.scidAlias) : Registry store := by
  obtain ⟨indexes, hindexed, haliases⟩ := validate_indexed h
  have hexact (scid : UInt64) (quoteId : String) : store.liveAliases[scid]? = some quoteId ↔
      ∃ quote, store.quotes[quoteId]? = some quote ∧ quote.status.isLive ∧
        quote.scidAlias = scid := by
    rw [← haliases, hindexed.aliases]
    simp only [mem_toList_iff]
  refine ⟨fun scid quoteId => ?_, fun quoteId quoteId' quote quote' hget hget' hlive hlive' hne => ?_,
    fun scid quoteId hget => ?_⟩
  · simp only [hexact, isLive_iff]
  · rw [← isLive_iff] at hlive hlive'
    by_contra hsame
    rw [not_and_or, not_not, not_not] at hsame
    have heq := hindexed.apart _ (mem_toList_iff.mpr hget) _ (mem_toList_iff.mpr hget') hlive hlive'
      hsame
    exact hne (congrArg Prod.fst heq)
  · obtain ⟨quote, hquote, -, rfl⟩ := (hexact scid quoteId).mp hget
    refine ⟨?_, hindexed.unreal _ (mem_toList_iff.mpr hquote)⟩
    exact UInt64.le_iff_toNat_le.mp (habove quoteId quote hquote)

/-- In every store that operations reach which all succeed, the alias registry is exact. -/
theorem alias_registry (ops : List RfqOperation) (h : quoteMachine.Guarded Succeeds ops) :
    Registry (quoteMachine.run ops) := by
  rcases List.eq_nil_or_concat ops with rfl | ⟨before, op, rfl⟩
  · refine ⟨?_, ?_, ?_⟩ <;> simp [quoteMachine, RfqQuoteStore.default]
  · rw [List.concat_eq_append] at h ⊢
    obtain ⟨-, hsucceeds⟩ := Machine.guarded_of_concat h
    have hvalid : (quoteMachine.run (before ++ [op])).validate = .ok () := by
      rw [Machine.run_concat]
      exact validate_after hsucceeds
    exact registry_of_valid hvalid (aliases_above _)

theorem invoiceRequest_succeeds : Succeeds .default (.requestQuote invoiceRequest) := by
  have hok : ((RfqQuoteStore.default.requestQuote invoiceRequest).1.toOption).isSome = true := by
    decide +kernel
  obtain ⟨quote, hquote⟩ := Option.isSome_iff_exists.mp hok
  cases hresult : (RfqQuoteStore.default.requestQuote invoiceRequest).1 with
  | ok quote => exact ⟨quote, hresult⟩
  | error e =>
    rw [hresult] at hquote
    cases hquote

theorem alias_registry_invoice : Registry (quoteMachine.run [.requestQuote invoiceRequest]) := by
  have hstart : Succeeds (quoteMachine.run []) (.requestQuote invoiceRequest) :=
    invoiceRequest_succeeds
  have hguarded := Machine.guarded_concat (Machine.guarded_nil quoteMachine Succeeds) hstart
  rw [List.nil_append] at hguarded
  exact alias_registry [.requestQuote invoiceRequest] hguarded

end TapLdk.RfqAliasRegistry
