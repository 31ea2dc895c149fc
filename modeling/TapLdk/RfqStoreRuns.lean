import Mathlib
import TapLdk.RfqAliasRegistry

/-! The quote store over runs of operations that may fail: what validation asks of a store, and
which operations could make it refuse one that it accepted before. -/
namespace TapLdk.RfqStoreRuns
open TapLdk.LibraryExcept TapLdk.LibraryMaps TapLdk.LibraryBytes TapLdk.LibrarySha256
open TapLdk.LibraryRuns TapLdk.Mssmt TapLdk.Asset TapLdk.RfqQuotes TapLdk.RfqQuoteSteps
open TapLdk.RfqQuoteTerminal TapLdk.RfqAliasRegistry

/-- The timestamps and the reason that go with a status. -/
def Stamped (quote : StoredRfqQuote) : Prop :=
  match quote.status with
  | .requested => quote.acceptedAtUnixSeconds = none ∧ quote.rejectedAtUnixSeconds = none ∧
      quote.expiredAtUnixSeconds = none ∧ quote.usedAtUnixSeconds = none
  | .accepted => quote.acceptedAtUnixSeconds ≠ none ∧ quote.rejectedAtUnixSeconds = none ∧
      quote.expiredAtUnixSeconds = none ∧ quote.usedAtUnixSeconds = none
  | .rejected => quote.rejectedAtUnixSeconds ≠ none ∧ quote.rejectedReason.all isBlank = false ∧
      quote.expiredAtUnixSeconds = none ∧ quote.usedAtUnixSeconds = none
  | .expired => quote.expiredAtUnixSeconds ≠ none ∧ quote.usedAtUnixSeconds = none
  | .used => quote.acceptedAtUnixSeconds ≠ none ∧ quote.usedAtUnixSeconds ≠ none

/-- The indexes with one more quote. -/
def record (indexes : QuoteIndexes) (quote : StoredRfqQuote) : QuoteIndexes :=
  if quote.status.isLive then
    { indexes with
      liveAliases := indexes.liveAliases.insert quote.scidAlias quote.quoteId
      liveReplayDomains := indexes.liveReplayDomains.insert quote.replayDomain () }
  else if quote.status = .used then
    { indexes with
      usedReplayDomains := indexes.usedReplayDomains.insert quote.replayDomain quote.quoteId }
  else indexes

/-- A quote is added when its timestamps go with its status and the entries that list it are
free. -/
theorem addQuote_eq_ok {indexes indexes' : QuoteIndexes} {quoteId : String}
    {quote : StoredRfqQuote} : indexes.addQuote quoteId quote = .ok indexes' ↔
      Stamped quote ∧
      (quote.status.isLive = true → indexes.liveAliases[quote.scidAlias]? = none ∧
        indexes.liveReplayDomains[quote.replayDomain]? = none) ∧
      (quote.status = .used → indexes.usedReplayDomains[quote.replayDomain]? = none) ∧
      record indexes quote = indexes' := by
  unfold QuoteIndexes.addQuote Stamped record
  cases quote.status <;>
    simp [QuoteIndexes.insertUniqueLiveAlias, QuoteIndexes.insertUniqueLiveReplayDomain,
      QuoteIndexes.insertUsedReplayDomain, requireNone, requireSome, RfqQuoteStatus.isLive,
      and_assoc]

/-- What validation asks of one stored quote. -/
structure QuoteValid (store : RfqQuoteStore) (quoteId : String) (quote : StoredRfqQuote) :
    Prop where
  fields : quote.validateFields = .ok ()
  id : quoteId = quote.quoteId
  binding : quote.bindingId = quoteId
  unreal : store.realLocalScids[quote.scidAlias]? = none
  stamped : Stamped quote

/-- Every quote is valid, the live ones hold their aliases and replay domains alone, the used
ones their replay domains, and nothing else is held. -/
structure Consistent (store : RfqQuoteStore) : Prop where
  version : store.version = rfqStoreSchemaVersion
  quotes : ∀ (quoteId : String) (quote : StoredRfqQuote), store.quotes[quoteId]? = some quote →
    QuoteValid store quoteId quote
  aliases : ∀ (scid : UInt64) (quoteId : String), store.liveAliases[scid]? = some quoteId ↔
    ∃ quote, store.quotes[quoteId]? = some quote ∧ quote.status.isLive ∧ quote.scidAlias = scid
  domains : ∀ (quoteId quoteId' : String) (quote quote' : StoredRfqQuote),
    store.quotes[quoteId]? = some quote → store.quotes[quoteId']? = some quote' →
    quote.status.isLive → quote'.status.isLive → quote.replayDomain = quote'.replayDomain →
      quoteId = quoteId'
  used : ∀ domain quoteId : String, store.usedReplayDomains[domain]? = some quoteId ↔
    ∃ quote, store.quotes[quoteId]? = some quote ∧ quote.status = .used ∧
      quote.replayDomain = domain

/-- What the index of used replay domains says about the quotes already checked. -/
def UsedIndexed (checked : List (String × StoredRfqQuote)) (indexes : QuoteIndexes) : Prop :=
  ∀ domain quoteId : String, indexes.usedReplayDomains[domain]? = some quoteId ↔
    ∃ quote, (quoteId, quote) ∈ checked ∧ quote.status = .used ∧ quote.replayDomain = domain

/-- One step of the validation loop. -/
theorem indexQuote_eq_ok {store : RfqQuoteStore} {indexes indexes' : QuoteIndexes}
    {entry : String × StoredRfqQuote} : store.indexQuote indexes entry = .ok indexes' ↔
      QuoteValid store entry.1 entry.2 ∧
      (entry.2.status.isLive = true → indexes.liveAliases[entry.2.scidAlias]? = none ∧
        indexes.liveReplayDomains[entry.2.replayDomain]? = none) ∧
      (entry.2.status = .used → indexes.usedReplayDomains[entry.2.replayDomain]? = none) ∧
      record indexes entry.2 = indexes' := by
  simp only [RfqQuoteStore.indexQuote, check_bind_eq_ok, rejectIf_eq_ok, addQuote_eq_ok, ne_eq,
    not_not, Option.isSome_iff_ne_none]
  constructor
  · rintro ⟨hfields, hid, hbinding, hunreal, hstamped, hrest⟩
    exact ⟨⟨hfields, hid, hbinding, hunreal, hstamped⟩, hrest⟩
  · rintro ⟨⟨hfields, hid, hbinding, hunreal, hstamped⟩, hrest⟩
    exact ⟨hfields, hid, hbinding, hunreal, hstamped, hrest⟩

theorem usedIndexed_step {checked : List (String × StoredRfqQuote)} {indexes : QuoteIndexes}
    {entry : String × StoredRfqQuote} (h : UsedIndexed checked indexes)
    (hid : entry.1 = entry.2.quoteId)
    (hfree : entry.2.status = .used → indexes.usedReplayDomains[entry.2.replayDomain]? = none) :
    UsedIndexed (checked ++ [entry]) (record indexes entry.2) := by
  intro domain quoteId
  simp only [List.mem_append, List.mem_singleton]
  by_cases hused : entry.2.status = .used
  · have hindex : (record indexes entry.2).usedReplayDomains =
        indexes.usedReplayDomains.insert entry.2.replayDomain entry.2.quoteId := by
      simp [record, hused, RfqQuoteStatus.isLive]
    rw [hindex]
    by_cases hdomain : domain = entry.2.replayDomain
    · subst hdomain
      rw [get_insert_self, ← hid, Option.some.injEq]
      constructor
      · rintro rfl
        exact ⟨entry.2, .inr rfl, hused, rfl⟩
      · rintro ⟨quote, hmem | hmem, hstatus, hsame⟩
        · have hget := (h _ _).mpr ⟨quote, hmem, hstatus, hsame⟩
          rw [hfree hused] at hget
          cases hget
        · exact (congrArg Prod.fst hmem).symm
    · rw [get_insert_ne hdomain, h]
      apply exists_congr
      intro quote
      constructor
      · rintro ⟨hmem, hrest⟩
        exact ⟨.inl hmem, hrest⟩
      · rintro ⟨hmem | rfl, hstatus, hsame⟩
        · exact ⟨hmem, hstatus, hsame⟩
        · exact absurd hsame.symm hdomain
  · have hindex : (record indexes entry.2).usedReplayDomains = indexes.usedReplayDomains := by
      unfold record
      split_ifs <;> rfl
    rw [hindex, h]
    apply exists_congr
    intro quote
    constructor
    · rintro ⟨hmem, hrest⟩
      exact ⟨.inl hmem, hrest⟩
    · rintro ⟨hmem | rfl, hstatus, hsame⟩
      · exact ⟨hmem, hstatus, hsame⟩
      · exact absurd hstatus hused

/-- What the validation loop has established after some quotes. -/
def LoopInvariant (store : RfqQuoteStore) (checked : List (String × StoredRfqQuote))
    (indexes : QuoteIndexes) : Prop :=
  Indexed store checked indexes ∧ UsedIndexed checked indexes ∧
    ∀ entry ∈ checked, QuoteValid store entry.1 entry.2

theorem loop_start (store : RfqQuoteStore) : LoopInvariant store [] ⟨∅, ∅, ∅⟩ :=
  ⟨⟨by simp, by simp, by simp, by simp⟩, by simp [UsedIndexed], by simp⟩

theorem loop_step {store : RfqQuoteStore} {checked : List (String × StoredRfqQuote)}
    {indexes indexes' : QuoteIndexes} {entry : String × StoredRfqQuote}
    (h : LoopInvariant store checked indexes)
    (hstep : store.indexQuote indexes entry = .ok indexes') :
    LoopInvariant store (checked ++ [entry]) indexes' := by
  obtain ⟨hindexed, hused, hvalid⟩ := h
  obtain ⟨hentry, -, hfree, rfl⟩ := indexQuote_eq_ok.mp hstep
  refine ⟨indexQuote_step hindexed hstep, usedIndexed_step hused hentry.id hfree, fun e he => ?_⟩
  rcases List.mem_append.mp he with he | he
  · exact hvalid e he
  · exact List.mem_singleton.mp he ▸ hentry

theorem consistent_of_validate {store : RfqQuoteStore} (h : store.validate = .ok ()) :
    Consistent store := by
  simp only [RfqQuoteStore.validate, bind_eq_ok, rejectIf_eq_ok, exists_const, ne_eq, not_not] at h
  obtain ⟨hversion, indexes, hindexes, haliases, huses⟩ := h
  obtain ⟨hindexed, hused, hvalid⟩ :=
    foldlM_induction (LoopInvariant store) (loop_start store) (fun _ _ _ _ => loop_step) hindexes
  refine ⟨hversion, fun quoteId quote hget => hvalid _ (mem_toList_iff.mpr hget),
    fun scid quoteId => ?_, fun quoteId quoteId' quote quote' hget hget' hlive hlive' hsame => ?_,
    fun domain quoteId => ?_⟩
  · rw [← mem_toList_iff, ← haliases, mem_toList_iff, hindexed.aliases]
    simp only [mem_toList_iff]
  · exact congrArg Prod.fst (hindexed.apart _ (mem_toList_iff.mpr hget) _
      (mem_toList_iff.mpr hget') hlive hlive' (.inr hsame))
  · rw [← mem_toList_iff, ← huses, mem_toList_iff, hused]
    simp only [mem_toList_iff]

/-- The loop goes through the quotes of a consistent store. -/
theorem loop_ok {store : RfqQuoteStore} (h : Consistent store) :
    ∃ indexes, store.quotes.toList.foldlM store.indexQuote ⟨∅, ∅, ∅⟩ = .ok indexes ∧
      LoopInvariant store store.quotes.toList indexes := by
  have hcases := foldlM_cases store.indexQuote store.quotes.toList ⟨∅, ∅, ∅⟩ (LoopInvariant store)
    (fun _ => False) (loop_start store) fun checked entry rest indexes hlist hloop => ?_
  · rcases hcases with hok | ⟨_, -, hfalse⟩
    · exact hok
    · exact hfalse.elim
  · have ⟨hindexed, hused, _⟩ := hloop
    have hkeys := keys_nodup store.quotes
    rw [hlist, List.map_append, List.map_cons, List.nodup_append] at hkeys
    have hstored (e : String × StoredRfqQuote) (he : e ∈ checked ++ entry :: rest) :
        store.quotes[e.1]? = some e.2 := mem_toList_iff.mp (hlist ▸ he)
    have hentry := hstored entry (by simp)
    -- an entry that is taken by a quote checked before would be taken twice
    have hfresh {quoteId : String} {quote : StoredRfqQuote} (hmem : (quoteId, quote) ∈ checked) :
        quoteId ≠ entry.1 :=
      hkeys.2.2 _ (List.mem_map_of_mem hmem) _ (List.mem_cons_self ..)
    have halias (hlive : entry.2.status.isLive = true) :
        indexes.liveAliases[entry.2.scidAlias]? = none := by
      by_contra hne
      obtain ⟨quoteId, hget⟩ := Option.ne_none_iff_exists'.mp hne
      obtain ⟨quote, hmem, hqlive, hscid⟩ := (hindexed.aliases _ _).mp hget
      have hholder := (h.aliases _ _).mpr
        ⟨quote, hstored _ (List.mem_append_left _ hmem), hqlive, hscid⟩
      rw [(h.aliases _ _).mpr ⟨entry.2, hentry, hlive, rfl⟩] at hholder
      exact hfresh hmem (Option.some.inj hholder).symm
    have hdomain (hlive : entry.2.status.isLive = true) :
        indexes.liveReplayDomains[entry.2.replayDomain]? = none := by
      by_contra hne
      obtain ⟨e, hmem, helive, hsame⟩ := (hindexed.domains _).mp hne
      exact hfresh hmem (h.domains _ _ _ _ (hstored _ (List.mem_append_left _ hmem)) hentry helive
        hlive hsame)
    have hfree (hs : entry.2.status = .used) :
        indexes.usedReplayDomains[entry.2.replayDomain]? = none := by
      by_contra hne
      obtain ⟨quoteId, hget⟩ := Option.ne_none_iff_exists'.mp hne
      obtain ⟨quote, hmem, hqused, hsame⟩ := (hused _ _).mp hget
      have hholder := (h.used _ _).mpr
        ⟨quote, hstored _ (List.mem_append_left _ hmem), hqused, hsame⟩
      rw [(h.used _ _).mpr ⟨entry.2, hentry, hs, rfl⟩] at hholder
      exact hfresh hmem (Option.some.inj hholder).symm
    have hstep := indexQuote_eq_ok.mpr ⟨h.quotes _ _ hentry,
      fun hlive => ⟨halias hlive, hdomain hlive⟩, hfree, rfl⟩
    exact .inl ⟨_, hstep, loop_step hloop hstep⟩

theorem validate_iff {store : RfqQuoteStore} : store.validate = .ok () ↔ Consistent store := by
  refine ⟨consistent_of_validate, fun h => ?_⟩
  obtain ⟨indexes, hindexes, hindexed, hused, -⟩ := loop_ok h
  have haliases : indexes.liveAliases = store.liveAliases := by
    refine ext_get fun scid quoteId => ?_
    rw [hindexed.aliases, h.aliases]
    simp only [mem_toList_iff]
  have huses : indexes.usedReplayDomains = store.usedReplayDomains := by
    refine ext_get fun domain quoteId => ?_
    rw [hused, h.used]
    simp only [mem_toList_iff]
  simp only [RfqQuoteStore.validate, bind_eq_ok, rejectIf_eq_ok, exists_const, ne_eq, not_not]
  exact ⟨h.version, indexes, hindexes, by rw [haliases], by rw [huses]⟩

/-- A quote moved on: the same terms and creation time, and the timestamps of its status. -/
structure Moved (quote quote' : StoredRfqQuote) : Prop where
  terms : SameTerms quote quote'
  created : quote.createdAtUnixSeconds = quote'.createdAtUnixSeconds
  stamped : Stamped quote'

theorem Moved.validateFields {quote quote' : StoredRfqQuote} (h : Moved quote quote') :
    quote'.validateFields = quote.validateFields := by
  obtain ⟨⟨hterms, hexpiry⟩, hcreated, -⟩ := h
  simp only [RfqHtlcAuthorization.fromQuote, RfqHtlcAuthorization.mk.injEq] at hterms
  obtain ⟨-, hpeer, -, hamount, hmsat, -, halias, hdomain⟩ := hterms
  rw [StoredRfqQuote.validateFields, StoredRfqQuote.validateFields, hpeer, hamount, hmsat, halias,
    hdomain, hexpiry, hcreated]

theorem Moved.scidAlias {quote quote' : StoredRfqQuote} (h : Moved quote quote') :
    quote'.scidAlias = quote.scidAlias :=
  (congrArg RfqHtlcAuthorization.scidAlias h.terms.1).symm

variable {store : RfqQuoteStore} {quoteId : String} {quote quote' : StoredRfqQuote}

theorem QuoteValid.move {next : RfqQuoteStore} (h : QuoteValid store quoteId quote)
    (hmoved : Moved quote quote') (hreal : next.realLocalScids = store.realLocalScids) :
    QuoteValid next quoteId quote' where
  fields := hmoved.validateFields.trans h.fields
  id := h.id.trans hmoved.terms.quoteId
  binding := hmoved.terms.bindingId ▸ h.binding
  unreal := by
    rw [hreal, hmoved.scidAlias]
    exact h.unreal
  stamped := hmoved.stamped

theorem QuoteValid.mono {next : RfqQuoteStore} (h : QuoteValid store quoteId quote)
    (hreal : next.realLocalScids = store.realLocalScids) : QuoteValid next quoteId quote :=
  ⟨h.fields, h.id, h.binding, hreal ▸ h.unreal, h.stamped⟩

/-- The quotes with some property after one of them is written. -/
theorem exists_insert {P : StoredRfqQuote → Prop} {id : String} :
    (∃ q, (store.quotes.insert quoteId quote')[id]? = some q ∧ P q) ↔
      if id = quoteId then P quote' else ∃ q, store.quotes[id]? = some q ∧ P q := by
  split_ifs with hid
  · rw [hid, get_insert_self]
    simp
  · rw [get_insert_ne hid]

theorem exists_stored {P : StoredRfqQuote → Prop} (hget : store.quotes[quoteId]? = some quote) :
    (∃ q, store.quotes[quoteId]? = some q ∧ P q) ↔ P quote := by
  simp [hget]

theorem not_used_of_live {status : RfqQuoteStatus} (h : status.isLive = true) : status ≠ .used := by
  rintro rfl
  cases h

/-- A live quote that moves on and stays live. -/
theorem Consistent.put (h : Consistent store) (hget : store.quotes[quoteId]? = some quote)
    (hlive : quote.status.isLive = true) (hmoved : Moved quote quote')
    (hlive' : quote'.status.isLive = true) : Consistent (store.putQuote quoteId quote') := by
  have hstored {id : String} {q : StoredRfqQuote}
      (hq : (store.quotes.insert quoteId quote')[id]? = some q) (hqlive : q.status.isLive = true) :
      ∃ old, store.quotes[id]? = some old ∧ old.status.isLive = true ∧
        old.replayDomain = q.replayDomain := by
    rcases get_insert_eq_some hq with ⟨rfl, rfl⟩ | ⟨-, hold⟩
    · exact ⟨quote, hget, hlive, hmoved.terms.replayDomain⟩
    · exact ⟨q, hold, hqlive, rfl⟩
  refine ⟨h.version, fun id q hq => ?_, fun scid id => ?_, fun id id' q q' hq hq' hql hql' hsame => ?_,
    fun domain id => ?_⟩
  · rcases get_insert_eq_some hq with ⟨rfl, rfl⟩ | ⟨-, hold⟩
    · exact (h.quotes _ _ hget).move hmoved rfl
    · exact (h.quotes _ _ hold).mono rfl
  · refine (h.aliases scid id).trans (Iff.trans ?_ exists_insert.symm)
    split_ifs with hid
    · rw [hid, exists_stored hget, hmoved.scidAlias]
      simp [hlive, hlive']
    · rfl
  · obtain ⟨old, hold, hlold, hdomain⟩ := hstored hq hql
    obtain ⟨old', hold', hlold', hdomain'⟩ := hstored hq' hql'
    exact h.domains _ _ _ _ hold hold' hlold hlold' (by rw [hdomain, hdomain', hsame])
  · refine (h.used domain id).trans (Iff.trans ?_ exists_insert.symm)
    split_ifs with hid
    · rw [hid, exists_stored hget]
      simp [not_used_of_live hlive, not_used_of_live hlive']
    · rfl

/-- A live quote that ends and gives its alias back, whatever becomes of its replay domain. -/
theorem Consistent.finish (h : Consistent store) (hget : store.quotes[quoteId]? = some quote)
    (hlive : quote.status.isLive = true) (hmoved : Moved quote quote')
    (hdead : quote'.status.isLive = false) {domains : BTreeMap String String}
    (hused : ∀ domain id : String, domains[domain]? = some id ↔
      ∃ q, (store.quotes.insert quoteId quote')[id]? = some q ∧ q.status = .used ∧
        q.replayDomain = domain) :
    Consistent { store.closeQuote quoteId quote' with usedReplayDomains := domains } := by
  have hother {id : String} {q : StoredRfqQuote}
      (hq : (store.quotes.insert quoteId quote')[id]? = some q) (hqlive : q.status.isLive = true) :
      store.quotes[id]? = some q := by
    rcases get_insert_eq_some hq with ⟨-, rfl⟩ | ⟨-, hold⟩
    · rw [hdead] at hqlive
      cases hqlive
    · exact hold
  have hholder := (h.aliases quote.scidAlias quoteId).mpr ⟨quote, hget, hlive, rfl⟩
  refine ⟨h.version, fun id q hq => ?_, fun scid id => ?_, fun id id' q q' hq hq' hql hql' hsame => ?_,
    hused⟩
  · rcases get_insert_eq_some hq with ⟨rfl, rfl⟩ | ⟨-, hold⟩
    · exact (h.quotes _ _ hget).move hmoved rfl
    · exact (h.quotes _ _ hold).mono rfl
  · change (store.liveAliases.erase quote'.scidAlias)[scid]? = some id ↔
      ∃ q, (store.quotes.insert quoteId quote')[id]? = some q ∧ q.status.isLive = true ∧
        q.scidAlias = scid
    rw [hmoved.scidAlias]
    constructor
    · intro herase
      obtain ⟨hne, hheld⟩ := get_erase_eq_some herase
      obtain ⟨q, hq, hqlive, rfl⟩ := (h.aliases _ _).mp hheld
      refine ⟨q, (get_insert_ne ?_).trans hq, hqlive, rfl⟩
      rintro rfl
      rw [hget, Option.some.injEq] at hq
      exact hne (congrArg StoredRfqQuote.scidAlias hq.symm)
    · rintro ⟨q, hq, hqlive, rfl⟩
      have hheld := (h.aliases _ _).mpr ⟨q, hother hq hqlive, hqlive, rfl⟩
      refine (get_erase_ne fun hsame => ?_).trans hheld
      rw [hsame, hholder, Option.some.injEq] at hheld
      subst hheld
      rw [get_insert_self, Option.some.injEq] at hq
      rw [← hq, hdead] at hqlive
      cases hqlive
  · exact h.domains _ _ _ _ (hother hq hql) (hother hq' hql') hql hql' hsame

/-- A live quote that is rejected or expires. -/
theorem Consistent.close (h : Consistent store) (hget : store.quotes[quoteId]? = some quote)
    (hlive : quote.status.isLive = true) (hmoved : Moved quote quote')
    (hdead : quote'.status.isLive = false) (hunused : quote'.status ≠ .used) :
    Consistent (store.closeQuote quoteId quote') := by
  refine h.finish hget hlive hmoved hdead fun domain id => ?_
  refine (h.used domain id).trans (Iff.trans ?_ exists_insert.symm)
  split_ifs with hid
  · rw [hid, exists_stored hget]
    simp [not_used_of_live hlive, hunused]
  · rfl

/-- A live quote that is used takes its replay domain. -/
theorem Consistent.use (h : Consistent store) (hget : store.quotes[quoteId]? = some quote)
    (hlive : quote.status.isLive = true) (hmoved : Moved quote quote')
    (hused : quote'.status = .used)
    (hfresh : store.usedReplayDomains[quote.replayDomain]? = none) :
    Consistent (store.useQuote quoteId quote') := by
  have hid' : quote'.quoteId = quoteId :=
    hmoved.terms.quoteId.symm.trans (h.quotes _ _ hget).id.symm
  refine h.finish hget hlive hmoved (by rw [hused]; rfl) fun domain id => ?_
  refine Iff.trans ?_ exists_insert.symm
  rw [← hmoved.terms.replayDomain, hid']
  by_cases hdomain : domain = quote.replayDomain
  · subst hdomain
    rw [get_insert_self, Option.some.injEq]
    split_ifs with hid
    · simp [hid, hused, hmoved.terms.replayDomain]
    · rw [← h.used, hfresh]
      simp [Ne.symm hid]
  · rw [get_insert_ne hdomain, h.used]
    split_ifs with hid
    · rw [hid, exists_stored hget]
      simp [not_used_of_live hlive, hused, Ne.symm hdomain]
    · rfl

theorem Consistent.register (h : Consistent store) {scid : UInt64}
    (hfree : ∀ (id : String) (q : StoredRfqQuote), store.quotes[id]? = some q →
      q.scidAlias ≠ scid) :
    Consistent { store with realLocalScids := store.realLocalScids.insert scid () } := by
  refine ⟨h.version, fun id q hq => ?_, h.aliases, h.domains, h.used⟩
  obtain ⟨hfields, hid, hbinding, hunreal, hstamped⟩ := h.quotes id q hq
  exact ⟨hfields, hid, hbinding, (get_insert_ne (hfree id q hq)).trans hunreal, hstamped⟩

theorem firstFreeAlias_free {tries : ℕ} {candidate scid : UInt64}
    (h : store.firstFreeAlias tries candidate = .ok scid) :
    store.realLocalScids[scid]? = none ∧ store.liveAliases[scid]? = none := by
  induction tries generalizing candidate with
  | zero => cases h
  | succ tries ih =>
    rw [RfqQuoteStore.firstFreeAlias] at h
    split at h
    case isTrue hfree =>
      rw [← Except.ok.inj h]
      simpa using hfree
    case isFalse =>
      simp only [bind_eq_ok] at h
      obtain ⟨next, -, h⟩ := h
      exact ih h

/-- A prepared quote is valid, and nothing in the store is in its way. -/
structure Fresh (store : RfqQuoteStore) (quote : StoredRfqQuote) : Prop where
  status : quote.status = .requested
  valid : QuoteValid store quote.quoteId quote
  free : store.liveAliases[quote.scidAlias]? = none
  unused : store.usedReplayDomains[quote.replayDomain]? = none
  alone : store.liveReplayDomainExists quote.replayDomain = false

theorem prepareQuote_fresh {request : RfqQuoteRequest}
    (h : store.prepareQuote request = .ok quote) : Fresh store quote := by
  have hbase := prepareQuote_alias h
  simp only [RfqQuoteStore.prepareQuote, validateRequest, FixedRateOracle.quoteBtcMsat,
    RfqQuoteStore.allocateScidAlias, bind_eq_ok, rejectIf_eq_ok, okOr_eq_ok, exists_const,
    pure_eq_ok, Except.ok.injEq, not_or, Option.isSome_iff_ne_none, ne_eq, not_not] at h
  obtain ⟨⟨hpeer, hdomain, hamount⟩, hexpiry, ⟨hunused, halone⟩, msat, ⟨-, hmsat⟩, scid, hscid,
    rfl⟩ := h
  obtain ⟨hunreal, halias⟩ := firstFreeAlias_free hscid
  have hmsat0 : msat ≠ 0 := by
    rintro rfl
    have hzero := checkedMul_eq_some hmsat
    rcases Nat.mul_eq_zero.mp hzero.symm with h | h
    · exact hamount (UInt64.toNat_inj.mp h)
    · cases h
  have hscid0 : scid ≠ 0 := by
    rintro rfl
    cases hbase
  refine ⟨rfl, ⟨?_, rfl, rfl, hunreal, rfl, rfl, rfl, rfl⟩, halias, hunused, by simpa using halone⟩
  simp only [StoredRfqQuote.validateFields, check_bind_eq_ok, rejectIf_eq_ok]
  exact ⟨hpeer, hdomain, hamount, hmsat0, hexpiry, hscid0⟩

theorem liveReplayDomainExists_false {domain : String}
    (h : store.liveReplayDomainExists domain = false) {id : String} {q : StoredRfqQuote}
    (hq : store.quotes[id]? = some q) (hlive : q.status.isLive = true) :
    q.replayDomain ≠ domain := by
  rintro rfl
  have hall := List.any_eq_false.mp h (id, q) (mem_toList_iff.mpr hq)
  simp [hlive] at hall

/-- A new quote, where the id is not that of a quote which holds an alias or a replay domain. -/
theorem Consistent.insert (h : Consistent store) (hfresh : Fresh store quote)
    (hheld : ∀ held, store.quotes[quote.quoteId]? = some held →
      held.status = .rejected ∨ held.status = .expired) :
    Consistent (store.insertQuote quote) := by
  have hlive : quote.status.isLive = true := by
    rw [hfresh.status]
    rfl
  have hunused : quote.status ≠ .used := not_used_of_live hlive
  -- no quote that the new one replaces is listed anywhere
  have hnone {P : StoredRfqQuote → Prop} (hP : ∀ q, q.status = .rejected ∨ q.status = .expired →
      ¬ P q) : ¬ ∃ q, store.quotes[quote.quoteId]? = some q ∧ P q := by
    rintro ⟨q, hq, hPq⟩
    exact hP q (hheld q hq) hPq
  refine ⟨h.version, fun id q hq => ?_, fun scid id => ?_, fun id id' q q' hq hq' hql hql' hsame => ?_,
    fun domain id => ?_⟩
  · rcases get_insert_eq_some hq with ⟨rfl, rfl⟩ | ⟨-, hold⟩
    · exact hfresh.valid.mono rfl
    · exact (h.quotes _ _ hold).mono rfl
  · change (store.liveAliases.insert quote.scidAlias quote.quoteId)[scid]? = some id ↔ _
    refine Iff.trans ?_ exists_insert.symm
    by_cases hscid : scid = quote.scidAlias
    · subst hscid
      rw [get_insert_self, Option.some.injEq]
      split_ifs with hid
      · simp [hid, hlive]
      · rw [← h.aliases, hfresh.free]
        simp [Ne.symm hid]
    · rw [get_insert_ne hscid, h.aliases]
      split_ifs with hid
      · rw [hid]
        refine iff_of_false (hnone fun q hq hlist => ?_) fun hlist => hscid hlist.2.symm
        rcases hq with hq | hq <;> rw [hq] at hlist <;> cases hlist.1
      · rfl
  · rcases get_insert_eq_some hq with ⟨rfl, rfl⟩ | ⟨-, hold⟩ <;>
      rcases get_insert_eq_some hq' with ⟨rfl, rfl⟩ | ⟨-, hold'⟩
    · rfl
    · exact absurd hsame.symm (liveReplayDomainExists_false hfresh.alone hold' hql')
    · exact absurd hsame (liveReplayDomainExists_false hfresh.alone hold hql)
    · exact h.domains _ _ _ _ hold hold' hql hql' hsame
  · refine (h.used domain id).trans (Iff.trans ?_ exists_insert.symm)
    split_ifs with hid
    · rw [hid]
      refine iff_of_false (hnone fun q hq hlist => ?_) fun hlist => hunused hlist.1
      rcases hq with hq | hq <;> rw [hq] at hlist <;> cases hlist.1
    · rfl

/-- The operation neither registers the alias of a stored quote (which a live quote would refuse)
nor requests a quote under the id of a live or used one. -/
def Keeps (store : RfqQuoteStore) : RfqOperation → Prop
  | .registerRealLocalScid scid => store.liveAliases[scid]? = none →
    ∀ (id : String) (q : StoredRfqQuote), store.quotes[id]? = some q → q.scidAlias ≠ scid
  | .requestQuote request => ∀ quote held, store.prepareQuote request = .ok quote →
    store.quotes[quote.quoteId]? = some held → held.status = .rejected ∨ held.status = .expired
  | _ => True

theorem mutate_consistent {α : Type} {prepared : Except RfqQuoteError (α × RfqQuoteStore)}
    (h : Consistent store) (hnext : ∀ a next, prepared = .ok (a, next) → Consistent next) :
    Consistent (store.mutate prepared).2 ∧
      ((¬ ∃ a, (store.mutate prepared).1 = .ok a) → (store.mutate prepared).2 = store) := by
  cases prepared with
  | error e => exact ⟨h, fun _ => rfl⟩
  | ok p =>
    have hconsistent := hnext p.1 p.2 rfl
    refine ⟨hconsistent, fun hfails => absurd ⟨p.1, ?_⟩ hfails⟩
    rw [RfqQuoteStore.mutate, validate_iff.mpr hconsistent]
    rfl

theorem isBlank_trim {s : String} (h : isBlank s = false) : isBlank (trim s) = false := by
  have hkeep {cs : List Char} (hcs : cs.all isWhitespace = false) :
      (cs.dropWhile isWhitespace).all isWhitespace = false := by
    rw [← List.takeWhile_append_dropWhile (p := isWhitespace) (l := cs), List.all_append,
      Bool.and_eq_false_iff] at hcs
    rcases hcs with htake | hdrop
    · rw [List.all_takeWhile] at htake
      cases htake
    · exact hdrop
  rw [isBlank, trim, String.toList_ofList, List.rdropWhile, List.all_reverse]
  exact hkeep (by rw [List.all_reverse]; exact hkeep h)

theorem stamped_of_live (hlive : quote.status.isLive = true) (h : Stamped quote) :
    quote.expiredAtUnixSeconds = none ∧ quote.usedAtUnixSeconds = none := by
  unfold Stamped at h
  rcases (isLive_iff _).mp hlive with hstatus | hstatus <;> rw [hstatus] at h <;> exact h.2.2

theorem register_consistent {scid : UInt64} (h : Consistent store)
    (hkeeps : Keeps store (.registerRealLocalScid scid)) :
    Consistent (store.registerRealLocalScid scid).2 ∧
      ((¬ ∃ u, (store.registerRealLocalScid scid).1 = .ok u) →
        (store.registerRealLocalScid scid).2 = store) := by
  refine mutate_consistent h fun u next hprepared => ?_
  simp only [bind_eq_ok, rejectIf_eq_ok, pure_eq_ok, Except.ok.injEq, Prod.mk.injEq,
    Option.isSome_iff_ne_none, ne_eq, not_not] at hprepared
  obtain ⟨-, hnone, -, rfl⟩ := hprepared
  exact h.register (hkeeps hnone)

/-- An operation on a consistent store leaves a consistent one, and changes nothing if it
fails. -/
theorem step_consistent {op : RfqOperation} (h : Consistent store) (hkeeps : Keeps store op) :
    Consistent (store.after op) ∧ (¬ Succeeds store op → store.after op = store) := by
  cases op with
  | requestQuote request =>
    refine mutate_consistent h fun quote next hprepared => ?_
    simp only [bind_eq_ok, pure_eq_ok, Except.ok.injEq, Prod.mk.injEq] at hprepared
    obtain ⟨quote, hprepare, -, rfl⟩ := hprepared
    exact h.insert (prepareQuote_fresh hprepare) fun held => hkeeps quote held hprepare
  | acceptQuote quoteId now =>
    refine mutate_consistent h fun quote next hprepared => ?_
    simp only [bind_eq_ok, okOr_eq_ok, rejectIf_eq_ok, pure_eq_ok, Except.ok.injEq,
      Prod.mk.injEq, ne_eq, not_not] at hprepared
    obtain ⟨quote, hget, -, -, -, hstatus, -, -, -, rfl⟩ := hprepared
    have hstamped := (h.quotes _ _ hget).stamped
    rw [Stamped, hstatus] at hstamped
    exact h.put hget (by rw [hstatus]; rfl)
      ⟨⟨rfl, rfl⟩, rfl, Option.some_ne_none now, hstamped.2⟩ rfl
  | rejectQuote quoteId now reason =>
    refine mutate_consistent h fun quote next hprepared => ?_
    simp only [bind_eq_ok, okOr_eq_ok, rejectIf_eq_ok, pure_eq_ok, Except.ok.injEq,
      Prod.mk.injEq, not_not] at hprepared
    obtain ⟨-, hreason, quote, hget, -, hlive, -, rfl⟩ := hprepared
    have hkept : (some (trim reason)).all isBlank = false := by
      rw [Option.all_some]
      exact isBlank_trim (Bool.eq_false_of_not_eq_true hreason)
    obtain ⟨hexpired, hused⟩ := stamped_of_live hlive (h.quotes _ _ hget).stamped
    exact h.close hget hlive ⟨⟨rfl, rfl⟩, rfl, Option.some_ne_none now,
      hkept, hexpired, hused⟩ rfl (by simp)
  | expireQuote quoteId now =>
    refine mutate_consistent h fun quote next hprepared => ?_
    simp only [bind_eq_ok, okOr_eq_ok, rejectIf_eq_ok, pure_eq_ok, Except.ok.injEq,
      Prod.mk.injEq, not_not] at hprepared
    obtain ⟨quote, hget, -, hlive, -, -, -, rfl⟩ := hprepared
    obtain ⟨-, hused⟩ := stamped_of_live hlive (h.quotes _ _ hget).stamped
    exact h.close hget hlive ⟨⟨rfl, rfl⟩, rfl, Option.some_ne_none now, hused⟩ rfl (by simp)
  | authorizeAssetHtlc quoteId now =>
    refine mutate_consistent h fun quote next hprepared => ?_
    simp only [bind_eq_ok, okOr_eq_ok, rejectIf_eq_ok, pure_eq_ok, Except.ok.injEq,
      Prod.mk.injEq, Option.isSome_iff_ne_none, ne_eq, not_not] at hprepared
    obtain ⟨quote, hget, -, -, -, hstatus, -, hfresh, -, rfl⟩ := hprepared
    have hstamped := (h.quotes _ _ hget).stamped
    rw [Stamped, hstatus] at hstamped
    exact h.use hget (by rw [hstatus]; rfl)
      ⟨⟨rfl, rfl⟩, rfl, hstamped.1, Option.some_ne_none now⟩ rfl hfresh
  | registerRealLocalScid scid =>
    obtain ⟨hconsistent, hfails⟩ := register_consistent h hkeeps
    refine ⟨hconsistent, fun hne => hfails ?_⟩
    rintro ⟨_, hok⟩
    exact hne hok

/-- Whatever makes a consistent store fail its validation is not among the operations that
keep it. -/
theorem keeps_of_consistent {op : RfqOperation} (h : Consistent store)
    (hnext : Consistent (store.after op)) : Keeps store op := by
  cases op with
  | acceptQuote | rejectQuote | expireQuote | authorizeAssetHtlc => trivial
  | registerRealLocalScid scid =>
    rintro hfree id q hq rfl
    have hafter : store.after (.registerRealLocalScid q.scidAlias) =
        { store with realLocalScids := store.realLocalScids.insert q.scidAlias () } := by
      simp only [RfqQuoteStore.after, RfqQuoteStore.registerRealLocalScid, hfree]
      rfl
    rw [hafter] at hnext
    have hunreal := (hnext.quotes id q hq).unreal
    rw [get_insert_self] at hunreal
    cases hunreal
  | requestQuote request =>
    intro quote held hprepare hheld
    have hafter : store.after (.requestQuote request) = store.insertQuote quote := by
      simp only [RfqQuoteStore.after, RfqQuoteStore.requestQuote, hprepare, ok_bind]
      rfl
    rw [hafter] at hnext
    have hfresh := prepareQuote_fresh hprepare
    -- what lists the quote that is replaced would have to list the new one
    have hself : (store.insertQuote quote).quotes[quote.quoteId]? = some quote :=
      get_insert_self _ _ _
    have hlive (hlive : held.status.isLive = true) : False := by
      have hheldAlias := (h.aliases _ _).mpr ⟨held, hheld, hlive, rfl⟩
      have hne : held.scidAlias ≠ quote.scidAlias := by
        intro hsame
        rw [hsame, hfresh.free] at hheldAlias
        cases hheldAlias
      obtain ⟨q, hq, -, hscid⟩ := (hnext.aliases _ _).mp ((get_insert_ne hne).trans hheldAlias)
      rw [hself, Option.some.injEq] at hq
      exact hne (hq ▸ hscid).symm
    have hused (hused : held.status = .used) : False := by
      have hheldDomain := (h.used _ _).mpr ⟨held, hheld, hused, rfl⟩
      obtain ⟨q, hq, hstatus, -⟩ := (hnext.used _ _).mp hheldDomain
      rw [hself, Option.some.injEq] at hq
      rw [← hq, hfresh.status] at hstatus
      cases hstatus
    cases hstatus : held.status with
    | requested => exact (hlive (by rw [hstatus]; rfl)).elim
    | accepted => exact (hlive (by rw [hstatus]; rfl)).elim
    | rejected => exact .inl rfl
    | expired => exact .inr rfl
    | used => exact (hused hstatus).elim

/-- Every store that the run passes through is valid, and every operation that fails leaves the
store as it was. -/
def StaysUsable (ops : List RfqOperation) : Prop :=
  (∀ before, before <+: ops → (quoteMachine.run before).validate = .ok ()) ∧
  ∀ before op after, ops = before ++ op :: after → ¬ Succeeds (quoteMachine.run before) op →
    quoteMachine.run (before ++ [op]) = quoteMachine.run before

theorem consistent_default : Consistent RfqQuoteStore.default :=
  validate_iff.mp (by simp [RfqQuoteStore.validate, RfqQuoteStore.default, rejectIf])

theorem run_consistent {ops : List RfqOperation} (h : quoteMachine.Guarded Keeps ops) :
    Consistent (quoteMachine.run ops) :=
  quoteMachine.guarded_induction Keeps (fun _ s => Consistent s) consistent_default
    (fun _ _ _ hs hkeeps => (step_consistent hs hkeeps).1) ops h

theorem guarded_initial {ops before : List RfqOperation} (h : quoteMachine.Guarded Keeps ops)
    (hinitial : before <+: ops) : quoteMachine.Guarded Keeps before := by
  obtain ⟨rest, rfl⟩ := hinitial
  intro first op after hbefore
  exact h first op (after ++ rest) (by rw [hbefore]; simp)

/-- A run stays usable exactly when each of its operations, in the store it meets, keeps the
store. -/
theorem staysUsable_iff (ops : List RfqOperation) :
    StaysUsable ops ↔ quoteMachine.Guarded Keeps ops := by
  constructor
  · rintro ⟨hvalid, -⟩ before op after rfl
    have hbefore := validate_iff.mp (hvalid before ⟨op :: after, rfl⟩)
    have hnext := validate_iff.mp (hvalid (before ++ [op]) ⟨after, by simp⟩)
    rw [Machine.run_concat] at hnext
    exact keeps_of_consistent hbefore hnext
  · refine fun h => ⟨fun before hinitial => ?_, fun before op after hops hfails => ?_⟩
    · exact validate_iff.mpr (run_consistent (guarded_initial h hinitial))
    · have hbefore := run_consistent (guarded_initial h ⟨op :: after, hops.symm⟩)
      rw [Machine.run_concat]
      exact (step_consistent hbefore (h before op after hops)).2 hfails

/-- The alias of the quote that is requested and rejected. -/
def releasedAlias : UInt64 := 5711541067685325800

/-- The run that registers it as the SCID of a channel. -/
def releasedRun : List RfqOperation := rejectedRun ++ [.registerRealLocalScid releasedAlias]

theorem releasedRun_validate :
    (quoteMachine.run releasedRun).validate.toOption = none := by
  decide +kernel

/-- The alias of a rejected quote is registered, and the store is no longer valid. -/
theorem released_alias_poisons : ¬ ∀ ops, StaysUsable ops := by
  intro h
  have hvalid := (h releasedRun).1 releasedRun List.prefix_rfl
  have hinvalid := releasedRun_validate
  rw [hvalid] at hinvalid
  cases hinvalid

end TapLdk.RfqStoreRuns
