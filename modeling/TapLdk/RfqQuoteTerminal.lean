import Mathlib
import TapLdk.RfqQuoteSteps

/-! Terminal quotes: which operations leave a rejected, expired or used quote alone, and
the request that opens a released quote id again. -/
namespace TapLdk.RfqQuoteTerminal
open TapLdk.LibraryExcept TapLdk.LibraryMaps TapLdk.LibraryRuns TapLdk.RfqQuotes
open TapLdk.RfqQuoteSteps

/-- What holds of a stored quote in every reachable store, valid or not. -/
structure Bound (store : RfqQuoteStore) (quoteId : String) (quote : StoredRfqQuote) : Prop where
  binding : quote.bindingId = quoteId
  id : quote.quoteId = quoteId
  used : quote.status = .used → store.usedReplayDomains[quote.replayDomain]? = some quoteId

/-- A quote stays bound when its replay domain, once used, is not released. -/
theorem Bound.mono {store next : RfqQuoteStore} {quoteId : String} {quote : StoredRfqQuote}
    (h : Bound store quoteId quote)
    (hmono : ∀ domain : String, store.usedReplayDomains[domain]? = some quoteId →
      next.usedReplayDomains[domain]? = some quoteId) : Bound next quoteId quote :=
  ⟨h.binding, h.id, fun hs => hmono _ (h.used hs)⟩

/-- A quote moved on to another status on the same terms stays bound. -/
theorem Bound.move {store next : RfqQuoteStore} {quoteId : String} {quote quote' : StoredRfqQuote}
    (h : Bound store quoteId quote) (hterms : SameTerms quote quote')
    (hstatus : quote'.status ≠ .used) : Bound next quoteId quote' :=
  ⟨hterms.bindingId ▸ h.binding, hterms.quoteId ▸ h.id, fun hs => absurd hs hstatus⟩

/-- Every quote of a reachable store is bound. -/
theorem quotes_bound (ops : List RfqOperation) :
    ∀ quoteId quote, (quoteMachine.run ops).quotes[quoteId]? = some quote →
      Bound (quoteMachine.run ops) quoteId quote := by
  induction ops using List.reverseRecOn with
  | nil =>
    intro quoteId quote h
    simp [quoteMachine, RfqQuoteStore.default] at h
  | append_singleton ops op ih =>
    rw [Machine.run_concat]
    have heffect := after_effect (quoteMachine.run ops) op
    change ∀ quoteId quote, ((quoteMachine.run ops).after op).quotes[quoteId]? = some quote →
      Bound ((quoteMachine.run ops).after op) quoteId quote
    generalize (quoteMachine.run ops).after op = next at heffect
    intro quoteId quote h
    cases heffect with
    | refused => exact ih quoteId quote h
    | registered => exact (ih quoteId quote h).mono fun _ hused => hused
    | requested hprepare =>
      obtain ⟨hstatus, hbinding, -⟩ := prepareQuote_spec hprepare
      rcases get_insert_eq_some h with ⟨rfl, rfl⟩ | ⟨-, h⟩
      · exact ⟨hbinding.symm, rfl, fun hs => by rw [hstatus] at hs; cases hs⟩
      · exact (ih quoteId quote h).mono fun _ hused => hused
    | accepted hget _ _ hterms hstatus' =>
      rcases get_insert_eq_some h with ⟨rfl, rfl⟩ | ⟨-, h⟩
      · exact (ih _ _ hget).move hterms (by rw [hstatus']; exact nofun)
      · exact (ih quoteId quote h).mono fun _ hused => hused
    | closed hget _ hterms hstatus =>
      rcases get_insert_eq_some h with ⟨rfl, rfl⟩ | ⟨-, h⟩
      · refine (ih _ _ hget).move hterms ?_
        rcases hstatus with hstatus | hstatus <;> rw [hstatus] <;> exact nofun
      · exact (ih quoteId quote h).mono fun _ hused => hused
    | authorized hget _ _ hfresh hterms _ =>
      rcases get_insert_eq_some h with ⟨rfl, rfl⟩ | ⟨-, h⟩
      · have hbound := ih _ _ hget
        have hid := hterms.quoteId ▸ hbound.id
        refine ⟨hterms.bindingId ▸ hbound.binding, hid, fun _ => ?_⟩
        exact (get_insert_self _ _ _).trans (congrArg some hid)
      · refine (ih quoteId quote h).mono fun domain hused => ?_
        refine (get_insert_ne ?_).trans hused
        rintro rfl
        rw [← hterms.replayDomain, hfresh] at hused
        cases hused

/-- A terminal status never changes, whatever operation comes next. -/
def TerminalStays : Prop :=
  ∀ (ops : List RfqOperation) (op : RfqOperation) (quoteId : String) (quote : StoredRfqQuote),
    (quoteMachine.run ops).quotes[quoteId]? = some quote → quote.status.isLive = false →
    ((quoteMachine.run (ops ++ [op])).quotes[quoteId]?).map (·.status) = some quote.status

/-- The request on the terms of a stored quote id that opens it again. -/
def Reopened (ops : List RfqOperation) (op : RfqOperation) (quoteId : String)
    (quote : StoredRfqQuote) : Prop :=
  ∃ request again, op = .requestQuote request ∧
    (quoteMachine.run ops).prepareQuote request = .ok again ∧ again.quoteId = quoteId ∧
    (quoteMachine.run (ops ++ [op])).quotes[quoteId]? = some again ∧ again.status = .requested ∧
    again.bindingId = quote.bindingId ∧
    (quote.status = .used → again.replayDomain ≠ quote.replayDomain)

/-- Every operation leaves a terminal quote exactly as it is, unless it is a request whose
terms bind to the same quote id, which starts the quote over; a used quote could only meet
that from terms with another replay domain that bind to the same hash. -/
theorem terminal_stays_unless_requested_again (ops : List RfqOperation) (op : RfqOperation)
    (quoteId : String) (quote : StoredRfqQuote)
    (hget : (quoteMachine.run ops).quotes[quoteId]? = some quote)
    (hterminal : quote.status.isLive = false) :
    (quoteMachine.run (ops ++ [op])).quotes[quoteId]? = some quote ∨
      Reopened ops op quoteId quote := by
  have hbound := quotes_bound ops quoteId quote hget
  have heffect := after_effect (quoteMachine.run ops) op
  rw [Reopened, Machine.run_concat]
  change ((quoteMachine.run ops).after op).quotes[quoteId]? = some quote ∨ ∃ request again, _ ∧ _ ∧
    _ ∧ ((quoteMachine.run ops).after op).quotes[quoteId]? = some again ∧ _
  generalize (quoteMachine.run ops).after op = next at heffect
  -- a quote that moves on was live, so it is another one
  have hother {id : String} {moved moved' : StoredRfqQuote}
      (hmoved : (quoteMachine.run ops).quotes[id]? = some moved) (hlive : moved.status.isLive) :
      ((quoteMachine.run ops).quotes.insert id moved')[quoteId]? = some quote := by
    refine (get_insert_ne ?_).trans hget
    rintro rfl
    rw [hget, Option.some.injEq] at hmoved
    rw [hmoved, hlive] at hterminal
    cases hterminal
  cases heffect with
  | refused => exact .inl hget
  | registered => exact .inl hget
  | @requested request again hprepare =>
    obtain ⟨hstatus, hbinding, -, -, -, -, -, hdomain, hfresh⟩ := prepareQuote_spec hprepare
    by_cases hid : again.quoteId = quoteId
    · refine .inr ⟨request, again, rfl, hprepare, hid, hid ▸ get_insert_self _ _ _, hstatus, ?_,
        fun hs heq => ?_⟩
      · rw [← hbinding, hid, hbound.binding]
      · have hused := hbound.used hs
        rw [← heq, hdomain, hfresh] at hused
        cases hused
    · exact .inl ((get_insert_ne (Ne.symm hid)).trans hget)
  | accepted hmoved hstatus =>
    exact .inl (hother hmoved (by rw [hstatus]; rfl))
  | closed hmoved hlive =>
    exact .inl (hother hmoved hlive)
  | authorized hmoved hstatus =>
    exact .inl (hother hmoved (by rw [hstatus]; rfl))

/-- A request for 25 units, valid until second 200. -/
def invoiceRequest : RfqQuoteRequest :=
  { peer := "02peer"
    assetId := ⟨List.replicate 32 7, rfl⟩
    assetAmount := 25
    expiryUnixSeconds := 200
    invoiceContext := ⟨List.replicate 32 8, rfl⟩
    replayDomain := "path-a:invoice-4"
    nowUnixSeconds := 100 }

/-- The quote id that the empty store answers it with. -/
def invoiceQuoteId : String :=
  "366f2b0083839cd68e0470de344c14e1946749c9456f224fff1e011b026c8c4d"

/-- The request, and the refusal of its quote. -/
def rejectedRun : List RfqOperation :=
  [.requestQuote invoiceRequest, .rejectQuote invoiceQuoteId 120 "no route"]

theorem rejectedRun_status :
    ((quoteMachine.run rejectedRun).quotes[invoiceQuoteId]?).map (·.status) = some .rejected := by
  decide +kernel

theorem requestedAgain_status :
    ((quoteMachine.run (rejectedRun ++ [.requestQuote invoiceRequest])).quotes[invoiceQuoteId]?).map
      (·.status) = some .requested := by
  decide +kernel

/-- A rejected quote that is requested again on the same terms is requested once more. -/
theorem rejected_requested_again : ¬ TerminalStays := by
  intro h
  obtain ⟨quote, hget, hstatus⟩ := Option.map_eq_some_iff.mp rejectedRun_status
  have hstays := h rejectedRun (.requestQuote invoiceRequest) invoiceQuoteId quote hget
    (by rw [hstatus]; rfl)
  rw [requestedAgain_status, hstatus] at hstays
  cases hstays

/-- The rejected quote stays rejected under an attempt to accept it. -/
theorem rejected_stays : ∃ quote,
    (quoteMachine.run rejectedRun).quotes[invoiceQuoteId]? = some quote ∧
      (quoteMachine.run (rejectedRun ++ [.acceptQuote invoiceQuoteId 130])).quotes[invoiceQuoteId]? =
        some quote := by
  obtain ⟨quote, hget, hstatus⟩ := Option.map_eq_some_iff.mp rejectedRun_status
  refine ⟨quote, hget, ?_⟩
  have hcases := terminal_stays_unless_requested_again rejectedRun (.acceptQuote invoiceQuoteId 130)
    invoiceQuoteId quote hget (by rw [hstatus]; rfl)
  rcases hcases with hstays | ⟨request, again, hop, -⟩
  · exact hstays
  · cases hop

end TapLdk.RfqQuoteTerminal
