import Mathlib
import TapLdk.LightningLabsExchange

/-! The asset rate of an invoice: it is the exact quotient when there is one, and the only
amount it cannot be asked for is that of an invoice over no bitcoin. -/
namespace TapLdk.LightningLabsRates
open TapLdk.LibraryExcept TapLdk.LibraryBytes TapLdk.Mssmt TapLdk.Asset TapLdk.RfqInvoice
open TapLdk.LightningLabsRfq TapLdk.LightningLabsCodec TapLdk.LightningLabsInvoice

def Returns {α : Type} (r : LightningLabsResult α) : Prop := ∀ message, r ≠ .error (.panicked message)

section

variable {α β : Type}

theorem returns_ok (a : α) : Returns (.ok a) := by
  intro message h
  cases h

theorem returns_error {e : LightningLabsRfqError} (h : ∀ message, e ≠ .panicked message) :
    Returns (.error e : LightningLabsResult α) := fun message heq => h message (Except.error.inj heq)

theorem returns_bind {r : LightningLabsResult α} {f : α → LightningLabsResult β} (hr : Returns r)
    (hf : ∀ a, r = .ok a → Returns (f a)) : Returns (r >>= f) := by
  cases r with
  | error e => exact returns_error fun message heq => hr message (heq ▸ rfl)
  | ok a => exact hf a rfl

theorem returns_rejectIf {bad : Prop} [Decidable bad] {e : LightningLabsRfqError}
    (h : ∀ message, e ≠ .panicked message) : Returns (rejectIf bad e) := by
  unfold rejectIf
  split
  · exact returns_error h
  · exact returns_ok ()

/-- A check followed by the rest of a method. -/
theorem returns_check {bad : Prop} [Decidable bad] {e : LightningLabsRfqError}
    {f : Unit → LightningLabsResult β} (h : ∀ message, e ≠ .panicked message)
    (hf : ¬ bad → Returns (f ())) : Returns (rejectIf bad e >>= f) :=
  returns_bind (returns_rejectIf h) fun _ hok => hf (rejectIf_eq_ok.mp hok)

end

/-- The exact rate of an invoice. -/
def IsRate (invoice : QuoteBoundInvoice) (r : ℕ) : Prop :=
  0 < r ∧ r < 2 ^ 64 ∧ r * invoice.btcMsat.toNat = invoice.assetAmount.toNat * msatPerBtc

variable {invoice : QuoteBoundInvoice}

/-- The product of an amount and the units of one bitcoin fits the wide integer. -/
theorem numerator_fits (invoice : QuoteBoundInvoice) :
    ¬ 2 ^ 128 ≤ invoice.assetAmount.toNat * msatPerBtc := by
  have hlt := invoice.assetAmount.toNat_lt
  rw [msatPerBtc]
  omega

theorem rate_panics (h : invoice.btcMsat = 0) :
    assetUnitsPerBtcRate invoice = .error (.panicked "attempt to divide by zero") := by
  unfold assetUnitsPerBtcRate
  dsimp only
  rw [rejectIf_false (numerator_fits invoice), ok_bind, rejectIf, if_pos h, error_bind]

theorem btcMsat_pos (h : invoice.btcMsat ≠ 0) : 0 < invoice.btcMsat.toNat :=
  Nat.pos_of_ne_zero fun hzero => h (UInt64.toNat_inj.mp hzero)

theorem rate_returns (h : invoice.btcMsat ≠ 0) : Returns (assetUnitsPerBtcRate invoice) := by
  unfold assetUnitsPerBtcRate
  dsimp only
  refine returns_check (by simp) fun _ => ?_
  rw [rejectIf_false h, ok_bind]
  refine returns_check (by simp) fun _ => returns_check (by simp) fun _ => ?_
  exact returns_ok _

/-- A rate is returned exactly if it is the exact rate. -/
theorem rate_eq_ok (h : invoice.btcMsat ≠ 0) {rate : LightningLabsFixedPoint} :
    assetUnitsPerBtcRate invoice = .ok rate ↔
      ∃ r, IsRate invoice r ∧ rate = .fromU64 (UInt64.ofNat r) 0 := by
  have hpos := btcMsat_pos h
  simp only [assetUnitsPerBtcRate, check_bind_eq_ok, rejectIf_eq_ok, pure_eq_ok, Except.ok.injEq,
    numerator_fits invoice, h, not_false_eq_true, true_and, not_or, not_not, not_le, IsRate]
  generalize invoice.assetAmount.toNat * msatPerBtc = numerator
  constructor
  · rintro ⟨⟨hquotient, hremainder⟩, hfits, rfl⟩
    refine ⟨_, ⟨Nat.pos_of_ne_zero hquotient, hfits, ?_⟩, rfl⟩
    exact Nat.div_mul_cancel (Nat.dvd_of_mod_eq_zero hremainder)
  · rintro ⟨r, ⟨hr, hfits, rfl⟩, rfl⟩
    rw [Nat.mul_div_cancel _ hpos]
    exact ⟨⟨hr.ne', Nat.mul_mod_left _ _⟩, hfits, rfl⟩

theorem builder_returns {α : Type} (h : invoice.btcMsat ≠ 0) (build : LightningLabsFixedPoint → α) :
    Returns (do
      let rate ← assetUnitsPerBtcRate invoice
      pure (build rate)) :=
  returns_bind (rate_returns h) fun _ _ => returns_ok _

theorem validate_returns (rate : LightningLabsFixedPoint) (field : String) :
    Returns (rate.validate field) := returns_rejectIf (by simp)

theorem validateOptionalRate_returns (field : String) (rate : Option LightningLabsFixedPoint) :
    Returns (validateOptionalRate field rate) := by
  cases rate with
  | none => exact returns_ok ()
  | some rate => exact returns_bind (validate_returns rate field) fun _ _ => returns_rejectIf (by simp)

theorem validateAssetSpecifier_returns (field : String) (assetId : Option Bytes32)
    (groupKey : Option Bytes) : Returns (validateAssetSpecifier field assetId groupKey) := by
  refine returns_check (by simp) fun _ => returns_check (by simp) fun _ => ?_
  cases groupKey with
  | none => exact returns_ok ()
  | some groupKey => exact returns_check (by simp) fun _ => returns_rejectIf (by simp)

theorem validateAt_returns (request : LightningLabsRfqRequest) (now : UInt64) :
    Returns (validateAt request now) := by
  refine returns_bind ?_ fun _ _ => returns_rejectIf (by simp)
  refine returns_check (by simp) fun _ => returns_check (by simp) fun _ => ?_
  refine returns_bind (validateAssetSpecifier_returns _ _ _) fun _ _ => ?_
  refine returns_bind (validateAssetSpecifier_returns _ _ _) fun _ _ => ?_
  refine returns_check (by simp) fun _ => returns_check (by simp) fun _ => ?_
  refine returns_bind (validateOptionalRate_returns _ _) fun _ _ => ?_
  refine returns_bind (validateOptionalRate_returns _ _) fun _ _ => ?_
  exact validateOptionalRate_returns _ _

/-- The checks of a request on its terms and on its hint of the rate. -/
theorem hint_returns (h : invoice.btcMsat ≠ 0) (request : LightningLabsRfqRequest)
    (hint : Option LightningLabsFixedPoint) : Returns (do
      validateTerms request invoice
      let expectedRate ← assetUnitsPerBtcRate invoice
      rejectIf (hint ≠ some expectedRate) (.assetAmountMismatch invoice.assetAmount 0)) := by
  refine returns_bind ?_ fun _ _ => ?_
  · exact returns_check (by simp) fun _ => returns_rejectIf (by simp)
  · exact returns_bind (rate_returns h) fun _ _ => returns_rejectIf (by simp)

/-- A request to pay an invoice is checked for its amount of bitcoin, which is not zero, before
the rate is asked for. -/
theorem validateAgainstInvoice_returns (request : LightningLabsRfqRequest) (peer : String)
    (invoice : QuoteBoundInvoice) (now : UInt64) :
    Returns (validateAgainstInvoice request peer invoice now) := by
  unfold validateAgainstInvoice
  refine returns_bind (validateAt_returns request now) fun _ hvalid => ?_
  refine returns_check (by simp) fun _ => returns_check (by simp) fun _ => ?_
  refine returns_check (by simp) fun _ => returns_check (by simp) fun hamount => ?_
  have hmsat : invoice.btcMsat ≠ 0 := by
    simp only [validateAt, check_bind_eq_ok, validateShape_request] at hvalid
    rw [← not_not.mp hamount]
    exact hvalid.1.maxInAsset
  have hhint := hint_returns hmsat request request.outAssetRateHint
  cases request.minOutAsset with
  | none => exact hhint
  | some minOutAsset => exact returns_check (by simp) fun _ => hhint

theorem validateReceiveAgainstInvoice_returns (h : invoice.btcMsat ≠ 0)
    (request : LightningLabsRfqRequest) (peer : String) (now : UInt64) :
    Returns (validateReceiveAgainstInvoice request peer invoice now) := by
  unfold validateReceiveAgainstInvoice
  refine returns_bind (validateAt_returns request now) fun _ _ => ?_
  refine returns_check (by simp) fun _ => returns_check (by simp) fun _ => ?_
  refine returns_check (by simp) fun _ => returns_check (by simp) fun _ => ?_
  have hhint := hint_returns h request request.inAssetRateHint
  cases request.minInAsset with
  | none => exact hhint
  | some minInAsset => exact returns_check (by simp) fun _ => hhint

/-- The rate and the methods that ask for it return without a panic, a rate is the exact one,
and it is refused exactly if there is none. -/
structure RateExactAndTotal (invoice : QuoteBoundInvoice) : Prop where
  rate : Returns (assetUnitsPerBtcRate invoice)
  sellRequest : ∀ rfqId, Returns (lightningLabsSellRequestFromInvoice invoice rfqId)
  buyRequest : ∀ rfqId, Returns (lightningLabsBuyRequestFromInvoice invoice rfqId)
  accept : ∀ rfqId, Returns (lightningLabsAcceptFromInvoice invoice rfqId)
  buyAccept : ∀ rfqId, Returns (lightningLabsBuyAcceptFromInvoice invoice rfqId)
  payCheck : ∀ request peer now, Returns (validateAgainstInvoice request peer invoice now)
  receiveCheck : ∀ request peer now,
    Returns (validateReceiveAgainstInvoice request peer invoice now)
  exact : ∀ rate, assetUnitsPerBtcRate invoice = .ok rate →
    ∃ r, IsRate invoice r ∧ rate = .fromU64 (UInt64.ofNat r) 0
  refused : (∃ e, assetUnitsPerBtcRate invoice = .error e) ↔ ¬ ∃ r, IsRate invoice r

/-- The rate of an invoice is exact and total exactly if the invoice is over some bitcoin. -/
theorem rate_exact_and_total_iff (invoice : QuoteBoundInvoice) :
    RateExactAndTotal invoice ↔ invoice.btcMsat ≠ 0 := by
  constructor
  · intro h hzero
    exact h.rate _ (rate_panics hzero)
  · intro h
    refine ⟨rate_returns h, fun _ => builder_returns h _, fun _ => builder_returns h _,
      fun _ => builder_returns h _, fun _ => builder_returns h _,
      fun request peer now => validateAgainstInvoice_returns request peer invoice now,
      validateReceiveAgainstInvoice_returns h, fun _ => (rate_eq_ok h).mp, ?_⟩
    cases hrate : assetUnitsPerBtcRate invoice with
    | ok rate =>
      obtain ⟨r, hr, -⟩ := (rate_eq_ok h).mp hrate
      simp only [reduceCtorEq, exists_false, false_iff, not_not]
      exact ⟨r, hr⟩
    | error e =>
      refine ⟨?_, fun _ => ⟨e, rfl⟩⟩
      rintro - ⟨r, hr⟩
      have hok := (rate_eq_ok h).mpr ⟨r, hr, rfl⟩
      rw [hrate] at hok
      cases hok

/-- An invoice over one asset unit and no bitcoin. -/
def freeInvoice : QuoteBoundInvoice :=
  { invoice := "lnbcrt1free"
    paymentHash := Bytes32.ZERO
    quoteId := toHex Bytes32.ZERO
    peer := "counterparty"
    assetId := .replicate 32 1
    assetAmount := 1
    btcMsat := 0
    invoiceContext := Bytes32.ZERO
    scidAlias := 0
    quoteExpiryUnixSeconds := 200
    invoiceExpiryUnixSeconds := 200 }

theorem freeInvoice_panics : ¬ RateExactAndTotal freeInvoice := fun h =>
  h.rate _ (rate_panics rfl)

end TapLdk.LightningLabsRates
