import Mathlib
import TapLdk.ProofHistoryReplay

/-! Spellings of an anchor. The policy looks an anchor up by its text, while the replay
judges the text by the outpoint it parses to, so an outpoint that is recorded as bad under
one spelling stays out of the histories only if the policy rejects every other spelling too. -/
namespace TapLdk.ProofHistoryAnchors
open TapLdk.LibraryExcept TapLdk.LibraryMaps TapLdk.LibraryBytes TapLdk.Mssmt TapLdk.Asset
open TapLdk.Proof TapLdk.ProofHistory TapLdk.ProofHistoryConservation TapLdk.ProofHistoryReplay

theorem parseU32_cons_zero {digits : List Char} (h : digits ≠ []) :
    parseU32 ('0' :: digits) = parseU32 digits := by
  have hdigit : Char.isDigit '0' = true := by decide
  simp [parseU32, h, hdigit]

/-- Leading zeros do not change a number. -/
theorem parseU32_zeros {digits : List Char} (h : digits ≠ []) (k : ℕ) :
    parseU32 (List.replicate k '0' ++ digits) = parseU32 digits := by
  induction k with
  | zero => rfl
  | succ k ih =>
    rw [List.replicate_succ, List.cons_append, parseU32_cons_zero (by simp [h]), ih]

/-- The parts of a text that parses. -/
structure Spells (txid vout : List Char) (p : ParsedOutpoint) : Prop where
  length : txid.length = 64
  digits : txid.all isHexDigit = true
  nonzero : txid.all (· == '0') = false
  ne_nil : vout ≠ []
  sign : vout.head? ≠ some '+'
  txid : p.txid = String.ofList (txid.map Char.toLower)
  vout : parseU32 vout = some p.vout

theorem outpointOf_eq_some {text : String} {p : ParsedOutpoint} :
    outpointOf text = some p ↔
      ∃ txid vout, text.toList.splitOn ':' = [txid, vout] ∧ Spells txid vout p := by
  rw [← @parseOutpoint_eq_ok text "" p]
  unfold parseOutpoint
  split
  case h_1 txid vout hsplit =>
    simp only [bind_eq_ok, rejectIf_eq_ok, exists_const, okOr_eq_ok, pure_eq_ok, Except.ok.injEq,
      hsplit, List.cons.injEq, and_true, not_or, not_not]
    constructor
    · rintro ⟨⟨hlen, hdigits, hzero, hne, hsign⟩, n, hn, rfl⟩
      exact ⟨txid, vout, ⟨rfl, rfl⟩, hlen, hdigits, by simpa using hzero, hne, hsign, rfl, hn⟩
    · rintro ⟨_, _, ⟨rfl, rfl⟩, h⟩
      refine ⟨⟨h.length, h.digits, by simp [h.nonzero], h.ne_nil, h.sign⟩, p.vout, h.vout, ?_⟩
      rw [← h.txid]
  case h_2 hsplit =>
    simp only [reduceCtorEq, false_iff]
    rintro ⟨txid, vout, heq, -⟩
    exact hsplit txid vout heq

theorem not_mem_txid {txid vout : List Char} {p : ParsedOutpoint} (h : Spells txid vout p) :
    ':' ∉ txid := fun hmem => by
  have hdigit := List.all_eq_true.mp h.digits _ hmem
  exact absurd hdigit (by decide)

theorem not_mem_vout {txid vout : List Char} {p : ParsedOutpoint} (h : Spells txid vout p) :
    ':' ∉ vout := fun hmem => by
  have hvout := h.vout
  unfold parseU32 at hvout
  split at hvout
  case isTrue => cases hvout
  case isFalse hall =>
    rw [not_or, not_not] at hall
    exact absurd (List.all_eq_true.mp hall.2 _ hmem) (by decide)

/-- The text with `k` more zeros before the output index. -/
def respelled (txid vout : List Char) (k : ℕ) : String :=
  String.ofList (txid ++ ':' :: (List.replicate k '0' ++ vout))

theorem outpointOf_respelled {txid vout : List Char} {p : ParsedOutpoint} (h : Spells txid vout p)
    (k : ℕ) : outpointOf (respelled txid vout k) = some p := by
  have hvout : ':' ∉ List.replicate k '0' ++ vout := by
    simp [List.mem_replicate, not_mem_vout h]
  have hsplit : (respelled txid vout k).toList.splitOn ':' =
      [txid, List.replicate k '0' ++ vout] := by
    rw [respelled, String.toList_ofList, List.splitOn_append_cons_self_of_not_mem (not_mem_txid h),
      List.splitOn_eq_singleton hvout]
  refine outpointOf_eq_some.mpr ⟨_, _, hsplit, { h with ne_nil := ?_, sign := ?_, vout := ?_ }⟩
  · simp [h.ne_nil]
  · cases k with
    | zero => exact h.sign
    | succ k => simp [List.replicate_succ]
  · rw [parseU32_zeros h.ne_nil, h.vout]

theorem respelled_injective (txid vout : List Char) :
    Function.Injective (respelled txid vout) := by
  intro j k heq
  have hlist := String.ofList_injective heq
  have hlen := congrArg List.length hlist
  simpa using hlen

/-- An outpoint has a spelling that a finite map does not hold. -/
theorem exists_absent_spelling {α : Type} {text : String} {p : ParsedOutpoint}
    (h : outpointOf text = some p) (m : BTreeMap String α) :
    ∃ spelling, outpointOf spelling = some p ∧ m[spelling]? = none := by
  obtain ⟨txid, vout, -, hspells⟩ := outpointOf_eq_some.mp h
  have hinf := Set.infinite_range_of_injective (respelled_injective txid vout)
  obtain ⟨_, ⟨k, rfl⟩, hnot⟩ := hinf.exists_notMem_finset m.keys.toFinset
  refine ⟨_, outpointOf_respelled hspells k, ?_⟩
  simpa using hnot

theorem hexChar_text : ∀ v < 16, isHexDigit (hexChar v) = true ∧
    (hexChar v).toLower = hexChar v ∧ hexChar v ≠ ':' := by
  decide

/-- A digest is written with zeros alone only if it is zero. -/
theorem toHex_all_zero (d : Bytes32) :
    (toHex d).toList.all (· == '0') = true ↔ d = Bytes32.ZERO := by
  constructor
  · intro hall
    have hlist : (toHex d).toList = List.replicate 64 '0' :=
      List.eq_replicate_iff.mpr ⟨toHex_length d, fun c hc =>
        beq_iff_eq.mp (List.all_eq_true.mp hall c hc)⟩
    have hzero : (toHex Bytes32.ZERO).toList = List.replicate 64 '0' := by decide +kernel
    exact toHex_injective (String.toList_inj.mp (hlist.trans hzero.symm))
  · rintro rfl
    decide +kernel

/-- The outpoint of a digest with a one-digit index. -/
theorem outpointOf_digest (d : Bytes32) {index : Char} (hindex : index.isDigit = true)
    {text : String} (htext : text.toList = (toHex d).toList ++ [':', index])
    {p : ParsedOutpoint} : outpointOf text = some p ↔
      d ≠ Bytes32.ZERO ∧ p = ⟨toHex d, UInt32.ofNat (index.toNat - 48)⟩ := by
  have hchars : ∀ c ∈ (toHex d).toList, isHexDigit c = true ∧ c.toLower = c ∧ c ≠ ':' := by
    intro c hc
    obtain ⟨v, hv, rfl⟩ := mem_encodeHex hc
    exact hexChar_text v hv
  have hcolon : index ≠ ':' := by
    rintro rfl
    exact absurd hindex (by decide)
  have hplus : index ≠ '+' := by
    rintro rfl
    exact absurd hindex (by decide)
  have hsplit : text.toList.splitOn ':' = [(toHex d).toList, [index]] := by
    rw [htext, List.splitOn_append_cons_self_of_not_mem fun hc => (hchars _ hc).2.2 rfl,
      List.splitOn_eq_singleton (by simpa using Ne.symm hcolon)]
  have hlower : (toHex d).toList.map Char.toLower = (toHex d).toList :=
    (List.map_congr_left fun c hc => (hchars c hc).2.1).trans (List.map_id _)
  have hnumber : parseU32 [index] = some (UInt32.ofNat (index.toNat - 48)) := by
    have hle : index.toNat ≤ 57 := by
      simp only [Char.isDigit, Bool.and_eq_true, decide_eq_true_eq] at hindex
      exact UInt32.le_iff_toNat_le.mp hindex.2
    have hdigits : ¬ ([index] = [] ∨ ¬ [index].all Char.isDigit) := by simp [hindex]
    have hvalue : [index].foldl (fun acc c => 10 * acc + (c.toNat - 48)) 0 = index.toNat - 48 := by
      simp
    have hlt : [index].foldl (fun acc c => 10 * acc + (c.toNat - 48)) 0 < 2 ^ 32 := by omega
    rw [parseU32, if_neg hdigits]
    dsimp only
    rw [if_pos hlt, hvalue]
  rw [outpointOf_eq_some]
  constructor
  · rintro ⟨txid, vout, heq, h⟩
    rw [hsplit] at heq
    simp only [List.cons.injEq, and_true] at heq
    obtain ⟨rfl, rfl⟩ := heq
    refine ⟨fun hzero => ?_, ?_⟩
    · have hall := (toHex_all_zero d).mpr hzero
      rw [h.nonzero] at hall
      cases hall
    · have htxid := h.txid
      have hvout := h.vout
      rw [hlower, String.ofList_toList] at htxid
      rw [hnumber, Option.some.injEq] at hvout
      cases p
      rw [ParsedOutpoint.mk.injEq]
      exact ⟨htxid, hvout.symm⟩
  · rintro ⟨hne, rfl⟩
    refine ⟨_, _, hsplit, toHex_length d, List.all_eq_true.mpr fun c hc => (hchars c hc).1, ?_, ?_, ?_,
      ?_, hnumber⟩
    · exact Bool.eq_false_iff.mpr fun hall => hne ((toHex_all_zero d).mp hall)
    · exact List.cons_ne_nil _ _
    · exact fun h => hplus (Option.some.inj h)
    · rw [hlower, String.ofList_toList]

/-- A lower-case transaction id and the plain decimal output index. -/
def canonicalText (p : ParsedOutpoint) : String := s!"{p.txid}:{p.vout}"

/-- The policy records an outpoint as bad under its canonical spelling. -/
structure Recorded (policy : ProofAnchorPolicy) (p : ParsedOutpoint) : Prop where
  outpoint : outpointOf (canonicalText p) = some p
  bad : ∃ state ∈ [ProofAnchorState.stale, .reorged, .unknown],
    policy.anchorStates[canonicalText p]? = some state

/-- No output of an accepted history is anchored at the outpoint, however it is spelled. -/
def KeepsOut (policy : ProofAnchorPolicy) (p : ParsedOutpoint) : Prop :=
  ∀ records replay, replayWithAnchorPolicy records policy = .ok replay →
    ∀ record ∈ records, ∀ output ∈ record.outputs, outpointOf output.anchorOutpoint ≠ some p

/-- The policy rejects the outpoint under every spelling: those it has an entry for, and
the rest by its default. -/
structure RejectsSpellings (policy : ProofAnchorPolicy) (p : ParsedOutpoint) : Prop where
  default : policy.acceptsAnchorState policy.defaultAnchorState = false
  entries : ∀ (text : String) (state : ProofAnchorState), policy.anchorStates[text]? = some state →
    outpointOf text = some p → policy.acceptsAnchorState state = false

theorem replayWithAnchorPolicy_eq_ok {policy : ProofAnchorPolicy}
    {records : List ProofHistoryRecord} {replay : ProofHistory.ProofHistoryReplay} :
    replayWithAnchorPolicy records policy = .ok replay ↔
      ∃ s, replayState records policy = .ok s ∧ ⟨s.explanations, s.states⟩ = replay := by
  simp [replayWithAnchorPolicy]

/-- The anchor of every output of an accepted history is acceptable under its own spelling. -/
theorem anchors_accepted {policy : ProofAnchorPolicy} {records : List ProofHistoryRecord}
    {s : ReplayState} (h : replayState records policy = .ok s) :
    ∀ record ∈ records, ∀ o ∈ record.outputs,
      policy.acceptsAnchorState (policy.anchorState o.anchorOutpoint) = true := by
  have hinv := foldlM_induction (fun done s => Ledger done s ∧
    ∀ record ∈ done, ∀ o ∈ record.outputs,
      policy.acceptsAnchorState (policy.anchorState o.anchorOutpoint) = true)
    ⟨ledger_empty, by simp⟩ ?_ h
  · exact hinv.2
  · rintro done record s s' ⟨hledger, hdone⟩ hrecord
    obtain ⟨priors, hstep⟩ := replayRecord_step hledger.keyed hrecord
    refine ⟨ledger_step hledger hstep, fun r hr => ?_⟩
    rcases List.mem_append.mp hr with hold | hlast
    · exact hdone r hold
    · rw [List.mem_singleton.mp hlast]
      exact hstep.anchor

theorem RejectsSpellings.anchorState {policy : ProofAnchorPolicy} {p : ParsedOutpoint}
    (h : RejectsSpellings policy p) {text : String} (htext : outpointOf text = some p) :
    policy.acceptsAnchorState (policy.anchorState text) = false := by
  unfold ProofAnchorPolicy.anchorState
  cases hget : policy.anchorStates[text]? with
  | none => exact h.default
  | some state => exact h.entries text state hget htext

/-- Five units issued at an anchor. -/
def issueAt (anchorOutpoint : String) : ProofHistoryRecord :=
  ⟨"issue", .issuance, .replicate 32 1, [],
    [{ sampleOutput "issued" with anchorOutpoint }]⟩

/-- A spelling that the policy accepts anchors an accepted history. -/
theorem issueAt_accepted {policy : ProofAnchorPolicy} {p : ParsedOutpoint} {text : String}
    (htext : outpointOf text = some p)
    (haccept : policy.acceptsAnchorState (policy.anchorState text) = true) :
    ∃ replay, replayWithAnchorPolicy [issueAt text] policy = .ok replay := by
  have hvalid : IsOutput (issueAt text) { sampleOutput "issued" with anchorOutpoint := text } :=
    { @sampleOutput_valid (issueAt text) "issued" (by decide) rfl with anchor := ⟨p, htext⟩ }
  have hid : (issueAt text).recordId ≠ "" := show "issue" ≠ "" by decide
  have htransition : (issueAt text).virtualTransitionId ≠ Bytes32.ZERO :=
    show (⟨List.replicate 32 1, rfl⟩ : Bytes32) ≠ Bytes32.ZERO by decide
  obtain ⟨s, hs, -⟩ := @replayStep_issue policy (issueAt text) _ _ ledger_empty.keyed rfl rfl rfl
    hid rfl htransition hvalid rfl haccept
  refine ⟨_, replayWithAnchorPolicy_eq_ok.mpr ⟨s, ?_, rfl⟩⟩
  simp [replayState, hs]

/-- An outpoint recorded as bad stays out of every accepted history exactly when the policy
rejects it under all its spellings. -/
theorem keepsOut_iff_rejectsSpellings {policy : ProofAnchorPolicy} {p : ParsedOutpoint}
    (h : Recorded policy p) : KeepsOut policy p ↔ RejectsSpellings policy p := by
  have hissue : KeepsOut policy p → ∀ text, outpointOf text = some p →
      policy.acceptsAnchorState (policy.anchorState text) = false := by
    intro hkeeps text htext
    by_contra haccept
    obtain ⟨replay, hreplay⟩ := issueAt_accepted htext (Bool.not_eq_false _ ▸ haccept)
    exact hkeeps _ _ hreplay _ (List.mem_singleton.mpr rfl) _ (List.mem_singleton.mpr rfl) htext
  constructor
  · intro hkeeps
    refine ⟨?_, fun text state hget htext => ?_⟩
    · obtain ⟨text, htext, hnone⟩ := exists_absent_spelling h.outpoint policy.anchorStates
      have hbad := hissue hkeeps text htext
      rwa [ProofAnchorPolicy.anchorState, hnone] at hbad
    · have hbad := hissue hkeeps text htext
      rwa [ProofAnchorPolicy.anchorState, hget] at hbad
  · intro hrejects records replay hreplay record hrecord o ho htext
    obtain ⟨s, hs, -⟩ := replayWithAnchorPolicy_eq_ok.mp hreplay
    have haccept := anchors_accepted hs record hrecord o ho
    rw [hrejects.anchorState htext] at haccept
    cases haccept

def sampleOutpoint : ParsedOutpoint :=
  ⟨"aaaaaaaaaaaaaaaaaaaaaaaaaaaaaaaaaaaaaaaaaaaaaaaaaaaaaaaaaaaaaaaa", 1⟩

theorem canonicalText_sampleOutpoint : canonicalText sampleOutpoint = sampleAnchor := by
  decide

/-- A policy that has the sample anchor as stale under its canonical spelling records it. -/
theorem recorded_stale (policy : ProofAnchorPolicy) :
    Recorded (policy.withAnchorState sampleAnchor .stale) sampleOutpoint := by
  refine ⟨?_, .stale, by simp, ?_⟩
  · rw [canonicalText_sampleOutpoint, sampleAnchor_parses]
    rfl
  · rw [canonicalText_sampleOutpoint]
    simp [ProofAnchorPolicy.withAnchorState]

/-- Under a policy that accepts what it does not know, the stale anchor is accepted with one
more zero before its output index. -/
theorem stale_respelled_accepted :
    Recorded (ProofAnchorPolicy.withAnchorState .assumeAllConfirmedForRegtest sampleAnchor .stale)
        sampleOutpoint ∧
      ¬ KeepsOut (.withAnchorState .assumeAllConfirmedForRegtest sampleAnchor .stale)
        sampleOutpoint := by
  refine ⟨recorded_stale _, fun hkeeps => ?_⟩
  have htext : outpointOf
      "aaaaaaaaaaaaaaaaaaaaaaaaaaaaaaaaaaaaaaaaaaaaaaaaaaaaaaaaaaaaaaaa:01" =
        some sampleOutpoint := by decide +kernel
  have haccept : (ProofAnchorPolicy.withAnchorState .assumeAllConfirmedForRegtest sampleAnchor
      .stale).acceptsAnchorState (ProofAnchorPolicy.anchorState (.withAnchorState
        .assumeAllConfirmedForRegtest sampleAnchor .stale)
          "aaaaaaaaaaaaaaaaaaaaaaaaaaaaaaaaaaaaaaaaaaaaaaaaaaaaaaaaaaaaaaaa:01") = true := by
    decide
  obtain ⟨replay, hreplay⟩ := issueAt_accepted htext haccept
  exact hkeeps _ _ hreplay _ (List.mem_singleton.mpr rfl) _ (List.mem_singleton.mpr rfl) htext

/-- A policy that accepts only what it records as confirmed keeps the stale anchor out. -/
theorem keepsOut_iff_rejectsSpellings_strict :
    KeepsOut (.withAnchorState .strictConfirmed sampleAnchor .stale) sampleOutpoint := by
  refine (keepsOut_iff_rejectsSpellings (recorded_stale _)).mpr ⟨rfl, fun text state hget _ => ?_⟩
  rcases get_insert_eq_some hget with ⟨-, rfl⟩ | ⟨-, hnone⟩
  · rfl
  · simp [ProofAnchorPolicy.strictConfirmed] at hnone

end TapLdk.ProofHistoryAnchors
