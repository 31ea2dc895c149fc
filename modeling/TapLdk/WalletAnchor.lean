import Mathlib
import TapLdk.WalletOutpoint

/-! Anchor states. The wallet keeps a state in each UTXO and follows notices by the text of
the anchor, so UTXOs at one outpoint agree as long as nothing respells or contradicts it. -/
namespace TapLdk.WalletAnchor
open TapLdk.LibraryExcept TapLdk.LibraryMaps TapLdk.LibraryBytes TapLdk.LibraryRuns
open TapLdk.Mssmt TapLdk.Asset TapLdk.Proof TapLdk.ProofHistory TapLdk.Wallet
open TapLdk.WalletImport TapLdk.WalletSteps TapLdk.WalletSpend TapLdk.WalletOutpoint

/-- A wallet and the state in the latest accepted notice for each outpoint. -/
structure NoticeLog where
  wallet : WalletState
  notice : ParsedOutpoint → Option ProofAnchorState

def recordNotice (notice : ParsedOutpoint → Option ProofAnchorState) (op : WalletOp)
    (reply : Except WalletError WalletReply) : ParsedOutpoint → Option ProofAnchorState :=
  match op, reply with
  | .updateAnchorState anchorOutpoint anchorState, .ok _ => fun p =>
    if outpointOf anchorOutpoint = some p then some anchorState else notice p
  | _, _ => notice

theorem recordNotice_eq_some {notice : ParsedOutpoint → Option ProofAnchorState} {op : WalletOp}
    {reply : Except WalletError WalletReply} {p : ParsedOutpoint} {anchorState : ProofAnchorState}
    (h : recordNotice notice op reply p = some anchorState) : notice p = some anchorState ∨
      ∃ anchorOutpoint accepted, op = .updateAnchorState anchorOutpoint anchorState ∧
        reply = .ok accepted ∧ outpointOf anchorOutpoint = some p := by
  cases op with
  | updateAnchorState anchorOutpoint noticed =>
    cases reply with
    | error e => exact .inl h
    | ok accepted =>
      simp only [recordNotice] at h
      split at h
      · rename_i hp
        obtain rfl := Option.some.inj h
        exact .inr ⟨anchorOutpoint, accepted, rfl, rfl, hp⟩
      · exact .inl h
  | _ => exact .inl h

def noticeMachine : Machine NoticeLog WalletOp :=
  { start := ⟨.default, fun _ => none⟩
    next := fun s op =>
      let (reply, next) := step s.wallet op
      ⟨next, recordNotice s.notice op reply⟩ }

/-- UTXOs of any assets that are anchored at one outpoint have one anchor state. -/
def StateAgrees (w : WalletState) : Prop :=
  ∀ (k₁ k₂ : String) (u₁ u₂ : SpendableAssetUtxo) (p : ParsedOutpoint),
    w.spendableUtxos[k₁]? = some u₁ → w.spendableUtxos[k₂]? = some u₂ →
      outpointOf u₁.anchorOutpoint = some p → outpointOf u₂.anchorOutpoint = some p →
        u₁.anchorState = u₂.anchorState

/-- A new proof claims another state than a UTXO at its outpoint has, or a notice that the
wallet accepts misses a UTXO in another state, because that one spells the outpoint in
another way. -/
def Disagrees (w : WalletState) (op : WalletOp) : Prop :=
  (∃ o, offer w op = some o ∧ Verified o.proof ∧ (o.wallet w).proofs[proofId o.proof]? = none ∧
    ∃ (key : String) (utxo : SpendableAssetUtxo), (o.wallet w).spendableUtxos[key]? = some utxo ∧
      outpointOf utxo.anchorOutpoint = outpointOf o.proof.anchorOutpoint ∧
      utxo.anchorState ≠ o.anchorState) ∨
  ∃ anchorOutpoint anchorState, op = .updateAnchorState anchorOutpoint anchorState ∧
    (∃ (key : String) (utxo : SpendableAssetUtxo), w.spendableUtxos[key]? = some utxo ∧
      utxo.anchorOutpoint = anchorOutpoint) ∧
    ∃ (key : String) (utxo : SpendableAssetUtxo), w.spendableUtxos[key]? = some utxo ∧
      outpointOf utxo.anchorOutpoint = outpointOf anchorOutpoint ∧
      utxo.anchorOutpoint ≠ anchorOutpoint ∧ utxo.anchorState ≠ anchorState

theorem stateAgrees_imported {w next : WalletState} {o : Offer} (h : StateAgrees w)
    (himport : Imported w o next)
    (hclaim : Verified o.proof → w.proofs[proofId o.proof]? = none →
      ∀ (key : String) (utxo : SpendableAssetUtxo), w.spendableUtxos[key]? = some utxo →
        outpointOf utxo.anchorOutpoint = outpointOf o.proof.anchorOutpoint →
        utxo.anchorState = o.anchorState) : StateAgrees next := by
  rcases imported_utxos himport with ⟨hutxos, -⟩ | ⟨prepared, hp, hnew, -, hutxos⟩
  · simpa only [StateAgrees, hutxos] using h
  · have hold := hclaim hp.verified hnew
    intro k₁ k₂ u₁ u₂ p h₁ h₂ hp₁ hp₂
    rw [hutxos] at h₁ h₂
    rcases get_insert_eq_some h₁ with ⟨rfl, rfl⟩ | ⟨-, h₁⟩ <;>
      rcases get_insert_eq_some h₂ with ⟨rfl, rfl⟩ | ⟨-, h₂⟩
    · rfl
    · exact (hold k₂ u₂ h₂ (hp₂.trans hp₁.symm)).symm
    · exact hold k₁ u₁ h₁ (hp₁.trans hp₂.symm)
    · exact h k₁ k₂ u₁ u₂ p h₁ h₂ hp₁ hp₂

/-- After a notice that reaches every UTXO at its outpoint, the states still agree. -/
theorem stateAgrees_updated {w next : WalletState} {anchorOutpoint : String}
    {anchorState : ProofAnchorState} (h : StateAgrees w)
    (hupdate : w.updateAnchorState anchorOutpoint anchorState = .ok ((), next))
    (hreach : ∀ (key : String) (utxo : SpendableAssetUtxo), w.spendableUtxos[key]? = some utxo →
      outpointOf utxo.anchorOutpoint = outpointOf anchorOutpoint →
      utxo.anchorOutpoint = anchorOutpoint ∨ utxo.anchorState = anchorState) :
    StateAgrees next := by
  intro k₁ k₂ u₁ u₂ p h₁ h₂ hp₁ hp₂
  obtain ⟨o₁, ho₁, rfl⟩ := updated_utxo hupdate h₁
  obtain ⟨o₂, ho₂, rfl⟩ := updated_utxo hupdate h₂
  obtain ⟨-, hc₁, hs₁⟩ := withAnchorState_spec o₁ anchorOutpoint anchorState
  obtain ⟨-, hc₂, hs₂⟩ := withAnchorState_spec o₂ anchorOutpoint anchorState
  rw [hc₁] at hp₁
  rw [hc₂] at hp₂
  have hagree := h k₁ k₂ o₁ o₂ p ho₁ ho₂ hp₁ hp₂
  have hr₁ := hreach k₁ o₁ ho₁
  have hr₂ := hreach k₂ o₂ ho₂
  rw [hs₁, hs₂]
  by_cases ha : outpointOf anchorOutpoint = some p
  · have hr₁ := hr₁ (hp₁.trans ha.symm)
    have hr₂ := hr₂ (hp₂.trans ha.symm)
    split <;> split <;> simp_all
  · have hn₁ : o₁.anchorOutpoint ≠ anchorOutpoint := fun heq => ha (heq ▸ hp₁)
    have hn₂ : o₂.anchorOutpoint ≠ anchorOutpoint := fun heq => ha (heq ▸ hp₂)
    rw [if_neg hn₁, if_neg hn₂, hagree]

theorem stateAgrees_step {w : WalletState} {op : WalletOp} (h : StateAgrees w)
    (hguard : ¬ Disagrees w op) : StateAgrees (step w op).2 := by
  refine step_preserves (P := StateAgrees) h ?_ ?_ ?_
  · rintro _ inputId _ - h k₁ k₂ u₁ u₂ p h₁ h₂
    exact h k₁ k₂ u₁ u₂ p (get_erase_eq_some h₁).2 (get_erase_eq_some h₂).2
  · intro o next ho h himport
    refine stateAgrees_imported h himport fun hverified hnew key utxo hu hanchor => ?_
    by_contra hne
    exact hguard (.inl ⟨o, ho, hverified, hnew, key, utxo, hu, hanchor, hne⟩)
  · intro anchorOutpoint anchorState next hop hok
    refine stateAgrees_updated h hok fun key utxo hu hanchor => ?_
    by_contra hne
    rw [not_or] at hne
    exact hguard (.inr ⟨anchorOutpoint, anchorState, hop, (updateAnchorState_spec hok).1, key, utxo,
      hu, hanchor, hne.1, hne.2⟩)

/-- A UTXO in the given state is anchored at the outpoint. -/
def HasState (w : WalletState) (p : ParsedOutpoint) (anchorState : ProofAnchorState) : Prop :=
  ∃ (key : String) (utxo : SpendableAssetUtxo), w.spendableUtxos[key]? = some utxo ∧
    outpointOf utxo.anchorOutpoint = some p ∧ utxo.anchorState = anchorState

/-- A UTXO in any state but confirmed is no transfer input, so it stays. -/
theorem hasState_removeInput {w : WalletState} (hshape : Shape w) {p : ParsedOutpoint}
    {anchorState : ProofAnchorState} (h : HasState w p anchorState) (hstate : anchorState ≠ .confirmed)
    {request : LocalTransferRequest} {inputId : String} {input : SpendableAssetUtxo}
    (hselect : w.selectInput request = some (inputId, input)) :
    HasState (w.removeInput inputId) p anchorState := by
  obtain ⟨key, utxo, hu, hanchor, rfl⟩ := h
  have hspendable := List.find?_some hselect
  have hinput := mem_toList_iff.mp (List.mem_of_find?_eq_some hselect)
  have hne : key ≠ inputId := by
    rintro rfl
    rw [hu, Option.some.injEq] at hinput
    subst hinput
    simp only [decide_eq_true_eq] at hspendable
    have hstatus := hspendable.1
    rw [hshape.status key utxo hu] at hstatus
    exact hstate (fromAnchorState_spendable.mp hstatus)
  exact ⟨key, utxo, (get_erase_ne hne).trans hu, hanchor, rfl⟩

theorem hasState_imported {w next : WalletState} {o : Offer} (hshape : Shape w) {p : ParsedOutpoint}
    {anchorState : ProofAnchorState} (h : HasState w p anchorState) (himport : Imported w o next) :
    HasState next p anchorState := by
  obtain ⟨key, utxo, hu, hanchor, hstate⟩ := h
  rcases imported_utxos himport with ⟨hutxos, -⟩ | ⟨prepared, -, hnew, -, hutxos⟩
  · exact ⟨key, utxo, hutxos ▸ hu, hanchor, hstate⟩
  · have hne : key ≠ proofId o.proof := by
      rintro rfl
      exact hshape.stored _ utxo hu hnew
    exact ⟨key, utxo, by rw [hutxos, get_insert_ne hne, hu], hanchor, hstate⟩

/-- A notice for another outpoint leaves the state of this one. -/
theorem hasState_updated {w next : WalletState} {p : ParsedOutpoint}
    {anchorState noticed : ProofAnchorState} {anchorOutpoint : String} (h : HasState w p anchorState)
    (hother : outpointOf anchorOutpoint ≠ some p)
    (hupdate : w.updateAnchorState anchorOutpoint noticed = .ok ((), next)) :
    HasState next p anchorState := by
  obtain ⟨key, utxo, hu, hanchor, hstate⟩ := h
  obtain ⟨-, hc, hs⟩ := withAnchorState_spec utxo anchorOutpoint noticed
  have hne : utxo.anchorOutpoint ≠ anchorOutpoint := fun heq => hother (heq ▸ hanchor)
  refine ⟨key, utxo.withAnchorState anchorOutpoint noticed, ?_, hc ▸ hanchor, ?_⟩
  · rw [(updateAnchorState_spec hupdate).2.2, hu]
    rfl
  · rw [hs, if_neg hne, hstate]

/-- What holds of a wallet beside the latest notices. -/
structure Noticed (s : NoticeLog) : Prop where
  shape : Shape s.wallet
  agrees : StateAgrees s.wallet
  kept : ∀ p anchorState, s.notice p = some anchorState → anchorState ≠ .confirmed →
    HasState s.wallet p anchorState

theorem hasState_step {w : WalletState} {op : WalletOp} (hshape : Shape w) {p : ParsedOutpoint}
    {anchorState : ProofAnchorState} (h : HasState w p anchorState) (hstate : anchorState ≠ .confirmed)
    (hother : ∀ anchorOutpoint noticed next, op = .updateAnchorState anchorOutpoint noticed →
      w.updateAnchorState anchorOutpoint noticed = .ok ((), next) →
      outpointOf anchorOutpoint ≠ some p) : HasState (step w op).2 p anchorState := by
  refine (step_preserves (P := fun w => Shape w ∧ HasState w p anchorState) ⟨hshape, h⟩ ?_ ?_ ?_).2
  · rintro _ inputId _ hselect ⟨hshape, h⟩
    exact ⟨shape_removeInput hshape inputId, hasState_removeInput hshape h hstate hselect⟩
  · rintro o next - ⟨hshape, h⟩ himport
    exact ⟨shape_imported hshape himport, hasState_imported hshape h himport⟩
  · intro anchorOutpoint noticed next hop hok
    exact ⟨shape_updated hshape hok, hasState_updated h (hother _ _ _ hop hok) hok⟩

theorem noticed_step {s : NoticeLog} {op : WalletOp} (h : Noticed s)
    (hguard : ¬ Disagrees s.wallet op) : Noticed (noticeMachine.next s op) := by
  have hshape := shape_step h.shape op
  refine ⟨hshape, stateAgrees_step h.agrees hguard, fun p anchorState hnotice hstate => ?_⟩
  change recordNotice s.notice op (step s.wallet op).1 p = some anchorState at hnotice
  change HasState (step s.wallet op).2 p anchorState
  by_cases hupdate : ∃ anchorOutpoint noticed next, op = .updateAnchorState anchorOutpoint noticed ∧
      s.wallet.updateAnchorState anchorOutpoint noticed = .ok ((), next) ∧
      outpointOf anchorOutpoint = some p
  · obtain ⟨anchorOutpoint, noticed, next, rfl, hok, hp⟩ := hupdate
    have hstep : step s.wallet (.updateAnchorState anchorOutpoint noticed) =
        (.ok .anchorUpdated, next) := by
      simp [step, hok, replaceOnOk, mapReply, Except.map]
    rw [hstep] at hnotice ⊢
    simp only [recordNotice, hp, if_true, Option.some.injEq] at hnotice
    obtain ⟨⟨key, utxo, hu, hanchor⟩, -, hnext⟩ := updateAnchorState_spec hok
    obtain ⟨-, hc, hs⟩ := withAnchorState_spec utxo anchorOutpoint noticed
    refine ⟨key, utxo.withAnchorState anchorOutpoint noticed, ?_, ?_, ?_⟩
    · rw [hnext, hu]
      rfl
    · rw [hc, hanchor, hp]
    · rw [hs, if_pos hanchor, hnotice]
  · have hold : s.notice p = some anchorState := by
      rcases recordNotice_eq_some hnotice with hold | ⟨anchorOutpoint, accepted, rfl, hreply, hp⟩
      · exact hold
      · cases hok : s.wallet.updateAnchorState anchorOutpoint anchorState with
        | error e => simp [step, hok, replaceOnOk, mapReply, Except.map] at hreply
        | ok result => exact absurd ⟨_, _, result.2, rfl, hok, hp⟩ hupdate
    exact hasState_step h.shape (h.kept p anchorState hold hstate) hstate
      fun anchorOutpoint noticed next hop hok hp => hupdate ⟨_, _, next, hop, hok, hp⟩

/-- The states at each outpoint agree, and an outpoint that the latest notice called stale or
reorged adds to no balance, whatever the spelling. -/
structure AnchorsAgree (s : NoticeLog) : Prop where
  agrees : StateAgrees s.wallet
  rejected : ∀ p anchorState, s.notice p = some anchorState →
    anchorState = .reorged ∨ anchorState = .stale →
    ∀ utxo ∈ s.wallet.counted, outpointOf utxo.anchorOutpoint ≠ some p

theorem noticed_agree {s : NoticeLog} (h : Noticed s) : AnchorsAgree s := by
  refine ⟨h.agrees, fun p anchorState hnotice hrejected utxo hutxo hp => ?_⟩
  have hstate : anchorState ≠ .confirmed := by
    rintro rfl
    rcases hrejected with hrejected | hrejected <;> cases hrejected
  obtain ⟨key, other, hother, hanchor, rfl⟩ := h.kept p anchorState hnotice hstate
  obtain ⟨hmem, hstatus⟩ := List.mem_filter.mp hutxo
  obtain ⟨e, he, rfl⟩ := List.mem_map.mp hmem
  have hget := mem_toList_iff.mp he
  rw [decide_eq_true_eq, h.shape.status e.1 e.2 hget, fromAnchorState_spendable] at hstatus
  exact hstate ((h.agrees key e.1 other e.2 p hother hget hanchor hp).trans hstatus)

/-- From the empty wallet, the anchor states agree through every run in which no proof and no
notice disagrees with a UTXO at its outpoint. -/
theorem anchor_states_agree (ops : List WalletOp)
    (h : noticeMachine.Guarded (fun s op => ¬ Disagrees s.wallet op) ops) :
    AnchorsAgree (noticeMachine.run ops) := by
  have hinit : Noticed noticeMachine.start := by
    refine ⟨shape_default, fun k₁ k₂ u₁ u₂ p h₁ => ?_, fun p anchorState hnotice => ?_⟩
    · simp [noticeMachine, WalletState.default] at h₁
    · cases hnotice
  exact noticed_agree (noticeMachine.guarded_induction (fun s op => ¬ Disagrees s.wallet op)
    (fun _ s => Noticed s) hinit (fun _ _ _ h hguard => noticed_step h hguard) ops h)

/-- A proof is imported, its anchor reorged, and the proof imported under another spelling. -/
def reorgThenImport (proof respelled : ProofFile) : List WalletOp :=
  [.importVerifiedProof proof, .updateAnchorState proof.anchorOutpoint .reorged,
    .importVerifiedProof respelled]

theorem notice_step {proof : ProofFile} (h : Importable proof) {prepared : PreparedImport}
    (hp : Prepared proof none prepared) : ∃ next,
    step (holding proof prepared) (.updateAnchorState proof.anchorOutpoint .reorged) =
        (.ok .anchorUpdated, next) ∧
      WalletValid next ∧ next.proofs = (holding proof prepared).proofs ∧
      next.spendableUtxos[proofId proof]? = some ((prepared.utxo proof .confirmed).withAnchorState
        proof.anchorOutpoint .reorged) := by
  have hold : (holding proof prepared).spendableUtxos[proofId proof]? =
      some (prepared.utxo proof .confirmed) := by
    rw [holding_utxos hp]
    exact get_insert_self _ _ _
  obtain ⟨next, hnotice, hvalid⟩ : ∃ next, (holding proof prepared).updateAnchorState
      proof.anchorOutpoint .reorged = .ok ((), next) ∧ WalletValid next :=
    updateAnchorState_ok (holding_valid h hp) (by decide) hold rfl
  obtain ⟨-, hproofs, hutxos⟩ := updateAnchorState_spec hnotice
  refine ⟨next, ?_, hvalid, hproofs, ?_⟩
  · rw [step, hnotice]
    rfl
  · rw [hutxos, hold]
    rfl

theorem reorgThenImport_run {proof respelled : ProofFile} (h : Importable proof)
    (h' : Importable respelled) (hne : proofId proof ≠ proofId respelled) {p : ParsedOutpoint}
    (hanchor : outpointOf proof.anchorOutpoint = some p)
    (hanchor' : outpointOf respelled.anchorOutpoint = some p) :
    ∃ s utxo, s = noticeMachine.run (reorgThenImport proof respelled) ∧
      s.notice p = some .reorged ∧ utxo ∈ s.wallet.counted ∧
      outpointOf utxo.anchorOutpoint = some p ∧ ¬ StateAgrees s.wallet := by
  obtain ⟨prepared, hp, hfirst⟩ := import_step h
  obtain ⟨noticed, hsecond, hnoticed, hproofs, hkept⟩ := notice_step h hp
  obtain ⟨next, utxo, hthird, -, hnext, hanchor'', -, hstate, hstatus⟩ :=
    importBeside hnoticed h' (by rw [hproofs]; exact holding_fresh hp hne)
  have hrun : noticeMachine.run (reorgThenImport proof respelled) = ⟨next, fun p =>
      if outpointOf proof.anchorOutpoint = some p then some .reorged else none⟩ := by
    simp only [Machine.run, noticeMachine, reorgThenImport, List.foldl_cons, List.foldl_nil, hfirst,
      hsecond, hthird, recordNotice]
  have hnew : next.spendableUtxos[proofId respelled]? = some utxo := by
    rw [hnext]
    exact get_insert_self _ _ _
  refine ⟨_, utxo, hrun.symm, if_pos hanchor, ?_, hanchor'' ▸ hanchor', fun hagrees => ?_⟩
  · exact List.mem_filter.mpr ⟨List.mem_map.mpr ⟨_, mem_toList_iff.mpr hnew, rfl⟩, by simp [hstatus]⟩
  · obtain ⟨-, hc, hs⟩ := withAnchorState_spec (prepared.utxo proof .confirmed)
      proof.anchorOutpoint .reorged
    have hsame := hagrees _ _ _ _ p ((hnext ▸ get_insert_ne hne).trans hkept) hnew
      (by rw [hc]; exact hanchor) (hanchor'' ▸ hanchor')
    have hsame' : (ProofAnchorState.reorged) = utxo.anchorState := by
      rw [← hsame, hs]
      exact (if_pos rfl).symm
    rw [hstate] at hsame'
    cases hsame'

theorem respelled_counts_reorged : ∃ s utxo,
    s = noticeMachine.run
      (reorgThenImport (regtestProof regtestAnchor) (regtestProof respelledAnchor)) ∧
    s.notice regtestOutpoint = some .reorged ∧ utxo ∈ s.wallet.counted ∧
    outpointOf utxo.anchorOutpoint = some regtestOutpoint ∧ ¬ StateAgrees s.wallet :=
  reorgThenImport_run regtestAnchor_importable respelledAnchor_importable respelledAnchor_other
    regtestAnchor_parses respelledAnchor_parses

theorem reorg_guarded {proof : ProofFile} (h : Importable proof) :
    noticeMachine.Guarded (fun s op => ¬ Disagrees s.wallet op)
      [.importVerifiedProof proof, .updateAnchorState proof.anchorOutpoint .reorged] := by
  obtain ⟨prepared, hp, hfirst⟩ := import_step h
  have himport : noticeMachine.Guarded (fun s op => ¬ Disagrees s.wallet op)
      [.importVerifiedProof proof] := by
    refine Machine.guarded_concat (Machine.guarded_nil _ _) ?_
    rintro (⟨o, ho, -, -, key, utxo, hu, -⟩ | ⟨anchorOutpoint, anchorState, hop, -⟩)
    · obtain rfl := Option.some.inj ho
      simp [Offer.wallet, Offer.native, noticeMachine, WalletState.default] at hu
    · cases hop
  refine Machine.guarded_concat himport ?_
  rintro (⟨o, ho, -⟩ | ⟨anchorOutpoint, anchorState, hop, -, key, utxo, hu, -, hother, -⟩)
  · cases ho
  · cases hop
    have hrun : (noticeMachine.run [.importVerifiedProof proof]).wallet = holding proof prepared := by
      simp only [Machine.run, noticeMachine, List.foldl_cons, List.foldl_nil, hfirst]
    rw [hrun, holding_utxos hp] at hu
    rcases get_insert_eq_some hu with ⟨-, rfl⟩ | ⟨-, hu⟩
    · exact hother rfl
    · simp at hu

/-- A notice that names the only anchor in the wallet agrees with it. -/
theorem anchor_states_agree_notice : AnchorsAgree (noticeMachine.run
    [.importVerifiedProof (regtestProof regtestAnchor),
      .updateAnchorState (regtestProof regtestAnchor).anchorOutpoint .reorged]) :=
  anchor_states_agree [.importVerifiedProof (regtestProof regtestAnchor),
      .updateAnchorState (regtestProof regtestAnchor).anchorOutpoint .reorged]
    (reorg_guarded regtestAnchor_importable)

end TapLdk.WalletAnchor
