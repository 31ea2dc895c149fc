import Mathlib

/-! Two programs that talk over a pair of queues: a program as the tree of what it sends and
receives, the trips one program can make, and the runs of two together. Messages arrive in the
order they are sent, the order in which the programs move decides nothing, and every run ends. -/
namespace TapLdk.LibrarySessions

variable {μ ε α β : Type}

/-- A program up to its next message: it is done, or it sends, or it waits. -/
inductive Program (μ ε α : Type) where
  | done (result : Except ε α)
  | send (message : μ) (rest : Program μ ε α)
  | receive (rest : μ → Program μ ε α)

namespace Program

def bind : Program μ ε α → (α → Program μ ε β) → Program μ ε β
  | .done (.ok a), f => f a
  | .done (.error e), _ => .done (.error e)
  | .send m rest, f => .send m (bind rest f)
  | .receive rest, f => .receive fun m => bind (rest m) f

instance : Monad (Program μ ε) where
  pure a := .done (.ok a)
  bind := bind

@[simp] theorem done_ok_bind (a : α) (f : α → Program μ ε β) :
    (Program.done (.ok a) : Program μ ε α) >>= f = f a := rfl

@[simp] theorem done_error_bind (e : ε) (f : α → Program μ ε β) :
    (Program.done (.error e) : Program μ ε α) >>= f = .done (.error e) := rfl

theorem done_bind_of_ok {r : Except ε α} {a : α} (h : r = .ok a) (f : α → Program μ ε β) :
    (Program.done r : Program μ ε α) >>= f = f a := by
  rw [h, done_ok_bind]

@[simp] theorem send_bind (m : μ) (p : Program μ ε α) (f : α → Program μ ε β) :
    Program.send m p >>= f = .send m (p >>= f) := rfl

@[simp] theorem receive_bind (p : μ → Program μ ε α) (f : α → Program μ ε β) :
    Program.receive p >>= f = .receive fun m => p m >>= f := rfl

theorem pure_eq (a : α) : (pure a : Program μ ε α) = .done (.ok a) := rfl

theorem bind_pure' (p : Program μ ε α) : p >>= pure = p := by
  induction p with
  | done r => cases r <;> rfl
  | send m p ih => rw [send_bind, ih]
  | receive p ih =>
    rw [receive_bind]
    exact congrArg _ (funext ih)

theorem bind_bind {γ : Type} (p : Program μ ε α) (f : α → Program μ ε β)
    (g : β → Program μ ε γ) : p >>= f >>= g = p >>= fun a => f a >>= g := by
  induction p with
  | done r => cases r <;> rfl
  | send m p ih => rw [send_bind, send_bind, send_bind, ih]
  | receive p ih =>
    rw [receive_bind, receive_bind, receive_bind]
    exact congrArg _ (funext ih)

instance : LawfulMonad (Program μ ε) :=
  .mk' _ bind_pure' (fun _ _ => rfl) fun p f g => bind_bind p f g

/-- All that a program may send has a property. -/
inductive Sends (P : μ → Prop) : Program μ ε α → Prop
  | done (r : Except ε α) : Sends P (.done r)
  | send {m : μ} {p : Program μ ε α} (hm : P m) (h : Sends P p) : Sends P (.send m p)
  | receive {p : μ → Program μ ε α} (h : ∀ m, Sends P (p m)) : Sends P (.receive p)

theorem Sends.bind {P : μ → Prop} {p : Program μ ε α} {f : α → Program μ ε β} (hp : Sends P p)
    (hf : ∀ a, Sends P (f a)) : Sends P (p >>= f) := by
  induction hp with
  | done r =>
    cases r with
    | ok a => exact hf a
    | error e => exact .done _
  | send hm _ ih => exact .send hm ih
  | receive _ ih => exact .receive ih

end Program

/-- A program receives some messages and sends some, and goes on as another. -/
inductive Trip : Program μ ε α → List μ → List μ → Program μ ε α → Prop
  | refl (p : Program μ ε α) : Trip p [] [] p
  | send {m : μ} {p q : Program μ ε α} {ins outs : List μ} (h : Trip p ins outs q) :
    Trip (.send m p) ins (m :: outs) q
  | receive {m : μ} {p : μ → Program μ ε α} {q : Program μ ε α} {ins outs : List μ}
    (h : Trip (p m) ins outs q) : Trip (.receive p) (m :: ins) outs q

/-- A program comes to an end with a value. -/
def Finishes (p : Program μ ε α) (ins outs : List μ) (a : α) : Prop :=
  Trip p ins outs (.done (.ok a))

namespace Trip

theorem trans {p q r : Program μ ε α} {ins ins' outs outs' : List μ} (h : Trip p ins outs q)
    (h' : Trip q ins' outs' r) : Trip p (ins ++ ins') (outs ++ outs') r := by
  induction h with
  | refl p => exact h'
  | send _ ih => exact .send (ih h')
  | receive _ ih => exact .receive (ih h')

theorem sent {p q : Program μ ε α} {m : μ} {ins outs : List μ} (h : Trip p ins outs (.send m q)) :
    Trip p ins (outs ++ [m]) q := by
  simpa using h.trans (.send (.refl q))

theorem received {p : Program μ ε α} {q : μ → Program μ ε α} {ins outs : List μ}
    (h : Trip p ins outs (.receive q)) (m : μ) : Trip p (ins ++ [m]) outs (q m) := by
  simpa using h.trans (.receive (.refl (q m)))

theorem of_done {r : Except ε α} {q : Program μ ε α} {ins outs : List μ}
    (h : Trip (.done r) ins outs q) : ins = [] ∧ outs = [] ∧ q = .done r := by
  cases h
  exact ⟨rfl, rfl, rfl⟩

theorem of_send {m : μ} {p q : Program μ ε α} {ins outs : List μ}
    (h : Trip (.send m p) ins outs q) :
    outs = [] ∨ ∃ rest, outs = m :: rest ∧ Trip p ins rest q := by
  cases h with
  | refl => exact .inl rfl
  | send h => exact .inr ⟨_, rfl, h⟩

/-- A trip of one program after another stays in the first, or finishes it and goes on in the
second. -/
theorem of_bind {p : Program μ ε α} {f : α → Program μ ε β} {q : Program μ ε β}
    {ins outs : List μ} (h : Trip (p >>= f) ins outs q) :
    (∃ p', Trip p ins outs p' ∧ q = p' >>= f) ∨ ∃ a ins₁ ins₂ outs₁ outs₂, ins = ins₁ ++ ins₂ ∧
      outs = outs₁ ++ outs₂ ∧ Finishes p ins₁ outs₁ a ∧ Trip (f a) ins₂ outs₂ q := by
  induction p generalizing ins outs with
  | done r =>
    cases r with
    | ok a => exact .inr ⟨a, [], ins, [], outs, rfl, rfl, .refl _, h⟩
    | error e =>
      obtain ⟨rfl, rfl, rfl⟩ := of_done h
      exact .inl ⟨.done (.error e), .refl _, rfl⟩
  | send m p ih =>
    rw [Program.send_bind] at h
    cases h with
    | refl => exact .inl ⟨.send m p, .refl _, rfl⟩
    | send h =>
      rcases ih h with ⟨p', hp, rfl⟩ | ⟨a, ins₁, ins₂, outs₁, outs₂, rfl, rfl, hp, hf⟩
      · exact .inl ⟨p', .send hp, rfl⟩
      · exact .inr ⟨a, ins₁, ins₂, m :: outs₁, outs₂, rfl, rfl, .send hp, hf⟩
  | receive p ih =>
    rw [Program.receive_bind] at h
    cases h with
    | refl => exact .inl ⟨.receive p, .refl _, rfl⟩
    | receive h =>
      rcases ih _ h with ⟨p', hp, rfl⟩ | ⟨a, ins₁, ins₂, outs₁, outs₂, rfl, rfl, hp, hf⟩
      · exact .inl ⟨p', .receive hp, rfl⟩
      · exact .inr ⟨a, _ :: ins₁, ins₂, outs₁, outs₂, rfl, rfl, .receive hp, hf⟩

theorem bind {p : Program μ ε α} {f : α → Program μ ε β} {q : Program μ ε β} {a : α}
    {ins ins' outs outs' : List μ} (hp : Finishes p ins outs a) (hf : Trip (f a) ins' outs' q) :
    Trip (p >>= f) (ins ++ ins') (outs ++ outs') q := by
  induction p generalizing ins outs with
  | done r =>
    obtain ⟨rfl, rfl, heq⟩ := of_done hp
    obtain rfl := Program.done.inj heq
    exact hf
  | send m p ih =>
    cases hp with
    | send hp => exact .send (ih hp)
  | receive p ih =>
    cases hp with
    | receive hp => exact .receive (ih _ hp)

theorem sends {P : μ → Prop} {p q : Program μ ε α} {ins outs : List μ} (h : Trip p ins outs q)
    (hp : p.Sends P) : ∀ m ∈ outs, P m := by
  induction h with
  | refl p => simp
  | send _ ih =>
    cases hp with
    | send hm hp => exact List.forall_mem_cons.mpr ⟨hm, ih hp⟩
  | receive _ ih =>
    cases hp with
    | receive hp => exact ih (hp _)

end Trip

@[simp] theorem finishes_done {r : Except ε α} {ins outs : List μ} {a : α} :
    Finishes (.done r) ins outs a ↔ r = .ok a ∧ ins = [] ∧ outs = [] := by
  constructor
  · intro h
    obtain ⟨rfl, rfl, heq⟩ := Trip.of_done h
    exact ⟨(Program.done.inj heq).symm, rfl, rfl⟩
  · rintro ⟨rfl, rfl, rfl⟩
    exact .refl _

@[simp] theorem finishes_send {m : μ} {p : Program μ ε α} {ins outs : List μ} {a : α} :
    Finishes (.send m p) ins outs a ↔ ∃ rest, outs = m :: rest ∧ Finishes p ins rest a := by
  constructor
  · intro h
    cases h with
    | send h => exact ⟨_, rfl, h⟩
  · rintro ⟨rest, rfl, h⟩
    exact .send h

@[simp] theorem finishes_receive {p : μ → Program μ ε α} {ins outs : List μ} {a : α} :
    Finishes (.receive p) ins outs a ↔ ∃ m rest, ins = m :: rest ∧ Finishes (p m) rest outs a := by
  constructor
  · intro h
    cases h with
    | receive h => exact ⟨_, _, rfl, h⟩
  · rintro ⟨m, rest, rfl, h⟩
    exact .receive h

@[simp] theorem finishes_pure {b a : α} {ins outs : List μ} :
    Finishes (pure b : Program μ ε α) ins outs a ↔ b = a ∧ ins = [] ∧ outs = [] := by
  rw [Program.pure_eq, finishes_done, Except.ok.injEq]

theorem finishes_done_bind {r : Except ε α} {f : α → Program μ ε β} {ins outs : List μ} {b : β} :
    Finishes (.done r >>= f) ins outs b ↔ ∃ a, r = .ok a ∧ Finishes (f a) ins outs b := by
  cases r <;> simp

theorem finishes_bind {p : Program μ ε α} {f : α → Program μ ε β} {ins outs : List μ} {b : β} :
    Finishes (p >>= f) ins outs b ↔ ∃ a ins₁ ins₂ outs₁ outs₂, ins = ins₁ ++ ins₂ ∧
      outs = outs₁ ++ outs₂ ∧ Finishes p ins₁ outs₁ a ∧ Finishes (f a) ins₂ outs₂ b := by
  constructor
  · intro h
    rcases Trip.of_bind h with ⟨p', hp, heq⟩ | h
    · cases p' with
      | done r =>
        cases r with
        | ok a =>
          refine ⟨a, ins, [], outs, [], by simp, by simp, hp, ?_⟩
          rw [Program.done_ok_bind] at heq
          exact heq ▸ .refl _
        | error e => cases heq
      | send m p' => cases heq
      | receive p' => cases heq
    · exact h
  · rintro ⟨a, ins₁, ins₂, outs₁, outs₂, rfl, rfl, hp, hf⟩
    exact Trip.bind hp hf

structure Net (μ ε α β : Type) where
  left : Program μ ε α
  right : Program μ ε β
  toRight : List μ
  toLeft : List μ

namespace Net

def start (p : Program μ ε α) (q : Program μ ε β) : Net μ ε α β := ⟨p, q, [], []⟩

/-- One of the programs sends a message, or receives the next one of its queue. -/
inductive Step : Net μ ε α β → Net μ ε α β → Prop
  | sendLeft (m : μ) (p : Program μ ε α) (q : Program μ ε β) (r l : List μ) :
    Step ⟨.send m p, q, r, l⟩ ⟨p, q, r ++ [m], l⟩
  | receiveLeft (m : μ) (p : μ → Program μ ε α) (q : Program μ ε β) (r l : List μ) :
    Step ⟨.receive p, q, r, m :: l⟩ ⟨p m, q, r, l⟩
  | sendRight (m : μ) (p : Program μ ε α) (q : Program μ ε β) (r l : List μ) :
    Step ⟨p, .send m q, r, l⟩ ⟨p, q, r, l ++ [m]⟩
  | receiveRight (m : μ) (p : Program μ ε α) (q : μ → Program μ ε β) (r l : List μ) :
    Step ⟨p, .receive q, m :: r, l⟩ ⟨p, q m, r, l⟩

/-- One of the programs gives up instead of sending or receiving. -/
inductive Cut : Net μ ε α β → Net μ ε α β → Prop
  | sendLeft (e : ε) (m : μ) (p : Program μ ε α) (q : Program μ ε β) (r l : List μ) :
    Cut ⟨.send m p, q, r, l⟩ ⟨.done (.error e), q, r, l⟩
  | receiveLeft (e : ε) (p : μ → Program μ ε α) (q : Program μ ε β) (r l : List μ) :
    Cut ⟨.receive p, q, r, l⟩ ⟨.done (.error e), q, r, l⟩
  | sendRight (e : ε) (m : μ) (p : Program μ ε α) (q : Program μ ε β) (r l : List μ) :
    Cut ⟨p, .send m q, r, l⟩ ⟨p, .done (.error e), r, l⟩
  | receiveRight (e : ε) (p : Program μ ε α) (q : μ → Program μ ε β) (r l : List μ) :
    Cut ⟨p, .receive q, r, l⟩ ⟨p, .done (.error e), r, l⟩

/-- The nets that steps lead to. -/
abbrev Runs (s t : Net μ ε α β) : Prop := Relation.ReflTransGen Step s t

/-- The nets that steps and programs giving up lead to. -/
abbrev RunsOrCuts (s t : Net μ ε α β) : Prop :=
  Relation.ReflTransGen (fun s t => Step s t ∨ Cut s t) s t

theorem runs_orCuts {s t : Net μ ε α β} (h : Runs s t) : RunsOrCuts s t :=
  Relation.ReflTransGen.mono (fun _ _ => Or.inl) _ _ h

/-- The same, with all that the left program sends on the way. -/
inductive RunsWriting (s : Net μ ε α β) : List μ → Net μ ε α β → Prop
  | refl : RunsWriting s [] s
  | sendLeft {outs : List μ} {m : μ} {p : Program μ ε α} {q : Program μ ε β} {r l : List μ}
      (h : RunsWriting s outs ⟨.send m p, q, r, l⟩) :
      RunsWriting s (outs ++ [m]) ⟨p, q, r ++ [m], l⟩
  | receiveLeft {outs : List μ} {m : μ} {p : μ → Program μ ε α} {q : Program μ ε β} {r l : List μ}
      (h : RunsWriting s outs ⟨.receive p, q, r, m :: l⟩) : RunsWriting s outs ⟨p m, q, r, l⟩
  | sendRight {outs : List μ} {m : μ} {p : Program μ ε α} {q : Program μ ε β} {r l : List μ}
      (h : RunsWriting s outs ⟨p, .send m q, r, l⟩) : RunsWriting s outs ⟨p, q, r, l ++ [m]⟩
  | receiveRight {outs : List μ} {m : μ} {p : Program μ ε α} {q : μ → Program μ ε β} {r l : List μ}
      (h : RunsWriting s outs ⟨p, .receive q, m :: r, l⟩) : RunsWriting s outs ⟨p, q m, r, l⟩
  | cut {outs : List μ} {t u : Net μ ε α β} (h : RunsWriting s outs t) (hcut : Cut t u) :
      RunsWriting s outs u

theorem RunsWriting.step {s t u : Net μ ε α β} {outs : List μ} (h : RunsWriting s outs t)
    (hstep : Step t u) : ∃ outs', RunsWriting s outs' u := by
  cases hstep with
  | sendLeft => exact ⟨_, .sendLeft h⟩
  | receiveLeft => exact ⟨_, .receiveLeft h⟩
  | sendRight => exact ⟨_, .sendRight h⟩
  | receiveRight => exact ⟨_, .receiveRight h⟩

/-- Every run sends something, if only nothing. -/
theorem exists_runsWriting {s t : Net μ ε α β} (h : RunsOrCuts s t) :
    ∃ outs, RunsWriting s outs t := by
  induction h with
  | refl => exact ⟨[], .refl⟩
  | tail _ hnext ih =>
    obtain ⟨outs, hruns⟩ := ih
    rcases hnext with hstep | hcut
    · exact hruns.step hstep
    · exact ⟨outs, hruns.cut hcut⟩

/-- A program is where a trip leads, or has given up there before it was done. -/
def At (p now : Program μ ε α) : Prop :=
  now = p ∨ (∃ e, now = .done (.error e)) ∧ ∀ r, p ≠ .done r

theorem at_ok {p : Program μ ε α} {a : α} (h : At p (.done (.ok a))) : p = .done (.ok a) := by
  rcases h with rfl | ⟨⟨e, he⟩, -⟩
  · rfl
  · cases he

theorem at_done {p : Program μ ε α} {r : Except ε α} (h : At (.done r) p) : p = .done r := by
  rcases h with rfl | ⟨-, hr⟩
  · rfl
  · exact absurd rfl (hr r)

theorem at_send {p q : Program μ ε α} {m : μ} (h : At p (.send m q)) : p = .send m q := by
  rcases h with rfl | ⟨⟨e, he⟩, -⟩
  · rfl
  · cases he

theorem at_receive {p : Program μ ε α} {q : μ → Program μ ε α} (h : At p (.receive q)) :
    p = .receive q := by
  rcases h with rfl | ⟨⟨e, he⟩, -⟩
  · rfl
  · cases he

/-- What both programs have received and sent, `outs` by the left one: messages arrive in order,
none is lost, and those sent but not received are in the queues. -/
def History (p : Program μ ε α) (q : Program μ ε β) (outs : List μ) (s : Net μ ε α β) : Prop :=
  ∃ insL insR outsR p' q', Trip p insL outs p' ∧ Trip q insR outsR q' ∧
    At p' s.left ∧ At q' s.right ∧ outs = insR ++ s.toRight ∧ outsR = insL ++ s.toLeft

theorem history_cut {p : Program μ ε α} {q : Program μ ε β} {outs : List μ} {s t : Net μ ε α β}
    (h : History p q outs s) (hcut : Cut s t) : History p q outs t := by
  obtain ⟨insL, insR, outsR, p', q', hp, hq, hleft, hright, hr, hl⟩ := h
  cases hcut with
  | sendLeft e =>
    obtain rfl := at_send hleft
    exact ⟨insL, insR, outsR, _, q', hp, hq, .inr ⟨⟨e, rfl⟩, by simp⟩, hright, hr, hl⟩
  | receiveLeft e =>
    obtain rfl := at_receive hleft
    exact ⟨insL, insR, outsR, _, q', hp, hq, .inr ⟨⟨e, rfl⟩, by simp⟩, hright, hr, hl⟩
  | sendRight e =>
    obtain rfl := at_send hright
    exact ⟨insL, insR, outsR, p', _, hp, hq, hleft, .inr ⟨⟨e, rfl⟩, by simp⟩, hr, hl⟩
  | receiveRight e =>
    obtain rfl := at_receive hright
    exact ⟨insL, insR, outsR, p', _, hp, hq, hleft, .inr ⟨⟨e, rfl⟩, by simp⟩, hr, hl⟩

/-- Over every run of two programs, whoever moves and whoever gives up. -/
theorem history_runs {p : Program μ ε α} {q : Program μ ε β} {outs : List μ} {s : Net μ ε α β}
    (h : RunsWriting (start p q) outs s) : History p q outs s := by
  induction h with
  | refl => exact ⟨[], [], [], p, q, .refl _, .refl _, .inl rfl, .inl rfl, rfl, rfl⟩
  | @sendLeft _ _ p₁ _ _ _ _ ih =>
    obtain ⟨insL, insR, outsR, p', q', hp, hq, hleft, hright, rfl, rfl⟩ := ih
    obtain rfl := at_send hleft
    exact ⟨insL, insR, _, p₁, q', hp.sent, hq, .inl rfl, hright, by simp, rfl⟩
  | @receiveLeft _ m p₁ _ _ _ _ ih =>
    obtain ⟨insL, insR, outsR, p', q', hp, hq, hleft, hright, rfl, rfl⟩ := ih
    obtain rfl := at_receive hleft
    exact ⟨_, insR, _, p₁ m, q', hp.received m, hq, .inl rfl, hright, rfl, by simp⟩
  | @sendRight _ _ _ q₁ _ _ _ ih =>
    obtain ⟨insL, insR, outsR, p', q', hp, hq, hleft, hright, rfl, rfl⟩ := ih
    obtain rfl := at_send hright
    exact ⟨insL, insR, _, p', q₁, hp, hq.sent, hleft, .inl rfl, rfl, by simp⟩
  | @receiveRight _ m _ q₁ _ _ _ ih =>
    obtain ⟨insL, insR, outsR, p', q', hp, hq, hleft, hright, rfl, rfl⟩ := ih
    obtain rfl := at_receive hright
    exact ⟨insL, _, _, p', q₁ m, hp, hq.received m, hleft, .inl rfl, by simp, rfl⟩
  | cut _ hcut ih => exact history_cut ih hcut

theorem runs_toRight {m : μ} {p : Program μ ε α} {q : μ → Program μ ε β} :
    Runs ⟨.send m p, .receive q, [], []⟩ ⟨p, q m, [], []⟩ :=
  .head (.sendLeft m p (.receive q) [] []) (.single (.receiveRight m p q [] []))

theorem runs_toLeft {m : μ} {p : μ → Program μ ε α} {q : Program μ ε β} :
    Runs ⟨.receive p, .send m q, [], []⟩ ⟨p m, q, [], []⟩ :=
  .head (.sendRight m (.receive p) q [] []) (.single (.receiveLeft m p q [] []))

/-- Two different steps can be taken one after the other, in both orders. -/
theorem step_diamond {s t u : Net μ ε α β} (ht : Step s t) (hu : Step s u) :
    t = u ∨ ∃ v, Step t v ∧ Step u v := by
  cases ht with
  | sendLeft m p q r l =>
    cases hu with
    | sendLeft => exact .inl rfl
    | sendRight m' _ q' =>
      exact .inr ⟨_, .sendRight m' p q' (r ++ [m]) l, .sendLeft m p q' r (l ++ [m'])⟩
    | receiveRight m' _ q' r' =>
      exact .inr ⟨_, .receiveRight m' p q' (r' ++ [m]) l, .sendLeft m p (q' m') r' l⟩
  | receiveLeft m p q r l =>
    cases hu with
    | receiveLeft => exact .inl rfl
    | sendRight m' _ q' =>
      exact .inr ⟨_, .sendRight m' (p m) q' r l, .receiveLeft m p q' r (l ++ [m'])⟩
    | receiveRight m' _ q' r' =>
      exact .inr ⟨_, .receiveRight m' (p m) q' r' l, .receiveLeft m p (q' m') r' l⟩
  | sendRight m p q r l =>
    cases hu with
    | sendRight => exact .inl rfl
    | sendLeft m' p' =>
      exact .inr ⟨_, .sendLeft m' p' q r (l ++ [m]), .sendRight m p' q (r ++ [m']) l⟩
    | receiveLeft m' p' _ _ l' =>
      exact .inr ⟨_, .receiveLeft m' p' q r (l' ++ [m]), .sendRight m (p' m') q r l'⟩
  | receiveRight m p q r l =>
    cases hu with
    | receiveRight => exact .inl rfl
    | sendLeft m' p' =>
      exact .inr ⟨_, .sendLeft m' p' (q m) r l, .receiveRight m p' q (r ++ [m']) l⟩
    | receiveLeft m' p' _ _ l' =>
      exact .inr ⟨_, .receiveLeft m' p' (q m) r l', .receiveRight m (p' m') q r l'⟩

/-- A net in which nobody can move. -/
def Still (s : Net μ ε α β) : Prop := ∀ t, ¬ Step s t

/-- If one run comes to a standstill, every run can be continued to the same one. -/
theorem runs_to_still {s t final : Net μ ε α β} (hfinal : Runs s final) (hstill : Still final)
    (ht : Runs s t) : Runs t final := by
  have hlocal : ∀ a b c : Net μ ε α β, Step a b → Step a c →
      ∃ d, Relation.ReflGen Step b d ∧ Runs c d := by
    intro a b c hb hc
    rcases step_diamond hb hc with rfl | ⟨d, hbd, hcd⟩
    · exact ⟨b, .refl, .refl⟩
    · exact ⟨d, .single hbd, .single hcd⟩
  obtain ⟨d, htd, hfd⟩ := Relation.church_rosser hlocal ht hfinal
  rcases Relation.ReflTransGen.cases_head hfd with rfl | ⟨e, hstep, -⟩
  · exact htd
  · exact absurd hstep (hstill e)

/-- No run goes on for ever. -/
theorem step_wellFounded : WellFounded fun t s : Net μ ε α β => Step s t := by
  have hacc (p : Program μ ε α) : ∀ (q : Program μ ε β) (r l : List μ),
      Acc (fun t s : Net μ ε α β => Step s t) ⟨p, q, r, l⟩ := by
    induction p with
    | done e =>
      intro q
      induction q with
      | done e' => exact fun r l => ⟨_, fun t ht => by cases ht⟩
      | send m q ih => exact fun r l => ⟨_, fun t ht => by cases ht; exact ih _ _⟩
      | receive q ih => exact fun r l => ⟨_, fun t ht => by cases ht; exact ih _ _ _⟩
    | send m p ihp =>
      intro q
      induction q with
      | done e' => exact fun r l => ⟨_, fun t ht => by cases ht; exact ihp _ _ _⟩
      | send m q ih =>
        refine fun r l => ⟨_, fun t ht => ?_⟩
        cases ht with
        | sendLeft => exact ihp _ _ _
        | sendRight => exact ih _ _
      | receive q ih =>
        refine fun r l => ⟨_, fun t ht => ?_⟩
        cases ht with
        | sendLeft => exact ihp _ _ _
        | receiveRight => exact ih _ _ _
    | receive p ihp =>
      intro q
      induction q with
      | done e' => exact fun r l => ⟨_, fun t ht => by cases ht; exact ihp _ _ _ _⟩
      | send m q ih =>
        refine fun r l => ⟨_, fun t ht => ?_⟩
        cases ht with
        | receiveLeft => exact ihp _ _ _ _
        | sendRight => exact ih _ _
      | receive q ih =>
        refine fun r l => ⟨_, fun t ht => ?_⟩
        cases ht with
        | receiveLeft => exact ihp _ _ _ _
        | receiveRight => exact ih _ _ _
  exact ⟨fun s => hacc s.left s.right s.toRight s.toLeft⟩

theorem exists_still (s : Net μ ε α β) : ∃ t, Runs s t ∧ Still t := by
  induction s using step_wellFounded.induction with
  | _ s ih =>
    by_cases hstill : Still s
    · exact ⟨s, .refl, hstill⟩
    · obtain ⟨t, hstep⟩ := not_forall_not.mp hstill
      obtain ⟨u, hruns, hu⟩ := ih t hstep
      exact ⟨u, .head hstep hruns, hu⟩

theorem still_done (r : Except ε α) (r' : Except ε β) (toRight toLeft : List μ) :
    Still ⟨.done r, .done r', toRight, toLeft⟩ := by
  intro t ht
  cases ht

/-- If one run ends with both programs done, every run that ends does so there. -/
theorem eq_of_still {s t : Net μ ε α β} {r : Except ε α} {r' : Except ε β}
    {toRight toLeft : List μ} (hfinal : Runs s ⟨.done r, .done r', toRight, toLeft⟩)
    (ht : Runs s t) (hstill : Still t) : t = ⟨.done r, .done r', toRight, toLeft⟩ := by
  have hruns := runs_to_still hfinal (still_done r r' toRight toLeft) ht
  rcases Relation.ReflTransGen.cases_head hruns with rfl | ⟨u, hstep, -⟩
  · rfl
  · exact absurd hstep (hstill u)

end Net

end TapLdk.LibrarySessions
