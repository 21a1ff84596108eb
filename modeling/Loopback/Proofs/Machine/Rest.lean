import Loopback.Proofs.Machine.Progress
import Loopback.Proofs.Machine.Rule

/-!
# Coming to rest

A machine is at rest where every task has ended or sleeps without a deadline: then nothing but time moves. It
comes to rest if it goes on to move as long as it can and, whatever the moves are and however much time passes
between them, there is an end to them.

What a program comes to that is left alone on a world is told without the machine: its actions are taken one by
one, at any later time, and a wait is given up at any time from its deadline on. The rules follow the ways in
which programs are built.
-/

namespace Loopback

variable {ε δ α β : Type}

/-- Only time has passed. -/
def World.Later (w w' : World) : Prop := ∃ nanos, w' = { w with now := w.now + nanos }

namespace World.Later

variable {w w' w'' : World}

/-- No time may have passed. -/
theorem refl (w : World) : w.Later w := ⟨0, rfl⟩

/-- Time passes, and then more of it. -/
theorem trans (h : w.Later w') (h' : w'.Later w'') : w.Later w'' := by
  obtain ⟨nanos, rfl⟩ := h
  obtain ⟨more, rfl⟩ := h'
  exact ⟨nanos + more, by rw [Nat.add_assoc]⟩

/-- Time leaves the channel as it is. -/
theorem channel_eq (h : w.Later w') : w'.channel = w.channel := by
  obtain ⟨nanos, rfl⟩ := h
  rfl

/-- Time leaves the journal as it is. -/
theorem journal_eq (h : w.Later w') : w'.journal = w.journal := by
  obtain ⟨nanos, rfl⟩ := h
  rfl

/-- Time does not go back. -/
theorem now_le (h : w.Later w') : w.now ≤ w'.now := by
  obtain ⟨nanos, rfl⟩ := h
  exact Nat.le_add_right _ _

end World.Later

namespace Task

/-- Whether a task has ended or sleeps without a deadline. -/
def halted : Task ε α → Bool
  | .running program => program.outcome?.isSome
  | .asleep _ action _ => action.deadline?.isNone
  | _ => false

/-- A task that has halted rests. -/
theorem resting_of_halted {t : Task ε α} (h : t.halted = true) : t.Resting := by
  cases t with
  | running => exact h
  | asleep => trivial
  | _ => cases h

end Task

namespace Machine

/-- Where every task has ended or sleeps without a deadline, nothing but time moves. -/
theorem eq_tick_of_halted {m m' : Machine ε α} {move : Move} (hhalted : ∀ t ∈ m.tasks, t.halted = true)
    (hstep : m.step move = some m') : ∃ nanos, move = .tick nanos := by
  have halted : ∀ {task : Nat} {t : Task ε α}, m.tasks[task]? = some t → t.halted = true :=
    fun htask => hhalted _ (List.mem_of_getElem? htask)
  have hchange := change_of_step hstep
  generalize m.turn? move = turn? at hchange
  cases hchange with
  | answered htask hrun => rcases htask with htask | htask <;> cases halted htask
  | layDown htask hrun => cases halted htask
  | gaveUp htask hrun => cases halted htask
  | unheard htask hnobody => cases halted htask
  | calledAll htask => cases halted htask
  | woke hcaller hsleeper hpost => cases halted hcaller
  | expired htask hdeadline hpast =>
    have hnone := halted htask
    rw [Task.halted, hdeadline] at hnone
    cases hnone
  | @ticked nanos => exact ⟨nanos, rfl⟩

/-- In a machine whose tasks have all halted, nothing happens but that time passes. -/
theorem Run.halted {start m : Machine ε α} {moves : List Move} {turns : List Turn}
    (hrun : Run start moves turns m) (hhalted : ∀ t ∈ start.tasks, t.halted = true) :
    turns = [] ∧ m.tasks = start.tasks := by
  induction hrun with
  | start => exact ⟨rfl, rfl⟩
  | @step moves turns m m' move _ hstep ih =>
    obtain ⟨rfl, htasks⟩ := ih
    obtain ⟨nanos, rfl⟩ := eq_tick_of_halted (htasks ▸ hhalted) hstep
    obtain rfl := Option.some.inj hstep
    exact ⟨rfl, htasks⟩

/-- Whatever moves a machine makes and however time passes in between, it can always go on to move sooner or
later until it is at rest; there is an end to its moves; and once it is at rest this holds of it. -/
inductive ComesToRest (holds : Machine ε α → Prop) : Machine ε α → Prop where
  | rest {m : Machine ε α} (hhalted : ∀ t ∈ m.tasks, t.halted = true) (hholds : ∀ nanos, holds (m.later nanos)) :
      ComesToRest holds m
  | move {m : Machine ε α}
      (hmoves : ∀ nanos, ∃ more move m', (m.later (nanos + more)).step move = some m' ∧ move.isTick = false)
      (hnext : ∀ nanos move m', (m.later nanos).step move = some m' → move.isTick = false → ComesToRest holds m') :
      ComesToRest holds m

section rest

variable {holds : Machine ε α → Prop} {start m : Machine ε α} {moves : List Move} {turns : List Turn}

/-- What is later by some time, and then by more, is later by both. -/
theorem later_later (m : Machine ε α) (nanos more : Nat) : (m.later nanos).later more = m.later (nanos + more) := by
  simp only [later, Nat.add_assoc]

/-- A machine comes to rest whatever time passes first. -/
theorem ComesToRest.later (h : m.ComesToRest holds) (nanos : Nat) : (m.later nanos).ComesToRest holds := by
  cases h with
  | rest hhalted hholds => exact .rest hhalted fun more => later_later m nanos more ▸ hholds (nanos + more)
  | move hmoves hnext =>
    refine .move (fun more => ?_) fun more move m' hstep => ?_
    · obtain ⟨rest, move, m', hstep, hmove⟩ := hmoves (nanos + more)
      exact ⟨rest, move, m', by rwa [later_later, ← Nat.add_assoc], hmove⟩
    · rw [later_later] at hstep
      exact hnext (nanos + more) move m' hstep

/-- What a machine comes to, it still comes to after any of its runs. -/
theorem ComesToRest.run (h : start.ComesToRest holds) (hrun : Run start moves turns m) : m.ComesToRest holds := by
  induction hrun with
  | start => exact h
  | @step moves turns m m' move _ hstep ih =>
    cases hmove : move.isTick with
    | true =>
      cases move with
      | tick nanos =>
        obtain rfl := Option.some.inj hstep
        exact ih.later nanos
      | _ => cases hmove
    | false =>
      cases ih with
      | rest hhalted =>
        obtain ⟨nanos, rfl⟩ := eq_tick_of_halted hhalted hstep
        cases hmove
      | move hmoves hnext => exact hnext 0 move m' hstep hmove

/-- What a machine comes to at rest may be told more weakly. -/
theorem ComesToRest.mono {holds' : Machine ε α → Prop} (h : start.ComesToRest holds)
    (himp : ∀ m, holds m → holds' m) : start.ComesToRest holds' := by
  induction h with
  | rest hhalted hholds => exact .rest hhalted fun nanos => himp _ (hholds nanos)
  | move hmoves _ ih => exact .move hmoves ih

/-- A run that has come to rest is where it had to come to. -/
theorem ComesToRest.holds_of_run (h : start.ComesToRest holds) (hrun : Run start moves turns m)
    (hhalted : ∀ t ∈ m.tasks, t.halted = true) : holds m := by
  cases h.run hrun with
  | rest _ hholds => exact hholds 0
  | move hmoves hnext =>
    obtain ⟨more, move, m', hstep, hmove⟩ := hmoves 0
    obtain ⟨nanos, rfl⟩ := eq_tick_of_halted (m := m.later (0 + more)) hhalted hstep
    cases hmove

end rest

/-- Where the only task of a machine stands once it is at rest: it has ended, or still has something left to do
that it waits for. -/
inductive Rests (ended : Outcome ε α → World → Prop) (waits : Program ε α → World → Prop) :
    Machine ε α → Prop where
  | ended {w : World} {p : Program ε α} {outcome : Outcome ε α} {tickets : Nat} (hp : p.outcome? = some outcome)
      (h : ended outcome w) : Rests ended waits ⟨w, [.running p], tickets⟩
  | asleep {w : World} {ticket tickets : Nat} {action : Action} {next : action.Reply → Program ε α}
      (h : waits (.act action next) w) : Rests ended waits ⟨w, [.asleep ticket action next], tickets⟩

end Machine

namespace Outcome

/-- The outcome with its failure told in other terms. -/
def mapFailure (f : ε → δ) : Outcome ε α → Outcome δ α
  | .ok result => .ok result
  | .failed failure => .failed (f failure)
  | .aborted message => .aborted message

/-- The outcome where a failure is a result. -/
def attempt : Outcome ε α → Outcome δ (Except ε α)
  | .ok result => .ok (.ok result)
  | .failed failure => .ok (.error failure)
  | .aborted message => .aborted message

end Outcome

namespace Program

/-- Left alone on a world, a program comes to an end or to a wait without end, as told. -/
def LeftAlone (ended : Outcome ε α → World → Prop) (waits : Program ε α → World → Prop) (p : Program ε α)
    (w : World) : Prop :=
  (Machine.ofPrograms w [p]).ComesToRest (Machine.Rests ended waits)

/-- What comes of a program that is left alone may be told more weakly. -/
theorem LeftAlone.mono {ended ended' : Outcome ε α → World → Prop} {waits waits' : Program ε α → World → Prop}
    {p : Program ε α} {w : World} (h : p.LeftAlone ended waits w)
    (hended : ∀ outcome w, ended outcome w → ended' outcome w) (hwaits : ∀ p w, waits p w → waits' p w) :
    p.LeftAlone ended' waits' w := by
  refine Machine.ComesToRest.mono h fun m hrests => ?_
  cases hrests with
  | ended hp h => exact .ended hp (hended _ _ h)
  | asleep h => exact .asleep (hwaits _ _ h)

/-- What a program comes to, action by action, at whatever time each of them is taken. -/
def Brings (ended : Outcome ε α → World → Prop) (waits : Program ε α → World → Prop) :
    Program ε α → World → Prop
  | .done result, w => ∀ w', w.Later w' → ended (.ok result) w'
  | .fail failure, w => ∀ w', w.Later w' → ended (.failed failure) w'
  | .abort message, w => ∀ w', w.Later w' → ended (.aborted message) w'
  | .act action next, w =>
    ∀ w₁, w.Later w₁ →
      match action.run 0 w₁ with
      | .reply answer w₂ _ => Brings ended waits (next answer) w₂
      | .wait _ =>
        match action.deadline? with
        | some deadline =>
          ∀ w₂, w₁.Later w₂ → deadline ≤ w₂.now → ∀ answer w₃, action.Comes 0 w₂ answer w₃ →
            Brings ended waits (next answer) w₃
        | none => ∀ w₂, w₁.Later w₂ → waits (.act action next) w₂
      | .held => False

section rules

variable {ended ended' : Outcome ε α → World → Prop} {waits waits' : Program ε α → World → Prop} {w : World}

/-- What comes of a program does not depend on when it begins. -/
theorem Brings.later {p : Program ε α} {w' : World} (h : p.Brings ended waits w) (hlater : w.Later w') :
    p.Brings ended waits w' := by
  cases p with
  | act action next => exact fun w₁ hmore => h w₁ (hlater.trans hmore)
  | _ => exact fun w₁ hmore => h w₁ (hlater.trans hmore)

section actions

variable {action : Action} {next : action.Reply → Program ε α}

/-- An action that is answered whenever it is taken is followed by what the answer leaves. -/
theorem brings_reply (hnext : ∀ w₁, w.Later w₁ → ∃ answer w₂ call, action.run 0 w₁ = .reply answer w₂ call ∧
    (next answer).Brings ended waits w₂) : (act action next).Brings ended waits w := by
  intro w₁ hlater
  obtain ⟨answer, w₂, call, hrun, hbrings⟩ := hnext w₁ hlater
  rw [hrun]
  exact hbrings

/-- A wait that nothing ends is given up at some time from its deadline on, or lasts for ever without one. -/
theorem brings_wait {otherwise : action.Reply} (hwait : ∀ w₁, w.Later w₁ → action.run 0 w₁ = .wait otherwise)
    (hnext : ∀ deadline, action.deadline? = some deadline → ∀ w₁, w.Later w₁ → deadline ≤ w₁.now →
      (next otherwise).Brings ended waits w₁)
    (hwaits : action.deadline? = none → ∀ w₁, w.Later w₁ → waits (act action next) w₁) :
    (act action next).Brings ended waits w := by
  intro w₁ hlater
  rw [hwait w₁ hlater]
  cases hdeadline : action.deadline? with
  | none => exact fun w₂ hmore => hwaits hdeadline w₂ (hlater.trans hmore)
  | some deadline =>
    intro w₂ hmore hpast answer w₃ hcomes
    have hw₂ := hlater.trans hmore
    cases hcomes with
    | replied hrun =>
      rw [hwait w₂ hw₂] at hrun
      cases hrun
    | gaveUp hrun =>
      rw [hwait w₂ hw₂] at hrun
      cases hrun
      exact hnext deadline hdeadline w₂ hw₂ hpast

end actions

/-- A pause ends at some time from its deadline on. -/
theorem brings_pause {deadline : Duration.Instant} {next : Unit → Program ε α}
    (hnext : ∀ w₁, w.Later w₁ → deadline ≤ w₁.now → (next ()).Brings ended waits w₁) :
    (act (.pause deadline) next).Brings ended waits w := by
  intro w₁ hlater
  by_cases hpast : deadline ≤ w₁.now
  · simp only [Action.run, hpast, if_true]
    exact hnext w₁ hlater hpast
  · simp only [Action.run, hpast, if_false, Action.deadline?]
    intro w₂ hmore hpast answer w₃ hcomes
    have hw₂ := hlater.trans hmore
    cases hcomes with
    | replied hrun =>
      rw [Action.run, if_pos hpast] at hrun
      cases hrun
      exact hnext w₂ hw₂ hpast
    | gaveUp hrun =>
      rw [Action.run, if_pos hpast] at hrun
      cases hrun

/-- What comes of an action is told by what comes of its answers, or of waiting in it. -/
theorem Brings.act_imp {ended' : Outcome δ β → World → Prop} {waits' : Program δ β → World → Prop}
    {action : Action} {next : action.Reply → Program ε α} {next' : action.Reply → Program δ β}
    (h : (act action next).Brings ended waits w)
    (hnext : ∀ answer w, (next answer).Brings ended waits w → (next' answer).Brings ended' waits' w)
    (hwaits : ∀ w, waits (act action next) w → waits' (act action next') w) :
    (act action next').Brings ended' waits' w := by
  intro w₁ hlater
  have hact := h w₁ hlater
  split at hact
  next answer w₂ call hrun => exact hnext answer w₂ hact
  next otherwise hrun =>
    split at hact
    next deadline hdeadline =>
      exact fun w₂ hmore hpast answer w₃ hcomes => hnext answer w₃ (hact w₂ hmore hpast answer w₃ hcomes)
    next hdeadline => exact fun w₂ hmore => hwaits w₂ (hact w₂ hmore)
  next => exact hact.elim

/-- What comes of a program may be told more weakly. -/
theorem Brings.mono {p : Program ε α} (h : p.Brings ended waits w)
    (hended : ∀ outcome w, ended outcome w → ended' outcome w) (hwaits : ∀ p w, waits p w → waits' p w) :
    p.Brings ended' waits' w := by
  induction p generalizing w with
  | act action next ih => exact h.act_imp (fun answer _ => ih answer) (hwaits _)
  | _ => exact fun w₁ hlater => hended _ _ (h w₁ hlater)

/-- What comes of a program is followed by what comes of another made from its result. -/
theorem Brings.bind {p : Program ε β} {rest : β → Program ε α} {mid : Outcome ε β → World → Prop}
    {sleeps : Program ε β → World → Prop} (h : p.Brings mid sleeps w)
    (hrest : ∀ result w, mid (.ok result) w → (rest result).Brings ended waits w)
    (hfailed : ∀ failure w, mid (.failed failure) w → ended (.failed failure) w)
    (haborted : ∀ message w, mid (.aborted message) w → ended (.aborted message) w)
    (hwaits : ∀ q w, sleeps q w → waits (q >>= rest) w) : (p >>= rest).Brings ended waits w := by
  induction p generalizing w with
  | done result => exact hrest result w (h w (.refl w))
  | fail failure => exact fun w₁ hlater => hfailed failure w₁ (h w₁ hlater)
  | abort message => exact fun w₁ hlater => haborted message w₁ (h w₁ hlater)
  | act action next ih => exact h.act_imp (fun answer _ => ih answer) (hwaits _)

/-- What comes of a program comes of it with its failure told in other terms. -/
theorem Brings.mapFailure {p : Program δ α} {f : δ → ε}
    (h : p.Brings (fun outcome => ended (outcome.mapFailure f)) (fun q => waits (q.mapFailure f)) w) :
    (p.mapFailure f).Brings ended waits w := by
  induction p generalizing w with
  | act action next ih => exact h.act_imp (fun answer _ => ih answer) fun _ hw => hw
  | _ => exact h

/-- What comes of a program comes of it with its failure taken as a result. -/
theorem Brings.attempt {p : Program δ α} {ended : Outcome ε (Except δ α) → World → Prop}
    {waits : Program ε (Except δ α) → World → Prop}
    (h : p.Brings (fun outcome => ended outcome.attempt) (fun q => waits q.attempt) w) :
    (p.attempt : Program ε (Except δ α)).Brings ended waits w := by
  induction p generalizing w with
  | act action next ih => exact h.act_imp (fun answer _ => ih answer) fun _ hw => hw
  | _ => exact h

/-- A program comes to one outcome, if it does not wait for ever. -/
abbrev EndsIn (outcome : Outcome ε α) (holds sleeps : World → Prop) (p : Program ε α) (w : World) : Prop :=
  p.Brings (fun outcome' w' => outcome' = outcome ∧ holds w') (fun _ => sleeps) w

section endsIn

variable {holds sleeps : World → Prop}

/-- What follows a program with one result goes on from that. -/
theorem EndsIn.bind {p : Program ε β} {rest : β → Program ε α} {result : β}
    (h : p.EndsIn (.ok result) holds sleeps w) (hrest : ∀ w, holds w → (rest result).Brings ended waits w)
    (hwaits : ∀ q w, sleeps w → waits q w) : (p >>= rest).Brings ended waits w := by
  refine Brings.bind h ?_ (fun _ _ h => nomatch h.1) (fun _ _ h => nomatch h.1) fun q => hwaits (q >>= rest)
  rintro _ w₁ ⟨hresult, hw₁⟩
  cases hresult
  exact hrest w₁ hw₁

/-- A program that comes to one outcome comes to that with its failure told in other terms. -/
theorem EndsIn.mapFailure {p : Program δ α} {outcome : Outcome δ α} (h : p.EndsIn outcome holds sleeps w)
    (f : δ → ε) : (p.mapFailure f).EndsIn (outcome.mapFailure f) holds sleeps w :=
  Brings.mapFailure (Brings.mono h (fun _ _ h => ⟨congrArg _ h.1, h.2⟩) fun _ _ => id)

/-- A program that comes to one outcome comes to that with its failure taken as a result. -/
theorem EndsIn.attempt {p : Program δ α} {outcome : Outcome δ α} (h : p.EndsIn outcome holds sleeps w) :
    (p.attempt : Program ε (Except δ α)).EndsIn outcome.attempt holds sleeps w :=
  Brings.attempt (Brings.mono h (fun _ _ h => ⟨congrArg _ h.1, h.2⟩) fun _ _ => id)

end endsIn

end rules

end Program

namespace Machine

section lone

variable {w : World} {tickets : Nat} {move : Move} {m : Machine ε α}

/-- A machine of one task has no other. -/
theorem eq_of_getElem?_singleton {t t' : Task ε α} {task : Nat} (h : [t][task]? = some t') : task = 0 ∧ t' = t := by
  rw [List.getElem?_singleton] at h
  split at h
  next hzero => exact ⟨hzero, (Option.some.inj h).symm⟩
  next => cases h

/-- What a move, not of time alone, makes of a machine of one task. -/
inductive Moved (w : World) (tickets : Nat) : Task ε α → Machine ε α → Prop where
  | answered {t : Task ε α} {action : Action} {next : action.Reply → Program ε α} {answer : action.Reply}
      {w' : World} {call : Option Call} (ht : t = .running (.act action next) ∨ t = .lapsed action next)
      (hrun : action.run 0 w = .reply answer w' call) : Moved w tickets t ⟨w', [.after call (next answer)], tickets⟩
  | gaveUp {action : Action} {next : action.Reply → Program ε α} {otherwise : action.Reply}
      (hrun : action.run 0 w = .wait otherwise) :
      Moved w tickets (.lapsed action next) ⟨w, [.running (next otherwise)], tickets⟩
  | layDown {action : Action} {next : action.Reply → Program ε α} {otherwise : action.Reply}
      (hrun : action.run 0 w = .wait otherwise) :
      Moved w tickets (.running (.act action next)) ⟨w, [.asleep tickets action next], tickets + 1⟩
  | called {call : Call} {p : Program ε α} : Moved w tickets (.calling call p) ⟨w, [.running p], tickets⟩
  | expired {ticket : Nat} {action : Action} {next : action.Reply → Program ε α} {deadline : Duration.Instant}
      (hdeadline : action.deadline? = some deadline) (hpast : deadline ≤ w.now) :
      Moved w tickets (.asleep ticket action next) ⟨w, [.lapsed action next], tickets⟩

/-- Every move of a machine of one task, but one of time alone, is among those listed. -/
theorem moved_of_step {t : Task ε α} (hstep : (⟨w, [t], tickets⟩ : Machine ε α).step move = some m)
    (hmove : move.isTick = false) : Moved w tickets t m := by
  have hchange := change_of_step hstep
  generalize Machine.turn? _ move = turn? at hchange
  cases hchange with
  | answered htask hrun =>
    have hzero := htask.elim (fun h => (eq_of_getElem?_singleton h).1) fun h => (eq_of_getElem?_singleton h).1
    subst hzero
    have ht := htask.imp (fun h => (eq_of_getElem?_singleton h).2.symm) fun h => (eq_of_getElem?_singleton h).2.symm
    exact .answered ht hrun
  | gaveUp htask hrun =>
    obtain ⟨rfl, rfl⟩ := eq_of_getElem?_singleton htask
    exact .gaveUp hrun
  | layDown htask hrun =>
    obtain ⟨rfl, rfl⟩ := eq_of_getElem?_singleton htask
    exact .layDown hrun
  | unheard htask hnobody =>
    obtain ⟨rfl, rfl⟩ := eq_of_getElem?_singleton htask
    exact .called
  | calledAll htask =>
    obtain ⟨rfl, rfl⟩ := eq_of_getElem?_singleton htask
    exact .called
  | woke hcaller hsleeper =>
    obtain ⟨rfl, rfl⟩ := eq_of_getElem?_singleton hcaller
    cases (eq_of_getElem?_singleton hsleeper).2
  | expired htask hdeadline hpast =>
    obtain ⟨rfl, rfl⟩ := eq_of_getElem?_singleton htask
    exact .expired hdeadline hpast
  | ticked => cases hmove

variable {holds : Machine ε α → Prop} {p : Program ε α}

/-- A lone task that calls finds nobody to wake, and goes on. -/
theorem comesToRest_after (call : Option Call) (h : (⟨w, [.running p], tickets⟩ : Machine ε α).ComesToRest holds) :
    (⟨w, [.after call p], tickets⟩ : Machine ε α).ComesToRest holds := by
  cases call with
  | none => exact h
  | some call =>
    refine .move (fun nanos => ⟨0, .act 0, ?_⟩) fun nanos move m' hstep hmove => ?_
    · cases call with
      | one session want => exact ⟨_, rfl, rfl⟩
      | every session want => exact ⟨_, rfl, rfl⟩
    · cases moved_of_step hstep hmove with
      | answered ht => rcases ht with ht | ht <;> cases ht
      | called => exact h.later nanos

section act

variable {action : Action} {next : action.Reply → Program ε α} {deadline : Duration.Instant}

/-- A lone task whose deadline has come goes on from the answer to its action, or gives up. -/
theorem comesToRest_lapsed (hdeadline : action.deadline? = some deadline)
    (hnext : ∀ w₁, w.Later w₁ → ∀ answer w₂ call, action.Comes 0 w₁ answer w₂ →
      (⟨w₂, [.after call (next answer)], tickets⟩ : Machine ε α).ComesToRest holds) :
    (⟨w, [.lapsed action next], tickets⟩ : Machine ε α).ComesToRest holds := by
  have hfree : action ≠ .enterLifecycle := by
    rintro rfl
    cases hdeadline
  refine .move (fun nanos => ⟨0, .act 0, ?_⟩) fun nanos move m' hstep hmove => ?_
  · have htask : ((⟨w, [.lapsed action next], tickets⟩ : Machine ε α).later (nanos + 0)).tasks[0]? =
        some (.lapsed action next) := rfl
    obtain ⟨m', hact⟩ := exists_act hfree (.inr htask)
    exact ⟨m', hact, rfl⟩
  · cases moved_of_step hstep hmove with
    | answered ht hrun =>
      rcases ht with ht | ht
      · cases ht
      · cases ht
        exact hnext _ ⟨nanos, rfl⟩ _ _ _ (.replied hrun)
    | gaveUp hrun => exact hnext _ ⟨nanos, rfl⟩ _ _ none (.gaveUp hrun)

/-- A lone task that sleeps until a deadline gets no further before it. -/
theorem comesToRest_asleep {ticket : Nat} (hdeadline : action.deadline? = some deadline)
    (hnext : ∀ w₁, w.Later w₁ → deadline ≤ w₁.now → ∀ answer w₂ call, action.Comes 0 w₁ answer w₂ →
      (⟨w₂, [.after call (next answer)], tickets⟩ : Machine ε α).ComesToRest holds) :
    (⟨w, [.asleep ticket action next], tickets⟩ : Machine ε α).ComesToRest holds := by
  refine .move (fun nanos => ⟨deadline, .expire 0, ?_⟩) fun nanos move m' hstep hmove => ?_
  · have hpast : deadline ≤ w.now + (nanos + deadline) :=
      Nat.le_trans (Nat.le_add_left deadline nanos) (Nat.le_add_left _ w.now)
    have hexpire : ∃ m', ((⟨w, [.asleep ticket action next], tickets⟩ : Machine ε α).later
        (nanos + deadline)).expire 0 = some m' := by
      simp only [expire, later, List.getElem?_cons_zero, hdeadline, hpast, if_true]
      exact ⟨_, rfl⟩
    obtain ⟨m', hexpire⟩ := hexpire
    exact ⟨m', hexpire, rfl⟩
  · cases moved_of_step hstep hmove with
    | answered ht => rcases ht with ht | ht <;> cases ht
    | expired hsome hpast =>
      obtain rfl := Option.some.inj (hdeadline.symm.trans hsome)
      refine comesToRest_lapsed hdeadline fun w₁ hlater => ?_
      exact hnext w₁ (.trans ⟨nanos, rfl⟩ hlater) (Nat.le_trans hpast hlater.now_le)

end act

variable {ended : Outcome ε α → World → Prop} {waits : Program ε α → World → Prop}

/-- A lone task whose next action brings something about can take it. -/
theorem exists_act_of_brings {action : Action} {next : action.Reply → Program ε α}
    (h : (Program.act action next).Brings ended waits w) (tickets : Nat) :
    ∃ m', (⟨w, [.running (.act action next)], tickets⟩ : Machine ε α).act 0 = some m' := by
  have hact := h w (.refl w)
  simp only [act, List.getElem?_cons_zero]
  cases hrun : action.run 0 w with
  | reply answer w' call => exact ⟨_, rfl⟩
  | wait otherwise => exact ⟨_, rfl⟩
  | held =>
    rw [hrun] at hact
    exact hact.elim

/-- A lone task comes to what its program brings about. -/
theorem comesToRest_of_brings (h : p.Brings ended waits w) (tickets : Nat) :
    (⟨w, [.running p], tickets⟩ : Machine ε α).ComesToRest (Rests ended waits) := by
  -- By induction on the program: with every answer there is less of it.
  induction p generalizing w tickets with
  | act action next ih =>
    have hanswered {w' : World} {answer : action.Reply} (hbrings : (next answer).Brings ended waits w')
        (call : Option Call) (tickets : Nat) :
        (⟨w', [.after call (next answer)], tickets⟩ : Machine ε α).ComesToRest (Rests ended waits) :=
      comesToRest_after call (ih answer hbrings tickets)
    refine .move (fun nanos => ⟨0, .act 0, ?_⟩) fun nanos move m' hstep hmove => ?_
    · obtain ⟨m', hact⟩ := exists_act_of_brings (h.later ⟨nanos, rfl⟩) tickets
      exact ⟨m', hact, rfl⟩
    · have hact := h _ ⟨nanos, rfl⟩
      cases moved_of_step hstep hmove with
      | answered ht hrun =>
        rcases ht with ht | ht
        · cases ht
          rw [hrun] at hact
          exact hanswered hact _ _
        · cases ht
      | layDown hrun =>
        rw [hrun] at hact
        cases hdeadline : action.deadline? with
        | none =>
          rw [hdeadline] at hact
          refine .rest (by simp [Task.halted, hdeadline]) fun more => ?_
          exact .asleep (hact _ ⟨more, rfl⟩)
        | some deadline =>
          rw [hdeadline] at hact
          refine comesToRest_asleep hdeadline fun w₁ hlater hpast answer w₂ call hcomes => ?_
          exact hanswered (hact w₁ hlater hpast answer w₂ hcomes) call _
  | done result => exact .rest (by simp [Task.halted, Program.outcome?]) fun nanos => .ended rfl (h _ ⟨nanos, rfl⟩)
  | fail failure => exact .rest (by simp [Task.halted, Program.outcome?]) fun nanos => .ended rfl (h _ ⟨nanos, rfl⟩)
  | abort message => exact .rest (by simp [Task.halted, Program.outcome?]) fun nanos => .ended rfl (h _ ⟨nanos, rfl⟩)

end lone

end Machine

/-- What a program brings about, it comes to when it is left alone. -/
theorem Program.Brings.leftAlone {p : Program ε α} {w : World} {ended : Outcome ε α → World → Prop}
    {waits : Program ε α → World → Prop} (h : p.Brings ended waits w) : p.LeftAlone ended waits w :=
  Machine.comesToRest_of_brings h 0

end Loopback
