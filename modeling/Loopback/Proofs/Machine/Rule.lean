import Loopback.Channel.Basic
import Loopback.Proofs.Machine.Run

/-!
# Rules that tasks keep to

What a task may do next can depend on what it has done: it goes to a queue, say, only in a session
that it was given. Such a rule is judged along each program alone, whatever answers it gets, and then
it holds of every turn of every run, from whatever machine the run began.
-/

namespace Loopback

variable {ε δ α β : Type}

/-- What may be done next, by what has been done. -/
abbrev Rule := List Deed → Action → Prop

/-- The rule that allows certain actions whatever has been done. -/
abbrev Rule.always (allowed : Action → Prop) : Rule := fun _ => allowed

namespace Program

/-- A program that keeps to a rule after certain deeds, whatever it is answered. -/
def Obeys (rule : Rule) (seen : List Deed) (p : Program ε α) : Prop :=
  p.Along (fun _ => True) fun deeds stand => ∀ action, stand = .before action → rule (seen ++ deeds) action

section rules

variable {rule : Rule} {seen : List Deed}

/-- A result does nothing that a rule could forbid. -/
theorem obeys_done {result : α} : (.done result : Program ε α).Obeys rule seen := nofun

/-- A failure does nothing that a rule could forbid. -/
theorem obeys_fail {failure : ε} : (.fail failure : Program ε α).Obeys rule seen := nofun

/-- An abortion does nothing that a rule could forbid. -/
theorem obeys_abort {message : String} : (.abort message : Program ε α).Obeys rule seen := nofun

/-- Every answer to an action is one more deed for what follows. -/
theorem obeys_act {action : Action} {next : action.Reply → Program ε α} :
    (Program.act action next).Obeys rule seen ↔
      rule seen action ∧ ∀ answer, (next answer).Obeys rule (seen ++ [⟨action, answer⟩]) := by
  simp [Obeys, along_act]

/-- A program that has ended breaks no rule. -/
theorem obeys_of_ended {p : Program ε α} {outcome : Outcome ε α} (h : p.stand = .ended outcome) :
    p.Obeys rule seen := by
  cases p with
  | act => cases h
  | _ => exact nofun

/-- What keeps to a rule keeps to a weaker one. -/
theorem Obeys.mono {rule' : Rule} {p : Program ε α} (h : p.Obeys rule seen)
    (himp : ∀ seen action, rule seen action → rule' seen action) : p.Obeys rule' seen :=
  Along.mono h fun _ _ hrule action haction => himp _ _ (hrule action haction)

/-- What keeps to two rules keeps to both at once. -/
theorem Obeys.and {rule' : Rule} {p : Program ε α} (h : p.Obeys rule seen) (h' : p.Obeys rule' seen) :
    p.Obeys (fun seen action => rule seen action ∧ rule' seen action) seen := by
  induction p generalizing seen with
  | act action next ih =>
    obtain ⟨hrule, hnext⟩ := obeys_act.1 h
    obtain ⟨hrule', hnext'⟩ := obeys_act.1 h'
    exact obeys_act.2 ⟨⟨hrule, hrule'⟩, fun answer => ih answer (hnext answer) (hnext' answer)⟩
  | _ => exact nofun

/-- What deeds leave of a program keeps to the rule after them. -/
theorem Obeys.leads {p q : Program ε α} {deeds : List Deed} (h : p.Obeys rule seen)
    (hleads : p.Leads deeds q) : q.Obeys rule (seen ++ deeds) := by
  induction hleads generalizing seen with
  | refl p => rwa [List.append_nil]
  | act _ ih => simpa using ih ((obeys_act.1 h).2 _)

/-- Where it does not matter what was done, what deeds leave of a program keeps to the same rule. -/
theorem Obeys.rest {allowed : Action → Prop} {p q : Program ε α} {deeds : List Deed}
    (h : p.Obeys (.always allowed) seen) (hleads : p.Leads deeds q) : q.Obeys (.always allowed) seen := by
  have hrest := h.leads hleads
  exact hrest

/-- Without a deed all is left. -/
theorem Leads.eq_of_nil {p q : Program ε α} (h : p.Leads [] q) : q = p := by
  cases h
  rfl

/-- A program that continues another may rely on what that one did. -/
theorem obeys_bind {p : Program ε α} {rest : α → Program ε β} (hp : p.Obeys rule seen)
    (hrest : ∀ deeds result, p.Leads deeds (.done result) → (rest result).Obeys rule (seen ++ deeds)) :
    (p >>= rest).Obeys rule seen := by
  induction p generalizing seen with
  | act action next ih =>
    obtain ⟨hallowed, hnext⟩ := obeys_act.1 hp
    refine obeys_act.2 ⟨hallowed, fun answer => ih answer (hnext answer) fun deeds result hleads => ?_⟩
    simpa using hrest _ result (.act hleads)
  | done result => simpa using hrest [] result (.refl _)
  | fail failure => exact obeys_fail
  | abort message => exact obeys_abort

/-- A program may continue another if it keeps to the rule whatever was done before. -/
theorem Obeys.bind {p : Program ε α} {rest : α → Program ε β} (hp : p.Obeys rule seen)
    (hrest : ∀ result more, (rest result).Obeys rule more) : (p >>= rest).Obeys rule seen :=
  obeys_bind hp fun _ result _ => hrest result _

/-- A check does nothing that a rule could forbid. -/
theorem obeys_ofExcept {check : Except ε α} : (ofExcept check).Obeys rule seen := by
  cases check <;> exact nofun

/-- What follows a check may rely on its success. -/
theorem obeys_ofExcept_bind {check : Except ε α} {rest : α → Program ε β}
    (hrest : ∀ result, check = .ok result → (rest result).Obeys rule seen) :
    (ofExcept check >>= rest).Obeys rule seen := by
  cases check with
  | ok result => exact hrest result rfl
  | error failure => exact obeys_fail

/-- What keeps to a rule does so with its failure told in other terms. -/
theorem Obeys.mapFailure {p : Program δ α} (h : p.Obeys rule seen) (f : δ → ε) :
    (p.mapFailure f).Obeys rule seen := by
  induction p generalizing seen with
  | act action next ih =>
    exact obeys_act.2 ⟨(obeys_act.1 h).1, fun answer => ih answer ((obeys_act.1 h).2 answer)⟩
  | _ => exact nofun

/-- What keeps to a rule does so with its failure taken as a result. -/
theorem Obeys.attempt {p : Program δ α} (h : p.Obeys rule seen) :
    (p.attempt : Program ε (Except δ α)).Obeys rule seen := by
  induction p generalizing seen with
  | act action next ih =>
    exact obeys_act.2 ⟨(obeys_act.1 h).1, fun answer => ih answer ((obeys_act.1 h).2 answer)⟩
  | _ => exact nofun

/-- What keeps to a rule does so with its abortions told as failures. -/
theorem Obeys.sheltered {p : Program ε α} (h : p.Obeys rule seen) (f : String → ε) :
    (p.sheltered f).Obeys rule seen := by
  induction p generalizing seen with
  | act action next ih =>
    exact obeys_act.2 ⟨(obeys_act.1 h).1, fun answer => ih answer ((obeys_act.1 h).2 answer)⟩
  | _ => exact nofun

/-- An action at the end of a program has to be allowed however that one ends. -/
theorem Obeys.thenAlways {p : Program ε α} (h : p.Obeys rule seen) {last : Action}
    (hlast : ∀ more, rule more last) : (p.thenAlways last).Obeys rule seen := by
  induction p generalizing seen with
  | act action next ih =>
    exact obeys_act.2 ⟨(obeys_act.1 h).1, fun answer => ih answer ((obeys_act.1 h).2 answer)⟩
  | _ => exact obeys_act.2 ⟨hlast _, fun _ => nofun⟩

/-- A program that excludes others keeps to the rule if it may enter and leave. -/
theorem Obeys.exclusively {p : Program ε α} (h : ∀ more, p.Obeys rule more)
    (henter : rule seen .enterLifecycle) (hleave : ∀ more, rule more .leaveLifecycle) :
    (Program.exclusively p).Obeys rule seen :=
  obeys_act.2 ⟨henter, fun _ => (h _).thenAlways hleave⟩

end rules

end Program

/-- An action comes to an answer: the world's, or that of a wait which is given up. -/
inductive Action.Comes (task : Nat) (w : World) (action : Action) : action.Reply → World → Prop where
  | replied {answer : action.Reply} {w' : World} {call : Option Call}
      (hrun : action.run task w = .reply answer w' call) : Comes task w action answer w'
  | gaveUp {otherwise : action.Reply} (hrun : action.run task w = .wait otherwise) :
      Comes task w action otherwise w

/-- Each deed of a task was done in a turn that follows those of its deeds before. -/
theorem exists_turn_of_deedsOf {task : Nat} {turns : List Turn} {before after : List Deed} {deed : Deed}
    (h : deedsOf task turns = before ++ deed :: after) :
    ∃ earlier turn later, turns = earlier ++ turn :: later ∧ turn.task = task ∧ turn.deed = deed ∧
      deedsOf task earlier = before := by
  obtain ⟨_, _, hown, rfl, hrest⟩ := List.map_eq_append_iff.1 h
  obtain ⟨turn, _, rfl, hdeed, -⟩ := List.map_eq_cons_iff.1 hrest
  obtain ⟨earlier, _, rfl, rfl, hlater⟩ := List.filter_eq_append_iff.1 hown
  obtain ⟨skipped, later, rfl, hskipped, htask, -⟩ := List.filter_eq_cons_iff.1 hlater
  refine ⟨earlier ++ skipped, turn, later, by simp, of_decide_eq_true htask, hdeed, ?_⟩
  rw [deedsOf, List.filter_append, List.filter_eq_nil_iff.2 hskipped, List.append_nil]

/-- What a task did, it did in some turn. -/
theorem exists_turn_of_mem_deedsOf {task : Nat} {turns : List Turn} {deed : Deed}
    (h : deed ∈ deedsOf task turns) :
    ∃ before turn after, turns = before ++ turn :: after ∧ turn.task = task ∧ turn.deed = deed := by
  obtain ⟨before, after, hdeeds⟩ := List.append_of_mem h
  obtain ⟨earlier, turn, later, hturns, hown, hdeed, -⟩ := exists_turn_of_deedsOf hdeeds
  exact ⟨earlier, turn, later, hturns, hown, hdeed⟩

namespace Machine

/-- In a turn an action comes to its answer, from one world to the next. -/
theorem Change.comes {m m' : Machine ε α} {move : Move} {turn : Turn}
    (h : Change m move (some turn) m') :
    turn.before = m.world ∧ turn.after = m'.world ∧
      turn.deed.action.Comes turn.task turn.before turn.deed.answer turn.after := by
  cases h with
  | answered htask hrun => exact ⟨rfl, rfl, .replied hrun⟩
  | gaveUp htask hrun => exact ⟨rfl, rfl, .gaveUp hrun⟩

/-- A change without a turn leaves the world as it is, but for the time. -/
theorem Change.world_eq {m m' : Machine ε α} {move : Move} (h : Change m move none m') :
    ∃ nanos, m'.world = { m.world with now := m.world.now + nanos } := by
  cases h with
  | @ticked nanos => exact ⟨nanos, rfl⟩
  | _ => exact ⟨0, rfl⟩

/-- What holds of nothing done at first, and is upset by no further turn and no passing of time, holds
of every history and the world that it led to. -/
theorem Run.history {start m : Machine ε α} {moves : List Move} {turns : List Turn}
    (hrun : Run start moves turns m) (holds : List Turn → World → Prop) (hstart : holds [] start.world)
    (htick : ∀ {turns : List Turn} {w : World} (nanos : Nat), holds turns w →
      holds turns { w with now := w.now + nanos })
    (hturn : ∀ {moves : List Move} {turns : List Turn} {m m' : Machine ε α} {move : Move}
      {task : Nat} {action : Action} {answer : action.Reply}, Run start moves turns m →
      Change m move (some ⟨task, ⟨action, answer⟩, m.world, m'.world⟩) m' →
      action.Comes task m.world answer m'.world → holds turns m.world →
      holds (turns ++ [⟨task, ⟨action, answer⟩, m.world, m'.world⟩]) m'.world) : holds turns m.world := by
  induction hrun with
  | start => exact hstart
  | @step moves turns m m' move hrun hstep ih =>
    have hchange := change_of_step hstep
    cases hmove : m.turn? move with
    | none =>
      rw [hmove] at hchange
      obtain ⟨nanos, hworld⟩ := hchange.world_eq
      rw [hworld, Option.toList_none, List.append_nil]
      exact htick nanos ih
    | some turn =>
      rw [hmove] at hchange
      obtain ⟨task, ⟨action, answer⟩, before, after⟩ := turn
      obtain ⟨rfl, rfl, hcomes⟩ := hchange.comes
      exact hturn hrun hchange hcomes ih

/-- A run that begins where another has led to goes on from that one. -/
theorem Run.trans {start m m' : Machine ε α} {moves more : List Move} {turns later : List Turn}
    (hrun : Run start moves turns m) (hmore : Run m more later m') :
    Run start (moves ++ more) (turns ++ later) m' := by
  induction hmore with
  | start => simpa using hrun
  | step move _ hstep ih => simpa using ih.step move hstep

/-- What holds at first, and is upset by no turn and no passing of time, holds after a run. -/
theorem Run.world {start m : Machine ε α} {moves : List Move} {turns : List Turn}
    (hrun : Run start moves turns m) (holds : World → Prop) (hstart : holds start.world)
    (htick : ∀ {w : World} (nanos : Nat), holds w → holds { w with now := w.now + nanos })
    (hturn : ∀ turn ∈ turns, holds turn.before → holds turn.after) : holds m.world := by
  induction hrun with
  | start => exact hstart
  | @step moves turns m m' move _ hstep ih =>
    have hholds := ih fun turn hmem => hturn turn (List.mem_append_left _ hmem)
    have hchange := change_of_step hstep
    cases hmove : m.turn? move with
    | none =>
      rw [hmove] at hchange
      obtain ⟨nanos, hworld⟩ := hchange.world_eq
      rw [hworld]
      exact htick nanos hholds
    | some turn =>
      rw [hmove] at hchange
      obtain ⟨hbefore, hafter, -⟩ := hchange.comes
      rw [← hafter]
      exact hturn turn (List.mem_append_right _ (by simp [hmove])) (hbefore ▸ hholds)

/-- What holds of what a task has left to do and of the world, and is upset by no answer to the task, no turn of
another and no passing of time, holds after a run. -/
theorem Run.carries {start m : Machine ε α} {moves : List Move} {turns : List Turn}
    (hrun : Run start moves turns m) {task : Nat} {p : Program ε α} (hp : start.programOf? task = some p)
    (holds : Program ε α → World → Prop) (hstart : holds p start.world)
    (htick : ∀ {q : Program ε α} {w : World} (nanos : Nat), holds q w →
      holds q { w with now := w.now + nanos })
    (hown : ∀ {action : Action} {next : action.Reply → Program ε α} {answer : action.Reply} {w w' : World},
      action.Comes task w answer w' → holds (.act action next) w → holds (next answer) w')
    (hothers : ∀ turn ∈ turns, turn.task ≠ task → ∀ q, holds q turn.before → holds q turn.after) :
    ∃ q, m.programOf? task = some q ∧ holds q m.world := by
  induction hrun with
  | start => exact ⟨p, hp, hstart⟩
  | @step moves turns m m' move _ hstep ih =>
    obtain ⟨q, hq, hholds⟩ := ih fun turn hturn => hothers turn (List.mem_append_left _ hturn)
    have hchange := change_of_step hstep
    cases hmove : m.turn? move with
    | none =>
      rw [hmove] at hchange
      obtain ⟨nanos, hworld⟩ := hchange.world_eq
      exact ⟨q, (hchange.programOf?_eq task).trans hq, hworld ▸ htick nanos hholds⟩
    | some turn =>
      rw [hmove] at hchange
      obtain ⟨hbefore, hafter, hcomes⟩ := hchange.comes
      obtain ⟨next, hprogram, hprograms⟩ := hchange.programOf?_turn
      rw [hbefore] at hcomes
      rw [← hafter]
      by_cases htask : turn.task = task
      · subst htask
        obtain rfl := Option.some.inj (hq.symm.trans hprogram)
        exact ⟨next turn.deed.answer, by rw [hprograms, if_pos rfl], hown hcomes hholds⟩
      · refine ⟨q, by rw [hprograms, if_neg htask, hq], ?_⟩
        rw [← hbefore] at hholds
        exact hothers turn (List.mem_append_right _ (by simp [hmove])) htask q hholds

/-- A run can be cut before each of its turns. -/
theorem Run.cut {start m : Machine ε α} {moves : List Move} {turns : List Turn}
    (hrun : Run start moves turns m) {before after : List Turn} {turn : Turn}
    (hturns : turns = before ++ turn :: after) :
    ∃ earlier m₁ move m₂, Run start earlier before m₁ ∧ Change m₁ move (some turn) m₂ := by
  induction hrun generalizing after with
  | start => simp at hturns
  | @step moves turns m m' move hrun hstep ih =>
    have hchange := change_of_step hstep
    cases hmove : m.turn? move with
    | none => exact ih (by simpa [hmove] using hturns)
    | some last =>
      rw [hmove] at hchange hturns
      rcases List.eq_nil_or_concat after with rfl | ⟨more, final, rfl⟩
      · obtain ⟨rfl, hlast⟩ := List.append_inj' hturns rfl
        obtain rfl := List.singleton_inj.1 hlast
        exact ⟨moves, m, move, m', hrun, hchange⟩
      · have hmore : turns ++ [last] = (before ++ turn :: more) ++ [final] := by simpa using hturns
        exact ih (List.append_inj' hmore rfl).1

/-- What a task has left to do is left of what it had to do at the start. -/
theorem Run.programOf?_start {start m : Machine ε α} {moves : List Move} {turns : List Turn}
    (hrun : Run start moves turns m) {task : Nat} {q : Program ε α} (hq : m.programOf? task = some q) :
    ∃ p, start.programOf? task = some p ∧ p.Leads (deedsOf task turns) q := by
  obtain ⟨t, htask, -⟩ := programOf?_eq_some.1 hq
  have hlt : task < start.tasks.length := by
    rw [← hrun.length_tasks]
    exact (List.getElem?_eq_some_iff.1 htask).1
  have hp := programOf?_of_getElem? (List.getElem?_eq_getElem hlt)
  obtain ⟨q', hq', hleads⟩ := hrun.leads hp
  obtain rfl := Option.some.inj (hq'.symm.trans hq)
  exact ⟨_, hp, hleads⟩

/-- What a task that keeps to a rule does next is allowed by what it did before. -/
theorem Run.next_obeys {start m m' : Machine ε α} {moves : List Move} {turns : List Turn}
    (hrun : Run start moves turns m) {move : Move} {turn : Turn} (hchange : Change m move (some turn) m')
    {rule : Rule} (hobeys : ∀ p, start.programOf? turn.task = some p → p.Obeys rule []) :
    rule (deedsOf turn.task turns) turn.deed.action := by
  obtain ⟨next, hprogram, -⟩ := hchange.programOf?_turn
  obtain ⟨p, hp, hleads⟩ := hrun.programOf?_start hprogram
  exact (Program.obeys_act.1 ((hobeys _ hp).leads hleads)).1

/-- Each turn of a task that keeps to a rule is allowed by what the task did before. -/
theorem Run.obeys {start m : Machine ε α} {moves : List Move} {before after : List Turn} {turn : Turn}
    (hrun : Run start moves (before ++ turn :: after) m) {rule : Rule}
    (hobeys : ∀ p, start.programOf? turn.task = some p → p.Obeys rule []) :
    rule (deedsOf turn.task before) turn.deed.action := by
  obtain ⟨earlier, m₁, move, m₂, hearlier, hchange⟩ := hrun.cut rfl
  exact hearlier.next_obeys hchange hobeys

/-- Each action of a run comes about between the worlds of its turn. -/
theorem Run.comes {start m : Machine ε α} {moves : List Move} {turns : List Turn}
    (hrun : Run start moves turns m) {turn : Turn} (hturn : turn ∈ turns) :
    turn.deed.action.Comes turn.task turn.before turn.deed.answer turn.after :=
  hrun.forall_turns (fun hchange => hchange.comes.2.2) turn hturn

/-- The action of a turn comes about in the world that the run before it has left. -/
theorem Run.meets {start m : Machine ε α} {moves : List Move} {before after : List Turn} {turn : Turn}
    (hrun : Run start moves (before ++ turn :: after) m) :
    ∃ earlier m₁ w, Run start earlier before m₁ ∧
      turn.deed.action.Comes turn.task m₁.world turn.deed.answer w := by
  obtain ⟨earlier, m₁, move, m₂, hearlier, hchange⟩ := hrun.cut rfl
  obtain ⟨hbefore, -, hcomes⟩ := hchange.comes
  exact ⟨earlier, m₁, turn.after, hearlier, hbefore ▸ hcomes⟩

section always

variable {start m : Machine ε α} {moves : List Move} {turns : List Turn} {allowed : Action → Prop}

/-- A task that takes certain actions only takes one of these at each of its turns. -/
theorem Run.always (hrun : Run start moves turns m) {turn : Turn} (hturn : turn ∈ turns)
    (hobeys : ∀ p, start.programOf? turn.task = some p → p.Obeys (.always allowed) []) :
    allowed turn.deed.action := by
  obtain ⟨before, after, rfl⟩ := List.append_of_mem hturn
  exact hrun.obeys hobeys

/-- Tasks that take certain actions only do so for all that is left to them. -/
theorem Run.always_left (hrun : Run start moves turns m)
    (hobeys : ∀ task p, start.programOf? task = some p → p.Obeys (.always allowed) []) :
    ∀ task p, m.programOf? task = some p → p.Obeys (.always allowed) [] := by
  intro task q hq
  obtain ⟨p, hp, hleads⟩ := hrun.programOf?_start hq
  exact (hobeys task p hp).rest hleads

/-- Once a task has ended, only what the others take is left. -/
theorem Run.always_left_of_ended (hrun : Run start moves turns m) {ended : Nat} {outcome : Outcome ε α}
    (hended : m.outcomeOf? ended = some outcome)
    (hothers : ∀ task p, task ≠ ended → start.programOf? task = some p → p.Obeys (.always allowed) []) :
    ∀ task p, m.programOf? task = some p → p.Obeys (.always allowed) [] := by
  intro task q hq
  by_cases hown : task = ended
  · subst hown
    exact Program.obeys_of_ended (stand_of_outcomeOf? hq hended)
  · obtain ⟨p, hp, hleads⟩ := hrun.programOf?_start hq
    exact (hothers task p hown hp).rest hleads

end always

end Machine

end Loopback
