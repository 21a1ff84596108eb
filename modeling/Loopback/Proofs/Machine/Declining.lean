import Loopback.Proofs.Machine.Alone
import Loopback.Proofs.Machine.Frame
import Loopback.Proofs.Machine.Rest

/-!
# Programs that need an open channel

A program may ask whether the channel is open before it does anything else, and be at its end where it is not.
On a closed channel its first action is its last, and the world is as it was. The rules follow the ways in
which programs are built; what they give holds alone and among any other tasks.
-/

namespace Loopback

variable {ε δ α β : Type}

namespace Program

/-- A program that comes to an outcome on a closed channel before it does anything: it is at its end, or it
asks whether the channel is open and is at its end where it is not. -/
inductive Declines (outcome : Outcome ε α) : Program ε α → Prop where
  | ended {p : Program ε α} (hended : p.stand = .ended outcome) : Declines outcome p
  | asked {next : Bool → Program ε α} (hended : (next false).stand = .ended outcome) :
      Declines outcome (.act .getOpen next)

section rules

variable {outcome : Outcome ε α} {failure : ε} {p : Program ε α}

/-- A program that has ended with a failure fails. -/
theorem eq_fail_of_stand (h : p.stand = .ended (.failed failure)) : p = .fail failure := by
  cases p <;> cases h
  rfl

/-- What would follow a refusal is not begun. -/
theorem Declines.bind_failed (h : p.Declines (.failed failure)) (rest : α → Program ε β) :
    (p >>= rest).Declines (.failed failure) := by
  cases h with
  | ended hended =>
    rw [eq_fail_of_stand hended]
    exact .ended rfl
  | asked hended =>
    refine .asked ?_
    rw [eq_fail_of_stand hended]
    rfl

/-- What follows an answer without a doing ends at once if it does nothing either. -/
theorem Declines.bind_ok {result : α} (h : p.Declines (.ok result)) {rest : α → Program ε β}
    {outcome : Outcome ε β} (hrest : (rest result).stand = .ended outcome) : (p >>= rest).Declines outcome := by
  cases h with
  | ended hended =>
    rw [eq_done_of_stand hended]
    exact .ended hrest
  | asked hended =>
    refine .asked ?_
    rw [eq_done_of_stand hended]
    exact hrest

/-- A program with its failure told in other terms stands where it stood, but for these. -/
theorem stand_mapFailure (p : Program ε α) (f : ε → δ) : (p.mapFailure f).stand = p.stand.told f id := by
  cases p <;> rfl

/-- A program with its failure taken as a result stands where it stood, but for that. -/
theorem stand_attempt (p : Program ε α) : (p.attempt : Program δ (Except ε α)).stand = p.stand.attempt := by
  cases p <;> rfl

/-- A program with its abortions told as failures stands where it stood, but for these. -/
theorem stand_sheltered (p : Program ε α) (f : String → ε) : (p.sheltered f).stand = p.stand.sheltered f := by
  cases p <;> rfl

/-- What declines does so with its failure told in other terms. -/
theorem Declines.mapFailure (h : p.Declines outcome) (f : ε → δ) :
    (p.mapFailure f).Declines (outcome.mapFailure f) := by
  have htold : (Stand.ended outcome).told f id = .ended (outcome.mapFailure f) := by cases outcome <;> rfl
  cases h with
  | ended hended => exact .ended (by rw [stand_mapFailure, hended, htold])
  | asked hended => exact .asked (by rw [stand_mapFailure, hended, htold])

/-- What declines does so with its failure taken as a result. -/
theorem Declines.attempt (h : p.Declines outcome) :
    (p.attempt : Program δ (Except ε α)).Declines outcome.attempt := by
  have htold : (Stand.ended outcome).attempt = .ended (outcome.attempt : Outcome δ (Except ε α)) := by
    cases outcome <;> rfl
  cases h with
  | ended hended => exact .ended (by rw [stand_attempt, hended, htold])
  | asked hended => exact .asked (by rw [stand_attempt, hended, htold])

/-- A refusal is no abortion. -/
theorem Declines.sheltered (h : p.Declines (.failed failure)) (f : String → ε) :
    (p.sheltered f).Declines (.failed failure) := by
  cases h with
  | ended hended => exact .ended (by rw [stand_sheltered, hended]; rfl)
  | asked hended => exact .asked (by rw [stand_sheltered, hended]; rfl)

end rules

/-- With no other task about, a program that declines leaves a world whose channel is closed as it is. -/
theorem Declines.alone {p : Program ε α} {outcome : Outcome ε α} (h : p.Declines outcome) (task : Nat)
    {w : World} (hclosed : w.channel.isOpen = false) : p.alone task w = .ended outcome w := by
  have hended : ∀ {p : Program ε α}, p.stand = .ended outcome → p.alone task w = .ended outcome w := by
    intro p hp
    cases p <;> cases hp <;> rfl
  cases h with
  | ended hp => exact hended hp
  | asked hp => exact alone_act.2 ⟨false, w, .replied (by rw [Action.run, hclosed]), hended hp⟩

end Program

namespace Action

/-- A channel stays closed unless it is opened. -/
theorem Comes.closed {task : Nat} {w w' : World} {action : Action} {answer : action.Reply}
    (h : action.Comes task w answer w') (hclosed : w.channel.isOpen = false) (hstays : action ≠ .setOpen true) :
    w'.channel.isOpen = false := by
  by_cases hset : ∃ isOpen, action = .setOpen isOpen
  · obtain ⟨isOpen, rfl⟩ := hset
    rw [h.isOpen_of_set, Bool.eq_false_iff]
    exact fun hopen => hstays (congrArg _ hopen)
  · rw [h.frame.isOpen fun isOpen haction => hset ⟨isOpen, haction⟩, hclosed]

end Action

namespace Machine

variable {start m m' : Machine ε α} {task : Nat} {p : Program ε α} {outcome : Outcome ε α}

/-- A running task stands where it stood until it acts. -/
theorem Change.running {move : Move} {turn? : Option Turn} (h : Change m move turn? m')
    (hrunning : m.tasks[task]? = some (.running p)) (hother : move ≠ .act task) :
    m'.tasks[task]? = some (.running p) := by
  have hset : ∀ {i : Nat} {state : Task ε α}, i ≠ task → (m.tasks.set i state)[task]? = some (.running p) :=
    fun hne => by rw [List.getElem?_set_ne hne, hrunning]
  cases h with
  | answered | gaveUp | layDown | unheard => exact hset fun heq => hother (congrArg _ heq)
  | @calledAll i session want program htask =>
    have hne : i ≠ task := fun heq => hother (congrArg _ heq)
    change (List.set _ i _)[task]? = _
    rw [List.getElem?_set_ne hne, List.getElem?_map, hrunning]
    rfl
  | @woke caller sleeper session want program ticket action next hcaller hsleeper hpost =>
    have hcalls : caller ≠ task := by
      rintro rfl
      cases hcaller.symm.trans hrunning
    have hsleeps : sleeper ≠ task := by
      rintro rfl
      cases hsleeper.symm.trans hrunning
    change ((m.tasks.set sleeper _).set caller _)[task]? = _
    rw [List.getElem?_set_ne hcalls, hset hsleeps]
  | @expired i ticket action next deadline htask =>
    refine hset ?_
    rintro rfl
    cases htask.symm.trans hrunning
  | ticked => exact hrunning

/-- A task does not sleep and leaves the world as it is; and if it has acted, it has come to an outcome. -/
structure Refused (task : Nat) (outcome : Outcome ε α) (turns : List Turn) (m : Machine ε α) : Prop where
  awake : ∃ p, m.tasks[task]? = some (.running p) ∧
    (p.stand = .ended outcome ∨ p.Declines outcome ∧ ∀ turn ∈ turns, turn.task ≠ task)
  still : ∀ turn ∈ turns, turn.task = task → turn.after = turn.before

/-- Asking whether the channel is open changes nothing but where the task stands. -/
theorem step_getOpen {next : Bool → Program ε α} (htask : m.tasks[task]? = some (.running (.act .getOpen next))) :
    m.step (.act task) = some (m.setTask task (.running (next m.world.channel.isOpen))) ∧
      m.turn? (.act task) = some ⟨task, ⟨.getOpen, m.world.channel.isOpen⟩, m.world, m.world⟩ := by
  constructor
  · simp only [step, act, htask]
    rfl
  · simp only [turn?, htask]
    rfl

/-- A task that has ended makes no move of its own. -/
theorem step_ended (htask : m.tasks[task]? = some (.running p)) (hended : p.stand = .ended outcome) :
    m.step (.act task) = none := by
  cases p with
  | act => cases hended
  | _ => simp only [step, act, htask]

/-- A refused task stays so with each move, unless the channel is opened. -/
theorem Refused.step {turns : List Turn} (h : m.Refused task outcome turns)
    (hclosed : m.world.channel.isOpen = false) {move : Move} (hstep : m.step move = some m')
    (hstays : ∀ turn ∈ (m.turn? move).toList, turn.deed.action ≠ .setOpen true) :
    m'.world.channel.isOpen = false ∧ m'.Refused task outcome (turns ++ (m.turn? move).toList) := by
  obtain ⟨⟨p, hrunning, hp⟩, hstill⟩ := h
  -- Its own move can only ask and be turned down. The moves of others matter by what they do to the channel.
  by_cases hown : move = .act task
  · subst hown
    rcases hp with hended | ⟨hdeclines, -⟩
    · rw [step_ended hrunning hended] at hstep
      cases hstep
    · cases hdeclines with
      | ended hended =>
        rw [step_ended hrunning hended] at hstep
        cases hstep
      | @asked next hended =>
        obtain ⟨hasks, hturn⟩ := step_getOpen hrunning
        obtain rfl := Option.some.inj (hasks.symm.trans hstep)
        refine ⟨hclosed, ⟨next false, ?_, .inl hended⟩, ?_⟩
        · rw [setTask, hclosed]
          exact List.getElem?_set_self (List.getElem?_eq_some_iff.1 hrunning).1
        · rw [hturn]
          simpa [or_imp, forall_and] using hstill
  · have hchange := change_of_step hstep
    have hrunning' := hchange.running hrunning hown
    cases hmove : m.turn? move with
    | none =>
      rw [hmove] at hchange
      obtain ⟨nanos, hworld⟩ := hchange.world_eq
      rw [hworld, Option.toList_none, List.append_nil]
      exact ⟨hclosed, ⟨p, hrunning', hp⟩, hstill⟩
    | some turn =>
      rw [hmove] at hchange hstays
      obtain ⟨hbefore, hafter, hcomes⟩ := hchange.comes
      have hne : turn.task ≠ task := by
        rintro rfl
        cases hchange <;> exact hown rfl
      rw [hbefore, hafter] at hcomes
      refine ⟨hcomes.closed hclosed (hstays turn (by simp)), ⟨p, hrunning', hp.imp_right ?_⟩, ?_⟩
      · exact And.imp_right fun hnone => by simpa [or_imp, forall_and] using ⟨hnone, hne⟩
      · simpa [or_imp, forall_and, hne] using hstill

/-- Whatever others do but open the channel, a task that declines is refused. -/
theorem Run.refused {moves : List Move} {turns : List Turn} (hrun : Run start moves turns m)
    (hbegun : start.tasks[task]? = some (.running p)) (hdeclines : p.Declines outcome)
    (hclosed : start.world.channel.isOpen = false) (hstays : ∀ turn ∈ turns, turn.deed.action ≠ .setOpen true) :
    m.world.channel.isOpen = false ∧ m.Refused task outcome turns := by
  induction hrun with
  | start => exact ⟨hclosed, ⟨p, hbegun, .inr ⟨hdeclines, by simp⟩⟩, by simp⟩
  | step move _ hstep ih =>
    obtain ⟨hclosed, hrefused⟩ := ih fun turn hturn => hstays turn (List.mem_append_left _ hturn)
    exact hrefused.step hclosed hstep fun turn hturn => hstays turn (List.mem_append_right _ hturn)

end Machine

end Loopback
