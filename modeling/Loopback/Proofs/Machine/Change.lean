import Loopback.Machine.Step

/-!
# What a move changes

A move is told as one of eight changes: an action is answered, given up or slept on, a call is
heard by nobody, by one sleeper or by all of them, a deadline comes, or time passes. Later proofs
go by these cases and do not look into the definition of a move.

An answered action is a turn of its task. It is told with the world that the action met and the
one it left, so that a list of turns is a history.
-/

namespace Loopback

/-- An action and the answer it got. -/
structure Deed where
  action : Action
  answer : action.Reply

/-- A turn of a task: an answered action between two worlds. -/
structure Turn where
  task : Nat
  deed : Deed
  before : World
  after : World

variable {ε α : Type}

namespace Task

/-- What a task has left to do, with the action it waits in. -/
def program : Task ε α → Program ε α
  | .running program => program
  | .calling _ program => program
  | .asleep _ action next => .act action next
  | .lapsed action next => .act action next

/-- The task after everybody asleep at a queue was called. -/
def wakenAt (session : Session) (want : Want) (task : Task ε α) : Task ε α :=
  if task.sleepsAt session want then task.woken else task

/-- To be woken leaves a task what it has to do. -/
@[simp] theorem program_woken (task : Task ε α) : task.woken.program = task.program := by
  cases task <;> rfl

/-- To be woken at a queue leaves a task what it has to do. -/
@[simp] theorem program_wakenAt (session : Session) (want : Want) (task : Task ε α) :
    (task.wakenAt session want).program = task.program := by
  unfold wakenAt
  split
  · exact program_woken task
  · rfl

/-- Whether it is to call or not, a task has its program to go on with. -/
@[simp] theorem program_after (call : Option Call) (program : Program ε α) :
    (Task.after call program).program = program := by
  cases call <;> rfl

/-- Only a task before an action that waits there is a sleeper. -/
theorem sleepsAt_iff {task : Task ε α} {session : Session} {want : Want} :
    task.sleepsAt session want = true ↔
      ∃ ticket action next, task = .asleep ticket action next ∧
        action.post? = some (session, want) := by
  constructor
  · intro h
    cases task with
    | asleep ticket action next => exact ⟨ticket, action, next, rfl, by simpa [sleepsAt] using h⟩
    | _ => cases h
  · rintro ⟨ticket, action, next, rfl, hpost⟩
    simp [sleepsAt, hpost]

end Task

namespace Machine

/-- The turn that a move makes, if it gets an action answered. -/
def turn? (m : Machine ε α) : Move → Option Turn
  | .act task =>
    match m.tasks[task]? with
    | some (.running (.act action _)) =>
      match action.run task m.world with
      | .reply answer world _ => some ⟨task, ⟨action, answer⟩, m.world, world⟩
      | _ => none
    | some (.lapsed action _) =>
      match action.run task m.world with
      | .reply answer world _ => some ⟨task, ⟨action, answer⟩, m.world, world⟩
      | .wait otherwise => some ⟨task, ⟨action, otherwise⟩, m.world, m.world⟩
      | .held => none
    | _ => none
  | _ => none

/-- The machine that a move leads to, case by case. -/
inductive Change (m : Machine ε α) : Move → Option Turn → Machine ε α → Prop where
  | answered {task action next answer world call}
      (htask : m.tasks[task]? = some (.running (.act action next)) ∨
        m.tasks[task]? = some (.lapsed action next))
      (hrun : action.run task m.world = .reply answer world call) :
      Change m (.act task) (some ⟨task, ⟨action, answer⟩, m.world, world⟩)
        { m.setTask task (.after call (next answer)) with world }
  | gaveUp {task action next otherwise}
      (htask : m.tasks[task]? = some (.lapsed action next))
      (hrun : action.run task m.world = .wait otherwise) :
      Change m (.act task) (some ⟨task, ⟨action, otherwise⟩, m.world, m.world⟩)
        (m.setTask task (.running (next otherwise)))
  | layDown {task action next otherwise}
      (htask : m.tasks[task]? = some (.running (.act action next)))
      (hrun : action.run task m.world = .wait otherwise) :
      Change m (.act task) none
        { m.setTask task (.asleep m.tickets action next) with tickets := m.tickets + 1 }
  | unheard {task session want program}
      (htask : m.tasks[task]? = some (.calling (.one session want) program))
      (hnobody : m.hasSleeper session want = false) :
      Change m (.act task) none (m.setTask task (.running program))
  | calledAll {task session want program}
      (htask : m.tasks[task]? = some (.calling (.every session want) program)) :
      Change m (.act task) none
        ({ m with tasks := m.tasks.map (Task.wakenAt session want) }.setTask task
          (.running program))
  | woke {caller sleeper session want program ticket action next}
      (hcaller : m.tasks[caller]? = some (.calling (.one session want) program))
      (hsleeper : m.tasks[sleeper]? = some (.asleep ticket action next))
      (hpost : action.post? = some (session, want)) :
      Change m (.wake caller sleeper) none
        ((m.setTask sleeper (.running (.act action next))).setTask caller (.running program))
  | expired {task ticket action next deadline}
      (htask : m.tasks[task]? = some (.asleep ticket action next))
      (hdeadline : action.deadline? = some deadline) (hpast : deadline ≤ m.world.now) :
      Change m (.expire task) none (m.setTask task (.lapsed action next))
  | ticked {nanos} :
      Change m (.tick nanos) none { m with world := { m.world with now := m.world.now + nanos } }

/-- There is a sleeper where some task sleeps. -/
theorem hasSleeper_iff {m : Machine ε α} {session : Session} {want : Want} :
    m.hasSleeper session want = true ↔ ∃ t ∈ m.tasks, t.sleepsAt session want = true :=
  List.any_eq_true

/-- A task that calls does not sleep. -/
theorem ne_of_calling_of_asleep {m : Machine ε α} {caller sleeper ticket : Nat} {call : Call}
    {program : Program ε α} {action : Action} {next : action.Reply → Program ε α}
    (hcaller : m.tasks[caller]? = some (.calling call program))
    (hsleeper : m.tasks[sleeper]? = some (.asleep ticket action next)) : sleeper ≠ caller := by
  rintro rfl
  rw [hcaller] at hsleeper
  cases hsleeper

/-- A task that acts makes one of five changes. -/
theorem change_of_act {m m' : Machine ε α} {task : Nat} (h : m.act task = some m') :
    Change m (.act task) (m.turn? (.act task)) m' := by
  unfold act at h
  split at h
  next action next htask =>
    split at h
    next answer world call hrun =>
      obtain rfl := Option.some.inj h
      simp only [turn?, htask, hrun]
      exact .answered (.inl htask) hrun
    next otherwise hrun =>
      obtain rfl := Option.some.inj h
      simp only [turn?, htask, hrun]
      exact .layDown htask hrun
    next => cases h
  next action next htask =>
    split at h
    next answer world call hrun =>
      obtain rfl := Option.some.inj h
      simp only [turn?, htask, hrun]
      exact .answered (.inr htask) hrun
    next otherwise hrun =>
      obtain rfl := Option.some.inj h
      simp only [turn?, htask, hrun]
      exact .gaveUp htask hrun
    next => cases h
  next session want program htask =>
    split at h
    · cases h
    · obtain rfl := Option.some.inj h
      simp only [turn?, htask]
      exact .unheard htask (Bool.eq_false_iff.2 ‹_›)
  next session want program htask =>
    obtain rfl := Option.some.inj h
    simp only [turn?, htask]
    exact .calledAll htask
  next => cases h

/-- Every move makes one of the changes. -/
theorem change_of_step {m m' : Machine ε α} {move : Move} (h : m.step move = some m') :
    Change m move (m.turn? move) m' := by
  cases move with
  | act task => exact change_of_act h
  | wake caller sleeper =>
    simp only [step, wake] at h
    split at h
    next session want program t hcaller hsleeper =>
      split at h
      next hsleeps =>
        obtain rfl := Option.some.inj h
        obtain ⟨ticket, action, next, rfl, hpost⟩ := Task.sleepsAt_iff.1 hsleeps
        exact .woke hcaller hsleeper hpost
      next => cases h
    next => cases h
  | expire task =>
    simp only [step, expire] at h
    split at h
    next ticket action next htask =>
      split at h
      next deadline hdeadline =>
        split at h
        next hpast =>
          obtain rfl := Option.some.inj h
          exact .expired htask hdeadline hpast
        next => cases h
      next => cases h
    next => cases h
  | tick nanos =>
    obtain rfl := Option.some.inj h
    exact .ticked

end Machine

end Loopback
