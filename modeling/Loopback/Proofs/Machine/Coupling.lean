import Loopback.Proofs.Machine.Rule
import Mathlib.Data.Option.Basic

/-!
# Two machines move by move

Two machines are coupled if their worlds are, and if what each task of the one has left to do is coupled to
what the task at the same place has left to do in the other. When worlds and programs are coupled is open; it
is only asked that programs which are coupled take actions on which the two worlds come to like verdicts, and
that they stay coupled whatever other tasks do. Then any move is open to both machines or to neither, and
leaves them coupled, so that a run of the one can be made by the other.
-/

namespace Loopback

variable {ε α : Type}

/-- When the worlds of two machines are coupled, and when programs of a task are, in a first world. Some
actions may have to be permitted to get answers after which programs are still coupled. -/
structure Pairing (ε α : Type) where
  worlds : World → World → Prop
  programs : World → Nat → Program ε α → Program ε α → Prop
  permits : World → World → Nat → Action → Prop

/-- Like verdicts on the actions of two programs: both are answered, with the same call, or both have to
wait, or both are held up. What follows is coupled. -/
inductive Pairing.Verdicts (c : Pairing ε α) (w w' : World) (task : Nat) {action action' : Action}
    (next : action.Reply → Program ε α) (next' : action'.Reply → Program ε α) :
    Verdict action.Reply → Verdict action'.Reply → Prop where
  | reply {answer : action.Reply} {answer' : action'.Reply} {v v' : World} (call : Option Call)
      (h : c.permits w w' task action → c.worlds v v' ∧ c.programs v task (next answer) (next' answer')) :
      Verdicts c w w' task next next' (.reply answer v call) (.reply answer' v' call)
  | wait {otherwise : action.Reply} {otherwise' : action'.Reply}
      (h : action.deadline? ≠ none → c.programs w task (next otherwise) (next' otherwise')) :
      Verdicts c w w' task next next' (.wait otherwise) (.wait otherwise')
  | held : Verdicts c w w' task next next' .held .held

/-- Programs at like points: both have ended, or both are before actions that wait for the same, and on
which the verdicts are alike. -/
inductive Pairing.Points (c : Pairing ε α) (w w' : World) (task : Nat) :
    Program ε α → Program ε α → Prop where
  | ended {p p' : Program ε α} {outcome outcome' : Outcome ε α} (h : p.outcome? = some outcome)
      (h' : p'.outcome? = some outcome') : Points c w w' task p p'
  | before {action action' : Action} {next : action.Reply → Program ε α} {next' : action'.Reply → Program ε α}
      (hpost : action'.post? = action.post?) (hdeadline : action'.deadline? = action.deadline?)
      (hverdicts : c.Verdicts w w' task next next' (action.run task w) (action'.run task w')) :
      Points c w w' task (.act action next) (.act action' next')

/-- What couples two machines for good. -/
structure Coupling (ε α : Type) extends Pairing ε α where
  now_eq {w w' : World} : worlds w w' → w'.now = w.now
  later {w w' : World} (nanos : Nat) :
    worlds w w' → worlds { w with now := w.now + nanos } { w' with now := w'.now + nanos }
  points {w w' : World} {task : Nat} {p p' : Program ε α} :
    worlds w w' → programs w task p p' → toPairing.Points w w' task p p'
  ticked {w : World} {task : Nat} {p p' : Program ε α} (nanos : Nat) :
    programs w task p p' → programs { w with now := w.now + nanos } task p p'
  beside {w v : World} {task other : Nat} {p p' : Program ε α} {action : Action} {answer : action.Reply} :
    action.Comes other w answer v → programs w task p p' → programs v task p p'

/-- Tasks that stand alike, with programs that are coupled. -/
inductive Task.Coupled (programs : Program ε α → Program ε α → Prop) : Task ε α → Task ε α → Prop where
  | running {p p' : Program ε α} (h : programs p p') : Coupled programs (.running p) (.running p')
  | calling {p p' : Program ε α} (call : Call) (h : programs p p') :
      Coupled programs (.calling call p) (.calling call p')
  | asleep {action action' : Action} {next : action.Reply → Program ε α} {next' : action'.Reply → Program ε α}
      (ticket : Nat) (hpost : action'.post? = action.post?) (hdeadline : action'.deadline? = action.deadline?)
      (h : programs (.act action next) (.act action' next')) :
      Coupled programs (.asleep ticket action next) (.asleep ticket action' next')
  | lapsed {action action' : Action} {next : action.Reply → Program ε α} {next' : action'.Reply → Program ε α}
      (hdeadline : action.deadline? ≠ none) (h : programs (.act action next) (.act action' next')) :
      Coupled programs (.lapsed action next) (.lapsed action' next')

namespace Task.Coupled

variable {programs later : Program ε α → Program ε α → Prop} {task task' : Task ε α} {p p' : Program ε α}

/-- Tasks are coupled by less, too. -/
theorem mono (h : task.Coupled programs task') (hlater : ∀ p p', programs p p' → later p p') :
    task.Coupled later task' := by
  cases h with
  | running h => exact .running (hlater _ _ h)
  | calling call h => exact .calling call (hlater _ _ h)
  | asleep ticket hpost hdeadline h => exact .asleep ticket hpost hdeadline (hlater _ _ h)
  | lapsed hdeadline h => exact .lapsed hdeadline (hlater _ _ h)

/-- What tasks have left to do is coupled. -/
theorem program (h : task.Coupled programs task') : programs task.program task'.program := by
  cases h <;> assumption

/-- Coupled tasks sleep at the same queues. -/
theorem sleepsAt (h : task.Coupled programs task') (session : Session) (want : Want) :
    task'.sleepsAt session want = task.sleepsAt session want := by
  cases h with
  | asleep ticket hpost => simp only [Task.sleepsAt, hpost]
  | _ => rfl

/-- Coupled tasks that are woken are coupled. -/
theorem woken (h : task.Coupled programs task') : task.woken.Coupled programs task'.woken := by
  cases h with
  | asleep ticket hpost hdeadline h => exact .running h
  | running h => exact .running h
  | calling call h => exact .calling call h
  | lapsed hdeadline h => exact .lapsed hdeadline h

/-- Coupled tasks that are woken at a queue are coupled. -/
theorem wakenAt (h : task.Coupled programs task') (session : Session) (want : Want) :
    (task.wakenAt session want).Coupled programs (task'.wakenAt session want) := by
  unfold Task.wakenAt
  rw [h.sleepsAt]
  split
  · exact h.woken
  · exact h

/-- Tasks that go on after the same call are coupled. -/
theorem after (h : programs p p') (call : Option Call) :
    (Task.after call p).Coupled programs (Task.after call p') := by
  cases call with
  | none => exact .running h
  | some call => exact .calling call h

end Task.Coupled

/-- Machines in worlds that are coupled, with tasks that are coupled. -/
structure Coupling.Couples (c : Coupling ε α) (m m' : Machine ε α) : Prop where
  world : c.worlds m.world m'.world
  tasks : ∀ task, Option.Rel (Task.Coupled (c.programs m.world task)) m.tasks[task]? m'.tasks[task]?
  tickets : m'.tickets = m.tickets

namespace Coupling.Couples

variable {c : Coupling ε α} {m m' : Machine ε α}

/-- At each place there are tasks that are coupled, or none. -/
theorem cases (h : c.Couples m m') (task : Nat) :
    (m.tasks[task]? = none ∧ m'.tasks[task]? = none) ∨
      ∃ state state', m.tasks[task]? = some state ∧ m'.tasks[task]? = some state' ∧
        state.Coupled (c.programs m.world task) state' := by
  have hplace := h.tasks task
  generalize m.tasks[task]? = place, m'.tasks[task]? = place' at hplace ⊢
  cases hplace with
  | none => exact .inl ⟨rfl, rfl⟩
  | some hcoupled => exact .inr ⟨_, _, rfl, rfl, hcoupled⟩

/-- Putting tasks that are coupled at the same place leaves machines coupled. -/
theorem setTask (h : c.Couples m m') {task : Nat} {state state' : Task ε α}
    (hstate : state.Coupled (c.programs m.world task) state') :
    c.Couples (m.setTask task state) (m'.setTask task state') where
  world := h.world
  tasks other := by
    have hother := h.tasks other
    simp only [Machine.setTask, List.getElem?_set']
    by_cases hsame : task = other
    · subst hsame
      simp only [if_true]
      generalize m.tasks[task]? = place, m'.tasks[task]? = place' at hother
      cases hother with
      | none => exact .none
      | some => exact .some hstate
    · simp only [hsame, if_false]
      exact hother
  tickets := h.tickets

/-- Worlds that are coupled may be put in, if programs are as much coupled in the new one. -/
theorem withWorld (h : c.Couples m m') {world world' : World} (hworld : c.worlds world world')
    (hprograms : ∀ task p p', c.programs m.world task p p' → c.programs world task p p') :
    c.Couples { m with world } { m' with world := world' } where
  world := hworld
  tasks task := by
    have hplace := h.tasks task
    generalize m.tasks[task]? = place, m'.tasks[task]? = place' at hplace
    cases hplace with
    | none => exact .none
    | some hcoupled => exact .some (hcoupled.mono (hprograms task))
  tickets := h.tickets

/-- Machines that are coupled have the same sleepers. -/
theorem hasSleeper (h : c.Couples m m') (session : Session) (want : Want) :
    m'.hasSleeper session want = m.hasSleeper session want := by
  rw [Bool.eq_iff_iff, Machine.hasSleeper_iff, Machine.hasSleeper_iff]
  constructor
  · rintro ⟨state, hstate, hsleeps⟩
    obtain ⟨task, htask⟩ := List.mem_iff_getElem?.1 hstate
    obtain ⟨-, hnone⟩ | ⟨other, _, hother, hsame, hcoupled⟩ := h.cases task
    · cases htask.symm.trans hnone
    · obtain rfl := Option.some.inj (htask.symm.trans hsame)
      exact ⟨other, List.mem_of_getElem? hother, (hcoupled.sleepsAt session want).symm.trans hsleeps⟩
  · rintro ⟨state, hstate, hsleeps⟩
    obtain ⟨task, htask⟩ := List.mem_iff_getElem?.1 hstate
    obtain ⟨hnone, -⟩ | ⟨_, other, hsame, hother, hcoupled⟩ := h.cases task
    · cases htask.symm.trans hnone
    · obtain rfl := Option.some.inj (htask.symm.trans hsame)
      exact ⟨other, List.mem_of_getElem? hother, (hcoupled.sleepsAt session want).trans hsleeps⟩

/-- An action that is answered leaves machines coupled where it leaves worlds and programs coupled. -/
theorem answered (h : c.Couples m m') {task : Nat} {action : Action} {answer : action.Reply}
    {world world' : World} {call : Option Call} (hrun : action.run task m.world = .reply answer world call)
    (hworld : c.worlds world world') {p p' : Program ε α} (hprogram : c.programs world task p p') :
    c.Couples { m.setTask task (.after call p) with world }
      { m'.setTask task (.after call p') with world := world' } :=
  (h.withWorld hworld fun _ _ _ => c.beside (.replied hrun)).setTask (Task.Coupled.after hprogram call)

section act

variable {task : Nat} (hpermits : ∀ turn, m.turn? (.act task) = some turn →
  c.permits m.world m'.world turn.task turn.deed.action)

include hpermits

/-- A task that is awake acts in both machines or in neither, and leaves them coupled. -/
theorem act_running (h : c.Couples m m') {p p' : Program ε α} (hprogram : c.programs m.world task p p')
    (htask : m.tasks[task]? = some (.running p)) (htask' : m'.tasks[task]? = some (.running p')) :
    Option.Rel c.Couples (m.act task) (m'.act task) := by
  cases c.points h.world hprogram with
  | ended houtcome houtcome' =>
    cases p <;> cases houtcome <;> cases p' <;> cases houtcome' <;>
      simp only [Machine.act, htask, htask'] <;> exact .none
  | @before action action' next next' hpost hdeadline hverdicts =>
    simp only [Machine.act, htask, htask']
    simp only [Machine.turn?, htask] at hpermits
    -- The verdicts get names, so that the two can be split in one case analysis.
    generalize hrun : action.run task m.world = verdict, action'.run task m'.world = verdict' at hverdicts
    rw [hrun] at hpermits
    cases hverdicts with
    | reply call hnext =>
      obtain ⟨hworld, hnext⟩ := hnext (hpermits _ rfl)
      exact .some (h.answered hrun hworld hnext)
    | wait =>
      have hasleep := h.setTask (Task.Coupled.asleep m.tickets hpost hdeadline hprogram)
      rw [h.tickets]
      exact .some ⟨hasleep.world, hasleep.tasks, rfl⟩
    | held => exact .none

/-- A task that tries for the last time does so in both machines, and leaves them coupled. -/
theorem act_lapsed (h : c.Couples m m') {action action' : Action} {next : action.Reply → Program ε α}
    {next' : action'.Reply → Program ε α} (hlapsed : action.deadline? ≠ none)
    (hprogram : c.programs m.world task (.act action next) (.act action' next'))
    (htask : m.tasks[task]? = some (.lapsed action next))
    (htask' : m'.tasks[task]? = some (.lapsed action' next')) :
    Option.Rel c.Couples (m.act task) (m'.act task) := by
  have hpoints := c.points h.world hprogram
  generalize hp : Program.act action next = p, hp' : Program.act action' next' = p' at hpoints
  cases hpoints with
  | ended houtcome => cases hp; cases houtcome
  | before hpost hdeadline hverdicts =>
    cases hp
    cases hp'
    simp only [Machine.act, htask, htask']
    simp only [Machine.turn?, htask] at hpermits
    generalize hrun : action.run task m.world = verdict, action'.run task m'.world = verdict' at hverdicts
    rw [hrun] at hpermits
    cases hverdicts with
    | reply call hnext =>
      obtain ⟨hworld, hnext⟩ := hnext (hpermits _ rfl)
      exact .some (h.answered hrun hworld hnext)
    | wait hnext => exact .some (h.setTask (.running (hnext hlapsed)))
    | held => exact .none

/-- A task that acts can do so in both machines or in neither, and leaves them coupled. -/
theorem act (h : c.Couples m m') : Option.Rel c.Couples (m.act task) (m'.act task) := by
  obtain ⟨hnone, hnone'⟩ | ⟨state, state', htask, htask', hcoupled⟩ := h.cases task
  · simp only [Machine.act, hnone, hnone']
    exact .none
  cases hcoupled with
  | running hprogram => exact h.act_running hpermits hprogram htask htask'
  | lapsed hdeadline hprogram => exact h.act_lapsed hpermits hdeadline hprogram htask htask'
  | asleep =>
    simp only [Machine.act, htask, htask']
    exact .none
  | calling call hprogram =>
    cases call with
    | one session want =>
      simp only [Machine.act, htask, htask', h.hasSleeper]
      split
      · exact .none
      · exact .some (h.setTask (.running hprogram))
    | every session want =>
      simp only [Machine.act, htask, htask']
      have hcalled : c.Couples { m with tasks := m.tasks.map (Task.wakenAt session want) }
          { m' with tasks := m'.tasks.map (Task.wakenAt session want) } := by
        refine ⟨h.world, fun task => ?_, h.tickets⟩
        simp only [List.getElem?_map]
        obtain ⟨hnone, hnone'⟩ | ⟨state, state', hstate, hstate', hcoupled⟩ := h.cases task
        · rw [hnone, hnone']
          exact .none
        · rw [hstate, hstate']
          exact .some (hcoupled.wakenAt session want)
      exact .some (hcalled.setTask (.running hprogram))

end act

/-- A task that calls wakes a sleeper in both machines or in neither, and leaves them coupled. -/
theorem wake (h : c.Couples m m') (caller sleeper : Nat) :
    Option.Rel c.Couples (m.wake caller sleeper) (m'.wake caller sleeper) := by
  unfold Machine.wake
  obtain ⟨hnone, hnone'⟩ | ⟨state, state', hcaller, hcaller', hcoupled⟩ := h.cases caller
  · rw [hnone, hnone']
    exact .none
  rw [hcaller, hcaller']
  cases hcoupled with
  | calling call hprogram =>
    cases call with
    | one session want =>
      obtain ⟨hnone, hnone'⟩ | ⟨other, other', hsleeper, hsleeper', hother⟩ := h.cases sleeper
      · rw [hnone, hnone']
        exact .none
      · rw [hsleeper, hsleeper']
        simp only [hother.sleepsAt]
        split
        · exact .some ((h.setTask hother.woken).setTask (.running hprogram))
        · exact .none
    | every => exact .none
  | _ => exact .none

/-- A deadline comes in both machines or in neither, and leaves them coupled. -/
theorem expire (h : c.Couples m m') (task : Nat) :
    Option.Rel c.Couples (m.expire task) (m'.expire task) := by
  unfold Machine.expire
  obtain ⟨hnone, hnone'⟩ | ⟨state, state', htask, htask', hcoupled⟩ := h.cases task
  · rw [hnone, hnone']
    exact .none
  rw [htask, htask']
  cases hcoupled with
  | @asleep action action' next next' ticket hpost hdeadline hprogram =>
    simp only [hdeadline, c.now_eq h.world]
    split
    next deadline hsome =>
      split
      · exact .some (h.setTask (.lapsed (by simp [hsome]) hprogram))
      · exact .none
    next => exact .none
  | _ => exact .none

/-- Any move is open to both machines or to neither, and leaves them coupled. -/
theorem step (h : c.Couples m m') (move : Move) (hpermits : ∀ turn, m.turn? move = some turn →
    c.permits m.world m'.world turn.task turn.deed.action) :
    Option.Rel c.Couples (m.step move) (m'.step move) := by
  cases move with
  | act task => exact h.act hpermits
  | wake caller sleeper => exact h.wake caller sleeper
  | expire task => exact h.expire task
  | tick nanos => exact .some (h.withWorld (c.later nanos h.world) fun _ _ _ => c.ticked nanos)

end Coupling.Couples

namespace Machine

variable {c : Coupling ε α} {start start' m : Machine ε α} {moves : List Move} {turns : List Turn}

/-- A run of one machine can be made by another that is coupled to it, and leaves them coupled. -/
theorem Run.couples (hrun : Run start moves turns m) (h : c.Couples start start')
    (hpermits : ∀ turn ∈ turns, ∀ w', c.worlds turn.before w' →
      c.permits turn.before w' turn.task turn.deed.action) :
    ∃ turns' m', Run start' moves turns' m' ∧ c.Couples m m' := by
  induction hrun with
  | start => exact ⟨[], start', .start, h⟩
  | @step moves turns m next move _ hstep ih =>
    obtain ⟨turns', m', hrun', hcouples⟩ := ih fun turn hturn => hpermits turn (List.mem_append_left _ hturn)
    have hnext := hcouples.step move fun turn hturn => by
      have hchange := change_of_step hstep
      rw [hturn] at hchange
      rw [← hchange.comes.1]
      refine hpermits turn (List.mem_append_right _ (by simp [hturn])) _ ?_
      rw [hchange.comes.1]
      exact hcouples.world
    rw [hstep] at hnext
    generalize hstep' : m'.step move = next? at hnext
    cases hnext with
    | some hcouples' => exact ⟨_, _, hrun'.step move hstep', hcouples'⟩

/-- A machine that is coupled to itself stays so. -/
theorem Run.couples_self (hrun : Run start moves turns m) (h : c.Couples start start)
    (hpermits : ∀ w task action, c.permits w w task action) : c.Couples m m := by
  induction hrun with
  | start => exact h
  | step move _ hstep ih =>
    have hnext := ih.step move fun turn _ => hpermits _ _ _
    rw [hstep] at hnext
    cases hnext with
    | some hcouples => exact hcouples

end Machine

end Loopback
