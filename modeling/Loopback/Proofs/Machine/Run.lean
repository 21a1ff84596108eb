import Loopback.Machine.Schedule
import Loopback.Proofs.Machine.Course

/-!
# Runs and their histories

A run is a machine that moves lead to, with the turns that were taken on the way. Whatever the
others do, each task has left to do what its own deeds leave of its program. So the course of every
program, judged alone, tells what holds of a run, if the world gives the answers that were expected
of it: such an understanding between tasks and world is a regime.
-/

namespace Loopback

variable {ε α : Type}

/-- What a task did in a history. -/
def deedsOf (task : Nat) (turns : List Turn) : List Deed :=
  (turns.filter fun turn => turn.task = task).map (·.deed)

/-- What a task did in earlier turns and then in later ones. -/
@[simp] theorem deedsOf_append (task : Nat) (turns later : List Turn) :
    deedsOf task (turns ++ later) = deedsOf task turns ++ deedsOf task later := by
  simp [deedsOf]

/-- What a task did in one turn, if that is its own. -/
theorem deedsOf_singleton (task : Nat) (turn : Turn) :
    deedsOf task [turn] = if turn.task = task then [turn.deed] else [] := by
  by_cases h : turn.task = task <;> simp [deedsOf, h]

/-- What a task did in its own turn and then in others. -/
theorem deedsOf_cons_self {task : Nat} {turn : Turn} (h : turn.task = task) (turns : List Turn) :
    deedsOf task (turn :: turns) = turn.deed :: deedsOf task turns := by
  simp [deedsOf, h]

/-- What holds of the deeds of all turns holds of the deeds of each task. -/
theorem forall_deedsOf {turns : List Turn} {holds : Deed → Prop} (h : ∀ turn ∈ turns, holds turn.deed)
    (task : Nat) : ∀ deed ∈ deedsOf task turns, holds deed := by
  intro deed hdeed
  obtain ⟨turn, hturn, rfl⟩ := List.mem_map.1 hdeed
  exact h turn (List.mem_filter.1 hturn).1

/-- What is done in a turn, its task did. -/
theorem mem_deedsOf_of_mem {turn : Turn} {turns : List Turn} (h : turn ∈ turns) :
    turn.deed ∈ deedsOf turn.task turns :=
  List.mem_map.2 ⟨turn, List.mem_filter.2 ⟨h, by simp⟩, rfl⟩

/-- What is gathered from the turns of a history, of which only those of one task have something, is
gathered from the deeds of that task. -/
theorem flatMap_deedsOf {τ : Type} {turns : List Turn} {task : Nat} {gather : Deed → List τ}
    (h : ∀ turn ∈ turns, turn.task ≠ task → gather turn.deed = []) :
    (turns.flatMap fun turn => gather turn.deed) = (deedsOf task turns).flatMap gather := by
  induction turns with
  | nil => rfl
  | cons turn rest ih =>
    obtain ⟨hturn, hrest⟩ := List.forall_mem_cons.1 h
    rw [List.flatMap_cons, ih hrest, ← List.singleton_append, deedsOf_append, List.flatMap_append,
      deedsOf_singleton]
    by_cases htask : turn.task = task
    · simp [htask]
    · simp [htask, hturn htask]

/-- What only one task does is counted among its deeds. -/
theorem countP_deedsOf {turns : List Turn} {task : Nat} {counts : Deed → Bool}
    (h : ∀ turn ∈ turns, counts turn.deed = true → turn.task = task) :
    (turns.countP fun turn => counts turn.deed) = (deedsOf task turns).countP counts := by
  rw [deedsOf, List.countP_map, List.countP_filter]
  refine List.countP_congr fun turn hturn => ?_
  simpa using h turn hturn

namespace Machine

/-- A machine that certain moves lead to, with the turns taken on the way. -/
inductive Run (start : Machine ε α) : List Move → List Turn → Machine ε α → Prop where
  | start : Run start [] [] start
  | step {moves : List Move} {turns : List Turn} {m m' : Machine ε α} (move : Move) :
      Run start moves turns m → m.step move = some m' →
      Run start (moves ++ [move]) (turns ++ (m.turn? move).toList) m'

/-- Reachable machines are those that runs lead to. -/
theorem reachable_iff_run {start m : Machine ε α} :
    Reachable start m ↔ ∃ moves turns, Run start moves turns m := by
  constructor
  · intro h
    induction h with
    | start => exact ⟨[], [], .start⟩
    | step move _ hstep ih =>
      obtain ⟨moves, turns, hrun⟩ := ih
      exact ⟨_, _, hrun.step move hstep⟩
  · rintro ⟨moves, turns, h⟩
    induction h with
    | start => exact .start
    | step move _ hstep ih => exact ih.step move hstep

/-- Make moves one after another, and tell the turns that they made. -/
def run? (m : Machine ε α) : List Move → Option (List Turn × Machine ε α)
  | [] => some ([], m)
  | move :: moves => do
    let m' ← m.step move
    let (turns, last) ← m'.run? moves
    some ((m.turn? move).toList ++ turns, last)

/-- Moves made one after another prolong a run. -/
theorem Run.run? {start m last : Machine ε α} {moves more : List Move} {turns later : List Turn}
    (h : Run start moves turns m) (hmore : m.run? more = some (later, last)) :
    Run start (moves ++ more) (turns ++ later) last := by
  induction more generalizing m moves turns later with
  | nil =>
    cases hmore
    simpa using h
  | cons move more ih =>
    simp only [Machine.run?, Option.bind_eq_bind, Option.bind_eq_some_iff, Option.some.injEq,
      Prod.mk.injEq, Prod.exists] at hmore
    obtain ⟨m', hstep, rest, last', hrest, rfl, rfl⟩ := hmore
    simpa using ih (h.step move hstep) hrest

/-- A run ends with the last of its moves. -/
theorem Run.of_concat {start m : Machine ε α} {moves : List Move} {move : Move} {turns : List Turn}
    (h : Run start (moves ++ [move]) turns m) :
    ∃ before earlier, Run start moves earlier before ∧ before.step move = some m ∧
      turns = earlier ++ (before.turn? move).toList := by
  generalize hmoves : moves ++ [move] = all at h
  cases h with
  | start => simp at hmoves
  | step last hrun hstep =>
    obtain ⟨rfl, hlast⟩ := List.append_inj' hmoves rfl
    obtain rfl := List.singleton_inj.1 hlast
    exact ⟨_, _, hrun, hstep, rfl⟩

/-- Where certain moves lead to is determined by them. -/
theorem Run.unique {start m m' : Machine ε α} {moves : List Move} {turns turns' : List Turn}
    (h : Run start moves turns m) (h' : Run start moves turns' m') : turns' = turns ∧ m' = m := by
  induction h generalizing turns' m' with
  | start =>
    generalize hmoves : ([] : List Move) = all at h'
    cases h' with
    | start => exact ⟨rfl, rfl⟩
    | step => simp at hmoves
  | step move _ hstep ih =>
    obtain ⟨before, earlier, hrun, hstep', rfl⟩ := h'.of_concat
    obtain ⟨rfl, rfl⟩ := ih hrun
    exact ⟨rfl, Option.some.inj (hstep'.symm.trans hstep)⟩

/-- What moves lead to can be looked up, with the turns that were taken. -/
theorem exists_run {m : Machine ε α} {moves : List Move} {holds : List Turn → Machine ε α → Prop}
    [∀ turns m', Decidable (holds turns m')]
    (h : ((m.run? moves).any fun done => decide (holds done.1 done.2)) = true) :
    ∃ turns m', Run m moves turns m' ∧ holds turns m' := by
  obtain ⟨⟨turns, m'⟩, hmoves, hholds⟩ := (Option.any_eq_true _ _).1 h
  exact ⟨turns, m', Run.start.run? hmoves, of_decide_eq_true hholds⟩

/-- What moves lead to, and further moves from there. -/
theorem exists_run_run {m : Machine ε α} {moves more : List Move}
    {holds : List Turn → Machine ε α → List Turn → Machine ε α → Prop}
    [∀ turns m' later m'', Decidable (holds turns m' later m'')]
    (h : ((m.run? moves).any fun done =>
      (done.2.run? more).any fun rest => decide (holds done.1 done.2 rest.1 rest.2)) = true) :
    ∃ turns m' later m'', Run m moves turns m' ∧ Run m' more later m'' ∧ holds turns m' later m'' := by
  obtain ⟨⟨turns, m'⟩, hmoves, hmore⟩ := (Option.any_eq_true _ _).1 h
  obtain ⟨⟨later, m''⟩, hrest, hholds⟩ := (Option.any_eq_true _ _).1 hmore
  exact ⟨turns, m', later, m'', Run.start.run? hmoves, Run.start.run? hrest, of_decide_eq_true hholds⟩

/-- What holds of every change with a turn holds of every turn of a run. -/
theorem Run.forall_turns {start m : Machine ε α} {moves : List Move} {turns : List Turn}
    (h : Run start moves turns m) {holds : Turn → Prop}
    (hchange : ∀ {m m' : Machine ε α} {move : Move} {turn : Turn},
      Change m move (some turn) m' → holds turn) : ∀ turn ∈ turns, holds turn := by
  induction h with
  | start => simp
  | @step moves turns m m' move _ hstep ih =>
    intro turn hturn
    rcases List.mem_append.1 hturn with hturn | hturn
    · exact ih turn hturn
    · have hstep := change_of_step hstep
      rw [Option.mem_toList.1 hturn] at hstep
      exact hchange hstep

/-- What a task of a machine has left to do. -/
def programOf? (m : Machine ε α) (task : Nat) : Option (Program ε α) :=
  (m.tasks[task]?).map Task.program

/-- The program of a task is what is left for it to do, wherever it stands. -/
theorem programOf?_eq_some {m : Machine ε α} {task : Nat} {p : Program ε α} :
    m.programOf? task = some p ↔ ∃ t, m.tasks[task]? = some t ∧ t.program = p :=
  Option.map_eq_some_iff

/-- A task that is set has the program of its new state, and every other one its own. -/
@[simp] theorem programOf?_setTask (m : Machine ε α) (task other : Nat) (state : Task ε α) :
    (m.setTask task state).programOf? other =
      if task = other then (m.programOf? other).map fun _ => state.program
      else m.programOf? other := by
  by_cases h : task = other
  · subst h
    by_cases hlen : task < m.tasks.length <;> simp [programOf?, setTask, hlen]
  · simp [programOf?, setTask, h]

/-- A task that is there has a program. -/
theorem programOf?_of_getElem? {m : Machine ε α} {task : Nat} {t : Task ε α}
    (h : m.tasks[task]? = some t) : m.programOf? task = some t.program := by
  rw [programOf?, h, Option.map_some]

/-- A task that has ended has nothing left to do. -/
theorem programOf?_of_outcomeOf? {m : Machine ε α} {task : Nat} {outcome : Outcome ε α}
    (h : m.outcomeOf? task = some outcome) :
    ∃ p, m.programOf? task = some p ∧ p.stand = .ended outcome := by
  unfold outcomeOf? at h
  split at h
  next state htask =>
    refine ⟨_, programOf?_of_getElem? htask, ?_⟩
    cases state with
    | running program => cases program <;> cases h <;> rfl
    | _ => cases h
  next => cases h

/-- What is left to do for a task that has ended is its end. -/
theorem stand_of_outcomeOf? {m : Machine ε α} {task : Nat} {p : Program ε α} {outcome : Outcome ε α}
    (hp : m.programOf? task = some p) (h : m.outcomeOf? task = some outcome) : p.stand = .ended outcome := by
  obtain ⟨q, hq, hstand⟩ := programOf?_of_outcomeOf? h
  obtain rfl := Option.some.inj (hq.symm.trans hp)
  exact hstand

/-- A task at another point of the same program has as much left to do. -/
theorem programOf?_setTask_of_eq {m : Machine ε α} {task : Nat} {t state : Task ε α}
    (h : m.tasks[task]? = some t) (hprogram : state.program = t.program) (other : Nat) :
    (m.setTask task state).programOf? other = m.programOf? other := by
  rw [programOf?_setTask]
  split
  next heq =>
    subst heq
    rw [programOf?_of_getElem? h, Option.map_some, hprogram]
  next => rfl

/-- Waking everybody at a queue leaves each task as much to do. -/
theorem programOf?_map_wakenAt (m : Machine ε α) (session : Session) (want : Want) (task : Nat) :
    Machine.programOf? { m with tasks := m.tasks.map (Task.wakenAt session want) } task =
      m.programOf? task := by
  simp [programOf?, Function.comp_def]

/-- A change without a turn leaves each task as much to do. -/
theorem Change.programOf?_eq {m m' : Machine ε α} {move : Move} (h : Change m move none m')
    (task : Nat) : m'.programOf? task = m.programOf? task := by
  cases h with
  | @layDown i action next otherwise htask hrun =>
    exact programOf?_setTask_of_eq htask
      (show (Task.asleep m.tickets action next).program = .act action next from rfl) task
  | unheard htask hnobody => exact programOf?_setTask_of_eq htask (by rfl) task
  | @calledAll i session want program htask =>
    have hwaken : ({ m with tasks := m.tasks.map (Task.wakenAt session want) } : Machine ε α).tasks[i]? =
        some (.calling (.every session want) program) := by
      simp [htask, Task.wakenAt, Task.sleepsAt]
    exact (programOf?_setTask_of_eq hwaken (by rfl) task).trans (programOf?_map_wakenAt m session want task)
  | @woke caller sleeper session want program ticket action next hcaller hsleeper hpost =>
    have hne := ne_of_calling_of_asleep hcaller hsleeper
    have hcaller' : (m.setTask sleeper (.running (.act action next))).tasks[caller]? =
        some (.calling (.one session want) program) := by
      simpa [setTask, hne] using hcaller
    exact (programOf?_setTask_of_eq hcaller' (by rfl) task).trans
      (programOf?_setTask_of_eq hsleeper (by rfl) task)
  | expired htask hdeadline hpast => exact programOf?_setTask_of_eq htask (by rfl) task
  | ticked => rfl

/-- The task whose turn it is goes on with the answer, and the others have as much left to do. -/
theorem Change.programOf?_turn {m m' : Machine ε α} {move : Move} {turn : Turn}
    (h : Change m move (some turn) m') :
    ∃ next, m.programOf? turn.task = some (.act turn.deed.action next) ∧
      ∀ task, m'.programOf? task =
        if turn.task = task then some (next turn.deed.answer) else m.programOf? task := by
  cases h with
  | @answered i action next answer world call htask hrun =>
    have hprogram : m.programOf? i = some (.act action next) := by
      rcases htask with htask | htask <;> exact programOf?_of_getElem? htask
    refine ⟨next, hprogram, fun task => ?_⟩
    change (m.setTask i _).programOf? task = _
    rw [programOf?_setTask, Task.program_after]
    split
    next heq => rw [← heq, hprogram, Option.map_some]
    next => rfl
  | @gaveUp i action next otherwise htask hrun =>
    have hprogram := programOf?_of_getElem? htask
    refine ⟨next, hprogram, fun task => ?_⟩
    rw [programOf?_setTask]
    split
    next heq => rw [← heq, hprogram, Option.map_some]; rfl
    next => rfl

/-- What a task has left to do is what its own deeds leave of its program. -/
theorem Run.leads {start m : Machine ε α} {moves : List Move} {turns : List Turn}
    (h : Run start moves turns m) {task : Nat} {p : Program ε α}
    (hp : start.programOf? task = some p) :
    ∃ q, m.programOf? task = some q ∧ p.Leads (deedsOf task turns) q := by
  induction h with
  | start => exact ⟨p, hp, .refl p⟩
  | @step moves turns m m' move _ hstep ih =>
    obtain ⟨q, hq, hleads⟩ := ih
    have hchange := change_of_step hstep
    cases hturn : m.turn? move with
    | none =>
      rw [hturn] at hchange
      exact ⟨q, (hchange.programOf?_eq task).trans hq, by simpa using hleads⟩
    | some turn =>
      rw [hturn] at hchange
      obtain ⟨next, hbefore, hafter⟩ := hchange.programOf?_turn
      by_cases hown : turn.task = task
      · subst hown
        obtain rfl := Option.some.inj (hq.symm.trans hbefore)
        refine ⟨next turn.deed.answer, by rw [hafter, if_pos rfl], ?_⟩
        simpa [deedsOf_singleton] using hleads.snoc turn.deed.answer
      · refine ⟨q, by rw [hafter, if_neg hown, hq], ?_⟩
        simpa [deedsOf_singleton, hown] using hleads

/-- No change adds or drops a task. -/
theorem Change.length_tasks {m m' : Machine ε α} {move : Move} {turn? : Option Turn}
    (h : Change m move turn? m') : m'.tasks.length = m.tasks.length := by
  cases h <;> simp [setTask]

/-- No task is added by a run, and none is lost. -/
theorem Run.length_tasks {start m : Machine ε α} {moves : List Move} {turns : List Turn}
    (h : Run start moves turns m) : m.tasks.length = start.tasks.length := by
  induction h with
  | start => rfl
  | step move _ hstep ih => exact (change_of_step hstep).length_tasks.trans ih

/-- Every turn is one of a task that was there from the start. -/
theorem Run.task_lt {start m : Machine ε α} {moves : List Move} {turns : List Turn}
    (h : Run start moves turns m) : ∀ turn ∈ turns, turn.task < start.tasks.length := by
  induction h with
  | start => simp
  | @step moves turns m m' move hrun hstep ih =>
    intro turn hturn
    rcases List.mem_append.1 hturn with hturn | hturn
    · exact ih turn hturn
    · have hchange := change_of_step hstep
      rw [Option.mem_toList.1 hturn] at hchange
      obtain ⟨next, hprogram, -⟩ := hchange.programOf?_turn
      obtain ⟨t, htask, -⟩ := programOf?_eq_some.1 hprogram
      rw [← hrun.length_tasks]
      exact (List.getElem?_eq_some_iff.1 htask).1

/-- A machine whose tasks are about to begin. -/
def ofPrograms (world : World) (programs : List (Program ε α)) : Machine ε α :=
  ⟨world, programs.map .running, 0⟩

/-- A machine made of programs has as much to do as they say. -/
theorem programOf?_ofPrograms (world : World) (programs : List (Program ε α)) (task : Nat) :
    (ofPrograms world programs).programOf? task = programs[task]? := by
  simp [programOf?, ofPrograms, Function.comp_def, Task.program]

/-- Each task of a run has left to do what its own deeds leave of one of the programs. -/
theorem Run.origin {world : World} {programs : List (Program ε α)} {m : Machine ε α}
    {moves : List Move} {turns : List Turn} (h : Run (ofPrograms world programs) moves turns m)
    {task : Nat} {q : Program ε α} (hq : m.programOf? task = some q) :
    ∃ p, programs[task]? = some p ∧ p.Leads (deedsOf task turns) q := by
  obtain ⟨t, htask, -⟩ := programOf?_eq_some.1 hq
  have hlen : task < programs.length := by
    have hlen := (List.getElem?_eq_some_iff.1 htask).1
    rw [h.length_tasks] at hlen
    simpa [ofPrograms] using hlen
  have hp : programs[task]? = some programs[task] := List.getElem?_eq_getElem hlen
  obtain ⟨q', hq', hleads⟩ := h.leads ((programOf?_ofPrograms world programs task).trans hp)
  obtain rfl := Option.some.inj (hq'.symm.trans hq)
  exact ⟨_, hp, hleads⟩

/-- Sleepers fall asleep in actions that have to wait, and they give up at a deadline. So what holds
of those, and of tasks that do not wait, holds of all tasks. -/
theorem Reachable.forall_tasks {world : World} {programs : List (Program ε α)} {m : Machine ε α}
    (h : Reachable (ofPrograms world programs) m) (holds : Task ε α → Prop)
    (hrunning : ∀ program, holds (.running program))
    (hcalling : ∀ call program, holds (.calling call program))
    (hasleep : ∀ {task w ticket action otherwise} next, action.run task w = .wait otherwise →
      holds (.asleep ticket action next))
    (hlapsed : ∀ {action deadline} next, action.deadline? = some deadline → holds (.lapsed action next)) :
    ∀ t ∈ m.tasks, holds t := by
  have hset : ∀ {tasks : List (Task ε α)} {i : Nat} {state : Task ε α},
      (∀ t ∈ tasks, holds t) → holds state → ∀ t ∈ tasks.set i state, holds t := by
    intro tasks i state htasks hstate t ht
    rcases List.mem_or_eq_of_mem_set ht with ht | rfl
    · exact htasks t ht
    · exact hstate
  induction h with
  | start =>
    intro t ht
    obtain ⟨program, -, rfl⟩ := List.mem_map.1 ht
    exact hrunning program
  | @step m m' move _ hstep ih =>
    have hchange := change_of_step hstep
    generalize m.turn? move = turn? at hchange
    cases hchange with
    | @answered task action next answer world call =>
      refine hset ih ?_
      cases call with
      | none => exact hrunning _
      | some call => exact hcalling call _
    | gaveUp => exact hset ih (hrunning _)
    | layDown htask hrun => exact hset ih (hasleep _ hrun)
    | unheard => exact hset ih (hrunning _)
    | calledAll =>
      refine hset (fun _ hwaken => ?_) (hrunning _)
      obtain ⟨t, ht, rfl⟩ := List.mem_map.1 hwaken
      unfold Task.wakenAt
      split
      · cases t with
        | asleep => exact hrunning _
        | _ => exact ih _ ht
      · exact ih t ht
    | woke => exact hset (hset ih (hrunning _)) (hrunning _)
    | expired htask hdeadline => exact hset ih (hlapsed _ hdeadline)
    | ticked => exact ih

/-- A task whose deadline has come had one. -/
theorem Reachable.deadline_of_lapsed {world : World} {programs : List (Program ε α)}
    {m : Machine ε α} (h : Reachable (ofPrograms world programs) m) {action : Action}
    {next : action.Reply → Program ε α} (hlapsed : Task.lapsed action next ∈ m.tasks) :
    action.deadline? ≠ none :=
  h.forall_tasks
    (fun
      | .lapsed action _ => action.deadline? ≠ none
      | _ => True)
    (fun _ => trivial) (fun _ _ => trivial) (fun _ _ => trivial)
    (fun _ hdeadline => by simp [hdeadline]) _ hlapsed

end Machine

end Loopback
