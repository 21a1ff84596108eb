import Loopback.Proofs.Machine.Run
import Loopback.Proofs.Machine.Weight

/-!
# The pace of a run

Between two turns of a task it falls asleep, is woken or makes a call at most a few times, and a call
to everybody wakes no more sleepers than there are tasks. So a run has no more moves than its turns
allow, but for the passing of time; and programs that take a bounded number of actions have bounded
runs only.
-/

namespace Loopback

variable {ε α : Type}

/-- Whether a move is the passing of time. -/
def Move.isTick : Move → Bool
  | .tick _ => true
  | _ => false

/-- How many of some moves are not the passing of time. -/
def pace (moves : List Move) : Nat := (moves.filter (!·.isTick)).length

/-- No moves have no pace. -/
@[simp] theorem pace_nil : pace [] = 0 := rfl

/-- The pace of moves and further moves is the sum of both. -/
@[simp] theorem pace_append (moves more : List Move) :
    pace (moves ++ more) = pace moves + pace more := by
  simp [pace]

/-- Each move adds to the pace, unless it is the passing of time. -/
@[simp] theorem pace_cons (move : Move) (moves : List Move) :
    pace (move :: moves) = (if move.isTick then 0 else 1) + pace moves := by
  cases h : move.isTick <;> simp [pace, h, Nat.add_comm]

/-- How many moves a task may give rise to before its next turn, among so many tasks. -/
def Task.slack (tasks : Nat) : Task ε α → Nat
  | .lapsed _ _ => 0
  | .asleep _ _ _ => 1
  | .running _ => 2
  | .calling _ _ => tasks + 4

/-- A task that was answered gives rise to as many moves as a call may take. -/
theorem Task.slack_after_le (tasks : Nat) (call : Option Call) (program : Program ε α) :
    (Task.after call program).slack tasks ≤ tasks + 4 := by
  cases call with
  | none => exact Nat.le_add_left 2 (tasks + 2)
  | some call => exact Nat.le_refl _

/-- To be woken gives a task one more move at most. -/
theorem Task.slack_wakenAt_le (tasks : Nat) (session : Session) (want : Want) (task : Task ε α) :
    (task.wakenAt session want).slack tasks ≤ task.slack tasks + 1 := by
  unfold wakenAt
  split
  · cases task with
    | asleep => exact Nat.le_refl _
    | _ => exact Nat.le_succ _
  · exact Nat.le_succ _

namespace Machine

/-- Waking sleepers raises the slack by no more than one for each task. -/
theorem sum_map_wakenAt_le (tasks : Nat) (session : Session) (want : Want) (members : List (Task ε α)) :
    ((members.map (Task.wakenAt session want)).map (Task.slack tasks)).sum ≤
      (members.map (Task.slack tasks)).sum + members.length := by
  induction members with
  | nil => exact Nat.le_refl _
  | cons task rest ih =>
    have htask := Task.slack_wakenAt_le tasks session want task
    simp only [List.map_cons, List.sum_cons, List.length_cons]
    omega

/-- A change that is not the passing of time uses up slack, unless it is a turn. -/
theorem Change.slack {m m' : Machine ε α} {move : Move} {turn? : Option Turn}
    (h : Change m move turn? m') {tasks : Nat} (htasks : m.tasks.length ≤ tasks) :
    pace [move] + m'.total (Task.slack tasks) ≤
      m.total (Task.slack tasks) + (tasks + 5) * turn?.toList.length := by
  -- Only a turn may add slack, by the call that it makes and by those whom the call wakes.
  cases h with
  | @answered task action next answer world call htask hrun =>
    have hafter := Task.slack_after_le (ε := ε) (α := α) tasks call (next answer)
    have htotal : (m.setTask task (.after call (next answer))).total (Task.slack tasks) ≤
        m.total (Task.slack tasks) + (Task.after call (next answer)).slack tasks := by
      rcases htask with htask | htask
      · have := total_setTask (Task.slack tasks) htask (.after call (next answer))
        omega
      · have := total_setTask (Task.slack tasks) htask (.after call (next answer))
        omega
    change 1 + (m.setTask task (.after call (next answer))).total _ ≤ _ + (tasks + 5) * 1
    omega
  | @gaveUp task action next otherwise htask hrun =>
    have htotal := total_setTask (Task.slack tasks) htask (.running (next otherwise))
    change _ + 0 = _ + 2 at htotal
    change 1 + _ ≤ _ + (tasks + 5) * 1
    omega
  | @layDown task action next otherwise htask hrun =>
    have htotal := total_setTask (Task.slack tasks) htask (.asleep m.tickets action next)
    change _ + 2 = _ + 1 at htotal
    change 1 + (m.setTask task (.asleep m.tickets action next)).total _ ≤ _ + 0
    omega
  | @unheard task session want program htask hnobody =>
    have htotal := total_setTask (Task.slack tasks) htask (.running program)
    change _ + (tasks + 4) = _ + 2 at htotal
    change 1 + _ ≤ _ + 0
    omega
  | @calledAll task session want program htask =>
    have hwaken : (m.tasks.map (Task.wakenAt session want))[task]? =
        some (.calling (.every session want) program) := by
      simp [htask, Task.wakenAt, Task.sleepsAt]
    have hsum := sum_map_wakenAt_le tasks session want m.tasks
    have htotal := sum_map_set (Task.slack tasks) hwaken (.running program)
    change _ + (tasks + 4) = _ + 2 at htotal
    change 1 + (((m.tasks.map (Task.wakenAt session want)).set task (.running program)).map
      (Task.slack tasks)).sum ≤ (m.tasks.map (Task.slack tasks)).sum + 0
    omega
  | @woke caller sleeper session want program ticket action next hcaller hsleeper hpost =>
    have htotal := total_woke (Task.slack tasks) hcaller hsleeper
      (ne_of_calling_of_asleep hcaller hsleeper) (.running program) (.running (.act action next))
    change _ + (tasks + 4) + 1 = _ + 2 + 2 at htotal
    change 1 + _ ≤ _ + 0
    omega
  | @expired task ticket action next deadline htask hdeadline hpast =>
    have htotal := total_setTask (Task.slack tasks) htask (.lapsed action next)
    change _ + 1 = _ + 0 at htotal
    change 1 + _ ≤ _ + 0
    omega
  | ticked => exact Nat.le_of_eq (Nat.zero_add _)

/-- A run has few moves for each of its turns, but for the passing of time. -/
theorem Run.pace_le {world : World} {programs : List (Program ε α)} {m : Machine ε α}
    {moves : List Move} {turns : List Turn} (h : Run (ofPrograms world programs) moves turns m) :
    pace moves + m.total (Task.slack programs.length) ≤
      2 * programs.length + (programs.length + 5) * turns.length := by
  induction h with
  | start =>
    have hslack : (programs.map Task.running).map (Task.slack programs.length) =
        List.replicate programs.length 2 := by
      rw [List.map_map, ← List.map_const]
      rfl
    rw [total, ofPrograms, hslack, List.sum_replicate_nat, pace_nil]
    omega
  | @step moves turns m m' move hrun hstep ih =>
    have hlength : m.tasks.length ≤ programs.length := by
      simp [hrun.length_tasks, ofPrograms]
    have hslack := (change_of_step hstep).slack hlength
    simp only [pace_append, List.length_append, Nat.mul_add]
    omega

end Machine

end Loopback
