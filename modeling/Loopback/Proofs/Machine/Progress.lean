import Loopback.Machine.Schedule
import Loopback.Proofs.Machine.Pace

/-!
# Progress

A task that neither sleeps nor has ended has a move to make, unless another task keeps it from opening
or closing the channel. So in a machine whose runs are bounded, and where some task can move as long
as certain tasks have not ended, running it in order comes to a point where they have.
-/

namespace Loopback

variable {ε α : Type}

/-- Whether a task sleeps or has ended. -/
def Task.Resting : Task ε α → Prop
  | .asleep _ _ _ => True
  | task => task.outcome?.isSome = true

/-- A task that rests sleeps, or has ended. -/
theorem Task.Resting.asleep_or_ended {t : Task ε α} (h : t.Resting) :
    (∃ ticket action next, t = .asleep ticket action next) ∨ ∃ outcome, t.outcome? = some outcome := by
  cases t with
  | asleep ticket action next => exact .inl ⟨ticket, action, next, rfl⟩
  | running program => exact .inr (Option.isSome_iff_exists.1 h)
  | _ => cases h

namespace Action

/-- No action but opening or closing can be held up. -/
theorem run_ne_held {task : Nat} {w : World} {action : Action} (h : action ≠ .enterLifecycle) :
    action.run task w ≠ .held := by
  intro hrun
  cases action with
  | enterLifecycle => exact h rfl
  | push | pop =>
    simp only [run, atQueue] at hrun
    split at hrun
    · cases hrun
    · split at hrun <;> cases hrun
  | append | clear | getLength =>
    simp only [run, atQueue] at hrun
    split at hrun <;> cases hrun
  | pause deadline =>
    simp only [run] at hrun
    split at hrun <;> cases hrun
  | _ => cases hrun

end Action

namespace Machine

/-- Of numbered things, a fold for the least number keeps one that is there. -/
theorem foldl_mem (first : Nat × Nat) (rest : List (Nat × Nat)) :
    rest.foldl (fun best next => if next.1 < best.1 then next else best) first ∈ first :: rest := by
  induction rest generalizing first with
  | nil => exact List.mem_singleton_self _
  | cons next rest ih =>
    rw [List.foldl_cons]
    rcases List.mem_cons.1 (ih (if next.1 < first.1 then next else first)) with h | h
    · rw [h]
      split
      · exact List.mem_cons_of_mem _ List.mem_cons_self
      · exact List.mem_cons_self
    · exact List.mem_cons_of_mem _ (List.mem_cons_of_mem _ h)

/-- The first sleeper at a queue is one there, and there is a first one if there is any. -/
theorem firstSleeper?_spec (m : Machine ε α) (session : Session) (want : Want) :
    (∃ sleeper t, m.firstSleeper? session want = some sleeper ∧ m.tasks[sleeper]? = some t ∧
        t.sleepsAt session want = true) ∨
      m.firstSleeper? session want = none ∧ m.hasSleeper session want = false := by
  unfold firstSleeper?
  dsimp only
  generalize hsleepers : m.tasks.zipIdx.filterMap _ = sleepers
  cases sleepers with
  | nil =>
    refine .inr ⟨rfl, Bool.eq_false_iff.2 fun hsleeper => ?_⟩
    obtain ⟨t, ht, hsleeps⟩ := hasSleeper_iff.1 hsleeper
    obtain ⟨index, hindex⟩ := List.mem_iff_getElem?.1 ht
    have hmem : (t, index) ∈ m.tasks.zipIdx := List.mk_mem_zipIdx_iff_getElem?.2 hindex
    have hnone := List.filterMap_eq_nil_iff.1 hsleepers _ hmem
    obtain ⟨ticket, action, next, rfl, hpost⟩ := Task.sleepsAt_iff.1 hsleeps
    simp [hsleeps] at hnone
  | cons first rest =>
    have hmem := foldl_mem first rest
    rw [← hsleepers] at hmem
    obtain ⟨⟨t, index⟩, ht, hfound⟩ := List.mem_filterMap.1 hmem
    cases t with
    | asleep ticket action next =>
      dsimp only at hfound
      split at hfound
      next hsleeps =>
        have hfirst := Option.some.inj hfound
        exact .inl ⟨index, _, congrArg (fun found => some found.2) hfirst.symm,
          List.mk_mem_zipIdx_iff_getElem?.1 ht, hsleeps⟩
      next => cases hfound
    | _ => cases hfound

/-- A task before an action that is not held up can act. -/
theorem exists_act {m : Machine ε α} {task : Nat} {action : Action}
    {next : action.Reply → Program ε α} (hfree : action ≠ .enterLifecycle)
    (htask : m.tasks[task]? = some (.running (.act action next)) ∨
      m.tasks[task]? = some (.lapsed action next)) : ∃ m', m.act task = some m' := by
  have hheld : action.run task m.world ≠ .held := Action.run_ne_held hfree
  unfold act
  rcases htask with htask | htask
  · rw [htask]
    dsimp only
    split
    · exact ⟨_, rfl⟩
    · exact ⟨_, rfl⟩
    next hrun => exact absurd hrun hheld
  · rw [htask]
    dsimp only
    split
    · exact ⟨_, rfl⟩
    · exact ⟨_, rfl⟩
    next hrun => exact absurd hrun hheld

/-- A task that does not rest has a move to make, unless it is held up. -/
theorem exists_moveOf? {m : Machine ε α} {task : Nat} {t : Task ε α} (htask : m.tasks[task]? = some t)
    (hrest : ¬t.Resting)
    (hfree : ∀ action next, t.program = .act action next → action ≠ .enterLifecycle) :
    ∃ move m', m.moveOf? task = some move ∧ m.step move = some m' := by
  cases t with
  | asleep => exact absurd trivial hrest
  | running program =>
    cases program with
    | act action next =>
      obtain ⟨m', hact⟩ := exists_act (hfree action next rfl) (.inl htask)
      exact ⟨.act task, m', by rw [moveOf?, htask]; rfl, hact⟩
    | _ => exact absurd rfl hrest
  | lapsed action next =>
    obtain ⟨m', hact⟩ := exists_act (hfree action next rfl) (.inr htask)
    exact ⟨.act task, m', by rw [moveOf?, htask], hact⟩
  | calling call program =>
    cases call with
    | one session want =>
      rcases m.firstSleeper?_spec session want with ⟨sleeper, t, hfirst, hsleeper, hsleeps⟩ |
        ⟨hfirst, hnobody⟩
      · refine ⟨.wake task sleeper, (m.setTask sleeper t.woken).setTask task (.running program), ?_, ?_⟩
        · simp only [moveOf?, htask, hfirst]
        · simp only [step, wake, htask, hsleeper, hsleeps, if_true]
      · refine ⟨.act task, m.setTask task (.running program), ?_, ?_⟩
        · simp only [moveOf?, htask, hfirst]
        · simp only [step, act, htask, hnobody, Bool.false_eq_true, if_false]
    | every session want =>
      obtain ⟨m', hact⟩ : ∃ m', m.act task = some m' := by
        simp only [act, htask]
        exact ⟨_, rfl⟩
      exact ⟨.act task, m', by rw [moveOf?, htask], hact⟩

/-- The move of a task is not the passing of time. -/
theorem isTick_of_moveOf? {m : Machine ε α} {task : Nat} {move : Move}
    (h : m.moveOf? task = some move) : move.isTick = false := by
  unfold moveOf? at h
  split at h
  · cases h
  · split at h <;> cases h
    rfl
  · split at h <;> cases h <;> rfl
  all_goals
    cases h
    rfl

/-- Every task is asked to move. -/
theorem mem_order {m : Machine ε α} {task : Nat} : task ∈ m.order ↔ task < m.tasks.length := by
  simp only [order, List.partition_eq_filter_filter, List.mem_append, List.mem_filter, List.mem_range]
  cases hentering : m.entersNext task <;> simp [hentering]

/-- Where a task has a move to make, the machine advances by the move of some task, and a nanosecond
passes. -/
theorem exists_advance? {m : Machine ε α}
    (h : ∃ task move m', m.moveOf? task = some move ∧ m.step move = some m') :
    ∃ task move m', m.moveOf? task = some move ∧ m.step move = some m' ∧
      m.advance? = some (m'.later 1) := by
  obtain ⟨task, move, m', hmove, hstep⟩ := h
  have htask : task ∈ m.order := by
    refine mem_order.2 (Nat.lt_of_not_le fun hle => ?_)
    rw [moveOf?, List.getElem?_eq_none hle] at hmove
    cases hmove
  have hsome : (m.order.findSome? fun task => (m.moveOf? task).bind m.step).isSome = true :=
    List.findSome?_isSome_iff.2 ⟨task, htask, by simp [hmove, hstep]⟩
  obtain ⟨moved, hmoved⟩ := Option.isSome_iff_exists.1 hsome
  obtain ⟨task, -, hfound⟩ := List.exists_of_findSome?_eq_some hmoved
  obtain ⟨move, hmove, hstep⟩ := Option.bind_eq_some_iff.1 hfound
  exact ⟨task, move, moved, hmove, hstep, by rw [advance?, hmoved, Option.map_some]⟩

/-- A machine whose runs are bounded, and where some task has a move to make as long as awaited ones
have not ended, runs in order until they have. -/
theorem Run.finish {start m : Machine ε α} {awaited : List Nat} {bound fuel : Nat} {moves : List Move}
    {turns : List Turn} (hrun : Run start moves turns m)
    (hbound : ∀ {moves turns m}, Run start moves turns m → pace moves ≤ bound)
    (hmoves : ∀ {moves turns m}, Run start moves turns m →
      (∃ task ∈ awaited, m.outcomeOf? task = none) →
        ∃ task move m', m.moveOf? task = some move ∧ m.step move = some m')
    (hfuel : bound < pace moves + fuel) :
    ∃ moves' turns' m', m.finish awaited fuel = some m' ∧ Run start moves' turns' m' ∧
      ∀ task ∈ awaited, (m'.outcomeOf? task).isSome = true := by
  induction fuel generalizing m moves turns with
  | zero =>
    have := hbound hrun
    omega
  | succ fuel ih =>
    unfold Machine.finish
    split
    next hended => exact ⟨moves, turns, m, rfl, hrun, by simpa using hended⟩
    next hunfinished =>
      have hawaited : ∃ task ∈ awaited, m.outcomeOf? task = none := by simpa using hunfinished
      obtain ⟨task, move, m', hmove, hstep, hadvance⟩ := exists_advance? (hmoves hrun hawaited)
      have htick : m'.step (.tick 1) = some (m'.later 1) := rfl
      rw [hadvance]
      refine ih ((hrun.step move hstep).step (.tick 1) htick) ?_
      have hone : pace [move] = 1 := by simp [isTick_of_moveOf? hmove]
      simp only [pace_append, hone]
      omega

end Machine

end Loopback
