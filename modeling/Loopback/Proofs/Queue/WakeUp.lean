import Loopback.Proofs.Machine.Progress
import Loopback.Proofs.Queue.Conservation

/-!
# No wake-up is lost

Sleepers at a queue are woken one by one, by calls that are made after the queue was changed and
may be answered by tasks that never slept. Still, while anybody sleeps for something, there is at
least as much attention to it as there is of it: calls that have not been made yet, and tasks that
are about to try. When everybody sleeps there is no attention left, so there is nothing to be had
that a sleeper waits for.
-/

namespace Loopback

variable {ε α : Type}

/-- How much of something a queue has to offer: elements to take, or room to fill. -/
def Queue.offering (q : Queue) : Want → Nat
  | .item => q.items.length
  | .room => q.capacity - q.counted

/-- How many sleepers a call may set to work, where one to all of them counts for `limit`. -/
def Call.attention (limit : Nat) (session : Session) (want : Want) : Option Call → Nat
  | some (.one s w) => if s = session ∧ w = want then 1 else 0
  | some (.every s w) => if s = session ∧ w = want then limit else 0
  | none => 0

/-- Whether an action waits for something at a queue, as a number. -/
def Action.claim (session : Session) (want : Want) (action : Action) : Nat :=
  if action.post? = some (session, want) then 1 else 0

/-- How much attention a task is about to give to something at a queue. -/
def Task.attention (limit : Nat) (session : Session) (want : Want) : Task ε α → Nat
  | .running (.act action _) => action.claim session want
  | .lapsed action _ => action.claim session want
  | .calling call _ => Call.attention limit session want (some call)
  | _ => 0

namespace Action

/-- An action claims something only of a queue that it may alter. -/
theorem claim_eq_zero {session : Session} {want : Want} {action : Action}
    (h : action.alters? ≠ some session) : action.claim session want = 0 := by
  cases action <;> simp_all [alters?, claim, post?]

/-- What an action makes more to be had, it makes up for by a call; and what it claimed is gone. -/
theorem Effect.offering {session : Session} {action : Action} {answer : action.Reply}
    {call : Option Call} {q q' : Queue} (h : Effect session action answer call q q') (want : Want) :
    q'.offering want + action.claim session want ≤
      q.offering want + Call.attention q.capacity session want call := by
  -- A push takes room and offers an item, a pop takes an item and offers room, so the two are counted apart.
  cases h with
  | @pushed item deadline _ _ hoffer =>
    have hitems := congrArg List.length (Queue.items_of_offer hoffer)
    unfold Queue.offer at hoffer
    split at hoffer
    next hroom =>
      obtain rfl := Option.some.inj hoffer
      rw [List.length_append, List.length_singleton] at hitems
      cases want with
      | item =>
        simp [Queue.offering, claim, post?, Call.attention, hitems]
      | room =>
        simp [Queue.offering, claim, post?, Call.attention]
        omega
    next => cases hoffer
  | @appended item =>
    cases want with
    | item => simp [Queue.offering, claim, post?, Call.attention, q.items_append]
    | room => exact Nat.le_add_right _ _
  | @popped deadline _ _ entry htake =>
    have hitems := congrArg List.length (Queue.items_of_take? htake)
    obtain ⟨-, hcapacity, hcounter⟩ := Queue.entries_of_take? htake
    rw [List.length_cons] at hitems
    cases want with
    | item =>
      cases hentry : entry.counted <;>
        simp [Queue.offering, claim, post?, Call.attention, hitems]
    | room =>
      cases hentry : entry.counted with
      | false => simp [Queue.offering, claim, post?, Call.attention, hcapacity, hcounter, hentry]
      | true =>
        simp [Queue.offering, claim, post?, Call.attention, hcapacity, hcounter, hentry]
        omega
  | cleared =>
    cases want with
    | item => simp [Queue.offering, claim, post?]
    | room => simp [Queue.offering, claim, post?, Call.attention, Queue.clear]
  | elsewhere haction => simp [claim_eq_zero haction]

/-- Nobody has to wait for something of which there is any. -/
theorem Waits.offering {w : World} {action : Action} {otherwise : action.Reply}
    (h : Waits w action otherwise) {session : Session} {want : Want} {q : Queue}
    (hqueue : w.channel.queues[session]? = some q) (hpost : action.post? = some (session, want)) :
    q.offering want = 0 := by
  cases h with
  | push hqueue' hfull =>
    cases hpost
    obtain rfl := Option.some.inj (hqueue.symm.trans hqueue')
    have := Queue.offer_eq_none.1 hfull
    simp only [Queue.offering]
    omega
  | pop hqueue' hempty =>
    cases hpost
    obtain rfl := Option.some.inj (hqueue.symm.trans hqueue')
    simp [Queue.offering, Queue.take?_eq_none.1 hempty]
  | pause => cases hpost

end Action

namespace Task

/-- A task that calls next gives at least the attention of its call. -/
theorem attention_after (limit : Nat) (session : Session) (want : Want) (call : Option Call)
    (program : Program ε α) :
    Call.attention limit session want call ≤ (Task.after call program).attention limit session want := by
  cases call with
  | none => exact Nat.zero_le _
  | some call => exact Nat.le_refl _

/-- Being woken for something else changes no attention. -/
theorem attention_wakenAt {limit : Nat} {session s : Session} {want w : Want}
    (h : (s, w) ≠ (session, want)) (task : Task ε α) :
    (task.wakenAt s w).attention limit session want = task.attention limit session want := by
  unfold wakenAt
  split
  next hsleeps =>
    obtain ⟨ticket, action, next, rfl, hpost⟩ := sleepsAt_iff.1 hsleeps
    simp only [woken, attention, Action.claim, hpost, Option.some.injEq, h, if_false]
  next => rfl

/-- Nobody called for something sleeps for it, and no one else falls asleep by a call. -/
theorem sleepsAt_wakenAt {session s : Session} {want w : Want} {task : Task ε α}
    (h : (task.wakenAt s w).sleepsAt session want = true) :
    task.sleepsAt session want = true ∧ (s, w) ≠ (session, want) := by
  unfold wakenAt at h
  split at h
  next hsleeps =>
    obtain ⟨ticket, action, next, rfl, -⟩ := sleepsAt_iff.1 hsleeps
    cases h
  next hsleeps =>
    refine ⟨h, ?_⟩
    rintro ⟨⟩
    exact hsleeps h

/-- A task that rests gives attention to nothing. -/
theorem Resting.attention {task : Task ε α} (h : task.Resting) (limit : Nat) (session : Session)
    (want : Want) : task.attention limit session want = 0 := by
  cases task with
  | running program =>
    cases program with
    | act action next => cases h
    | _ => rfl
  | asleep => rfl
  | _ => cases h

end Task

namespace Machine

/-- While anybody sleeps for something at a queue, all there is of it has attention. -/
def Attended (m : Machine ε α) (session : Session) (want : Want) (q : Queue) : Prop :=
  m.hasSleeper session want = true →
    q.offering want ≤ m.total (Task.attention q.capacity session want)

/-- A task moved to where it does not sleep adds no sleeper. -/
theorem hasSleeper_of_setTask {m : Machine ε α} {session : Session} {want : Want} {task : Nat}
    {state : Task ε α} (hstate : state.sleepsAt session want = false)
    (h : (m.setTask task state).hasSleeper session want = true) : m.hasSleeper session want = true := by
  obtain ⟨t, ht, hsleeps⟩ := hasSleeper_iff.1 h
  rcases List.mem_or_eq_of_mem_set ht with ht | rfl
  · exact hasSleeper_iff.2 ⟨t, ht, hsleeps⟩
  · rw [hstate] at hsleeps
    cases hsleeps

/-- A task that was just answered does not sleep. -/
theorem sleepsAt_after (session : Session) (want : Want) (call : Option Call)
    (program : Program ε α) : (Task.after call program).sleepsAt session want = false := by
  cases call <;> rfl

/-- A task that sleeps for nothing of this and gives it no attention may move as it likes. -/
theorem Attended.setTask {m : Machine ε α} {session : Session} {want : Want} {q : Queue}
    (h : m.Attended session want q) {task : Nat} {t state : Task ε α}
    (htask : m.tasks[task]? = some t) (hidle : t.attention q.capacity session want = 0)
    (hstate : state.sleepsAt session want = false) :
    (m.setTask task state).Attended session want q := by
  intro hsleeper
  have hoffering := h (hasSleeper_of_setTask hstate hsleeper)
  have htotal := total_setTask (Task.attention q.capacity session want) htask state
  omega

/-- After a call to everybody at a queue, those who still sleep slept for something else. -/
theorem hasSleeper_of_map_wakenAt {m : Machine ε α} {s session : Session} {w want : Want}
    (h : hasSleeper { m with tasks := m.tasks.map (Task.wakenAt s w) } session want = true) :
    m.hasSleeper session want = true ∧ (s, w) ≠ (session, want) := by
  obtain ⟨_, hwaken, hsleeps⟩ := hasSleeper_iff.1 h
  obtain ⟨t, ht, rfl⟩ := List.mem_map.1 hwaken
  obtain ⟨hslept, hne⟩ := Task.sleepsAt_wakenAt hsleeps
  exact ⟨hasSleeper_iff.2 ⟨t, ht, hslept⟩, hne⟩

/-- A call to everybody at a queue leaves what is waited for elsewhere attended to. -/
theorem Attended.map_wakenAt {m : Machine ε α} {session : Session} {want : Want} {q : Queue}
    (h : m.Attended session want q) (s : Session) (w : Want) :
    Attended { m with tasks := m.tasks.map (Task.wakenAt s w) } session want q := by
  intro hsleeper
  obtain ⟨hslept, hne⟩ := hasSleeper_of_map_wakenAt hsleeper
  have hweights : m.tasks.map (Task.attention q.capacity session want ∘ Task.wakenAt s w) =
      m.tasks.map (Task.attention q.capacity session want) :=
    List.map_congr_left fun t _ => Task.attention_wakenAt hne t
  rw [total, List.map_map, hweights]
  exact h hslept

/-- A change leaves what sleepers wait for attended to. -/
theorem Change.attended {m m' : Machine ε α} {move : Move} {turn? : Option Turn}
    (h : Change m move turn? m') {session : Session} {want : Want} {q q' : Queue}
    (hqueue : m.world.channel.queues[session]? = some q) (hsound : q.Sound)
    (hqueue' : m'.world.channel.queues[session]? = some q') (hattended : m.Attended session want q) :
    m'.Attended session want q' := by
  -- What is offered is attended to by a call that is still to be made and by those awake who claim it. Each change
  -- either passes this on or leaves nothing offered or nobody asleep.
  cases h with
  | @answered task action next answer world call htask hrun =>
    obtain ⟨q₁, hqueue₁, heffect⟩ := Action.effect_of_run hrun hqueue
    obtain rfl := Option.some.inj (hqueue₁.symm.trans hqueue')
    obtain ⟨-, hcapacity⟩ := heffect.sound hsound
    intro hsleeper
    have hoffered := hattended (hasSleeper_of_setTask (sleepsAt_after ..) hsleeper)
    have heffect := heffect.offering want
    have hcall := Task.attention_after q.capacity session want call (next answer)
    have htotal : (m.setTask task (.after call (next answer))).total
          (Task.attention q.capacity session want) + action.claim session want =
        m.total (Task.attention q.capacity session want) +
          (Task.after call (next answer)).attention q.capacity session want := by
      rcases htask with htask | htask
      · exact total_setTask _ htask _
      · exact total_setTask _ htask _
    change q₁.offering want ≤ (m.setTask task _).total _
    rw [hcapacity]
    omega
  | @gaveUp task action next otherwise htask hrun =>
    obtain rfl := Option.some.inj (hqueue.symm.trans hqueue')
    by_cases hpost : action.post? = some (session, want)
    · intro _
      rw [(Action.waits_of_run hrun).offering hqueue hpost]
      exact Nat.zero_le _
    · exact hattended.setTask htask (if_neg hpost) rfl
  | @layDown task action next otherwise htask hrun =>
    obtain rfl := Option.some.inj (hqueue.symm.trans hqueue')
    by_cases hpost : action.post? = some (session, want)
    · intro _
      rw [(Action.waits_of_run hrun).offering hqueue hpost]
      exact Nat.zero_le _
    · exact hattended.setTask htask (if_neg hpost) (by simpa [Task.sleepsAt] using hpost)
  | @unheard task s w program htask hnobody =>
    obtain rfl := Option.some.inj (hqueue.symm.trans hqueue')
    by_cases hsame : s = session ∧ w = want
    · obtain ⟨rfl, rfl⟩ := hsame
      intro hsleeper
      rw [hasSleeper_of_setTask rfl hsleeper] at hnobody
      cases hnobody
    · exact hattended.setTask htask (if_neg hsame) rfl
  | @calledAll task s w program htask =>
    obtain rfl := Option.some.inj (hqueue.symm.trans hqueue')
    have hwaken : (m.tasks.map (Task.wakenAt s w))[task]? = some (.calling (.every s w) program) := by
      simp [htask, Task.wakenAt, Task.sleepsAt]
    by_cases hsame : s = session ∧ w = want
    · obtain ⟨rfl, rfl⟩ := hsame
      intro hsleeper
      exact absurd rfl (hasSleeper_of_map_wakenAt (hasSleeper_of_setTask rfl hsleeper)).2
    · exact (hattended.map_wakenAt s w).setTask hwaken (if_neg hsame) rfl
  | @woke caller sleeper s w program ticket action next hcaller hsleeper hpost =>
    obtain rfl := Option.some.inj (hqueue.symm.trans hqueue')
    intro hsleeps
    have hoffered := hattended (hasSleeper_of_setTask rfl (hasSleeper_of_setTask rfl hsleeps))
    have htotal := total_woke (Task.attention q.capacity session want) hcaller hsleeper
      (ne_of_calling_of_asleep hcaller hsleeper) (.running program) (.running (.act action next))
    -- The attention of the call passes to the sleeper.
    have hpassed : Task.attention q.capacity session want (.calling (.one s w) program) =
        Task.attention q.capacity session want (.running (.act action next)) := by
      simp [Task.attention, Call.attention, Action.claim, hpost]
    have hasleep : Task.attention q.capacity session want (.asleep ticket action next) = 0 := rfl
    omega
  | expired htask hdeadline hpast =>
    obtain rfl := Option.some.inj (hqueue.symm.trans hqueue')
    exact hattended.setTask htask rfl rfl
  | ticked =>
    obtain rfl := Option.some.inj (hqueue.symm.trans hqueue')
    exact hattended

/-- Every run leaves what sleepers wait for attended to. -/
theorem Run.attended {world : World} {programs : List (Program ε α)} {m : Machine ε α}
    {moves : List Move} {turns : List Turn} (h : Run (ofPrograms world programs) moves turns m)
    {session : Session} {q q' : Queue} (hqueue : world.channel.queues[session]? = some q)
    (hsound : q.Sound) (hqueue' : m.world.channel.queues[session]? = some q') (want : Want) :
    m.Attended session want q' := by
  induction h generalizing q' with
  | start =>
    intro hsleeper
    obtain ⟨t, ht, hsleeps⟩ := hasSleeper_iff.1 hsleeper
    obtain ⟨p, -, rfl⟩ := List.mem_map.1 ht
    cases hsleeps
  | step move hrun hstep ih =>
    obtain ⟨q₁, hqueue₁, hkept, -⟩ := hrun.queue hqueue
    exact (change_of_step hstep).attended hqueue₁ (hkept hsound).1 hqueue' (ih hqueue₁)

/-- That a task, if it sleeps, fell asleep in an action that has to wait. -/
def SleepsWaiting : Task ε α → Prop
  | .asleep _ action _ => ∃ w otherwise, Action.Waits w action otherwise
  | _ => True

/-- A sleeper fell asleep in an action that has to wait. -/
theorem Reachable.waits_of_asleep {world : World} {programs : List (Program ε α)} {m : Machine ε α}
    (h : Reachable (ofPrograms world programs) m) {ticket : Nat} {action : Action}
    {next : action.Reply → Program ε α} (hasleep : Task.asleep ticket action next ∈ m.tasks) :
    ∃ w otherwise, Action.Waits w action otherwise :=
  h.forall_tasks SleepsWaiting (fun _ => trivial) (fun _ _ => trivial)
    (fun _ hrun => ⟨_, _, Action.waits_of_run hrun⟩) (fun _ _ => trivial) _ hasleep

/-- Where no task is about to give attention, sleepers wait for nothing that is to be had. -/
theorem Attended.of_inattentive {m : Machine ε α} {session : Session} {want : Want} {q : Queue}
    (h : m.Attended session want q)
    (hidle : ∀ t ∈ m.tasks, t.attention q.capacity session want = 0)
    (hsleeper : m.hasSleeper session want = true) : q.offering want = 0 := by
  have htotal : m.total (Task.attention q.capacity session want) = 0 := by
    apply List.sum_eq_zero_iff_forall_eq_nat.2
    intro weight hweight
    obtain ⟨t, ht, rfl⟩ := List.mem_map.1 hweight
    exact hidle t ht
  have := h hsleeper
  omega

/-- Where every task sleeps or has ended, sleepers wait for nothing that is to be had. -/
theorem Attended.of_resting {m : Machine ε α} {session : Session} {want : Want} {q : Queue}
    (h : m.Attended session want q) (hrest : ∀ t ∈ m.tasks, t.Resting)
    (hsleeper : ∃ t ∈ m.tasks, t.sleepsAt session want = true) : q.offering want = 0 :=
  h.of_inattentive (fun t ht => (hrest t ht).attention _ _ _) (hasSleeper_iff.2 hsleeper)

/-- Where every task sleeps or has ended, a queue at which somebody waits for an element is empty, and
one at which somebody waits for room is full. -/
theorem Run.starved {world : World} {programs : List (Program ε α)} {m : Machine ε α}
    {moves : List Move} {turns : List Turn} (hrun : Run (ofPrograms world programs) moves turns m)
    {session : Session} {capacity : Nat}
    (hqueue : world.channel.queues[session]? = some (Queue.create capacity))
    (hrest : ∀ t ∈ m.tasks, t.Resting) :
    ∃ q, m.world.channel.queues[session]? = some q ∧ q.Sound ∧ q.capacity = max capacity 1 ∧
      ((∃ t ∈ m.tasks, t.sleepsAt session .item = true) → q.items = []) ∧
      ((∃ t ∈ m.tasks, t.sleepsAt session .room = true) → q.counted = q.capacity) := by
  have hcreated := Queue.sound_create capacity
  obtain ⟨q, hq, hkept, -⟩ := hrun.queue hqueue
  obtain ⟨hsound, hcapacity⟩ := hkept hcreated
  have hattended := hrun.attended hqueue hcreated hq
  refine ⟨q, hq, hsound, hcapacity, fun hsleeper => ?_, fun hsleeper => ?_⟩
  · have hnone := (hattended .item).of_resting hrest hsleeper
    exact List.length_eq_zero_iff.1 hnone
  · have hnone := (hattended .room).of_resting hrest hsleeper
    have hle := hsound.counted_le
    simp only [Queue.offering] at hnone
    omega

/-- When every task sleeps or has ended, a queue at which somebody waits for an element holds none,
one at which somebody waits for room holds as many counted elements as its capacity allows, and so
nobody waits for an element where somebody waits for room. -/
theorem Reachable.no_lost_wakeup {world : World} {programs : List (Program ε α)} {m : Machine ε α}
    (hreach : Reachable (ofPrograms world programs) m) {session : Session} {capacity : Nat}
    (hqueue : world.channel.queues[session]? = some (Queue.create capacity))
    (hrest : ∀ t ∈ m.tasks, t.Resting) :
    ∃ q, m.world.channel.queues[session]? = some q ∧ q.capacity = max capacity 1 ∧
      ((∃ t ∈ m.tasks, t.sleepsAt session .item = true) → q.entries.toList = []) ∧
      ((∃ t ∈ m.tasks, t.sleepsAt session .room = true) →
        (q.entries.toList.filter (·.counted)).length = q.capacity) ∧
      ¬((∃ t ∈ m.tasks, t.sleepsAt session .item = true) ∧
        ∃ t ∈ m.tasks, t.sleepsAt session .room = true) := by
  obtain ⟨moves, turns, hrun⟩ := reachable_iff_run.1 hreach
  obtain ⟨q, hq, hsound, hcapacity, hitem, hroom⟩ := hrun.starved hqueue hrest
  have hnothing : (∃ t ∈ m.tasks, t.sleepsAt session .item = true) → q.entries.toList = [] :=
    fun hsleeper => List.map_eq_nil_iff.1 (hitem hsleeper)
  have hfull : (∃ t ∈ m.tasks, t.sleepsAt session .room = true) →
      (q.entries.toList.filter (·.counted)).length = q.capacity :=
    fun hsleeper => hsound.counted_eq.symm.trans (hroom hsleeper)
  refine ⟨q, hq, hcapacity, hnothing, hfull, ?_⟩
  rintro ⟨hitems, hrooms⟩
  exact hsound.items_ne_nil hcapacity (hroom hrooms) (hitem hitems)

/-- Two tasks that take an element and one that queues the end mark. -/
def stolenMark : Machine Full (Option Item) :=
  let channel := Channel.create ⟨1, .zero⟩ none .default
  ofPrograms ⟨{ channel with queues := [Queue.create 1] }, 0, []⟩ [
    QueueCall.pop 0 none,
    QueueCall.pop 0 none,
    do QueueCall.append 0 .endOfStream; pure none]

/-- The call for the mark wakes the first sleeper after another task has taken it. -/
theorem no_lost_wakeup_stolen :
    ∃ m q, Reachable stolenMark m ∧ (∀ t ∈ m.tasks, t.Resting) ∧
      (∃ t ∈ m.tasks, t.sleepsAt 0 .item = true) ∧
      m.world.channel.queues[0]? = some q ∧ q.entries.toList = [] := by
  obtain ⟨m, hreach, htasks⟩ : ∃ m, Reachable stolenMark m ∧ m.tasks =
      [.asleep 1 (.pop 0 none) .done, .running (.done (some .endOfStream)), .running (.done none)] :=
    ⟨_, (((((((Reachable.start.step (.act 0) rfl).step (.act 0) rfl).step (.act 2) rfl).step
      (.act 1) rfl).step (.act 1) rfl).step (.wake 2 0) rfl).step (.act 0) rfl), rfl⟩
  have hrest : ∀ t ∈ m.tasks, t.Resting := by
    simp [htasks, Task.Resting, Task.outcome?, Program.outcome?]
  have hsleeper : ∃ t ∈ m.tasks, t.sleepsAt 0 .item = true := by
    rw [htasks]
    exact ⟨_, List.mem_cons_self, rfl⟩
  have hqueue : stolenMark.world.channel.queues[0]? = some (Queue.create 1) := rfl
  obtain ⟨q, hq, -, hitem, -⟩ := hreach.no_lost_wakeup hqueue hrest
  exact ⟨m, q, hreach, hrest, hsleeper, hq, hitem hsleeper⟩

end Machine

end Loopback
