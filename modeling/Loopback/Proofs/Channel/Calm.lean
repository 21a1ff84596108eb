import Loopback.Proofs.Channel.Sessions
import Loopback.Proofs.Queue.WakeUp

/-!
# Calm channels

A channel is calm when each of its tasks sleeps, has ended, or has not begun. Then nobody is about to
come to a queue, and as no wake-up is lost, whoever sleeps at one does so for want of what it has not
got. This holds of each session of a shared channel, for nobody can sleep at its queue before it has
begun.
-/

namespace Loopback

/-- The session whose queue an action may take elements from. -/
def Action.drains? : Action → Option Session
  | .pop session _ | .clear session => some session
  | _ => none

namespace Action

/-- What takes elements from a queue alters that queue. -/
theorem alters?_of_drains? {action : Action} {session : Session} (h : action.drains? = some session) :
    action.alters? = some session := by
  cases action <;> cases h <;> rfl

/-- What removes anything from a queue drains it. -/
theorem drains?_of_removed {turn : Turn} {session : Session} (h : turn.removed session ≠ []) :
    turn.deed.action.drains? = some session := by
  obtain ⟨task, ⟨action, answer⟩, before, after⟩ := turn
  cases action with
  | pop s | clear s =>
    by_cases hs : s = session
    · exact congrArg some hs
    · exact absurd (if_neg hs) h
  | _ => exact absurd rfl h

end Action

/-- Operations that may take elements from a queue. -/
def Kind.Drains (kind : Kind) : Prop := kind = .reading ∨ kind = .resetting ∨ kind.Opens

/-- Only operations that may take elements from a queue do so. -/
theorem Kind.drains_of_may {kind : Kind} {action : Action} {session : Session} (hmay : kind.may action)
    (h : action.drains? = some session) : kind.Drains := by
  cases action with
  | pop => exact .inl hmay
  | clear => exact .inr hmay
  | _ => cases h

namespace Task

variable {ε α : Type}

/-- Whether a task that did certain deeds sleeps, has ended or has not begun. -/
def calm (deeds : List Deed) : Task ε α → Bool
  | .asleep _ _ _ => true
  | .running program => program.outcome?.isSome || deeds.isEmpty
  | _ => false

/-- A calm task sleeps, has ended, or has done nothing yet. -/
theorem calm_cases {deeds : List Deed} {t : Task ε α} (h : t.calm deeds = true) :
    (∃ ticket action next, t = .asleep ticket action next) ∨
      ∃ program, t = .running program ∧ ((∃ outcome, program.stand = .ended outcome) ∨ deeds = []) := by
  cases t with
  | asleep ticket action next => exact .inl ⟨ticket, action, next, rfl⟩
  | running program =>
    refine .inr ⟨program, rfl, ?_⟩
    rcases Bool.or_eq_true_iff.1 h with hended | hfresh
    · refine .inl ?_
      cases program with
      | act => cases hended
      | _ => exact ⟨_, rfl⟩
    · exact .inr (List.isEmpty_iff.1 hfresh)
  | _ => cases h

end Task

namespace Machine

section calm

variable {ε α : Type} {m : Machine ε α} {turns : List Turn} {task : Nat}

/-- Whether a task sleeps at a queue, waiting for something there. -/
def sleepsAt (m : Machine ε α) (task : Nat) (session : Session) (want : Want) : Bool :=
  (m.tasks[task]?).any (·.sleepsAt session want)

/-- A task sleeps at a queue in an action that waits for something there. -/
theorem sleepsAt_iff {session : Session} {want : Want} :
    m.sleepsAt task session want = true ↔
      ∃ ticket action next, m.tasks[task]? = some (.asleep ticket action next) ∧
        action.post? = some (session, want) := by
  rw [sleepsAt, Option.any_eq_true]
  constructor
  · rintro ⟨t, ht, hsleeps⟩
    obtain ⟨ticket, action, next, rfl, hpost⟩ := Task.sleepsAt_iff.1 hsleeps
    exact ⟨ticket, action, next, ht, hpost⟩
  · rintro ⟨ticket, action, next, ht, hpost⟩
    exact ⟨_, ht, Task.sleepsAt_iff.2 ⟨ticket, action, next, rfl, hpost⟩⟩

/-- Whether a task sleeps at a queue for as long as it takes. -/
def waitsAt (m : Machine ε α) (task : Nat) (session : Session) (want : Want) : Bool :=
  (m.tasks[task]?).any fun
    | .asleep _ action _ => action.post? == some (session, want) && action.deadline?.isNone
    | _ => false

/-- A task sleeps at a queue for as long as it takes in an action without a deadline. -/
theorem waitsAt_iff {session : Session} {want : Want} :
    m.waitsAt task session want = true ↔
      ∃ ticket action next, m.tasks[task]? = some (.asleep ticket action next) ∧
        action.post? = some (session, want) ∧ action.deadline? = none := by
  rw [waitsAt, Option.any_eq_true]
  constructor
  · rintro ⟨t, ht, hwaits⟩
    cases t with
    | asleep ticket action next => exact ⟨ticket, action, next, ht, by simpa using hwaits⟩
    | _ => cases hwaits
  · rintro ⟨ticket, action, next, ht, hpost, hdeadline⟩
    exact ⟨_, ht, by simp [hpost, hdeadline]⟩

/-- A task that sleeps for as long as it takes sleeps. -/
theorem sleepsAt_of_waitsAt {session : Session} {want : Want} (h : m.waitsAt task session want = true) :
    m.sleepsAt task session want = true := by
  obtain ⟨ticket, action, next, htask, hpost, -⟩ := waitsAt_iff.1 h
  exact sleepsAt_iff.2 ⟨ticket, action, next, htask, hpost⟩

/-- Where a task sleeps, there is a sleeper. -/
theorem hasSleeper_of_sleepsAt {session : Session} {want : Want}
    (h : m.sleepsAt task session want = true) : m.hasSleeper session want = true := by
  obtain ⟨ticket, action, next, ht, hpost⟩ := sleepsAt_iff.1 h
  exact hasSleeper_iff.2 ⟨_, List.mem_of_getElem? ht, Task.sleepsAt_iff.2 ⟨ticket, action, next, rfl, hpost⟩⟩

/-- A sleeper is some task that sleeps there. -/
theorem exists_sleepsAt {session : Session} {want : Want} (h : m.hasSleeper session want = true) :
    ∃ task, m.sleepsAt task session want = true := by
  obtain ⟨t, ht, hsleeps⟩ := hasSleeper_iff.1 h
  obtain ⟨task, htask⟩ := List.mem_iff_getElem?.1 ht
  exact ⟨task, by rw [sleepsAt, htask]; exact hsleeps⟩

/-- After these turns every task sleeps, has ended or has not begun. -/
def Calm (turns : List Turn) (m : Machine ε α) : Prop :=
  ∀ place ∈ m.tasks.zipIdx, place.1.calm (deedsOf place.2 turns) = true

instance (turns : List Turn) (m : Machine ε α) : Decidable (Calm turns m) :=
  inferInstanceAs (Decidable (∀ place ∈ m.tasks.zipIdx, place.1.calm (deedsOf place.2 turns) = true))

/-- A task of a calm machine sleeps, has ended, or has done nothing yet. -/
theorem Calm.cases (h : Calm turns m) {t : Task ε α} (htask : m.tasks[task]? = some t) :
    (∃ ticket action next, t = .asleep ticket action next) ∨
      ∃ program, t = .running program ∧
        ((∃ outcome, program.stand = .ended outcome) ∨ deedsOf task turns = []) :=
  Task.calm_cases (h (t, task) (List.mk_mem_zipIdx_iff_getElem?.2 htask))

/-- In a calm machine a task that has begun sleeps before its next action. -/
theorem Calm.asleep (h : Calm turns m) {action : Action} {next : action.Reply → Program ε α}
    (hprogram : m.programOf? task = some (.act action next)) (hbegun : deedsOf task turns ≠ []) :
    ∃ ticket, m.tasks[task]? = some (.asleep ticket action next) := by
  obtain ⟨t, htask, hp⟩ := programOf?_eq_some.1 hprogram
  obtain ⟨ticket, action', next', rfl⟩ | ⟨program, rfl, hended⟩ := h.cases htask
  · cases hp
    exact ⟨ticket, htask⟩
  · obtain ⟨outcome, hstand⟩ := hended.resolve_right hbegun
    obtain rfl : program = .act action next := hp
    cases hstand

/-- In a calm machine a task with nothing left to do has ended. -/
theorem Calm.ended (h : Calm turns m) {p : Program ε α} (hprogram : m.programOf? task = some p)
    {outcome : Outcome ε α} (hstand : p.stand = .ended outcome) : m.outcomeOf? task = some outcome := by
  obtain ⟨t, htask, rfl⟩ := programOf?_eq_some.1 hprogram
  obtain ⟨ticket, action, next, rfl⟩ | ⟨program, rfl, -⟩ := h.cases htask
  · cases hstand
  · simp only [outcomeOf?, htask, Task.outcome?]
    change program.stand = _ at hstand
    cases program <;> cases hstand <;> rfl

end calm

section sharing

variable {builder : Builder} {operations : List Operation} {m m' : Machine Failure Answer}
  {moves more : List Move} {turns later : List Turn} {session : Session} {want : Want}

/-- Whoever sleeps at a queue goes by its session. -/
theorem Run.holding_of_sleepsAt (hrun : Run (sharing builder operations) moves turns m) {task : Nat}
    (h : m.sleepsAt task session want = true) :
    ∃ operation action next, operations[task]? = some operation ∧
      m.programOf? task = some (.act action next) ∧ action.post? = some (session, want) ∧ operation.kind.may action ∧
      holding (deedsOf task turns) = some session := by
  obtain ⟨ticket, action, next, ht, hpost⟩ := sleepsAt_iff.1 h
  have hprogram := programOf?_of_getElem? ht
  obtain ⟨operation, hoperation, hmay, horderly⟩ := hrun.rule_of_program hprogram
  refine ⟨operation, action, next, hoperation, hprogram, hpost, hmay, ?_⟩
  cases action with
  | push | pop =>
    cases hpost
    exact horderly
  | _ => cases hpost

/-- Whoever sleeps at a queue has begun. -/
theorem Run.begun_of_sleepsAt (hrun : Run (sharing builder operations) moves turns m) {task : Nat}
    (h : m.sleepsAt task session want = true) : deedsOf task turns ≠ [] := by
  obtain ⟨-, -, -, -, -, -, -, hholding⟩ := hrun.holding_of_sleepsAt h
  intro hfresh
  rw [hfresh] at hholding
  cases hholding

/-- Nobody sleeps at a queue that is not there. -/
theorem Run.hasSleeper_eq_false (hrun : Run (sharing builder operations) moves turns m)
    (h : m.world.channel.queues[session]? = none) (want : Want) : m.hasSleeper session want = false := by
  refine Bool.eq_false_iff.2 fun hsleeper => ?_
  obtain ⟨task, htask⟩ := exists_sleepsAt hsleeper
  obtain ⟨-, -, -, -, -, -, -, hholding⟩ := hrun.holding_of_sleepsAt htask
  exact Nat.not_lt.2 (List.getElem?_eq_none_iff.1 h) (hrun.holding_lt hholding)

/-- In no session is anything left without attention that somebody sleeps for. -/
theorem Run.attended_sharing (hrun : Run (sharing builder operations) moves turns m) {q : Queue}
    (hq : m.world.channel.queues[session]? = some q) (want : Want) : m.Attended session want q := by
  induction hrun generalizing q with
  | start => cases hq
  | @step moves turns m m' move hrun hstep ih =>
    have hchange := change_of_step hstep
    cases hbefore : m.world.channel.queues[session]? with
    | some q₁ => exact hchange.attended hbefore (hrun.tidy_sharing.queues hbefore).sound hq (ih hbefore)
    | none =>
      intro hsleeper
      have hnobody := hrun.hasSleeper_eq_false hbefore want
      generalize m.turn? move = turn? at hchange
      cases hchange with
      | answered htask hrun =>
        have hslept := hasSleeper_of_setTask (sleepsAt_after ..) hsleeper
        rw [hnobody] at hslept
        cases hslept
      | _ =>
        exact absurd (hq.symm.trans hbefore) (Option.some_ne_none q)

/-- In a calm channel nobody is about to come to a queue. -/
theorem Run.inattentive (hrun : Run (sharing builder operations) moves turns m) (hcalm : Calm turns m)
    (limit : Nat) : ∀ t ∈ m.tasks, t.attention limit session want = 0 := by
  intro t ht
  obtain ⟨task, htask⟩ := List.mem_iff_getElem?.1 ht
  obtain ⟨ticket, action, next, rfl⟩ | ⟨program, rfl, hprogram⟩ := hcalm.cases htask
  · rfl
  · cases program with
    | act action next =>
      have hfresh : deedsOf task turns = [] := by
        refine hprogram.resolve_left ?_
        rintro ⟨_, hstand⟩
        cases hstand
      obtain ⟨operation, -, -, horderly⟩ := hrun.rule_of_program (programOf?_of_getElem? htask)
      rw [hfresh] at horderly
      cases action with
      | push | pop => cases horderly
      | _ => rfl
    | _ => rfl

/-- In a calm channel sleepers wait at a queue that is empty or full, and so there are not both at one. -/
theorem Run.starved_sharing (hrun : Run (sharing builder operations) moves turns m) (hcalm : Calm turns m)
    (session : Session) :
    (m.hasSleeper session .item = true → m.world.items session = []) ∧
      (m.hasSleeper session .room = true → m.hasSleeper session .item = false) := by
  cases hq : m.world.channel.queues[session]? with
  | none =>
    have hnobody := hrun.hasSleeper_eq_false hq
    simp [hnobody]
  | some q =>
    have hempty : m.hasSleeper session .item = true → q.items = [] := fun hsleeper =>
      List.length_eq_zero_iff.1
        ((hrun.attended_sharing hq .item).of_inattentive (hrun.inattentive hcalm _) hsleeper)
    refine ⟨fun hsleeper => (World.items_of_queue hq).trans (hempty hsleeper), fun hroom => ?_⟩
    refine Bool.eq_false_iff.2 fun hitem => ?_
    obtain ⟨hsound, hcapacity, -⟩ := hrun.tidy_sharing.queues hq
    have hfull := (hrun.attended_sharing hq .room).of_inattentive (hrun.inattentive hcalm _) hroom
    have hle := hsound.counted_le
    simp only [Queue.offering] at hfull
    exact hsound.items_ne_nil hcapacity (by omega) (hempty hitem)

end sharing

end Machine

end Loopback
