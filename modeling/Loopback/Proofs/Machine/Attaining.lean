import Loopback.Proofs.Machine.Alone
import Loopback.Proofs.Machine.Rely
import Loopback.Proofs.Machine.Rest

/-!
# What a task attains beside others

A task shares the world with others that keep to what it relies on. Under that alone its program is judged
to go on whatever they do: it is never held up, it waits for nothing without a deadline, and it ends in an
outcome and a world as told. Then a run keeps the word, and from wherever a run has led the task can return
by moves of its own, without the help of anybody else.
-/

namespace Loopback

variable {ε δ α β : Type}

namespace Outcome

/-- The same outcome with result and failure told in other terms. -/
def told (failure : ε → δ) (answer : α → β) : Outcome ε α → Outcome δ β
  | .ok result => .ok (answer result)
  | .failed f => .failed (failure f)
  | .aborted message => .aborted message

end Outcome

/-- An action that is not held up in a world, and waits there at most until a deadline. -/
structure Action.Unhindered (action : Action) (w : World) : Prop where
  free : ∀ task, action.run task w ≠ .held
  prompt : ∀ task otherwise, action.run task w = .wait otherwise → action.deadline? ≠ none

/-- An action that everyone is answered is not hindered. -/
theorem Action.Unhindered.of_reply {action : Action} {w : World}
    (h : ∀ task, ∃ answer w' call, action.run task w = .reply answer w' call) : action.Unhindered w := by
  constructor
  all_goals
    intro task
    obtain ⟨answer, w', call, hrun⟩ := h task
    simp [hrun]

namespace Program

/-- Whatever others do in between, no action of a program is hindered, and however these are answered the
program ends as told. -/
def Attains (r : Rely) (ends : Outcome ε α → World → Prop) : Program ε α → World → Prop
  | .act action next, w =>
    ∀ w₁, r.within w w₁ → action.Unhindered w₁ ∧
      ∀ task answer w₂, action.Comes task w₁ answer w₂ → Attains r ends (next answer) w₂
  | .done result, w => ∀ w', r.within w w' → ends (.ok result) w'
  | .fail failure, w => ∀ w', r.within w w' → ends (.failed failure) w'
  | .abort message, w => ∀ w', r.within w w' → ends (.aborted message) w'

section rules

variable {r : Rely} {ends : Outcome ε α → World → Prop} {w : World}

/-- What a program attains, it attains after others have changed what they may. -/
theorem Attains.within {p : Program ε α} {w' : World} (h : p.Attains r ends w) (hwithin : r.within w w') :
    p.Attains r ends w' := by
  cases p with
  | act action next => exact fun w₁ hlater => h w₁ (r.trans hwithin hlater)
  | _ => exact fun w₁ hlater => h w₁ (r.trans hwithin hlater)

/-- A program that takes the same action attains what it does after each answer. -/
theorem Attains.act {ends' : Outcome δ β → World → Prop} {action : Action} {next : action.Reply → Program ε α}
    {next' : action.Reply → Program δ β} (h : (Program.act action next).Attains r ends w)
    (hnext : ∀ answer w', (next answer).Attains r ends w' → (next' answer).Attains r ends' w') :
    (Program.act action next').Attains r ends' w := by
  intro w₁ hwithin
  obtain ⟨hfree, hafter⟩ := h w₁ hwithin
  exact ⟨hfree, fun task answer w₂ hcomes => hnext answer w₂ (hafter task answer w₂ hcomes)⟩

/-- What a program attains may be told more weakly. -/
theorem Attains.mono {ends' : Outcome ε α → World → Prop} {p : Program ε α} (h : p.Attains r ends w)
    (himp : ∀ outcome w, ends outcome w → ends' outcome w) : p.Attains r ends' w := by
  induction p generalizing w with
  | act action next ih => exact h.act fun answer _ hafter => ih answer hafter
  | _ => exact fun w₁ hwithin => himp _ _ (h w₁ hwithin)

/-- A program that has ended did so as told. -/
theorem Attains.ended {p : Program ε α} {outcome : Outcome ε α} (h : p.Attains r ends w)
    (hp : p.stand = .ended outcome) : ends outcome w := by
  cases p with
  | act => cases hp
  | _ =>
    cases hp
    exact h w (r.refl w)

/-- An action that is answered in any world that others leave is followed by what its answers leave. -/
theorem attains_reply {action : Action} {next : action.Reply → Program ε α}
    (hnext : ∀ task w₁, r.within w w₁ → ∃ answer w₂ call,
      action.run task w₁ = .reply answer w₂ call ∧ (next answer).Attains r ends w₂) :
    (Program.act action next).Attains r ends w := by
  intro w₁ hwithin
  refine ⟨.of_reply fun task => ?_, fun task answer w₂ hcomes => ?_⟩
  · obtain ⟨answer, w₂, call, hrun, -⟩ := hnext task w₁ hwithin
    exact ⟨answer, w₂, call, hrun⟩
  · obtain ⟨answer', w₂', call', hrun', hattains⟩ := hnext task w₁ hwithin
    cases hcomes with
    | replied hrun =>
      cases hrun'.symm.trans hrun
      exact hattains
    | gaveUp hrun => cases hrun'.symm.trans hrun

/-- A pause ends, and leaves the world to the others meanwhile. -/
theorem attains_pause {deadline : Duration.Instant} {next : Unit → Program ε α}
    (h : (next ()).Attains r ends w) : (Program.act (.pause deadline) next).Attains r ends w := by
  intro w₁ hwithin
  refine ⟨⟨fun task => Action.run_ne_held nofun, fun _ _ _ => nofun⟩, fun task answer w₂ hcomes => ?_⟩
  cases hcomes with
  | replied hrun =>
    simp only [Action.run] at hrun
    split at hrun <;> cases hrun
    exact h.within hwithin
  | gaveUp => exact h.within hwithin

/-- A program goes on where another ended. -/
theorem Attains.bind {p : Program ε β} {rest : β → Program ε α} {mid : Outcome ε β → World → Prop}
    (h : p.Attains r mid w) (hrest : ∀ result w, mid (.ok result) w → (rest result).Attains r ends w)
    (hfailed : ∀ failure w, mid (.failed failure) w → ends (.failed failure) w)
    (haborted : ∀ message w, mid (.aborted message) w → ends (.aborted message) w) :
    (p >>= rest).Attains r ends w := by
  induction p generalizing w with
  | act action next ih => exact h.act fun answer _ hafter => ih answer hafter
  | done result => exact hrest result w (h w (r.refl w))
  | fail failure => exact fun w₁ hwithin => hfailed failure w₁ (h w₁ hwithin)
  | abort message => exact fun w₁ hwithin => haborted message w₁ (h w₁ hwithin)

/-- A program attains what it does with its result and its failure told in other terms. -/
theorem Attains.told {p : Program δ β} {failure : δ → ε} {answer : β → α}
    (h : p.Attains r (fun outcome => ends (outcome.told failure answer)) w) :
    (p.mapFailure failure >>= fun result => pure (answer result)).Attains r ends w := by
  induction p generalizing w with
  | act action next ih => exact h.act fun reply _ hafter => ih reply hafter
  | _ => exact h

/-- A program attains as much with its failure told in other terms. -/
theorem Attains.mapFailure {p : Program δ α} {f : δ → ε}
    (h : p.Attains r (fun outcome => ends (outcome.told f id)) w) : (p.mapFailure f).Attains r ends w := by
  induction p generalizing w with
  | act action next ih => exact h.act fun answer _ hafter => ih answer hafter
  | _ => exact h

/-- A program attains what it does where a failure is a result. -/
theorem Attains.attempt {p : Program δ α} {ends : Outcome ε (Except δ α) → World → Prop}
    (h : p.Attains r (fun outcome => ends outcome.attempt) w) : p.attempt.Attains r ends w := by
  induction p generalizing w with
  | act action next ih => exact h.act fun answer _ hafter => ih answer hafter
  | _ => exact h

/-- That an abortion is told as a failure does not matter where it does not matter how a program ends. -/
theorem Attains.sheltered {p : Program ε α} {post : World → Prop} (h : p.Attains r (fun _ => post) w)
    (f : String → ε) : (p.sheltered f).Attains r (fun _ => post) w := by
  induction p generalizing w with
  | act action next ih => exact h.act fun answer _ hafter => ih answer hafter
  | _ => exact h

/-- An action that is answered however a program ended may be taken at its end. -/
theorem Attains.thenAlways {p : Program ε α} {last : Action} {mid : Outcome ε α → World → Prop}
    (h : p.Attains r mid w) (hlast : ∀ outcome w, mid outcome w → ∀ task, ∃ answer w₁ call,
      last.run task w = .reply answer w₁ call ∧ ∀ w₂, r.within w₁ w₂ → ends outcome w₂) :
    (p.thenAlways last).Attains r ends w := by
  induction p generalizing w with
  | act action next ih => exact h.act fun answer _ hafter => ih answer hafter
  | _ => exact attains_reply fun task w₁ hwithin => hlast _ w₁ (h w₁ hwithin) task

/-- With nobody else about a program ends as it attains beside others. -/
theorem Attains.alone {p : Program ε α} (h : p.Attains r ends w) (task : Nat) :
    ∃ outcome w', p.alone task w = .ended outcome w' ∧ ends outcome w' := by
  induction p generalizing w with
  | act action next ih =>
    obtain ⟨⟨hfree, hprompt⟩, hnext⟩ := h w (r.refl w)
    cases hrun : action.run task w with
    | reply answer w₁ call =>
      obtain ⟨outcome, w', halone, hends⟩ := ih answer (hnext task answer w₁ (.replied hrun))
      exact ⟨outcome, w', alone_act.2 ⟨answer, w₁, .replied hrun, halone⟩, hends⟩
    | wait otherwise =>
      obtain ⟨deadline, hdeadline⟩ := Option.ne_none_iff_exists'.1 (hprompt task otherwise hrun)
      have htick := r.tick w (max w.now deadline - w.now)
      rw [Nat.add_sub_cancel' (Nat.le_max_left ..)] at htick
      obtain ⟨outcome, w', halone, hends⟩ := ih otherwise ((hnext task otherwise w (.gaveUp hrun)).within htick)
      exact ⟨outcome, w', alone_act.2 ⟨otherwise, _, .waited hrun hdeadline, halone⟩, hends⟩
    | held => exact absurd hrun (hfree task)
  | _ => exact ⟨_, w, rfl, h w (r.refl w)⟩

end rules

end Program

namespace Machine

variable {start m : Machine ε α} {task : Nat} {r : Rely} {ends : Outcome ε α → World → Prop}

/-- A task attains after a run what it attained at its start, if the turns of the others keep to what it
relies on. -/
theorem Run.attains {moves : List Move} {turns : List Turn} (hrun : Run start moves turns m) {p : Program ε α}
    (hp : start.programOf? task = some p) (hattains : p.Attains r ends start.world)
    (hothers : ∀ turn ∈ turns, turn.task ≠ task → r.within turn.before turn.after) :
    ∃ q, m.programOf? task = some q ∧ q.Attains r ends m.world := by
  refine hrun.carries hp (·.Attains r ends) hattains ?_ ?_ ?_
  · exact fun nanos hattains => hattains.within (r.tick _ nanos)
  · intro action next answer w w' hcomes hattains
    obtain ⟨-, hnext⟩ := hattains w (r.refl w)
    exact hnext task answer w' hcomes
  · exact fun turn hturn hne q hattains => hattains.within (hothers turn hturn hne)

/-- A task that has ended has done so as it was to. -/
theorem Run.attained {moves : List Move} {turns : List Turn} (hrun : Run start moves turns m) {p : Program ε α}
    (hp : start.programOf? task = some p) (hattains : p.Attains r ends start.world)
    (hothers : ∀ turn ∈ turns, turn.task ≠ task → r.within turn.before turn.after)
    {outcome : Outcome ε α} (hended : m.outcomeOf? task = some outcome) : ends outcome m.world := by
  obtain ⟨q, hq, hattained⟩ := hrun.attains hp hattains hothers
  exact hattained.ended (stand_of_outcomeOf? hq hended)

/-- A task can end as told by moves in which nobody else takes a turn. -/
def Returns (task : Nat) (ends : Outcome ε α → World → Prop) (m : Machine ε α) : Prop :=
  ∃ moves turns m', Run m moves turns m' ∧ (∀ turn ∈ turns, turn.task = task) ∧
    ∃ outcome, m'.outcomeOf? task = some outcome ∧ ends outcome m'.world

/-- A task returns after a turn of its own if it does so then. -/
theorem Returns.step {m' : Machine ε α} {move : Move} (h : m'.Returns task ends) (hstep : m.step move = some m')
    (hown : ∀ turn ∈ (m.turn? move).toList, turn.task = task) : m.Returns task ends := by
  obtain ⟨moves, turns, last, hrun, hturns, hended⟩ := h
  exact ⟨_, _, last, (Run.start.step move hstep).trans hrun, List.forall_mem_append.2 ⟨hown, hturns⟩, hended⟩

/-- A turn that an act makes is one of the task that acts. -/
theorem Returns.act {m' : Machine ε α} (h : m'.Returns task ends) (hstep : m.step (.act task) = some m') :
    m.Returns task ends := by
  refine h.step hstep fun turn hturn => ?_
  have hchange := change_of_step hstep
  rw [Option.mem_toList.1 hturn] at hchange
  cases hchange <;> rfl

section returns

variable {action : Action} {next : action.Reply → Program ε α}

/-- A task that is set stands as it was set. -/
theorem tasks_setTask (h : task < m.tasks.length) (state : Task ε α) :
    (m.setTask task state).tasks[task]? = some state :=
  List.getElem?_set_self h

/-- A task that calls makes its call, and goes on. -/
theorem returns_calling {call : Call} {p : Program ε α} (htask : m.tasks[task]? = some (.calling call p))
    (hrest : ∀ m' : Machine ε α, m'.tasks[task]? = some (.running p) → m'.world = m.world →
      m'.Returns task ends) : m.Returns task ends := by
  have hlength := (List.getElem?_eq_some_iff.1 htask).1
  cases call with
  | one session want =>
    cases hsleeper : m.hasSleeper session want with
    | false =>
      have hstep : m.step (.act task) = some (m.setTask task (.running p)) := by
        simp [step, act, htask, hsleeper]
      exact (hrest _ (tasks_setTask hlength _) rfl).act hstep
    | true =>
      obtain ⟨t, ht, hsleeps⟩ := hasSleeper_iff.1 hsleeper
      obtain ⟨sleeper, hindex⟩ := List.mem_iff_getElem?.1 ht
      have hstep : m.step (.wake task sleeper) =
          some ((m.setTask sleeper t.woken).setTask task (.running p)) := by
        simp [step, wake, htask, hindex, hsleeps]
      have hlength' : task < (m.setTask sleeper t.woken).tasks.length := by simpa [setTask] using hlength
      exact (hrest _ (tasks_setTask hlength' _) rfl).step hstep (List.forall_mem_nil _)
  | every session want =>
    have hstep : ∃ tasks, tasks.length = m.tasks.length ∧
        m.step (.act task) = some (({ m with tasks } : Machine ε α).setTask task (.running p)) := by
      simp only [step, act, htask]
      exact ⟨_, List.length_map _, rfl⟩
    obtain ⟨tasks, hsame, hstep⟩ := hstep
    have hlength' : task < ({ m with tasks } : Machine ε α).tasks.length := hsame ▸ hlength
    exact (hrest _ (tasks_setTask hlength' _) rfl).act hstep

/-- A task whose deadline has come is answered or gives up, and goes on. -/
theorem returns_lapsed (htask : m.tasks[task]? = some (.lapsed action next)) (hfree : action.run task m.world ≠ .held)
    (hrest : ∀ answer call (m' : Machine ε α), action.Comes task m.world answer m'.world →
      m'.tasks[task]? = some (.after call (next answer)) → m'.Returns task ends) : m.Returns task ends := by
  have hlength := (List.getElem?_eq_some_iff.1 htask).1
  cases hrun : action.run task m.world with
  | reply answer w call =>
    have hstep : m.step (.act task) = some { m.setTask task (.after call (next answer)) with world := w } := by
      simp [step, act, htask, hrun]
    have hreturns := hrest answer call { m.setTask task (.after call (next answer)) with world := w } (.replied hrun)
      (tasks_setTask hlength _)
    exact hreturns.act hstep
  | wait otherwise =>
    have hstep : m.step (.act task) = some (m.setTask task (.running (next otherwise))) := by
      simp [step, act, htask, hrun]
    have hreturns := hrest otherwise none (m.setTask task (.running (next otherwise))) (.gaveUp hrun)
      (tasks_setTask hlength _)
    exact hreturns.act hstep
  | held => exact absurd hrun hfree

/-- A task that sleeps until a deadline goes on after that has come. -/
theorem returns_asleep {ticket : Nat} (htask : m.tasks[task]? = some (.asleep ticket action next))
    (hdeadline : action.deadline? ≠ none) (hfree : ∀ nanos, action.run task (m.later nanos).world ≠ .held)
    (hrest : ∀ nanos answer call (m' : Machine ε α), action.Comes task (m.later nanos).world answer m'.world →
      m'.tasks[task]? = some (.after call (next answer)) → m'.Returns task ends) : m.Returns task ends := by
  obtain ⟨deadline, hdeadline⟩ := Option.ne_none_iff_exists'.1 hdeadline
  have hlength := (List.getElem?_eq_some_iff.1 htask).1
  have htick : m.step (.tick deadline) = some (m.later deadline) := rfl
  have hexpire : (m.later deadline).step (.expire task) =
      some ((m.later deadline).setTask task (.lapsed action next)) := by
    have hpast : deadline ≤ (m.later deadline).world.now := Nat.le_add_left _ _
    have hsame : (m.later deadline).tasks[task]? = some (.asleep ticket action next) := htask
    simp [step, expire, hsame, hdeadline, hpast]
  refine ((Returns.step ?_ hexpire (List.forall_mem_nil _))).step htick (List.forall_mem_nil _)
  exact returns_lapsed (tasks_setTask hlength _) (hfree deadline) fun answer call m' => hrest deadline answer call m'

/-- A task about to take an action that is not hindered goes on after it. -/
theorem returns_running (htask : m.tasks[task]? = some (.running (.act action next)))
    (hfree : ∀ nanos, action.Unhindered (m.later nanos).world)
    (hrest : ∀ nanos answer call (m' : Machine ε α), action.Comes task (m.later nanos).world answer m'.world →
      m'.tasks[task]? = some (.after call (next answer)) → m'.Returns task ends) : m.Returns task ends := by
  have hlength := (List.getElem?_eq_some_iff.1 htask).1
  cases hrun : action.run task m.world with
  | reply answer w call =>
    have hstep : m.step (.act task) = some { m.setTask task (.after call (next answer)) with world := w } := by
      simp [step, act, htask, hrun]
    have hreturns := hrest 0 answer call { m.setTask task (.after call (next answer)) with world := w }
      (.replied hrun) (tasks_setTask hlength _)
    exact hreturns.act hstep
  | wait otherwise =>
    have hstep : m.step (.act task) =
        some { m.setTask task (.asleep m.tickets action next) with tickets := m.tickets + 1 } := by
      simp [step, act, htask, hrun]
    have hreturns : Returns task ends
        { m.setTask task (.asleep m.tickets action next) with tickets := m.tickets + 1 } :=
      returns_asleep (tasks_setTask hlength _) ((hfree 0).prompt task otherwise hrun)
        (fun nanos => (hfree nanos).free task) hrest
    exact hreturns.act hstep
  | held => exact absurd hrun ((hfree 0).free task)

/-- A task with nothing left to do has returned, or has only a call to make before. -/
theorem returns_ended {p : Program ε α} (hp : m.programOf? task = some p) {outcome : Outcome ε α}
    (hstand : p.stand = .ended outcome) (hends : ends outcome m.world) : m.Returns task ends := by
  have hrunning : ∀ m' : Machine ε α, m'.tasks[task]? = some (.running p) → m'.world = m.world →
      m'.Returns task ends := by
    intro m' htask hworld
    refine ⟨[], [], m', .start, List.forall_mem_nil _, outcome, ?_, hworld ▸ hends⟩
    rw [outcomeOf?, htask]
    cases p <;> cases hstand <;> rfl
  obtain ⟨t, htask, rfl⟩ := programOf?_eq_some.1 hp
  cases t with
  | running => exact hrunning m htask rfl
  | calling => exact returns_calling htask hrunning
  | asleep | lapsed => cases hstand

/-- A task that attains something can return so, wherever it stands, unless it sleeps without a deadline. -/
theorem returns_of_attains {p : Program ε α} (hattains : p.Attains r ends m.world)
    (hp : m.programOf? task = some p) (hasleep : ∀ ticket action next,
      m.tasks[task]? = some (.asleep ticket action next) → action.deadline? ≠ none) : m.Returns task ends := by
  -- By induction on the program, for every machine that the answers may lead to.
  induction p generalizing m with
  | act action next ih =>
    have hfree : ∀ nanos, action.Unhindered (m.later nanos).world := fun nanos => (hattains _ (r.tick _ nanos)).1
    have hafter : ∀ nanos answer call (m' : Machine ε α), action.Comes task (m.later nanos).world answer m'.world →
        m'.tasks[task]? = some (.after call (next answer)) → m'.Returns task ends := by
      intro nanos answer call m' hcomes htask
      refine ih answer ((hattains _ (r.tick _ nanos)).2 task answer _ hcomes) ?_ fun ticket action' next' hsleeps => ?_
      · rw [programOf?_of_getElem? htask, Task.program_after]
      · cases call <;> cases htask.symm.trans hsleeps
    have hrunning : ∀ m' : Machine ε α, m'.tasks[task]? = some (.running (.act action next)) →
        m'.world = m.world → m'.Returns task ends := by
      intro m' htask hworld
      have hlater : ∀ nanos, (m'.later nanos).world = (m.later nanos).world := fun nanos => by
        simp only [later, hworld]
      exact returns_running htask (fun nanos => hlater nanos ▸ hfree nanos) fun nanos => hlater nanos ▸ hafter nanos
    obtain ⟨t, htask, hprogram⟩ := programOf?_eq_some.1 hp
    cases t with
    | running => exact hrunning m (hprogram ▸ htask) rfl
    | calling => exact returns_calling htask fun m' htask' => hrunning m' (hprogram ▸ htask')
    | asleep ticket =>
      cases hprogram
      exact returns_asleep htask (hasleep _ _ _ htask) (fun nanos => (hfree nanos).free task) hafter
    | lapsed =>
      cases hprogram
      exact returns_lapsed htask ((hfree 0).free task) (hafter 0)
  | _ => exact returns_ended hp rfl (hattains _ (r.refl _))

end returns

end Machine

end Loopback
