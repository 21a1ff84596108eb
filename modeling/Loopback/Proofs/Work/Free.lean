import Loopback.Proofs.Channel.Decision

/-!
# Nobody is kept out between calls

Whoever opens or closes the channel keeps out all others who would, and lets them in at its end, however
that comes. So between calls nobody is kept out, and the next opening is decided at once.
-/

namespace Loopback

namespace Channel

open Program

variable {ε α β : Type} {w : World}

/-- What operations that neither open nor close the channel leave to those that do. -/
def leaving : Rely where
  within w w' := w'.channel.changing = w.channel.changing
  refl _ := rfl
  trans h h' := h'.trans h
  tick _ _ := rfl

/-- An action within the lifecycle keeps nobody out. -/
theorem leaving_of_inner {task : Nat} {w w' : World} {action : Action} {answer : action.Reply}
    (hinner : action.inner = true) (hcomes : action.Comes task w answer w') : leaving.within w w' := by
  refine hcomes.frame.changing ?_ ?_ <;> rintro rfl <;> cases hinner

/-- That no one is kept out. -/
theorem spares_free : leaving.Spares fun w => w.channel.changing = false :=
  fun _ _ hwithin hfree => hwithin.trans hfree

/-- A program that keeps others out lets them in at its end, however that comes. -/
theorem secures_exclusively_free {p : Program ε α} :
    (exclusively p).Secures leaving (fun w => w.channel.changing = false) w := by
  have hleaves : ∀ (p : Program ε α) (w : World),
      (p.thenAlways .leaveLifecycle).Secures leaving (fun w => w.channel.changing = false) w := by
    intro p
    induction p with
    | act action next ih => exact fun w _ _ answer _ _ _ => ih answer _
    | _ =>
      intro w _ _ _ _ _ hcomes _ hwithin
      obtain ⟨_, hrun⟩ := hcomes.reply rfl
      cases hrun
      exact spares_free hwithin rfl
  exact fun _ _ _ _ _ _ => hleaves p _

/-- An operation that neither opens nor closes the channel keeps nobody out. -/
theorem secures_free_of_plain {kind : Kind} (hkind : kind.Plain) {p : Program ε α}
    (hobeys : p.Obeys kind.rule []) (hw : w.channel.changing = false) :
    p.Secures leaving (fun w => w.channel.changing = false) w :=
  secures_of_obeys (inner_of_plain hkind hobeys) leaving_of_inner spares_free hw

/-- A moving keeps nobody out once it has ended. -/
theorem secures_setAddress_free (address : Option String) (hw : w.channel.changing = false) :
    (setAddress address).Secures leaving (fun w => w.channel.changing = false) w := by
  refine secures_act spares_free hw fun {_ w wasOpen w₁} hw hcomes => ?_
  have hasked := spares_free (leaving_of_inner rfl hcomes) hw
  have hset : ∀ {task : Nat} {w w' : World} {answer : Unit}, w.channel.changing = false →
      (Action.setAddress address).Comes task w answer w' → w'.channel.changing = false :=
    fun hw hcomes => spares_free (leaving_of_inner rfl hcomes) hw
  cases wasOpen with
  | true =>
    refine secures_exclusively_free.bind spares_free (fun _ => id) fun _ w hw => ?_
    exact secures_act spares_free hw fun _ _ => secures_exclusively_free
  | false =>
    exact secures_act spares_free hasked fun hw hcomes => secures_done spares_free (hset hw hcomes)

/-- Every operation leaves nobody kept out at its end. -/
theorem secures_operation_free (operation : Loopback.Operation) (hw : w.channel.changing = false) :
    operation.job.Secures leaving (fun w => w.channel.changing = false) w := by
  have hjob : ∀ {ε α : Type} {p : Program ε α} (failure : ε → Failure) (answer : α → Answer),
      p.Secures leaving (fun w => w.channel.changing = false) w →
      (p.job failure answer).Secures leaving (fun w => w.channel.changing = false) w :=
    fun failure _ h => (h.mapFailure failure).bind spares_free (fun _ => id) fun _ _ hw =>
      secures_done spares_free hw
  rcases operation.plain_or with hplain | rfl | rfl | ⟨address, rfl⟩ | rfl
  · exact secures_free_of_plain hplain (operation.obeys []) hw
  · exact hjob _ _ secures_exclusively_free
  · exact hjob _ _ secures_exclusively_free
  · exact hjob _ _ (secures_setAddress_free address hw)
  · exact hjob _ _ ((secures_exclusively_free.mapFailure _).sheltered _)

end Channel

namespace Machine

/-- A channel that nobody is kept out of, by tasks that keep nobody out. -/
structure Free {ε α : Type} (m : Machine ε α) : Prop where
  changing : m.world.channel.changing = false
  inner : ∀ task p, m.programOf? task = some p → p.Obeys (.always fun action => action.inner = true) []

namespace Free

variable {m m' : Machine Failure Answer} {moves : List Move} {turns : List Turn}

/-- A free machine stays free when an operation that neither opens nor closes it is begun. -/
theorem spawn (h : m.Free) {operation : Operation} (hplain : operation.kind.Plain) :
    (m.beside [operation.job]).Free where
  changing := h.changing
  inner := by
    refine forall_programOf?_beside h.inner (List.forall_mem_singleton.2 ?_)
    exact Program.inner_of_plain hplain (operation.obeys [])

/-- A free machine stays free through its runs. -/
theorem pass {ε α : Type} {m m' : Machine ε α} (h : m.Free) (hrun : Run m moves turns m') : m'.Free where
  changing := by
    refine hrun.world (fun w => w.channel.changing = false) h.changing (fun _ => id) fun turn hturn => ?_
    have hinner := hrun.always hturn (h.inner turn.task)
    exact Channel.spares_free (Channel.leaving_of_inner hinner (hrun.comes hturn))
  inner := hrun.always_left h.inner

/-- An operation that has run to its end leaves nobody kept out. -/
theorem call (h : m.Free) {operation : Operation} (hrun : Run (m.beside [operation.job]) moves turns m')
    {outcome : Outcome Failure Answer} (hended : m'.outcomeOf? m.tasks.length = some outcome) :
    m'.Free := by
  have hothers : ∀ task p, task ≠ m.tasks.length →
      (m.beside [operation.job]).programOf? task = some p →
      p.Obeys (.always fun action => action.inner = true) [] :=
    fun task p hne hp => h.inner task p (programOf?_of_beside hne hp)
  refine ⟨?_, hrun.always_left_of_ended hended hothers⟩
  refine hrun.secured (programOf?_beside_length m operation.job)
    (Channel.secures_operation_free operation h.changing) (fun turn hturn hne => ?_) hended
  exact Channel.leaving_of_inner (hrun.always hturn fun p hp => hothers _ p hne hp) (hrun.comes hturn)

end Free

end Machine

/-- Between calls, nobody is kept out of the channel. -/
theorem Worked.free {builder : Builder} {m : Machine Failure Answer} (h : Worked builder m) : m.Free := by
  induction h with
  | start => exact ⟨rfl, fun _ _ hp => nomatch hp⟩
  | spawn operation _ hplain ih => exact ih.spawn hplain
  | pass _ hrun ih => exact ih.pass hrun
  | call operation _ hrun hended ih => exact ih.call hrun hended

namespace Machine

/-- An operation that has opened the channel does not fail any more, whatever others do. -/
theorem Run.ok_of_setOpen {builder : Builder} {operations : List Operation} {m : Machine Failure Answer}
    {moves : List Move} {before after : List Turn} {turn : Turn}
    (hrun : Run (sharing builder operations) moves (before ++ turn :: after) m)
    (hopens : turn.deed.action = .setOpen true) {outcome : Outcome Failure Answer}
    (hended : m.outcomeOf? turn.task = some outcome) : ∃ answer, outcome = .ok answer := by
  obtain ⟨operation, -, -, horderly⟩ := hrun.rule
  rw [hopens] at horderly
  obtain ⟨earlier, hbegan⟩ := List.getLast?_eq_some_iff.1 horderly
  obtain ⟨first, turn', rest, rfl, hown, hdeed, -⟩ := exists_turn_of_deedsOf hbegan
  rw [← hown] at hended
  rw [List.append_assoc, List.cons_append] at hrun
  obtain ⟨-, -, -, hok⟩ := hrun.ok_of_begins (by rw [hdeed]; rfl)
  exact hok outcome hended

end Machine

/-- Whoever opens a channel, its opening is decided by what the channel is at that time: whatever others
have in hand, if only none of them opens or closes it just then, and so whatever was called before. Once
it is open the opening cannot fail any more, whatever others do. -/
theorem opening_decides (builder : Builder) :
    (∀ operations moves turns m, Machine.Run (Machine.sharing builder operations) moves turns m →
      m.world.channel.changing = false → m.world.Decides) ∧
    (∀ m, Worked builder m → m.world.channel.changing = false ∧ m.world.Decides) ∧
    (∀ operations moves before turn after m,
      Machine.Run (Machine.sharing builder operations) moves (before ++ turn :: after) m →
      turn.deed.action = .setOpen true → ∀ outcome, m.outcomeOf? turn.task = some outcome →
        ∃ answer, outcome = .ok answer) := by
  refine ⟨fun operations moves turns m hrun hfree => ?_, fun m hworked => ?_, ?_⟩
  · exact World.decides_of_free hfree hrun.tidy_sharing
  · have hfree := hworked.free.changing
    exact ⟨hfree, World.decides_of_free hfree hworked.steady.tidy⟩
  · intro operations moves before turn after m hrun hopens outcome hended
    exact hrun.ok_of_setOpen hopens hended

/-- A channel that is opened twice, closed, and opened at a bad address, before it gets a good one. -/
def retriedWork : List (Operation × List Move) := [
  (.channel .openPort, List.replicate 26 (.act 0)),
  (.channel .openPort, List.replicate 3 (.act 1)),
  (.background .close, List.replicate 12 (.act 2)),
  (.channel (.setAddress (some "loop://?logging=loud")), List.replicate 2 (.act 3)),
  (.channel .openPort, List.replicate 5 (.act 4)),
  (.channel (.setAddress (some "loop://?logging=info")), List.replicate 2 (.act 5))]

/-- A channel that was opened, closed, and not opened at a bad address can be opened again at a good one. -/
theorem opening_decides_retried :
    ∃ m w, Worked Machine.narrow m ∧ m.world.channel.changing = false ∧
      Queue.fitsMemory m.world.channel.traits.capacity = true ∧ m.world.channel.isOpen = false ∧
      Channel.openPort.alone 0 m.world = .ended (.ok ()) w ∧ w.channel.isOpen = true ∧
      w.channel.diagnostics = some .info ∧ w.channel.queues.length = 2 := by
  have hworks : ((Machine.ofPrograms Machine.narrow.world []).work? retriedWork).map
      (fun m => (m.world.channel.isOpen, m.world.channel.address, m.world.channel.settings.baudRate.toNat,
        m.world.channel.queues.length, m.world.channel.traits.capacity)) =
        some (false, some "loop://?logging=info", 9600, 1, 1) := by decide +kernel
  obtain ⟨m, hm, hstate⟩ := Option.map_eq_some_iff.1 hworks
  simp only [Prod.mk.injEq] at hstate
  obtain ⟨hclosed, haddress, hbaud, hqueues, hcapacity⟩ := hstate
  have hworked : Worked Machine.narrow m := Worked.start.work? hm
  have hfits : Queue.fitsMemory m.world.channel.traits.capacity = true := by
    rw [hcapacity]
    decide
  obtain ⟨hfree, hdecides⟩ := (opening_decides Machine.narrow).2.1 m hworked
  obtain ⟨outcome, w, hended, hdecided⟩ := hdecides hfits 0
  have hparse : Address.parse "loop://?logging=info" = .ok ⟨[.logging .info]⟩ := by decide +kernel
  obtain rfl := hdecided.ok_iff.2 ⟨hclosed, ⟨_, _, haddress, hparse⟩, by omega⟩
  refine ⟨m, w, hworked, hfree, hfits, hclosed, hended, ?_⟩
  have hdecision := hdecided.decision
  generalize w.channel = c at hdecision ⊢
  cases hdecision with
  | opened _ haddress' hparse' _ =>
    cases haddress.symm.trans haddress'
    cases hparse.symm.trans hparse'
    exact ⟨rfl, rfl, by simp [hqueues]⟩

end Loopback
