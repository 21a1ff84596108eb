import Loopback.Proofs.Channel.Sessions
import Loopback.Proofs.Work.Holding

/-!
# An open channel has a baud rate

A channel is set open only by a task that has seen its baud rate not to be zero, and no task sets it to
zero. So in every run, whatever operations share a channel and in whatever order they take turns, an open
one has a baud rate. It has a session as well, and its capacity fits the memory.
-/

namespace Loopback

namespace Action

/-- No operation takes a baud rate away. -/
theorem Comes.baudRate {task : Nat} {w w' : World} {action : Action} {answer : action.Reply} {kind : Kind}
    (h : action.Comes task w answer w') (hmay : kind.may action) (hbaud : w.channel.settings.baudRate ≠ 0) :
    w'.channel.settings.baudRate ≠ 0 := by
  by_cases hchange : ∃ change, action = .changeSettings change
  · obtain ⟨change, rfl⟩ := hchange
    obtain ⟨_, hrun⟩ := h.reply rfl
    cases hrun
    exact hmay.2 _ hbaud
  · rwa [h.frame.settings (not_exists.1 hchange)]

end Action

namespace Machine

variable {builder : Builder} {operations : List Operation} {m : Machine Failure Answer} {moves : List Move}
  {turns : List Turn}

/-- A baud rate that was once seen not to be zero is not zero later. -/
theorem Run.baudRate_of_seen (hrun : Run (sharing builder operations) moves turns m) {task : Nat}
    {settings : PortSettings} (hseen : ⟨.getSettings, settings⟩ ∈ deedsOf task turns)
    (hbaud : settings.baudRate ≠ 0) : m.world.channel.settings.baudRate ≠ 0 := by
  refine hrun.history (fun turns w => ⟨.getSettings, settings⟩ ∈ deedsOf task turns →
    w.channel.settings.baudRate ≠ 0) nofun (fun _ => id) ?_ hseen
  intro moves turns m m' move other action answer hrun hchange hcomes ih hseen
  obtain ⟨operation, -, hmay, -⟩ := hrun.next_rule hchange
  refine hcomes.baudRate hmay ?_
  rw [deedsOf_append, List.mem_append] at hseen
  rcases hseen with hseen | hseen
  · exact ih hseen
  · rw [deedsOf_singleton] at hseen
    split at hseen
    next =>
      cases List.mem_singleton.1 hseen
      obtain ⟨_, hlooked⟩ := hcomes.reply rfl
      injection hlooked with hanswer
      exact hanswer ▸ hbaud
    next => cases hseen

/-- An open channel was set open. -/
theorem Run.exists_setOpen (hrun : Run (sharing builder operations) moves turns m)
    (hopen : m.world.channel.isOpen = true) :
    ∃ before turn after, turns = before ++ turn :: after ∧ turn.deed.action = .setOpen true := by
  suffices hset : ∃ turn ∈ turns, turn.deed.action = .setOpen true by
    obtain ⟨turn, hturn, haction⟩ := hset
    obtain ⟨before, after, rfl⟩ := List.append_of_mem hturn
    exact ⟨before, turn, after, rfl, haction⟩
  refine hrun.history (fun turns w => w.channel.isOpen = true → ∃ turn ∈ turns, turn.deed.action = .setOpen true)
    nofun (fun _ => id) ?_ hopen
  intro moves turns m m' move task action answer _ _ hcomes ih hopen
  by_cases hset : ∃ isOpen, action = .setOpen isOpen
  · obtain ⟨isOpen, rfl⟩ := hset
    obtain rfl : isOpen = true := hcomes.isOpen_of_set.symm.trans hopen
    exact ⟨_, List.mem_append_right _ List.mem_cons_self, rfl⟩
  · obtain ⟨turn, hturn, haction⟩ := ih ((hcomes.frame.isOpen (not_exists.1 hset)).symm.trans hopen)
    exact ⟨turn, List.mem_append_left _ hturn, haction⟩

/-- An open channel has a baud rate, a capacity that fits the memory, and a session. -/
theorem Run.inOrder (hrun : Run (sharing builder operations) moves turns m)
    (hopen : m.world.channel.isOpen = true) :
    m.world.channel.settings.baudRate ≠ 0 ∧ Queue.fitsMemory m.world.channel.traits.capacity = true ∧
      ∃ session, m.world.channel.session? = some session := by
  have hprograms : ∀ {rule : Rule}, (∀ operation : Operation, operation.job.Obeys rule []) →
      ∀ task p, (sharing builder operations).programOf? task = some p → p.Obeys rule [] := by
    rintro rule hrule task p hp
    obtain ⟨operation, -, rfl⟩ := programOf?_sharing.1 hp
    exact hrule operation
  obtain ⟨before, turn, after, rfl, haction⟩ := hrun.exists_setOpen hopen
  obtain ⟨⟨settings, hseen, hbaud⟩, -⟩ := hrun.obeys (hprograms Operation.checking turn.task) haction
  have hlater : ⟨.getSettings, settings⟩ ∈ deedsOf turn.task (before ++ turn :: after) := by
    rw [deedsOf_append]
    exact List.mem_append_left _ hseen
  refine ⟨hrun.baudRate_of_seen hlater hbaud, ?_, ?_⟩
  · exact hrun.fits (hprograms Operation.roomy) nofun hopen
  · -- The session has begun just before.
    obtain ⟨operation, -, -, horderly⟩ := hrun.rule
    rw [haction] at horderly
    obtain ⟨first, beginning, rest, rfl, -, hbegan⟩ :=
      exists_turn_of_mem_deedsOf (List.mem_of_getLast? horderly)
    have hlength : 0 < m.world.channel.queues.length := by
      rw [hrun.length_queues]
      refine Nat.add_pos_right _ (List.countP_pos_iff.2 ⟨beginning, by simp, ?_⟩)
      rw [hbegan]
      rfl
    obtain ⟨session, hsession⟩ := Nat.exists_eq_succ_of_ne_zero (Nat.ne_of_gt hlength)
    exact ⟨session, Channel.session?_eq_some.2 hsession⟩

end Machine

end Loopback
