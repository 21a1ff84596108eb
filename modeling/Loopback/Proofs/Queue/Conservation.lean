import Loopback.Proofs.Machine.Run
import Loopback.Proofs.Queue.Effect
import Loopback.Queue.Calls

/-!
# Queues lose nothing

Elements of two kinds share one queue, and a counter tells the ones that count against the
capacity. Whatever tasks there are, whatever they do and in whichever order, the counter agrees with
the queue and stays within the capacity, and the elements accepted so far are those removed so far
followed by those still queued, in one common order.
-/

namespace Loopback

namespace Queue

/-- The counter tells how many elements count against the capacity, and they are within it. -/
structure Sound (q : Queue) : Prop where
  counted_eq : q.counted = (q.entries.toList.filter (·.counted)).length
  counted_le : q.counted ≤ q.capacity

/-- A queue is created sound. -/
theorem sound_create (capacity : Nat) : (create capacity).Sound :=
  ⟨rfl, Nat.zero_le _⟩

/-- To offer an element leaves a queue sound, and of its capacity. -/
theorem Sound.offer {q q' : Queue} {item : Item} (h : q.Sound) (hoffer : q.offer item = some q') :
    q'.Sound ∧ q'.capacity = q.capacity := by
  unfold Queue.offer at hoffer
  split at hoffer
  next hroom =>
    obtain rfl := Option.some.inj hoffer
    exact ⟨⟨by simp [h.counted_eq], hroom⟩, rfl⟩
  next => cases hoffer

/-- To append an element leaves a queue sound. -/
theorem Sound.append {q : Queue} (h : q.Sound) (item : Item) : (q.append item).Sound :=
  ⟨by simp [Queue.append, h.counted_eq], h.counted_le⟩

/-- What is taken is the first entry, and the counter goes down if that one counts. -/
theorem entries_of_take? {q q' : Queue} {entry : Entry} (h : q.take? = some (entry, q')) :
    q.entries.toList = entry :: q'.entries.toList ∧ q'.capacity = q.capacity ∧
      q'.counted = if entry.counted then q.counted - 1 else q.counted := by
  unfold Queue.take? at h
  split at h
  next => cases h
  next first entries hpop =>
    cases h
    exact ⟨Fifo.toList_of_pop? hpop, rfl, rfl⟩

/-- Taking a counted element moves the counter down by exactly one, and otherwise it stays. -/
theorem Sound.counted_take? {q q' : Queue} {entry : Entry} (h : q.Sound)
    (htake : q.take? = some (entry, q')) :
    q.counted = q'.counted + if entry.counted then 1 else 0 := by
  obtain ⟨hentries, -, hcounter⟩ := entries_of_take? htake
  have hcounted := h.counted_eq
  rw [hentries] at hcounted
  cases hfirst : entry.counted with
  | true =>
    simp only [hfirst, List.filter_cons_of_pos, List.length_cons] at hcounted
    simp only [hfirst, if_true] at hcounter ⊢
    omega
  | false => simp [hcounter, hfirst]

/-- To take an element leaves a queue sound, and of its capacity. -/
theorem Sound.take? {q q' : Queue} {entry : Entry} (h : q.Sound)
    (htake : q.take? = some (entry, q')) : q'.Sound ∧ q'.capacity = q.capacity := by
  obtain ⟨hentries, hcapacity, -⟩ := entries_of_take? htake
  have hdown := h.counted_take? htake
  have hcounted := h.counted_eq
  have hle := h.counted_le
  rw [hentries, List.filter_cons] at hcounted
  refine ⟨⟨?_, by omega⟩, hcapacity⟩
  cases hfirst : entry.counted <;> simp_all

/-- The counted elements are among the queued ones. -/
theorem Sound.counted_le_length {q : Queue} (h : q.Sound) : q.counted ≤ q.items.length := by
  rw [h.counted_eq, Queue.items, List.length_map]
  exact List.length_filter_le _ _

/-- A full queue that has room for anything at all holds something. -/
theorem Sound.items_ne_nil {q : Queue} {capacity : Nat} (h : q.Sound)
    (hcapacity : q.capacity = max capacity 1) (hfull : q.counted = q.capacity) : q.items ≠ [] := by
  intro hnothing
  have hpos : 1 ≤ max capacity 1 := Nat.le_max_right _ _
  have hcounted := h.counted_le_length
  rw [hnothing, List.length_nil] at hcounted
  omega

/-- A queue that was cleared is sound. -/
theorem Sound.clear (q : Queue) : q.clear.2.Sound :=
  ⟨rfl, Nat.zero_le _⟩

end Queue

/-- The elements queued in a session. -/
def World.items (session : Session) (w : World) : List Item :=
  match w.channel.queues[session]? with
  | some q => q.items
  | none => []

/-- The elements of a session are those of its queue. -/
theorem World.items_of_queue {session : Session} {w : World} {q : Queue}
    (h : w.channel.queues[session]? = some q) : w.items session = q.items := by
  rw [items, h]

namespace Deed

/-- The elements that a deed put into the queue of a session. -/
def put (session : Session) : Deed → List Item
  | ⟨.push s item _, accepted⟩ => if s = session ∧ accepted = true then [item] else []
  | ⟨.append s item, _⟩ => if s = session then [item] else []
  | _ => []

/-- The elements that a deed took out of the queue of a session one by one. -/
def popped (session : Session) : Deed → List Item
  | ⟨.pop s _, item⟩ => if s = session then item.toList else []
  | _ => []

end Deed

/-- The elements that a turn removed from the queue of a session: the one it took, or all that
were queued when it dropped them. -/
def Turn.removed (session : Session) (turn : Turn) : List Item :=
  match turn.deed.action with
  | .clear s => if s = session then turn.before.items session else []
  | _ => turn.deed.popped session

/-- The elements that the queue of a session accepted in a history, in this order. -/
def accepted (session : Session) (turns : List Turn) : List Item :=
  turns.flatMap fun turn => turn.deed.put session

/-- The elements removed from the queue of a session in a history, in this order. -/
def removed (session : Session) (turns : List Turn) : List Item :=
  turns.flatMap (Turn.removed session)

/-- What earlier turns and then later ones have added is added up in their order. -/
theorem accepted_append (session : Session) (turns later : List Turn) :
    accepted session (turns ++ later) = accepted session turns ++ accepted session later :=
  List.flatMap_append ..

/-- What earlier turns and then later ones have removed is added up in their order. -/
theorem removed_append (session : Session) (turns later : List Turn) :
    removed session (turns ++ later) = removed session turns ++ removed session later :=
  List.flatMap_append ..

/-- Emptying a queue puts nothing there. -/
theorem accepted_of_clear {session : Session} {turn : Turn} (h : turn.deed.action = .clear session) :
    accepted session [turn] = [] := by
  obtain ⟨task, ⟨action, answer⟩, w, w'⟩ := turn
  obtain rfl : action = .clear session := h
  rfl

/-- A turn that drops nothing removes what its deed took. -/
theorem removed_eq_popped {session : Session} {turn : Turn} (h : turn.deed.action ≠ .clear session) :
    turn.removed session = turn.deed.popped session := by
  unfold Turn.removed
  split
  next s hs =>
    have hne : s ≠ session := by
      rintro rfl
      exact h hs
    obtain ⟨task, ⟨action, answer⟩, before, after⟩ := turn
    change action = .clear s at hs
    subst hs
    exact if_neg hne
  next => rfl

namespace Action

/-- An action that may not alter a queue puts nothing there. -/
theorem put_eq_nil {session : Session} {action : Action} (h : action.alters? ≠ some session)
    (answer : action.Reply) : Deed.put session ⟨action, answer⟩ = [] := by
  cases action <;> simp_all [alters?, Deed.put]

/-- An action that may not alter a queue takes nothing there. -/
theorem popped_eq_nil {session : Session} {action : Action} (h : action.alters? ≠ some session)
    (answer : action.Reply) : Deed.popped session ⟨action, answer⟩ = [] := by
  cases action <;> simp_all [alters?, Deed.popped]

/-- What was queued and what an action put there is what it removed and what is queued then. -/
theorem Effect.items {session : Session} {action : Action} {answer : action.Reply}
    {call : Option Call} {q q' : Queue} (h : Effect session action answer call q q') (task : Nat)
    {w w' : World} (hqueue : w.channel.queues[session]? = some q) :
    q.items ++ Deed.put session ⟨action, answer⟩ =
      Turn.removed session ⟨task, ⟨action, answer⟩, w, w'⟩ ++ q'.items := by
  cases h with
  | pushed hoffer =>
    simp [Deed.put, Turn.removed, Deed.popped, Queue.items_of_offer hoffer]
  | appended => simp [Deed.put, Turn.removed, Deed.popped]
  | popped htake => simp [Deed.put, Turn.removed, Deed.popped, Queue.items_of_take? htake]
  | cleared => simp [Deed.put, Turn.removed, World.items_of_queue hqueue]
  | elsewhere haction =>
    have hremoved : Turn.removed session ⟨task, ⟨action, answer⟩, w, w'⟩ = [] := by
      rw [removed_eq_popped fun hclear => haction (congrArg alters? hclear)]
      exact popped_eq_nil haction answer
    rw [put_eq_nil haction, hremoved, List.append_nil, List.nil_append]

/-- No effect upsets the counter, and none changes the capacity. -/
theorem Effect.sound {session : Session} {action : Action} {answer : action.Reply}
    {call : Option Call} {q q' : Queue} (h : Effect session action answer call q q')
    (hsound : q.Sound) : q'.Sound ∧ q'.capacity = q.capacity := by
  cases h with
  | pushed hoffer => exact hsound.offer hoffer
  | appended => exact ⟨hsound.append _, rfl⟩
  | popped htake => exact hsound.take? htake
  | cleared => exact ⟨.clear q, rfl⟩
  | elsewhere => exact ⟨hsound, rfl⟩

/-- The answer to a wait that is given up tells of nothing put or taken. -/
theorem Waits.removed {w w' : World} {action : Action} {otherwise : action.Reply}
    (h : Waits w action otherwise) (session : Session) (task : Nat) :
    Deed.put session ⟨action, otherwise⟩ = [] ∧
      Turn.removed session ⟨task, ⟨action, otherwise⟩, w, w'⟩ = [] := by
  cases h <;> simp [Deed.put, Turn.removed, Deed.popped]

end Action

namespace Machine

variable {ε α : Type}

/-- One change keeps a queue sound, and what it accepts and removes makes up the difference. -/
theorem Change.queue {m m' : Machine ε α} {move : Move} {turn? : Option Turn}
    (h : Change m move turn? m') {session : Session} {q : Queue}
    (hqueue : m.world.channel.queues[session]? = some q) :
    ∃ q', m'.world.channel.queues[session]? = some q' ∧
      (q.Sound → q'.Sound ∧ q'.capacity = q.capacity) ∧
      q.items ++ accepted session turn?.toList = removed session turn?.toList ++ q'.items := by
  cases h with
  | @answered task action next answer world call htask hrun =>
    obtain ⟨q', hqueue', heffect⟩ := Action.effect_of_run hrun hqueue
    refine ⟨q', hqueue', heffect.sound, ?_⟩
    simpa [accepted, removed] using heffect.items task hqueue
  | @gaveUp task action next otherwise htask hrun =>
    obtain ⟨hput, hremoved⟩ : Deed.put session ⟨action, otherwise⟩ = [] ∧
        Turn.removed session ⟨task, ⟨action, otherwise⟩, m.world, m.world⟩ = [] :=
      (Action.waits_of_run hrun).removed session task
    exact ⟨q, hqueue, fun hsound => ⟨hsound, rfl⟩, by simp [accepted, removed, hput, hremoved]⟩
  | _ => exact ⟨q, hqueue, fun hsound => ⟨hsound, rfl⟩, by simp [accepted, removed]⟩

/-- A run keeps a queue sound, and what it accepts and removes makes up the difference. -/
theorem Run.queue {start m : Machine ε α} {moves : List Move} {turns : List Turn}
    (h : Run start moves turns m) {session : Session} {q : Queue}
    (hqueue : start.world.channel.queues[session]? = some q) :
    ∃ q', m.world.channel.queues[session]? = some q' ∧
      (q.Sound → q'.Sound ∧ q'.capacity = q.capacity) ∧
      q.items ++ accepted session turns = removed session turns ++ q'.items := by
  induction h with
  | start => exact ⟨q, hqueue, fun hsound => ⟨hsound, rfl⟩, by simp [accepted, removed]⟩
  | @step moves turns m m' move _ hstep ih =>
    obtain ⟨q₁, hqueue₁, hsound₁, hitems₁⟩ := ih
    obtain ⟨q₂, hqueue₂, hsound₂, hitems₂⟩ := (change_of_step hstep).queue hqueue₁
    refine ⟨q₂, hqueue₂, fun hsound => ?_, ?_⟩
    · obtain ⟨hsound, hcapacity⟩ := hsound₁ hsound
      obtain ⟨hsound, hcapacity'⟩ := hsound₂ hsound
      exact ⟨hsound, hcapacity'.trans hcapacity⟩
    · calc
        q.items ++ accepted session (turns ++ (m.turn? move).toList) =
            (q.items ++ accepted session turns) ++ accepted session (m.turn? move).toList := by
          simp [accepted]
        _ = removed session turns ++ (q₁.items ++ accepted session (m.turn? move).toList) := by
          rw [hitems₁, List.append_assoc]
        _ = removed session (turns ++ (m.turn? move).toList) ++ q₂.items := by
          rw [hitems₂]
          simp [removed]

/-- A push that was refused changed nothing. -/
theorem Change.refused {m m' : Machine ε α} {move : Move} {turn : Turn}
    (h : Change m move (some turn) m') {session : Session} {item : Item}
    {deadline : Option Duration.Instant} (hdeed : turn.deed = ⟨.push session item deadline, false⟩) :
    turn.after = turn.before := by
  cases h with
  | answered htask hrun =>
    cases hdeed
    simp only [Action.run, Action.atQueue] at hrun
    split at hrun
    · cases hrun
      rfl
    · split at hrun <;> cases hrun
  | gaveUp => rfl

/-- Dropping all elements answers how many they were. -/
theorem Change.cleared {m m' : Machine ε α} {move : Move} {turn : Turn}
    (h : Change m move (some turn) m') {session : Session} {count : Nat}
    (hdeed : turn.deed = ⟨.clear session, count⟩) : count = (turn.removed session).length := by
  cases h with
  | answered htask hrun =>
    cases hdeed
    simp only [Action.run, Action.atQueue] at hrun
    split at hrun
    next habsent =>
      cases hrun
      simp [Turn.removed, World.items, habsent]
    next q hqueue =>
      cases hrun
      simp [Turn.removed, World.items, hqueue, Queue.clear_fst]
  | gaveUp htask hrun =>
    cases hdeed
    cases Action.waits_of_run hrun

end Machine

/-- A push that fails hands back its own element, and nothing was accepted. -/
theorem QueueCall.push_failed {session : Session} {item : Item} {timeout : Option Duration}
    {deeds : List Deed} {full : Full}
    (h : (QueueCall.push session item timeout).Leads deeds (.fail full)) :
    full.item = item ∧ deeds.flatMap (Deed.put session) = [] := by
  have halong : Program.Along (fun _ => True)
      (fun deeds stand => ∀ full, stand = .ended (.failed full) →
        full.item = item ∧ deeds.flatMap (Deed.put session) = [])
      (QueueCall.push session item timeout) := by
    simp only [QueueCall.push, Program.perform, Program.bind_act, Program.bind_done,
      Program.along_act]
    refine ⟨by simp, fun now _ => ⟨by simp, fun accepted _ => ?_⟩⟩
    cases accepted <;> simp [Deed.put]
  exact halong.leads h (fun _ _ => trivial) full rfl

namespace Machine

variable {ε α : Type}

/-- A queue that began empty keeps its counter right and within its capacity, which is at least
one, and holds what it accepted and did not remove, in one order for counted and uncounted elements.
A refused push hands back its element and changes nothing, dropping all elements answers how many
they were, and taking a counted one moves the counter down by exactly one. -/
theorem Run.queue_conserved {start m : Machine ε α} {moves : List Move} {turns : List Turn}
    (hrun : Run start moves turns m) {session : Session} {capacity : Nat}
    (hqueue : start.world.channel.queues[session]? = some (Queue.create capacity)) :
    ∃ q, m.world.channel.queues[session]? = some q ∧ q.capacity = max capacity 1 ∧
      q.counted = (q.entries.toList.filter (·.counted)).length ∧ q.counted ≤ q.capacity ∧
      accepted session turns = removed session turns ++ q.items ∧
      (∀ item timeout deeds full,
        (QueueCall.push session item timeout).Leads deeds (.fail full) →
          full.item = item ∧ deeds.flatMap (Deed.put session) = []) ∧
      (∀ turn ∈ turns, ∀ item deadline, turn.deed = ⟨.push session item deadline, false⟩ →
        turn.after = turn.before) ∧
      (∀ turn ∈ turns, ∀ count, turn.deed = ⟨.clear session, count⟩ →
        count = (turn.removed session).length) ∧
      (∀ entry rest, q.take? = some (entry, rest) → entry.counted = true →
        rest.counted + 1 = q.counted) := by
  obtain ⟨q, hq, hkept, hitems⟩ := hrun.queue hqueue
  obtain ⟨hsound, hcapacity⟩ := hkept (Queue.sound_create capacity)
  refine ⟨q, hq, hcapacity, hsound.counted_eq, hsound.counted_le, by simpa using hitems,
    fun _ _ _ _ => QueueCall.push_failed, ?_, ?_, ?_⟩
  · exact hrun.forall_turns fun hchange _ _ => hchange.refused
  · exact hrun.forall_turns fun hchange _ => hchange.cleared
  · intro entry rest htake hentry
    simpa [hentry] using (hsound.counted_take? htake).symm

/-- Four tasks at a queue of no capacity, which is taken for one: two of them push, one of which
runs out of time, a third queues the end mark, and the last drops everything. -/
def crowdedQueue : Machine Full Nat :=
  let channel := Channel.create ⟨0, .zero⟩ none .default
  ofPrograms ⟨{ channel with queues := [Queue.create 0] }, 0, []⟩ [
    do QueueCall.push 0 (.byte 1) none; pure 0,
    do QueueCall.push 0 (.byte 2) (some .zero); pure 0,
    do QueueCall.append 0 .endOfStream; pure 0,
    QueueCall.clear 0]

/-- Of two bytes and a mark the full queue takes one byte and the mark, and what it took is removed or still there. -/
theorem queue_conserved_crowded :
    ∃ moves turns m q, Run crowdedQueue moves turns m ∧ m.world.channel.queues[0]? = some q ∧
      crowdedQueue.world.channel.queues[0]? = some (Queue.create 0) ∧
      q.capacity = 1 ∧ accepted 0 turns = [.byte 1, .endOfStream] ∧
      accepted 0 turns = removed 0 turns ++ q.items := by
  have hrun := ((((((((Run.start : Run crowdedQueue [] [] crowdedQueue).step (.act 0) rfl).step (.act 0) rfl).step
    (.act 1) rfl).step (.act 1) rfl).step (.expire 1) rfl).step (.act 1) rfl).step (.act 2) rfl).step
    (.act 3) rfl
  have hqueue : crowdedQueue.world.channel.queues[0]? = some (Queue.create 0) := rfl
  obtain ⟨q, hq, hcapacity, -, -, hitems, -⟩ := hrun.queue_conserved hqueue
  exact ⟨_, _, _, q, hrun, hq, hqueue, hcapacity, rfl, hitems⟩

end Machine

end Loopback
