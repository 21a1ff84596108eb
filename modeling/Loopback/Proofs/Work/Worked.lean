import Loopback.Proofs.Channel.Ready

/-!
# A channel that is worked on

Operations are called one after another, through any end of a channel, while others that neither open
nor close it stay at work in the background for as long as they like. Nothing that is called leaves
an open channel in a condition in which data could not go through it: whatever failed before, its
queue holds counted bytes and nothing else, within its capacity, and its counter tells their number.
-/

namespace Loopback

namespace Action

variable {task : Nat} {w w' : World} {action : Action}

/-- An action that the world answers comes to that answer. -/
theorem Alone.of_run (answer : action.Reply) {call : Option Call}
    (hrun : action.run task w = .reply answer w' call) : action.Alone task w answer w' :=
  .replied hrun

/-- An action that has to wait comes to the answer of a wait that lasted until its deadline. -/
theorem Alone.of_wait (otherwise : action.Reply) (deadline : Duration.Instant)
    (hrun : action.run task w = .wait otherwise) (hdeadline : action.deadline? = some deadline) :
    action.Alone task w otherwise { w with now := max w.now deadline } :=
  .waited hrun hdeadline

end Action

namespace Channel

open Program

variable {task : Nat} {w : World} {session : Session} {q : Queue}

/-- A program ends alone when what follows its first action does. -/
theorem exists_alone_act {ε α : Type} {action : Action} {next : action.Reply → Program ε α}
    {outcome : Outcome ε α} {answer : action.Reply} {w₁ : World} (h : action.Alone task w answer w₁)
    (hnext : ∃ w', (next answer).alone task w₁ = .ended outcome w') :
    ∃ w', (Program.act action next).alone task w = .ended outcome w' :=
  hnext.imp fun _ hended => alone_act.2 ⟨answer, w₁, h, hended⟩

/-- An open channel answers how many elements its queue counts. -/
theorem alone_inWaiting (hopen : w.channel.isOpen = true) (hsession : w.channel.session? = some session)
    (hq : w.channel.queues[session]? = some q) :
    ∃ w', inWaiting.alone task w = .ended (.ok q.length) w' := by
  refine exists_alone_act (.of_run true (by rw [Action.run, hopen])) ?_
  refine exists_alone_act (.of_run (some session) (by rw [Action.run, hsession])) ?_
  refine exists_alone_act (.of_run q.length (by rw [Action.run, Action.atQueue, hq])) ?_
  exact exists_alone_act (.replied rfl) ⟨_, rfl⟩

/-- Bytes that are queued are taken in order, as many as are asked for. -/
theorem alone_takeQueued (limit : Nat) (bytes taken : List UInt8)
    (hq : w.channel.queues[session]? = some q) (hitems : q.items = bytes.map .byte) :
    ∃ w', (takeQueued session limit taken).alone task w =
      .ended (.ok (taken.reverse ++ bytes.take limit)) w' := by
  induction limit generalizing bytes taken w q with
  | zero => exact ⟨w, by simp [takeQueued, alone]⟩
  | succ limit ih =>
    refine exists_alone_act (.replied rfl) ?_
    cases htake : q.take? with
    | none =>
      have hnone : bytes = [] := by simpa [Queue.take?_eq_none.1 htake] using hitems.symm
      refine exists_alone_act (Action.Alone.of_wait none w.now ?_ rfl) ?_
      · simp only [Action.run, Action.atQueue, hq, htake]
      · exact ⟨{ w with now := max w.now w.now }, by simp [hnone, alone, Program.bind]⟩
    | some pair =>
      obtain ⟨entry, q'⟩ := pair
      rw [Queue.items_of_take? htake] at hitems
      obtain ⟨byte, rest, rfl, hentry, hrest⟩ := List.map_eq_cons_iff.1 hitems.symm
      have hq' : (w.withChannel (w.channel.setQueue session q')).channel.queues[session]? = some q' := by
        simp [World.withChannel, Action.queues_setQueue, hq]
      have hrun : (Action.pop session (some w.now)).run task w =
          .reply (some entry.item) (w.withChannel (w.channel.setQueue session q'))
            (if entry.counted then some (.one session .room) else none) := by
        simp only [Action.run, Action.atQueue, hq, htake]
      obtain ⟨w', hw'⟩ := ih rest (byte :: taken) hq' hrest.symm
      refine exists_alone_act (.replied hrun) ⟨w', ?_⟩
      rw [← hentry, List.take_succ_cons, ← List.singleton_append, ← List.append_assoc,
        ← List.reverse_cons]
      exact hw'

/-- An open channel yields the bytes that are queued, as many as are asked for. -/
theorem alone_readAvailable (hopen : w.channel.isOpen = true)
    (hsession : w.channel.session? = some session) (hq : w.channel.queues[session]? = some q)
    {bytes : List UInt8} (hitems : q.items = bytes.map .byte) (limit : Nat) :
    ∃ w', (readAvailable limit).alone task w = .ended (.ok (bytes.take limit)) w' := by
  refine exists_alone_act (.of_run true (by rw [Action.run, hopen])) ?_
  refine exists_alone_act (.of_run (some session) (by rw [Action.run, hsession])) ?_
  exact alone_takeQueued limit bytes [] hq hitems

end Channel

/-- What comes of working on a channel: background tasks are added and move on at any time, and an
operation that is called runs to its end, with theirs in between. -/
inductive Worked (builder : Builder) : Machine Failure Answer → Prop where
  | start : Worked builder (Machine.ofPrograms builder.world [])
  | spawn {m : Machine Failure Answer} (operation : Operation) :
      Worked builder m → operation.kind.Plain → Worked builder (m.beside [operation.job])
  | pass {m m' : Machine Failure Answer} {moves : List Move} {turns : List Turn} :
      Worked builder m → m.Run moves turns m' → Worked builder m'
  | call {m m' : Machine Failure Answer} {moves : List Move} {turns : List Turn}
      {ending : Outcome Failure Answer} (operation : Operation) :
      Worked builder m → (m.beside [operation.job]).Run moves turns m' →
      m'.outcomeOf? m.tasks.length = some ending → Worked builder m'

/-- Call operations one after another, each with the moves to make then. One that neither opens nor
closes the channel may stay at work in the background. -/
def Machine.work? (m : Machine Failure Answer) :
    List (Operation × List Move) → Option (Machine Failure Answer)
  | [] => some m
  | (operation, moves) :: rest => do
    let (_, m') ← (m.beside [operation.job]).run? moves
    if (m'.outcomeOf? m.tasks.length).isSome ∨ operation.kind.Plain then m'.work? rest else none

/-- Calls made one after another are work on the channel. -/
theorem Worked.work? {builder : Builder} {m last : Machine Failure Answer} (h : Worked builder m)
    {calls : List (Operation × List Move)} (hcalls : m.work? calls = some last) :
    Worked builder last := by
  induction calls generalizing m with
  | nil =>
    obtain rfl := Option.some.inj hcalls
    exact h
  | cons call rest ih =>
    obtain ⟨operation, moves⟩ := call
    simp only [Machine.work?, Option.bind_eq_bind, Option.bind_eq_some_iff, Prod.exists] at hcalls
    obtain ⟨turns, m', hmoves, hrest⟩ := hcalls
    have hrun : (m.beside [operation.job]).Run moves turns m' := Machine.Run.start.run? hmoves
    split at hrest
    next hgoes =>
      rcases hgoes with hended | hplain
      · obtain ⟨outcome, houtcome⟩ := Option.isSome_iff_exists.1 hended
        exact ih (h.call operation hrun houtcome) hrest
      · exact ih ((h.spawn operation hplain).pass hrun) hrest
    next => cases hrest

/-- A channel in order whose tasks only spare it, whatever is left for them to do. -/
structure Machine.Steady (builder : Builder) (m : Machine Failure Answer) : Prop where
  tidy : m.world.Tidy builder.build.traits
  inOrder : m.world.InOrder
  sparing : ∀ task p, m.programOf? task = some p → p.Obeys (.always Action.Sparing) []

namespace Machine.Steady

variable {builder : Builder} {m m' : Machine Failure Answer} {moves : List Move} {turns : List Turn}

/-- Background tasks leave a channel as steady as it was. -/
theorem spawn (h : m.Steady builder) {operation : Operation} (hplain : operation.kind.Plain) :
    (m.beside [operation.job]).Steady builder where
  tidy := h.tidy
  inOrder := h.inOrder
  sparing := by
    refine forall_programOf?_beside h.sparing (List.forall_mem_singleton.2 ?_)
    exact Channel.sparing_of_obeys hplain (operation.obeys [])

/-- As long as only background tasks move, a channel stays as steady as it is. -/
theorem pass (h : m.Steady builder) (hrun : Run m moves turns m') : m'.Steady builder := by
  have hsparing : ∀ turn ∈ turns, turn.deed.action.Sparing :=
    fun turn hturn => hrun.always hturn (h.sparing turn.task)
  refine ⟨?_, ?_, hrun.always_left h.sparing⟩
  · exact hrun.tidy builder.capacity_build h.tidy fun turn hturn =>
      Action.fitting_of_sparing (hsparing turn hturn)
  · refine hrun.world World.InOrder h.inOrder (fun nanos => Channel.spares_inOrder ?_) ?_
    · exact Channel.sparing.tick _ nanos
    · intro turn hturn
      exact Channel.spares_inOrder ((hrun.comes hturn).spared (hsparing turn hturn))

/-- An operation that has run to its end leaves a channel as steady as it was. -/
theorem call (h : m.Steady builder) {operation : Operation}
    (hrun : Run (m.beside [operation.job]) moves turns m') {outcome : Outcome Failure Answer}
    (hended : m'.outcomeOf? m.tasks.length = some outcome) : m'.Steady builder := by
  have hothers : ∀ task p, task ≠ m.tasks.length →
      (m.beside [operation.job]).programOf? task = some p → p.Obeys (.always Action.Sparing) [] :=
    fun task p hne hp => h.sparing task p (programOf?_of_beside hne hp)
  have hfits : ∀ task p, (m.beside [operation.job]).programOf? task = some p →
      p.Obeys (.always Action.Fitting) [] :=
    forall_programOf?_beside
      (fun task p hp => (h.sparing task p hp).mono fun _ _ => Action.fitting_of_sparing)
      (List.forall_mem_singleton.2
        ((operation.obeys []).mono fun _ _ hrule => Action.fitting_of_may hrule.1))
  refine ⟨?_, ?_, hrun.always_left_of_ended hended hothers⟩
  · exact hrun.tidy builder.capacity_build h.tidy fun turn hturn => hrun.always hturn (hfits turn.task)
  · refine hrun.secured (programOf?_beside_length m operation.job)
      (Channel.secures_operation operation h.inOrder) (fun turn hturn hne => ?_) hended
    exact (hrun.comes hturn).spared (hrun.always hturn fun p hp => hothers _ p hne hp)

end Machine.Steady

/-- Whatever was called on a channel, it and its background tasks are steady. -/
theorem Worked.steady {builder : Builder} {m : Machine Failure Answer} (h : Worked builder m) :
    m.Steady builder := by
  induction h with
  | start => exact ⟨builder.tidy_world, World.inOrder_of_closed rfl, fun _ _ hp => nomatch hp⟩
  | spawn operation _ hplain ih => exact ih.spawn hplain
  | pass _ hrun ih => exact ih.pass hrun
  | call operation _ hrun hended ih => exact ih.call hrun hended

/-- Whenever a channel is open between calls, its current queue has the capacity of the channel, and
holds bytes that are all counted and no mark of the end, so that their number is what the channel
answers and so many can be read. The baud rate is not zero, so there is a duration for any payload of
a size to be met with, and the diagnostics are those of the address. -/
theorem Worked.open_channel_ready {builder : Builder} {m : Machine Failure Answer}
    (h : Worked builder m) (hopen : m.world.channel.isOpen = true) :
    ∃ session q text address, ∃ bytes : List UInt8,
      m.world.channel.session? = some session ∧ m.world.channel.queues[session]? = some q ∧
      q.capacity = m.world.channel.traits.capacity ∧ q.capacity = max builder.capacity 1 ∧
      q.entries.toList = bytes.map (fun byte => ⟨.byte byte, true⟩) ∧ bytes.length ≤ q.capacity ∧
      (∀ task, ∃ w, Channel.inWaiting.alone task m.world = .ended (.ok bytes.length) w) ∧
      (∀ task limit, ∃ w,
        (Channel.readAvailable limit).alone task m.world = .ended (.ok (bytes.take limit)) w) ∧
      1 ≤ m.world.channel.settings.baudRate.toNat ∧
      (∀ length < 2 ^ 57, (m.world.channel.settings.transmitDuration? length).isSome = true) ∧
      m.world.channel.address = some text ∧ Address.parse text = .ok address ∧
      m.world.channel.diagnostics = address.logging := by
  obtain ⟨htidy, hinOrder, -⟩ := h.steady
  obtain ⟨⟨session, q, hsession, hq, hmark⟩, hbaud, text, address, haddressed⟩ := hinOrder hopen
  obtain ⟨-, hcapacity, -⟩ := htidy.queues hq
  obtain ⟨bytes, hbytes, hlength, hle⟩ := (htidy.queues hq).bytes hmark
  have hitems : q.items = bytes.map .byte := by
    simp [Queue.items, hbytes, Function.comp_def]
  refine ⟨session, q, text, address, bytes, hsession, hq, ?_, hcapacity, hbytes, ?_, ?_, ?_, ?_, ?_,
    haddressed⟩
  · rw [hcapacity, htidy.traits_eq]
  · rwa [hcapacity]
  · rw [← hlength]
    exact fun task => Channel.alone_inWaiting hopen hsession hq
  · exact fun task limit => Channel.alone_readAvailable hopen hsession hq hitems limit
  · rw [Nat.one_le_iff_ne_zero, Ne, ← UInt32.toNat_zero, UInt32.toNat_inj]
    exact hbaud
  · exact fun length => PortSettings.transmitDuration?_isSome hbaud

/-- A channel that asks for no room and gets room for a byte. -/
def cramped : Builder where
  address := some "loop://?logging=debug"
  capacity := 0
  settings := .default
  closeSettle := .zero

/-- The channel is opened and read from, which has to wait; it is given another address, which ends
that read; it refuses a baud rate of zero, and then a byte is written. -/
def crampedWork : List (Operation × List Move) := [
  (.channel .openPort, List.replicate 26 (.act 0)),
  (.channel (.read 2), List.replicate 7 (.act 1)),
  (.channel (.setAddress (some "loop://?logging=info")),
    List.replicate 5 (.act 2) ++ [.wake 2 1] ++ List.replicate 34 (.act 2)),
  (.device (.setBaudRate 0), [.act 1]),
  (.background (.write [7]), List.replicate 7 (.act 4))]

/-- A channel with room for one byte is open, has a queue with one byte in it, and the diagnostics that its address
asks for. -/
theorem open_channel_ready_cramped :
    ∃ m, Worked cramped m ∧ m.world.channel.isOpen = true ∧ ∃ session q text address,
      ∃ bytes : List UInt8, m.world.channel.session? = some session ∧
        m.world.channel.queues[session]? = some q ∧ q.capacity = 1 ∧
        q.entries.toList = bytes.map (fun byte => ⟨.byte byte, true⟩) ∧
        m.world.channel.address = some text ∧ Address.parse text = .ok address ∧
        m.world.channel.diagnostics = address.logging := by
  have hworks : ((Machine.ofPrograms cramped.world []).work? crampedWork).map
      (fun m => m.world.channel.isOpen) = some true := by decide +kernel
  obtain ⟨m, hm, hopen⟩ := Option.map_eq_some_iff.1 hworks
  have hworked : Worked cramped m := Worked.start.work? hm
  obtain ⟨session, q, text, address, bytes, hsession, hq, -, hcapacity, hbytes, -, -, -, -, -, haddress⟩ :=
    hworked.open_channel_ready hopen
  exact ⟨m, hworked, hopen, session, q, text, address, bytes, hsession, hq, hcapacity, hbytes, haddress⟩

end Loopback
