import Loopback.Proofs.Channel.Calm
import Loopback.Proofs.Channel.Echo
import Loopback.Proofs.Machine.Rest

/-!
# Echoes that never end

The command's echo reads only once, so its reader may end before it has the whole message: at once where
the read timeout is zero. A sender without a write timeout that still has more to write than the channel
has room for then waits for ever. It cannot come to that without a read timeout, or with a message that the
channel has room for.
-/

namespace Loopback

variable {ε δ α β : Type}

namespace Program

variable {session : Session} {settings : PortSettings} {bound : Nat} {data : List UInt8}

/-- On a channel in use a program puts nothing but certain bytes, in order, and takes none. -/
def Puts (session : Session) (settings : PortSettings) (bound : Nat) (data : List UInt8)
    (p : Program ε α) : Prop :=
  p.Transfers session settings bound fun put popped _ => popped = [] ∧ put <+: data.map .byte

/-- What is about to put an element has not put all. -/
theorem Puts.length_lt {p : Program ε α} (h : p.Puts session settings bound data) {deeds : List Deed}
    (hdeeds : ∀ d ∈ deeds, (Channel.busy session settings).expects d) {item : Item}
    {deadline : Option Duration.Instant} {next : Bool → Program ε α}
    (hleads : p.Leads deeds (.act (.push session item deadline) next)) :
    (deeds.flatMap (Deed.put session)).length < data.length := by
  obtain ⟨-, hput⟩ := Transfers.leads_act h hleads hdeeds true (.inl rfl)
  have hone : (Deed.put session ⟨.push session item deadline, true⟩).length = 1 := by simp [Deed.put]
  have hle := hput.length_le
  rwa [List.length_append, hone, List.length_map] at hle

end Program

/-- What a write has put is the first of its bytes, however it stands. -/
theorem Sent.put_prefix {timeout transmit : Option Duration} {accepts : α → Prop} {expired : Duration → ε}
    {data : List UInt8} {put : List Item} {stand : Stand ε α}
    (h : Sent timeout transmit accepts expired data put stand) : put <+: data.map .byte := by
  cases h with
  | midst sent hdata hpause => exact ⟨_, by rw [hdata, List.map_append]⟩
  | all haccepts => exact List.prefix_refl _
  | late sent hdata hleft htimeout => exact ⟨_, by rw [hdata, List.map_append]⟩
  | endless htransmit => exact List.nil_prefix

namespace CommandLine.Echo

variable {closed opened world : World} {session : Session} {settings : PortSettings} {capacity : Nat}
  {message : List UInt8} {m m' : Machine Background.Failure EchoPart} {moves more : List Move}
  {turns later : List Turn} {outcome : Outcome Background.Failure EchoPart}

/-- The task that sends puts the bytes of the message. -/
theorem puts_sender (session : Session) (settings : PortSettings) (message : List UInt8) :
    (sending message).Puts session settings (2 * message.length + 5) message := by
  refine Program.transfers_map (Program.transfers_sheltered.2 (Program.transfers_mapFailure.2 ?_))
  exact (Channel.transfers_write message).mono (Nat.le_refl _)
    fun put popped stand ⟨hpopped, hsent⟩ => ⟨hpopped, hsent.put_prefix⟩

/-- The task that reads answers what it took, which is everything if there is no read timeout. -/
theorem takes_reader (session : Session) (settings : PortSettings) (size : Nat) :
    (receiving size).Transfers session settings (4 * size + 4) fun put popped stand =>
      put = [] ∧ Taken size (settings.readTimeout = none) (fun taken part => part = .received taken)
        (fun _ => False) popped stand := by
  have hread : ((Channel.read size).mapFailure Background.Failure.port).Transfers session settings
      (4 * size + 4) fun put popped stand => put = [] ∧ Taken size (settings.readTimeout = none)
        (fun taken answer => answer = taken) (fun _ => False) popped stand :=
    Program.transfers_mapFailure.2 ((Channel.transfers_read size).mono (Nat.le_refl _)
      fun _ _ _ ⟨hput, htaken⟩ => ⟨hput, htaken.told id (fun _ _ h => h) fun _ h => h⟩)
  have hsheltered : (Background.readBytes size).Transfers session settings (4 * size + 4)
      fun put popped stand => put = [] ∧ Taken size (settings.readTimeout = none)
        (fun taken answer => answer = taken) (fun _ => False) popped stand :=
    Program.transfers_sheltered.2 (hread.mono (Nat.le_refl _)
      fun _ _ _ ⟨hput, htaken⟩ => ⟨hput, htaken.sheltered _⟩)
  exact Program.transfers_map (hsheltered.mono (Nat.le_refl _)
    fun _ _ _ ⟨hput, htaken⟩ => ⟨hput, htaken.told id (fun _ _ h => congrArg _ h) fun _ h => h⟩)

/-- Where the sender waits for room for ever, the reader having ended, every task has halted. -/
theorem halted_of_waitsAt (hrun : Machine.Run (machine world message) moves turns m)
    (hreader : m.outcomeOf? reader = some outcome) (hsleeps : m.waitsAt sender session .room = true) :
    ∀ t ∈ m.tasks, t.halted = true := by
  intro t ht
  obtain ⟨task, htask⟩ := List.mem_iff_getElem?.1 ht
  have hlt : task < m.tasks.length := (List.getElem?_eq_some_iff.1 htask).1
  have hlength : m.tasks.length = 2 := hrun.length_tasks
  have hcases : task = sender ∨ task = reader := by
    simp only [sender, reader]
    omega
  rcases hcases with rfl | rfl
  · obtain ⟨ticket, action, next, hasleep, -, hdeadline⟩ := Machine.waitsAt_iff.1 hsleeps
    obtain rfl := Option.some.inj (htask.symm.trans hasleep)
    exact Option.isNone_iff_eq_none.2 hdeadline
  · rw [Machine.outcomeOf?, htask] at hreader
    cases t with
    | running program => exact Option.isSome_iff_exists.2 ⟨outcome, hreader⟩
    | _ => cases hreader

/-- An echo at a fresh channel comes to a halt with its sender waiting for room only if the reader ended at
its timeout, and left more of the message than the channel has room for. -/
theorem of_halt {current : Session} (hfresh : world.Fresh current settings capacity)
    (hrun : Machine.Run (machine world message) moves turns m)
    (hreader : m.outcomeOf? reader = some outcome) (hsleeps : m.waitsAt sender session .room = true) :
    settings.readTimeout ≠ none ∧ ∃ received, outcome = .ok (.received received) ∧
      received.length + max capacity 1 < message.length := by
  have hsender := puts_sender current settings message
  have htakes := takes_reader current settings message.length
  have hfollows := List.forall_mem_cons.2 ⟨hsender.follows, List.forall_mem_singleton.2 htakes.follows⟩
  have hrest : ∀ t ∈ m.tasks, t.Resting :=
    fun t ht => Task.resting_of_halted (halted_of_waitsAt hrun hreader hsleeps t ht)
  rw [machine_eq] at hrun
  obtain ⟨-, hturns⟩ := hrun.regime (Channel.busy_kept current settings) hfresh.live hfollows
  have hexpects : ∀ task, ∀ deed ∈ deedsOf task turns,
      (Channel.busy current settings).expects deed :=
    forall_deedsOf fun turn hturn => (hturns turn hturn).2
  obtain ⟨p, hp, hpleads⟩ := hrun.leads (Machine.programOf?_ofPrograms world _ sender)
  obtain ⟨q, hq, hqleads⟩ := hrun.leads (Machine.programOf?_ofPrograms world _ reader)
  obtain ⟨-, hpopped, -⟩ := Program.Transfers.leads hsender hpleads (hexpects sender)
  obtain ⟨-, hput, htaken⟩ := Program.Transfers.leads htakes hqleads (hexpects reader)
  have hitems : world.items current ++ (deedsOf sender turns).flatMap (Deed.put current) =
      (deedsOf reader turns).flatMap (Deed.popped current) ++ m.world.items current :=
    hrun.items_eq hfresh.live (fun turn hturn => (hturns turn hturn).1) hpopped hput
  rw [hfresh.items_eq, List.nil_append] at hitems
  -- The sender is about to put an element, so it has not put all.
  obtain ⟨ticket, action, next, hasleep, hpost, -⟩ := Machine.waitsAt_iff.1 hsleeps
  obtain rfl := Option.some.inj ((Machine.programOf?_of_getElem? hasleep).symm.trans hp)
  have hallowed := hrun.allows hfollows (fun turn hturn => (hturns turn hturn).2) hp
  have hless : session = current ∧ ((deedsOf sender turns).flatMap (Deed.put current)).length < message.length := by
    cases action with
    | push =>
      cases hpost
      obtain ⟨rfl, -⟩ := hallowed
      exact ⟨rfl, hsender.length_lt (hexpects sender) hpleads⟩
    | _ => cases hpost
  obtain ⟨hcurrent, hless⟩ := hless
  subst hcurrent
  -- Everything rests, and so the queue is full.
  obtain ⟨queue, hqueue, hsound, hcapacity, -, hroom⟩ := hrun.starved hfresh.created hrest
  have hfull := hroom ⟨_, List.mem_of_getElem? hasleep, Task.sleepsAt_iff.2 ⟨ticket, action, next, rfl, hpost⟩⟩
  have hqueued : max capacity 1 ≤ (m.world.items session).length := by
    rw [World.items_of_queue hqueue, ← hcapacity, ← hfull]
    exact hsound.counted_le_length
  rw [Machine.stand_of_outcomeOf? hq hreader] at htaken
  generalize (deedsOf reader turns).flatMap (Deed.popped session) = popped at htaken hitems
  cases htaken with
  | @answered taken result hsize hall htells =>
    subst htells
    rw [hitems, List.length_append, List.length_map] at hless
    refine ⟨fun hnone => ?_, taken, rfl, by omega⟩
    have := hall hnone
    omega
  | nothing hfails => exact hfails.elim

end CommandLine.Echo

namespace CommandLine

open Echo

/-- The command's echo comes to a halt, its sender waiting for room and its reader having ended, only under a
read timeout, and only if the reader ended with more of the message left than the channel has room for.
Then it has come to a halt for ever: nothing but time moves after that. -/
theorem echo_halts {closed opened : World} (hopen : closed.Opened opened) {message : List UInt8}
    {m : Machine Background.Failure EchoPart} {moves : List Move} {turns : List Turn}
    (hrun : Machine.Run (machine opened message) moves turns m)
    {outcome : Outcome Background.Failure EchoPart} (hreader : m.outcomeOf? reader = some outcome)
    {session : Session} (hsleeps : m.waitsAt sender session .room = true) :
    closed.channel.settings.readTimeout ≠ none ∧
      (∃ received, outcome = .ok (.received received) ∧
        received.length + max closed.channel.traits.capacity 1 < message.length) ∧
      ∀ {more : List Move} {later : List Turn} {m' : Machine Background.Failure EchoPart},
        Machine.Run m more later m' → later = [] ∧ m'.tasks = m.tasks := by
  obtain ⟨current, hfresh, -⟩ := hopen.fresh
  obtain ⟨htimeout, hreceived⟩ := of_halt hfresh hrun hreader hsleeps
  exact ⟨htimeout, hreceived, fun hmore => hmore.halted (halted_of_waitsAt hrun hreader hsleeps)⟩

/-- A channel with room for one byte, with a read timeout of zero and without a write timeout. -/
def hasty : Builder :=
  { narrow with settings := { PortSettings.default with readTimeout := some .zero } }

/-- Reading ends before anything was sent, and then the second of three bytes finds no room. -/
theorem exists_halt :
    ∃ opened m moves turns, hasty.world.Opened opened ∧ Machine.Run (machine opened [1, 2, 3]) moves turns m ∧
      (m.outcomeOf? reader).isSome = true ∧ m.waitsAt sender 0 .room = true := by
  have hopens : (Exchange.alone? opening hasty.world).any (fun (result, opened) => result.isOk &&
      ((machine opened [1, 2, 3]).run? (List.replicate 7 (.act reader) ++ [.expire reader, .act reader] ++
        List.replicate 8 (.act sender))).any fun (_, m) =>
          decide ((m.outcomeOf? reader).isSome = true ∧ m.waitsAt sender 0 .room = true)) = true := by
    decide +kernel
  obtain ⟨⟨result, opened⟩, halone, hmoves⟩ := (Option.any_eq_true _ _).1 hopens
  obtain ⟨hok, hmoves⟩ := Bool.and_eq_true_iff.1 hmoves
  cases result with
  | error failure => cases hok
  | ok =>
    obtain ⟨⟨turns, m⟩, hrun, hhalt⟩ := (Option.any_eq_true _ _).1 hmoves
    exact ⟨opened, m, _, turns, .byCommand halone, Machine.Run.start.run? hrun, of_decide_eq_true hhalt⟩

/-- An echo whose reader runs out of time comes to a halt with its sender waiting for room. -/
theorem echo_halts_hasty :
    ∃ opened m moves turns received, hasty.world.Opened opened ∧
      Machine.Run (machine opened [1, 2, 3]) moves turns m ∧ m.waitsAt sender 0 .room = true ∧
      m.outcomeOf? reader = some (.ok (.received received)) ∧ received.length < 2 ∧
      ∀ {more : List Move} {later : List Turn} {m' : Machine Background.Failure EchoPart},
        Machine.Run m more later m' → later = [] ∧ m'.tasks = m.tasks := by
  obtain ⟨opened, m, moves, turns, hopened, hrun, hended, hsleeps⟩ := exists_halt
  obtain ⟨outcome, hreader⟩ := Option.isSome_iff_exists.1 hended
  obtain ⟨-, ⟨received, rfl, hreceived⟩, hstays⟩ := echo_halts hopened hrun hreader hsleeps
  have hless : received.length < 2 := Nat.lt_of_add_lt_add_right hreceived
  exact ⟨opened, m, moves, turns, received, hopened, hrun, hsleeps, hreader, hless, hstays⟩

/-- So not every echo of the command comes to an end. -/
theorem not_always_ended :
    ¬∀ {closed opened : World} {message : List UInt8} {m : Machine Background.Failure EchoPart}
      {moves : List Move} {turns : List Turn} {session : Session}, closed.Opened opened →
        Machine.Run (machine opened message) moves turns m → (m.outcomeOf? reader).isSome = true →
          m.waitsAt sender session .room = false := by
  intro hnever
  obtain ⟨opened, m, moves, turns, hopened, hrun, hended, hsleeps⟩ := exists_halt
  exact Bool.eq_false_iff.1 (hnever hopened hrun hended) hsleeps

end CommandLine

end Loopback
