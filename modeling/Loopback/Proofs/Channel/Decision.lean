import Loopback.Proofs.Channel.Sessions

/-!
# What opening decides

Opening a channel succeeds, or it tells the first obstacle that there is: that the channel is open, that
it has no address, what is wrong with the address, or that the baud rate is zero. Which of these it is
depends on the channel alone. A channel that is not opened keeps everything but its diagnostics, so
nothing is ever left half open, whatever was called before and however that failed.
-/

namespace Loopback

namespace Channel

/-- What opening a channel comes to, and the channel that it leaves. -/
inductive Decision (c : Channel) : Outcome PortFailure Unit → Channel → Prop where
  | alreadyOpen (hopen : c.isOpen = true) : Decision c (.failed .alreadyOpen) c
  | notConfigured (hclosed : c.isOpen = false) (haddress : c.address = none) :
      Decision c (.failed .notConfigured) { c with diagnostics := none }
  | addressFormat {text : String} {fault : Address.Fault} (hclosed : c.isOpen = false)
      (haddress : c.address = some text) (hparse : Address.parse text = .error fault) :
      Decision c (.failed (.ofAddress fault)) { c with diagnostics := none }
  | invalidBaudRate {text : String} {address : Address} (hclosed : c.isOpen = false)
      (haddress : c.address = some text) (hparse : Address.parse text = .ok address)
      (hbaud : c.settings.baudRate = 0) :
      Decision c (.failed (.invalidBaudRate 0)) { c with diagnostics := address.logging }
  | opened {text : String} {address : Address} (hclosed : c.isOpen = false)
      (haddress : c.address = some text) (hparse : Address.parse text = .ok address)
      (hbaud : c.settings.baudRate ≠ 0) :
      Decision c (.ok ()) { c with
        isOpen := true
        queues := c.queues ++ [Queue.create c.traits.capacity]
        requestToSend := false
        dataTerminalReady := false
        diagnostics := address.logging }

/-- The decision told by what it depends on, with the queue that an opened channel has. -/
structure Decided (c : Channel) (outcome : Outcome PortFailure Unit) (c' : Channel) : Prop where
  decision : Decision c outcome c'
  ok_iff : outcome = .ok () ↔ c.isOpen = false ∧ (∃ text address, c.address = some text ∧
    Address.parse text = .ok address) ∧ 1 ≤ c.settings.baudRate.toNat
  queue : outcome = .ok () → ∃ session q, c'.session? = some session ∧
    c'.queues[session]? = some q ∧ q.items = [] ∧ q.length = 0 ∧ q.capacity = c.traits.capacity

variable {c c' : Channel} {outcome : Outcome PortFailure Unit}

/-- The session is the one of the last queue. -/
theorem session?_concat {queues : List Queue} {q : Queue} (h : c.queues = queues ++ [q]) :
    c.session? = some queues.length ∧ c.queues[queues.length]? = some q := by
  constructor <;> simp [session?, h]

/-- A baud rate of one at least is one that is not zero. -/
theorem baudRate_pos : 1 ≤ c.settings.baudRate.toNat ↔ c.settings.baudRate ≠ 0 := by
  rw [Nat.one_le_iff_ne_zero, Ne, ← UInt32.toNat_zero, UInt32.toNat_inj]

/-- The first obstacle is decided on, so there is none if and only if the channel is opened. -/
theorem Decision.ok_iff (h : Decision c outcome c') :
    outcome = .ok () ↔ c.isOpen = false ∧ (∃ text address, c.address = some text ∧
      Address.parse text = .ok address) ∧ 1 ≤ c.settings.baudRate.toNat := by
  rw [baudRate_pos]
  cases h with
  | opened hclosed haddress hparse hbaud =>
    exact ⟨fun _ => ⟨hclosed, ⟨_, _, haddress, hparse⟩, hbaud⟩, fun _ => rfl⟩
  | alreadyOpen hopen => simp [hopen]
  | notConfigured hclosed haddress => simp [haddress]
  | addressFormat hclosed haddress hparse =>
    refine ⟨nofun, fun ⟨_, ⟨text, address, haddress', hparse'⟩, _⟩ => ?_⟩
    obtain rfl := Option.some.inj (haddress.symm.trans haddress')
    cases hparse.symm.trans hparse'
  | invalidBaudRate hclosed haddress hparse hbaud => simp [hbaud]

/-- A decision on an opening says what it comes to, where there is room for one element at least. -/
theorem Decision.decided (h : Decision c outcome c') (hcapacity : 1 ≤ c.traits.capacity) :
    Decided c outcome c' where
  decision := h
  ok_iff := h.ok_iff
  queue hok := by
    cases h with
    | opened =>
      obtain ⟨hsession, hqueue⟩ := session?_concat (c := { c with
        isOpen := true
        queues := c.queues ++ [Queue.create c.traits.capacity]
        requestToSend := false
        dataTerminalReady := false
        diagnostics := _ }) rfl
      exact ⟨_, _, hsession, hqueue, Queue.items_create _, rfl, Nat.max_eq_left hcapacity⟩
    | _ => cases hok

/-- Whether others are kept out plays no part in the decision. -/
theorem Decision.changing (h : Decision { c with changing := true } outcome c')
    (hfree : c.changing = false) : Decision c outcome { c' with changing := false } := by
  obtain ⟨traits, address, settings, queues, isOpen, rts, dtr, break_, level, changing⟩ := c
  obtain rfl : changing = false := hfree
  cases h with
  | alreadyOpen hopen => exact .alreadyOpen hopen
  | notConfigured hclosed haddress => exact .notConfigured hclosed haddress
  | addressFormat hclosed haddress hparse => exact .addressFormat hclosed haddress hparse
  | invalidBaudRate hclosed haddress hparse hbaud => exact .invalidBaudRate hclosed haddress hparse hbaud
  | opened hclosed haddress hparse hbaud => exact .opened hclosed haddress hparse hbaud

end Channel

namespace Program

variable {ε α β : Type} {task : Nat} {w : World} {outcome : Outcome ε α} {c : Channel}

/-- A program that runs alone ends in a certain way, and leaves a certain channel. -/
def Leaves (task : Nat) (w : World) (outcome : Outcome ε α) (c : Channel) (p : Program ε α) : Prop :=
  ∃ w', p.alone task w = .ended outcome w' ∧ w'.channel = c

/-- A program that is left alone goes on from the answer to its first action. -/
theorem leaves_act {action : Action} {next : action.Reply → Program ε α} (answer : action.Reply)
    {w₁ : World} {call : Option Call} (hrun : action.run task w = .reply answer w₁ call)
    (hnext : (next answer).Leaves task w₁ outcome c) : (Program.act action next).Leaves task w outcome c := by
  obtain ⟨w', hended, hchannel⟩ := hnext
  exact ⟨w', alone_act.2 ⟨answer, w₁, .replied hrun, hended⟩, hchannel⟩

/-- An action at the end is taken however the program ends. -/
theorem leaves_thenAlways {p : Program ε α} {last : Action} {c' : Channel} (h : p.Leaves task w outcome c)
    (hlast : ∀ w₁ : World, w₁.channel = c → ∃ answer w₂ call,
      last.run task w₁ = .reply answer w₂ call ∧ w₂.channel = c') :
    (p.thenAlways last).Leaves task w outcome c' := by
  obtain ⟨w₁, hended, hchannel⟩ := h
  induction p generalizing w with
  | act action next ih =>
    obtain ⟨answer, w₂, halone, hrest⟩ := alone_act.1 hended
    obtain ⟨w', hended', hchannel'⟩ := ih answer hrest
    exact ⟨w', alone_act.2 ⟨answer, w₂, halone, hended'⟩, hchannel'⟩
  | _ =>
    cases hended
    obtain ⟨answer, w₂, call, hrun, hchannel'⟩ := hlast _ hchannel
    exact leaves_act answer hrun ⟨w₂, rfl, hchannel'⟩

/-- Where nobody is kept out, a program that keeps others out leaves nobody kept out. -/
theorem leaves_exclusively {p : Program ε α} (hfree : w.channel.changing = false)
    (h : p.Leaves task (w.withChannel { w.channel with changing := true }) outcome c) :
    (exclusively p).Leaves task w outcome { c with changing := false } := by
  have hentered : Action.enterLifecycle.run task w =
      .reply () (w.withChannel { w.channel with changing := true }) none := by
    simp [Action.run, hfree]
  refine leaves_act () hentered (leaves_thenAlways h fun w₁ hchannel => ⟨(), _, none, rfl, ?_⟩)
  rw [← hchannel]
  rfl

end Program

namespace Channel

open Program

variable {α : Type} {task : Nat} {w : World} {rest : Unit → Operation α} {outcome : Outcome PortFailure α}
  {c : Channel}

/-- The end of an opening: a session begins with both lines low and nothing waiting. -/
def beginSession (event : Event) : Operation Unit := do
  .perform .newSession
  .perform (.setOpen true)
  setDataTerminalReady false
  setRequestToSend false
  resetInput
  resetOutput
  .perform (.report event)

/-- What an opening does with the settings, and all that follows. -/
def openChecked (event : Traits → Event) : Operation Unit := do
  reconfigure
  let traits ← Program.getTraits
  if Queue.fitsMemory traits.capacity then beginSession (event traits)
  else .abort Queue.tooLarge

/-- Opening goes by stages, each of which may meet an obstacle. -/
theorem openExclusively_eq :
    openExclusively = (do
      if ← Program.getOpen then .fail .alreadyOpen
      else
        .perform .dropDiagnostics
        match ← Program.perform .getAddress with
        | none => .fail .notConfigured
        | some text =>
          let address ← Program.ofExcept ((Address.parse text).mapError PortFailure.ofAddress)
          .perform (.attachDiagnostics address.logging)
          openChecked fun traits => openedEvent text traits.capacity) := rfl

/-- What follows a check of the settings meets the channel as it was. -/
theorem leaves_reconfigure_bind (hbaud : w.channel.settings.baudRate ≠ 0)
    (hrest : ∀ w₁ : World, w₁.channel = w.channel → (rest ()).Leaves task w₁ outcome c) :
    (reconfigure >>= rest).Leaves task w outcome c := by
  obtain ⟨rate, hrate⟩ := checkBaudRate_isOk.2
    ⟨baudRate_pos.2 hbaud, Nat.le_of_lt_succ w.channel.settings.baudRate.toNat_lt⟩
  refine leaves_act w.channel.settings rfl ?_
  dsimp only [Program.bind]
  rw [hrate]
  exact leaves_act () rfl (hrest _ rfl)

/-- Dropping what is queued leaves a channel as it was whose queue was just created. -/
theorem leaves_reset_bind {queues : List Queue} {capacity : Nat} (message : String)
    (hopen : w.channel.isOpen = true) (hqueues : w.channel.queues = queues ++ [Queue.create capacity])
    (hrest : ∀ w₁ : World, w₁.channel = w.channel → (rest ()).Leaves task w₁ outcome c) :
    ((do
      let session ← liveSession
      Program.note .info message
      let _ ← QueueCall.clear session
      pure () : Operation Unit) >>= rest).Leaves task w outcome c := by
  obtain ⟨hsession, hqueue⟩ := session?_concat hqueues
  have hset : w.channel.queues.set queues.length (Queue.create capacity) = w.channel.queues := by
    rw [hqueues]
    simp
  have hcleared : ∀ noted : World, noted.channel = w.channel →
      (Action.clear queues.length).run task noted =
        .reply 0 (noted.withChannel w.channel) (some (.every queues.length .room)) := by
    intro noted hnoted
    simp only [Action.run, Action.atQueue, hnoted, hqueue]
    rw [setQueue, show (Queue.create capacity).clear.2 = Queue.create capacity from rfl, hset]
    rfl
  refine leaves_act true (by rw [Action.run, hopen]) ?_
  refine leaves_act (some queues.length) (by rw [Action.run, hsession]) ?_
  exact leaves_act () rfl (leaves_act 0 (hcleared _ rfl) (hrest _ rfl))

/-- Once a session has begun, nothing keeps the channel from being opened. -/
theorem leaves_beginSession (event : Event) :
    (beginSession event).Leaves task w (.ok ()) { w.channel with
      isOpen := true
      queues := w.channel.queues ++ [Queue.create w.channel.traits.capacity]
      requestToSend := false
      dataTerminalReady := false } := by
  refine leaves_act () rfl <| leaves_act () rfl ?_
  refine leaves_act () rfl <| leaves_act () rfl ?_
  refine leaves_act () rfl <| leaves_act () rfl ?_
  refine leaves_reset_bind _ rfl rfl fun w₁ hinput => ?_
  refine leaves_reset_bind _ (congrArg isOpen hinput) (congrArg queues hinput) fun w₂ houtput => ?_
  exact leaves_act () rfl ⟨_, rfl, houtput.trans hinput⟩

/-- Where the baud rate is zero, nothing follows a check of the settings. -/
theorem leaves_reconfigure_zero (hbaud : w.channel.settings.baudRate = 0) :
    (reconfigure >>= rest).Leaves task w (.failed (.invalidBaudRate 0)) w.channel := by
  have hasked : Action.getSettings.run task w = .reply w.channel.settings w none := rfl
  refine leaves_act _ hasked ?_
  dsimp only [Program.bind]
  rw [hbaud]
  exact ⟨w, rfl, rfl⟩

/-- Once the settings are in order and there is memory for a queue, the channel is opened. -/
theorem leaves_openChecked (event : Traits → Event) (hbaud : w.channel.settings.baudRate ≠ 0)
    (hfits : Queue.fitsMemory w.channel.traits.capacity = true) :
    (openChecked event).Leaves task w (.ok ()) { w.channel with
      isOpen := true
      queues := w.channel.queues ++ [Queue.create w.channel.traits.capacity]
      requestToSend := false
      dataTerminalReady := false } := by
  refine leaves_reconfigure_bind hbaud fun w₁ hchecked => ?_
  have hmeasured : Action.getTraits.run task w₁ = .reply w.channel.traits w₁ none := by
    rw [Action.run, hchecked]
  refine leaves_act _ hmeasured ?_
  dsimp only [Program.bind]
  rw [if_pos hfits, ← hchecked]
  exact leaves_beginSession _

/-- Opening with others kept out decides by the channel that it meets. -/
theorem leaves_openExclusively (task : Nat) {w : World}
    (hfits : Queue.fitsMemory w.channel.traits.capacity = true) :
    ∃ outcome c, openExclusively.Leaves task w outcome c ∧ Decision w.channel outcome c := by
  have hasked : ∀ {isOpen}, w.channel.isOpen = isOpen → Action.getOpen.run task w = .reply isOpen w none := by
    rintro _ rfl
    rfl
  cases hopen : w.channel.isOpen with
  | true => exact ⟨_, _, leaves_act true (hasked hopen) ⟨w, rfl, rfl⟩, .alreadyOpen hopen⟩
  | false =>
    have hgiven : ∀ {address}, w.channel.address = address →
        Action.getAddress.run task (w.withChannel { w.channel with diagnostics := none }) =
          .reply address (w.withChannel { w.channel with diagnostics := none }) none := by
      rintro _ rfl
      rfl
    cases haddress : w.channel.address with
    | none =>
      refine ⟨_, _, leaves_act false (hasked hopen) ?_, .notConfigured hopen haddress⟩
      exact leaves_act () rfl (leaves_act none (hgiven haddress) ⟨_, rfl, rfl⟩)
    | some text =>
      -- Up to the address every opening of a closed channel goes the same way.
      have hnamed : ∀ {outcome c}, (do
            let address ← Program.ofExcept ((Address.parse text).mapError PortFailure.ofAddress)
            .perform (.attachDiagnostics address.logging)
            openChecked fun traits => openedEvent text traits.capacity : Operation Unit).Leaves task
              (w.withChannel { w.channel with diagnostics := none }) outcome c →
          openExclusively.Leaves task w outcome c := fun h => by
        rw [openExclusively_eq]
        exact leaves_act false (hasked hopen) (leaves_act () rfl (leaves_act _ (hgiven haddress) h))
      cases hparse : Address.parse text with
      | error fault =>
        refine ⟨_, _, hnamed ?_, .addressFormat hopen haddress hparse⟩
        rw [hparse]
        exact ⟨_, rfl, rfl⟩
      | ok address =>
        by_cases hbaud : w.channel.settings.baudRate = 0
        · refine ⟨_, _, hnamed ?_, .invalidBaudRate hopen haddress hparse hbaud⟩
          rw [hparse]
          exact leaves_act () rfl (leaves_reconfigure_zero hbaud)
        · refine ⟨_, _, hnamed ?_, .opened hopen haddress hparse hbaud⟩
          rw [hparse]
          exact leaves_act () rfl (leaves_openChecked _ hbaud hfits)

/-- Where no one else opens or closes the channel, opening it decides by the channel alone. -/
theorem decision_of_openPort (task : Nat) {w : World} (hfree : w.channel.changing = false)
    (hfits : Queue.fitsMemory w.channel.traits.capacity = true) :
    ∃ outcome w', openPort.alone task w = .ended outcome w' ∧ Decision w.channel outcome w'.channel := by
  obtain ⟨outcome, c, hinner, hdecision⟩ :=
    leaves_openExclusively task (w := w.withChannel { w.channel with changing := true }) hfits
  obtain ⟨w', hended, hchannel⟩ := leaves_exclusively hfree hinner
  exact ⟨outcome, w', hended, hchannel ▸ hdecision.changing hfree⟩

end Channel

/-- Where a channel could be opened now, with no other task about, it is decided whether it is. -/
def World.Decides (w : World) : Prop :=
  Queue.fitsMemory w.channel.traits.capacity = true → ∀ task, ∃ outcome w',
    Channel.openPort.alone task w = .ended outcome w' ∧ w.channel.Decided outcome w'.channel

/-- A channel that nobody is kept out of, and whose queues are tidy, decides on its opening. -/
theorem World.decides_of_free {w : World} {builder : Builder} (hfree : w.channel.changing = false)
    (htidy : w.Tidy builder.build.traits) : w.Decides := by
  intro hfits task
  obtain ⟨outcome, w', hended, hdecision⟩ := Channel.decision_of_openPort task hfree hfits
  exact ⟨outcome, w', hended, hdecision.decided (htidy.traits_eq ▸ builder.capacity_build)⟩

end Loopback
