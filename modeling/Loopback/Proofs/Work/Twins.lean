import Loopback.Proofs.Address.Asking
import Loopback.Proofs.Channel.Parts
import Loopback.Proofs.Channel.Sessions
import Loopback.Proofs.Channel.Twins

/-!
# Diagnostics change nothing

All calls but those that open the channel, move it, or ask for its address or its diagnostics take blind actions
only, whatever end they are made at. So every operation but a move to another address comes to answers that agree
at channels which differ in their diagnostics: they are the same, unless the operation asks for these. Two
channels whose addresses differ in the option `logging` alone stay alike, whatever is done with them in the
same order. What they report is one series of diagnostics, of which each lets through what its level admits.
-/

namespace Loopback

variable {ε α β : Type} {t : Twins}

/-- The two addresses, one of which asks for diagnostics. -/
def Address.Asks.twins {text asking : String} {level : Severity} (h : Asks text asking level) : Twins where
  text := text
  text' := asking
  level := none
  level' := some level
  parse := h.parse

/-- One address that asks for diagnostics at two levels. -/
def Address.Asks.both {text asking asking' : String} {level level' : Severity} (h : Asks text asking level)
    (h' : Asks text asking' level') : Twins where
  text := asking
  text' := asking'
  level := some level
  level' := some level'
  parse := by
    rcases h.parse with ⟨fault, hparse, hfault⟩ | ⟨_, address, hparse, haddress, -, hlevel⟩
    · rcases h'.parse with ⟨fault', hparse', hfault'⟩ | ⟨_, _, hparse', -⟩
      · obtain rfl := Except.error.inj (hparse.symm.trans hparse')
        exact .inl ⟨fault, hfault, hfault'⟩
      · cases hparse.symm.trans hparse'
    · rcases h'.parse with ⟨_, hparse', -⟩ | ⟨_, address', -, haddress', -, hlevel'⟩
      · cases hparse.symm.trans hparse'
      · exact .inr ⟨address, address', haddress, haddress', hlevel, hlevel'⟩

namespace Twins

/-- Statuses that differ in the address and in what is attached for diagnostics. -/
structure Statuses (t : Twins) (status status' : ChannelStatus) : Prop where
  same : status' = { status with address := status'.address, diagnostics := status'.diagnostics }
  address : status.address = some t.text
  address' : status'.address = some t.text'
  attached : t.Attached status.diagnostics status'.diagnostics

/-- A channel shown with an address and further fields. -/
def shown (address : String) (fields : List (String × String)) : String :=
  Text.record "LoopbackChannel" (("port", Text.optional Text.quoted (some address)) :: fields)

/-- Texts in which a channel is shown with an address of its own, and with the same further fields. -/
def Texts (t : Twins) (wrapped : String → String) (value value' : String) : Prop :=
  ∃ fields, value = wrapped (shown t.text fields) ∧ value' = wrapped (shown t.text' fields)

end Twins

/-- When answers to an operation on the channel itself agree. -/
def ChannelOperation.Agree (t : Twins) : ChannelOperation → Answer → Answer → Prop
  | .getAddress => fun answer answer' =>
    answer = .maybeText (some t.text) ∧ answer' = .maybeText (some t.text')
  | .diagnostics => fun answer answer' =>
    ∃ level level', t.Attached level level' ∧ answer = .severity level ∧ answer' = .severity level'
  | .status => fun answer answer' =>
    ∃ status status', t.Statuses status status' ∧ answer = .status status ∧ answer' = .status status'
  | .text => fun answer answer' =>
    ∃ value value', t.Texts id value value' ∧ answer = .text value ∧ answer' = .text value'
  | _ => Eq

/-- When answers to an operation on a plain serial port agree. -/
def AdapterOperation.Agree (t : Twins) : AdapterOperation → Answer → Answer → Prop
  | .name => fun answer answer' => answer = .text t.text ∧ answer' = .text t.text'
  | _ => Eq

/-- When answers to an operation by way of background tasks agree. -/
def BackgroundOperation.Agree (t : Twins) : BackgroundOperation → Answer → Answer → Prop
  | .name => fun answer answer' => answer = .text t.text ∧ answer' = .text t.text'
  | .text => fun answer answer' =>
    ∃ value value', t.Texts Background.shown value value' ∧ answer = .text value ∧ answer' = .text value'
  | _ => Eq

/-- When answers to an operation on a serial device agree. -/
def DeviceOperation.Agree (t : Twins) : DeviceOperation → Answer → Answer → Prop
  | .name => fun answer answer' =>
    answer = .maybeText (some t.text) ∧ answer' = .maybeText (some t.text')
  | .text => fun answer answer' =>
    ∃ value value', t.Texts (fun channel => Text.record "LoopbackPort" [("channel", channel)]) value value' ∧
      answer = .text value ∧ answer' = .text value'
  | _ => Eq

/-- When answers to an operation agree: if they are the same, but for what tells of the address or of what is
attached for diagnostics. -/
def Operation.Agree (t : Twins) : Operation → Answer → Answer → Prop
  | .channel operation => operation.Agree t
  | .adapter operation => operation.Agree t
  | .background operation => operation.Agree t
  | .stream _ => Eq
  | .device operation => operation.Agree t

namespace Program

/-- To take blind actions only goes by how programs are built. -/
theorem blind_parts : Hereditary (@Blind) Action.Blind :=
  hereditary_obeys fun {action} hordinary => by
    cases action with
    | report event =>
      have htarget : Event.channelTarget ≠ Event.diagnosticTarget := by decide
      exact ne_of_eq_of_ne hordinary htarget
    | getAddress | setAddress | getDiagnostics | attachDiagnostics => exact hordinary.elim
    | _ => trivial

/-- A job comes to answers that agree where its program comes to such results. -/
theorem Alike.job {agrees : α → α → Prop} {agree : Answer → Answer → Prop} {p p' : Program ε α}
    (h : p.Alike t agrees p') (failure : ε → Failure) {answer : α → Answer}
    (hanswer : ∀ result result', agrees result result' → agree (answer result) (answer result')) :
    (p.job failure answer).Alike t agree (p'.job failure answer) :=
  (h.mapFailure failure).bind fun result result' hresult => .done (hanswer result result' hresult)

/-- A job that takes blind actions comes to the same answers. -/
theorem Blind.job {p : Program ε α} (h : p.Blind) (failure : ε → Failure) (answer : α → Answer) :
    (p.job failure answer).Alike t Eq (p.job failure answer) :=
  h.alike.job failure fun _ _ hresult => congrArg answer hresult

end Program

namespace Channel

open Program

/-- Opening attaches what the address asks for, and goes on the same way. -/
theorem alike_openPort : openPort.Alike t Eq openPort := by
  refine .same trivial fun _ => Alike.thenAlways ?_ trivial
  refine .same trivial fun isOpen => ?_
  cases isOpen with
  | true => exact .fail _
  | false =>
    refine .same trivial fun _ => .address ?_
    rcases t.parse with ⟨fault, hparse, hparse'⟩ | ⟨address, address', hparse, hparse', hlevel, hlevel'⟩
    · dsimp only [Program.bind]
      rw [hparse, hparse']
      exact .fail _
    · dsimp only [Program.bind]
      rw [hparse, hparse']
      refine .attach hlevel hlevel' ((blind_parts.reconfigure trivial).bind_alike fun _ => .same trivial fun traits => ?_)
      dsimp only [Program.bind]
      split
      next =>
        refine .same trivial fun _ => .same trivial fun _ => ?_
        refine (blind_parts.setLine trivial _).bind_alike fun _ => ?_
        refine (blind_parts.setLine trivial _).bind_alike fun _ => ?_
        refine (blind_parts.reset _).bind_alike fun _ => (blind_parts.reset _).bind_alike fun _ => ?_
        exact .opened traits.capacity (.done rfl)
      next => exact .abort _

/-- Each twin is told its own address. -/
theorem alike_getAddress :
    (getAddress : Program ε (Option String)).Alike t
      (fun address address' => address = some t.text ∧ address' = some t.text') getAddress :=
  .address (.done ⟨rfl, rfl⟩)

/-- Each twin is told what is attached to it for diagnostics. -/
theorem alike_getDiagnostics :
    (getDiagnostics : Program ε (Option Severity)).Alike t t.Attached getDiagnostics :=
  .diagnostics fun _ _ hattached => .done hattached

/-- Statuses differ in the address and in what is attached for diagnostics. -/
theorem alike_status : (status : Program ε ChannelStatus).Alike t t.Statuses status := by
  refine .same trivial fun settings => .same trivial fun isOpen => .address (.same trivial fun traits => ?_)
  cases isOpen with
  | true =>
    refine (blind_parts.counted blind_parts.inWaiting).bind_alike fun _ => .same trivial fun _ => ?_
    exact .same trivial fun _ => .same trivial fun _ => .diagnostics fun _ _ hattached =>
      .done ⟨rfl, rfl, rfl, hattached⟩
  | false =>
    refine .same trivial fun _ => .same trivial fun _ => .same trivial fun _ => ?_
    exact .diagnostics fun _ _ hattached => .done ⟨rfl, rfl, rfl, hattached⟩

/-- A channel is shown with its address, and with the same further fields. -/
theorem alike_text : (text : Program ε String).Alike t (t.Texts id) text :=
  .address (.same trivial fun _ => .same trivial fun _ => .same trivial fun _ =>
    .done ⟨_, rfl, rfl⟩)

/-- Every operation of a channel that does not move it goes on alike, with answers that agree. -/
theorem alike_operation (operation : ChannelOperation) (hstay : ∀ address, operation ≠ .setAddress address) :
    operation.job.Alike t (operation.Agree t) operation.job := by
  cases operation with
  | openPort => exact alike_openPort.job .port fun _ _ _ => rfl
  | closePort => exact blind_parts.closePort.job ..
  | write data => exact (blind_parts.write trivial data).job ..
  | read size => exact (blind_parts.read trivial size).job ..
  | readOne =>
    exact (blind_parts.bind (blind_parts.read trivial 1) fun _ => blind_parts.done _).job ..
  | readAvailable limit => exact (blind_parts.readAvailable limit).job ..
  | flush => exact blind_parts.flush.job ..
  | inWaiting => exact blind_parts.inWaiting.job ..
  | outWaiting => exact blind_parts.outWaiting.job ..
  | resetInput | resetOutput => exact (blind_parts.reset _).job ..
  | setLine line level => cases line <;> exact (blind_parts.setLine trivial _).job ..
  | clearToSend | dataSetReady => exact (blind_parts.lineLevel ..).job ..
  | ringIndicator | carrierDetect => exact (blind_parts.noted ..).job ..
  | sendBreak duration => exact (blind_parts.sendBreak (fun _ => trivial) duration).job ..
  | getAddress => exact alike_getAddress.job .port fun _ _ ⟨htext, htext'⟩ => ⟨congrArg _ htext, congrArg _ htext'⟩
  | setAddress address => exact absurd rfl (hstay address)
  | applySettings | setBaudRate =>
    exact (blind_parts.checkedChange (blind_parts.reconfigure trivial) fun _ => trivial).job ..
  | diagnostics => exact alike_getDiagnostics.job .port fun _ _ hattached => ⟨_, _, hattached, rfl, rfl⟩
  | status => exact alike_status.job .port fun _ _ hstatuses => ⟨_, _, hstatuses, rfl, rfl⟩
  | text => exact alike_text.job .port fun _ _ htexts => ⟨_, _, htexts, rfl, rfl⟩
  | isOpen | capacity | getLine | getSettings | baudRate | readTimeout | writeTimeout | setReadTimeout
    | setWriteTimeout | setDataBits | setParity | setStopBits | setFlowControl =>
    exact (blind_parts.perform (by trivial)).job ..

end Channel

namespace Adapter

open Program

/-- The name of an adapter is the address of its own twin. -/
theorem alike_name :
    (name : Program ε String).Alike t (fun name name' => name = t.text ∧ name' = t.text') name :=
  .address (.done ⟨rfl, rfl⟩)

/-- Every operation of an adapter goes on alike, with answers that agree. -/
theorem alike_operation (operation : AdapterOperation) :
    operation.job.Alike t (operation.Agree t) operation.job := by
  cases operation with
  | write data => exact (blind_parts.write trivial data).job ..
  | read size => exact (blind_parts.read trivial size).job ..
  | name => exact alike_name.job .port fun _ _ ⟨htext, htext'⟩ => ⟨congrArg _ htext, congrArg _ htext'⟩
  | setReadTimeout => exact (blind_parts.perform (by trivial)).job ..
  | clear => exact (blind_parts.bind (blind_parts.reset _) fun _ => blind_parts.reset _).job ..
  | bytesToRead => exact (blind_parts.counted blind_parts.inWaiting).job ..
  | bytesToWrite => exact (blind_parts.counted blind_parts.outWaiting).job ..

end Adapter

/-- A channel shown as part of something else. -/
theorem Program.alike_wrapped (wrapped : String → String) :
    (do return wrapped (← Channel.text) : Program ε String).Alike t (t.Texts wrapped)
      (do return wrapped (← Channel.text)) :=
  Channel.alike_text.bind fun _ _ ⟨fields, htext, htext'⟩ =>
    .done ⟨fields, congrArg wrapped htext, congrArg wrapped htext'⟩

namespace Background

open Program

/-- Every operation of a background endpoint goes on alike, with answers that agree. -/
theorem alike_operation (operation : BackgroundOperation) :
    operation.job.Alike t (operation.Agree t) operation.job := by
  cases operation with
  | write data => exact (blind_parts.runTask (blind_parts.write trivial data)).job ..
  | read size => exact (blind_parts.runTask (blind_parts.read trivial size)).job ..
  | name =>
    exact Adapter.alike_name.job .background fun _ _ ⟨htext, htext'⟩ => ⟨congrArg _ htext, congrArg _ htext'⟩
  | bytesAvailable => exact blind_parts.bytesAvailable.job ..
  | close => exact (blind_parts.runTask blind_parts.closePort).job ..
  | setReadTimeout => exact (blind_parts.perform (by trivial)).job ..
  | text => exact (alike_wrapped shown).job .background fun _ _ htexts => ⟨_, _, htexts, rfl, rfl⟩

end Background

namespace Stream

open Program

/-- Every operation of a stream goes on alike, with the same answers. -/
theorem alike_operation (operation : StreamOperation) : operation.job.Alike t Eq operation.job := by
  have hread := blind_parts.read trivial 1
  cases operation with
  | read size => exact (blind_parts.readStream hread size).job ..
  | readExact size => exact (blind_parts.readExactly hread size size []).job ..
  | readToEnd => exact (blind_parts.readChunks hread endless []).job ..
  | readLine => exact (blind_parts.readLineBuffers hread endless []).job ..
  | write data => exact (blind_parts.mapFailure _ (blind_parts.write trivial data)).job ..
  | writeAll data => exact (blind_parts.writeAll (blind_parts.write trivial data)).job ..
  | flush => exact (blind_parts.mapFailure _ blind_parts.flush).job ..

end Stream

namespace Device

open Program

/-- Every operation of a device goes on alike, with answers that agree. -/
theorem alike_operation (operation : DeviceOperation) :
    operation.job.Alike t (operation.Agree t) operation.job := by
  cases operation with
  | name =>
    exact Channel.alike_getAddress.job .device fun _ _ ⟨htext, htext'⟩ => ⟨congrArg _ htext, congrArg _ htext'⟩
  | baudRate | dataBits | flowControl | parity | stopBits | setDataBits | setFlowControl | setParity
    | setStopBits | setTimeout => exact (blind_parts.perform (by trivial)).job ..
  | timeout => exact (blind_parts.act (by trivial) fun _ => blind_parts.done _).job ..
  | setBaudRate rate =>
    exact (blind_parts.mapFailure _
      (blind_parts.checkedChange (blind_parts.reconfigure trivial) fun _ => trivial)).job ..
  | setRequestToSend | setDataTerminalReady | setBreak | clearBreak =>
    exact (blind_parts.setLine trivial _).job ..
  | clearToSend | dataSetReady => exact (blind_parts.mapFailure _ (blind_parts.lineLevel ..)).job ..
  | ringIndicator | carrierDetect => exact (blind_parts.noted ..).job ..
  | bytesToRead => exact (blind_parts.narrowed blind_parts.inWaiting).job ..
  | bytesToWrite => exact (blind_parts.narrowed blind_parts.outWaiting).job ..
  | clear buffer => exact (blind_parts.clear buffer).job ..
  | text => exact (alike_wrapped _).job .device fun _ _ htexts => ⟨_, _, htexts, rfl, rfl⟩

end Device

/-- Every operation that leaves the channel at its address is like itself. -/
theorem Operation.alike (operation : Operation)
    (hstay : ∀ address, operation ≠ .channel (.setAddress address)) :
    operation.job.Alike t (operation.Agree t) operation.job := by
  cases operation with
  | channel operation => exact Channel.alike_operation operation fun address h => hstay address (congrArg _ h)
  | adapter operation => exact Adapter.alike_operation operation
  | background operation => exact Background.alike_operation operation
  | stream operation => exact Stream.alike_operation operation
  | device operation => exact Device.alike_operation operation

/-- Two machines that have worked alike: their channels differ only in the address and in what is attached for
diagnostics, the same moves are open to them, and answers to each operation agree. -/
structure Twins.Matched (t : Twins) (operations : List Operation) (m m' : Machine Failure Answer) : Prop where
  channel : m'.world.channel = { m.world.channel with
    address := some t.text', diagnostics := m'.world.channel.diagnostics }
  address : m.world.channel.address = some t.text
  attached : t.Attached m.world.channel.diagnostics m'.world.channel.diagnostics
  now : m'.world.now = m.world.now
  reports : List.Forall₂ t.Reports m.world.reports m'.world.reports
  moves : ∀ move, (m'.step move).isSome = (m.step move).isSome
  answers : ∀ task operation, operations[task]? = some operation →
    Option.Rel (Outcome.Alike (operation.Agree t)) (m.outcomeOf? task) (m'.outcomeOf? task)

/-- When answers of a task that carries out one of certain operations agree. -/
def Twins.agree (t : Twins) (operations : List Operation) (task : Nat) : Answer → Answer → Prop :=
  match operations[task]? with
  | some operation => operation.Agree t
  | none => Eq

section sharing

variable {builder : Builder} {operations : List Operation} {m m' : Machine Failure Answer}

/-- Two channels are alike where they share operations that leave them at their addresses. -/
theorem Twins.sharing_alike (t : Twins) (builder : Builder)
    (hstay : ∀ address, .channel (.setAddress address) ∉ operations) :
    (t.coupling (t.agree operations)).Couples
      (Machine.sharing { builder with address := some t.text } operations)
      (Machine.sharing { builder with address := some t.text' } operations) where
  world := @Twins.Worlds.mk t builder.build none none 0 [] [] .nothing .empty
  tasks task := by
    simp only [Machine.sharing, Machine.ofPrograms, List.getElem?_map]
    cases hoperation : operations[task]? with
    | none => exact .none
    | some operation =>
      refine .some (.running ?_)
      change operation.job.Alike t (t.agree operations task) operation.job
      simp only [Twins.agree, hoperation]
      exact operation.alike fun address h => hstay address (h ▸ List.mem_of_getElem? hoperation)
  tickets := rfl

/-- Machines that are alike have worked alike. -/
theorem Twins.matched (h : (t.coupling (t.agree operations)).Couples m m') : t.Matched operations m m' where
  channel := Worlds.channel_eq h.world
  address := (Worlds.address h.world).1
  attached := Worlds.attached h.world
  now := Worlds.now h.world
  reports := Worlds.reports h.world
  moves move := by
    have hstep := h.step move fun _ _ => trivial
    generalize m.step move = next, m'.step move = next' at hstep
    cases hstep <;> rfl
  answers task operation hoperation := by
    have houtcome := Twins.outcome h task
    rwa [Twins.agree, hoperation] at houtcome

end sharing

/-- A channel whose address does not ask for diagnostics, and one at the same address with the option
`logging` at any level, that are built alike otherwise, stay alike whatever is done with them in the same
order, through whatever end, as long as they are not moved to other addresses. Any order of moves that one of
them can make can be made by the other; their state is the same then but for the address and for what is
attached for diagnostics, and so are all answers but those that tell of these. The first channel reports no
diagnostics. The other one reports those of a channel with the option at `debug`, in the same order, that its
own level admits. -/
theorem diagnostics_change_nothing {text asking verbose : String} {level : Severity}
    (hasking : Address.Asks text asking level) (hverbose : Address.Asks text verbose .debug)
    (builder : Builder) {operations : List Operation}
    (hstay : ∀ address, .channel (.setAddress address) ∉ operations) :
    let plain := Machine.sharing { builder with address := some text } operations
    let logging := Machine.sharing { builder with address := some asking } operations
    let debugging := Machine.sharing { builder with address := some verbose } operations
    (∀ moves, (∃ turns m, Machine.Run plain moves turns m) ↔ ∃ turns m, Machine.Run logging moves turns m) ∧
      ∀ {moves turns turns₁ turns₂ m m₁ m₂}, Machine.Run plain moves turns m →
        Machine.Run logging moves turns₁ m₁ → Machine.Run debugging moves turns₂ m₂ →
          hasking.twins.Matched operations m m₁ ∧ m.world.log = [] ∧
            m₁.world.log = m₂.world.log.filter fun entry => level.admits entry.event.severity := by
  intro plain logging debugging
  have hplain := hasking.twins.sharing_alike builder hstay
  have hlogging := (hasking.both hverbose).sharing_alike builder hstay
  refine ⟨fun moves => ⟨?_, ?_⟩, ?_⟩
  · rintro ⟨turns, m, hrun⟩
    obtain ⟨turns₁, m₁, hrun₁, -⟩ := hrun.couples hplain fun _ _ _ _ => trivial
    exact ⟨turns₁, m₁, hrun₁⟩
  · rintro ⟨turns, m, hrun⟩
    obtain ⟨turns₁, m₁, hrun₁, -⟩ :=
      hrun.couples (hasking.twins.swap.sharing_alike builder hstay) fun _ _ _ _ => trivial
    exact ⟨turns₁, m₁, hrun₁⟩
  · intro moves turns turns₁ turns₂ m m₁ m₂ hrun hrun₁ hrun₂
    obtain ⟨_, _, hsame₁, halike⟩ := hrun.couples hplain fun _ _ _ _ => trivial
    obtain ⟨_, _, hsame₂, halike₁⟩ := hrun₁.couples hlogging fun _ _ _ _ => trivial
    obtain ⟨-, rfl⟩ := hrun₁.unique hsame₁
    obtain ⟨-, rfl⟩ := hrun₂.unique hsame₂
    exact ⟨Twins.matched halike, Twins.Worlds.log_eq_nil halike.world rfl,
      Twins.Worlds.log_eq_filter halike₁.world rfl⟩

/-- A channel that is opened and written to, at an address of its choice. -/
def Machine.opened (address : String) : Machine Failure Answer :=
  sharing { narrow with address := some address } [.channel .openPort, .channel (.write [7])]

/-- The channel is opened, and then written to. -/
def Machine.openedMoves : List Move :=
  List.replicate 26 (.act 0) ++ List.replicate 7 (.act 1)

/-- A channel that is opened and written to comes to the same without diagnostics, with some, and with more, of which
the level lets those of the lesser pass. -/
theorem diagnostics_change_nothing_opened :
    ∃ turns turns₁ turns₂ m m₁ m₂, Machine.Run (Machine.opened "loop://") Machine.openedMoves turns m ∧
      Machine.Run (Machine.opened "loop://?logging=info") Machine.openedMoves turns₁ m₁ ∧
      Machine.Run (Machine.opened "loop://?logging=debug") Machine.openedMoves turns₂ m₂ ∧
      m.world.channel.diagnostics = none ∧ m₁.world.channel.diagnostics = some .info ∧
      m₁.world.channel = { m.world.channel with
        address := some "loop://?logging=info", diagnostics := some .info } ∧
      m.world.log = [] ∧ m₁.world.log.length = 5 ∧ m₂.world.log.length = 7 ∧
      m₁.world.log = m₂.world.log.filter fun entry => Severity.info.admits entry.event.severity := by
  obtain ⟨turns, m, hrun, hnone⟩ :
      ∃ turns m, Machine.Run (Machine.opened "loop://") Machine.openedMoves turns m ∧
        m.world.channel.diagnostics = none := Machine.exists_run (by decide +kernel)
  obtain ⟨turns₁, m₁, hrun₁, hinfo, hlength₁⟩ :
      ∃ turns m, Machine.Run (Machine.opened "loop://?logging=info") Machine.openedMoves turns m ∧
        m.world.channel.diagnostics = some .info ∧ m.world.log.length = 5 :=
    Machine.exists_run (by decide +kernel)
  obtain ⟨turns₂, m₂, hrun₂, hlength₂⟩ :
      ∃ turns m, Machine.Run (Machine.opened "loop://?logging=debug") Machine.openedMoves turns m ∧
        m.world.log.length = 7 := Machine.exists_run (by decide +kernel)
  have hasks : ∀ level : Severity, Address.Asks "loop://" ("loop://" ++ "?logging=" ++ level.name) level :=
    Address.asks_append (by decide) (by decide)
  have hstay : ∀ address, Operation.channel (.setAddress address) ∉
      [.channel .openPort, .channel (.write [7])] := by simp
  obtain ⟨hmatched, hsilent, hfilter⟩ :=
    (diagnostics_change_nothing (hasks .info) (hasks .debug) Machine.narrow hstay).2 hrun hrun₁ hrun₂
  have hchannel := hmatched.channel
  rw [hinfo] at hchannel
  exact ⟨turns, turns₁, turns₂, m, m₁, m₂, hrun, hrun₁, hrun₂, hnone, hinfo, hchannel, hsilent, hlength₁,
    hlength₂, hfilter⟩

end Loopback
