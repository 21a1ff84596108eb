import Loopback.CommandLine.Report
import Loopback.Proofs.Channel.Delivery
import Loopback.Proofs.Channel.Fifo
import Loopback.Proofs.CommandLine.Exchanging
import Loopback.Work.Place
import Mathlib.Algebra.Ring.Nat

/-!
# Echoes

What is written to a channel that was just opened, without timeouts, comes back unchanged to a task that
reads as many bytes, in pieces of whatever sizes. So every echo gives back its message, whether a port or
the command makes it.
-/

namespace Loopback

variable {δ : Type}

/-- A world that comes of another one by opening the channel with no other task about: directly, by way of
a background task, or by the command. -/
inductive World.Opened (closed opened : World) : Prop where
  | directly {task : Nat} (h : Channel.openPort.alone task closed = .ended (.ok ()) opened)
  | inBackground {task : Nat}
      (h : (Background.runTask Channel.openPort).alone task closed = .ended (.ok ()) opened)
  | byCommand (h : CommandLine.Exchange.alone? CommandLine.opening closed = some (.ok (), opened))

/-- What a program that succeeds for the command comes to alone. -/
theorem CommandLine.Exchange.of_alone? {α : Type} {program : Background.Operation α} {w w' : World}
    {result : α} (h : alone? program w = some (.ok result, w')) :
    program.alone owner w = .ended (.ok result) w' := by
  unfold alone? at h
  split at h
  next hended =>
    cases h
    exact hended
  all_goals cases h

/-- Opening a channel by whatever way leaves it fresh, under the same settings, of which the baud rate is
not zero, and keeps nobody out any more. -/
theorem World.Opened.fresh {closed opened : World} (h : closed.Opened opened) :
    ∃ session, opened.Fresh session closed.channel.settings closed.channel.traits.capacity ∧
      closed.channel.settings.baudRate ≠ 0 ∧ opened.channel.changing = false := by
  cases h with
  | directly hopen => exact Channel.fresh_of_openPort hopen
  | inBackground hopen =>
    exact Channel.fresh_of_openPort (Program.alone_mapFailure.1 (Program.alone_sheltered.1 hopen))
  | byCommand hopen =>
    obtain ⟨_, w, hrun, hrest⟩ := Program.alone_bind.1 (CommandLine.Exchange.of_alone? hopen)
    obtain ⟨session, hfresh, hbaud, hfree⟩ :=
      Channel.fresh_of_openPort (Program.alone_mapFailure.1 (Program.alone_sheltered.1 hrun))
    cases hrest
    exact ⟨session, ⟨hfresh.live.of_channel rfl rfl rfl, hfresh.created⟩, hbaud, hfree⟩

/-- Results of reads that got certain bytes, in pieces of certain sizes. -/
def InPieces (sizes : List Nat) (bytes : List UInt8) (results : List (Except Failure Answer)) : Prop :=
  ∃ pieces : List (List UInt8), results = pieces.map (fun piece => .ok (.bytes piece)) ∧
    pieces.map (·.length) = sizes ∧ pieces.flatten = bytes

namespace Channel

open Program

variable {session : Session} {settings : PortSettings}

/-- A single write without a timeout delivers its bytes and answers their number. -/
theorem delivers_series {data : List UInt8} (hwrite : settings.writeTimeout = none)
    (hwire : (settings.transmitDuration? data.length).isSome = true) :
    (series [Writing.job ⟨.channel, data⟩] :
      Program δ (List (Except Failure Answer))).Delivers session settings (2 * data.length + 5)
        (· = [.ok (.count data.length)]) data := by
  have hjob : (Writing.job ⟨.channel, data⟩).Delivers session settings (2 * data.length + 5)
      (· = .count data.length) data :=
    ((delivers_write hwrite hwire).mapFailure Failure.port).map fun _ hcount => congrArg _ hcount
  apply hjob.attempt.map
  intro result hresult
  obtain ⟨answer, rfl, rfl⟩ := hresult
  rfl

/-- Reads without a timeout collect the sum of their sizes, each as many bytes as it is asked for. -/
theorem collects_series (hread : settings.readTimeout = none) (sizes : List Nat) :
    (series ((sizes.map Reading.read).map Reading.job) :
      Program δ (List (Except Failure Answer))).Collects session settings
        (4 * (sizes.sum + sizes.length)) sizes.sum (InPieces sizes) := by
  induction sizes with
  | nil => exact transfers_done ⟨rfl, .answered [] (Nat.le_refl 0) (fun _ => rfl) ⟨[], rfl, rfl, rfl⟩⟩
  | cons size rest ih =>
    have hjob : (Reading.job (.read size)).Collects session settings (4 * size + 4) size
        fun taken answer => answer = .bytes taken :=
      ((collects_read hread size).mapFailure Failure.port).map fun _ _ htaken => congrArg _ htaken
    have hbound : 4 * size + 4 + 4 * (rest.sum + rest.length) =
        4 * ((size :: rest).sum + (size :: rest).length) := by
      simp only [List.sum_cons, List.length_cons]
      omega
    rw [← hbound]
    refine transfers_bind_taken hjob.attempt (Nat.le_add_right size rest.sum) ?_
    intro taken result _ hsize htaken
    obtain ⟨answer, rfl, rfl⟩ := htaken
    have hlength : taken.length = size := hsize trivial
    have hmore : (series ((rest.map Reading.read).map Reading.job) >>= fun results =>
        pure (.ok (.bytes taken) :: results) : Program δ (List (Except Failure Answer))).Collects session
          settings (4 * (rest.sum + rest.length)) rest.sum fun more =>
            InPieces (size :: rest) (taken ++ more) := by
      apply ih.map
      intro more results hresults
      obtain ⟨pieces, rfl, hsizes, rfl⟩ := hresults
      exact ⟨taken :: pieces, rfl, by rw [List.map_cons, hlength, hsizes], rfl⟩
    refine hmore.mono (Nat.le_refl _) fun put popped stand ⟨hput, htaken⟩ => ⟨hput, ?_⟩
    have happend := htaken.append
    rw [hlength, Nat.add_comm] at happend
    exact happend

end Channel

namespace Machine

variable {ε α : Type} {start : Machine ε α} {session : Session} {limit : Nat} {sent got : Outcome ε α → Prop}

/-- That what the first task of a machine writes comes to the second, in whatever order the two act: they have a
bounded number of moves, until both have ended some task that is awake can move, and each ends as is said, with
nothing left in the queue when the second has ended. -/
def HandsOver (start : Machine ε α) (session : Session) (limit : Nat) (sent got : Outcome ε α → Prop) : Prop :=
  ∀ (moves : List Move) (turns : List Turn) (m : Machine ε α), Run start moves turns m →
    pace moves ≤ limit ∧
      (m.outcomeOf? 0 = none ∨ m.outcomeOf? 1 = none →
        ∃ task t move m', m.tasks[task]? = some t ∧ ¬t.Resting ∧ m.moveOf? task = some move ∧
          m.step move = some m') ∧
      (∀ outcome, m.outcomeOf? 0 = some outcome → sent outcome) ∧
      ∀ outcome, m.outcomeOf? 1 = some outcome → m.world.items session = [] ∧ got outcome

/-- What is handed over may be told in other words, and with a greater limit. -/
theorem HandsOver.mono {limit' : Nat} {sent' got' : Outcome ε α → Prop} (h : start.HandsOver session limit sent got)
    (hlimit : limit ≤ limit') (hsent : ∀ outcome, sent outcome → sent' outcome)
    (hgot : ∀ outcome, got outcome → got' outcome) : start.HandsOver session limit' sent' got' := by
  intro moves turns m hrun
  obtain ⟨hpace, hmoves, hwritten, hread⟩ := h moves turns m hrun
  refine ⟨Nat.le_trans hpace hlimit, hmoves, fun outcome houtcome => hsent _ (hwritten outcome houtcome), ?_⟩
  exact fun outcome houtcome => (hread outcome houtcome).imp_right (hgot outcome)

/-- A task that delivers bytes hands them over to one that collects as many. -/
theorem handsOver_of_delivers {world : World} {settings : PortSettings} {capacity : Nat} {writer reader : Program ε α}
    {writes reads : Nat} {accepts : α → Prop} {data : List UInt8} {tells : List UInt8 → α → Prop}
    (hfresh : world.Fresh session settings capacity)
    (hwriter : writer.Delivers session settings writes accepts data)
    (hreader : reader.Collects session settings reads data.length tells) :
    (ofPrograms world [writer, reader]).HandsOver session (7 * (writes + reads) + 4)
      (fun outcome => ∃ result, outcome = .ok result ∧ accepts result)
      fun outcome => ∃ result, outcome = .ok result ∧ tells data result :=
  fun _ _ _ hrun => ⟨hrun.delivery_pace hfresh hwriter hreader, hrun.delivery_moves hfresh hwriter hreader,
    hrun.delivered hfresh hwriter hreader⟩

end Machine

/-- Delivering a payload with an advisory duration takes less moves than are made in running a machine in
order. -/
theorem Machine.lt_fuel {settings : PortSettings} {length : Nat}
    (hwire : (settings.transmitDuration? length).isSome = true) :
    7 * (2 * length + 5 + (4 * length + 4)) + 4 < fuel := by
  have hlength := PortSettings.length_lt_of_transmitDuration? hwire
  have hfuel : fuel = 1000000000000000000000000000000000000 := rfl
  omega

section echoes

variable {world : World} {session : Session} {settings : PortSettings} {capacity : Nat} {data : List UInt8}

/-- The first task of a port's echo delivers the message. -/
theorem BackgroundOperation.delivers_write (hwrite : settings.writeTimeout = none)
    (hwire : (settings.transmitDuration? data.length).isSome = true) :
    (job (.write data)).Delivers session settings (2 * data.length + 5) (· = .count data.length) data :=
  ((Background.delivers_runTask (Channel.delivers_write hwrite hwire)).mapFailure Failure.background).map
    fun _ hcount => congrArg _ hcount

/-- The second task of a port's echo collects it. -/
theorem BackgroundOperation.collects_read (hread : settings.readTimeout = none) (size : Nat) :
    (job (.read size)).Collects session settings (4 * size + 4) size fun taken answer => answer = .bytes taken :=
  ((Background.collects_runTask (Channel.collects_read hread size)).mapFailure Failure.background).map
    fun _ _ htaken => congrArg _ htaken

/-- The first task of the command's echo delivers the message. -/
theorem CommandLine.Echo.delivers_sender (hwrite : settings.writeTimeout = none)
    (hwire : (settings.transmitDuration? data.length).isSome = true) :
    (sending data).Delivers session settings (2 * data.length + 5) (· = .sent data.length) data :=
  (Background.delivers_runTask (Channel.delivers_write hwrite hwire)).map fun _ hcount => congrArg _ hcount

/-- The second task of the command's echo collects it. -/
theorem CommandLine.Echo.collects_reader (hread : settings.readTimeout = none) (size : Nat) :
    (receiving size).Collects session settings (4 * size + 4) size fun taken part => part = .received taken :=
  (Background.collects_runTask (Channel.collects_read hread size)).map fun _ _ htaken => congrArg _ htaken

/-- An echo at a fresh channel without timeouts gets its message back. -/
theorem Workplace.step_echo (hfresh : world.Fresh session settings capacity)
    (hread : settings.readTimeout = none) (hwrite : settings.writeTimeout = none)
    (hwire : (settings.transmitDuration? data.length).isSome = true) :
    ∃ report place, (Workplace.ofWorld world).step (.echo data) = some (report, place) ∧
      report.reply = .echoed (.ok (.count data.length)) (.ok (.bytes data)) := by
  obtain ⟨moves, turns, m, hfinish, hrun, hended⟩ := Machine.Run.start.delivery_finish hfresh
    (BackgroundOperation.delivers_write hwrite hwire) (BackgroundOperation.collects_read hread data.length) [0, 1]
    (by simp) (Machine.lt_fuel hwire)
  obtain ⟨hwritten, hgot⟩ := hrun.delivered hfresh (BackgroundOperation.delivers_write hwrite hwire)
    (BackgroundOperation.collects_read hread data.length)
  obtain ⟨outcome₀, houtcome₀⟩ := Option.isSome_iff_exists.1 (hended 0 (by simp))
  obtain ⟨outcome₁, houtcome₁⟩ := Option.isSome_iff_exists.1 (hended 1 (by simp))
  obtain ⟨_, rfl, rfl⟩ := hwritten _ houtcome₀
  obtain ⟨-, _, rfl, rfl⟩ := hgot _ houtcome₁
  have hstep : (Workplace.ofWorld world).step (.echo data) =
      ((Machine.ofPrograms world [BackgroundOperation.job (.write data),
        BackgroundOperation.job (.read data.length)]).finish [0, 1] Machine.fuel).map fun machine =>
          let place : Workplace := ⟨machine, [], [], 1⟩
          place.report (.echoed (place.endingOf 0) (place.endingOf 1)) [0, 1] := by
    rw [Option.map_eq_bind]
    exact Option.bind_map
  rw [hfinish] at hstep
  refine ⟨_, _, hstep, ?_⟩
  simp only [Workplace.endingOf, houtcome₀, houtcome₁]
  rfl

namespace CommandLine

/-- Awaiting a task that ends well adds what it answers. -/
theorem Echo.await?_of_finish {m m' : Machine Background.Failure EchoPart} {task : Nat}
    {part : EchoPart} (hfinish : m.finish [task] Machine.fuel = some m')
    (houtcome : m'.outcomeOf? task = some (.ok part)) (echo : Echo) :
    await? m task echo = some (.ok (echo.add part), m') := by
  simp only [await?, hfinish, houtcome, Option.bind_eq_bind, Option.bind_some]

/-- The command's echo at a fresh channel without timeouts gets its message back. -/
theorem Echo.run?_eq (hfresh : world.Fresh session settings capacity)
    (hread : settings.readTimeout = none) (hwrite : settings.writeTimeout = none)
    (hwire : (settings.transmitDuration? data.length).isSome = true) :
    ∃ (m : Machine Background.Failure EchoPart) (moves : List Move) (turns : List Turn),
      run? world data = some (.ok ⟨data.length, data⟩, m.world) ∧ Machine.Run (machine world data) moves turns m := by
  have hwriter : (sending data).Delivers session settings (2 * data.length + 5) (· = .sent data.length) data :=
    delivers_sender hwrite hwire
  have hreader : (receiving data.length).Collects session settings (4 * data.length + 4) data.length
      fun taken part => part = .received taken :=
    collects_reader hread data.length
  have hfuel := Machine.lt_fuel hwire
  obtain ⟨moves, turns, m, hfinish, hrun, hended⟩ :=
    Machine.Run.start.delivery_finish hfresh hwriter hreader [0] (by simp) hfuel
  obtain ⟨outcome, hsent⟩ := Option.isSome_iff_exists.1 (hended 0 (by simp))
  obtain ⟨_, rfl, rfl⟩ := (hrun.delivered hfresh hwriter hreader).1 _ hsent
  obtain ⟨moves', turns', m', hfinish', hrun', hended'⟩ :=
    hrun.delivery_finish hfresh hwriter hreader [1] (by simp) hfuel
  obtain ⟨outcome', hreceived⟩ := Option.isSome_iff_exists.1 (hended' 1 (by simp))
  obtain ⟨-, _, rfl, rfl⟩ := (hrun'.delivered hfresh hwriter hreader).2 _ hreceived
  have hsender : await? (machine world data) sender start = some (.ok ⟨data.length, []⟩, m) :=
    await?_of_finish hfinish hsent start
  have hreader : await? m reader ⟨data.length, []⟩ = some (.ok ⟨data.length, data⟩, m') :=
    await?_of_finish hfinish' hreceived ⟨data.length, []⟩
  refine ⟨m', moves', turns', ?_, hrun'⟩
  simp only [run?, hsender, hreader, Option.bind_eq_bind, Option.bind_some]

/-- Where the channel is opened without timeouts, the command answers that it got its message back. -/
theorem Exchange.run?_eq {builder : Builder} {opened : World}
    (hopen : alone? opening builder.world = some (.ok (), opened)) (hread : builder.settings.readTimeout = none)
    (hwrite : builder.settings.writeTimeout = none)
    (hwire : (builder.settings.transmitDuration? data.length).isSome = true) :
    ∃ exchange last, run? builder data = some (.ok exchange, last) ∧ exchange.echo = ⟨data.length, data⟩ := by
  obtain ⟨session, hfresh, -, hfree⟩ := (World.Opened.byCommand hopen).fresh
  obtain ⟨m, moves, turns, hecho, hrun⟩ := Echo.run?_eq hfresh hread hwrite hwire
  have hwriter : (Echo.sending data).Delivers session builder.settings (2 * data.length + 5) (· = .sent data.length)
      data :=
    Echo.delivers_sender hwrite hwire
  have hreader : (Echo.receiving data.length).Collects session builder.settings (4 * data.length + 4) data.length
      fun taken part => part = .received taken :=
    Echo.collects_reader hread data.length
  have hlive : m.world.Live session builder.settings := by
    rw [Echo.machine_eq] at hrun
    refine (hrun.regime (Channel.busy_kept session builder.settings) hfresh.live ?_).1
    exact List.forall_mem_cons.2 ⟨hwriter.follows, List.forall_mem_singleton.2 hreader.follows⟩
  have hfree' : m.world.channel.changing = false := ((Echo.free_machine hfree data).pass hrun).changing
  obtain ⟨status, closed, hclosing⟩ := closing_ends owner hlive.isOpen hlive.current hfree' ⟨data.length, data⟩
  have hclosed : alone? (closing (.ok ⟨data.length, data⟩)) m.world =
      some (.ok (⟨data.length, data⟩, status), closed) := by
    rw [alone?, hclosing]
  refine ⟨⟨⟨data.length, data⟩, ⟨m.world.now - opened.now⟩, status⟩, closed, ?_, rfl⟩
  simp only [run?, hopen, hecho, hclosed, Option.bind_eq_bind, Option.bind_some]
  rfl

end CommandLine

end echoes

/-- What is written to a channel that was just opened, without timeouts, comes back to a task that reads as
many bytes. However small the channel is and in whatever order the two act, they do not come to a halt
before both have ended, and they end, whether they are tasks on the channel itself, the tasks of a port's echo or those
of the command's. So an echo always gives back its message, and the command answers that it did, if it can open the
channel. Only a payload that no memory could hold may take a time that cannot be told, and so is not written. -/
theorem echo_delivered {closed opened : World} (hopen : closed.Opened opened)
    (hread : closed.channel.settings.readTimeout = none)
    (hwrite : closed.channel.settings.writeTimeout = none) {data : List UInt8}
    (hhuge : 2 ^ 57 ≤ data.length →
      (closed.channel.settings.transmitDuration? data.length).isSome = true) :
    (∃ session, opened.channel.session? = some session ∧
      (∀ sizes : List Nat, sizes.sum = data.length →
        (Machine.transfer opened [⟨.channel, data⟩] (sizes.map .read) :
          Machine δ (List (Except Failure Answer))).HandsOver session (42 * data.length + 28 * sizes.length + 39)
            (· = .ok [.ok (.count data.length)])
            fun outcome => ∃ results, outcome = .ok results ∧ InPieces sizes data results) ∧
      (Machine.ofPrograms opened [BackgroundOperation.job (.write data),
        BackgroundOperation.job (.read data.length)]).HandsOver session (42 * data.length + 67)
          (· = .ok (.count data.length)) (· = .ok (.bytes data)) ∧
      (CommandLine.Echo.machine opened data).HandsOver session (42 * data.length + 67)
        (· = .ok (.sent data.length)) (· = .ok (.received data))) ∧
      (∃ report place, (Workplace.ofWorld opened).step (.echo data) = some (report, place) ∧
        report.reply = .echoed (.ok (.count data.length)) (.ok (.bytes data))) ∧
      (∃ after, CommandLine.Echo.run? opened data = some (.ok ⟨data.length, data⟩, after)) ∧
      ∀ builder again, closed = builder.world →
        CommandLine.Exchange.alone? CommandLine.opening closed = some (.ok (), again) →
          ∃ exchange last, CommandLine.Exchange.run? builder data = some (.ok exchange, last) ∧
            (CommandLine.Report.ofExchange data exchange).isMatch = true := by
  obtain ⟨session, hfresh, hbaud, -⟩ := hopen.fresh
  have hwire : (closed.channel.settings.transmitDuration? data.length).isSome = true := by
    rcases Nat.lt_or_ge data.length (2 ^ 57) with hless | hlarge
    · exact PortSettings.transmitDuration?_isSome hbaud hless
    · exact hhuge hlarge
  refine ⟨⟨session, hfresh.live.current, ?_, ?_, ?_⟩, Workplace.step_echo hfresh hread hwrite hwire, ?_, ?_⟩
  · intro sizes hsizes
    have hreader : (Program.series ((sizes.map Reading.read).map Reading.job) :
        Program δ (List (Except Failure Answer))).Collects session closed.channel.settings
          (4 * (sizes.sum + sizes.length)) sizes.sum (InPieces sizes) :=
      Channel.collects_series hread sizes
    rw [hsizes] at hreader
    refine (Machine.handsOver_of_delivers hfresh (Channel.delivers_series hwrite hwire) hreader).mono (by omega) ?_ ?_
    · rintro _ ⟨_, rfl, rfl⟩
      rfl
    · exact fun _ => id
  · refine (Machine.handsOver_of_delivers hfresh (BackgroundOperation.delivers_write hwrite hwire)
      (BackgroundOperation.collects_read hread data.length)).mono (by omega) ?_ ?_
    · rintro _ ⟨_, rfl, rfl⟩
      rfl
    · rintro _ ⟨_, rfl, rfl⟩
      rfl
  · refine (Machine.handsOver_of_delivers hfresh (CommandLine.Echo.delivers_sender hwrite hwire)
      (CommandLine.Echo.collects_reader hread data.length)).mono (by omega) ?_ ?_
    · rintro _ ⟨_, rfl, rfl⟩
      rfl
    · rintro _ ⟨_, rfl, rfl⟩
      rfl
  · obtain ⟨m, _, _, hecho, -⟩ := CommandLine.Echo.run?_eq hfresh hread hwrite hwire
    exact ⟨m.world, hecho⟩
  · rintro builder again rfl hagain
    obtain ⟨exchange, last, hexchange, hecho⟩ := CommandLine.Exchange.run?_eq hagain hread hwrite hwire
    refine ⟨exchange, last, hexchange, ?_⟩
    rw [CommandLine.Report.ofExchange, hecho]
    exact beq_self_eq_true data

/-- A channel with room for one byte, under settings without timeouts. -/
def narrow : Builder where
  address := some "loop://"
  capacity := 1
  settings := .default
  closeSettle := .zero

/-- Three bytes are echoed through a channel with room for one, and the command answers that they match. -/
theorem echo_delivered_narrow :
    ∃ opened after, narrow.world.Opened opened ∧
      CommandLine.Echo.run? opened [1, 2, 3] = some (.ok ⟨3, [1, 2, 3]⟩, after) ∧
      ∃ exchange last, CommandLine.Exchange.run? narrow [1, 2, 3] = some (.ok exchange, last) ∧
        (CommandLine.Report.ofExchange [1, 2, 3] exchange).isMatch = true := by
  have hopens : (CommandLine.Exchange.alone? CommandLine.opening narrow.world).map
      (fun (result, _) => result.isOk) = some true := by decide +kernel
  obtain ⟨⟨result, opened⟩, halone, hok⟩ := Option.map_eq_some_iff.1 hopens
  cases result with
  | error failure => cases hok
  | ok =>
    have hopened : narrow.world.Opened opened := .byCommand halone
    have hsmall : ¬2 ^ 57 ≤ ([1, 2, 3] : List UInt8).length := by decide
    obtain ⟨-, -, ⟨after, hecho⟩, hanswers⟩ :=
      echo_delivered (δ := Failure) hopened rfl rfl fun hlarge => absurd hlarge hsmall
    exact ⟨opened, after, hopened, hecho, hanswers narrow opened rfl halone⟩

end Loopback
