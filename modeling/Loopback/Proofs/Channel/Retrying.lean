import Loopback.Proofs.Channel.Sending
import Loopback.Proofs.Work.Holding
import Loopback.Proofs.Work.Refusal

/-!
# A write to a stream that fails halfway

A stream tells of a write what the channel tells. One that succeeds has entered all its bytes. But one that fails
may have entered some of them: where there is room for some but not for all, and the timeout is long enough for
the bytes as such, those that there was room for stay queued and the number of them is told to nobody. So
whoever takes a failure to mean that nothing was written, and writes the same bytes again, enters some of them
twice.
-/

namespace Loopback

variable {ε δ α β : Type}

/-- The byte that a deed has entered into a queue. -/
def Deed.entered : Deed → List UInt8
  | ⟨.push _ (.byte byte) _, accepted⟩ => if accepted = true then [byte] else []
  | _ => []

/-- What a task that enters bytes one by one has entered where it stands: the first of them, all of them where it
has an accepted result, and not all where it failed. -/
inductive Entered (accepts : α → Prop) (data : List UInt8) : List UInt8 → Stand ε α → Prop where
  | midst {sent left : List UInt8} {action : Action} (hdata : data = sent ++ left) :
      Entered accepts data sent (.before action)
  | all {result : α} (haccepts : accepts result) : Entered accepts data data (.ended (.ok result))
  | part {sent left : List UInt8} {failure : ε} (hdata : data = sent ++ left) (hleft : left ≠ []) :
      Entered accepts data sent (.ended (.failed failure))

namespace Entered

variable {accepts : α → Prop} {data sent : List UInt8} {stand : Stand ε α}

/-- A byte entered before the others is the first of all. -/
theorem cons (h : Entered accepts data sent stand) (byte : UInt8) :
    Entered accepts (byte :: data) (byte :: sent) stand := by
  cases h with
  | midst hdata => exact .midst (congrArg (byte :: ·) hdata)
  | all haccepts => exact .all haccepts
  | part hdata hleft => exact .part (congrArg (byte :: ·) hdata) hleft

/-- Telling the result and the failure in other terms changes nothing of what was entered. -/
theorem told (h : Entered accepts data sent stand) {accepts' : β → Prop} {answer : α → β}
    (hanswer : ∀ result, accepts result → accepts' (answer result)) (failure : ε → δ) :
    Entered accepts' data sent (stand.told failure answer) := by
  cases h with
  | midst hdata => exact .midst hdata
  | all haccepts => exact .all (hanswer _ haccepts)
  | part hdata hleft => exact .part hdata hleft

/-- What has an accepted result has entered all its bytes. -/
theorem of_ok {result : α} (h : Entered accepts data sent (.ended (.ok result) : Stand ε α)) :
    sent = data ∧ accepts result := by
  cases h with
  | all haccepts => exact ⟨rfl, haccepts⟩

end Entered

namespace Program

/-- Whatever it is answered, a program enters bytes one by one, or has entered none and does not succeed. -/
def Enters (accepts : α → Prop) (data : List UInt8) (p : Program ε α) : Prop :=
  p.Along (fun _ => True) fun deeds stand =>
    Entered accepts data (deeds.flatMap Deed.entered) stand ∨
      deeds.flatMap Deed.entered = [] ∧ ∀ result, stand ≠ .ended (.ok result)

section rules

variable {accepts : α → Prop} {data : List UInt8}

/-- An action that enters nothing may come before all that do. -/
theorem enters_act {action : Action} {next : action.Reply → Program ε α}
    (hquiet : ∀ answer, Deed.entered ⟨action, answer⟩ = []) (hnext : ∀ answer, (next answer).Enters accepts data) :
    (Program.act action next).Enters accepts data := by
  refine along_act.2 ⟨.inr ⟨rfl, nofun⟩, fun answer _ => Along.mono (hnext answer) fun deeds stand h => ?_⟩
  rwa [List.flatMap_cons, hquiet, List.nil_append]

/-- A failure has entered none. -/
theorem enters_fail {failure : ε} : (Program.fail failure : Program ε α).Enters accepts data :=
  .inr ⟨rfl, nofun⟩

/-- An abortion has entered none. -/
theorem enters_abort {message : String} : (Program.abort message : Program ε α).Enters accepts data :=
  .inr ⟨rfl, nofun⟩

/-- What enters bytes one by one does so with its failure told in other terms. -/
theorem Enters.mapFailure {p : Program ε α} (h : p.Enters accepts data) (f : ε → δ) :
    (p.mapFailure f).Enters accepts data := by
  refine along_mapFailure.2 (Along.mono h fun deeds stand h => ?_)
  refine h.imp (fun h => h.told (fun _ => id) f) (And.imp_right fun hfails result hstand => ?_)
  rcases stand with _ | (result | _ | _) <;> cases hstand
  exact hfails result rfl

/-- What enters bytes as a part of a job does so as that job. -/
theorem Enters.job {p : Program ε α} (h : p.Enters accepts data) (failure : ε → Failure) {answer : α → Answer}
    {accepts' : Answer → Prop} (hanswer : ∀ result, accepts result → accepts' (answer result)) :
    (p.job failure answer).Enters accepts' data := by
  refine along_map.2 (Along.mono (h.mapFailure failure) fun deeds stand h => ?_)
  refine h.imp (·.told hanswer id) (And.imp_right fun hfails result hstand => ?_)
  rcases stand with _ | (result' | _ | _) <;> cases hstand
  exact hfails result' rfl

/-- Once all bytes are entered, what follows may look about and tell it. -/
theorem enters_bind {p : Program ε β} {rest : β → Program ε α}
    (hp : p.Along (fun _ => True) fun deeds stand => Entered (fun _ => True) data (deeds.flatMap Deed.entered) stand)
    (hrest : ∀ result, (rest result).Along (fun _ => True) fun deeds stand => deeds.flatMap Deed.entered = [] ∧
      ((∃ action, stand = .before action) ∨ ∃ told, stand = .ended (.ok told) ∧ accepts told)) :
    (p >>= rest).Enters accepts data := by
  refine along_bind.2 (Along.mono hp fun deeds stand hentered => ?_)
  rcases stand with action | (result | failure | message)
  · cases hentered with
    | midst hdata => exact .inl (.midst hdata)
  · obtain ⟨hall, -⟩ := hentered.of_ok
    refine Along.mono (hrest result) fun later stand ⟨hlater, hstand⟩ => .inl ?_
    rw [List.flatMap_append, hall, hlater, List.append_nil]
    rcases hstand with ⟨action, rfl⟩ | ⟨told, rfl, haccepts⟩
    · exact .midst (List.append_nil data).symm
    · exact .all haccepts
  · cases hentered with
    | part hdata hleft => exact .inl (.part hdata hleft)
  · cases hentered

end rules

end Program

namespace Channel

open Program

/-- Bytes that are queued in turn are entered one by one. -/
theorem along_pushAll (session : Session) (timeout : Option Duration) (data : List UInt8) :
    (pushAll session timeout data).Along (fun _ => True) fun deeds stand =>
      Entered (fun _ => True) data (deeds.flatMap Deed.entered) stand := by
  induction data with
  | nil => exact .all trivial
  | cons byte rest ih =>
    refine along_act.2 ⟨.midst rfl, fun now _ => along_act.2 ⟨.midst rfl, fun accepted _ => ?_⟩⟩
    cases accepted with
    | true => exact Along.mono ih fun deeds stand hentered => hentered.cons byte
    | false => exact .part (List.nil_append _).symm nofun

/-- A write enters its bytes one by one, and tells how many there are. -/
theorem enters_write (data : List UInt8) : (write data).Enters (· = data.length) data := by
  refine enters_act (fun _ => rfl) fun isOpen => ?_
  cases isOpen with
  | false => exact enters_fail
  | true =>
    refine enters_act (fun _ => rfl) fun current => ?_
    cases current with
    | none => exact enters_fail
    | some session =>
      refine enters_act (fun _ => rfl) fun settings => ?_
      dsimp only [Program.bind]
      split
      · exact enters_abort
      next transmit htransmit =>
        have hqueueAll : (do
            pushAll session settings.writeTimeout data
            noteWritten data.length (writtenNote data.length transmit)).Enters (· = data.length) data := by
          refine enters_bind (along_pushAll session settings.writeTimeout data) fun _ => ?_
          exact along_act.2 ⟨⟨rfl, .inl ⟨_, rfl⟩⟩, fun _ _ => ⟨rfl, .inr ⟨_, rfl, rfl⟩⟩⟩
        split
        · split
          · exact enters_act (fun _ => rfl) fun now => enters_act (fun _ => rfl) fun _ => enters_fail
          · exact hqueueAll
        · exact hqueueAll

end Channel

namespace World

variable {session : Session} {bytes bytes' : List UInt8} {w : World}

/-- The elements of a queue that holds certain bytes are these. -/
theorem Holds.items_eq (h : w.Holds session bytes) : w.items session = bytes.map .byte := by
  obtain ⟨q, hq, hholds⟩ := h.queue
  rw [items_of_queue hq, Queue.items, hholds.entries_eq, List.map_map]
  rfl

/-- What is held is told by what is queued. -/
theorem Holds.eq_of_items (h : w.Holds session bytes) (hitems : w.items session = bytes'.map .byte) :
    bytes = bytes' :=
  (List.map_inj_right fun _ _ heq => Item.byte.inj heq).1 (h.items_eq.symm.trans hitems)

/-- A channel holds one content at a time. -/
theorem Holds.unique (h : w.Holds session bytes) (h' : w.Holds session bytes') : bytes = bytes' :=
  h.eq_of_items h'.items_eq

end World

namespace Stream

open Program

/-- The failure of a write that ran out of time. -/
def tooLate (timeout : Duration) : IoFailure := .custom .timedOut (PortFailure.message (.writeTimeout timeout))

section written

variable (session : Session) (room : Nat) (held data : List UInt8) (transmit : Duration) (w : World)

/-- How a write to an open channel ends that is left alone: it has entered all its bytes and noted that; it would
have taken too long and has only let its timeout pass; or it has entered as many as there was room for and run out
of time. -/
inductive Written : Outcome IoFailure Nat → World → Prop where
  | all {w' : World} (htime : ∀ t, w.channel.settings.writeTimeout = some t → transmit.nanos ≤ t.nanos)
      (hroom : data.length ≤ room)
      (hw' : w.Becomes session (held ++ data)
        (Channel.diagnosticsOf w.channel.diagnostics .debug (Channel.writtenNote data.length transmit)) w') :
      Written (.ok data.length) w'
  | late {t : Duration} {w' : World} (htimeout : w.channel.settings.writeTimeout = some t)
      (hlate : t.nanos < transmit.nanos) (hw' : w.Later w') : Written (.failed (tooLate t)) w'
  | full {t : Duration} {w' : World} (htimeout : w.channel.settings.writeTimeout = some t)
      (htime : transmit.nanos ≤ t.nanos) (hroom : room < data.length)
      (hw' : w.Becomes session (held ++ data.take room) [] w') : Written (.failed (tooLate t)) w'

/-- How a write waits for ever: there is room for some of its bytes at most, and the clock cannot hold the end of
its timeout, or it has none. -/
def WaitsForRoom (_ : Operation Nat) (w' : World) : Prop :=
  room < data.length ∧ Duration.deadline? w'.now w.channel.settings.writeTimeout = none ∧
    w.Becomes session (held ++ data.take room) [] w'

/-- There is room for some bytes but not for all, and the timeout is long enough for the bytes as such. -/
def Halfway : Prop :=
  0 < room ∧ room < data.length ∧ ∃ t, w.channel.settings.writeTimeout = some t ∧ transmit.nanos ≤ t.nanos

/-- What is taken for granted of a writer: as many bytes as it says were entered after what was held, and none if
it fails. -/
def Keeps (outcome : Outcome IoFailure Nat) (w' : World) : Prop :=
  match outcome with
  | .ok count => count ≤ data.length ∧ w'.Holds session (held ++ data.take count)
  | .failed _ => w'.Holds session held
  | .aborted _ => w'.Holds session held

end written

section alone

variable {session : Session} {room : Nat} {held data : List UInt8} {transmit : Duration} {w w' : World}
  {outcome : Outcome IoFailure Nat}

/-- A write does what is taken for granted unless it fails halfway. -/
theorem Written.keeps_iff (hw : w.Holds session held) (h : Written session room held data transmit w outcome w') :
    Keeps session held data outcome w' ↔ ¬ Halfway room data transmit w := by
  cases h with
  | all htime hroom hw' =>
    refine iff_of_true ⟨Nat.le_refl _, ?_⟩ fun hhalf => Nat.not_lt.2 hroom hhalf.2.1
    rw [List.take_length]
    exact hw'.holds hw
  | late htimeout hlate hw' =>
    refine iff_of_true (hw.later hw') fun ⟨_, _, t, htimeout', htime⟩ => ?_
    obtain rfl := Option.some.inj (htimeout.symm.trans htimeout')
    exact Nat.not_lt.2 htime hlate
  | @full t _ htimeout htime hroom hw' =>
    have hholds := hw'.holds hw
    constructor
    · rintro hkept ⟨hsome, -⟩
      have hnone : data.take room = [] := List.append_right_eq_self.1 (hholds.unique hkept)
      rw [List.take_eq_nil_iff] at hnone
      rcases hnone with rfl | rfl
      · exact Nat.lt_irrefl 0 hsome
      · cases hroom
    · intro hhalf
      obtain rfl : room = 0 := by
        by_contra hsome
        exact hhalf ⟨Nat.pos_of_ne_zero hsome, hroom, t, htimeout, htime⟩
      change w'.Holds session held
      simpa using hholds

/-- Left alone on an open channel, a write ends as told, or waits for room for ever. -/
theorem brings_write (hw : w.Holds session held) (hroom : held.length + room = w.channel.traits.capacity)
    (htransmit : w.channel.settings.transmitDuration? data.length = some transmit) :
    (write data).Brings (Written session room held data transmit w) (WaitsForRoom session room held data w) w := by
  refine Brings.mapFailure (Channel.brings_write hw rfl htransmit (fun t htimeout hlate w₁ hw₁ => ?_) fun htime => ?_)
  · exact .late htimeout hlate hw₁
  · intro w₁ hw₁
    have hqueued : (Channel.pushAll session w.channel.settings.writeTimeout data).Brings _ _ w :=
      Channel.brings_pushAll data hw hroom
    have hwrites := Channel.brings_noteWritten hw data.length (Channel.writtenNote data.length transmit) hqueued
    refine (hwrites.later hw₁).mono (fun outcome w' hwrote => ?_) fun p w' hwriting => ?_
    · rcases hwrote with ⟨hfits, rfl, hw'⟩ | ⟨hlacks, ⟨t, htimeout, rfl⟩, -, hw'⟩
      · exact .all htime hfits hw'
      · exact .full htimeout (htime t htimeout) hlacks hw'
    · exact ⟨hwriting.1, hwriting.2.1, hwriting.2.2.2⟩

end alone

/-- Without a duration for its bytes a write is aborted before it enters any. -/
theorem brings_write_aborted {session : Session} {held data : List UInt8} {w : World} (hw : w.Holds session held)
    (htransmit : w.channel.settings.transmitDuration? data.length = none) :
    (write data).Brings (fun outcome w' => outcome = .aborted noTransmitDuration ∧ w.Later w') (fun _ _ => False)
      w := by
  refine Brings.mapFailure (brings_liveSession hw fun w₁ hw₁ => ?_)
  refine brings_look .getSettings w.channel.settings (fun w₂ hmore => ?_) fun w₂ hmore => ?_
  · rw [Action.run, (hw₁.trans hmore).channel_eq]
  · simp only [Program.bind, htransmit]
    exact fun w₃ hw₃ => ⟨rfl, hw₁.trans (hmore.trans hw₃)⟩

/-- Whatever others do, a write to a stream that has succeeded has entered all its bytes, and one that has failed has
entered the first of them, but not all, or none. -/
theorem entered_of_write {start m : Machine Failure Answer} {moves : List Move} {turns : List Turn} {task : Nat}
    {data : List UInt8} (hrun : start.Run moves turns m)
    (hbegun : start.programOf? task = some (Operation.stream (.write data)).job) {outcome : Outcome Failure Answer}
    (hended : m.outcomeOf? task = some outcome) :
    Entered (· = .count data.length) data ((deedsOf task turns).flatMap Deed.entered)
        (.ended outcome : Stand Failure Answer) ∨
      (deedsOf task turns).flatMap Deed.entered = [] ∧ ∀ answer, outcome ≠ .ok answer := by
  obtain ⟨q, hq, hleads⟩ := hrun.leads hbegun
  have hstand := Machine.stand_of_outcomeOf? hq hended
  have henters : (Operation.stream (.write data)).job.Enters (· = .count data.length) data :=
    ((Channel.enters_write data).mapFailure PortFailure.toIo).job _ fun _ hcount => congrArg Answer.count hcount
  have hentered := Along.leads henters hleads fun _ _ => trivial
  rw [hstand] at hentered
  exact hentered.imp_right (And.imp_right fun hfails answer houtcome => hfails answer (congrArg _ houtcome))

/-- On a channel that was worked on, a write to a stream is refused while the channel is closed, and nothing else
comes of it. On an open one it ends as told, where it does not wait for room for ever; and it does what is taken for
granted of a writer unless there is room for some of its bytes but not for all, and its timeout would be enough for
them. Whatever others do meanwhile, it has entered all its bytes if it succeeds, and if it fails the first of them,
but not all, or none. -/
theorem write_contract {builder : Builder} {m : Machine Failure Answer} (hworked : Worked builder m)
    (data : List UInt8) :
    (m.world.channel.isOpen = false →
      ∀ task, (write data).alone task m.world = .ended (.failed notConnected) m.world) ∧
    (m.world.channel.isOpen = true → ∃ session held room, m.world.Holds session held ∧
      held.length + room = m.world.channel.traits.capacity ∧
      (m.world.channel.settings.transmitDuration? data.length = none →
        (write data).LeftAlone (fun outcome w' => outcome = .aborted noTransmitDuration ∧ m.world.Later w')
          (fun _ _ => False) m.world) ∧
      (∀ transmit, m.world.channel.settings.transmitDuration? data.length = some transmit →
        (write data).LeftAlone
          (fun outcome w' => Written session room held data transmit m.world outcome w' ∧
            (Keeps session held data outcome w' ↔ ¬ Halfway room data transmit m.world))
          (WaitsForRoom session room held data m.world) m.world)) ∧
    (∀ {moves : List Move} {turns : List Turn} {m' : Machine Failure Answer} {outcome : Outcome Failure Answer},
      (m.beside [(Operation.stream (.write data)).job]).Run moves turns m' →
      m'.outcomeOf? m.tasks.length = some outcome →
      Entered (· = .count data.length) data ((deedsOf m.tasks.length turns).flatMap Deed.entered)
          (.ended outcome : Stand Failure Answer) ∨
        (deedsOf m.tasks.length turns).flatMap Deed.entered = [] ∧ ∀ answer, outcome ≠ .ok answer) := by
  refine ⟨fun hclosed task => ?_, fun hopen => ?_, fun hrun => ?_⟩
  · exact (declines_ofChannel (Channel.declines_liveSession.bind_failed _)).alone task hclosed
  · obtain ⟨session, held, hw⟩ := hworked.exists_holds hopen
    refine ⟨session, held, m.world.channel.traits.capacity - held.length, hw, ?_, fun hnone => ?_,
      fun transmit htransmit => ?_⟩
    · exact Nat.add_sub_cancel' hw.length_le
    · exact (brings_write_aborted hw hnone).leftAlone
    · refine (brings_write hw (Nat.add_sub_cancel' hw.length_le) htransmit).leftAlone.mono ?_ fun _ _ => id
      exact fun outcome w' hwritten => ⟨hwritten, hwritten.keeps_iff hw⟩
  · exact entered_of_write hrun (Machine.programOf?_beside_length m _)

/-- A channel with room for two bytes and ten milliseconds for a write. -/
def scant : Builder where
  address := some "loop://"
  capacity := 2
  settings := { PortSettings.default with writeTimeout := some ⟨10000000⟩ }
  closeSettle := .zero

/-- It is opened, and one byte is written. -/
def oneByte : List (Loopback.Operation × List Move) := [
  (.channel .openPort, List.replicate 26 (.act 0)),
  (.stream (.write [1]), List.replicate 7 (.act 1))]

/-- With room for one more byte a write of two enters that one and then fails, so that less was entered than is
told. -/
theorem write_contract_scant :
    ∃ m transmit, Worked scant m ∧ m.world.Holds 0 [1] ∧ Halfway 1 [2, 3] transmit m.world ∧
      (write [2, 3]).LeftAlone
        (fun outcome w' => Written 0 1 [1] [2, 3] transmit m.world outcome w' ∧ ¬ Keeps 0 [1] [2, 3] outcome w')
        (WaitsForRoom 0 1 [1] [2, 3] m.world) m.world := by
  have hworks : ((Machine.ofPrograms scant.world []).work? oneByte).map (fun m =>
      (m.world.channel.isOpen, m.world.items 0, m.world.channel.traits.capacity, m.world.channel.session?,
        m.world.channel.settings)) = some (true, [.byte 1], 2, some 0, scant.settings) := by decide +kernel
  obtain ⟨m, hm, hleft⟩ := Option.map_eq_some_iff.1 hworks
  simp only [Prod.mk.injEq] at hleft
  obtain ⟨hopen, hitems, hcapacity, hsession, hsettings⟩ := hleft
  have hworked : Worked scant m := Worked.start.work? hm
  have htransmit : m.world.channel.settings.transmitDuration? [(2 : UInt8), 3].length = some ⟨2083333⟩ := by
    rw [hsettings]
    exact show transmitDuration? 9600 2 = _ by decide +kernel
  obtain ⟨session, held, room, hw, hroom, -, hends⟩ := (write_contract hworked [2, 3]).2.1 hopen
  obtain rfl : session = 0 := Option.some.inj (hw.session_eq.symm.trans hsession)
  obtain rfl : held = [1] := hw.eq_of_items hitems
  obtain rfl : room = 1 := by
    rw [hcapacity] at hroom
    exact Nat.add_left_cancel hroom
  have hhalf : Halfway 1 [2, 3] ⟨2083333⟩ m.world :=
    ⟨by decide, by decide, ⟨10000000⟩, by rw [hsettings]; rfl, by decide⟩
  refine ⟨m, _, hworked, hw, hhalf, (hends _ htransmit).mono (fun outcome w' h => ⟨h.1, ?_⟩) fun _ _ => id⟩
  exact fun hkept => h.2.1 hkept hhalf

/-- The moves of a write for which there is room for its first byte only, and of which the other waits in vain. -/
def vainWait : List Move :=
  List.replicate 8 (.act 0) ++ [.tick 10000000, .expire 0, .act 0]

/-- A write that fails may have entered some of its bytes. -/
theorem not_write_keeps :
    ¬ ∀ (w : World) (session : Session) (held data : List UInt8), w.Holds session held →
      (write data).LeftAlone (Keeps session held data) (fun _ _ => True) w := by
  intro hall
  have hkeeps := hall _ 0 [1] [2, 3] (Channel.holds_halfFilled none (some ⟨10000000⟩))
  obtain ⟨turns, m, hrun, hhalted, hended, hitems⟩ :
      ∃ turns m, (Machine.ofPrograms (Channel.halfFilled none (some ⟨10000000⟩)) [write [2, 3]]).Run vainWait turns m ∧
        (∀ t ∈ m.tasks, t.halted = true) ∧ m.outcomeOf? 0 = some (.failed (tooLate ⟨10000000⟩)) ∧
        m.world.items 0 = [.byte 1, .byte 2] :=
    Machine.exists_run (by decide +kernel)
  cases hkeeps.holds_of_run hrun hhalted with
  | asleep => cases hended
  | @ended w p outcome tickets hp hkept =>
    obtain rfl := Option.some.inj (hp.symm.trans hended)
    have hheld : w.items 0 = [1, 2].map .byte := hitems
    cases World.Holds.eq_of_items hkept hheld

end Stream

end Loopback
