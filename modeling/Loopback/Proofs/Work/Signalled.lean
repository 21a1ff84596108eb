import Loopback.Proofs.Channel.Signalling
import Loopback.Proofs.Work.Free
import Loopback.Proofs.Work.Holding

/-!
# The lines by what was called

Operations are called one after another, through any end of a channel, while others may stay at work that neither
open nor close it nor set a line. Then each line is at the level at which the latest call has left it that set it,
whatever was called since: calls that failed, and calls that are about something else, leave all lines alone. A line
that was never set is low.
-/

namespace Loopback

/-- What neither opens nor closes a channel, nor sets a line. -/
structure Action.Aloof (action : Action) : Prop where
  may : ∃ kind : Kind, kind.may action
  lifecycle : action.lifecycle = false
  lineless : action.Lineless

namespace Channel

open Program

variable {w w' : World}

/-- What is aloof keeps the channel but for its settings and its queues. -/
theorem besides_of_aloof {task : Nat} {action : Action} {answer : action.Reply} (haloof : action.Aloof)
    (hcomes : action.Comes task w answer w') : (besides Part.Aside).within w w' := by
  obtain ⟨kind, hmay⟩ := haloof.may
  refine hcomes.kept hmay haloof.lifecycle fun part hpart line heq => ?_
  subst heq
  cases action with
  | setLine other level => exact haloof.lineless other level rfl
  | pop session deadline => rcases answer with _ | (_ | _) <;> simp [Deed.parts, Action.alters?] at hpart
  | _ => simp [Deed.parts, Action.alters?] at hpart

end Channel

namespace Operation

variable {operation : Operation}

/-- An operation that opens and closes nothing and is not to set a line is aloof. -/
theorem aloof (hplain : operation.kind.Plain) (hsignals : operation.signals = false) :
    operation.job.Obeys (.always Action.Aloof) [] := by
  refine ((operation.obeys []).and (operation.lineless hplain hsignals)).mono fun _ action ⟨hrule, hlineless⟩ => ?_
  obtain ⟨hopens, hcloses⟩ := hplain
  refine ⟨⟨_, hrule.1⟩, ?_, hlineless⟩
  cases action with
  | setOpen isOpen =>
    cases isOpen with
    | true => exact absurd hrule.1 hopens
    | false => exact absurd hrule.1 hcloses
  | newSession | dropDiagnostics | attachDiagnostics => exact absurd hrule.1 hopens
  | setAddress => exact absurd (.inr hrule.1) hopens
  | enterLifecycle | leaveLifecycle => exact absurd hrule.1 (not_or.2 ⟨hopens, hcloses⟩)
  | _ => rfl

/-- An operation that is there for neither opens nor closes the channel. -/
theorem opens?_of_plain (hplain : operation.kind.Plain) (wasOpen : Bool) (ending : Ending) :
    Completed.opens? ⟨operation, wasOpen, ending⟩ = none := by
  obtain ⟨hopens, hcloses⟩ := hplain
  cases operation with
  | channel operation =>
    cases operation with
    | openPort => exact absurd (.inl rfl) hopens
    | setAddress => exact absurd (.inr rfl) hopens
    | closePort => exact absurd (.inl rfl) hcloses
    | _ => rfl
  | background operation =>
    cases operation with
    | close => exact absurd (.inl rfl) hcloses
    | _ => rfl
  | _ => rfl

/-- An operation that is there for no line sets none. -/
theorem level?_of_plain (hplain : operation.kind.Plain) (hsignals : operation.signals = false) (wasOpen : Bool)
    (ending : Ending) (line : Line) : Completed.level? line ⟨operation, wasOpen, ending⟩ = none := by
  have hopens := opens?_of_plain hplain wasOpen ending
  cases operation with
  | channel operation =>
    cases operation with
    | setLine | sendBreak => cases hsignals
    | _ => simp [Completed.level?, hopens]
  | device operation =>
    cases operation with
    | setRequestToSend | setDataTerminalReady | setBreak | clearBreak => cases hsignals
    | _ => simp [Completed.level?, hopens]
  | _ => simp [Completed.level?, hopens]

end Operation

/-- What comes of working on a channel, with the operations that were completed, latest first: others that neither
open nor close it nor set a line are added in the background and move on at any time, and an operation that is called
runs to its end, with their moves in between. -/
inductive WorkedBy (builder : Builder) : List Completed → Machine Failure Answer → Prop where
  | start : WorkedBy builder [] (Machine.ofPrograms builder.world [])
  | spawn {calls : List Completed} {m : Machine Failure Answer} (operation : Operation) :
      WorkedBy builder calls m → operation.kind.Plain → operation.signals = false →
      WorkedBy builder calls (m.beside [operation.job])
  | pass {calls : List Completed} {m m' : Machine Failure Answer} {moves : List Move} {turns : List Turn} :
      WorkedBy builder calls m → m.Run moves turns m' → WorkedBy builder calls m'
  | call {calls : List Completed} {m m' : Machine Failure Answer} {moves : List Move} {turns : List Turn}
      {ending : Ending} (operation : Operation) :
      WorkedBy builder calls m → (m.beside [operation.job]).Run moves turns m' →
      m'.outcomeOf? m.tasks.length = some ending →
      WorkedBy builder (⟨operation, m.world.channel.isOpen, ending⟩ :: calls) m'

namespace Machine

/-- That no task of a machine opens or closes the channel or sets a line. -/
def Aloof (m : Machine Failure Answer) : Prop :=
  ∀ task p, m.programOf? task = some p → p.Obeys (.always Action.Aloof) []

variable {m m' : Machine Failure Answer} {moves : List Move} {turns : List Turn} {operation : Operation}
  {ending : Ending}

/-- While only aloof tasks move, the channel is kept but for its settings and its queues. -/
theorem Aloof.kept (h : m.Aloof) (hrun : Run m moves turns m') :
    m.world.channel.Kept Part.Aside m'.world.channel := by
  refine hrun.world (fun w => m.world.channel.Kept Part.Aside w.channel) (.refl _ _) ?_ fun turn hturn hkept => ?_
  · exact fun nanos hkept => hkept
  · exact hkept.trans (Channel.besides_of_aloof (hrun.always hturn (h turn.task)) (hrun.comes hturn))

/-- Once an operation has ended, only aloof tasks are left. -/
theorem Aloof.call (h : m.Aloof) (hrun : Run (m.beside [operation.job]) moves turns m')
    (hended : m'.outcomeOf? m.tasks.length = some ending) : m'.Aloof :=
  hrun.always_left_of_ended hended fun task p hne hp => h task p (programOf?_of_beside hne hp)

/-- Beside an operation that was called all turns are aloof. -/
theorem Aloof.besides (h : m.Aloof) (hrun : Run (m.beside [operation.job]) moves turns m') :
    ∀ turn ∈ turns, turn.task ≠ m.tasks.length →
      (Channel.besides Part.Aside).within turn.before turn.after := fun _ hturn hne =>
  Channel.besides_of_aloof (hrun.always hturn fun p hp => h _ p (programOf?_of_beside hne hp)) (hrun.comes hturn)

/-- What an operation makes beside aloof tasks it has made when it has ended. -/
theorem Aloof.made {ends : Outcome Failure Answer → Channel → Prop} (h : m.Aloof)
    (hmakes : operation.job.Makes Part.Aside ends m.world.channel)
    (hrun : Run (m.beside [operation.job]) moves turns m')
    (hended : m'.outcomeOf? m.tasks.length = some ending) :
    ∃ c, ends ending c ∧ c.Kept Part.Aside m'.world.channel :=
  hrun.attained (programOf?_beside_length m operation.job) (hmakes m.world (.refl _ _)) (h.besides hrun) hended

/-- An operation that has ended has left the channel open or closed, and each line, as it is to. -/
theorem Aloof.leaves {builder : Builder} (h : m.Aloof) (hworked : Worked builder m)
    (hrun : Run (m.beside [operation.job]) moves turns m')
    (hended : m'.outcomeOf? m.tasks.length = some ending) :
    Completed.Leaves ⟨operation, m.world.channel.isOpen, ending⟩ m.world.channel m'.world.channel := by
  have haside : ∀ line, ¬Part.Aside (.line line) := fun line hline => hline line rfl
  by_cases hquiet : operation.kind.Plain ∧ operation.signals = false
  · obtain ⟨hplain, hsignals⟩ := hquiet
    have haloof : (m.beside [operation.job]).Aloof :=
      forall_programOf?_beside h (List.forall_mem_singleton.2 (operation.aloof hplain hsignals))
    have hkept := haloof.kept hrun
    exact Completed.leaves_of_none (operation.opens?_of_plain hplain _ _)
      (operation.level?_of_plain hplain hsignals _ _) hkept.isOpen fun line => hkept.line line (haside line)
  · have hlines : operation.kind.Plain → operation.signals = true :=
      fun hplain => Bool.not_eq_false _ ▸ fun hsignals => hquiet ⟨hplain, hsignals⟩
    have hinOrder (hopen : m.world.channel.isOpen = true) : m.world.channel.settings.baudRate ≠ 0 ∧
        Queue.fitsMemory m.world.channel.traits.capacity = true ∧
        ∃ session, m.world.channel.session? = some session := by
      obtain ⟨⟨session, -, hsession, -⟩, hbaud, -⟩ := hworked.steady.inOrder hopen
      exact ⟨hbaud, hworked.fits hopen, session, hsession⟩
    obtain ⟨c, hleaves, hkept⟩ := h.made (operation.makes_lines hworked.free.changing hinOrder hlines) hrun hended
    exact ⟨hkept.isOpen.trans hleaves.isOpen, fun line => (hkept.line line (haside line)).trans (hleaves.line line)⟩

/-- That an operation called on a machine ends in one way: with nobody else about, and whatever others do meanwhile. -/
def Answers (m : Machine Failure Answer) (operation : Operation) (ending : Ending) : Prop :=
  (∀ task, ∃ w, operation.job.alone task m.world = .ended ending w) ∧
    ∀ moves turns m' outcome, Run (m.beside [operation.job]) moves turns m' →
      m'.outcomeOf? m.tasks.length = some outcome → outcome = ending

/-- An operation answers what it makes of the channel beside aloof tasks. -/
theorem Aloof.answers (h : m.Aloof)
    (hmakes : operation.job.Makes Part.Aside (fun outcome _ => outcome = ending) m.world.channel) :
    m.Answers operation ending := by
  constructor
  · intro task
    obtain ⟨outcome, w, hended, _, rfl, -⟩ := (hmakes m.world (.refl _ _)).alone task
    exact ⟨w, hended⟩
  · intro moves turns m' outcome hrun hended
    obtain ⟨_, hends, -⟩ := h.made hmakes hrun hended
    exact hends

end Machine

/-- Call operations one after another, each with so many acts of its task, and tell the calls. -/
def Machine.callEach? (m : Machine Failure Answer) (calls : List Completed) :
    List (Operation × Nat) → Option (List Completed × Machine Failure Answer)
  | [] => some (calls, m)
  | (operation, acts) :: rest => do
    let (_, m') ← (m.beside [operation.job]).run? (List.replicate acts (.act m.tasks.length))
    let ending ← m'.outcomeOf? m.tasks.length
    m'.callEach? (⟨operation, m.world.channel.isOpen, ending⟩ :: calls) rest

/-- The first of the calls is run to its end beside what there was, and the others follow. -/
theorem Machine.exists_of_callEach?_cons {calls calls' : List Completed} {m last : Machine Failure Answer}
    {operation : Operation} {acts : Nat} {rest : List (Operation × Nat)}
    (hcalls : m.callEach? calls ((operation, acts) :: rest) = some (calls', last)) :
    ∃ moves turns m' ending, Run (m.beside [operation.job]) moves turns m' ∧
      m'.outcomeOf? m.tasks.length = some ending ∧
      m'.callEach? (⟨operation, m.world.channel.isOpen, ending⟩ :: calls) rest = some (calls', last) := by
  simp only [callEach?, Option.bind_eq_bind, Option.bind_eq_some_iff, Prod.exists] at hcalls
  obtain ⟨turns, m', hmoves, ending, hended, hrest⟩ := hcalls
  exact ⟨_, turns, m', ending, Run.start.run? hmoves, hended, hrest⟩

/-- Calls that are made one after the other go on with the record. -/
theorem WorkedBy.callEach? {builder : Builder} {calls calls' : List Completed} {m last : Machine Failure Answer}
    (h : WorkedBy builder calls m) {operations : List (Operation × Nat)}
    (hcalls : m.callEach? calls operations = some (calls', last)) : WorkedBy builder calls' last := by
  induction operations generalizing m calls with
  | nil =>
    cases hcalls
    exact h
  | cons entry rest ih =>
    obtain ⟨_, _, _, _, hrun, hended, hrest⟩ := Machine.exists_of_callEach?_cons hcalls
    exact ih (h.call entry.1 hrun hended) hrest

namespace WorkedBy

open Channel Program Machine

variable {builder : Builder} {calls : List Completed} {m : Machine Failure Answer}

/-- What was worked on by certain calls was worked on. -/
theorem worked (h : WorkedBy builder calls m) : Worked builder m := by
  induction h with
  | start => exact .start
  | spawn operation _ hplain _ ih => exact .spawn operation ih hplain
  | pass _ hrun ih => exact .pass ih hrun
  | call operation _ hrun hended ih => exact .call operation ih hrun hended

/-- Where calls were made one after the other, nobody keeps anybody out. -/
theorem aloof (h : WorkedBy builder calls m) : m.Aloof := by
  induction h with
  | start => exact fun _ _ hp => nomatch hp
  | spawn operation _ hplain hsignals ih =>
    exact forall_programOf?_beside ih (List.forall_mem_singleton.2 (operation.aloof hplain hsignals))
  | pass _ hrun ih => exact hrun.always_left ih
  | call operation _ hrun hended ih => exact ih.call hrun hended

/-- The channel is as the latest calls have left it that made something of it. -/
theorem signs (h : WorkedBy builder calls m) :
    m.world.channel.isOpen = Completed.openAfter calls ∧
      ∀ line, m.world.channel.line line = Completed.levelAfter calls line := by
  induction h with
  | start => exact ⟨rfl, fun line => by cases line <;> rfl⟩
  | spawn _ _ _ _ ih => exact ih
  | pass hworked hrun ih =>
    have hkept := hworked.aloof.kept hrun
    exact ⟨hkept.isOpen.trans ih.1, fun line => (hkept.line line fun haside => haside line rfl).trans (ih.2 line)⟩
  | call operation hworked hrun hended ih =>
    have hleaves := hworked.aloof.leaves hworked.worked hrun hended
    refine ⟨?_, fun line => ?_⟩
    · rw [Completed.openAfter_cons, ← ih.1]
      exact hleaves.isOpen
    · rw [Completed.levelAfter_cons, ← ih.2]
      exact hleaves.line line

/-- Whether a call found the channel open goes by the calls before it. -/
theorem wasOpen_eq (h : WorkedBy builder calls m) {call : Completed} {earlier : List Completed}
    (hcall : call :: earlier <:+ calls) : call.wasOpen = Completed.openAfter earlier := by
  induction h with
  | start => cases List.suffix_nil.1 hcall
  | spawn _ _ _ _ ih => exact ih hcall
  | pass _ _ ih => exact ih hcall
  | call operation hworked _ _ ih =>
    obtain heq | hcall := List.suffix_cons_iff.1 hcall
    · cases heq
      exact hworked.signs.1
    · exact ih hcall

/-- A channel answers each line as it is. -/
theorem answers_getLine (h : WorkedBy builder calls m) (line : Line) :
    m.Answers (.channel (.getLine line)) (.ok (.flag (m.world.channel.line line))) := by
  refine h.aloof.answers (Makes.told ?_)
  refine makes_look fun _ w hkept => ⟨w.channel.line line, w, none, rfl, rfl, makes_done ?_⟩
  rw [hkept.line line fun haside => haside line rfl]
  rfl

/-- The channel answers whether it is open. -/
theorem answers_isOpen (h : WorkedBy builder calls m) :
    m.Answers (.channel .isOpen) (.ok (.flag m.world.channel.isOpen)) :=
  h.aloof.answers (Makes.told (makes_getOpen rfl (makes_done rfl)))

/-- An open channel answers its input lines by its output lines. -/
theorem answers_lineLevel (h : WorkedBy builder calls m) (hopen : m.world.channel.isOpen = true) :
    m.Answers (.channel .clearToSend) (.ok (.flag (m.world.channel.line .requestToSend))) ∧
      m.Answers (.device .clearToSend) (.ok (.flag (m.world.channel.line .requestToSend))) ∧
      m.Answers (.channel .dataSetReady) (.ok (.flag (m.world.channel.line .dataTerminalReady))) ∧
      m.Answers (.device .dataSetReady) (.ok (.flag (m.world.channel.line .dataTerminalReady))) := by
  refine ⟨h.aloof.answers ?_, h.aloof.answers ?_, h.aloof.answers ?_, h.aloof.answers ?_⟩
  · exact Makes.told ((makes_lineLevel .requestToSend _ hopen).mono fun _ _ heq => heq ▸ rfl)
  · exact Makes.told (Makes.mapFailure ((makes_lineLevel .requestToSend _ hopen).mono fun _ _ heq => heq ▸ rfl))
  · exact Makes.told ((makes_lineLevel .dataTerminalReady _ hopen).mono fun _ _ heq => heq ▸ rfl)
  · exact Makes.told (Makes.mapFailure ((makes_lineLevel .dataTerminalReady _ hopen).mono fun _ _ heq => heq ▸ rfl))

/-- No channel is ever rung, and a carrier is always there. -/
theorem answers_constant (h : WorkedBy builder calls m) :
    m.Answers (.channel .ringIndicator) (.ok (.flag false)) ∧
      m.Answers (.device .ringIndicator) (.ok (.flag false)) ∧
      m.Answers (.channel .carrierDetect) (.ok (.flag true)) ∧
      m.Answers (.device .carrierDetect) (.ok (.flag true)) := by
  refine ⟨h.aloof.answers ?_, h.aloof.answers ?_, h.aloof.answers ?_, h.aloof.answers ?_⟩ <;>
    exact Makes.told ((makes_noted _ _).mono fun _ _ heq => heq ▸ rfl)

/-- After whatever was called on a channel, through any end and with whatever result, each line is at the level at
which the latest call has left it that set it, and low if there was none, and the channel is open if the latest call
that opened or closed it has opened it. So each call has found it as those before it left it. An open channel tells
the two lines as its inputs; it is never rung, and there is always a carrier. -/
theorem lines_by_calls (h : WorkedBy builder calls m) :
    (∀ call earlier, call :: earlier <:+ calls → call.wasOpen = Completed.openAfter earlier) ∧
    (∀ line, m.Answers (.channel (.getLine line)) (.ok (.flag (Completed.levelAfter calls line)))) ∧
    m.Answers (.channel .isOpen) (.ok (.flag (Completed.openAfter calls))) ∧
    (Completed.openAfter calls = true →
      m.Answers (.channel .clearToSend) (.ok (.flag (Completed.levelAfter calls .requestToSend))) ∧
      m.Answers (.device .clearToSend) (.ok (.flag (Completed.levelAfter calls .requestToSend))) ∧
      m.Answers (.channel .dataSetReady) (.ok (.flag (Completed.levelAfter calls .dataTerminalReady))) ∧
      m.Answers (.device .dataSetReady) (.ok (.flag (Completed.levelAfter calls .dataTerminalReady)))) ∧
    m.Answers (.channel .ringIndicator) (.ok (.flag false)) ∧ m.Answers (.device .ringIndicator) (.ok (.flag false)) ∧
    m.Answers (.channel .carrierDetect) (.ok (.flag true)) ∧ m.Answers (.device .carrierDetect) (.ok (.flag true)) := by
  obtain ⟨hopen, hlines⟩ := h.signs
  simp only [← hopen, ← hlines]
  exact ⟨fun _ _ => h.wasOpen_eq, h.answers_getLine, h.answers_isOpen, h.answers_lineLevel, h.answers_constant⟩

/-- A line is raised on a closed channel, which is opened, and opened once more. A break begins, another line is
raised, and the channel is moved to a bad address and then to a good one; it is opened again, and the first line is
raised again. -/
def signalling : List (Operation × Nat) := [
  (.channel (.setLine .requestToSend true), 2),
  (.channel .openPort, 26),
  (.channel .openPort, 3),
  (.device .setBreak, 2),
  (.device (.setDataTerminalReady true), 2),
  (.channel (.setAddress (some "loop://?logging=loud")), 19),
  (.channel (.setAddress (some "loop://")), 2),
  (.channel .openPort, 26),
  (.device (.setRequestToSend true), 2)]

/-- Nine calls on a channel leave it open, with the request to send and the break condition set, and the other line
low. -/
theorem lines_by_calls_signalling :
    ∃ calls m, WorkedBy cramped calls m ∧ calls.length = 9 ∧ Completed.openAfter calls = true ∧
      m.Answers (.channel (.getLine .requestToSend)) (.ok (.flag true)) ∧
      m.Answers (.channel (.getLine .dataTerminalReady)) (.ok (.flag false)) ∧
      m.Answers (.channel (.getLine .breakCondition)) (.ok (.flag true)) ∧
      m.Answers (.device .clearToSend) (.ok (.flag true)) := by
  have hcalls : ((Machine.ofPrograms cramped.world []).callEach? [] signalling).map (fun (calls, _) =>
      (calls.length, Completed.openAfter calls,
        [Line.requestToSend, .dataTerminalReady, .breakCondition].map (Completed.levelAfter calls))) =
      some (9, true, [true, false, true]) := by decide +kernel
  obtain ⟨⟨calls, m⟩, hm, hstate⟩ := Option.map_eq_some_iff.1 hcalls
  simp only [Prod.mk.injEq, List.map_cons, List.map_nil, List.cons.injEq, and_true] at hstate
  obtain ⟨hlength, hopen, hrts, hdtr, hbreak⟩ := hstate
  have hworked : WorkedBy cramped calls m := WorkedBy.start.callEach? hm
  obtain ⟨-, hlines, -, hinputs, -⟩ := hworked.lines_by_calls
  obtain ⟨-, hclear, -⟩ := hinputs hopen
  exact ⟨calls, m, hworked, hlength, hopen, hrts ▸ hlines _, hdtr ▸ hlines _, hbreak ▸ hlines _, hrts ▸ hclear⟩

end WorkedBy

end Loopback
