import Loopback.Proofs.Channel.Moving
import Loopback.Proofs.Work.Lineless
import Loopback.Work.Place

/-!
# What operations make of the lines

Only a few operations set a line, and most of these set one line to the level that they are asked for. An opening
that succeeds lowers the lines of requests and of readiness and leaves the break condition, and so does a moving
that opens the channel again; one that fails leaves all lines. A break that was sent is over in the end. Others may
go on beside such an operation, if they neither open nor close the channel nor set a line.
-/

namespace Loopback

/-- An operation that was completed: whether the channel was open when it was called, and how it ended. -/
structure Completed where
  operation : Operation
  wasOpen : Bool
  ending : Ending

/-- Whether an operation ended well. -/
def Outcome.isOk {ε α : Type} : Outcome ε α → Bool
  | .ok _ => true
  | _ => false

/-- What the latest entry says counts, and if it says nothing, what those before it say. -/
theorem getD_findSome?_cons {α β : Type} (f : α → Option β) (entry : α) (rest : List α) (initial : β) :
    ((entry :: rest).findSome? f).getD initial = (f entry).getD ((rest.findSome? f).getD initial) := by
  rw [List.findSome?_cons]
  cases f entry <;> rfl

namespace Completed

/-- Whether an operation has opened the channel or closed it, if either. -/
def opens? : Completed → Option Bool
  | ⟨.channel .openPort, _, ending⟩ => if ending.isOk then some true else none
  | ⟨.channel (.setAddress _), true, ending⟩ => some ending.isOk
  | ⟨.channel .closePort, _, _⟩ | ⟨.background .close, _, _⟩ => some false
  | _ => none

/-- The level that an operation has left a line at, if it has set it. -/
def level? (line : Line) (call : Completed) : Option Bool :=
  match call.operation with
  | .channel (.setLine other level) => if other = line then some level else none
  | .device (.setRequestToSend level) => if .requestToSend = line then some level else none
  | .device (.setDataTerminalReady level) => if .dataTerminalReady = line then some level else none
  | .device .setBreak => if .breakCondition = line then some true else none
  | .device .clearBreak => if .breakCondition = line then some false else none
  | .channel (.sendBreak _) => if line = .breakCondition ∧ call.ending.isOk then some false else none
  | _ => if line ≠ .breakCondition ∧ call.opens? = some true then some false else none

/-- Whether a channel is open after some calls, the latest of which stands first: only those count that opened it or
closed it. -/
def openAfter (calls : List Completed) : Bool := (calls.findSome? opens?).getD false

/-- The level of a line after some calls, the latest of which stands first: only those count that set it. -/
def levelAfter (calls : List Completed) (line : Line) : Bool := (calls.findSome? (level? line)).getD false

/-- The latest call says whether the channel is open, if it opened or closed it, and the earlier ones do otherwise. -/
theorem openAfter_cons (call : Completed) (calls : List Completed) :
    openAfter (call :: calls) = call.opens?.getD (openAfter calls) :=
  getD_findSome?_cons opens? call calls false

/-- The latest call says at which level a line is, if it set that, and the earlier ones do otherwise. -/
theorem levelAfter_cons (call : Completed) (calls : List Completed) (line : Line) :
    levelAfter (call :: calls) line = (call.level? line).getD (levelAfter calls line) :=
  getD_findSome?_cons (level? line) call calls false

/-- What an operation makes of a channel, as far as it is open and as to the lines. -/
structure Leaves (call : Completed) (c c' : Channel) : Prop where
  isOpen : c'.isOpen = call.opens?.getD c.isOpen
  line : ∀ line, c'.line line = (call.level? line).getD (c.line line)

end Completed

/-- Any part of a channel but its lines. -/
def Part.Aside (part : Part) : Prop := ∀ line, part ≠ .line line

namespace Channel

open Program

variable {ε : Type} {touched : Part → Prop} {c c' : Channel}

/-- A line that is set is at the level it was set to, and every other one where it was. -/
@[simp] theorem line_setLine (c : Channel) (line other : Line) (level : Bool) :
    (c.setLine line level).line other = if line = other then level else c.line other := by
  cases line <;> cases other <;> rfl

/-- To set a line neither opens nor closes the channel. -/
@[simp] theorem isOpen_setLine (c : Channel) (line : Line) (level : Bool) :
    (c.setLine line level).isOpen = c.isOpen := by
  cases line <;> rfl

/-- Whether others are kept out plays no part in the lines. -/
@[simp] theorem line_changing (c : Channel) (changing : Bool) (line : Line) :
    { c with changing }.line line = c.line line := by
  cases line <;> rfl

/-- An opening that succeeds leaves the channel open and all lines low but the break condition; any other leaves it
as open as it was, and the lines too. -/
def Opened (c : Channel) (outcome : Outcome PortFailure Unit) (c' : Channel) : Prop :=
  (outcome = .ok () ∧ c'.isOpen = true ∧ ∀ line, c'.line line = (decide (line = .breakCondition) && c.line line)) ∨
    (outcome.isOk = false ∧ c'.isOpen = c.isOpen ∧ ∀ line, c'.line line = c.line line)

/-- Whatever its settings and its address are, an opening leaves the channel in one of two ways. -/
theorem makes_openExclusively_lines : openExclusively.Makes touched (Opened c) c := by
  rw [openExclusively_eq]
  rcases hopen : c.isOpen with _ | _
  · refine makes_getOpen hopen (makes_dropDiagnostics (makes_getAddress rfl ?_))
    dsimp only
    cases c.address with
    | none => exact makes_fail (.inr ⟨rfl, rfl, fun _ => rfl⟩)
    | some text =>
      dsimp only [Program.bind]
      cases hparse : Address.parse text with
      | error fault => exact makes_fail (.inr ⟨rfl, rfl, fun _ => rfl⟩)
      | ok address =>
        refine makes_attachDiagnostics (makes_look fun _ w _ => ⟨w.channel.settings, w, none, rfl, rfl, ?_⟩)
        dsimp only [Program.bind]
        cases checkBaudRate w.channel.settings.baudRate.toNat with
        | error failure => exact makes_fail (.inr ⟨rfl, rfl, fun _ => rfl⟩)
        | ok rate =>
          refine makes_note (makes_getTraits ?_)
          dsimp only [Program.bind]
          split
          · exact makes_beginSession _ (.inl ⟨rfl, rfl, fun line => by cases line <;> rfl⟩)
          · exact makes_abort (.inr ⟨rfl, rfl, fun _ => rfl⟩)
  · exact makes_getOpen hopen (makes_fail (.inr ⟨rfl, rfl, fun _ => rfl⟩))

/-- An opening makes of the lines what it is to make of them. -/
theorem makes_openPort_lines (hfree : c.changing = false) : openPort.Makes touched (Opened c) c := by
  have hinner : openExclusively.Makes touched (Opened { c with changing := true }) { c with changing := true } :=
    makes_openExclusively_lines
  refine makes_exclusively hfree (hinner.mono fun outcome c' hopened => ?_)
  obtain ⟨hok, hopen, hlines⟩ | ⟨hfailed, hopen, hlines⟩ := hopened
  · exact .inl ⟨hok, hopen, fun line => by simpa using hlines line⟩
  · exact .inr ⟨hfailed, hopen, fun line => by simpa using hlines line⟩

/-- Closing leaves a channel closed, and its lines as they were. -/
theorem makes_closePort_lines (hfree : c.changing = false)
    (hinOrder : c.isOpen = true → ∃ session, c.session? = some session) :
    (closePort : Program ε Unit).Makes touched
      (fun _ c' => c'.isOpen = false ∧ ∀ line, c'.line line = c.line line) c := by
  rcases hopen : c.isOpen with _ | _
  · refine makes_exclusively hfree (makes_getOpen hopen (makes_done ⟨hopen, fun line => ?_⟩))
    simp
  · obtain ⟨session, hsession⟩ := hinOrder hopen
    refine (makes_closePort hopen hsession hfree).mono fun outcome c' ⟨_, hshut⟩ => ?_
    subst hshut
    exact ⟨rfl, fun line => by cases line <;> rfl⟩

/-- Setting a line does that, and leaves the channel open or closed as it was. -/
theorem makes_setLine_note (line : Line) (level : Bool) (message : String) :
    (do
      .perform (.setLine line level)
      Program.note .info message : Program ε Unit).Makes touched
        (fun _ c' => c' = c.setLine line level) c :=
  makes_setLine (makes_note (makes_done rfl))

/-- A break is sent only through an open channel, and is over in the end. -/
theorem makes_sendBreak (duration : Duration) : (sendBreak duration).Makes touched
    (fun outcome c' => c'.isOpen = c.isOpen ∧
      ∀ line, c'.line line = if line = .breakCondition ∧ outcome.isOk then false else c.line line) c := by
  rcases hopen : c.isOpen with _ | _
  · exact makes_getOpen hopen (makes_fail ⟨hopen, fun line => by simp [Outcome.isOk]⟩)
  · refine makes_getOpen hopen (makes_setLine (makes_note ?_))
    refine makes_look fun _ w _ => ⟨w.now, w, none, rfl, rfl, makes_pause (makes_setLine (makes_note ?_))⟩
    refine makes_done ⟨hopen, fun line => ?_⟩
    cases line <;> simp [Outcome.isOk, setLine, Channel.line]

/-- A channel closed by way of a background task is left as by one that closes it itself. -/
theorem makes_close (hfree : c.changing = false)
    (hinOrder : c.isOpen = true → ∃ session, c.session? = some session) :
    Background.close.Makes touched (fun _ c' => c'.isOpen = false ∧ ∀ line, c'.line line = c.line line) c :=
  fun w hkept => (Attains.mapFailure (makes_closePort_lines hfree hinOrder w hkept)).sheltered _

/-- The level of a line of an open channel is told as it is. -/
theorem makes_lineLevel (line : Line) (message : Bool → String) (hopen : c.isOpen = true) :
    (do
      ensureOpen
      let level ← Program.getLine line
      Program.note .info (message level)
      pure level : Operation Bool).Makes Part.Aside (fun outcome _ => outcome = .ok (c.line line)) c := by
  refine makes_getOpen hopen (makes_look fun _ w hkept => ⟨w.channel.line line, w, none, rfl, rfl, ?_⟩)
  exact makes_note (makes_done (congrArg Outcome.ok (hkept.line line fun haside => haside line rfl)))

/-- An answer given with a note leaves the channel as it is. -/
theorem makes_noted {α : Type} (message : String) (answer : α) :
    (do
      Program.note .info message
      pure answer : Program ε α).Makes touched (fun outcome _ => outcome = .ok answer) c :=
  makes_note (makes_done rfl)

end Channel

namespace Completed

variable {c c' : Channel} {ending : Ending} {wasOpen : Bool}

/-- An operation that opens and closes nothing, and is not to set a line, leaves all that as it was. -/
theorem leaves_of_none {call : Completed} (hopens : call.opens? = none) (hlevel : ∀ line, call.level? line = none)
    (hopen : c'.isOpen = c.isOpen) (hlines : ∀ line, c'.line line = c.line line) : call.Leaves c c' where
  isOpen := by rw [hopens, hopen, Option.getD_none]
  line line := by rw [hlevel line, hlines line, Option.getD_none]

/-- An operation that is only to set a line leaves the others, and the channel open or closed as it was. -/
theorem leaves_of_setLine {call : Completed} {line : Line} {level : Bool} (hopens : call.opens? = none)
    (hlevel : ∀ other, call.level? other = if line = other then some level else none) :
    call.Leaves c (c.setLine line level) where
  isOpen := by rw [hopens, Channel.isOpen_setLine, Option.getD_none]
  line other := by
    rw [hlevel other, Channel.line_setLine]
    split <;> rfl

/-- A closing leaves the channel closed, and the lines as they were. -/
theorem leaves_of_closed {call : Completed} (hopens : call.opens? = some false)
    (hlevel : ∀ line, call.level? line = none)
    (h : c'.isOpen = false ∧ ∀ line, c'.line line = c.line line) : call.Leaves c c' where
  isOpen := by rw [hopens, h.1, Option.getD_some]
  line line := by rw [hlevel line, h.2 line, Option.getD_none]

/-- An opening leaves the channel and its lines as the record of its call says. -/
theorem leaves_openPort {outcome : Outcome PortFailure Unit} (h : Channel.Opened c outcome c') :
    Leaves ⟨.channel .openPort, wasOpen, outcome.told .port fun _ => .nothing⟩ c c' := by
  obtain ⟨rfl, hopen, hlines⟩ | ⟨hfailed, hopen, hlines⟩ := h
  · refine ⟨hopen, fun line => (hlines line).trans ?_⟩
    cases line <;> rfl
  · have hending : (outcome.told .port fun _ => .nothing : Ending).isOk = false := by cases outcome <;> trivial
    exact leaves_of_none (by simp [opens?, hending]) (fun line => by simp [level?, opens?, hending]) hopen hlines

/-- A moving leaves the channel and its lines as the record of its call says. -/
theorem leaves_setAddress {address : Option String} {outcome : Outcome PortFailure Unit}
    (h : Channel.Moved address c outcome c') :
    Leaves ⟨.channel (.setAddress address), c.isOpen, outcome.told .port fun _ => .nothing⟩ c c' := by
  cases h with
  | closed hclosed =>
    refine leaves_of_none (by simp [opens?, hclosed]) (by simp [level?, opens?, hclosed]) rfl fun line => ?_
    cases line <;> rfl
  | notConfigured hopen | addressFormat hopen | reopened hopen =>
    rw [hopen]
    exact ⟨rfl, fun line => by cases line <;> rfl⟩

end Completed

section operations

open Program Completed

variable {touched : Part → Prop} {c : Channel}

/-- Every operation that opens or closes the channel or is to set a line makes of it what it is to make. -/
theorem Operation.makes_lines (operation : Operation) (hfree : c.changing = false)
    (hinOrder : c.isOpen = true → c.settings.baudRate ≠ 0 ∧ Queue.fitsMemory c.traits.capacity = true ∧
      ∃ session, c.session? = some session)
    (hlines : operation.kind.Plain → operation.signals = true) :
    operation.job.Makes touched (fun ending c' => Leaves ⟨operation, c.isOpen, ending⟩ c c') c := by
  have hsession : c.isOpen = true → ∃ session, c.session? = some session := fun hopen => (hinOrder hopen).2.2
  rcases operation.plain_or with hplain | rfl | rfl | ⟨address, rfl⟩ | rfl
  · cases operation with
    | channel operation =>
      cases operation with
      | setLine line level =>
        cases line <;>
          exact Makes.told ((Channel.makes_setLine_note _ level _).mono fun _ _ heq =>
            heq ▸ leaves_of_setLine rfl fun _ => rfl)
      | sendBreak duration =>
        refine Makes.told ((Channel.makes_sendBreak duration).mono fun outcome c' ⟨hopen, hbreak⟩ => ?_)
        have hending : (outcome.told .port fun _ => .nothing : Ending).isOk = outcome.isOk := by cases outcome <;> rfl
        refine ⟨hopen, fun line => (hbreak line).trans ?_⟩
        simp only [level?, hending]
        split <;> rfl
      | _ => cases hlines hplain
    | device operation =>
      cases operation with
      | setRequestToSend level | setDataTerminalReady level =>
        exact Makes.told ((Channel.makes_setLine_note _ level _).mono fun _ _ heq =>
          heq ▸ leaves_of_setLine rfl fun _ => rfl)
      | setBreak | clearBreak =>
        exact Makes.told ((Channel.makes_setLine_note _ _ _).mono fun _ _ heq =>
          heq ▸ leaves_of_setLine rfl fun _ => rfl)
      | _ => cases hlines hplain
    | _ => cases hlines hplain
  · exact Makes.told ((Channel.makes_openPort_lines hfree).mono fun _ _ => leaves_openPort)
  · exact Makes.told ((Channel.makes_closePort_lines hfree hsession).mono fun _ _ =>
      leaves_of_closed rfl fun _ => by simp [level?, opens?])
  · exact Makes.told ((Channel.makes_setAddress address hfree hinOrder).mono fun _ _ => leaves_setAddress)
  · exact Makes.told ((Channel.makes_close hfree hsession).mono fun _ _ =>
      leaves_of_closed rfl fun _ => by simp [level?, opens?])

end operations

end Loopback
