import Loopback.Proofs.Machine.Rule
import Loopback.Work.Operation

/-!
# What operations are about

An operation reads, writes, drops what is queued, changes settings, opens or closes the channel, or
moves it to another address; the others only look at it, or set its lines. What an operation may do
to the channel depends on that alone. Whatever it is about, it asks for the session right after it
found the channel open, and goes to no queue but that of the session which it was given last.
-/

namespace Loopback

/-- What an operation is about. -/
inductive Kind where
  | looking
  | reading
  | writing
  | resetting
  | setting
  | opening
  | closing
  | moving
deriving DecidableEq

namespace Kind

/-- Operations that open the channel, whatever else they do. -/
def Opens (kind : Kind) : Prop := kind = .opening ∨ kind = .moving

/-- Operations that close the channel, whatever else they do. -/
def Closes (kind : Kind) : Prop := kind = .closing ∨ kind = .moving

/-- Operations that leave it to others whether the channel is open. -/
def Plain (kind : Kind) : Prop := ¬kind.Opens ∧ ¬kind.Closes

instance (kind : Kind) : Decidable kind.Plain := by
  unfold Plain Opens Closes
  infer_instance

/-- A look neither opens nor closes the channel. -/
theorem plain_looking : Plain .looking := by decide

/-- A reset neither opens nor closes the channel. -/
theorem plain_resetting : Plain .resetting := by decide

/-- What an operation may do, by what it is about. -/
def may (kind : Kind) : Action → Prop
  | .push _ item _ => kind = .writing ∧ item ≠ .endOfStream
  | .pop _ _ => kind = .reading
  | .clear _ => kind = .resetting ∨ kind.Opens
  | .append _ item => kind.Closes ∧ item = .endOfStream
  | .changeSettings change =>
    kind = .setting ∧ ∀ settings, settings.baudRate ≠ 0 → (change settings).baudRate ≠ 0
  | .newSession | .setOpen true | .dropDiagnostics | .attachDiagnostics _ => kind.Opens
  | .setOpen false => kind.Closes
  | .setAddress _ => kind = .moving
  | .enterLifecycle | .leaveLifecycle => kind.Opens ∨ kind.Closes
  | _ => True

end Kind

/-- The session that a task goes by after a deed, if it went by one before. -/
def Deed.holding (held : Option Session) : Deed → Option Session
  | ⟨.getSession, session⟩ => session
  | ⟨.setOpen _, _⟩ | ⟨.pause _, _⟩ => none
  | _ => held

/-- The session that a task was given last, unless it has paused, or opened or closed the channel,
since then. -/
def holding (deeds : List Deed) : Option Session :=
  deeds.foldl Deed.holding none

/-- Without any deeds, no session is held. -/
@[simp] theorem holding_nil : holding [] = none := rfl

/-- What session is held after one deed more. -/
@[simp] theorem holding_concat (deeds : List Deed) (deed : Deed) :
    holding (deeds ++ [deed]) = deed.holding (holding deeds) := by
  simp [holding]

/-- The session is asked for only of an open channel, queues are gone to only in the session that was
given, and a channel is open only after a session has begun. -/
def orderly : Rule := fun seen action =>
  match action with
  | .getSession => seen.getLast? = some ⟨.getOpen, true⟩
  | .setOpen true => seen.getLast? = some ⟨.newSession, ()⟩
  | .getLength session | .clear session | .push session _ _ | .append session _ | .pop session _ =>
    holding seen = some session
  | _ => True

/-- What operations of a kind keep to. -/
def Kind.rule (kind : Kind) : Rule := fun seen action => kind.may action ∧ orderly seen action

namespace Program

variable {ε α : Type} {kind : Kind} {seen : List Deed}

/-- A single action keeps to a rule that allows it. -/
theorem obeys_perform {rule : Rule} {action : Action} (h : rule seen action) :
    (perform action : Program ε action.Reply).Obeys rule seen :=
  obeys_act.2 ⟨h, fun _ => obeys_done⟩

/-- What any operation may do at any time may come first. -/
theorem obeys_first {action : Action} {next : action.Reply → Program ε α}
    (hmay : kind.may action) (horderly : orderly seen action)
    (hnext : ∀ answer more, holding more = Deed.holding (holding seen) ⟨action, answer⟩ →
      (next answer).Obeys kind.rule more) : (Program.act action next).Obeys kind.rule seen :=
  obeys_act.2 ⟨⟨hmay, horderly⟩, fun answer => hnext answer _ (holding_concat ..)⟩

/-- To sleep is open to every operation. -/
theorem obeys_sleep (duration : Duration) : (sleep duration : Program ε Unit).Obeys kind.rule seen :=
  obeys_act.2 ⟨⟨trivial, trivial⟩, fun _ => obeys_perform ⟨trivial, trivial⟩⟩

/-- A job keeps to what its program keeps to. -/
theorem Obeys.job {rule : Rule} {p : Program ε α} (h : p.Obeys rule seen) (failure : ε → Failure)
    (answer : α → Answer) : (p.job failure answer).Obeys rule seen :=
  (h.mapFailure failure).bind fun _ _ => obeys_done

/-- Looking at the channel, or setting its lines, is open to every operation. -/
theorem obeys_look {action : Action} {next : action.Reply → Program ε α}
    (hlook : kind.rule seen action) (hnext : ∀ answer more, (next answer).Obeys kind.rule more) :
    (Program.act action next).Obeys kind.rule seen :=
  obeys_act.2 ⟨hlook, fun answer => hnext answer _⟩

end Program

end Loopback
