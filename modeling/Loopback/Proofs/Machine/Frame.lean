import Loopback.Proofs.Machine.Rule

/-!
# What actions leave alone

An action concerns little of a channel, and leaves all else as it was. Later proofs cite this frame
instead of going through the actions once more.
-/

namespace Loopback

namespace Action

/-- Each part of a channel is as it was, unless the action was one of those that change it. -/
structure Frame (action : Action) (w w' : World) : Prop where
  traits : w'.channel.traits = w.channel.traits
  isOpen : (∀ isOpen, action ≠ .setOpen isOpen) → w'.channel.isOpen = w.channel.isOpen
  address : (∀ address, action ≠ .setAddress address) → w'.channel.address = w.channel.address
  settings : (∀ change, action ≠ .changeSettings change) → w'.channel.settings = w.channel.settings
  diagnostics : action ≠ .dropDiagnostics → (∀ level, action ≠ .attachDiagnostics level) →
    w'.channel.diagnostics = w.channel.diagnostics
  sessions : action ≠ .newSession → w'.channel.queues.length = w.channel.queues.length
  changing : action ≠ .enterLifecycle → action ≠ .leaveLifecycle → w'.channel.changing = w.channel.changing

/-- Where the channel stays as it is, any frame holds. -/
theorem Frame.of_channel {action : Action} {w w' : World} (h : w'.channel = w.channel) :
    action.Frame w w' := by
  constructor <;> simp [h]

/-- Replacing a queue leaves all else alone. -/
theorem Frame.of_setQueue (action : Action) (w : World) (session : Session) (queue : Queue) :
    action.Frame w (w.withChannel (w.channel.setQueue session queue)) := by
  constructor <;> simp [World.withChannel, Channel.setQueue]

/-- An action that comes to an answer leaves alone what it does not concern. -/
theorem Comes.frame {task : Nat} {w w' : World} {action : Action} {answer : action.Reply}
    (h : action.Comes task w answer w') : action.Frame w w' := by
  cases h with
  | gaveUp => exact .of_channel rfl
  | replied hrun =>
    cases action with
    | push | pop =>
      simp only [run, atQueue] at hrun
      split at hrun
      · cases hrun
        exact .of_channel rfl
      · split at hrun
        · cases hrun
          exact .of_setQueue ..
        · cases hrun
    | append | clear =>
      simp only [run, atQueue] at hrun
      split at hrun
      · cases hrun
        exact .of_channel rfl
      · cases hrun
        exact .of_setQueue ..
    | getLength =>
      simp only [run, atQueue] at hrun
      split at hrun <;> cases hrun <;> exact .of_channel rfl
    | pause deadline =>
      simp only [run] at hrun
      split at hrun
      · cases hrun
        exact .of_channel rfl
      · cases hrun
    | enterLifecycle =>
      simp only [run] at hrun
      split at hrun
      · cases hrun
      · cases hrun
        constructor <;> simp [World.withChannel]
    | setLine line =>
      cases hrun
      cases line <;> constructor <;> intros <;> rfl
    | setOpen | setAddress | changeSettings | dropDiagnostics | attachDiagnostics | newSession
      | leaveLifecycle =>
      cases hrun
      constructor <;> simp [World.withChannel]
    | _ =>
      cases hrun
      exact .of_channel rfl

/-- No time passes while an action comes to its answer. -/
theorem Comes.now_eq {task : Nat} {w w' : World} {action : Action} {answer : action.Reply}
    (h : action.Comes task w answer w') : w'.now = w.now := by
  cases h with
  | gaveUp => rfl
  | replied hrun =>
    cases action with
    | push | pop =>
      simp only [run, atQueue] at hrun
      split at hrun
      · cases hrun
        rfl
      · split at hrun <;> cases hrun
        rfl
    | append | clear | getLength | pause | enterLifecycle =>
      simp only [run, atQueue] at hrun
      split at hrun <;> cases hrun <;> rfl
    | _ =>
      cases hrun
      rfl

/-- Whether the channel is open is answered as it is. -/
theorem Comes.isOpen {task : Nat} {w w' : World} {answer : Bool}
    (h : Action.getOpen.Comes task w answer w') : answer = w.channel.isOpen := by
  cases h with
  | replied hrun =>
    cases hrun
    rfl
  | gaveUp hrun => cases hrun

/-- The channel is open, or closed, as it was set. -/
theorem Comes.isOpen_of_set {task : Nat} {w w' : World} {isOpen : Bool} {answer : Unit}
    (h : (Action.setOpen isOpen).Comes task w answer w') : w'.channel.isOpen = isOpen := by
  cases h with
  | replied hrun =>
    cases hrun
    rfl
  | gaveUp hrun => cases hrun

/-- A queue that was not there was just created. -/
theorem Comes.created {task : Nat} {w w' : World} {action : Action} {answer : action.Reply}
    (h : action.Comes task w answer w') {session : Session} {q : Queue}
    (hnone : w.channel.queues[session]? = none) (hsome : w'.channel.queues[session]? = some q) :
    q = Queue.create w.channel.traits.capacity := by
  have hlength := List.getElem?_eq_none_iff.1 hnone
  by_cases hnew : action = .newSession
  · subst hnew
    cases h with
    | replied hrun =>
      cases hrun
      simp only [World.withChannel] at hsome
      rw [List.getElem?_append_right hlength, List.getElem?_singleton] at hsome
      split at hsome
      · exact (Option.some.inj hsome).symm
      · cases hsome
    | gaveUp hrun => cases hrun
  · have hsessions := h.frame.sessions hnew
    have hlength' := (List.getElem?_eq_some_iff.1 hsome).1
    omega

end Action

end Loopback
