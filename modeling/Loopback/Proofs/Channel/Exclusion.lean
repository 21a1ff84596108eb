import Loopback.Proofs.Channel.Ready

/-!
# Openings and closings exclude one another

Whoever opens or closes the channel keeps out all others who would, from when it enters until it
leaves. In between, the channel is open or closed as that task itself has set it. So an opening is not
upset once it has begun a session: it succeeds, whatever other tasks do meanwhile.
-/

namespace Loopback

/-- Whether a task keeps others out after a deed, if it did or did not before. -/
def Deed.excluding (excluding : Bool) : Deed → Bool
  | ⟨.enterLifecycle, _⟩ => true
  | ⟨.leaveLifecycle, _⟩ => false
  | _ => excluding

/-- Whether a task keeps other openings and closings out. -/
def excluding (deeds : List Deed) : Bool :=
  deeds.foldl Deed.excluding false

/-- Whether a task excludes others after one deed more. -/
@[simp] theorem excluding_concat (deeds : List Deed) (deed : Deed) :
    excluding (deeds ++ [deed]) = deed.excluding (excluding deeds) := by
  simp [excluding]

/-- What a task has made of the channel after a deed, if it made something of it before. -/
def Deed.making (made : Option Bool) : Deed → Option Bool
  | ⟨.setOpen isOpen, _⟩ => some isOpen
  | ⟨.leaveLifecycle, _⟩ => none
  | _ => made

/-- Whether a task has opened or closed the channel, until it lets others in. -/
def made (deeds : List Deed) : Option Bool :=
  deeds.foldl Deed.making none

/-- What a task has made of the channel after one deed more. -/
@[simp] theorem made_concat (deeds : List Deed) (deed : Deed) :
    made (deeds ++ [deed]) = deed.making (made deeds) := by
  simp [made]

/-- The channel is opened and closed only by a task that keeps others out, and only such a task lets
them in. -/
def exclusive : Rule := fun seen action =>
  match action with
  | .setOpen _ | .leaveLifecycle => excluding seen = true
  | _ => True

/-- Whether an action neither keeps others out nor lets them in. -/
def Action.inner : Action → Bool
  | .enterLifecycle | .leaveLifecycle => false
  | _ => true

/-- A history in which no task but the holder keeps others out, and the channel is as the holder has made
it. -/
structure Excluded (turns : List Turn) (w : World) (holder : Option Nat) : Prop where
  excluding_iff : ∀ task, excluding (deedsOf task turns) = true ↔ holder = some task
  changing : ∀ task, holder = some task → w.channel.changing = true
  isOpen : ∀ task isOpen, made (deedsOf task turns) = some isOpen →
    holder = some task ∧ w.channel.isOpen = isOpen

section step

variable {turns : List Turn} {w w' : World} {holder : Option Nat} {task : Nat}

/-- A turn changes whether the task that takes it excludes others, and no other task. -/
theorem excluding_turn (turns : List Turn) (turn : Turn) (task : Nat) :
    excluding (deedsOf task (turns ++ [turn])) =
      if turn.task = task then turn.deed.excluding (excluding (deedsOf task turns))
      else excluding (deedsOf task turns) := by
  rw [deedsOf_append, deedsOf_singleton]
  split <;> simp

/-- A turn changes what the task that takes it has made, and nothing of any other task. -/
theorem made_turn (turns : List Turn) (turn : Turn) (task : Nat) :
    made (deedsOf task (turns ++ [turn])) =
      if turn.task = task then turn.deed.making (made (deedsOf task turns))
      else made (deedsOf task turns) := by
  rw [deedsOf_append, deedsOf_singleton]
  split <;> simp

/-- Whoever enters was not kept out, and from then on keeps others out. -/
theorem Excluded.entered (h : Excluded turns w holder) {answer : Unit}
    (hcomes : Action.enterLifecycle.Comes task w answer w') :
    Excluded (turns ++ [⟨task, ⟨.enterLifecycle, answer⟩, w, w'⟩]) w' (some task) := by
  obtain ⟨_, hentered⟩ := hcomes.reply rfl
  simp only [Action.run] at hentered
  split at hentered
  · cases hentered
  next hfree =>
  have hnobody : holder = none :=
    Option.eq_none_iff_forall_not_mem.2 fun other hother => hfree (h.changing other hother)
  subst hnobody
  refine ⟨fun other => ?_, fun _ _ => ?_, fun other isOpen hmade => ?_⟩
  · rw [excluding_turn]
    split
    next hown => simpa [Deed.excluding] using hown
    next hother => simp [h.excluding_iff, hother]
  · injection hentered with _ hworld
    rw [← hworld]
    rfl
  · rw [made_turn] at hmade
    split at hmade
    · cases (h.isOpen other isOpen hmade).1
    · cases (h.isOpen other isOpen hmade).1

/-- After a task has let others in, nobody keeps them out. -/
theorem Excluded.left (h : Excluded turns w holder) {answer : Unit}
    (hholder : excluding (deedsOf task turns) = true) :
    Excluded (turns ++ [⟨task, ⟨.leaveLifecycle, answer⟩, w, w'⟩]) w' none := by
  obtain rfl := (h.excluding_iff task).1 hholder
  refine ⟨fun other => ?_, nofun, fun other isOpen hmade => ?_⟩
  · rw [excluding_turn]
    split
    next => simp [Deed.excluding]
    next hother => simp [h.excluding_iff, hother]
  · rw [made_turn] at hmade
    split at hmade
    next => cases hmade
    next hother => exact absurd (Option.some.inj (h.isOpen other isOpen hmade).1) hother

/-- What a task does to the channel while it keeps others out is as it made it. -/
theorem Excluded.set (h : Excluded turns w holder) {isOpen : Bool} {answer : Unit}
    (hcomes : (Action.setOpen isOpen).Comes task w answer w')
    (hholder : excluding (deedsOf task turns) = true) :
    Excluded (turns ++ [⟨task, ⟨.setOpen isOpen, answer⟩, w, w'⟩]) w' holder := by
  refine ⟨fun other => ?_, fun other hother => ?_, fun other wasMade hmade => ?_⟩
  · rw [excluding_turn]
    split <;> exact h.excluding_iff other
  · exact (hcomes.frame.changing nofun nofun).trans (h.changing other hother)
  · rw [made_turn] at hmade
    obtain rfl := (h.excluding_iff task).1 hholder
    split at hmade
    next hown =>
      cases hmade
      exact ⟨congrArg some hown, hcomes.isOpen_of_set⟩
    next hother => exact absurd (Option.some.inj (h.isOpen other wasMade hmade).1) hother

/-- A turn of a task that opens and closes the channel only while it keeps others out leaves at most one
that does. -/
theorem Excluded.turn (h : Excluded turns w holder) {action : Action} {answer : action.Reply}
    (hcomes : action.Comes task w answer w') (hrule : exclusive (deedsOf task turns) action) :
    ∃ holder', Excluded (turns ++ [⟨task, ⟨action, answer⟩, w, w'⟩]) w' holder' := by
  cases action with
  | enterLifecycle => exact ⟨_, h.entered hcomes⟩
  | leaveLifecycle => exact ⟨_, h.left hrule⟩
  | setOpen => exact ⟨_, h.set hcomes hrule⟩
  | _ =>
    have hframe := hcomes.frame
    refine ⟨holder, fun other => ?_, fun other hother => ?_, fun other isOpen hmade => ?_⟩
    · rw [excluding_turn]
      split <;> exact h.excluding_iff other
    · exact (hframe.changing nofun nofun).trans (h.changing other hother)
    · rw [made_turn] at hmade
      rw [hframe.isOpen nofun]
      split at hmade <;> exact h.isOpen other isOpen hmade

end step

namespace Machine

variable {ε α : Type}

/-- Where every task opens and closes the channel only while it keeps others out, no two do so at
once. -/
theorem Run.excluded {start m : Machine ε α} {moves : List Move} {turns : List Turn}
    (hrun : Run start moves turns m)
    (hexclusive : ∀ task p, start.programOf? task = some p → p.Obeys exclusive []) :
    ∃ holder, Excluded turns m.world holder := by
  refine hrun.history (fun turns w => ∃ holder, Excluded turns w holder) ?_ ?_ ?_
  · refine ⟨none, ?_, ?_, ?_⟩ <;> simp [excluding, made, deedsOf]
  · exact fun _ hheld => hheld.imp fun holder h => ⟨h.excluding_iff, h.changing, h.isOpen⟩
  · intro moves turns m m' move task action answer hrun hchange hcomes hheld
    obtain ⟨holder, h⟩ := hheld
    exact h.turn hcomes (hrun.next_obeys hchange (hexclusive task))

end Machine

namespace Program

variable {ε α : Type} {kind : Kind} {seen : List Deed}

/-- Operations that leave it to others whether the channel is open need keep nobody out. -/
theorem exclusive_of_plain (hkind : kind.Plain) {p : Program ε α} (h : p.Obeys kind.rule seen) :
    p.Obeys exclusive seen := by
  refine h.mono fun seen action hrule => ?_
  cases action with
  | setOpen isOpen =>
    cases isOpen with
    | true => exact absurd hrule.1 hkind.1
    | false => exact absurd hrule.1 hkind.2
  | leaveLifecycle => exact absurd hrule.1 (not_or.2 hkind)
  | _ => trivial

/-- Nor do they let anybody in. -/
theorem inner_of_plain (hkind : kind.Plain) {p : Program ε α} (h : p.Obeys kind.rule seen) :
    p.Obeys (.always fun action => action.inner = true) seen := by
  refine h.mono fun seen action hrule => ?_
  cases action with
  | enterLifecycle | leaveLifecycle => exact absurd hrule.1 (not_or.2 hkind)
  | _ => rfl

/-- A program that lets nobody in may open and close the channel after others were kept out, and then
let them in. -/
theorem Obeys.exclusive_thenAlways {p : Program ε α} {more : List Deed}
    (h : p.Obeys (.always fun action => action.inner = true) seen) (hmore : excluding more = true) :
    (p.thenAlways .leaveLifecycle).Obeys exclusive more := by
  induction p generalizing seen more with
  | act action next ih =>
    obtain ⟨hinner, hnext⟩ := obeys_act.1 h
    refine obeys_act.2 ⟨?_, fun answer => ih answer (hnext answer) ?_⟩
    · cases action with
      | setOpen => exact hmore
      | leaveLifecycle => cases hinner
      | _ => trivial
    · rw [excluding_concat]
      cases action with
      | leaveLifecycle => cases hinner
      | enterLifecycle => rfl
      | _ => exact hmore
  | _ => exact obeys_act.2 ⟨hmore, fun _ => nofun⟩

/-- What is done exclusively keeps to that if what is within neither enters nor leaves. -/
theorem exclusive_exclusively {p : Program ε α}
    (h : ∀ more, p.Obeys (.always fun action => action.inner = true) more) :
    (Program.exclusively p).Obeys exclusive seen :=
  obeys_act.2 ⟨trivial, fun _ => (h []).exclusive_thenAlways (excluding_concat ..)⟩

end Program

namespace Channel

open Program

variable {ε : Type} {seen : List Deed}

/-- An opening does its part within the lifecycle. -/
theorem exclusive_openPort : openPort.Obeys exclusive seen := by
  refine exclusive_exclusively fun more => obeys_act.2 ⟨rfl, fun isOpen => ?_⟩
  cases isOpen with
  | true => exact obeys_fail
  | false =>
    refine obeys_act.2 ⟨rfl, fun _ => obeys_act.2 ⟨rfl, fun address => ?_⟩⟩
    cases address with
    | none => exact obeys_fail
    | some text =>
      refine obeys_ofExcept.bind fun address seen => obeys_act.2 ⟨rfl, fun _ => ?_⟩
      refine (inner_of_plain Kind.plain_looking obeys_reconfigure).bind fun _ seen =>
        obeys_act.2 ⟨rfl, fun traits => ?_⟩
      dsimp only [Program.bind]
      split
      · refine obeys_act.2 ⟨rfl, fun _ => obeys_act.2 ⟨rfl, fun _ => ?_⟩⟩
        exact inner_of_plain Kind.plain_resetting (obeys_afterOpening (.inl rfl) _)
      · exact obeys_abort

/-- A closing does its part within the lifecycle. -/
theorem exclusive_closePort : (closePort : Program ε Unit).Obeys exclusive seen := by
  have hclosing : ∀ more, (do
      .perform (.setOpen false)
      Program.note .info "close()"
      let traits ← Program.getTraits
      .perform (.report (closedEvent traits.closeSettle))
      Program.sleep traits.closeSettle : Program ε Unit).Obeys
        (.always fun action => action.inner = true) more := fun _ =>
    obeys_act.2 ⟨rfl, fun _ => inner_of_plain Kind.plain_looking obeys_afterClosing⟩
  refine exclusive_exclusively fun more => obeys_act.2 ⟨rfl, fun isOpen => ?_⟩
  cases isOpen with
  | false => exact obeys_done
  | true =>
    refine obeys_act.2 ⟨rfl, fun current => ?_⟩
    cases current with
    | none => exact hclosing _
    | some session => exact obeys_act.2 ⟨rfl, fun _ => hclosing _⟩

/-- A moving does its closing and its opening within the lifecycle, and the rest outside. -/
theorem exclusive_setAddress (address : Option String) :
    (setAddress address).Obeys exclusive seen := by
  refine obeys_act.2 ⟨trivial, fun wasOpen => ?_⟩
  cases wasOpen with
  | true =>
    exact exclusive_closePort.bind fun _ _ => obeys_act.2 ⟨trivial, fun _ => exclusive_openPort⟩
  | false => exact obeys_perform trivial

end Channel

/-- Every operation opens and closes the channel only while it keeps others out. -/
theorem Operation.exclusive (operation : Operation) : operation.job.Obeys exclusive [] := by
  rcases operation.plain_or with hplain | rfl | rfl | ⟨address, rfl⟩ | rfl
  · exact Program.exclusive_of_plain hplain (operation.obeys [])
  · exact Channel.exclusive_openPort.job ..
  · exact Channel.exclusive_closePort.job ..
  · exact (Channel.exclusive_setAddress address).job ..
  · exact ((Channel.exclusive_closePort.mapFailure _).sheltered _).job ..

end Loopback
