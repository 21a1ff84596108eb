import Loopback.Proofs.Machine.Alone
import Loopback.Proofs.Machine.Beside
import Loopback.Proofs.Machine.Rely
import Loopback.Proofs.Queue.Tidy
import Loopback.Proofs.Settings.Transmission
import Loopback.Proofs.Work.Order

/-!
# An open channel is ready

Operations are run one after another on a channel, while others that neither open nor close it are
left at work in the background. Whenever the channel is open in between, however that came about and
whatever failed on the way, its current queue is there and holds no mark of the end, its baud rate is
not zero, and its diagnostics are those that its address asks for.
-/

namespace Loopback

/-- A channel whose current queue holds no mark of the end. -/
def World.Unmarked (w : World) : Prop :=
  ∃ session q, w.channel.session? = some session ∧ w.channel.queues[session]? = some q ∧
    .endOfStream ∉ q.items

/-- A channel that data can go through: with a queue and a baud rate, and with the diagnostics of its
address. -/
structure World.Ready (w : World) : Prop where
  unmarked : w.Unmarked
  baudRate : w.channel.settings.baudRate ≠ 0
  addressed : ∃ text address, w.channel.address = some text ∧ Address.parse text = .ok address ∧
    w.channel.diagnostics = address.logging

/-- If the channel is open, it is ready. -/
def World.InOrder (w : World) : Prop := w.channel.isOpen = true → w.Ready

/-- A closed channel is in order. -/
theorem World.inOrder_of_closed {w : World} (h : w.channel.isOpen = false) : w.InOrder := by
  intro hopen
  rw [h] at hopen
  cases hopen

/-- A channel that stays open or closed, at its address, and keeps what it needs to be ready. -/
structure World.Spared (w w' : World) : Prop where
  isOpen : w'.channel.isOpen = w.channel.isOpen
  address : w'.channel.address = w.channel.address
  diagnostics : w'.channel.diagnostics = w.channel.diagnostics
  baudRate : w.channel.settings.baudRate ≠ 0 → w'.channel.settings.baudRate ≠ 0
  unmarked : w.Unmarked → w'.Unmarked

namespace Action

/-- What can be done to a channel and leave it as ready as it was. -/
def Sparing : Action → Prop
  | .push _ item _ => item ≠ .endOfStream
  | .changeSettings change =>
    ∀ settings, settings.baudRate ≠ 0 → (change settings).baudRate ≠ 0
  | .setOpen _ | .setAddress _ | .dropDiagnostics | .attachDiagnostics _ | .newSession => False
  | .append _ _ => False
  | _ => True

/-- Operations that leave it to others whether the channel is open do nothing else. -/
theorem sparing_of_plain {kind : Kind} (hkind : kind.Plain) {action : Action} (h : kind.may action) :
    action.Sparing := by
  cases action with
  | push | changeSettings => exact h.2
  | setOpen isOpen =>
    cases isOpen with
    | true => exact hkind.1 h
    | false => exact hkind.2 h
  | append => exact hkind.2 h.1
  | newSession | dropDiagnostics | attachDiagnostics => exact hkind.1 h
  | setAddress => exact hkind.1 (.inr h)
  | _ => trivial

/-- What spares a channel queues no mark, and no byte past the capacity. -/
theorem fitting_of_sparing {action : Action} (h : action.Sparing) : action.Fitting := by
  cases action with
  | push => exact h
  | append => exact h.elim
  | _ => trivial

/-- An effect of a sparing action brings no mark into a queue. -/
theorem Effect.unmarked {session : Session} {action : Action} {answer : action.Reply}
    {call : Option Call} {q q' : Queue} (h : Effect session action answer call q q')
    (hsparing : action.Sparing) (hq : .endOfStream ∉ q.items) : .endOfStream ∉ q'.items := by
  cases h with
  | pushed hoffer =>
    rw [Queue.items_of_offer hoffer, List.mem_append, List.mem_singleton, not_or]
    exact ⟨hq, Ne.symm hsparing⟩
  | appended => exact hsparing.elim
  | popped htake =>
    rw [Queue.items_of_take? htake, List.mem_cons, not_or] at hq
    exact hq.2
  | cleared => exact List.not_mem_nil
  | elsewhere => exact hq

/-- A sparing action puts no mark of the end in the current queue. -/
theorem Comes.unmarked {task : Nat} {w w' : World} {action : Action} {answer : action.Reply}
    (h : action.Comes task w answer w') (hsparing : action.Sparing) (hw : w.Unmarked) :
    w'.Unmarked := by
  have hnew : action ≠ .newSession := by
    rintro rfl
    exact hsparing
  have hlength := h.frame.sessions hnew
  obtain ⟨session, q, hsession, hq, hmark⟩ := hw
  have hsession' : w'.channel.session? = some session := by
    rw [Channel.session?, hlength]
    exact hsession
  cases h with
  | gaveUp => exact ⟨session, q, hsession, hq, hmark⟩
  | replied hrun =>
    obtain ⟨q', hq', heffect⟩ := effect_of_run hrun hq
    exact ⟨session, q', hsession', hq', heffect.unmarked hsparing hmark⟩

/-- A sparing action spares the channel. -/
theorem Comes.spared {task : Nat} {w w' : World} {action : Action} {answer : action.Reply}
    (h : action.Comes task w answer w') (hsparing : action.Sparing) : w.Spared w' where
  isOpen := h.frame.isOpen (by rintro _ rfl; exact hsparing)
  address := h.frame.address (by rintro _ rfl; exact hsparing)
  diagnostics := h.frame.diagnostics (by rintro rfl; exact hsparing) (by rintro _ rfl; exact hsparing)
  baudRate hbaud := by
    by_cases hchange : ∃ change, action = .changeSettings change
    · obtain ⟨change, rfl⟩ := hchange
      cases h with
      | replied hrun =>
        cases hrun
        exact hsparing _ hbaud
      | gaveUp hrun => cases hrun
    · rw [h.frame.settings fun change hchanged => hchange ⟨change, hchanged⟩]
      exact hbaud
  unmarked := h.unmarked hsparing

/-- Whether an action may have to wait. -/
def mayWait : Action → Bool
  | .push _ _ _ | .pop _ _ | .pause _ => true
  | _ => false

/-- An action that does not wait gets its answer from the world. -/
theorem Comes.reply {task : Nat} {w w' : World} {action : Action} {answer : action.Reply}
    (h : action.Comes task w answer w') (hprompt : action.mayWait = false) :
    ∃ call, action.run task w = .reply answer w' call := by
  cases h with
  | replied hrun => exact ⟨_, hrun⟩
  | gaveUp hrun => cases waits_of_run hrun <;> cases hprompt

end Action

namespace Channel

open Program

/-- What operations that neither open nor close the channel leave each other. -/
def sparing : Rely where
  within := World.Spared
  refl _ := ⟨rfl, rfl, rfl, id, id⟩
  trans h h' := ⟨h'.isOpen.trans h.isOpen, h'.address.trans h.address,
    h'.diagnostics.trans h.diagnostics, h'.baudRate ∘ h.baudRate, h'.unmarked ∘ h.unmarked⟩
  tick _ _ := ⟨rfl, rfl, rfl, id, id⟩

section spares

/-- A sparing action neither opens nor closes the channel. -/
theorem spares_isOpen (isOpen : Bool) : sparing.Spares fun w => w.channel.isOpen = isOpen :=
  fun _ _ hspared h => hspared.isOpen.trans h

/-- A sparing action leaves the address. -/
theorem spares_address (address : Option String) :
    sparing.Spares fun w => w.channel.address = address :=
  fun _ _ hspared h => hspared.address.trans h

/-- A sparing action leaves the diagnostics. -/
theorem spares_diagnostics (level : Option Severity) :
    sparing.Spares fun w => w.channel.diagnostics = level :=
  fun _ _ hspared h => hspared.diagnostics.trans h

/-- A sparing action leaves a baud rate that is not zero. -/
theorem spares_baudRate : sparing.Spares fun w => w.channel.settings.baudRate ≠ 0 :=
  fun _ _ hspared h => hspared.baudRate h

/-- A sparing action leaves a ready channel ready. -/
theorem spares_ready : sparing.Spares World.Ready := by
  intro w w' hspared h
  refine ⟨hspared.unmarked h.unmarked, hspared.baudRate h.baudRate, ?_⟩
  rw [hspared.address, hspared.diagnostics]
  exact h.addressed

/-- A sparing action leaves a channel in order. -/
theorem spares_inOrder : sparing.Spares World.InOrder :=
  fun _ _ hspared h hopen => spares_ready hspared (h (hspared.isOpen.symm.trans hopen))

end spares

variable {ε α : Type} {w : World} {post : World → Prop}

/-- A program of sparing actions secures whatever such actions spare. -/
theorem secures_of_sparing {p : Program ε α} {seen : List Deed}
    (hobeys : p.Obeys (.always Action.Sparing) seen) (hspares : sparing.Spares post) (hw : post w) :
    p.Secures sparing post w :=
  secures_of_obeys hobeys (fun hsparing hcomes => hcomes.spared hsparing) hspares hw

/-- What an operation of a plain kind does is sparing. -/
theorem sparing_of_obeys {kind : Kind} (hkind : kind.Plain) {p : Program ε α} {seen : List Deed}
    (h : p.Obeys kind.rule seen) : p.Obeys (.always Action.Sparing) seen :=
  h.mono fun _ _ hrule => Action.sparing_of_plain hkind hrule.1

/-- Keeping other openings and closings out is sparing. -/
theorem secures_exclusively {pre : World → Prop} {p : Program ε α} (hspares : sparing.Spares pre)
    (hw : pre w) (hp : ∀ {w : World}, pre w → p.Secures sparing post w) :
    (Program.exclusively p).Secures sparing post w := by
  refine secures_act hspares hw fun hholds hcomes => ?_
  have hentered := hspares (hcomes.spared trivial) hholds
  exact (hp hentered).thenAlways fun hcomes => hcomes.spared trivial

/-- A sparing action changes nothing that is counted on. -/
theorem secures_act_of_sparing {holds : World → Prop} {action : Action}
    {next : action.Reply → Program ε α} (hsparing : action.Sparing) (hspares : sparing.Spares holds)
    (hw : holds w)
    (hnext : ∀ {answer : action.Reply} {w : World}, holds w → (next answer).Secures sparing post w) :
    (Program.act action next).Secures sparing post w :=
  secures_act hspares hw fun hholds hcomes => hnext (hspares (hcomes.spared hsparing) hholds)

/-- What follows a check of the settings can count on the baud rate. -/
theorem secures_reconfigure_bind {holds : World → Prop} {rest : Unit → Operation α}
    (hspares : sparing.Spares holds) (hpost : sparing.Spares post) (hholds : ∀ w, holds w → post w)
    (hw : holds w)
    (hrest : ∀ {w : World}, holds w ∧ w.channel.settings.baudRate ≠ 0 →
      (rest ()).Secures sparing post w) : (reconfigure >>= rest).Secures sparing post w := by
  refine secures_act hspares hw fun {_ w settings _} hw hcomes => ?_
  obtain ⟨_, hrun⟩ := hcomes.reply rfl
  cases hrun
  dsimp only [Program.bind]
  cases hrate : checkBaudRate w.channel.settings.baudRate.toNat with
  | error failure => exact secures_fail hpost (hholds w hw)
  | ok rate =>
    have hbaud := (ne_zero_of_checkBaudRate hrate).1
    exact secures_act_of_sparing trivial (hspares.and spares_baudRate) ⟨hw, hbaud⟩ hrest

/-- A closed channel whose address has been decoded and whose settings are in order is ready once it
has a new session. -/
theorem secures_beginning {text : String} {address : Address} (event : Event)
    (haddress : w.channel.address = some text) (hparse : Address.parse text = .ok address)
    (hlevel : w.channel.diagnostics = address.logging) (hbaud : w.channel.settings.baudRate ≠ 0) :
    (do
      .perform .newSession
      .perform (.setOpen true)
      setDataTerminalReady false
      setRequestToSend false
      resetInput
      resetOutput
      .perform (.report event) : Operation Unit).Secures sparing World.InOrder w := by
  have hprepared := ((spares_address (some text)).and (spares_diagnostics address.logging)).and
    spares_baudRate
  refine secures_act hprepared ⟨⟨haddress, hlevel⟩, hbaud⟩ fun {_ w _ _} hholds hcomes => ?_
  obtain ⟨_, hrun⟩ := hcomes.reply rfl
  cases hrun
  obtain ⟨⟨haddress, hlevel⟩, hbaud⟩ := hholds
  have hready : World.Ready (w.withChannel { w.channel with
      queues := w.channel.queues ++ [Queue.create w.channel.traits.capacity] }) := by
    refine ⟨⟨w.channel.queues.length, Queue.create w.channel.traits.capacity, ?_, ?_, ?_⟩,
      hbaud, text, address, haddress, hparse, hlevel⟩
    · simp [World.withChannel, session?]
    · simp [World.withChannel]
    · exact List.not_mem_nil
  refine secures_act spares_ready hready fun hready hcomes => ?_
  obtain ⟨_, hrun⟩ := hcomes.reply rfl
  cases hrun
  have hrest := @obeys_afterOpening .resetting [] (.inl rfl) event
  exact secures_of_sparing (sparing_of_obeys Kind.plain_resetting hrest) spares_inOrder fun _ =>
    ⟨hready.unmarked, hready.baudRate, hready.addressed⟩

/-- Opening decodes the address, attaches its diagnostics and checks the settings before a session
begins, and the channel is open only then. If one of these fails, it stays closed. -/
theorem secures_openExclusively (hw : w.InOrder) :
    openExclusively.Secures sparing World.InOrder w := by
  have hstays : ∀ w : World, w.channel.isOpen = false → w.InOrder := fun _ => World.inOrder_of_closed
  -- The channel is closed while a step may still fail, so a failure leaves it as a closed channel is.
  refine secures_act spares_inOrder hw fun {_ w isOpen _} hw hcomes => ?_
  obtain ⟨_, hrun⟩ := hcomes.reply rfl
  cases hrun
  cases hopen : w.channel.isOpen with
  | true => exact secures_fail spares_inOrder hw
  | false =>
    refine secures_act (spares_isOpen false) hopen fun hclosed hcomes => ?_
    have hclosed := (hcomes.frame.isOpen nofun).trans hclosed
    refine secures_act (spares_isOpen false) hclosed fun {_ w address _} hclosed hcomes => ?_
    obtain ⟨_, hrun⟩ := hcomes.reply rfl
    cases hrun
    cases haddress : w.channel.address with
    | none => exact secures_fail spares_inOrder (hstays w hclosed)
    | some text =>
      refine secures_ofExcept_bind spares_inOrder (fun _ _ => hstays w hclosed) fun address hparsed => ?_
      have hparse : Address.parse text = .ok address := by
        cases h : Address.parse text <;> rw [h] at hparsed <;> cases hparsed
        rfl
      have hnamed := (spares_isOpen false).and (spares_address (some text))
      refine secures_act hnamed ⟨hclosed, haddress⟩ fun hholds hcomes => ?_
      obtain ⟨_, hrun⟩ := hcomes.reply rfl
      cases hrun
      have hlogged := hnamed.and (spares_diagnostics address.logging)
      refine secures_reconfigure_bind hlogged spares_inOrder (fun w h => hstays w h.1.1)
        ⟨hholds, rfl⟩ fun hchecked => ?_
      refine secures_act_of_sparing trivial (hlogged.and spares_baudRate) hchecked fun {_ w} hchecked => ?_
      obtain ⟨⟨⟨hclosed, haddress⟩, hlevel⟩, hbaud⟩ := hchecked
      dsimp only [Program.bind]
      split
      · exact secures_beginning _ haddress hparse hlevel hbaud
      · exact secures_abort spares_inOrder (hstays w hclosed)

/-- An opening secures that the channel is in order. -/
theorem secures_openPort (hw : w.InOrder) : openPort.Secures sparing World.InOrder w :=
  secures_exclusively spares_inOrder hw secures_openExclusively

/-- Closing leaves the channel closed, whether it was open or not. -/
theorem secures_closeExclusively :
    (closeExclusively : Program ε Unit).Secures sparing (fun w => w.channel.isOpen = false) w := by
  have hnothing : sparing.Spares fun _ => True := fun _ _ _ _ => trivial
  have hclosing : ∀ {w : World}, (do
      .perform (.setOpen false)
      Program.note .info "close()"
      let traits ← Program.getTraits
      .perform (.report (closedEvent traits.closeSettle))
      Program.sleep traits.closeSettle : Program ε Unit).Secures sparing
        (fun w => w.channel.isOpen = false) w := by
    intro w
    refine secures_act hnothing trivial fun _ hcomes => ?_
    obtain ⟨_, hrun⟩ := hcomes.reply rfl
    cases hrun
    have hrest := @obeys_afterClosing ε .looking []
    exact secures_of_sparing (sparing_of_obeys Kind.plain_looking hrest) (spares_isOpen false) rfl
  refine secures_act hnothing trivial fun {_ w isOpen _} _ hcomes => ?_
  obtain ⟨_, hrun⟩ := hcomes.reply rfl
  cases hrun
  cases hopen : w.channel.isOpen with
  | false => exact secures_done (spares_isOpen false) hopen
  | true =>
    refine secures_act hnothing trivial fun {_ _ current _} _ hcomes => ?_
    cases current with
    | none => exact hclosing
    | some session => exact secures_act hnothing trivial fun _ _ => hclosing

/-- A closing secures that the channel is closed. -/
theorem secures_closePort :
    (closePort : Program ε Unit).Secures sparing (fun w => w.channel.isOpen = false) w :=
  have hnothing : sparing.Spares fun _ => True := fun _ _ _ _ => trivial
  secures_exclusively hnothing trivial fun _ => secures_closeExclusively

/-- A channel that gets another address is closed before and opened after, unless it is closed. -/
theorem secures_setAddress (address : Option String) (hw : w.InOrder) :
    (setAddress address).Secures sparing World.InOrder w := by
  refine secures_act spares_inOrder hw fun {_ w wasOpen _} hw hcomes => ?_
  obtain ⟨_, hrun⟩ := hcomes.reply rfl
  cases hrun
  cases hopen : w.channel.isOpen with
  | true =>
    refine secures_closePort.bind spares_inOrder (fun _ => World.inOrder_of_closed) fun _ w hclosed => ?_
    refine secures_act (spares_isOpen false) hclosed fun hclosed hcomes => ?_
    exact secures_openPort (World.inOrder_of_closed ((hcomes.frame.isOpen nofun).trans hclosed))
  | false =>
    refine secures_act (spares_isOpen false) hopen fun hclosed hcomes => ?_
    exact secures_done spares_inOrder
      (World.inOrder_of_closed ((hcomes.frame.isOpen nofun).trans hclosed))

/-- A job secures what its program secures. -/
theorem secures_job {p : Program ε α} (hspares : sparing.Spares post) (h : p.Secures sparing post w)
    (failure : ε → Failure) (answer : α → Answer) :
    (p.job failure answer).Secures sparing post w :=
  (h.mapFailure failure).bind hspares (fun _ => id) fun _ _ hw => secures_done hspares hw

/-- No operation leaves an open channel that is not ready. -/
theorem secures_operation (operation : Loopback.Operation) (hw : w.InOrder) :
    operation.job.Secures sparing World.InOrder w := by
  have hclosed : ∀ {ε : Type}, (closePort : Program ε Unit).Secures sparing World.InOrder w :=
    secures_closePort.mono fun _ => World.inOrder_of_closed
  rcases operation.plain_or with hplain | rfl | rfl | ⟨address, rfl⟩ | rfl
  · exact secures_of_sparing (sparing_of_obeys hplain (operation.obeys [])) spares_inOrder hw
  · exact secures_job spares_inOrder (secures_openPort hw) _ _
  · exact secures_job spares_inOrder hclosed _ _
  · exact secures_job spares_inOrder (secures_setAddress address hw) _ _
  · exact secures_job spares_inOrder ((hclosed.mapFailure _).sheltered _) _ _

end Channel

end Loopback
