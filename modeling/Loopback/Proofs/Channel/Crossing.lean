import Loopback.Proofs.Channel.Sessions
import Loopback.Proofs.Machine.Concluding

/-!
# Moves that cross an opening

A channel is moved by looking whether it is open, closing it if it is, storing the address, and opening it
again. Openings and closings exclude one another, but the look and the storing stand outside of that. So the
diagnostics of an open channel are always those that the address asks for which its opening has read, while
another address may have been stored since: by a move that looked before the opening was done. And a move that
found the channel open finds it open again if another task has opened it in between.
-/

namespace Loopback

variable {ε α β : Type}

/-- What a task has learned of a channel since it entered or left an opening or closing: whether it is open,
what is attached for diagnostics, and the address. -/
structure Grasp where
  isOpen : Option Bool
  diagnostics : Option (Option Severity)
  address : Option String

namespace Grasp

/-- Nothing has been learned yet. -/
def empty : Grasp := ⟨none, none, none⟩

end Grasp

/-- What a task has learned after a deed. -/
def Deed.grasp (grasp : Grasp) : Deed → Grasp
  | ⟨.enterLifecycle, _⟩ | ⟨.leaveLifecycle, _⟩ => .empty
  | ⟨.getOpen, isOpen⟩ => { grasp with isOpen := some isOpen }
  | ⟨.setOpen isOpen, _⟩ => { grasp with isOpen := some isOpen }
  | ⟨.dropDiagnostics, _⟩ => { grasp with diagnostics := some none }
  | ⟨.attachDiagnostics level, _⟩ => { grasp with diagnostics := some level }
  | ⟨.getAddress, address⟩ => { grasp with address }
  | _ => grasp

/-- What a task has learned by its deeds. -/
def grasp (deeds : List Deed) : Grasp :=
  deeds.foldl Deed.grasp .empty

/-- What has been learned by one deed more. -/
@[simp] theorem grasp_concat (deeds : List Deed) (deed : Deed) :
    grasp (deeds ++ [deed]) = deed.grasp (grasp deeds) := by
  simp [grasp]

/-- What a task has last seen of whether the channel is open, after a deed. -/
def Deed.seenOpen (seen : Option Bool) : Deed → Option Bool
  | ⟨.getOpen, isOpen⟩ => some isOpen
  | ⟨.setOpen isOpen, _⟩ => some isOpen
  | _ => seen

/-- Whether a task has last seen the channel open, or made it so, if it has looked at all. -/
def seenOpen (deeds : List Deed) : Option Bool :=
  deeds.foldl Deed.seenOpen none

/-- What has last been seen after one deed more. -/
@[simp] theorem seenOpen_concat (deeds : List Deed) (deed : Deed) :
    seenOpen (deeds ++ [deed]) = deed.seenOpen (seenOpen deeds) := by
  simp [seenOpen]

/-- Whether an action asks for the address. -/
def Action.asksAddress : Action → Bool
  | .getAddress => true
  | _ => false

/-- Whether a task has asked for the address. -/
def askedAddress (deeds : List Deed) : Bool :=
  deeds.any fun deed => deed.action.asksAddress

/-- Whether the address has been asked for after one deed more. -/
@[simp] theorem askedAddress_concat (deeds : List Deed) (deed : Deed) :
    askedAddress (deeds ++ [deed]) = (askedAddress deeds || deed.action.asksAddress) := by
  simp [askedAddress]

/-- That a task saw the channel closed, and later open though it had not opened it. -/
def Startled (deeds : List Deed) : Prop :=
  ∃ before after, deeds = before ++ ⟨.getOpen, true⟩ :: after ∧ seenOpen before = some false

/-- A task that has been startled stays so. -/
theorem Startled.append {deeds : List Deed} (h : Startled deeds) (more : List Deed) :
    Startled (deeds ++ more) := by
  obtain ⟨before, after, rfl, hclosed⟩ := h
  exact ⟨before, after ++ more, by simp, hclosed⟩

/-- Diagnostics are dropped and attached only within an opening that found the channel closed, a channel is
opened only with the diagnostics that the address asks for which was read, and an address is stored only by who
has last seen the channel closed, and has read none. -/
def considerate : Rule := fun seen action =>
  match action with
  | .dropDiagnostics | .attachDiagnostics _ => excluding seen = true ∧ (grasp seen).isOpen = some false
  | .setOpen true => ∃ text address, (grasp seen).address = some text ∧ Address.parse text = .ok address ∧
      (grasp seen).diagnostics = some address.logging
  | .setAddress _ => seenOpen seen = some false ∧ askedAddress seen = false
  | _ => True

/-- A check that succeeds however its failure is told succeeds. -/
theorem ok_of_mapError {check : Except ε α} {f : ε → β} {result : α} (h : check.mapError f = .ok result) :
    check = .ok result := by
  cases check with
  | ok => exact congrArg Except.ok (Except.ok.inj h)
  | error => cases h

/-- Actions that tell a task nothing about whether the channel is open, its diagnostics or its address, and
change none of these. -/
def Action.Aside : Action → Prop
  | .getOpen | .setOpen _ | .getAddress | .setAddress _ => False
  | .dropDiagnostics | .attachDiagnostics _ | .enterLifecycle | .leaveLifecycle => False
  | _ => True

/-- A closing does not open the channel. -/
theorem Kind.not_opens_closing : ¬Kind.Opens .closing := by
  simp [Opens]

namespace Program

variable {seen : List Deed}

/-- What a program does aside leaves what was learned before. -/
theorem Obeys.aside {p q : Program ε α} {deeds : List Deed} (h : p.Obeys (.always Action.Aside) [])
    (hleads : p.Leads deeds q) (seen : List Deed) :
    grasp (seen ++ deeds) = grasp seen ∧ excluding (seen ++ deeds) = excluding seen := by
  induction hleads generalizing seen with
  | refl => simp
  | @act action next answer deeds q _ ih =>
    obtain ⟨haside, hnext⟩ := obeys_act.1 h
    obtain ⟨hgrasp, hexcluding⟩ := ih (hnext answer) (seen ++ [⟨action, answer⟩])
    rw [List.append_cons, hgrasp, hexcluding, grasp_concat, excluding_concat]
    cases action <;> first | exact haside.elim | exact ⟨rfl, rfl⟩

/-- What does not open or move the channel drops and attaches nothing, and stores no address. -/
theorem considerate_of_obeys {kind : Kind} (hopens : ¬kind.Opens) {p : Program ε α}
    (h : p.Obeys kind.rule seen) : p.Obeys considerate seen := by
  refine h.mono fun seen action hrule => ?_
  cases action with
  | setOpen isOpen =>
    cases isOpen with
    | true => exact absurd hrule.1 hopens
    | false => trivial
  | dropDiagnostics | attachDiagnostics => exact absurd hrule.1 hopens
  | setAddress => exact absurd (.inr hrule.1) hopens
  | _ => trivial

end Program

namespace Channel

open Program

variable {seen : List Deed}

/-- The checks of the settings are all done aside. -/
theorem aside_reconfigure : reconfigure.Obeys (.always Action.Aside) [] :=
  obeys_act.2 ⟨trivial, fun _ => obeys_ofExcept.bind fun _ _ => obeys_perform trivial⟩

/-- An opening attaches what the address asks for that it has read itself. -/
theorem considerate_openPort : openPort.Obeys considerate seen := by
  refine obeys_act.2 ⟨trivial, fun _ => Obeys.thenAlways ?_ fun _ => trivial⟩
  refine obeys_act.2 ⟨trivial, fun isOpen => ?_⟩
  cases isOpen with
  | true => exact obeys_fail
  | false =>
    refine obeys_act.2 ⟨⟨by rw [excluding_concat, excluding_concat]; rfl, by rw [grasp_concat]; rfl⟩, fun _ => ?_⟩
    refine obeys_act.2 ⟨trivial, fun address => ?_⟩
    cases address with
    | none => exact obeys_fail
    | some text =>
      refine obeys_ofExcept_bind fun address hparse => ?_
      refine obeys_act.2 ⟨⟨?_, ?_⟩, fun _ => ?_⟩
      · simp only [excluding_concat]
        rfl
      · simp only [grasp_concat]
        rfl
      refine obeys_bind (p := reconfigure) (considerate_of_obeys Kind.plain_looking.1 obeys_reconfigure)
        fun deeds _ hleads => ?_
      obtain ⟨hgrasp, -⟩ := aside_reconfigure.aside hleads _
      refine obeys_act.2 ⟨trivial, fun traits => ?_⟩
      dsimp only [Program.bind]
      split
      · refine obeys_act.2 ⟨trivial, fun _ => obeys_act.2 ⟨⟨text, address, ?_, ?_, ?_⟩, fun _ => ?_⟩⟩
        · rw [grasp_concat, grasp_concat, hgrasp]
          simp only [grasp_concat]
          rfl
        · exact ok_of_mapError hparse
        · rw [grasp_concat, grasp_concat, hgrasp]
          simp only [grasp_concat]
          rfl
        · exact considerate_of_obeys Kind.plain_resetting.1 (obeys_afterOpening (.inl rfl) _)
      · exact obeys_abort

/-- A closing leaves its task having seen the channel closed, and does not ask for the address. -/
theorem concludes_closePort (hseen : askedAddress seen = false) : (closePort : Program ε Unit).Concludes
    (fun deeds outcome => outcome = .ok () ∧ seenOpen deeds = some false ∧ askedAddress deeds = false) seen := by
  have hclosing : ∀ more, askedAddress more = false → (do
      .perform (.setOpen false)
      Program.note .info "close()"
      let traits ← Program.getTraits
      .perform (.report (closedEvent traits.closeSettle))
      Program.sleep traits.closeSettle : Program ε Unit).Concludes (fun deeds outcome =>
        ∀ answer, outcome = .ok () ∧ seenOpen (deeds ++ [⟨.leaveLifecycle, answer⟩]) = some false ∧
          askedAddress (deeds ++ [⟨.leaveLifecycle, answer⟩]) = false) more := by
    intro more hmore _ _ _ _ _ _ _
    refine ⟨rfl, ?_, ?_⟩
    · simp only [seenOpen_concat]
      rfl
    · simp only [askedAddress_concat, hmore]
      rfl
  refine concludes_exclusively fun _ isOpen => ?_
  cases isOpen with
  | false =>
    refine fun _ => ⟨rfl, ?_, ?_⟩
    · simp only [seenOpen_concat]
      rfl
    · simp only [askedAddress_concat, hseen]
      rfl
  | true =>
    intro current
    cases current with
    | none => exact hclosing _ (by simp only [askedAddress_concat, hseen]; rfl)
    | some session => exact fun _ => hclosing _ (by simp only [askedAddress_concat, hseen]; rfl)

/-- A moving stores the address after it has seen the channel closed. -/
theorem considerate_setAddress (address : Option String) : (setAddress address).Obeys considerate [] := by
  refine obeys_act.2 ⟨trivial, fun wasOpen => ?_⟩
  cases wasOpen with
  | false => exact obeys_perform ⟨rfl, rfl⟩
  | true =>
    have hclosing : (closePort : Operation Unit).Obeys Kind.closing.rule [⟨.getOpen, true⟩] :=
      obeys_closePort (.inl rfl)
    have hconcludes : (closePort : Operation Unit).Concludes _ [⟨.getOpen, true⟩] := concludes_closePort rfl
    refine obeys_bind (p := closePort) (considerate_of_obeys Kind.not_opens_closing hclosing)
      fun deeds result hleads => ?_
    obtain ⟨-, hclosed, hunasked⟩ := (hconcludes.leads hleads).ended rfl
    exact obeys_act.2 ⟨⟨hclosed, hunasked⟩, fun _ => considerate_openPort⟩

/-- Checking the settings fails only because of the baud rate. -/
theorem concludes_reconfigure :
    reconfigure.Concludes (fun _ outcome => outcome ≠ .failed .alreadyOpen) seen := by
  refine fun settings => concludes_ofExcept_bind (fun _ _ _ => nofun) fun failure hcheck => ?_
  unfold checkBaudRate at hcheck
  split at hcheck <;> cases hcheck
  exact nofun

/-- Emptying a buffer fails only if the channel is closed. -/
theorem concludes_reset (message : String) :
    (do
      let session ← liveSession
      Program.note .info message
      let _ ← QueueCall.clear session
      pure () : Operation Unit).Concludes (fun _ outcome => outcome ≠ .failed .alreadyOpen) seen := by
  intro isOpen
  cases isOpen with
  | false => exact nofun
  | true =>
    intro current
    cases current with
    | none => exact nofun
    | some session => exact fun _ _ => nofun

/-- Once the channel is open, nothing fails because it is. -/
theorem concludes_afterOpening (event : Event) :
    (do
      setDataTerminalReady false
      setRequestToSend false
      resetInput
      resetOutput
      .perform (.report event) : Operation Unit).Concludes
        (fun _ outcome => outcome ≠ .failed .alreadyOpen) seen := by
  intro _ _ _ _
  refine Concludes.bind (p := resetInput) (concludes_reset _) (fun _ _ _ => ?_) (fun _ _ h => h) fun _ _ h => h
  refine Concludes.bind (p := resetOutput) (concludes_reset _) (fun _ _ _ => ?_) (fun _ _ h => h) fun _ _ h => h
  exact fun _ => nofun

/-- An opening that fails because the channel is open was answered that it is. -/
theorem concludes_openPort (hseen : seenOpen seen = some false) : openPort.Concludes
    (fun deeds outcome => outcome = .failed .alreadyOpen → Startled deeds) seen := by
  refine concludes_exclusively fun _ isOpen => ?_
  cases isOpen with
  | true =>
    refine fun _ _ => ⟨_, [_], List.append_assoc .., ?_⟩
    rw [seenOpen_concat, hseen]
    rfl
  | false =>
    refine Concludes.mono ?_ fun _ _ hnot _ heq => absurd heq hnot
    refine fun _ address => ?_
    cases address with
    | none => exact nofun
    | some text =>
      refine concludes_ofExcept_bind (fun address _ => ?_) fun failure hcheck => ?_
      · intro _
        refine Concludes.bind (p := reconfigure) concludes_reconfigure (fun _ _ _ traits => ?_) (fun _ _ h => h)
          fun _ _ h => h
        dsimp only [Program.bind]
        split
        · exact fun _ _ => concludes_afterOpening _
        · exact nofun
      · cases hparse : Address.parse text with
        | ok => rw [hparse] at hcheck; cases hcheck
        | error error =>
          rw [hparse] at hcheck
          cases hcheck
          cases error <;> exact nofun

/-- A moving that fails because the channel is open has been startled. -/
theorem concludes_setAddress (address : Option String) : (setAddress address).Concludes
    (fun deeds outcome => outcome = .failed .alreadyOpen → Startled deeds) [] := by
  intro wasOpen
  cases wasOpen with
  | false => exact fun _ => nofun
  | true =>
    refine Concludes.bind (p := closePort) (concludes_closePort rfl) (fun deeds _ hclosed _ => ?_)
      (fun _ _ h => nomatch h.1) fun _ _ h => nomatch h.1
    refine concludes_openPort ?_
    rw [seenOpen_concat, hclosed.2.1]
    rfl

end Channel

namespace Program

/-- What does not move the channel stores no address. -/
theorem stores_of_obeys {seen : List Deed} {kind : Kind} (hkind : kind ≠ .moving) {p : Program ε α}
    (h : p.Obeys kind.rule seen) (address : Option String) :
    p.Obeys (.always fun action => ∀ other, action = .setAddress other → other = address) seen := by
  refine h.mono fun seen action hrule other hstores => ?_
  subst hstores
  exact absurd hrule.1 hkind

end Program

/-- A moving stores no address but its own. -/
theorem Channel.stores_setAddress {seen : List Deed} (address : Option String) : (setAddress address).Obeys
    (.always fun action => ∀ other, action = .setAddress other → other = address) seen := by
  refine Program.obeys_act.2 ⟨nofun, fun wasOpen => ?_⟩
  cases wasOpen with
  | false => exact Program.obeys_perform fun _ hsame => (Action.setAddress.inj hsame).symm
  | true =>
    refine Program.Obeys.bind (p := closePort)
      (Program.stores_of_obeys (show Kind.closing ≠ .moving from nofun) (obeys_closePort (.inl rfl)) address)
      fun _ _ => ?_
    refine Program.obeys_act.2 ⟨fun _ hsame => (Action.setAddress.inj hsame).symm, fun _ => ?_⟩
    exact Program.stores_of_obeys (show Kind.opening ≠ .moving from nofun) (obeys_openPort (.inl rfl)) address

/-- Every operation is considerate of others that open the channel. -/
theorem Operation.considerate (operation : Operation) : operation.job.Obeys considerate [] := by
  rcases operation.plain_or with hplain | rfl | rfl | ⟨address, rfl⟩ | rfl
  · exact Program.considerate_of_obeys hplain.1 (operation.obeys [])
  · exact Channel.considerate_openPort.job ..
  · exact Program.considerate_of_obeys Kind.not_opens_closing (Operation.obeys (.channel .closePort) [])
  · exact (Channel.considerate_setAddress address).job ..
  · exact Program.considerate_of_obeys Kind.not_opens_closing (Operation.obeys (.background .close) [])

/-- What a turn makes of the address. -/
def Turn.storing (address : Option String) (turn : Turn) : Option String :=
  match turn.deed with
  | ⟨.setAddress stored, _⟩ => stored
  | _ => address

/-- The address after a history, from what it was before. -/
def stored (address : Option String) (turns : List Turn) : Option String :=
  turns.foldl Turn.storing address

/-- What has been stored by earlier turns and then by later ones. -/
@[simp] theorem stored_append (address : Option String) (turns later : List Turn) :
    stored address (turns ++ later) = stored (stored address turns) later := by
  simp [stored]

/-- What has been stored by one turn and then by later ones. -/
@[simp] theorem stored_cons (address : Option String) (turn : Turn) (later : List Turn) :
    stored address (turn :: later) = stored (turn.storing address) later := rfl

/-- The opening of an open channel: one task has read an address, and has opened the channel as that asks for.
Nobody has closed or opened the channel since then. -/
structure Opening where
  before : List Turn
  reading : Turn
  between : List Turn
  opened : Turn
  after : List Turn
  text : String
  address : Address
  same : reading.task = opened.task
  read : reading.deed = ⟨.getAddress, some text⟩
  set : opened.deed = ⟨.setOpen true, ()⟩
  last : ∀ turn ∈ after, ∀ isOpen, turn.deed.action ≠ .setOpen isOpen
  parses : Address.parse text = .ok address

namespace Opening

/-- What was done until the channel was opened. -/
def earlier (o : Opening) : List Turn :=
  o.before ++ o.reading :: o.between

/-- What was done since the address was read. -/
def since (o : Opening) : List Turn :=
  o.between ++ o.opened :: o.after

/-- All that was done. -/
def turns (o : Opening) : List Turn :=
  o.earlier ++ o.opened :: o.after

/-- The turns of an opening are those before its reading of the address, that one, and those since. -/
theorem turns_eq (o : Opening) : o.turns = o.before ++ o.reading :: o.since := by
  simp [turns, earlier, since]

/-- The opening of a channel that is open after one more turn. -/
def extend (o : Opening) (turn : Turn) (h : ∀ isOpen, turn.deed.action ≠ .setOpen isOpen) : Opening where
  __ := o
  after := o.after ++ [turn]
  last := by
    simp only [List.forall_mem_append, List.forall_mem_singleton]
    exact ⟨o.last, h⟩

/-- An opening that is extended by a turn has one turn more. -/
@[simp] theorem turns_extend (o : Opening) (turn : Turn) (h : ∀ isOpen, turn.deed.action ≠ .setOpen isOpen) :
    (o.extend turn h).turns = o.turns ++ [turn] := by
  simp [turns, extend, earlier]

end Opening

/-- What is known of the channel is so. -/
structure Grasp.Sound (grasp : Grasp) (c : Channel) : Prop where
  isOpen : ∀ isOpen, grasp.isOpen = some isOpen → c.isOpen = isOpen
  diagnostics : ∀ level, grasp.diagnostics = some level → c.diagnostics = level

/-- An address that is known was asked for. -/
theorem mem_of_grasp {deeds : List Deed} {text : String} (h : (grasp deeds).address = some text) :
    ⟨.getAddress, some text⟩ ∈ deeds := by
  suffices hmem : ∀ known, (deeds.foldl Deed.grasp known).address = some text →
      known.address = some text ∨ ⟨.getAddress, some text⟩ ∈ deeds from (hmem .empty h).resolve_left nofun
  clear h
  induction deeds with
  | nil => exact fun _ h => .inl h
  | cons deed rest ih =>
    intro known h
    rcases ih (deed.grasp known) h with h | hmem
    · obtain ⟨action, answer⟩ := deed
      cases action with
      | getAddress =>
        obtain rfl : answer = some text := h
        exact .inr List.mem_cons_self
      | enterLifecycle | leaveLifecycle => cases h
      | _ => exact .inl h
    · exact .inr (List.mem_cons_of_mem _ hmem)

namespace Action

variable {task : Nat} {w w' : World}

/-- Once diagnostics are dropped, none are attached. -/
theorem Comes.diagnostics_of_drop {answer : Unit} (h : Action.dropDiagnostics.Comes task w answer w') :
    w'.channel.diagnostics = none := by
  cases h with
  | replied hrun =>
    cases hrun
    rfl
  | gaveUp hrun => cases hrun

/-- What is attached for diagnostics is there after that. -/
theorem Comes.diagnostics_of_attach {level : Option Severity} {answer : Unit}
    (h : (Action.attachDiagnostics level).Comes task w answer w') : w'.channel.diagnostics = level := by
  cases h with
  | replied hrun =>
    cases hrun
    rfl
  | gaveUp hrun => cases hrun

/-- The address that is read is the one that is stored. -/
theorem Comes.address {answer : Option String} (h : Action.getAddress.Comes task w answer w') :
    answer = w.channel.address := by
  cases h with
  | replied hrun =>
    cases hrun
    rfl
  | gaveUp hrun => cases hrun

/-- The address that is set is there after that. -/
theorem Comes.address_of_set {address : Option String} {answer : Unit}
    (h : (Action.setAddress address).Comes task w answer w') : w'.channel.address = address := by
  cases h with
  | replied hrun =>
    cases hrun
    rfl
  | gaveUp hrun => cases hrun

end Action

section knowing

variable {task : Nat} {w w' : World} {action : Action} {answer : action.Reply} {known : Grasp}

/-- What a task knows stays so with what it does itself. -/
theorem Grasp.Sound.deed (h : known.Sound w.channel) (hcomes : action.Comes task w answer w') :
    (Deed.grasp known ⟨action, answer⟩).Sound w'.channel := by
  have hframe := hcomes.frame
  cases action with
  | enterLifecycle | leaveLifecycle => exact ⟨nofun, nofun⟩
  | getOpen =>
    refine ⟨fun _ hknown => ?_, fun _ hlevel => (hframe.diagnostics nofun nofun).trans (h.diagnostics _ hlevel)⟩
    rw [hframe.isOpen nofun, ← hcomes.isOpen]
    exact Option.some.inj hknown
  | setOpen isOpen =>
    refine ⟨fun _ hknown => ?_, fun _ hlevel => (hframe.diagnostics nofun nofun).trans (h.diagnostics _ hlevel)⟩
    exact hcomes.isOpen_of_set.trans (Option.some.inj hknown)
  | dropDiagnostics =>
    refine ⟨fun _ hknown => (hframe.isOpen nofun).trans (h.isOpen _ hknown), fun level hlevel => ?_⟩
    exact hcomes.diagnostics_of_drop.trans (Option.some.inj hlevel)
  | attachDiagnostics =>
    refine ⟨fun _ hknown => (hframe.isOpen nofun).trans (h.isOpen _ hknown), fun level hlevel => ?_⟩
    exact hcomes.diagnostics_of_attach.trans (Option.some.inj hlevel)
  | _ =>
    exact ⟨fun _ hknown => (hframe.isOpen nofun).trans (h.isOpen _ hknown),
      fun _ hlevel => (hframe.diagnostics nofun nofun).trans (h.diagnostics _ hlevel)⟩

/-- What a task knows while it keeps others out stays so with what the others do. -/
theorem Grasp.Sound.beside {seen : List Deed} (h : known.Sound w.channel) (hcomes : action.Comes task w answer w')
    (hexclusive : exclusive seen action) (hconsiderate : considerate seen action)
    (hfree : excluding seen ≠ true) : known.Sound w'.channel := by
  have hframe := hcomes.frame
  have hopen : ∀ isOpen, action ≠ .setOpen isOpen := by
    rintro isOpen rfl
    exact hfree hexclusive
  have hdrop : action ≠ .dropDiagnostics := by
    rintro rfl
    exact hfree hconsiderate.1
  have hattach : ∀ level, action ≠ .attachDiagnostics level := by
    rintro level rfl
    exact hfree hconsiderate.1
  exact ⟨fun _ hknown => (hframe.isOpen hopen).trans (h.isOpen _ hknown),
    fun _ hlevel => (hframe.diagnostics hdrop hattach).trans (h.diagnostics _ hlevel)⟩

end knowing

namespace Machine

variable {ε α : Type} {start m : Machine ε α} {moves : List Move} {turns : List Turn}

/-- The address is as it was stored last. -/
theorem Run.address_eq (hrun : Run start moves turns m) :
    m.world.channel.address = stored start.world.channel.address turns := by
  refine hrun.history (fun turns w => w.channel.address = stored start.world.channel.address turns) rfl
    (fun _ h => h) fun {_ turns m m' _ task action answer} _ _ hcomes h => ?_
  rw [stored_append, ← h]
  cases action with
  | setAddress => exact hcomes.address_of_set
  | _ => exact hcomes.frame.address nofun

/-- Since it was read, the address is as it was stored last. -/
theorem Run.address_since {before since : List Turn} {reading : Turn} {address : Option String}
    (hrun : Run start moves (before ++ reading :: since) m) (hread : reading.deed = ⟨.getAddress, address⟩) :
    m.world.channel.address = stored address since := by
  obtain ⟨task, deed, w, w'⟩ := reading
  obtain rfl : deed = ⟨.getAddress, address⟩ := hread
  obtain ⟨_, m₁, _, hearlier, hcomes⟩ := hrun.meets
  have haddress : address = m₁.world.channel.address := hcomes.address
  rw [hrun.address_eq, stored_append, ← hearlier.address_eq, ← haddress]
  rfl

section considerate

variable (hexclusive : ∀ task p, start.programOf? task = some p → p.Obeys exclusive [])
  (hconsiderate : ∀ task p, start.programOf? task = some p → p.Obeys considerate [])

include hexclusive hconsiderate

/-- What a task knows while it keeps others out is so. -/
theorem Run.grasp_sound (hrun : Run start moves turns m) {task : Nat}
    (hexcluding : excluding (deedsOf task turns) = true) : (grasp (deedsOf task turns)).Sound m.world.channel := by
  refine hrun.history (fun turns w => ∀ task, excluding (deedsOf task turns) = true →
    (grasp (deedsOf task turns)).Sound w.channel) ?_ (fun _ h => h) ?_ task hexcluding
  · intro task hexcluding
    cases hexcluding
  · intro _ turns m m' _ actor action answer hrun hchange hcomes h task hexcluding
    rw [deedsOf_append, deedsOf_singleton] at hexcluding ⊢
    split at hexcluding
    next hown =>
      obtain rfl : actor = task := hown
      rw [if_pos rfl, grasp_concat]
      rw [excluding_concat] at hexcluding
      cases action with
      | enterLifecycle => exact ⟨nofun, nofun⟩
      | leaveLifecycle => cases hexcluding
      | _ => exact (h actor hexcluding).deed hcomes
    next hother =>
      rw [if_neg hother, List.append_nil]
      rw [List.append_nil] at hexcluding
      refine (h task hexcluding).beside hcomes (hrun.next_obeys hchange (hexclusive actor))
        (hrun.next_obeys hchange (hconsiderate actor)) fun hactor => ?_
      obtain ⟨holder, hheld⟩ := hrun.excluded hexclusive
      have hholder := ((hheld.excluding_iff actor).1 hactor).symm.trans ((hheld.excluding_iff task).1 hexcluding)
      exact hother (Option.some.inj hholder)

/-- Of an open channel that was closed at first, the opening is known, and the diagnostics are those that it
attached. -/
theorem Run.opening (hrun : Run start moves turns m) (hstart : start.world.channel.isOpen = false)
    (hopen : m.world.channel.isOpen = true) :
    ∃ o : Opening, o.turns = turns ∧ m.world.channel.diagnostics = o.address.logging := by
  refine hrun.history (fun turns w => w.channel.isOpen = true →
    ∃ o : Opening, o.turns = turns ∧ w.channel.diagnostics = o.address.logging) ?_ (fun _ h => h) ?_ hopen
  · intro hopen
    exact absurd (hopen.symm.trans hstart) nofun
  · intro moves turns m m' move task action answer hrun hchange hcomes h hopen
    have hrule := hrun.next_obeys hchange (hconsiderate task)
    have hkept := hrun.next_obeys hchange (hexclusive task)
    have hframe := hcomes.frame
    have hclosed : excluding (deedsOf task turns) = true ∧ (grasp (deedsOf task turns)).isOpen = some false →
        m.world.channel.isOpen = false :=
      fun hlooked => (hrun.grasp_sound hexclusive hconsiderate hlooked.1).isOpen _ hlooked.2
    -- Only an opening makes the channel open, and the diagnostics change only while it is closed.
    cases action with
    | setOpen isOpen =>
      obtain rfl : isOpen = true := hcomes.isOpen_of_set.symm.trans hopen
      obtain ⟨text, address, haddress, hparse, hdiagnostics⟩ := hrule
      have hsound := hrun.grasp_sound hexclusive hconsiderate hkept
      obtain ⟨before, reading, between, hturns, hown, hread⟩ := exists_turn_of_mem_deedsOf (mem_of_grasp haddress)
      let opened : Turn := ⟨task, ⟨.setOpen true, answer⟩, m.world, m'.world⟩
      refine ⟨⟨before, reading, between, opened, [], text, address, hown, hread, rfl, by simp, hparse⟩, ?_, ?_⟩
      · rw [hturns]
        rfl
      · exact (hframe.diagnostics nofun nofun).trans (hsound.diagnostics _ hdiagnostics)
    | dropDiagnostics | attachDiagnostics =>
      rw [hframe.isOpen nofun, hclosed hrule] at hopen
      cases hopen
    | _ =>
      rw [hframe.isOpen nofun] at hopen
      obtain ⟨o, rfl, hdiagnostics⟩ := h hopen
      exact ⟨o.extend ⟨task, ⟨_, answer⟩, m.world, m'.world⟩ fun _ => nofun, o.turns_extend _ _,
        (hframe.diagnostics nofun nofun).trans hdiagnostics⟩

end considerate

/-- A turn is seen by the task that takes it, and by no other. -/
theorem seenOpen_turn (turns : List Turn) (turn : Turn) (task : Nat) :
    seenOpen (deedsOf task (turns ++ [turn])) =
      if turn.task = task then turn.deed.seenOpen (seenOpen (deedsOf task turns))
      else seenOpen (deedsOf task turns) := by
  rw [deedsOf_append, deedsOf_singleton]
  split <;> simp

/-- Since it was opened the channel is open, and whoever has last seen it closed had seen that before, and is not
who opened it. -/
theorem Run.open_since (hrun : Run start moves turns m) {before after : List Turn} {opened : Turn}
    (hturns : turns = before ++ opened :: after) (hset : opened.deed = ⟨.setOpen true, ()⟩)
    (hlast : ∀ turn ∈ after, ∀ isOpen, turn.deed.action ≠ .setOpen isOpen) :
    m.world.channel.isOpen = true ∧ ∀ task, seenOpen (deedsOf task turns) = some false →
      opened.task ≠ task ∧ seenOpen (deedsOf task before) = some false := by
  -- By induction on the run, for every opening in it, because the induction takes the last turn away.
  refine hrun.history (fun turns w => ∀ (before after : List Turn) (opened : Turn),
    turns = before ++ opened :: after → opened.deed = ⟨.setOpen true, ()⟩ →
    (∀ turn ∈ after, ∀ isOpen, turn.deed.action ≠ .setOpen isOpen) →
    w.channel.isOpen = true ∧ ∀ task, seenOpen (deedsOf task turns) = some false →
      opened.task ≠ task ∧ seenOpen (deedsOf task before) = some false) ?_ (fun _ h => h) ?_
    before after opened hturns hset hlast
  · intro before after opened hturns
    simp at hturns
  · intro _ turns m m' _ actor action answer _ _ hcomes h before after opened hturns hset hlast
    simp only [seenOpen_turn]
    rcases List.eq_nil_or_concat after with rfl | ⟨more, final, rfl⟩
    · obtain ⟨rfl, hnew⟩ := List.append_inj' hturns rfl
      obtain rfl := List.singleton_inj.1 hnew
      cases hset
      refine ⟨hcomes.isOpen_of_set, fun task hclosed => ?_⟩
      split at hclosed
      · cases hclosed
      next hother => exact ⟨hother, hclosed⟩
    · rw [List.concat_eq_append, ← List.cons_append, ← List.append_assoc] at hturns
      obtain ⟨hmore, hnew⟩ := List.append_inj' hturns rfl
      obtain rfl := List.singleton_inj.1 hnew
      rw [List.concat_eq_append, List.forall_mem_append, List.forall_mem_singleton] at hlast
      obtain ⟨hopen, hbefore⟩ := h before more opened hmore hset hlast.1
      refine ⟨(hcomes.frame.isOpen hlast.2).trans hopen, fun task hclosed => ?_⟩
      split at hclosed
      next hown =>
        obtain rfl : actor = task := hown
        cases action with
        | getOpen => cases (hcomes.isOpen.trans hopen).symm.trans (Option.some.inj hclosed)
        | setOpen isOpen => exact absurd rfl (hlast.2 isOpen)
        | _ => exact hbefore actor hclosed
      next => exact hbefore task hclosed

section sharing

variable {builder : Builder} {operations : List Operation} {m : Machine Failure Answer}

/-- Every job of a shared channel excludes others from its lifecycle, and is considerate. -/
theorem Run.exclusive_sharing {task : Nat} {p : Job} (hp : (sharing builder operations).programOf? task = some p) :
    p.Obeys exclusive [] ∧ p.Obeys considerate [] := by
  obtain ⟨operation, -, rfl⟩ := programOf?_sharing.1 hp
  exact ⟨operation.exclusive, operation.considerate⟩

/-- An address is stored only by an operation that moves the channel there. -/
theorem Run.moves_of_stored {before after : List Turn} {turn : Turn}
    (hrun : Run (sharing builder operations) moves (before ++ turn :: after) m) {address : Option String}
    (hstored : turn.deed.action = .setAddress address) :
    operations[turn.task]? = some (.channel (.setAddress address)) := by
  obtain ⟨operation, hoperation, hmay, -⟩ := hrun.rule
  rw [hstored] at hmay
  have hmoving : operation.kind = .moving := hmay
  rcases operation.plain_or with hplain | rfl | rfl | ⟨own, rfl⟩ | rfl
  · exact absurd (.inr hmoving) hplain.1
  · cases hmoving
  · cases hmoving
  · have hobeys : ∀ p, (sharing builder operations).programOf? turn.task = some p →
        p.Obeys (.always fun action => ∀ other, action = .setAddress other → other = own) [] := by
      intro p hp
      obtain ⟨operation, hstart, rfl⟩ := programOf?_sharing.1 hp
      obtain rfl := Option.some.inj (hoperation.symm.trans hstart)
      exact (Channel.stores_setAddress own).job ..
    rw [hoperation, hrun.obeys hobeys address hstored]
  · cases hmoving

/-- Whoever stores an address has last seen the channel closed, and has not asked for the address. -/
theorem Run.seenOpen_of_stored {before after : List Turn} {turn : Turn}
    (hrun : Run (sharing builder operations) moves (before ++ turn :: after) m) {address : Option String}
    (hstored : turn.deed.action = .setAddress address) :
    seenOpen (deedsOf turn.task before) = some false ∧ askedAddress (deedsOf turn.task before) = false := by
  have hrule := hrun.obeys fun p hp => (exclusive_sharing hp).2
  rwa [hstored] at hrule

/-- Whoever has read the address stores none. -/
theorem Run.ne_of_read {before between after : List Turn} {reading turn : Turn} {text : Option String}
    (hrun : Run (sharing builder operations) moves ((before ++ reading :: between) ++ turn :: after) m)
    (hread : reading.deed = ⟨.getAddress, text⟩) {address : Option String}
    (hstored : turn.deed.action = .setAddress address) : turn.task ≠ reading.task := by
  intro hsame
  have hmem : reading.deed ∈ deedsOf reading.task (before ++ reading :: between) := mem_deedsOf_of_mem (by simp)
  have hunasked := (hrun.seenOpen_of_stored hstored).2
  rw [hread] at hmem
  rw [hsame] at hunasked
  exact List.any_eq_false.1 hunasked _ hmem rfl

/-- Of an open channel the opening is known. -/
theorem Run.opening_sharing (hrun : Run (sharing builder operations) moves turns m)
    (hopen : m.world.channel.isOpen = true) :
    ∃ o : Opening, o.turns = turns ∧ m.world.channel.diagnostics = o.address.logging :=
  hrun.opening (fun _ _ hp => (exclusive_sharing hp).1) (fun _ _ hp => (exclusive_sharing hp).2) rfl hopen

/-- Whoever stores an address in an open channel had last seen it closed before it was opened. -/
theorem Run.seenOpen_of_stored_since {before between after : List Turn} {opened turn : Turn}
    (hrun : Run (sharing builder operations) moves (before ++ opened :: (between ++ turn :: after)) m)
    (hset : opened.deed = ⟨.setOpen true, ()⟩)
    (hlast : ∀ turn ∈ between, ∀ isOpen, turn.deed.action ≠ .setOpen isOpen) {address : Option String}
    (hstored : turn.deed.action = .setAddress address) :
    seenOpen (deedsOf turn.task before) = some false := by
  rw [← List.cons_append, ← List.append_assoc] at hrun
  obtain ⟨_, m₁, _, _, hearlier, -⟩ := hrun.cut rfl
  exact ((hearlier.open_since rfl hset hlast).2 _ (hrun.seenOpen_of_stored hstored).1).2

/-- A task that saw the channel closed and then open, though it had not opened it, has met an opening by another
task, before which it had last seen the channel closed. -/
theorem Run.met_of_startled (hrun : Run (sharing builder operations) moves turns m) {task : Nat}
    (hstartled : Startled (deedsOf task turns)) :
    ∃ (o : Opening) (look : Turn) (later : List Turn), turns = o.turns ++ look :: later ∧ look.task = task ∧
      look.deed = ⟨.getOpen, true⟩ ∧ o.opened.task ≠ task ∧ seenOpen (deedsOf task o.earlier) = some false := by
  obtain ⟨before, after, hdeeds, hclosed⟩ := hstartled
  obtain ⟨earlier, ⟨_, _, _, _⟩, later, rfl, rfl, rfl, rfl⟩ := exists_turn_of_deedsOf hdeeds
  obtain ⟨_, m₁, _, hearlier, hcomes⟩ := hrun.meets
  obtain ⟨o, rfl, -⟩ := hearlier.opening_sharing hcomes.isOpen.symm
  exact ⟨o, _, later, rfl, rfl, rfl, (hearlier.open_since rfl o.set o.last).2 _ hclosed⟩

/-- The diagnostics of an open channel are those that the address asks for which its opening has read. Another
address is stored since then only by other tasks, which move the channel there, and once it is open only by such
of them as had last seen it closed before. And a moving fails because the channel is open only where another task
has opened it after this one had last seen it closed. -/
theorem Run.opened_as_read (hrun : Run (sharing builder operations) moves turns m) :
    (m.world.channel.isOpen = true → ∃ o : Opening, o.turns = turns ∧
      m.world.channel.diagnostics = o.address.logging ∧
      m.world.channel.address = stored (some o.text) o.since ∧
      (∀ turn ∈ o.since, ∀ address, turn.deed.action = .setAddress address →
        turn.task ≠ o.opened.task ∧ operations[turn.task]? = some (.channel (.setAddress address))) ∧
      ∀ turn ∈ o.after, ∀ address, turn.deed.action = .setAddress address →
        seenOpen (deedsOf turn.task o.earlier) = some false) ∧
    ∀ task address, operations[task]? = some (.channel (.setAddress address)) →
      m.outcomeOf? task = some (.failed (.port .alreadyOpen)) →
      ∃ (o : Opening) (look : Turn) (later : List Turn), turns = o.turns ++ look :: later ∧ look.task = task ∧
        look.deed = ⟨.getOpen, true⟩ ∧ o.opened.task ≠ task ∧ seenOpen (deedsOf task o.earlier) = some false := by
  refine ⟨fun hopen => ?_, fun task address hoperation hfailed => ?_⟩
  · obtain ⟨o, rfl, hdiagnostics⟩ := hrun.opening_sharing hopen
    have hsince : Run (sharing builder operations) moves (o.before ++ o.reading :: o.since) m := o.turns_eq ▸ hrun
    refine ⟨o, rfl, hdiagnostics, hsince.address_since o.read, fun turn hmem address hstored => ?_,
      fun turn hmem address hstored => ?_⟩
    · obtain ⟨between, after, heq⟩ := List.append_of_mem hmem
      rw [heq, ← List.cons_append, ← List.append_assoc] at hsince
      exact ⟨o.same ▸ hsince.ne_of_read o.read hstored, hsince.moves_of_stored hstored⟩
    · obtain ⟨between, after, heq⟩ := List.append_of_mem hmem
      have hlast : ∀ turn ∈ between, ∀ isOpen, turn.deed.action ≠ .setOpen isOpen := fun turn hturn =>
        o.last turn (heq ▸ List.mem_append_left _ hturn)
      rw [Opening.turns, heq] at hrun
      exact hrun.seenOpen_of_stored_since o.set hlast hstored
  · have hconcludes : (Operation.channel (.setAddress address)).job.Concludes
        (fun deeds outcome => outcome = .failed (.port .alreadyOpen) → Startled deeds) [] := by
      refine Program.Concludes.job ((Channel.concludes_setAddress address).mono fun deeds outcome himp htold => ?_)
      cases outcome with
      | failed failure =>
        cases htold
        exact himp rfl
      | _ => cases htold
    exact hrun.met_of_startled (hrun.concluded (programOf?_sharing.2 ⟨_, hoperation, rfl⟩) hconcludes hfailed rfl)

end sharing

/-- An outcome that tells that the channel is open already. -/
def metOpen : Outcome Failure Answer → Bool
  | .failed (.port .alreadyOpen) => true
  | _ => false

/-- There is one outcome only that tells that the channel is open already. -/
theorem eq_of_metOpen {outcome : Outcome Failure Answer} (h : metOpen outcome = true) :
    outcome = .failed (.port .alreadyOpen) := by
  unfold metOpen at h
  split at h
  · rfl
  · cases h

/-- A channel is opened while another task, which has found it open, is about to move it. -/
def crossing : List Operation := [
  .channel .openPort, .channel (.setAddress (some "loop://?logging=debug")), .channel .openPort]

/-- The moving has closed the channel, and stores the address when the channel is open again. -/
def crossingMoves : List Move :=
  List.replicate 26 (.act 0) ++ List.replicate 13 (.act 1) ++ List.replicate 26 (.act 2) ++
    List.replicate 4 (.act 1)

/-- The moving of a channel that is opened in between fails, and leaves the diagnostics of the old address. -/
theorem exists_crossed :
    ∃ turns m, Run (sharing narrow crossing) crossingMoves turns m ∧ m.world.channel.isOpen = true ∧
      m.world.channel.address = some "loop://?logging=debug" ∧ m.world.channel.diagnostics = none ∧
      (∀ task < 3, (m.outcomeOf? task).isSome = true) ∧ seenOpen ((deedsOf 1 turns).take 1) = some true ∧
      m.outcomeOf? 1 = some (.failed (.port .alreadyOpen)) := by
  obtain ⟨turns, m, hrun, ⟨hopen, haddress, hdiagnostics⟩, hended, hlooked, hfailed⟩ :
      ∃ turns m, Run (sharing narrow crossing) crossingMoves turns m ∧
        (m.world.channel.isOpen = true ∧ m.world.channel.address = some "loop://?logging=debug" ∧
          m.world.channel.diagnostics = none) ∧
        ((List.range 3).all fun task => (m.outcomeOf? task).isSome) = true ∧
        seenOpen ((deedsOf 1 turns).take 1) = some true ∧ (m.outcomeOf? 1).map metOpen = some true :=
    exists_run (by decide +kernel)
  obtain ⟨outcome, houtcome, hmet⟩ := Option.map_eq_some_iff.1 hfailed
  exact ⟨turns, m, hrun, hopen, haddress, hdiagnostics, by simpa using hended, hlooked,
    houtcome.trans (eq_of_metOpen hmet ▸ rfl)⟩

/-- In that crossing, the diagnostics are of the address that was read, and the moving that failed was crossed. -/
theorem opened_as_read_crossed :
    ∃ turns m, Run (sharing narrow crossing) crossingMoves turns m ∧
      (∃ o : Opening, o.turns = turns ∧ m.world.channel.diagnostics = o.address.logging ∧
        m.world.channel.address = some "loop://?logging=debug" ∧ m.world.channel.diagnostics = none ∧
        stored (some o.text) o.since = some "loop://?logging=debug") ∧
      ∃ (o : Opening) (look : Turn) (later : List Turn), turns = o.turns ++ look :: later ∧ look.task = 1 ∧
        look.deed = ⟨.getOpen, true⟩ ∧ o.opened.task ≠ 1 ∧ seenOpen (deedsOf 1 o.earlier) = some false := by
  obtain ⟨turns, m, hrun, hopen, haddress, hdiagnostics, -, -, hfailed⟩ := exists_crossed
  obtain ⟨hopening, hmoving⟩ := hrun.opened_as_read
  obtain ⟨o, hturns, hattached, hstored, -⟩ := hopening hopen
  exact ⟨turns, m, hrun, ⟨o, hturns, hattached, haddress, hdiagnostics, hstored.symm.trans haddress⟩,
    hmoving 1 _ rfl hfailed⟩

/-- Moves and openings that cross leave an open channel with the diagnostics of another address than its own, and
a moving can fail because the channel is open that it has closed itself. -/
theorem not_moves_apart :
    (¬∀ (builder : Builder) (operations : List Operation) (moves : List Move) (turns : List Turn)
      (m : Machine Failure Answer),
      (∀ operation ∈ operations, operation = .channel .openPort ∨ operation = .channel .closePort ∨
        ∃ address, operation = .channel (.setAddress address)) →
      Run (sharing builder operations) moves turns m → m.world.channel.isOpen = true →
      (∀ task < operations.length, (m.outcomeOf? task).isSome = true) →
      ∀ text address, m.world.channel.address = some text → Address.parse text = .ok address →
        m.world.channel.diagnostics = address.logging) ∧
    ¬∀ (builder : Builder) (operations : List Operation) (moves : List Move) (turns : List Turn)
      (m : Machine Failure Answer),
      (∀ operation ∈ operations, operation = .channel .openPort ∨ operation = .channel .closePort ∨
        ∃ address, operation = .channel (.setAddress address)) →
      Run (sharing builder operations) moves turns m →
      ∀ task address, operations[task]? = some (.channel (.setAddress address)) →
        seenOpen ((deedsOf task turns).take 1) = some true →
        m.outcomeOf? task ≠ some (.failed (.port .alreadyOpen)) := by
  obtain ⟨turns, m, hrun, hopen, haddress, hdiagnostics, hended, hlooked, hfailed⟩ := exists_crossed
  have hcrossing : ∀ operation ∈ crossing, operation = .channel .openPort ∨ operation = .channel .closePort ∨
      ∃ address, operation = .channel (.setAddress address) := by
    simp [crossing]
  refine ⟨fun hkept => ?_, fun hreopens => ?_⟩
  · have hparsed : Address.parse "loop://?logging=debug" = .ok ⟨[.logging .debug]⟩ := by rfl
    have hattached := hkept narrow crossing crossingMoves turns m hcrossing hrun hopen hended _ _ haddress hparsed
    cases hattached.symm.trans hdiagnostics
  · exact hreopens narrow crossing crossingMoves turns m hcrossing hrun 1 _ rfl hlooked hfailed

end Machine

end Loopback
