import Loopback.Proofs.Channel.Keeping
import Loopback.Proofs.Machine.Concluding

/-!
# A channel is open before it is reset

An opening makes the channel open first, and then lowers its lines and empties its buffers, which only an open
channel allows. Whoever finds the channel open meanwhile may write to it or set a line, and the opening undoes
that. Of a write that succeeds just those bytes are queued in the end that it queued after the buffers had been
emptied for the last time, and a line is as it was set unless the opening has lowered it since.
-/

namespace Loopback

variable {ε α : Type}

/-- Whether an action leaves alone what is queued, the lines, and whether the channel is open. -/
def Action.passive : Action → Bool
  | .push .. | .append .. | .pop .. | .clear _ | .setLine .. | .setOpen _ | .newSession => false
  | _ => true

/-- Whether an action sets a line. -/
def Action.sets (line : Line) : Action → Bool
  | .setLine other _ => other = line
  | _ => false

/-- Whether an action lowers a line. -/
def Action.lowers (line : Line) : Action → Bool
  | .setLine other false => other = line
  | _ => false

/-- Whether an action raises a line. -/
def Action.raises : Action → Bool
  | .setLine _ true => true
  | _ => false

/-- Whether an action empties a queue. -/
def Action.empties : Action → Bool
  | .clear _ => true
  | _ => false

/-- Whether an action neither begins a session nor raises a line. -/
def Action.modest (action : Action) : Bool :=
  !action.begins && !action.raises

/-- What an opening has done that has succeeded: it began one session, and emptied a queue at last. -/
structure Reset (deeds : List Deed) : Prop where
  once : deeds.countP (·.action.begins) = 1
  emptied : ∃ first session count rest, deeds = first ++ ⟨.clear session, count⟩ :: rest ∧
    rest.any (·.action.empties) = false

namespace Program

variable {seen : List Deed}

/-- A program that begins no session and raises no line leaves both as it finds them. -/
theorem concludes_modest {p : Program ε α} (h : p.Obeys (.always fun action => action.modest = true) []) :
    p.Concludes (fun deeds _ => deeds.any (·.action.raises) = seen.any (·.action.raises) ∧
      deeds.countP (·.action.begins) = seen.countP (·.action.begins)) seen := by
  suffices hsame : ∀ more : List Deed, more.any (·.action.raises) = seen.any (·.action.raises) ∧
      more.countP (·.action.begins) = seen.countP (·.action.begins) →
      p.Concludes (fun deeds _ => deeds.any (·.action.raises) = seen.any (·.action.raises) ∧
        deeds.countP (·.action.begins) = seen.countP (·.action.begins)) more from hsame seen ⟨rfl, rfl⟩
  induction p with
  | act action next ih =>
    obtain ⟨hmodest, hnext⟩ := obeys_act.1 h
    refine fun more hmore answer => ih answer (hnext answer) _ ?_
    simp only [Action.modest, Bool.and_eq_true, Bool.not_eq_true'] at hmodest
    simpa [hmodest] using hmore
  | _ => exact fun _ h => h

end Program

namespace Channel

open Program

variable {seen : List Deed}

/-- The checks of the settings are modest. -/
theorem modest_reconfigure : reconfigure.Obeys (.always fun action => action.modest = true) [] :=
  obeys_act.2 ⟨rfl, fun _ => obeys_ofExcept.bind fun _ _ => obeys_perform rfl⟩

/-- A reset is modest. -/
theorem modest_reset (message : String) :
    (do
      let session ← liveSession
      Program.note .info message
      let _ ← QueueCall.clear session
      pure () : Operation Unit).Obeys (.always fun action => action.modest = true) [] := by
  refine obeys_act.2 ⟨rfl, fun isOpen => ?_⟩
  cases isOpen with
  | false => exact obeys_fail
  | true =>
    refine obeys_act.2 ⟨rfl, fun current => ?_⟩
    cases current with
    | none => exact obeys_fail
    | some session => exact obeys_act.2 ⟨rfl, fun _ => obeys_act.2 ⟨rfl, fun _ => obeys_done⟩⟩

/-- The last reset of an opening empties the queue, unless it fails. -/
theorem concludes_lastReset (event : Event) (hlow : seen.any (·.action.raises) = false)
    (honce : seen.countP (·.action.begins) = 1) :
    (do
      resetOutput
      .perform (.report event) : Operation Unit).Concludes (fun (deeds : List Deed) outcome => ∀ answer,
        (deeds ++ [(⟨.leaveLifecycle, answer⟩ : Deed)]).any (·.action.raises) = false ∧
          (outcome = .ok () → Reset (deeds ++ [⟨.leaveLifecycle, answer⟩]))) seen := by
  intro isOpen
  cases isOpen with
  | false =>
    refine fun _ => ⟨?_, nofun⟩
    simp only [List.any_append, hlow]
    rfl
  | true =>
    intro current
    cases current with
    | none =>
      refine fun _ => ⟨?_, nofun⟩
      simp only [List.any_append, hlow]
      rfl
    | some session =>
      intro noted count reported left
      refine ⟨?_, fun _ => ⟨?_, ?_⟩⟩
      · simp only [List.any_append, hlow]
        rfl
      · simp only [List.countP_append, honce]
        rfl
      · let looked : List Deed := [⟨.getOpen, true⟩, ⟨.getSession, some session⟩,
          ⟨.note .info "reset_output_buffer()", noted⟩]
        exact ⟨seen ++ looked, session, count, [⟨.report event, reported⟩, ⟨.leaveLifecycle, left⟩],
          by simp [looked], rfl⟩

/-- An opening raises no line, and if it succeeds it has emptied a queue at last. -/
theorem resets_openPort : openPort.Concludes (fun deeds outcome =>
    deeds.any (·.action.raises) = false ∧ (outcome = .ok () → Reset deeds)) [] := by
  refine concludes_exclusively fun _ isOpen => ?_
  cases isOpen with
  | true => exact fun _ => ⟨rfl, nofun⟩
  | false =>
    intro _ address
    cases address with
    | none => exact fun _ => ⟨rfl, nofun⟩
    | some text =>
      refine concludes_ofExcept_bind (fun address _ _ => ?_) fun failure _ _ => ⟨rfl, nofun⟩
      refine Concludes.bind (p := reconfigure) (concludes_modest modest_reconfigure) ?_ ?_ ?_
      · rintro deeds _ ⟨hlow, hnone⟩ traits
        dsimp only [Program.bind]
        split
        · intro _ _ _ _ _ _
          refine Concludes.bind (p := resetInput) (concludes_modest (modest_reset _)) ?_ ?_ ?_
          · rintro more _ ⟨hlow', honce⟩
            refine concludes_lastReset _ (hlow'.trans ?_) (honce.trans ?_)
            · simp only [List.any_append, hlow]
              rfl
            · simp only [List.countP_append, hnone]
              rfl
          · rintro more failure ⟨hlow', -⟩ _
            refine ⟨?_, nofun⟩
            simp only [List.any_append, hlow', hlow]
            rfl
          · rintro more message ⟨hlow', -⟩ _
            refine ⟨?_, nofun⟩
            simp only [List.any_append, hlow', hlow]
            rfl
        · refine fun _ => ⟨?_, nofun⟩
          simp only [List.any_append, hlow]
          rfl
      · rintro deeds failure ⟨hlow, -⟩ _
        refine ⟨?_, nofun⟩
        simp only [List.any_append, hlow]
        rfl
      · rintro deeds message ⟨hlow, -⟩ _
        refine ⟨?_, nofun⟩
        simp only [List.any_append, hlow]
        rfl

/-- Bytes are put in turn, all of them if that succeeds. -/
theorem concludes_pushAll (session : Session) (timeout : Option Duration) (data : List UInt8) :
    (pushAll session timeout data).Concludes (fun deeds outcome => outcome = .ok () →
      deeds.flatMap (Deed.put session) = seen.flatMap (Deed.put session) ++ data.map .byte) seen := by
  induction data generalizing seen with
  | nil => exact fun _ => (List.append_nil _).symm
  | cons byte rest ih =>
    refine fun now accepted => ?_
    cases accepted with
    | false => exact nofun
    | true =>
      refine ih.mono fun deeds outcome hput hok => ?_
      rw [hput hok]
      simp [Deed.put]

/-- A write that succeeds has put all its bytes into the queue of the session that it was given. -/
theorem concludes_write (data : List UInt8) : (write data).Concludes (fun deeds outcome => ∀ count,
    outcome = .ok count → count = data.length ∧ ∃ session, ⟨.getSession, some session⟩ ∈ deeds ∧
      deeds.flatMap (Deed.put session) = data.map .byte) [] := by
  intro isOpen
  cases isOpen with
  | false => exact nofun
  | true =>
    intro current
    cases current with
    | none => exact nofun
    | some session =>
      intro settings
      dsimp only [Program.bind]
      split
      next => exact nofun
      next transmit _ =>
        let before : List Deed := [⟨.getOpen, true⟩, ⟨.getSession, some session⟩, ⟨.getSettings, settings⟩]
        have hqueueAll : (do
            pushAll session settings.writeTimeout data
            Program.note .debug (writtenNote data.length transmit)
            pure data.length : Operation Nat).Concludes (fun deeds outcome => ∀ count,
              outcome = .ok count → count = data.length ∧ ∃ session, ⟨.getSession, some session⟩ ∈ deeds ∧
                deeds.flatMap (Deed.put session) = data.map .byte) before := by
          refine Concludes.bind ((concludes_pushAll session _ data).and concludes_extends) ?_ (fun _ _ _ => nofun)
            fun _ _ _ => nofun
          rintro deeds _ ⟨hput, hextends⟩ _ count hcount
          refine ⟨(Outcome.ok.inj hcount).symm, session, ?_, ?_⟩
          · exact List.mem_append_left _ (hextends _ (by simp [before]))
          · rw [List.flatMap_append, hput rfl]
            simp [before, Deed.put]
        split
        next timeout _ =>
          split
          · exact fun _ _ _ htimedOut => by cases htimedOut
          · exact hqueueAll
        next => exact hqueueAll

/-- Setting a line does that, and notes it. -/
theorem concludes_setLine (line : Line) (level : Bool) :
    (ChannelOperation.setLineProgram level line).Concludes (fun deeds _ => ∃ rest,
      deeds = ⟨.setLine line level, ()⟩ :: rest ∧ rest.any (·.action.sets line) = false) [] := by
  cases line <;> exact fun _ _ => ⟨_, rfl, rfl⟩

end Channel

/-- What a turn makes of a line. -/
def Turn.leveling (line : Line) (level : Bool) (turn : Turn) : Bool :=
  match turn.deed.action with
  | .setLine other raised => if other = line then raised else level
  | _ => level

/-- A line that is only lowered is as it was unless it has been. -/
theorem leveled_of_lowered {line : Line} {turns : List Turn}
    (h : ∀ turn ∈ turns, turn.deed.action.sets line = true → turn.deed.action.lowers line = true) (level : Bool) :
    turns.foldl (Turn.leveling line) level = (level && !turns.any (·.deed.action.lowers line)) := by
  induction turns generalizing level with
  | nil => simp
  | cons turn rest ih =>
    obtain ⟨hturn, hrest⟩ := List.forall_mem_cons.1 h
    have hlevel : turn.leveling line level = (level && !turn.deed.action.lowers line) := by
      obtain ⟨task, ⟨action, answer⟩, w, w'⟩ := turn
      cases action with
      | setLine other raised =>
        by_cases hother : other = line <;> cases raised <;> simp_all [Turn.leveling, Action.sets, Action.lowers]
      | _ => simp [Turn.leveling, Action.lowers]
    rw [List.foldl_cons, ih hrest, hlevel, List.any_cons, Bool.not_or, Bool.and_assoc]

namespace Machine

/-- The level of a line is as it was set last. -/
theorem Run.line_eq {start m : Machine ε α} {moves : List Move} {turns : List Turn}
    (hrun : Run start moves turns m) (line : Line) :
    m.world.channel.line line = turns.foldl (Turn.leveling line) (start.world.channel.line line) := by
  refine hrun.history (fun turns w => w.channel.line line =
    turns.foldl (Turn.leveling line) (start.world.channel.line line)) rfl (fun _ h => h) ?_
  intro _ turns m m' _ task action answer _ _ hcomes h
  rw [List.foldl_append, ← h]
  by_cases hsets : action.sets line = true
  · cases action with
    | setLine other level =>
      obtain rfl : other = line := of_decide_eq_true hsets
      rw [hcomes.line_of_set]
      simp [Turn.leveling]
    | _ => cases hsets
  · rw [hcomes.line line]
    · cases action with
      | setLine other level =>
        have hother : other ≠ line := fun hsame => hsets (decide_eq_true hsame)
        simp [Turn.leveling, hother]
      | _ => rfl
    · rintro level rfl
      exact hsets (decide_eq_true rfl)

/-- A closed channel that a run has led to, with one task that is about to open it and another that is about to
update it. -/
structure Pending (builder : Builder) (operations : List Operation) (opener updater : Nat)
    (update : ChannelOperation) (turns : List Turn) (m : Machine Failure Answer) : Prop where
  run : ∃ moves, Run (sharing builder operations) moves turns m
  closed : m.world.channel.isOpen = false
  opens : operations[opener]? = some (.channel .openPort)
  updates : operations[updater]? = some (.channel update)
  unopened : deedsOf opener turns = []
  unupdated : deedsOf updater turns = []

/-- That nobody but an opening and an update goes to a queue, sets a line, opens or closes the channel. -/
def LeftToUpdate (opener updater : Nat) (turns : List Turn) : Prop :=
  ∀ turn ∈ turns, turn.task ≠ opener → turn.task ≠ updater → turn.deed.action.passive = true

instance (opener updater : Nat) (turns : List Turn) : Decidable (LeftToUpdate opener updater turns) :=
  inferInstanceAs (Decidable (∀ turn ∈ turns, turn.task ≠ opener → turn.task ≠ updater →
    turn.deed.action.passive = true))

namespace Pending

variable {builder : Builder} {operations : List Operation} {opener updater : Nat} {update : ChannelOperation}
  {turns later : List Turn} {m m' : Machine Failure Answer} {moves : List Move}

/-- What is not passive is done by the opening or the update, as they may. -/
theorem may (h : Pending builder operations opener updater update turns m) (hrun : Run m moves later m')
    (hleft : LeftToUpdate opener updater later) {turn : Turn} (hturn : turn ∈ later)
    (hactive : turn.deed.action.passive = false) :
    turn.task = opener ∧ Kind.opening.may turn.deed.action ∨
      turn.task = updater ∧ update.kind.may turn.deed.action := by
  obtain ⟨_, hstart⟩ := h.run
  obtain ⟨before, after, rfl⟩ := List.append_of_mem hturn
  have hall := hstart.trans hrun
  rw [← List.append_assoc] at hall
  obtain ⟨operation, hoperation, hmay, -⟩ := hall.rule
  by_cases hopener : turn.task = opener
  · rw [hopener] at hoperation
    obtain rfl := Option.some.inj (hoperation.symm.trans h.opens)
    exact .inl ⟨hopener, hmay⟩
  · have hupdater : turn.task = updater := by
      refine Decidable.byContradiction fun hupdater => ?_
      rw [hleft turn hturn hopener hupdater] at hactive
      cases hactive
    rw [hupdater] at hoperation
    obtain rfl := Option.some.inj (hoperation.symm.trans h.updates)
    exact .inr ⟨hupdater, hmay⟩

/-- What is not passive, and not for the update to do, is done by the opening. -/
theorem opener_of (h : Pending builder operations opener updater update turns m) (hrun : Run m moves later m')
    (hleft : LeftToUpdate opener updater later) {turn : Turn} (hturn : turn ∈ later)
    (hactive : turn.deed.action.passive = false) (hnot : ¬update.kind.may turn.deed.action) :
    turn.task = opener ∧ Kind.opening.may turn.deed.action :=
  (h.may hrun hleft hturn hactive).resolve_right fun hupdater => hnot hupdater.2

/-- Sessions are begun by the opening. -/
theorem opener_of_begins (h : Pending builder operations opener updater update turns m)
    (hrun : Run m moves later m') (hleft : LeftToUpdate opener updater later) (hopens : ¬update.kind.Opens)
    {turn : Turn} (hturn : turn ∈ later) (hbegins : turn.deed.action.begins = true) : turn.task = opener := by
  have hnew : turn.deed.action = .newSession := by
    cases haction : turn.deed.action with
    | newSession => rfl
    | _ =>
      rw [haction] at hbegins
      cases hbegins
  exact (h.opener_of hrun hleft hturn (by rw [hnew]; rfl) (by rw [hnew]; exact hopens)).1

/-- A channel that was closed is open only after the opening has begun a session. -/
theorem begun_of_open (h : Pending builder operations opener updater update turns m) (hrun : Run m moves later m')
    (hleft : LeftToUpdate opener updater later) (hopens : ¬update.kind.Opens)
    (hopen : m'.world.channel.isOpen = true) : 0 < sessionsBegun later := by
  obtain ⟨_, hstart⟩ := h.run
  -- Somebody has set it open, which only the opening may do, and not before it has begun a session.
  obtain ⟨turn, hturn, hset⟩ : ∃ turn ∈ later, turn.deed.action = .setOpen true := by
    by_contra hnone
    have hclosed : m'.world.channel.isOpen = false := by
      refine hrun.world (fun w => w.channel.isOpen = false) h.closed (fun _ h => h) fun turn hturn hbefore => ?_
      have hcomes := hrun.comes hturn
      obtain ⟨task, ⟨action, answer⟩, w, w'⟩ := turn
      by_cases hsets : ∃ isOpen, action = .setOpen isOpen
      · obtain ⟨isOpen, rfl⟩ := hsets
        cases isOpen with
        | true => exact absurd ⟨_, hturn, rfl⟩ hnone
        | false => exact hcomes.isOpen_of_set
      · exact (hcomes.frame.isOpen fun isOpen hsame => hsets ⟨isOpen, hsame⟩).trans hbefore
    rw [hclosed] at hopen
    cases hopen
  obtain ⟨hopener, -⟩ := h.opener_of hrun hleft hturn (by rw [hset]; rfl) (by rw [hset]; exact hopens)
  obtain ⟨before, after, rfl⟩ := List.append_of_mem hturn
  have hall := hstart.trans hrun
  rw [← List.append_assoc] at hall
  obtain ⟨_, -, -, horderly⟩ := hall.rule
  rw [hset, hopener] at horderly
  have hlast : (deedsOf opener (turns ++ before)).getLast? = some ⟨.newSession, ()⟩ := horderly
  rw [deedsOf_append, h.unopened, List.nil_append] at hlast
  obtain ⟨first, begins, rest, rfl, -, hbegins⟩ := exists_turn_of_mem_deedsOf (List.mem_of_getLast? hlast)
  exact List.countP_pos_iff.2 ⟨begins, by simp, by rw [hbegins]; rfl⟩

/-- A session is given only after the opening has begun one. -/
theorem begun_of_given (h : Pending builder operations opener updater update turns m)
    (hrun : Run m moves later m') (hleft : LeftToUpdate opener updater later) (hopens : ¬update.kind.Opens)
    {before after : List Turn} {given : Turn} {session : Session} (hlater : later = before ++ given :: after)
    (hfresh : deedsOf given.task turns = []) (hgiven : given.deed = ⟨.getSession, some session⟩) :
    0 < sessionsBegun before := by
  subst hlater
  obtain ⟨_, hstart⟩ := h.run
  have hall := hstart.trans hrun
  rw [← List.append_assoc] at hall
  obtain ⟨_, -, -, horderly⟩ := hall.rule
  rw [hgiven] at horderly
  have hlast : (deedsOf given.task (turns ++ before)).getLast? = some ⟨.getOpen, true⟩ := horderly
  rw [deedsOf_append, hfresh, List.nil_append] at hlast
  obtain ⟨first, ⟨task, deed, w, w'⟩, rest, rfl, -, rfl⟩ := exists_turn_of_mem_deedsOf (List.mem_of_getLast? hlast)
  rw [List.append_assoc, List.cons_append] at hrun
  obtain ⟨_, m₁, _, hearlier, hcomes⟩ := hrun.meets
  have hleft' : LeftToUpdate opener updater first := fun turn hturn =>
    hleft turn (List.mem_append_left _ (List.mem_append_left _ hturn))
  have hbegun := h.begun_of_open hearlier hleft' hopens hcomes.isOpen.symm
  rw [sessionsBegun, List.countP_append]
  exact Nat.add_pos_left hbegun _

/-- An opening that has begun a session and has ended has emptied a queue at last. -/
theorem reset (h : Pending builder operations opener updater update turns m) (hrun : Run m moves later m')
    (hleft : LeftToUpdate opener updater later) (hopens : ¬update.kind.Opens) (hbegun : 0 < sessionsBegun later)
    (hended : (m'.outcomeOf? opener).isSome = true) : Reset (deedsOf opener later) := by
  obtain ⟨_, hstart⟩ := h.run
  have hall := hstart.trans hrun
  obtain ⟨outcome, hended⟩ := Option.isSome_iff_exists.1 hended
  obtain ⟨begins, hturn, hbegins⟩ := List.countP_pos_iff.1 hbegun
  have hopener := h.opener_of_begins hrun hleft hopens hturn hbegins
  obtain ⟨before, after, rfl⟩ := List.append_of_mem hturn
  rw [← List.append_assoc] at hall
  obtain ⟨_, -, -, hok⟩ := hall.ok_of_begins hbegins
  obtain ⟨answer, rfl⟩ := hok outcome (hopener ▸ hended)
  have hconcludes : (Operation.channel .openPort).job.Concludes
      (fun deeds outcome => ∀ answer, outcome = .ok answer → Reset deeds) [] := by
    refine Program.Concludes.job (Channel.resets_openPort.mono fun deeds outcome hreset answer htold => ?_)
    cases outcome with
    | ok => exact hreset.2 rfl
    | _ => cases htold
  have hreset := hall.concluded (programOf?_sharing.2 ⟨_, h.opens, rfl⟩) hconcludes hended answer rfl
  rwa [List.append_assoc, deedsOf_append, h.unopened, List.nil_append] at hreset

/-- The opening begins one session, the next one of the channel, and that is given to whoever is given one. -/
theorem session_eq (h : Pending builder operations opener updater update turns m) (hrun : Run m moves later m')
    (hleft : LeftToUpdate opener updater later) (hopens : ¬update.kind.Opens)
    (hended : (m'.outcomeOf? opener).isSome = true) {before after : List Turn} {given : Turn} {session : Session}
    (hlater : later = before ++ given :: after) (hfresh : deedsOf given.task turns = [])
    (hgiven : given.deed = ⟨.getSession, some session⟩) :
    session = m.world.channel.queues.length ∧ m'.world.channel.session? = some session := by
  have hbegun := h.begun_of_given hrun hleft hopens hlater hfresh hgiven
  have hsessions : sessionsBegun later = sessionsBegun before + sessionsBegun (given :: after) := by
    rw [hlater, sessionsBegun, List.countP_append]
    rfl
  have hreset := h.reset hrun hleft hopens (by omega) hended
  have honce : sessionsBegun later = 1 :=
    (countP_deedsOf fun turn hturn => h.opener_of_begins hrun hleft hopens hturn).trans hreset.once
  obtain ⟨_, m₁, _, hearlier, hcomes⟩ := (hlater ▸ hrun).meets
  rw [hgiven] at hcomes
  have hbefore : sessionsBegun before = 1 := by omega
  have hnewest := Channel.session?_eq_some.1 hcomes.session.1.symm
  rw [hearlier.length_queues, hbefore] at hnewest
  refine ⟨(Nat.succ.inj hnewest).symm, Channel.session?_eq_some.2 ?_⟩
  rw [hrun.length_queues, honce, hnewest]

/-- The opening empties the queue of its session, after which nobody does. -/
theorem emptied (h : Pending builder operations opener updater update turns m) (hrun : Run m moves later m')
    (hleft : LeftToUpdate opener updater later) (hopens : ¬update.kind.Opens) (hresets : update.kind ≠ .resetting)
    (hbegun : 0 < sessionsBegun later) (hended : (m'.outcomeOf? opener).isSome = true) :
    ∃ earlier clear after, later = earlier ++ clear :: after ∧ clear.task = opener ∧
      clear.deed.action = .clear m.world.channel.queues.length ∧
      ∀ turn ∈ after, ∀ session, turn.deed.action ≠ .clear session := by
  obtain ⟨_, hstart⟩ := h.run
  obtain ⟨first, session, count, rest, hdeeds, hnone⟩ := (h.reset hrun hleft hopens hbegun hended).emptied
  obtain ⟨earlier, clear, after, hlater, hopener, hclear, hfirst⟩ := exists_turn_of_deedsOf hdeeds
  have hall := hstart.trans hrun
  rw [hlater, ← List.append_assoc] at hall
  obtain ⟨_, -, -, horderly⟩ := hall.rule
  rw [hclear, hopener] at horderly
  have hgiven := mem_of_holding horderly
  rw [deedsOf_append, h.unopened, List.nil_append] at hgiven
  obtain ⟨before, given, rest', rfl, hown, hgiven⟩ := exists_turn_of_mem_deedsOf hgiven
  rw [List.append_assoc, List.cons_append] at hlater
  obtain ⟨hsession, -⟩ := h.session_eq hrun hleft hopens hended hlater (hown ▸ h.unopened) hgiven
  refine ⟨before ++ given :: rest', clear, after, by simpa using hlater, hopener, by rw [hclear, hsession], ?_⟩
  -- Who empties a queue after that could only be the opening, which has emptied its own for the last time.
  intro turn hturn other hclears
  have hmem : turn ∈ later := by
    rw [hlater]
    simp [hturn]
  have hnot : ¬update.kind.may turn.deed.action := by
    rw [hclears]
    exact not_or.2 ⟨hresets, hopens⟩
  obtain ⟨hown', -⟩ := h.opener_of hrun hleft hmem (by rw [hclears]; rfl) hnot
  have hrest : turn.deed ∈ rest := by
    have hafter : deedsOf opener after = rest := by
      rw [← hfirst, hlater, ← List.cons_append, ← List.append_assoc, deedsOf_append,
        deedsOf_cons_self hopener] at hdeeds
      exact (List.cons.inj (List.append_cancel_left hdeeds)).2
    rw [← hafter, ← hown']
    exact mem_deedsOf_of_mem hturn
  have hempties := List.any_eq_false.1 hnone _ hrest
  rw [hclears] at hempties
  exact hempties rfl

/-- What was put into a queue was put by the update. -/
theorem accepted_eq (h : Pending builder operations opener updater update turns m) (hrun : Run m moves later m')
    (hleft : LeftToUpdate opener updater later) {part : List Turn} (hpart : ∀ turn ∈ part, turn ∈ later)
    (session : Session) : accepted session part = (deedsOf updater part).flatMap (Deed.put session) := by
  refine flatMap_deedsOf fun turn hturn hother => ?_
  have hmay := fun hactive =>
    (h.may hrun hleft (hpart turn hturn) hactive).resolve_right fun hupdater => hother hupdater.1
  obtain ⟨task, ⟨action, answer⟩, w, w'⟩ := turn
  cases action with
  | push =>
    obtain ⟨-, hwriting, -⟩ := hmay rfl
    cases hwriting
  | append =>
    obtain ⟨-, hcloses, -⟩ := hmay rfl
    rcases hcloses with hclosing | hmoving
    · cases hclosing
    · cases hmoving
  | _ => rfl

/-- After a queue was emptied for the last time, it holds what was put there since. -/
theorem items_eq (h : Pending builder operations opener updater update turns m) (hrun : Run m moves later m')
    (hleft : LeftToUpdate opener updater later) (hreads : update.kind ≠ .reading) {earlier after : List Turn}
    {clear : Turn} {session : Session} (hlater : later = earlier ++ clear :: after)
    (hclear : clear.deed.action = .clear session)
    (hlast : ∀ turn ∈ after, turn.deed.action ≠ .clear session) :
    m'.world.items session = accepted session after := by
  obtain ⟨_, hstart⟩ := h.run
  obtain ⟨_, m₁, _, m₂, hearlier, hchange⟩ := hrun.cut hlater
  obtain ⟨hall, -⟩ := (hstart.trans hrun).session_conserved session
  obtain ⟨hbefore, -⟩ := (hstart.trans hearlier).session_conserved session
  obtain ⟨hworld, -, -⟩ := hchange.comes
  have hremoved : removed session after = [] := by
    refine List.flatMap_eq_nil_iff.2 fun turn hturn => ?_
    have hmay := h.may hrun hleft (hlater ▸ List.mem_append_right _ (List.mem_cons_of_mem _ hturn))
    rw [removed_eq_popped (hlast turn hturn)]
    obtain ⟨task, ⟨action, answer⟩, w, w'⟩ := turn
    cases action with
    | pop =>
      rcases hmay rfl with ⟨-, hreading⟩ | ⟨-, hreading⟩
      · cases hreading
      · exact absurd hreading hreads
    | _ => rfl
  have hput := accepted_of_clear hclear
  obtain ⟨task, ⟨action, answer⟩, w, w'⟩ := clear
  obtain rfl : action = .clear session := hclear
  obtain rfl : w = m₁.world := hworld
  have hcleared : removed session [⟨task, ⟨.clear session, answer⟩, m₁.world, w'⟩] = m₁.world.items session := by
    simp [removed, Turn.removed]
  -- What was accepted before the emptying was removed with it at the latest, and nothing was removed after it.
  rw [hlater, ← List.append_assoc, ← List.singleton_append, ← List.append_assoc, accepted_append, accepted_append,
    removed_append, removed_append, hput, hcleared, hremoved, hbefore, List.append_nil] at hall
  exact (List.append_cancel_left hall).symm

/-- Of a write that succeeds beside an opening, those bytes are queued in the end that were queued after the
opening had emptied the queue for the last time. -/
theorem written {data : List UInt8} (h : Pending builder operations opener updater (.write data) turns m)
    (hrun : Run m moves later m') (hleft : LeftToUpdate opener updater later)
    (hended : (m'.outcomeOf? opener).isSome = true) {count : Nat}
    (hwritten : m'.outcomeOf? updater = some (.ok (.count count))) :
    count = data.length ∧ ∃ session earlier clear after lost kept, later = earlier ++ clear :: after ∧
      clear.task = opener ∧ clear.deed.action = .clear session ∧
      (∀ turn ∈ after, turn.deed.action ≠ .clear session) ∧ m'.world.channel.session? = some session ∧
      data = lost ++ kept ∧ accepted session earlier = lost.map .byte ∧
      accepted session after = kept.map .byte ∧ m'.world.items session = kept.map .byte ∧
      (deedsOf updater earlier = [] → lost = []) := by
  obtain ⟨_, hstart⟩ := h.run
  have hconcludes : (Operation.channel (.write data)).job.Concludes (fun deeds outcome => ∀ count,
      outcome = .ok (.count count) → count = data.length ∧ ∃ session, ⟨.getSession, some session⟩ ∈ deeds ∧
        deeds.flatMap (Deed.put session) = data.map .byte) [] := by
    refine Program.Concludes.job ((Channel.concludes_write data).mono fun deeds outcome hwrite count htold => ?_)
    cases outcome with
    | ok count' =>
      cases htold
      exact hwrite count rfl
    | _ => cases htold
  obtain ⟨hcount, session, hgiven, hput⟩ := (hstart.trans hrun).concluded
    (programOf?_sharing.2 ⟨_, h.updates, rfl⟩) hconcludes hwritten count rfl
  rw [deedsOf_append, h.unupdated, List.nil_append] at hgiven hput
  obtain ⟨before, given, rest, hlater, hown, hgiven⟩ := exists_turn_of_mem_deedsOf hgiven
  have hfresh : deedsOf given.task turns = [] := hown ▸ h.unupdated
  have hopens : ¬Kind.writing.Opens := by simp [Kind.Opens]
  have hbegun := h.begun_of_given hrun hleft hopens hlater hfresh hgiven
  obtain ⟨rfl, hsession⟩ := h.session_eq hrun hleft hopens hended hlater hfresh hgiven
  have hbegun' : 0 < sessionsBegun later := by
    rw [hlater, sessionsBegun, List.countP_append]
    exact Nat.add_pos_left hbegun _
  obtain ⟨earlier, clear, after, hsplit, hopener, hclear, hlast⟩ :=
    h.emptied hrun hleft hopens (show Kind.writing ≠ .resetting by decide) hbegun' hended
  have hitems := h.items_eq hrun hleft (show Kind.writing ≠ .reading by decide) hsplit hclear
    fun turn hturn => hlast turn hturn _
  -- The last emptying cuts what was put in two: what was put before it is lost.
  have haccepted := (h.accepted_eq hrun hleft (fun _ hturn => hturn) _).trans hput
  rw [hsplit, ← List.singleton_append, ← List.append_assoc, accepted_append, accepted_append,
    accepted_of_clear hclear, List.append_nil] at haccepted
  obtain ⟨lost, kept, hdata, hlost, hkept⟩ := List.append_eq_map_iff.1 haccepted
  refine ⟨hcount, _, earlier, clear, after, lost, kept, hsplit, hopener, hclear,
    fun turn hturn => hlast turn hturn _, hsession, hdata, hlost.symm, hkept.symm, hitems.trans hkept.symm,
    fun hnone => ?_⟩
  rw [h.accepted_eq hrun hleft (fun turn hturn => hsplit ▸ List.mem_append_left _ hturn), hnone] at hlost
  exact List.map_eq_nil_iff.1 hlost

/-- A line that is set beside an opening is as it was set, unless the opening has lowered it since. -/
theorem leveled {line : Line} {level : Bool}
    (h : Pending builder operations opener updater (.setLine line level) turns m) (hrun : Run m moves later m')
    (hleft : LeftToUpdate opener updater later) (hended : (m'.outcomeOf? opener).isSome = true)
    (hset : (m'.outcomeOf? updater).isSome = true) :
    ∃ earlier set after, later = earlier ++ set :: after ∧ set.task = updater ∧
      set.deed = ⟨.setLine line level, ()⟩ ∧
      (∀ turn ∈ after, turn.deed.action.sets line = true →
        turn.task = opener ∧ turn.deed.action.lowers line = true) ∧
      m'.world.channel.line line = (level && !after.any (·.deed.action.lowers line)) := by
  obtain ⟨_, hstart⟩ := h.run
  obtain ⟨opened, hended⟩ := Option.isSome_iff_exists.1 hended
  obtain ⟨outcome, hset⟩ := Option.isSome_iff_exists.1 hset
  have hopening : (Operation.channel .openPort).job.Concludes
      (fun deeds _ => deeds.any (·.action.raises) = false) [] :=
    Program.Concludes.job (Channel.resets_openPort.mono fun _ _ => And.left)
  have hlow := (hstart.trans hrun).concluded (programOf?_sharing.2 ⟨_, h.opens, rfl⟩) hopening hended
  have hsetting : (Operation.channel (.setLine line level)).job.Concludes (fun deeds _ => ∃ rest,
      deeds = ⟨.setLine line level, ()⟩ :: rest ∧ rest.any (·.action.sets line) = false) [] :=
    Program.Concludes.job (Channel.concludes_setLine line level)
  obtain ⟨rest, hdeeds, hnone⟩ :=
    (hstart.trans hrun).concluded (programOf?_sharing.2 ⟨_, h.updates, rfl⟩) hsetting hset
  rw [deedsOf_append, h.unopened, List.nil_append] at hlow
  rw [deedsOf_append, h.unupdated, List.nil_append] at hdeeds
  have hfirst : deedsOf updater later = [] ++ ⟨.setLine line level, ()⟩ :: rest := hdeeds
  obtain ⟨earlier, set, after, hlater, hown, hdeed, hfirst⟩ := exists_turn_of_deedsOf hfirst
  have hafter : deedsOf updater after = rest := by
    rw [hlater, deedsOf_append, hfirst, List.nil_append, deedsOf_cons_self hown] at hdeeds
    exact (List.cons.inj hdeeds).2
  -- After it the opening only lowers lines, and the update has nothing left to set.
  have hlowers : ∀ turn ∈ after, turn.deed.action.sets line = true →
      turn.task = opener ∧ turn.deed.action.lowers line = true := by
    intro turn hturn hsets
    have hmem : turn ∈ later := hlater ▸ List.mem_append_right _ (List.mem_cons_of_mem _ hturn)
    have hdone := mem_deedsOf_of_mem hturn
    have hdone' := mem_deedsOf_of_mem hmem
    have hmay := h.may hrun hleft hmem
    obtain ⟨task, ⟨action, answer⟩, w, w'⟩ := turn
    cases action with
    | setLine other raised =>
      rcases hmay rfl with ⟨hopener, -⟩ | ⟨hupdater, -⟩
      · obtain rfl : task = opener := hopener
        have hlowered := List.any_eq_false.1 hlow _ hdone'
        cases raised with
        | true => exact absurd rfl hlowered
        | false => exact ⟨rfl, hsets⟩
      · obtain rfl : task = updater := hupdater
        rw [hafter] at hdone
        exact absurd hsets (List.any_eq_false.1 hnone _ hdone)
    | _ => cases hsets
  refine ⟨earlier, set, after, hlater, hown, hdeed, hlowers, ?_⟩
  rw [hrun.line_eq line, hlater, List.foldl_append, List.foldl_cons,
    leveled_of_lowered fun turn hturn hsets => (hlowers turn hturn hsets).2]
  simp [Turn.leveling, hdeed]

/-- An update beside an opening is kept as far as it was made since the opening has reset the channel: of a write
that succeeds, those bytes are queued that it put there after the opening had emptied the queue for the last time,
and all of them if it began only then, and a line is as it was set, unless the opening has lowered it since. -/
theorem kept_since_reset (h : Pending builder operations opener updater update turns m)
    (hrun : Run m moves later m') (hleft : LeftToUpdate opener updater later)
    (hopened : (m'.outcomeOf? opener).isSome = true) (hupdated : (m'.outcomeOf? updater).isSome = true) :
    (∀ data count, update = .write data → m'.outcomeOf? updater = some (.ok (.count count)) →
      count = data.length ∧ ∃ session earlier clear after lost kept, later = earlier ++ clear :: after ∧
        clear.task = opener ∧ clear.deed.action = .clear session ∧
        (∀ turn ∈ after, turn.deed.action ≠ .clear session) ∧ m'.world.channel.session? = some session ∧
        data = lost ++ kept ∧ accepted session earlier = lost.map .byte ∧
        accepted session after = kept.map .byte ∧ m'.world.items session = kept.map .byte ∧
        (deedsOf updater earlier = [] → lost = [])) ∧
    ∀ line level, update = .setLine line level →
      ∃ earlier set after, later = earlier ++ set :: after ∧ set.task = updater ∧
        set.deed = ⟨.setLine line level, ()⟩ ∧
        (∀ turn ∈ after, turn.deed.action.sets line = true →
          turn.task = opener ∧ turn.deed.action.lowers line = true) ∧
        m'.world.channel.line line = (level && !after.any (·.deed.action.lowers line)) := by
  refine ⟨?_, ?_⟩
  · rintro data count rfl hwritten
    exact h.written hrun hleft hopened hwritten
  · rintro line level rfl
    exact h.leveled hrun hleft hopened hupdated

end Pending

/-- How many bytes an outcome tells of. -/
def countTold : Outcome Failure Answer → Option Nat
  | .ok (.count count) => some count
  | _ => none

/-- There is one outcome only that tells of a count. -/
theorem eq_of_countTold {outcome : Outcome Failure Answer} {count : Nat} (h : countTold outcome = some count) :
    outcome = .ok (.count count) := by
  unfold countTold at h
  split at h
  · cases h
    rfl
  · cases h

/-- Whether a turn of another task has found the channel open. -/
def foundOpenBeside (opener : Nat) (turn : Turn) : Bool :=
  match turn.deed with
  | ⟨.getOpen, true⟩ => turn.task != opener
  | _ => false

/-- A channel is opened beside an update, and somebody else looks at it. -/
def published (update : ChannelOperation) : List Operation :=
  [.channel .openPort, .channel update, .channel .isOpen]

/-- The opening has made the channel open, and it has been found so. -/
def publishingMoves : List Move := List.replicate 10 (.act 0) ++ [.act 2]

/-- The first byte is queued before the opening empties the queue, and the second one after that. -/
def writingMoves : List Move :=
  List.replicate 5 (.act 1) ++ List.replicate 16 (.act 0) ++ List.replicate 5 (.act 1)

/-- The line is set before the opening lowers it. -/
def settingMoves : List Move := List.replicate 2 (.act 1) ++ List.replicate 16 (.act 0)

/-- Before any move, an update is pending beside the opening. -/
theorem pending_published (update : ChannelOperation) :
    Pending narrow (published update) 0 1 update [] (sharing narrow (published update)) where
  run := ⟨[], .start⟩
  closed := rfl
  opens := rfl
  updates := rfl
  unopened := rfl
  unupdated := rfl

/-- An update can queue two bytes, of which the opening that goes on drops the first. -/
theorem exists_written :
    ∃ first m rest m', Run (sharing narrow (published (.write [1, 2]))) publishingMoves first m ∧
      Run m writingMoves rest m' ∧ LeftToUpdate 0 1 (first ++ rest) ∧ deedsOf 1 first = [] ∧
      first.any (foundOpenBeside 0) = true ∧ (m'.outcomeOf? 0).isSome = true ∧
      m'.outcomeOf? 1 = some (.ok (.count 2)) ∧ m'.world.channel.session? = some 0 ∧
      m'.world.items 0 = [.byte 2] := by
  obtain ⟨first, m, rest, m', hfirst, hrest, ⟨hleft, hfresh, hfound⟩, hopened, hwritten, hsession, hitems⟩ :
      ∃ first m rest m', Run (sharing narrow (published (.write [1, 2]))) publishingMoves first m ∧
        Run m writingMoves rest m' ∧
        (LeftToUpdate 0 1 (first ++ rest) ∧ (deedsOf 1 first).isEmpty = true ∧
          first.any (foundOpenBeside 0) = true) ∧
        (m'.outcomeOf? 0).isSome = true ∧ (m'.outcomeOf? 1).bind countTold = some 2 ∧
        m'.world.channel.session? = some 0 ∧ m'.world.items 0 = [.byte 2] := exists_run_run (by decide +kernel)
  obtain ⟨outcome, houtcome, hcount⟩ := Option.bind_eq_some_iff.1 hwritten
  rw [eq_of_countTold hcount] at houtcome
  exact ⟨first, m, rest, m', hfirst, hrest, hleft, List.isEmpty_iff.1 hfresh, hfound, hopened, houtcome, hsession,
    hitems⟩

/-- An update can set a line, which the opening that goes on lowers. -/
theorem exists_raised :
    ∃ first m rest m', Run (sharing narrow (published (.setLine .requestToSend true))) publishingMoves first m ∧
      Run m settingMoves rest m' ∧ LeftToUpdate 0 1 (first ++ rest) ∧ deedsOf 1 first = [] ∧
      first.any (foundOpenBeside 0) = true ∧ (m'.outcomeOf? 0).isSome = true ∧ (m'.outcomeOf? 1).isSome = true ∧
      m'.world.channel.line .requestToSend = false := by
  obtain ⟨first, m, rest, m', hfirst, hrest, ⟨hleft, hfresh, hfound⟩, hopened, hset, hlevel⟩ :
      ∃ first m rest m', Run (sharing narrow (published (.setLine .requestToSend true))) publishingMoves first m ∧
        Run m settingMoves rest m' ∧
        (LeftToUpdate 0 1 (first ++ rest) ∧ (deedsOf 1 first).isEmpty = true ∧
          first.any (foundOpenBeside 0) = true) ∧
        (m'.outcomeOf? 0).isSome = true ∧ (m'.outcomeOf? 1).isSome = true ∧
        m'.world.channel.line .requestToSend = false := exists_run_run (by decide +kernel)
  exact ⟨first, m, rest, m', hfirst, hrest, hleft, List.isEmpty_iff.1 hfresh, hfound, hopened, hset, hlevel⟩

/-- In both runs, what is left of the update is what was done after the opening had reset it. -/
theorem kept_since_reset_published :
    (∃ moves later m' session kept, Run (sharing narrow (published (.write [1, 2]))) moves later m' ∧
      m'.outcomeOf? 1 = some (.ok (.count 2)) ∧ m'.world.channel.session? = some session ∧
      m'.world.items session = kept.map .byte ∧ ∃ lost, [1, 2] = lost ++ kept) ∧
    ∃ moves later m' set after, Run (sharing narrow (published (.setLine .requestToSend true))) moves later m' ∧
      set.deed = ⟨.setLine .requestToSend true, ()⟩ ∧ (set :: after) <:+ later ∧
      m'.world.channel.line .requestToSend =
        (true && !after.any (·.deed.action.lowers .requestToSend)) := by
  refine ⟨?_, ?_⟩
  · obtain ⟨first, m, rest, m', hfirst, hrest, hleft, -, -, hopened, hwritten, -⟩ := exists_written
    have hrun := hfirst.trans hrest
    obtain ⟨-, session, -, -, -, lost, kept, -, -, -, -, hsession, hdata, -, -, hitems, -⟩ :=
      ((pending_published _).kept_since_reset hrun hleft hopened (hwritten ▸ rfl)).1 [1, 2] 2 rfl hwritten
    exact ⟨_, _, m', session, kept, hrun, hwritten, hsession, hitems, lost, hdata⟩
  · obtain ⟨first, m, rest, m', hfirst, hrest, hleft, -, -, hopened, hset, -⟩ := exists_raised
    have hrun := hfirst.trans hrest
    obtain ⟨earlier, set, after, hlater, -, hdeed, -, hlevel⟩ :=
      ((pending_published _).kept_since_reset hrun hleft hopened hset).2 .requestToSend true rfl
    exact ⟨_, _, m', set, after, hrun, hdeed, ⟨earlier, hlater.symm⟩, hlevel⟩

/-- An opening undoes updates that are made by who has found the channel open. -/
theorem not_all_updates_kept :
    (¬∀ (builder : Builder) (operations : List Operation) (opener updater : Nat) (data : List UInt8)
      (turns : List Turn) (m : Machine Failure Answer) (moves : List Move) (first rest : List Turn)
      (m' : Machine Failure Answer) (count : Nat) (session : Session),
      Pending builder operations opener updater (.write data) turns m → Run m moves (first ++ rest) m' →
      LeftToUpdate opener updater (first ++ rest) → deedsOf updater first = [] →
      first.any (foundOpenBeside opener) = true → (m'.outcomeOf? opener).isSome = true →
      m'.outcomeOf? updater = some (.ok (.count count)) → m'.world.channel.session? = some session →
      m'.world.items session = data.map .byte) ∧
    ¬∀ (builder : Builder) (operations : List Operation) (opener updater : Nat) (line : Line) (level : Bool)
      (turns : List Turn) (m : Machine Failure Answer) (moves : List Move) (first rest : List Turn)
      (m' : Machine Failure Answer), line ≠ .breakCondition →
      Pending builder operations opener updater (.setLine line level) turns m → Run m moves (first ++ rest) m' →
      LeftToUpdate opener updater (first ++ rest) → deedsOf updater first = [] →
      first.any (foundOpenBeside opener) = true → (m'.outcomeOf? opener).isSome = true →
      (m'.outcomeOf? updater).isSome = true → m'.world.channel.line line = level := by
  refine ⟨fun hkept => ?_, fun hkept => ?_⟩
  · obtain ⟨first, m, rest, m', hfirst, hrest, hleft, hfresh, hfound, hopened, hwritten, hsession, hitems⟩ :=
      exists_written
    have hall := hkept narrow _ 0 1 [1, 2] [] _ _ first rest m' 2 0 (pending_published _) (hfirst.trans hrest)
      hleft hfresh hfound hopened hwritten hsession
    rw [hitems] at hall
    cases hall
  · obtain ⟨first, m, rest, m', hfirst, hrest, hleft, hfresh, hfound, hopened, hset, hlevel⟩ := exists_raised
    have hall := hkept narrow _ 0 1 .requestToSend true [] _ _ first rest m' nofun (pending_published _)
      (hfirst.trans hrest) hleft hfresh hfound hopened hset
    rw [hlevel] at hall
    cases hall

end Machine

end Loopback
