import Loopback.Proofs.Channel.Calm

/-!
# Closing a calm channel

A channel is closed while others sleep at its queue, and nobody else comes to it meanwhile. Then the
closing goes as if it were alone: it puts one mark of the end into the queue, and when it returns the
channel is closed.
-/

namespace Loopback

open Program

/-- Whether an action opens or closes the channel, or begins a session. -/
def Action.shifts : Action → Bool
  | .setOpen _ | .newSession => true
  | _ => false

/-- Closings of a channel, through whatever handle. -/
inductive Operation.Shuts : Operation → Prop where
  | channel : Shuts (.channel .closePort)
  | background : Shuts (.background .close)

/-- What shuts a channel is a closing. -/
theorem Operation.Shuts.kind {operation : Operation} (h : operation.Shuts) : operation.kind = .closing := by
  cases h <;> rfl

/-- What is answered of an open channel in a session. -/
def Deed.openIn (session : Session) : Deed → Prop
  | ⟨.getOpen, isOpen⟩ => isOpen = true
  | ⟨.getSession, given⟩ => given = some session
  | _ => True

/-- The course of a closing that finds the channel open in a session: it asks whether it is open before it
closes it, puts one mark of the end at most, and has put it and closed the channel in the end. -/
structure Closing {ε α : Type} (session : Session) (result : α) (deeds : List Deed) (stand : Stand ε α) :
    Prop where
  looking : stand = .before .getOpen → ∀ isOpen, ⟨.setOpen isOpen, ()⟩ ∉ deeds
  marking : deeds.flatMap (Deed.put session) = [] ∨ deeds.flatMap (Deed.put session) = [.endOfStream]
  closing : ∀ isOpen, ⟨.setOpen isOpen, ()⟩ ∈ deeds → isOpen = false
  ended : ∀ outcome, stand = .ended outcome → outcome = .ok result ∧
    deeds.flatMap (Deed.put session) = [.endOfStream] ∧ ⟨.setOpen false, ()⟩ ∈ deeds

namespace Closing

variable {ε δ α β : Type} {session : Session} {result : α} {deeds : List Deed} {stand : Stand ε α}

/-- A closing goes on with its outcome told in other terms. -/
theorem told (h : Closing session result deeds stand) (failure : ε → δ) (answer : α → β) :
    Closing session (answer result) deeds (stand.told failure answer) where
  looking hlook := h.looking (by rcases stand with _ | (_ | _ | _) <;> cases hlook; rfl)
  marking := h.marking
  closing := h.closing
  ended outcome hended := by
    rcases stand with _ | (result' | failure' | message)
    · cases hended
    · obtain ⟨hresult, hrest⟩ := h.ended _ rfl
      cases hresult
      cases hended
      exact ⟨rfl, hrest⟩
    · cases (h.ended _ rfl).1
    · cases (h.ended _ rfl).1

/-- A closing goes on with its abortions told as failures. -/
theorem sheltered (h : Closing session result deeds stand) (f : String → ε) :
    Closing session result deeds (stand.sheltered f) := by
  rcases stand with _ | (_ | _ | _)
  · exact h
  · exact h
  · exact h
  · cases (h.ended _ rfl).1

end Closing

/-- Along a closing the mark comes before the channel is closed, and that before the end. -/
theorem along_closePort {ε : Type} (session : Session) :
    (Channel.closePort : Program ε Unit).Along (Deed.openIn session) (Closing session ()) := by
  refine along_act.2 ⟨?_, fun _ _ => along_act.2 ⟨?_, fun isOpen hopen => ?_⟩⟩
  · constructor <;> simp
  · constructor <;> simp [Deed.put]
  obtain rfl : isOpen = true := hopen
  refine along_act.2 ⟨?_, fun given hgiven => ?_⟩
  · constructor <;> simp [Deed.put]
  obtain rfl : given = some session := hgiven
  -- The rest is a single line of actions: the mark, the closing, two reports and the pause.
  refine ⟨?_, fun _ _ => ⟨?_, fun _ _ => ⟨?_, fun _ _ => ⟨?_, fun _ _ => ⟨?_, fun _ _ => ⟨?_, fun _ _ =>
    ⟨?_, fun _ _ => ⟨?_, fun _ _ => ?_⟩⟩⟩⟩⟩⟩⟩⟩ <;> constructor <;> simp [Deed.put]

/-- A program that is judged along its course is judged so as a job. -/
theorem along_job {ε α : Type} {expected : Deed → Prop} {session : Session} {result : α} {p : Program ε α}
    (h : p.Along expected (Closing session result)) (failure : ε → Failure) (answer : α → Answer) :
    (p.job failure answer).Along expected (Closing session (answer result)) := by
  refine along_map.2 (along_mapFailure.2 (h.mono fun deeds stand hclosing => ?_))
  have htold := hclosing.told failure answer
  rcases stand with _ | (_ | _ | _) <;> exact htold

/-- Every closing takes this course. -/
theorem Operation.Shuts.along {operation : Operation} (h : operation.Shuts) (session : Session) :
    operation.job.Along (Deed.openIn session) (Closing session .nothing) := by
  cases h with
  | channel => exact along_job (along_closePort session) Failure.port fun _ => .nothing
  | background =>
    have hclose : Background.close.Along (Deed.openIn session) (Closing session ()) := by
      refine along_sheltered.2 (along_mapFailure.2 ((along_closePort session).mono fun deeds stand h => ?_))
      exact (h.told Background.Failure.port id).sheltered Background.Failure.taskAborted
    exact along_job hclose Failure.background fun _ => .nothing

namespace Machine

/-- A channel that is open in a session and calm, and a closing of it that has not begun. -/
structure Poised (builder : Builder) (operations : List Operation) (session : Session) (closer : Nat)
    (turns : List Turn) (m : Machine Failure Answer) : Prop where
  run : ∃ moves, Run (sharing builder operations) moves turns m
  isOpen : m.world.channel.isOpen = true
  session : m.world.channel.session? = some session
  calm : Calm turns m
  shuts : ∃ operation, operations[closer]? = some operation ∧ operation.Shuts
  fresh : deedsOf closer turns = []

/-- That nobody else opens or closes the channel, and that whoever else alters the queue of the session
has slept there. -/
def LeftTo (closer : Nat) (session : Session) (m : Machine Failure Answer) (turns : List Turn) : Prop :=
  ∀ turn ∈ turns, turn.task ≠ closer → turn.deed.action.shifts = false ∧
    (turn.deed.action.alters? = some session →
      m.sleepsAt turn.task session .item = true ∨ m.sleepsAt turn.task session .room = true)

instance (closer : Nat) (session : Session) (m : Machine Failure Answer) (turns : List Turn) :
    Decidable (LeftTo closer session m turns) :=
  inferInstanceAs (Decidable (∀ turn ∈ turns, turn.task ≠ closer → turn.deed.action.shifts = false ∧
    (turn.deed.action.alters? = some session →
      m.sleepsAt turn.task session .item = true ∨ m.sleepsAt turn.task session .room = true)))

/-- How far a closing has come that others leave alone. -/
structure Underway (session : Session) (deeds : List Deed) (w : World) : Prop where
  answered : ∀ deed ∈ deeds, deed.openIn session
  sessions : w.channel.queues.length = session + 1
  isOpen : (∀ isOpen, ⟨.setOpen isOpen, ()⟩ ∉ deeds) → w.channel.isOpen = true
  isClosed : ⟨.setOpen false, ()⟩ ∈ deeds → w.channel.isOpen = false

/-- What a closing does that finds the channel open goes as if nobody else were about, where no other
task opens or closes it or begins a session. -/
theorem Run.underway {ε α : Type} {start m : Machine ε α} {moves : List Move} {turns : List Turn}
    (hrun : Run start moves turns m) {session : Session} {closer : Nat} {p : Program ε α} {result : α}
    (hopen : start.world.channel.isOpen = true) (hsession : start.world.channel.session? = some session)
    (hp : start.programOf? closer = some p)
    (halong : p.Along (Deed.openIn session) (Closing session result))
    (hobeys : p.Obeys Kind.closing.rule [])
    (hothers : ∀ turn ∈ turns, turn.task ≠ closer → turn.deed.action.shifts = false) :
    Underway session (deedsOf closer turns) m.world := by
  -- By induction on the run. That the others leave the channel alone goes into the invariant, because it is said of
  -- the turns so far.
  refine hrun.history (fun turns w => (∀ turn ∈ turns, turn.task ≠ closer →
    turn.deed.action.shifts = false) → Underway session (deedsOf closer turns) w) ?_ ?_ ?_ hothers
  · exact fun _ => ⟨nofun, Channel.session?_eq_some.1 hsession, fun _ => hopen, nofun⟩
  · exact fun _ ih hleft => ⟨(ih hleft).answered, (ih hleft).sessions, (ih hleft).isOpen, (ih hleft).isClosed⟩
  intro moves turns m₁ m₂ move task action answer hrun hchange hcomes ih hleft
  obtain ⟨hbefore, hturn⟩ := List.forall_mem_append.1 hleft
  obtain ⟨hanswered, hsessions, hopen, hclosed⟩ := ih hbefore
  rw [deedsOf_append, deedsOf_singleton]
  by_cases hown : task = closer
  · -- What the closing does itself is on its course, as it was answered so far.
    rw [if_pos hown]
    obtain ⟨next, hprogram, -⟩ := hchange.programOf?_turn
    rw [hown] at hprogram
    obtain ⟨q, hq, hleads⟩ := hrun.leads hp
    obtain rfl := Option.some.inj (hq.symm.trans hprogram)
    have hcourse := halong.leads hleads hanswered
    obtain ⟨hmay, -⟩ := (obeys_act.1 (hobeys.leads hleads)).1
    have hopenIn : Deed.openIn session ⟨action, answer⟩ := by
      cases action with
      | getOpen => exact hcomes.isOpen.trans (hopen (hcourse.looking rfl))
      | getSession => exact hcomes.session.1.trans (Channel.session?_eq_some.2 hsessions)
      | _ => trivial
    have hnew : action ≠ .newSession := by
      rintro rfl
      simp [Kind.may, Kind.Opens] at hmay
    have hanswered' := List.forall_mem_append.2 ⟨hanswered, List.forall_mem_singleton.2 hopenIn⟩
    have hsessions' := (hcomes.frame.sessions hnew).trans hsessions
    by_cases hset : ∃ isOpen, action = .setOpen isOpen
    · obtain ⟨isOpen, rfl⟩ := hset
      cases isOpen with
      | true => simp [Kind.may, Kind.Opens] at hmay
      | false =>
        refine ⟨hanswered', hsessions', fun hnot => ?_, fun _ => hcomes.isOpen_of_set⟩
        exact absurd (by simp) (hnot false)
    · have hstays := hcomes.frame.isOpen (not_exists.1 hset)
      refine ⟨hanswered', hsessions', fun hnot => ?_, fun hmem => ?_⟩
      · exact hstays.trans (hopen fun isOpen hmem => hnot isOpen (List.mem_append_left _ hmem))
      · rcases List.mem_append.1 hmem with hmem | hmem
        · exact hstays.trans (hclosed hmem)
        · cases List.mem_singleton.1 hmem
          exact absurd ⟨false, rfl⟩ hset
  · -- What another does neither opens nor closes the channel and begins no session.
    rw [if_neg hown, List.append_nil]
    have hshifts := List.forall_mem_singleton.1 hturn hown
    have hframe := hcomes.frame
    have hset : ∀ isOpen, action ≠ .setOpen isOpen := by
      rintro isOpen rfl
      cases hshifts
    have hnew : action ≠ .newSession := by
      rintro rfl
      cases hshifts
    refine ⟨hanswered, (hframe.sessions hnew).trans hsessions, ?_, ?_⟩
    · exact fun hnot => (hframe.isOpen hset).trans (hopen hnot)
    · exact fun hmem => (hframe.isOpen hset).trans (hclosed hmem)

section closing

variable {builder : Builder} {operations : List Operation} {session : Session} {closer : Nat}
  {turns later : List Turn} {moves : List Move} {m m' : Machine Failure Answer}

/-- The session that is to be closed has a queue. -/
theorem Poised.queue (h : Poised builder operations session closer turns m) :
    ∃ q, m.world.channel.queues[session]? = some q := by
  refine ⟨_, List.getElem?_eq_getElem ?_⟩
  rw [Channel.session?_eq_some.1 h.session]
  exact Nat.lt_succ_self session

/-- A closing that found the channel open so far keeps to its course. -/
theorem Poised.course (h : Poised builder operations session closer turns m)
    (hrun : Run m moves later m') (hanswered : ∀ deed ∈ deedsOf closer later, deed.openIn session) :
    ∃ p, m'.programOf? closer = some p ∧ Closing session .nothing (deedsOf closer later) p.stand := by
  obtain ⟨_, hstart⟩ := h.run
  obtain ⟨operation, hoperation, hshuts⟩ := h.shuts
  obtain ⟨p₁, hp₁, hbegun⟩ := hstart.leads (programOf?_sharing.2 ⟨operation, hoperation, rfl⟩)
  rw [h.fresh] at hbegun
  obtain ⟨p, hp, hleads⟩ := hrun.leads hp₁
  rw [hbegun.eq_of_nil] at hleads
  exact ⟨p, hp, (hshuts.along session).leads hleads hanswered⟩

/-- A closing does what closings may do. -/
theorem Poised.may (h : Poised builder operations session closer turns m) (hrun : Run m moves later m')
    {move : Move} {m'' : Machine Failure Answer} {turn : Turn} (hchange : Change m' move (some turn) m'')
    (hown : turn.task = closer) : Kind.closing.may turn.deed.action := by
  obtain ⟨_, hstart⟩ := h.run
  obtain ⟨operation, hoperation, hshuts⟩ := h.shuts
  obtain ⟨operation', hoperation', hmay, -⟩ := (hstart.trans hrun).next_rule hchange
  rw [hown, hoperation] at hoperation'
  obtain rfl := Option.some.inj hoperation'
  rwa [hshuts.kind] at hmay

/-- What a closing does goes as if nobody else were about. -/
theorem Poised.underway (h : Poised builder operations session closer turns m)
    (hrun : Run m moves later m') (hleft : LeftTo closer session m later) :
    Underway session (deedsOf closer later) m'.world := by
  obtain ⟨_, hstart⟩ := h.run
  obtain ⟨operation, hoperation, hshuts⟩ := h.shuts
  obtain ⟨p, hp, hbegun⟩ := hstart.leads (programOf?_sharing.2 ⟨operation, hoperation, rfl⟩)
  rw [h.fresh] at hbegun
  obtain rfl := hbegun.eq_of_nil
  exact hrun.underway h.isOpen h.session hp (hshuts.along session) (hshuts.kind ▸ operation.obeys [])
    fun turn hturn hne => (hleft turn hturn hne).1

/-- While only the closing puts anything into the queue, that is one mark of the end at most. -/
theorem Poised.accepted_cases (h : Poised builder operations session closer turns m)
    (hrun : Run m moves later m') (hleft : LeftTo closer session m later)
    (hput : ∀ turn ∈ later, turn.task ≠ closer → turn.deed.put session = []) :
    accepted session later = [] ∨ accepted session later = [.endOfStream] := by
  obtain ⟨p, -, hcourse⟩ := h.course hrun (h.underway hrun hleft).answered
  rw [accepted, flatMap_deedsOf hput]
  exact hcourse.marking

/-- A closing that has returned has put its mark and closed the channel. -/
theorem Poised.returned (h : Poised builder operations session closer turns m)
    (hrun : Run m moves later m') (hleft : LeftTo closer session m later) {outcome : Outcome Failure Answer}
    (hended : m'.outcomeOf? closer = some outcome) :
    outcome = .ok .nothing ∧ m'.world.channel.isOpen = false ∧
      (deedsOf closer later).flatMap (Deed.put session) = [.endOfStream] := by
  obtain ⟨hanswered, -, -, hclosed⟩ := h.underway hrun hleft
  obtain ⟨p, hp, hcourse⟩ := h.course hrun hanswered
  obtain ⟨houtcome, hput, hset⟩ := hcourse.ended outcome (stand_of_outcomeOf? hp hended)
  exact ⟨houtcome, hclosed hset, hput⟩

/-- What took no turn sleeps as before. -/
theorem Poised.waits_on (h : Poised builder operations session closer turns m)
    (hrun : Run m moves later m') (hcalm : Calm (turns ++ later) m') {task : Nat} {want : Want}
    (hwaits : m.waitsAt task session want = true) (hstill : deedsOf task later = []) :
    m'.waitsAt task session want = true ∧ m'.programOf? task = m.programOf? task := by
  obtain ⟨_, hstart⟩ := h.run
  obtain ⟨ticket, action, next, htask, hpost, hdeadline⟩ := waitsAt_iff.1 hwaits
  have hprogram := programOf?_of_getElem? htask
  obtain ⟨p, hp, hleads⟩ := hrun.leads hprogram
  rw [hstill] at hleads
  obtain rfl := hleads.eq_of_nil
  have hbegun : deedsOf task (turns ++ later) ≠ [] := by
    rw [deedsOf_append]
    exact List.append_ne_nil_of_left_ne_nil (hstart.begun_of_sleepsAt (sleepsAt_of_waitsAt hwaits)) _
  obtain ⟨ticket', htask'⟩ := hcalm.asleep hp hbegun
  exact ⟨waitsAt_iff.2 ⟨ticket', action, next, htask', hpost, hdeadline⟩, hp.trans hprogram.symm⟩

end closing

end Machine

end Loopback
