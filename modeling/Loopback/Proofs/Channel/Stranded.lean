import Loopback.Proofs.Channel.Closing

/-!
# What closing strands

Closing calls nobody who waits for room. Once a channel is closed and calm, nobody can take anything
from the queue of its last session: no task that goes by that session is about to do so, and after the
channel was opened again, only newer sessions are given. So a write that waits for room there sleeps
for ever, whatever is done with the channel.
-/

namespace Loopback

/-- Whether an action asks for the newest session, or opens the channel in it. -/
def Action.atNewest : Action → Bool
  | .getSession | .setOpen true => true
  | _ => false

/-- Where a call is heard, and for what. -/
def Call.post : Call → Session × Want
  | .one session want | .every session want => (session, want)

/-- Room is called out only by what drains the queue. -/
theorem Action.drains?_of_call {task : Nat} {w w' : World} {action : Action} {answer : action.Reply}
    {call : Call} (h : action.run task w = .reply answer w' (some call)) {session : Session}
    (hpost : call.post = (session, .room)) : action.drains? = some session := by
  cases action with
  | push | append =>
    simp only [run, atQueue] at h
    split at h
    · cases h
    · first
        | cases h
          cases hpost
        | split at h <;> cases h
          cases hpost
  | pop s =>
    simp only [run, atQueue] at h
    split at h
    · cases h
    · split at h
      · injection h with _ _ hcall
        split at hcall
        · cases hcall
          cases hpost
          rfl
        · cases hcall
      · cases h
  | clear s =>
    simp only [run, atQueue] at h
    split at h
    · cases h
    · cases h
      cases hpost
      rfl
  | getLength =>
    simp only [run, atQueue] at h
    split at h <;> cases h
  | pause deadline =>
    simp only [run] at h
    split at h <;> cases h
  | enterLifecycle =>
    simp only [run] at h
    split at h <;> cases h
  | _ => cases h

/-- Whether a task is about to call for something at a queue. -/
def Task.callsAt {ε α : Type} (session : Session) (want : Want) : Task ε α → Bool
  | .calling call _ => call.post == (session, want)
  | _ => false

/-- A task that sleeps is not about to call. -/
@[simp] theorem Task.callsAt_asleep {ε α : Type} (session : Session) (want : Want) (ticket : Nat)
    (action : Action) (next : action.Reply → Program ε α) :
    (Task.asleep ticket action next).callsAt session want = false := rfl

/-- Being woken is no call. -/
theorem Task.callsAt_wakenAt {ε α : Type} (session s : Session) (want w : Want) (t : Task ε α) :
    (t.wakenAt s w).callsAt session want = t.callsAt session want := by
  unfold wakenAt
  split
  · cases t <;> rfl
  · rfl

namespace Machine

section undrained

variable {ε α : Type} {m m' start : Machine ε α} {session : Session}

/-- That nobody is about to call for room at a queue. -/
def Unannounced (session : Session) (m : Machine ε α) : Prop :=
  ∀ t ∈ m.tasks, t.callsAt session .room = false

/-- A task that is set so that it is not about to call leaves nobody about to. -/
theorem Unannounced.setTask (h : m.Unannounced session) {task : Nat} {state : Task ε α}
    (hstate : state.callsAt session .room = false) : (m.setTask task state).Unannounced session := by
  intro t ht
  rcases List.mem_or_eq_of_mem_set ht with ht | rfl
  · exact h t ht
  · exact hstate

/-- A task at another place is not touched. -/
theorem getElem?_setTask_of_ne {task other : Nat} (hne : task ≠ other) (state : Task ε α) :
    (m.setTask task state).tasks[other]? = m.tasks[other]? := by
  simp [setTask, hne]

/-- Who waits for room is not at any other point. -/
theorem ne_of_waitsAt {task other : Nat} {t : Task ε α} {want : Want}
    (h : m.waitsAt task session want = true) (hother : m.tasks[other]? = some t)
    (hasleep : ∀ ticket action next, t ≠ .asleep ticket action next) : other ≠ task := by
  obtain ⟨ticket, action, next, htask, -⟩ := waitsAt_iff.1 h
  rintro rfl
  exact hasleep ticket action next (Option.some.inj (hother.symm.trans htask))

/-- While nobody drains a queue, no change calls for room there, and who waits for it sleeps on. -/
theorem Change.sleeps_on {move : Move} {turn? : Option Turn} (h : Change m move turn? m')
    (hsilent : m.Unannounced session)
    (hdrains : ∀ turn ∈ turn?, turn.deed.action.drains? ≠ some session) :
    m'.Unannounced session ∧
      ∀ task, m.waitsAt task session .room = true → m'.tasks[task]? = m.tasks[task]? := by
  cases h with
  | @answered i action next answer world call htask hrun =>
    -- What calls out room drains the queue, and this answer does not.
    have hstate : (Task.after call (next answer)).callsAt session .room = false := by
      cases call with
      | none => rfl
      | some call =>
        refine Bool.eq_false_iff.2 fun hcalls => hdrains _ rfl ?_
        exact Action.drains?_of_call hrun (beq_iff_eq.1 hcalls)
    refine ⟨hsilent.setTask hstate, fun task hwaits => getElem?_setTask_of_ne ?_ _⟩
    rcases htask with htask | htask <;> exact ne_of_waitsAt hwaits htask nofun
  | gaveUp htask =>
    exact ⟨hsilent.setTask rfl, fun task hwaits =>
      getElem?_setTask_of_ne (ne_of_waitsAt hwaits htask nofun) _⟩
  | @layDown i action next otherwise htask hrun =>
    exact ⟨hsilent.setTask (Task.callsAt_asleep session .room m.tickets action next), fun task hwaits =>
      getElem?_setTask_of_ne (ne_of_waitsAt hwaits htask nofun) _⟩
  | unheard htask =>
    exact ⟨hsilent.setTask rfl, fun task hwaits =>
      getElem?_setTask_of_ne (ne_of_waitsAt hwaits htask nofun) _⟩
  | @calledAll i s w program htask =>
    have hmuted := hsilent _ (List.mem_of_getElem? htask)
    -- Nobody calls out room here, so the call is for others and wakes only them.
    have hwaken : Unannounced session { m with tasks := m.tasks.map (Task.wakenAt s w) } := by
      intro _ hmem
      obtain ⟨t, ht, rfl⟩ := List.mem_map.1 hmem
      exact (Task.callsAt_wakenAt session s .room w t).trans (hsilent t ht)
    refine ⟨hwaken.setTask rfl, fun task hwaits => ?_⟩
    rw [getElem?_setTask_of_ne (ne_of_waitsAt hwaits htask nofun)]
    obtain ⟨ticket, action, next, hasleep, hpost, -⟩ := waitsAt_iff.1 hwaits
    have helsewhere : ¬(Task.asleep ticket action next).sleepsAt s w = true := by
      intro hsleeps
      obtain ⟨_, _, _, hsame, hpost'⟩ := Task.sleepsAt_iff.1 hsleeps
      cases hsame
      cases hpost.symm.trans hpost'
      simp [Task.callsAt, Call.post] at hmuted
    simp [hasleep, Task.wakenAt, helsewhere]
  | @woke caller sleeper s w program ticket action next hcaller hsleeper hpost =>
    have hmuted := hsilent _ (List.mem_of_getElem? hcaller)
    refine ⟨(hsilent.setTask rfl).setTask rfl, fun task hwaits => ?_⟩
    have hother : sleeper ≠ task := by
      rintro rfl
      obtain ⟨ticket', action', next', htask, hpost', -⟩ := waitsAt_iff.1 hwaits
      cases hsleeper.symm.trans htask
      cases hpost.symm.trans hpost'
      simp [Task.callsAt, Call.post] at hmuted
    rw [getElem?_setTask_of_ne (ne_of_waitsAt hwaits hcaller nofun), getElem?_setTask_of_ne hother]
  | @expired i ticket action next deadline htask hdeadline hpast =>
    refine ⟨hsilent.setTask rfl, fun task hwaits => getElem?_setTask_of_ne ?_ _⟩
    rintro rfl
    obtain ⟨ticket', action', next', htask', -, hnone⟩ := waitsAt_iff.1 hwaits
    cases htask.symm.trans htask'
    rw [hnone] at hdeadline
    cases hdeadline
  | ticked => exact ⟨hsilent, fun _ _ => rfl⟩

/-- While nobody drains a queue, those who wait for room there sleep on. -/
theorem Run.sleeps_on {moves : List Move} {turns : List Turn} (hrun : Run start moves turns m)
    (hsilent : start.Unannounced session)
    (hdrains : ∀ turn ∈ turns, turn.deed.action.drains? ≠ some session) :
    m.Unannounced session ∧
      ∀ task, start.waitsAt task session .room = true → m.tasks[task]? = start.tasks[task]? := by
  induction hrun with
  | start => exact ⟨hsilent, fun _ _ => rfl⟩
  | @step moves turns m m' move _ hstep ih =>
    obtain ⟨hbefore, hturn⟩ := List.forall_mem_append.1 hdrains
    obtain ⟨hsilent, hsame⟩ := ih hbefore
    obtain ⟨hsilent', hsame'⟩ := (change_of_step hstep).sleeps_on hsilent
      fun turn hmem => hturn turn (Option.mem_toList.2 hmem)
    refine ⟨hsilent', fun task hwaits => ?_⟩
    have hstill : m.waitsAt task session .room = true := by
      rw [waitsAt, hsame task hwaits]
      exact hwaits
    exact (hsame' task hstill).trans (hsame task hwaits)

end undrained

section latecomers

variable {builder : Builder} {operations : List Operation} {session : Session} {turns after : List Turn}
  {moves more : List Move} {m m₁ m₂ : Machine Failure Answer}

/-- A channel that is closed and calm, with nobody who waits for an element in its last session. -/
structure Shut (builder : Builder) (operations : List Operation) (session : Session) (turns : List Turn)
    (m : Machine Failure Answer) : Prop where
  run : ∃ moves, Run (sharing builder operations) moves turns m
  isOpen : m.world.channel.isOpen = false
  sessions : m.world.channel.queues.length = session + 1
  calm : Calm turns m
  unawaited : m.hasSleeper session .item = false

/-- What a task does first after the channel was shut has nothing to do with its last session. -/
theorem Shut.first_turn (h : Shut builder operations session turns m) (hrun : Run m moves after m₁)
    {move : Move} {turn : Turn} (hchange : Change m₁ move (some turn) m₂)
    (hfirst : deedsOf turn.task after = []) :
    turn.deed.action.atNewest = false ∧ turn.deed.action.drains? ≠ some session ∧
      ∀ operation, operations[turn.task]? = some operation → operation.kind.Drains →
        turn.deed.holding (holding (deedsOf turn.task turns)) ≠ some session := by
  obtain ⟨before, hstart⟩ := h.run
  obtain ⟨next, hprogram, -⟩ := hchange.programOf?_turn
  obtain ⟨p, hp, hleads⟩ := hrun.programOf?_start hprogram
  rw [hfirst] at hleads
  rw [← hleads.eq_of_nil] at hp
  obtain ⟨operation, hoperation, hmay, horderly⟩ := hstart.rule_of_program hp
  obtain ⟨task, ⟨action, answer⟩, w, w'⟩ := turn
  have hnone : none ≠ some session := Option.some_ne_none session |>.symm
  -- Who has done nothing begins its program now. Anybody else slept when the channel was shut, in a push, a pop or a
  -- pause.
  by_cases hfresh : deedsOf task turns = []
  · rw [hfresh] at horderly ⊢
    cases action with
    | getSession | pop | clear => cases horderly
    | setOpen isOpen =>
      cases isOpen with
      | true => cases horderly
      | false => exact ⟨rfl, hnone, fun _ _ _ => hnone⟩
    | _ => exact ⟨rfl, hnone, fun _ _ _ => hnone⟩
  · obtain ⟨ticket, htask⟩ := h.calm.asleep hp hfresh
    obtain ⟨_, _, hwaits⟩ :=
      (reachable_iff_run.2 ⟨before, turns, hstart⟩).waits_of_asleep (List.mem_of_getElem? htask)
    cases hwaits with
    | push =>
      refine ⟨rfl, hnone, fun operation' hoperation' hkind => ?_⟩
      obtain rfl := Option.some.inj (hoperation.symm.trans hoperation')
      rw [Kind.Drains, hmay.1] at hkind
      simp [Kind.Opens] at hkind
    | @pop place deadline =>
      have hplace : place ≠ session := by
        rintro rfl
        have hsleeps := sleepsAt_iff.2 ⟨ticket, _, next, htask, rfl⟩
        exact Bool.eq_false_iff.1 h.unawaited (hasSleeper_of_sleepsAt hsleeps)
      refine ⟨rfl, fun hdrains => hplace (Option.some.inj hdrains), fun _ _ _ hholding => ?_⟩
      exact hplace (Option.some.inj (horderly.symm.trans hholding))
    | pause => exact ⟨rfl, hnone, fun _ _ _ => hnone⟩

/-- That a session is past: the channel is open only in a newer one, which those have to do with who
came after it was shut. -/
structure Past (operations : List Operation) (session : Session) (turns after : List Turn) (w : World) :
    Prop where
  begun : session < w.channel.queues.length
  isOpen : w.channel.isOpen = true → session + 1 < w.channel.queues.length
  newer : ∀ task deed, (deedsOf task after).getLast? = some deed →
    deed = ⟨.getOpen, true⟩ ∨ deed = ⟨.newSession, ()⟩ → session + 1 < w.channel.queues.length
  elsewhere : ∀ task operation, operations[task]? = some operation → operation.kind.Drains →
    deedsOf task after ≠ [] → holding (deedsOf task (turns ++ after)) ≠ some session
  undrained : ∀ turn ∈ after, turn.deed.action.drains? ≠ some session

/-- Whatever a task does after the channel was shut has nothing to do with its last session. -/
theorem Shut.turn (h : Shut builder operations session turns m) (hrun : Run m more after m₁)
    (hpast : Past operations session turns after m₁.world) {move : Move} {turn : Turn}
    (hchange : Change m₁ move (some turn) m₂) :
    (turn.deed.action.atNewest = true → session + 1 < m₁.world.channel.queues.length) ∧
    turn.deed.action.drains? ≠ some session ∧
    ∀ operation, operations[turn.task]? = some operation → operation.kind.Drains →
      turn.deed.holding (holding (deedsOf turn.task (turns ++ after))) ≠ some session := by
  rcases List.eq_nil_or_concat (deedsOf turn.task after) with hfirst | ⟨done, last, hlater⟩
  · obtain ⟨hnewest, hdrains, hholding⟩ := h.first_turn hrun hchange hfirst
    rw [deedsOf_append, hfirst, List.append_nil]
    exact ⟨fun hasks => absurd hasks (Bool.eq_false_iff.1 hnewest), hdrains, hholding⟩
  obtain ⟨_, hstart⟩ := h.run
  obtain ⟨operation, hoperation, hmay, horderly⟩ := (hstart.trans hrun).next_rule hchange
  obtain ⟨hmet, -, hcomes⟩ := hchange.comes
  rw [hmet] at hcomes
  have hbegun : deedsOf turn.task after ≠ [] := by simp [hlater]
  -- To find the channel open or to begin a session takes a later one, because it was shut before.
  have hlast : ∀ deed, (deedsOf turn.task (turns ++ after)).getLast? = some deed →
      deed = ⟨.getOpen, true⟩ ∨ deed = ⟨.newSession, ()⟩ → session + 1 < m₁.world.channel.queues.length := by
    intro deed hdeed
    refine hpast.newer turn.task deed ?_
    rw [deedsOf_append, hlater] at hdeed
    simpa [hlater] using hdeed
  obtain ⟨task, ⟨action, answer⟩, w, w'⟩ := turn
  have hasks : action.atNewest = true → session + 1 < m₁.world.channel.queues.length := by
    intro hnewest
    cases action with
    | getSession => exact hlast _ horderly (.inl rfl)
    | setOpen isOpen =>
      cases isOpen with
      | true => exact hlast _ horderly (.inr rfl)
      | false => cases hnewest
    | _ => cases hnewest
  have helsewhere := hpast.elsewhere task operation hoperation
  refine ⟨hasks, fun hdrains => ?_, fun operation' hoperation' hkind => ?_⟩
  · refine helsewhere (Kind.drains_of_may hmay hdrains) hbegun ?_
    exact holding_of_alters horderly (Action.alters?_of_drains? hdrains)
  · obtain rfl := Option.some.inj (hoperation.symm.trans hoperation')
    cases action with
    | getSession =>
      intro hgiven
      obtain rfl : answer = some session := hgiven
      have hnewest := Channel.session?_eq_some.1 hcomes.session.1.symm
      exact absurd hnewest (Nat.ne_of_gt (hasks rfl))
    | setOpen | pause => exact (Option.some_ne_none session).symm
    | _ => exact helsewhere hkind hbegun

/-- Once a channel was shut, its last session is past for ever. -/
theorem Shut.past (h : Shut builder operations session turns m) (hrun : Run m more after m₁) :
    Past operations session turns after m₁.world := by
  -- By induction on the run: nobody comes to hold a session that is past, and it stays so while nobody holds it.
  refine hrun.history (Past operations session turns) ?_ ?_ ?_
  · refine ⟨h.sessions ▸ Nat.lt_succ_self session, fun hopen => ?_, fun _ _ hlast => ?_,
      fun _ _ _ _ hbegun => absurd rfl hbegun, List.forall_mem_nil _⟩
    · exact absurd (h.isOpen.symm.trans hopen) Bool.false_ne_true
    · cases hlast
  · exact fun _ ih => ⟨ih.begun, ih.isOpen, ih.newer, ih.elsewhere, ih.undrained⟩
  intro moves after m₁ m₂ move task action answer hrun hchange hcomes ih
  obtain ⟨hasks, hdrains, hholding⟩ := h.turn hrun ih hchange
  have hle := hcomes.sessions_le
  refine ⟨Nat.lt_of_lt_of_le ih.begun hle, fun hopen => ?_, fun other deed hlast hdeed => ?_, ?_,
    List.forall_mem_append.2 ⟨ih.undrained, List.forall_mem_singleton.2 hdrains⟩⟩
  · by_cases hset : ∃ isOpen, action = .setOpen isOpen
    · obtain ⟨isOpen, rfl⟩ := hset
      obtain rfl : isOpen = true := hcomes.isOpen_of_set.symm.trans hopen
      exact Nat.lt_of_lt_of_le (hasks rfl) hle
    · rw [hcomes.frame.isOpen (not_exists.1 hset)] at hopen
      exact Nat.lt_of_lt_of_le (ih.isOpen hopen) hle
  · rw [deedsOf_append, deedsOf_singleton] at hlast
    by_cases hown : task = other
    · rw [if_pos hown, List.getLast?_concat] at hlast
      obtain rfl := Option.some.inj hlast
      rcases hdeed with hdeed | hdeed
      · cases hdeed
        exact Nat.lt_of_lt_of_le (ih.isOpen hcomes.isOpen.symm) hle
      · cases hdeed
        rw [hcomes.sessions_eq]
        exact Nat.succ_lt_succ ih.begun
    · rw [if_neg hown, List.append_nil] at hlast
      exact Nat.lt_of_lt_of_le (ih.newer other deed hlast hdeed) hle
  · intro other operation hoperation hkind
    rw [← List.append_assoc, deedsOf_append, deedsOf_append other (turns ++ after), deedsOf_singleton]
    by_cases hown : task = other
    · subst hown
      rw [if_pos rfl, holding_concat]
      exact fun _ => hholding operation hoperation hkind
    · rw [if_neg hown, List.append_nil, List.append_nil]
      exact ih.elsewhere other operation hoperation hkind

end latecomers

section stranding

variable {builder : Builder} {operations : List Operation} {session : Session} {closer writer : Nat}
  {turns later : List Turn} {moves : List Move} {m m' : Machine Failure Answer}

/-- In a calm channel nobody is about to call. -/
theorem Calm.unannounced (h : Calm turns m) (session : Session) : m.Unannounced session := by
  intro t ht
  obtain ⟨task, htask⟩ := List.mem_iff_getElem?.1 ht
  obtain ⟨ticket, action, next, rfl⟩ | ⟨program, rfl, -⟩ := h.cases htask <;> rfl

/-- Where somebody waits for room, a closing that is left alone drains nothing, and nobody else does. -/
theorem Poised.undrained (h : Poised builder operations session closer turns m)
    (hwaits : m.waitsAt writer session .room = true) (hrun : Run m moves later m')
    (hleft : LeftTo closer session m later) : ∀ turn ∈ later, turn.deed.action.drains? ≠ some session := by
  obtain ⟨_, hstart⟩ := h.run
  have hnoitem := (hstart.starved_sharing h.calm session).2
    (hasSleeper_of_sleepsAt (sleepsAt_of_waitsAt hwaits))
  intro turn hmem hdrains
  obtain ⟨before, after, rfl⟩ := List.append_of_mem hmem
  obtain ⟨_, m₁, _, _, hearlier, hchange⟩ := hrun.cut rfl
  by_cases hown : turn.task = closer
  · have hkind := Kind.drains_of_may (h.may hearlier hchange hown) hdrains
    simp [Kind.Drains, Kind.Opens] at hkind
  · have hroom := ((hleft turn hmem hown).2 (Action.alters?_of_drains? hdrains)).resolve_left fun hitem =>
      Bool.eq_false_iff.1 hnoitem (hasSleeper_of_sleepsAt hitem)
    obtain ⟨operation, action, next, hoperation, -, hpost, hmay, -⟩ := hstart.holding_of_sleepsAt hroom
    obtain ⟨operation', hoperation', hmay', -⟩ := (hstart.trans hearlier).next_rule hchange
    obtain rfl := Option.some.inj (hoperation.symm.trans hoperation')
    have hkind := Kind.drains_of_may hmay' hdrains
    cases action with
    | push =>
      rw [Kind.Drains, hmay.1] at hkind
      simp [Kind.Opens] at hkind
    | _ => cases hpost

/-- A closing that is left alone shuts the channel, if somebody waits for room there. -/
theorem Poised.shut (h : Poised builder operations session closer turns m)
    (hwaits : m.waitsAt writer session .room = true) (hrun : Run m moves later m')
    (hleft : LeftTo closer session m later) (hcalm : Calm (turns ++ later) m')
    {outcome : Outcome Failure Answer} (hended : m'.outcomeOf? closer = some outcome) :
    Shut builder operations session (turns ++ later) m' := by
  obtain ⟨before, hstart⟩ := h.run
  have hstays := (hrun.sleeps_on (h.calm.unannounced session) (h.undrained hwaits hrun hleft)).2 writer hwaits
  have hwaits' : m'.waitsAt writer session .room = true := by
    rw [waitsAt, hstays]
    exact hwaits
  exact ⟨⟨_, hstart.trans hrun⟩, (h.returned hrun hleft hended).2.1, (h.underway hrun hleft).sessions, hcalm,
    ((hstart.trans hrun).starved_sharing hcalm session).2
      (hasSleeper_of_sleepsAt (sleepsAt_of_waitsAt hwaits'))⟩

/-- A write that waits for room when the channel is closed sleeps on at the very same point, and it does so
for ever, whatever is done with the channel from then on. -/
theorem Poised.close_strands_writes (h : Poised builder operations session closer turns m)
    (hrun : Run m moves later m') (hleft : LeftTo closer session m later) (hcalm : Calm (turns ++ later) m')
    {outcome : Outcome Failure Answer} (hended : m'.outcomeOf? closer = some outcome)
    (hwaits : m.waitsAt writer session .room = true) :
    outcome = .ok .nothing ∧ m'.world.channel.isOpen = false ∧
      ∀ more after m'', Run m' more after m'' → m''.tasks[writer]? = m.tasks[writer]? := by
  obtain ⟨houtcome, hclosed, -⟩ := h.returned hrun hleft hended
  refine ⟨houtcome, hclosed, fun more after m'' hmore => ?_⟩
  have hpast := (h.shut hwaits hrun hleft hcalm hended).past hmore
  have hundrained := List.forall_mem_append.2 ⟨h.undrained hwaits hrun hleft, hpast.undrained⟩
  exact ((hrun.trans hmore).sleeps_on (h.calm.unannounced session) hundrained).2 writer hwaits

end stranding

/-- A write waits for room in a channel when it is closed, which later is opened again, read and reset. -/
def stranding : List Operation := [
  .channel .openPort, .background (.write [97, 98]), .channel .closePort, .channel .openPort,
  .channel (.readAvailable 4), .channel .resetInput]

/-- The channel is opened, and the write sleeps once its first byte is queued. -/
def openingMoves : List Move := List.replicate 26 (.act 0) ++ List.replicate 8 (.act 1)

/-- The channel is closed. -/
def closingMoves : List Move := List.replicate 12 (.act 2)

/-- It is opened again, read without waiting, and reset. -/
def comingMoves : List Move :=
  List.replicate 26 (.act 3) ++ List.replicate 4 (.act 4) ++ [.expire 4, .act 4] ++ List.replicate 5 (.act 5)

/-- A write that waits for room when the channel is closed can be left waiting while the channel is opened, read and
reset. -/
theorem exists_stranded :
    ∃ turns m moves later m' outcome more after m'', Poised narrow stranding 0 2 turns m ∧
      Run m moves later m' ∧ LeftTo 2 0 m later ∧ Calm (turns ++ later) m' ∧
      m'.outcomeOf? 2 = some outcome ∧ m.waitsAt 1 0 .room = true ∧ m'.waitsAt 1 0 .room = true ∧
      Run m' more after m'' ∧ (m''.outcomeOf? 5).isSome = true := by
  obtain ⟨turns, m, later, m', hopening, hrun, ⟨hopen, hsession, hcalm, hfresh, hwaits⟩,
    ⟨hleft, hcalm', hended, hwaits'⟩, hcoming⟩ :
      ∃ turns m later m', Run (sharing narrow stranding) openingMoves turns m ∧ Run m closingMoves later m' ∧
        (m.world.channel.isOpen = true ∧ m.world.channel.session? = some 0 ∧ Calm turns m ∧
          deedsOf 2 turns = [] ∧ m.waitsAt 1 0 .room = true) ∧
        (LeftTo 2 0 m later ∧ Calm (turns ++ later) m' ∧ (m'.outcomeOf? 2).isSome = true ∧
          m'.waitsAt 1 0 .room = true) ∧
        ((m'.run? comingMoves).any fun done => decide ((done.2.outcomeOf? 5).isSome = true)) = true :=
    exists_run_run (by decide +kernel)
  obtain ⟨after, m'', hmore, hended'⟩ :
      ∃ after m'', Run m' comingMoves after m'' ∧ (m''.outcomeOf? 5).isSome = true := exists_run hcoming
  obtain ⟨outcome, hended⟩ := Option.isSome_iff_exists.1 hended
  have hpoised : Poised narrow stranding 0 2 turns m :=
    ⟨⟨_, hopening⟩, hopen, hsession, hcalm, ⟨_, rfl, .channel⟩, hfresh⟩
  exact ⟨turns, m, _, later, m', outcome, _, after, m'', hpoised, hrun, hleft, hcalm', hended, hwaits,
    hwaits', hmore, hended'⟩

/-- In that run, the write sleeps on at the very same point. -/
theorem close_strands_writes_reopened :
    ∃ turns m moves later m' outcome more after m'', Poised narrow stranding 0 2 turns m ∧
      Run m moves later m' ∧ LeftTo 2 0 m later ∧ Calm (turns ++ later) m' ∧
      m'.outcomeOf? 2 = some outcome ∧ m'.world.channel.isOpen = false ∧ Run m' more after m'' ∧
      (m''.outcomeOf? 5).isSome = true ∧ m.waitsAt 1 0 .room = true ∧ m''.tasks[1]? = m.tasks[1]? := by
  obtain ⟨turns, m, moves, later, m', outcome, more, after, m'', hpoised, hrun, hleft, hcalm, hended,
    hwaits, -, hmore, hended'⟩ := exists_stranded
  obtain ⟨-, hclosed, hstays⟩ := hpoised.close_strands_writes hrun hleft hcalm hended hwaits
  exact ⟨turns, m, moves, later, m', outcome, more, after, m'', hpoised, hrun, hleft, hcalm, hended, hclosed,
    hmore, hended', hwaits, hstays more after m'' hmore⟩

/-- Closing does not end the writes that wait for room. -/
theorem not_all_writes_ended :
    ¬∀ (builder : Builder) (operations : List Operation) (session : Session) (closer : Nat)
      (turns : List Turn) (m : Machine Failure Answer) (moves : List Move) (later : List Turn)
      (m' : Machine Failure Answer), Poised builder operations session closer turns m →
      Run m moves later m' → LeftTo closer session m later → Calm (turns ++ later) m' →
      (m'.outcomeOf? closer).isSome = true →
      ∀ writer, m.waitsAt writer session .room = true → m'.sleepsAt writer session .room = false ∧
        ∃ failure, m'.outcomeOf? writer = some (.failed failure) := by
  intro hended
  obtain ⟨turns, m, moves, later, m', outcome, -, -, -, hpoised, hrun, hleft, hcalm, hreturned, hwaits,
    hwaits', -⟩ := exists_stranded
  obtain ⟨hawake, -⟩ := hended narrow stranding 0 2 turns m moves later m' hpoised hrun hleft hcalm
    (hreturned ▸ rfl) 1 hwaits
  exact Bool.eq_false_iff.1 hawake (sleepsAt_of_waitsAt hwaits')

end Machine

end Loopback
