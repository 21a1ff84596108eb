import Loopback.Proofs.Channel.Closing

/-!
# Reading until the channel is closed

One task reads again and again until the channel is not open, and another one closes it. The closing puts
its mark into the queue before it closes the channel. So the reader may take the mark, begin to read anew
and find the channel still open: then it waits for what never comes. In no other way is it left asleep.
-/

namespace Loopback

open Program

namespace Channel

/-- Read again and again, each time up to a given size, until the channel is not open. -/
def readOn : List Nat → Operation Unit
  | [] => .done ()
  | size :: sizes => do
    let _ ← read size
    readOn sizes

/-- By induction on the sizes: each read keeps to the order, and so does what follows it. -/
theorem obeys_readOn (sizes : List Nat) {seen : List Deed} :
    (readOn sizes).Obeys Kind.reading.rule seen := by
  induction sizes generalizing seen with
  | nil => exact obeys_done
  | cons size sizes ih => exact (obeys_read size).bind fun _ _ => ih

/-- Nothing is waited for unless the channel was found open just before. -/
def watchful : Rule := fun seen action =>
  match action with
  | .pop _ _ => ∃ earlier now, seen = earlier ++ [⟨.getOpen, true⟩, ⟨.getClock, now⟩]
  | _ => True

/-- By induction on how many elements are missing: the channel is found open before each wait. -/
theorem watchful_takeWaiting {session : Session} {timeout : Option Duration}
    {deadline : Option Duration.Instant} (size : Nat) (taken : List UInt8) {seen : List Deed} :
    (takeWaiting session timeout deadline size taken).Obeys watchful seen := by
  induction size generalizing seen taken with
  | zero => exact obeys_done
  | succ left ih =>
    refine obeys_act.2 ⟨trivial, fun isOpen => ?_⟩
    cases isOpen with
    | false => exact obeys_done
    | true =>
      refine obeys_act.2 ⟨trivial, fun now => obeys_act.2 ⟨⟨seen, now, by simp⟩, fun item => ?_⟩⟩
      match item with
      | none | some .endOfStream => exact obeys_done
      | some (.byte byte) =>
        have hpassed : ∀ more, (deadlinePassed deadline).Obeys watchful more := fun more => by
          cases deadline with
          | none => exact obeys_done
          | some instant => exact obeys_act.2 ⟨trivial, fun _ => obeys_done⟩
        refine (hpassed _).bind fun passed more => ?_
        cases passed with
        | true => exact obeys_done
        | false => exact ih _

/-- By induction on the sizes: each read looks before it waits. -/
theorem watchful_readOn (sizes : List Nat) {seen : List Deed} : (readOn sizes).Obeys watchful seen := by
  induction sizes generalizing seen with
  | nil => exact obeys_done
  | cons size sizes ih =>
    refine Obeys.bind ?_ fun _ _ => ih
    refine obeys_act.2 ⟨trivial, fun isOpen => ?_⟩
    cases isOpen with
    | false => exact obeys_fail
    | true =>
      refine obeys_act.2 ⟨trivial, fun current => ?_⟩
      cases current with
      | none => exact obeys_fail
      | some session =>
        refine obeys_act.2 ⟨trivial, fun settings => obeys_act.2 ⟨trivial, fun now => ?_⟩⟩
        exact watchful_takeWaiting size []

end Channel

/-- A channel that has, if it is open, a queue which is in order and holds no mark of the end. -/
def World.Unclosed (w : World) : Prop :=
  w.channel.isOpen = true → ∃ session q, w.channel.session? = some session ∧
    w.channel.queues[session]? = some q ∧ q.Sound ∧ .endOfStream ∉ q.items

namespace Machine

/-- A channel that one task reads again and again, and another one closes. -/
def readUntilClosed (w : World) (sizes : List Nat) : Machine PortFailure Unit :=
  ofPrograms w [Channel.readOn sizes, Channel.closePort]

/-- What tasks did, in the order in which they did it. -/
def deedsInOrder (turns : List Turn) : List (Nat × Deed) := turns.map fun turn => (turn.task, turn.deed)

/-- What a task did, it did at some point of the order. -/
theorem mem_deedsInOrder {task : Nat} {deed : Deed} {turns : List Turn} :
    (task, deed) ∈ deedsInOrder turns ↔ deed ∈ deedsOf task turns := by
  simp [deedsInOrder, deedsOf, and_assoc]

section rereading

variable {w : World} {sizes : List Nat} {m m' : Machine PortFailure Unit} {moves : List Move}
  {turns : List Turn}

/-- The first task of such a channel is its reader. -/
theorem programOf?_reader : (readUntilClosed w sizes).programOf? 0 = some (Channel.readOn sizes) := rfl

/-- The second task of such a channel closes it. -/
theorem programOf?_closer : (readUntilClosed w sizes).programOf? 1 = some Channel.closePort := rfl

/-- Each turn is one of the reader, or one of the closing. -/
theorem Run.reads_or_closes (hrun : Run (readUntilClosed w sizes) moves turns m) :
    ∀ turn ∈ turns, turn.task = 0 ∧ Kind.reading.may turn.deed.action ∨
      turn.task = 1 ∧ Kind.closing.may turn.deed.action := by
  intro turn hturn
  have hlt : turn.task < 2 := hrun.task_lt turn hturn
  obtain ⟨before, after, rfl⟩ := List.append_of_mem hturn
  rcases Nat.lt_or_ge turn.task 1 with hreader | hcloser
  · have hown : turn.task = 0 := Nat.lt_one_iff.1 hreader
    have hrule : Kind.reading.rule (deedsOf turn.task before) turn.deed.action := hrun.obeys fun p hp => by
      rw [hown, programOf?_reader] at hp
      exact Option.some.inj hp ▸ Channel.obeys_readOn sizes
    exact .inl ⟨hown, hrule.1⟩
  · have hown : turn.task = 1 := by omega
    have hrule : Kind.closing.rule (deedsOf turn.task before) turn.deed.action := hrun.obeys fun p hp => by
      rw [hown, programOf?_closer] at hp
      exact Option.some.inj hp ▸ Channel.obeys_closePort (.inl rfl)
    exact .inr ⟨hown, hrule.1⟩

/-- The reader neither opens nor closes the channel, nor begins a session. -/
theorem Run.reader_shifts_nothing (hrun : Run (readUntilClosed w sizes) moves turns m) :
    ∀ turn ∈ turns, turn.task ≠ 1 → turn.deed.action.shifts = false := by
  intro turn hturn hne
  obtain ⟨-, hmay⟩ := (hrun.reads_or_closes turn hturn).resolve_right fun h => hne h.1
  cases haction : turn.deed.action with
  | setOpen isOpen =>
    rw [haction] at hmay
    cases isOpen <;> simp [Kind.may, Kind.Opens, Kind.Closes] at hmay
  | newSession =>
    rw [haction] at hmay
    simp [Kind.may, Kind.Opens] at hmay
  | _ => rfl

/-- The closing of an open channel goes as if nobody read it. -/
theorem Run.closer_underway (hrun : Run (readUntilClosed w sizes) moves turns m)
    (hopen : w.channel.isOpen = true) {session : Session} (hsession : w.channel.session? = some session) :
    Underway session (deedsOf 1 turns) m.world :=
  hrun.underway hopen hsession programOf?_closer (along_closePort session)
    (Channel.obeys_closePort (.inl rfl)) hrun.reader_shifts_nothing

/-- A closing of an open channel that has returned has put its mark and closed the channel. -/
theorem Run.closer_returned (hrun : Run (readUntilClosed w sizes) moves turns m)
    (hopen : w.channel.isOpen = true) {session : Session} (hsession : w.channel.session? = some session)
    {outcome : Outcome PortFailure Unit} (hended : m.outcomeOf? 1 = some outcome) :
    (deedsOf 1 turns).flatMap (Deed.put session) = [.endOfStream] ∧
      ⟨.setOpen false, ()⟩ ∈ deedsOf 1 turns := by
  obtain ⟨q, hq, hleads⟩ := hrun.leads programOf?_closer
  have hanswered := (hrun.closer_underway hopen hsession).answered
  exact (((along_closePort session).leads hleads hanswered).ended outcome (stand_of_outcomeOf? hq hended)).2

/-- A reader that sleeps found the channel open just before, and goes by the session that was given. -/
theorem Run.reader_looked (hrun : Run (readUntilClosed w sizes) moves turns m) {session : Session}
    (hsleeps : m.sleepsAt 0 session .item = true) :
    ⟨.getSession, some session⟩ ∈ deedsOf 0 turns ∧
      ∃ earlier now, deedsOf 0 turns = earlier ++ [⟨.getOpen, true⟩, ⟨.getClock, now⟩] := by
  obtain ⟨ticket, action, next, htask, hpost⟩ := sleepsAt_iff.1 hsleeps
  obtain ⟨q, hq, hleads⟩ := hrun.leads programOf?_reader
  obtain rfl := Option.some.inj ((programOf?_of_getElem? htask).symm.trans hq)
  have hreads : (Channel.readOn sizes).Obeys Kind.reading.rule [] := Channel.obeys_readOn sizes
  have hwatches : (Channel.readOn sizes).Obeys Channel.watchful [] := Channel.watchful_readOn sizes
  have hrule := (obeys_act.1 (hreads.leads hleads)).1
  have hlooked := (obeys_act.1 (hwatches.leads hleads)).1
  cases action with
  | pop s deadline =>
    cases hpost
    exact ⟨mem_of_holding hrule.2, hlooked⟩
  | _ => cases hpost

/-- Whoever is told that the channel is open, it is. -/
theorem Run.isOpen_of_looked {ε α : Type} {start m : Machine ε α} {moves : List Move}
    {before after : List Turn} {turn : Turn} (hrun : Run start moves (before ++ turn :: after) m)
    (hdeed : turn.deed = ⟨.getOpen, true⟩) :
    ∃ earlier m₁, Run start earlier before m₁ ∧ m₁.world.channel.isOpen = true := by
  obtain ⟨earlier, m₁, _, hearlier, hcomes⟩ := hrun.meets
  rw [hdeed] at hcomes
  exact ⟨earlier, m₁, hearlier, hcomes.isOpen.symm⟩

/-- A channel that is closed from the start stays closed. -/
theorem Run.stays_closed (hrun : Run (readUntilClosed w sizes) moves turns m)
    (hclosed : w.channel.isOpen = false) : m.world.channel.isOpen = false := by
  refine hrun.world (fun w => w.channel.isOpen = false) hclosed (fun _ => id) fun turn hturn hbefore => ?_
  have hcomes := hrun.comes hturn
  have hmay := hrun.reads_or_closes turn hturn
  obtain ⟨task, ⟨action, answer⟩, w₁, w₂⟩ := turn
  by_cases hset : ∃ isOpen, action = .setOpen isOpen
  · obtain ⟨isOpen, rfl⟩ := hset
    cases isOpen with
    | false => exact hcomes.isOpen_of_set
    | true => simp [Kind.may, Kind.Opens] at hmay
  · exact (hcomes.frame.isOpen (not_exists.1 hset)).trans hbefore

/-- No other session is given than the one that the channel was open in. -/
theorem Run.session_of_given (hrun : Run (readUntilClosed w sizes) moves turns m)
    (hopen : w.channel.isOpen = true) {session given : Session} (hsession : w.channel.session? = some session)
    (hgiven : ⟨.getSession, some given⟩ ∈ deedsOf 0 turns) : given = session := by
  obtain ⟨before, turn, after, rfl, -, hdeed⟩ := exists_turn_of_mem_deedsOf hgiven
  obtain ⟨earlier, m₁, _, hearlier, hcomes⟩ := hrun.meets
  rw [hdeed] at hcomes
  have hcurrent := Channel.session?_eq_some.2 (hearlier.closer_underway hopen hsession).sessions
  exact Option.some.inj (hcomes.session.1.trans hcurrent)

/-- Where the closing has returned and the reader sleeps, all that was queued has been taken, the mark
last. -/
theorem Run.removed_of_asleep (hrun : Run (readUntilClosed w sizes) moves turns m)
    (hopen : w.channel.isOpen = true) {session : Session} (hsession : w.channel.session? = some session)
    {q : Queue} (hq : w.channel.queues[session]? = some q) (hsound : q.Sound)
    {outcome : Outcome PortFailure Unit} (hended : m.outcomeOf? 1 = some outcome)
    (hsleeps : m.sleepsAt 0 session .item = true) :
    removed session turns = q.items ++ [.endOfStream] := by
  have hlength : m.tasks.length = 2 := hrun.length_tasks
  have hrest : ∀ t ∈ m.tasks, t.Resting := by
    intro t ht
    obtain ⟨i, htask⟩ := List.mem_iff_getElem?.1 ht
    obtain ⟨ticket, action, next, hasleep, -⟩ := sleepsAt_iff.1 hsleeps
    match i with
    | 0 =>
      obtain rfl := Option.some.inj (hasleep.symm.trans htask)
      trivial
    | 1 =>
      rw [outcomeOf?, htask] at hended
      cases t with
      | running program => exact Option.isSome_of_eq_some hended
      | _ => cases hended
    | i + 2 => simp [hlength] at htask
  -- As all rest, nothing is queued where the reader sleeps.
  obtain ⟨q', hq', -, hitems⟩ := hrun.queue hq
  have hempty : q'.items = [] := by
    obtain ⟨t, ht, hslept⟩ := hasSleeper_iff.1 (hasSleeper_of_sleepsAt hsleeps)
    exact List.length_eq_zero_iff.1 ((hrun.attended hq hsound hq' .item).of_resting hrest ⟨t, ht, hslept⟩)
  have hput : accepted session turns = [.endOfStream] := by
    rw [← (hrun.closer_returned hopen hsession hended).1, accepted]
    refine flatMap_deedsOf fun turn hturn hne => ?_
    obtain ⟨-, hmay⟩ := (hrun.reads_or_closes turn hturn).resolve_right fun h => hne h.1
    obtain ⟨task, ⟨action, answer⟩, w₁, w₂⟩ := turn
    cases action with
    | push | append => simp [Kind.may, Kind.Closes] at hmay
    | _ => rfl
  simpa [hput, hempty] using hitems.symm

/-- The reader has taken the mark if it was taken. -/
theorem Run.mark_taken (hrun : Run (readUntilClosed w sizes) moves turns m) {session : Session}
    (hremoved : Item.endOfStream ∈ removed session turns) :
    ∃ deadline, ⟨.pop session deadline, some .endOfStream⟩ ∈ deedsOf 0 turns := by
  obtain ⟨turn, hturn, htaken⟩ := List.mem_flatMap.1 hremoved
  have hmay := hrun.reads_or_closes turn hturn
  have hdrains := Action.drains?_of_removed (List.ne_nil_of_mem htaken)
  have hdeed := mem_deedsOf_of_mem hturn
  obtain ⟨task, ⟨action, answer⟩, w₁, w₂⟩ := turn
  cases action with
  | pop s deadline =>
    obtain rfl : s = session := Option.some.inj hdrains
    simp only [Kind.may, reduceCtorEq, and_false, or_false, and_true] at hmay
    obtain rfl : task = 0 := hmay
    simp only [Turn.removed, Deed.popped, if_true, Option.mem_toList] at htaken
    exact ⟨deadline, htaken ▸ hdeed⟩
  | clear => simp [Kind.may, Kind.Opens] at hmay
  | _ => cases hdrains

/-- The mark has been put before it is taken. -/
theorem Run.mark_put {before after : List Turn} {turn : Turn}
    (hrun : Run (readUntilClosed w sizes) moves (before ++ turn :: after) m) {session : Session} {q : Queue}
    (hq : w.channel.queues[session]? = some q) (hmark : .endOfStream ∉ q.items)
    {deadline : Option Duration.Instant}
    (hdeed : turn.deed = ⟨.pop session deadline, some .endOfStream⟩) :
    (1, ⟨.append session .endOfStream, ()⟩) ∈ deedsInOrder before := by
  obtain ⟨earlier, m₁, move, m₂, hearlier, hchange⟩ := hrun.cut rfl
  obtain ⟨q₁, hq₁, -, hbefore⟩ := hearlier.queue hq
  obtain ⟨q₂, -, -, hturn⟩ := hchange.queue hq₁
  -- What was queued at first and put since is what was taken and what is left, and so it contains the mark.
  have hall : q.items ++ accepted session before = removed session before ++ .endOfStream :: q₂.items := by
    rw [hbefore]
    have hremoved : turn.removed session = [.endOfStream] := by
      rw [removed_eq_popped (by rw [hdeed]; exact nofun), hdeed]
      simp [Deed.popped]
    have hput : turn.deed.put session = [] := by
      rw [hdeed]
      rfl
    simpa [accepted, removed, hremoved, hput] using hturn
  have hmem : Item.endOfStream ∈ accepted session before := by
    have hmem : Item.endOfStream ∈ q.items ++ accepted session before := by simp [hall]
    exact (List.mem_append.1 hmem).resolve_left hmark
  obtain ⟨putting, hputting, hput⟩ := List.mem_flatMap.1 hmem
  refine List.mem_map.2 ⟨putting, hputting, ?_⟩
  have hmay := hrun.reads_or_closes putting (List.mem_append_left _ hputting)
  obtain ⟨task, ⟨action, answer⟩, w₁, w₂⟩ := putting
  cases action with
  | push => simp [Kind.may] at hmay
  | append s item =>
    simp only [Kind.may, Kind.Closes, reduceCtorEq, or_self, false_and, and_false, true_or, true_and,
      false_or] at hmay
    obtain ⟨rfl, rfl⟩ := hmay
    simp only [Deed.put, List.mem_ite_nil_right, List.mem_singleton, and_true] at hput
    rw [hput]
  | _ => cases hput

/-- A reader that sleeps in a channel whose closing has returned took the mark, and found the channel open
once more, after the mark was put and before the channel was closed. -/
theorem Run.looked_between (hrun : Run (readUntilClosed w sizes) moves turns m) (hw : w.Unclosed)
    {outcome : Outcome PortFailure Unit} (hended : m.outcomeOf? 1 = some outcome) {session : Session}
    (hsleeps : m.sleepsAt 0 session .item = true) :
    ∃ deadline, List.Sublist [
      (1, ⟨.append session .endOfStream, ()⟩), (0, ⟨.pop session deadline, some .endOfStream⟩),
      (0, ⟨.getOpen, true⟩), (1, ⟨.setOpen false, ()⟩)] (deedsInOrder turns) := by
  obtain ⟨hgiven, earlier, now, hdeeds⟩ := hrun.reader_looked hsleeps
  obtain ⟨before, look, after, rfl, hlook, hlooked, rfl⟩ := exists_turn_of_deedsOf hdeeds
  obtain ⟨_, m₁, hbefore, hstill⟩ := hrun.isOpen_of_looked hlooked
  cases hopen : w.channel.isOpen with
  | false =>
    rw [hbefore.stays_closed hopen] at hstill
    cases hstill
  | true =>
    obtain ⟨current, q, hsession, hq, hsound, hmark⟩ := hw hopen
    obtain rfl := hrun.session_of_given hopen hsession hgiven
    have hremoved := hrun.removed_of_asleep hopen hsession hq hsound hended hsleeps
    obtain ⟨deadline, htaken⟩ := hrun.mark_taken (by rw [hremoved]; simp)
    -- The mark is none of the last two deeds, so the reader looked after it took the mark.
    have htaken : ⟨.pop session deadline, some .endOfStream⟩ ∈ deedsOf 0 before := by
      rw [hdeeds] at htaken
      rcases List.mem_append.1 htaken with htaken | htaken
      · exact htaken
      · rcases List.mem_cons.1 htaken with htaken | htaken
        · cases htaken
        · cases List.mem_singleton.1 htaken
    obtain ⟨first, taking, between, rfl, htaker, htook⟩ := exists_turn_of_mem_deedsOf htaken
    have hput : (1, ⟨.append session .endOfStream, ()⟩) ∈ deedsInOrder first := by
      rw [List.append_assoc, List.cons_append] at hrun
      exact hrun.mark_put hq hmark htook
    -- The channel was open at that look, so it was closed after it.
    have hclosing : (1, ⟨.setOpen false, ()⟩) ∈ deedsInOrder after := by
      have hset := (hrun.closer_returned hopen hsession hended).2
      have hnot : ⟨.setOpen false, ()⟩ ∉ deedsOf 1 (first ++ taking :: between) := fun hset => by
        rw [(hbefore.closer_underway hopen hsession).isClosed hset] at hstill
        cases hstill
      rw [deedsOf_append, List.mem_append] at hset
      rcases List.mem_cons.1 (mem_deedsInOrder.2 (hset.resolve_left hnot)) with hsame | hlater
      · exact absurd ((congrArg Prod.fst hsame).trans hlook) Nat.one_ne_zero
      · exact hlater
    refine ⟨deadline, ?_⟩
    have hturns : deedsInOrder ((first ++ taking :: between) ++ look :: after) =
        deedsInOrder first ++ ((0, ⟨.pop session deadline, some .endOfStream⟩) ::
          (deedsInOrder between ++ (0, ⟨.getOpen, true⟩) :: deedsInOrder after)) := by
      simp [deedsInOrder, htaker, htook, hlook, hlooked]
    rw [hturns]
    refine List.Sublist.append (List.singleton_sublist.2 hput) (.cons_cons _ ?_)
    exact (List.nil_sublist _).append (.cons_cons _ (List.singleton_sublist.2 hclosing))

end rereading

/-- The channel with room for one byte, just opened. -/
def openNarrow : World where
  channel := { narrow.build with isOpen := true, queues := [Queue.create 1] }
  now := 0
  journal := []

/-- A channel that was just opened holds no mark of the end. -/
theorem unclosed_openNarrow : openNarrow.Unclosed :=
  fun _ => ⟨0, Queue.create 1, rfl, rfl, Queue.sound_create 1, List.not_mem_nil⟩

/-- The reader sleeps when the closing begins, is woken by the mark, takes it and reads anew, all before
the channel is closed. -/
def rereadingMoves : List Move :=
  List.replicate 7 (.act 0) ++ List.replicate 4 (.act 1) ++ [.wake 1 0] ++ List.replicate 8 (.act 0) ++
    List.replicate 7 (.act 1)

/-- A reader can sleep on after the closing is done, having taken the mark and looked in time to find the channel
open. -/
theorem exists_rereading :
    ∃ turns m, Run (readUntilClosed openNarrow [1, 1]) rereadingMoves turns m ∧
      (m.outcomeOf? 1).isSome = true ∧ m.sleepsAt 0 0 .item = true :=
  exists_run (by decide +kernel)

/-- That reader looked between the mark and the closing. -/
theorem looked_between_rereading :
    ∃ turns m outcome deadline, Run (readUntilClosed openNarrow [1, 1]) rereadingMoves turns m ∧
      openNarrow.Unclosed ∧ m.outcomeOf? 1 = some outcome ∧ m.sleepsAt 0 0 .item = true ∧
      List.Sublist [
        (1, ⟨.append 0 .endOfStream, ()⟩), (0, ⟨.pop 0 deadline, some .endOfStream⟩),
        (0, ⟨.getOpen, true⟩), (1, ⟨.setOpen false, ()⟩)] (deedsInOrder turns) := by
  obtain ⟨turns, m, hrun, hended, hsleeps⟩ := exists_rereading
  obtain ⟨outcome, hended⟩ := Option.isSome_iff_exists.1 hended
  obtain ⟨deadline, hlooked⟩ := hrun.looked_between unclosed_openNarrow hended hsleeps
  exact ⟨turns, m, outcome, deadline, hrun, unclosed_openNarrow, hended, hsleeps, hlooked⟩

/-- A reader that goes on until the channel is not open may be left asleep by the closing. -/
theorem not_always_woken :
    ¬∀ (w : World) (sizes : List Nat) (moves : List Move) (turns : List Turn)
      (m : Machine PortFailure Unit), w.Unclosed → w.channel.settings.readTimeout = none →
      (∀ size ∈ sizes, 1 ≤ size) → Run (readUntilClosed w sizes) moves turns m →
      (m.outcomeOf? 1).isSome = true → ∀ session, m.sleepsAt 0 session .item = false := by
  intro hwoken
  obtain ⟨turns, m, hrun, hended, hsleeps⟩ := exists_rereading
  have hawake := hwoken openNarrow [1, 1] rereadingMoves turns m unclosed_openNarrow rfl (by decide) hrun
    hended 0
  rw [hsleeps] at hawake
  cases hawake

end Machine

end Loopback
