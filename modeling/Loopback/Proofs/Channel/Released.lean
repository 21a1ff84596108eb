import Loopback.Proofs.Channel.Closing

/-!
# What closing releases

Closing puts one mark of the end into the queue and calls one sleeper. So of the reads that sleep there,
one takes the mark and answers what it has gathered, and the others sleep on, because there is
nothing else to be had in that session.
-/

namespace Loopback

namespace Machine

section reading

variable {builder : Builder} {operations : List Operation} {session : Session} {closer : Nat}
  {turns later : List Turn} {moves : List Move} {m m' : Machine Failure Answer}

/-- That all who sleep at the queue for an element read the channel, and wait for as long as it takes. -/
def ReadersWait (operations : List Operation) (session : Session) (m : Machine Failure Answer) : Prop :=
  ∀ task, m.sleepsAt task session .item = true →
    m.waitsAt task session .item = true ∧ ∃ operation, operations[task]? = some operation ∧ operation.Reads

/-- A reader that sleeps waits for an element for as long as it takes. -/
theorem ReadersWait.program (h : ReadersWait operations session m) {task : Nat}
    (hsleeps : m.sleepsAt task session .item = true) :
    ∃ next, m.programOf? task = some (.act (.pop session none) next) := by
  obtain ⟨ticket, action, next, htask, hpost, hdeadline⟩ := waitsAt_iff.1 (h task hsleeps).1
  cases action with
  | pop s deadline =>
    cases hpost
    obtain rfl : deadline = none := hdeadline
    exact ⟨next, programOf?_of_getElem? htask⟩
  | _ => cases hpost

/-- A pop that waits for as long as it takes is answered with an element. -/
theorem Run.item_of_pop (hrun : Run (sharing builder operations) moves turns m) {move : Move} {turn : Turn}
    (hchange : Change m move (some turn) m') {answer : Option Item}
    (hdeed : turn.deed = ⟨.pop session none, answer⟩) : ∃ item, answer = some item := by
  obtain ⟨operation, -, -, horderly⟩ := hrun.next_rule hchange
  rw [hdeed] at horderly
  obtain ⟨q, hq⟩ : ∃ q, m.world.channel.queues[session]? = some q :=
    ⟨_, List.getElem?_eq_getElem (hrun.holding_lt horderly)⟩
  cases hchange with
  | answered htask hreply =>
    cases hdeed
    obtain ⟨q', -, heffect⟩ := Action.effect_of_run hreply hq
    cases heffect with
    | popped => exact ⟨_, rfl⟩
    | elsewhere helsewhere => exact absurd rfl helsewhere
  | gaveUp htask =>
    cases hdeed
    have hreach := reachable_iff_run.2 ⟨moves, turns, hrun⟩
    exact absurd rfl (hreach.deadline_of_lapsed (List.mem_of_getElem? htask))

/-- A reader that has taken the mark has ended, and answers what it had gathered before. -/
theorem Poised.taker_ended (h : Poised builder operations session closer turns m)
    (hreaders : ReadersWait operations session m) {task : Nat}
    (hsleeps : m.sleepsAt task session .item = true) (hrun : Run m moves later m')
    (hdeeds : deedsOf task later = [⟨.pop session none, some .endOfStream⟩]) {p : Job}
    (hp : m'.programOf? task = some p) :
    ∃ answer, p.stand = .ended (.ok answer) ∧
      (deedsOf task turns).flatMap Deed.taken = bytesIn session answer.bytesRead := by
  obtain ⟨_, hstart⟩ := h.run
  obtain ⟨-, operation, hoperation, hreads⟩ := hreaders task hsleeps
  obtain ⟨operation', hoperation', hleads⟩ := (hstart.trans hrun).leads_job hp
  obtain rfl := Option.some.inj (hoperation'.symm.trans hoperation)
  obtain ⟨place, size, hgathered⟩ := hreads.gathers.leads hleads
  rw [deedsOf_append, hdeeds, List.flatMap_append] at hgathered
  obtain ⟨bytes, answer, htaken, hstand, rfl⟩ := hgathered.of_mark
  exact ⟨answer, hstand, htaken⟩

/-- What each of those who sleep there has done: at most one of them has taken the mark. -/
def Taken (session : Session) (m : Machine Failure Answer) (later : List Turn) : Prop :=
  ∃ taker : Option Nat,
    (∀ task, m.sleepsAt task session .item = true → deedsOf task later =
      if taker = some task then [⟨.pop session none, some .endOfStream⟩] else []) ∧
    (taker.isSome = true → removed session later ≠ [])

/-- Those who sleep there put nothing into the queue, so only the closing does. -/
theorem Poised.put_eq_nil (h : Poised builder operations session closer turns m)
    (hsleeper : m.hasSleeper session .item = true) (hleft : LeftTo closer session m later)
    (htaken : Taken session m later) : ∀ turn ∈ later, turn.task ≠ closer → turn.deed.put session = [] := by
  obtain ⟨_, hstart⟩ := h.run
  obtain ⟨-, hnoroom⟩ := hstart.starved_sharing h.calm session
  obtain ⟨taker, hdeeds, -⟩ := htaken
  intro turn hmem hne
  by_cases halters : turn.deed.action.alters? = some session
  · have hslept := ((hleft turn hmem hne).2 halters).resolve_right fun hroom =>
      Bool.eq_false_iff.1 (hnoroom (hasSleeper_of_sleepsAt hroom)) hsleeper
    have hdeed := mem_deedsOf_of_mem hmem
    rw [hdeeds _ hslept] at hdeed
    split at hdeed
    · rw [List.mem_singleton.1 hdeed]
      rfl
    · cases hdeed
  · exact Action.put_eq_nil halters _

/-- The first turn of one who sleeps there is to take the mark, if nobody has done so before. -/
theorem Poised.takes_mark (h : Poised builder operations session closer turns m)
    (hreaders : ReadersWait operations session m) (hrun : Run m moves later m')
    (hleft : LeftTo closer session m later) (htaken : Taken session m later) {move : Move}
    {m'' : Machine Failure Answer} {turn : Turn} (hchange : Change m' move (some turn) m'')
    (hsleeps : m.sleepsAt turn.task session .item = true) (hfirst : deedsOf turn.task later = []) :
    turn.deed = ⟨.pop session none, some .endOfStream⟩ ∧ removed session later = [] := by
  obtain ⟨_, hstart⟩ := h.run
  have hsleeper := hasSleeper_of_sleepsAt hsleeps
  have hempty := (hstart.starved_sharing h.calm session).1 hsleeper
  obtain ⟨next, hprogram⟩ := hreaders.program hsleeps
  obtain ⟨p, hp, hleads⟩ := hrun.leads hprogram
  rw [hfirst] at hleads
  obtain rfl := hleads.eq_of_nil
  obtain ⟨task, ⟨action, answer⟩, w, w'⟩ := turn
  obtain ⟨next', hprogram', -⟩ := hchange.programOf?_turn
  cases hp.symm.trans hprogram'
  obtain ⟨item, rfl⟩ := (hstart.trans hrun).item_of_pop hchange rfl
  -- What is taken was put there, and so it is the mark, and nothing was taken before it.
  obtain ⟨q, hq⟩ := h.queue
  rw [World.items_of_queue hq] at hempty
  obtain ⟨q₁, hq₁, -, hbefore⟩ := hrun.queue hq
  obtain ⟨q₂, -, -, hturn⟩ := hchange.queue hq₁
  have hall : accepted session later = removed session later ++ item :: q₂.items := by
    simp only [hempty, List.nil_append] at hbefore
    rw [hbefore]
    simpa [accepted, removed, Turn.removed, Deed.put, Deed.popped] using hturn
  rcases h.accepted_cases hrun hleft (h.put_eq_nil hsleeper hleft htaken) with hnone | hmark
  · rw [hnone] at hall
    exact absurd hall.symm (by simp)
  · rw [hmark] at hall
    cases hremoved : removed session later with
    | nil =>
      rw [hremoved, List.nil_append] at hall
      obtain ⟨rfl, -⟩ := List.cons.inj hall
      exact ⟨rfl, rfl⟩
    | cons => simp [hremoved] at hall

/-- Of those who sleep there, one at most takes the mark, and that is all they do. -/
theorem Poised.taken (h : Poised builder operations session closer turns m)
    (hreaders : ReadersWait operations session m) (hrun : Run m moves later m')
    (hleft : LeftTo closer session m later) : Taken session m later := by
  refine hrun.history (fun later _ => LeftTo closer session m later → Taken session m later)
    (fun _ => ⟨none, fun _ _ => rfl, nofun⟩) (fun _ => id) ?_ hleft
  intro moves later m₁ m₂ move task action answer hrun hchange hcomes ih hleft
  obtain ⟨hbefore, -⟩ := List.forall_mem_append.1 hleft
  have htaken := ih hbefore
  obtain ⟨taker, hdeeds, hremoved⟩ := id htaken
  have hothers : ∀ other, task ≠ other →
      deedsOf other (later ++ [⟨task, ⟨action, answer⟩, m₁.world, m₂.world⟩]) = deedsOf other later := by
    intro other hne
    rw [deedsOf_append, deedsOf_singleton, if_neg hne, List.append_nil]
  by_cases hsleeps : m.sleepsAt task session .item = true
  · -- A sleeper that has taken the mark makes no other turn, so this is its first.
    have hfirst : taker ≠ some task := by
      intro htask
      have hdone := hdeeds task hsleeps
      rw [if_pos htask] at hdone
      obtain ⟨next, hprogram, -⟩ := hchange.programOf?_turn
      obtain ⟨_, hended, -⟩ := h.taker_ended hreaders hsleeps hrun hdone hprogram
      cases hended
    have hnothing := hdeeds task hsleeps
    rw [if_neg hfirst] at hnothing
    obtain ⟨hdeed, hnone⟩ := h.takes_mark hreaders hrun hbefore htaken hchange hsleeps hnothing
    obtain rfl : taker = none := Option.not_isSome_iff_eq_none.1 fun hsome => hremoved hsome hnone
    refine ⟨some task, fun other hother => ?_, fun _ => ?_⟩
    · by_cases hsame : task = other
      · subst hsame
        rw [if_pos rfl, deedsOf_append, deedsOf_singleton, if_pos rfl, hnothing]
        exact congrArg (fun deed => [deed]) hdeed
      · rw [hothers other hsame, hdeeds other hother, if_neg nofun, if_neg fun h => hsame (Option.some.inj h)]
    · rw [removed_concat]
      refine List.append_ne_nil_of_right_ne_nil _ ?_
      change (⟨action, answer⟩ : Deed) = _ at hdeed
      cases hdeed
      simp [Turn.removed, Deed.popped]
  · refine ⟨taker, fun other hother => ?_, fun hsome => ?_⟩
    · rw [hothers other fun hsame => hsleeps (hsame ▸ hother)]
      exact hdeeds other hother
    · rw [removed_concat]
      exact List.append_ne_nil_of_left_ne_nil (hremoved hsome) _

/-- The mark is taken by one who slept there, if there is any. -/
theorem Poised.exists_taker (h : Poised builder operations session closer turns m)
    (hreaders : ReadersWait operations session m) (hrun : Run m moves later m')
    (hleft : LeftTo closer session m later) (hcalm : Calm (turns ++ later) m')
    {outcome : Outcome Failure Answer} (hended : m'.outcomeOf? closer = some outcome)
    (hsleeper : m.hasSleeper session .item = true) :
    ∃ reader, m.sleepsAt reader session .item = true ∧
      deedsOf reader later = [⟨.pop session none, some .endOfStream⟩] ∧
      ∀ other, m.sleepsAt other session .item = true → other ≠ reader → deedsOf other later = [] := by
  obtain ⟨_, hstart⟩ := h.run
  obtain ⟨-, hnoroom⟩ := hstart.starved_sharing h.calm session
  have htaken := h.taken hreaders hrun hleft
  obtain ⟨taker, hdeeds, htook⟩ := id htaken
  obtain ⟨-, -, hmark⟩ := h.returned hrun hleft hended
  rw [← flatMap_deedsOf (h.put_eq_nil hsleeper hleft htaken)] at hmark
  have hremoved : removed session later ≠ [] := by
    intro hnone
    obtain ⟨task, hslept⟩ := exists_sleepsAt hsleeper
    have hnobody : taker = none := Option.not_isSome_iff_eq_none.1 fun hsome => htook hsome hnone
    have hstill := hdeeds task hslept
    rw [hnobody, if_neg nofun] at hstill
    -- It would still sleep, and yet the mark is queued.
    obtain ⟨hwaits, -⟩ := h.waits_on hrun hcalm (hreaders task hslept).1 hstill
    have hnothing := ((hstart.trans hrun).starved_sharing hcalm session).1
      (hasSleeper_of_sleepsAt (sleepsAt_of_waitsAt hwaits))
    obtain ⟨q, hq⟩ := h.queue
    obtain ⟨q', hq', -, hitems⟩ := hrun.queue hq
    rw [World.items_of_queue hq'] at hnothing
    rw [hnone, hnothing, accepted, hmark] at hitems
    exact absurd hitems (by simp)
  obtain ⟨turn, hmem, hturn⟩ : ∃ turn ∈ later, turn.removed session ≠ [] := by
    simpa [removed] using hremoved
  have hdrains := Action.drains?_of_removed hturn
  have hother : turn.task ≠ closer := by
    intro hown
    obtain ⟨before, after, rfl⟩ := List.append_of_mem hmem
    obtain ⟨_, m₁, _, _, hearlier, hchange⟩ := hrun.cut rfl
    have hkind := Kind.drains_of_may (h.may hearlier hchange hown) hdrains
    simp [Kind.Drains, Kind.Opens] at hkind
  have hslept := ((hleft turn hmem hother).2 (Action.alters?_of_drains? hdrains)).resolve_right fun hroom =>
    Bool.eq_false_iff.1 (hnoroom (hasSleeper_of_sleepsAt hroom)) hsleeper
  have htaker : taker = some turn.task := by
    by_cases h : taker = some turn.task
    · exact h
    · have hdeed := mem_deedsOf_of_mem hmem
      rw [hdeeds _ hslept, if_neg h] at hdeed
      cases hdeed
  refine ⟨turn.task, hslept, (hdeeds _ hslept).trans (if_pos htaker), fun other hother hne => ?_⟩
  exact (hdeeds other hother).trans (if_neg fun h => hne (Option.some.inj (h.symm.trans htaker)))

/-- Closing a channel that others sleep at lets one of the reads go that sleep there, if there is any: it
answers the bytes that it had gathered. Every other one sleeps on, and has still to do what it had to
do. -/
theorem Poised.close_releases_one (h : Poised builder operations session closer turns m)
    (hreaders : ReadersWait operations session m) (hrun : Run m moves later m')
    (hleft : LeftTo closer session m later) (hcalm : Calm (turns ++ later) m')
    {outcome : Outcome Failure Answer} (hended : m'.outcomeOf? closer = some outcome) :
    outcome = .ok .nothing ∧ m'.world.channel.isOpen = false ∧
      (m.hasSleeper session .item = true → ∃ reader answer, m.sleepsAt reader session .item = true ∧
        m'.outcomeOf? reader = some (.ok answer) ∧
        (deedsOf reader turns).flatMap Deed.taken = bytesIn session answer.bytesRead ∧
        ∀ other, m.sleepsAt other session .item = true → other ≠ reader →
          m'.waitsAt other session .item = true ∧ m'.programOf? other = m.programOf? other) := by
  obtain ⟨houtcome, hclosed, -⟩ := h.returned hrun hleft hended
  refine ⟨houtcome, hclosed, fun hsleeper => ?_⟩
  obtain ⟨reader, hslept, hdeeds, hothers⟩ := h.exists_taker hreaders hrun hleft hcalm hended hsleeper
  obtain ⟨next, hprogram⟩ := hreaders.program hslept
  obtain ⟨p, hp, -⟩ := hrun.leads hprogram
  obtain ⟨answer, hstand, hgathered⟩ := h.taker_ended hreaders hslept hrun hdeeds hp
  refine ⟨reader, answer, hslept, hcalm.ended hp hstand, hgathered, fun other hother hne => ?_⟩
  exact h.waits_on hrun hcalm (hreaders other hother).1 (hothers other hother hne)

end reading

/-- Two reads sleep in a channel when it is closed, one of which has got the only byte. -/
def abandoned : List Operation := [
  .channel .openPort, .background (.read 2), .channel .readOne, .adapter (.write [5]), .background .close]

/-- The channel is opened, and both reads sleep once the first of them has got the byte that is written. -/
def abandonedMoves : List Move :=
  List.replicate 26 (.act 0) ++ List.replicate 7 (.act 1) ++ List.replicate 5 (.act 3) ++
    [.wake 3 1, .act 3] ++ List.replicate 5 (.act 1) ++ List.replicate 7 (.act 2)

/-- The closing calls the first of them, which returns, and ends. -/
def abandoningMoves : List Move :=
  List.replicate 4 (.act 4) ++ [.wake 4 1, .act 1] ++ List.replicate 7 (.act 4)

/-- The closing calls the first of them. -/
theorem exists_abandoned :
    ∃ turns m moves later m' outcome, Poised narrow abandoned 0 4 turns m ∧ ReadersWait abandoned 0 m ∧
      Run m moves later m' ∧ LeftTo 4 0 m later ∧ Calm (turns ++ later) m' ∧
      m'.outcomeOf? 4 = some outcome ∧ m.sleepsAt 1 0 .item = true ∧ m.sleepsAt 2 0 .item = true ∧
      m'.sleepsAt 2 0 .item = true := by
  obtain ⟨turns, m, later, m', hstart, hrun, ⟨hopen, hsession, hcalm, hfresh⟩,
    ⟨hlength, hsleepers, hfirst, hsecond⟩, hleft, hcalm', hended, hstill⟩ :
      ∃ turns m later m', Run (sharing narrow abandoned) abandonedMoves turns m ∧
        Run m abandoningMoves later m' ∧
        (m.world.channel.isOpen = true ∧ m.world.channel.session? = some 0 ∧ Calm turns m ∧
          deedsOf 4 turns = []) ∧
        (m.tasks.length = 5 ∧
          (∀ task ∈ List.range 5, m.sleepsAt task 0 .item = true →
            m.waitsAt task 0 .item = true ∧ (task = 1 ∨ task = 2)) ∧
          m.sleepsAt 1 0 .item = true ∧ m.sleepsAt 2 0 .item = true) ∧
        LeftTo 4 0 m later ∧ Calm (turns ++ later) m' ∧ (m'.outcomeOf? 4).isSome = true ∧
        m'.sleepsAt 2 0 .item = true :=
    exists_run_run (by decide +kernel)
  obtain ⟨outcome, hended⟩ := Option.isSome_iff_exists.1 hended
  have hreaders : ReadersWait abandoned 0 m := by
    intro task hsleeps
    obtain ⟨ticket, action, next, htask, -⟩ := sleepsAt_iff.1 hsleeps
    obtain ⟨hwaits, rfl | rfl⟩ :=
      hsleepers task (List.mem_range.2 (hlength ▸ (List.getElem?_eq_some_iff.1 htask).1)) hsleeps
    · exact ⟨hwaits, _, rfl, .background 2⟩
    · exact ⟨hwaits, _, rfl, .one⟩
  have hpoised : Poised narrow abandoned 0 4 turns m :=
    ⟨⟨_, hstart⟩, hopen, hsession, hcalm, ⟨_, rfl, .background⟩, hfresh⟩
  exact ⟨turns, m, _, later, m', outcome, hpoised, hreaders, hrun, hleft, hcalm', hended, hfirst, hsecond,
    hstill⟩

/-- Of two readers that sleep when the channel is closed the first one returns, and the second sleeps on. -/
theorem close_releases_one_abandoned :
    ∃ turns m moves later m' outcome, Poised narrow abandoned 0 4 turns m ∧ ReadersWait abandoned 0 m ∧
      Run m moves later m' ∧ LeftTo 4 0 m later ∧ Calm (turns ++ later) m' ∧
      m'.outcomeOf? 4 = some outcome ∧ m'.world.channel.isOpen = false ∧
      ∃ reader answer, m.sleepsAt reader 0 .item = true ∧ m'.outcomeOf? reader = some (.ok answer) ∧
        (deedsOf reader turns).flatMap Deed.taken = bytesIn 0 answer.bytesRead := by
  obtain ⟨turns, m, moves, later, m', outcome, hpoised, hreaders, hrun, hleft, hcalm, hended, hslept, -⟩ :=
    exists_abandoned
  obtain ⟨-, hclosed, hreleased⟩ := hpoised.close_releases_one hreaders hrun hleft hcalm hended
  obtain ⟨reader, answer, hsleeps, hanswered, htaken, -⟩ := hreleased (hasSleeper_of_sleepsAt hslept)
  exact ⟨turns, m, moves, later, m', outcome, hpoised, hreaders, hrun, hleft, hcalm, hended, hclosed,
    reader, answer, hsleeps, hanswered, htaken⟩

/-- Closing does not release all who sleep there. -/
theorem not_all_readers_released :
    ¬∀ (builder : Builder) (operations : List Operation) (session : Session) (closer : Nat)
      (turns : List Turn) (m : Machine Failure Answer) (moves : List Move) (later : List Turn)
      (m' : Machine Failure Answer), Poised builder operations session closer turns m →
      ReadersWait operations session m → Run m moves later m' → LeftTo closer session m later →
      Calm (turns ++ later) m' → (m'.outcomeOf? closer).isSome = true →
      ∀ reader, m.sleepsAt reader session .item = true → m'.sleepsAt reader session .item = false ∧
        ∃ answer, m'.outcomeOf? reader = some (.ok answer) ∧
          (deedsOf reader turns).flatMap Deed.taken = bytesIn session answer.bytesRead := by
  intro hreleased
  obtain ⟨turns, m, moves, later, m', outcome, hpoised, hreaders, hrun, hleft, hcalm, hended, -, hslept,
    hsleeps⟩ := exists_abandoned
  obtain ⟨hawake, -⟩ := hreleased narrow abandoned 0 4 turns m moves later m' hpoised hreaders hrun hleft
    hcalm (hended ▸ rfl) 2 hslept
  rw [hsleeps] at hawake
  cases hawake

end Machine

end Loopback
