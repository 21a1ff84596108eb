import Loopback.Proofs.Channel.Begun
import Loopback.Proofs.Channel.Gathering
import Loopback.Proofs.Work.Worked

/-!
# Sessions are apart

Any number of operations share a channel, each in a task of its own, whatever they are and in whatever
order they take turns. Each goes to a queue only in the session it was given last, and is given only
the newest session there is, which began with an opening that succeeds. So what one session has left
behind is never seen in another one: every element that is taken was put into the same queue, by an
operation that was given the same session.
-/

namespace Loopback

/-- A session that a task goes by was given to it. -/
theorem mem_of_holding {deeds : List Deed} {session : Session} (h : holding deeds = some session) :
    ⟨.getSession, some session⟩ ∈ deeds := by
  suffices hmem : ∀ held, deeds.foldl Deed.holding held = some session →
      held = some session ∨ ⟨.getSession, some session⟩ ∈ deeds from
    (hmem none h).resolve_left nofun
  clear h
  induction deeds with
  | nil => exact fun _ h => .inl h
  | cons deed rest ih =>
    intro held h
    rcases ih (deed.holding held) h with h | hmem
    · obtain ⟨action, answer⟩ := deed
      cases action with
      | getSession =>
        obtain rfl : answer = some session := h
        exact .inr List.mem_cons_self
      | setOpen | pause => cases h
      | _ => exact .inl h
    · exact .inr (List.mem_cons_of_mem _ hmem)

/-- How many sessions have begun in a history. -/
def sessionsBegun (turns : List Turn) : Nat := turns.countP fun turn => turn.deed.action.begins

/-- One turn puts at most one element. -/
theorem Deed.put_cases (session : Session) (deed : Deed) :
    deed.put session = [] ∨ ∃ item, deed.put session = [item] := by
  unfold put
  split
  · split
    · exact .inr ⟨_, rfl⟩
    · exact .inl rfl
  · split
    · exact .inr ⟨_, rfl⟩
    · exact .inl rfl
  · exact .inl rfl

/-- What was accepted after one turn more. -/
theorem accepted_concat (session : Session) (turns : List Turn) (turn : Turn) :
    accepted session (turns ++ [turn]) = accepted session turns ++ turn.deed.put session := by
  simp [accepted]

/-- What was removed after one turn more. -/
theorem removed_concat (session : Session) (turns : List Turn) (turn : Turn) :
    removed session (turns ++ [turn]) = removed session turns ++ turn.removed session := by
  simp [removed]

/-- Each accepted element was put in some turn, after as many others as come before it. -/
theorem exists_of_accepted {session : Session} {turns : List Turn} {n : Nat} {item : Item}
    (h : (accepted session turns)[n]? = some item) :
    ∃ earlier source later, turns = earlier ++ source :: later ∧ source.deed.put session = [item] ∧
      (accepted session earlier).length = n := by
  induction turns generalizing n with
  | nil => simp [accepted] at h
  | cons turn rest ih =>
    change (turn.deed.put session ++ accepted session rest)[n]? = some item at h
    rcases turn.deed.put_cases session with hput | ⟨first, hput⟩
    · rw [hput, List.nil_append] at h
      obtain ⟨earlier, source, later, rfl, hsource, hlength⟩ := ih h
      refine ⟨turn :: earlier, source, later, rfl, hsource, ?_⟩
      change (turn.deed.put session ++ accepted session earlier).length = n
      rw [hput, List.nil_append, hlength]
    · rw [hput] at h
      cases n with
      | zero =>
        obtain rfl := Option.some.inj h
        exact ⟨[], turn, rest, rfl, hput, rfl⟩
      | succ n =>
        obtain ⟨earlier, source, later, rfl, hsource, hlength⟩ := ih h
        refine ⟨turn :: earlier, source, later, rfl, hsource, ?_⟩
        change (turn.deed.put session ++ accepted session earlier).length = n + 1
        rw [hput, List.singleton_append, List.length_cons, hlength]

namespace Action

/-- Sessions are only added. -/
theorem Comes.sessions_le {task : Nat} {w w' : World} {action : Action} {answer : action.Reply}
    (h : action.Comes task w answer w') : w.channel.queues.length ≤ w'.channel.queues.length := by
  by_cases hnew : action = .newSession
  · subst hnew
    cases h with
    | replied hrun =>
      cases hrun
      simp [World.withChannel]
    | gaveUp hrun => cases hrun
  · exact Nat.le_of_eq (h.frame.sessions hnew).symm

/-- Exactly one action begins a session. -/
theorem Comes.sessions_eq {task : Nat} {w w' : World} {action : Action} {answer : action.Reply}
    (h : action.Comes task w answer w') : w'.channel.queues.length =
      w.channel.queues.length + if action.begins then 1 else 0 := by
  by_cases hnew : action = .newSession
  · subst hnew
    cases h with
    | replied hrun =>
      cases hrun
      simp [World.withChannel, begins]
    | gaveUp hrun => cases hrun
  · have hbegins : action.begins = false := by
      cases action <;> first | rfl | exact absurd rfl hnew
    rw [h.frame.sessions hnew, hbegins]
    rfl

/-- A session that is given is the newest one. -/
theorem Comes.session {task : Nat} {w w' : World} {answer : Option Session}
    (h : Action.getSession.Comes task w answer w') : answer = w.channel.session? ∧ w' = w := by
  cases h with
  | replied hrun =>
    cases hrun
    exact ⟨rfl, rfl⟩
  | gaveUp hrun => cases hrun

end Action

/-- The newest of some sessions is the last. -/
theorem Channel.session?_eq_some {c : Channel} {session : Session} :
    c.session? = some session ↔ c.queues.length = session + 1 := by
  unfold session?
  split
  next h => simp [h]
  next n h => simp [h, eq_comm]

namespace Machine

variable {ε α : Type}

/-- Each task goes by a session that there is. -/
theorem Run.holding_lt {start m : Machine ε α} {moves : List Move} {turns : List Turn}
    (hrun : Run start moves turns m) {task : Nat} {session : Session}
    (h : holding (deedsOf task turns) = some session) : session < m.world.channel.queues.length := by
  refine hrun.history (fun turns w => holding (deedsOf task turns) = some session →
    session < w.channel.queues.length) nofun (fun _ => id) ?_ h
  intro moves turns m m' move other action answer _ _ hcomes ih h
  have hle := hcomes.sessions_le
  rw [deedsOf_append, deedsOf_singleton] at h
  by_cases hown : other = task
  · rw [if_pos hown, holding_concat] at h
    cases action with
    | getSession =>
      obtain rfl : answer = some session := h
      have hnewest := Channel.session?_eq_some.1 hcomes.session.1.symm
      exact Nat.lt_of_lt_of_le (hnewest ▸ Nat.lt_succ_self session) hle
    | setOpen | pause => cases h
    | _ => exact Nat.lt_of_lt_of_le (ih h) hle
  · rw [if_neg hown, List.append_nil] at h
    exact Nat.lt_of_lt_of_le (ih h) hle

/-- As many sessions have begun as there are more than at the start. -/
theorem Run.length_queues {start m : Machine ε α} {moves : List Move} {turns : List Turn}
    (hrun : Run start moves turns m) :
    m.world.channel.queues.length = start.world.channel.queues.length + sessionsBegun turns := by
  refine hrun.history (fun turns w =>
    w.channel.queues.length = start.world.channel.queues.length + sessionsBegun turns) rfl (fun _ => id) ?_
  intro moves turns m m' move task action answer _ _ hcomes ih
  rw [hcomes.sessions_eq, ih, sessionsBegun, sessionsBegun, List.countP_append, List.countP_singleton,
    Nat.add_assoc]

/-- A channel that was just built, with a task for each of many operations. -/
def sharing (builder : Builder) (operations : List Operation) : Machine Failure Answer :=
  ofPrograms builder.world (operations.map Operation.job)

section sharing

variable {builder : Builder} {operations : List Operation} {m m' : Machine Failure Answer}
  {moves : List Move} {turns : List Turn}

/-- Each task of a shared channel began with its operation. -/
theorem programOf?_sharing {task : Nat} {p : Job} : (sharing builder operations).programOf? task = some p ↔
    ∃ operation, operations[task]? = some operation ∧ operation.job = p := by
  rw [sharing, programOf?_ofPrograms, List.getElem?_map, Option.map_eq_some_iff]

/-- What a task has left to do is left of its operation. -/
theorem Run.leads_job (hrun : Run (sharing builder operations) moves turns m) {task : Nat} {q : Job}
    (hq : m.programOf? task = some q) :
    ∃ operation, operations[task]? = some operation ∧ operation.job.Leads (deedsOf task turns) q := by
  obtain ⟨p, hp, hleads⟩ := hrun.programOf?_start hq
  obtain ⟨operation, hoperation, rfl⟩ := programOf?_sharing.1 hp
  exact ⟨operation, hoperation, hleads⟩

/-- What a task is to do next is what its operation may do. -/
theorem Run.rule_of_program (hrun : Run (sharing builder operations) moves turns m) {task : Nat}
    {action : Action} {next : action.Reply → Job} (hprogram : m.programOf? task = some (.act action next)) :
    ∃ operation, operations[task]? = some operation ∧ operation.kind.rule (deedsOf task turns) action := by
  obtain ⟨operation, hoperation, hleads⟩ := hrun.leads_job hprogram
  exact ⟨operation, hoperation, (Program.obeys_act.1 ((operation.obeys []).leads hleads)).1⟩

/-- What a task does next is what its operation may do. -/
theorem Run.next_rule (hrun : Run (sharing builder operations) moves turns m) {move : Move} {turn : Turn}
    (hchange : Change m move (some turn) m') :
    ∃ operation, operations[turn.task]? = some operation ∧
      operation.kind.rule (deedsOf turn.task turns) turn.deed.action := by
  obtain ⟨next, hprogram, -⟩ := hchange.programOf?_turn
  exact hrun.rule_of_program hprogram

/-- What a task did is what its operation may do. -/
theorem Run.rule {before after : List Turn} {turn : Turn}
    (hrun : Run (sharing builder operations) moves (before ++ turn :: after) m) :
    ∃ operation, operations[turn.task]? = some operation ∧
      operation.kind.rule (deedsOf turn.task before) turn.deed.action := by
  obtain ⟨earlier, m₁, move, m₂, hearlier, hchange⟩ := hrun.cut rfl
  exact hearlier.next_rule hchange

/-- A queue is altered only by a task that goes by its session. -/
theorem holding_of_alters {seen : List Deed} {action : Action} {session : Session}
    (horderly : orderly seen action) (h : action.alters? = some session) :
    holding seen = some session := by
  cases action with
  | push | append | pop | clear =>
    cases h
    exact horderly
  | _ => cases h

/-- What a session accepted is what was removed there and what is queued there, and a session accepts
nothing before it has begun. -/
theorem Run.session_conserved (hrun : Run (sharing builder operations) moves turns m)
    (session : Session) :
    accepted session turns = removed session turns ++ m.world.items session ∧
      (m.world.channel.queues.length ≤ session → accepted session turns = []) := by
  refine hrun.history (fun turns w => accepted session turns = removed session turns ++ w.items session ∧
    (w.channel.queues.length ≤ session → accepted session turns = [])) ⟨rfl, fun _ => rfl⟩ (fun _ => id) ?_
  intro moves turns m m' move task action answer hrun hchange hcomes ⟨hitems, hnothing⟩
  rw [accepted_concat, removed_concat]
  -- A session that has not begun was given to nobody, so what happens before it begins is about others.
  cases hq : m.world.channel.queues[session]? with
  | some q =>
    obtain ⟨q', hq', -, hturn⟩ := hchange.queue hq
    rw [World.items_of_queue hq] at hitems
    refine ⟨?_, fun hle => ?_⟩
    · rw [hitems, World.items_of_queue hq', List.append_assoc, List.append_assoc]
      simpa [accepted, removed] using hturn
    · exact absurd (List.getElem?_eq_some_iff.1 hq').1 (Nat.not_lt.2 hle)
  | none =>
    have hbegun := List.getElem?_eq_none_iff.1 hq
    have helsewhere : action.alters? ≠ some session := by
      intro halters
      obtain ⟨operation, -, -, horderly⟩ := hrun.next_rule hchange
      exact Nat.not_lt.2 hbegun (hrun.holding_lt (holding_of_alters horderly halters))
    have hput := Action.put_eq_nil helsewhere answer
    have hremoved : Turn.removed session ⟨task, ⟨action, answer⟩, m.world, m'.world⟩ = [] := by
      rw [removed_eq_popped fun hclear => helsewhere (congrArg Action.alters? hclear)]
      exact Action.popped_eq_nil helsewhere answer
    have hempty : m'.world.items session = [] := by
      unfold World.items
      split
      next q hq' =>
        rw [hcomes.created hq hq']
        rfl
      next => rfl
    rw [hnothing hbegun] at hitems
    obtain ⟨hnone, -⟩ := List.append_eq_nil_iff.1 hitems.symm
    rw [hput, hremoved, hempty, hnothing hbegun, hnone]
    exact ⟨rfl, fun _ => rfl⟩

/-- Elements are put into the queue of the session that a task was given: bytes by a write, and the mark
of the end by a closing. -/
theorem put_of_rule {kind : Kind} {seen : List Deed} {deed : Deed} {session : Session} {item : Item}
    (hrule : kind.rule seen deed.action) (hput : deed.put session = [item]) :
    holding seen = some session ∧
      (kind = .writing ∧ item ≠ .endOfStream ∨ kind.Closes ∧ item = .endOfStream) := by
  obtain ⟨hmay, horderly⟩ := hrule
  unfold Deed.put at hput
  split at hput
  next s other deadline accepted =>
    split at hput
    next hhere =>
      obtain ⟨rfl, -⟩ := hhere
      obtain rfl := List.singleton_inj.1 hput
      exact ⟨horderly, .inl hmay⟩
    next => cases hput
  next s other =>
    split at hput
    next hhere =>
      subst hhere
      obtain rfl := List.singleton_inj.1 hput
      exact ⟨horderly, .inr hmay⟩
    next => cases hput
  next => cases hput

/-- That an element was the `n`th to be put into the queue of a session, by an operation that went by
the session: a byte by a write, and the mark of the end by a closing. -/
def PutIn (operations : List Operation) (session : Session) (item : Item) (n : Nat) (turns : List Turn) :
    Prop :=
  ∃ before source after operation, turns = before ++ source :: after ∧
    source.deed.put session = [item] ∧ (accepted session before).length = n ∧
    operations[source.task]? = some operation ∧ holding (deedsOf source.task before) = some session ∧
    (operation.kind = .writing ∧ item ≠ .endOfStream ∨ operation.kind.Closes ∧ item = .endOfStream)

/-- What was put in a session stays put. -/
theorem PutIn.append {session : Session} {item : Item} {n : Nat} (h : PutIn operations session item n turns)
    (more : List Turn) : PutIn operations session item n (turns ++ more) := by
  obtain ⟨before, source, after, operation, rfl, hput⟩ := h
  exact ⟨before, source, after ++ more, operation, by simp, hput⟩

/-- What a session accepted was put there. -/
theorem Run.putIn (hrun : Run (sharing builder operations) moves turns m) {session : Session} {item : Item}
    {n : Nat} (h : (accepted session turns)[n]? = some item) : PutIn operations session item n turns := by
  obtain ⟨before, source, after, rfl, hput, hlength⟩ := exists_of_accepted h
  obtain ⟨operation, hoperation, hrule⟩ := hrun.rule
  obtain ⟨hholding, hkind⟩ := put_of_rule hrule hput
  exact ⟨before, source, after, operation, rfl, hput, hlength, hoperation, hholding, hkind⟩

/-- What is taken in a session was put there, and was the next to be removed. -/
theorem Run.putIn_of_popped {before after : List Turn} {turn : Turn} {session : Session} {item : Item}
    (hrun : Run (sharing builder operations) moves (before ++ turn :: after) m)
    (hpopped : turn.deed.popped session = [item]) :
    PutIn operations session item (removed session before).length before := by
  obtain ⟨earlier, m₁, move, m₂, hearlier, hchange⟩ := hrun.cut rfl
  obtain ⟨operation, -, -, horderly⟩ := hearlier.next_rule hchange
  obtain ⟨task, ⟨action, answer⟩, w, w'⟩ := turn
  have halters : action.alters? = some session := by
    by_cases h : action.alters? = some session
    · exact h
    · rw [Action.popped_eq_nil h] at hpopped
      cases hpopped
  obtain ⟨hput, hclear⟩ : Deed.put session ⟨action, answer⟩ = [] ∧ action ≠ .clear session := by
    cases action with
    | pop => exact ⟨rfl, nofun⟩
    | _ => cases hpopped
  -- The element was at the head of the queue, so it was accepted right after all that were removed.
  obtain ⟨q, hq⟩ : ∃ q, m₁.world.channel.queues[session]? = some q :=
    ⟨_, List.getElem?_eq_getElem (hearlier.holding_lt (holding_of_alters horderly halters))⟩
  obtain ⟨hitems, -⟩ := hearlier.session_conserved session
  rw [World.items_of_queue hq] at hitems
  obtain ⟨q', -, -, hturn⟩ := hchange.queue hq
  have hremoved : Turn.removed session ⟨task, ⟨action, answer⟩, w, w'⟩ = [item] :=
    (removed_eq_popped hclear).trans hpopped
  have hhead : q.items = item :: q'.items := by
    simpa [accepted, removed, hput, hremoved] using hturn
  exact hearlier.putIn (by simp [hitems, hhead])

/-- A session that is given is the newest, by how many have begun. -/
theorem Run.sessionsBegun_of_given {before after : List Turn} {turn : Turn} {session : Session}
    (hrun : Run (sharing builder operations) moves (before ++ turn :: after) m)
    (hgiven : turn.deed = ⟨.getSession, some session⟩) : sessionsBegun before = session + 1 := by
  obtain ⟨earlier, m₁, _, hearlier, hcomes⟩ := hrun.meets
  rw [hgiven] at hcomes
  have hlength := hearlier.length_queues
  rw [Channel.session?_eq_some.1 hcomes.session.1.symm] at hlength
  exact (hlength.trans (Nat.zero_add _)).symm

/-- All queues of a shared channel are tidy. -/
theorem Run.tidy_sharing (hrun : Run (sharing builder operations) moves turns m) :
    m.world.Tidy builder.build.traits := by
  refine hrun.tidy builder.capacity_build builder.tidy_world fun turn hturn => ?_
  obtain ⟨before, after, rfl⟩ := List.append_of_mem hturn
  obtain ⟨operation, -, hmay, -⟩ := hrun.rule
  exact Action.fitting_of_may hmay

/-- Where no write was given the current session, no byte is waiting. -/
theorem Run.nothing_waiting (hrun : Run (sharing builder operations) moves turns m) {session : Session}
    (hopen : m.world.channel.isOpen = true) (hsession : m.world.channel.session? = some session)
    (hquiet : ∀ task operation, operations[task]? = some operation →
      ⟨.getSession, some session⟩ ∈ deedsOf task turns → operation.kind ≠ .writing) (task : Nat) :
    ∃ w, Channel.inWaiting.alone task m.world = .ended (.ok 0) w := by
  have hlt : session < m.world.channel.queues.length := by
    rw [Channel.session?_eq_some.1 hsession]
    exact Nat.lt_succ_self session
  have hq := List.getElem?_eq_getElem hlt
  obtain ⟨hsound, -, htagged⟩ := hrun.tidy_sharing.queues hq
  -- A byte that is queued was put by a write, which had been given the session.
  have hmarks : ∀ entry ∈ (m.world.channel.queues[session]).entries.toList, ¬entry.counted = true := by
    intro entry hentry hcounted
    have hitem : entry.item ∈ m.world.items session := by
      rw [World.items_of_queue hq]
      exact List.mem_map_of_mem hentry
    have haccepted : entry.item ∈ accepted session turns := by
      rw [(hrun.session_conserved session).1]
      exact List.mem_append_right _ hitem
    obtain ⟨n, hn⟩ := List.mem_iff_getElem?.1 haccepted
    obtain ⟨before, source, after, operation, rfl, -, -, hoperation, hholding, hkind⟩ := hrun.putIn hn
    have hgiven : ⟨.getSession, some session⟩ ∈ deedsOf source.task (before ++ source :: after) := by
      rw [deedsOf_append]
      exact List.mem_append_left _ (mem_of_holding hholding)
    rcases hkind with ⟨hwriting, -⟩ | ⟨-, hmark⟩
    · exact hquiet source.task operation hoperation hgiven hwriting
    · exact (htagged entry hentry).1 hcounted hmark
  have hcounted : (m.world.channel.queues[session]).length = 0 := by
    rw [Queue.length, hsound.counted_eq, List.filter_eq_nil_iff.2 hmarks]
    rfl
  rw [← hcounted]
  exact Channel.alone_inWaiting hopen hsession hq

/-- Whoever took something was given the session where it was put. -/
theorem Run.given_of_taken (hrun : Run (sharing builder operations) moves turns m) {task : Nat}
    {session : Session} {item : Item} (h : (session, item) ∈ (deedsOf task turns).flatMap Deed.taken) :
    ⟨.getSession, some session⟩ ∈ deedsOf task turns ∧ ∃ n, PutIn operations session item n turns := by
  obtain ⟨deed, hdeed, htaken⟩ := List.mem_flatMap.1 h
  obtain ⟨before, turn, after, rfl, rfl, rfl⟩ := exists_turn_of_mem_deedsOf hdeed
  obtain ⟨halters, hpopped⟩ := Deed.popped_of_taken htaken
  obtain ⟨operation, -, -, horderly⟩ := hrun.rule
  refine ⟨?_, (removed session before).length, (hrun.putIn_of_popped hpopped).append _⟩
  rw [deedsOf_append]
  exact List.mem_append_left _ (mem_of_holding (holding_of_alters horderly halters))

/-- A read answers what it took in one session, except for the mark. -/
theorem Run.taken_of_read (hrun : Run (sharing builder operations) moves turns m) {task : Nat}
    {operation : Operation} {answer : Answer} (hoperation : operations[task]? = some operation)
    (hreads : operation.Reads) (hended : m.outcomeOf? task = some (.ok answer)) :
    ∃ session mark, (mark = [] ∨ mark = [(session, .endOfStream)]) ∧
      (deedsOf task turns).flatMap Deed.taken = bytesIn session answer.bytesRead ++ mark := by
  obtain ⟨q, hq, hstand⟩ := programOf?_of_outcomeOf? hended
  obtain ⟨operation', hoperation', hleads⟩ := hrun.leads_job hq
  obtain rfl := Option.some.inj (hoperation'.symm.trans hoperation)
  obtain ⟨session, size, hgathered⟩ := hreads.gathers.leads hleads
  rw [hstand] at hgathered
  generalize hgot : (deedsOf task turns).flatMap Deed.taken = got at hgathered
  cases hgathered with
  | answered bytes mark hsize hmark htells => exact ⟨session, mark, hmark, by rw [htells]⟩

/-- What a task asks about the channel is answered in keeping with what it did. -/
theorem Run.inKeeping {before after : List Turn} {turn : Turn}
    (hrun : Run (sharing builder operations) moves (before ++ turn :: after) m) :
    turn.deed.InKeeping (deedsOf turn.task before) := by
  obtain ⟨earlier, m₁, _, hearlier, hcomes⟩ := hrun.meets
  obtain ⟨task, ⟨action, answer⟩, w, w'⟩ := turn
  rintro ⟨hbegun, hmade⟩
  cases action with
  | getOpen =>
    obtain ⟨holder, hexcluded⟩ := hearlier.excluded fun other p hp => by
      obtain ⟨operation, -, rfl⟩ := programOf?_sharing.1 hp
      exact operation.exclusive
    exact hcomes.isOpen.trans (hexcluded.isOpen task true hmade).2
  | getSession =>
    obtain ⟨deed, hdeed, hbegins⟩ := List.any_eq_true.1 hbegun
    obtain ⟨first, turn, rest, rfl, -, rfl⟩ := exists_turn_of_mem_deedsOf hdeed
    have hlength : 0 < m₁.world.channel.queues.length := by
      rw [hearlier.length_queues]
      refine Nat.add_pos_right _ (List.countP_pos_iff.2 ⟨turn, ?_, hbegins⟩)
      exact List.mem_append_right _ List.mem_cons_self
    obtain ⟨session, hsession⟩ := Nat.exists_eq_succ_of_ne_zero (Nat.ne_of_gt hlength)
    obtain ⟨hanswer, -⟩ := hcomes.session
    rw [Channel.session?_eq_some.2 hsession] at hanswer
    exact fun hnone => Option.some_ne_none session (hanswer.symm.trans hnone)
  | _ => trivial

/-- An operation that has begun a session is an opening, and does not fail. -/
theorem Run.ok_of_begins {before after : List Turn} {turn : Turn}
    (hrun : Run (sharing builder operations) moves (before ++ turn :: after) m)
    (hbegins : turn.deed.action.begins = true) :
    ∃ operation, operations[turn.task]? = some operation ∧ operation.kind.Opens ∧
      ∀ outcome, m.outcomeOf? turn.task = some outcome → ∃ answer, outcome = .ok answer := by
  obtain ⟨operation, hoperation, hmay, -⟩ := hrun.rule
  refine ⟨operation, hoperation, ?_, fun outcome hended => ?_⟩
  · cases haction : turn.deed.action with
    | newSession =>
      rw [haction] at hmay
      exact hmay
    | _ =>
      rw [haction] at hbegins
      cases hbegins
  · obtain ⟨q, hq, hstand⟩ := programOf?_of_outcomeOf? hended
    obtain ⟨operation', -, hleads⟩ := hrun.leads_job hq
    have hsees := operation'.seesThrough.leads hleads fun first deed rest hdeeds => by
      obtain ⟨earlier, turn', later, hturns, hown, rfl, rfl⟩ := exists_turn_of_deedsOf hdeeds
      rw [hturns] at hrun
      rw [← hown]
      exact hrun.inKeeping
    have hbegun : begun ([] ++ deedsOf turn.task (before ++ turn :: after)) = true := by
      refine List.any_eq_true.2 ⟨turn.deed, ?_, hbegins⟩
      exact mem_deedsOf_of_mem (List.mem_append_right _ List.mem_cons_self)
    -- A program that has begun a session cannot come to a failure or to an abort.
    cases q with
    | act => cases hstand
    | done result =>
      cases hstand
      exact ⟨result, rfl⟩
    | fail | abort =>
      rw [show begun _ = false from hsees] at hbegun
      cases hbegun

/-- That the sessions of a shared channel are apart. -/
structure Apart (operations : List Operation) (turns : List Turn) (m : Machine Failure Answer) : Prop where
  /-- A session begins with an opening, which does not fail any more. -/
  begun : ∀ before turn after, turns = before ++ turn :: after → turn.deed.action.begins = true →
    ∃ operation, operations[turn.task]? = some operation ∧ operation.kind.Opens ∧
      ∀ outcome, m.outcomeOf? turn.task = some outcome → ∃ answer, outcome = .ok answer
  /-- Only the session is given that has begun last. -/
  given : ∀ before turn after session, turns = before ++ turn :: after →
    turn.deed = ⟨.getSession, some session⟩ → sessionsBegun before = session + 1
  /-- Nobody alters the queue of a session but by having been given that session last. -/
  held : ∀ before turn after session, turns = before ++ turn :: after →
    turn.deed.action.alters? = some session → holding (deedsOf turn.task before) = some session
  /-- What is taken in a session is the next that was put there. -/
  taken : ∀ before turn after session item, turns = before ++ turn :: after →
    turn.deed.popped session = [item] → PutIn operations session item (removed session before).length before
  /-- What a read answers it took in one session, to which it took no end mark but the last: each byte was
  put there by a write that went by the session, which the read was given too. -/
  read : ∀ task operation answer, operations[task]? = some operation → operation.Reads →
    m.outcomeOf? task = some (.ok answer) →
      ∃ session mark, (mark = [] ∨ mark = [(session, .endOfStream)]) ∧
        (deedsOf task turns).flatMap Deed.taken = bytesIn session answer.bytesRead ++ mark ∧
        ∀ byte ∈ answer.bytesRead, ⟨.getSession, some session⟩ ∈ deedsOf task turns ∧
          ∃ n, PutIn operations session (.byte byte) n turns
  /-- No byte is waiting in a session that was not given to a write. -/
  quiet : ∀ session, m.world.channel.isOpen = true → m.world.channel.session? = some session →
    (∀ task operation, operations[task]? = some operation →
      ⟨.getSession, some session⟩ ∈ deedsOf task turns → operation.kind ≠ .writing) →
    ∀ task, ∃ w, Channel.inWaiting.alone task m.world = .ended (.ok 0) w

/-- Whatever operations share a channel, and in whatever order they take turns, its sessions are apart. -/
theorem Run.sessions_apart (hrun : Run (sharing builder operations) moves turns m) :
    Apart operations turns m where
  begun := by
    rintro before turn after rfl hbegins
    exact hrun.ok_of_begins hbegins
  given := by
    rintro before turn after session rfl hgiven
    exact hrun.sessionsBegun_of_given hgiven
  held := by
    rintro before turn after session rfl halters
    obtain ⟨operation, -, -, horderly⟩ := hrun.rule
    exact holding_of_alters horderly halters
  taken := by
    rintro before turn after session item rfl hpopped
    exact hrun.putIn_of_popped hpopped
  read := by
    intro task operation answer hoperation hreads hended
    obtain ⟨session, mark, hmark, htaken⟩ := hrun.taken_of_read hoperation hreads hended
    refine ⟨session, mark, hmark, htaken, fun byte hbyte => hrun.given_of_taken ?_⟩
    rw [htaken]
    exact List.mem_append_left _ (List.mem_map_of_mem hbyte)
  quiet session hopen hsession hquiet := hrun.nothing_waiting hopen hsession hquiet

end sharing

/-- A channel with room for one byte. -/
def narrow : Builder where
  address := some "loop://"
  capacity := 1
  settings := .default
  closeSettle := .zero

/-- The channel is opened, and closed and opened again while a write waits for room, and then a byte goes
from another write to a read. -/
def reopening : List Operation := [
  .channel .openPort, .channel (.write [1, 2]), .channel .closePort, .channel .openPort,
  .adapter (.write [9]), .background (.read 1)]

/-- One operation after the other, but for the read, which sleeps before the second write begins. -/
def reopeningMoves : List Move :=
  List.replicate 26 (.act 0) ++ List.replicate 8 (.act 1) ++ List.replicate 12 (.act 2) ++
    List.replicate 26 (.act 3) ++ List.replicate 7 (.act 5) ++ List.replicate 5 (.act 4) ++
    [.wake 4 5, .act 5, .act 5]

/-- The write of the first session sleeps on, with a byte of its own still in its queue. -/
theorem sessions_apart_reopened :
    ∃ turns m answer, Run (sharing narrow reopening) reopeningMoves turns m ∧
      m.outcomeOf? 5 = some (.ok answer) ∧ answer.bytesRead = [9] ∧
      m.hasSleeper 0 .room = true ∧ m.world.items 0 = [.byte 1, .endOfStream] ∧
      ∃ session n, ⟨.getSession, some session⟩ ∈ deedsOf 5 turns ∧
        PutIn reopening session (.byte 9) n turns := by
  obtain ⟨turns, m, hrun, houtcome, hsleeper, hitems⟩ :
      ∃ turns m, Run (sharing narrow reopening) reopeningMoves turns m ∧
        (m.outcomeOf? 5).map Outcome.bytesRead = some [9] ∧ m.hasSleeper 0 .room = true ∧
        m.world.items 0 = [.byte 1, .endOfStream] := exists_run (by decide +kernel)
  obtain ⟨outcome, houtcome, hbytes⟩ := Option.map_eq_some_iff.1 houtcome
  obtain ⟨answer, rfl, hanswer⟩ := Outcome.exists_of_bytesRead hbytes (List.cons_ne_nil _ _)
  obtain ⟨session, mark, -, -, hput⟩ := hrun.sessions_apart.read 5 _ answer rfl (.background 1) houtcome
  obtain ⟨hgiven, n, hput⟩ := hput 9 (by simp [hanswer])
  exact ⟨turns, m, answer, hrun, houtcome, hanswer, hsleeper, hitems, session, n, hgiven, hput⟩

end Machine

end Loopback
