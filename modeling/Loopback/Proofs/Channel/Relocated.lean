import Loopback.Proofs.Channel.Abiding
import Loopback.Proofs.Channel.Calm
import Loopback.Proofs.Channel.Moving

/-!
# Moving a channel that others use

A channel is moved to another address while others go on with it, of whom none opens or closes it. Then the
moving returns, and what it comes to is decided by the channel that it found and by the address. When it fails,
the channel is left so that it can be moved and opened again. A read that sleeps in the session that was open is
let go by the mark of the end, and answers what it has collected.
-/

namespace Loopback

/-- What takes a mark away may alter the queue: it drops all that is queued, or has taken the mark. -/
theorem Deed.of_mark_mem_parts {deed : Deed} {session : Session} (h : .mark session ∈ deed.parts) :
    deed.action.alters? = some session ∧
      (deed.action = .clear session ∨ (session, .endOfStream) ∈ deed.taken) := by
  obtain ⟨action, answer⟩ := deed
  cases action with
  | pop place =>
    rcases answer with _ | (_ | _)
    · simp [parts, Action.alters?] at h
    · simp [parts, Action.alters?] at h
    · simp [parts] at h
      exact ⟨congrArg some h.symm, .inr (h ▸ List.mem_cons_self)⟩
  | clear place =>
    simp [parts] at h
    exact ⟨congrArg some h.symm, .inl (h ▸ rfl)⟩
  | push | append => simp [parts, Action.alters?] at h
  | changeSettings | setLine => simp [parts] at h
  | _ => cases h

/-- A read is about reading, and nothing else. -/
theorem Operation.Reads.kind {operation : Operation} (h : operation.Reads) : operation.kind = .reading := by
  cases h <;> rfl

/-- What a turn took in a session it removed there. -/
theorem Turn.taken_sublist_removed {session : Session} {turn : Turn}
    (h : ∀ place ∈ turn.deed.taken, place.1 = session) :
    (turn.deed.taken.map Prod.snd).Sublist (turn.removed session) := by
  obtain ⟨task, ⟨action, answer⟩, w, w'⟩ := turn
  cases action with
  | pop place deadline =>
    cases answer with
    | none => exact List.nil_sublist _
    | some item =>
      obtain rfl : place = session := h (place, item) List.mem_cons_self
      simp [Deed.taken, Turn.removed, Deed.popped]
  | _ => exact List.nil_sublist _

/-- What a task took in one session was removed there, in this order. -/
theorem taken_sublist_removed {session : Session} {task : Nat} {turns : List Turn}
    (h : ∀ place ∈ (deedsOf task turns).flatMap Deed.taken, place.1 = session) :
    (((deedsOf task turns).flatMap Deed.taken).map Prod.snd).Sublist (removed session turns) := by
  induction turns with
  | nil => exact List.Sublist.slnil
  | cons turn rest ih =>
    rw [← List.singleton_append, deedsOf_append, deedsOf_singleton, List.flatMap_append] at h ⊢
    obtain ⟨hturn, hrest⟩ := List.forall_mem_append.1 h
    rw [List.map_append, removed, List.flatMap_append, List.flatMap_singleton]
    refine List.Sublist.append ?_ (ih hrest)
    split at hturn
    next hown =>
      rw [if_pos hown, List.flatMap_singleton]
      exact Turn.taken_sublist_removed (by simpa using hturn)
    next hother =>
      rw [if_neg hother]
      exact List.nil_sublist _

namespace Machine

/-- A channel that a run has led to, with a moving of it that has not begun, and nobody else just opening or
closing it. -/
structure Movable (builder : Builder) (operations : List Operation) (address : Option String) (mover : Nat)
    (turns : List Turn) (m : Machine Failure Answer) : Prop where
  run : ∃ moves, Run (sharing builder operations) moves turns m
  moving : operations[mover]? = some (.channel (.setAddress address))
  fresh : deedsOf mover turns = []
  free : m.world.channel.changing = false

/-- That nobody else opens, closes or moves the channel. -/
def SoleMover (mover : Nat) (turns : List Turn) : Prop :=
  ∀ turn ∈ turns, turn.task ≠ mover → turn.deed.action.lifecycle = false

instance (mover : Nat) (turns : List Turn) : Decidable (SoleMover mover turns) :=
  inferInstanceAs (Decidable (∀ turn ∈ turns, turn.task ≠ mover → turn.deed.action.lifecycle = false))

/-- That besides the moving nobody but a reader comes to the queue of a session. -/
def LeftToReader (mover reader : Nat) (session : Session) (turns : List Turn) : Prop :=
  ∀ turn ∈ turns, turn.task ≠ mover → turn.deed.action.alters? = some session → turn.task = reader

instance (mover reader : Nat) (session : Session) (turns : List Turn) :
    Decidable (LeftToReader mover reader session turns) :=
  inferInstanceAs (Decidable (∀ turn ∈ turns, turn.task ≠ mover → turn.deed.action.alters? = some session →
    turn.task = reader))

/-- The parts of the channel that others touched. -/
def touchedBeside (mover : Nat) (turns : List Turn) (part : Part) : Prop :=
  ∃ turn ∈ turns, turn.task ≠ mover ∧ part ∈ turn.deed.parts

/-- That a moving came to an outcome as it would have come to alone, and left the channel so too, but for what
others touched. -/
def CameTo (address : Option String) (c : Channel) (touched : Part → Prop) (outcome : Outcome Failure Answer)
    (w : World) : Prop :=
  ∃ result c', outcome = result.told .port (fun _ => .nothing) ∧ Channel.Moved address c result c' ∧
    c'.Kept touched w.channel

section moving

variable {builder : Builder} {operations : List Operation} {address : Option String} {mover : Nat}
  {turns later : List Turn} {moves : List Move} {m m' : Machine Failure Answer}

/-- What the others do keeps the channel, but for the parts that they touch. -/
theorem Movable.besides (h : Movable builder operations address mover turns m) (hrun : Run m moves later m')
    (hsole : SoleMover mover later) : ∀ turn ∈ later, turn.task ≠ mover →
      (Channel.besides (touchedBeside mover later)).within turn.before turn.after := by
  obtain ⟨_, hstart⟩ := h.run
  intro turn hturn hother
  obtain ⟨earlier, after, rfl⟩ := List.append_of_mem hturn
  have hall := hstart.trans hrun
  rw [← List.append_assoc] at hall
  obtain ⟨operation, -, hmay, -⟩ := hall.rule
  exact (hrun.comes hturn).kept hmay (hsole turn hturn hother) fun part hpart => ⟨turn, hturn, hother, hpart⟩

/-- However far a moving has come, it attains what it would have come to alone. -/
theorem Movable.attains (h : Movable builder operations address mover turns m) (hrun : Run m moves later m')
    (hsole : SoleMover mover later) : ∃ p, m'.programOf? mover = some p ∧
      p.Attains (Channel.besides (touchedBeside mover later))
        (CameTo address m.world.channel (touchedBeside mover later)) m'.world := by
  obtain ⟨_, hstart⟩ := h.run
  obtain ⟨p, hp, hbegun⟩ := hstart.leads (programOf?_sharing.2 ⟨_, h.moving, rfl⟩)
  rw [h.fresh] at hbegun
  obtain rfl := hbegun.eq_of_nil
  have hmakes : (Channel.setAddress address).Makes (touchedBeside mover later)
      (Channel.Moved address m.world.channel) m.world.channel := Channel.makes_setAddress address h.free hstart.inOrder
  refine hrun.attains hp (Program.Attains.told ?_) (h.besides hrun hsole)
  exact (hmakes m.world (.refl ..)).mono fun result w ⟨c', hmoved, hkept⟩ => ⟨result, c', rfl, hmoved, hkept⟩

/-- A moving sleeps only in its pause. -/
theorem Movable.deadline_of_asleep (h : Movable builder operations address mover turns m) (hrun : Run m moves later m')
    {ticket : Nat} {action : Action} {next : action.Reply → Job}
    (htask : m'.tasks[mover]? = some (.asleep ticket action next)) : action.deadline? ≠ none := by
  obtain ⟨_, hstart⟩ := h.run
  have hall := hstart.trans hrun
  obtain ⟨operation, hoperation, hmay, -⟩ := hall.rule_of_program (programOf?_of_getElem? htask)
  obtain rfl := Option.some.inj (h.moving.symm.trans hoperation)
  obtain ⟨_, _, hwaits⟩ :=
    (reachable_iff_run.2 ⟨_, _, hall⟩).waits_of_asleep (List.mem_of_getElem? htask)
  cases hwaits with
  | push => cases hmay.1
  | pop => cases hmay
  | pause => nofun

/-- A moving that has ended came to what it would have come to alone. -/
theorem Movable.cameTo (h : Movable builder operations address mover turns m) (hrun : Run m moves later m')
    (hsole : SoleMover mover later) {outcome : Outcome Failure Answer} (hended : m'.outcomeOf? mover = some outcome) :
    CameTo address m.world.channel (touchedBeside mover later) outcome m'.world := by
  obtain ⟨p, hp, hattains⟩ := h.attains hrun hsole
  exact hattains.ended (stand_of_outcomeOf? hp hended)

/-- A channel that could not be opened where it was moved to is opened after it was moved to an address that can
be decoded. -/
theorem Movable.again (h : Movable builder operations address mover turns m) {touched : Part → Prop}
    {outcome : Outcome Failure Answer} {w : World} (hcame : CameTo address m.world.channel touched outcome w)
    (hfailed : outcome ≠ .ok .nothing) {text : String} {decoded : Address} (hparse : Address.parse text = .ok decoded)
    (task : Nat) : ∃ w', (Channel.setAddress (some text) >>= fun _ => Channel.openPort).alone task w =
      .ended (.ok ()) w' ∧ w'.channel.isOpen = true ∧ w'.channel.address = some text := by
  obtain ⟨_, hstart⟩ := h.run
  obtain ⟨result, c', rfl, hmoved, hkept⟩ := hcame
  obtain ⟨hclosed, hbaud, hfits, hfree⟩ : c'.isOpen = false ∧ c'.settings.baudRate ≠ 0 ∧
      Queue.fitsMemory c'.traits.capacity = true ∧ c'.changing = false := by
    cases hmoved with
    | closed | reopened => exact absurd rfl hfailed
    | notConfigured hopen | addressFormat hopen =>
      obtain ⟨hbaud, hfits, -⟩ := hstart.inOrder hopen
      exact ⟨rfl, hbaud, hfits, h.free⟩
  have hmakes : (Channel.setAddress (some text) >>= fun _ => Channel.openPort).Makes touched
      (fun outcome c => outcome = .ok () ∧ c.isOpen = true ∧ c.address = some text) w.channel :=
    Channel.makes_setAddress_openPort hparse (hkept.isOpen.trans hclosed) (hkept.baudRate hbaud)
      (hkept.traits ▸ hfits) (hkept.changing.trans hfree)
  obtain ⟨_, w', halone, c'', ⟨rfl, hopened, haddress⟩, hkept'⟩ := (hmakes w (.refl ..)).alone task
  exact ⟨w', halone, hkept'.isOpen.trans hopened, hkept'.address.trans haddress⟩

section reading

variable {session : Session} {reader : Nat} {operation : Operation}

/-- Apart from a moving and a read nobody comes to the queue of a session, so it accepts no bytes. -/
theorem Movable.accepted_marks (h : Movable builder operations address mover turns m) (hrun : Run m moves later m')
    (hoperation : operations[reader]? = some operation) (hreads : operation.Reads)
    (hleft : LeftToReader mover reader session later) :
    ∀ item ∈ accepted session later, item = .endOfStream := by
  obtain ⟨_, hstart⟩ := h.run
  intro item hitem
  obtain ⟨turn, hturn, hput⟩ := List.mem_flatMap.1 hitem
  have halters : turn.deed.action.alters? = some session := by
    by_contra hnot
    rw [show turn.deed.put session = [] from Action.put_eq_nil hnot _] at hput
    cases hput
  obtain ⟨item', hput'⟩ := (turn.deed.put_cases session).resolve_left (List.ne_nil_of_mem hput)
  obtain rfl : item = item' := List.mem_singleton.1 (hput' ▸ hput)
  obtain ⟨earlier, after, rfl⟩ := List.append_of_mem hturn
  have hall := hstart.trans hrun
  rw [← List.append_assoc] at hall
  obtain ⟨other, hother, hrule⟩ := hall.rule
  -- Bytes are put by a write, and neither a moving nor a read is one.
  obtain ⟨-, ⟨hwrites, -⟩ | ⟨-, hmark⟩⟩ := put_of_rule hrule hput'
  · by_cases hown : turn.task = mover
    · rw [hown, h.moving] at hother
      cases hother
      cases hwrites
    · rw [hleft turn hturn hown halters, hoperation] at hother
      cases hother
      cases hreads.kind.symm.trans hwrites
  · exact hmark

/-- The bytes that a read takes where only a moving comes besides were queued before. -/
theorem Movable.taken_before (h : Movable builder operations address mover turns m) (hrun : Run m moves later m')
    (hoperation : operations[reader]? = some operation) (hreads : operation.Reads)
    (hleft : LeftToReader mover reader session later)
    {q : Queue} (hq : m.world.channel.queues[session]? = some q) {more : List UInt8} {mark : List (Session × Item)}
    (hmark : mark = [] ∨ mark = [(session, .endOfStream)])
    (htaken : (deedsOf reader later).flatMap Deed.taken = bytesIn session more ++ mark) :
    (more.map Item.byte).Sublist q.items := by
  have hsession : ∀ place ∈ (deedsOf reader later).flatMap Deed.taken, place.1 = session := by
    rw [htaken]
    refine List.forall_mem_append.2 ⟨by simp [bytesIn], ?_⟩
    rcases hmark with rfl | rfl <;> simp
  have hremoved := taken_sublist_removed hsession
  obtain ⟨q', -, -, hitems⟩ := hrun.queue hq
  have hbytes : (more.map Item.byte).Sublist (q.items ++ accepted session later) := by
    rw [hitems]
    refine List.Sublist.trans ?_ (hremoved.trans (List.sublist_append_left ..))
    rw [htaken, List.map_append]
    refine List.Sublist.trans ?_ (List.sublist_append_left ..)
    rw [bytesIn, List.map_map]
    exact List.Sublist.refl _
  -- No mark is among the bytes, and nothing but marks was accepted since.
  have hsame : (more.map Item.byte).filter (· ≠ .endOfStream) = more.map Item.byte :=
    List.filter_eq_self.2 (by simp)
  have hnone : (accepted session later).filter (· ≠ .endOfStream) = [] :=
    List.filter_eq_nil_iff.2 fun item hitem => by
      simp [h.accepted_marks hrun hoperation hreads hleft item hitem]
  have hfiltered := hbytes.filter (· ≠ .endOfStream)
  rw [hsame, List.filter_append, hnone, List.append_nil] at hfiltered
  exact hfiltered.trans List.filter_sublist

/-- The mark of the end stays where a moving has put it, unless the read has taken it to whose queue nobody else
comes. -/
theorem Movable.mark_untouched (h : Movable builder operations address mover turns m) (hrun : Run m moves later m')
    (hoperation : operations[reader]? = some operation) (hreads : operation.Reads)
    (hleft : LeftToReader mover reader session later)
    (hunmarked : (session, .endOfStream) ∉ (deedsOf reader later).flatMap Deed.taken) :
    ¬touchedBeside mover later (.mark session) := by
  obtain ⟨_, hstart⟩ := h.run
  rintro ⟨turn, hturn, hother, hpart⟩
  obtain ⟨halters, hclear | htook⟩ := Deed.of_mark_mem_parts hpart
  · have hall := hstart.trans hrun
    obtain ⟨earlier, after, rfl⟩ := List.append_of_mem hturn
    rw [← List.append_assoc] at hall
    obtain ⟨other, hop, hmay, -⟩ := hall.rule
    rw [hleft turn hturn hother halters, hoperation] at hop
    cases hop
    rw [hclear, hreads.kind] at hmay
    simp [Kind.may, Kind.Opens] at hmay
  · refine hunmarked (List.mem_flatMap.2 ⟨turn.deed, ?_, htook⟩)
    rw [← hleft turn hturn hother halters]
    exact mem_deedsOf_of_mem hturn

/-- A read that sleeps in the session of an open channel has ended when the channel was moved and is calm, if
nobody else comes to that session. It answers what it had taken before, and after that what it has taken since of
the bytes that were queued for it. -/
theorem Movable.released (h : Movable builder operations address mover turns m) (hrun : Run m moves later m')
    (hsole : SoleMover mover later) (hopen : m.world.channel.isOpen = true)
    (hsession : m.world.channel.session? = some session) (hoperation : operations[reader]? = some operation)
    (hreads : operation.Reads) (hsleeps : m.sleepsAt reader session .item = true)
    (hleft : LeftToReader mover reader session later)
    (hcalm : Calm (turns ++ later) m') {outcome : Outcome Failure Answer}
    (hended : m'.outcomeOf? mover = some outcome) :
    ∃ answer more, m'.outcomeOf? reader = some (.ok answer) ∧
      (deedsOf reader turns).flatMap Deed.taken ++ bytesIn session more = bytesIn session answer.bytesRead ∧
      (more.map Item.byte).Sublist (m.world.items session) := by
  obtain ⟨_, hstart⟩ := h.run
  have hall := hstart.trans hrun
  obtain ⟨_, action, next, -, hprogram, -, -, hholding⟩ := hstart.holding_of_sleepsAt hsleeps
  obtain ⟨q, hq, -⟩ := hrun.leads hprogram
  have hgiven := mem_of_holding hholding
  obtain ⟨_, hsame, hbefore⟩ := hstart.leads_job hprogram
  obtain rfl := Option.some.inj (hoperation.symm.trans hsame)
  obtain ⟨_, hsame, hafter⟩ := hall.leads_job hq
  obtain rfl := Option.some.inj (hoperation.symm.trans hsame)
  rw [deedsOf_append] at hafter
  rcases hreads.goes_on hgiven hbefore hafter with
    ⟨answer, more, mark, hstand, hcollected, hsince, hmark⟩ | ⟨waiting, hstand, habides, hunmarked⟩
  · obtain ⟨queue, hqueue⟩ : ∃ queue, m.world.channel.queues[session]? = some queue :=
      ⟨_, List.getElem?_eq_getElem (Channel.session?_eq_some.1 hsession ▸ Nat.lt_succ_self session)⟩
    rw [World.items_of_queue hqueue]
    exact ⟨answer, more, hcalm.ended hq hstand, hcollected,
      h.taken_before hrun hoperation hreads hleft hqueue hmark hsince⟩
  -- It would sleep there, where nothing is queued then, and yet the mark is, because only it could have taken that.
  exfalso
  obtain ⟨next', rfl⟩ := Program.eq_act_of_stand hstand
  have hbegun : deedsOf reader (turns ++ later) ≠ [] := by
    rw [deedsOf_append]
    exact List.append_ne_nil_of_left_ne_nil (hstart.begun_of_sleepsAt hsleeps) _
  obtain ⟨ticket, htask⟩ := hcalm.asleep hq hbegun
  obtain ⟨_, _, hwaits⟩ := (reachable_iff_run.2 ⟨_, _, hall⟩).waits_of_asleep (List.mem_of_getElem? htask)
  obtain ⟨deadline, rfl⟩ := habides.pop hwaits
  have hempty := (hall.starved_sharing hcalm session).1
    (hasSleeper_of_sleepsAt (sleepsAt_iff.2 ⟨ticket, _, next', htask, rfl⟩))
  have huntouched := h.mark_untouched hrun hoperation hreads hleft hunmarked
  obtain ⟨result, c', -, hmoved, hkept⟩ := h.cameTo hrun hsole hended
  obtain ⟨queue, hqueue, hmem⟩ := hkept.mark session huntouched (hmoved.markedIn hopen hsession)
  rw [World.items_of_queue hqueue] at hempty
  rw [hempty] at hmem
  cases hmem

end reading

/-- What is known of a channel after it was, or is just being, moved. -/
structure Relocation (operations : List Operation) (address : Option String) (mover : Nat) (turns later : List Turn)
    (m m' : Machine Failure Answer) : Prop where
  /-- The moving can return without the help of others, and then has come to what it would have come to alone. -/
  returns : m'.Returns mover (CameTo address m.world.channel (touchedBeside mover later))
  cameTo : ∀ outcome, m'.outcomeOf? mover = some outcome →
    CameTo address m.world.channel (touchedBeside mover later) outcome m'.world
  /-- Where the others have only looked at the channel, it is left just so. -/
  exactly : (∀ turn ∈ later, turn.task ≠ mover → turn.deed.parts = []) →
    ∀ outcome, m'.outcomeOf? mover = some outcome → ∃ result, outcome = result.told .port (fun _ => .nothing) ∧
      Channel.Moved address m.world.channel result m'.world.channel
  ok_iff : ∀ outcome, m'.outcomeOf? mover = some outcome → (outcome = .ok .nothing ↔
    m.world.channel.isOpen = false ∨ ∃ text decoded, address = some text ∧ Address.parse text = .ok decoded)
  never : ∀ outcome, m'.outcomeOf? mover = some outcome → outcome ≠ .failed (.port .alreadyOpen) ∧
    ∀ rate, outcome ≠ .failed (.port (.invalidBaudRate rate))
  /-- After a failure the channel can be moved to any address that can be decoded, and opened there. -/
  again : ∀ outcome, m'.outcomeOf? mover = some outcome → outcome ≠ .ok .nothing →
    ∀ text decoded, Address.parse text = .ok decoded → ∀ task, ∃ w,
      (Channel.setAddress (some text) >>= fun _ => Channel.openPort).alone task m'.world = .ended (.ok ()) w ∧
        w.channel.isOpen = true ∧ w.channel.address = some text
  /-- The one read that is asleep in the session that was open, and to whose queue nobody else comes, has ended once
  all is calm: it answers what it had collected, and what it has collected since of the bytes that were queued. There
  are none of these in a calm channel. -/
  released : ∀ session reader operation, m.world.channel.isOpen = true → m.world.channel.session? = some session →
    operations[reader]? = some operation → operation.Reads → m.sleepsAt reader session .item = true →
    LeftToReader mover reader session later → (m'.outcomeOf? mover).isSome = true → Calm (turns ++ later) m' →
    ∃ answer more, m'.outcomeOf? reader = some (.ok answer) ∧
      (deedsOf reader turns).flatMap Deed.taken ++ bytesIn session more = bytesIn session answer.bytesRead ∧
      (more.map Item.byte).Sublist (m.world.items session) ∧ (Calm turns m → more = [])

/-- A moving that has ended succeeded just if there was nothing to open or the address could be decoded. -/
theorem CameTo.ok_iff {c : Channel} {touched : Part → Prop} {outcome : Outcome Failure Answer} {w : World}
    (h : CameTo address c touched outcome w) : outcome = .ok .nothing ↔
      c.isOpen = false ∨ ∃ text decoded, address = some text ∧ Address.parse text = .ok decoded := by
  obtain ⟨result, c', rfl, hmoved, -⟩ := h
  cases hmoved with
  | closed hclosed => exact ⟨fun _ => .inl hclosed, fun _ => rfl⟩
  | reopened _ haddress hparse => exact ⟨fun _ => .inr ⟨_, _, haddress, hparse⟩, fun _ => rfl⟩
  | notConfigured hopen haddress =>
    refine ⟨nofun, ?_⟩
    rintro (hclosed | ⟨text, decoded, hsome, -⟩)
    · exact absurd (hopen.symm.trans hclosed) nofun
    · cases haddress.symm.trans hsome
  | addressFormat hopen haddress hfault =>
    refine ⟨nofun, ?_⟩
    rintro (hclosed | ⟨text, decoded, hsome, hparse⟩)
    · exact absurd (hopen.symm.trans hclosed) nofun
    · cases haddress.symm.trans hsome
      cases hfault.symm.trans hparse

/-- A moving never finds the channel open when it opens it, nor a baud rate that is wrong. -/
theorem CameTo.never {c : Channel} {touched : Part → Prop} {outcome : Outcome Failure Answer} {w : World}
    (h : CameTo address c touched outcome w) : outcome ≠ .failed (.port .alreadyOpen) ∧
      ∀ rate, outcome ≠ .failed (.port (.invalidBaudRate rate)) := by
  obtain ⟨result, c', rfl, hmoved, -⟩ := h
  cases hmoved <;> exact ⟨nofun, nofun⟩

/-- A moving beside which nothing was touched has left the channel as it would have left it alone. -/
theorem CameTo.exactly {c : Channel} {touched : Part → Prop} {outcome : Outcome Failure Answer} {w : World}
    (h : CameTo address c touched outcome w) (hnone : ∀ part, ¬touched part) :
    ∃ result, outcome = result.told .port (fun _ => .nothing) ∧ Channel.Moved address c result w.channel := by
  obtain ⟨result, c', houtcome, hmoved, hkept⟩ := h
  exact ⟨result, houtcome, hkept.eq_of_untouched hnone ▸ hmoved⟩

/-- Moving a channel, while nobody else opens, closes or moves it, comes to what it would have come to alone, from
whatever state a run has led to and whatever the others do besides. -/
theorem Movable.relocates (h : Movable builder operations address mover turns m) (hrun : Run m moves later m')
    (hsole : SoleMover mover later) : Relocation operations address mover turns later m m' where
  returns := by
    obtain ⟨p, hp, hattains⟩ := h.attains hrun hsole
    exact returns_of_attains hattains hp fun _ _ _ => h.deadline_of_asleep hrun
  cameTo _ hended := h.cameTo hrun hsole hended
  exactly hlook _ hended := by
    refine (h.cameTo hrun hsole hended).exactly ?_
    rintro part ⟨turn, hturn, hother, hpart⟩
    rw [hlook turn hturn hother] at hpart
    cases hpart
  ok_iff _ hended := (h.cameTo hrun hsole hended).ok_iff
  never _ hended := (h.cameTo hrun hsole hended).never
  again _ hended hfailed _ _ hparse := h.again (h.cameTo hrun hsole hended) hfailed hparse
  released session reader operation hopen hsession hoperation hreads hsleeps hleft hended hcalm := by
    obtain ⟨outcome, hended⟩ := Option.isSome_iff_exists.1 hended
    obtain ⟨answer, more, hanswered, hcollected, hqueued⟩ :=
      h.released hrun hsole hopen hsession hoperation hreads hsleeps hleft hcalm hended
    refine ⟨answer, more, hanswered, hcollected, hqueued, fun hcalm => ?_⟩
    obtain ⟨_, hstart⟩ := h.run
    rw [(hstart.starved_sharing hcalm session).1 (hasSleeper_of_sleepsAt hsleeps)] at hqueued
    exact List.map_eq_nil_iff.1 (List.sublist_nil.1 hqueued)

end moving

/-- A read sleeps in a channel that is moved to no address at all. It has got one byte. -/
def relocated : List Operation := [
  .channel .openPort, .background (.read 2), .adapter (.write [5]), .channel (.setAddress none)]

/-- The channel is opened, and the read sleeps again once it has got the byte that is written. -/
def relocatedMoves : List Move :=
  List.replicate 26 (.act 0) ++ List.replicate 7 (.act 1) ++ List.replicate 5 (.act 2) ++
    [.wake 2 1, .act 2] ++ List.replicate 5 (.act 1)

/-- The moving closes the channel and wakes the reader, and does not open it again. -/
def relocatingMoves : List Move :=
  List.replicate 5 (.act 3) ++ [.wake 3 1, .act 1] ++ List.replicate 13 (.act 3)

/-- A channel that is moved to no address is closed, and the reader that slept in it returns the byte it had got. -/
theorem relocates_relocated :
    ∃ turns m later m' outcome answer, Movable narrow relocated none 3 turns m ∧ Run m relocatingMoves later m' ∧
      SoleMover 3 later ∧ m.world.channel.isOpen = true ∧ m.sleepsAt 1 0 .item = true ∧
      m'.outcomeOf? 3 = some outcome ∧ outcome ≠ .ok .nothing ∧
      m'.outcomeOf? 1 = some (.ok answer) ∧ (deedsOf 1 turns).flatMap Deed.taken = bytesIn 0 answer.bytesRead ∧
      answer.bytesRead = [5] := by
  obtain ⟨turns, m, later, m', hstart, hrun, ⟨hopen, hsession, hfree, hfresh⟩, ⟨hcalm, hsleeps, htaken⟩, hsole, hleft,
    hcalm', hended⟩ :
      ∃ turns m later m', Run (sharing narrow relocated) relocatedMoves turns m ∧ Run m relocatingMoves later m' ∧
        (m.world.channel.isOpen = true ∧ m.world.channel.session? = some 0 ∧ m.world.channel.changing = false ∧
          deedsOf 3 turns = []) ∧
        (Calm turns m ∧ m.sleepsAt 1 0 .item = true ∧ (deedsOf 1 turns).flatMap Deed.taken = bytesIn 0 [5]) ∧
        SoleMover 3 later ∧ LeftToReader 3 1 0 later ∧ Calm (turns ++ later) m' ∧
        (m'.outcomeOf? 3).isSome = true :=
    exists_run_run (by decide +kernel)
  have hmovable : Movable narrow relocated none 3 turns m := ⟨⟨_, hstart⟩, rfl, hfresh, hfree⟩
  have hrelocation := hmovable.relocates hrun hsole
  obtain ⟨answer, more, hanswered, hcollected, -, hnone⟩ :=
    hrelocation.released 0 1 _ hopen hsession rfl (.background 2) hsleeps hleft hended hcalm'
  obtain ⟨outcome, hended⟩ := Option.isSome_iff_exists.1 hended
  rw [hnone hcalm, show bytesIn 0 [] = [] from rfl, List.append_nil] at hcollected
  refine ⟨turns, m, later, m', outcome, answer, hmovable, hrun, hsole, hopen, hsleeps, hended, fun hok => ?_,
    hanswered, hcollected, ?_⟩
  · obtain hclosed | ⟨_, _, hnone, -⟩ := (hrelocation.ok_iff outcome hended).1 hok
    · exact absurd (hopen.symm.trans hclosed) nofun
    · cases hnone
  · exact (bytesIn_inj.1 (htaken.symm.trans hcollected)).symm

end Machine

end Loopback
