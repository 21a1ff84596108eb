import Loopback.Proofs.Channel.Ends
import Loopback.Proofs.Channel.Opening
import Loopback.Proofs.Machine.Progress
import Loopback.Proofs.Queue.WakeUp

/-!
# Delivery without deadlock

One task puts certain bytes into a channel that was just opened and another one takes as many, and
neither ever gives up waiting. However small the channel is and in whatever order they act, some task
can move until both have ended, they come to their ends after a bounded number of moves, and what was
put is what was taken.
-/

namespace Loopback

variable {ε α : Type}

/-- A fresh session holds nothing. -/
theorem World.Fresh.items_eq {session : Session} {settings : PortSettings} {capacity : Nat} {w : World}
    (h : w.Fresh session settings capacity) : w.items session = [] :=
  World.items_of_queue h.created

namespace Machine

/-- Where there are two tasks, every turn is one of theirs. -/
theorem length_deedsOf {turns : List Turn} (h : ∀ turn ∈ turns, turn.task < 2) :
    turns.length = (deedsOf 0 turns).length + (deedsOf 1 turns).length := by
  induction turns with
  | nil => rfl
  | cons turn rest ih =>
    obtain ⟨hturn, hrest⟩ := List.forall_mem_cons.1 h
    rw [← List.singleton_append, deedsOf_append, deedsOf_append, deedsOf_singleton, deedsOf_singleton,
      List.length_append, List.length_append, List.length_append, ih hrest]
    have htask : turn.task = 0 ∨ turn.task = 1 := by omega
    rcases htask with htask | htask
    · simp [htask]
      omega
    · simp [htask]
      omega

/-- How far a delivery has come, when so much was put and so much was taken. -/
structure Delivery (session : Session) (accepts : α → Prop) (data : List UInt8)
    (tells : List UInt8 → α → Prop) (put popped : List Item) (m : Machine ε α) : Prop where
  writer : ∃ p, m.programOf? 0 = some p ∧ Delivered accepts data put p.stand ∧
    ∀ deadline, p.stand ≠ .before (.pop session deadline)
  reader : ∃ q, m.programOf? 1 = some q ∧ Taken data.length True tells (fun _ => False) popped q.stand ∧
    ∀ item deadline, q.stand ≠ .before (.push session item deadline)
  items : put = popped ++ m.world.items session

section delivery

variable {world : World} {session : Session} {settings : PortSettings} {capacity : Nat}
  {writer reader : Program ε α} {writes reads : Nat} {accepts : α → Prop} {data : List UInt8}
  {tells : List UInt8 → α → Prop} {m : Machine ε α} {moves : List Move} {turns : List Turn}

/-- Two programs that deliver and collect get the answers that are expected on a channel in use. -/
theorem Run.delivery_expects (hrun : Run (ofPrograms world [writer, reader]) moves turns m)
    (hlive : world.Live session settings)
    (hwriter : writer.Delivers session settings writes accepts data)
    (hreader : reader.Collects session settings reads data.length tells) :
    ∀ turn ∈ turns, (Channel.busy session settings).allows turn.deed.action ∧
      (Channel.busy session settings).expects turn.deed := by
  refine (hrun.regime (Channel.busy_kept session settings) hlive ?_).2
  exact List.forall_mem_cons.2 ⟨hwriter.follows, List.forall_mem_singleton.2 hreader.follows⟩

/-- At every point a delivery has come so far, in a bounded number of turns. -/
theorem Run.delivery (hrun : Run (ofPrograms world [writer, reader]) moves turns m)
    (hfresh : world.Fresh session settings capacity)
    (hwriter : writer.Delivers session settings writes accepts data)
    (hreader : reader.Collects session settings reads data.length tells) :
    turns.length ≤ writes + reads ∧ ∃ put popped, Delivery session accepts data tells put popped m := by
  have hturns := hrun.delivery_expects hfresh.live hwriter hreader
  have hexpects : ∀ task, ∀ deed ∈ deedsOf task turns, (Channel.busy session settings).expects deed :=
    forall_deedsOf fun turn hturn => (hturns turn hturn).2
  obtain ⟨p, hp, hpleads⟩ := hrun.leads (programOf?_ofPrograms world _ 0)
  obtain ⟨q, hq, hqleads⟩ := hrun.leads (programOf?_ofPrograms world _ 1)
  obtain ⟨hwrites, hpopped, hdelivered⟩ := Program.Transfers.leads hwriter hpleads (hexpects 0)
  obtain ⟨hreads, hput, htaken⟩ := Program.Transfers.leads hreader hqleads (hexpects 1)
  have hlength := length_deedsOf (hrun.task_lt : ∀ turn ∈ turns, turn.task < 2)
  have hitems := hrun.items_eq hfresh.live (fun turn hturn => (hturns turn hturn).1) hpopped hput
  rw [hfresh.items_eq, List.nil_append] at hitems
  refine ⟨by omega, _, _, ⟨p, hp, hdelivered, fun deadline hstand => ?_⟩,
    ⟨q, hq, htaken, fun item deadline hstand => ?_⟩, hitems⟩
  · obtain ⟨next, rfl⟩ := Program.eq_act_of_stand hstand
    exact hwriter.ne_pop (hexpects 0) hpleads
  · obtain ⟨next, rfl⟩ := Program.eq_act_of_stand hstand
    exact hreader.ne_push (hexpects 1) hqleads

/-- A delivery has a bounded number of moves, but for the passing of time. -/
theorem Run.delivery_pace (hrun : Run (ofPrograms world [writer, reader]) moves turns m)
    (hfresh : world.Fresh session settings capacity)
    (hwriter : writer.Delivers session settings writes accepts data)
    (hreader : reader.Collects session settings reads data.length tells) :
    pace moves ≤ 7 * (writes + reads) + 4 := by
  have hpace : pace moves + _ ≤ 2 * 2 + (2 + 5) * turns.length := hrun.pace_le
  obtain ⟨hturns, -⟩ := hrun.delivery hfresh hwriter hreader
  omega

/-- A writer that has ended succeeded. -/
theorem Delivery.written {put popped : List Item} (h : Delivery session accepts data tells put popped m)
    {outcome : Outcome ε α} (houtcome : m.outcomeOf? 0 = some outcome) :
    put = data.map .byte ∧ ∃ result, outcome = .ok result ∧ accepts result := by
  obtain ⟨p, hp, hdelivered, -⟩ := h.writer
  rw [stand_of_outcomeOf? hp houtcome] at hdelivered
  cases hdelivered with
  | all haccepts => exact ⟨rfl, _, rfl, haccepts⟩

/-- What was put is no more than the data. -/
theorem Delivery.put_le {put popped : List Item} (h : Delivery session accepts data tells put popped m) :
    ∃ left, data.map .byte = put ++ left := by
  obtain ⟨p, hp, hdelivered, -⟩ := h.writer
  generalize p.stand = stand at hdelivered
  cases hdelivered with
  | @midst sent left action hdata => exact ⟨left.map .byte, by rw [hdata, List.map_append]⟩
  | all => exact ⟨[], (List.append_nil _).symm⟩

/-- A reader that has ended got everything, and left nothing queued. -/
theorem Delivery.read {put popped : List Item} (h : Delivery session accepts data tells put popped m)
    {outcome : Outcome ε α} (houtcome : m.outcomeOf? 1 = some outcome) :
    m.world.items session = [] ∧ ∃ result, outcome = .ok result ∧ tells data result := by
  obtain ⟨q, hq, htaken, -⟩ := h.reader
  rw [stand_of_outcomeOf? hq houtcome] at htaken
  obtain ⟨left, hleft⟩ := h.put_le
  cases htaken with
  | @answered taken result hsize hall htells =>
    have hitems : data.map .byte = taken.map .byte ++ (m.world.items session ++ left) := by
      rw [hleft, h.items, List.append_assoc]
    have hlength := congrArg List.length hitems
    have hnothing : m.world.items session ++ left = [] := by
      rw [List.length_append, List.length_map, List.length_map, hall trivial] at hlength
      exact List.length_eq_zero_iff.1 (by omega)
    have hdata : data = taken := by
      rw [hnothing, List.append_nil] at hitems
      exact (List.map_inj_right fun _ _ hbyte => Item.byte.inj hbyte).1 hitems
    subst hdata
    exact ⟨(List.append_eq_nil_iff.1 hnothing).1, result, rfl, htells⟩
  | nothing hfails => exact hfails.elim

/-- A writer that sleeps waits for room. -/
theorem Delivery.writer_waits {put popped : List Item}
    (h : Delivery session accepts data tells put popped m)
    (hreach : Reachable (ofPrograms world [writer, reader]) m)
    (hallows : ∀ {task action next}, m.programOf? task = some (.act action next) →
      (Channel.busy session settings).allows action) {ticket : Nat} {action : Action}
    {next : action.Reply → Program ε α} (htask : m.tasks[0]? = some (.asleep ticket action next)) :
    action.post? = some (session, .room) := by
  obtain ⟨p, hp, hdelivered, hpop⟩ := h.writer
  have hprogram := programOf?_of_getElem? htask
  obtain rfl : p = .act action next := Option.some.inj (hp.symm.trans hprogram)
  have hallowed := hallows hprogram
  obtain ⟨w, otherwise, hwaits⟩ := hreach.waits_of_asleep (List.mem_of_getElem? htask)
  cases hwaits with
  | push => exact congrArg (fun s => some (s, Want.room)) hallowed.1
  | @pop s deadline q hqueue hempty =>
    obtain rfl : s = session := hallowed
    exact absurd rfl (hpop deadline)
  | @pause deadline =>
    cases hdelivered with
    | midst sent hdata hpause => exact absurd rfl (hpause deadline)

/-- A reader that sleeps waits for an element, and has not got everything. -/
theorem Delivery.reader_waits {put popped : List Item}
    (h : Delivery session accepts data tells put popped m)
    (hreach : Reachable (ofPrograms world [writer, reader]) m)
    (hallows : ∀ {task action next}, m.programOf? task = some (.act action next) →
      (Channel.busy session settings).allows action) {ticket : Nat} {action : Action}
    {next : action.Reply → Program ε α} (htask : m.tasks[1]? = some (.asleep ticket action next)) :
    action.post? = some (session, .item) ∧ popped.length < data.length := by
  obtain ⟨q, hq, htaken, hpush⟩ := h.reader
  have hprogram := programOf?_of_getElem? htask
  obtain rfl : q = .act action next := Option.some.inj (hq.symm.trans hprogram)
  have hallowed := hallows hprogram
  obtain ⟨w, otherwise, hwaits⟩ := hreach.waits_of_asleep (List.mem_of_getElem? htask)
  cases hwaits with
  | @push s item deadline q hqueue hfull =>
    obtain ⟨rfl, -⟩ := hallowed
    exact absurd rfl (hpush item deadline)
  | @pop s deadline q hqueue hempty =>
    obtain rfl : s = session := hallowed
    cases htaken with
    | midst taken hpause hmore =>
      rw [List.length_map]
      exact ⟨rfl, hmore s deadline rfl⟩
  | @pause deadline =>
    cases htaken with
    | midst taken hpause hmore => exact absurd rfl (hpause deadline)

/-- Where both tasks sleep or have ended, both have ended. -/
theorem Delivery.ended {put popped : List Item} (h : Delivery session accepts data tells put popped m)
    (hreach : Reachable (ofPrograms world [writer, reader]) m)
    (hallows : ∀ {task action next}, m.programOf? task = some (.act action next) →
      (Channel.busy session settings).allows action)
    (hrest : ∀ t ∈ m.tasks, t.Resting)
    (hitem : (∃ t ∈ m.tasks, t.sleepsAt session .item = true) → m.world.items session = [])
    (hroom : (∃ t ∈ m.tasks, t.sleepsAt session .room = true) → m.world.items session ≠ []) :
    m.outcomeOf? 0 ≠ none ∧ m.outcomeOf? 1 ≠ none := by
  obtain ⟨p, hp, -⟩ := h.writer
  obtain ⟨q, hq, -⟩ := h.reader
  obtain ⟨t₀, ht₀, -⟩ := programOf?_eq_some.1 hp
  obtain ⟨t₁, ht₁, -⟩ := programOf?_eq_some.1 hq
  have hended₀ : m.outcomeOf? 0 = t₀.outcome? := by rw [outcomeOf?, ht₀]
  have hended₁ : m.outcomeOf? 1 = t₁.outcome? := by rw [outcomeOf?, ht₁]
  have hreader : ∀ {ticket action next}, t₁ = .asleep ticket action next →
      m.world.items session = [] ∧ popped.length < data.length := by
    rintro ticket action next rfl
    obtain ⟨hpost, hless⟩ := h.reader_waits hreach hallows ht₁
    exact ⟨hitem ⟨_, List.mem_of_getElem? ht₁, Task.sleepsAt_iff.2 ⟨ticket, action, next, rfl, hpost⟩⟩, hless⟩
  -- A writer sleeps only before a full queue and a reader only before an empty one, so they do not both sleep.
  rcases (hrest t₀ (List.mem_of_getElem? ht₀)).asleep_or_ended with
    ⟨ticket, action, next, rfl⟩ | ⟨outcome₀, houtcome₀⟩
  · have hpost := h.writer_waits hreach hallows ht₀
    have hfull := hroom ⟨_, List.mem_of_getElem? ht₀, Task.sleepsAt_iff.2 ⟨ticket, action, next, rfl, hpost⟩⟩
    rcases (hrest t₁ (List.mem_of_getElem? ht₁)).asleep_or_ended with
      ⟨_, _, _, hasleep⟩ | ⟨outcome₁, houtcome₁⟩
    · exact absurd (hreader hasleep).1 hfull
    · exact absurd (h.read (hended₁.trans houtcome₁)).1 hfull
  · rcases (hrest t₁ (List.mem_of_getElem? ht₁)).asleep_or_ended with
      ⟨_, _, _, hasleep⟩ | ⟨outcome₁, houtcome₁⟩
    · obtain ⟨hnothing, hless⟩ := hreader hasleep
      obtain ⟨hput, -⟩ := h.written (hended₀.trans houtcome₀)
      have hitems := congrArg List.length h.items
      rw [hput, hnothing, List.append_nil, List.length_map] at hitems
      omega
    · simp [hended₀, hended₁, houtcome₀, houtcome₁]

/-- As long as one of the two has not ended, some task is awake and has a move to make. -/
theorem Run.delivery_moves (hrun : Run (ofPrograms world [writer, reader]) moves turns m)
    (hfresh : world.Fresh session settings capacity)
    (hwriter : writer.Delivers session settings writes accepts data)
    (hreader : reader.Collects session settings reads data.length tells)
    (hunfinished : m.outcomeOf? 0 = none ∨ m.outcomeOf? 1 = none) :
    ∃ task t move m', m.tasks[task]? = some t ∧ ¬t.Resting ∧ m.moveOf? task = some move ∧
      m.step move = some m' := by
  have hreach := reachable_iff_run.2 ⟨_, _, hrun⟩
  have hturns := hrun.delivery_expects hfresh.live hwriter hreader
  have hallows : ∀ {task action next}, m.programOf? task = some (.act action next) →
      (Channel.busy session settings).allows action :=
    hrun.allows (List.forall_mem_cons.2 ⟨hwriter.follows, List.forall_mem_singleton.2 hreader.follows⟩)
      fun turn hturn => (hturns turn hturn).2
  by_cases hrest : ∀ t ∈ m.tasks, t.Resting
  · exfalso
    obtain ⟨-, put, popped, hdelivery⟩ := hrun.delivery hfresh hwriter hreader
    obtain ⟨q, hq, hsound, hcapacity, hitem, hroom⟩ := hrun.starved hfresh.created hrest
    rw [← World.items_of_queue hq] at hitem
    have hheld : (∃ t ∈ m.tasks, t.sleepsAt session .room = true) → m.world.items session ≠ [] := by
      intro hsleeper
      rw [World.items_of_queue hq]
      exact hsound.items_ne_nil hcapacity (hroom hsleeper)
    obtain ⟨hwritten, hread⟩ := hdelivery.ended hreach hallows hrest hitem hheld
    exact hunfinished.elim hwritten hread
  · obtain ⟨t, ht, hawake⟩ : ∃ t ∈ m.tasks, ¬t.Resting := by simpa using hrest
    obtain ⟨task, htask⟩ := List.mem_iff_getElem?.1 ht
    obtain ⟨move, m', hmove, hstep⟩ := exists_moveOf? htask hawake fun action next hprogram => by
      rintro rfl
      exact hallows ((programOf?_of_getElem? htask).trans (congrArg some hprogram))
    exact ⟨task, t, move, m', htask, hawake, hmove, hstep⟩

/-- What a delivery has come to where its tasks have ended. -/
theorem Run.delivered (hrun : Run (ofPrograms world [writer, reader]) moves turns m)
    (hfresh : world.Fresh session settings capacity)
    (hwriter : writer.Delivers session settings writes accepts data)
    (hreader : reader.Collects session settings reads data.length tells) :
    (∀ outcome, m.outcomeOf? 0 = some outcome → ∃ result, outcome = .ok result ∧ accepts result) ∧
      ∀ outcome, m.outcomeOf? 1 = some outcome →
        m.world.items session = [] ∧ ∃ result, outcome = .ok result ∧ tells data result := by
  obtain ⟨-, put, popped, hdelivery⟩ := hrun.delivery hfresh hwriter hreader
  exact ⟨fun outcome houtcome => (hdelivery.written houtcome).2,
    fun outcome houtcome => hdelivery.read houtcome⟩

/-- Run in order, a delivery comes to the ends of its tasks. -/
theorem Run.delivery_finish (hrun : Run (ofPrograms world [writer, reader]) moves turns m)
    (hfresh : world.Fresh session settings capacity)
    (hwriter : writer.Delivers session settings writes accepts data)
    (hreader : reader.Collects session settings reads data.length tells) (awaited : List Nat)
    (hawaited : ∀ task ∈ awaited, task < 2) {fuel : Nat} (hfuel : 7 * (writes + reads) + 4 < fuel) :
    ∃ moves' turns' m', m.finish awaited fuel = some m' ∧
      Run (ofPrograms world [writer, reader]) moves' turns' m' ∧
        ∀ task ∈ awaited, (m'.outcomeOf? task).isSome = true := by
  refine hrun.finish (fun hrun => hrun.delivery_pace hfresh hwriter hreader) ?_ (by omega)
  rintro moves turns m hrun ⟨task, htask, hnone⟩
  have hunfinished : m.outcomeOf? 0 = none ∨ m.outcomeOf? 1 = none := by
    have hlt := hawaited task htask
    have hcases : task = 0 ∨ task = 1 := by omega
    rcases hcases with rfl | rfl
    · exact .inl hnone
    · exact .inr hnone
  obtain ⟨task, t, move, m', -, -, hmove, hstep⟩ := hrun.delivery_moves hfresh hwriter hreader hunfinished
  exact ⟨task, move, m', hmove, hstep⟩

end delivery

end Machine

end Loopback
