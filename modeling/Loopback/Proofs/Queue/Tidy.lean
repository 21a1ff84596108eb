import Loopback.Channel.Builder
import Loopback.Proofs.Machine.Frame
import Loopback.Proofs.Queue.Conservation
import Loopback.Proofs.Work.Kind

/-!
# Tidy queues

Every queue of a channel counts against its capacity just the bytes in it: no operation queues a byte
past the capacity, and none queues the mark of the end against it. So a queue without a mark holds as
many bytes as its counter says.
-/

namespace Loopback

namespace Queue

/-- A queue of a capacity whose counter is right, and counts just the bytes. -/
structure Tidy (capacity : Nat) (q : Queue) : Prop where
  sound : q.Sound
  capacity_eq : q.capacity = capacity
  tagged : ∀ entry ∈ q.entries.toList, (entry.counted = true ↔ entry.item ≠ .endOfStream)

/-- A queue is created tidy, where there is room for one element at least. -/
theorem tidy_create {capacity : Nat} (h : 1 ≤ capacity) : (create capacity).Tidy capacity where
  sound := sound_create capacity
  capacity_eq := Nat.max_eq_left h
  tagged := by simp [create]

/-- Entries that are counted bytes are those of a list of bytes. -/
theorem entries_eq_map {entries : List Entry}
    (h : ∀ entry ∈ entries, ∃ byte, entry = ⟨.byte byte, true⟩) :
    ∃ bytes : List UInt8, entries = bytes.map fun byte => ⟨.byte byte, true⟩ := by
  induction entries with
  | nil => exact ⟨[], rfl⟩
  | cons entry rest ih =>
    obtain ⟨⟨byte, rfl⟩, hrest⟩ := List.forall_mem_cons.1 h
    obtain ⟨bytes, rfl⟩ := ih hrest
    exact ⟨byte :: bytes, rfl⟩

/-- A tidy queue without the mark of the end holds bytes, all of them counted. -/
theorem Tidy.bytes {capacity : Nat} {q : Queue} (h : q.Tidy capacity) (hmark : .endOfStream ∉ q.items) :
    ∃ bytes : List UInt8, q.entries.toList = bytes.map (fun byte => ⟨.byte byte, true⟩) ∧
      q.length = bytes.length ∧ bytes.length ≤ capacity := by
  obtain ⟨bytes, hbytes⟩ : ∃ bytes : List UInt8,
      q.entries.toList = bytes.map fun byte => ⟨.byte byte, true⟩ := by
    refine entries_eq_map fun entry hentry => ?_
    have hitem : entry.item ≠ .endOfStream := by
      rintro hend
      exact hmark (List.mem_map.2 ⟨entry, hentry, hend⟩)
    have hcounted := (h.tagged entry hentry).2 hitem
    obtain ⟨item, counted⟩ := entry
    cases item with
    | byte byte => exact ⟨byte, congrArg (Entry.mk _) hcounted⟩
    | endOfStream => exact absurd rfl hitem
  have hcounted : q.counted = bytes.length := by
    simp [h.sound.counted_eq, hbytes, List.filter_map, Function.comp_def]
  have hle := h.sound.counted_le
  rw [h.capacity_eq, hcounted] at hle
  exact ⟨bytes, hbytes, hcounted, hle⟩

end Queue

namespace Action

/-- Bytes are queued against the capacity, and the mark of the end past it. -/
def Fitting : Action → Prop
  | .push _ item _ => item ≠ .endOfStream
  | .append _ item => item = .endOfStream
  | _ => True

/-- What an operation may do is fitting. -/
theorem fitting_of_may {kind : Kind} {action : Action} (h : kind.may action) : action.Fitting := by
  cases action with
  | push | append => exact h.2
  | _ => trivial

/-- An effect of a fitting action leaves a queue tidy. -/
theorem Effect.tidy {session : Session} {action : Action} {answer : action.Reply} {call : Option Call}
    {q q' : Queue} (h : Effect session action answer call q q') (hfitting : action.Fitting)
    {capacity : Nat} (hq : q.Tidy capacity) : q'.Tidy capacity := by
  obtain ⟨hsound, hcapacity⟩ := h.sound hq.sound
  refine ⟨hsound, hcapacity.trans hq.capacity_eq, ?_⟩
  cases h with
  | @pushed item _ _ _ hoffer =>
    unfold Queue.offer at hoffer
    split at hoffer
    · obtain rfl := Option.some.inj hoffer
      have hitem : item ≠ .endOfStream := hfitting
      intro entry hentry
      rw [Fifo.toList_push, List.mem_append, List.mem_singleton] at hentry
      rcases hentry with hentry | rfl
      · exact hq.tagged entry hentry
      · simp [hitem]
    · cases hoffer
  | @appended item _ =>
    have hitem : item = .endOfStream := hfitting
    intro entry hentry
    rw [Queue.append, Fifo.toList_push, List.mem_append, List.mem_singleton] at hentry
    rcases hentry with hentry | rfl
    · exact hq.tagged entry hentry
    · simp [hitem]
  | popped htake =>
    intro entry hentry
    refine hq.tagged entry ?_
    rw [(Queue.entries_of_take? htake).1]
    exact List.mem_cons_of_mem _ hentry
  | cleared => simp [Queue.clear]
  | elsewhere => exact hq.tagged

end Action

namespace World

/-- A channel all of whose queues are tidy, those of past sessions as well. -/
structure Tidy (traits : Traits) (w : World) : Prop where
  traits_eq : w.channel.traits = traits
  queues : ∀ {session : Session} {q : Queue}, w.channel.queues[session]? = some q → q.Tidy traits.capacity

/-- Fitting actions keep the queues tidy. -/
theorem Tidy.comes {traits : Traits} (hcapacity : 1 ≤ traits.capacity) {task : Nat} {w w' : World}
    {action : Action} {answer : action.Reply} (h : w.Tidy traits) (hfitting : action.Fitting)
    (hcomes : action.Comes task w answer w') : w'.Tidy traits := by
  refine ⟨hcomes.frame.traits.trans h.traits_eq, fun {session q'} hq' => ?_⟩
  cases hq : w.channel.queues[session]? with
  | none =>
    rw [hcomes.created hq hq', h.traits_eq]
    exact Queue.tidy_create hcapacity
  | some q =>
    cases hcomes with
    | gaveUp => exact h.queues hq'
    | replied hrun =>
      obtain ⟨q₁, hq₁, heffect⟩ := Action.effect_of_run hrun hq
      obtain rfl := Option.some.inj (hq₁.symm.trans hq')
      exact heffect.tidy hfitting (h.queues hq)

end World

namespace Machine

variable {ε α : Type}

/-- A run of fitting actions keeps the queues tidy. -/
theorem Run.tidy {start m : Machine ε α} {moves : List Move} {turns : List Turn}
    (hrun : Run start moves turns m) {traits : Traits} (hcapacity : 1 ≤ traits.capacity)
    (hstart : start.world.Tidy traits) (hfitting : ∀ turn ∈ turns, turn.deed.action.Fitting) :
    m.world.Tidy traits := by
  refine hrun.world (World.Tidy traits) hstart (fun _ h => ⟨h.traits_eq, h.queues⟩) ?_
  exact fun turn hturn hbefore => hbefore.comes hcapacity (hfitting turn hturn) (hrun.comes hturn)

end Machine

/-- A channel that was just built has no queue to tidy. -/
theorem Builder.tidy_world (b : Builder) : b.world.Tidy b.build.traits where
  traits_eq := rfl
  queues h := nomatch h

end Loopback
