import Loopback.Channel.Builder
import Loopback.Channel.Data
import Loopback.Proofs.Machine.Rest
import Loopback.Proofs.Queue.Effect

/-!
# What an open channel holds

An open channel holds bytes if these are all that is in the queue of its session, each counted against the
capacity. What an action on that queue does is told by the bytes that are held before and after it, and by
what is noted; nothing else of the channel changes.
-/

namespace Loopback

namespace Queue

/-- A queue of a capacity that holds these bytes, all of them counted, and nothing else. -/
structure Holds (capacity : Nat) (bytes : List UInt8) (q : Queue) : Prop where
  capacity_eq : q.capacity = capacity
  counted_eq : q.counted = bytes.length
  entries_eq : q.entries.toList = bytes.map fun byte => ⟨.byte byte, true⟩
  length_le : bytes.length ≤ capacity

namespace Holds

variable {capacity : Nat} {bytes : List UInt8} {byte : UInt8} {q : Queue}

/-- Where there is room, a byte comes after those that are held. -/
theorem offer (h : q.Holds capacity bytes) (hroom : bytes.length < capacity) (byte : UInt8) :
    ∃ q', q.offer (.byte byte) = some q' ∧ q'.Holds capacity (bytes ++ [byte]) := by
  have hcounted : q.counted < q.capacity := by rwa [h.counted_eq, h.capacity_eq]
  refine ⟨_, if_pos hcounted, h.capacity_eq, ?_, ?_, ?_⟩
  · simp [h.counted_eq]
  · simp [h.entries_eq]
  · rwa [List.length_append]

/-- Where there is none, nothing is queued. -/
theorem offer_full (h : q.Holds capacity bytes) (hfull : capacity ≤ bytes.length) (item : Item) :
    q.offer item = none :=
  offer_eq_none.2 (by rwa [h.capacity_eq, h.counted_eq])

/-- The first of the bytes that are held is taken. -/
theorem take? (h : q.Holds capacity (byte :: bytes)) :
    ∃ q', q.take? = some (⟨.byte byte, true⟩, q') ∧ q'.Holds capacity bytes := by
  cases hpop : q.entries.pop? with
  | none =>
    have hnone := Fifo.pop?_eq_none.1 hpop
    rw [h.entries_eq] at hnone
    cases hnone
  | some pair =>
    obtain ⟨entry, entries⟩ := pair
    have hentries := Fifo.toList_of_pop? hpop
    rw [h.entries_eq, List.map_cons] at hentries
    obtain ⟨rfl, hrest⟩ := List.cons.inj hentries
    have htake : q.take? = some (⟨.byte byte, true⟩, { q with counted := q.counted - 1, entries }) := by
      simp [Queue.take?, hpop]
    refine ⟨_, htake, h.capacity_eq, ?_, hrest.symm, ?_⟩
    · simp [h.counted_eq]
    · exact Nat.le_of_succ_le h.length_le

/-- Where nothing is held, nothing is taken. -/
theorem take?_nil (h : q.Holds capacity []) : q.take? = none :=
  take?_eq_none.2 (by simp [items, h.entries_eq])

end Holds

end Queue

/-- An open channel in the queue of whose session there are these bytes, and nothing else. -/
structure World.Holds (session : Session) (bytes : List UInt8) (w : World) : Prop where
  isOpen : w.channel.isOpen = true
  session_eq : w.channel.session? = some session
  fits : Queue.fitsMemory w.channel.traits.capacity = true
  queue : ∃ q, w.channel.queues[session]? = some q ∧ q.Holds w.channel.traits.capacity bytes

/-- Other bytes are held in the queue of a session, some diagnostics were noted, and time has passed. Nothing
else has changed. -/
structure World.Becomes (session : Session) (bytes : List UInt8) (noted : List Event) (w w' : World) : Prop where
  queue : ∃ q, q.Holds w.channel.traits.capacity bytes ∧ w'.channel = w.channel.setQueue session q
  journal_eq : w'.journal = (noted.map fun event => ⟨0, event⟩).reverse ++ w.journal
  now_le : w.now ≤ w'.now

namespace World

variable {session : Session} {bytes bytes' bytes'' : List UInt8} {noted noted' : List Event} {w w' w'' : World}

/-- No more bytes are held than there is room for. -/
theorem Holds.length_le (h : w.Holds session bytes) : bytes.length ≤ w.channel.traits.capacity := by
  obtain ⟨q, -, hq⟩ := h.queue
  exact hq.length_le

/-- A channel that holds certain bytes has come to hold them. -/
theorem Holds.becomes (h : w.Holds session bytes) : w.Becomes session bytes [] w := by
  obtain ⟨q, hsession, hq⟩ := h.queue
  refine ⟨⟨q, hq, ?_⟩, rfl, Nat.le_refl _⟩
  obtain ⟨hlt, rfl⟩ := List.getElem?_eq_some_iff.1 hsession
  rw [Channel.setQueue, List.set_getElem_self]

/-- What a channel holds, it holds at any later time. -/
theorem Holds.later (h : w.Holds session bytes) (hlater : w.Later w') : w'.Holds session bytes := by
  obtain ⟨nanos, rfl⟩ := hlater
  exact ⟨h.isOpen, h.session_eq, h.fits, h.queue⟩

namespace Becomes

/-- What a channel has become, it is at any later time. -/
theorem later (h : w.Becomes session bytes noted w') (hlater : w'.Later w'') :
    w.Becomes session bytes noted w'' where
  queue := hlater.channel_eq ▸ h.queue
  journal_eq := hlater.journal_eq.trans h.journal_eq
  now_le := Nat.le_trans h.now_le hlater.now_le

/-- A channel that has come to hold certain bytes holds them. -/
theorem holds (h : w.Becomes session bytes' noted w') (hw : w.Holds session bytes) :
    w'.Holds session bytes' := by
  obtain ⟨q', hq', hchannel⟩ := h.queue
  obtain ⟨q, hq, -⟩ := hw.queue
  refine ⟨?_, ?_, ?_, q', ?_, ?_⟩ <;> rw [hchannel]
  · exact hw.isOpen
  · simpa [Channel.session?, Channel.setQueue] using hw.session_eq
  · exact hw.fits
  · simp [Action.queues_setQueue, hq]
  · exact hq'

/-- What does not depend on the queues stays as it is. -/
theorem keeps (h : w.Becomes session bytes noted w') {β : Type} (field : Channel → β)
    (hfield : ∀ c q, field (c.setQueue session q) = field c) : field w'.channel = field w.channel := by
  obtain ⟨q, -, hchannel⟩ := h.queue
  rw [hchannel, hfield]

/-- The settings are left as they were. -/
theorem settings_eq (h : w.Becomes session bytes noted w') : w'.channel.settings = w.channel.settings :=
  h.keeps (·.settings) fun _ _ => rfl

/-- The capacity is left as it was. -/
theorem capacity_eq (h : w.Becomes session bytes noted w') :
    w'.channel.traits.capacity = w.channel.traits.capacity :=
  h.keeps (·.traits.capacity) fun _ _ => rfl

/-- The diagnostics are left as they were. -/
theorem diagnostics_eq (h : w.Becomes session bytes noted w') :
    w'.channel.diagnostics = w.channel.diagnostics :=
  h.keeps (·.diagnostics) fun _ _ => rfl

/-- What becomes of a channel and then becomes of that, with the notes of both in order. -/
theorem trans (h : w.Becomes session bytes noted w') (h' : w'.Becomes session bytes' noted' w'') :
    w.Becomes session bytes' (noted ++ noted') w'' where
  queue := by
    obtain ⟨q, -, hchannel⟩ := h.queue
    obtain ⟨q', hq', hchannel'⟩ := h'.queue
    refine ⟨q', h.capacity_eq ▸ hq', ?_⟩
    rw [hchannel', hchannel, Channel.setQueue, Channel.setQueue, Channel.setQueue, List.set_set]
  journal_eq := by simp [h'.journal_eq, h.journal_eq]
  now_le := Nat.le_trans h.now_le h'.now_le

end Becomes

/-- A timeout past the clock stays past it. -/
theorem Becomes.deadline?_eq_none (h : w.Becomes session bytes noted w') {timeout : Option Duration}
    (hnone : Duration.deadline? w.now timeout = none) : Duration.deadline? w'.now timeout = none :=
  Duration.deadline?_eq_none_mono h.now_le hnone

end World

/-- The channel that was built, opened and filled with bytes. -/
def Builder.filled (b : Builder) (bytes : List UInt8) : World where
  channel := { b.build with
    isOpen := true
    queues := [⟨b.build.traits.capacity, bytes.length, ⟨bytes.map fun byte => ⟨.byte byte, true⟩, []⟩⟩] }
  now := 0
  journal := []

/-- A channel that was built and filled holds the bytes it was filled with. -/
theorem Builder.holds_filled {b : Builder} {bytes : List UInt8}
    (hfits : Queue.fitsMemory b.build.traits.capacity = true) (hlength : bytes.length ≤ b.build.traits.capacity) :
    (b.filled bytes).Holds 0 bytes where
  isOpen := rfl
  session_eq := rfl
  fits := hfits
  queue := ⟨_, rfl, rfl, rfl, List.append_nil _, hlength⟩

namespace Program

variable {ε α : Type} {ended : Outcome ε α → World → Prop} {waits : Program ε α → World → Prop}
  {session : Session} {bytes : List UInt8} {byte : UInt8} {w : World}

/-- An action that only looks is followed by what its answer leaves. -/
theorem brings_look (action : Action) {next : action.Reply → Program ε α} (answer : action.Reply)
    (hrun : ∀ w₁, w.Later w₁ → action.run 0 w₁ = .reply answer w₁ none)
    (hnext : ∀ w₁, w.Later w₁ → (next answer).Brings ended waits w₁) :
    (act action next).Brings ended waits w :=
  brings_reply fun w₁ hlater => ⟨answer, w₁, none, hrun w₁ hlater, hnext w₁ hlater⟩

section push

variable {deadline : Option Duration.Instant} {next : Bool → Program ε α}

/-- Where there is room, a byte is put after those that are held. -/
theorem brings_push (hw : w.Holds session bytes) (hroom : bytes.length < w.channel.traits.capacity)
    (hnext : ∀ w₁, w.Becomes session (bytes ++ [byte]) [] w₁ → (next true).Brings ended waits w₁) :
    (act (.push session (.byte byte) deadline) next).Brings ended waits w := by
  refine brings_reply fun w₁ hlater => ?_
  obtain ⟨q, hsession, hq⟩ := hw.queue
  obtain ⟨q', hoffer, hq'⟩ := hq.offer hroom byte
  rw [← hlater.channel_eq] at hsession
  have hrun : (Action.push session (.byte byte) deadline).run 0 w₁ =
      .reply true (w₁.withChannel (w₁.channel.setQueue session q')) (some (.one session .item)) := by
    simp only [Action.run, Action.atQueue, hsession, hoffer]
  refine ⟨_, _, _, hrun, hnext _ ⟨⟨q', hq', ?_⟩, hlater.journal_eq, hlater.now_le⟩⟩
  rw [World.withChannel, hlater.channel_eq]

/-- Where there is none, a byte is refused from the deadline on, or waits for ever without one. -/
theorem brings_push_full (hw : w.Holds session bytes) (hfull : w.channel.traits.capacity ≤ bytes.length)
    (hnext : ∀ instant, deadline = some instant → ∀ w₁, w.Later w₁ → instant ≤ w₁.now →
      (next false).Brings ended waits w₁)
    (hwaits : deadline = none → ∀ w₁, w.Later w₁ →
      waits (act (.push session (.byte byte) deadline) next) w₁) :
    (act (.push session (.byte byte) deadline) next).Brings ended waits w := by
  refine brings_wait (fun w₁ hlater => ?_) hnext hwaits
  obtain ⟨q, hsession, hq⟩ := hw.queue
  rw [← hlater.channel_eq] at hsession
  simp only [Action.run, Action.atQueue, hsession, hq.offer_full hfull]

end push

section pop

variable {deadline : Option Duration.Instant} {next : Option Item → Program ε α}

/-- The first of the bytes that are held is taken. -/
theorem brings_pop (hw : w.Holds session (byte :: bytes))
    (hnext : ∀ w₁, w.Becomes session bytes [] w₁ → (next (some (.byte byte))).Brings ended waits w₁) :
    (act (.pop session deadline) next).Brings ended waits w := by
  refine brings_reply fun w₁ hlater => ?_
  obtain ⟨q, hsession, hq⟩ := hw.queue
  obtain ⟨q', htake, hq'⟩ := hq.take?
  rw [← hlater.channel_eq] at hsession
  have hrun : (Action.pop session deadline).run 0 w₁ =
      .reply (some (.byte byte)) (w₁.withChannel (w₁.channel.setQueue session q'))
        (some (.one session .room)) := by
    simp only [Action.run, Action.atQueue, hsession, htake, if_true]
  refine ⟨_, _, _, hrun, hnext _ ⟨⟨q', hq', ?_⟩, hlater.journal_eq, hlater.now_le⟩⟩
  rw [World.withChannel, hlater.channel_eq]

/-- Where nothing is held, a byte is waited for until the deadline, or for ever without one. -/
theorem brings_pop_nil (hw : w.Holds session [])
    (hnext : ∀ instant, deadline = some instant → ∀ w₁, w.Later w₁ → instant ≤ w₁.now →
      (next none).Brings ended waits w₁)
    (hwaits : deadline = none → ∀ w₁, w.Later w₁ → waits (act (.pop session deadline) next) w₁) :
    (act (.pop session deadline) next).Brings ended waits w := by
  refine brings_wait (fun w₁ hlater => ?_) hnext hwaits
  obtain ⟨q, hsession, hq⟩ := hw.queue
  rw [← hlater.channel_eq] at hsession
  simp only [Action.run, Action.atQueue, hsession, hq.take?_nil]

end pop

/-- A note is made if the channel's diagnostics let it through. -/
theorem brings_note {severity : Severity} {message : String} {next : Unit → Program ε α}
    (hw : w.Holds session bytes)
    (hnext : ∀ w₁, w.Becomes session bytes
      (Channel.diagnosticsOf w.channel.diagnostics severity message) w₁ → (next ()).Brings ended waits w₁) :
    (act (.note severity message) next).Brings ended waits w := by
  refine brings_reply fun w₁ hlater => ⟨(), _, none, rfl, hnext _ ?_⟩
  have hbecomes := hw.becomes.later hlater
  refine ⟨hbecomes.queue, ?_, hlater.now_le⟩
  rw [World.record, hlater.journal_eq, hlater.channel_eq]

/-- An open channel gives its session. -/
theorem brings_liveSession {rest : Session → Channel.Operation α} {ended : Outcome PortFailure α → World → Prop}
    {waits : Channel.Operation α → World → Prop} (hw : w.Holds session bytes)
    (hrest : ∀ w₁, w.Later w₁ → (rest session).Brings ended waits w₁) :
    (Channel.liveSession >>= rest).Brings ended waits w := by
  refine brings_look .getOpen true (fun w₁ hlater => ?_) fun w₁ hlater => ?_
  · rw [Action.run, hlater.channel_eq, hw.isOpen]
  have hw₁ := hw.later hlater
  refine brings_look .getSession (some session) (fun w₂ hmore => ?_) fun w₂ hmore => ?_
  · rw [Action.run, hmore.channel_eq, hw₁.session_eq]
  exact hrest w₂ (hlater.trans hmore)

end Program

end Loopback
