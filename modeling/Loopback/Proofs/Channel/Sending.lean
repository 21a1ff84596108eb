import Loopback.Proofs.Channel.Content

/-!
# What a write comes to

A write that is left alone on an open channel fails without queueing anything if its bytes would take longer
than its timeout; otherwise it queues as many of them as there is room for. If these are all, it notes that and
succeeds. If not, it runs out of time, or without a deadline waits for room with the other bytes.
-/

namespace Loopback.Channel

open Program

/-- Queue a byte, waiting until a deadline, and then others, each with a deadline of its own. -/
def pushing (session : Session) (timeout : Option Duration) (deadline : Option Duration.Instant) (byte : UInt8)
    (rest : List UInt8) : Operation Unit := do
  let push : Program Full Unit := do
    if ← Program.perform (.push session (.byte byte) deadline) then pure () else .fail ⟨.byte byte⟩
  push.mapFailure fun _ => .writeTimeout (timeout.getD .zero)
  pushAll session timeout rest

/-- A push of a byte, and of the rest, goes by the clock. -/
theorem pushAll_cons (session : Session) (timeout : Option Duration) (byte : UInt8) (rest : List UInt8) :
    pushAll session timeout (byte :: rest) = (do
      let now ← getClock
      pushing session timeout (Duration.deadline? now timeout) byte rest) := rfl

/-- What is left of queueing bytes that wait for room without a deadline. -/
def awaiting (session : Session) (timeout : Option Duration) : List UInt8 → Operation Unit
  | [] => .done ()
  | byte :: rest => pushing session timeout none byte rest

/-- How queueing bytes after others ends: all of them were queued, or only as many as there was room for, when
the timeout had passed. -/
inductive Queued (session : Session) (timeout : Option Duration) (room : Nat) (held data : List UInt8)
    (w : World) : Outcome PortFailure Unit → World → Prop where
  | all {w' : World} (hroom : data.length ≤ room) (hw' : w.Becomes session (held ++ data) [] w') :
      Queued session timeout room held data w (.ok ()) w'
  | full {t : Duration} {w' : World} (hroom : room < data.length) (htimeout : timeout = some t)
      (hends : Duration.deadline? w.now timeout ≠ none)
      (hw' : w.Becomes session (held ++ data.take room) [] w') :
      Queued session timeout room held data w (.failed (.writeTimeout t)) w'

/-- How queueing bytes after others waits for ever: as many were queued as there was room for, and the rest is
left. -/
structure Stuck (session : Session) (timeout : Option Duration) (room : Nat) (held data : List UInt8)
    (w : World) (p : Operation Unit) (w' : World) : Prop where
  lacks : room < data.length
  endless : Duration.deadline? w'.now timeout = none
  left_eq : p = awaiting session timeout (data.drop room)
  becomes : w.Becomes session (held ++ data.take room) [] w'

section queued

variable {session : Session} {timeout : Option Duration} {room : Nat} {held before data rest : List UInt8}
  {byte : UInt8} {w w₁ w' : World} {outcome : Outcome PortFailure Unit} {p : Operation Unit}

/-- What was queued after nothing had changed was queued from the start. -/
theorem Queued.trans (hw₁ : w.Becomes session before [] w₁)
    (h : Queued session timeout room held data w₁ outcome w') :
    Queued session timeout room held data w outcome w' := by
  cases h with
  | all hroom hw' => exact .all hroom (hw₁.trans hw')
  | full hroom htimeout hends hw' =>
    exact .full hroom htimeout (fun hnone => hends (hw₁.deadline?_eq_none hnone)) (hw₁.trans hw')

/-- What is stuck after nothing had changed is stuck from the start. -/
theorem Stuck.trans (hw₁ : w.Becomes session before [] w₁) (h : Stuck session timeout room held data w₁ p w') :
    Stuck session timeout room held data w p w' :=
  ⟨h.lacks, h.endless, h.left_eq, hw₁.trans h.becomes⟩

/-- What was queued after one byte more was queued from before that. -/
theorem Queued.cons (h : Queued session timeout room (held ++ [byte]) rest w outcome w') :
    Queued session timeout (room + 1) held (byte :: rest) w outcome w' := by
  cases h with
  | all hroom hw' => exact .all (Nat.succ_le_succ hroom) (by simpa using hw')
  | full hroom htimeout hends hw' => exact .full (Nat.succ_lt_succ hroom) htimeout hends (by simpa using hw')

/-- What is stuck after one byte more is stuck from before that. -/
theorem Stuck.cons (h : Stuck session timeout room (held ++ [byte]) rest w p w') :
    Stuck session timeout (room + 1) held (byte :: rest) w p w' :=
  ⟨Nat.succ_lt_succ h.lacks, h.endless, h.left_eq, by simpa using h.becomes⟩

/-- Bytes are queued from their first on, if it is queued and the others are. -/
theorem brings_pushing (hw : w.Holds session held) (hroom : held.length + room = w.channel.traits.capacity)
    (hrest : ∀ {w₁ : World} {held : List UInt8} {room : Nat}, w₁.Holds session held →
      held.length + room = w₁.channel.traits.capacity → (pushAll session timeout rest).Brings
        (Queued session timeout room held rest w₁) (Stuck session timeout room held rest w₁) w₁) :
    (pushing session timeout (Duration.deadline? w.now timeout) byte rest).Brings
      (Queued session timeout room held (byte :: rest) w) (Stuck session timeout room held (byte :: rest) w) w := by
  cases room with
  | succ room =>
    refine brings_push hw (by omega) fun w₁ hw₁ => ?_
    have hroom₁ : (held ++ [byte]).length + room = w₁.channel.traits.capacity := by
      rw [hw₁.capacity_eq, ← hroom, List.length_append, List.length_singleton]
      omega
    exact (hrest (hw₁.holds hw) hroom₁).mono (fun _ _ h => h.cons.trans hw₁) fun _ _ h => h.cons.trans hw₁
  | zero =>
    have hsame : ∀ w₁, w.Later w₁ → w.Becomes session (held ++ (byte :: rest).take 0) [] w₁ := fun w₁ hlater => by
      rw [List.take_zero, List.append_nil]
      exact hw.becomes.later hlater
    refine brings_push_full hw (Nat.le_of_eq hroom.symm) (fun instant hinstant w₁ hlater _ w₂ hmore => ?_)
      fun hnone w₁ hlater => ?_
    · obtain ⟨t, htimeout, -⟩ := Duration.of_deadline?_eq_some hinstant
      have hends : Duration.deadline? w.now timeout ≠ none := by simp [hinstant]
      rw [htimeout, Option.getD_some, ← htimeout]
      exact .full (Nat.succ_pos _) htimeout hends (hsame w₂ (hlater.trans hmore))
    · refine ⟨Nat.succ_pos _, Duration.deadline?_eq_none_mono hlater.now_le hnone, ?_, hsame w₁ hlater⟩
      rw [hnone]
      rfl

/-- Bytes are queued as long as there is room. -/
theorem brings_pushAll (data : List UInt8) (hw : w.Holds session held)
    (hroom : held.length + room = w.channel.traits.capacity) :
    (pushAll session timeout data).Brings (Queued session timeout room held data w)
      (Stuck session timeout room held data w) w := by
  induction data generalizing w held room with
  | nil =>
    refine fun w' hlater => .all (Nat.zero_le _) ?_
    rw [List.append_nil]
    exact hw.becomes.later hlater
  | cons byte rest ih =>
    rw [pushAll_cons]
    intro w₁ hlater
    have hw₁ := hw.becomes.later hlater
    exact (brings_pushing (hw.later hlater) (hw₁.capacity_eq ▸ hroom) ih).mono
      (fun _ _ h => h.trans hw₁) fun _ _ h => h.trans hw₁

/-- Bytes that waited for room are queued as long as there is some. -/
theorem brings_awaiting (hw : w.Holds session held) (hroom : held.length + room = w.channel.traits.capacity)
    (hendless : Duration.deadline? w.now timeout = none) (hdata : data ≠ []) :
    (awaiting session timeout data).Brings (Queued session timeout room held data w)
      (Stuck session timeout room held data w) w := by
  cases data with
  | nil => exact absurd rfl hdata
  | cons byte rest =>
    rw [awaiting, ← hendless]
    exact brings_pushing hw hroom fun hw₁ hroom₁ => brings_pushAll rest hw₁ hroom₁

/-- Note that bytes have been written, and answer their number. -/
def noteWritten (count : Nat) (message : String) : Operation Nat := do
  Program.note .debug message
  pure count

/-- How a write ends: it noted that it queued all its bytes, or it ran out of time. -/
def Wrote (session : Session) (timeout : Option Duration) (room : Nat) (held data : List UInt8) (count : Nat)
    (message : String) (w : World) (outcome : Outcome PortFailure Nat) (w' : World) : Prop :=
  (data.length ≤ room ∧ outcome = .ok count ∧
    w.Becomes session (held ++ data) (diagnosticsOf w.channel.diagnostics .debug message) w') ∨
  (room < data.length ∧ (∃ t, timeout = some t ∧ outcome = .failed (.writeTimeout t)) ∧
    Duration.deadline? w.now timeout ≠ none ∧ w.Becomes session (held ++ data.take room) [] w')

/-- How a write waits for ever: with the rest of its bytes, and the note, left to do. -/
def LeftWriting (session : Session) (timeout : Option Duration) (room : Nat) (held data : List UInt8) (count : Nat)
    (message : String) (w : World) (p : Operation Nat) (w' : World) : Prop :=
  room < data.length ∧ Duration.deadline? w'.now timeout = none ∧
    p = (do
      awaiting session timeout (data.drop room)
      noteWritten count message) ∧
    w.Becomes session (held ++ data.take room) [] w'

/-- What is queued is noted if it is all there was to queue. -/
theorem brings_noteWritten (hw : w.Holds session held) (count : Nat) (message : String)
    (h : p.Brings (Queued session timeout room held data w) (Stuck session timeout room held data w) w) :
    (do p; noteWritten count message).Brings (Wrote session timeout room held data count message w)
      (LeftWriting session timeout room held data count message w) w := by
  refine h.bind (fun _ w₁ hqueued => ?_) (fun failure w₁ hqueued => ?_) (fun _ _ hqueued => nomatch hqueued)
    fun q w₁ hstuck => ?_
  · cases hqueued with
    | all hroom hw₁ =>
      refine brings_note (hw₁.holds hw) fun w₂ hw₂ w₃ hlater => .inl ⟨hroom, rfl, ?_⟩
      rw [← hw₁.diagnostics_eq]
      exact (hw₁.trans hw₂).later hlater
  · cases hqueued with
    | full hroom htimeout hends hw₁ => exact .inr ⟨hroom, ⟨_, htimeout, rfl⟩, hends, hw₁⟩
  · exact ⟨hstuck.lacks, hstuck.endless, by rw [hstuck.left_eq], hstuck.becomes⟩

end queued

section write

variable {session : Session} {timeout : Option Duration} {room : Nat} {held data : List UInt8}
  {transmit : Duration} {w : World} {ended : Outcome PortFailure Nat → World → Prop}
  {waits : Operation Nat → World → Prop}

/-- A write of bytes that would take longer than its timeout only lets that pass. Any other queues its bytes. -/
theorem brings_write (hw : w.Holds session held) (htimeout : w.channel.settings.writeTimeout = timeout)
    (htransmit : w.channel.settings.transmitDuration? data.length = some transmit)
    (hlate : ∀ t, timeout = some t → t.nanos < transmit.nanos → ∀ w₁, w.Later w₁ →
      ended (.failed (.writeTimeout t)) w₁)
    (hall : (∀ t, timeout = some t → transmit.nanos ≤ t.nanos) → ∀ w₁, w.Later w₁ → (do
      pushAll session timeout data
      noteWritten data.length (writtenNote data.length transmit)).Brings ended waits w₁) :
    (write data).Brings ended waits w := by
  refine brings_liveSession hw fun w₁ hw₁ => ?_
  refine brings_look .getSettings w.channel.settings (fun w₂ hmore => ?_) fun w₂ hmore => ?_
  · rw [Action.run, (hw₁.trans hmore).channel_eq]
  have hw₂ := hw₁.trans hmore
  simp only [Program.bind, htransmit, htimeout]
  cases timeout with
  | none =>
    refine hall (fun t ht => ?_) w₂ hw₂
    cases ht
  | some t =>
    by_cases htime : t.nanos < transmit.nanos
    · simp only [htime, if_true]
      refine fun w₃ hw₃ => brings_pause fun w₄ hw₄ _ w₅ hw₅ => ?_
      exact hlate t rfl htime w₅ (hw₂.trans (hw₃.trans (hw₄.trans hw₅)))
    · simp only [htime, if_false]
      refine hall (fun t' ht' => ?_) w₂ hw₂
      obtain rfl := Option.some.inj ht'
      exact Nat.le_of_not_lt htime

end write

/-- Other bytes are held, and a message has gone to the sink of the channel: it is one event if there is a sink for
debugging messages, and none if there is no sink or only one for more serious messages. -/
structure Noted (session : Session) (bytes : List UInt8) (message : String) (w w' : World) : Prop where
  told : w.channel.diagnostics = some .debug → w.Becomes session bytes [.diagnostic .debug message] w'
  untold : w.channel.diagnostics ≠ some .debug → w.Becomes session bytes [] w'

/-- What is let through of a debugging message goes to a sink for such messages, and to no other. -/
theorem noted_of_becomes {session : Session} {bytes : List UInt8} {message : String} {w w' : World}
    (h : w.Becomes session bytes (diagnosticsOf w.channel.diagnostics .debug message) w') :
    Noted session bytes message w w' := by
  constructor
  · intro hsink
    rwa [hsink] at h
  · intro hsink
    have hnone : diagnosticsOf w.channel.diagnostics .debug message = [] := by
      cases hlevel : w.channel.diagnostics with
      | none => rfl
      | some level =>
        cases level with
        | debug => exact absurd hlevel hsink
        | info => rfl
        | warning => rfl
        | error => rfl
    rwa [hnone] at h

/-- What is left of a write, by the bytes still to be queued: whenever it goes on, as many of them are queued as
there is room for, and it succeeds and notes that, or the others wait in the same way. -/
def Resumes (session : Session) (timeout : Option Duration) (count : Nat) (message : String)
    (pending : List UInt8 → Operation Nat) : Prop :=
  ∀ (w : World) (held left : List UInt8) (room : Nat), w.Holds session held →
    held.length + room = w.channel.traits.capacity → Duration.deadline? w.now timeout = none → left ≠ [] →
    (pending left).LeftAlone
      (fun outcome w' => left.length ≤ room ∧ outcome = .ok count ∧ Noted session (held ++ left) message w w')
      (fun p w' => room < left.length ∧ p = pending (left.drop room) ∧
        w.Becomes session (held ++ left.take room) [] w') w

/-- A write that waits for room resumes when some bytes were taken, by the bytes that are left and the note. -/
theorem resumes_awaiting (session : Session) (timeout : Option Duration) (count : Nat) (message : String) :
    Resumes session timeout count message (fun left => do
      awaiting session timeout left
      noteWritten count message) := by
  intro w held left room hw hroom hendless hleft
  have hbrings := brings_noteWritten hw count message (brings_awaiting hw hroom hendless hleft)
  refine (hbrings.mono (fun outcome w' hwrote => ?_) fun p w' hwriting => ?_).leftAlone
  · obtain ⟨hroom, houtcome, hw'⟩ := hwrote.resolve_right fun hfailed => hfailed.2.2.1 hendless
    exact ⟨hroom, houtcome, noted_of_becomes hw'⟩
  · exact ⟨hwriting.1, hwriting.2.2⟩

/-- A write that is left alone on an open channel fails after its timeout, with nothing queued, if its bytes would
take longer than that. Otherwise it queues as many of them as there is room for. If these are all, it succeeds and
one message goes to a sink for debugging messages. If not, it fails with its timeout, or, where the clock cannot hold
the end of that, waits for ever with the other bytes, of which it queues more whenever there is room. A write that
fails or waits has told the sink nothing. -/
theorem write_alone {w : World} {session : Session} {held data : List UInt8} {room : Nat}
    {timeout : Option Duration} {transmit : Duration} (hw : w.Holds session held)
    (hroom : held.length + room = w.channel.traits.capacity)
    (htimeout : w.channel.settings.writeTimeout = timeout)
    (htransmit : w.channel.settings.transmitDuration? data.length = some transmit) :
    (∀ t, timeout = some t → t.nanos < transmit.nanos →
      (write data).LeftAlone (fun outcome w' => outcome = .failed (.writeTimeout t) ∧ w.Later w')
        (fun _ _ => False) w) ∧
    ((∀ t, timeout = some t → transmit.nanos ≤ t.nanos) →
      (data.length ≤ room →
        (write data).LeftAlone
          (fun outcome w' => outcome = .ok data.length ∧
            Noted session (held ++ data) (writtenNote data.length transmit) w w')
          (fun _ _ => False) w) ∧
      (room < data.length →
        ∃ pending, Resumes session timeout data.length (writtenNote data.length transmit) pending ∧
          (write data).LeftAlone
            (fun outcome w' => (∃ t, timeout = some t ∧ outcome = .failed (.writeTimeout t)) ∧
              Duration.deadline? w.now timeout ≠ none ∧ w.Becomes session (held ++ data.take room) [] w')
            (fun p w' => p = pending (data.drop room) ∧ Duration.deadline? w'.now timeout = none ∧
              w.Becomes session (held ++ data.take room) [] w') w)) := by
  refine ⟨fun t ht htime => ?_, fun henough => ?_⟩
  · refine (brings_write hw htimeout htransmit (fun t' ht' _ w₁ hw₁ => ?_) fun hall => ?_).leftAlone
    · obtain rfl := Option.some.inj (ht.symm.trans ht')
      exact ⟨rfl, hw₁⟩
    · exact absurd htime (Nat.not_lt.2 (hall t ht))
  have hwrite : (write data).Brings
      (Wrote session timeout room held data data.length (writtenNote data.length transmit) w)
      (LeftWriting session timeout room held data data.length (writtenNote data.length transmit) w) w := by
    refine brings_write hw htimeout htransmit (fun t ht htime => ?_) fun _ w₁ hlater => ?_
    · exact absurd htime (Nat.not_lt.2 (henough t ht))
    · refine (brings_noteWritten hw data.length (writtenNote data.length transmit) ?_).later hlater
      exact brings_pushAll data hw hroom
  refine ⟨fun hfits => ?_, fun hlacks => ⟨_, resumes_awaiting _ _ _ _, ?_⟩⟩
  · refine (hwrite.mono (fun outcome w' hwrote => ?_) fun p w' hwriting => ?_).leftAlone
    · obtain ⟨-, houtcome, hw'⟩ := hwrote.resolve_right fun hfailed => Nat.not_lt.2 hfits hfailed.1
      exact ⟨houtcome, noted_of_becomes hw'⟩
    · exact Nat.not_lt.2 hfits hwriting.1
  · refine (hwrite.mono (fun outcome w' hwrote => ?_) fun p w' hwriting => ?_).leftAlone
    · exact (hwrote.resolve_left fun hdone => Nat.not_le.2 hlacks hdone.1).2
    · exact ⟨hwriting.2.2.1, hwriting.2.1, hwriting.2.2.2⟩

/-- A channel with room for two bytes, of which it holds one, with a sink and a timeout for writes. -/
def halfFilled (sink : Option Severity) (timeout : Option Duration) : World where
  channel := { (Builder.filled { Builder.default with capacity := 2 } [1]).channel with
    settings := { PortSettings.default with writeTimeout := timeout }
    diagnostics := sink }
  now := 0
  journal := []

/-- It holds that byte. -/
theorem holds_halfFilled (sink : Option Severity) (timeout : Option Duration) :
    (halfFilled sink timeout).Holds 0 [1] := by
  have hheld : (Builder.filled { Builder.default with capacity := 2 } [1]).Holds 0 [1] :=
    Builder.holds_filled rfl (Nat.le_of_ble_eq_true rfl)
  exact ⟨hheld.isOpen, hheld.session_eq, hheld.fits, hheld.queue⟩

/-- A byte that would take longer than the timeout is not queued. One for which there is room is, and the sink for
debugging messages is told once, but not one for more serious messages. Of two bytes one is queued and the other
waits. -/
theorem write_alone_halfFilled :
    (write [2]).LeftAlone
      (fun outcome w' => outcome = .failed (.writeTimeout .zero) ∧
        (halfFilled (some .debug) (some .zero)).Later w')
      (fun _ _ => False) (halfFilled (some .debug) (some .zero)) ∧
    (write [2]).LeftAlone
      (fun outcome w' => outcome = .ok 1 ∧ (halfFilled (some .debug) none).Becomes 0 [1, 2]
        [⟨.debug, "loop_serial::loop", "write(1 bytes), advisory 1.041667ms", []⟩] w')
      (fun _ _ => False) (halfFilled (some .debug) none) ∧
    (write [2]).LeftAlone
      (fun outcome w' => outcome = .ok 1 ∧ (halfFilled (some .info) none).Becomes 0 [1, 2] [] w')
      (fun _ _ => False) (halfFilled (some .info) none) ∧
    ∃ pending, Resumes 0 none 2 (writtenNote 2 ⟨2083333⟩) pending ∧
      (write [2, 3]).LeftAlone (fun _ _ => False)
        (fun p w' => p = pending [3] ∧ (halfFilled (some .debug) none).Becomes 0 [1, 2] [] w')
        (halfFilled (some .debug) none) := by
  have hone (sink : Option Severity) (timeout : Option Duration) :
      (halfFilled sink timeout).channel.settings.transmitDuration? [(2 : UInt8)].length = some ⟨1041667⟩ :=
    show transmitDuration? 9600 1 = _ by decide +kernel
  have htwo : (halfFilled (some .debug) none).channel.settings.transmitDuration? [(2 : UInt8), 3].length =
      some ⟨2083333⟩ :=
    show transmitDuration? 9600 2 = _ by decide +kernel
  have hhalf (sink : Option Severity) (timeout : Option Duration) :
      1 + 1 = (halfFilled sink timeout).channel.traits.capacity := rfl
  have hendless (transmit t : Duration) (h : none = some t) : transmit.nanos ≤ t.nanos := nomatch h
  have hnote : writtenNote [(2 : UInt8)].length ⟨1041667⟩ = "write(1 bytes), advisory 1.041667ms" := by
    decide +kernel
  have hfits (sink : Option Severity) :=
    ((write_alone (holds_halfFilled sink none) (hhalf _ _) rfl (hone _ _)).2 (hendless _)).1 (by decide)
  refine ⟨?_, (hfits _).mono (fun _ _ h => ⟨h.1, hnote ▸ h.2.told rfl⟩) fun _ _ => id,
    (hfits _).mono (fun _ _ h => ⟨h.1, h.2.untold (by decide)⟩) fun _ _ => id, ?_⟩
  · exact (write_alone (holds_halfFilled _ _) (hhalf _ _) rfl (hone _ _)).1 .zero rfl (by decide)
  · obtain ⟨pending, hresumes, halone⟩ :=
      ((write_alone (holds_halfFilled _ _) (hhalf _ _) rfl htwo).2 (hendless _)).2 (by decide)
    refine ⟨pending, hresumes, halone.mono (fun _ _ h => ?_) fun p w' h => ⟨h.1, h.2.2⟩⟩
    exact h.2.1 rfl

end Loopback.Channel
