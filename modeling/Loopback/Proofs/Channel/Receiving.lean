import Loopback.Proofs.Channel.Content

/-!
# What a read comes to

A read that is left alone on an open channel takes the first of the bytes that it holds. It ends with as many as
it asks for, with all there are once a wait for more has been given up, or with what it has when its own deadline
has come, which it looks at after each byte. Without a deadline it keeps what it has and waits for more.
-/

namespace Loopback.Channel

open Program

/-- Take a byte, waiting until a deadline, and then others, each with a deadline of its own. -/
def popping (session : Session) (timeout : Option Duration) (deadline until? : Option Duration.Instant)
    (left : Nat) (taken : List UInt8) : Operation (List UInt8) := do
  match ← Program.perform (.pop session until?) with
  | some (.byte byte) =>
    if ← deadlinePassed deadline then pure (byte :: taken).reverse
    else takeWaiting session timeout deadline left (byte :: taken)
  | some .endOfStream => pure taken.reverse
  | none => pure taken.reverse

/-- A wait for a further element looks whether the channel is open, and goes by the clock. -/
theorem takeWaiting_succ (session : Session) (timeout : Option Duration) (deadline : Option Duration.Instant)
    (left : Nat) (taken : List UInt8) :
    takeWaiting session timeout deadline (left + 1) taken = (do
      if ← getOpen then
        let now ← getClock
        popping session timeout deadline (Duration.deadline? now timeout) left taken
      else pure taken.reverse) := by
  refine congrArg (Program.act .getOpen) (funext fun isOpen => ?_)
  cases isOpen with
  | true =>
    refine congrArg (Program.act .getClock) (funext fun now => ?_)
    refine congrArg (Program.act (.pop ..)) (funext fun item => ?_)
    rcases item with _ | (_ | _) <;> rfl
  | false => rfl

/-- The first of the bytes that were held have been taken, and the others are left: as many as were asked for, or
all there are, when a wait for more was given up, or some, when the deadline had come. After it had come, no more
than one was taken. -/
structure Took (session : Session) (timeout : Option Duration) (deadline : Option Duration.Instant)
    (limit : Nat) (held : List UInt8) (w : World) (got left : List UInt8) (w' : World) : Prop where
  held_eq : held = got ++ left
  length_le : got.length ≤ limit
  becomes : w.Becomes session left [] w'
  late : ∀ instant, deadline = some instant → instant ≤ w.now → got.length ≤ 1
  ends : got.length = limit ∨ (left = [] ∧ Duration.deadline? w.now timeout ≠ none) ∨
    got ≠ [] ∧ ∃ instant, deadline = some instant ∧ instant ≤ w'.now

/-- What was taken before is answered, and after it what has been taken of the bytes that were held. -/
def Answers (session : Session) (timeout : Option Duration) (deadline : Option Duration.Instant) (limit : Nat)
    (held taken : List UInt8) (w : World) (outcome : Outcome PortFailure (List UInt8)) (w' : World) : Prop :=
  ∃ got left, outcome = .ok (taken ++ got) ∧ Took session timeout deadline limit held w got left w'

/-- All that was held has been taken, and is kept for the answer, while more is waited for without end. -/
structure Keeps (session : Session) (timeout : Option Duration) (limit : Nat) (held taken : List UInt8)
    (w : World) (p : Operation (List UInt8)) (w' : World) : Prop where
  lacks : held.length < limit
  endless : Duration.deadline? w'.now timeout = none
  becomes : w.Becomes session [] [] w'
  keeps : ∀ deeds result, p.Leads deeds (.done result) → taken ++ held <+: result

variable {session : Session} {timeout : Option Duration} {deadline until? : Option Duration.Instant}
  {limit : Nat} {held got left taken before : List UInt8} {byte : UInt8} {w w₁ w' : World}
  {p : Operation (List UInt8)} {outcome : Outcome PortFailure (List UInt8)}

section took

/-- What was taken after nothing had changed was taken from the start. -/
theorem Took.trans (hw₁ : w.Becomes session before [] w₁)
    (h : Took session timeout deadline limit held w₁ got left w') :
    Took session timeout deadline limit held w got left w' where
  held_eq := h.held_eq
  length_le := h.length_le
  becomes := hw₁.trans h.becomes
  late instant hinstant hpast := h.late instant hinstant (Nat.le_trans hpast hw₁.now_le)
  ends := h.ends.imp id fun h => h.imp (fun h => ⟨h.1, fun hnone => h.2 (hw₁.deadline?_eq_none hnone)⟩) id

/-- What is kept after nothing had changed is kept from the start. -/
theorem Keeps.trans (hw₁ : w.Becomes session before [] w₁)
    (h : Keeps session timeout limit held taken w₁ p w') : Keeps session timeout limit held taken w p w' :=
  ⟨h.lacks, h.endless, hw₁.trans h.becomes, h.keeps⟩

/-- What is taken after a byte, before the deadline has come, is taken with it. -/
theorem Took.cons (hearly : ∀ instant, deadline = some instant → ¬instant ≤ w.now)
    (h : Took session timeout deadline limit held w got left w') :
    Took session timeout deadline (limit + 1) (byte :: held) w (byte :: got) left w' where
  held_eq := by rw [h.held_eq, List.cons_append]
  length_le := Nat.succ_le_succ h.length_le
  becomes := h.becomes
  late instant hinstant hpast := absurd hpast (hearly instant hinstant)
  ends := h.ends.imp (congrArg _) fun h => h.imp id fun h => ⟨List.cons_ne_nil _ _, h.2⟩

/-- What is answered after nothing had changed is answered from the start. -/
theorem Answers.trans (hw₁ : w.Becomes session before [] w₁)
    (h : Answers session timeout deadline limit held taken w₁ outcome w') :
    Answers session timeout deadline limit held taken w outcome w' := by
  obtain ⟨got, left, houtcome, htook⟩ := h
  exact ⟨got, left, houtcome, htook.trans hw₁⟩

/-- What is answered after one byte more was taken is answered from before that. -/
theorem Answers.cons (hearly : ∀ instant, deadline = some instant → ¬instant ≤ w.now)
    (h : Answers session timeout deadline limit held (byte :: taken).reverse w outcome w') :
    Answers session timeout deadline (limit + 1) (byte :: held) taken.reverse w outcome w' := by
  obtain ⟨got, left, rfl, htook⟩ := h
  exact ⟨byte :: got, left, by simp, htook.cons hearly⟩

/-- What is kept after one byte more was taken is kept from before that. -/
theorem Keeps.cons (h : Keeps session timeout limit held (byte :: taken).reverse w p w') :
    Keeps session timeout (limit + 1) (byte :: held) taken.reverse w p w' where
  lacks := Nat.succ_lt_succ h.lacks
  endless := h.endless
  becomes := h.becomes
  keeps deeds result hleads := by simpa using h.keeps deeds result hleads

end took

section leads

/-- What was taken is the first of what is answered in the end. -/
theorem along_popping (hrest : ∀ taken : List UInt8, (takeWaiting session timeout deadline limit taken).Along
      (fun _ => True) fun _ stand => ∀ result, stand = .ended (.ok result) → taken.reverse <+: result) :
    (popping session timeout deadline until? limit taken).Along (fun _ => True) fun _ stand =>
      ∀ result, stand = .ended (.ok result) → taken.reverse <+: result := by
  have hdone : ∀ result : List UInt8, (Stand.ended (.ok taken.reverse) : Stand PortFailure _) = .ended (.ok result) →
      taken.reverse <+: result := fun result h => by
    cases h
    exact List.prefix_rfl
  have hmore (byte : UInt8) {result : List UInt8} (h : (byte :: taken).reverse <+: result) :
      taken.reverse <+: result := .trans (by simp) h
  refine along_act.2 ⟨nofun, fun item _ => ?_⟩
  match item with
  | none | some .endOfStream => exact hdone
  | some (.byte byte) =>
    have hnext : ∀ late : Bool, (if late then pure (byte :: taken).reverse else
        takeWaiting session timeout deadline limit (byte :: taken) : Operation (List UInt8)).Along (fun _ => True)
        fun _ stand => ∀ result, stand = .ended (.ok result) → taken.reverse <+: result := fun late => by
      cases late with
      | false => exact (hrest (byte :: taken)).mono fun _ _ h result hresult => hmore byte (h result hresult)
      | true =>
        intro result h
        cases h
        exact hmore byte List.prefix_rfl
    cases deadline with
    | none => exact hnext false
    | some instant => exact along_act.2 ⟨nofun, fun now _ => hnext (decide (instant ≤ now))⟩

/-- A read begins its answer with what it took before. -/
theorem along_takeWaiting (limit : Nat) (taken : List UInt8) :
    (takeWaiting session timeout deadline limit taken).Along (fun _ => True) fun _ stand =>
      ∀ result, stand = .ended (.ok result) → taken.reverse <+: result := by
  induction limit generalizing taken with
  | zero =>
    intro result h
    cases h
    exact List.prefix_rfl
  | succ limit ih =>
    rw [takeWaiting_succ]
    refine along_act.2 ⟨nofun, fun isOpen _ => ?_⟩
    cases isOpen with
    | true => exact along_act.2 ⟨nofun, fun now _ => along_popping ih⟩
    | false =>
      intro result h
      cases h
      exact List.prefix_rfl

end leads

/-- A deadline is found to have come, or not yet. -/
theorem brings_deadlinePassed {α : Type} {rest : Bool → Operation α} {ended : Outcome PortFailure α → World → Prop}
    {waits : Operation α → World → Prop}
    (hlate : ∀ instant, deadline = some instant → ∀ w₁, w.Later w₁ → instant ≤ w₁.now →
      (rest true).Brings ended waits w₁)
    (hearly : ∀ w₁, w.Later w₁ → (∀ instant, deadline = some instant → ¬instant ≤ w₁.now) →
      (rest false).Brings ended waits w₁) : (deadlinePassed deadline >>= rest).Brings ended waits w := by
  cases deadline with
  | none => exact hearly w (.refl w) nofun
  | some instant =>
    intro w₁ hlater
    by_cases hpast : instant ≤ w₁.now
    · simp only [Action.run, Program.bind, hpast, decide_true]
      exact hlate instant rfl w₁ hlater hpast
    · simp only [Action.run, Program.bind, hpast, decide_false]
      exact hearly w₁ hlater fun _ hinstant => Option.some.inj hinstant ▸ hpast

/-- Bytes are taken from their first on, if the others are. -/
theorem brings_popping (hw : w.Holds session held)
    (hrest : ∀ {w₁ : World} {held taken : List UInt8}, w₁.Holds session held →
      (takeWaiting session timeout deadline limit taken).Brings
        (Answers session timeout deadline limit held taken.reverse w₁)
        (Keeps session timeout limit held taken.reverse w₁) w₁) :
    (popping session timeout deadline (Duration.deadline? w.now timeout) limit taken).Brings
      (Answers session timeout deadline (limit + 1) held taken.reverse w)
      (Keeps session timeout (limit + 1) held taken.reverse w) w := by
  cases held with
  | nil =>
    refine brings_pop_nil hw (fun instant hinstant w₁ hlater _ w₂ hmore => ?_) fun hnone w₁ hlater => ?_
    · have hends : Duration.deadline? w.now timeout ≠ none := by simp [hinstant]
      exact ⟨[], [], by simp, rfl, Nat.zero_le _, hw.becomes.later (hlater.trans hmore),
        fun _ _ _ => Nat.zero_le _, .inr (.inl ⟨rfl, hends⟩)⟩
    · refine ⟨Nat.succ_pos _, Duration.deadline?_eq_none_mono hlater.now_le hnone, hw.becomes.later hlater,
        fun deeds result hleads => ?_⟩
      rw [List.append_nil]
      exact (along_popping (along_takeWaiting limit)).leads hleads (fun _ _ => trivial) result rfl
  | cons byte held =>
    refine brings_pop hw fun w₁ hw₁ => ?_
    refine brings_deadlinePassed (fun instant hinstant w₂ hlater hpast w₃ hmore => ?_) fun w₂ hlater hearly => ?_
    · refine ⟨[byte], held, by simp, rfl, by simp, (hw₁.later hlater).later hmore, by simp, .inr (.inr ?_)⟩
      exact ⟨List.cons_ne_nil _ _, instant, hinstant, Nat.le_trans hpast hmore.now_le⟩
    · have hw₂ := hw₁.later hlater
      exact (hrest (hw₂.holds hw)).mono (fun _ _ h => (h.cons hearly).trans hw₂) fun _ _ h => h.cons.trans hw₂

/-- Bytes are taken as long as there are some, more are asked for and the deadline has not come. -/
theorem brings_takeWaiting (limit : Nat) (hw : w.Holds session held) :
    (takeWaiting session timeout deadline limit taken).Brings
      (Answers session timeout deadline limit held taken.reverse w)
      (Keeps session timeout limit held taken.reverse w) w := by
  induction limit generalizing w held taken with
  | zero =>
    exact fun w' hlater => ⟨[], held, by simp, rfl, Nat.le_refl _, hw.becomes.later hlater,
      fun _ _ _ => Nat.zero_le _, .inl rfl⟩
  | succ limit ih =>
    rw [takeWaiting_succ]
    refine brings_look .getOpen true (fun w₁ hlater => ?_) fun w₁ hlater w₂ hmore => ?_
    · rw [Action.run, hlater.channel_eq, hw.isOpen]
    have hw₂ := hw.becomes.later (hlater.trans hmore)
    exact (brings_popping (hw₂.holds hw) ih).mono (fun _ _ h => h.trans hw₂) fun _ _ h => h.trans hw₂

/-- What a read of some size has got: the first of the bytes that were held, and nothing else has changed. Under a
timeout whose end the clock cannot hold, these are as many as were asked for. Under any other they are at least
one if there was one, and all that were asked for and there unless the timeout has passed with some of them left.
Without time to wait, they are no more than one. -/
structure Got (session : Session) (timeout : Option Duration) (size : Nat) (held : List UInt8) (w : World)
    (got left : List UInt8) (w' : World) : Prop where
  held_eq : held = got ++ left
  length_le : got.length ≤ size
  becomes : w.Becomes session left [] w'
  endless : Duration.deadline? w.now timeout = none → got.length = size
  first : min 1 (min size held.length) ≤ got.length
  soon : ∀ t, timeout = some t → (left ≠ [] → w'.now < w.now + t.nanos) → got.length = min size held.length
  poll : timeout = some .zero → Duration.deadline? w'.now timeout ≠ none →
    got.length = min 1 (min size held.length)

/-- What was taken from the beginning of a call on is what the call has got. -/
theorem Took.toGot {size : Nat} (hw : w.Holds session held) (hlater : w.Later w₁)
    (h : Took session timeout (Duration.deadline? w₁.now timeout) size held w₁ got left w') :
    Got session timeout size held w got left w' := by
  have hw₁ := hw.becomes.later hlater
  have hlength : held.length = got.length + left.length := by rw [h.held_eq, List.length_append]
  have hsize := h.length_le
  -- The deadline is looked at after a byte was taken, so one is taken at least.
  have hfirst : min 1 (min size held.length) ≤ got.length := by
    rcases h.ends with hall | ⟨rfl, -⟩ | ⟨hsome, -⟩
    · omega
    · rw [List.length_nil] at hlength
      omega
    · have := List.length_pos_iff.2 hsome
      omega
  refine ⟨h.held_eq, hsize, hw₁.trans h.becomes, fun hendless => ?_, hfirst, ?_, ?_⟩
  · have hnone := hw₁.deadline?_eq_none hendless
    rcases h.ends with hall | ⟨-, hends⟩ | ⟨-, instant, hinstant, -⟩
    · exact hall
    · exact absurd hnone hends
    · exact nomatch hnone.symm.trans hinstant
  · rintro t rfl hsoon
    by_cases hleft : left = []
    · rw [hleft, List.length_nil] at hlength
      omega
    rcases h.ends with hall | ⟨hnone, -⟩ | ⟨-, instant, hinstant, hpast⟩
    · omega
    · exact absurd hnone hleft
    · obtain ⟨t', ht', hend⟩ := Duration.of_deadline?_eq_some hinstant
      obtain rfl := Option.some.inj ht'
      have hstart := Nat.add_le_add_right hw₁.now_le t.nanos
      exact absurd (Nat.le_trans (Nat.le_trans hstart (Nat.le_of_eq hend.symm)) hpast) (Nat.not_le.2 (hsoon hleft))
  · rintro rfl hends
    cases hdeadline : Duration.deadline? w₁.now (some .zero) with
    | none => exact absurd (h.becomes.deadline?_eq_none hdeadline) hends
    | some instant =>
      obtain ⟨t, ht, hinstant⟩ := Duration.of_deadline?_eq_some hdeadline
      obtain rfl := Option.some.inj ht
      have hone := h.late instant hdeadline (Nat.le_of_eq hinstant)
      omega

/-- What a read has got, it has got at any later time. -/
theorem Got.later {size : Nat} (h : Got session timeout size held w got left w₁) (hlater : w₁.Later w') :
    Got session timeout size held w got left w' where
  held_eq := h.held_eq
  length_le := h.length_le
  becomes := h.becomes.later hlater
  endless := h.endless
  first := h.first
  soon t ht hsoon := h.soon t ht fun hleft => Nat.lt_of_le_of_lt hlater.now_le (hsoon hleft)
  poll ht hends := h.poll ht fun hnone => hends (Duration.deadline?_eq_none_mono hlater.now_le hnone)

/-- A read takes the first of the bytes that are held, or keeps them and waits for more. -/
theorem brings_read (hw : w.Holds session held) (htimeout : w.channel.settings.readTimeout = timeout)
    (size : Nat) :
    (read size).Brings
      (fun outcome w' => ∃ got left, outcome = .ok got ∧ Got session timeout size held w got left w')
      (Keeps session timeout size held [] w) w := by
  refine brings_liveSession hw fun w₁ hw₁ => ?_
  refine brings_look .getSettings w.channel.settings (fun w₂ hmore => ?_) fun w₂ hmore => ?_
  · rw [Action.run, (hw₁.trans hmore).channel_eq]
  intro w₃ hlater
  have hw₃ := hw₁.trans (hmore.trans hlater)
  simp only [Action.run, Program.bind, htimeout]
  refine (brings_takeWaiting size (hw.later hw₃)).mono (fun outcome w' h => ?_)
    fun _ _ h => h.trans (hw.becomes.later hw₃)
  obtain ⟨got, left, rfl, htook⟩ := h
  exact ⟨got, left, rfl, htook.toGot hw hw₃⟩

/-- Bytes that are held are taken without waiting, as many as are asked for. -/
theorem brings_takeQueued (limit : Nat) (hw : w.Holds session held) :
    (takeQueued session limit taken).EndsIn (.ok (taken.reverse ++ held.take limit))
      (w.Becomes session (held.drop limit) []) (fun _ => False) w := by
  induction limit generalizing w held taken with
  | zero => exact fun w' hlater => ⟨by simp, hw.becomes.later hlater⟩
  | succ limit ih =>
    intro w₁ hlater
    cases held with
    | nil =>
      refine brings_pop_nil (hw.later hlater) (fun _ _ w₂ hmore _ w₃ hrest => ?_) fun hnone => nomatch hnone
      exact ⟨by simp, hw.becomes.later (hlater.trans (hmore.trans hrest))⟩
    | cons byte held =>
      refine brings_pop (hw.later hlater) fun w₂ hw₂ => ?_
      have hnext := (hw.becomes.later hlater).trans hw₂
      refine Brings.mono (ih (hnext.holds hw)) (fun outcome w' h => ?_) fun _ _ => id
      obtain ⟨rfl, hw'⟩ := h
      exact ⟨by simp, hnext.trans hw'⟩

/-- Bytes that are held can be read without waiting. -/
theorem brings_readAvailable (limit : Nat) (hw : w.Holds session held) :
    (readAvailable limit).EndsIn (.ok (held.take limit)) (w.Becomes session (held.drop limit) []) (fun _ => False)
      w := by
  refine brings_liveSession hw fun w₁ hlater => ?_
  refine Brings.mono (brings_takeQueued limit (hw.later hlater)) (fun outcome w' h => ?_) fun _ _ => id
  exact ⟨h.1, (hw.becomes.later hlater).trans h.2⟩

/-- A read that is left alone on an open channel answers the first of the bytes that it holds, as many as its size
and its timeout allow, and leaves the others. It waits for ever only for bytes that are not there, under a timeout
whose end the clock cannot hold, and then keeps all that were held for its answer. A read of one byte answers the
first that a read of size one has got. What is available is read whatever the timeout. -/
theorem read_alone {w : World} {session : Session} {held : List UInt8} {timeout : Option Duration}
    (hw : w.Holds session held) (htimeout : w.channel.settings.readTimeout = timeout) :
    (∀ size, (read size).LeftAlone
      (fun outcome w' => ∃ got left, outcome = .ok got ∧ Got session timeout size held w got left w')
      (fun p w' => held.length < size ∧ Duration.deadline? w'.now timeout = none ∧ w.Becomes session [] [] w' ∧
        ∀ deeds result, p.Leads deeds (.done result) → held <+: result) w) ∧
    readOne.LeftAlone
      (fun outcome w' => ∃ got left, outcome = .ok got.head? ∧ Got session timeout 1 held w got left w')
      (fun _ w' => held = [] ∧ Duration.deadline? w'.now timeout = none ∧ w.Becomes session [] [] w') w ∧
    ∀ limit, (readAvailable limit).LeftAlone
      (fun outcome w' => outcome = .ok (held.take limit) ∧ w.Becomes session (held.drop limit) [] w')
      (fun _ _ => False) w := by
  refine ⟨fun size => ?_, ?_, fun limit => (brings_readAvailable limit hw).leftAlone⟩
  · refine ((brings_read hw htimeout size).mono (fun _ _ => id) fun p w' h => ?_).leftAlone
    exact ⟨h.lacks, h.endless, h.becomes, h.keeps⟩
  · refine ((brings_read hw htimeout 1).bind ?_ ?_ ?_ fun p w' h => ?_).leftAlone
    · rintro bytes w₁ ⟨got, left, hbytes, hgot⟩ w₂ hlater
      obtain rfl := Outcome.ok.inj hbytes
      exact ⟨bytes, left, rfl, hgot.later hlater⟩
    · rintro _ _ ⟨_, _, hfailed, -⟩
      cases hfailed
    · rintro _ _ ⟨_, _, haborted, -⟩
      cases haborted
    · exact ⟨List.length_eq_zero_iff.1 (Nat.lt_one_iff.1 h.lacks), h.endless, h.becomes⟩

/-- A channel that holds two bytes, and is read without time to wait. -/
def polled : World :=
  Builder.filled { Builder.default with
    capacity := 2
    settings := { PortSettings.default with readTimeout := some .zero } } [1, 2]

/-- Of two bytes a read without time to wait gets one, unless the clock cannot tell, and a read of what is there gets
both. -/
theorem read_alone_polled :
    polled.Holds 0 [1, 2] ∧ polled.channel.settings.readTimeout = some .zero ∧
    (read 3).LeftAlone
      (fun outcome w' => Duration.deadline? w'.now (some .zero) ≠ none →
        outcome = .ok [1] ∧ polled.Becomes 0 [2] [] w')
      (fun _ w' => Duration.deadline? w'.now (some .zero) = none) polled ∧
    (readAvailable 3).LeftAlone (fun outcome w' => outcome = .ok [1, 2] ∧ polled.Becomes 0 [] [] w')
      (fun _ _ => False) polled := by
  have hheld : polled.Holds 0 [1, 2] := Builder.holds_filled rfl (Nat.le_refl 2)
  obtain ⟨hread, -, havailable⟩ := read_alone hheld rfl
  refine ⟨hheld, rfl, (hread 3).mono (fun outcome w' h hends => ?_) fun _ _ h => h.2.1, havailable 3⟩
  obtain ⟨got, left, rfl, hgot⟩ := h
  obtain ⟨byte, rfl⟩ := List.length_eq_one_iff.1 (hgot.poll rfl hends)
  obtain ⟨rfl, rfl⟩ := List.cons.inj hgot.held_eq
  exact ⟨rfl, hgot.becomes⟩

end Loopback.Channel
