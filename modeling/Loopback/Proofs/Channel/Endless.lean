import Loopback.Proofs.Channel.Parts
import Loopback.Proofs.Channel.Sessions
import Loopback.Proofs.Machine.Coupling

/-!
# Waits without end

A timeout that the clock cannot hold is as good as none, and as good as any other of that sort. Two channels
are in step if they differ in nothing but such timeouts of one side. Programs are in step if they take the same
actions wherever each gets the answers of its own channel. What they have learned from these counts: that a
session they go to has begun, so that a byte pushed without a deadline is accepted in the end, and that the
clock has come so far that the timeouts are past it.
-/

namespace Loopback

variable {ε δ α β : Type}

/-- What a timeout of a port is for. -/
inductive Side where
  | reading
  | writing
deriving DecidableEq

namespace PortSettings

/-- The timeout of a side. -/
def timeout (settings : PortSettings) : Side → Option Duration
  | .reading => settings.readTimeout
  | .writing => settings.writeTimeout

/-- The settings with another timeout of a side. -/
def withTimeout (settings : PortSettings) (side : Side) (timeout : Option Duration) : PortSettings :=
  match side with
  | .reading => { settings with readTimeout := timeout }
  | .writing => { settings with writeTimeout := timeout }

end PortSettings

/-- Two timeouts of one side, both past the clock from some instant on, or absent. -/
structure Endless where
  side : Side
  timeout : Option Duration
  timeout' : Option Duration
  since : Duration.Instant
  past : Duration.deadline? since timeout = none
  past' : Duration.deadline? since timeout' = none

/-- What a program has learned of a channel: how many sessions have begun, and how late it is. Both are
bounds from below. -/
structure Known where
  sessions : Nat
  clock : Duration.Instant

namespace Known

/-- To know more is to have better bounds. -/
instance : LE Known := ⟨fun known later => known.sessions ≤ later.sessions ∧ known.clock ≤ later.clock⟩

/-- What is known is known. -/
theorem le_refl (known : Known) : known ≤ known := ⟨Nat.le_refl _, Nat.le_refl _⟩

/-- What is known comes to be known more. -/
theorem le_trans {known later last : Known} (h : known ≤ later) (hlater : later ≤ last) : known ≤ last :=
  ⟨Nat.le_trans h.1 hlater.1, Nat.le_trans h.2 hlater.2⟩

/-- All there is to know of a world. -/
def of (w : World) : Known := ⟨w.channel.queues.length, w.now⟩

end Known

namespace Endless

/-- Settings with the one timeout, and the same settings with the other. -/
def Differ (t : Endless) (settings settings' : PortSettings) : Prop :=
  settings.timeout t.side = t.timeout ∧ settings' = settings.withTimeout t.side t.timeout'

/-- What two channels that are in step may answer to the same action, and what is known after that. Settings
may differ only where they fit the task, and when the timeouts are past the clock. -/
def Answers (t : Endless) (fits : PortSettings → Prop) (known : Known) :
    (action : Action) → action.Reply → action.Reply → Known → Prop
  | .getSettings, settings, settings', later =>
    settings' = settings ∧ later = known ∨
      t.Differ settings settings' ∧ fits settings ∧ later = ⟨known.sessions, max known.clock t.since⟩
  | .getClock, now, now', later => now' = now ∧ known.clock ≤ now ∧ later = known
  | .getSession, some session, session', later =>
    session' = some session ∧ later = ⟨max known.sessions (session + 1), known.clock⟩
  | .push session _ none, accepted, accepted', later =>
    accepted' = accepted ∧ (session < known.sessions → accepted = true) ∧ later = known
  | _, answer, answer', later => answer' = answer ∧ later = known

end Endless

/-- A change of settings leaves them the same, or different as before. -/
def Action.Fair (t : Endless) : Action → Prop
  | .changeSettings change => ∀ settings settings', t.Differ settings settings' →
    change settings' = change settings ∨ t.Differ (change settings) (change settings')
  | _ => True

/-- Programs that take the same actions and come to results that agree, as long as each gets the answers of its
own channel. -/
inductive Program.InStep (t : Endless) (fits : PortSettings → Prop) (agrees : α → α → Prop) :
    Known → Program ε α → Program ε α → Prop where
  | done {known : Known} {result result' : α} (h : agrees result result') :
      InStep t fits agrees known (.done result) (.done result')
  | fail {known : Known} (failure : ε) : InStep t fits agrees known (.fail failure) (.fail failure)
  | abort {known : Known} (message : String) : InStep t fits agrees known (.abort message) (.abort message)
  | act {known : Known} {action : Action} {next next' : action.Reply → Program ε α} (hfair : action.Fair t)
      (hnext : ∀ answer answer' later, t.Answers fits known action answer answer' later →
        InStep t fits agrees later (next answer) (next' answer')) :
      InStep t fits agrees known (.act action next) (.act action next')

/-- A program that goes on in step with itself, whatever is known. -/
def Program.Even (t : Endless) (fits : PortSettings → Prop) (p : Program ε α) : Prop :=
  ∀ known, p.InStep t fits Eq known p

section

variable {t : Endless} {fits : PortSettings → Prop} {known later : Known} {agrees : α → α → Prop}

namespace Endless.Answers

variable {action : Action} {answer answer' : action.Reply}

/-- Every answer adds to what is known. -/
theorem le (h : t.Answers fits known action answer answer' later) : known ≤ later := by
  cases action with
  | getSettings =>
    rcases h with ⟨-, rfl⟩ | ⟨-, -, rfl⟩
    · exact Known.le_refl _
    · exact ⟨Nat.le_refl _, Nat.le_max_left _ _⟩
  | getClock => obtain ⟨-, -, rfl⟩ := h; exact Known.le_refl _
  | getSession =>
    cases answer with
    | none => obtain ⟨-, rfl⟩ := h; exact Known.le_refl _
    | some session => obtain ⟨-, rfl⟩ := h; exact ⟨Nat.le_max_left _ _, Nat.le_refl _⟩
  | push session item deadline =>
    cases deadline with
    | none => obtain ⟨-, -, rfl⟩ := h; exact Known.le_refl _
    | some => obtain ⟨-, rfl⟩ := h; exact Known.le_refl _
  | _ => obtain ⟨-, rfl⟩ := h; exact Known.le_refl _

/-- Only settings may differ. -/
theorem eq (h : t.Answers fits known action answer answer' later) (hother : action ≠ .getSettings) :
    answer' = answer := by
  cases action with
  | getSettings => exact absurd rfl hother
  | getSession => cases answer <;> exact h.1
  | push session item deadline => cases deadline <;> exact h.1
  | _ => exact h.1

/-- Who knows more has the same to expect of an answer, or less. -/
theorem of_le {known₂ later₂ : Known} (h : t.Answers fits known₂ action answer answer' later₂)
    (hle : known ≤ known₂) : ∃ later, t.Answers fits known action answer answer' later ∧ later ≤ later₂ := by
  have hmax : ∀ {m n : Nat} (k : Nat), m ≤ n → max m k ≤ max n k := fun k hmn => by omega
  cases action with
  | getSettings =>
    rcases h with ⟨rfl, rfl⟩ | ⟨hdiffer, hfits, rfl⟩
    · exact ⟨_, .inl ⟨rfl, rfl⟩, hle⟩
    · exact ⟨_, .inr ⟨hdiffer, hfits, rfl⟩, hle.1, hmax t.since hle.2⟩
  | getClock =>
    obtain ⟨rfl, hclock, rfl⟩ := h
    exact ⟨_, ⟨rfl, Nat.le_trans hle.2 hclock, rfl⟩, hle⟩
  | getSession =>
    cases answer with
    | none => obtain ⟨rfl, rfl⟩ := h; exact ⟨_, ⟨rfl, rfl⟩, hle⟩
    | some session =>
      obtain ⟨rfl, rfl⟩ := h
      exact ⟨_, ⟨rfl, rfl⟩, hmax _ hle.1, hle.2⟩
  | push session item deadline =>
    cases deadline with
    | none =>
      obtain ⟨rfl, haccepted, rfl⟩ := h
      exact ⟨_, ⟨rfl, fun hknown => haccepted (Nat.lt_of_lt_of_le hknown hle.1), rfl⟩, hle⟩
    | some => obtain ⟨rfl, rfl⟩ := h; exact ⟨_, ⟨rfl, rfl⟩, hle⟩
  | _ => obtain ⟨rfl, rfl⟩ := h; exact ⟨_, ⟨rfl, rfl⟩, hle⟩

end Endless.Answers

namespace Program

/-- Programs stay in step when more is known. -/
theorem InStep.mono {p p' : Program ε α} (h : p.InStep t fits agrees known p') (hle : known ≤ later) :
    p.InStep t fits agrees later p' := by
  induction h generalizing later with
  | done h => exact .done h
  | fail failure => exact .fail failure
  | abort message => exact .abort message
  | act hfair _ ih =>
    refine .act hfair fun answer answer' last hanswers => ?_
    obtain ⟨last', hanswers', hlast⟩ := hanswers.of_le hle
    exact ih answer answer' last' hanswers' hlast

/-- Any other action than asking for the settings is answered the same. -/
theorem instep_act {action : Action} {next next' : action.Reply → Program ε α} (hfair : action.Fair t)
    (hother : action ≠ .getSettings)
    (hnext : ∀ answer later, known ≤ later → (next answer).InStep t fits agrees later (next' answer)) :
    (Program.act action next).InStep t fits agrees known (.act action next') :=
  .act hfair fun answer _ later hanswers => hanswers.eq hother ▸ hnext answer later hanswers.le

/-- Programs go on in step after programs that are in step. -/
theorem InStep.bind {first : β → β → Prop} {q q' : Program ε β} {rest rest' : β → Program ε α}
    (h : q.InStep t fits first known q')
    (hrest : ∀ result result' later, first result result' → known ≤ later →
      (rest result).InStep t fits agrees later (rest' result')) :
    (q >>= rest).InStep t fits agrees known (q' >>= rest') := by
  induction h with
  | done h => exact hrest _ _ _ h (Known.le_refl _)
  | fail failure => exact .fail failure
  | abort message => exact .abort message
  | act hfair _ ih =>
    exact .act hfair fun answer answer' later hanswers => ih answer answer' later hanswers
      fun result result' last hfirst hlast => hrest result result' last hfirst (Known.le_trans hanswers.le hlast)

/-- What follows a program that goes on evenly gets the same result. -/
theorem Even.bind_instep {q : Program ε β} {rest rest' : β → Program ε α} (h : q.Even t fits)
    (hrest : ∀ result later, known ≤ later → (rest result).InStep t fits agrees later (rest' result)) :
    (q >>= rest).InStep t fits agrees known (q >>= rest') :=
  (h known).bind fun result _ later hresult => hresult ▸ hrest result later

/-- Programs stay in step with their failures told in other terms. -/
theorem InStep.mapFailure {p p' : Program δ α} (h : p.InStep t fits agrees known p') (f : δ → ε) :
    (p.mapFailure f).InStep t fits agrees known (p'.mapFailure f) := by
  induction h with
  | done h => exact .done h
  | fail failure => exact .fail (f failure)
  | abort message => exact .abort message
  | act hfair _ ih => exact .act hfair ih

/-- Programs stay in step with their failures taken as results. -/
theorem InStep.attempt {p p' : Program δ α} (h : p.InStep t fits Eq known p') :
    (p.attempt : Program ε (Except δ α)).InStep t fits Eq known p'.attempt := by
  induction h with
  | done h => exact .done (congrArg Except.ok h)
  | fail failure => exact .done rfl
  | abort message => exact .abort message
  | act hfair _ ih => exact .act hfair ih

/-- Programs stay in step with their abortions told as failures. -/
theorem InStep.sheltered {p p' : Program ε α} (h : p.InStep t fits agrees known p') (f : String → ε) :
    (p.sheltered f).InStep t fits agrees known (p'.sheltered f) := by
  induction h with
  | done h => exact .done h
  | fail failure => exact .fail failure
  | abort message => exact .fail (f message)
  | act hfair _ ih => exact .act hfair ih

/-- A same action at the end of two programs leaves them in step. -/
theorem InStep.thenAlways {p p' : Program ε α} (h : p.InStep t fits agrees known p') {last : Action}
    (hfair : last.Fair t) (hother : last ≠ .getSettings) :
    (p.thenAlways last).InStep t fits agrees known (p'.thenAlways last) := by
  induction h with
  | done h => exact instep_act hfair hother fun _ _ _ => .done h
  | fail failure => exact instep_act hfair hother fun _ _ _ => .fail failure
  | abort message => exact instep_act hfair hother fun _ _ _ => .abort message
  | act hfair _ ih => exact .act hfair ih

/-- To go on evenly goes by how programs are built from actions that do not ask for the settings. -/
theorem even_parts : Hereditary (fun p => p.Even t fits) fun action => action.Fair t ∧ action ≠ .getSettings where
  ordinary {action} hordinary := by
    cases action with
    | getSettings | changeSettings => exact hordinary.elim
    | _ => exact ⟨trivial, nofun⟩
  done _ _ := .done rfl
  fail failure _ := .fail failure
  abort message _ := .abort message
  act hplain hnext _ := instep_act hplain.1 hplain.2 fun answer later _ => hnext answer later
  bind hp hrest known := hp.bind_instep fun result later _ => hrest result later
  mapFailure f hp known := (hp known).mapFailure f
  attempt hp known := (hp known).attempt
  sheltered f hp known := (hp known).sheltered f
  thenAlways hplain hp known := (hp known).thenAlways hplain.1 hplain.2

end Program

namespace Endless

/-- Timeouts that come to the same deadlines from what is known on: the same, or the two endless ones. -/
def Like (t : Endless) (known : Known) (timeout timeout' : Option Duration) : Prop :=
  timeout' = timeout ∨ timeout = t.timeout ∧ timeout' = t.timeout' ∧ t.since ≤ known.clock

/-- Settings that a task may be given: the same, or different where they fit and the timeouts are past the
clock. -/
def Given (t : Endless) (fits : PortSettings → Prop) (known : Known) (settings settings' : PortSettings) : Prop :=
  settings' = settings ∨ t.Differ settings settings' ∧ fits settings ∧ t.since ≤ known.clock

/-- Timeouts that come to the same deadlines still do when more is known. -/
theorem Like.mono {timeout timeout' : Option Duration} (h : t.Like known timeout timeout') (hle : known ≤ later) :
    t.Like later timeout timeout' :=
  h.imp_right fun ⟨hsame, hsame', hclock⟩ => ⟨hsame, hsame', Nat.le_trans hclock hle.2⟩

/-- Timeouts past the clock come to no deadline. -/
theorem Like.deadline {timeout timeout' : Option Duration} (h : t.Like known timeout timeout')
    {now : Duration.Instant} (hnow : known.clock ≤ now) :
    Duration.deadline? now timeout' = Duration.deadline? now timeout := by
  rcases h with rfl | ⟨rfl, rfl, hclock⟩
  · rfl
  · have hsince := Nat.le_trans hclock hnow
    rw [Duration.deadline?_eq_none_mono hsince t.past, Duration.deadline?_eq_none_mono hsince t.past']

namespace Given

variable {settings settings' : PortSettings}

/-- The baud rate is the same. -/
theorem baudRate (h : t.Given fits known settings settings') : settings'.baudRate = settings.baudRate := by
  rcases h with rfl | ⟨⟨-, rfl⟩, -⟩
  · rfl
  · unfold PortSettings.withTimeout
    split <;> rfl

/-- Either timeout comes to the same deadlines. -/
theorem like (h : t.Given fits known settings settings') (side : Side) :
    t.Like known (settings.timeout side) (settings'.timeout side) := by
  rcases h with rfl | ⟨⟨htimeout, rfl⟩, -, hclock⟩
  · exact .inl rfl
  · generalize t.side = own at htimeout ⊢
    cases side <;> cases own
    · exact .inr ⟨htimeout, rfl, hclock⟩
    · exact .inl rfl
    · exact .inl rfl
    · exact .inr ⟨htimeout, rfl, hclock⟩

end Given

/-- Whether a payload takes no longer to send than either timeout of the write. -/
def InTime (t : Endless) (data : List UInt8) (settings : PortSettings) : Prop :=
  t.side = .writing → ∀ transmit, settings.transmitDuration? data.length = some transmit →
    ∀ limit, t.timeout = some limit ∨ t.timeout' = some limit → transmit.nanos ≤ limit.nanos

end Endless

namespace Program

/-- Settings that are asked for may differ as far as they are fit for that. -/
theorem instep_settings {next next' : PortSettings → Program ε α}
    (hnext : ∀ settings settings' later, known ≤ later → t.Given fits later settings settings' →
      (next settings).InStep t fits agrees later (next' settings')) :
    (Program.act .getSettings next).InStep t fits agrees known (.act .getSettings next') := by
  refine .act trivial fun settings settings' later hanswers => ?_
  refine hnext settings settings' later (Endless.Answers.le hanswers) ?_
  rcases hanswers with ⟨hsame, -⟩ | ⟨hdiffer, hfits, rfl⟩
  · exact .inl hsame
  · exact .inr ⟨hdiffer, hfits, Nat.le_max_right _ _⟩

end Program

/-- Worlds that differ at most in endless timeouts, once these are past the clock. -/
inductive Endless.Worlds (t : Endless) : World → World → Prop where
  | mk {channel : Channel} {settings : PortSettings} {now : Duration.Instant} {journal : List JournalEntry}
      (h : settings = channel.settings ∨ t.Differ channel.settings settings ∧ t.since ≤ now) :
      Worlds t ⟨channel, now, journal⟩ ⟨{ channel with settings }, now, journal⟩

/-- Worlds that differ at most in endless timeouts, and programs that go on in step from what is known in the
first world. A task may be given settings that differ only where they fit it. -/
def Endless.pairing (t : Endless) (fits : Nat → PortSettings → Prop) (agrees : Nat → α → α → Prop) :
    Pairing ε α where
  worlds := t.Worlds
  programs w task p p' := p.InStep t (fits task) (agrees task) (.of w) p'
  permits w w' task action :=
    action = .getSettings → w'.channel.settings = w.channel.settings ∨ fits task w.channel.settings

/-- There is never less to know of a world than there was. -/
theorem Action.Comes.known_le {task : Nat} {w w' : World} {action : Action} {answer : action.Reply}
    (h : action.Comes task w answer w') : Known.of w ≤ Known.of w' :=
  ⟨h.sessions_le, Nat.le_of_eq h.now_eq.symm⟩

namespace Endless.Worlds

variable {w w' : World}

/-- But for the settings, the channels are the same. -/
theorem channel_eq (h : t.Worlds w w') :
    w'.channel = { w.channel with settings := w'.channel.settings } := by
  cases h
  rfl

/-- But for the endless timeouts, the settings are the same. -/
theorem settings_eq (h : t.Worlds w w') :
    w'.channel.settings.withTimeout t.side none = w.channel.settings.withTimeout t.side none := by
  cases h with
  | mk h =>
    rcases h with rfl | ⟨⟨-, rfl⟩, -⟩
    · rfl
    · generalize t.side = side
      cases side <;> rfl

/-- The clocks are the same. -/
theorem now_eq (h : t.Worlds w w') : w'.now = w.now := by
  cases h
  rfl

/-- The journals are the same. -/
theorem journal_eq (h : t.Worlds w w') : w'.journal = w.journal := by
  cases h
  rfl

/-- Time may pass in both. -/
theorem ticked (h : t.Worlds w w') (nanos : Nat) :
    t.Worlds { w with now := w.now + nanos } { w' with now := w'.now + nanos } := by
  cases h with
  | mk h => exact .mk (h.imp_right fun ⟨hdiffer, hsince⟩ => ⟨hdiffer, Nat.le_add_right_of_le hsince⟩)

/-- On an action of programs in step, the verdicts are alike. -/
theorem verdicts {fits : Nat → PortSettings → Prop} {agrees : Nat → α → α → Prop} (h : t.Worlds w w')
    {task : Nat} {action : Action} (hfair : action.Fair t) {next next' : action.Reply → Program ε α}
    (hnext : ∀ answer answer' later, t.Answers (fits task) (.of w) action answer answer' later →
      (next answer).InStep t (fits task) (agrees task) later (next' answer')) :
    (t.pairing fits agrees).Verdicts w w' task next next' (action.run task w) (action.run task w') := by
  obtain @⟨channel, settings, now, journal, hsettings⟩ := h
  have hreply : ∀ {answer : action.Reply} {changed : Channel} {journal' : List JournalEntry}
      (call : Option Call), changed.settings = channel.settings →
      channel.queues.length ≤ changed.queues.length →
      t.Answers (fits task) ⟨channel.queues.length, now⟩ action answer answer ⟨channel.queues.length, now⟩ →
      (t.pairing fits agrees).Verdicts ⟨channel, now, journal⟩ ⟨{ channel with settings }, now, journal⟩ task
        next next' (.reply answer ⟨changed, now, journal'⟩ call)
        (.reply answer ⟨{ changed with settings }, now, journal'⟩ call) :=
    fun call hsame hsessions hanswers => .reply call fun _ =>
      ⟨.mk (hsame ▸ hsettings), (hnext _ _ _ hanswers).mono ⟨hsessions, Nat.le_refl _⟩⟩
  have hqueue : ∀ (session : Session) (queue : Queue),
      channel.queues.length ≤ (channel.setQueue session queue).queues.length :=
    fun session queue => by simp [Channel.setQueue]
  -- The worlds differ in their settings alone, so only the two actions on these need an argument of their own.
  cases action with
  | getSettings =>
    refine .reply none fun hpermits => ⟨.mk hsettings, ?_⟩
    rcases hsettings with rfl | ⟨hdiffer, hsince⟩
    · exact hnext _ _ _ (.inl ⟨rfl, rfl⟩)
    · rcases hpermits rfl with hsame | hfits
      · exact hnext _ _ _ (.inl ⟨hsame, rfl⟩)
      · refine (hnext _ _ _ (.inr ⟨hdiffer, hfits, rfl⟩)).mono ⟨Nat.le_refl _, ?_⟩
        exact Nat.max_le.2 ⟨Nat.le_refl _, hsince⟩
  | changeSettings change =>
    refine .reply none fun _ => ⟨?_, hnext _ _ _ ⟨rfl, rfl⟩⟩
    refine @Worlds.mk t { channel with settings := change channel.settings } (change settings) now journal ?_
    rcases hsettings with rfl | ⟨hdiffer, hsince⟩
    · exact .inl rfl
    · exact (hfair _ _ hdiffer).imp_right fun hdiffer => ⟨hdiffer, hsince⟩
  | getSession =>
    refine hreply none rfl (Nat.le_refl _) ?_
    cases hsession : channel.session? with
    | none => exact ⟨rfl, rfl⟩
    | some session =>
      have hlength := Channel.session?_eq_some.1 hsession
      exact ⟨rfl, by rw [hlength, Nat.max_self]⟩
  | getClock => exact hreply none rfl (Nat.le_refl _) ⟨rfl, Nat.le_refl _, rfl⟩
  | setLine line level => cases line <;> exact hreply none rfl (Nat.le_refl _) ⟨rfl, rfl⟩
  | newSession => exact hreply none rfl (by simp) ⟨rfl, rfl⟩
  | getLength session =>
    simp only [Action.run, Action.atQueue]
    split <;> exact hreply none rfl (Nat.le_refl _) ⟨rfl, rfl⟩
  | clear session =>
    simp only [Action.run, Action.atQueue]
    split
    · exact hreply none rfl (Nat.le_refl _) ⟨rfl, rfl⟩
    · exact hreply _ rfl (hqueue session _) ⟨rfl, rfl⟩
  | push session item deadline =>
    simp only [Action.run, Action.atQueue]
    cases deadline with
    | none =>
      split
      next hnone =>
        refine hreply none rfl (Nat.le_refl _) ⟨rfl, fun hlt => ?_, rfl⟩
        exact absurd hlt (Nat.not_lt.2 (List.getElem?_eq_none_iff.1 hnone))
      next =>
        split
        · exact hreply _ rfl (hqueue session _) ⟨rfl, fun _ => rfl, rfl⟩
        · exact .wait fun hdeadline => absurd rfl hdeadline
    | some deadline =>
      split
      · exact hreply none rfl (Nat.le_refl _) ⟨rfl, rfl⟩
      · split
        · exact hreply _ rfl (hqueue session _) ⟨rfl, rfl⟩
        · exact .wait fun _ => hnext _ _ _ ⟨rfl, rfl⟩
  | append session item =>
    simp only [Action.run, Action.atQueue]
    split
    · exact hreply none rfl (Nat.le_refl _) ⟨rfl, rfl⟩
    · exact hreply _ rfl (hqueue session _) ⟨rfl, rfl⟩
  | pop session deadline =>
    simp only [Action.run, Action.atQueue]
    split
    · exact hreply none rfl (Nat.le_refl _) ⟨rfl, rfl⟩
    · split
      · exact hreply _ rfl (hqueue session _) ⟨rfl, rfl⟩
      · exact .wait fun _ => hnext _ _ _ ⟨rfl, rfl⟩
  | pause deadline =>
    simp only [Action.run]
    split
    · exact hreply none rfl (Nat.le_refl _) ⟨rfl, rfl⟩
    · exact .wait fun _ => hnext _ _ _ ⟨rfl, rfl⟩
  | enterLifecycle =>
    simp only [Action.run]
    split
    · exact .held
    · exact hreply none rfl (Nat.le_refl _) ⟨rfl, rfl⟩
  | _ => exact hreply none rfl (Nat.le_refl _) ⟨rfl, rfl⟩

end Endless.Worlds

/-- Channels that differ at most in endless timeouts stay in step. -/
def Endless.coupling (t : Endless) (fits : Nat → PortSettings → Prop) (agrees : Nat → α → α → Prop) :
    Coupling ε α where
  toPairing := t.pairing fits agrees
  now_eq := Worlds.now_eq
  later nanos h := Worlds.ticked h nanos
  points hworlds hprograms := by
    cases hprograms with
    | done => exact .ended rfl rfl
    | fail => exact .ended rfl rfl
    | abort => exact .ended rfl rfl
    | act hfair hnext => exact .before rfl rfl (Worlds.verdicts hworlds hfair hnext)
  ticked nanos hprograms := Program.InStep.mono hprograms ⟨Nat.le_refl _, Nat.le_add_right _ _⟩
  beside hcomes hprograms := Program.InStep.mono hprograms hcomes.known_le

end

end Loopback
