import Loopback.Proofs.Work.Rated
import Loopback.Proofs.Machine.Attaining

/-!
# What others keep of a channel

While a task opens or closes a channel, others may go on with what neither opens nor closes it: they touch
settings, lines and queues, and nothing else. So what the task makes of the channel stays, but for the parts
that others touch. A program that opens or closes it is judged from the channel that it would meet alone.
-/

namespace Loopback

/-- The parts of a channel that an operation may touch which neither opens nor closes it. The mark of the end
that a queue holds is a part of its own: it is touched only by what may take it away. -/
inductive Part where
  | settings
  | line (line : Line)
  | queue (session : Session)
  | mark (session : Session)

/-- What belongs to opening and closing, and to what goes with them. -/
def Action.lifecycle : Action → Bool
  | .setOpen _ | .newSession | .setAddress _ | .dropDiagnostics | .attachDiagnostics _ | .enterLifecycle
  | .leaveLifecycle => true
  | _ => false

/-- The parts that a deed may touch. -/
def Deed.parts : Deed → List Part
  | ⟨.changeSettings _, _⟩ => [.settings]
  | ⟨.setLine line _, _⟩ => [.line line]
  | ⟨.pop session _, some .endOfStream⟩ | ⟨.clear session, _⟩ => [.queue session, .mark session]
  | deed => (deed.action.alters?.map .queue).toList

/-- What alters a queue touches it. -/
theorem Deed.queue_mem_parts {deed : Deed} {session : Session} (h : deed.action.alters? = some session) :
    .queue session ∈ deed.parts := by
  obtain ⟨action, answer⟩ := deed
  cases action with
  | pop =>
    cases h
    rcases answer with _ | (_ | _) <;> simp [parts, Action.alters?]
  | push | append | clear =>
    cases h
    simp [parts, Action.alters?]
  | _ => cases h

namespace Channel

/-- That the queue of a session holds a mark of the end. -/
def markedIn (c : Channel) (session : Session) : Prop := ∃ q, c.queues[session]? = some q ∧ .endOfStream ∈ q.items

/-- That a channel is as another, but for certain parts. A baud rate is never lost, nor is a mark of the end,
unless that is touched. -/
structure Kept (touched : Part → Prop) (c c' : Channel) : Prop where
  traits : c'.traits = c.traits
  address : c'.address = c.address
  isOpen : c'.isOpen = c.isOpen
  diagnostics : c'.diagnostics = c.diagnostics
  changing : c'.changing = c.changing
  sessions : c'.queues.length = c.queues.length
  baudRate : c.settings.baudRate ≠ 0 → c'.settings.baudRate ≠ 0
  settings : ¬touched .settings → c'.settings = c.settings
  line : ∀ line, ¬touched (.line line) → c'.line line = c.line line
  queue : ∀ session, ¬touched (.queue session) → c'.queues[session]? = c.queues[session]?
  mark : ∀ session, ¬touched (.mark session) → c.markedIn session → c'.markedIn session

namespace Kept

variable {touched : Part → Prop} {c c' c'' : Channel}

/-- A channel is kept as it is. -/
theorem refl (touched : Part → Prop) (c : Channel) : Kept touched c c := by
  constructor <;> intros <;> first | rfl | assumption

/-- What is kept twice is kept. -/
theorem trans (h : Kept touched c c') (h' : Kept touched c' c'') : Kept touched c c'' where
  traits := h'.traits.trans h.traits
  address := h'.address.trans h.address
  isOpen := h'.isOpen.trans h.isOpen
  diagnostics := h'.diagnostics.trans h.diagnostics
  changing := h'.changing.trans h.changing
  sessions := h'.sessions.trans h.sessions
  baudRate hbaud := h'.baudRate (h.baudRate hbaud)
  settings htouched := (h'.settings htouched).trans (h.settings htouched)
  line line htouched := (h'.line line htouched).trans (h.line line htouched)
  queue session htouched := (h'.queue session htouched).trans (h.queue session htouched)
  mark session htouched hmarked := h'.mark session htouched (h.mark session htouched hmarked)

/-- Whatever is touched, the current session is the same. -/
theorem session? (h : Kept touched c c') : c'.session? = c.session? := by
  rw [Channel.session?, Channel.session?, h.sessions]

/-- A channel of which nothing was touched is the same. -/
theorem eq_of_untouched (h : Kept touched c c') (hnone : ∀ part, ¬touched part) : c' = c := by
  have hqueues : c'.queues = c.queues := List.ext_getElem? fun session => h.queue session (hnone _)
  have hsettings := h.settings (hnone _)
  have hrts := h.line .requestToSend (hnone _)
  have hdtr := h.line .dataTerminalReady (hnone _)
  have hbreak := h.line .breakCondition (hnone _)
  obtain ⟨htraits, haddress, hopen, hdiagnostics, hchanging, -⟩ := h
  cases c
  cases c'
  simp_all [Channel.line]

/-- What is made of a channel beside its settings, lines and queues is made of the other alike. -/
theorem update (h : Kept touched c c') (address : Option String → Option String) (isOpen : Bool → Bool)
    (diagnostics : Option Severity → Option Severity) (changing : Bool → Bool) :
    Kept touched
      { c with
        address := address c.address
        isOpen := isOpen c.isOpen
        diagnostics := diagnostics c.diagnostics
        changing := changing c.changing }
      { c' with
        address := address c'.address
        isOpen := isOpen c'.isOpen
        diagnostics := diagnostics c'.diagnostics
        changing := changing c'.changing } where
  traits := h.traits
  address := congrArg address h.address
  isOpen := congrArg isOpen h.isOpen
  diagnostics := congrArg diagnostics h.diagnostics
  changing := congrArg changing h.changing
  sessions := h.sessions
  baudRate := h.baudRate
  settings := h.settings
  line line htouched := by cases line <;> exact h.line _ htouched
  queue := h.queue
  mark := h.mark

/-- What is kept is kept when a line is set in both. -/
theorem setLine (h : Kept touched c c') (line : Line) (level : Bool) :
    Kept touched (c.setLine line level) (c'.setLine line level) := by
  have hlines : ∀ other, ¬touched (.line other) →
      (c'.setLine line level).line other = (c.setLine line level).line other := by
    intro other htouched
    have hother := h.line other htouched
    cases line <;> cases other <;> first | rfl | exact hother
  cases line <;> exact ⟨h.traits, h.address, h.isOpen, h.diagnostics, h.changing, h.sessions, h.baudRate, h.settings,
    hlines, h.queue, h.mark⟩

/-- What is kept is kept when a session is begun in both. -/
theorem newSession (h : Kept touched c c') (q : Queue) :
    Kept touched { c with queues := c.queues ++ [q] } { c' with queues := c'.queues ++ [q] } where
  traits := h.traits
  address := h.address
  isOpen := h.isOpen
  diagnostics := h.diagnostics
  changing := h.changing
  sessions := by simp [h.sessions]
  baudRate := h.baudRate
  settings := h.settings
  line line htouched := by cases line <;> exact h.line _ htouched
  queue session htouched := by
    simp only [List.getElem?_append, h.sessions, h.queue session htouched]
  mark session htouched hmarked := by
    simp only [markedIn, List.getElem?_append] at hmarked ⊢
    rw [h.sessions]
    split at hmarked
    next hbefore => rw [if_pos hbefore]; exact h.mark session htouched hmarked
    next hlast => rwa [if_neg hlast]

/-- A queue is altered as it would be in the channel that is known, unless others touch it. -/
theorem setQueue (h : Kept touched c c') {session : Session} {q q' r r' : Queue}
    (hq : c.queues[session]? = some q) (hq' : c'.queues[session]? = some q') (hsame : q' = q → r' = r)
    (hmark : .endOfStream ∈ r.items → .endOfStream ∈ r'.items) :
    Kept touched (c.setQueue session r) (c'.setQueue session r') where
  traits := h.traits
  address := h.address
  isOpen := h.isOpen
  diagnostics := h.diagnostics
  changing := h.changing
  sessions := by simp [Channel.setQueue, h.sessions]
  baudRate := h.baudRate
  settings := h.settings
  line line htouched := by cases line <;> exact h.line _ htouched
  queue other htouched := by
    rw [Action.queues_setQueue, Action.queues_setQueue]
    split
    next hother =>
      subst hother
      rw [hq, hq', Option.map_some, Option.map_some]
      refine congrArg some (hsame (Option.some.inj ?_))
      rw [← hq', ← hq]
      exact h.queue session htouched
    next => exact h.queue other htouched
  mark other htouched hmarked := by
    simp only [markedIn, Action.queues_setQueue] at hmarked ⊢
    split at hmarked
    next hother =>
      subst hother
      rw [if_pos rfl, hq', Option.map_some]
      rw [hq, Option.map_some] at hmarked
      obtain ⟨_, hr, hmem⟩ := hmarked
      cases hr
      exact ⟨r', rfl, hmark hmem⟩
    next hother =>
      rw [if_neg hother]
      exact h.mark other htouched hmarked

end Kept

/-- How others may change a channel that neither open nor close it. -/
def besides (touched : Part → Prop) : Rely where
  within w w' := w.channel.Kept touched w'.channel
  refl w := .refl touched w.channel
  trans := Kept.trans
  tick w _ := .refl touched w.channel

end Channel

namespace Action

variable {task : Nat} {w w' : World} {action : Action} {answer : action.Reply}

/-- A line is at the level that it was set to. -/
theorem Comes.line_of_set {line : Line} {level : Bool} {answer : Unit}
    (h : (Action.setLine line level).Comes task w answer w') : w'.channel.line line = level := by
  cases h with
  | replied hrun =>
    cases hrun
    cases line <;> rfl
  | gaveUp hrun => cases hrun

/-- A line is as it was, unless the action sets it. -/
theorem Comes.line (h : action.Comes task w answer w') (line : Line) (hset : ∀ level, action ≠ .setLine line level) :
    w'.channel.line line = w.channel.line line := by
  cases h with
  | gaveUp => rfl
  | replied hrun =>
    cases action with
    | push | pop =>
      simp only [run, atQueue] at hrun
      split at hrun
      · cases hrun
        rfl
      · split at hrun <;> cases hrun
        cases line <;> rfl
    | append | clear | getLength =>
      simp only [run, atQueue] at hrun
      split at hrun <;> cases hrun <;> cases line <;> rfl
    | pause | enterLifecycle =>
      simp only [run] at hrun
      split at hrun <;> cases hrun
      cases line <;> rfl
    | setLine other =>
      cases hrun
      cases line <;> cases other <;> first | rfl | exact absurd rfl (hset _)
    | _ =>
      cases hrun
      cases line <;> rfl

/-- A mark of the end stays where it is queued, unless the action takes it away. -/
theorem Comes.markedIn (h : action.Comes task w answer w') {session : Session}
    (hmark : .mark session ∉ Deed.parts ⟨action, answer⟩) (hmarked : w.channel.markedIn session) :
    w'.channel.markedIn session := by
  obtain ⟨q, hq, hmem⟩ := hmarked
  cases h with
  | gaveUp => exact ⟨q, hq, hmem⟩
  | replied hrun =>
    obtain ⟨q', hq', heffect⟩ := effect_of_run hrun hq
    refine ⟨q', hq', ?_⟩
    cases heffect with
    | pushed hoffer => simp [Queue.items_of_offer hoffer, hmem]
    | appended => simp [hmem]
    | @popped deadline q q' entry htake =>
      rw [Queue.items_of_take? htake, List.mem_cons] at hmem
      refine hmem.resolve_left fun hfirst => hmark ?_
      simp [← hfirst, Deed.parts]
    | cleared => exact absurd (by simp [Deed.parts]) hmark
    | elsewhere => exact hmem

/-- What has nothing to do with opening or closing keeps a channel but for the parts that it touches. -/
theorem Comes.kept {kind : Kind} {touched : Part → Prop} (h : action.Comes task w answer w') (hmay : kind.may action)
    (hlifecycle : action.lifecycle = false) (htouched : ∀ part ∈ Deed.parts ⟨action, answer⟩, touched part) :
    w.channel.Kept touched w'.channel := by
  have hframe := h.frame
  have hsessions := hframe.sessions (by rintro rfl; cases hlifecycle)
  constructor
  · exact hframe.traits
  · exact hframe.address (by rintro _ rfl; cases hlifecycle)
  · exact hframe.isOpen (by rintro _ rfl; cases hlifecycle)
  · exact hframe.diagnostics (by rintro rfl; cases hlifecycle) (by rintro _ rfl; cases hlifecycle)
  · exact hframe.changing (by rintro rfl; cases hlifecycle) (by rintro rfl; cases hlifecycle)
  · exact hsessions
  · exact h.baudRate hmay
  · exact fun hnot => hframe.settings (by rintro _ rfl; exact hnot (htouched _ (by simp [Deed.parts])))
  · exact fun line hnot => h.line line (by rintro _ rfl; exact hnot (htouched _ (by simp [Deed.parts])))
  · intro session hnot
    cases hq : w.channel.queues[session]? with
    | none =>
      rw [List.getElem?_eq_none_iff] at hq ⊢
      exact hsessions ▸ hq
    | some q =>
      cases h with
      | gaveUp => exact hq
      | replied hrun =>
        exact queue_of_run_elsewhere hrun hq fun halters => hnot (htouched _ (Deed.queue_mem_parts halters))
  · exact fun session hnot => h.markedIn fun hmark => hnot (htouched _ hmark)

end Action

namespace Program

variable {ε δ α β : Type} {touched : Part → Prop} {c : Channel}

/-- Whatever others do beside it, a program that begins with a channel ends with one as told, but for the parts
that the others touch. -/
def Makes (touched : Part → Prop) (ends : Outcome ε α → Channel → Prop) (p : Program ε α) (c : Channel) : Prop :=
  ∀ w : World, c.Kept touched w.channel →
    p.Attains (Channel.besides touched) (fun outcome w' => ∃ c', ends outcome c' ∧ c'.Kept touched w'.channel) w

section rules

variable {ends : Outcome ε α → Channel → Prop}

/-- What a program makes of a channel may be told more weakly. -/
theorem Makes.mono {ends' : Outcome ε α → Channel → Prop} {p : Program ε α} (h : p.Makes touched ends c)
    (himp : ∀ outcome c', ends outcome c' → ends' outcome c') : p.Makes touched ends' c :=
  fun w hkept => (h w hkept).mono fun _ _ ⟨c', hends, hkept'⟩ => ⟨c', himp _ c' hends, hkept'⟩

/-- A result leaves the channel as it is. -/
theorem makes_done {result : α} (h : ends (.ok result) c) : (Program.done result : Program ε α).Makes touched ends c :=
  fun _ hkept _ hwithin => ⟨c, h, hkept.trans hwithin⟩

/-- A failure leaves the channel as it is. -/
theorem makes_fail {failure : ε} (h : ends (.failed failure) c) :
    (Program.fail failure : Program ε α).Makes touched ends c :=
  fun _ hkept _ hwithin => ⟨c, h, hkept.trans hwithin⟩

/-- An abortion leaves the channel as it is. -/
theorem makes_abort {message : String} (h : ends (.aborted message) c) :
    (Program.abort message : Program ε α).Makes touched ends c :=
  fun _ hkept _ hwithin => ⟨c, h, hkept.trans hwithin⟩

/-- An action that is always answered changes the channel that is known, and what follows goes on from there. -/
theorem makes_act {action : Action} {next : action.Reply → Program ε α}
    (h : ∀ task w, c.Kept touched w.channel → ∃ answer w' call c', action.run task w = .reply answer w' call ∧
      c'.Kept touched w'.channel ∧ (next answer).Makes touched ends c') :
    (Program.act action next).Makes touched ends c := by
  intro w hkept
  refine attains_reply fun task w₁ hwithin => ?_
  obtain ⟨answer, w', call, c', hrun, hkept', hnext⟩ := h task w₁ (hkept.trans hwithin)
  exact ⟨answer, w', call, hrun, hnext w' hkept'⟩

/-- A pause leaves the channel as it is. -/
theorem makes_pause {deadline : Duration.Instant} {next : Unit → Program ε α} (h : (next ()).Makes touched ends c) :
    (Program.act (.pause deadline) next).Makes touched ends c :=
  fun w hkept => attains_pause (h w hkept)

/-- A program goes on with the channel that another made. -/
theorem Makes.bind {p : Program ε β} {rest : β → Program ε α} {mid : Outcome ε β → Channel → Prop}
    (h : p.Makes touched mid c) (hrest : ∀ result c', mid (.ok result) c' → (rest result).Makes touched ends c')
    (hfailed : ∀ failure c', mid (.failed failure) c' → ends (.failed failure) c')
    (haborted : ∀ message c', mid (.aborted message) c' → ends (.aborted message) c') :
    (p >>= rest).Makes touched ends c := by
  refine fun w hkept => (h w hkept).bind ?_ ?_ ?_
  · exact fun result w' ⟨c', hmid, hkept'⟩ => hrest result c' hmid w' hkept'
  · exact fun failure w' ⟨c', hmid, hkept'⟩ => ⟨c', hfailed failure c' hmid, hkept'⟩
  · exact fun message w' ⟨c', hmid, hkept'⟩ => ⟨c', haborted message c' hmid, hkept'⟩

/-- What a program makes of a channel, it makes of it with its failure told in other terms. -/
theorem Makes.mapFailure {p : Program δ α} {f : δ → ε}
    (h : p.Makes touched (fun outcome => ends (outcome.told f id)) c) : (p.mapFailure f).Makes touched ends c :=
  fun w hkept => (h w hkept).mapFailure

/-- A program makes what it makes with its result and its failure told in other terms. -/
theorem Makes.told {p : Program δ β} {failure : δ → ε} {answer : β → α}
    (h : p.Makes touched (fun outcome => ends (outcome.told failure answer)) c) :
    (p.mapFailure failure >>= fun result => pure (answer result)).Makes touched ends c :=
  fun w hkept => (h w hkept).told

/-- A program that keeps others out makes what it makes while nobody else is let in. -/
theorem makes_exclusively {p : Program ε α} (hfree : c.changing = false)
    (h : p.Makes touched (fun outcome c' => ends outcome { c' with changing := false }) { c with changing := true }) :
    (exclusively p).Makes touched ends c := by
  refine makes_act fun task w hkept => ⟨(), w.withChannel { w.channel with changing := true }, none,
    { c with changing := true }, ?_, hkept.update id id id fun _ => true, fun w₁ hkept₁ => ?_⟩
  · simp [Action.run, hkept.changing, hfree]
  · refine (h w₁ hkept₁).thenAlways fun outcome w₂ hmade task => ⟨(), _, none, rfl, fun w₃ hwithin => ?_⟩
    obtain ⟨c', hends, hkept₂⟩ := hmade
    exact ⟨{ c' with changing := false }, hends, (hkept₂.update id id id fun _ => false).trans hwithin⟩

end rules

end Program

end Loopback
