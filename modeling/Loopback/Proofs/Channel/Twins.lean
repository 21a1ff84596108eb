import Loopback.Channel.Lifecycle
import Loopback.Proofs.Machine.Coupling
import Mathlib.Data.List.Forall2

/-!
# Channels that differ in their diagnostics

Two channels are built alike, but for addresses that ask for different diagnostics. Two machines around
them are alike if they differ in nothing but the addresses, what is attached for diagnostics, and what comes
of these. Programs are alike if they take the same actions wherever they get answers that are alike. This
couples the machines: any move is open to both or to neither, and leaves them alike.
-/

namespace Loopback

variable {ε δ α β : Type}

/-- Two addresses that ask for different diagnostics, or have the same fault. -/
structure Twins where
  text : String
  text' : String
  level : Option Severity
  level' : Option Severity
  parse : (∃ fault, Address.parse text = .error fault ∧ Address.parse text' = .error fault) ∨
    ∃ address address', Address.parse text = .ok address ∧ Address.parse text' = .ok address' ∧
      address.logging = level ∧ address'.logging = level'

/-- Twins told the other way round. -/
def Twins.swap (t : Twins) : Twins where
  text := t.text'
  text' := t.text
  level := t.level'
  level' := t.level
  parse := by
    rcases t.parse with ⟨fault, htext, htext'⟩ | ⟨address, address', htext, htext', hlevel, hlevel'⟩
    · exact .inl ⟨fault, htext', htext⟩
    · exact .inr ⟨address', address, htext', htext, hlevel', hlevel⟩

/-- Actions that have nothing to do with the address or with what is attached for diagnostics, but for
dropping the latter. -/
def Action.Blind : Action → Prop
  | .getAddress | .setAddress _ | .getDiagnostics | .attachDiagnostics _ => False
  | .report event => event.target ≠ Event.diagnosticTarget
  | _ => True

/-- A program that takes blind actions only. -/
def Program.Blind (p : Program ε α) : Prop := p.Obeys (.always Action.Blind) []

/-- Diagnostics that a task reports under a level, as journal entries. -/
def JournalEntry.diagnostics (level : Option Severity) (task : Nat) (severity : Severity)
    (message : String) : List JournalEntry :=
  ((Channel.diagnosticsOf level severity message).map fun event => ⟨task, event⟩).reverse

section twins

variable {t : Twins} {agrees : α → α → Prop} {p p' : Program ε α}

/-- What is attached to two channels at a time: nothing to either, or what its address asks for. -/
inductive Twins.Attached (t : Twins) : Option Severity → Option Severity → Prop where
  | nothing : Attached t none none
  | asked : Attached t t.level t.level'

/-- Journals that differ in the diagnostics that are let through, and in the addresses that openings
tell of. -/
inductive Twins.Journals (t : Twins) : List JournalEntry → List JournalEntry → Prop where
  | empty : Journals t [] []
  | noted {journal journal' : List JournalEntry} (task : Nat) (severity : Severity) (message : String) :
      Journals t journal journal' → Journals t
        (JournalEntry.diagnostics t.level task severity message ++ journal)
        (JournalEntry.diagnostics t.level' task severity message ++ journal')
  | reported {journal journal' : List JournalEntry} (task : Nat) {event : Event}
      (htarget : event.target ≠ Event.diagnosticTarget) :
      Journals t journal journal' → Journals t (⟨task, event⟩ :: journal) (⟨task, event⟩ :: journal')
  | opened {journal journal' : List JournalEntry} (task capacity : Nat) :
      Journals t journal journal' → Journals t
        (⟨task, Channel.openedEvent t.text capacity⟩ :: journal)
        (⟨task, Channel.openedEvent t.text' capacity⟩ :: journal')

/-- Worlds that differ in the address, in what is attached for diagnostics, and in the journal. -/
inductive Twins.Worlds (t : Twins) : World → World → Prop where
  | mk {channel : Channel} {level level' : Option Severity} {now : Duration.Instant}
      {journal journal' : List JournalEntry} (hattached : t.Attached level level')
      (hjournals : t.Journals journal journal') : Worlds t
        ⟨{ channel with address := some t.text, diagnostics := level }, now, journal⟩
        ⟨{ channel with address := some t.text', diagnostics := level' }, now, journal'⟩

/-- Verdicts on an action that differ in nothing but the world. -/
inductive Twins.Verdicts (t : Twins) {ρ : Type} : Verdict ρ → Verdict ρ → Prop where
  | reply {world world' : World} (answer : ρ) (call : Option Call) (hworlds : t.Worlds world world') :
      Verdicts t (.reply answer world call) (.reply answer world' call)
  | wait (otherwise : ρ) : Verdicts t (.wait otherwise) (.wait otherwise)
  | held : Verdicts t .held .held

/-- Programs that take the same actions and come to results that agree, as long as each gets the answers
of its own channel. -/
inductive Program.Alike (t : Twins) (agrees : α → α → Prop) : Program ε α → Program ε α → Prop where
  | done {result result' : α} (h : agrees result result') : Alike t agrees (.done result) (.done result')
  | fail (failure : ε) : Alike t agrees (.fail failure) (.fail failure)
  | abort (message : String) : Alike t agrees (.abort message) (.abort message)
  | same {action : Action} {next next' : action.Reply → Program ε α} (hblind : action.Blind)
      (hnext : ∀ answer, Alike t agrees (next answer) (next' answer)) :
      Alike t agrees (.act action next) (.act action next')
  | address {next next' : Option String → Program ε α}
      (hnext : Alike t agrees (next (some t.text)) (next' (some t.text'))) :
      Alike t agrees (.act .getAddress next) (.act .getAddress next')
  | diagnostics {next next' : Option Severity → Program ε α}
      (hnext : ∀ level level', t.Attached level level' → Alike t agrees (next level) (next' level')) :
      Alike t agrees (.act .getDiagnostics next) (.act .getDiagnostics next')
  | attach {level level' : Option Severity} {next next' : Unit → Program ε α} (hlevel : level = t.level)
      (hlevel' : level' = t.level') (hnext : Alike t agrees (next ()) (next' ())) :
      Alike t agrees (.act (.attachDiagnostics level) next) (.act (.attachDiagnostics level') next')
  | opened {next next' : Unit → Program ε α} (capacity : Nat)
      (hnext : Alike t agrees (next ()) (next' ())) :
      Alike t agrees (.act (.report (Channel.openedEvent t.text capacity)) next)
        (.act (.report (Channel.openedEvent t.text' capacity)) next')

namespace Program

/-- A program of blind actions is like itself. -/
theorem Blind.alike {p : Program ε α} (h : p.Blind) : p.Alike t Eq p := by
  induction p with
  | act action next ih =>
    obtain ⟨hblind, hnext⟩ := obeys_act.1 h
    exact .same hblind fun answer => ih answer (hnext answer)
  | done result => exact .done rfl
  | fail failure => exact .fail failure
  | abort message => exact .abort message

/-- Programs go on alike after programs that are alike. -/
theorem Alike.bind {first : β → β → Prop} {q q' : Program ε β} {rest rest' : β → Program ε α}
    (h : q.Alike t first q')
    (hrest : ∀ result result', first result result' → (rest result).Alike t agrees (rest' result')) :
    (q >>= rest).Alike t agrees (q' >>= rest') := by
  induction h with
  | done h => exact hrest _ _ h
  | fail failure => exact .fail failure
  | abort message => exact .abort message
  | same hblind _ ih => exact .same hblind ih
  | address _ ih => exact .address ih
  | diagnostics _ ih => exact .diagnostics ih
  | attach hlevel hlevel' _ ih => exact .attach hlevel hlevel' ih
  | opened capacity _ ih => exact .opened capacity ih

/-- What goes on after a program of blind actions gets the same result. -/
theorem Blind.bind_alike {q : Program ε β} {rest rest' : β → Program ε α}
    (h : q.Blind) (hrest : ∀ result, (rest result).Alike t agrees (rest' result)) :
    (q >>= rest).Alike t agrees (q >>= rest') :=
  h.alike.bind fun result _ hresult => hresult ▸ hrest result

/-- Programs go on alike with their failures told in other terms. -/
theorem Alike.mapFailure {p p' : Program δ α} (h : p.Alike t agrees p') (f : δ → ε) :
    (p.mapFailure f).Alike t agrees (p'.mapFailure f) := by
  induction h with
  | done h => exact .done h
  | fail failure => exact .fail (f failure)
  | abort message => exact .abort message
  | same hblind _ ih => exact .same hblind ih
  | address _ ih => exact .address ih
  | diagnostics _ ih => exact .diagnostics ih
  | attach hlevel hlevel' _ ih => exact .attach hlevel hlevel' ih
  | opened capacity _ ih => exact .opened capacity ih

/-- A blind action at the end of two programs leaves them alike. -/
theorem Alike.thenAlways (h : p.Alike t agrees p') {last : Action} (hlast : last.Blind) :
    (p.thenAlways last).Alike t agrees (p'.thenAlways last) := by
  induction h with
  | done h => exact .same hlast fun _ => .done h
  | fail failure => exact .same hlast fun _ => .fail failure
  | abort message => exact .same hlast fun _ => .abort message
  | same hblind _ ih => exact .same hblind ih
  | address _ ih => exact .address ih
  | diagnostics _ ih => exact .diagnostics ih
  | attach hlevel hlevel' _ ih => exact .attach hlevel hlevel' ih
  | opened capacity _ ih => exact .opened capacity ih

end Program

/-- A blind action gets the same verdict in worlds that are alike. -/
theorem Twins.Worlds.run {w w' : World} (h : t.Worlds w w') (task : Nat) {action : Action}
    (hblind : action.Blind) : t.Verdicts (action.run task w) (action.run task w') := by
  obtain @⟨channel, level, level', now, journal, journal', hattached, hjournals⟩ := h
  have hsame : ∀ changed : Channel, t.Worlds
      ⟨{ changed with address := some t.text, diagnostics := level }, now, journal⟩
      ⟨{ changed with address := some t.text', diagnostics := level' }, now, journal'⟩ :=
    fun _ => .mk hattached hjournals
  -- The worlds differ in what a blind action does not look at, so each action does the same to both.
  cases action with
  | getAddress | setAddress | getDiagnostics | attachDiagnostics => exact hblind.elim
  | getTraits | getOpen | getLine | getSettings | getSession | getClock => exact .reply _ none (hsame channel)
  | setOpen isOpen => exact .reply () none (hsame { channel with isOpen })
  | setLine line level =>
    cases line
    · exact .reply () none (hsame { channel with requestToSend := level })
    · exact .reply () none (hsame { channel with dataTerminalReady := level })
    · exact .reply () none (hsame { channel with breakCondition := level })
  | changeSettings change =>
    exact .reply () none (hsame { channel with settings := change channel.settings })
  | dropDiagnostics => exact .reply () none (.mk .nothing hjournals)
  | newSession =>
    exact .reply () none (hsame { channel with
      queues := channel.queues ++ [Queue.create channel.traits.capacity] })
  | getLength session =>
    simp only [Action.run, Action.atQueue]
    split <;> exact .reply _ _ (hsame channel)
  | clear session =>
    simp only [Action.run, Action.atQueue]
    split
    · exact .reply _ _ (hsame channel)
    · exact .reply _ _ (hsame (channel.setQueue session _))
  | push session item deadline =>
    simp only [Action.run, Action.atQueue]
    split
    · exact .reply _ _ (hsame channel)
    · split
      · exact .reply _ _ (hsame (channel.setQueue session _))
      · exact .wait _
  | append session item =>
    simp only [Action.run, Action.atQueue]
    split
    · exact .reply _ _ (hsame channel)
    · exact .reply _ _ (hsame (channel.setQueue session _))
  | pop session deadline =>
    simp only [Action.run, Action.atQueue]
    split
    · exact .reply _ _ (hsame channel)
    · split
      · exact .reply _ _ (hsame (channel.setQueue session _))
      · exact .wait _
  | pause deadline =>
    simp only [Action.run]
    split
    · exact .reply _ _ (hsame channel)
    · exact .wait _
  | enterLifecycle =>
    simp only [Action.run]
    split
    · exact .held
    · exact .reply () none (hsame { channel with changing := true })
  | leaveLifecycle => exact .reply () none (hsame { channel with changing := false })
  | note severity message =>
    refine .reply () none ?_
    cases hattached with
    | nothing => exact .mk .nothing hjournals
    | asked => exact .mk .asked (hjournals.noted task severity message)
  | report event => exact .reply () none (.mk hattached (hjournals.reported task hblind))

namespace Twins.Worlds

variable {w w' : World}

/-- Each channel keeps its own address. -/
theorem address (h : t.Worlds w w') :
    w.channel.address = some t.text ∧ w'.channel.address = some t.text' := by
  cases h
  exact ⟨rfl, rfl⟩

/-- Twins have attached what their addresses ask for. -/
theorem attached (h : t.Worlds w w') : t.Attached w.channel.diagnostics w'.channel.diagnostics := by
  cases h with
  | mk hattached => exact hattached

/-- But for the address and for what is attached for diagnostics, the channels are the same. -/
theorem channel_eq (h : t.Worlds w w') : w'.channel = { w.channel with
    address := some t.text', diagnostics := w'.channel.diagnostics } := by
  cases h
  rfl

/-- It is the same time in both. -/
theorem now (h : t.Worlds w w') : w'.now = w.now := by
  cases h
  rfl

/-- Time may pass in both. -/
theorem later (h : t.Worlds w w') (nanos : Nat) :
    t.Worlds { w with now := w.now + nanos } { w' with now := w'.now + nanos } := by
  cases h with
  | mk hattached hjournals => exact .mk hattached hjournals

/-- Each channel may attach what its address asks for. -/
theorem attach (h : t.Worlds w w') (task : Nat) :
    t.Worlds
      ((w.record task (Channel.diagnosticsOf t.level .debug "enabled logging")).withChannel
        { w.channel with diagnostics := t.level })
      ((w'.record task (Channel.diagnosticsOf t.level' .debug "enabled logging")).withChannel
        { w'.channel with diagnostics := t.level' }) := by
  cases h with
  | mk _ hjournals => exact .mk .asked (hjournals.noted task .debug "enabled logging")

/-- Each channel may report that it was opened at its address. -/
theorem opened (h : t.Worlds w w') (task capacity : Nat) :
    t.Worlds (w.record task [Channel.openedEvent t.text capacity])
      (w'.record task [Channel.openedEvent t.text' capacity]) := by
  cases h with
  | mk hattached hjournals => exact .mk hattached (hjournals.opened task capacity)

end Twins.Worlds

/-- Whether a level lets a journal entry through. -/
def JournalEntry.passes (level : Option Severity) (entry : JournalEntry) : Bool :=
  level.any (·.admits entry.event.severity)

/-- Whether a journal entry is one of a channel's diagnostics. -/
def JournalEntry.isDiagnostic (entry : JournalEntry) : Bool :=
  entry.event.target == Event.diagnosticTarget

/-- The diagnostics of a channel that were reported, oldest first. -/
def World.log (w : World) : List JournalEntry :=
  (w.journal.filter JournalEntry.isDiagnostic).reverse

/-- What is reported under a level is what the level lets through. -/
theorem JournalEntry.diagnostics_eq (level : Option Severity) (task : Nat) (severity : Severity)
    (message : String) :
    diagnostics level task severity message = [⟨task, .diagnostic severity message⟩].filter (passes level) := by
  cases level with
  | none => rfl
  | some threshold =>
    by_cases hadmits : threshold.admits severity = true <;>
      simp [diagnostics, Channel.diagnosticsOf, passes, Event.diagnostic, hadmits]

/-- All that is reported under a level are diagnostics. -/
theorem JournalEntry.isDiagnostic_of_mem {level : Option Severity} {task : Nat} {severity : Severity}
    {message : String} {entry : JournalEntry} (h : entry ∈ diagnostics level task severity message) :
    entry.isDiagnostic = true := by
  rw [diagnostics_eq] at h
  obtain rfl := List.mem_singleton.1 (List.mem_filter.1 h).1
  exact beq_self_eq_true Event.diagnosticTarget

/-- There is one series of diagnostics of which each journal holds what its level lets through. -/
theorem Twins.Journals.exists_all {journal journal' : List JournalEntry} (h : t.Journals journal journal') :
    ∃ all : List JournalEntry,
      journal.filter JournalEntry.isDiagnostic = all.filter (JournalEntry.passes t.level) ∧
        journal'.filter JournalEntry.isDiagnostic = all.filter (JournalEntry.passes t.level') := by
  induction h with
  | empty => exact ⟨[], rfl, rfl⟩
  | noted task severity message _ ih =>
    obtain ⟨all, hall, hall'⟩ := ih
    refine ⟨[⟨task, .diagnostic severity message⟩] ++ all, ?_, ?_⟩
    · rw [List.filter_append, List.filter_append, ← JournalEntry.diagnostics_eq, hall,
        List.filter_eq_self.2 fun _ => JournalEntry.isDiagnostic_of_mem]
    · rw [List.filter_append, List.filter_append, ← JournalEntry.diagnostics_eq, hall',
        List.filter_eq_self.2 fun _ => JournalEntry.isDiagnostic_of_mem]
  | reported task htarget _ ih =>
    simpa [JournalEntry.isDiagnostic, htarget] using ih
  | opened task capacity _ ih =>
    have htarget : Event.channelTarget ≠ Event.diagnosticTarget := by decide
    simpa [JournalEntry.isDiagnostic, Channel.openedEvent, htarget] using ih

/-- Reports that are the same, but for the addresses that openings tell of. -/
inductive Twins.Reports (t : Twins) : JournalEntry → JournalEntry → Prop where
  | same (entry : JournalEntry) : Reports t entry entry
  | opened (task capacity : Nat) : Reports t ⟨task, Channel.openedEvent t.text capacity⟩
      ⟨task, Channel.openedEvent t.text' capacity⟩

/-- The reports of a channel other than diagnostics, oldest first. -/
def World.reports (w : World) : List JournalEntry :=
  (w.journal.filter (!·.isDiagnostic)).reverse

/-- Apart from diagnostics, journals hold the same reports, but for the addresses that openings tell of. -/
theorem Twins.Journals.reports {journal journal' : List JournalEntry} (h : t.Journals journal journal') :
    List.Forall₂ t.Reports (journal.filter (!·.isDiagnostic)) (journal'.filter (!·.isDiagnostic)) := by
  induction h with
  | empty => exact .nil
  | noted task severity message _ ih =>
    have hnone : ∀ level, (JournalEntry.diagnostics level task severity message).filter
        (!·.isDiagnostic) = [] := fun level =>
      List.filter_eq_nil_iff.2 fun _ hmem => by simp [JournalEntry.isDiagnostic_of_mem hmem]
    rw [List.filter_append, List.filter_append, hnone, hnone]
    exact ih
  | reported task htarget _ ih =>
    simpa [JournalEntry.isDiagnostic, htarget] using ⟨.same _, ih⟩
  | opened task capacity _ ih =>
    have htarget : Event.channelTarget ≠ Event.diagnosticTarget := by decide
    simpa [JournalEntry.isDiagnostic, Channel.openedEvent, htarget] using ⟨.opened task capacity, ih⟩

/-- Reports other than diagnostics are the same, but for the addresses that openings tell of. -/
theorem Twins.Worlds.reports {w w' : World} (h : t.Worlds w w') :
    List.Forall₂ t.Reports w.reports w'.reports := by
  cases h with
  | mk _ hjournals => exact List.rel_reverse hjournals.reports

/-- A channel whose address asks for no diagnostics reports none. -/
theorem Twins.Worlds.log_eq_nil {w w' : World} (h : t.Worlds w w') (hlevel : t.level = none) :
    w.log = [] := by
  cases h with
  | mk _ hjournals =>
    obtain ⟨all, hall, -⟩ := hjournals.exists_all
    have hnone : all.filter (JournalEntry.passes none) = [] :=
      List.filter_eq_nil_iff.2 fun _ _ => Bool.false_ne_true
    rw [World.log, hall, hlevel, hnone, List.reverse_nil]

/-- Beside a channel whose address asks for all diagnostics, a channel reports those that its own level lets
through. -/
theorem Twins.Worlds.log_eq_filter {w w' : World} (h : t.Worlds w w') (hlevel : t.level' = some .debug) :
    w.log = w'.log.filter (JournalEntry.passes t.level) := by
  cases h with
  | mk _ hjournals =>
    obtain ⟨all, hown, hother⟩ := hjournals.exists_all
    have hall : all.filter (JournalEntry.passes (some .debug)) = all :=
      List.filter_eq_self.2 fun _ _ => by simp [JournalEntry.passes, Severity.admits, Severity.rank]
    rw [World.log, World.log, hown, hother, hlevel, hall, List.filter_reverse]

/-- Outcomes that agree where they are results, and are the same otherwise. -/
inductive Outcome.Alike (agrees : α → α → Prop) : Outcome ε α → Outcome ε α → Prop where
  | ok {result result' : α} (h : agrees result result') : Alike agrees (.ok result) (.ok result')
  | failed (failure : ε) : Alike agrees (.failed failure) (.failed failure)
  | aborted (message : String) : Alike agrees (.aborted message) (.aborted message)

namespace Twins

/-- Worlds that are alike, and programs that are alike wherever they are. What it means for results to agree
depends on the task. -/
def pairing (t : Twins) (agrees : Nat → α → α → Prop) : Pairing ε α where
  worlds := t.Worlds
  programs _ task p p' := p.Alike t (agrees task) p'
  permits _ _ _ _ := True

/-- Programs that are alike stand at like points in worlds that are alike. -/
theorem Worlds.points {w w' : World} (h : t.Worlds w w') {agrees : Nat → α → α → Prop} {task : Nat}
    (hprogram : p.Alike t (agrees task) p') : (t.pairing agrees).Points w w' task p p' := by
  cases hprogram with
  | done | fail | abort => exact .ended rfl rfl
  | @same action next next' hblind hnext =>
    refine .before rfl rfl ?_
    have hverdict := h.run task hblind
    generalize action.run task w = verdict, action.run task w' = verdict' at hverdict
    cases hverdict with
    | reply answer call hworlds => exact .reply call fun _ => ⟨hworlds, hnext answer⟩
    | wait otherwise => exact .wait fun _ => hnext otherwise
    | held => exact .held
  | @address next next' hnext =>
    obtain ⟨haddress, haddress'⟩ := h.address
    rw [← haddress, ← haddress'] at hnext
    exact .before rfl rfl (.reply none fun _ => ⟨h, hnext⟩)
  | diagnostics hnext => exact .before rfl rfl (.reply none fun _ => ⟨h, hnext _ _ h.attached⟩)
  | attach hlevel hlevel' hnext =>
    subst hlevel hlevel'
    exact .before rfl rfl (.reply none fun _ => ⟨h.attach task, hnext⟩)
  | opened capacity hnext => exact .before rfl rfl (.reply none fun _ => ⟨h.opened task capacity, hnext⟩)

/-- Channels that differ in their diagnostics stay alike. -/
def coupling (t : Twins) (agrees : Nat → α → α → Prop) : Coupling ε α where
  toPairing := t.pairing agrees
  now_eq := Worlds.now
  later nanos h := Worlds.later h nanos
  points hworlds hprograms := Worlds.points hworlds hprograms
  ticked _ hprograms := hprograms
  beside _ hprograms := hprograms

/-- Tasks of machines that are alike have ended alike, or have not ended. -/
theorem outcome {agrees : Nat → α → α → Prop} {m m' : Machine ε α} (h : (t.coupling agrees).Couples m m')
    (task : Nat) : Option.Rel (Outcome.Alike (agrees task)) (m.outcomeOf? task) (m'.outcomeOf? task) := by
  unfold Machine.outcomeOf?
  obtain ⟨hnone, hnone'⟩ | ⟨state, state', htask, htask', hcoupled⟩ := h.cases task
  · rw [hnone, hnone']
    exact .none
  · rw [htask, htask']
    cases hcoupled with
    | running hprogram =>
      cases hprogram with
      | done h => exact .some (.ok h)
      | fail failure => exact .some (.failed failure)
      | abort message => exact .some (.aborted message)
      | _ => exact .none
    | _ => exact .none

end Twins

end twins

end Loopback
