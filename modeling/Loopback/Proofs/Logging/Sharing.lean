import Loopback.Logging.Console

/-!
# Sinks that share a console

Each sink has a severity of its own, and emits nothing below it. But the console is that of the first sink which was
installed in the process, and it lets nothing through that is below the severity of that one. Later sinks get no
console of their own and leave the filter of the first as it is. So a sink is heard at all that it emits unless it
was installed at a lower severity than the first.
-/

namespace Loopback

/-- A threshold lets through whatever a higher one does. -/
theorem Severity.admits_of_admits {low high severity : Severity} (hle : low.admits high)
    (h : high.admits severity) : low.admits severity := by
  simp only [Severity.admits, decide_eq_true_eq] at *
  exact Nat.le_trans hle h

namespace Logging

/-- What passes a level by its severity passes the filter of that level. -/
theorem Verbosity.admits_ofSeverity (level severity : Severity) :
    (Verbosity.ofSeverity level).admits severity = level.admits severity := by
  cases level <;> cases severity <;> rfl

namespace Filter

/-- The filter of a part lets through what comes from there, or from a part of it, at its verbosity. -/
theorem admits_ofPart (target : String) (level : Verbosity) (event : Event) :
    (ofPart target level).admits event =
      (target.toList.isPrefixOf event.target.toList && level.admits event.severity) := by
  cases hspeaks : target.toList.isPrefixOf event.target.toList with
  | true => simp [admits, ofPart, everything, speaksOf, hspeaks]
  | false => simp [admits, ofPart, everything, speaksOf, hspeaks]

/-- The filter that a sink asks for when it is installed. -/
def ofSink (level : Severity) : Filter := ofPart Event.diagnosticTarget (.ofSeverity level)

/-- It is the one that the part and the word for the severity write. -/
theorem ofSink_eq_lenient (level : Severity) : ∃ word, (word, Verbosity.ofSeverity level) ∈ Verbosity.words ∧
    ofSink level = lenient (Event.diagnosticTarget ++ "=" ++ word) := by
  cases level with
  | debug => exact ⟨"debug", by decide, by decide +kernel⟩
  | info => exact ⟨"info", by decide, by decide +kernel⟩
  | warning => exact ⟨"warn", by decide, by decide +kernel⟩
  | error => exact ⟨"error", by decide, by decide +kernel⟩

/-- The filter of a sink lets pass what its level does. -/
theorem admits_ofSink (level severity : Severity) (message : String) :
    (ofSink level).admits (.diagnostic severity message) = level.admits severity := by
  rw [ofSink, admits_ofPart, Verbosity.admits_ofSeverity]
  simp [Event.diagnostic]

end Filter

namespace Output

variable (p : Output) (level sink severity : Severity) (message : String)

/-- Only a process without a console gets one. -/
theorem ensureConsole_eq :
    p.ensureConsole level = (p.console.isNone, { p with console := some (p.console.getD (.ofSink level)) }) := by
  obtain ⟨console, printed⟩ := p
  cases console with
  | none => rfl
  | some filter => rfl

/-- To emit an event leaves the console as it is. -/
@[simp] theorem emit_console : (p.emit sink severity message).console = p.console := by
  unfold emit report
  split
  · split
    · split
      · rfl
      · rfl
    · rfl
  · rfl

/-- A message is printed if its sink and the console let it through. -/
theorem emit_printed :
    (p.emit sink severity message).printed =
      if sink.admits severity && p.console.any fun filter => filter.admits (.diagnostic severity message)
      then .diagnostic severity message :: p.printed else p.printed := by
  cases hsink : sink.admits severity with
  | false => simp [emit, hsink]
  | true =>
    cases hconsole : p.console with
    | none => simp [emit, report, hsink, hconsole]
    | some filter =>
      cases hfilter : filter.admits (.diagnostic severity message) with
      | false => simp [emit, report, hsink, hconsole, hfilter]
      | true => simp [emit, report, hsink, hconsole, hfilter]

/-- A sink that is installed leaves a console as it is, and sets one up where there is none. -/
theorem ensureConsole_console {p : Output} {sinks : List Severity}
    (hconsole : p.console = sinks.getLast?.map Filter.ofSink) (level : Severity) :
    (p.ensureConsole level).2.console = (level :: sinks).getLast?.map Filter.ofSink := by
  rw [ensureConsole_eq, hconsole, List.getLast?_cons]
  cases sinks.getLast? with
  | none => rfl
  | some first => rfl

end Output

/-- A message given to a sink: the severity of the sink, and that of the message. -/
structure Emission where
  sink : Severity
  severity : Severity
  message : String

namespace Emission

/-- Whether the sink emits the message. -/
def passes (e : Emission) : Bool := e.sink.admits e.severity

/-- Whether the message is printed where sinks were installed, the first of which stands last: its own sink and the
first one both let it through. -/
def isPrinted (sinks : List Severity) (e : Emission) : Bool :=
  e.passes && sinks.getLast?.any fun first => first.admits e.severity

/-- What the message is printed as. -/
def event (e : Emission) : Event := .diagnostic e.severity e.message

end Emission

/-- Where the console is that of the first sink, a message is printed if its own sink and that one let it through. -/
theorem Output.emit_printed_of_console {p : Output} {sinks : List Severity}
    (hconsole : p.console = sinks.getLast?.map Filter.ofSink) (e : Emission) :
    (p.emit e.sink e.severity e.message).printed =
      if e.isPrinted sinks then e.event :: p.printed else p.printed := by
  have hheard : (p.console.any fun filter => filter.admits e.event) =
      sinks.getLast?.any fun first => first.admits e.severity := by
    simp only [hconsole, Option.any_map, Emission.event, Filter.admits_ofSink]
  rw [emit_printed, Emission.isPrinted, ← hheard]
  rfl

/-- The sinks that a process has installed, the messages given to them, and its output, each with the latest first. -/
inductive Emitted : List Severity → List Emission → Output → Prop where
  | start : Emitted [] [] .fresh
  | install {sinks : List Severity} {emissions : List Emission} {p : Output} (level : Severity)
      (h : Emitted sinks emissions p) :
      Emitted (level :: sinks) (⟨level, .debug, "enabled logging"⟩ :: emissions) (p.install level)
  | emit {sinks : List Severity} {emissions : List Emission} {p : Output} {sink : Severity} (severity : Severity)
      (message : String) (h : Emitted sinks emissions p) (hsink : sink ∈ sinks) :
      Emitted sinks (⟨sink, severity, message⟩ :: emissions) (p.emit sink severity message)

namespace Emitted

variable {sinks : List Severity} {emissions : List Emission} {p : Output}

/-- What was emitted was emitted by one of the sinks. -/
theorem sink_mem (h : Emitted sinks emissions p) {e : Emission} (he : e ∈ emissions) : e.sink ∈ sinks := by
  induction h with
  | start => simp at he
  | install level _ ih =>
    obtain rfl | he := List.mem_cons.1 he
    · exact List.mem_cons_self
    · exact List.mem_cons_of_mem _ (ih he)
  | emit severity message _ hsink ih =>
    obtain rfl | he := List.mem_cons.1 he
    · exact hsink
    · exact ih he

/-- The console is the one that the first sink asked for. -/
theorem console_eq (h : Emitted sinks emissions p) : p.console = sinks.getLast?.map Filter.ofSink := by
  induction h with
  | start => rfl
  | install level _ ih => rw [Output.install, Output.emit_console, Output.ensureConsole_console ih]
  | emit severity message _ _ ih => rw [Output.emit_console, ih]

/-- Which of the earlier messages are printed does not depend on a sink that is installed after them: the first one
stays the first, and if there was none there were no messages. -/
theorem filter_isPrinted_cons (h : Emitted sinks emissions p) (level : Severity) :
    emissions.filter (Emission.isPrinted (level :: sinks)) = emissions.filter (Emission.isPrinted sinks) := by
  refine List.filter_congr fun e he => ?_
  have hsome := List.getLast?_eq_some_getLast (List.ne_nil_of_mem (h.sink_mem he))
  rw [Emission.isPrinted, Emission.isPrinted, List.getLast?_cons, hsome, Option.getD_some]

/-- What was printed are the events that the rule says are, in their order. -/
theorem printed_eq (h : Emitted sinks emissions p) :
    p.printed = (emissions.filter (Emission.isPrinted sinks)).map Emission.event := by
  induction h with
  | start => rfl
  | @install sinks emissions p level h ih =>
    have hprinted := Output.emit_printed_of_console (Output.ensureConsole_console h.console_eq level)
      ⟨level, .debug, "enabled logging"⟩
    rw [Output.ensureConsole_eq] at hprinted
    rw [Output.install, Output.ensureConsole_eq, hprinted, ih, List.filter_cons, h.filter_isPrinted_cons]
    split
    · rfl
    · rfl
  | @emit sinks emissions p sink severity message h _ ih =>
    rw [Output.emit_printed_of_console h.console_eq ⟨sink, severity, message⟩, ih, List.filter_cons]
    split
    · rfl
    · rfl

/-- A message to a sink that the first one does not fall short of is printed if it is emitted at all. -/
theorem isPrinted_eq_passes {e : Emission} (hsink : e.sink ∈ sinks)
    (hfirst : ∀ first ∈ sinks.getLast?, first.admits e.sink) : e.isPrinted sinks = e.passes := by
  have hlast := List.getLast?_eq_some_getLast (List.ne_nil_of_mem hsink)
  rw [Emission.isPrinted, hlast, Option.any_some, Bool.and_eq_left_iff_imp]
  exact Severity.admits_of_admits (hfirst _ hlast)

/-- Whatever sinks were installed in a process and whatever messages they were given, what was printed is, in turn,
what passed both its own sink and the first one. That is all that passed its own sink, if no sink was installed at a
lower severity than the first. -/
theorem printed_past_first (h : Emitted sinks emissions p) :
    p.printed = (emissions.filter (Emission.isPrinted sinks)).map Emission.event ∧
    ((∀ first ∈ sinks.getLast?, ∀ level ∈ sinks, first.admits level) →
      p.printed = (emissions.filter Emission.passes).map Emission.event) := by
  refine ⟨h.printed_eq, fun hfirst => ?_⟩
  rw [h.printed_eq]
  congr 1
  refine List.filter_congr fun e he => ?_
  have hsink := h.sink_mem he
  exact isPrinted_eq_passes hsink fun first hlast => hfirst first hlast _ hsink

/-- A sink for warnings and then one for errors, and each is given a warning and an error. -/
theorem printed_past_first_rising : ∃ emissions p, Emitted [.error, .warning] emissions p ∧ emissions.length = 6 ∧
    p.printed = [.diagnostic .error "lost", .diagnostic .error "lost", .diagnostic .warning "slow"] := by
  have h : Emitted [.error, .warning] [⟨.error, .error, "lost"⟩, ⟨.error, .warning, "slow"⟩,
      ⟨.warning, .error, "lost"⟩, ⟨.warning, .warning, "slow"⟩, _, _] _ :=
    .emit _ _ (.emit _ _ (.emit _ _ (.emit _ _ (.install .error (.install .warning .start))
      (by decide)) (by decide)) (by decide)) (by decide)
  exact ⟨_, _, h, rfl, h.printed_past_first.2 (by decide)⟩

/-- A sink for everything that comes after one for errors alone is heard as little as that one, though it emits its
messages. -/
theorem not_always_printed : ¬ ∀ sinks emissions p, Emitted sinks emissions p →
    p.printed = (emissions.filter Emission.passes).map Emission.event := by
  intro hall
  have h : Emitted [.debug, .error] [⟨.debug, .debug, "debug via debug"⟩, _, _] _ :=
    .emit _ _ (.install .debug (.install .error .start)) (by decide)
  have hlength := congrArg List.length (hall _ _ _ h)
  exact absurd hlength (by decide)

end Emitted

end Logging

end Loopback
