import Loopback.Event
import Loopback.Logging.Directive

/-!
# Filters of events

A filter is a list of directives between commas. Of those that speak of an event the most
specific decides: the one with the longest part name, and then the one that asks for more
fields. An event that none speaks of is not reported. Directives about spans never speak of an
event, for nothing here is reported within one.
-/

namespace Loopback.Logging

/-- A filter: its directives that can speak of events, most specific first. -/
structure Filter where
  rules : List Directive
deriving DecidableEq, Repr

namespace Filter

/-- How specific a directive is; larger in the order of pairs means more. -/
def weight (d : Directive) : Nat × Nat :=
  ((d.target.map fun target => target.utf8ByteSize + 1).getD 0, d.fields.length)

/-- The words that tell two equally specific directives apart. -/
def key (d : Directive) : Option String × List String :=
  (d.target, d.fields.map (·.name))

/-- Whether one directive comes before another: it is more specific, or has the greater words. -/
def precedes (d e : Directive) : Bool :=
  let (dt, df) := weight d
  let (et, ef) := weight e
  if dt ≠ et then et < dt
  else if df ≠ ef then ef < df
  else if d.target ≠ e.target then e.target.getD "" < d.target.getD ""
  else e.fields.map (·.name) < d.fields.map (·.name)

/-- Put a directive in its place, instead of one with the same words. -/
def insert (d : Directive) : List Directive → List Directive
  | [] => [d]
  | e :: rest =>
    if key d = key e then d :: rest
    else if precedes d e then d :: e :: rest
    else e :: insert d rest

/-- Everything at some verbosity. -/
def everything (level : Verbosity) : Directive := ⟨none, none, [], level⟩

/-- A filter of directives, with one for when there are none. -/
def ofDirectives (fallback : Directive) (directives : List Directive) : Filter :=
  let (dynamics, statics) := directives.partition Directive.isDynamic
  let rules := (statics ++ dynamics).filter Directive.isStatic
  if rules.isEmpty && dynamics.isEmpty then ⟨[fallback]⟩
  else ⟨rules.foldl (fun sorted d => insert d sorted) []⟩

/-- The texts of the directives of a filter. -/
def parts (text : String) : List (List Char) :=
  (Text.pieces ',' text.toList).filter (· ≠ [])

/-- The filter that a text writes, less the directives that cannot be read. Without any, only
errors are reported. -/
def lenient (text : String) : Filter :=
  ofDirectives (everything .error) ((parts text).filterMap Directive.parse?)

/-- The filter that a text writes, if all its directives can be read. Without any, nothing is
reported. -/
def strict? (text : String) : Option Filter :=
  ((parts text).mapM Directive.parse?).map (ofDirectives (everything .off))

/-- The filter of one part at some verbosity. -/
def ofPart (target : String) (level : Verbosity) : Filter :=
  ⟨[{ everything level with target := some target }]⟩

/-- Whether a directive speaks of an event. -/
def speaksOf (d : Directive) (event : Event) : Bool :=
  (match d.target with
    | none => true
    | some target => target.toList.isPrefixOf event.target.toList) &&
    d.fields.all fun wish => wish.name == "message" || event.fields.any (·.1 == wish.name)

/-- Whether an event is reported. -/
def admits (filter : Filter) (event : Event) : Bool :=
  match filter.rules.find? fun d => speaksOf d event with
  | some d => d.level.admits event.severity
  | none => false

end Filter

end Loopback.Logging
