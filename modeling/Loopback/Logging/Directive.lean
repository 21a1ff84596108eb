import Loopback.Severity
import Loopback.Text.Cut
import Loopback.Text.Numeral

/-!
# Filter directives

A directive says how much is reported of what. It is written as a level, as a part's name, or as
`part[span{field=value}]=level`, where everything but one of them may be left out. A name alone
stands for everything of that part. A directive is read character by character; blanks around it
are passed over, but they still count as places of the text that names and levels are cut from.
-/

namespace Loopback.Logging

/-- How much is reported, from nothing to everything. -/
inductive Verbosity where
  | off
  | error
  | warning
  | info
  | debug
  | trace
deriving DecidableEq, Repr

namespace Verbosity

/-- The place of a verbosity in the rising order. -/
def rank : Verbosity → Nat
  | .off => 0
  | .error => 1
  | .warning => 2
  | .info => 3
  | .debug => 4
  | .trace => 5

/-- All verbosities with the words for them, in rising order. -/
def words : List (String × Verbosity) :=
  [("off", .off), ("error", .error), ("warn", .warning), ("info", .info), ("debug", .debug),
   ("trace", .trace)]

/-- The verbosity that lets a severity through and nothing less serious. -/
def ofSeverity : Severity → Verbosity
  | .debug => .debug
  | .info => .info
  | .warning => .warning
  | .error => .error

/-- Whether a severity is let through. -/
def admits (v : Verbosity) (severity : Severity) : Bool :=
  (ofSeverity severity).rank ≤ v.rank

/-- A verbosity from its word in any case, or from its place in the order. -/
def read? (text : List Char) : Option Verbosity :=
  match Text.readNatural Text.max64 text with
  | .ok n => (words[n]?).map (·.2)
  | .error _ => (words.find? fun (word, _) => Text.sameLetters word.toList text).map (·.2)

/-- A verbosity from its word, or everything if there is no word. -/
def readOrAll? (text : List Char) : Option Verbosity :=
  if text = [] then some .trace else read? text

end Verbosity

/-- A field that a directive asks for, and the value it asks for if any. -/
structure FieldWish where
  name : String
  value : Option String
deriving DecidableEq, Repr

/-- A directive: what it speaks of, and how much of that is reported. -/
structure Directive where
  target : Option String
  span : Option String
  fields : List FieldWish
  level : Verbosity
deriving DecidableEq, Repr

namespace Directive

/-- Where a reader of directives stands, with the place where the present word began. -/
inductive Place where
  | start
  | levelOrTarget (start : Nat)
  | span (start : Nat)
  | field (start : Nat)
  | fields
  | target
  | level (start : Nat)
deriving DecidableEq, Repr

/-- The characters from one place up to another. -/
def slice (text : List Char) (start stop : Nat) : List Char :=
  (text.drop start).take (stop - start)

/-- Whether a directive may begin with a character: a letter or digit, or one of `-`, `:` and
`_`. Beyond ASCII every character is taken for a letter. -/
def mayBegin (c : Char) : Bool :=
  c.isAlphanum || 128 ≤ c.toNat || c == '-' || c == ':' || c == '_'

/-- A field and the value after its first equals sign. -/
def readField? (text : List Char) : Option FieldWish :=
  if text = [] then none
  else
    match Text.pieces '=' text with
    | name :: value :: _ => some ⟨String.ofList name, some (String.ofList value)⟩
    | [name] => some ⟨String.ofList name, none⟩
    | [] => none

/-- Read one character, standing at a place. -/
def readChar (text : List Char) (d : Directive) (place : Place) (index : Nat) (c : Char) :
    Option (Directive × Place) :=
  match place with
  | .start =>
    if c = '[' then some (d, .span (index + 1))
    else if mayBegin c then some (d, .levelOrTarget index)
    else none
  | .levelOrTarget start =>
    if c = '=' then
      some ({ d with target := some (String.ofList (slice text start index)) }, .level (index + 1))
    else if c = '[' then
      some ({ d with target := some (String.ofList (slice text start index)) }, .span (index + 1))
    else some (d, .levelOrTarget start)
  | .target => if c = '=' then some (d, .level (index + 1)) else none
  | .span start =>
    if c = ']' then
      some ({ d with span := some (String.ofList (slice text start index)) }, .target)
    else if c = '\x7b' then
      let name := slice text start index
      some ({ d with span := if name = [] then none else some (String.ofList name) },
        .field (index + 1))
    else some (d, .span start)
  | .field start =>
    if c = '\x7d' then
      (readField? (slice text start index)).map fun wish =>
        ({ d with fields := d.fields ++ [wish] }, .fields)
    else some (d, .field start)
  | .fields => if c = ']' then some (d, .target) else none
  | .level start => some (d, .level start)

/-- Read characters from a place on. -/
def readChars (text : List Char) (d : Directive) (place : Place) (index : Nat) :
    List Char → Option (Directive × Place)
  | [] => some (d, place)
  | c :: rest =>
    match readChar text d place index c with
    | some (d, place) => readChars text d place (index + 1) rest
    | none => none

/-- What is meant by a text that ends at a place. -/
def finish? (text : List Char) (d : Directive) : Place → Option Directive
  | .levelOrTarget start =>
    let word := text.drop start
    match Verbosity.readOrAll? word with
    | some level => some { d with level, target := none }
    | none => some { d with level := .trace, target := some (String.ofList word) }
  | .level start => (Verbosity.readOrAll? (text.drop start)).map fun level => { d with level }
  | .target => some d
  | .start => none
  | .span _ => none
  | .field _ => none
  | .fields => none

/-- The directive that a text writes. -/
def parse? (text : List Char) : Option Directive :=
  match readChars text ⟨none, none, [], .trace⟩ .start 0 (Text.trim text) with
  | some (d, place) => finish? text d place
  | none => none

/-- Whether a directive speaks of spans or of fields. -/
def isDynamic (d : Directive) : Bool := d.span.isSome || !d.fields.isEmpty

/-- Whether a directive can be judged without looking into spans or at values. -/
def isStatic (d : Directive) : Bool := d.span.isNone && d.fields.all (·.value.isNone)

end Directive

end Loopback.Logging
