import Loopback.Json.Basic
import Loopback.Misfit
import Loopback.Named

/-!
# Reading definite values from JSON

Whole numbers within bounds, values that go by a name, and the fields of a record. A named value
may be written as its name, or as an object whose only member has that name and is null.
-/

namespace Loopback.Json

/-- What a value is called in a message. -/
def found : Json → String
  | .null => "null"
  | .bool value => Misfit.foundBool value
  | .integer value => Misfit.foundInteger value
  | .real value => Misfit.foundReal value.brief
  | .string value => Misfit.foundString value
  | .list _ => "sequence"
  | .object _ => "map"

/-- A whole number from zero to a bound; `width` names its type in messages. -/
def toNatural (bound : Nat) (width : String) (value : Json) : Except Misfit Nat :=
  match value with
  | .integer n =>
    if 0 ≤ n ∧ n ≤ bound then .ok n.toNat else .error (.wrongValue value.found width)
  | other => .error (.wrongType other.found width)

/-- A value that goes by a name. -/
def toNamed (α : Type) [Named α] (value : Json) : Except Misfit α :=
  let look (name : String) : Except Misfit α :=
    match Named.find? name with
    | some x => .ok x
    | none => .error (.unknownVariant name (Named.names α))
  match value with
  | .string name => look name
  | .object members =>
    match sortedMembers members with
    | [(name, content)] => do
      let x ← look name
      match content with
      | .null => .ok x
      | other => .error (.wrongType other.found "unit")
    | _ => .error (.wrongValue "map" "map with a single key")
  | other => .error (.wrongType other.found "string or map")

/-- A field that has to be there. -/
def required {α : Type} (name : String) : Option α → Except Misfit α
  | some value => .ok value
  | none => .error (.missingField name)

end Loopback.Json
