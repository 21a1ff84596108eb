import Loopback.Number.Shown
import Loopback.Text.Numeral
import Loopback.Text.Shown

/-!
# Values of the wrong shape

What can be wrong with a value that was to be read as something more definite, whatever the
notation it was written in, and how that is said.
-/

namespace Loopback

/-- Why a value is not of the shape asked for. -/
inductive Misfit where
  | wrongType (found expected : String)
  | wrongValue (found expected : String)
  | wrongLength (length : Nat) (expected : String)
  | missingField (name : String)
  | unknownField (name : String) (known : List String)
  | unknownVariant (name : String) (known : List String)
  | durationOverflow
  | notStringOrTable
  | noElement
  | manyElements
  | notEmptyTable
  | notEmptyArray
  | notTable (found : String)
deriving DecidableEq, Repr

namespace Misfit

/-- A name as it is set off in a message. -/
def ticked (name : String) : String := "`" ++ name ++ "`"

/-- The names one of which was expected. -/
def alternatives : List String → String
  | [] => "there are no variants"
  | [one] => ticked one
  | [one, two] => ticked one ++ " or " ++ ticked two
  | many => "one of " ++ ", ".intercalate (many.map ticked)

/-- The wording of a misfit. -/
def message : Misfit → String
  | wrongType found expected => "invalid type: " ++ found ++ ", expected " ++ expected
  | wrongValue found expected => "invalid value: " ++ found ++ ", expected " ++ expected
  | wrongLength length expected =>
    "invalid length " ++ Text.decimal length ++ ", expected " ++ expected
  | missingField name => "missing field " ++ ticked name
  | unknownField name known =>
    "unknown field " ++ ticked name ++ ", expected " ++ alternatives known
  | unknownVariant name known =>
    "unknown variant " ++ ticked name ++ ", expected " ++ alternatives known
  | durationOverflow => "overflow deserializing Duration"
  | notStringOrTable => "wanted string or table"
  | noElement => "wanted exactly 1 element, found 0 elements"
  | manyElements => "wanted exactly 1 element, more than 1 element"
  | notEmptyTable => "expected empty table"
  | notEmptyArray => "expected empty array"
  | notTable found => "expected table, found " ++ found

/-- How a truth value is named in a message. -/
def foundBool (value : Bool) : String :=
  "boolean " ++ ticked (if value then "true" else "false")

/-- How a whole number is named in a message. -/
def foundInteger (value : Int) : String :=
  "integer " ++ ticked (Text.signedDecimal value)

/-- How a floating-point value is named in a message, given its text. -/
def foundReal (text : String) : String :=
  "floating point " ++ ticked text

/-- How a string is named in a message. -/
def foundString (value : String) : String :=
  "string " ++ Text.quoted value

end Misfit

end Loopback
