import Loopback.Number.Binary64

/-!
# TOML values

The values that a TOML document holds. Dates and times are told apart from other values but not
kept, since nothing here is one. A table written with headers of its own and one written in line
are the same; an array of tables is told apart from an array that is written in line. The entries
of a table stand in the order in which they came about.
-/

namespace Loopback

/-- A TOML value. -/
inductive Toml where
  | string (value : String)
  | integer (value : Int)
  | float (value : Number.Binary64)
  | boolean (value : Bool)
  | datetime
  | array (items : List Toml)
  | tables (items : List Toml)
  | table (entries : List (String × Toml))
deriving Repr, Inhabited

namespace Toml

/-- What kind of value it is, as messages call it. -/
def kindName : Toml → String
  | .string _ => "string"
  | .integer _ => "integer"
  | .float _ => "float"
  | .boolean _ => "boolean"
  | .datetime => "datetime"
  | .array _ => "array"
  | .tables _ => "array of tables"
  | .table _ => "table"

end Toml

end Loopback
