import Loopback.Text.Shown

/-!
# Values that go by a name

A type with finitely many values, each known outside by a small-letter name.
-/

namespace Loopback

/-- A type whose values are listed and named. -/
class Named (α : Type) where
  all : List α
  name : α → String

namespace Named

variable {α : Type} [Named α]

/-- The names of all values, in the order of the list. -/
def names (α : Type) [Named α] : List String :=
  (all : List α).map name

/-- The value of exactly that name. -/
def find? (text : String) : Option α :=
  all.find? fun value => name value == text

/-- The name with a capital letter. -/
def label (value : α) : String :=
  Text.capitalized (name value)

/-- A value is found only under its own name. -/
theorem name_of_find? {text : String} {value : α} (h : find? text = some value) :
    name value = text := by
  simpa using List.find?_some h

end Named

end Loopback
