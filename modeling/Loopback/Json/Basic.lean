import Loopback.Number.Shown
import Loopback.Text.Numeral

/-!
# JSON values

Whole numbers of 64 bits are kept apart from all other numbers, which are floating-point values.
The members of an object stand in the order in which they were written.
-/

namespace Loopback

/-- A JSON value. -/
inductive Json where
  | null
  | bool (value : Bool)
  | integer (value : Int)
  | real (value : Number.Binary64)
  | string (value : String)
  | list (items : List Json)
  | object (members : List (String × Json))
deriving Repr, Inhabited

namespace Json

/-- A natural number. -/
def natural (n : Nat) : Json := .integer n

/-- A value that may be absent. -/
def optional {α : Type} (f : α → Json) : Option α → Json
  | none => .null
  | some value => f value

/-- The value of a member of an object; of two with one name, the later. -/
def get? (name : String) : Json → Option Json
  | .object members => (members.reverse.find? (·.1 == name)).map (·.2)
  | _ => none

/-- Insert a member by its name, in place of one that has it already. -/
def insertMember {α : Type} (name : String) (value : α) :
    List (String × α) → List (String × α)
  | [] => [(name, value)]
  | (other, old) :: rest =>
    if name < other then (name, value) :: (other, old) :: rest
    else if name = other then (name, value) :: rest
    else (other, old) :: insertMember name value rest

/-- The members in rising order of their names; of two with one name, the later. -/
def sortedMembers {α : Type} (members : List (String × α)) : List (String × α) :=
  members.foldl (fun sorted (name, value) => insertMember name value sorted) []

end Json

end Loopback
