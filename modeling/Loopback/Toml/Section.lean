import Loopback.Toml.Basic

/-!
# Tables in the making

While a document is read, a table may still grow: one that was only named on the way to another
can be given a header later, and one that came about through dotted keys can get further dotted
keys in the same section, but neither can be mixed with the other, and nothing is ever defined
twice. Each operation answers nothing where it would break these rules.
-/

namespace Loopback.Toml

mutual

/-- What a key of a table in the making leads to: a finished value, a table, or an array of
tables. -/
inductive Node where
  | leaf (value : Toml)
  | section (sub : Section)
  | list (subs : List Section)

/-- A table in the making. It is implicit if it was only named on the way to another, and dotted
if it came about through dotted keys. -/
inductive Section where
  | mk (isImplicit isDotted : Bool) (entries : List (String × Node))

end

namespace Section

/-- Whether the table was only named on the way to another. -/
def isImplicit : Section → Bool
  | .mk isImplicit _ _ => isImplicit

/-- Whether the table came about through dotted keys. -/
def isDotted : Section → Bool
  | .mk _ isDotted _ => isDotted

/-- The entries, in the order in which they came about. -/
def entries : Section → List (String × Node)
  | .mk _ _ entries => entries

/-- A table without entries that has been defined. -/
def empty : Section := .mk false false []

/-- The table with other entries. -/
def withEntries (s : Section) (entries : List (String × Node)) : Section :=
  .mk s.isImplicit s.isDotted entries

/-- What a key leads to. -/
def get? (s : Section) (key : String) : Option Node := s.entries.lookup key

/-- The table with a key leading elsewhere, in its old place if it had one. -/
def set (s : Section) (key : String) (node : Node) : Section :=
  if (s.get? key).isSome then
    s.withEntries (s.entries.map fun (other, old) => (other, if other = key then node else old))
  else s.withEntries (s.entries ++ [(key, node)])

/-- The table without a key. -/
def remove (s : Section) (key : String) : Section :=
  s.withEntries (s.entries.filter (·.1 ≠ key))

/-- Change the table at the end of a path, making tables on the way where there are none. With
`dotted`, the path is that of a dotted key, which must not lead through defined tables. -/
def modifyAt (dotted : Bool) (change : Section → Option Section) :
    List String → Section → Option Section
  | [], s => change s
  | key :: path, s =>
    match s.get? key with
    | none => (modifyAt dotted change path (.mk true dotted [])).map fun child =>
        s.set key (.section child)
    | some (.section child) =>
      if dotted && !child.isImplicit then none
      else (modifyAt dotted change path child).map fun child => s.set key (.section child)
    | some (.list subs) =>
      match subs.reverse with
      | [] => none
      | last :: before =>
        (modifyAt dotted change path last).map fun last =>
          s.set key (.list (last :: before).reverse)
    | some (.leaf _) => none

/-- Put a value under a new key of a table that a path has led to. A table that came about through
dotted keys takes no plain key, and no other takes a dotted one. -/
def addValue (path : List String) (key : String) (value : Toml) (sub : Section) :
    Option Section :=
  if sub.isDotted == path.isEmpty then none
  else if (sub.get? key).isSome then none
  else some (sub.set key (.leaf value))

/-- Put a value under a dotted key, given as the path to its last part and that part. -/
def insertValue (path : List String) (key : String) (value : Toml) (s : Section) :
    Option Section :=
  modifyAt true (addValue path key value) path s

mutual

/-- The value that a node has become. -/
def nodeValue : Node → Toml
  | .leaf value => value
  | .section sub => value sub
  | .list subs => .tables (values subs)

/-- The value that a table has become. -/
def value : Section → Toml
  | .mk _ _ entries => .table (entryValues entries)

/-- The values that entries have become. -/
def entryValues : List (String × Node) → List (String × Toml)
  | [] => []
  | (key, node) :: rest => (key, nodeValue node) :: entryValues rest

/-- The values that tables have become. -/
def values : List Section → List Toml
  | [] => []
  | sub :: rest => value sub :: values rest

end

end Section

end Loopback.Toml
