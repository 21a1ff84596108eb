import Loopback.Text.Utf8

/-!
# Paths

A path is a sequence of octets: names with slashes between them. A slash at its start makes it
absolute. Empty names, and `.` but for a first one, say nothing; only at the end of a path do they
say that a directory is meant.
-/

namespace Loopback

/-- A path of the file system. -/
abbrev Path := List UInt8

namespace Path

/-- The octet between names. -/
def slash : UInt8 := 47

/-- The name of the directory itself. -/
def here : List UInt8 := [46]

/-- The name of the directory above. -/
def above : List UInt8 := [46, 46]

/-- The path that a text writes. -/
def ofText (text : String) : Path := Text.Utf8.encode text.toList

/-- A path as text, with a replacement for what is no text. -/
def shown (path : Path) : String := String.ofList (Text.Utf8.decodeLossy path)

/-- The octets between slashes. -/
def split : Path → List (List UInt8)
  | [] => [[]]
  | octet :: rest =>
    if octet = slash then [] :: split rest
    else
      match split rest with
      | [] => [[octet]]
      | name :: others => (octet :: name) :: others

/-- Whether a path starts at the root. -/
def isAbsolute (path : Path) : Bool := path.head? == some slash

/-- The names to follow. -/
def names (path : Path) : List (List UInt8) :=
  path.split.filter fun name => name ≠ [] && name ≠ here

/-- Whether the form of a path says that a directory is meant. -/
def meansDirectory (path : Path) : Bool :=
  match path.split.getLast? with
  | some name => name == [] || name == here
  | none => true

/-- A path within a directory. -/
def join (directory : Path) (name : Path) : Path :=
  if isAbsolute name then name
  else if directory = [] then name
  else if directory.getLast? = some slash then directory ++ name
  else directory ++ slash :: name

/-- The parts by which a path is known, a first `.` among them. -/
def parts (path : Path) : List (List UInt8) :=
  match path.split with
  | first :: rest =>
    (if first = [] then [] else [first]) ++ rest.filter fun name => name ≠ [] && name ≠ here
  | [] => []

/-- Names with slashes between them. -/
def ofParts (absolute : Bool) (parts : List (List UInt8)) : Path :=
  (if absolute then [slash] else []) ++ [slash].intercalate parts

/-- The path less its last part, if it has one. -/
def parent? (path : Path) : Option Path :=
  match path.parts with
  | [] => none
  | parts => some (ofParts path.isAbsolute parts.dropLast)

/-- A path and those above it, from the path itself on, as long as there is a part to name. -/
def withAncestors (path : Path) : List Path :=
  let parts := path.parts
  (List.range parts.length).map fun left => ofParts path.isAbsolute (parts.take (parts.length - left))

end Path

end Loopback
