import Loopback.Toml.Value

/-!
# TOML documents

A document is a sequence of lines: blank ones, comments, pairs of a key and a value, and headers.
A header names the table, or the next table of an array, that the pairs after it belong to. That
table is put in its place only when the next header or the end of the document is reached.
-/

namespace Loopback.Toml

/-- A document being read: the tables that are finished, the one that pairs now belong to, and
where that one belongs. Before the first header pairs belong to the document itself. -/
structure Reading where
  root : Section
  current : Section
  place : Option (List String × String)
  inArray : Bool

namespace Reading

/-- The beginning of a document. -/
def start : Reading := ⟨.empty, .empty, none, false⟩

/-- Add a table to the array under a key, beginning that array if need be. -/
def pushTable (key : String) (sub : Section) (parent : Section) : Option Section :=
  match parent.get? key with
  | none => some (parent.set key (.list [sub]))
  | some (.list subs) => some (parent.set key (.list (subs ++ [sub])))
  | some _ => none

/-- Put a table under a key, where nothing may be but a table that was only named. -/
def placeTable (key : String) (sub : Section) (parent : Section) : Option Section :=
  match parent.get? key with
  | none => some (parent.set key (.section sub))
  | some (.section old) => if old.isImplicit then some (parent.set key (.section sub)) else none
  | some _ => none

/-- Put the current table in its place. -/
def finish? (r : Reading) : Option Section :=
  match r.place with
  | none => some r.current
  | some (path, key) =>
    if r.inArray then Section.modifyAt false (pushTable key r.current) path r.root
    else Section.modifyAt false (placeTable key r.current) path r.root

/-- Make room for an array of tables under a key. -/
def reserveArray (key : String) (parent : Section) : Option Section :=
  match parent.get? key with
  | none => some (parent.set key (.list []))
  | some (.list _) => some parent
  | some _ => none

/-- The table that a key leads to, if it was only named on the way to others. -/
def namedTable? (path : List String) (key : String) (root : Section) : Option Section :=
  match path with
  | [] =>
    match root.get? key with
    | some (.section sub) => some sub
    | _ => none
  | step :: path =>
    match root.get? step with
    | some (.section sub) => namedTable? path key sub
    | some (.list subs) =>
      match subs.getLast? with
      | some sub => namedTable? path key sub
      | none => none
    | _ => none

/-- Take a table that was only named away from its key; nothing else may be there. -/
def takeNamed (key : String) (parent : Section) : Option Section :=
  match parent.get? key with
  | none => some parent
  | some (.section sub) =>
    if sub.isImplicit && !sub.isDotted then some (parent.remove key) else none
  | some _ => none

/-- Go on with the table that a header names. -/
def openTable (r : Reading) (path : List String) (key : String) : Option Reading := do
  let root ← r.finish?
  let rest ← Section.modifyAt false (takeNamed key) path root
  let entries := ((namedTable? path key root).map Section.entries).getD []
  some ⟨rest, .mk false false entries, some (path, key), false⟩

/-- Go on with the next table of the array that a header names. -/
def openArrayTable (r : Reading) (path : List String) (key : String) : Option Reading := do
  let root ← r.finish?
  let root ← Section.modifyAt false (reserveArray key) path root
  some ⟨root, .empty, some (path, key), true⟩

/-- Add a pair to the current table. -/
def addPair (r : Reading) (path : List String) (key : String) (value : Toml) : Option Reading :=
  (r.current.insertValue path key value).map fun current => { r with current }

end Reading

/-- Read a header or a pair at the start of a line, through the end of that line. -/
def readEntry (r : Reading) (text : List Char) : Option (Reading × List Char) :=
  match text with
  | '[' :: '[' :: rest => do
    let (path, key, rest) ← readKey rest
    let rest ← expect? ']' rest
    let rest ← expect? ']' rest
    let rest ← restOfLine? rest
    let r ← r.openArrayTable path key
    some (r, rest)
  | '[' :: rest => do
    let (path, key, rest) ← readKey rest
    let rest ← expect? ']' rest
    let rest ← restOfLine? rest
    let r ← r.openTable path key
    some (r, rest)
  | _ => do
    let (path, key, rest) ← readKey text
    let rest ← expect? '=' rest
    let (value, rest) ← readValue (text.length + 1) 0 (skipBlanks rest)
    let rest ← restOfLine? rest
    let r ← r.addPair path key value
    some (r, rest)

/-- Read lines to the end of the document. Every line takes at least one character, so `fuel` is
enough if it exceeds their number. -/
def readLines : Nat → Reading → List Char → Option Section
  | 0, _, _ => none
  | fuel + 1, r, text =>
    match skipLines (text.length + 1) text with
    | [] => r.finish?
    | '#' :: rest =>
      match skipComment ('#' :: rest) with
      | [] => r.finish?
      | _ => none
    | text =>
      match readEntry r text with
      | some (r, rest) => readLines fuel r rest
      | none => none

/-- The text after a byte order mark, if it begins with one. -/
def dropMark : List Char → List Char
  | '\ufeff' :: rest => rest
  | text => text

/-- The entries of the document that a text writes, if it writes one. -/
def parse? (text : String) : Option (List (String × Toml)) :=
  let chars := dropMark text.toList
  (readLines (chars.length + 1) .start chars).map fun sub => Section.entryValues sub.entries

end Loopback.Toml
