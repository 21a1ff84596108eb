import Loopback.Failure.Io
import Loopback.Host.Path

/-!
# A tree of files

Directories, files and links by their places below the root, and what the system answers to reading,
writing and making them by a path. A path is followed name by name through directories, and through
links to other paths; a path whose form says that a directory is meant is not one of a file. A file
goes by a number, under which it may stand at several places, and has one content at all of them.
-/

namespace Loopback

/-- What can stand at a place in the tree: a file of a number, a directory, or a link to a path. -/
inductive FileNode where
  | file (number : Nat)
  | directory
  | link (target : Path)
deriving DecidableEq, Repr

/-- A place in the tree: the names from the root down. -/
abbrev FilePlace := List (List UInt8)

/-- A tree of files, and what the files hold. The root is a directory that is always there. -/
structure FileTree where
  nodes : List (FilePlace × FileNode)
  contents : List (Nat × List UInt8)
deriving DecidableEq, Repr

/-- What the storage under the files turns down: to write or make anything at some places, and to
take more of a file than some octets, each with a code of the system. -/
structure Storage where
  closed : List (FilePlace × Int)
  room : Option (Nat × Int)
deriving DecidableEq, Repr

namespace Storage

/-- Storage that turns nothing down. -/
def ample : Storage := ⟨[], none⟩

/-- With which code writing or making anything at a place is turned down, if it is. -/
def refusal? (storage : Storage) (place : FilePlace) : Option Int := storage.closed.lookup place

/-- After how many octets writing so many to a file fails, and with which code, if it does. -/
def fault? (storage : Storage) (count : Nat) : Option (Nat × Int) :=
  storage.room.filter fun (room, _) => decide (room < count)

end Storage

namespace FileTree

/-- A tree with nothing but its root. -/
def empty : FileTree := ⟨[], []⟩

/-- What stands at a place. -/
def node? (tree : FileTree) (place : FilePlace) : Option FileNode :=
  if place = [] then some .directory else tree.nodes.lookup place

/-- What the file of a number holds. -/
def content? (tree : FileTree) (number : Nat) : Option (List UInt8) := tree.contents.lookup number

/-- The tree with something at a place, instead of what may be there. -/
def set (tree : FileTree) (place : FilePlace) (node : FileNode) : FileTree :=
  { tree with nodes := (place, node) :: tree.nodes.filter (·.1 ≠ place) }

/-- The tree with a content for the file of a number, instead of what it may hold. -/
def fill (tree : FileTree) (number : Nat) (content : List UInt8) : FileTree :=
  { tree with contents := (number, content) :: tree.contents.filter (·.1 ≠ number) }

/-- The tree without what stands at a place or below it. -/
def remove (tree : FileTree) (place : FilePlace) : FileTree :=
  { tree with nodes := tree.nodes.filter fun entry => !place.isPrefixOf entry.1 }

/-- A number above those of all files. -/
def unused (tree : FileTree) : Nat :=
  (tree.nodes.map fun
    | (_, .file number) => number + 1
    | _ => 0).foldr max 0

/-- The longest name. -/
def nameLimit : Nat := 255

/-- The length that a path has to stay below. -/
def pathLimit : Nat := 4096

/-- The most links on the way to a place. -/
def linkLimit : Nat := 40

/-- Where names lead to: to a place, or to a link in a directory, with the names that are left. -/
inductive Way where
  | place (place : FilePlace)
  | link (directory : FilePlace) (target : Path) (rest : List (List UInt8))
deriving DecidableEq, Repr

/-- Walk along names from a place, up to the first link; all names but the last have to lead to
directories. A link that is the last one may be what is meant, or only lead on. -/
def walk (tree : FileTree) (leadsOn : Bool) : FilePlace → List (List UInt8) → Except Int Way
  | place, [] => .ok (.place place)
  | place, name :: rest =>
    match tree.node? place with
    | none => .error SystemCode.notFound
    | some .directory =>
      if nameLimit < name.length then .error SystemCode.nameTooLong
      else if name = Path.above then walk tree leadsOn place.dropLast rest
      else
        match tree.node? (place ++ [name]) with
        | some (.link target) =>
          if rest = [] ∧ leadsOn = false then .ok (.place (place ++ [name]))
          else .ok (.link place target rest)
        | _ => walk tree leadsOn (place ++ [name]) rest
    | some _ => .error SystemCode.notDirectory

/-- Follow names from a place, through as many links as are allowed. The answer is the place, and
whether the form of the last link says that it is one of a directory. -/
def follow (tree : FileTree) (leadsOn : Bool) :
    Nat → FilePlace → List (List UInt8) → Except Int (FilePlace × Bool)
  | links, place, names =>
    match tree.walk leadsOn place names with
    | .error code => .error code
    | .ok (.place place) => .ok (place, false)
    | .ok (.link directory target rest) =>
      match links with
      | 0 => .error SystemCode.tooManyLinks
      | links + 1 =>
        (follow tree leadsOn links (if target.isAbsolute then [] else directory)
          (target.names ++ rest)).map fun (place, isDirectory) =>
            (place, isDirectory || (rest.isEmpty && target.meansDirectory))

/-- The place that a path leads to from a directory, and whether the form of the path, or of a link
at its end, says that it is one of a directory. -/
def resolve (tree : FileTree) (leadsOn : Bool) (directory : FilePlace) (path : Path) :
    Except IoFailure (FilePlace × Bool) :=
  if path.contains 0 then .error .zeroInPath
  else if path = [] then .error (.system SystemCode.notFound)
  else if pathLimit ≤ path.length then .error (.system SystemCode.nameTooLong)
  else
    match tree.follow leadsOn linkLimit (if path.isAbsolute then [] else directory) path.names with
    | .ok (place, isDirectory) => .ok (place, isDirectory || path.meansDirectory)
    | .error code => .error (.system code)

/-- The number of the file that a path leads to. -/
def find (tree : FileTree) (directory : FilePlace) (path : Path) : Except IoFailure Nat :=
  match tree.resolve true directory path with
  | .error failure => .error failure
  | .ok (place, isDirectory) =>
    match tree.node? place with
    | none => .error (.system SystemCode.notFound)
    | some .directory => .error (.system SystemCode.isDirectory)
    | some (.link _) => .error (.system SystemCode.tooManyLinks)
    | some (.file number) =>
      if isDirectory then .error (.system SystemCode.notDirectory) else .ok number

/-- Read the file that a path leads to. -/
def read (tree : FileTree) (directory : FilePlace) (path : Path) :
    Except IoFailure (List UInt8) :=
  (tree.find directory path).map fun number => (tree.content? number).getD []

/-- Read the file that a path leads to as text. -/
def readText (tree : FileTree) (directory : FilePlace) (path : Path) : Except IoFailure String :=
  match tree.read directory path with
  | .error failure => .error failure
  | .ok content =>
    match Text.Utf8.decode? content with
    | some text => .ok (String.ofList text)
    | none => .error .notText

/-- Whether a path leads to a file. -/
def isFile (tree : FileTree) (directory : FilePlace) (path : Path) : Bool :=
  (tree.find directory path).toBool

/-- Whether a path leads to a directory. -/
def isDirectory (tree : FileTree) (directory : FilePlace) (path : Path) : Bool :=
  match tree.resolve true directory path with
  | .ok (place, _) => tree.node? place == some .directory
  | .error _ => false

/-- Open the file that a path leads to, to write it: it is emptied, or made if there is none. The
answer is its number. -/
def openEmptied (tree : FileTree) (storage : Storage) (directory : FilePlace) (path : Path) :
    Except IoFailure (Nat × FileTree) :=
  match tree.resolve true directory path with
  | .error failure => .error failure
  | .ok (place, isDirectory) =>
    match tree.node? place with
    | some .directory => .error (.system SystemCode.isDirectory)
    | some (.link _) => .error (.system SystemCode.tooManyLinks)
    | some (.file number) =>
      if isDirectory then .error (.system SystemCode.notDirectory)
      else
        match storage.refusal? place with
        | some code => .error (.system code)
        | none => .ok (number, tree.fill number [])
    | none =>
      if isDirectory then .error (.system SystemCode.isDirectory)
      else if tree.node? place.dropLast ≠ some .directory then
        .error (.system SystemCode.notFound)
      else
        match storage.refusal? place with
        | some code => .error (.system code)
        | none => .ok (tree.unused, (tree.set place (.file tree.unused)).fill tree.unused [])

/-- Write the file that a path leads to. It is emptied, and then it takes what the storage takes. -/
def write (tree : FileTree) (storage : Storage) (directory : FilePlace) (path : Path)
    (content : List UInt8) : Except IoFailure Unit × FileTree :=
  match tree.openEmptied storage directory path with
  | .error failure => (.error failure, tree)
  | .ok (number, tree) =>
    match storage.fault? content.length with
    | none => (.ok (), tree.fill number content)
    | some (count, code) => (.error (.system code), tree.fill number (content.take count))

/-- Make the directory that a path leads to. -/
def makeDirectory (tree : FileTree) (storage : Storage) (directory : FilePlace) (path : Path) :
    Except IoFailure FileTree :=
  match tree.resolve false directory path with
  | .error failure => .error failure
  | .ok (place, _) =>
    match tree.node? place with
    | some _ => .error (.system SystemCode.fileExists)
    | none =>
      match storage.refusal? place with
      | some code => .error (.system code)
      | none => .ok (tree.set place .directory)

/-- Find the lowest of some paths, each above the one before, that is there or can be made, and
make it. The answer holds the paths below it, highest first. -/
def makeLowest (tree : FileTree) (storage : Storage) (directory : FilePlace) :
    List Path → Except IoFailure (List Path) × FileTree
  | [] => (.ok [], tree)
  | path :: rest =>
    match tree.makeDirectory storage directory path with
    | .ok tree => (.ok [], tree)
    | .error failure =>
      if failure.kind = .notFound then
        let (missing, tree) := makeLowest tree storage directory rest
        (missing.map (· ++ [path]), tree)
      else if failure.kind = .alreadyExists ∧ tree.isDirectory directory path then (.ok [], tree)
      else (.error failure, tree)

/-- Make directories in turn; any may be there already. -/
def makeEach (tree : FileTree) (storage : Storage) (directory : FilePlace) :
    List Path → Except IoFailure Unit × FileTree
  | [] => (.ok (), tree)
  | path :: rest =>
    match tree.makeDirectory storage directory path with
    | .ok tree => makeEach tree storage directory rest
    | .error failure =>
      if failure.kind = .alreadyExists ∧ tree.isDirectory directory path then
        makeEach tree storage directory rest
      else (.error failure, tree)

/-- Make the directory that a path leads to, and all above it that are missing. What was made
before a failure stays. -/
def makeDirectories (tree : FileTree) (storage : Storage) (directory : FilePlace) (path : Path) :
    Except IoFailure Unit × FileTree :=
  match tree.makeLowest storage directory path.withAncestors with
  | (.error failure, tree) => (.error failure, tree)
  | (.ok missing, tree) => tree.makeEach storage directory missing

end FileTree

end Loopback
