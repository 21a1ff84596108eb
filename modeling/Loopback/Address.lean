import Loopback.Severity
import Loopback.Text.Cut
import Loopback.Text.Percent

/-!
# Loopback addresses

An address is the scheme `loop`, a colon, and anything; what follows the first `?` up to the
first `#` is a query of options. The only option is `logging`, whose value names a severity.
Names and values may be percent-escaped. An option given twice counts the first time, but every
one has to be well formed.
-/

namespace Loopback

/-- An option of an address. -/
inductive AddressOption where
  | logging (level : Severity)
deriving DecidableEq, Repr

/-- The name an option goes by. -/
def AddressOption.name : AddressOption → String
  | .logging _ => "logging"

/-- A decoded address: its options, each at most once. -/
structure Address where
  options : List AddressOption
deriving DecidableEq, Repr

namespace Address

/-- What is wrong with an address. -/
inductive Fault where
  | wrongScheme (scheme : String)
  | unknownOption (name : String)
  | unknownLevel (value : String)
deriving DecidableEq, Repr

/-- The wording of a fault. -/
def Fault.message : Fault → String
  | .wrongScheme scheme => "not starting with loop:// (" ++ Text.quoted scheme ++ ")"
  | .unknownOption name => "unknown option: " ++ Text.quoted name
  | .unknownLevel value => Severity.unknownName value

/-- The scheme every address starts with, in any case. -/
def scheme : String := "loop"

/-- The names of all options. -/
def knownOptions : List String := ["logging"]

/-- The scheme of an address, and what follows its colon. Without a colon there is no scheme. -/
def split (text : List Char) : List Char × List Char :=
  match Text.cut ':' text with
  | (scheme, some rest) => (scheme, rest)
  | (whole, none) => ([], whole)

/-- The query of what follows the scheme. -/
def query (rest : List Char) : List Char :=
  ((Text.cut '?' (Text.cut '#' rest).1).2).getD []

/-- The name and value that a piece of the query spells. -/
def nameAndValue (piece : List Char) : String × String :=
  let (name, value) := Text.cut '=' piece
  (String.ofList (Text.Percent.decode name), String.ofList (Text.Percent.decode (value.getD [])))

/-- The option that a piece of the query sets. -/
def readOption (piece : List Char) : Except Fault AddressOption :=
  let (name, value) := nameAndValue piece
  if name ∈ knownOptions then
    match Severity.ofName? value with
    | some level => .ok (.logging level)
    | none => .error (.unknownLevel value)
  else .error (.unknownOption name)

/-- The options that the pieces set, or the fault of the first piece that has one. -/
def readOptions : List (List Char) → Except Fault (List AddressOption)
  | [] => .ok []
  | piece :: rest =>
    match readOption piece with
    | .error fault => .error fault
    | .ok option =>
      match readOptions rest with
      | .error fault => .error fault
      | .ok options => .ok (option :: options)

/-- The options less those whose name has come before. -/
def firstOfEach (options : List AddressOption) : List AddressOption :=
  options.foldl
    (fun kept option =>
      if kept.any (·.name == option.name) then kept else kept ++ [option])
    []

/-- The non-empty pieces of a query. -/
def queryPieces (query : List Char) : List (List Char) :=
  (Text.pieces '&' query).filter (· ≠ [])

/-- Decode an address. The scheme is looked at first, then the options in turn. -/
def parse (text : String) : Except Fault Address :=
  let (scheme, rest) := split text.toList
  if Text.sameLetters scheme Address.scheme.toList then
    match readOptions (queryPieces (query rest)) with
    | .error fault => .error fault
    | .ok options => .ok ⟨firstOfEach options⟩
  else .error (.wrongScheme (String.ofList scheme))

/-- The severity of the diagnostics that the address asks for. -/
def logging (address : Address) : Option Severity :=
  address.options.findSome? fun
    | .logging level => some level

/-- An address without options. -/
def plain : Address := ⟨[]⟩

end Address

end Loopback
