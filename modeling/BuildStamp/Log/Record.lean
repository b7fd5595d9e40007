import BuildStamp.Log.Level
import BuildStamp.Text.Numeral
import BuildStamp.Text.Parts

set_option autoImplicit false

/-!
Log records, and the place in the program they come from. A module of this program is shown as
the path of its file; a module of another program keeps its name, with slashes in it.
-/

namespace BuildStamp

/-- Where a record comes from: a module path and, if known, a line. -/
structure Origin where
  modulePath : String
  line : Option Nat
  deriving DecidableEq

namespace Origin

/-- The root of this program's module paths, with the separator behind it. -/
def root : List Char :=
  "buildversion::".toList

/-- The characters with a slash for every separator, found from the left. -/
def slashed : List Char → List Char
  | [] => []
  | ':' :: ':' :: rest => '/' :: slashed rest
  | c :: rest => c :: slashed rest

/-- The rest of a text behind a beginning, if it begins so. -/
def stripped? : List Char → List Char → Option (List Char)
  | [], text => some text
  | _ :: _, [] => none
  | a :: beginning, b :: text => if a = b then stripped? beginning text else none

/-- The file of a module of this program, or the path of another module. -/
def file (origin : Origin) : String :=
  match stripped? root origin.modulePath.toList with
  | some inner => String.ofList (slashed inner ++ ".rs".toList)
  | none => String.ofList (slashed origin.modulePath.toList)

/-- The file, and the line behind a colon. -/
def text (origin : Origin) : String :=
  match origin.line with
  | some line => origin.file ++ ":" ++ Numeral.decimal line
  | none => origin.file

/-- The name by which a record is addressed to the log itself. -/
def ownName : String :=
  "_Default"

/-- The writers that a record is addressed to by name: instead of a module path it has their names
between braces, with commas between them. -/
def addressees? (origin : Origin) : Option (List String) :=
  match origin.modulePath.toList with
  | [] => none
  | c :: rest =>
    if c = Char.ofNat 0x7B then some ((Parts.split ',' rest.dropLast).map String.ofList) else none

/-- The writers that a record is addressed to besides the log itself. -/
def strangers (origin : Origin) : List String :=
  (origin.addressees?.getD []).filter fun name => name ≠ ownName

/-- The log itself is to keep the record: no writer is named, or the log is. -/
def isForLog (origin : Origin) : Bool :=
  match origin.addressees? with
  | none => true
  | some names => names.contains ownName

/-- The module path that a filter looks at: none, if it has been given up for an address. -/
def filteredPath (origin : Origin) : String :=
  if origin.addressees?.isSome then "" else origin.modulePath

end Origin

/-- One message at one level from one place. -/
structure Record where
  level : Level
  origin : Origin
  message : String
  deriving DecidableEq

end BuildStamp
