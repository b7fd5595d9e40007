import BuildStamp.Association
import BuildStamp.FileSystem.Errno
import BuildStamp.FileSystem.Path
import BuildStamp.Text.Utf8

set_option autoImplicit false

/-!
File systems as values. Every entry has a place, the row of names that leads to it from the root,
and is a directory, a file with its permission bits, or a symbolic link. A path is resolved by
walking its components, following the links met on the way, as far as the user's rights go.
-/

namespace BuildStamp

/-- The names that lead from the root to an entry. -/
abbrev Place := List String

/-- An entry. Links are kept as the text they were made with. -/
inductive Node
  | directory
  | file (contents : List UInt8) (permissions : Nat)
  | link (target : Path)
  deriving DecidableEq

/-- What the user may do with the entries there are: everything, or what the permission bits of
files grant their owner, with no lookups in the directories that are closed. -/
class inductive Rights
  | all
  | ofOwner (closed : List Place)

deriving instance DecidableEq for Rights

/-- Where nothing else is said, the user may do everything. -/
instance : Rights := .all

namespace Rights

/-- Names may be looked up in the directory at a place. -/
def searches : Rights → Place → Bool
  | .all, _ => true
  | .ofOwner closed, place => !closed.contains place

/-- A file with these permission bits may be read. -/
def reads : Rights → Nat → Bool
  | .all, _ => true
  | .ofOwner _, permissions => permissions / 0o400 % 2 == 1

/-- A file with these permission bits may be written to. -/
def writes : Rights → Nat → Bool
  | .all, _ => true
  | .ofOwner _, permissions => permissions / 0o200 % 2 == 1

end Rights

/-- The entries below the root, each place at most once, the place where relative paths begin, and
the rights of the user. -/
structure FileSystem where
  entries : List (Place × Node)
  workingPlace : Place
  [rights : Rights]

deriving instance DecidableEq for FileSystem

namespace FileSystem

/-- The entry at a place. The root is always there. -/
def node? (files : FileSystem) (place : Place) : Option Node :=
  if place = [] then some .directory else files.entries.lookup place

/-- The file system with an entry put at a place. -/
def put (files : FileSystem) (place : Place) (node : Node) : FileSystem :=
  { files with entries := Association.insert files.entries place node }

/-- The file system without the entry at a place. -/
def erase (files : FileSystem) (place : Place) : FileSystem :=
  { files with entries := Association.erase files.entries place }

theorem node?_put (files : FileSystem) (place other : Place) (node : Node) (below : place ≠ []) :
    (files.put place node).node? other =
      if other = place then some node else files.node? other := by
  by_cases root : other = []
  · subst root
    simp [node?, Ne.symm below]
  · simp [node?, put, root, Association.lookup_insert]

theorem node?_erase (files : FileSystem) (place other : Place) (below : place ≠ []) :
    (files.erase place).node? other = if other = place then none else files.node? other := by
  by_cases root : other = []
  · subst root
    simp [node?, Ne.symm below]
  · simp [node?, erase, root, Association.lookup_erase]

/-- The longest name of an entry, in bytes. -/
def longestName : Nat := 255

/-- The longest path, in bytes. -/
def longestPath : Nat := 4095

/-- The number of links that one lookup may follow. -/
def linkLimit : Nat := 40

/-- Where a walk stops: at an entry, at a last name that its directory does not hold, at a link
that has to be followed, or at an error. -/
inductive Stop
  | found (place : Place)
  | absent (directory : Place) (name : String)
  | follow (directory : Place) (target : Path) (rest : List String)
  | failed (errno : Errno)
  deriving DecidableEq

/-- What a lookup is for: to find what is there, or to open a file, which is made if there is
none. -/
inductive Purpose
  | finding
  | opening
  deriving DecidableEq

/-- The component that stands for a name with a slash behind it where a file is to be opened. No
name is empty, so it is mistaken for none. -/
def slashedName : String := ""

/-- The components to take for a path with further ones behind it. Nothing is opened or made under
a last name with a slash behind it, so that name is not even looked up. -/
def Purpose.steps (purpose : Purpose) (path : Path) (rest : List String) : List String :=
  if purpose = .opening ∧ rest = [] ∧ path.slashesName then path.names.dropLast ++ [slashedName]
  else path.steps ++ rest

/-- The walk from a place up to the first link. -/
def advance (files : FileSystem) (place : Place) : List String → Stop
  | [] => .found place
  | name :: rest =>
    match files.node? place with
    | some .directory =>
      if name = Path.directoryMark then files.advance place rest
      else if files.rights.searches place = false then .failed .accessDenied
      else if name = slashedName then .failed .isDirectory
      else if name = "." then files.advance place rest
      else if name = ".." then files.advance place.dropLast rest
      else if longestName < Utf8.byteLength name then .failed .nameTooLong
      else
        match files.node? (place ++ [name]) with
        | none => if rest = [] then .absent place name else .failed .noEntry
        | some (.link target) => .follow place target rest
        | some _ => files.advance (place ++ [name]) rest
    | _ => .failed .notDirectory

/-- Where a lookup ends: at an entry, or at a name that its directory does not hold. -/
inductive Arrival
  | found (place : Place)
  | absent (directory : Place) (name : String)
  deriving DecidableEq

/-- The walk with its links followed, of which it may follow as many as the number says. -/
def walk (files : FileSystem) (purpose : Purpose) :
    Nat → Place → List String → Except Errno Arrival
  | links, place, names =>
    match files.advance place names with
    | .found place => .ok (.found place)
    | .absent directory name => .ok (.absent directory name)
    | .failed errno => .error errno
    | .follow directory target rest =>
      match links with
      | 0 => .error .tooManyLinks
      | links + 1 =>
        files.walk purpose links (if target.isAbsolute then [] else directory)
          (purpose.steps target rest)

/-- The place where the walk of a path begins. -/
def start (files : FileSystem) (path : Path) : Place :=
  if path.isAbsolute then [] else files.workingPlace

/-- The lookup of a path, its last link followed. -/
def resolve (files : FileSystem) (purpose : Purpose) (path : Path) : Except Errno Arrival :=
  if path.text = "" then .error .noEntry
  else if longestPath < Utf8.byteLength path.text then .error .nameTooLong
  else files.walk purpose linkLimit (files.start path) (purpose.steps path [])

/-- The place of the entry that a path names, links followed. -/
def find (files : FileSystem) (path : Path) : Except Errno Place :=
  match files.resolve .finding path with
  | .ok (.found place) => .ok place
  | .ok (.absent _ _) => .error .noEntry
  | .error errno => .error errno

/-- The directory and the name under which a path's own entry stands or would stand; a link there
is not followed. The root and the names `.` and `..` are no entries of their own. -/
def entryOf (files : FileSystem) (path : Path) : Except Errno (Place × String) :=
  if path.text = "" then .error .noEntry
  else if longestPath < Utf8.byteLength path.text then .error .nameTooLong
  else
    match path.names.getLast? with
    | none => .error .busy
    | some name =>
      match files.walk .finding linkLimit (files.start path) (path.names.dropLast ++ ["."]) with
      | .error errno => .error errno
      | .ok (.absent _ _) => .error .noEntry
      | .ok (.found directory) =>
        if name = "." ∨ name = ".." then .error .busy
        else if longestName < Utf8.byteLength name then .error .nameTooLong
        else .ok (directory, name)

/-- The absolute text of a path: relative paths stand behind the working directory. -/
def absolute (files : FileSystem) (path : Path) : Path :=
  Path.join ⟨"/" ++ "/".intercalate files.workingPlace⟩ path

end FileSystem

end BuildStamp
