import BuildStamp.FileSystem.State
import BuildStamp.Text.Quoted

set_option autoImplicit false

/-!
What can be asked of a file system: reading, making directories, writing through a path, and the
steps by which a file is replaced as a whole. Those steps are a fresh file beside the target, its
bytes piece by piece, its permission bits, and one move onto the target's entry. Rights are asked
for where a file is opened and where a name is looked up; an open file is written to as it is.
-/

namespace BuildStamp

/-- Why a request to the file system failed. A fresh file that could not be made is named. -/
inductive IoError
  | system (errno : Errno)
  | notUtf8
  | nulInPath
  | staging (path : Path) (cause : IoError)
  deriving DecidableEq

namespace IoError

/-- The error as a user reads it. -/
def message : IoError → String
  | .system errno =>
    errno.description ++ " (os error " ++ Numeral.signed errno.code ++ ")"
  | .notUtf8 => "stream did not contain valid UTF-8"
  | .nulInPath => "file name contained an unexpected NUL byte"
  | .staging path cause => cause.message ++ " at path " ++ Quoted.text path.text

/-- The kind an error is filed under. -/
def kind : IoError → String
  | .system errno => errno.kind
  | .notUtf8 => "InvalidData"
  | .nulInPath => "InvalidInput"
  | .staging _ cause => cause.kind

/-- The error with all it carries. -/
def detail : IoError → String
  | .system errno =>
    Quoted.record "Os"
      [("code", Numeral.signed errno.code), ("kind", errno.kind),
        ("message", Quoted.text errno.description)]
  | .staging path cause =>
    Quoted.record "Custom"
      [("kind", cause.kind),
        ("error", Quoted.record "PathError"
          [("path", Quoted.text path.text), ("err", cause.detail)])]
  | failure =>
    Quoted.record "Error" [("kind", failure.kind), ("message", Quoted.text failure.message)]

end IoError

/-- A fresh file that is to take another's place: the path it is shown by, and where it is. -/
structure Staged where
  path : Path
  place : Place
  deriving DecidableEq

namespace FileSystem

/-- No path can hold a NUL. -/
def checked {α : Type} (path : Path) (request : Except Errno α) : Except IoError α :=
  if path.text.toList.contains (Char.ofNat 0) then .error .nulInPath
  else
    match request with
    | .ok reply => .ok reply
    | .error errno => .error (.system errno)

/-- The contents of the file that a path names, links followed. -/
def readFile (files : FileSystem) (path : Path) : Except IoError (List UInt8) :=
  checked path <|
    match files.find path with
    | .error errno => .error errno
    | .ok place =>
      match files.node? place with
      | some (.file contents permissions) =>
        if files.rights.reads permissions then .ok contents else .error .accessDenied
      | some .directory => .error .isDirectory
      | _ => .error .noEntry

/-- The permission bits of what a path names, links followed. Directories are open to all. -/
def permissions (files : FileSystem) (path : Path) : Except IoError Nat :=
  checked path <|
    match files.find path with
    | .error errno => .error errno
    | .ok place =>
      match files.node? place with
      | some (.file _ permissions) => .ok permissions
      | some _ => .ok 0o755
      | none => .error .noEntry

/-- A path leads to an entry, links followed. -/
def isPresent (files : FileSystem) (path : Path) : Bool :=
  match checked path (files.find path) with
  | .ok _ => true
  | .error _ => false

/-- A path leads to a directory, links followed. -/
def isDirectory (files : FileSystem) (path : Path) : Bool :=
  match checked path (files.find path) with
  | .ok place => files.node? place = some .directory
  | .error _ => false

/-- The name of a fresh file: six digits behind a fixed beginning. -/
def stagingName (index : Nat) : String :=
  ".tmp" ++ Numeral.padded 6 index

/-- The first of the given number of names, counted from an index, that a directory does not
hold. -/
def freshName (files : FileSystem) (directory : Place) : Nat → Nat → Option String
  | 0, _ => none
  | tries + 1, index =>
    if files.node? (directory ++ [stagingName index]) = none then some (stagingName index)
    else files.freshName directory tries (index + 1)

/-- How many names are tried before a fresh file is given up. -/
def stagingTries : Nat := 65536

/-- The permission bits of a fresh file: its owner's alone. -/
def stagingPermissions : Nat := 0o600

/-- The path by which a fresh file in a directory is asked for and shown: an absolute one. -/
def stagedPath (files : FileSystem) (directory : Path) (name : String) : Path :=
  (files.absolute directory).join ⟨name⟩

/-- The failure of a fresh file that could not be made in a directory. -/
def stagingFailure (files : FileSystem) (directory : Path) (cause : IoError) : IoError :=
  .staging (files.stagedPath directory (stagingName 0)) cause

/-- A fresh empty file in a directory, whose path must not be too long. -/
def stage (files : FileSystem) (directory : Path) : Except IoError (Staged × FileSystem) :=
  let refuse (cause : IoError) : Except IoError (Staged × FileSystem) :=
    .error (files.stagingFailure directory cause)
  let found : Except Errno Place :=
    if longestPath < Utf8.byteLength (files.stagedPath directory (stagingName 0)).text then
      .error .nameTooLong
    else files.find directory
  match checked directory found with
  | .error cause => refuse cause
  | .ok place =>
    if files.node? place = some .directory then
      if files.rights.searches place then
        match files.freshName place stagingTries 0 with
        | some name =>
          .ok (⟨files.stagedPath directory name, place ++ [name]⟩,
            files.put (place ++ [name]) (.file [] stagingPermissions))
        | none => refuse (.system .fileExists)
      else refuse (.system .accessDenied)
    else refuse (.system .notDirectory)

/-- The file system with bytes added at the end of a file. -/
def append (files : FileSystem) (place : Place) (bytes : List UInt8) : FileSystem :=
  match files.node? place with
  | some (.file contents permissions) => files.put place (.file (contents ++ bytes) permissions)
  | _ => files

/-- The file system with a file's permission bits changed. -/
def setPermissions (files : FileSystem) (place : Place) (permissions : Nat) : FileSystem :=
  match files.node? place with
  | some (.file contents _) => files.put place (.file contents permissions)
  | _ => files

/-- The place of the entry that a file moved onto a path takes over. A directory is not replaced,
a slash at the end asks for one, and a path with a NUL is no argument for a move. -/
def moveTarget (files : FileSystem) (path : Path) : Except Errno Place :=
  if path.text.toList.contains (Char.ofNat 0) then .error .invalidArgument
  else
    match files.entryOf path with
    | .error errno => .error errno
    | .ok (directory, name) =>
      if path.endsWithSlash then .error .notDirectory
      else if files.node? (directory ++ [name]) = some .directory then .error .isDirectory
      else .ok (directory ++ [name])

/-- A fresh file moved onto a path in one step: the entry there is the fresh file from now on,
whatever it was before. The entry's place is told as well. -/
def moveOnto (files : FileSystem) (staged : Staged) (path : Path) :
    Except IoError (Place × FileSystem) :=
  match files.moveTarget path with
  | .error errno => .error (.system errno)
  | .ok target =>
    match files.node? staged.place with
    | some node => .ok (target, (files.erase staged.place).put target node)
    | none => .error (.system .noEntry)

/-- The permission bits of a file written through a path that led nowhere before. -/
def ordinaryPermissions : Nat := 0o644

/-- The place of the file that a path leads to, links followed, emptied if it was there and made
if it was not. -/
def truncate (files : FileSystem) (path : Path) : Except IoError (Place × FileSystem) :=
  checked path <|
    match files.resolve .opening path with
    | .error errno => .error errno
    | .ok (.absent directory name) =>
      let place := directory ++ [name]
      .ok (place, files.put place (.file [] ordinaryPermissions))
    | .ok (.found place) =>
      match files.node? place with
      | some (.file _ permissions) =>
        if files.rights.writes permissions then .ok (place, files.put place (.file [] permissions))
        else .error .accessDenied
      | _ => .error .isDirectory

/-- One directory more. A path that leads to a directory is left as it is; any other entry of that
name, be it a link that leads nowhere, is in the way. -/
def makeDirectory (files : FileSystem) (path : Path) : Except Errno FileSystem :=
  match files.resolve .finding path with
  | .error errno => .error errno
  | .ok (.found place) =>
    if files.node? place = some .directory then .ok files else .error .fileExists
  | .ok (.absent _ _) =>
    match files.entryOf path with
    | .error errno => .error errno
    | .ok (directory, name) =>
      if (files.node? (directory ++ [name])).isSome then .error .fileExists
      else .ok (files.put (directory ++ [name]) .directory)

/-- The beginnings of a list of names, the shortest first. -/
def beginnings (names : List String) : List (List String) :=
  (List.range names.length).map fun count => names.take (count + 1)

/-- The directory that a path names, made together with every directory on the way to it. What
has been made when a step fails stays. Nothing is tried for a path that no call can take. -/
def makeDirectories (files : FileSystem) (path : Path) : FileSystem × Bool :=
  let lead := if path.isAbsolute then "/" else ""
  if path.text.toList.contains (Char.ofNat 0) ∨ longestPath < Utf8.byteLength path.text then
    (files, false)
  else
    (beginnings path.names).foldl
      (fun state names =>
        if state.2 then
          match state.1.makeDirectory ⟨lead ++ "/".intercalate names⟩ with
          | .ok files => (files, true)
          | .error _ => (state.1, false)
        else state)
      (files, true)

end FileSystem

end BuildStamp
