import BuildStamp.Text.Parts

set_option autoImplicit false

/-!
Path names as they are written: components between slashes, the directory that holds the entry a
path names, and one path put behind another. Nothing here looks at a file system.
-/

namespace BuildStamp

/-- A path name, absolute or relative. It is shown exactly as it was written. -/
structure Path where
  text : String
  deriving DecidableEq

namespace Path

/-- The stretches of a path between its slashes, empty ones included. -/
def segments (path : Path) : List String :=
  (Parts.split '/' path.text.toList).map String.ofList

/-- An absolute path begins with a slash. -/
def isAbsolute (path : Path) : Bool :=
  path.text.toList.head? == some '/'

/-- The path ends with a slash, and so names a directory. -/
def endsWithSlash (path : Path) : Bool :=
  path.text.toList.getLast? == some '/'

/-- The components a walk takes one after the other, `.` and `..` among them. -/
def names (path : Path) : List String :=
  path.segments.filter fun segment => segment ≠ ""

/-- The component that stands for a slash at the end, which asks for a directory. No name has a
slash in it, so it is mistaken for none. -/
def directoryMark : String :=
  "/"

/-- The components a lookup takes. -/
def steps (path : Path) : List String :=
  if path.endsWithSlash then path.names ++ [directoryMark] else path.names

/-- The path ends with a slash behind a name, which is neither `.` nor `..`. -/
def slashesName (path : Path) : Bool :=
  path.endsWithSlash && path.names.getLast?.any fun name => name ≠ "." && name ≠ ".."

/-- The list without the empty and `.` segments at its end. -/
def dropIdle (segments : List String) : List String :=
  (segments.reverse.dropWhile fun segment => segment = "" ∨ segment = ".").reverse

/-- The path without its last component; nothing for the empty path and the root. Empty and `.`
segments are skipped, except that a `.` in front counts as a component. -/
def parent (path : Path) : Option Path :=
  match path.segments with
  | [] => none
  | first :: rest =>
    match dropIdle rest with
    | [] => if path.text = "" ∨ first = "" then none else some ⟨""⟩
    | kept =>
      let above := dropIdle kept.dropLast
      if above = [] then some ⟨if first = "" then "/" else first⟩
      else some ⟨"/".intercalate (first :: above)⟩

/-- The last component, if it is a name of its own and not the root, `.` or `..`. -/
def fileName (path : Path) : Option String :=
  match path.segments with
  | [] => none
  | first :: rest =>
    let last := (dropIdle rest).getLast?.getD first
    if last = "" ∨ last = "." ∨ last = ".." then none else some last

/-- One path behind another: an absolute one stands alone. -/
def join (base path : Path) : Path :=
  if path.isAbsolute ∨ base.text = "" then path
  else if base.endsWithSlash then ⟨base.text ++ path.text⟩
  else ⟨base.text ++ "/" ++ path.text⟩

/-- The directory that holds the entry a path names: the current one if the path names none. -/
def directory (path : Path) : Path :=
  match path.parent with
  | none => ⟨"."⟩
  | some parent => if parent.text = "" then ⟨"."⟩ else parent

end Path

end BuildStamp
