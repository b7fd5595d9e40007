import BuildStamp.Script.Attempt
import BuildStamp.Slot.Injection
import BuildStamp.Text.WhiteSpace

set_option autoImplicit false

/-!
Build numbers in files. An artifact is read whole and written as a fresh file beside its
destination, which takes the destination's place in one move once it is complete, with the
permission bits of what was read. Whatever fails before that, the fresh file goes away.
-/

namespace BuildStamp.Artifact

/-- A line of the module that finds and replaces slots. -/
def origin (line : Nat) : Origin :=
  ⟨"buildversion::inject", some line⟩

/-- The failure of a request about a path. -/
def onPath (path : Path) (cause : IoError) : SlotFailure :=
  .fileSystem path cause

/-- The bytes of a file. -/
def bytes (path : Path) : Attempt SlotFailure (List UInt8) :=
  .expect (onPath path) (.request (.read path))

/-- The record of a slot that was found. -/
def foundRecord (expected : String) (offset : Nat) : Record :=
  ⟨.trace, origin 97, "Slot holding '" ++ expected ++ "' at offset " ++ Numeral.offset offset⟩

/-- The record of a slot that was replaced. -/
def injectedRecord (value : String) (offset : Nat) : Record :=
  ⟨.debug, origin 109,
    "Injected build number '" ++ value ++ "' into " ++ Slot.symbol ++ " at offset " ++
      Numeral.offset offset⟩

/-- The record of a file that is about to take its place. -/
def movingRecord (staged path : Path) : Record :=
  ⟨.trace, origin 158, "Renaming " ++ staged.text ++ " onto " ++ path.text⟩

/-- The record of an artifact that was written. -/
def writtenRecord (path : Path) (value : String) : Record :=
  ⟨.info, origin 133, "Wrote " ++ path.text ++ " with build number '" ++ value ++ "'"⟩

/-- The offset of the slot in some bytes. -/
def find (artifact : List UInt8) (expected : String) (capacity : Nat) :
    Attempt SlotFailure Nat := do
  let offset ← Attempt.ofExcept (Slot.find artifact expected capacity)
  Attempt.log (foundRecord expected offset)
  return offset

/-- The offset of the slot in some bytes, and the bytes with the build number in it. -/
def withNumber (artifact : List UInt8) (injection : Injection) :
    Attempt SlotFailure (Nat × List UInt8) := do
  let (offset, bytes) ← Attempt.ofExcept (Slot.inject artifact injection)
  Attempt.log (foundRecord injection.expected offset)
  Attempt.log (injectedRecord injection.value offset)
  return (offset, bytes)

/-- Bytes added to a fresh file piece by piece. -/
def appendAll (staged : Staged) : List (List UInt8) → Attempt SlotFailure Unit
  | [] => return ()
  | piece :: rest => do
    Attempt.expect (onPath staged.path) (.request (.append staged piece))
    appendAll staged rest

/-- A fresh file filled, with the given permission bits, and moved onto its destination. -/
def deliver (staged : Staged) (path : Path) (pieces : List (List UInt8)) (permissions : Nat) :
    Attempt SlotFailure Unit := do
  appendAll staged pieces
  Attempt.expect (onPath staged.path) (.request (.sync staged))
  Attempt.expect (onPath staged.path) (.request (.setPermissions staged permissions))
  Attempt.log (movingRecord staged.path path)
  Attempt.expect (onPath path) (.request (.moveOnto staged path))

/-- What is done with a fresh file. If it fails, the file goes away. -/
def guarded (staged : Staged) (attempt : Attempt SlotFailure Unit) : Attempt SlotFailure Unit :=
  .mk (attempt.run.bind fun outcome =>
    match outcome with
    | .ok () => .done (.ok ())
    | .error failure => .ask (.discard staged) fun _ => .done (.error failure))

/-- A file replaced by one with the given contents, which are written piece by piece. -/
def replace (path : Path) (pieces : List (List UInt8)) (permissions : Nat) :
    Attempt SlotFailure Unit := do
  let staged ← Attempt.expect (onPath path.directory) (.request (.stage path.directory))
  guarded staged (deliver staged path pieces permissions)

/-- An injection from one file to another, or to the same, with the new contents cut into pieces
for writing. The slot's offset comes out. -/
def injectPiecewise (cut : List UInt8 → List (List UInt8)) (input output : Path)
    (injection : Injection) : Attempt SlotFailure Nat := do
  let artifact ← bytes input
  let permissions ← Attempt.expect (onPath input) (.request (.permissions input))
  let (offset, contents) ← withNumber artifact injection
  replace output (cut contents) permissions
  Attempt.log (writtenRecord output injection.value)
  return offset

/-- An injection with the new contents written in one piece. -/
def inject (input output : Path) (injection : Injection) : Attempt SlotFailure Nat :=
  injectPiecewise (fun contents => [contents]) input output injection

/-- The offset of the slot in a file. -/
def locate (path : Path) (expected : String) (capacity : Nat) : Attempt SlotFailure Nat := do
  let artifact ← bytes path
  find artifact expected capacity

/-- The build number that a file holds between white space. -/
def valueIn (path : Path) (contents : List UInt8) : Except SlotFailure String :=
  match Utf8.decode? contents with
  | none => .error (onPath path .notUtf8)
  | some text =>
    let value := WhiteSpace.trim text
    if value = "" then
      .error (.invalidValue (path.text ++ " does not contain a build number"))
    else .ok value

/-- The build number in a file. -/
def readValue (path : Path) : Attempt SlotFailure String := do
  let contents ← bytes path
  Attempt.ofExcept (valueIn path contents)

end BuildStamp.Artifact
