import BuildStamp.Slot.Search

set_option autoImplicit false

/-!
Putting a build number into an artifact: the one slot that holds the expected text gets the image
of the new one, and every other byte stays. The new text is checked before the expected one, and
both before the artifact is searched.
-/

namespace BuildStamp

/-- What to replace and with what, in slots of some capacity. -/
structure Injection where
  expected : String
  value : String
  capacity : Nat
  deriving DecidableEq

namespace Injection

/-- The replacement of the untouched sentinel in a slot of the usual size. -/
def ofSentinel (value : String) : Injection :=
  ⟨Slot.sentinel, value, Slot.capacity⟩

end Injection

namespace Slot

/-- The artifact with the bytes put at an offset in place of as many others. -/
def overwrite (artifact : List UInt8) (offset : Nat) (bytes : List UInt8) : List UInt8 :=
  artifact.take offset ++ bytes ++ artifact.drop (offset + bytes.length)

/-- The offset of the slot, and the artifact with the new build number in it. -/
def inject (artifact : List UInt8) (injection : Injection) :
    Except SlotFailure (Nat × List UInt8) :=
  match checkText .value injection.value injection.capacity with
  | .error failure => .error failure
  | .ok () =>
    match find artifact injection.expected injection.capacity with
    | .error failure => .error failure
    | .ok offset =>
      .ok (offset, overwrite artifact offset (image injection.value injection.capacity))

/-- The outcome of an injection, and the artifact after it. A failed one changes nothing. -/
def injectInPlace (artifact : List UInt8) (injection : Injection) :
    Except SlotFailure Nat × List UInt8 :=
  match inject artifact injection with
  | .error failure => (.error failure, artifact)
  | .ok (offset, changed) => (.ok offset, changed)

end Slot

end BuildStamp
