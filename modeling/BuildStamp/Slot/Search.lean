import BuildStamp.Slot.Basic
import BuildStamp.Slot.Failure

set_option autoImplicit false

/-!
Finding the slot that holds a text in the bytes of an artifact. The bytes searched for are the
slot's whole image, text and NULs, and they must stand at exactly one offset.
-/

namespace BuildStamp.Slot

/-- The bytes stand in an artifact at an offset. -/
def OccursAt (needle artifact : List UInt8) (offset : Nat) : Prop :=
  offset < artifact.length ∧ needle <+: artifact.drop offset

instance (needle artifact : List UInt8) (offset : Nat) :
    Decidable (OccursAt needle artifact offset) :=
  inferInstanceAs (Decidable (_ ∧ _))

/-- The offsets, counted from the first argument, at which the bytes stand. -/
def occurrencesFrom (needle : List UInt8) : Nat → List UInt8 → List Nat
  | _, [] => []
  | offset, byte :: rest =>
    if needle.isPrefixOf (byte :: rest) then offset :: occurrencesFrom needle (offset + 1) rest
    else occurrencesFrom needle (offset + 1) rest

/-- The offsets at which the bytes stand, in ascending order. -/
def occurrences (needle artifact : List UInt8) : List Nat :=
  occurrencesFrom needle 0 artifact

/-- Which of its texts a search or an injection complains about. -/
inductive Role
  | expected
  | value
  deriving DecidableEq

/-- The role's name in messages. -/
def Role.name : Role → String
  | .expected => "slot value to search for"
  | .value => "build number"

/-- A slot can hold a text that is not empty, has no NUL and leaves room for one. The first of
these that fails is reported. -/
def checkText (role : Role) (text : String) (capacity : Nat) : Except SlotFailure Unit :=
  if text = "" then .error (.invalidValue (role.name ++ " is empty"))
  else if text.toList.contains (Char.ofNat 0) then
    .error (.invalidValue (role.name ++ " contains a NUL byte"))
  else if capacity - 1 < Utf8.byteLength text then
    .error (.valueTooLong (Utf8.byteLength text) (capacity - 1))
  else .ok ()

/-- The offset of the one slot in an artifact that holds a text. -/
def find (artifact : List UInt8) (expected : String) (capacity : Nat) : Except SlotFailure Nat :=
  match checkText .expected expected capacity with
  | .error failure => .error failure
  | .ok () =>
    match occurrences (image expected capacity) artifact with
    | [] => .error (.slotNotFound expected)
    | [offset] => .ok offset
    | first :: second :: _ => .error (.ambiguousSlot expected first second)

end BuildStamp.Slot
