import BuildStamp.FileSystem.Operation
import BuildStamp.Report

set_option autoImplicit false

/-!
Why a build number could not be found or put into an artifact. Every failure but one of the file
system tells the user what to change; those of the file system are shown behind the name of the
operation that met them.
-/

namespace BuildStamp

/-- The causes for which finding or replacing a slot's text fails. -/
inductive SlotFailure
  | slotNotFound (expected : String)
  | ambiguousSlot (expected : String) (first second : Nat)
  | valueTooLong (length limit : Nat)
  | invalidValue (reason : String)
  | fileSystem (path : Path) (cause : IoError)
  deriving DecidableEq

namespace SlotFailure

/-- The failure in one line. -/
def message : SlotFailure → String
  | .slotNotFound expected => "No placeholder slot holding '" ++ expected ++ "' found"
  | .ambiguousSlot expected first second =>
    "Slot holding '" ++ expected ++ "' found more than once (offsets " ++
      Numeral.offset first ++ ", " ++ Numeral.offset second ++ ")"
  | .valueTooLong length limit =>
    "Build number is " ++ Numeral.decimal length ++ " bytes, the slot holds at most " ++
      Numeral.decimal limit
  | .invalidValue reason => "Invalid build number: " ++ reason
  | .fileSystem path cause => "IO error on " ++ path.text ++ ": " ++ cause.message

/-- The failure with all it carries. -/
def detail : SlotFailure → String
  | .slotNotFound expected => Quoted.record "SlotNotFound" [("from", Quoted.text expected)]
  | .ambiguousSlot expected first second =>
    Quoted.record "AmbiguousSlot"
      [("from", Quoted.text expected), ("first", Numeral.decimal first),
        ("second", Numeral.decimal second)]
  | .valueTooLong length limit =>
    Quoted.record "ValueTooLong"
      [("len", Numeral.decimal length), ("max", Numeral.decimal limit)]
  | .invalidValue reason => Quoted.record "InvalidValue" [("reason", Quoted.text reason)]
  | .fileSystem path cause =>
    Quoted.record "Io" [("path", Quoted.text path.text), ("source", cause.detail)]

/-- The user can act on the failure. -/
def isActionable : SlotFailure → Bool
  | .fileSystem _ _ => false
  | _ => true

/-- What is told of the failure. -/
def report (failure : SlotFailure) : Report :=
  ⟨failure.message, failure.detail, failure.isActionable⟩

end SlotFailure

end BuildStamp
