import BuildStamp.Log.Layout
import BuildStamp.Settings.Basic
import BuildStamp.Text.Lowering

set_option autoImplicit false

/-!
Which texts settings may have. Names of levels may be in any case and are kept in lower case;
names of layouts are taken as they are written; a slot's text is not empty and holds no NUL.
-/

namespace BuildStamp

/-- Why a setting is refused. -/
inductive Objection
  | unknownLevel (text : String)
  | unknownFormat (text : String)
  | emptySlotText
  | nulInSlotText
  deriving DecidableEq

/-- The objection as a user reads it. -/
def Objection.message : Objection → String
  | .unknownLevel text =>
    "'" ++ text ++ "' is not a valid log level (expected one of: " ++
      ", ".intercalate Threshold.names ++ ")"
  | .unknownFormat text =>
    "'" ++ text ++ "' is not a valid log format (expected one of: " ++
      ", ".intercalate Layout.names ++ ")"
  | .emptySlotText => "Slot text cannot be empty"
  | .nulInSlotText => "Slot text cannot contain NUL bytes"

namespace Settings

/-- The name of a level in lower case. -/
def checkLevel (text : String) : Except Objection String :=
  let name := LowerCase.ofText text
  if Threshold.names.contains name then .ok name else .error (.unknownLevel text)

/-- The name of a layout. -/
def checkFormat (text : String) : Except Objection String :=
  if Layout.names.contains text then .ok text else .error (.unknownFormat text)

/-- A text that some slot can hold. -/
def checkSlotText (text : String) : Except Objection String :=
  if text = "" then .error .emptySlotText
  else if text.toList.contains (Char.ofNat 0) then .error .nulInSlotText
  else .ok text

/-- A setting that may be left out, checked if it is not. -/
def checkOptional (check : String → Except Objection String) :
    Option String → Except Objection (Option String)
  | none => .ok none
  | some text =>
    match check text with
    | .ok checked => .ok (some checked)
    | .error objection => .error objection

/-- The settings with every checked one as its check leaves it, or the message of the first
objection, in the order level, format, slot text. -/
def normalize (settings : Settings) : Except String Settings :=
  match checkOptional checkLevel settings.logging.level with
  | .error objection => .error objection.message
  | .ok level =>
    match checkOptional checkFormat settings.logging.format with
    | .error objection => .error objection.message
    | .ok format =>
      match checkOptional checkSlotText settings.injection.expected with
      | .error objection => .error ("inject.from: " ++ objection.message)
      | .ok expected =>
        .ok
          { logging := { settings.logging with level, format }
            injection := { settings.injection with expected } }

end Settings

end BuildStamp
