import BuildStamp.Settings.Validation
import BuildStamp.Toml.Document

set_option autoImplicit false

/-!
Settings out of a TOML document. Every key has to be known and every value of the right type.
Where a group of settings is expected, an array may stand as well: its elements are the settings
in their order, those it does not reach are left out, and what is too much is passed over.
-/

namespace BuildStamp

/-- Why a well-formed document holds no settings. -/
inductive Mismatch
  | unknownKey (key : String)
  | notAGroup (key : String)
  | notText (key : String)
  | notBoolean (key : String)
  deriving DecidableEq

/-- The mismatch as a user reads it. -/
def Mismatch.message : Mismatch → String
  | .unknownKey key => "TOML parse error: unknown key " ++ key
  | .notAGroup key => "TOML parse error: " ++ key ++ " has to be a table"
  | .notText key => "TOML parse error: " ++ key ++ " has to be a string"
  | .notBoolean key => "TOML parse error: " ++ key ++ " has to be a boolean"

namespace Settings

/-- Every key of a table is one of the given names. -/
def checkKeys (names : List String) (entries : Toml.Entries) : Except Mismatch Unit :=
  match entries.find? fun entry => !names.contains entry.1 with
  | some entry => .error (.unknownKey entry.1)
  | none => .ok ()

/-- The value of each of the given names in a group that may be left out. -/
def group (key : String) (names : List String) :
    Option Toml.Value → Except Mismatch (String → Option Toml.Value)
  | none => .ok fun _ => none
  | some (.table _ entries) =>
    match checkKeys names entries with
    | .error mismatch => .error mismatch
    | .ok () => .ok fun name => entries.lookup name
  | some (.array _ elements) => .ok fun name => elements[names.idxOf name]?
  | some _ => .error (.notAGroup key)

/-- A string that may be left out. -/
def text? (key : String) : Option Toml.Value → Except Mismatch (Option String)
  | none => .ok none
  | some (.string text) => .ok (some text)
  | some _ => .error (.notText key)

/-- A boolean that may be left out. -/
def boolean? (key : String) : Option Toml.Value → Except Mismatch (Option Bool)
  | none => .ok none
  | some (.boolean value) => .ok (some value)
  | some _ => .error (.notBoolean key)

end Settings

/-- The settings of the log out of their group. -/
def LoggingSettings.decode (value : Option Toml.Value) : Except Mismatch LoggingSettings :=
  match Settings.group "logging" ["level", "format", "file", "color"] value with
  | .error mismatch => .error mismatch
  | .ok field =>
    match Settings.text? "level" (field "level"), Settings.text? "format" (field "format"),
      Settings.text? "file" (field "file"), Settings.boolean? "color" (field "color") with
    | .ok level, .ok format, .ok file, .ok color =>
      .ok ⟨level, format, file.map Path.mk, color⟩
    | .error mismatch, _, _, _ => .error mismatch
    | _, .error mismatch, _, _ => .error mismatch
    | _, _, .error mismatch, _ => .error mismatch
    | _, _, _, .error mismatch => .error mismatch

/-- The settings of injections out of their group. -/
def InjectionSettings.decode (value : Option Toml.Value) : Except Mismatch InjectionSettings :=
  match Settings.group "inject" ["from", "value_file"] value with
  | .error mismatch => .error mismatch
  | .ok field =>
    match Settings.text? "from" (field "from"), Settings.text? "value_file" (field "value_file") with
    | .ok expected, .ok valueFile => .ok ⟨expected, valueFile.map Path.mk⟩
    | .error mismatch, _ => .error mismatch
    | _, .error mismatch => .error mismatch

/-- The settings that a document makes, as they are written. -/
def Settings.decode (entries : Toml.Entries) : Except Mismatch Settings :=
  match checkKeys ["logging", "inject"] entries with
  | .error mismatch => .error mismatch
  | .ok () =>
    match LoggingSettings.decode (entries.lookup "logging"),
      InjectionSettings.decode (entries.lookup "inject") with
    | .ok logging, .ok injection => .ok ⟨logging, injection⟩
    | .error mismatch, _ => .error mismatch
    | _, .error mismatch => .error mismatch

end BuildStamp
