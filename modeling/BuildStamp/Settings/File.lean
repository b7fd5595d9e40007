import BuildStamp.Environment
import BuildStamp.FileSystem.Operation
import BuildStamp.Report
import BuildStamp.Settings.Decode

set_option autoImplicit false

/-!
Configuration files: what makes one unusable, the settings in the text of one, and where the one
of a user is kept.
-/

namespace BuildStamp

/-- Why a configuration file gives no settings. -/
inductive SettingsFailure
  | missing (path : Path)
  | unreadable (path : Path) (cause : IoError)
  | malformed (path : Path) (message : String)
  | invalid (path : Path) (message : String)
  deriving DecidableEq

namespace SettingsFailure

/-- The failure in one line, but for the message of a malformed file, which may take more. -/
def message : SettingsFailure → String
  | .missing path => "The specified configuration file does not exist: " ++ path.text
  | .unreadable path cause =>
    "Error reading configuration file " ++ path.text ++ ": " ++ cause.message
  | .malformed path message =>
    "Error parsing configuration file " ++ path.text ++ ": " ++ message
  | .invalid path message => "Error in configuration file " ++ path.text ++ ": " ++ message

/-- The failure with all it carries. -/
def detail : SettingsFailure → String
  | .missing path => Quoted.record "Missing" [("path", Quoted.text path.text)]
  | .unreadable path cause =>
    Quoted.record "Read" [("path", Quoted.text path.text), ("source", cause.detail)]
  | .malformed path message =>
    Quoted.record "Parse" [("path", Quoted.text path.text), ("source", Quoted.text message)]
  | .invalid path message =>
    Quoted.record "Invalid" [("path", Quoted.text path.text), ("message", Quoted.text message)]

/-- The user can act on the failure. -/
def isActionable : SettingsFailure → Bool
  | .unreadable _ _ => false
  | _ => true

/-- What is told of the failure. -/
def report (failure : SettingsFailure) : Report :=
  ⟨failure.message, failure.detail, failure.isActionable⟩

end SettingsFailure

namespace Settings

/-- The name of the directory that holds the configuration of a user. -/
def directoryName : String :=
  "Buildversion"

/-- The name of the configuration file in it. -/
def fileName : String :=
  "buildversion.toml"

/-- The settings in the text of a file. A text that is no document and a document that holds no
settings are both malformed; only then are the settings themselves looked at. -/
def parse (text : String) (origin : Path) : Except SettingsFailure Settings :=
  match Toml.read text with
  | .error fault => .error (.malformed origin (fault.message text))
  | .ok entries =>
    match decode entries with
    | .error mismatch => .error (.malformed origin mismatch.message)
    | .ok settings =>
      match settings.normalize with
      | .error message => .error (.invalid origin message)
      | .ok settings => .ok settings

/-- The home directory of a user: the one the environment names, or else the one on record. -/
def homeDirectory? (environment : Environment) (recorded : Option String) : Option Path :=
  let named := (environment.get? "HOME").filter fun text => text ≠ ""
  (named.or (recorded.filter fun text => text ≠ "")).map Path.mk

/-- The directory that holds the configuration of all programs: the one the environment names, if
its path is absolute, or else the usual one in the home directory. -/
def baseDirectory? (environment : Environment) (recorded : Option String) : Option Path :=
  let named := (environment.get? "XDG_CONFIG_HOME").filter fun text => (Path.mk text).isAbsolute
  (named.map Path.mk).or ((homeDirectory? environment recorded).map fun home =>
    home.join ⟨".config"⟩)

/-- Where the configuration file of a user is kept. -/
def defaultPath? (environment : Environment) (recorded : Option String := none) : Option Path :=
  (baseDirectory? environment recorded).map fun base =>
    (base.join ⟨directoryName⟩).join ⟨fileName⟩

end Settings

end BuildStamp
