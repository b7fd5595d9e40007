import BuildStamp.Script.Attempt
import BuildStamp.Settings.File
import BuildStamp.Text.Utf8

set_option autoImplicit false

/-!
Finding the settings to work with. A file named explicitly has to be there; the user's own is
taken if it is there; and only where neither is, nothing is set. A file that is there and cannot be
used is always a failure.
-/

namespace BuildStamp.Settings

/-- The settings in the contents of a file. -/
def ofContents (path : Path) (contents : List UInt8) : Except SettingsFailure Settings :=
  match Utf8.decode? contents with
  | none => .error (.unreadable path .notUtf8)
  | some text => parse text path

/-- The record of a file whose settings were taken. -/
def loadedRecord (path : Path) : Record :=
  ⟨.debug, ⟨"buildversion::app::cli::config", some 106⟩,
    "Loaded configuration from " ++ path.text⟩

/-- The settings of a file that has to be there. -/
def load (path : Path) : Attempt SettingsFailure Settings := do
  if ← Attempt.request (.isPresent path) then
    let contents ← Attempt.expect (.unreadable path) (.request (.read path))
    let settings ← Attempt.ofExcept (ofContents path contents)
    Attempt.log (loadedRecord path)
    return settings
  else Attempt.ofExcept (.error (.missing path))

/-- The settings to work with, given the path of a file or not. -/
def discover (explicit : Option Path) : Attempt SettingsFailure Settings := do
  match explicit with
  | some path => load path
  | none =>
    let environment ← Attempt.request .environment
    let recorded ← Attempt.request .accountHome
    match defaultPath? environment recorded with
    | none => return Settings.empty
    | some path =>
      if ← Attempt.request (.isPresent path) then load path else return Settings.empty

end BuildStamp.Settings
