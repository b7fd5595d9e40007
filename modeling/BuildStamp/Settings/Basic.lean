import BuildStamp.FileSystem.Path

set_option autoImplicit false

/-!
The settings that a configuration file can make. Each one may be left out, and then something
else decides.
-/

namespace BuildStamp

/-- The settings of the log. -/
structure LoggingSettings where
  level : Option String
  format : Option String
  file : Option Path
  color : Option Bool
  deriving DecidableEq

/-- The settings of injections: the text a slot is expected to hold, and the file with the build
number. -/
structure InjectionSettings where
  expected : Option String
  valueFile : Option Path
  deriving DecidableEq

/-- All settings. -/
structure Settings where
  logging : LoggingSettings
  injection : InjectionSettings
  deriving DecidableEq

namespace LoggingSettings

/-- Nothing is set. -/
def empty : LoggingSettings :=
  ⟨none, none, none, none⟩

end LoggingSettings

namespace InjectionSettings

/-- Nothing is set. -/
def empty : InjectionSettings :=
  ⟨none, none⟩

end InjectionSettings

namespace Settings

/-- Nothing is set. -/
def empty : Settings :=
  ⟨.empty, .empty⟩

end Settings

end BuildStamp
