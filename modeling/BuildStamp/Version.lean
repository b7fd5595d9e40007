import BuildStamp.Slot.Accessor
import BuildStamp.Text.Numeral

set_option autoImplicit false

/-!
What the program tells of itself when it is asked for its version.
-/

namespace BuildStamp

/-- When a program was built, and from which commit. -/
structure BuildInfo where
  time : String
  commit : String
  deriving DecidableEq

namespace BuildInfo

/-- The version of the program. -/
def release : String :=
  "0.1.0"

/-- The lines shown for a request of the version. -/
def versionText (build : BuildInfo) : String :=
  release ++ "\nabi: " ++ Numeral.decimal Accessor.abiVersion ++ "\nbuilt: " ++ build.time ++
    "\ncommit: " ++ build.commit

end BuildInfo

end BuildStamp
