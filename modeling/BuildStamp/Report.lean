import BuildStamp.Log.Record

set_option autoImplicit false

/-!
What is told of a failure. One that a user can act on is told in its own words; of any other, the
user hears which operation failed, and the rest is left to the log.
-/

namespace BuildStamp

/-- A failure in words: in one line, with all it carries, and whether a user can act on it. -/
structure Report where
  message : String
  detail : String
  isActionable : Bool
  deriving DecidableEq

namespace Report

/-- The message meant for the user, where there is one. -/
def userMessage (report : Report) : Option String :=
  if report.isActionable then some report.message else none

/-- What is shown when there is no log: the user's message, or the whole message behind the name
of the operation. -/
def fatalMessage (report : Report) (operation : String) : String :=
  report.userMessage.getD (operation ++ ": " ++ report.message)

/-- What is shown at the gravest level: the user's message, or the name of the operation alone. -/
def headline (report : Report) (operation : String) : String :=
  report.userMessage.getD operation

/-- A line of the module that logs failures. -/
def origin (line : Nat) : Origin :=
  ⟨"buildversion::core::error_handling", some line⟩

/-- The line that logs the headline of a failure. -/
def fatalLine (report : Report) : Nat :=
  if report.isActionable then 36 else 37

/-- The records that log a failure: its headline for all, the rest for those who look closer. -/
def records (report : Report) (operation : String) : List Record :=
  [⟨.error, origin report.fatalLine, "FATAL: " ++ report.headline operation⟩,
    ⟨.debug, origin 39, "DETAIL: " ++ report.message⟩,
    ⟨.debug, origin 40, "DEBUG_DETAILS: " ++ report.detail⟩]

end Report

end BuildStamp
