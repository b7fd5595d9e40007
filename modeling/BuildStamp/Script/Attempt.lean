import BuildStamp.Script.Basic

set_option autoImplicit false

/-!
Scripts that may fail. A request to the file system that fails ends them, with the path that the
failure is reported on.
-/

namespace BuildStamp

/-- A script that ends early with a failure. -/
abbrev Attempt (failure α : Type) := ExceptT failure Script α

namespace Attempt

/-- An attempt that only looks at something already there. -/
def ofExcept {failure α : Type} (outcome : Except failure α) : Attempt failure α :=
  .mk (.done outcome)

/-- A request that cannot fail. -/
def request {failure : Type} (request : Request) : Attempt failure request.Reply :=
  .mk (.ask request fun reply => .done (.ok reply))

/-- The outcome of a script that may fail, with its failure put in other words. -/
def expect {first failure α : Type} (reword : first → failure)
    (script : Script (Except first α)) : Attempt failure α :=
  .mk (script.bind fun outcome =>
    match outcome with
    | .ok result => .done (.ok result)
    | .error cause => .done (.error (reword cause)))

/-- One record. -/
def log {failure : Type} (record : Record) : Attempt failure Unit :=
  request (.log record)

end Attempt

end BuildStamp
