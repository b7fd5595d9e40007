set_option autoImplicit false

/-!
The variables a program is started with, and what it makes of them by itself.
-/

namespace BuildStamp

/-- The variables of a process under their names. -/
structure Environment where
  bindings : List (String × String)
  deriving DecidableEq

namespace Environment

/-- The value of a variable. -/
def get? (environment : Environment) (name : String) : Option String :=
  environment.bindings.lookup name

/-- Styles are written although nothing shows them: the variable that forces them is set, and not
to zero. -/
def forcesStyles (environment : Environment) : Bool :=
  match environment.get? "CLICOLOR_FORCE" with
  | some value => value ≠ "0"
  | none => false

end Environment

end BuildStamp
