import BuildStamp.Text.Numeral

set_option autoImplicit false

/-!
Why a text is no TOML document, and where that was noticed. The place is kept as the number of
characters left to read, from which line and column follow once the whole text is at hand.
-/

namespace BuildStamp.Toml

/-- The causes for which a document is refused. -/
inductive Cause
  | missing (expected : String)
  | controlCharacter
  | badEscape
  | unclosedString
  | badWord (word : String)
  | tooDeep
  | duplicateKey (key : String)
  | closedTable (key : String)
  deriving DecidableEq

/-- The cause in words. -/
def Cause.message : Cause → String
  | .missing expected => "expected " ++ expected
  | .controlCharacter => "control characters are not allowed here"
  | .badEscape => "invalid escape sequence"
  | .unclosedString => "the string is not closed"
  | .badWord word => "not a value: " ++ word
  | .tooDeep => "values are nested too deeply"
  | .duplicateKey key => "duplicate key " ++ key
  | .closedTable key => "cannot extend " ++ key

/-- A cause, and the number of characters left when it was noticed. -/
structure Fault where
  cause : Cause
  left : Nat
  deriving DecidableEq

/-- Line and column, both from one, of the end of a text. -/
def endPosition (text : List Char) : Nat × Nat :=
  ((text.filter (· = '\n')).length + 1, (text.reverse.takeWhile (· ≠ '\n')).length + 1)

/-- The fault as a user reads it. -/
def Fault.message (fault : Fault) (text : String) : String :=
  let (line, column) := endPosition (text.toList.take (text.toList.length - fault.left))
  "TOML parse error at line " ++ Numeral.decimal line ++ ", column " ++ Numeral.decimal column ++
    ": " ++ fault.cause.message

/-- What a reading step yields: something read and the characters behind it, or a fault. -/
abbrev Step (α : Type) := Except Fault (α × List Char)

/-- The fault of a cause noticed in front of some characters. -/
def refuse {α : Type} (cause : Cause) (rest : List Char) : Except Fault α :=
  .error ⟨cause, rest.length⟩

end BuildStamp.Toml
