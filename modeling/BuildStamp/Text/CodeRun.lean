import BuildStamp.Text.Numeral
import BuildStamp.Text.Parts

set_option autoImplicit false

/-!
Sets of code points in writing. A set is a row of words between blanks, and a word is one code
point, the two ends of a range, or the ends of a range with the distance at which its code points
follow one another: `41`, `41-5A`, `100-12E/2`. All numbers but the distance are hexadecimal.
-/

namespace BuildStamp

/-- Every `step`-th code point from `first` to `last`. -/
structure CodeRun where
  first : Nat
  last : Nat
  step : Nat
  deriving DecidableEq

namespace CodeRun

/-- The code point lies in the run. -/
def covers (run : CodeRun) (code : Nat) : Bool :=
  run.first ≤ code && code ≤ run.last && (code - run.first) % run.step == 0

/-- The run of one code point. -/
def only (code : Nat) : CodeRun :=
  ⟨code, code, 1⟩

/-- The run that a word writes. -/
def ofWord? (word : List Char) : Option CodeRun :=
  let range? (ends : List Char) (step : Nat) : Option CodeRun :=
    match (Parts.split '-' ends).mapM Numeral.ofHex? with
    | some [code] => some ⟨code, code, step⟩
    | some [first, last] => some ⟨first, last, step⟩
    | _ => none
  match Parts.split '/' word with
  | [ends] => range? ends 1
  | [ends, step] => (Numeral.ofHex? step).bind (range? ends)
  | _ => none

/-- The runs that lines of words write. -/
def ofLines (lines : List String) : List CodeRun :=
  lines.flatMap fun line => (Parts.split ' ' line.toList).filterMap ofWord?

/-- The code point lies in one of the runs. -/
def covered (runs : List CodeRun) (code : Nat) : Bool :=
  runs.any fun run => run.covers code

end CodeRun

end BuildStamp
