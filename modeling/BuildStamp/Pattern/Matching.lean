import BuildStamp.Pattern.Basic

set_option autoImplicit false

/-!
Whether a pattern occurs in a text. The gaps of a text are counted from its start, and a set of
gaps is a number whose binary digits are the gaps. A pattern leads from every set of gaps to the
set of those where a match that begins in the first may end; it occurs in a text if it leads
anywhere from the set of all gaps.
-/

namespace BuildStamp

/-- A set of gaps: the binary digit of a gap is set if the gap belongs to it. -/
abbrev GapSet := Nat

namespace Gap

/-- The gaps of a text behind a character. -/
def ofTextBehind (before : Option Char) : List Char → List Gap
  | [] => [⟨before, none⟩]
  | c :: rest => ⟨before, some c⟩ :: ofTextBehind (some c) rest

/-- The gaps of a text. -/
def ofText (text : List Char) : List Gap :=
  ofTextBehind none text

/-- The set of those gaps for which a condition holds. -/
def setOf (condition : Gap → Bool) : List Gap → GapSet
  | [] => 0
  | gap :: rest => 2 * setOf condition rest + (condition gap).toNat

end Gap

/-- A pattern laid over a text. Instead of characters and demands it has the gaps where they are
met: of the former those to step over the next character from, of the latter those to stay at. -/
inductive Overlay
  | empty
  | step (gaps : GapSet)
  | stay (gaps : GapSet)
  | sequence (first second : Overlay)
  | either (one other : Overlay)
  | repeated (body : Overlay) (least : Nat) (most : Option Nat)
  deriving DecidableEq

namespace Overlay

/-- Where some steps lead, one after the other. -/
def afterSteps (step : GapSet → GapSet) : Nat → GapSet → GapSet
  | 0, gaps => gaps
  | count + 1, gaps => afterSteps step count (step gaps)

/-- Where at most some steps lead. No more are taken once they lead nowhere new. -/
def withinSteps (step : GapSet → GapSet) : Nat → GapSet → GapSet
  | 0, gaps => gaps
  | count + 1, gaps =>
    let more := gaps ||| step gaps
    if more = gaps then gaps else withinSteps step count more

/-- The gaps where matches end that begin in a set of gaps. The number of gaps of the text bounds
how often anything need be repeated: a repetition that has gone on for so long has stood still
once, and could do so any number of times. -/
def ends (count : Nat) : Overlay → GapSet → GapSet
  | .empty, starts => starts
  | .step gaps, starts => (starts &&& gaps) <<< 1
  | .stay gaps, starts => starts &&& gaps
  | .sequence first second, starts => second.ends count (first.ends count starts)
  | .either one other, starts => one.ends count starts ||| other.ends count starts
  | .repeated body least most, starts =>
    let step (gaps : GapSet) : GapSet := body.ends count gaps
    let further := match most with
      | some most => min (most - least) count
      | none => count
    withinSteps step further (afterSteps step (min least count) starts)

end Overlay

namespace Pattern

/-- The pattern laid over the gaps of a text. -/
def overlay (gaps : List Gap) : Pattern → Overlay
  | .empty => .empty
  | .oneOf set => .step (Gap.setOf (fun gap => gap.after.any set.contains) gaps)
  | .anchor demand => .stay (Gap.setOf demand.holds gaps)
  | .sequence first second => .sequence (first.overlay gaps) (second.overlay gaps)
  | .either one other => .either (one.overlay gaps) (other.overlay gaps)
  | .repeated body least most => .repeated (body.overlay gaps) least most

/-- The pattern matches somewhere in a text. -/
def occursIn (pattern : Pattern) (text : List Char) : Bool :=
  let gaps := Gap.ofText text
  (pattern.overlay gaps).ends gaps.length (Gap.setOf (fun _ => true) gaps) ≠ 0

end Pattern

end BuildStamp
