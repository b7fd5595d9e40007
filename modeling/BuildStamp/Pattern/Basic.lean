import BuildStamp.Text.CharSet

set_option autoImplicit false

/-!
Patterns for texts, and what they may ask of a place in a text. A place is a gap between two
characters, so a text has one more of them than characters.
-/

namespace BuildStamp

/-- A gap of a text: the characters on both sides, of which one is missing at either end. -/
structure Gap where
  before : Option Char
  after : Option Char
  deriving DecidableEq

/-- How a gap may lie to the words of a text. The halves look at one side only. -/
inductive WordEdge
  | boundary
  | noBoundary
  | start
  | finish
  | startHalf
  | finishHalf
  deriving DecidableEq

/-- The gap lies so, given whether a character of a word stands before it and after it. -/
def WordEdge.holds : WordEdge → Bool → Bool → Bool
  | .boundary, before, after => before != after
  | .noBoundary, before, after => before == after
  | .start, before, after => !before && after
  | .finish, before, after => before && !after
  | .startHalf, before, _ => !before
  | .finishHalf, _, after => !after

/-- What is asked of a gap. Lines end with a line feed, and where carriage returns count, with one
of those as well or with both together. Words are those of all scripts or of ASCII alone. -/
inductive Anchor
  | textStart
  | textEnd
  | lineStart (carriage : Bool)
  | lineEnd (carriage : Bool)
  | wordEdge (edge : WordEdge) (asciiOnly : Bool)
  deriving DecidableEq

/-- The characters that words are made of. -/
def wordCharacters (asciiOnly : Bool) : CharSet :=
  if asciiOnly then .asciiWords else .words

/-- The gap is as asked. No line begins or ends between a carriage return and its line feed where
both together end one. -/
def Anchor.holds : Anchor → Gap → Bool
  | .textStart, gap => gap.before.isNone
  | .textEnd, gap => gap.after.isNone
  | .lineStart carriage, gap =>
    gap.before.isNone || gap.before == some '\n' ||
      (carriage && gap.before == some '\r' && gap.after != some '\n')
  | .lineEnd carriage, gap =>
    gap.after.isNone || (gap.after == some '\n' && !(carriage && gap.before == some '\r')) ||
      (carriage && gap.after == some '\r')
  | .wordEdge edge asciiOnly, gap =>
    let inWord := (wordCharacters asciiOnly).contains
    edge.holds (gap.before.any inWord) (gap.after.any inWord)

/-- A pattern: nothing at all, one character of a set, a demand on a gap, one pattern behind
another, either of two, or one a number of times, which may have no upper bound. -/
inductive Pattern
  | empty
  | oneOf (set : CharSet)
  | anchor (demand : Anchor)
  | sequence (first second : Pattern)
  | either (one other : Pattern)
  | repeated (body : Pattern) (least : Nat) (most : Option Nat)
  deriving DecidableEq

end BuildStamp
