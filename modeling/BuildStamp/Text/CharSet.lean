import BuildStamp.Text.CaseFolding
import BuildStamp.Text.CharCategory
import BuildStamp.Text.CharProperty
import BuildStamp.Text.CharScript
import BuildStamp.Text.WhiteSpace

set_option autoImplicit false

/-!
Sets of characters: what is written down of one, and whether a character belongs to it.
-/

namespace BuildStamp

/-- A set of characters. -/
inductive CharSet
  | ofRuns (runs : List CodeRun)
  | complement (set : CharSet)
  | union (one other : CharSet)
  | inter (one other : CharSet)
  | inAnyCase (set : CharSet)
  | inAnyAsciiCase (set : CharSet)
  deriving DecidableEq

namespace CharSet

/-- A character belongs to the set. -/
def contains : CharSet → Char → Bool
  | .ofRuns runs, c => CodeRun.covered runs c.toNat
  | .complement set, c => !set.contains c
  | .union one other, c => one.contains c || other.contains c
  | .inter one other, c => one.contains c && other.contains c
  | .inAnyCase set, c => (CaseFolding.variants c).any fun variant => set.contains variant
  | .inAnyAsciiCase set, c =>
    (CaseFolding.asciiVariants c).any fun variant => set.contains variant

/-- The set without members. -/
def none : CharSet :=
  .ofRuns []

/-- The set of all characters. -/
def all : CharSet :=
  .complement none

/-- The set of one character. -/
def only (c : Char) : CharSet :=
  .ofRuns [.only c.toNat]

/-- The characters from one to another. -/
def between (first last : Char) : CharSet :=
  .ofRuns [⟨first.toNat, last.toNat, 1⟩]

/-- The members of one set that the other has not. -/
def without (one other : CharSet) : CharSet :=
  .inter one (.complement other)

/-- The characters that belong to exactly one of two sets. -/
def differing (one other : CharSet) : CharSet :=
  .union (one.without other) (other.without one)

/-- The characters of ASCII. -/
def ascii : CharSet :=
  .ofRuns [⟨0x00, 0x7F, 1⟩]

/-- The characters of some categories. -/
def ofCategories (categories : List CharCategory) : CharSet :=
  .ofRuns (CharCategory.runs categories)

/-- The characters without a category. -/
def unassigned : CharSet :=
  .complement (ofCategories CharCategory.all)

/-- The characters with a property. -/
def ofProperty (property : CharProperty) : CharSet :=
  let exceptions := CharSet.ofRuns (CodeRun.ofLines property.exceptions)
  if property.categories = [] then exceptions
  else differing (ofCategories property.categories) exceptions

/-- The decimal digits of all scripts. -/
def digits : CharSet :=
  ofCategories [.decimalNumber]

/-- The White_Space property. -/
def whiteSpace : CharSet :=
  .ofRuns (WhiteSpace.ranges.map fun range => ⟨range.1, range.2, 1⟩)

/-- The characters of words in all scripts: letters and what is used like them, marks, digits,
connecting punctuation and the two characters that only join or part letters. -/
def words : CharSet :=
  .union
    (ofCategories
      (CharCategory.letters ++ CharCategory.marks ++
        [.decimalNumber, .letterNumber, .connectorPunctuation]))
    (.ofRuns (CodeRun.ofLines ["200C-200D 24B6-24E9 1F130-1F149 1F150-1F169 1F170-1F189"]))

/-- The decimal digits of ASCII. -/
def asciiDigits : CharSet :=
  between '0' '9'

/-- The white space of ASCII. -/
def asciiWhiteSpace : CharSet :=
  .ofRuns [⟨0x09, 0x0D, 1⟩, .only 0x20]

/-- The letters of ASCII. -/
def asciiLetters : CharSet :=
  .union (between 'a' 'z') (between 'A' 'Z')

/-- The letters and digits of ASCII. -/
def asciiAlphanumerics : CharSet :=
  .union asciiLetters asciiDigits

/-- The characters of words in ASCII. -/
def asciiWords : CharSet :=
  .union asciiAlphanumerics (only '_')

end CharSet

end BuildStamp
