import BuildStamp.Text.CharSet

set_option autoImplicit false

/-!
Texts in lower case. Each character goes by itself but for the capital sigma, which has a form of
its own at the end of a word: where a cased letter stands in front of it and none behind it. What
has no bearing on case, such as marks and apostrophes, is passed over on both sides.
-/

namespace BuildStamp.LowerCase

/-- The capital sigma. -/
def capitalSigma : Char :=
  Char.ofNat 0x3A3

/-- The small sigma inside a word. -/
def sigma : Char :=
  Char.ofNat 0x3C3

/-- The small sigma at the end of a word. -/
def finalSigma : Char :=
  Char.ofNat 0x3C2

/-- The first character with a bearing on case is a cased letter. -/
def opensCased (text : List Char) : Bool :=
  match text.dropWhile (CharSet.ofProperty .caseIgnorable).contains with
  | [] => false
  | c :: _ => (CharSet.ofProperty .cased).contains c

/-- The lower case of a character between what stands in front of it, the nearest first, and what
stands behind it. -/
def ofCharBetween (front back : List Char) (c : Char) : List Char :=
  if c = capitalSigma then
    if opensCased front && !opensCased back then [finalSigma] else [sigma]
  else ofChar c

/-- The lower case of what is left of a text behind the characters read so far, the last one
first. -/
def ofCharsBehind : List Char → List Char → List Char
  | _, [] => []
  | front, c :: back => ofCharBetween front back c ++ ofCharsBehind (c :: front) back

/-- The lower case of a text. -/
def ofText (text : String) : String :=
  String.ofList (ofCharsBehind [] text.toList)

end BuildStamp.LowerCase
