import BuildStamp.Pattern.PropertyName

set_option autoImplicit false

/-!
What a backslash begins in a pattern: a character by its code or its letter, a character that
would mean something without it, a class of characters, or a demand on a gap.
-/

namespace BuildStamp.Pattern

/-- What one sign of a pattern means. A character may be written as a byte, by two digits. -/
inductive Meaning
  | literal (c : Char) (isByte : Bool)
  | set (set : CharSet)
  | anchor (demand : Anchor)
  deriving DecidableEq

namespace Escape

/-- The character of a code, if there is one. -/
def character? (digits : List Char) : Option Char :=
  (Numeral.ofHex? digits).bind fun code => if code.isValidChar then some (Char.ofNat code) else none

/-- A number of characters, and what follows them. -/
def take? (flags : Flags) : Nat → List Char → Option (List Char × List Char)
  | 0, text => some ([], text)
  | count + 1, text =>
    match flags.skip text with
    | [] => none
    | c :: rest => (take? flags count rest).map fun read => (c :: read.1, read.2)

/-- What stands up to a closing brace, and what follows that. -/
def braced? (flags : Flags) (text : List Char) : Option (List Char × List Char) :=
  let close := Char.ofNat 0x7D
  match flags.span (fun c => c ≠ close) text with
  | (content, _ :: rest) => some (content, rest)
  | (_, []) => none

/-- The character with the code that follows, of so many digits or between braces. -/
def coded? (flags : Flags) (length : Nat) (text : List Char) : Option (Meaning × List Char) :=
  let text := flags.skip text
  if text.head? = some (Char.ofNat 0x7B) then
    (braced? flags (text.drop 1)).bind fun (digits, rest) =>
      (character? digits).map fun c => (.literal c false, rest)
  else
    (take? flags length text).bind fun (digits, rest) =>
      (character? digits).map fun c => (.literal c (length = 2), rest)

/-- The class of characters whose property is named by the next letter or between braces. -/
def property? (flags : Flags) (negated : Bool) (text : List Char) :
    Option (Meaning × List Char) :=
  match flags.skip text with
  | [] => none
  | c :: rest =>
    if c = Char.ofNat 0x7B then
      (braced? flags rest).bind fun (name, rest) =>
        (PropertyName.set? flags negated name).map fun set => (.set set, rest)
    else if c = '\\' then none
    else (PropertyName.set? flags negated [c]).map fun set => (.set set, rest)

/-- The class of characters of a letter: digits, white space, or what words are made of. -/
def class? (flags : Flags) (letter : Char) : Option CharSet :=
  let unicode := flags.has .unicode
  if letter = 'd' then some (if unicode then .digits else .asciiDigits)
  else if letter = 's' then some (if unicode then .whiteSpace else .asciiWhiteSpace)
  else if letter = 'w' then some (wordCharacters !unicode)
  else none

/-- The kinds of edges of words that have names of their own. -/
def edges : List (String × WordEdge) :=
  [("start", .start), ("end", .finish), ("start-half", .startHalf), ("end-half", .finishHalf)]

/-- A word's edge behind its letter: any, or the one named between braces. Braces around something
else than a name are left to be a count. -/
def boundary? (flags : Flags) (text : List Char) : Option (WordEdge × List Char) :=
  let inName (c : Char) : Bool := c.isAlpha || c = '-'
  if text.head? ≠ some (Char.ofNat 0x7B) then some (.boundary, text)
  else
    match flags.span inName (text.drop 1) with
    | (_, []) => none
    | ([], _) => some (.boundary, text)
    | (name, c :: rest) =>
      if c ≠ Char.ofNat 0x7D then none
      else (edges.lookup (String.ofList name)).map fun edge => (edge, rest)

/-- The control character of a letter. -/
def control? (letter : Char) : Option Char :=
  [('a', 0x07), ('f', 0x0C), ('t', 0x09), ('n', 0x0A), ('r', 0x0D), ('v', 0x0B)].lookup letter
    |>.map Char.ofNat

/-- A character that a backslash leaves as it is: of ASCII, and neither a letter nor a digit. The
angles stand for edges of words. -/
def staysItself (c : Char) : Bool :=
  c.toNat < 0x80 && !c.isAlphanum && c ≠ '<' && c ≠ '>'

/-- The meaning of a backslash, given what follows it, and what follows that. -/
def read? (flags : Flags) : List Char → Option (Meaning × List Char)
  | [] => none
  | c :: rest =>
    let anchor (demand : Anchor) : Option (Meaning × List Char) := some (.anchor demand, rest)
    let edge (kind : WordEdge) : Anchor := .wordEdge kind !(flags.has .unicode)
    if staysItself c then some (.literal c false, rest)
    else if c = 'x' then coded? flags 2 rest
    else if c = 'u' then coded? flags 4 rest
    else if c = 'U' then coded? flags 8 rest
    else if c = 'p' ∨ c = 'P' then property? flags (c = 'P') rest
    else if c = 'A' then anchor .textStart
    else if c = 'z' then anchor .textEnd
    else if c = 'B' then anchor (edge .noBoundary)
    else if c = '<' then anchor (edge .start)
    else if c = '>' then anchor (edge .finish)
    else if c = 'b' then
      (boundary? flags rest).map fun (kind, rest) => (.anchor (edge kind), rest)
    else
      match class? flags c.toLower with
      | some set => (flags.side? c.isUpper set).map fun set => (.set set, rest)
      | none => (control? c).map fun c => (.literal c false, rest)

end Escape

end BuildStamp.Pattern
