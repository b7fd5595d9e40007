import BuildStamp.Toml.Fault

set_option autoImplicit false

/-!
The classes of characters that a TOML document is made of, and what may stand between its parts:
blanks, comments and line ends. A carriage return counts only in front of a line feed.
-/

namespace BuildStamp.Toml

/-- A blank inside a line. -/
def isBlank (c : Char) : Bool :=
  c = ' ' || c = '\t'

/-- A control character other than the tab. Such characters stand nowhere but in line ends. -/
def isControl (c : Char) : Bool :=
  (c.toNat < 0x20 && c ≠ '\t') || c.toNat = 0x7F

/-- A decimal digit. -/
def isDigit (c : Char) : Bool :=
  '0' ≤ c && c ≤ '9'

/-- A character that a key may hold without quotes. -/
def isBare (c : Char) : Bool :=
  isDigit c || ('a' ≤ c && c ≤ 'z') || ('A' ≤ c && c ≤ 'Z') || c = '-' || c = '_'

/-- The characters behind blanks. -/
def skipBlanks (text : List Char) : List Char :=
  text.dropWhile isBlank

/-- The characters behind one line end, if the text begins with one. -/
def lineEnd? : List Char → Option (List Char)
  | '\n' :: rest => some rest
  | '\r' :: '\n' :: rest => some rest
  | _ => none

/-- The characters behind a comment, if the text begins with one. Its line end stays. -/
def skipComment (text : List Char) : Except Fault (List Char) :=
  match text with
  | '#' :: rest =>
    let behind := rest.dropWhile fun c => !isControl c
    match behind with
    | [] => .ok []
    | _ :: _ => if (lineEnd? behind).isSome then .ok behind else refuse .controlCharacter behind
  | _ => .ok text

/-- What follows the last thing on a line: blanks, a comment, and the line's end or the text's. -/
def finishLine (text : List Char) : Except Fault (List Char) :=
  match skipComment (skipBlanks text) with
  | .error fault => .error fault
  | .ok [] => .ok []
  | .ok rest =>
    match lineEnd? rest with
    | some behind => .ok behind
    | none => refuse (.missing "the end of the line") rest

/-- The characters behind blanks, comments and line ends. The first argument bounds the steps. -/
def skipFiller : Nat → List Char → Except Fault (List Char)
  | 0, text => .ok text
  | bound + 1, text =>
    match skipComment (skipBlanks text) with
    | .error fault => .error fault
    | .ok rest =>
      match lineEnd? rest with
      | some behind => skipFiller bound behind
      | none => .ok rest

end BuildStamp.Toml
