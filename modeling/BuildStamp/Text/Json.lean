import BuildStamp.Text.Numeral

set_option autoImplicit false

/-!
JSON strings and flat objects of strings, written compactly and read back. Written, a string
escapes the quote, the backslash and the controls below U+0020 and nothing else, so a written
object never holds a line feed.
-/

namespace BuildStamp.Json

/-- The digit of a number below sixteen. -/
def hexDigit (n : Nat) : Char :=
  if n < 10 then Char.ofNat (48 + n) else Char.ofNat (87 + n)

/-- One character inside a string. -/
def escape (c : Char) : List Char :=
  if c = '\"' ∨ c = '\\' then ['\\', c]
  else if c = '\n' then ['\\', 'n']
  else if c = '\r' then ['\\', 'r']
  else if c = '\t' then ['\\', 't']
  else if c = Char.ofNat 0x08 then ['\\', 'b']
  else if c = Char.ofNat 0x0C then ['\\', 'f']
  else if c.toNat < 0x20 then
    ['\\', 'u', '0', '0', hexDigit (c.toNat / 16), hexDigit (c.toNat % 16)]
  else [c]

/-- A string with its quotes. -/
def stringChars (content : String) : List Char :=
  '\"' :: content.toList.flatMap escape ++ ['\"']

/-- The members of an object, without its braces. -/
def membersChars : List (String × String) → List Char
  | [] => []
  | [member] => stringChars member.1 ++ ':' :: stringChars member.2
  | member :: members =>
    stringChars member.1 ++ ':' :: stringChars member.2 ++ ',' :: membersChars members

/-- An object whose members are strings, in the order given. -/
def object (members : List (String × String)) : String :=
  String.ofList (Char.ofNat 0x7B :: membersChars members ++ [Char.ofNat 0x7D])

/-- The character that a letter stands for behind a backslash. -/
def unescape? (c : Char) : Option Char :=
  if c = '\"' ∨ c = '\\' ∨ c = '/' then some c
  else if c = 'n' then some '\n'
  else if c = 'r' then some '\r'
  else if c = 't' then some '\t'
  else if c = 'b' then some (Char.ofNat 0x08)
  else if c = 'f' then some (Char.ofNat 0x0C)
  else none

/-- The characters of a string whose opening quote has been read, and what follows its closing
quote. Code points are read where they name a character by themselves; surrogates are refused. -/
def readString : List Char → Option (List Char × List Char)
  | [] => none
  | '\"' :: rest => some ([], rest)
  | '\\' :: 'u' :: a :: b :: c :: d :: rest =>
    match Numeral.hexValue? a, Numeral.hexValue? b, Numeral.hexValue? c, Numeral.hexValue? d with
    | some a, some b, some c, some d =>
      let code := ((a * 16 + b) * 16 + c) * 16 + d
      if code.isValidChar then
        (readString rest).map fun read => (Char.ofNat code :: read.1, read.2)
      else none
    | _, _, _, _ => none
  | '\\' :: c :: rest =>
    match unescape? c with
    | some c => (readString rest).map fun read => (c :: read.1, read.2)
    | none => none
  | c :: rest =>
    if c.toNat < 0x20 ∨ c = '\\' then none
    else (readString rest).map fun read => (c :: read.1, read.2)

/-- The members of an object up to its closing brace, which ends the text. The first argument
bounds their number. -/
def readMembers : Nat → List Char → Option (List (String × String))
  | 0, _ => none
  | bound + 1, '\"' :: rest =>
    match readString rest with
    | some (name, ':' :: '\"' :: rest) =>
      match readString rest with
      | some (value, ',' :: rest) =>
        (readMembers bound rest).map ((String.ofList name, String.ofList value) :: ·)
      | some (value, [close]) =>
        if close = Char.ofNat 0x7D then some [(String.ofList name, String.ofList value)] else none
      | _ => none
    | _ => none
  | _ + 1, _ => none

/-- The members of a compactly written object whose members are strings. -/
def readObject (text : String) : Option (List (String × String)) :=
  match text.toList with
  | [] => none
  | brace :: rest =>
    if brace ≠ Char.ofNat 0x7B then none
    else if rest = [Char.ofNat 0x7D] then some []
    else readMembers (rest.length + 1) rest

end BuildStamp.Json
