import BuildStamp.Text.Numeral
import BuildStamp.Text.Printable

set_option autoImplicit false

/-!
Texts between double quotes, as diagnostics show them. A double quote and a backslash get a
backslash in front, four controls have a letter of their own, and any other character that cannot
be shown is written as its code point in hexadecimal between braces.
-/

namespace BuildStamp.Quoted

/-- The code point of a character between braces, without leading zeros. -/
def escapedCode (c : Char) : List Char :=
  ['\\', 'u', Char.ofNat 0x7B] ++ Nat.toDigits 16 c.toNat ++ [Char.ofNat 0x7D]

/-- One character between quotes. -/
def character (c : Char) : List Char :=
  if c = Char.ofNat 0 then ['\\', '0']
  else if c = '\t' then ['\\', 't']
  else if c = '\r' then ['\\', 'r']
  else if c = '\n' then ['\\', 'n']
  else if c = '\"' ∨ c = '\\' then ['\\', c]
  else if Printable.isPrintable c then [c]
  else escapedCode c

/-- A text between quotes. -/
def text (content : String) : String :=
  String.ofList ('\"' :: content.toList.flatMap character ++ ['\"'])

/-- Something optional that has been written already: the word for absence, or the word for
presence with it between parentheses. -/
def optional : Option String → String
  | none => "None"
  | some written => "Some(" ++ written ++ ")"

/-- A record with named fields between braces, in the order given. -/
def record (name : String) (fields : List (String × String)) : String :=
  name ++ " \x7b " ++ ", ".intercalate (fields.map fun field => field.1 ++ ": " ++ field.2) ++
    " \x7d"

end BuildStamp.Quoted
