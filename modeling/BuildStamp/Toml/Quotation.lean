import BuildStamp.Text.Numeral
import BuildStamp.Toml.Character

set_option autoImplicit false

/-!
Quoted strings in their four forms: between one or three quotes, and with escapes between double
quotes or without between single ones. Reading looks at one character at a time, and at the next
two where a quote or a carriage return stands. Three quotes end a long string, and of two more
behind them each still belongs to it.
-/

namespace BuildStamp.Toml

/-- The form of a string: its quote, whether it may hold escapes, and whether three quotes delimit
it, so that it may hold line ends. -/
structure Quotation where
  quote : Char
  escapes : Bool
  long : Bool
  deriving DecidableEq

namespace Quotation

/-- Where the reader stands: in the content, behind a backslash, in the digits of a code point,
or in the white space that a backslash at the end of a line takes out. -/
inductive Mode
  | content
  | escaped
  | code (missing value : Nat)
  | folding (lineEnded : Bool)
  deriving DecidableEq

/-- What one character does: it closes the string, with some characters more and the text behind
it, or leads on, with the characters it stands for, or is out of place. -/
inductive Outcome
  | closed (last rest : List Char)
  | next (mode : Mode) (found : List Char)
  | refused (cause : Cause)

/-- The end of a long string whose first closing quote has been read, if it is one. -/
def closing? (quote : Char) : List Char → Option (List Char × List Char)
  | a :: b :: c :: d :: rest =>
    if a = quote ∧ b = quote then
      if c = quote ∧ d = quote then some ([quote, quote], rest)
      else if c = quote then some ([quote], d :: rest)
      else some ([], c :: d :: rest)
    else none
  | [a, b, c] =>
    if a = quote ∧ b = quote then
      if c = quote then some ([quote], []) else some ([], [c])
    else none
  | [a, b] => if a = quote ∧ b = quote then some ([], []) else none
  | _ => none

/-- One character of the content, in front of the given text. -/
def inContent (form : Quotation) (c : Char) (rest : List Char) : Outcome :=
  if c = form.quote then
    if form.long then
      match closing? form.quote rest with
      | some (last, behind) => .closed last behind
      | none => .next .content [c]
    else .closed [] rest
  else if form.escapes ∧ c = '\\' then .next .escaped []
  else if form.long ∧ (lineEnd? (c :: rest)).isSome then .next .content [c]
  else if isControl c then .refused .controlCharacter
  else .next .content [c]

/-- The character that a letter stands for behind a backslash. -/
def letter? (c : Char) : Option Char :=
  if c = 'b' then some (Char.ofNat 0x08)
  else if c = 't' then some '\t'
  else if c = 'n' then some '\n'
  else if c = 'f' then some (Char.ofNat 0x0C)
  else if c = 'r' then some '\r'
  else if c = 'e' then some (Char.ofNat 0x1B)
  else if c = '\"' ∨ c = '\\' then some c
  else none

/-- The number of digits of a code point behind its letter. -/
def codeLength? (c : Char) : Option Nat :=
  if c = 'x' then some 2 else if c = 'u' then some 4 else if c = 'U' then some 8 else none

/-- One character of white space to be taken out, in front of the given text. Once the line has
ended, anything else goes on with the content. -/
def inFold (form : Quotation) (lineEnded : Bool) (c : Char) (rest : List Char) : Outcome :=
  if isBlank c then .next (.folding lineEnded) []
  else if c = '\n' then .next (.folding true) []
  else if (lineEnd? (c :: rest)).isSome then .next (.folding lineEnded) []
  else if lineEnded then inContent form c rest
  else .refused .badEscape

/-- One character behind a backslash. -/
def inEscape (form : Quotation) (c : Char) (rest : List Char) : Outcome :=
  match letter? c with
  | some c => .next .content [c]
  | none =>
    match codeLength? c with
    | some length => .next (.code length 0) []
    | none => if form.long then inFold form false c rest else .refused .badEscape

/-- One digit of a code point. The last one completes a character, unless there is none of that
code point. -/
def inCode (missing value : Nat) (c : Char) : Outcome :=
  match Numeral.hexValue? c with
  | none => .refused .badEscape
  | some digit =>
    let value := value * 16 + digit
    if 1 < missing then .next (.code (missing - 1) value) []
    else if value.isValidChar then .next .content [Char.ofNat value]
    else .refused .badEscape

/-- One character. -/
def step (form : Quotation) (mode : Mode) (c : Char) (rest : List Char) : Outcome :=
  match mode with
  | .content => inContent form c rest
  | .escaped => inEscape form c rest
  | .code missing value => inCode missing value c
  | .folding lineEnded => inFold form lineEnded c rest

/-- The string behind the characters already found, which stand in reverse, and the text behind
its closing quotes. -/
def readOnto (form : Quotation) : Mode → List Char → List Char → Step String
  | _, _, [] => refuse .unclosedString []
  | mode, found, c :: rest =>
    match step form mode c rest with
    | .closed last behind => .ok (String.ofList (found.reverse ++ last), behind)
    | .next mode more => readOnto form mode (more.reverse ++ found) rest
    | .refused cause => refuse cause (c :: rest)

/-- The string whose opening quotes have been read. A line end right behind three quotes is not
part of it. -/
def read (form : Quotation) (text : List Char) : Step String :=
  if form.long then readOnto form .content [] ((lineEnd? text).getD text)
  else readOnto form .content [] text

/-- The form of the string that a text begins with, and the text behind its opening quotes. -/
def open? : List Char → Option (Quotation × List Char)
  | [] => none
  | quote :: rest =>
    if quote = '\"' ∨ quote = '\'' then
      match rest with
      | a :: b :: behind =>
        if a = quote ∧ b = quote then some (⟨quote, quote = '\"', true⟩, behind)
        else some (⟨quote, quote = '\"', false⟩, rest)
      | _ => some (⟨quote, quote = '\"', false⟩, rest)
    else none

end Quotation

end BuildStamp.Toml
