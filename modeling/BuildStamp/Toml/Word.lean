import BuildStamp.Toml.Value

set_option autoImplicit false

/-!
The values that are written without quotes or brackets: booleans, integers, floats and
date-times. Each is one word, and every word has at most one reading. Of a decimal integer only
the beginning and the neighbours of its underscores are looked at, because it stays a literal
until somebody asks for its value.
-/

namespace BuildStamp.Toml.Word

/-- The text without the sign it may begin with. -/
def unsigned : List Char → List Char
  | '+' :: rest => rest
  | '-' :: rest => rest
  | text => text

/-- A hexadecimal digit. -/
def isHexDigit (c : Char) : Bool :=
  isDigit c || ('a' ≤ c && c ≤ 'f') || ('A' ≤ c && c ≤ 'F')

/-- Every underscore stands between two characters of a kind. The flag says whether the character
in front of the text is of that kind. -/
def separates (ofKind : Char → Bool) : Bool → List Char → Bool
  | _, [] => true
  | before, '_' :: rest => before && rest.head?.any ofKind && separates ofKind false rest
  | _, c :: rest => separates ofKind (ofKind c) rest

/-- Underscores in a number stand between digits of a kind, so none stands in front or behind a
sign. -/
def isSpaced (ofKind : Char → Bool) (text : List Char) : Bool :=
  separates ofKind false text

/-- The digits behind the marker of a base: all of its kind, or none at all. -/
def isBased (ofKind : Char → Bool) (digits : List Char) : Bool :=
  digits.all (fun c => ofKind c || c = '_') && isSpaced ofKind digits

/-- What follows the decimal digits and underscores that a text begins with. There has to be a
digit among them, and where that is asked for, no needless zero in front. -/
def decimals? (plain : Bool) (text : List Char) : Option (List Char) :=
  let run := text.takeWhile fun c => isDigit c || c = '_'
  let count := run.countP isDigit
  if count = 0 ∨ (plain ∧ 1 < count ∧ run.head? = some '0') then none
  else some (text.drop run.length)

/-- What follows a fraction, if there is one. -/
def fraction? : List Char → Option (List Char)
  | '.' :: rest => decimals? false rest
  | text => some text

/-- What follows an exponent, if there is one. -/
def exponent? : List Char → Option (List Char)
  | [] => some []
  | c :: rest => if c = 'e' ∨ c = 'E' then decimals? false (unsigned rest) else some (c :: rest)

/-- A float without a sign, underscores anywhere between its digits. -/
def isFloat (magnitude : List Char) : Bool :=
  (((decimals? true magnitude).bind fraction?).bind exponent?) = some []

/-- The number that decimal digits write. -/
def number (digits : List Char) : Nat :=
  digits.foldl (fun value c => value * 10 + (c.toNat - '0'.toNat)) 0

/-- The number of days of a month. -/
def daysIn (year month : Nat) : Nat :=
  if month = 2 then
    if year % 4 = 0 ∧ (year % 100 ≠ 0 ∨ year % 400 = 0) then 29 else 28
  else if month = 4 ∨ month = 6 ∨ month = 9 ∨ month = 11 then 30
  else 31

/-- What follows a date at the beginning of a text. -/
def date? : List Char → Option (List Char)
  | a :: b :: c :: d :: '-' :: e :: f :: '-' :: g :: h :: rest =>
    let year := number [a, b, c, d]
    let month := number [e, f]
    let day := number [g, h]
    if [a, b, c, d, e, f, g, h].all isDigit ∧ 1 ≤ month ∧ month ≤ 12 ∧ 1 ≤ day ∧
        day ≤ daysIn year month then some rest
    else none
  | _ => none

/-- What follows the seconds and their fraction, if there are any. -/
def seconds? : List Char → Option (List Char)
  | ':' :: a :: b :: rest =>
    if isDigit a ∧ isDigit b ∧ number [a, b] ≤ 60 then
      match rest with
      | '.' :: digits =>
        let behind := digits.dropWhile isDigit
        if behind.length < digits.length then some behind else none
      | _ => some rest
    else none
  | ':' :: _ => none
  | text => some text

/-- What follows hours and minutes at the beginning of a text. -/
def clock? : List Char → Option (List Char)
  | a :: b :: ':' :: c :: d :: rest =>
    if [a, b, c, d].all isDigit ∧ number [a, b] ≤ 23 ∧ number [c, d] ≤ 59 then some rest else none
  | _ => none

/-- What follows a time of day at the beginning of a text. -/
def time? (text : List Char) : Option (List Char) :=
  (clock? text).bind seconds?

/-- A distance from universal time. -/
def isZone (text : List Char) : Bool :=
  match text with
  | ['Z'] => true
  | ['z'] => true
  | sign :: rest => (sign = '+' || sign = '-') && clock? rest = some []
  | [] => false

/-- A date, a time of day, or both with a letter or a blank between them and perhaps a zone. -/
def isDateTime (text : List Char) : Bool :=
  match date? text with
  | some [] => true
  | some (mark :: rest) =>
    if mark = 'T' ∨ mark = 't' ∨ mark = ' ' then
      match time? rest with
      | some [] => true
      | some zone => isZone zone
      | none => false
    else false
  | none => time? text = some []

/-- The characters that make a float of a number. -/
def marksFloat (c : Char) : Bool :=
  c = '.' || c = 'e' || c = 'E'

/-- The value of a word that begins with a decimal digit, perhaps behind a sign. What stands
behind the first digits decides what it is. -/
def decimal? (word : List Char) : Option Value :=
  let magnitude := unsigned word
  let behind := magnitude.dropWhile isDigit
  let isPlain := magnitude.head? ≠ some '0'
  match behind with
  | [] => if isPlain ∨ magnitude.length = 1 then some (.integer (String.ofList word)) else none
  | mark :: _ =>
    if mark = '-' ∨ mark = ':' then
      if isDateTime word then some (.dateTime (String.ofList word)) else none
    else if behind.contains ' ' then none
    else if behind.any marksFloat then
      if isFloat magnitude ∧ isSpaced isDigit word then some (.float (String.ofList word)) else none
    else if mark = '_' ∧ isPlain ∧ isSpaced isHexDigit word then
      some (.integer (String.ofList word))
    else none

/-- The value of a word that is a number or a date-time. -/
def number? (word : List Char) : Option Value :=
  let based (ofKind : Char → Bool) (digits : List Char) : Option Value :=
    if isBased ofKind digits then some (.integer (String.ofList word)) else none
  match word with
  | '0' :: 'x' :: digits => based isHexDigit digits
  | '0' :: 'o' :: digits => based (fun c => '0' ≤ c && c ≤ '7') digits
  | '0' :: 'b' :: digits => based (fun c => c = '0' || c = '1') digits
  | _ =>
    if unsigned word = "inf".toList ∨ unsigned word = "nan".toList then
      some (.float (String.ofList word))
    else if unsigned word = [] then none
    else decimal? word

/-- The value of a word. -/
def value? (word : List Char) : Option Value :=
  if word = "true".toList then some (.boolean true)
  else if word = "false".toList then some (.boolean false)
  else number? word

/-- A character that ends a word wherever it stands. -/
def isEnd (c : Char) : Bool :=
  c = '\n' || c = '\r' || c = '#' || c = '=' || c = ',' || c = '[' || c = ']' ||
    c = Char.ofNat 0x7B || c = Char.ofNat 0x7D

/-- A character that no word goes on with behind blanks. -/
def staysBehind (c : Char) : Bool :=
  isEnd c || c = '.' || c = '\"' || c = '\''

/-- The word behind the characters already found, which stand in reverse, and the text behind it.
The blanks since then, in reverse as well, and the text from the first of them on are kept until
it is clear whether the word goes on. -/
def readOnto (found blanks mark : List Char) : List Char → List Char × List Char
  | [] => (found.reverse, if blanks = [] then [] else mark)
  | c :: rest =>
    let mark := if blanks = [] then c :: rest else mark
    if isBlank c then readOnto found (c :: blanks) mark rest
    else if isEnd c ∨ (blanks ≠ [] ∧ staysBehind c) then (found.reverse, mark)
    else readOnto (c :: (blanks ++ found)) [] mark rest

/-- The word a text begins with, and the text behind it. Blanks belong to the word if it goes on
behind them, as a date does with a time. -/
def read (text : List Char) : List Char × List Char :=
  readOnto [] [] text text

end BuildStamp.Toml.Word
