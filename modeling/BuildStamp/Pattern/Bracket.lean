import BuildStamp.Pattern.Escape

set_option autoImplicit false

/-!
Sets of characters between brackets: characters, ranges, classes and further brackets one after
the other, all of them or all but them, and such lists joined by operators, which are taken from
left to right.
-/

namespace BuildStamp.Pattern

/-- What joins two sets. -/
inductive SetOperator
  | intersection
  | difference
  | symmetricDifference
  deriving DecidableEq

namespace SetOperator

/-- The sign of an operator is a character that stands twice. -/
def ofSign? (c : Char) : Option SetOperator :=
  if c = '&' then some .intersection
  else if c = '-' then some .difference
  else if c = '~' then some .symmetricDifference
  else none

/-- Two sets joined. -/
def join : SetOperator → CharSet → CharSet → CharSet
  | .intersection, one, other => .inter one other
  | .difference, one, other => one.without other
  | .symmetricDifference, one, other => one.differing other

end SetOperator

/-- What has been read of a bracket: whether it is negated, what stands before the last operator,
and the members behind it. -/
structure Bracket where
  negated : Bool
  left : Option (CharSet × SetOperator)
  members : CharSet
  deriving DecidableEq

namespace Bracket

/-- The bracket with more members. -/
def add (bracket : Bracket) (set : CharSet) : Bracket :=
  { bracket with members := .union bracket.members set }

/-- What has been read, without the negation. Operators join sets of characters in any case if case
does not count. -/
def joined (flags : Flags) (bracket : Bracket) : CharSet :=
  match bracket.left with
  | none => bracket.members
  | some (left, operator) => operator.join (flags.inCase left) (flags.inCase bracket.members)

/-- The bracket behind an operator. -/
def operate (flags : Flags) (operator : SetOperator) (bracket : Bracket) : Bracket :=
  { bracket with left := some (bracket.joined flags, operator), members := .none }

/-- The set of a bracket that is closed. -/
def set? (flags : Flags) (bracket : Bracket) : Option CharSet :=
  flags.side? bracket.negated (flags.inCase (bracket.joined flags))

/-- A bracket whose opening has been read, up to the members that could be signs: hyphens, or else
a closing bracket. -/
def open? (flags : Flags) (text : List Char) : Option (Bracket × List Char) :=
  let text := flags.skip text
  let negated := text.head? = some '^'
  let behind := if negated then flags.skip (text.drop 1) else text
  let (hyphens, rest) := flags.span (fun c => c = '-') behind
  let found (set : CharSet) (rest : List Char) : Option (Bracket × List Char) :=
    if rest = [] then none else some (⟨negated, none, set⟩, rest)
  if hyphens ≠ [] then found (.only '-') rest
  else if rest.head? = some ']' then found (.only ']') (flags.skip (rest.drop 1))
  else found .none rest

/-- The classes of ASCII characters that have names. -/
def asciiClasses : List (String × CharSet) :=
  [
    ("alnum", .asciiAlphanumerics),
    ("alpha", .asciiLetters),
    ("ascii", .ascii),
    ("blank", .union (.only '\t') (.only ' ')),
    ("cntrl", .ofRuns [⟨0x00, 0x1F, 1⟩, .only 0x7F]),
    ("digit", .asciiDigits),
    ("graph", .between '!' '~'),
    ("lower", .between 'a' 'z'),
    ("print", .between ' ' '~'),
    ("punct", .ofRuns [⟨0x21, 0x2F, 1⟩, ⟨0x3A, 0x40, 1⟩, ⟨0x5B, 0x60, 1⟩, ⟨0x7B, 0x7E, 1⟩]),
    ("space", .asciiWhiteSpace),
    ("upper", .between 'A' 'Z'),
    ("word", .asciiWords),
    ("xdigit", .union .asciiDigits (.union (.between 'a' 'f') (.between 'A' 'F')))
  ]

/-- A named class between an opening bracket, which has been read, and a closing one, with a colon
inside of each: the class, whether it is negated, and what follows. -/
def asciiClass? (text : List Char) : Option (CharSet × Bool × List Char) := do
  let named ← Parts.behind? [':'] text
  let negated := named.head? = some '^'
  let (name, rest) ← Parts.cut? [':'] (if negated then named.drop 1 else named)
  let rest ← Parts.behind? [']'] rest
  let set ← asciiClasses.lookup (String.ofList name)
  return (set, negated, rest)

/-- One character or class of a bracket. -/
def member? (flags : Flags) : List Char → Option (Meaning × List Char)
  | [] => none
  | '\\' :: rest => Escape.read? flags rest
  | c :: rest => some (.literal c false, rest)

/-- The character that a sign means inside a bracket. Without Unicode it has to be of ASCII. -/
def character? (flags : Flags) : Meaning → Option Char
  | .literal c _ => if flags.has .unicode || c.toNat < 0x80 then some c else none
  | _ => none

/-- The set that a sign means inside a bracket. -/
def meant? (flags : Flags) : Meaning → Option CharSet
  | .set set => some set
  | sign => (character? flags sign).map CharSet.only

/-- The character that decides whether a hyphen stands for itself: the first one behind it that
counts. One number sign is passed over in a spaced pattern, but not the comment behind it. -/
def behindHyphen (flags : Flags) (text : List Char) : Option Char :=
  if flags.has .spaced then
    match text.dropWhile WhiteSpace.isBlank with
    | '#' :: rest => (rest.dropWhile WhiteSpace.isBlank).head?
    | rest => rest.head?
  else text.head?

/-- A character, a class or a range of characters. A hyphen makes a range unless a closing bracket
or another hyphen follows. -/
def item? (flags : Flags) (text : List Char) : Option (CharSet × List Char) :=
  match member? flags text with
  | none => none
  | some (first, rest) =>
    let single : Option (CharSet × List Char) := (meant? flags first).map fun set => (set, rest)
    match flags.skip rest with
    | [] => none
    | '-' :: behind =>
      let next := behindHyphen flags behind
      if next = some ']' ∨ next = some '-' then single
      else
        match member? flags (flags.skip behind) with
        | none => none
        | some (last, rest) =>
          match character? flags first, character? flags last with
          | some first, some last =>
            if first ≤ last then some (.between first last, rest) else none
          | _, _ => none
    | _ => single

/-- The set of a bracket and what follows it, with the brackets around it, the innermost first.
The first argument bounds the number of steps. -/
def readFrom? (flags : Flags) : Nat → Bracket → List Bracket → List Char →
    Option (CharSet × List Char)
  | 0, _, _, _ => none
  | bound + 1, bracket, outer, text =>
    match flags.skip text with
    | [] => none
    | '[' :: rest =>
      match asciiClass? rest with
      | some (set, negated, rest) =>
        (flags.side? negated (flags.inCase set)).bind fun set =>
          readFrom? flags bound (bracket.add set) outer rest
      | none =>
        (open? flags rest).bind fun (inner, rest) =>
          readFrom? flags bound inner (bracket :: outer) rest
    | ']' :: rest =>
      match bracket.set? flags, outer with
      | none, _ => none
      | some set, [] => some (set, rest)
      | some set, enclosing :: outer => readFrom? flags bound (enclosing.add set) outer rest
    | c :: rest =>
      match SetOperator.ofSign? c, decide (rest.head? = some c) with
      | some operator, true =>
        readFrom? flags bound (bracket.operate flags operator) outer (rest.drop 1)
      | _, _ =>
        (item? flags (c :: rest)).bind fun (set, rest) =>
          readFrom? flags bound (bracket.add set) outer rest

/-- The set of the bracket whose opening sign has been read, and what follows it. -/
def read? (flags : Flags) (text : List Char) : Option (CharSet × List Char) :=
  (open? flags text).bind fun (bracket, rest) =>
    readFrom? flags (rest.length + 1) bracket [] rest

end Bracket

end BuildStamp.Pattern
