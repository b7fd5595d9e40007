import BuildStamp.Pattern.Bracket
import BuildStamp.Pattern.Matching

set_option autoImplicit false

/-!
Patterns in writing. Reading goes through the text once and keeps the groups that are open. There
is nothing a pattern could refer back to, nor can it look ahead or behind; how often a repetition
would rather go on makes no difference to whether a pattern occurs, and is not kept.
-/

namespace BuildStamp.Pattern

/-- What has been read of a group: the flags that hold again behind it, the alternatives before the
present one, and of that one the last piece, which a sign of repetition would repeat, and all
before it. -/
structure Group where
  flagsBehind : Flags
  alternatives : Option Pattern
  before : Pattern
  last : Option Pattern
  deriving DecidableEq

namespace Group

/-- A group of which nothing has been read. -/
def opened (flagsBehind : Flags) : Group :=
  ⟨flagsBehind, none, .empty, none⟩

/-- The present alternative. -/
def present (group : Group) : Pattern :=
  match group.last with
  | none => group.before
  | some last => .sequence group.before last

/-- All that has been read. -/
def whole (group : Group) : Pattern :=
  match group.alternatives with
  | none => group.present
  | some others => .either others group.present

/-- The group with one more piece. -/
def add (group : Group) (piece : Pattern) : Group :=
  { group with before := group.present, last := some piece }

/-- The group with nothing to repeat at its end. -/
def rest (group : Group) : Group :=
  { group with before := group.present, last := none }

/-- The group at the beginning of its next alternative. -/
def next (group : Group) : Group :=
  { group with alternatives := some group.whole, before := .empty, last := none }

/-- The group with its last piece repeated. -/
def repeat? (group : Group) (least : Nat) (most : Option Nat) : Option Group :=
  group.last.map fun last => { group with last := some (.repeated last least most) }

end Group

/-- A reading at work: the flags that hold now, the names given to groups, and the groups that are
open, the innermost apart. -/
structure Reading where
  flags : Flags
  names : List (List Char)
  group : Group
  outer : List Group
  deriving DecidableEq

namespace Reading

/-- The reading with one more piece. -/
def add (reading : Reading) (piece : Pattern) : Reading :=
  { reading with group := reading.group.add piece }

/-- The reading in a new group. -/
def push (reading : Reading) (flags : Flags) : Reading :=
  { reading with
    flags
    group := .opened reading.flags
    outer := reading.group :: reading.outer }

/-- The reading behind its innermost group, unless none has been opened. -/
def pop? (reading : Reading) : Option Reading :=
  match reading.outer with
  | [] => none
  | enclosing :: outer =>
    some { reading with
      flags := reading.group.flagsBehind
      group := enclosing.add reading.group.whole
      outer }

/-- A character that a name may begin with. -/
def beginsName (c : Char) : Bool :=
  c = '_' || (CharSet.ofProperty .alphabetic).contains c

/-- A character that a name may go on with. -/
def continuesName (c : Char) : Bool :=
  beginsName c || (CharSet.ofCategories CharCategory.numbers).contains c ||
    c = '.' || c = '[' || c = ']'

/-- The reading in a new group with the name that follows, which no other group has. -/
def pushNamed? (reading : Reading) (text : List Char) : Option (Reading × List Char) :=
  match Parts.cut? ['>'] text with
  | some (first :: others, rest) =>
    let name := first :: others
    if !beginsName first || !others.all continuesName || reading.names.contains name then none
    else some (({ reading with names := name :: reading.names }).push reading.flags, rest)
  | _ => none

/-- The reading behind an opening parenthesis: in a new group, which may have a name or flags of
its own, or with its flags changed from here on. -/
def open? (reading : Reading) (text : List Char) : Option (Reading × List Char) :=
  let text := reading.flags.skip text
  let begins (sign : String) : Option (List Char) := Parts.behind? sign.toList text
  if (["?=", "?!", "?<=", "?<!"].any fun sign => (begins sign).isSome) then none
  else
    match (begins "?P<").orElse fun _ => begins "?<" with
    | some named => reading.pushNamed? named
    | none =>
      match begins "?" with
      | none => some (reading.push reading.flags, text)
      | some letters =>
        match Flags.readChanges true false [] letters with
        | none => none
        | some (changes, true, rest) => some (reading.push (reading.flags.switchAll changes), rest)
        | some ([], false, _) => none
        | some (changes, false, rest) =>
          some ({ reading with
            flags := reading.flags.switchAll changes
            group := reading.group.rest }, rest)

/-- The text without the sign that makes a repetition go on no longer than it has to. -/
def skipLazy (text : List Char) : List Char :=
  (Parts.behind? ['?'] text).getD text

/-- A number in decimal digits, white space around it, and what follows. The largest one is that of
32 bits. -/
def decimal? (flags : Flags) (text : List Char) : Option (Nat × List Char) :=
  let (digits, rest) := flags.span Char.isDigit (text.dropWhile WhiteSpace.isBlank)
  let value := (String.ofList digits).toNat?
  match value with
  | some value =>
    if value < UInt32.size then some (value, flags.skip (rest.dropWhile WhiteSpace.isBlank))
    else none
  | none => none

/-- The bounds of a repetition whose opening brace has been read: one number for both, or a comma
behind the lower one. -/
def count? (flags : Flags) (text : List Char) : Option (Nat × Option Nat × List Char) := do
  let close := Char.ofNat 0x7D
  let (least, text) ← decimal? flags (flags.skip text)
  match Parts.behind? [','] text with
  | none => return (least, some least, ← Parts.behind? [close] text)
  | some text =>
    let text := flags.skip text
    match Parts.behind? [close] text with
    | some rest => return (least, none, rest)
    | none =>
      let (most, text) ← decimal? flags text
      if most < least then none
      else return (least, some most, ← Parts.behind? [close] text)

/-- The reading with its last piece repeated. -/
def repeat? (reading : Reading) (least : Nat) (most : Option Nat) : Option Reading :=
  (reading.group.repeat? least most).map fun group => { reading with group }

/-- The pattern that a single sign means. -/
def meant? (flags : Flags) : Meaning → Option Pattern
  | .literal c isByte =>
    if isByte && !flags.has .unicode && 0x80 ≤ c.toNat then none
    else some (.oneOf (flags.inCase (.only c)))
  | .set set => some (.oneOf set)
  | .anchor demand => some (.anchor demand)

/-- The characters that a dot stands for: all but those that end a line, or really all. Without
Unicode there is no telling which those are. -/
def dot? (flags : Flags) : Option CharSet :=
  if !flags.has .unicode then none
  else if flags.has .dotAll then some .all
  else if flags.has .carriage then some (.complement (.union (.only '\n') (.only '\r')))
  else some (.complement (.only '\n'))

/-- The demand at the beginning or the end of what lines count as. -/
def lineAnchor (flags : Flags) (atStart : Bool) : Anchor :=
  match flags.has .manyLines, atStart with
  | true, true => .lineStart (flags.has .carriage)
  | true, false => .lineEnd (flags.has .carriage)
  | false, true => .textStart
  | false, false => .textEnd

/-- The reading behind the sign that a text begins with, and what follows that. -/
def step? (reading : Reading) : List Char → Option (Reading × List Char)
  | [] => none
  | c :: rest =>
    let flags := reading.flags
    let piece (pattern : Option Pattern) (rest : List Char) : Option (Reading × List Char) :=
      pattern.map fun pattern => (reading.add pattern, rest)
    let repetition (least : Nat) (most : Option Nat) : Option (Reading × List Char) :=
      (reading.repeat? least most).map fun reading => (reading, skipLazy rest)
    if c = '(' then reading.open? rest
    else if c = ')' then reading.pop?.map fun reading => (reading, rest)
    else if c = '|' then some ({ reading with group := reading.group.next }, rest)
    else if c = '[' then
      (Bracket.read? flags rest).bind fun (set, rest) => piece (some (.oneOf set)) rest
    else if c = '?' then repetition 0 (some 1)
    else if c = '*' then repetition 0 none
    else if c = '+' then repetition 1 none
    else if c = Char.ofNat 0x7B then
      (count? flags rest).bind fun (least, most, rest) =>
        (reading.repeat? least most).map fun reading => (reading, skipLazy (flags.skip rest))
    else if c = '.' then piece ((dot? flags).map Pattern.oneOf) rest
    else if c = '^' then piece (some (.anchor (lineAnchor flags true))) rest
    else if c = '$' then piece (some (.anchor (lineAnchor flags false))) rest
    else if c = '\\' then
      (Escape.read? flags rest).bind fun (sign, rest) => piece (meant? flags sign) rest
    else piece (meant? flags (.literal c false)) rest

/-- The pattern of all that has been read and of a text. The number bounds the signs in it. -/
def finish? : Nat → Reading → List Char → Option Pattern
  | 0, _, _ => none
  | bound + 1, reading, text =>
    match reading.flags.skip text with
    | [] => if reading.outer = [] then some reading.group.whole else none
    | text => (reading.step? text).bind fun (reading, rest) => finish? bound reading rest

end Reading

/-- The pattern that a text writes. -/
def ofText? (text : List Char) : Option Pattern :=
  Reading.finish? (text.length + 1) ⟨.usual, [], .opened .usual, []⟩ text

end BuildStamp.Pattern
