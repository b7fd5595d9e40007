import BuildStamp.Pattern.Basic

set_option autoImplicit false

/-!
How the signs of a written pattern are meant. Flags are switched on and off inside the pattern,
each by a letter. In a spaced pattern white space between the signs does not count, nor does a
comment, which goes from a number sign to the end of its line.
-/

namespace BuildStamp.Pattern

/-- What can be switched. -/
inductive Flag
  | anyCase
  | manyLines
  | dotAll
  | lazy
  | unicode
  | carriage
  | spaced
  deriving DecidableEq

/-- The flag of a letter. -/
def Flag.ofLetter? (c : Char) : Option Flag :=
  if c = 'i' then some .anyCase
  else if c = 'm' then some .manyLines
  else if c = 's' then some .dotAll
  else if c = 'U' then some .lazy
  else if c = 'u' then some .unicode
  else if c = 'R' then some .carriage
  else if c = 'x' then some .spaced
  else none

/-- The flags that are on. -/
abbrev Flags := List Flag

namespace Flags

/-- The flags that a pattern begins with. -/
def usual : Flags :=
  [.unicode]

/-- The flag is on. -/
def has (flags : Flags) (flag : Flag) : Bool :=
  flags.contains flag

/-- The flags after one of them has been switched on or off. -/
def switch (flags : Flags) (change : Flag × Bool) : Flags :=
  if change.2 then change.1 :: flags else flags.filter fun flag => flag ≠ change.1

/-- The flags after some changes. -/
def switchAll (flags : Flags) (changes : List (Flag × Bool)) : Flags :=
  changes.foldl switch flags

/-- The changes that letters ask for up to a colon or a closing parenthesis, whether it is a colon,
and what follows. Letters behind a minus sign switch off. There is at most one such sign, a letter
behind it, and no letter twice. The first two arguments tell what has been read so far: whether
letters switch on, and whether the last sign was the minus. -/
def readChanges (on afterMinus : Bool) (changes : List (Flag × Bool)) :
    List Char → Option (List (Flag × Bool) × Bool × List Char)
  | [] => none
  | c :: rest =>
    if c = ':' ∨ c = ')' then if afterMinus then none else some (changes, c = ':', rest)
    else if c = '-' then if on then readChanges false true changes rest else none
    else
      match Flag.ofLetter? c with
      | none => none
      | some flag =>
        if changes.any fun change => change.1 = flag then none
        else readChanges on false (changes ++ [(flag, on)]) rest

/-- The characters of a kind that a text begins with, onto those already found, which stand in
reverse, and the text from the first of another kind on. What does not count in a spaced pattern is
left out; the second flag says that a comment is being read. -/
def spanOnto (spaced inComment : Bool) (ofKind : Char → Bool) (found : List Char) :
    List Char → List Char × List Char
  | [] => (found.reverse, [])
  | c :: rest =>
    if inComment then spanOnto spaced (c ≠ '\n') ofKind found rest
    else if spaced && WhiteSpace.isBlank c then spanOnto spaced false ofKind found rest
    else if spaced && c = '#' then spanOnto spaced true ofKind found rest
    else if ofKind c then spanOnto spaced false ofKind (c :: found) rest
    else (found.reverse, c :: rest)

/-- The characters of a kind that a text begins with, and what follows them. -/
def span (flags : Flags) (ofKind : Char → Bool) (text : List Char) : List Char × List Char :=
  spanOnto (flags.has .spaced) false ofKind [] text

/-- The text from the first character on that counts. -/
def skip (flags : Flags) (text : List Char) : List Char :=
  (flags.span (fun _ => false) text).2

/-- The set with what differs from its members in case alone, if case does not count. -/
def inCase (flags : Flags) (set : CharSet) : CharSet :=
  if !flags.has .anyCase then set
  else if flags.has .unicode then .inAnyCase set
  else .inAnyAsciiCase set

/-- The set, or the set of all other characters. Without Unicode there is no telling which those
are, so they cannot be asked for. -/
def side? (flags : Flags) (negated : Bool) (set : CharSet) : Option CharSet :=
  if !negated then some set
  else if flags.has .unicode then some (.complement set)
  else none

end Flags

end BuildStamp.Pattern
