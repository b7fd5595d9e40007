set_option autoImplicit false

/-!
Texts cut at a character, or once at another text.
-/

namespace BuildStamp.Parts

/-- The stretches of a text between the places of a character, empty ones included. -/
def split (mark : Char) : List Char → List (List Char)
  | [] => [[]]
  | c :: rest =>
    if c = mark then [] :: split mark rest
    else
      match split mark rest with
      | [] => [[c]]
      | part :: parts => (c :: part) :: parts

/-- What stands before and behind the first place where a text holds another one. -/
def cut? (mark : List Char) : List Char → Option (List Char × List Char)
  | [] => none
  | c :: rest =>
    if mark.isPrefixOf (c :: rest) then some ([], (c :: rest).drop mark.length)
    else (cut? mark rest).map fun parts => (c :: parts.1, parts.2)

/-- What follows a beginning, if the text has it. -/
def behind? (beginning text : List Char) : Option (List Char) :=
  if beginning.isPrefixOf text then some (text.drop beginning.length) else none

end BuildStamp.Parts
