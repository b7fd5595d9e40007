import BuildStamp.Pattern.Flags

set_option autoImplicit false

/-!
Sets of characters by the names of their properties: a property that a character has or has not, a
general category, or a script. The case of letters, separators and a leading "is" do not count.
-/

namespace BuildStamp.Pattern.PropertyName

/-- A name without what does not count in it. Where only a "c" would be left behind "is", all
three letters stay. -/
def plain (name : List Char) : String :=
  let lower := name.map Char.toLower
  let counts (c : Char) : Bool := c.toNat < 0x80 && c ≠ ' ' && c ≠ '_' && c ≠ '-'
  match lower with
  | 'i' :: 's' :: rest =>
    let kept := rest.filter counts
    if kept = ['c'] then "isc" else String.ofList kept
  | _ => String.ofList (lower.filter counts)

/-- The characters of a category, of a group of categories, or of all, given its name. -/
def category? (name : String) : Option CharSet :=
  if name = "any" then some .all
  else if name = "ascii" then some .ascii
  else if name = "assigned" then some (.complement .unassigned)
  else if name = "cn" ∨ name = "unassigned" then some .unassigned
  else if name = "c" ∨ name = "other" then
    some (.union (.ofCategories [.control, .format, .privateUse]) .unassigned)
  else (CharCategory.ofName? name).map CharSet.ofCategories

/-- The characters of a script, given its name. -/
def script? (name : String) : Option CharSet :=
  (CharScript.runs? name).map CharSet.ofRuns

/-- The characters with a property, of a category or of a script, given its name alone. -/
def single? (name : String) : Option CharSet :=
  match CharProperty.ofName? name with
  | some property => some (.ofProperty property)
  | none =>
    match category? name with
    | some set => some set
    | none => script? name

/-- The characters for which something has a value, both given by their names. -/
def valued? (name value : String) : Option CharSet :=
  if name = "gc" ∨ name = "generalcategory" then category? value
  else if name = "sc" ∨ name = "script" then script? value
  else none

/-- The characters that a text between braces asks for: a name, or a name and a value with a sign
between them that says whether it has that value or another one. -/
def set? (flags : Flags) (negated : Bool) (text : List Char) : Option CharSet :=
  let chosen (negated : Bool) (set : Option CharSet) : Option CharSet :=
    set.bind fun set => flags.side? negated (flags.inCase set)
  if !flags.has .unicode then none
  else
    match Parts.cut? "!=".toList text with
    | some (name, value) => chosen (!negated) (valued? (plain name) (plain value))
    | none =>
      match (Parts.cut? ":".toList text).orElse fun _ => Parts.cut? "=".toList text with
      | some (name, value) => chosen negated (valued? (plain name) (plain value))
      | none => chosen negated (single? (plain text))

end BuildStamp.Pattern.PropertyName
