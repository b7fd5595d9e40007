import BuildStamp.Toml.Character

set_option autoImplicit false

/-!
The values of a document. Numbers and date-times are kept as they are written. A table and an
array remember how they came to be, because that decides what the rest of the document may still
add to them.
-/

namespace BuildStamp.Toml

/-- How a table came to be: as a part of a longer header's path, as a part of a dotted key, by a
header of its own, or between braces. -/
inductive TableOrigin
  | path
  | dotted
  | header
  | braces
  deriving DecidableEq

/-- How an array came to be: between brackets, or by headers that add a table each. -/
inductive ArrayOrigin
  | brackets
  | headers
  deriving DecidableEq

/-- A value of a document. -/
inductive Value
  | string (text : String)
  | integer (literal : String)
  | float (literal : String)
  | boolean (value : Bool)
  | dateTime (literal : String)
  | array (origin : ArrayOrigin) (elements : List Value)
  | table (origin : TableOrigin) (entries : List (String × Value))

/-- The entries of a table in the order they were made, each key once. -/
abbrev Entries := List (String × Value)

end BuildStamp.Toml
