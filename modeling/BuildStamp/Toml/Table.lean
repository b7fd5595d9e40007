import BuildStamp.Toml.Value

set_option autoImplicit false

/-!
How a document's tables grow. No key is ever given a second value. A dotted key extends only what
dotted keys have made, a header fills in only what longer headers have named, and nothing extends
a table between braces or an array between brackets.
-/

namespace BuildStamp.Toml

/-- What a header opens: a table of its own, or one more table of an array. -/
inductive HeaderKind
  | table
  | element
  deriving DecidableEq

namespace Entries

/-- The entries with another value for a key that is among them. -/
def replace (entries : Entries) (key : String) (value : Value) : Entries :=
  entries.map fun entry => if entry.1 = key then (key, value) else entry

/-- The entries with the value of a dotted key among them. -/
def assign : List String → Value → Entries → Except Cause Entries
  | [], _, entries => .ok entries
  | [key], value, entries =>
    match entries.lookup key with
    | none => .ok (entries ++ [(key, value)])
    | some _ => .error (.duplicateKey key)
  | key :: more, value, entries =>
    match entries.lookup key with
    | none =>
      match assign more value [] with
      | .ok inner => .ok (entries ++ [(key, .table .dotted inner)])
      | .error cause => .error cause
    | some (.table .dotted inner) =>
      match assign more value inner with
      | .ok inner => .ok (replace entries key (.table .dotted inner))
      | .error cause => .error cause
    | some _ => .error (.closedTable key)

/-- The entries of the table that a header leads to behind a key, and the value made of it again
from other entries: the table itself, or the last one of an array that headers have made. -/
def reach? : Value → Option (Entries × (Entries → Value))
  | .table .braces _ => none
  | .table origin inner => some (inner, .table origin)
  | .array .headers elements =>
    match elements.getLast? with
    | some (.table origin inner) =>
      some (inner, fun inner => .array .headers (elements.dropLast ++ [.table origin inner]))
    | _ => none
  | _ => none

/-- The entries with a header's last key among them. -/
def openLast (kind : HeaderKind) (key : String) (entries : Entries) : Except Cause Entries :=
  match kind, entries.lookup key with
  | .table, none => .ok (entries ++ [(key, .table .header [])])
  | .table, some (.table .path inner) => .ok (replace entries key (.table .header inner))
  | .element, none => .ok (entries ++ [(key, .array .headers [.table .header []])])
  | .element, some (.array .headers elements) =>
    .ok (replace entries key (.array .headers (elements ++ [.table .header []])))
  | _, _ => .error (.duplicateKey key)

/-- The entries with the table of a header among them. -/
def openHeader (kind : HeaderKind) : List String → Entries → Except Cause Entries
  | [], entries => .ok entries
  | [key], entries => openLast kind key entries
  | key :: more, entries =>
    match entries.lookup key with
    | none =>
      match openHeader kind more [] with
      | .ok inner => .ok (entries ++ [(key, .table .path inner)])
      | .error cause => .error cause
    | some value =>
      match reach? value with
      | none => .error (.closedTable key)
      | some (inner, rebuilt) =>
        match openHeader kind more inner with
        | .ok inner => .ok (replace entries key (rebuilt inner))
        | .error cause => .error cause

/-- The entries with those changed that belong to the table of a header. -/
def within (change : Entries → Except Cause Entries) :
    List String → Entries → Except Cause Entries
  | [], entries => change entries
  | key :: more, entries =>
    match (entries.lookup key).bind reach? with
    | none => .error (.closedTable key)
    | some (inner, rebuilt) =>
      match within change more inner with
      | .ok inner => .ok (replace entries key (rebuilt inner))
      | .error cause => .error cause

end Entries

end BuildStamp.Toml
