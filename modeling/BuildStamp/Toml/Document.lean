import BuildStamp.Toml.Term

set_option autoImplicit false

/-!
Documents of version 1.1 of the format: statements line by line, each a header or a key with its
value, and the tables that they make one after the other. What follows a header belongs to its
table. A byte order mark in front of the text is not part of it.
-/

namespace BuildStamp.Toml

/-- What a line states. -/
inductive Statement
  | header (kind : HeaderKind) (path : List String)
  | entry (path : List String) (value : Value)

/-- The statement a text begins with. -/
def readStatement (text : List Char) : Step Statement :=
  match text with
  | '[' :: '[' :: rest =>
    match readPath rest with
    | .error fault => .error fault
    | .ok (path, ']' :: ']' :: rest) => .ok (.header .element path, rest)
    | .ok (_, rest) => refuse (.missing "two brackets") rest
  | '[' :: rest =>
    match readPath rest with
    | .error fault => .error fault
    | .ok (path, ']' :: rest) => .ok (.header .table path, rest)
    | .ok (_, rest) => refuse (.missing "a bracket") rest
  | text =>
    match readAssignee text with
    | .error fault => .error fault
    | .ok (path, rest) =>
      match readValue (2 * rest.length + 2) nestingLimit rest with
      | .error fault => .error fault
      | .ok (value, rest) => .ok (.entry path value, rest)

/-- The tables made so far, and the path of the header that the next entries belong to. -/
structure Draft where
  root : Entries
  path : List String

namespace Draft

/-- The draft with one statement more. -/
def add (draft : Draft) : Statement → Except Cause Draft
  | .header kind path =>
    match Entries.openHeader kind path draft.root with
    | .ok root => .ok ⟨root, path⟩
    | .error cause => .error cause
  | .entry path value =>
    match Entries.within (Entries.assign path value) draft.path draft.root with
    | .ok root => .ok ⟨root, draft.path⟩
    | .error cause => .error cause

/-- The draft with all statements of a text added. The first argument bounds their number. -/
def addAll : Nat → Draft → List Char → Except Fault Draft
  | 0, draft, _ => .ok draft
  | bound + 1, draft, text =>
    match skipFiller (text.length + 1) text with
    | .error fault => .error fault
    | .ok [] => .ok draft
    | .ok (c :: text) =>
      match readStatement (c :: text) with
      | .error fault => .error fault
      | .ok (statement, rest) =>
        match finishLine rest with
        | .error fault => .error fault
        | .ok behind =>
          match located (c :: text) (draft.add statement) with
          | .error fault => .error fault
          | .ok draft => addAll bound draft behind

end Draft

/-- The entries of a document. -/
def read (text : String) : Except Fault Entries :=
  let content :=
    match text.toList with
    | [] => []
    | c :: rest => if c = Char.ofNat 0xFEFF then rest else c :: rest
  match Draft.addAll (content.length + 1) ⟨[], []⟩ content with
  | .ok draft => .ok draft.root
  | .error fault => .error fault

end BuildStamp.Toml
