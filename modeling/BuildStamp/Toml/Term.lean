import BuildStamp.Toml.Quotation
import BuildStamp.Toml.Table
import BuildStamp.Toml.Word

set_option autoImplicit false

/-!
Keys and values as they are written. Between brackets and braces, blanks, comments and line ends
may stand anywhere around the parts, and a comma may follow the last one.
-/

namespace BuildStamp.Toml

/-- The number of brackets and braces that may be open at once. -/
def nestingLimit : Nat := 80

/-- The number of keys that dots may join. -/
def pathLimit : Nat := 80

/-- The key a text begins with: bare, or a string between single quotes of either kind. -/
def readKey (text : List Char) : Step String :=
  match Quotation.open? text with
  | some (form, rest) =>
    if form.long then refuse (.missing "a key") text else form.read rest
  | none =>
    let bare := text.takeWhile isBare
    if bare = [] then refuse (.missing "a key") text
    else .ok (String.ofList bare, text.drop bare.length)

/-- The keys between dots that a text begins with, as many as the number allows, and the text
behind them and their blanks. -/
def readKeys : Nat → List Char → Step (List String)
  | 0, text => refuse .tooDeep text
  | more + 1, text =>
    match readKey (skipBlanks text) with
    | .error fault => .error fault
    | .ok (key, rest) =>
      match skipBlanks rest with
      | '.' :: behind =>
        match readKeys more behind with
        | .error fault => .error fault
        | .ok (keys, rest) => .ok (key :: keys, rest)
      | rest => .ok ([key], rest)

/-- The path a text begins with, and the text behind it and its blanks. -/
def readPath (text : List Char) : Step (List String) :=
  readKeys pathLimit text

/-- A path, and the text behind the equals sign and its blanks. All of it stands on one line. -/
def readAssignee (text : List Char) : Step (List String) :=
  match readPath text with
  | .error fault => .error fault
  | .ok (path, '=' :: rest) => .ok (path, skipBlanks rest)
  | .ok (_, rest) => refuse (.missing "an equals sign") rest

/-- A path between braces, and the text behind the equals sign. Comments and line ends may stand
on both sides of the sign. -/
def readMember (text : List Char) : Step (List String) :=
  match readPath text with
  | .error fault => .error fault
  | .ok (path, rest) =>
    match skipFiller (rest.length + 1) rest with
    | .error fault => .error fault
    | .ok ('=' :: rest) =>
      match skipFiller (rest.length + 1) rest with
      | .error fault => .error fault
      | .ok rest => .ok (path, rest)
    | .ok rest => refuse (.missing "an equals sign") rest

/-- The value of the word that a text begins with. -/
def readWord (text : List Char) : Step Value :=
  let (word, rest) := Word.read text
  if word = [] then refuse (.missing "a value") text
  else
    match Word.value? word with
    | some value => .ok (value, rest)
    | none => refuse (.badWord (String.ofList word)) text

/-- A cause met while a table was built, noticed in front of some characters. -/
def located {α : Type} (rest : List Char) : Except Cause α → Except Fault α
  | .ok result => .ok result
  | .error cause => refuse cause rest

mutual

/-- The value a text begins with. The first argument bounds the steps, the second the brackets and
braces that may still be opened. -/
def readValue : Nat → Nat → List Char → Step Value
  | 0, _, text => refuse (.missing "a value") text
  | bound + 1, depth, text =>
    match Quotation.open? text with
    | some (form, rest) =>
      match form.read rest with
      | .error fault => .error fault
      | .ok (content, rest) => .ok (.string content, rest)
    | none =>
      match text with
      | [] => refuse (.missing "a value") text
      | c :: rest =>
        if c = '[' then
          if depth = 0 then refuse .tooDeep text else readElements bound (depth - 1) [] rest
        else if c = Char.ofNat 0x7B then
          if depth = 0 then refuse .tooDeep text else readMembers bound (depth - 1) [] rest
        else readWord text

/-- The elements of an array up to its closing bracket, behind those already found, which stand in
reverse. -/
def readElements : Nat → Nat → List Value → List Char → Step Value
  | 0, _, _, text => refuse (.missing "a bracket") text
  | bound + 1, depth, found, text =>
    match skipFiller (text.length + 1) text with
    | .error fault => .error fault
    | .ok (']' :: rest) => .ok (.array .brackets found.reverse, rest)
    | .ok text =>
      match readValue bound depth text with
      | .error fault => .error fault
      | .ok (value, rest) =>
        match skipFiller (rest.length + 1) rest with
        | .error fault => .error fault
        | .ok (',' :: rest) => readElements bound depth (value :: found) rest
        | .ok (']' :: rest) => .ok (.array .brackets (value :: found).reverse, rest)
        | .ok rest => refuse (.missing "a comma or a bracket") rest

/-- The members of a table up to its closing brace, added to those already found. -/
def readMembers : Nat → Nat → Entries → List Char → Step Value
  | 0, _, _, text => refuse (.missing "a brace") text
  | bound + 1, depth, found, text =>
    match skipFiller (text.length + 1) text with
    | .error fault => .error fault
    | .ok [] => refuse (.missing "a brace") []
    | .ok (c :: rest) =>
      if c = Char.ofNat 0x7D then .ok (.table .braces found, rest)
      else
        match readMember (c :: rest) with
        | .error fault => .error fault
        | .ok (path, text) =>
          match readValue bound depth text with
          | .error fault => .error fault
          | .ok (value, rest) =>
            match located (c :: rest) (Entries.assign path value found) with
            | .error fault => .error fault
            | .ok found =>
              match skipFiller (rest.length + 1) rest with
              | .error fault => .error fault
              | .ok [] => refuse (.missing "a comma or a brace") []
              | .ok (c :: rest) =>
                if c = ',' then readMembers bound depth found rest
                else if c = Char.ofNat 0x7D then .ok (.table .braces found, rest)
                else refuse (.missing "a comma or a brace") (c :: rest)

end

end BuildStamp.Toml
