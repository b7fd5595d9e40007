import BuildStamp.CommandLine.Flag

set_option autoImplicit false

/-!
Reading the words of one level of a command line. A flag whose value stands in the next word is
pending until something else begins, and only then is it looked at, so that an unknown word further
on is reported before a bad value.
-/

namespace BuildStamp.CommandLine

/-- A flag whose word has been read, and the value behind it, if that has been read too. -/
structure Pending where
  flag : Flag
  value : Option String
  deriving DecidableEq

/-- What has been read of a level: the flags with their values under their long names, and the
pending one. A switch has an empty value. -/
structure Scan where
  given : List (String × String)
  pending : Option Pending
  deriving DecidableEq

namespace Scan

/-- Nothing has been read. -/
def start : Scan :=
  ⟨[], none⟩

/-- The next word that is no flag will be a value. -/
def isAwaiting (scan : Scan) : Bool :=
  match scan.pending with
  | some ⟨_, none⟩ => true
  | _ => false

/-- The scan with the pending flag's value. -/
def fill (scan : Scan) (value : String) : Scan :=
  { scan with pending := scan.pending.map fun pending => ⟨pending.flag, some value⟩ }

/-- The scan with a flag and its value. No flag may be given twice. -/
def record (scan : Scan) (flag : Flag) (value : String) : Except Refusal Scan :=
  if (scan.given.lookup flag.name).isSome then .error .conflict
  else if flag.kind.accepts value then
    .ok { scan with given := scan.given ++ [(flag.name, value)] }
  else .error .invalidValue

/-- The scan with nothing pending. -/
def settle (scan : Scan) : Except Refusal Scan :=
  match scan.pending with
  | none => .ok scan
  | some ⟨_, none⟩ => .error .invalidValue
  | some ⟨flag, some value⟩ => record { scan with pending := none } flag value

/-- The scan after a flag that has been found, and the value in its word. -/
def take (scan : Scan) (flag : Flag) (attached : Option String) : Except Refusal Scan :=
  match scan.settle with
  | .error refusal => .error refusal
  | .ok scan =>
    match flag.kind with
    | .help => .error .helpRequest
    | .version => .error .versionRequest
    | .switch => scan.record flag ""
    | _ =>
      match attached with
      | some value => scan.record flag value
      | none => .ok { scan with pending := some ⟨flag, none⟩ }

/-- The scan after a flag given by its name. -/
def takeLong (flags : List Flag) (scan : Scan) (name : String) (attached : Option String) :
    Except Refusal Scan :=
  match flags.find? fun flag => flag.name = name with
  | none => .error .unknownArgument
  | some flag =>
    if flag.kind.takesValue = false ∧ attached.isSome then .error .surplusValue
    else scan.take flag attached

/-- The scan after a flag given by its letter. -/
def takeShort (flags : List Flag) (scan : Scan) (letter : Char) (rest : String) :
    Except Refusal Scan :=
  match flags.find? fun flag => flag.letter = some letter with
  | none => .error .unknownArgument
  | some flag => scan.take flag (attachedValue? rest)

/-- What is said to a word that is neither a flag nor a value. Where commands are expected it is
taken for one, unless it stands behind the mark and is one. -/
def outOfPlace (commands : List String) (behindMark : Bool) (word : String) : Refusal :=
  if commands = [] then .unknownArgument
  else if behindMark = true ∧ commands.contains word = true then .unknownArgument
  else .unknownCommand

/-- A command's name and the words behind it. -/
abbrev Call := String × List String

/-- The flags among the words of a level, up to the name of a command, if one comes. -/
def words (flags : List Flag) (commands : List String) :
    Scan → List String → Except Refusal (Scan × Option Call)
  | scan, [] => .ok (scan, none)
  | scan, word :: rest =>
    match Word.of word with
    | .mark =>
      match rest with
      | [] => .ok (scan, none)
      | next :: _ => .error (outOfPlace commands true next)
    | .long name attached =>
      match scan.takeLong flags name attached with
      | .error refusal => .error refusal
      | .ok scan => words flags commands scan rest
    | .short letter attached =>
      match scan.takeShort flags letter attached with
      | .error refusal => .error refusal
      | .ok scan => words flags commands scan rest
    | .plain =>
      if scan.isAwaiting then words flags commands (scan.fill word) rest
      else if commands.contains word then .ok (scan, some (word, rest))
      else .error (outOfPlace commands false word)

/-- A flag that was given although its rival was. -/
def hasConflict (flags : List Flag) (given : List (String × String)) : Bool :=
  flags.any fun flag =>
    match flag.rival with
    | none => false
    | some rival => (given.lookup flag.name).isSome && (given.lookup rival).isSome

/-- A flag that has to be given and was not. -/
def isIncomplete (flags : List Flag) (given : List (String × String)) : Bool :=
  flags.any fun flag => flag.isRequired && (given.lookup flag.name).isNone

/-- The flags of a level that has been read to its end. -/
def finish (flags : List Flag) (scan : Scan) : Except Refusal (List (String × String)) :=
  match scan.settle with
  | .error refusal => .error refusal
  | .ok scan =>
    if hasConflict flags scan.given then .error .conflict
    else if isIncomplete flags scan.given then .error .missingFlag
    else .ok scan.given

end Scan

end BuildStamp.CommandLine
