set_option autoImplicit false

/-!
Flags of a command line and the words that hold them. A flag has a long name and perhaps a letter;
a value stands in a word of its own, or in the flag's word: behind an equals sign, or right behind
the letter.
-/

namespace BuildStamp.CommandLine

/-- What a flag stands for: a switch, a value of some kind, or a request for information. -/
inductive FlagKind
  | switch
  | text
  | path
  | choice (names : List String)
  | help
  | version
  deriving DecidableEq

/-- The flag takes a value. -/
def FlagKind.takesValue : FlagKind → Bool
  | .text => true
  | .path => true
  | .choice _ => true
  | _ => false

/-- A value that the flag accepts: any text, a path that is not empty, or one of the choices. -/
def FlagKind.accepts (kind : FlagKind) (value : String) : Bool :=
  match kind with
  | .path => value ≠ ""
  | .choice names => names.contains value
  | _ => true

/-- A flag: its names and its kind, whether it has to be given, and the flag it cannot be given
together with. -/
structure Flag where
  name : String
  letter : Option Char
  kind : FlagKind
  isRequired : Bool
  rival : Option String
  deriving DecidableEq

/-- Why a command line is not carried out. Two of the reasons are requests for information. -/
inductive Refusal
  | unknownArgument
  | unknownCommand
  | invalidValue
  | surplusValue
  | conflict
  | missingFlag
  | helpRequest
  | versionRequest
  deriving DecidableEq

/-- The exit status: a request for information is no failure. -/
def Refusal.exitCode : Refusal → Nat
  | .helpRequest => 0
  | .versionRequest => 0
  | _ => 2

/-- What a word looks like: the mark that ends the flags, a flag by its name, a flag by its letter
with what follows it, or anything else. -/
inductive Word
  | mark
  | long (name : String) (attached : Option String)
  | short (letter : Char) (attached : String)
  | plain
  deriving DecidableEq

/-- A long flag's name and the value behind its equals sign. -/
def Word.ofLong (text : List Char) : Word :=
  let name := text.takeWhile (· ≠ '=')
  match text.drop name.length with
  | [] => .long (String.ofList name) none
  | _ :: value => .long (String.ofList name) (some (String.ofList value))

/-- What a word looks like. A single dash and the empty word are nothing special. -/
def Word.of (word : String) : Word :=
  match word.toList with
  | ['-', '-'] => .mark
  | '-' :: '-' :: rest => .ofLong rest
  | '-' :: letter :: rest => .short letter (String.ofList rest)
  | _ => .plain

/-- The value in the word of a flag given by its letter. One equals sign in front is left out. -/
def attachedValue? (text : String) : Option String :=
  match text.toList with
  | [] => none
  | '=' :: rest => some (String.ofList rest)
  | _ => some text

end BuildStamp.CommandLine
