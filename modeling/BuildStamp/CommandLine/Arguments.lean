import BuildStamp.CommandLine.Scan
import BuildStamp.FileSystem.Path
import BuildStamp.Log.Layout

set_option autoImplicit false

/-!
The command line of the program: flags for all commands, then a command with flags of its own.
Without a command the build number is shown.
-/

namespace BuildStamp

/-- What an injection is asked to do. -/
structure InjectOptions where
  input : Path
  output : Path
  expected : Option String
  value : Option String
  valueFile : Option Path
  deriving DecidableEq

/-- The commands: show the build number of this program, put one into an artifact, or find the
slot of an artifact. -/
inductive Command
  | display
  | inject (options : InjectOptions)
  | locate (input : Path) (value : Option String)
  deriving DecidableEq

/-- What the words of a command line mean. -/
structure Arguments where
  configFile : Option Path
  color : Bool
  noColor : Bool
  logLevel : Option String
  logFormat : Option String
  logFile : Option Path
  command : Option Command
  deriving DecidableEq

namespace CommandLine

/-- The flag that asks for help. -/
def helpFlag : Flag :=
  ⟨"help", some 'h', .help, false, none⟩

/-- The flags for all commands. -/
def globalFlags : List Flag :=
  [⟨"config-file", some 'c', .path, false, none⟩,
    ⟨"color", none, .switch, false, some "no-color"⟩,
    ⟨"no-color", none, .switch, false, none⟩,
    ⟨"log-level", some 'l', .choice Threshold.names, false, none⟩,
    ⟨"log-format", none, .choice Layout.names, false, none⟩,
    ⟨"log-file", none, .path, false, none⟩,
    helpFlag,
    ⟨"version", some 'V', .version, false, none⟩]

/-- The flags of an injection. -/
def injectFlags : List Flag :=
  [⟨"input", some 'i', .path, true, none⟩,
    ⟨"output", some 'o', .path, true, none⟩,
    ⟨"from", none, .text, false, none⟩,
    ⟨"value", some 'v', .text, false, some "value-file"⟩,
    ⟨"value-file", none, .path, false, none⟩,
    helpFlag]

/-- The flags of a search. -/
def locateFlags : List Flag :=
  [⟨"input", some 'i', .path, true, none⟩,
    ⟨"value", none, .text, false, none⟩,
    helpFlag]

/-- The name of the command that explains the others. -/
def helpName : String :=
  "help"

/-- The commands' names. -/
def commandNames : List String :=
  ["show", "inject", "locate", helpName]

/-- The path of a flag that was given. -/
def path? (given : List (String × String)) (name : String) : Option Path :=
  (given.lookup name).map Path.mk

/-- The path of a flag that has to be given. -/
def path (given : List (String × String)) (name : String) : Path :=
  (path? given name).getD ⟨""⟩

/-- The flags of a command that has none of its own, read to the end. -/
def flagsOf (flags : List Flag) (words : List String) :
    Except Refusal (List (String × String)) :=
  match Scan.words flags [] Scan.start words with
  | .error refusal => .error refusal
  | .ok (scan, _) => scan.finish flags

/-- The command of a name, with the words behind it. -/
def parseCommand (name : String) (words : List String) : Except Refusal Command :=
  if name = "inject" then
    match flagsOf injectFlags words with
    | .error refusal => .error refusal
    | .ok given =>
      .ok (.inject
        { input := path given "input"
          output := path given "output"
          expected := given.lookup "from"
          value := given.lookup "value"
          valueFile := path? given "value-file" })
  else if name = "locate" then
    match flagsOf locateFlags words with
    | .error refusal => .error refusal
    | .ok given => .ok (.locate (path given "input") (given.lookup "value"))
  else
    match flagsOf [helpFlag] words with
    | .error refusal => .error refusal
    | .ok _ => .ok .display

/-- The answer to a request for help on some command. No command has commands of its own. -/
def explain : List String → Refusal
  | [] => .helpRequest
  | [name] => if commandNames.contains name then .helpRequest else .unknownCommand
  | _ => .unknownCommand

/-- The flags for all commands, put in front of a command. -/
def assemble (scan : Scan) (command : Option Command) : Except Refusal Arguments :=
  match scan.finish globalFlags with
  | .error refusal => .error refusal
  | .ok given =>
    .ok
      { configFile := path? given "config-file"
        color := (given.lookup "color").isSome
        noColor := (given.lookup "no-color").isSome
        logLevel := given.lookup "log-level"
        logFormat := given.lookup "log-format"
        logFile := path? given "log-file"
        command }

/-- The meaning of the words of a command line, the program's own name left out. A command and its
flags are read to the end before the flags in front of it are settled. -/
def parse (words : List String) : Except Refusal Arguments :=
  match Scan.words globalFlags commandNames Scan.start words with
  | .error refusal => .error refusal
  | .ok (scan, none) => assemble scan none
  | .ok (scan, some (name, rest)) =>
    if name = helpName then .error (explain rest)
    else
      match parseCommand name rest with
      | .error refusal => .error refusal
      | .ok command => assemble scan (some command)

end CommandLine

namespace Arguments

/-- The command to carry out. -/
def effectiveCommand (arguments : Arguments) : Command :=
  arguments.command.getD .display

end Arguments

end BuildStamp
