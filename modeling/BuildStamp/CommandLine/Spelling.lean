import BuildStamp.CommandLine.Arguments
import BuildStamp.Text.Quoted

set_option autoImplicit false

/-!
Commands in words: as the log shows them, and as words of a command line that mean them.
-/

namespace BuildStamp

namespace CommandLine

/-- A flag and its value in one word. -/
def valueWord (name value : String) : String :=
  "--" ++ name ++ "=" ++ value

/-- A switch. -/
def switchWord (name : String) : String :=
  "--" ++ name

/-- The word of a flag that may be left out. -/
def optionalWord (name : String) (value : Option String) : List String :=
  (value.map (valueWord name)).toList

end CommandLine

open CommandLine

namespace Command

/-- The command's name. -/
def name : Command → String
  | .display => "show"
  | .inject _ => "inject"
  | .locate _ _ => "locate"

/-- The words behind the command's name that give its flags. -/
def flagWords : Command → List String
  | .display => []
  | .inject options =>
    [valueWord "input" options.input.text, valueWord "output" options.output.text] ++
      optionalWord "from" options.expected ++ optionalWord "value" options.value ++
      optionalWord "value-file" (options.valueFile.map (·.text))
  | .locate input value => valueWord "input" input.text :: optionalWord "value" value

/-- The command with all it carries. -/
def detail : Command → String
  | .display => "Show"
  | .inject options =>
    Quoted.record "Inject"
      [("input", Quoted.text options.input.text), ("output", Quoted.text options.output.text),
        ("from", Quoted.optional (options.expected.map Quoted.text)),
        ("value", Quoted.optional (options.value.map Quoted.text)),
        ("value_file", Quoted.optional (options.valueFile.map fun path => Quoted.text path.text))]
  | .locate input value =>
    Quoted.record "Locate"
      [("input", Quoted.text input.text), ("value", Quoted.optional (value.map Quoted.text))]

end Command

namespace Arguments

/-- The words in front of the command that give the flags for all commands. -/
def globalWords (arguments : Arguments) : List String :=
  optionalWord "config-file" (arguments.configFile.map (·.text)) ++
    (if arguments.color then [switchWord "color"] else []) ++
    (if arguments.noColor then [switchWord "no-color"] else []) ++
    optionalWord "log-level" arguments.logLevel ++ optionalWord "log-format" arguments.logFormat ++
    optionalWord "log-file" (arguments.logFile.map (·.text))

end Arguments

end BuildStamp
