import BuildStamp.CommandLine.Arguments
import BuildStamp.Version

set_option autoImplicit false

/-!
What a user sees when the command line is not carried out: the flags and commands there are, the
version, or what is wrong.
-/

namespace BuildStamp.CommandLine

/-- The names of a flag and the sort of its value. -/
def Flag.usage (flag : Flag) : String :=
  let letter :=
    match flag.letter with
    | some letter => "-" ++ String.ofList [letter] ++ ", "
    | none => "    "
  let value :=
    match flag.kind with
    | .text => " <TEXT>"
    | .path => " <FILE>"
    | .choice names => " <" ++ "|".intercalate names ++ ">"
    | _ => ""
  "  " ++ letter ++ "--" ++ flag.name ++ value ++ "\n"

/-- A heading with flags under it. -/
def flagList (heading : String) (flags : List Flag) : String :=
  heading ++ ":\n" ++ String.join (flags.map Flag.usage)

/-- Everything that can stand on a command line. -/
def usage : String :=
  "Read the build number, or inject one into a linked artifact\n\n" ++
    "Usage: buildversion [OPTIONS] [" ++ "|".intercalate commandNames ++ "] [OPTIONS]\n\n" ++
    flagList "Options" globalFlags ++ flagList "Options of inject" injectFlags ++
    flagList "Options of locate" locateFlags

/-- What is wrong, in words. -/
def Refusal.message : Refusal → String
  | .unknownArgument => "unexpected argument found"
  | .unknownCommand => "unrecognized subcommand"
  | .invalidValue => "invalid or missing value for a flag"
  | .surplusValue => "unexpected value for a flag"
  | .conflict => "a flag cannot be used again or together with another one"
  | .missingFlag => "a required flag is missing"
  | .helpRequest => "help requested"
  | .versionRequest => "version requested"

/-- What is printed instead of carrying the command line out. -/
def Refusal.text (build : BuildInfo) : Refusal → String
  | .helpRequest => usage
  | .versionRequest => "buildversion " ++ build.versionText ++ "\n"
  | refusal => "error: " ++ refusal.message ++ "\n\nFor more information, try '--help'.\n"

end BuildStamp.CommandLine
