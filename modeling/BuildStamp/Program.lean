import BuildStamp.Artifact.Injection
import BuildStamp.CommandLine.Spelling
import BuildStamp.Settings.Discovery

set_option autoImplicit false

/-!
The program: the settings are found, the log is started, and the command is carried out with the
settings filling in what its flags leave open. What it has to say goes to the standard output, and
a failure to the log.
-/

namespace BuildStamp

namespace Command

/-- A warning about the build number that is shown. -/
def warning (line : Nat) (message : String) : Record :=
  ⟨.warn, ⟨"buildversion::app::commands", some line⟩, message⟩

/-- The build number of the slot. One that packaging never put in, or none at all, is worth a
warning. -/
def displayed (slot : Slot) : Attempt SlotFailure String := do
  if Slot.isPlaceholder slot.value then
    Attempt.log (warning 59 "Build number placeholder was never replaced")
  else if slot.value = "" then
    Attempt.log (warning 61 "No build number available")
  return slot.value

/-- The build number to inject: the one given, or else the one in the file given, or else the one
in the file that the settings name. -/
def injectedValue (options : InjectOptions) (settings : Settings) : Attempt SlotFailure String :=
  match options.value with
  | some value => return value
  | none =>
    match options.valueFile.or settings.injection.valueFile with
    | some path => Artifact.readValue path
    | none =>
      Attempt.ofExcept
        (.error (.invalidValue "no build number given; use --value or --value-file"))

/-- The text that the slot has to hold before an injection. -/
def expectedText (options : InjectOptions) (settings : Settings) : String :=
  (options.expected.or settings.injection.expected).getD Slot.sentinel

/-- What a finished injection says. -/
def injectedMessage (output : Path) (value : String) (offset : Nat) : String :=
  output.text ++ ": injected '" ++ value ++ "' at " ++ Numeral.offset offset

/-- The command carried out, with what it has to say. -/
def execute (slot : Slot) (settings : Settings) : Command → Attempt SlotFailure String
  | .display => displayed slot
  | .inject options => do
    let value ← injectedValue options settings
    let injection : Injection := ⟨expectedText options settings, value, Slot.capacity⟩
    let offset ← Artifact.inject options.input options.output injection
    return injectedMessage options.output value offset
  | .locate input value => do
    let offset ← Artifact.locate input (value.getD Slot.sentinel) Slot.capacity
    return Numeral.offset offset

/-- The record of a command that is about to be carried out. -/
def runningRecord (command : Command) : Record :=
  ⟨.debug, ⟨"buildversion::app::startup", some 43⟩, "Running " ++ command.detail⟩

end Command

namespace Program

/-- Log lines are to have styles: a flag decides, or else the settings, or else whether the errors
are shown on a terminal. -/
def wantsColor (arguments : Arguments) (settings : Settings) (terminal : Bool) : Bool :=
  if arguments.noColor then false
  else if arguments.color then true
  else settings.logging.color.getD terminal

/-- What is asked of the logger: flags first, and then the settings. -/
def logRequest (arguments : Arguments) (settings : Settings) (terminal : Bool) : LogRequest :=
  { level := arguments.logLevel.or settings.logging.level
    format := arguments.logFormat.or settings.logging.format
    file := arguments.logFile.or settings.logging.file
    color := wantsColor arguments settings terminal }

/-- The log started. If it does not start, the program goes on without it. -/
def startLog (request : LogRequest) : Script Unit := do
  match ← Script.request (.startLog request) with
  | .ok () => return ()
  | .error failure =>
    Script.request
      (.printError ("Warning: could not initialise logging: " ++ failure.message ++ "\n"))

/-- The name of the operation whose failure ends the program. -/
def operationName : String :=
  "Build number command failed"

/-- The command carried out, and the exit status. -/
def carryOut (slot : Slot) (settings : Settings) (command : Command) : Script Nat := do
  match ← (command.execute slot settings).run with
  | .ok text =>
    Script.request (.printOutput (text ++ "\n"))
    return 0
  | .error failure =>
    Script.logAll (failure.report.records operationName)
    return 1

/-- The program from its settings on. -/
def runWith (slot : Slot) (arguments : Arguments) (settings : Settings) : Script Nat := do
  let terminal ← Script.request .showsErrors
  startLog (logRequest arguments settings terminal)
  Script.request (.log arguments.effectiveCommand.runningRecord)
  carryOut slot settings arguments.effectiveCommand

/-- The program with the arguments of its command line. Without settings nothing is done. -/
def run (slot : Slot) (arguments : Arguments) : Script Nat := do
  match ← (Settings.discover arguments.configFile).run with
  | .error failure =>
    Script.request
      (.printError ("Error: " ++ failure.report.fatalMessage "Loading configuration" ++ "\n"))
    return 1
  | .ok settings => runWith slot arguments settings

end Program

end BuildStamp
