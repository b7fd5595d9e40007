import BuildStamp.Log.Logger

set_option autoImplicit false

/-!
A logger at work in any surroundings. What it decides is written down once, over the few calls that
a log makes, and each surroundings say what these calls do there.
-/

namespace BuildStamp

/-- The calls that a log makes. -/
structure LogCalls (surroundings : Type → Type) where
  isDirectory : Path → surroundings Bool
  makeDirectories : Path → surroundings Bool
  truncate : Path → surroundings (Except IoError Place)
  append : Place → String → surroundings Unit
  printError : String → surroundings Unit

namespace Logger

variable {m : Type → Type} [Monad m]

/-- The sink for an optional file, with the file's directory made. -/
def openSinkBy (calls : LogCalls m) (file : Option Path) : m (Except LoggerFailure LogSink) := do
  match file with
  | none => return .ok .standardError
  | some path =>
    if (← calls.isDirectory path) || namesNoFile path then return .error .unusablePath
    else if ← calls.makeDirectories (directoryOf path) then
      return .ok (.unopened (filePath path))
    else return .error .noDirectory

/-- The logger that is asked for. -/
def startBy (calls : LogCalls m) (environment : Environment) (request : LogRequest) :
    m (Except LoggerFailure Logger) := do
  match filterOf request with
  | .error failure => return .error failure
  | .ok filter =>
    match ← openSinkBy calls request.file with
    | .error failure => return .error failure
    | .ok sink => return .ok (assemble environment request filter sink)

/-- What becomes of the sink when a line is written. -/
def deliverBy (calls : LogCalls m) (line : String) : LogSink → m LogSink
  | .standardError => do
    calls.printError line
    return .standardError
  | .lost => return .lost
  | .file place => do
    calls.append place line
    return .file place
  | .unopened path => do
    match ← calls.truncate path with
    | .error cause =>
      calls.printError (Complaint.failedWrite cause).lines
      return .unopened path
    | .ok place =>
      calls.append place line
      return .file place

/-- The logger after a record. -/
def recordBy (calls : LogCalls m) (logger : Logger) (moment : Timestamp) (entry : Record) :
    m Logger := do
  calls.printError (logger.complaints entry)
  if logger.keeps entry then
    let sink ← deliverBy calls (logger.line moment entry) logger.sink
    return { logger with sink }
  else return logger

end Logger

end BuildStamp
