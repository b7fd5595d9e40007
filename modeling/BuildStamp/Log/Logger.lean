import BuildStamp.Environment
import BuildStamp.Log.Complaint
import BuildStamp.Log.Filter
import BuildStamp.Log.Layout

set_option autoImplicit false

/-!
A logger: which records it keeps, how it lays them out, and where their lines go. A log file's
directory is made when the logger starts, and the file itself, empty, when the first line comes.
As long as the file cannot be opened, every line is lost with a complaint.
-/

namespace BuildStamp

/-- What is asked of a logger. What is left out takes its default. -/
structure LogRequest where
  level : Option String
  format : Option String
  file : Option Path
  color : Bool
  deriving DecidableEq

/-- Where the lines of a log go: the standard error stream, a file that the first line will open,
or an open file. An open file whose entry something else has taken swallows its lines. -/
inductive LogSink
  | standardError
  | unopened (path : Path)
  | file (place : Place)
  | lost
  deriving DecidableEq

/-- A logger at work. -/
structure Logger where
  filter : LogFilter
  layout : Layout
  styled : Bool
  sink : LogSink
  deriving DecidableEq

/-- Why a logger does not start. -/
inductive LoggerFailure
  | malformedFilter
  | unusablePath
  | noDirectory
  | alreadyStarted
  deriving DecidableEq

/-- The failure as a user reads it. -/
def LoggerFailure.message : LoggerFailure → String
  | .malformedFilter => "Failed to parse log specification"
  | .unusablePath => "Invalid input for deriving FileSpec"
  | .noDirectory =>
    "Log cannot be written, e.g. because the configured output directory is not accessible"
  | .alreadyStarted => "Logger initialization failed"

namespace Logger

/-- A file's name has nothing in front of its only dot. -/
def isAllSuffix (name : String) : Bool :=
  match name.toList with
  | '.' :: rest => !rest.contains '.'
  | _ => false

/-- A path is of no use for a log file if it is empty, ends as only the paths of directories do, or
has a last component that is all suffix. -/
def namesNoFile (path : Path) : Bool :=
  path.text = "" || path.endsWithSlash || "/.".toList.isSuffixOf path.text.toList ||
    "/..".toList.isSuffixOf path.text.toList || path.fileName.any isAllSuffix

/-- The directory that a path's file is in. -/
def directoryOf (path : Path) : Path :=
  path.parent.getD ⟨""⟩

/-- The path by which a log file is opened: the file's name behind its directory. Where the path
went round about through `.` and repeated slashes, this one may be shorter. -/
def filePath (path : Path) : Path :=
  (directoryOf path).join ⟨path.fileName.getD ""⟩

/-- The sink for an optional file, with the file's directory made. -/
def openSink (files : FileSystem) (file : Option Path) :
    Except LoggerFailure LogSink × FileSystem :=
  match file with
  | none => (.ok .standardError, files)
  | some path =>
    if files.isDirectory path ∨ namesNoFile path then (.error .unusablePath, files)
    else
      let (files, made) := files.makeDirectories (directoryOf path)
      if made then (.ok (.unopened (filePath path)), files) else (.error .noDirectory, files)

/-- The logger that is asked for, with its filter and its sink. Styles are written if they are
asked for and the environment lets them. -/
def assemble (environment : Environment) (request : LogRequest) (filter : LogFilter)
    (sink : LogSink) : Logger :=
  { filter
    layout := Layout.ofName (request.format.getD Layout.defaultName)
    styled := request.color && environment.forcesStyles
    sink }

/-- The filter that is asked for. -/
def filterOf (request : LogRequest) : Except LoggerFailure LogFilter :=
  match LogFilter.ofText? (request.level.getD Threshold.defaultName) with
  | none => .error .malformedFilter
  | some filter => .ok filter

/-- The logger that is asked for, and the files after its start. -/
def start (files : FileSystem) (environment : Environment) (request : LogRequest) :
    Except LoggerFailure Logger × FileSystem :=
  match filterOf request with
  | .error failure => (.error failure, files)
  | .ok filter =>
    match openSink files request.file with
    | (.error failure, files) => (.error failure, files)
    | (.ok sink, files) => (.ok (assemble environment request filter sink), files)

/-- What becomes of the sink and the files when a line is written, and what the standard error
stream gets. -/
def deliver (files : FileSystem) (line : String) : LogSink → LogSink × FileSystem × String
  | .standardError => (.standardError, files, line)
  | .lost => (.lost, files, "")
  | .file place => (.file place, files.append place (Utf8.encode line), "")
  | .unopened path =>
    match files.truncate path with
    | .error cause => (.unopened path, files, (Complaint.failedWrite cause).lines)
    | .ok (place, files) => (.file place, files.append place (Utf8.encode line), "")

/-- A record is looked at if it could be kept at all. -/
def considers (logger : Logger) (entry : Record) : Bool :=
  logger.filter.widest.admits entry.level

/-- A record gets a line of the log. -/
def keeps (logger : Logger) (entry : Record) : Bool :=
  logger.considers entry && entry.origin.isForLog &&
    logger.filter.keeps entry.origin.filteredPath entry.level entry.message

/-- The line of a record, with its end. -/
def line (logger : Logger) (moment : Timestamp) (entry : Record) : String :=
  logger.layout.line logger.styled moment entry ++ "\n"

/-- What is complained of about the address of a record that is looked at. There is no writer
besides the log itself. -/
def complaints (logger : Logger) (entry : Record) : String :=
  if logger.considers entry then
    String.join (entry.origin.strangers.map fun name => (Complaint.unknownWriter name).lines)
  else ""

/-- The logger, the files and the text for the standard error stream after a record. -/
def record (logger : Logger) (files : FileSystem) (moment : Timestamp) (entry : Record) :
    Logger × FileSystem × String :=
  if logger.keeps entry then
    let (sink, files, text) := deliver files (logger.line moment entry) logger.sink
    ({ logger with sink }, files, logger.complaints entry ++ text)
  else (logger, files, logger.complaints entry)

/-- The logger after the entry at a place has gone. -/
def afterUnlinking (logger : Logger) (place : Place) : Logger :=
  if logger.sink = .file place then { logger with sink := .lost } else logger

/-- The logger after a file has been moved from one place to another. -/
def afterMoving (logger : Logger) (source target : Place) : Logger :=
  if logger.sink = .file source then { logger with sink := .file target }
  else logger.afterUnlinking target

end Logger

end BuildStamp
