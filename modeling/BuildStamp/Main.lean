import BuildStamp.CommandLine.Usage
import BuildStamp.Log.Calls
import BuildStamp.Program
import Std.Time.DateTime.Timestamp

set_option autoImplicit false

/-!
The command-line program: scripts carried out on the real surroundings. Everything that is decided
is decided elsewhere; here requests become calls of the system. Where the library has no such call,
the request is answered as it is answered most of the time.
-/

namespace BuildStamp

namespace Outside

/-- The slot of this very program. Packaging finds its bytes in the program's file and puts the
build number over them. -/
def linkedText : String :=
  "SOONG BUILD NUMBER PLACEHOLDER\x00\x00\x00\x00\x00\x00\x00\x00\x00\x00\x00\x00\x00\x00\x00\x00\x00\x00\x00\x00\x00\x00\x00\x00\x00\x00\x00\x00\x00\x00\x00\x00\x00\x00\x00\x00\x00\x00\x00\x00\x00\x00\x00\x00\x00\x00\x00\x00\x00\x00\x00\x00\x00\x00\x00\x00\x00\x00\x00\x00\x00\x00\x00\x00\x00\x00\x00\x00\x00\x00\x00\x00\x00\x00\x00\x00\x00\x00\x00\x00\x00\x00\x00\x00\x00\x00\x00\x00\x00\x00\x00\x00\x00\x00\x00\x00\x00\x00"

/-- The slot with what it holds now. -/
def linkedSlot : Slot :=
  (Slot.ofBytes? (Utf8.encode linkedText)).getD (Slot.holding Slot.sentinel)

/-- The error number in a code. Some calls report it negated. -/
def ofCode (code : UInt32) : Errno :=
  if code < 0x80000000 then ⟨Int.ofNat code.toNat⟩ else ⟨Int.ofNat (0 - code).toNat⟩

/-- The error number of a failed call. -/
def errnoOf : IO.Error → Errno
  | .alreadyExists _ code _ => ofCode code
  | .otherError code _ => ofCode code
  | .resourceBusy code _ => ofCode code
  | .resourceVanished code _ => ofCode code
  | .unsupportedOperation code _ => ofCode code
  | .hardwareFault code _ => ofCode code
  | .unsatisfiedConstraints code _ => ofCode code
  | .illegalOperation code _ => ofCode code
  | .protocolError code _ => ofCode code
  | .timeExpired code _ => ofCode code
  | .interrupted _ code _ => ofCode code
  | .noFileOrDirectory _ code _ => ofCode code
  | .invalidArgument _ code _ => ofCode code
  | .permissionDenied _ code _ => ofCode code
  | .resourceExhausted _ code _ => ofCode code
  | .inappropriateType _ code _ => ofCode code
  | .noSuchThing _ code _ => ofCode code
  | _ => ⟨5⟩

/-- A call with its failure as a value. -/
def attempt {α : Type} (call : IO α) : IO (Except IoError α) := do
  try
    return .ok (← call)
  catch error =>
    return .error (.system (errnoOf error))

/-- What lasts from one request to the next: the logger, and its file once that is open. -/
structure State where
  logger : Option Logger
  logFile : Option IO.FS.Handle

/-- The bytes of a file. -/
def read (path : Path) : IO (Except IoError (List UInt8)) := do
  match ← attempt (IO.FS.readBinFile path.text) with
  | .ok contents => return .ok contents.toList
  | .error failure => return .error failure

/-- A path leads to something, links followed. -/
def isPresent (path : Path) : IO Bool := do
  match ← attempt (IO.FS.realPath path.text) with
  | .ok _ => return true
  | .error _ => return false

/-- Read and write for the owner, and nothing for others. -/
def ownersAlone : IO.FileRight :=
  { user := { read := true, write := true } }

/-- One of the three rights of a class of users among permission bits. -/
def rights (permissions place : Nat) : IO.AccessRight :=
  let bits := permissions / place
  { read := bits / 4 % 2 == 1, write := bits / 2 % 2 == 1, execution := bits % 2 == 1 }

/-- Permission bits as rights of owner, group and others. -/
def rightsOf (permissions : Nat) : IO.FileRight :=
  { user := rights permissions 64, group := rights permissions 8, other := rights permissions 1 }

/-- The bits of an executable. The library cannot ask for a file's own bits, and an artifact has to
stay executable. -/
def artifactPermissions : Nat :=
  0o755

/-- A fresh file in a directory, under a name that nothing had. The first argument is the number
of names to try. -/
def stage : Nat → Path → IO (Except IoError Staged)
  | 0, directory => return .error (.staging directory (.system .fileExists))
  | tries + 1, directory => do
    let base := Path.join ⟨toString (← IO.currentDir)⟩ directory
    let name := FileSystem.stagingName (← IO.rand 0 999999)
    let path := base.join ⟨name⟩
    match ← attempt (IO.FS.Handle.mk path.text .writeNew) with
    | .ok _ =>
      IO.setAccessRights path.text ownersAlone
      return .ok ⟨path, []⟩
    | .error failure =>
      if failure == .system .fileExists then stage tries directory
      else return .error (.staging path failure)

/-- The bytes put behind those of a fresh file. -/
def append (staged : Staged) (bytes : List UInt8) : IO (Except IoError Unit) := do
  let written ← attempt do
    let file ← IO.FS.Handle.mk staged.path.text .append
    file.write ⟨bytes.toArray⟩
    file.flush
  return written.mapError (.staging staged.path)

/-- The variables that decide anything. -/
def environment : IO Environment := do
  let names := ["HOME", "XDG_CONFIG_HOME", "CLICOLOR_FORCE"]
  let values ← names.mapM fun name => return (← IO.getEnv name).map fun value => (name, value)
  return ⟨values.filterMap id⟩

/-- The calls of a log. The open log file is kept as it is, whatever place it is said to have. -/
def logCalls : LogCalls (StateT State IO) where
  isDirectory path := return (← read path) matches .error (.system ⟨21⟩)
  makeDirectories path := do
    if path.text = "" then return true
    return (← attempt (IO.FS.createDirAll path.text)) matches .ok ()
  truncate path := do
    match ← attempt (IO.FS.Handle.mk path.text .write) with
    | .ok file =>
      modify ({ · with logFile := some file })
      return .ok []
    | .error cause => return .error cause
  append _ text := do
    if let some file := (← get).logFile then
      file.putStr text
      file.flush
  printError text := IO.eprint text

/-- The logger started, unless it cannot be or there is one. -/
def startLog (request : LogRequest) : StateT State IO (Except LoggerFailure Unit) := do
  match ← Logger.startBy logCalls (← environment) request, (← get).logger with
  | .error failure, _ => return .error failure
  | .ok _, some _ => return .error .alreadyStarted
  | .ok logger, none =>
    modify ({ · with logger := some logger })
    return .ok ()

/-- A record, if there is a logger. -/
def log (record : Record) : StateT State IO Unit := do
  if let some logger := (← get).logger then
    let elapsed ← Std.Time.Timestamp.now
    let now := Timestamp.ofMilliseconds elapsed.toMillisecondsSinceUnixEpoch.val.toNat
    let logger ← logger.recordBy logCalls now record
    modify ({ · with logger := some logger })

/-- The reply to a request. -/
def answer : (request : Request) → StateT State IO request.Reply
  | .read path => read path
  | .permissions path => return (← read path).map fun _ => artifactPermissions
  | .isPresent path => isPresent path
  | .stage directory => stage FileSystem.stagingTries directory
  | .append staged bytes => append staged bytes
  | .sync _ => return .ok ()
  | .setPermissions staged permissions =>
    attempt (IO.setAccessRights staged.path.text (rightsOf permissions))
  | .moveOnto staged path => attempt (IO.FS.rename staged.path.text path.text)
  | .discard staged => discard (attempt (IO.FS.removeFile staged.path.text))
  | .environment => environment
  | .accountHome => return none
  | .showsErrors => return ← (← IO.getStderr).isTty
  | .startLog request => startLog request
  | .log record => log record
  | .printOutput text => IO.print text
  | .printError text => IO.eprint text

/-- A script carried out. -/
def carryOut {α : Type} : Script α → StateT State IO α
  | .done result => return result
  | .ask request next => do carryOut (next (← answer request))

/-- What is known of the program's build. -/
def build : BuildInfo :=
  ⟨"unknown", "unknown"⟩

end Outside

end BuildStamp

/-- The program, with the words of its command line. -/
def main (words : List String) : IO UInt32 := do
  match BuildStamp.CommandLine.parse words with
  | .error refusal =>
    let text := refusal.text BuildStamp.Outside.build
    if refusal.exitCode = 0 then IO.print text else IO.eprint text
    return UInt32.ofNat refusal.exitCode
  | .ok arguments =>
    let script := BuildStamp.Program.run BuildStamp.Outside.linkedSlot arguments
    let (code, _) ← (BuildStamp.Outside.carryOut script).run ⟨none, none⟩
    return UInt32.ofNat code
