import BuildStamp.Script.Basic

set_option autoImplicit false

/-!
A model of the surroundings in which scripts run: files, environment and time, what has been
printed, the logger, once one has started, and the system below. Every request is answered at once,
in full or with an error.
-/

namespace BuildStamp

/-- A request that fails although the files would let it pass, as on a full disk. Of bytes that were
to be added to a file, some have been added by then. -/
structure Refusal where
  request : Request
  errno : Errno
  added : Nat
  deriving DecidableEq

/-- The system below a program: the home directory it has on record for the user, whether the
standard error stream is shown on a terminal, and the requests that it refuses. -/
structure Host where
  home : Option String := none
  terminal : Bool := false
  refusals : List Refusal := []
  deriving DecidableEq

/-- The surroundings of a program. -/
structure Machine where
  files : FileSystem
  environment : Environment
  now : Timestamp
  output : String
  errors : String
  logger : Option Logger
  host : Host := {}
  deriving DecidableEq

namespace Machine

/-- The machine after a record. Without a logger nothing keeps it. -/
def log (machine : Machine) (record : Record) : Machine :=
  match machine.logger with
  | none => machine
  | some logger =>
    let (logger, files, text) := logger.record machine.files machine.now record
    { machine with logger := some logger, files, errors := machine.errors ++ text }

/-- The machine after the start of a logger. There is one logger at most, and the first one
stays. -/
def startLog (machine : Machine) (request : LogRequest) : Except LoggerFailure Unit × Machine :=
  match Logger.start machine.files machine.environment request, machine.logger with
  | (.error failure, files), _ => (.error failure, { machine with files })
  | (.ok _, files), some _ => (.error .alreadyStarted, { machine with files })
  | (.ok logger, files), none => (.ok (), { machine with files, logger := some logger })

/-- The refusal of a request, if it is refused. -/
def refusal? (machine : Machine) (request : Request) : Option Refusal :=
  machine.host.refusals.find? fun refusal => refusal.request = request

/-- What comes of a request unless it is refused, which changes nothing. -/
def unlessRefused {α : Type} (machine : Machine) (request : Request)
    (outcome : Except IoError α × Machine) : Except IoError α × Machine :=
  match machine.refusal? request with
  | some refusal => (.error (.system refusal.errno), machine)
  | none => outcome

/-- The machine after a fresh file has been made. -/
def stage (machine : Machine) (directory : Path) : Except IoError Staged × Machine :=
  match machine.refusal? (.stage directory), machine.files.stage directory with
  | some refusal, _ =>
    (.error (machine.files.stagingFailure directory (.system refusal.errno)), machine)
  | none, .error failure => (.error failure, machine)
  | none, .ok (staged, files) => (.ok staged, { machine with files })

/-- The machine after bytes have been added to a fresh file. The file is named if that fails. -/
def append (machine : Machine) (staged : Staged) (bytes : List UInt8) :
    Except IoError Unit × Machine :=
  match machine.refusal? (.append staged bytes) with
  | some refusal =>
    (.error (.staging staged.path (.system refusal.errno)),
      { machine with files := machine.files.append staged.place (bytes.take refusal.added) })
  | none => (.ok (), { machine with files := machine.files.append staged.place bytes })

/-- The machine without the entry at a place. An open log file that was there is lost. -/
def unlink (machine : Machine) (place : Place) : Machine :=
  { machine with
    files := machine.files.erase place
    logger := machine.logger.map (·.afterUnlinking place) }

/-- The machine after a fresh file has been moved. An open log file that it replaces is lost, and
one that the fresh file is goes with it. -/
def moveOnto (machine : Machine) (staged : Staged) (path : Path) : Except IoError Unit × Machine :=
  match machine.files.moveOnto staged path with
  | .error failure => (.error failure, machine)
  | .ok (place, files) =>
    (.ok (), { machine with files, logger := machine.logger.map (·.afterMoving staged.place place) })

/-- The reply to a request, and the machine after it. -/
def answer (machine : Machine) : (request : Request) → request.Reply × Machine
  | .read path => (machine.files.readFile path, machine)
  | .permissions path =>
    machine.unlessRefused (.permissions path) (machine.files.permissions path, machine)
  | .isPresent path => (machine.files.isPresent path, machine)
  | .stage directory => machine.stage directory
  | .append staged bytes => machine.append staged bytes
  | .sync staged => machine.unlessRefused (.sync staged) (.ok (), machine)
  | .setPermissions staged permissions =>
    machine.unlessRefused (.setPermissions staged permissions)
      (.ok (), { machine with
        files := machine.files.setPermissions staged.place permissions })
  | .moveOnto staged path =>
    machine.unlessRefused (.moveOnto staged path) (machine.moveOnto staged path)
  | .discard staged => ((), machine.unlink staged.place)
  | .environment => (machine.environment, machine)
  | .accountHome => (machine.host.home, machine)
  | .showsErrors => (machine.host.terminal, machine)
  | .startLog request => machine.startLog request
  | .log record => ((), machine.log record)
  | .printOutput text => ((), { machine with output := machine.output ++ text })
  | .printError text => ((), { machine with errors := machine.errors ++ text })

end Machine

namespace Script

/-- The result of a script on a machine, and the machine after it. -/
def run {α : Type} : Script α → Machine → α × Machine
  | .done result, machine => (result, machine)
  | .ask request next, machine =>
    let (reply, machine) := machine.answer request
    (next reply).run machine

/-- The machine after the given number of a script's requests, or after all of them if there are
fewer. -/
def runFor {α : Type} : Nat → Script α → Machine → Machine
  | 0, _, machine => machine
  | _ + 1, .done _, machine => machine
  | count + 1, .ask request next, machine =>
    let (reply, machine) := machine.answer request
    (next reply).runFor count machine

/-- The requests that a script makes on a machine, in order. -/
def requests {α : Type} : Script α → Machine → List Request
  | .done _, _ => []
  | .ask request next, machine =>
    let (reply, machine) := machine.answer request
    request :: (next reply).requests machine

theorem run_bind {α β : Type} (script : Script α) (next : α → Script β) (machine : Machine) :
    (script.bind next).run machine =
      (next (script.run machine).1).run (script.run machine).2 := by
  induction script generalizing machine with
  | done result => rfl
  | ask request rest ih => exact ih _ _

end Script

end BuildStamp
