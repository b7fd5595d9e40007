import BuildStamp.Log.Calls
import BuildStamp.Script.Machine

set_option autoImplicit false

/-!
A logger at work on files and a standard error stream that are values. It decides as the logger of a
machine does, so what is proved of logs on machines is proved of the logger that is carried out, as
far as its calls do there what they do to these values.
-/

namespace BuildStamp

/-- The calls of a log on files and the text of a standard error stream. -/
def LogCalls.onValues : LogCalls (StateM (FileSystem × String)) where
  isDirectory path := fun (files, errors) => (files.isDirectory path, files, errors)
  makeDirectories path := fun (files, errors) =>
    let (files, made) := files.makeDirectories path
    (made, files, errors)
  truncate path := fun (files, errors) =>
    match files.truncate path with
    | .error cause => (.error cause, files, errors)
    | .ok (place, files) => (.ok place, files, errors)
  append place text := fun (files, errors) => ((), files.append place (Utf8.encode text), errors)
  printError text := fun (files, errors) => ((), files, errors ++ text)

namespace Logger

variable (files : FileSystem) (errors : String)

theorem openSinkBy_onValues (file : Option Path) :
    (openSinkBy .onValues file).run (files, errors) =
      ((openSink files file).1, (openSink files file).2, errors) := by
  rw [openSink.eq_def]
  cases file with
  | none => rfl
  | some path =>
      by_cases useless : files.isDirectory path ∨ namesNoFile path
      · have refused : (files.isDirectory path || namesNoFile path) = true := by
          simpa using useless
        simp only [openSinkBy, StateT.run_bind, if_pos useless]
        change Id.run (StateT.run (if (files.isDirectory path || namesNoFile path) = true then _
          else _) (files, errors)) = _
        rw [if_pos refused]
        rfl
      · have usable : ¬ (files.isDirectory path || namesNoFile path) = true := by
          simpa using useless
        simp only [openSinkBy, StateT.run_bind, if_neg useless]
        change Id.run (StateT.run (if (files.isDirectory path || namesNoFile path) = true then _
          else _) (files, errors)) = _
        rw [if_neg usable, StateT.run_bind]
        change Id.run (StateT.run (if (files.makeDirectories (directoryOf path)).2 = true then _
          else _) ((files.makeDirectories (directoryOf path)).1, errors)) = _
        cases (files.makeDirectories (directoryOf path)).2 with
        | true => rfl
        | false => rfl

theorem startBy_onValues (environment : Environment) (request : LogRequest) :
    (startBy .onValues environment request).run (files, errors) =
      ((start files environment request).1, (start files environment request).2, errors) := by
  rw [startBy, start]
  cases filterOf request with
  | error failure => rfl
  | ok filter =>
      simp only [StateT.run_bind, openSinkBy_onValues]
      rcases openSink files request.file with ⟨outcome, made⟩
      cases outcome with
      | error failure => rfl
      | ok sink => rfl

theorem deliverBy_onValues (line : String) (sink : LogSink) :
    (deliverBy .onValues line sink).run (files, errors) =
      ((deliver files line sink).1, (deliver files line sink).2.1,
        errors ++ (deliver files line sink).2.2) := by
  cases sink with
  | standardError => rfl
  | lost => exact Prod.ext rfl (Prod.ext rfl String.append_empty.symm)
  | file place => exact Prod.ext rfl (Prod.ext rfl String.append_empty.symm)
  | unopened path =>
      cases accepted : files.truncate path with
      | error cause =>
          have refused : (LogCalls.onValues.truncate path).run (files, errors) =
              (.error cause, files, errors) := by
            simp only [LogCalls.onValues, StateT.run, accepted]
          simp only [deliverBy, deliver, StateT.run_bind, refused, accepted]
          rfl
      | ok result =>
          obtain ⟨place, opened⟩ := result
          have opens : (LogCalls.onValues.truncate path).run (files, errors) =
              (.ok place, opened, errors) := by
            simp only [LogCalls.onValues, StateT.run, accepted]
          simp only [deliverBy, deliver, StateT.run_bind, opens, accepted]
          exact Prod.ext rfl (Prod.ext rfl String.append_empty.symm)

theorem recordBy_onValues (logger : Logger) (moment : Timestamp) (entry : Record) :
    (recordBy .onValues logger moment entry).run (files, errors) =
      ((logger.record files moment entry).1, (logger.record files moment entry).2.1,
        errors ++ (logger.record files moment entry).2.2) := by
  rw [recordBy, record]
  simp only [StateT.run_bind]
  change Id.run (StateT.run (if logger.keeps entry = true then _ else _)
    (files, errors ++ logger.complaints entry)) = _
  cases logger.keeps entry with
  | false => rfl
  | true =>
      rw [if_pos rfl, if_pos rfl, StateT.run_bind, deliverBy_onValues]
      exact Prod.ext rfl (Prod.ext rfl String.append_assoc)

end Logger

namespace Machine

/-- A record on a machine with a logger is that logger at work on the machine's files and errors. -/
theorem log_eq_recordBy {machine : Machine} {logger : Logger}
    (present : machine.logger = some logger) (entry : Record) :
    machine.log entry =
      let (logger, files, errors) :=
        (logger.recordBy .onValues machine.now entry).run (machine.files, machine.errors)
      { machine with logger := some logger, files, errors } := by
  rw [log, present, Logger.recordBy_onValues]

/-- The first log of a machine is the one that starts on the machine's files. -/
theorem startLog_eq_startBy {machine : Machine} (silent : machine.logger = none)
    (request : LogRequest) :
    machine.startLog request =
      match (Logger.startBy .onValues machine.environment request).run
        (machine.files, machine.errors) with
      | (.error failure, files, errors) => (.error failure, { machine with files, errors })
      | (.ok logger, files, errors) =>
        (.ok (), { machine with files, errors, logger := some logger }) := by
  rw [startLog, silent, Logger.startBy_onValues]
  rcases Logger.start machine.files machine.environment request with ⟨outcome, made⟩
  cases outcome with
  | error failure => rfl
  | ok logger => rfl

end Machine

end BuildStamp
