import BuildStamp.Proofs.Program.Execution

set_option autoImplicit false

/-!
Runs of the program, cut at the two places where they may fail: behind the discovery of the
settings, and behind the command, which is carried out where the log has started. A run whose
command fails comes down to its records.
-/

namespace BuildStamp

namespace Program

variable (slot : Slot) (arguments : Arguments) (settings : Settings) (machine : Machine)

/-- The machine after a log has been asked for. -/
def logStarted (request : LogRequest) (machine : Machine) : Machine :=
  match machine.startLog request with
  | (.error failure, after) =>
    { after with
      errors := after.errors ++
        ("Warning: could not initialise logging: " ++ failure.message ++ "\n") }
  | (.ok _, after) => after

theorem run_startLog (request : LogRequest) :
    (startLog request).run machine = ((), logStarted request machine) := by
  change ((Script.request (.startLog request)).bind _).run machine = _
  rw [Script.run_bind, Script.run_request, Machine.answer, logStarted]
  rcases machine.startLog request with ⟨outcome, after⟩
  cases outcome with
  | error failure => rfl
  | ok done => rfl

theorem recorded_startLog (request : LogRequest) :
    (startLog request).recorded machine = [] := by
  change ((Script.request (.startLog request)).bind _).recorded machine = _
  rw [Script.recorded_bind, Script.run_request, Machine.answer]
  rcases machine.startLog request with ⟨outcome, after⟩
  cases outcome with
  | error failure => rfl
  | ok done => rfl

/-- What a run asks of the logger. -/
def askedLog (arguments : Arguments) (settings : Settings) (machine : Machine) : LogRequest :=
  logRequest arguments settings machine.host.terminal

/-- The machine on which a run carries out its command: the log has been asked for, and the command
announced. -/
def begun (arguments : Arguments) (settings : Settings) (machine : Machine) : Machine :=
  ((startLog (askedLog arguments settings machine)).run machine).2.log
    arguments.effectiveCommand.runningRecord

theorem begun_eq :
    begun arguments settings machine =
      (logStarted (askedLog arguments settings machine) machine).log
        arguments.effectiveCommand.runningRecord := by
  rw [begun, run_startLog]

theorem run_carryOut (command : Command) :
    (carryOut slot settings command).run machine =
      match (command.execute slot settings).perform machine with
      | (.ok text, after) => (0, { after with output := after.output ++ (text ++ "\n") })
      | (.error failure, after) => (1, after.logAll (failure.report.records operationName)) := by
  change ((command.execute slot settings).run.bind _).run machine = _
  rw [Script.run_bind, Attempt.perform]
  generalize (command.execute slot settings).run.run machine = ending
  obtain ⟨outcome, after⟩ := ending
  cases outcome with
  | ok text => rfl
  | error failure => rfl

theorem recorded_carryOut_of_error {command : Command} {failure : SlotFailure} {after : Machine}
    (fails : (command.execute slot settings).perform machine = (.error failure, after)) :
    (carryOut slot settings command).recorded machine =
      (command.execute slot settings).recorded machine ++ failure.report.records operationName := by
  change ((command.execute slot settings).run.bind _).recorded machine = _
  rw [Script.recorded_bind]
  rw [Attempt.perform] at fails
  rw [fails]
  rfl

theorem run_runWith :
    (runWith slot arguments settings).run machine =
      (carryOut slot settings arguments.effectiveCommand).run
        (begun arguments settings machine) := by
  change ((startLog (askedLog arguments settings machine)).bind _).run machine = _
  rw [Script.run_bind]
  rfl

theorem recorded_runWith :
    (runWith slot arguments settings).recorded machine =
      arguments.effectiveCommand.runningRecord ::
        (carryOut slot settings arguments.effectiveCommand).recorded
          (begun arguments settings machine) := by
  change ((startLog (askedLog arguments settings machine)).bind _).recorded machine = _
  rw [Script.recorded_bind, recorded_startLog]
  rfl

theorem run_run :
    (run slot arguments).run machine =
      match (Settings.discover arguments.configFile).perform machine with
      | (.error failure, after) =>
        (1, { after with
          errors := after.errors ++
            ("Error: " ++ failure.report.fatalMessage "Loading configuration" ++ "\n") })
      | (.ok settings, after) => (runWith slot arguments settings).run after := by
  change ((Settings.discover arguments.configFile).run.bind _).run machine = _
  rw [Script.run_bind, Attempt.perform]
  generalize (Settings.discover arguments.configFile).run.run machine = ending
  obtain ⟨outcome, after⟩ := ending
  cases outcome with
  | ok settings => rfl
  | error failure => rfl

theorem requests_run_of_error {failure : SettingsFailure} {after : Machine}
    (fails : (Settings.discover arguments.configFile).perform machine = (.error failure, after)) :
    (run slot arguments).requests machine =
      (Settings.discover arguments.configFile).requests machine ++
        [.printError
          ("Error: " ++ failure.report.fatalMessage "Loading configuration" ++ "\n")] := by
  change ((Settings.discover arguments.configFile).run.bind _).requests machine = _
  rw [Script.requests_bind]
  rw [Attempt.perform] at fails
  rw [fails]
  rfl

theorem runningRecord_isMinor (command : Command) : command.runningRecord.IsMinor where
  level := .inl rfl
  plain := by
    simp only [Record.IsPlain, Command.runningRecord, Origin.addressees?]
    rfl

variable {slot arguments settings machine} {failure : SlotFailure} {after : Machine}

/-- Where minor records find the log ready, a run whose command fails has left its records behind
and nothing else. The last three tell of the failure. -/
theorem run_runWith_of_error (ready : (begun arguments settings machine).IsReady)
    (fails : (arguments.effectiveCommand.execute slot settings).perform
      (begun arguments settings machine) = (.error failure, after)) :
    ∃ minor : List Record, (∀ record ∈ minor, record.IsMinor) ∧
      (runWith slot arguments settings).recorded machine =
        minor ++ failure.report.records operationName ∧
      (runWith slot arguments settings).run machine =
        (1, (logStarted (askedLog arguments settings machine) machine).logAll
          (minor ++ failure.report.records operationName)) := by
  have announced := runningRecord_isMinor arguments.effectiveCommand
  have start := begun_eq arguments settings machine
  have reports := Command.failsCleanly_execute slot settings ready arguments.effectiveCommand
    failure after fails
  refine ⟨arguments.effectiveCommand.runningRecord ::
    (arguments.effectiveCommand.execute slot settings).recorded
      (begun arguments settings machine), ?_, ?_, ?_⟩
  · intro record member
    rcases List.mem_cons.mp member with rfl | later
    · exact announced
    · exact reports.minor record later
  · rw [recorded_runWith, recorded_carryOut_of_error slot settings _ fails]
    rfl
  · have ended := reports.after
    rw [fails] at ended
    rw [run_runWith, run_carryOut, fails, Machine.logAll_append, Machine.logAll_cons, ← start]
    exact congrArg (fun last => (1, Machine.logAll last _)) ended

/-- A run whose command fails changes no file, once its log has been asked for, but that of the
log. -/
theorem logged_runWith_of_error
    (fails : (arguments.effectiveCommand.execute slot settings).perform
      (begun arguments settings machine) = (.error failure, after)) :
    let started := logStarted (askedLog arguments settings machine) machine
    Machine.Logged started.LogsTo started.sink? started.files
      ((runWith slot arguments settings).run machine).2 := by
  intro started
  have announced : Machine.Logged started.LogsTo started.sink? started.files
      (begun arguments settings machine) := by
    rw [begun_eq]
    exact (Machine.logged_refl started).log _
  rw [run_runWith, run_carryOut, fails]
  exact (Command.logged_of_error slot settings announced fails).logAll _

end Program

end BuildStamp
