import BuildStamp.Proofs.CommandLine.Acceptance
import BuildStamp.Proofs.Log.Start
import BuildStamp.Proofs.Program.Course
import BuildStamp.Proofs.Settings.Discovery

set_option autoImplicit false

/-!
Whole runs of the program. The exit status, what is printed, what becomes of the files and what the
log has of a failure follow from two outcomes: that of discovering the settings and that of the
command.
-/

namespace BuildStamp

/-- The record is for all who read the log. -/
def Record.isMajor (record : Record) : Bool :=
  record.level.rank ≤ Level.info.rank

theorem Record.IsMinor.not_isMajor {record : Record} (minor : record.IsMinor) :
    record.isMajor = false := by
  rw [Record.isMajor]
  rcases minor.level with debug | trace
  · rw [debug]
    rfl
  · rw [trace]
    rfl

namespace Report

/-- The record of a failure that is for all who read the log. -/
def fatalRecord (report : Report) (operation : String) : Record :=
  ⟨.error, origin report.fatalLine, "FATAL: " ++ report.headline operation⟩

theorem fatalRecord_isMajor (report : Report) (operation : String) :
    (report.fatalRecord operation).isMajor = true := rfl

theorem origin_unaddressed (line : Nat) : (origin line).addressees? = none := by
  simp only [Origin.addressees?, origin]
  rfl

/-- Behind the record for all, a failure is told of in minor records. -/
theorem records_eq (report : Report) (operation : String) :
    ∃ details : List Record, (∀ record ∈ details, record.IsMinor) ∧
      report.records operation = report.fatalRecord operation :: details := by
  refine ⟨_, ?_, rfl⟩
  intro record member
  rcases List.mem_cons.mp member with rfl | last
  · exact ⟨.inl rfl, origin_unaddressed 39⟩
  · cases List.mem_singleton.mp last
    exact ⟨.inl rfl, origin_unaddressed 40⟩

end Report

namespace Logger

variable {logger : Logger} {threshold : Threshold} {minor : List Record}

theorem filter_major_of_minor (all : ∀ record ∈ minor, record.IsMinor) :
    minor.filter Record.isMajor = [] := by
  rw [List.filter_eq_nil_iff]
  intro record member
  simp [(all record member).not_isMajor]

theorem keeps_fatalRecord (filter : logger.filter = .ofThreshold threshold)
    (on : threshold ≠ .off) (report : Report) (operation : String) :
    logger.keeps (report.fatalRecord operation) = true := by
  have plain : (report.fatalRecord operation).IsPlain :=
    Report.origin_unaddressed report.fatalLine
  rw [keeps_of_threshold filter plain]
  cases threshold with
  | off => exact absurd rfl on
  | upTo level => cases level <;> rfl

/-- Of a run that ends in failure, the log has one record for all. -/
theorem major_of_kept (filter : logger.filter = .ofThreshold threshold) (on : threshold ≠ .off)
    (all : ∀ record ∈ minor, record.IsMinor) (report : Report) (operation : String) :
    ((minor ++ report.records operation).filter logger.keeps).filter Record.isMajor =
      [report.fatalRecord operation] := by
  obtain ⟨details, minorDetails, same⟩ := report.records_eq operation
  have major : (minor ++ report.records operation).filter Record.isMajor =
      [report.fatalRecord operation] := by
    rw [same, List.filter_append, filter_major_of_minor all, List.nil_append,
      List.filter_cons_of_pos (report.fatalRecord_isMajor operation),
      filter_major_of_minor minorDetails]
  rw [List.filter_comm, major,
    List.filter_cons_of_pos (keeps_fatalRecord filter on report operation), List.filter_nil]

/-- Where minor records are dropped, that record is all there is. -/
theorem kept_of_quiet (filter : logger.filter = .ofThreshold threshold) (on : threshold ≠ .off)
    (quiet : ∀ record : Record, record.IsMinor → logger.keeps record = false)
    (all : ∀ record ∈ minor, record.IsMinor) (report : Report) (operation : String) :
    (minor ++ report.records operation).filter logger.keeps = [report.fatalRecord operation] := by
  obtain ⟨details, minorDetails, same⟩ := report.records_eq operation
  have dropped {records : List Record} (minor : ∀ record ∈ records, record.IsMinor) :
      records.filter logger.keeps = [] := by
    rw [List.filter_eq_nil_iff]
    intro record member
    simp [quiet record (minor record member)]
  rw [same, List.filter_append, dropped all, List.nil_append,
    List.filter_cons_of_pos (keeps_fatalRecord filter on report operation), dropped minorDetails]

end Logger

theorem Threshold.not_admits_minor {threshold : Threshold} {record : Record}
    (refused : threshold.admits .debug = false) (minor : record.IsMinor) :
    threshold.admits record.level = false := by
  rcases minor.level with debug | trace
  · rw [debug]
    exact refused
  · rw [trace]
    cases threshold with
    | off => rfl
    | upTo level =>
        cases level with
        | trace => cases refused
        | debug => cases refused
        | info => rfl
        | warn => rfl
        | error => rfl

namespace Program

variable {slot : Slot} {arguments : Arguments} {settings : Settings} {machine : Machine}
  {request : LogRequest} {logger : Logger} {made : FileSystem} {failure : SlotFailure}

theorem hasKnownLevel_logRequest {words : List String}
    (parses : CommandLine.parse words = .ok arguments) (known : settings.HasKnownLevel)
    (terminal : Bool) : (logRequest arguments settings terminal).HasKnownLevel := by
  intro level asked
  rcases Option.or_eq_some_iff.mp asked with given | ⟨-, set⟩
  · exact CommandLine.logLevel_mem_names parses given
  · exact known level set

theorem logStarted_of_ok (silent : machine.logger = none)
    (started : Logger.start machine.files machine.environment request = (.ok logger, made)) :
    logStarted request machine = { machine with files := made, logger := some logger } := by
  rw [logStarted, Machine.startLog_of_started silent started]

theorem logStarted_of_error {failure : LoggerFailure}
    (refused : Logger.start machine.files machine.environment request = (.error failure, made)) :
    logStarted request machine =
      { machine with
        files := made
        errors := machine.errors ++
          ("Warning: could not initialise logging: " ++ failure.message ++ "\n") } := by
  rw [logStarted, Machine.startLog, refused]

theorem files_logStarted (silent : machine.logger = none) (request : LogRequest) :
    (logStarted request machine).files = machine.files ∨
      ∃ path, request.file = some path ∧ (logStarted request machine).files =
        (machine.files.makeDirectories (Logger.directoryOf path)).1 := by
  rcases started : Logger.start machine.files machine.environment request with ⟨outcome, made⟩
  cases outcome with
  | error failure =>
      rw [logStarted_of_error started]
      exact Logger.start_eq_error started
  | ok logger =>
      obtain ⟨-, course⟩ := Logger.start_eq_ok started
      rw [logStarted_of_ok silent started]
      generalize request.file = file at course
      generalize logger.sink = sink at course
      cases course with
      | standardError => exact .inl rfl
      | unopened path => exact .inr ⟨path, rfl, rfl⟩

/-- A log that has started can be written to once its first line opens its file. -/
theorem isReady_begun (silent : machine.logger = none)
    (known : (askedLog arguments settings machine).HasKnownLevel)
    (started : Logger.start machine.files machine.environment
      (askedLog arguments settings machine) = (.ok logger, made))
    (opens : ∀ path, (askedLog arguments settings machine).file = some path →
      ∃ place opened, made.truncate (Logger.filePath path) = .ok (place, opened)) :
    (begun arguments settings machine).IsReady := by
  obtain ⟨written, course⟩ := Logger.start_eq_ok started
  obtain ⟨threshold, -, filter⟩ := Logger.filterOf_eq_ok known written
  have minor := runningRecord_isMinor arguments.effectiveCommand
  rw [begun_eq, logStarted_of_ok silent started]
  generalize (askedLog arguments settings machine).file = file at course opens
  generalize sink : logger.sink = target at course
  cases course with
  | standardError =>
      apply Machine.IsReady.log _ minor
      intro other there
      cases there
      rw [sink]
      exact .inl trivial
  | unopened path =>
      obtain ⟨place, opened, accepted⟩ := opens path rfl
      cases kept : logger.keeps arguments.effectiveCommand.runningRecord with
      | false =>
          rw [Machine.log_of_dropped rfl minor.plain kept]
          intro other there
          cases there
          right
          refine ⟨⟨_, sink⟩, ?_⟩
          intro record quiet
          rw [Logger.keeps_of_threshold filter minor.plain] at kept
          rw [Logger.keeps_of_threshold filter quiet.plain]
          exact Threshold.not_admits_minor kept quiet
      | true =>
          rw [Machine.log_of_kept rfl minor.plain kept]
          simp only [sink, Logger.deliver, accepted]
          intro other there
          cases there
          obtain ⟨permissions, empty⟩ := FileSystem.holds_truncate accepted
          exact .inl ⟨_, _, (FileSystem.holds_append empty.file _).file⟩

/-- A log that has been asked for writes to the file that was asked for, and to no other. -/
theorem logsTo_logStarted (silent : machine.logger = none) {place : Place}
    (reaches : (logStarted request machine).LogsTo place) :
    ∃ path opened, request.file = some path ∧
      (machine.files.makeDirectories (Logger.directoryOf path)).1.truncate
        (Logger.filePath path) = .ok (place, opened) := by
  rcases started : Logger.start machine.files machine.environment request with ⟨outcome, made⟩
  cases outcome with
  | error failure =>
      rw [logStarted_of_error started] at reaches
      exact absurd reaches (Machine.not_logsTo_of_none silent)
  | ok logger =>
      obtain ⟨-, course⟩ := Logger.start_eq_ok started
      rw [logStarted_of_ok silent started] at reaches
      obtain ⟨sink, there, reaches⟩ := reaches
      have same : logger.sink = sink := Option.some.inj there
      rw [same] at course
      generalize request.file = file at course ⊢
      cases course with
      | standardError => cases reaches
      | unopened path =>
          cases reaches with
          | unopened accepted => exact ⟨path, _, rfl, accepted⟩

/-- What asking for a log may change: where a file is asked for, directories that come up for it
where there was nothing, and the file itself. -/
def OnlyLogChanges (before : FileSystem) (file : Option Path) (after : FileSystem) : Prop :=
  ∀ place, after.node? place = before.node? place ∨
    ∃ path, file = some path ∧
      let made := (before.makeDirectories (Logger.directoryOf path)).1
      (before.node? place = none ∧ made.node? place = some .directory ∧
          after.node? place = some .directory) ∨
        ∃ opened, made.truncate (Logger.filePath path) = .ok (place, opened)

theorem onlyLogChanges_logStarted (silent : machine.logger = none) (request : LogRequest) :
    OnlyLogChanges machine.files request.file (logStarted request machine).files := by
  intro place
  rcases files_logStarted silent request with same | ⟨path, asked, same⟩
  · rw [same]
    exact .inl rfl
  · rw [same]
    rcases FileSystem.addsDirectories_makeDirectories machine.files (Logger.directoryOf path) place
      with kept | ⟨absent, directory⟩
    · exact .inl kept
    · exact .inr ⟨path, asked, .inl ⟨absent, directory, directory⟩⟩

theorem plain_of_records {minor : List Record} (all : ∀ record ∈ minor, record.IsMinor)
    (report : Report) (operation : String) :
    ∀ record ∈ minor ++ report.records operation, record.IsPlain := by
  obtain ⟨details, minorDetails, same⟩ := report.records_eq operation
  intro record member
  rcases List.mem_append.mp member with early | late
  · exact (all record early).plain
  · rw [same] at late
    rcases List.mem_cons.mp late with rfl | later
    · exact Report.origin_unaddressed report.fatalLine
    · exact (minorDetails record later).plain

/-- A run whose command fails changes no file but that of its log. -/
theorem onlyLogChanges_of_error (silent : machine.logger = none) {after : Machine}
    (fails : (arguments.effectiveCommand.execute slot settings).perform
      (begun arguments settings machine) = (.error failure, after)) :
    OnlyLogChanges machine.files (askedLog arguments settings machine).file
      ((runWith slot arguments settings).run machine).2.files := by
  have logged := logged_runWith_of_error fails
  intro place
  by_cases reaches : (logStarted (askedLog arguments settings machine) machine).LogsTo place
  · obtain ⟨path, opened, asked, accepted⟩ := logsTo_logStarted silent reaches
    exact .inr ⟨path, asked, .inr ⟨opened, accepted⟩⟩
  · have still := logged.node?_eq reaches
    rw [still]
    exact onlyLogChanges_logStarted silent (askedLog arguments settings machine) place

/-- What a log tells of a run that ended in failure. -/
structure TellsFailure (logger : Logger) (request : LogRequest) (made : FileSystem)
    (now : Timestamp) (records : List Record) (fatal : Record) (after : Machine) : Prop where
  /-- One record is for all. -/
  major : (records.filter logger.keeps).filter Record.isMajor = [fatal]
  /-- Unless more was asked for, it is the only one. -/
  only : request.level ≠ some "debug" → request.level ≠ some "trace" →
    records.filter logger.keeps = [fatal]
  /-- The log is the lines of the records that are kept. -/
  stream : match request.file with
    | none => after.errors = logger.text now records
    | some path => ∀ place opened, made.truncate (Logger.filePath path) = .ok (place, opened) →
      ∃ permissions, after.files.node? place =
        some (.file (Utf8.encode (logger.text now records)) permissions)

theorem tellsFailure_of_error (silent : machine.logger = none) (unwritten : machine.errors = "")
    (known : (askedLog arguments settings machine).HasKnownLevel)
    (started : Logger.start machine.files machine.environment
      (askedLog arguments settings machine) = (.ok logger, made))
    (on : (askedLog arguments settings machine).level ≠ some "off")
    (opens : ∀ path, (askedLog arguments settings machine).file = some path →
      ∃ place opened, made.truncate (Logger.filePath path) = .ok (place, opened))
    {after : Machine}
    (fails : (arguments.effectiveCommand.execute slot settings).perform
      (begun arguments settings machine) = (.error failure, after)) :
    TellsFailure logger (askedLog arguments settings machine) made machine.now
      ((runWith slot arguments settings).recorded machine)
      (failure.report.fatalRecord operationName)
      ((runWith slot arguments settings).run machine).2 := by
  have ready := isReady_begun silent known started opens
  obtain ⟨minor, all, recorded, ended⟩ := run_runWith_of_error ready fails
  have plain := plain_of_records all failure.report operationName
  obtain ⟨written, course⟩ := Logger.start_eq_ok started
  obtain ⟨threshold, named, filter⟩ := Logger.filterOf_eq_ok known written
  obtain ⟨notOff, drops⟩ := Logger.threshold_of_level named
  have major := Logger.major_of_kept filter (notOff on) all failure.report operationName
  rw [logStarted_of_ok silent started] at ended
  rw [recorded, ended]
  refine ⟨major, ?_, ?_⟩
  · intro notDebug notTrace
    apply Logger.kept_of_quiet filter (notOff on) _ all
    intro record quiet
    rw [Logger.keeps_of_threshold filter quiet.plain]
    exact Threshold.not_admits_minor (drops notDebug notTrace) quiet
  · generalize (askedLog arguments settings machine).file = file at course opens ⊢
    generalize sink : logger.sink = target at course
    cases course with
    | standardError =>
        simp only
        rw [Machine.logAll_of_standardError rfl sink plain]
        simp only [unwritten, String.empty_append]
    | unopened path =>
        intro place opened accepted
        have any : (minor ++ failure.report.records operationName).filter logger.keeps ≠ [] := by
          intro none
          rw [none] at major
          cases major
        obtain ⟨files, permissions, finished, holds⟩ :=
          @Machine.logAll_of_unopened
            { machine with
              files := (machine.files.makeDirectories (Logger.directoryOf path)).1
              logger := some logger }
            logger _ _ _ _ rfl sink accepted plain any
        rw [finished]
        exact ⟨permissions, holds.file⟩

/-- What the gravest record says of a failure: its own message, but for one of the file system only
which operation failed. -/
def fatalText : SlotFailure → String
  | .fileSystem _ _ => "FATAL: Build number command failed"
  | failure => "FATAL: " ++ failure.message

theorem fatalRecord_report (failure : SlotFailure) :
    failure.report.fatalRecord operationName =
      ⟨.error, Report.origin failure.report.fatalLine, fatalText failure⟩ := by
  cases failure with
  | fileSystem path cause => rfl
  | slotNotFound expected => rfl
  | ambiguousSlot expected first second => rfl
  | valueTooLong length limit => rfl
  | invalidValue reason => rfl

theorem output_begun (machine : Machine) :
    (begun arguments settings machine).output = machine.output := by
  rw [begun_eq, Machine.output_log, logStarted, Machine.startLog]
  rcases Logger.start machine.files machine.environment (askedLog arguments settings machine) with
    ⟨outcome, made⟩
  cases outcome with
  | error failure => rfl
  | ok logger =>
      cases machine.logger with
      | none => rfl
      | some earlier => rfl

theorem runWith_of_ok {text : String} {after : Machine}
    (succeeds : (arguments.effectiveCommand.execute slot settings).perform
      (begun arguments settings machine) = (.ok text, after)) :
    ((runWith slot arguments settings).run machine).1 = 0 ∧
      ((runWith slot arguments settings).run machine).2.output =
        machine.output ++ (text ++ "\n") := by
  have prints := Command.output_execute slot settings arguments.effectiveCommand
    (begun arguments settings machine)
  rw [output_begun, succeeds] at prints
  rw [run_runWith, run_carryOut, succeeds]
  exact ⟨rfl, congrArg (· ++ (text ++ "\n")) prints⟩

theorem runWith_of_error {after : Machine}
    (fails : (arguments.effectiveCommand.execute slot settings).perform
      (begun arguments settings machine) = (.error failure, after)) :
    ((runWith slot arguments settings).run machine).1 = 1 ∧
      ((runWith slot arguments settings).run machine).2.output = machine.output := by
  have prints := Command.output_execute slot settings arguments.effectiveCommand
    (begun arguments settings machine)
  rw [output_begun, fails] at prints
  rw [run_runWith, run_carryOut, fails]
  exact ⟨rfl, (Machine.output_logAll _ _).trans prints⟩

/-- A run succeeds if the settings are found and the command succeeds, and then prints what the
command has to say. A run without settings does nothing but tell why. A run whose command fails
prints nothing, changes no file but that of its log, and leaves one record for all in the log, if
that can be written. -/
theorem run_outcome {words : List String} {arguments : Arguments}
    (parses : CommandLine.parse words = .ok arguments) (slot : Slot) (files : FileSystem)
    (environment : Environment) (now : Timestamp) (host : Host) :
    let machine := Machine.fresh files environment now host
    let ending := (run slot arguments).run machine
    match ((Settings.discover arguments.configFile).perform machine).1 with
    | .error failure =>
      let text := "Error: " ++ failure.report.fatalMessage "Loading configuration" ++ "\n"
      ending = (1, { machine with errors := text }) ∧
        (run slot arguments).requests machine =
          (Settings.discover arguments.configFile).requests machine ++ [.printError text]
    | .ok settings =>
      let request := logRequest arguments settings host.terminal
      match ((arguments.effectiveCommand.execute slot settings).perform
        (begun arguments settings machine)).1 with
      | .ok text => ending.1 = 0 ∧ ending.2.output = text ++ "\n"
      | .error failure =>
        ending.1 = 1 ∧ ending.2.output = "" ∧
          OnlyLogChanges files request.file ending.2.files ∧
          ∀ logger made, Logger.start files environment request = (.ok logger, made) →
            request.level ≠ some "off" →
            (∀ path, request.file = some path →
              ∃ place opened, made.truncate (Logger.filePath path) = .ok (place, opened)) →
            TellsFailure logger request made now
              ((runWith slot arguments settings).recorded machine)
              ⟨.error, Report.origin failure.report.fatalLine, fatalText failure⟩ ending.2 := by
  intro machine ending
  have silent : machine.logger = none := rfl
  obtain ⟨same, known⟩ := Settings.found_discover silent arguments.configFile
  rcases discovered : (Settings.discover arguments.configFile).perform machine with
    ⟨outcome, after⟩
  rw [discovered] at same known
  simp only at same
  cases outcome with
  | error failure =>
      refine ⟨?_, requests_run_of_error slot arguments _ discovered⟩
      change (run slot arguments).run machine = _
      rw [run_run, discovered]
      simp only [same]
      rfl
  | ok settings =>
      have whole : ending = (runWith slot arguments settings).run machine := by
        change (run slot arguments).run machine = _
        rw [run_run, discovered, same]
      rw [whole]
      simp only
      rcases executed : (arguments.effectiveCommand.execute slot settings).perform
        (begun arguments settings machine) with ⟨outcome, last⟩
      cases outcome with
      | ok text =>
          obtain ⟨status, prints⟩ := runWith_of_ok executed
          exact ⟨status, prints.trans String.empty_append⟩
      | error failure =>
          obtain ⟨status, prints⟩ := runWith_of_error executed
          have knownLevel := hasKnownLevel_logRequest parses (known settings rfl) host.terminal
          refine ⟨status, prints, onlyLogChanges_of_error silent executed, ?_⟩
          intro logger made started on opens
          rw [← fatalRecord_report]
          exact tellsFailure_of_error silent rfl knownLevel started on opens executed

/-- A search in a file, with or without a log file. -/
def locateApp (logFile : Option Path) : Arguments :=
  ⟨none, false, false, none, none, logFile, some (.locate ⟨"app"⟩ none)⟩

/-- The failure of a search in a file that is not there. -/
def noApp : SlotFailure :=
  .fileSystem ⟨"app"⟩ (.system .noEntry)

theorem run_outcome_without_artifact :
    CommandLine.parse ["locate", "-i", "app"] = .ok (locateApp none) ∧
      ((run (.holding Slot.sentinel) (locateApp none)).run
        (.fresh ⟨[], []⟩ ⟨[]⟩ Command.epoch)).1 = 1 ∧
      ((run (.holding Slot.sentinel) (locateApp none)).run
        (.fresh ⟨[], []⟩ ⟨[]⟩ Command.epoch)).2.errors =
          "1970-01-01 00:00:00.000 ERR FATAL: Build number command failed\n" := by
  have parses : CommandLine.parse ["locate", "-i", "app"] = .ok (locateApp none) := by
    decide +kernel
  have discovered : ((Settings.discover (locateApp none).configFile).perform
      (.fresh ⟨[], []⟩ ⟨[]⟩ Command.epoch)).1 = .ok .empty := by
    rfl
  have executed : (((locateApp none).effectiveCommand.execute (.holding Slot.sentinel)
      .empty).perform (begun (locateApp none) .empty
        (.fresh ⟨[], []⟩ ⟨[]⟩ Command.epoch))).1 = .error noApp := by
    decide +kernel
  have started : Logger.start ⟨[], []⟩ ⟨[]⟩ (logRequest (locateApp none) .empty false) =
      (.ok ⟨.ofThreshold (.upTo .warn), .text, false, .standardError⟩, ⟨[], []⟩) := by
    decide +kernel
  have outcome := run_outcome parses (.holding Slot.sentinel) ⟨[], []⟩ ⟨[]⟩ Command.epoch {}
  simp only [discovered, executed] at outcome
  obtain ⟨status, -, -, tells⟩ := outcome
  have told := tells _ _ started (by decide) (by rintro path ⟨⟩)
  have line := told.stream
  rw [Logger.text, told.only (by decide) (by decide)] at line
  exact ⟨parses, status, line⟩

/-- A machine on which a path for a log file leads through a link to a directory that is not
there. -/
def withDanglingLog : Machine :=
  .fresh ⟨[(["log"], .link ⟨"missing/x"⟩)], []⟩ ⟨[]⟩ Command.epoch

/-- Where the log file cannot be opened, the failure of a command is not logged: a complaint takes
the place of its record. -/
theorem failure_not_logged :
    CommandLine.parse ["--log-file", "log", "locate", "-i", "app"] =
        .ok (locateApp (some ⟨"log"⟩)) ∧
      ((Settings.discover none).perform withDanglingLog).1 = .ok .empty ∧
      Logger.start withDanglingLog.files ⟨[]⟩ (logRequest (locateApp (some ⟨"log"⟩)) .empty false) =
        (.ok ⟨.ofThreshold (.upTo .warn), .text, false, .unopened ⟨"log"⟩⟩,
          withDanglingLog.files) ∧
      (((locateApp (some ⟨"log"⟩)).effectiveCommand.execute (.holding Slot.sentinel)
        .empty).perform (begun (locateApp (some ⟨"log"⟩)) .empty withDanglingLog)).1 =
          .error noApp ∧
      ((run (.holding Slot.sentinel) (locateApp (some ⟨"log"⟩))).run withDanglingLog).1 = 1 ∧
      ((run (.holding Slot.sentinel) (locateApp (some ⟨"log"⟩))).run withDanglingLog).2.files =
        withDanglingLog.files ∧
      ((run (.holding Slot.sentinel) (locateApp (some ⟨"log"⟩))).run withDanglingLog).2.errors =
        (Complaint.failedWrite (.system .noEntry)).lines := by
  decide +kernel

end Program

end BuildStamp
