import BuildStamp.Proofs.Log.Stream

set_option autoImplicit false

/-!
Logs as they start. A filter that is the name of a threshold and nothing more looks at the level of
a record alone, and the sink goes by whether a file is asked for.
-/

namespace BuildStamp

theorem Gap.setOf_all_ne_zero {gaps : List Gap} (any : gaps ≠ []) :
    Gap.setOf (fun _ => true) gaps ≠ 0 := by
  cases gaps with
  | nil => exact absurd rfl any
  | cons gap rest => simp [Gap.setOf]

theorem Gap.ofText_ne_nil (text : List Char) : Gap.ofText text ≠ [] := by
  cases text with
  | nil => exact List.cons_ne_nil _ _
  | cons c rest => exact List.cons_ne_nil _ _

/-- The pattern of nothing occurs in every text. -/
theorem Pattern.occursIn_empty (text : List Char) : Pattern.empty.occursIn text = true := by
  have starts := Gap.setOf_all_ne_zero (Gap.ofText_ne_nil text)
  simpa [occursIn, overlay, Overlay.ends] using starts

namespace LogFilter

/-- The filter with one threshold for all modules. -/
def ofThreshold (threshold : Threshold) : LogFilter :=
  ⟨[⟨"", threshold⟩], .empty⟩

/-- A name writes the filter with its threshold. -/
theorem ofText?_of_mem_names {name : String} (member : name ∈ Threshold.names) :
    LogFilter.ofText? name = (Threshold.ofName? name).map ofThreshold := by
  have all : ∀ name ∈ Threshold.names,
      LogFilter.ofText? name = (Threshold.ofName? name).map ofThreshold := by
    decide +kernel
  exact all name member

theorem widest_ofThreshold (threshold : Threshold) :
    (ofThreshold threshold).widest = threshold := by
  cases threshold with
  | off => rfl
  | upTo level => cases level <;> rfl

theorem keeps_ofThreshold (threshold : Threshold) (modulePath : String) (level : Level)
    (message : String) :
    (ofThreshold threshold).keeps modulePath level message = threshold.admits level := by
  have covered : LogRule.covers ⟨"", threshold⟩ modulePath = true := rfl
  simp only [keeps, thresholdFor, ofThreshold, List.find?_cons, covered, Pattern.occursIn_empty,
    Bool.and_true]

end LogFilter

theorem Logger.keeps_eq_of_threshold {logger : Logger} {threshold : Threshold}
    (filter : logger.filter = .ofThreshold threshold) (entry : Record) :
    logger.keeps entry = (threshold.admits entry.level && entry.origin.isForLog) := by
  simp only [keeps, considers, filter, LogFilter.widest_ofThreshold, LogFilter.keeps_ofThreshold]
  cases threshold.admits entry.level with
  | true => rw [Bool.and_true]
  | false => rfl

theorem Logger.keeps_of_threshold {logger : Logger} {threshold : Threshold} {entry : Record}
    (filter : logger.filter = .ofThreshold threshold) (plain : entry.IsPlain) :
    logger.keeps entry = threshold.admits entry.level := by
  have addressed : entry.origin.isForLog = true := by
    rw [Origin.isForLog, plain]
  rw [keeps_eq_of_threshold filter, addressed, Bool.and_true]

theorem Threshold.mem_table_of_ofName? {name : String} {threshold : Threshold}
    (named : Threshold.ofName? name = some threshold) : (name, threshold) ∈ Threshold.table := by
  obtain ⟨earlier, later, same, -⟩ := List.lookup_eq_some_iff.mp named
  simp [same]

/-- One name alone turns a log off, and two alone ask for the records for a closer look. -/
theorem Threshold.of_mem_table {name : String} {threshold : Threshold}
    (member : (name, threshold) ∈ Threshold.table) :
    (threshold = .off → name = "off") ∧
      (threshold.admits .debug = true → name = "debug" ∨ name = "trace") := by
  have all : ∀ row ∈ Threshold.table, (row.2 = .off → row.1 = "off") ∧
      (row.2.admits .debug = true → row.1 = "debug" ∨ row.1 = "trace") := by
    decide
  exact all _ member

/-- What is asked of a logger names a threshold, if it names anything. -/
def LogRequest.HasKnownLevel (request : LogRequest) : Prop :=
  ∀ level, request.level = some level → level ∈ Threshold.names

/-- The level that counts is then the name of a threshold, given or not. -/
theorem LogRequest.HasKnownLevel.mem_names {request : LogRequest}
    (known : request.HasKnownLevel) :
    request.level.getD Threshold.defaultName ∈ Threshold.names := by
  cases level : request.level with
  | none => decide
  | some name => exact known name level

namespace Logger

variable {files made : FileSystem} {environment : Environment} {request : LogRequest}
  {logger : Logger}

/-- What opening a sink for an optional file comes to. -/
inductive SinkCourse (files : FileSystem) :
    Option Path → Except LoggerFailure LogSink × FileSystem → Prop
  | standardError : SinkCourse files none (.ok .standardError, files)
  | unopened (path : Path) :
      SinkCourse files (some path)
        (.ok (.unopened (filePath path)), (files.makeDirectories (directoryOf path)).1)
  | unusable (path : Path) : SinkCourse files (some path) (.error .unusablePath, files)
  | withoutDirectory (path : Path) :
      SinkCourse files (some path)
        (.error .noDirectory, (files.makeDirectories (directoryOf path)).1)

theorem openSink_course (files : FileSystem) (file : Option Path) :
    SinkCourse files file (openSink files file) := by
  rw [openSink.eq_def]
  cases file with
  | none => exact .standardError
  | some path =>
      by_cases useless : files.isDirectory path ∨ namesNoFile path
      · simp only [if_pos useless]
        exact .unusable path
      · simp only [if_neg useless]
        split
        · exact .unopened path
        · exact .withoutDirectory path

/-- The sink and the files of a log that has started. -/
inductive StartCourse (files : FileSystem) : Option Path → LogSink → FileSystem → Prop
  | standardError : StartCourse files none .standardError files
  | unopened (path : Path) :
      StartCourse files (some path) (.unopened (filePath path))
        (files.makeDirectories (directoryOf path)).1

theorem start_eq_ok (started : start files environment request = (.ok logger, made)) :
    filterOf request = .ok logger.filter ∧ StartCourse files request.file logger.sink made := by
  rw [start] at started
  split at started
  · cases started
  · rename_i filter written
    have course := openSink_course files request.file
    generalize openSink files request.file = opened at started course
    generalize request.file = file at course ⊢
    cases course with
    | standardError =>
        cases started
        exact ⟨written, .standardError⟩
    | unopened path =>
        cases started
        exact ⟨written, .unopened path⟩
    | unusable path => cases started
    | withoutDirectory path => cases started

/-- A start that fails may have made some of the directories of the log file. -/
theorem start_eq_error {failure : LoggerFailure}
    (refused : start files environment request = (.error failure, made)) :
    made = files ∨ ∃ path, request.file = some path ∧
      made = (files.makeDirectories (directoryOf path)).1 := by
  rw [start] at refused
  split at refused
  · cases refused
    exact .inl rfl
  · have course := openSink_course files request.file
    generalize openSink files request.file = opened at refused course
    generalize request.file = file at course ⊢
    cases course with
    | standardError => cases refused
    | unopened path => cases refused
    | unusable path =>
        cases refused
        exact .inl rfl
    | withoutDirectory path =>
        cases refused
        exact .inr ⟨path, rfl, rfl⟩

/-- Where the level is known, the filter of a log is its threshold. -/
theorem filterOf_eq_ok (known : request.HasKnownLevel) {filter : LogFilter}
    (written : filterOf request = .ok filter) :
    ∃ threshold, Threshold.ofName? (request.level.getD Threshold.defaultName) = some threshold ∧
      filter = .ofThreshold threshold := by
  rw [filterOf, LogFilter.ofText?_of_mem_names known.mem_names] at written
  cases named : Threshold.ofName? (request.level.getD Threshold.defaultName) with
  | none =>
      rw [named] at written
      cases written
  | some threshold =>
      rw [named] at written
      cases written
      exact ⟨threshold, rfl, rfl⟩

theorem level_eq_of_getD {name : String} (other : name ≠ Threshold.defaultName)
    (named : request.level.getD Threshold.defaultName = name) : request.level = some name := by
  cases level : request.level with
  | none =>
      rw [level] at named
      exact absurd named.symm other
  | some given =>
      rw [level] at named
      exact congrArg some named

/-- Every level but one keeps the gravest records, and every level but two drops those for a closer
look. -/
theorem threshold_of_level {threshold : Threshold}
    (named : Threshold.ofName? (request.level.getD Threshold.defaultName) = some threshold) :
    (request.level ≠ some "off" → threshold ≠ .off) ∧
      (request.level ≠ some "debug" → request.level ≠ some "trace" →
        threshold.admits .debug = false) := by
  obtain ⟨quiet, talkative⟩ := Threshold.of_mem_table (Threshold.mem_table_of_ofName? named)
  constructor
  · intro asked off
    exact asked (level_eq_of_getD (by decide) (quiet off))
  · intro notDebug notTrace
    rw [Bool.eq_false_iff]
    intro admitted
    rcases talkative admitted with debug | trace
    · exact notDebug (level_eq_of_getD (by decide) debug)
    · exact notTrace (level_eq_of_getD (by decide) trace)

end Logger

namespace Machine

variable {machine : Machine} {request : LogRequest} {logger : Logger} {made : FileSystem}

theorem startLog_of_started (silent : machine.logger = none)
    (started : Logger.start machine.files machine.environment request = (.ok logger, made)) :
    machine.startLog request =
      (.ok (), { machine with files := made, logger := some logger }) := by
  rw [startLog, started, silent]

/-- A log that starts is the first one. -/
theorem started_of_startLog (ok : (machine.startLog request).1 = .ok ()) :
    machine.logger = none ∧ ∃ logger made,
      Logger.start machine.files machine.environment request = (.ok logger, made) := by
  rw [startLog] at ok
  rcases start : Logger.start machine.files machine.environment request with ⟨outcome, made⟩
  rw [start] at ok
  cases outcome with
  | error failure => cases ok
  | ok logger =>
      cases silent : machine.logger with
      | none => exact ⟨rfl, logger, made, rfl⟩
      | some earlier =>
          rw [silent] at ok
          cases ok

end Machine

end BuildStamp
