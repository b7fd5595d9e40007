import BuildStamp.Proofs.Log.Start
import BuildStamp.Proofs.Text.Json
import BuildStamp.Proofs.Text.Lines

set_option autoImplicit false

/-!
What a log for programs is made of, whatever is logged: one line for each record that passes the
threshold and is the log's to keep, in order, from which the record's level, message and origin are
read back unchanged. No record breaks a line or passes for another one.
-/

namespace BuildStamp

/-- A module path that begins as an address does also ends as one: a last character, of a single
byte, is left to be cut off. A logger that looks at another one is at the end of its program. -/
def Origin.isLegible (origin : Origin) : Bool :=
  match origin.modulePath.toList with
  | [] => true
  | c :: rest => c ≠ Char.ofNat 0x7B || rest.getLast?.any fun last => last.utf8Size = 1

/-- A record that can be looked at, and the moment at which it comes. -/
structure LogEntry where
  moment : Timestamp
  record : Record
  legible : record.origin.isLegible = true
  deriving DecidableEq

namespace LogEntry

/-- What is read from the line of a record. -/
def members (entry : LogEntry) : List (String × String) :=
  [("level", entry.record.level.tag), ("message", entry.record.message),
    ("target", entry.record.origin.text), ("timestamp", entry.moment.compact)]

/-- The entry is the log's to keep. -/
def isForLog (entry : LogEntry) : Bool :=
  entry.record.origin.isForLog

/-- The line of an entry in a log for programs, if the entry is the log's to keep. -/
def line (entry : LogEntry) : String :=
  if entry.isForLog then Json.object entry.members ++ "\n" else ""

/-- What is complained of about the address of an entry that passes the threshold. -/
def complaints (entry : LogEntry) : String :=
  String.join (entry.record.origin.strangers.map fun name => (Complaint.unknownWriter name).lines)

end LogEntry

/-- The text falls into lines, from which the entries are read one after the other. -/
def IsJsonStream (entries : List LogEntry) (text : String) : Prop :=
  ∃ rows : List (List Char), Parts.split '\n' text.toList = rows ++ [[]] ∧
    rows.map (fun row => Json.readObject (String.ofList row)) =
      entries.map fun entry => some entry.members

theorem IsJsonStream.eq_nil_iff {entries : List LogEntry} {text : String}
    (stream : IsJsonStream entries text) : entries = [] ↔ text = "" := by
  obtain ⟨rows, parts, read⟩ := stream
  constructor
  · rintro rfl
    rw [List.map_nil, List.map_eq_nil_iff] at read
    rw [read] at parts
    exact String.toList_eq_nil_iff.mp (Parts.eq_nil_of_split parts)
  · rintro rfl
    have none : rows = [] := by
      cases rows with
      | nil => rfl
      | cons row rows => simp [Parts.split] at parts
    rw [none, List.map_nil] at read
    exact List.map_eq_nil_iff.mp read.symm

/-- From the lines of a row of entries those that are for the log are read. -/
theorem isJsonStream_lines (entries : List LogEntry) :
    IsJsonStream (entries.filter LogEntry.isForLog) (String.join (entries.map LogEntry.line)) := by
  have silent : ∀ entry ∈ entries, entry.isForLog = false → entry.line = "" := by
    intro entry _ addressed
    rw [LogEntry.line, addressed, if_neg Bool.false_ne_true]
  have written : ∀ entry ∈ entries.filter LogEntry.isForLog,
      entry.line = Json.object entry.members ++ "\n" := by
    intro entry member
    rw [LogEntry.line, if_pos (List.mem_filter.mp member).2]
  rw [join_map_filter silent, List.map_congr_left written]
  generalize entries.filter LogEntry.isForLog = kept
  refine ⟨kept.map fun entry => (Json.object entry.members).toList, ?_, ?_⟩
  · have free : ∀ row ∈ kept.map fun entry => (Json.object entry.members).toList, '\n' ∉ row := by
      intro row member
      obtain ⟨entry, -, rfl⟩ := List.mem_map.mp member
      exact Json.lineFeed_not_mem_object entry.members
    rw [← Parts.split_ended free]
    simp [String.toList_join, List.flatMap_map]
  · simp [Json.readObject_object]

namespace Origin

variable {origin : Origin}

theorem addressees?_ne_nil {names : List String} (named : origin.addressees? = some names) :
    names ≠ [] := by
  rw [addressees?] at named
  split at named
  · cases named
  · split at named
    · cases named
      simp [Parts.split_ne_nil]
    · cases named

/-- A record that is addressed to no writer besides the log is the log's to keep. -/
theorem isForLog_of_strangers (nobody : origin.strangers = []) : origin.isForLog = true := by
  rw [strangers, List.filter_eq_nil_iff] at nobody
  rw [isForLog]
  cases named : origin.addressees? with
  | none => rfl
  | some names =>
      have own : ∀ name ∈ names, name = ownName := by simpa [named] using nobody
      obtain ⟨name, member⟩ := List.exists_mem_of_ne_nil names (addressees?_ne_nil named)
      rw [own name member] at member
      exact List.contains_iff_mem.mpr member

end Origin

namespace Logger

/-- What an entry adds to the lines of a log. -/
def addition (logger : Logger) (entry : LogEntry) : String :=
  if logger.keeps entry.record then logger.line entry.moment entry.record else ""

/-- The logger lays out lines for programs, and drops what does not pass the threshold. -/
structure IsJson (logger : Logger) (threshold : Threshold) : Prop where
  layout : logger.layout = .json
  filter : logger.filter = .ofThreshold threshold

variable {logger : Logger} {threshold : Threshold} {entry : LogEntry}

theorem line_ne_empty (logger : Logger) (moment : Timestamp) (record : Record) :
    logger.line moment record ≠ "" := by
  intro none
  have characters := congrArg String.toList none
  simp [line] at characters

theorem IsJson.addition_eq (json : logger.IsJson threshold)
    (passes : threshold.admits entry.record.level = true) : logger.addition entry = entry.line := by
  have line : logger.line entry.moment entry.record = Json.object entry.members ++ "\n" := by
    rw [Logger.line, json.layout]
    rfl
  rw [addition, keeps_eq_of_threshold json.filter, passes, Bool.true_and, line, LogEntry.line,
    LogEntry.isForLog]

theorem IsJson.complaints_eq (json : logger.IsJson threshold)
    (passes : threshold.admits entry.record.level = true) :
    logger.complaints entry.record = entry.complaints := by
  rw [complaints, considers, json.filter, LogFilter.widest_ofThreshold, if_pos passes,
    LogEntry.complaints]

theorem IsJson.silent (json : logger.IsJson threshold)
    (dropped : threshold.admits entry.record.level = false) :
    logger.addition entry = "" ∧ logger.complaints entry.record = "" := by
  constructor
  · rw [addition, keeps_eq_of_threshold json.filter, dropped, Bool.false_and,
      if_neg Bool.false_ne_true]
  · rw [complaints, considers, json.filter, LogFilter.widest_ofThreshold, dropped,
      if_neg Bool.false_ne_true]

end Logger

namespace Machine

/-- The machine after a record at its moment. -/
def logAt (machine : Machine) (entry : LogEntry) : Machine :=
  { machine with now := entry.moment }.log entry.record

/-- The machine after a row of records, each at its moment. -/
def logEntries (machine : Machine) (entries : List LogEntry) : Machine :=
  entries.foldl logAt machine

variable {machine : Machine} {logger : Logger}

/-- On the standard error stream an entry adds its line behind what is complained of it. -/
theorem logAt_of_standardError (present : machine.logger = some logger)
    (sink : logger.sink = .standardError) (entry : LogEntry) :
    machine.logAt entry =
      { machine with
        now := entry.moment
        errors :=
          machine.errors ++ (logger.complaints entry.record ++ logger.addition entry) } := by
  have there : { machine with now := entry.moment }.logger = some logger := present
  rw [logAt, Logger.addition]
  cases kept : logger.keeps entry.record with
  | false => rw [log_dropped there kept, if_neg Bool.false_ne_true, String.append_empty]
  | true =>
      have same : { logger with sink := LogSink.standardError } = logger := by
        rw [← sink]
      rw [log_kept there kept, if_pos rfl]
      simp only [sink, Logger.deliver, same, ← present]

theorem errors_logEntries (present : machine.logger = some logger)
    (sink : logger.sink = .standardError) (entries : List LogEntry) :
    (machine.logEntries entries).errors =
      machine.errors ++ String.join (entries.map fun entry =>
        logger.complaints entry.record ++ logger.addition entry) := by
  induction entries generalizing machine with
  | nil => exact String.append_empty.symm
  | cons entry rest ih =>
      have step := logAt_of_standardError present sink entry
      have later := @ih (machine.logAt entry) (by rw [step]; exact present)
      rw [List.map_cons, String.join_cons, ← String.append_assoc]
      refine later.trans ?_
      rw [step]

/-- What a log file holds in the course of a row of records: its path leads to a place that is as it
was before, or it has been opened there and holds the lines so far. -/
inductive FileLog (path : Path) (place : Place) (before : FileSystem) (logger : Logger)
    (machine : Machine) : String → Prop
  | unopened {opened : FileSystem}
      (present : machine.logger = some { logger with sink := .unopened path })
      (untouched : machine.files = before)
      (accepts : before.truncate path = .ok (place, opened)) :
      FileLog path place before logger machine ""
  | opened {text : String} {permissions : Nat} (any : text ≠ "")
      (present : machine.logger = some { logger with sink := .file place })
      (file : machine.files.node? place = some (.file (Utf8.encode text) permissions)) :
      FileLog path place before logger machine text

variable {path : Path} {place : Place} {before : FileSystem} {text : String}

/-- The first line that is kept opens the file, and the later ones go behind it. -/
theorem FileLog.logAt (log : FileLog path place before logger machine text) (entry : LogEntry) :
    FileLog path place before logger (machine.logAt entry) (text ++ logger.addition entry) := by
  rw [Logger.addition, Machine.logAt]
  cases log with
  | unopened present untouched accepts =>
      have there : { machine with now := entry.moment }.logger =
        some { logger with sink := .unopened path } := present
      cases kept : logger.keeps entry.record with
      | false =>
          rw [if_neg Bool.false_ne_true, log_dropped there kept]
          exact .unopened present untouched accepts
      | true =>
          -- The line goes behind nothing, since opening has emptied the file.
          obtain ⟨permissions, emptied⟩ := FileSystem.holds_truncate accepts
          have grown := FileSystem.holds_append emptied.file
            (Utf8.encode (logger.line entry.moment entry.record))
          rw [if_pos rfl, log_kept there kept, String.empty_append]
          simp only [untouched, Logger.deliver, accepts]
          exact .opened (logger.line_ne_empty _ _) rfl grown.file
  | opened any present file =>
      have there : { machine with now := entry.moment }.logger =
        some { logger with sink := .file place } := present
      cases kept : logger.keeps entry.record with
      | false =>
          rw [if_neg Bool.false_ne_true, log_dropped there kept, String.append_empty]
          exact .opened any present file
      | true =>
          have grown := FileSystem.holds_append file
            (Utf8.encode (logger.line entry.moment entry.record))
          rw [← Utf8.encode_append] at grown
          have more : text ++ logger.line entry.moment entry.record ≠ "" := by
            intro none
            exact any (String.append_eq_empty_iff.mp none).1
          rw [if_pos rfl, log_kept there kept]
          simp only [Logger.deliver]
          exact .opened more rfl grown.file

theorem FileLog.logEntries (log : FileLog path place before logger machine text)
    (entries : List LogEntry) :
    FileLog path place before logger (machine.logEntries entries)
      (text ++ String.join (entries.map logger.addition)) := by
  induction entries generalizing machine text with
  | nil =>
      rw [List.map_nil, String.join_nil, String.append_empty]
      exact log
  | cons entry rest ih =>
      have later := ih (log.logAt entry)
      rw [String.append_assoc, ← String.join_cons, ← List.map_cons] at later
      exact later

end Machine

namespace Logger

variable {files made : FileSystem} {environment : Environment} {request : LogRequest}
  {threshold : Threshold} {logger : Logger}

theorem filterOf_of_named
    (named : Threshold.ofName? (request.level.getD Threshold.defaultName) = some threshold) :
    filterOf request = .ok (.ofThreshold threshold) := by
  have member := List.mem_map_of_mem (f := Prod.fst) (Threshold.mem_table_of_ofName? named)
  rw [filterOf, LogFilter.ofText?_of_mem_names member, named]
  rfl

theorem start_of_standardError
    (named : Threshold.ofName? (request.level.getD Threshold.defaultName) = some threshold)
    (file : request.file = none) (files : FileSystem) (environment : Environment) :
    start files environment request =
      (.ok (assemble environment request (.ofThreshold threshold) .standardError), files) := by
  rw [start, filterOf_of_named named, file]
  rfl

theorem assembled_of_start (started : start files environment request = (.ok logger, made)) :
    ∃ filter sink, logger = assemble environment request filter sink := by
  rw [start] at started
  split at started
  · cases started
  · split at started
    · cases started
    · cases started
      exact ⟨_, _, rfl⟩

theorem layout_of_start (started : start files environment request = (.ok logger, made)) :
    logger.layout = Layout.ofName (request.format.getD Layout.defaultName) := by
  obtain ⟨filter, sink, rfl⟩ := assembled_of_start started
  rfl

/-- What is asked of a log for programs with a threshold is what starts. -/
theorem isJson_of_start (json : request.format = some "json")
    (named : Threshold.ofName? (request.level.getD Threshold.defaultName) = some threshold)
    (started : start files environment request = (.ok logger, made)) :
    logger.IsJson threshold := by
  have written := (start_eq_ok started).1
  rw [filterOf_of_named named] at written
  refine ⟨?_, (Except.ok.inj written).symm⟩
  rw [layout_of_start started, json]
  rfl

end Logger

namespace Machine

variable {machine : Machine} {request : LogRequest} {threshold : Threshold} {logger : Logger}
  {made : FileSystem}

/-- On the standard error stream a log for programs adds, record by record, the complaints about
the addresses of those that pass and the lines of those that are its to keep. -/
theorem errors_of_json (json : request.format = some "json")
    (named : Threshold.ofName? (request.level.getD Threshold.defaultName) = some threshold)
    (file : request.file = none) (silent : machine.logger = none) (entries : List LogEntry) :
    let passing := entries.filter fun entry => threshold.admits entry.record.level
    (machine.startLog request).1 = .ok () ∧
      ((machine.startLog request).2.logEntries entries).errors =
        machine.errors ++
          String.join (passing.map fun entry => entry.complaints ++ entry.line) := by
  intro passing
  have started := Logger.start_of_standardError named file machine.files machine.environment
  have isJson := Logger.isJson_of_start json named started
  generalize logged : Logger.assemble machine.environment request (.ofThreshold threshold)
    .standardError = logger at started isJson
  have sink : logger.sink = .standardError := by
    rw [← logged]
    rfl
  have nothing : ∀ entry ∈ entries, threshold.admits entry.record.level = false →
      logger.complaints entry.record ++ logger.addition entry = "" := by
    intro entry _ dropped
    obtain ⟨noLine, noComplaint⟩ := isJson.silent dropped
    rw [noLine, noComplaint, String.append_empty]
  have told : ∀ entry ∈ passing, logger.complaints entry.record ++ logger.addition entry =
      entry.complaints ++ entry.line := by
    intro entry member
    have passes := (List.mem_filter.mp member).2
    rw [isJson.addition_eq passes, isJson.complaints_eq passes]
  rw [startLog_of_started silent started, errors_logEntries rfl sink, join_map_filter nothing,
    List.map_congr_left told]
  exact ⟨rfl, rfl⟩

/-- A log file for programs holds the lines of the records that pass and are its to keep, and stays
unopened as long as there is none. -/
theorem fileLog_of_json (json : request.format = some "json")
    (named : Threshold.ofName? (request.level.getD Threshold.defaultName) = some threshold)
    {path : Path} (file : request.file = some path) (ok : (machine.startLog request).1 = .ok ())
    {place : Place} {opened : FileSystem}
    (opens : (machine.startLog request).2.files.truncate (Logger.filePath path) =
      .ok (place, opened)) (entries : List LogEntry) :
    let passing := entries.filter fun entry => threshold.admits entry.record.level
    ∃ logger, FileLog (Logger.filePath path) place (machine.startLog request).2.files logger
      ((machine.startLog request).2.logEntries entries)
      (String.join (passing.map LogEntry.line)) := by
  intro passing
  obtain ⟨silent, logger, made, started⟩ := started_of_startLog ok
  have isJson := Logger.isJson_of_start json named started
  have course := (Logger.start_eq_ok started).2
  rw [file] at course
  have present : some logger = some { logger with sink := .unopened (Logger.filePath path) } := by
    generalize sink : logger.sink = target at course
    cases course with
    | unopened => rw [← sink]
  have nothing : ∀ entry ∈ entries, threshold.admits entry.record.level = false →
      logger.addition entry = "" := fun entry _ dropped => (isJson.silent dropped).1
  have lines : ∀ entry ∈ passing, logger.addition entry = entry.line := fun entry member =>
    isJson.addition_eq (List.mem_filter.mp member).2
  rw [startLog_of_started silent started] at opens ⊢
  have log := (FileLog.unopened present rfl opens).logEntries entries
  rw [String.empty_append, join_map_filter nothing, List.map_congr_left lines] at log
  exact ⟨logger, log⟩

/-- Whatever is logged for programs, the lines of the log, the first one on its machine, are read
back as the records that pass the threshold and are the log's to keep. They are what a log file
holds, and on the standard error stream complaints about the addresses of records stand between them
and nothing else. -/
theorem startLog_json_stream (json : request.format = some "json")
    (named : Threshold.ofName? (request.level.getD Threshold.defaultName) = some threshold)
    (silent : machine.logger = none) (entries : List LogEntry) :
    let started := machine.startLog request
    let ending := started.2.logEntries entries
    let passing := entries.filter fun entry => threshold.admits entry.record.level
    let lines := String.join (passing.map LogEntry.line)
    IsJsonStream (passing.filter LogEntry.isForLog) lines ∧
      (request.file = none →
        started.1 = .ok () ∧
          ending.errors =
            machine.errors ++
              String.join (passing.map fun entry => entry.complaints ++ entry.line) ∧
          ((∀ entry ∈ passing, entry.record.origin.strangers = []) →
            ending.errors = machine.errors ++ lines ∧ IsJsonStream passing lines)) ∧
      ∀ path place opened, request.file = some path → started.1 = .ok () →
        started.2.files.truncate (Logger.filePath path) = .ok (place, opened) →
        if passing.filter LogEntry.isForLog = [] then ending.files = started.2.files
        else ∃ permissions,
          ending.files.node? place = some (.file (Utf8.encode lines) permissions) := by
  intro started ending passing lines
  have stream := isJsonStream_lines passing
  refine ⟨stream, fun file => ?_, fun path place opened file ok opens => ?_⟩
  · obtain ⟨ok, errors⟩ := errors_of_json json named file silent entries
    refine ⟨ok, errors, fun familiar => ?_⟩
    have unmixed : ∀ entry ∈ passing, entry.complaints ++ entry.line = entry.line := by
      intro entry member
      rw [LogEntry.complaints, familiar entry member]
      exact String.empty_append
    have all : ∀ entry ∈ passing, entry.isForLog = true := fun entry member =>
      Origin.isForLog_of_strangers (familiar entry member)
    rw [List.map_congr_left unmixed] at errors
    rw [List.filter_eq_self.mpr all] at stream
    exact ⟨errors, stream⟩
  · -- An open log file holds at least one line, so the lines tell whether it has been opened.
    obtain ⟨logger, log⟩ := fileLog_of_json json named file ok opens entries
    have none := stream.eq_nil_iff
    change FileLog _ _ _ _ _ lines at log
    change _ ↔ lines = "" at none
    generalize lines = text at log none ⊢
    cases log with
    | unopened _ untouched =>
        rw [if_pos (none.mpr rfl)]
        exact untouched
    | @opened text permissions any _ holds =>
        rw [if_neg (fun empty => any (none.mp empty))]
        exact ⟨permissions, holds⟩

/-- A machine on which nothing is yet. -/
def blank : Machine :=
  ⟨⟨[], []⟩, ⟨[]⟩, .ofMilliseconds 0, "", "", none, {}⟩

/-- A log for programs from one level on. -/
def jsonFromInfo (file : Option Path) : LogRequest :=
  ⟨some "info", some "json", file, false⟩

/-- A record whose message would break its line and its string. -/
def unruly : LogEntry :=
  ⟨.ofMilliseconds 1, ⟨.info, ⟨"buildversion::slot::search", some 7⟩, "\"\\\n\x07é"⟩, by decide⟩

/-- A record that does not pass. -/
def chatter : LogEntry :=
  ⟨.ofMilliseconds 2, ⟨.debug, ⟨"elsewhere", none⟩, "never mind"⟩, by decide⟩

/-- The line of the unruly record. -/
def unrulyLine : String :=
  "\x7b\"level\":\"INF\",\"message\":\"\\\"\\\\\\n\\u0007é\",\"target\":\"slot/search.rs:7\"," ++
    "\"timestamp\":\"1970-01-01T00:00:00.001Z\"\x7d\n"

theorem startLog_json_stream_of_unruly :
    IsJsonStream [unruly] unrulyLine ∧
      ((blank.startLog (jsonFromInfo none)).2.logEntries [unruly, chatter]).errors = unrulyLine ∧
      ∃ permissions,
        ((blank.startLog (jsonFromInfo (some ⟨"log"⟩))).2.logEntries
          [unruly, chatter]).files.node? ["log"] =
            some (.file (Utf8.encode unrulyLine) permissions) := by
  have named : Threshold.ofName? "info" = some (.upTo .info) := by decide
  have passing : [unruly, chatter].filter
      (fun entry => (Threshold.upTo .info).admits entry.record.level) = [unruly] := by decide
  have line : String.join ([unruly].map LogEntry.line) = unrulyLine := by decide +kernel
  have shown := @startLog_json_stream blank (jsonFromInfo none) _ rfl named rfl [unruly, chatter]
  have filed := @startLog_json_stream blank (jsonFromInfo (some ⟨"log"⟩)) _ rfl named rfl
    [unruly, chatter]
  simp only [passing, line] at shown filed
  have familiar : ∀ entry ∈ [unruly], entry.record.origin.strangers = [] := by decide
  obtain ⟨errors, stream⟩ := (shown.2.1 rfl).2.2 familiar
  have ok : (blank.startLog (jsonFromInfo (some ⟨"log"⟩))).1 = .ok () := by
    rfl
  have file := filed.2.2 ⟨"log"⟩ ["log"] _ rfl ok rfl
  rw [if_neg (by decide)] at file
  exact ⟨stream, errors, file⟩

/-- A record of this kind passes, but it is addressed to a writer that there is not. -/
def addressed : LogEntry :=
  ⟨.ofMilliseconds 0, ⟨.info, ⟨"\x7bx\x7d", none⟩, "hi"⟩, by decide⟩

/-- In place of the line of a record that is addressed to another writer stands a complaint. -/
theorem addressed_without_line :
    Threshold.ofName? ((jsonFromInfo none).level.getD Threshold.defaultName) =
        some (.upTo .info) ∧
      (Threshold.upTo .info).admits addressed.record.level = true ∧
      (blank.startLog (jsonFromInfo none)).1 = .ok () ∧
      ¬ ∃ text,
        ((blank.startLog (jsonFromInfo none)).2.logEntries [addressed]).errors =
          blank.errors ++ text ∧
        IsJsonStream [addressed] text := by
  have named : Threshold.ofName? "info" = some (.upTo .info) := by decide
  have ok := (@errors_of_json blank (jsonFromInfo none) _ rfl named rfl rfl []).1
  refine ⟨named, by decide, ok, ?_⟩
  rintro ⟨text, errors, rows, parts, read⟩
  have complaint : ((blank.startLog (jsonFromInfo none)).2.logEntries [addressed]).errors =
      (Complaint.unknownWriter "x").lines := by
    decide +kernel
  have same : (Complaint.unknownWriter "x").lines = text :=
    complaint.symm.trans (errors.trans String.empty_append)
  have three : (Parts.split '\n' (Complaint.unknownWriter "x").lines.toList).length = 3 := by
    decide +kernel
  have one := congrArg List.length read
  rw [same, parts, List.length_append] at three
  simp only [List.length_map, List.length_cons, List.length_nil] at one three
  omega

end Machine

end BuildStamp
