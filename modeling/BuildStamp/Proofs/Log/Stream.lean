import BuildStamp.Proofs.FileSystem.Changes
import BuildStamp.Proofs.Text.Encoding
import BuildStamp.Script.Machine

set_option autoImplicit false

/-!
What a row of records leaves behind. The lines of those that are kept follow each other on the
standard error stream, or in the file that the first of them opens, and nothing else changes.
-/

namespace BuildStamp

/-- The record is addressed to no writer by name. -/
def Record.IsPlain (record : Record) : Prop :=
  record.origin.addressees? = none

namespace Logger

/-- The lines of the records that are kept. -/
def text (logger : Logger) (moment : Timestamp) (records : List Record) : String :=
  String.join ((records.filter logger.keeps).map (logger.line moment))

variable {logger : Logger} {entry : Record}

theorem complaints_of_plain (plain : entry.IsPlain) : logger.complaints entry = "" := by
  have nobody : entry.origin.strangers = [] := by
    rw [Origin.strangers, plain]
    rfl
  rw [complaints, nobody]
  split
  · rfl
  · rfl

theorem text_cons_of_kept (kept : logger.keeps entry = true) (moment : Timestamp)
    (rest : List Record) :
    logger.text moment (entry :: rest) = logger.line moment entry ++ logger.text moment rest := by
  rw [text, List.filter_cons_of_pos kept, List.map_cons, String.join_cons, text]

theorem text_cons_of_dropped (dropped : logger.keeps entry = false) (moment : Timestamp)
    (rest : List Record) :
    logger.text moment (entry :: rest) = logger.text moment rest := by
  rw [text, List.filter_cons_of_neg (by simp [dropped]), text]

end Logger

namespace Machine

/-- The machine after a row of records. -/
def logAll (machine : Machine) (records : List Record) : Machine :=
  records.foldl log machine

variable {machine : Machine} {logger : Logger} {entry : Record} {records : List Record}

theorem logAll_cons (machine : Machine) (entry : Record) (rest : List Record) :
    machine.logAll (entry :: rest) = (machine.log entry).logAll rest := rfl

theorem logAll_append (machine : Machine) (first second : List Record) :
    machine.logAll (first ++ second) = (machine.logAll first).logAll second :=
  List.foldl_append

theorem log_of_none (silent : machine.logger = none) (entry : Record) :
    machine.log entry = machine := by
  rw [log, silent]

theorem log_dropped (present : machine.logger = some logger)
    (dropped : logger.keeps entry = false) :
    machine.log entry = { machine with errors := machine.errors ++ logger.complaints entry } := by
  obtain ⟨files, environment, now, output, errors, _⟩ := machine
  cases present
  simp [log, Logger.record, dropped]

theorem log_of_dropped (present : machine.logger = some logger) (plain : entry.IsPlain)
    (dropped : logger.keeps entry = false) : machine.log entry = machine := by
  rw [log_dropped present dropped, Logger.complaints_of_plain plain, String.append_empty]

/-- A kept record does what its line does where lines go, once its address is complained of. -/
theorem log_kept (present : machine.logger = some logger) (kept : logger.keeps entry = true) :
    machine.log entry =
      let (sink, files, text) :=
        Logger.deliver machine.files (logger.line machine.now entry) logger.sink
      { machine with
        logger := some { logger with sink }
        files
        errors := machine.errors ++ (logger.complaints entry ++ text) } := by
  obtain ⟨files, environment, now, output, errors, _⟩ := machine
  cases present
  simp [log, Logger.record, kept]

theorem log_of_kept (present : machine.logger = some logger) (plain : entry.IsPlain)
    (kept : logger.keeps entry = true) :
    machine.log entry =
      let (sink, files, text) :=
        Logger.deliver machine.files (logger.line machine.now entry) logger.sink
      { machine with
        logger := some { logger with sink }
        files
        errors := machine.errors ++ text } := by
  have step := log_kept present kept
  rw [Logger.complaints_of_plain plain] at step
  simpa only [String.empty_append] using step

/-- On the standard error stream the lines of a row of records follow what it had. -/
theorem logAll_of_standardError (present : machine.logger = some logger)
    (sink : logger.sink = .standardError) (plain : ∀ entry ∈ records, entry.IsPlain) :
    machine.logAll records =
      { machine with errors := machine.errors ++ logger.text machine.now records } := by
  induction records generalizing machine with
  | nil => simp [logAll, Logger.text]
  | cons entry rest ih =>
      have plainEntry := plain entry (.head rest)
      have plainRest : ∀ other ∈ rest, other.IsPlain := fun other member =>
        plain other (.tail entry member)
      rw [logAll_cons]
      cases kept : logger.keeps entry with
      | false =>
          rw [log_of_dropped present plainEntry kept, Logger.text_cons_of_dropped kept]
          exact ih present plainRest
      | true =>
          have same : { logger with sink := LogSink.standardError } = logger := by
            rw [← sink]
          have step := log_of_kept present plainEntry kept
          simp only [sink, Logger.deliver, same] at step
          have rests := @ih (machine.log entry) (by rw [step]) plainRest
          rw [step] at rests
          rw [step, rests, Logger.text_cons_of_kept kept, ← String.append_assoc, ← present]

/-- In an open file the lines of a row of records follow what it had. -/
theorem logAll_of_file {place : Place} {contents : List UInt8} {permissions : Nat}
    (present : machine.logger = some logger) (sink : logger.sink = .file place)
    (file : machine.files.node? place = some (.file contents permissions))
    (plain : ∀ entry ∈ records, entry.IsPlain) :
    ∃ files, machine.logAll records = { machine with files } ∧
      FileSystem.Holds machine.files files place
        (contents ++ Utf8.encode (logger.text machine.now records)) permissions := by
  induction records generalizing machine contents with
  | nil =>
      refine ⟨machine.files, rfl, ?_, fun _ _ => rfl, rfl, rfl⟩
      have nothing : Utf8.encode (logger.text machine.now []) = [] := by
        rfl
      rw [nothing, List.append_nil]
      exact file
  | cons entry rest ih =>
      have plainEntry := plain entry (.head rest)
      have plainRest : ∀ other ∈ rest, other.IsPlain := fun other member =>
        plain other (.tail entry member)
      rw [logAll_cons]
      cases kept : logger.keeps entry with
      | false =>
          rw [log_of_dropped present plainEntry kept, Logger.text_cons_of_dropped kept]
          exact ih present file plainRest
      | true =>
          have same : { logger with sink := LogSink.file place } = logger := by
            rw [← sink]
          have step := log_of_kept present plainEntry kept
          simp only [sink, Logger.deliver, same, String.append_empty, ← present] at step
          have grown := FileSystem.holds_append file
            (Utf8.encode (logger.line machine.now entry))
          have rests := @ih (machine.log entry) _ (by rw [step]; exact present)
            (by rw [step]; exact grown.file) plainRest
          rw [step] at rests
          obtain ⟨files, ends, holds⟩ := rests
          refine ⟨files, ?_, ?_⟩
          · rw [step]
            exact ends
          · rw [Logger.text_cons_of_kept kept, Utf8.encode_append, ← List.append_assoc]
            exact grown.trans holds

/-- A log file is opened empty by the first line, and then has the lines of all the records. -/
theorem logAll_of_unopened {path : Path} {place : Place} {opened : FileSystem}
    (present : machine.logger = some logger) (sink : logger.sink = .unopened path)
    (accepted : machine.files.truncate path = .ok (place, opened))
    (plain : ∀ entry ∈ records, entry.IsPlain) (any : records.filter logger.keeps ≠ []) :
    ∃ files permissions,
      machine.logAll records =
        { machine with files, logger := some { logger with sink := .file place } } ∧
      FileSystem.Holds machine.files files place
        (Utf8.encode (logger.text machine.now records)) permissions := by
  obtain ⟨permissions, emptied⟩ := FileSystem.holds_truncate accepted
  induction records with
  | nil => exact absurd rfl any
  | cons entry rest ih =>
      have plainEntry := plain entry (.head rest)
      have plainRest : ∀ other ∈ rest, other.IsPlain := fun other member =>
        plain other (.tail entry member)
      rw [logAll_cons]
      cases kept : logger.keeps entry with
      | false =>
          rw [log_of_dropped present plainEntry kept, Logger.text_cons_of_dropped kept]
          rw [List.filter_cons_of_neg (by simp [kept])] at any
          exact ih plainRest any
      | true =>
          have step := log_of_kept present plainEntry kept
          simp only [sink, Logger.deliver, accepted, String.append_empty] at step
          have grown := emptied.trans
            (FileSystem.holds_append emptied.file (Utf8.encode (logger.line machine.now entry)))
          have rests := @logAll_of_file (machine.log entry) { logger with sink := .file place }
            rest place _ _ (by rw [step]) rfl (by rw [step]; exact grown.file) plainRest
          rw [step] at rests
          obtain ⟨files, ends, holds⟩ := rests
          refine ⟨files, permissions, ?_, ?_⟩
          · rw [step]
            exact ends
          · rw [Logger.text_cons_of_kept kept, Utf8.encode_append]
            exact grown.trans holds

end Machine

/-- A line can be added where lines go. -/
def LogSink.IsOpen (files : FileSystem) : LogSink → Prop
  | .standardError => True
  | .lost => True
  | .file place => ∃ contents permissions, files.node? place = some (.file contents permissions)
  | .unopened _ => False

/-- A record for those who look closer. -/
structure Record.IsMinor (record : Record) : Prop where
  level : record.level = .debug ∨ record.level = .trace
  plain : record.IsPlain

namespace Machine

/-- A minor record adds its line where the log already has some, or is dropped by a log whose file
is still to be opened. -/
def IsReady (machine : Machine) : Prop :=
  ∀ logger, machine.logger = some logger → logger.sink.IsOpen machine.files ∨
    (∃ path, logger.sink = .unopened path) ∧
      ∀ record, record.IsMinor → logger.keeps record = false

variable {machine : Machine} {entry : Record} {records : List Record}

theorem IsReady.log (ready : machine.IsReady) (minor : entry.IsMinor) :
    (machine.log entry).IsReady := by
  rcases Option.eq_none_or_eq_some machine.logger with silent | ⟨logger, present⟩
  · rw [log_of_none silent]
    exact ready
  · cases kept : logger.keeps entry with
    | false =>
        rw [log_of_dropped present minor.plain kept]
        exact ready
    | true =>
        rcases ready logger present with isOpen | ⟨-, quiet⟩
        · intro later there
          left
          rw [log_of_kept present minor.plain kept] at there ⊢
          cases sink : logger.sink with
          | standardError =>
              rw [sink] at there
              cases there
              exact trivial
          | lost =>
              rw [sink] at there
              cases there
              exact trivial
          | unopened path =>
              rw [sink] at isOpen
              exact isOpen.elim
          | file place =>
              rw [sink] at there isOpen
              cases there
              obtain ⟨contents, permissions, file⟩ := isOpen
              exact ⟨_, _, (FileSystem.holds_append file _).file⟩
        · rw [quiet entry minor] at kept
          cases kept

/-- The log has no file at a place where there is nothing. -/
theorem IsReady.afterUnlinking (ready : machine.IsReady) {place : Place}
    (absent : machine.files.node? place = none) :
    machine.logger.map (·.afterUnlinking place) = machine.logger := by
  rcases Option.eq_none_or_eq_some machine.logger with silent | ⟨logger, present⟩
  · rw [silent]
    rfl
  · have elsewhere : logger.sink ≠ .file place := by
      intro sink
      rcases ready logger present with isOpen | ⟨⟨path, unopened⟩, -⟩
      · rw [sink] at isOpen
        obtain ⟨contents, permissions, file⟩ := isOpen
        rw [absent] at file
        cases file
      · rw [sink] at unopened
        cases unopened
    rw [present, Option.map_some, Logger.afterUnlinking, if_neg elsewhere]

/-- A fresh file that comes and goes leaves nothing behind. -/
theorem IsReady.unlink_put {place : Place} (ready : machine.IsReady)
    (absent : machine.files.node? place = none) (node : Node) :
    { machine with files := machine.files.put place node }.unlink place = machine := by
  simp only [unlink, FileSystem.erase_put_of_absent absent, ready.afterUnlinking absent]

/-- A fresh file that comes and goes around a record leaves what the record leaves alone. -/
theorem IsReady.log_around {place : Place} (ready : machine.IsReady)
    (absent : machine.files.node? place = none) (node : Node) (minor : entry.IsMinor) :
    ({ machine with files := machine.files.put place node }.log entry).unlink place =
      machine.log entry := by
  have gone := FileSystem.erase_put_of_absent absent node
  have stays := ready.unlink_put absent node
  generalize fresh : { machine with files := machine.files.put place node } = during at stays ⊢
  have loggers : during.logger = machine.logger := by
    rw [← fresh]
  rcases Option.eq_none_or_eq_some machine.logger with silent | ⟨logger, present⟩
  · rw [log_of_none silent, log_of_none (loggers.trans silent)]
    exact stays
  · have there := loggers.trans present
    cases kept : logger.keeps entry with
    | false =>
        rw [log_of_dropped present minor.plain kept, log_of_dropped there minor.plain kept]
        exact stays
    | true =>
        rw [log_of_kept present minor.plain kept, log_of_kept there minor.plain kept, ← fresh]
        rcases ready logger present with isOpen | ⟨-, quiet⟩
        · cases sink : logger.sink with
          | standardError =>
              simp [Logger.deliver, unlink, Logger.afterUnlinking, gone]
          | lost => simp [Logger.deliver, unlink, Logger.afterUnlinking, gone]
          | unopened path =>
              rw [sink] at isOpen
              exact isOpen.elim
          | file target =>
              rw [sink] at isOpen
              obtain ⟨contents, permissions, file⟩ := isOpen
              have apart : target ≠ place := by
                rintro rfl
                rw [absent] at file
                cases file
              have still := file
              rw [← FileSystem.node?_put_of_ne (FileSystem.ne_nil_of_absent absent) apart node]
                at still
              simp [Logger.deliver, unlink, Logger.afterUnlinking, apart,
                FileSystem.append_of_file file, FileSystem.append_of_file still,
                FileSystem.erase_put_of_ne _ _ _ apart, gone]
        · rw [quiet entry minor] at kept
          cases kept

theorem IsReady.logAll (ready : machine.IsReady) (minor : ∀ entry ∈ records, entry.IsMinor) :
    (machine.logAll records).IsReady := by
  induction records generalizing machine with
  | nil => exact ready
  | cons entry rest ih =>
      exact ih (ready.log (minor entry (.head rest))) fun other member =>
        minor other (.tail entry member)

end Machine

end BuildStamp
