import BuildStamp.Proofs.Artifact.Course
import BuildStamp.Proofs.Log.Reach
import Mathlib.Control.Monad.Basic

set_option autoImplicit false

/-!
An injection into a file is all or nothing. Whichever step fails, the files are as they were,
without a trace of the fresh file; and an injection that succeeds puts a file at the entry that the
output path names and touches nothing else. The file of the log is left aside, which is the log's
to write to, but it must not come to stand where the injection works: where its first line opens
the output or the fresh file, it takes the place of what was written there.
-/

namespace BuildStamp

namespace Artifact

open Machine (Logged)

variable {machine first after : Machine} {input output path : Path} {contents : List UInt8}
  {permissions : Nat} {injection : Injection} {records : List Record} {failure : SlotFailure}
  {staged : Staged} {within wider : Place → Prop} {sink : Option LogSink} {base : FileSystem}

/-- A fresh file is filled. The log may open it, if it does not meet its place. -/
theorem logged_filling (logged : Logged within sink base machine)
    (absent : machine.files.node? staged.place = none) (contents : List UInt8) (permissions : Nat) :
    Logged (fun place => within place ∨ place = staged.place) sink
      (base.put staged.place (.file contents permissions))
      (filling machine staged contents permissions) :=
  logged.put (FileSystem.ne_nil_of_absent absent) (fun _ => .inl) fun _ _ _ _ => .inr rfl

/-- Nothing is left of a fresh file that is given up. -/
theorem logged_unlink (logged : Logged within sink base machine)
    (absent : machine.files.node? staged.place = none)
    (during : Logged (fun place => within place ∨ place = staged.place) sink
      (base.put staged.place (.file contents permissions)) after) :
    Logged within sink base (after.unlink staged.place) :=
  logged.unlink (logged.isAbsent absent) during fun _ apart inside => inside.resolve_right apart

theorem ReplaceCourse.logged_of_error (logged : Logged within sink base machine)
    (course : ReplaceCourse machine path contents permissions records (.error failure) after) :
    Logged within sink base after := by
  cases course with
  | unstaged refused => exact logged
  | abandoned made fails =>
      obtain ⟨absent, -⟩ := FileSystem.stage_eq_ok made
      cases fails with
      | unfinished refuses => exact logged_unlink logged absent (logged_filling logged absent _ _)
      | unmoved refused =>
          exact logged_unlink logged absent ((logged_filling logged absent _ _).log _)

theorem logged_replaced (logged : Logged within sink base machine) (injection : Injection)
    (offset : Nat) : Logged within sink base (replaced machine injection offset) :=
  (logged.log _).log _

/-- An injection that fails changes no file but that of the log. -/
theorem InjectCourse.logged_of_error (logged : Logged within sink base machine)
    (course : InjectCourse machine input output injection records (.error failure) after) :
    Logged within sink base after := by
  cases course with
  | unread refused => exact logged
  | unqueried refused => exact logged
  | unfit read refused => exact logged
  | unplaced read queried injected refused =>
      exact refused.logged_of_error (logged_replaced logged _ _)

/-- A fresh file has been made at a place that the log does not meet. -/
structure Starts (first : Machine) (path : Path) (staged : Staged) (machine : Machine) : Prop where
  logged : Logged first.LogsTo first.sink? first.files machine
  fresh : ∃ made, first.files.stage path.directory = .ok (staged, made)
  absent : machine.files.node? staged.place = none
  clear : ¬ first.LogMeets staged.place

/-- The fresh file that is made is the one that could have been made before the log went on. -/
theorem starts_of_stage {made : FileSystem}
    (logged : Logged first.LogsTo first.sink? first.files machine)
    (apart : ∀ staged made, first.files.stage path.directory = .ok (staged, made) →
      ¬ first.LogMeets staged.place)
    (fresh : machine.files.stage path.directory = .ok (staged, made)) :
    Starts first path staged machine := by
  obtain ⟨earlier, files, stages, same⟩ := FileSystem.stage_gained logged.gains fresh
  have clear := apart earlier files stages
  have still : machine.files.node? earlier.place = none := by
    rw [← (FileSystem.stage_eq_ok stages).1]
    exact logged.node?_eq fun reaches => clear reaches.meets
  cases same still
  exact ⟨logged, ⟨files, stages⟩, still, clear⟩

theorem Starts.logged_filling (starts : Starts first path staged machine) (contents : List UInt8)
    (permissions : Nat) :
    Logged first.LogsTo first.sink? (first.files.put staged.place (.file contents permissions))
      (filling machine staged contents permissions) :=
  starts.logged.put (FileSystem.ne_nil_of_absent starts.absent) (fun _ inside => inside)
    fun opened made there accepted =>
      absurd (.inr ⟨opened, _, _, made, there, accepted⟩) starts.clear

/-- What a fresh file leaves that has been moved to its place: itself, nothing else but what the log
has written, and a log that goes elsewhere. -/
structure Placed (first : Machine) (place : Place) (contents : List UInt8) (permissions : Nat)
    (after : Machine) : Prop where
  own : after.files.node? place = some (.file contents permissions)
  logged : Logged first.LogsTo first.sink? (first.files.put place (.file contents permissions))
    after
  elsewhere : ¬ after.LogsTo place

theorem Placed.log {place : Place} (placed : Placed first place contents permissions after)
    (entry : Record) : Placed first place contents permissions (after.log entry) where
  own := (Machine.node?_log placed.elsewhere entry).trans placed.own
  logged := placed.logged.log entry
  elsewhere := fun reaches =>
    placed.elsewhere (((Machine.logged_refl after).log entry).within_of_logsTo reaches)

/-- A fresh file that is moved takes the path's own entry, unless the log would open it there. -/
theorem DeliverCourse.placed_of_ok (starts : Starts first path staged machine)
    (course : DeliverCourse machine staged path contents permissions records (.ok ()) after) :
    ∃ target, first.files.moveTarget path = .ok target ∧
      (¬ first.LogOpensAt target → Placed first target contents permissions after) := by
  cases course with
  | moved accepted =>
      have during := (starts.logged_filling contents permissions).log
        (movingRecord staged.path path)
      have gap := starts.logged.isAbsent starts.absent
      obtain ⟨found, node, there, rfl⟩ := FileSystem.moveOnto_eq_ok accepted
      have gains := (FileSystem.gains_put_of_absent gap contents permissions).trans during.gains
      have target := FileSystem.moveTarget_gained gains found
      have complete : (announced machine staged path contents permissions).files.node?
          staged.place = some (.file contents permissions) := by
        rw [← FileSystem.node?_put_self (FileSystem.ne_nil_of_absent gap)]
        exact during.node?_eq fun reaches => starts.clear reaches.meets
      rw [there] at complete
      cases complete
      refine ⟨_, target, ?_⟩
      intro closed
      obtain ⟨-, -, directory, name, -, -, rfl⟩ := FileSystem.moveTarget_eq_ok target
      have below : directory ++ [name] ≠ [] := by simp
      obtain ⟨moved, elsewhere⟩ := during.move gap starts.clear closed below
      exact ⟨FileSystem.node?_put_self below _, moved, elsewhere⟩

theorem ReplaceCourse.placed_of_ok
    (logged : Logged first.LogsTo first.sink? first.files machine)
    (apart : ∀ staged made, first.files.stage path.directory = .ok (staged, made) →
      ¬ first.LogMeets staged.place)
    (course : ReplaceCourse machine path contents permissions records (.ok ()) after) :
    ∃ target, first.files.moveTarget path = .ok target ∧
      (¬ first.LogOpensAt target → Placed first target contents permissions after) := by
  cases course with
  | placed made succeeds => exact succeeds.placed_of_ok (starts_of_stage logged apart made)

/-- What a successful injection has read, and what it has written where the log stays away. -/
structure Replacement (machine after : Machine) (input output : Path) (injection : Injection)
    (offset : Nat) (source : Place) (artifact contents : List UInt8) (permissions : Nat)
    (place : Place) : Prop where
  free : input.text.toList.contains (Char.ofNat 0) = false
  found : machine.files.find input = .ok source
  file : machine.files.node? source = some (.file artifact permissions)
  readable : machine.files.rights.reads permissions = true
  injected : Slot.injectInPlace artifact injection = (.ok offset, contents)
  target : machine.files.moveTarget output = .ok place
  placed : ¬ machine.LogOpensAt place → Placed machine place contents permissions after

theorem InjectCourse.replacement_of_ok {offset : Nat}
    (apart : ∀ staged made, machine.files.stage output.directory = .ok (staged, made) →
      ¬ machine.LogMeets staged.place)
    (course : InjectCourse machine input output injection records (.ok offset) after) :
    ∃ source artifact contents permissions place,
      Replacement machine after input output injection offset source artifact contents permissions
        place := by
  cases course with
  | @written artifact contents permissions offset records after read queried injected placed =>
      obtain ⟨free, source, bits, found, file, readable⟩ := FileSystem.readFile_eq_ok read
      rw [FileSystem.permissions_of_file free found file] at queried
      cases queried
      obtain ⟨place, target, places⟩ := placed.placed_of_ok
        (logged_replaced (Machine.logged_refl machine) injection offset) apart
      refine ⟨source, artifact, contents, permissions, place, free, found, file, readable, ?_,
        target, fun closed => (places closed).log _⟩
      rw [Slot.injectInPlace, injected]

/-- A failed injection leaves every file as it was but that of the log. A successful one puts the
file that the input makes, with the input's permission bits, at the entry that the output path
names, and leaves every other place alone: that of the input, and where the output was a link, that
of the link's target. So it is as long as the log does not come between: its file is not the fresh
one, and its first line does not open the output. -/
theorem inject_all_or_nothing (machine : Machine) (input output : Path) (injection : Injection) :
    match (inject input output injection).perform machine with
    | (.error _, after) =>
      (∀ place, ¬ machine.LogsTo place →
        after.files.node? place = machine.files.node? place) ∧
      after.files.workingPlace = machine.files.workingPlace
    | (.ok offset, after) =>
      (∀ staged made, machine.files.stage output.directory = .ok (staged, made) →
        ¬ machine.LogMeets staged.place) →
      ∃ source artifact contents permissions directory name,
        machine.files.find input = .ok source ∧
        machine.files.node? source = some (.file artifact permissions) ∧
        Slot.injectInPlace artifact injection = (.ok offset, contents) ∧
        machine.files.entryOf output = .ok (directory, name) ∧
        (¬ machine.LogOpensAt (directory ++ [name]) →
          after.files.node? (directory ++ [name]) = some (.file contents permissions) ∧
          (∀ place, place ≠ directory ++ [name] → ¬ machine.LogsTo place →
            after.files.node? place = machine.files.node? place) ∧
          after.files.workingPlace = machine.files.workingPlace) := by
  obtain ⟨records, outcome, after, ends, course⟩ :=
    injectCourse_whole machine input output injection
  rw [ends.perform]
  cases outcome with
  | error failure =>
      have logged := course.logged_of_error (Machine.logged_refl machine)
      exact ⟨fun place => logged.node?_eq, logged.gains.workingPlace⟩
  | ok offset =>
      intro apart
      obtain ⟨source, artifact, contents, permissions, place, wrote⟩ :=
        course.replacement_of_ok apart
      obtain ⟨-, -, directory, name, stands, -, rfl⟩ := FileSystem.moveTarget_eq_ok wrote.target
      have below : directory ++ [name] ≠ [] := by simp
      refine ⟨source, artifact, contents, permissions, directory, name, wrote.found, wrote.file,
        wrote.injected, stands, ?_⟩
      intro closed
      obtain ⟨own, logged, -⟩ := wrote.placed closed
      refine ⟨own, ?_, logged.gains.workingPlace⟩
      intro place elsewhere other
      exact (logged.node?_eq other).trans (FileSystem.node?_put_of_ne below elsewhere _)

/-- A machine with an artifact and a link to it, and a log that will open a file. -/
def logging (filter : LogFilter) (file : Path) (host : Host := {}) : Machine :=
  { Machine.fresh ⟨[(["app"], .file [65, 0] 0o755), (["out"], .link ⟨"app"⟩)], []⟩ ⟨[]⟩
      ⟨1970, 1, 1, 0, 0, 0, 0⟩ host with
    logger := some ⟨filter, .text, false, .unopened file⟩ }

/-- A machine on which all records go to a file of their own. -/
def linkedOutput (host : Host := {}) : Machine :=
  logging ⟨[⟨"", .upTo .trace⟩], .empty⟩ ⟨"log"⟩ host

/-- The system below has no room for more than one byte. -/
def fullDisk : Host :=
  { refusals := [⟨.append ⟨⟨"/./.tmp000000"⟩, [".tmp000000"]⟩ [66, 0], ⟨28⟩, 1⟩] }

theorem linkedOutput_logsTo {host : Host} {place : Place}
    (reaches : (linkedOutput host).LogsTo place) : place = ["log"] := by
  obtain ⟨sink, there, reaches⟩ := reaches
  cases there
  cases reaches with
  | unopened accepted =>
      have opens : (linkedOutput host).files.truncate ⟨"log"⟩ = .ok (["log"], _) := rfl
      rw [opens] at accepted
      cases accepted
      rfl

theorem linkedOutput_stages_clear (staged : Staged) (made : FileSystem)
    (fresh : linkedOutput.files.stage ⟨"."⟩ = .ok (staged, made)) :
    ¬ linkedOutput.LogMeets staged.place := by
  have stages : linkedOutput.files.stage ⟨"."⟩ =
      .ok (⟨⟨"/./.tmp000000"⟩, [".tmp000000"]⟩, _) := rfl
  rw [stages] at fresh
  cases fresh
  exact Machine.not_logMeets_of_unopened rfl (by decide) fun _ _ => ⟨_, rfl⟩

theorem inject_over_link :
    ((inject ⟨"app"⟩ ⟨"out"⟩ ⟨"A", "B", 2⟩).perform linkedOutput).1 = .ok 0 ∧
      ((inject ⟨"app"⟩ ⟨"out"⟩ ⟨"A", "B", 2⟩).perform linkedOutput).2.files.node? ["out"] =
        some (.file [66, 0] 0o755) ∧
      (∀ place, place ≠ ["out"] → place ≠ ["log"] →
        ((inject ⟨"app"⟩ ⟨"out"⟩ ⟨"A", "B", 2⟩).perform linkedOutput).2.files.node? place =
          linkedOutput.files.node? place) ∧
      ((inject ⟨"app"⟩ ⟨"out"⟩ ⟨"A", "B", 2⟩).perform (linkedOutput fullDisk)).1 =
        .error (.fileSystem ⟨"/./.tmp000000"⟩ (.staging ⟨"/./.tmp000000"⟩ (.system ⟨28⟩))) ∧
      ∀ place, place ≠ ["log"] →
        ((inject ⟨"app"⟩ ⟨"out"⟩ ⟨"A", "B", 2⟩).perform (linkedOutput fullDisk)).2.files.node?
            place =
          (linkedOutput fullDisk).files.node? place := by
  have succeeds : ((inject ⟨"app"⟩ ⟨"out"⟩ ⟨"A", "B", 2⟩).perform linkedOutput).1 = .ok 0 := by
    decide +kernel
  have fails : ((inject ⟨"app"⟩ ⟨"out"⟩ ⟨"A", "B", 2⟩).perform (linkedOutput fullDisk)).1 =
      .error (.fileSystem ⟨"/./.tmp000000"⟩ (.staging ⟨"/./.tmp000000"⟩ (.system ⟨28⟩))) := by
    decide +kernel
  have stands : linkedOutput.files.entryOf ⟨"out"⟩ = .ok ([], "out") := by
    decide +kernel
  have source : linkedOutput.files.find ⟨"app"⟩ = .ok ["app"] := by
    decide +kernel
  have artifact : linkedOutput.files.node? ["app"] = some (.file [65, 0] 0o755) := by
    decide +kernel
  have closed : ¬ linkedOutput.LogOpensAt ["out"] := fun opens =>
    Machine.not_logMeets_of_unopened rfl (by decide) (fun _ _ => ⟨_, rfl⟩) (.inr opens)
  have clear := linkedOutput_stages_clear
  have alone (place : Place) (unlogged : place ≠ ["log"]) : ¬ linkedOutput.LogsTo place :=
    fun reaches => unlogged (linkedOutput_logsTo reaches)
  have aloneToo (place : Place) (unlogged : place ≠ ["log"]) :
      ¬ (linkedOutput fullDisk).LogsTo place :=
    fun reaches => unlogged (linkedOutput_logsTo reaches)
  -- The machines are made opaque here, so that no step runs the whole injection by unfolding.
  generalize linkedOutput = machine at *
  generalize linkedOutput fullDisk = full at *
  have effect := inject_all_or_nothing machine ⟨"app"⟩ ⟨"out"⟩ ⟨"A", "B", 2⟩
  have failure := inject_all_or_nothing full ⟨"app"⟩ ⟨"out"⟩ ⟨"A", "B", 2⟩
  generalize (inject ⟨"app"⟩ ⟨"out"⟩ ⟨"A", "B", 2⟩).perform machine = ending
    at succeeds effect ⊢
  generalize (inject ⟨"app"⟩ ⟨"out"⟩ ⟨"A", "B", 2⟩).perform full = other at fails failure ⊢
  obtain ⟨outcome, after⟩ := ending
  obtain ⟨refused, remains⟩ := other
  cases succeeds
  cases fails
  obtain ⟨_, _, contents, permissions, directory, name, found, file, injected, entry, wrote⟩ :=
    effect clear
  rw [source] at found
  cases found
  rw [artifact] at file
  cases file
  rw [stands] at entry
  cases entry
  cases injected
  obtain ⟨own, others, -⟩ := wrote closed
  exact ⟨rfl, own, fun place apart unlogged => others place apart (alone place unlogged), rfl,
    fun place unlogged => failure.1 place (aloneToo place unlogged)⟩

/-- A filter that keeps the record of a move and no other. -/
def movesOnly : LogFilter :=
  ⟨[⟨"", .upTo .trace⟩], ((Pattern.ofText? "Renaming".toList).getD .empty)⟩

/-- Where the line that tells of an injection opens a log file in the output's place, it takes the
place of what was injected. So does one that opens the fresh file before the move. -/
theorem injected_number_lost_to_log :
    Slot.injectInPlace [65, 0] ⟨"A", "B", 2⟩ = (.ok 0, [66, 0]) ∧
      ((inject ⟨"app"⟩ ⟨"out"⟩ ⟨"A", "B", 2⟩).perform
        (logging ⟨[⟨"", .upTo .info⟩], .empty⟩ ⟨"out"⟩)).1 = .ok 0 ∧
      ((inject ⟨"app"⟩ ⟨"out"⟩ ⟨"A", "B", 2⟩).perform
        (logging ⟨[⟨"", .upTo .info⟩], .empty⟩ ⟨"out"⟩)).2.files.node? ["out"] ≠
          some (.file [66, 0] 0o755) ∧
      ((inject ⟨"app"⟩ ⟨"out"⟩ ⟨"A", "B", 2⟩).perform
        (logging movesOnly ⟨".tmp000000"⟩)).1 = .ok 0 ∧
      ((inject ⟨"app"⟩ ⟨"out"⟩ ⟨"A", "B", 2⟩).perform
        (logging movesOnly ⟨".tmp000000"⟩)).2.files.node? ["out"] ≠
          some (.file [66, 0] 0o755) := by
  decide +kernel

end Artifact

end BuildStamp
