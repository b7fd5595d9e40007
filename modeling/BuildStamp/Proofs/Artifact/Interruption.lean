import BuildStamp.Proofs.Artifact.Replacement
import BuildStamp.Proofs.Script.Moments

set_option autoImplicit false

/-!
An injection that is stopped at any moment. Until the move the fresh file is the only thing that is
new, and the move brings the whole of it to the entry of the output at once, so whoever looks there
finds what was there before or the complete file, however the contents are cut into pieces.
-/

namespace BuildStamp

namespace FileSystem

/-- The name that a fresh file beside a path's entry gets, whichever it is, is not that of the
entry itself. -/
def StagesApart (files : FileSystem) (path : Path) : Prop :=
  ∀ staged made, files.stage path.directory = .ok (staged, made) →
    ¬ files.IsOwnPlace path staged.place

/-- The files at a moment of a replacement: as they were, with a fresh file that is not complete or
not in its place yet, or with a complete file at the path's own entry. -/
inductive Replacing (files : FileSystem) (path : Path) (complete : Node → Prop) :
    FileSystem → Prop
  | untouched : Replacing files path complete files
  | filling {staged : Staged} {made : FileSystem}
      (fresh : files.stage path.directory = .ok (staged, made)) (written : List UInt8)
      (permissions : Nat) :
      Replacing files path complete (files.put staged.place (.file written permissions))
  | replaced {place : Place} {node : Node} (target : files.moveTarget path = .ok place)
      (whole : complete node) : Replacing files path complete (files.put place node)

variable {files during : FileSystem} {path : Path} {complete : Node → Prop} {place : Place}

/-- Something that stands at the entry has its name, so that no fresh file gets it. -/
theorem stagesApart_of_present (present : ∀ place, files.IsOwnPlace path place →
    files.node? place ≠ none) : files.StagesApart path := by
  intro staged made fresh own
  exact present _ own (stage_eq_ok fresh).1

/-- The path's own entry is what it was or complete. -/
theorem Replacing.own (replacing : Replacing files path complete during)
    (apart : files.StagesApart path) (own : files.IsOwnPlace path place) :
    during.node? place = files.node? place ∨
      ∃ node, complete node ∧ during.node? place = some node := by
  cases replacing with
  | untouched => exact .inl rfl
  | filling fresh written permissions =>
      rename_i staged made
      have below := ne_nil_of_absent (stage_eq_ok fresh).1
      have elsewhere : place ≠ staged.place := by
        rintro rfl
        exact apart _ _ fresh own
      exact .inl (node?_put_of_ne below elsewhere _)
  | replaced target whole =>
      cases own.unique (isOwnPlace_of_moveTarget target)
      exact .inr ⟨_, whole, node?_put_self own.ne_nil _⟩

/-- Every other entry is what it was. -/
theorem Replacing.others (replacing : Replacing files path complete during)
    (present : files.node? place ≠ none) (other : ¬ files.IsOwnPlace path place) :
    during.node? place = files.node? place := by
  cases replacing with
  | untouched => rfl
  | filling fresh written permissions =>
      rename_i staged made
      have absent := (stage_eq_ok fresh).1
      have elsewhere : place ≠ staged.place := by
        rintro rfl
        exact present absent
      exact node?_put_of_ne (ne_nil_of_absent absent) elsewhere _
  | replaced target whole =>
      rename_i taken node
      have own := isOwnPlace_of_moveTarget target
      have elsewhere : place ≠ taken := by
        rintro rfl
        exact other own
      exact node?_put_of_ne own.ne_nil elsewhere _

end FileSystem

namespace Artifact

open Attempt
open Machine (Logged)

/-- A moment of a replacement: the files are those of one of its steps, but for what the log has
written. -/
def Interim (first : Machine) (path : Path) (complete : Node → Prop) (machine : Machine) : Prop :=
  ∃ base, FileSystem.Replacing first.files path complete base ∧
    Logged first.LogsTo first.sink? base machine

variable {first machine after : Machine} {path : Path} {complete : Node → Prop} {staged : Staged}
  {made : FileSystem} {permissions : Nat}

theorem Interim.log (interim : Interim first path complete machine) (record : Record) :
    Interim first path complete (machine.log record) := by
  obtain ⟨base, replacing, logged⟩ := interim
  exact ⟨base, replacing, logged.log record⟩

theorem interim_untouched (logged : Logged first.LogsTo first.sink? first.files machine) :
    Interim first path complete machine :=
  ⟨_, .untouched, logged⟩

theorem Starts.interim_filling (starts : Starts first path staged machine) (written : List UInt8)
    (permissions : Nat) :
    Interim first path complete (filling machine staged written permissions) := by
  obtain ⟨made, fresh⟩ := starts.fresh
  exact ⟨_, .filling fresh written permissions, starts.logged_filling written permissions⟩

/-- While the pieces come in, the fresh file alone grows. -/
theorem throughout_appendAll (starts : Starts first path staged machine) (written : List UInt8)
    (permissions : Nat) (pieces : List (List UInt8)) :
    (appendAll staged pieces).Throughout (Interim first path complete)
      (filling machine staged written permissions) := by
  have below := FileSystem.ne_nil_of_absent starts.absent
  induction pieces generalizing written with
  | nil => exact starts.interim_filling written permissions
  | cons piece rest ih =>
      have before : Interim first path complete (filling machine staged written permissions) :=
        starts.interim_filling written permissions
      rcases ends_append machine below written piece permissions (onPath staged.path) with
        ⟨cause, grown, refuses, ends⟩ | ends
      · exact (ends.throughout_expect rfl before
          (starts.interim_filling grown permissions)).bind_of_error ends.perform
      · exact (ends.throughout_expect rfl before
          (starts.interim_filling (written ++ piece) permissions)).bind_of_ok ends.perform
          (ih (written ++ piece))

/-- The output's entry is one that the log does not meet. -/
def Undisturbed (first : Machine) (path : Path) : Prop :=
  ∀ place, first.files.IsOwnPlace path place → ¬ first.LogMeets place

/-- The move brings the complete file to its entry, or fails and does nothing. -/
theorem throughout_moveOnto (starts : Starts first path staged machine)
    (undisturbed : Undisturbed first path) {contents : List UInt8}
    (whole : complete (.file contents permissions)) :
    (expect (onPath path) (.request (.moveOnto staged path)) :
      Attempt SlotFailure Unit).Throughout (Interim first path complete)
        (announced machine staged path contents permissions) := by
  have before : Interim first path complete (announced machine staged path contents permissions) :=
    (starts.interim_filling contents permissions).log _
  rcases ends_moveOnto (announced machine staged path contents permissions) staged path
    (onPath path) with ⟨cause, refused, ends⟩ | ⟨place, files, accepted, ends⟩
  · exact ends.throughout_expect rfl before before
  · obtain ⟨target, found, places⟩ := (DeliverCourse.moved accepted).placed_of_ok starts
    have own := FileSystem.isOwnPlace_of_moveTarget found
    have placed := places fun opens => undisturbed target own (.inr opens)
    exact ends.throughout_expect rfl before ⟨_, .replaced found whole, placed.logged⟩

/-- All that is done with a fresh file. -/
theorem throughout_deliver (starts : Starts first path staged machine)
    (undisturbed : Undisturbed first path) (pieces : List (List UInt8))
    (whole : complete (.file pieces.flatten permissions)) :
    (deliver staged path pieces permissions).Throughout (Interim first path complete)
      (filling machine staged [] FileSystem.stagingPermissions) := by
  have below := FileSystem.ne_nil_of_absent starts.absent
  have full (bits : Nat) : Interim first path complete
      (filling machine staged pieces.flatten bits) :=
    starts.interim_filling pieces.flatten bits
  have grows : (appendAll staged pieces).Throughout (Interim first path complete) _ :=
    throughout_appendAll starts [] FileSystem.stagingPermissions pieces
  obtain ⟨outcome, after, appended, course⟩ :=
    ends_appendAll machine below [] FileSystem.stagingPermissions pieces
  rw [deliver]
  cases course with
  | stopped refuses => exact grows.bind_of_error appended.perform
  | whole =>
      refine grows.bind_of_ok appended.perform ?_
      rw [List.nil_append]
      rcases ends_sync (filling machine staged pieces.flatten FileSystem.stagingPermissions) staged
        (onPath staged.path) with synced | ⟨refuses, cause, refused⟩
      · refine (synced.throughout_expect rfl (full _) (full _)).bind_of_ok synced.perform ?_
        rcases ends_setPermissions machine below pieces.flatten FileSystem.stagingPermissions
          permissions (onPath staged.path) with marked | ⟨refuses, cause, refused⟩
        · refine (marked.throughout_expect rfl (full _) (full _)).bind_of_ok marked.perform ?_
          exact throughout_log_bind _ (full _) (throughout_moveOnto starts undisturbed whole)
        · exact (refused.throughout_expect rfl (full _) (full _)).bind_of_error
            refused.perform
      · exact (refused.throughout_expect rfl (full _) (full _)).bind_of_error refused.perform

theorem throughout_guarded {property : Machine → Prop} {attempt : Attempt SlotFailure Unit}
    {records : List Record} {outcome : Except SlotFailure Unit}
    (one : attempt.Throughout property machine)
    (ends : attempt.Ends machine records outcome after)
    (gone : ∀ failure, outcome = .error failure → property (after.unlink staged.place)) :
    (guarded staged attempt).Throughout property machine := by
  have last := one.last ends.perform
  apply Script.Throughout.bind one
  rw [show attempt.run.run machine = (outcome, after) from ends.perform]
  cases outcome with
  | ok done => exact last
  | error failure => exact ⟨last, gone failure rfl⟩

/-- All of a replacement, from a machine on which it has not begun. -/
theorem throughout_replace (logged : Logged first.LogsTo first.sink? first.files machine)
    (apart : ∀ staged made, first.files.stage path.directory = .ok (staged, made) →
      ¬ first.LogMeets staged.place)
    (undisturbed : Undisturbed first path) (pieces : List (List UInt8))
    (whole : complete (.file pieces.flatten permissions)) :
    (replace path pieces permissions).Throughout (Interim first path complete) machine := by
  have before : Interim first path complete machine := interim_untouched logged
  rw [replace]
  rcases ends_stage machine path.directory (onPath path.directory) with
    ⟨cause, refused, ends⟩ | ⟨staged, files, made, ends⟩
  · exact (ends.throughout_expect rfl before before).bind_of_error ends.perform
  · have starts := starts_of_stage logged apart made
    obtain ⟨absent, rfl⟩ := FileSystem.stage_eq_ok made
    have fresh : Interim first path complete
        (filling machine staged [] FileSystem.stagingPermissions) :=
      starts.interim_filling [] _
    refine (ends.throughout_expect rfl before fresh).bind_of_ok ends.perform ?_
    obtain ⟨records, outcome, after, delivered, course⟩ :=
      deliverCourse machine (FileSystem.ne_nil_of_absent absent) path pieces permissions
    refine throughout_guarded (throughout_deliver starts undisturbed pieces whole) delivered ?_
    rintro failure rfl
    exact interim_untouched ((ReplaceCourse.abandoned made course).logged_of_error logged)

/-- A file as an injection has to leave it: all that it makes of the input's bytes, with the
permission bits of the input. -/
def IsInjected (files : FileSystem) (input : Path) (injection : Injection) (node : Node) : Prop :=
  ∃ source artifact contents permissions offset,
    files.find input = .ok source ∧ files.node? source = some (.file artifact permissions) ∧
      Slot.injectInPlace artifact injection = (.ok offset, contents) ∧
      node = .file contents permissions

theorem throughout_withNumber {property : Machine → Prop} (artifact : List UInt8)
    (injection : Injection) (holds : property machine)
    (logs : ∀ machine record, property machine → property (machine.log record)) :
    (withNumber artifact injection).Throughout property machine := by
  rw [withNumber]
  cases Slot.inject artifact injection with
  | error failure => exact holds
  | ok found =>
      obtain ⟨offset, contents⟩ := found
      have first := logs machine (foundRecord injection.expected offset) holds
      have second := logs _ (injectedRecord injection.value offset) first
      exact throughout_log_bind _ holds (throughout_log_bind _ first second)

theorem throughout_injectPiecewise (cut : List UInt8 → List (List UInt8))
    (whole : ∀ contents, (cut contents).flatten = contents) (input output : Path)
    (injection : Injection)
    (apart : ∀ staged made, machine.files.stage output.directory = .ok (staged, made) →
      ¬ machine.LogMeets staged.place)
    (undisturbed : Undisturbed machine output) :
    (injectPiecewise cut input output injection).Throughout
      (Interim machine output (IsInjected machine.files input injection)) machine := by
  have untouched := Machine.logged_refl machine
  have before : Interim machine output (IsInjected machine.files input injection) machine :=
    interim_untouched untouched
  have reads := ends_bytes machine input
  have looks : (bytes input).Throughout
      (Interim machine output (IsInjected machine.files input injection)) machine :=
    reads.throughout_expect rfl before before
  rw [injectPiecewise]
  cases read : machine.files.readFile input with
  | error cause =>
      rw [read] at reads
      exact looks.bind_of_error reads.perform
  | ok artifact =>
      rw [read] at reads
      refine looks.bind_of_ok reads.perform ?_
      rcases ends_permissions machine input (onPath input) with
        ⟨cause, refused, queries⟩ | ⟨permissions, queried, queries⟩
      · exact (queries.throughout_expect rfl before before).bind_of_error queries.perform
      · refine (queries.throughout_expect rfl before before).bind_of_ok queries.perform ?_
        apply Throughout.bind (throughout_withNumber artifact injection before
          fun _ record interim => interim.log record)
        intro found after ended
        rw [perform_withNumber] at ended
        split at ended
        · cases ended
        · rename_i offset contents injected
          cases ended
          obtain ⟨free, source, bits, found, file, -⟩ := FileSystem.readFile_eq_ok read
          rw [FileSystem.permissions_of_file free found file] at queried
          cases queried
          have complete : IsInjected machine.files input injection
              (.file (cut contents).flatten permissions) := by
            rw [whole]
            refine ⟨source, artifact, contents, permissions, offset, found, file, ?_, rfl⟩
            rw [Slot.injectInPlace, injected]
          apply (throughout_replace (logged_replaced untouched injection offset) apart undisturbed
            (cut contents) complete).bind
          intro _ last ended
          have interim := Throughout.last (throughout_replace
            (logged_replaced untouched injection offset) apart undisturbed _ complete) ended
          exact throughout_log_bind _ interim (interim.log (writtenRecord output injection.value))

/-- Wherever an injection is stopped, the output's entry is what it was or the complete file with
the permission bits of the input, and every other entry, that of the input among them, is what it
was, the log's file apart. Not stopped, it comes to its end. The name of the fresh file is chosen
without a look at that of the output; that the two differ is asked for, which says something only of
an output that is not there yet and is named as fresh files are. Neither may be a file of the
log. -/
theorem inject_interrupted (machine : Machine) (cut : List UInt8 → List (List UInt8))
    (whole : ∀ contents, (cut contents).flatten = contents) (input output : Path)
    (injection : Injection) (named : machine.files.StagesApart output)
    (apart : ∀ staged made, machine.files.stage output.directory = .ok (staged, made) →
      ¬ machine.LogMeets staged.place)
    (undisturbed : Undisturbed machine output) (count : Nat) :
    let script := (injectPiecewise cut input output injection).run
    let stopped := script.runFor count machine
    (∀ place, machine.files.IsOwnPlace output place →
      stopped.files.node? place = machine.files.node? place ∨
        ∃ node, IsInjected machine.files input injection node ∧
          stopped.files.node? place = some node) ∧
    (∀ place, machine.files.node? place ≠ none → ¬ machine.files.IsOwnPlace output place →
      ¬ machine.LogsTo place → stopped.files.node? place = machine.files.node? place) ∧
    ((script.requests machine).length ≤ count → stopped = (script.run machine).2) := by
  intro script stopped
  obtain ⟨base, replacing, logged⟩ := Script.throughout_iff_runFor.mp
    (throughout_injectPiecewise cut whole input output injection apart undisturbed) count
  refine ⟨?_, ?_, script.runFor_of_length_le⟩
  · intro place own
    rw [logged.node?_eq fun reaches => undisturbed place own reaches.meets]
    exact replacing.own named own
  · intro place present other unlogged
    rw [logged.node?_eq unlogged]
    exact replacing.others present other

/-- An injection in place, byte by byte, that is stopped after the first byte. -/
theorem inject_interrupted_in_place :
    let script := (injectPiecewise (·.map fun byte => [byte]) ⟨"app"⟩ ⟨"app"⟩ ⟨"A", "B", 2⟩).run
    let stopped := script.runFor 6 linkedOutput
    stopped.files.node? [".tmp000000"] = some (.file [66] 0o600) ∧
      (stopped.files.node? ["app"] = linkedOutput.files.node? ["app"] ∨
        ∃ node, IsInjected linkedOutput.files ⟨"app"⟩ ⟨"A", "B", 2⟩ node ∧
          stopped.files.node? ["app"] = some node) ∧
      stopped.files.node? ["out"] = linkedOutput.files.node? ["out"] := by
  intro script stopped
  have whole : ∀ contents : List UInt8, (contents.map fun byte => [byte]).flatten = contents := by
    intro contents
    rw [← List.flatMap_def, List.flatMap_singleton']
  have stands : linkedOutput.files.entryOf ⟨"app"⟩ = .ok ([], "app") := by
    decide +kernel
  have own : linkedOutput.files.IsOwnPlace ⟨"app"⟩ ["app"] := ⟨[], "app", stands, rfl⟩
  have only : ∀ place, linkedOutput.files.IsOwnPlace ⟨"app"⟩ place → place = ["app"] :=
    fun place other => other.unique own
  have named : linkedOutput.files.StagesApart ⟨"app"⟩ := by
    apply FileSystem.stagesApart_of_present
    intro place other
    rw [only place other]
    decide
  have undisturbed : Undisturbed linkedOutput ⟨"app"⟩ := by
    intro place other
    rw [only place other]
    exact Machine.not_logMeets_of_unopened rfl (by decide) fun _ _ => ⟨_, rfl⟩
  have moment : stopped.files.node? [".tmp000000"] = some (.file [66] 0o600) := by
    decide +kernel
  have effect := inject_interrupted linkedOutput _ whole ⟨"app"⟩ ⟨"app"⟩ ⟨"A", "B", 2⟩ named
    linkedOutput_stages_clear undisturbed 6
  refine ⟨moment, effect.1 ["app"] own, ?_⟩
  refine effect.2.1 ["out"] (by decide) ?_ ?_
  · intro other
    exact absurd (only _ other) (by decide)
  · intro reaches
    exact absurd (linkedOutput_logsTo reaches) (by decide)

/-- An output that is not there yet and is named as the fresh file is the fresh file, empty at
first. Where the log's file is the output, it holds lines of the log before it is replaced, if they
open it that early, and else in the end. -/
theorem interrupted_output_incomplete :
    Slot.injectInPlace [65, 0] ⟨"A", "B", 2⟩ = (.ok 0, [66, 0]) ∧
      linkedOutput.files.node? [".tmp000000"] = none ∧
      ((inject ⟨"app"⟩ ⟨".tmp000000"⟩ ⟨"A", "B", 2⟩).run.runFor 5 linkedOutput).files.node?
        [".tmp000000"] = some (.file [] 0o600) ∧
      linkedOutput.files.node? ["log"] = none ∧
      ((inject ⟨"app"⟩ ⟨"log"⟩ ⟨"A", "B", 2⟩).run.runFor 5 linkedOutput).files.node? ["log"] ∉
        [none, some (.file [66, 0] 0o755)] ∧
      ((inject ⟨"app"⟩ ⟨"out"⟩ ⟨"A", "B", 2⟩).run.runFor 11
        (logging ⟨[⟨"", .upTo .info⟩], .empty⟩ ⟨"out"⟩)).files.node? ["out"] ∉
          [some (.link ⟨"app"⟩), some (.file [66, 0] 0o755)] := by
  decide +kernel

end Artifact

end BuildStamp
