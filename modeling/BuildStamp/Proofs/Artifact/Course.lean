import BuildStamp.Artifact.Injection
import BuildStamp.Proofs.FileSystem.Staging
import BuildStamp.Proofs.Script.Performance

set_option autoImplicit false

/-!
The ways an injection into a file can go. It may stop before anything is written, it may give up a
fresh file that could not be completed or not be moved, and else the fresh file takes its
destination's place. Into how many pieces the contents are cut does not matter. Everything that
holds of injections follows from these cases.
-/

namespace BuildStamp

theorem Machine.refusals_ne_nil {machine : Machine} {request : Request} {refusal : Refusal}
    (refused : machine.refusal? request = some refusal) : machine.host.refusals ≠ [] := by
  intro none
  rw [refusal?, none] at refused
  cases refused

/-- Where the system refuses nothing, a request comes to what it would. -/
theorem Machine.unlessRefused_cases {α : Type} (machine : Machine) (request : Request)
    (outcome : Except IoError α × Machine) :
    machine.unlessRefused request outcome = outcome ∨
      machine.host.refusals ≠ [] ∧
        ∃ errno, machine.unlessRefused request outcome = (.error (.system errno), machine) := by
  rw [unlessRefused]
  cases refused : machine.refusal? request with
  | none => exact .inl rfl
  | some refusal => exact .inr ⟨refusals_ne_nil refused, refusal.errno, rfl⟩

@[simp]
theorem Machine.host_log (machine : Machine) (entry : Record) :
    (machine.log entry).host = machine.host := by
  rw [log]
  cases machine.logger with
  | none => rfl
  | some logger => rfl

namespace Artifact

/-- The machine with a fresh file of some contents. -/
def filling (machine : Machine) (staged : Staged) (contents : List UInt8) (permissions : Nat) :
    Machine :=
  { machine with files := machine.files.put staged.place (.file contents permissions) }

/-- The machine with a complete fresh file, whose move has been announced. -/
def announced (machine : Machine) (staged : Staged) (path : Path) (contents : List UInt8)
    (permissions : Nat) : Machine :=
  (filling machine staged contents permissions).log (movingRecord staged.path path)

/-- The ways of filling a fresh file: all the pieces are added to it, or the system refuses one. -/
inductive AppendCourse (machine : Machine) (staged : Staged) (contents : List UInt8)
    (permissions : Nat) : Except SlotFailure Unit → Machine → Prop
  | stopped {written : List UInt8} {cause : IoError} (refuses : machine.host.refusals ≠ []) :
      AppendCourse machine staged contents permissions (.error (onPath staged.path cause))
        (filling machine staged written permissions)
  | whole :
      AppendCourse machine staged contents permissions (.ok ())
        (filling machine staged contents permissions)

/-- The ways a fresh file can go, with the records that are logged on them. -/
inductive DeliverCourse (machine : Machine) (staged : Staged) (path : Path)
    (contents : List UInt8) (permissions : Nat) :
    List Record → Except SlotFailure Unit → Machine → Prop
  | unfinished {written : List UInt8} {bits : Nat} {cause : IoError}
      (refuses : machine.host.refusals ≠ []) :
      DeliverCourse machine staged path contents permissions []
        (.error (onPath staged.path cause)) (filling machine staged written bits)
  | unmoved {cause : IoError}
      (refused : machine.host.refusals ≠ [] ∨
        (announced machine staged path contents permissions).files.moveOnto staged path =
          .error cause) :
      DeliverCourse machine staged path contents permissions [movingRecord staged.path path]
        (.error (onPath path cause)) (announced machine staged path contents permissions)
  | moved {files : FileSystem} {place : Place}
      (accepted : (announced machine staged path contents permissions).files.moveOnto staged path =
        .ok (place, files)) :
      DeliverCourse machine staged path contents permissions [movingRecord staged.path path]
        (.ok ())
        { announced machine staged path contents permissions with
          files
          logger := (announced machine staged path contents permissions).logger.map
            (·.afterMoving staged.place place) }

/-- The ways a replacement can go. -/
inductive ReplaceCourse (machine : Machine) (path : Path) (contents : List UInt8)
    (permissions : Nat) : List Record → Except SlotFailure Unit → Machine → Prop
  | unstaged {cause : IoError}
      (refused : machine.host.refusals ≠ [] ∨
        machine.files.stage path.directory = .error cause) :
      ReplaceCourse machine path contents permissions []
        (.error (onPath path.directory cause)) machine
  | abandoned {staged : Staged} {files : FileSystem} {records : List Record}
      {failure : SlotFailure} {after : Machine}
      (made : machine.files.stage path.directory = .ok (staged, files))
      (fails : DeliverCourse machine staged path contents permissions records (.error failure)
        after) :
      ReplaceCourse machine path contents permissions records (.error failure)
        (after.unlink staged.place)
  | placed {staged : Staged} {files : FileSystem} {records : List Record} {after : Machine}
      (made : machine.files.stage path.directory = .ok (staged, files))
      (succeeds : DeliverCourse machine staged path contents permissions records (.ok ()) after) :
      ReplaceCourse machine path contents permissions records (.ok ()) after

/-- The machine after the records of a slot that was found and replaced. -/
def replaced (machine : Machine) (injection : Injection) (offset : Nat) : Machine :=
  (machine.log (foundRecord injection.expected offset)).log
    (injectedRecord injection.value offset)

/-- The ways an injection can go. -/
inductive InjectCourse (machine : Machine) (input output : Path) (injection : Injection) :
    List Record → Except SlotFailure Nat → Machine → Prop
  | unread {cause : IoError} (refused : machine.files.readFile input = .error cause) :
      InjectCourse machine input output injection [] (.error (onPath input cause)) machine
  | unqueried {cause : IoError}
      (refused : machine.host.refusals ≠ [] ∨ machine.files.permissions input = .error cause) :
      InjectCourse machine input output injection [] (.error (onPath input cause)) machine
  | unfit {artifact : List UInt8} {failure : SlotFailure}
      (read : machine.files.readFile input = .ok artifact)
      (refused : Slot.inject artifact injection = .error failure) :
      InjectCourse machine input output injection [] (.error failure) machine
  | unplaced {artifact contents : List UInt8} {permissions offset : Nat} {failure : SlotFailure}
      {records : List Record} {after : Machine}
      (read : machine.files.readFile input = .ok artifact)
      (queried : machine.files.permissions input = .ok permissions)
      (injected : Slot.inject artifact injection = .ok (offset, contents))
      (refused : ReplaceCourse (replaced machine injection offset) output contents permissions
        records (.error failure) after) :
      InjectCourse machine input output injection
        (foundRecord injection.expected offset :: injectedRecord injection.value offset :: records)
        (.error failure) after
  | written {artifact contents : List UInt8} {permissions offset : Nat} {records : List Record}
      {after : Machine} (read : machine.files.readFile input = .ok artifact)
      (queried : machine.files.permissions input = .ok permissions)
      (injected : Slot.inject artifact injection = .ok (offset, contents))
      (placed : ReplaceCourse (replaced machine injection offset) output contents permissions
        records (.ok ()) after) :
      InjectCourse machine input output injection
        (foundRecord injection.expected offset :: injectedRecord injection.value offset ::
          (records ++ [writtenRecord output injection.value]))
        (.ok offset) (after.log (writtenRecord output injection.value))

open Attempt

variable {machine : Machine} {staged : Staged} {path : Path} {permissions : Nat}

/-- A piece is added to a fresh file, or the system refuses it behind a part. -/
theorem ends_append (machine : Machine) (below : staged.place ≠ []) (written piece : List UInt8)
    (permissions : Nat) (reword : IoError → SlotFailure) :
    (∃ cause grown, machine.host.refusals ≠ [] ∧
      (expect reword (.request (.append staged piece))).Ends
        (filling machine staged written permissions) [] (.error (reword cause))
        (filling machine staged grown permissions)) ∨
      (expect reword (.request (.append staged piece))).Ends
        (filling machine staged written permissions) [] (.ok ())
        (filling machine staged (written ++ piece) permissions) := by
  have grows (bytes : List UInt8) :
      { filling machine staged written permissions with
        files := (filling machine staged written permissions).files.append staged.place bytes } =
        filling machine staged (written ++ bytes) permissions := by
    simp only [filling, FileSystem.append_put below]
  have ends (outcome : Except IoError Unit) (after : Machine)
      (ran : (filling machine staged written permissions).append staged piece = (outcome, after)) :
      (expect reword (.request (.append staged piece))).Ends
        (filling machine staged written permissions) [] (outcome.mapError reword) after :=
    ends_expect reword rfl ran
  cases refused : (filling machine staged written permissions).refusal?
      (.append staged piece) with
  | none =>
      refine .inr (ends (.ok ()) _ ?_)
      rw [Machine.append, refused]
      exact Prod.ext rfl (grows piece)
  | some refusal =>
      have refuses : machine.host.refusals ≠ [] := Machine.refusals_ne_nil refused
      refine .inl ⟨_, written ++ piece.take refusal.added, refuses,
        ends (.error (.staging staged.path (.system refusal.errno))) _ ?_⟩
      rw [Machine.append, refused]
      exact Prod.ext rfl (grows (piece.take refusal.added))

/-- Pieces are added one by one until the system refuses one, and else come to their
concatenation. -/
theorem ends_appendAll (machine : Machine) (below : staged.place ≠ []) (written : List UInt8)
    (permissions : Nat) (pieces : List (List UInt8)) :
    ∃ outcome after,
      (appendAll staged pieces).Ends (filling machine staged written permissions) [] outcome
        after ∧
        AppendCourse machine staged (written ++ pieces.flatten) permissions outcome after := by
  induction pieces generalizing written with
  | nil =>
      refine ⟨_, _, ends_pure (), ?_⟩
      rw [List.flatten_nil, List.append_nil]
      exact .whole
  | cons piece rest ih =>
      rcases ends_append machine below written piece permissions (onPath staged.path) with
        ⟨cause, grown, refuses, refused⟩ | grows
      · exact ⟨_, _, refused.bind_of_error _, .stopped refuses⟩
      · obtain ⟨outcome, after, ends, course⟩ := ih (written ++ piece)
        refine ⟨outcome, after, grows.bind_of_ok ends, ?_⟩
        rwa [List.append_assoc] at course

/-- A request with no other way to fail than to be refused. -/
theorem ends_unlessRefused {script : Script (Except IoError Unit)} {asked : Request}
    {before after : Machine} (reword : IoError → SlotFailure)
    (silent : script.recorded before = [])
    (ran : script.run before = before.unlessRefused asked (.ok (), after)) :
    (expect reword script).Ends before [] (.ok ()) after ∨
      before.host.refusals ≠ [] ∧
        ∃ cause, (expect reword script).Ends before [] (.error (reword cause)) before := by
  rcases before.unlessRefused_cases asked (.ok (), after) with same | ⟨refuses, errno, refused⟩
  · exact .inl (ends_expect reword silent (ran.trans same))
  · exact .inr ⟨refuses, _, ends_expect reword silent (ran.trans refused)⟩

theorem ends_sync (machine : Machine) (staged : Staged) (reword : IoError → SlotFailure) :
    (expect reword (.request (.sync staged))).Ends machine [] (.ok ()) machine ∨
      machine.host.refusals ≠ [] ∧ ∃ cause,
        (expect reword (.request (.sync staged))).Ends machine [] (.error (reword cause)) machine :=
  ends_unlessRefused reword rfl rfl

theorem ends_setPermissions (machine : Machine) (below : staged.place ≠ [])
    (contents : List UInt8) (bits permissions : Nat) (reword : IoError → SlotFailure) :
    (expect reword (.request (.setPermissions staged permissions))).Ends
        (filling machine staged contents bits) [] (.ok ())
        (filling machine staged contents permissions) ∨
      machine.host.refusals ≠ [] ∧ ∃ cause,
        (expect reword (.request (.setPermissions staged permissions))).Ends
          (filling machine staged contents bits) [] (.error (reword cause))
          (filling machine staged contents bits) := by
  have marked : { filling machine staged contents bits with
      files := (filling machine staged contents bits).files.setPermissions staged.place
        permissions } = filling machine staged contents permissions := by
    simp only [filling, FileSystem.setPermissions_put below]
  have silent : (Script.request (.setPermissions staged permissions)).recorded
      (filling machine staged contents bits) = [] := rfl
  have ends := ends_unlessRefused reword silent rfl
  rwa [marked] at ends

/-- A move may be refused, be impossible, or be made. -/
theorem ends_moveOnto (machine : Machine) (staged : Staged) (path : Path)
    (reword : IoError → SlotFailure) :
    (∃ cause, (machine.host.refusals ≠ [] ∨ machine.files.moveOnto staged path = .error cause) ∧
      (expect reword (.request (.moveOnto staged path))).Ends machine [] (.error (reword cause))
        machine) ∨
    ∃ place files, machine.files.moveOnto staged path = .ok (place, files) ∧
      (expect reword (.request (.moveOnto staged path))).Ends machine [] (.ok ())
        { machine with
          files, logger := machine.logger.map (·.afterMoving staged.place place) } := by
  have silent : (Script.request (.moveOnto staged path)).recorded machine = [] := rfl
  have ran : (Script.request (.moveOnto staged path)).run machine =
      machine.unlessRefused (.moveOnto staged path) (machine.moveOnto staged path) := rfl
  rcases machine.unlessRefused_cases (.moveOnto staged path) (machine.moveOnto staged path) with
    same | ⟨refuses, errno, refused⟩
  · rw [same, Machine.moveOnto] at ran
    cases moved : machine.files.moveOnto staged path with
    | error cause =>
        rw [moved] at ran
        exact .inl ⟨cause, .inr rfl, ends_expect reword silent ran⟩
    | ok result =>
        obtain ⟨place, files⟩ := result
        rw [moved] at ran
        exact .inr ⟨place, files, rfl, ends_expect reword silent ran⟩
  · exact .inl ⟨_, .inl refuses, ends_expect reword silent (ran.trans refused)⟩

/-- Pieces, permission bits, an announcement and the move, each behind the one before. -/
theorem deliverCourse (machine : Machine) (below : staged.place ≠ []) (path : Path)
    (pieces : List (List UInt8)) (permissions : Nat) :
    ∃ records outcome after,
      (deliver staged path pieces permissions).Ends
        (filling machine staged [] FileSystem.stagingPermissions) records outcome after ∧
        DeliverCourse machine staged path pieces.flatten permissions records outcome after := by
  obtain ⟨outcome, after, appended, course⟩ :=
    ends_appendAll machine below [] FileSystem.stagingPermissions pieces
  rw [List.nil_append] at course
  rw [deliver]
  cases course with
  | stopped refuses => exact ⟨_, _, _, appended.bind_of_error _, .unfinished refuses⟩
  | whole =>
      rcases ends_sync (filling machine staged pieces.flatten FileSystem.stagingPermissions) staged
        (onPath staged.path) with synced | ⟨refuses, cause, refused⟩
      · rcases ends_setPermissions machine below pieces.flatten FileSystem.stagingPermissions
          permissions (onPath staged.path) with marked | ⟨refuses, cause, refused⟩
        · have announces : (Attempt.log (movingRecord staged.path path) :
              Attempt SlotFailure Unit).Ends (filling machine staged pieces.flatten permissions) _ _
                (announced machine staged path pieces.flatten permissions) :=
            ends_log (movingRecord staged.path path)
          have host : (announced machine staged path pieces.flatten permissions).host =
              machine.host :=
            Machine.host_log _ _
          rcases ends_moveOnto (announced machine staged path pieces.flatten permissions) staged
            path (onPath path) with ⟨cause, refused, ends⟩ | ⟨place, files, accepted, ends⟩
          · rw [host] at refused
            exact ⟨_, _, _, appended.bind_of_ok (synced.bind_of_ok (marked.bind_of_ok
              (announces.bind_of_ok ends))), .unmoved refused⟩
          · exact ⟨_, _, _, appended.bind_of_ok (synced.bind_of_ok (marked.bind_of_ok
              (announces.bind_of_ok ends))), .moved accepted⟩
        · exact ⟨_, _, _, appended.bind_of_ok (synced.bind_of_ok (refused.bind_of_error _)),
            .unfinished refuses⟩
      · exact ⟨_, _, _, appended.bind_of_ok (refused.bind_of_error _), .unfinished refuses⟩

/-- A fresh file that comes to nothing is taken away. -/
theorem ends_guarded {attempt : Attempt SlotFailure Unit} {records : List Record}
    {outcome : Except SlotFailure Unit} {after : Machine}
    (ends : attempt.Ends machine records outcome after) (staged : Staged) :
    (guarded staged attempt).Ends machine records outcome
      (match outcome with
        | .ok () => after
        | .error _ => after.unlink staged.place) := by
  obtain ⟨recorded, performed⟩ := ends
  rw [Attempt.perform] at performed
  constructor
  · change (attempt.run.bind _).recorded machine = records
    rw [Script.recorded_bind, performed]
    cases outcome with
    | ok done => exact (List.append_nil _).trans recorded
    | error failure => exact (List.append_nil _).trans recorded
  · change (attempt.run.bind _).run machine = _
    rw [Script.run_bind, performed]
    cases outcome with
    | ok done => rfl
    | error failure => rfl

theorem ends_stage (machine : Machine) (directory : Path) (reword : IoError → SlotFailure) :
    (∃ cause, (machine.host.refusals ≠ [] ∨ machine.files.stage directory = .error cause) ∧
      (expect reword (.request (.stage directory))).Ends machine [] (.error (reword cause))
        machine) ∨
    ∃ staged files, machine.files.stage directory = .ok (staged, files) ∧
      (expect reword (.request (.stage directory))).Ends machine [] (.ok staged)
        { machine with files } := by
  have silent : (Script.request (.stage directory)).recorded machine = [] := rfl
  have ran : (Script.request (.stage directory)).run machine = machine.stage directory := rfl
  rw [Machine.stage] at ran
  cases refused : machine.refusal? (.stage directory) with
  | some refusal =>
      have refuses := Machine.refusals_ne_nil refused
      rw [refused] at ran
      exact .inl ⟨_, .inl refuses, ends_expect reword silent ran⟩
  | none =>
      cases made : machine.files.stage directory with
      | error cause =>
          rw [refused, made] at ran
          exact .inl ⟨cause, .inr rfl, ends_expect reword silent ran⟩
      | ok fresh =>
          obtain ⟨staged, files⟩ := fresh
          rw [refused, made] at ran
          exact .inr ⟨staged, files, rfl, ends_expect reword silent ran⟩

theorem replaceCourse (machine : Machine) (path : Path) (pieces : List (List UInt8))
    (permissions : Nat) :
    ∃ records outcome after,
      (replace path pieces permissions).Ends machine records outcome after ∧
        ReplaceCourse machine path pieces.flatten permissions records outcome after := by
  rw [replace]
  rcases ends_stage machine path.directory (onPath path.directory) with
    ⟨cause, refused, ends⟩ | ⟨staged, files, made, ends⟩
  · exact ⟨_, _, _, ends.bind_of_error _, .unstaged refused⟩
  · obtain ⟨absent, rfl⟩ := FileSystem.stage_eq_ok made
    obtain ⟨records, outcome, after, delivered, course⟩ :=
      deliverCourse machine (FileSystem.ne_nil_of_absent absent) path pieces permissions
    refine ⟨_, _, _, ends.bind_of_ok (ends_guarded delivered staged), ?_⟩
    cases outcome with
    | ok done => exact .placed made course
    | error failure => exact .abandoned made course

theorem perform_bytes (machine : Machine) (path : Path) :
    (bytes path).perform machine =
      ((machine.files.readFile path).mapError (onPath path), machine) := by
  rw [bytes, Attempt.perform_expect, Script.run_request]
  rfl

theorem perform_find (machine : Machine) (artifact : List UInt8) (expected : String)
    (capacity : Nat) :
    (find artifact expected capacity).perform machine =
      match Slot.find artifact expected capacity with
      | .error failure => (.error failure, machine)
      | .ok offset => (.ok offset, machine.log (foundRecord expected offset)) := by
  rw [find, Attempt.perform_bind, Attempt.perform_ofExcept]
  cases Slot.find artifact expected capacity with
  | error failure => rfl
  | ok offset => rfl

theorem perform_locate (machine : Machine) (path : Path) (expected : String) (capacity : Nat) :
    (locate path expected capacity).perform machine =
      match machine.files.readFile path with
      | .error cause => (.error (onPath path cause), machine)
      | .ok artifact => (find artifact expected capacity).perform machine := by
  rw [locate, Attempt.perform_bind, perform_bytes]
  cases machine.files.readFile path with
  | error cause => rfl
  | ok artifact => rfl

theorem perform_readValue (machine : Machine) (path : Path) :
    (readValue path).perform machine =
      match machine.files.readFile path with
      | .error cause => (.error (onPath path cause), machine)
      | .ok contents => (valueIn path contents, machine) := by
  rw [readValue, Attempt.perform_bind, perform_bytes]
  cases machine.files.readFile path with
  | error cause => rfl
  | ok contents => rfl

theorem requests_readValue (machine : Machine) (path : Path) :
    (readValue path).requests machine = [.read path] := by
  have reads : (bytes path).requests machine = [.read path] :=
    Attempt.requests_expect machine (onPath path) (.request (.read path))
  rw [readValue, Attempt.requests_bind, perform_bytes, reads]
  cases machine.files.readFile path with
  | error cause => rfl
  | ok contents => rfl

theorem perform_withNumber (machine : Machine) (artifact : List UInt8) (injection : Injection) :
    (withNumber artifact injection).perform machine =
      match Slot.inject artifact injection with
      | .error failure => (.error failure, machine)
      | .ok (offset, contents) => (.ok (offset, contents), replaced machine injection offset) := by
  rw [withNumber, Attempt.perform_bind, Attempt.perform_ofExcept]
  cases Slot.inject artifact injection with
  | error failure => rfl
  | ok found => rfl

theorem ends_withNumber {artifact contents : List UInt8} {injection : Injection} {offset : Nat}
    (machine : Machine) (injected : Slot.inject artifact injection = .ok (offset, contents)) :
    (withNumber artifact injection).Ends machine
      [foundRecord injection.expected offset, injectedRecord injection.value offset]
      (.ok (offset, contents)) (replaced machine injection offset) := by
  constructor
  · rw [withNumber, injected]
    rfl
  · rw [perform_withNumber, injected]

theorem ends_bytes (machine : Machine) (path : Path) :
    (bytes path).Ends machine [] ((machine.files.readFile path).mapError (onPath path)) machine :=
  ends_expect (onPath path) rfl rfl

theorem ends_permissions (machine : Machine) (path : Path) (reword : IoError → SlotFailure) :
    (∃ cause, (machine.host.refusals ≠ [] ∨ machine.files.permissions path = .error cause) ∧
      (expect reword (.request (.permissions path))).Ends machine [] (.error (reword cause))
        machine) ∨
    ∃ permissions, machine.files.permissions path = .ok permissions ∧
      (expect reword (.request (.permissions path))).Ends machine [] (.ok permissions) machine := by
  have silent : (Script.request (.permissions path)).recorded machine = [] := rfl
  have ran : (Script.request (.permissions path)).run machine =
      machine.unlessRefused (.permissions path) (machine.files.permissions path, machine) := rfl
  rcases machine.unlessRefused_cases (.permissions path) (machine.files.permissions path, machine)
    with same | ⟨refuses, errno, refused⟩
  · rw [same] at ran
    cases queried : machine.files.permissions path with
    | error cause =>
        rw [queried] at ran
        exact .inl ⟨cause, .inr rfl, ends_expect reword silent ran⟩
    | ok permissions =>
        rw [queried] at ran
        exact .inr ⟨permissions, rfl, ends_expect reword silent ran⟩
  · exact .inl ⟨_, .inl refuses, ends_expect reword silent (ran.trans refused)⟩

theorem injectCourse (machine : Machine) (cut : List UInt8 → List (List UInt8))
    (whole : ∀ contents, (cut contents).flatten = contents) (input output : Path)
    (injection : Injection) :
    ∃ records outcome after,
      (injectPiecewise cut input output injection).Ends machine records outcome after ∧
        InjectCourse machine input output injection records outcome after := by
  have reads := ends_bytes machine input
  rw [injectPiecewise]
  cases read : machine.files.readFile input with
  | error cause =>
      rw [read] at reads
      exact ⟨_, _, _, reads.bind_of_error _, .unread read⟩
  | ok artifact =>
      rw [read] at reads
      rcases ends_permissions machine input (onPath input) with
        ⟨cause, refused, queries⟩ | ⟨permissions, queried, queries⟩
      · exact ⟨_, _, _, reads.bind_of_ok (queries.bind_of_error _), .unqueried refused⟩
      · cases injected : Slot.inject artifact injection with
        | error failure =>
            have fails : (withNumber artifact injection).Ends machine [] (.error failure)
                machine := by
              constructor
              · rw [withNumber, injected]
                rfl
              · rw [perform_withNumber, injected]
            exact ⟨_, _, _, reads.bind_of_ok (queries.bind_of_ok (fails.bind_of_error _)),
              .unfit read injected⟩
        | ok found =>
            obtain ⟨offset, contents⟩ := found
            have finds := ends_withNumber machine injected
            obtain ⟨records, outcome, after, places, course⟩ := replaceCourse
              (replaced machine injection offset) output (cut contents) permissions
            rw [whole] at course
            cases outcome with
            | error failure =>
                exact ⟨_, _, _, reads.bind_of_ok (queries.bind_of_ok (finds.bind_of_ok
                  (places.bind_of_error _))), .unplaced read queried injected course⟩
            | ok done =>
                have tells : (Attempt.log (writtenRecord output injection.value) :
                    Attempt SlotFailure Unit).Ends after _ _ _ :=
                  ends_log (writtenRecord output injection.value)
                exact ⟨_, _, _, reads.bind_of_ok (queries.bind_of_ok (finds.bind_of_ok
                  (places.bind_of_ok (tells.bind_of_ok (ends_pure offset))))),
                  .written read queried injected course⟩

/-- The course of an injection whose contents are written in one piece. -/
theorem injectCourse_whole (machine : Machine) (input output : Path) (injection : Injection) :
    ∃ records outcome after,
      (inject input output injection).Ends machine records outcome after ∧
        InjectCourse machine input output injection records outcome after :=
  injectCourse machine (fun contents => [contents]) (fun _ => List.append_nil _) input output
    injection

end Artifact

end BuildStamp
