import BuildStamp.Proofs.Artifact.Course
import BuildStamp.Proofs.Log.Stream

set_option autoImplicit false

/-!
What is left of an injection or a search that fails: its records, all of them minor, and nothing
else. The fresh file of an injection comes and goes around one of the records.
-/

namespace BuildStamp

namespace Attempt

variable {failure first α β : Type}

/-- All that an attempt does is to log minor records. -/
structure OnlyReports (attempt : Attempt failure α) (machine : Machine) : Prop where
  after : (attempt.perform machine).2 = machine.logAll (attempt.recorded machine)
  minor : ∀ record ∈ attempt.recorded machine, record.IsMinor

/-- Where an attempt fails, all it has done is to log minor records. -/
def FailsCleanly (attempt : Attempt failure α) (machine : Machine) : Prop :=
  ∀ cause after, attempt.perform machine = (.error cause, after) → attempt.OnlyReports machine

variable {machine : Machine} {attempt : Attempt failure α} {next : α → Attempt failure β}

theorem OnlyReports.of_silent (same : (attempt.perform machine).2 = machine)
    (silent : attempt.recorded machine = []) : attempt.OnlyReports machine where
  after := by rw [silent, same]; rfl
  minor := by rw [silent]; intro record member; cases member

theorem OnlyReports.isReady (reports : attempt.OnlyReports machine) (ready : machine.IsReady)
    {outcome : Except failure α} {after : Machine}
    (ended : attempt.perform machine = (outcome, after)) : after.IsReady := by
  have same : after = machine.logAll (attempt.recorded machine) := by
    rw [← reports.after, ended]
  rw [same]
  exact ready.logAll reports.minor

theorem OnlyReports.bind (one : attempt.OnlyReports machine)
    (two : ∀ result after, attempt.perform machine = (.ok result, after) →
      (next result).OnlyReports after) : (attempt >>= next).OnlyReports machine := by
  have after := one.after
  rcases ended : attempt.perform machine with ⟨outcome, between⟩
  rw [ended] at after
  cases outcome with
  | error cause =>
      constructor
      · rw [perform_bind_of_error ended, recorded_bind, ended, List.append_nil]
        exact after
      · rw [recorded_bind, ended, List.append_nil]
        exact one.minor
  | ok result =>
      have rest := two result between ended
      constructor
      · rw [perform_bind_of_ok ended, recorded_bind, ended, Machine.logAll_append, ← after]
        exact rest.after
      · rw [recorded_bind, ended]
        intro record member
        rcases List.mem_append.mp member with early | late
        · exact one.minor record early
        · exact rest.minor record late

theorem FailsCleanly.bind (one : attempt.OnlyReports machine)
    (two : ∀ result after, attempt.perform machine = (.ok result, after) →
      (next result).FailsCleanly after) : (attempt >>= next).FailsCleanly machine := by
  intro cause last fails
  apply one.bind
  intro result between ended
  rw [perform_bind_of_ok ended] at fails
  exact two result between ended cause last fails

/-- What follows an attempt does not matter if it cannot fail. -/
theorem FailsCleanly.bind_sure (one : attempt.FailsCleanly machine)
    (sure : ∀ result after, ∃ value last, (next result).perform after = (.ok value, last)) :
    (attempt >>= next).FailsCleanly machine := by
  intro cause last fails
  rcases ended : attempt.perform machine with ⟨outcome, between⟩
  cases outcome with
  | error earlier =>
      apply (one earlier between ended).bind
      intro result after other
      rw [ended] at other
      cases other
  | ok result =>
      obtain ⟨value, final, succeeds⟩ := sure result between
      rw [perform_bind_of_ok ended, succeeds] at fails
      cases fails

end Attempt

namespace Artifact

open Attempt

theorem origin_unaddressed (line : Nat) : (origin line).addressees? = none := by
  simp only [Origin.addressees?, origin]
  rfl

theorem foundRecord_isMinor (expected : String) (offset : Nat) :
    (foundRecord expected offset).IsMinor where
  level := .inr rfl
  plain := origin_unaddressed 97

theorem injectedRecord_isMinor (value : String) (offset : Nat) :
    (injectedRecord value offset).IsMinor where
  level := .inl rfl
  plain := origin_unaddressed 109

theorem movingRecord_isMinor (staged path : Path) : (movingRecord staged path).IsMinor where
  level := .inr rfl
  plain := origin_unaddressed 158

variable {machine : Machine}

theorem onlyReports_bytes (path : Path) : (bytes path).OnlyReports machine := by
  apply OnlyReports.of_silent
  · rw [perform_bytes]
  · rw [recorded, bytes, requests_expect]
    rfl

theorem onlyReports_readValue (path : Path) : (readValue path).OnlyReports machine := by
  apply (onlyReports_bytes path).bind
  intro contents after ended
  exact .of_silent rfl rfl

/-- All that is left of something are some records, all of them minor. -/
structure LeavesRecords (machine : Machine) (records : List Record) (after : Machine) : Prop where
  after : after = machine.logAll records
  minor : ∀ record ∈ records, record.IsMinor

variable {after : Machine} {path input output : Path} {contents : List UInt8} {permissions : Nat}
  {injection : Injection} {records : List Record} {failure : SlotFailure}

theorem leavesRecords_nil (machine : Machine) : LeavesRecords machine [] machine where
  after := rfl
  minor := nofun

theorem LeavesRecords.onlyReports {α : Type} {attempt : Attempt SlotFailure α}
    {outcome : Except SlotFailure α} (ends : attempt.Ends machine records outcome after)
    (leaves : LeavesRecords machine records after) : attempt.OnlyReports machine where
  after := by rw [ends.perform, ends.recorded, leaves.after]
  minor := by rw [ends.recorded]; exact leaves.minor

/-- A fresh file that comes to nothing has been there around one record at most. -/
theorem DeliverCourse.leavesRecords {staged : Staged} (ready : machine.IsReady)
    (absent : machine.files.node? staged.place = none)
    (course : DeliverCourse machine staged path contents permissions records (.error failure)
      after) : LeavesRecords machine records (after.unlink staged.place) := by
  cases course with
  | unfinished refuses => exact ⟨ready.unlink_put absent _, nofun⟩
  | unmoved refused =>
      have minor := movingRecord_isMinor staged.path path
      refine ⟨ready.log_around absent _ minor, ?_⟩
      intro record member
      cases List.mem_singleton.mp member
      exact minor

theorem ReplaceCourse.leavesRecords (ready : machine.IsReady)
    (course : ReplaceCourse machine path contents permissions records (.error failure) after) :
    LeavesRecords machine records after := by
  cases course with
  | unstaged refused => exact leavesRecords_nil machine
  | abandoned made fails =>
      exact fails.leavesRecords ready (FileSystem.stage_eq_ok made).1

/-- An injection that fails has logged what it found and did, and else left no trace. -/
theorem InjectCourse.leavesRecords (ready : machine.IsReady)
    (course : InjectCourse machine input output injection records (.error failure) after) :
    LeavesRecords machine records after := by
  cases course with
  | unread refused => exact leavesRecords_nil machine
  | unqueried refused => exact leavesRecords_nil machine
  | unfit read refused => exact leavesRecords_nil machine
  | @unplaced _ _ _ offset _ records _ read queried injected refused =>
      have found := foundRecord_isMinor injection.expected offset
      have replaces := injectedRecord_isMinor injection.value offset
      have leaves := refused.leavesRecords ((ready.log found).log replaces)
      refine ⟨leaves.after, ?_⟩
      intro record member
      rcases List.mem_cons.mp member with rfl | member
      · exact found
      · rcases List.mem_cons.mp member with rfl | member
        · exact replaces
        · exact leaves.minor record member

theorem failsCleanly_inject (ready : machine.IsReady) (input output : Path)
    (injection : Injection) : (inject input output injection).FailsCleanly machine := by
  obtain ⟨records, outcome, after, ends, course⟩ :=
    injectCourse_whole machine input output injection
  intro cause last fails
  rw [ends.perform] at fails
  cases fails
  exact (course.leavesRecords ready).onlyReports ends

theorem failsCleanly_locate (path : Path) (expected : String) (capacity : Nat) :
    (locate path expected capacity).FailsCleanly machine := by
  apply FailsCleanly.bind (onlyReports_bytes path)
  intro artifact after read
  apply FailsCleanly.bind (.of_silent rfl rfl)
  intro offset last found cause after fails
  cases fails

end Artifact

end BuildStamp
