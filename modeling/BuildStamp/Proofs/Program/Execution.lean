import BuildStamp.Proofs.Artifact.Failure
import BuildStamp.Proofs.Program.InjectCommand

set_option autoImplicit false

/-!
Commands carried out. None prints anything by itself. One that fails has at most logged minor
records, and has changed no file but that of the log.
-/

namespace BuildStamp

theorem Machine.output_log (machine : Machine) (record : Record) :
    (machine.log record).output = machine.output := by
  rw [log]
  cases machine.logger with
  | none => rfl
  | some logger => rfl

theorem Machine.output_logAll (machine : Machine) (records : List Record) :
    (machine.logAll records).output = machine.output := by
  induction records generalizing machine with
  | nil => rfl
  | cons record rest ih => exact (ih _).trans (output_log machine record)

namespace Artifact

variable {machine after : Machine}

theorem DeliverCourse.output_eq {staged : Staged} {path : Path} {contents : List UInt8}
    {permissions : Nat} {records : List Record} {outcome : Except SlotFailure Unit}
    (course : DeliverCourse machine staged path contents permissions records outcome after) :
    after.output = machine.output := by
  cases course with
  | unfinished refuses => rfl
  | unmoved refused => exact Machine.output_log _ _
  | moved accepted => exact Machine.output_log _ _

theorem ReplaceCourse.output_eq {path : Path} {contents : List UInt8} {permissions : Nat}
    {records : List Record} {outcome : Except SlotFailure Unit}
    (course : ReplaceCourse machine path contents permissions records outcome after) :
    after.output = machine.output := by
  cases course with
  | unstaged refused => rfl
  | abandoned made fails => exact fails.output_eq
  | placed made succeeds => exact succeeds.output_eq

theorem InjectCourse.output_eq {input output : Path} {injection : Injection}
    {records : List Record} {outcome : Except SlotFailure Nat}
    (course : InjectCourse machine input output injection records outcome after) :
    after.output = machine.output := by
  have found (offset : Nat) : (replaced machine injection offset).output = machine.output := by
    rw [replaced, Machine.output_log, Machine.output_log]
  cases course with
  | unread refused => rfl
  | unqueried refused => rfl
  | unfit read refused => rfl
  | unplaced read queried injected refused => exact refused.output_eq.trans (found _)
  | written read queried injected placed =>
      rw [Machine.output_log]
      exact placed.output_eq.trans (found _)

end Artifact

namespace Command

variable {machine after : Machine} (slot : Slot) (settings : Settings)

/-- What shows the build number logs at most one warning. -/
theorem perform_displayed (machine : Machine) :
    ∃ records, (displayed slot).perform machine = (.ok slot.value, machine.logAll records) := by
  rw [displayed]
  split
  · exact ⟨[_], rfl⟩
  · split
    · exact ⟨[_], rfl⟩
    · exact ⟨[], rfl⟩

/-- No command prints anything while it is carried out. -/
theorem output_execute (command : Command) (machine : Machine) :
    ((command.execute slot settings).perform machine).2.output = machine.output := by
  cases command with
  | display =>
      obtain ⟨records, same⟩ := perform_displayed slot machine
      rw [execute, same]
      exact Machine.output_logAll machine records
  | inject options =>
      rw [perform_execute_inject]
      cases chosenValue machine.files options settings with
      | error failure => rfl
      | ok value =>
          obtain ⟨records, outcome, after, ends, course⟩ := Artifact.injectCourse_whole machine
            options.input options.output (chosenInjection options settings value)
          simp only [ends.perform]
          exact course.output_eq
  | locate path value =>
      rw [perform_execute_locate]
      cases machine.files.readFile path with
      | error cause => rfl
      | ok artifact =>
          simp only
          cases Slot.find artifact (value.getD Slot.sentinel) 128 with
          | error failure => rfl
          | ok offset => exact Machine.output_log _ _

theorem onlyReports_injectedValue (options : InjectOptions) (machine : Machine) :
    (injectedValue options settings).OnlyReports machine := by
  rw [injectedValue]
  split
  · exact .of_silent rfl rfl
  · split
    · exact Artifact.onlyReports_readValue _
    · exact .of_silent rfl rfl

/-- A command that fails has logged minor records and done nothing else. -/
theorem failsCleanly_execute (ready : machine.IsReady) (command : Command) :
    (command.execute slot settings).FailsCleanly machine := by
  cases command with
  | display =>
      intro cause after fails
      obtain ⟨records, same⟩ := perform_displayed slot machine
      rw [execute, same] at fails
      cases fails
  | inject options =>
      have chooses := onlyReports_injectedValue settings options machine
      apply Attempt.FailsCleanly.bind chooses
      intro value after chosen
      have readyAfter := chooses.isReady ready chosen
      apply Attempt.FailsCleanly.bind_sure (Artifact.failsCleanly_inject readyAfter _ _ _)
      intro offset last
      exact ⟨_, _, rfl⟩
  | locate path value =>
      apply Attempt.FailsCleanly.bind_sure (Artifact.failsCleanly_locate _ _ _)
      intro offset last
      exact ⟨_, _, rfl⟩

/-- A command that fails changes no file but that of the log. -/
theorem logged_of_error {within : Place → Prop} {sink : Option LogSink} {base : FileSystem}
    (logged : Machine.Logged within sink base machine) {command : Command} {failure : SlotFailure}
    (fails : (command.execute slot settings).perform machine = (.error failure, after)) :
    Machine.Logged within sink base after := by
  cases command with
  | display =>
      obtain ⟨records, same⟩ := perform_displayed slot machine
      rw [execute, same] at fails
      cases fails
  | inject options =>
      rw [perform_execute_inject] at fails
      cases chosen : chosenValue machine.files options settings with
      | error cause =>
          rw [chosen] at fails
          cases fails
          exact logged
      | ok value =>
          obtain ⟨records, outcome, last, ends, course⟩ := Artifact.injectCourse_whole machine
            options.input options.output (chosenInjection options settings value)
          simp only [chosen, ends.perform] at fails
          cases outcome with
          | error cause =>
              cases fails
              exact course.logged_of_error logged
          | ok offset => cases fails
  | locate path value =>
      rw [perform_execute_locate] at fails
      cases read : machine.files.readFile path with
      | error cause =>
          rw [read] at fails
          cases fails
          exact logged
      | ok artifact =>
          simp only [read] at fails
          cases found : Slot.find artifact (value.getD Slot.sentinel) 128 with
          | error cause =>
              rw [found] at fails
              cases fails
              exact logged
          | ok offset =>
              rw [found] at fails
              cases fails

end Command

end BuildStamp
