import BuildStamp.Script.Attempt
import BuildStamp.Script.Machine

set_option autoImplicit false

/-!
Attempts carried out on a machine. The laws follow the ways attempts are put together, so what an
attempt does is read off its parts: the outcome, the machine after it, and the requests that were
made on the way.
-/

namespace BuildStamp

/-- A machine on which nothing has happened yet. -/
def Machine.fresh (files : FileSystem) (environment : Environment) (now : Timestamp)
    (host : Host := {}) : Machine :=
  ⟨files, environment, now, "", "", none, host⟩

/-- The record that a request is for. -/
def Request.record? : Request → Option Record
  | .log record => some record
  | _ => none

namespace Script

variable {α β : Type}

/-- The records that a script has logged on a machine, in order. -/
def recorded (script : Script α) (machine : Machine) : List Record :=
  (script.requests machine).filterMap Request.record?

theorem run_request (request : Request) (machine : Machine) :
    (Script.request request).run machine = machine.answer request := rfl

theorem requests_bind (script : Script α) (next : α → Script β) (machine : Machine) :
    (script.bind next).requests machine =
      script.requests machine ++
        (next (script.run machine).1).requests (script.run machine).2 := by
  induction script generalizing machine with
  | done result => rfl
  | ask request rest ih => exact congrArg (List.cons request) (ih _ _)

theorem recorded_bind (script : Script α) (next : α → Script β) (machine : Machine) :
    (script.bind next).recorded machine =
      script.recorded machine ++
        (next (script.run machine).1).recorded (script.run machine).2 := by
  rw [recorded, requests_bind, List.filterMap_append]
  rfl

end Script

namespace Attempt

variable {failure first α β : Type}

/-- The outcome of an attempt on a machine, and the machine after it. -/
def perform (attempt : Attempt failure α) (machine : Machine) : Except failure α × Machine :=
  attempt.run.run machine

/-- The requests that an attempt makes on a machine, in order. -/
def requests (attempt : Attempt failure α) (machine : Machine) : List Request :=
  attempt.run.requests machine

/-- The records that an attempt has logged on a machine, in order. -/
def recorded (attempt : Attempt failure α) (machine : Machine) : List Record :=
  (attempt.requests machine).filterMap Request.record?

variable (machine : Machine)

@[simp]
theorem perform_ofExcept (outcome : Except failure α) :
    (ofExcept outcome).perform machine = (outcome, machine) := rfl

-- The type of a reply depends on the request, so every request has a law of its own.

@[simp]
theorem perform_isPresent (path : Path) :
    (request (.isPresent path) : Attempt failure Bool).perform machine =
      (.ok (machine.files.isPresent path), machine) := rfl

@[simp]
theorem perform_environment :
    (request .environment : Attempt failure Environment).perform machine =
      (.ok machine.environment, machine) := rfl

@[simp]
theorem perform_accountHome :
    (request .accountHome : Attempt failure (Option String)).perform machine =
      (.ok machine.host.home, machine) := rfl

/-- The second attempt begins where the first one succeeded, and is left out where it failed. -/
theorem perform_bind (attempt : Attempt failure α) (next : α → Attempt failure β) :
    (attempt >>= next).perform machine =
      match attempt.perform machine with
      | (.ok result, after) => (next result).perform after
      | (.error cause, after) => (.error cause, after) := by
  have both : (attempt >>= next).perform machine =
      (attempt.run.bind fun outcome => ExceptT.bindCont next outcome).run machine := rfl
  rw [both, Script.run_bind, perform]
  generalize attempt.run.run machine = end'
  obtain ⟨outcome, after⟩ := end'
  cases outcome with
  | ok result => rfl
  | error cause => rfl

theorem perform_bind_of_ok {attempt : Attempt failure α} {machine after : Machine} {result : α}
    (succeeds : attempt.perform machine = (.ok result, after))
    (next : α → Attempt failure β) :
    (attempt >>= next).perform machine = (next result).perform after := by
  rw [perform_bind, succeeds]

theorem perform_bind_of_error {attempt : Attempt failure α} {machine after : Machine}
    {cause : failure} (fails : attempt.perform machine = (.error cause, after))
    (next : α → Attempt failure β) :
    (attempt >>= next).perform machine = (.error cause, after) := by
  rw [perform_bind, fails]

/-- The requests of the second attempt follow those of the first one, if it succeeded. -/
theorem requests_bind (attempt : Attempt failure α) (next : α → Attempt failure β) :
    (attempt >>= next).requests machine =
      attempt.requests machine ++
        match attempt.perform machine with
        | (.ok result, after) => (next result).requests after
        | (.error _, _) => [] := by
  have both : (attempt >>= next).requests machine =
      (attempt.run.bind fun outcome => ExceptT.bindCont next outcome).requests machine := rfl
  rw [both, Script.requests_bind, requests, perform]
  generalize attempt.run.run machine = end'
  obtain ⟨outcome, after⟩ := end'
  cases outcome with
  | ok result => rfl
  | error cause => rfl

theorem recorded_bind (attempt : Attempt failure α) (next : α → Attempt failure β) :
    (attempt >>= next).recorded machine =
      attempt.recorded machine ++
        match attempt.perform machine with
        | (.ok result, after) => (next result).recorded after
        | (.error _, _) => [] := by
  rw [recorded, requests_bind, List.filterMap_append, recorded]
  generalize attempt.perform machine = end'
  obtain ⟨outcome, after⟩ := end'
  cases outcome with
  | ok result => rfl
  | error cause => rfl

theorem recorded_bind_of_ok {attempt : Attempt failure α} {machine after : Machine} {result : α}
    (succeeds : attempt.perform machine = (.ok result, after))
    (next : α → Attempt failure β) :
    (attempt >>= next).recorded machine =
      attempt.recorded machine ++ (next result).recorded after := by
  rw [recorded_bind, succeeds]

theorem perform_expect (reword : first → failure) (script : Script (Except first α)) :
    (expect reword script).perform machine =
      ((script.run machine).1.mapError reword, (script.run machine).2) := by
  change (script.bind _).run machine = _
  rw [Script.run_bind]
  generalize script.run machine = end'
  obtain ⟨outcome, after⟩ := end'
  cases outcome with
  | ok result => rfl
  | error cause => rfl

theorem perform_expect_of_ok {reword : first → failure} {script : Script (Except first α)}
    {machine after : Machine} {result : α} (succeeds : script.run machine = (.ok result, after)) :
    (expect reword script).perform machine = (.ok result, after) := by
  rw [perform_expect, succeeds]
  rfl

theorem perform_expect_of_error {reword : first → failure} {script : Script (Except first α)}
    {machine after : Machine} {cause : first} (fails : script.run machine = (.error cause, after)) :
    (expect reword script).perform machine = (.error (reword cause), after) := by
  rw [perform_expect, fails]
  rfl

theorem requests_expect (reword : first → failure) (script : Script (Except first α)) :
    (expect reword script).requests machine = script.requests machine := by
  change (script.bind _).requests machine = _
  rw [Script.requests_bind]
  cases (script.run machine).1 with
  | ok result => exact List.append_nil _
  | error cause => exact List.append_nil _

/-- How an attempt ends on a machine: the records it has logged by then, its outcome, and the
machine after it. -/
structure Ends (attempt : Attempt failure α) (machine : Machine) (records : List Record)
    (outcome : Except failure α) (after : Machine) : Prop where
  recorded : attempt.recorded machine = records
  perform : attempt.perform machine = (outcome, after)

variable {machine}

theorem Ends.bind_of_ok {attempt : Attempt failure α} {next : α → Attempt failure β}
    {middle after : Machine} {early late : List Record} {result : α} {outcome : Except failure β}
    (one : attempt.Ends machine early (.ok result) middle)
    (two : (next result).Ends middle late outcome after) :
    (attempt >>= next).Ends machine (early ++ late) outcome after where
  recorded := by rw [recorded_bind_of_ok one.perform, one.recorded, two.recorded]
  perform := by rw [perform_bind_of_ok one.perform, two.perform]

theorem Ends.bind_of_error {attempt : Attempt failure α} {after : Machine} {records : List Record}
    {cause : failure} (one : attempt.Ends machine records (.error cause) after)
    (next : α → Attempt failure β) :
    (attempt >>= next).Ends machine records (.error cause) after where
  recorded := by rw [recorded_bind, one.perform, one.recorded, List.append_nil]
  perform := perform_bind_of_error one.perform next

theorem ends_pure (result : α) :
    (pure result : Attempt failure α).Ends machine [] (.ok result) machine :=
  ⟨rfl, rfl⟩

theorem ends_log (record : Record) :
    (log record : Attempt failure Unit).Ends machine [record] (.ok ()) (machine.log record) :=
  ⟨rfl, rfl⟩

theorem ends_expect {script : Script (Except first α)} {outcome : Except first α}
    {after : Machine} (reword : first → failure) (silent : script.recorded machine = [])
    (ran : script.run machine = (outcome, after)) :
    (expect reword script).Ends machine [] (outcome.mapError reword) after where
  recorded := by
    rw [recorded, requests_expect]
    exact silent
  perform := by rw [perform_expect, ran]

end Attempt

end BuildStamp
