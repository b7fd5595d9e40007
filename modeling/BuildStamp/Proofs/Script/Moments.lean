import BuildStamp.Proofs.Script.Performance

set_option autoImplicit false

/-!
What holds at every moment of a script, whenever it is stopped: before it begins, after each of its
requests, and when it has come to its end. Such a property is established along the script, part by
part, and read off for any number of requests.
-/

namespace BuildStamp

namespace Script

variable {α β : Type} {property : Machine → Prop} {machine : Machine}

/-- A property of machines holds before a script, after each of its requests, and at its end. -/
def Throughout (property : Machine → Prop) : Script α → Machine → Prop
  | .done _, machine => property machine
  | .ask request next, machine =>
    property machine ∧
      (next (machine.answer request).1).Throughout property (machine.answer request).2

/-- What holds throughout a script holds wherever the script is stopped. -/
theorem throughout_iff_runFor {script : Script α} :
    script.Throughout property machine ↔ ∀ count, property (script.runFor count machine) := by
  induction script generalizing machine with
  | done result =>
      constructor
      · intro holds count
        cases count with
        | zero => exact holds
        | succ count => exact holds
      · intro holds
        exact holds 0
  | ask request next ih =>
      constructor
      · rintro ⟨first, later⟩ count
        cases count with
        | zero => exact first
        | succ count => exact (ih _).mp later count
      · intro holds
        exact ⟨holds 0, (ih _).mpr fun count => holds (count + 1)⟩

theorem Throughout.last {script : Script α} (holds : script.Throughout property machine) :
    property (script.run machine).2 := by
  induction script generalizing machine with
  | done result => exact holds
  | ask request next ih => exact ih _ holds.2

theorem Throughout.bind {script : Script α} {next : α → Script β}
    (one : script.Throughout property machine)
    (two : (next (script.run machine).1).Throughout property (script.run machine).2) :
    (script.bind next).Throughout property machine := by
  induction script generalizing machine with
  | done result => exact two
  | ask request rest ih => exact ⟨one.1, ih _ one.2 two⟩

/-- A script of one request has two moments. -/
theorem throughout_of_single {script : Script α} {asked : Request}
    (single : script.requests machine = [asked]) (before : property machine)
    (after : property (script.run machine).2) : script.Throughout property machine := by
  cases script with
  | done result => cases single
  | ask request next =>
      have ended : (next (machine.answer request).1).requests (machine.answer request).2 = [] :=
        (List.cons.inj single).2
      change property ((next (machine.answer request).1).run (machine.answer request).2).2 at after
      refine ⟨before, ?_⟩
      generalize next (machine.answer request).1 = rest at ended after ⊢
      cases rest with
      | done result => exact after
      | ask other further => cases ended

/-- A script that may make all its requests comes to its end. -/
theorem runFor_of_length_le (script : Script α) {count : Nat}
    (enough : (script.requests machine).length ≤ count) :
    script.runFor count machine = (script.run machine).2 := by
  induction script generalizing machine count with
  | done result =>
      cases count with
      | zero => rfl
      | succ count => rfl
  | ask request next ih =>
      cases count with
      | zero => simp [requests] at enough
      | succ count =>
          simp only [requests, List.length_cons, Nat.add_le_add_iff_right] at enough
          exact ih _ enough

end Script

namespace Attempt

variable {failure first α β : Type} {property : Machine → Prop} {machine : Machine}

/-- A property of machines holds at every moment of an attempt. -/
def Throughout (property : Machine → Prop) (attempt : Attempt failure α) (machine : Machine) :
    Prop :=
  Script.Throughout property attempt.run machine

theorem Throughout.last {attempt : Attempt failure α} {outcome : Except failure α}
    {after : Machine} (holds : attempt.Throughout property machine)
    (ended : attempt.perform machine = (outcome, after)) : property after := by
  have last := Script.Throughout.last holds
  change property (attempt.perform machine).2 at last
  rwa [ended] at last

/-- The second attempt matters only where the first one succeeds. -/
theorem Throughout.bind {attempt : Attempt failure α} {next : α → Attempt failure β}
    (one : attempt.Throughout property machine)
    (two : ∀ result after, attempt.perform machine = (.ok result, after) →
      (next result).Throughout property after) :
    (attempt >>= next).Throughout property machine := by
  apply Script.Throughout.bind one
  rcases ended : attempt.run.run machine with ⟨outcome, after⟩
  cases outcome with
  | error cause => exact one.last ended
  | ok result => exact two result after ended

theorem Throughout.bind_of_ok {attempt : Attempt failure α} {next : α → Attempt failure β}
    {result : α} {after : Machine} (one : attempt.Throughout property machine)
    (succeeds : attempt.perform machine = (.ok result, after))
    (two : (next result).Throughout property after) :
    (attempt >>= next).Throughout property machine := by
  apply one.bind
  intro other last ended
  rw [succeeds] at ended
  cases ended
  exact two

theorem Throughout.bind_of_error {attempt : Attempt failure α} {next : α → Attempt failure β}
    {cause : failure} {after : Machine} (one : attempt.Throughout property machine)
    (fails : attempt.perform machine = (.error cause, after)) :
    (attempt >>= next).Throughout property machine := by
  apply one.bind
  intro other last ended
  rw [fails] at ended
  cases ended

/-- The moments of an attempt that begins with a record are the one before it and those of the
rest. -/
theorem throughout_log_bind (record : Record) {next : Unit → Attempt failure β}
    (before : property machine) (rest : (next ()).Throughout property (machine.log record)) :
    (Attempt.log record >>= next).Throughout property machine :=
  ⟨before, rest⟩

/-- Rewording a failure takes no request. -/
theorem throughout_expect (reword : first → failure) {script : Script (Except first α)}
    (holds : script.Throughout property machine) :
    (expect reword script).Throughout property machine := by
  have last := holds.last
  apply Script.Throughout.bind holds
  rcases ended : script.run machine with ⟨outcome, after⟩
  rw [ended] at last
  cases outcome with
  | ok result => exact last
  | error cause => exact last

/-- The moments of a request whose failure is reworded. -/
theorem Ends.throughout_expect {reword : first → failure} {script : Script (Except first α)}
    {records : List Record} {outcome : Except failure α} {after : Machine} {asked : Request}
    (ends : (expect reword script).Ends machine records outcome after)
    (single : script.requests machine = [asked]) (before : property machine)
    (last : property after) : (expect reword script).Throughout property machine := by
  apply Attempt.throughout_expect
  apply Script.throughout_of_single single before
  have same := congrArg Prod.snd ends.perform
  rw [perform_expect] at same
  rwa [show (script.run machine).2 = after from same]

end Attempt

end BuildStamp
