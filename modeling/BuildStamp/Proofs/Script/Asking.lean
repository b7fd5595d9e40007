import BuildStamp.Proofs.Script.Performance

set_option autoImplicit false

/-!
What a script may ask for, whatever the replies. Unlike its run on one machine, the shape of a
script says this of every machine at once, and it is read off the parts that the script is put
together from.
-/

namespace BuildStamp

namespace Script

variable {α β : Type} {allowed : Request → Prop}

/-- Every request that a script can come to is an allowed one. -/
def Asks (allowed : Request → Prop) : Script α → Prop
  | .done _ => True
  | .ask request next => allowed request ∧ ∀ reply, (next reply).Asks allowed

theorem Asks.bind {script : Script α} {next : α → Script β} (one : script.Asks allowed)
    (two : ∀ result, (next result).Asks allowed) : (script.bind next).Asks allowed := by
  induction script with
  | done result => exact two result
  | ask request rest ih => exact ⟨one.1, fun reply => ih reply (one.2 reply)⟩

end Script

namespace Attempt

variable {failure first α β : Type} {allowed : Request → Prop}

/-- Every request that an attempt can come to is an allowed one. -/
def Asks (allowed : Request → Prop) (attempt : Attempt failure α) : Prop :=
  Script.Asks allowed attempt.run

theorem asks_pure (result : α) : (pure result : Attempt failure α).Asks allowed :=
  trivial

theorem asks_ofExcept (outcome : Except failure α) : (ofExcept outcome).Asks allowed :=
  trivial

theorem asks_request_bind {request : Request} {next : request.Reply → Attempt failure β}
    (may : allowed request) (rest : ∀ reply, (next reply).Asks allowed) :
    (Attempt.request request >>= next).Asks allowed :=
  ⟨may, rest⟩

theorem asks_log_bind {record : Record} {next : Unit → Attempt failure β}
    (may : allowed (.log record)) (rest : (next ()).Asks allowed) :
    (Attempt.log record >>= next).Asks allowed :=
  ⟨may, fun _ => rest⟩

theorem asks_expect {script : Script (Except first α)} (reword : first → failure)
    (asks : script.Asks allowed) : (expect reword script).Asks allowed := by
  apply asks.bind
  intro outcome
  cases outcome with
  | ok result => exact trivial
  | error cause => exact trivial

theorem Asks.bind {attempt : Attempt failure α} {next : α → Attempt failure β}
    (one : attempt.Asks allowed) (two : ∀ result, (next result).Asks allowed) :
    (attempt >>= next).Asks allowed := by
  apply Script.Asks.bind one
  intro outcome
  cases outcome with
  | ok result => exact two result
  | error cause => exact trivial

end Attempt

end BuildStamp
