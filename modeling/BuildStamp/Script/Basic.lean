import BuildStamp.Log.Logger

set_option autoImplicit false

/-!
Scripts: what the program asks of its surroundings, one request after the other, each depending on
the replies before it. A script is a value, so it can be run on a model of the surroundings, run
up to any point, or carried out.
-/

namespace BuildStamp

/-- One request to the surroundings of the program. -/
inductive Request
  | read (path : Path)
  | permissions (path : Path)
  | isPresent (path : Path)
  | stage (directory : Path)
  | append (staged : Staged) (bytes : List UInt8)
  | sync (staged : Staged)
  | setPermissions (staged : Staged) (permissions : Nat)
  | moveOnto (staged : Staged) (path : Path)
  | discard (staged : Staged)
  | environment
  | accountHome
  | showsErrors
  | startLog (request : LogRequest)
  | log (record : Record)
  | printOutput (text : String)
  | printError (text : String)
  deriving DecidableEq

/-- What a request is answered with. -/
@[reducible]
def Request.Reply : Request → Type
  | .read _ => Except IoError (List UInt8)
  | .permissions _ => Except IoError Nat
  | .isPresent _ => Bool
  | .stage _ => Except IoError Staged
  | .append _ _ => Except IoError Unit
  | .sync _ => Except IoError Unit
  | .setPermissions _ _ => Except IoError Unit
  | .moveOnto _ _ => Except IoError Unit
  | .discard _ => Unit
  | .environment => Environment
  | .accountHome => Option String
  | .showsErrors => Bool
  | .startLog _ => Except LoggerFailure Unit
  | .log _ => Unit
  | .printOutput _ => Unit
  | .printError _ => Unit

/-- Requests that lead to a result. -/
inductive Script (α : Type)
  | done (result : α)
  | ask (request : Request) (next : request.Reply → Script α)

namespace Script

/-- One script and then another that depends on its result. -/
def bind {α β : Type} : Script α → (α → Script β) → Script β
  | .done result, next => next result
  | .ask request rest, next => .ask request fun reply => (rest reply).bind next

instance : Monad Script where
  pure := .done
  bind := bind

/-- A single request. -/
def request (request : Request) : Script request.Reply :=
  .ask request .done

/-- Several records, one after the other. -/
def logAll : List Record → Script Unit
  | [] => .done ()
  | record :: rest => .ask (.log record) fun _ => logAll rest

end Script

end BuildStamp
