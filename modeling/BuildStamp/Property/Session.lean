import BuildStamp.Property.Store

set_option autoImplicit false

/-!
Runs of operations on one store by a client who keeps handles under labels of its own. A handle
stays what it was when it was found, whatever becomes of the property.
-/

namespace BuildStamp

/-- What a client can ask of a store. -/
inductive PropertyOperation
  | set (name value : String)
  | remove (name : String)
  | serial (name : String)
  | find (name label : String)
  | read (label : String)
  | buildNumber
  deriving DecidableEq

/-- What the client is told. -/
inductive PropertyReply
  | serial (current : Option UInt32)
  | removed (value : Option String)
  | found (present : Bool)
  | readings (reported : List Reading)
  | buildNumber (value : String)
  deriving DecidableEq

/-- A store, and the outcomes of the client's searches under their labels, newest first. -/
structure PropertySession where
  store : PropertyStore
  handles : List (String × Option PropertyHandle)
  deriving DecidableEq

namespace PropertySession

/-- The session on an empty store. -/
def start : PropertySession :=
  ⟨PropertyStore.empty, []⟩

/-- The handle kept under a label, unless the search found nothing or never took place. -/
def handle? (session : PropertySession) (label : String) : Option PropertyHandle :=
  (session.handles.lookup label).join

/-- One operation. -/
def perform (session : PropertySession) : PropertyOperation → PropertyReply × PropertySession
  | .set name value =>
    let store := session.store.set name value
    (.serial (store.serial? name), { session with store })
  | .remove name =>
    let (value, store) := session.store.remove name
    (.removed value, { session with store })
  | .serial name => (.serial (session.store.serial? name), session)
  | .find name label =>
    let handle := session.store.find? name
    (.found handle.isSome, { session with handles := (label, handle) :: session.handles })
  | .read label =>
    (.readings ((session.handle? label).bind session.store.read?).toList, session)
  | .buildNumber => (.buildNumber session.store.buildNumber, session)

/-- A run of operations, with the reply to each in order. -/
def performAll (session : PropertySession) :
    List PropertyOperation → List PropertyReply × PropertySession
  | [] => ([], session)
  | operation :: rest =>
    let (reply, next) := session.perform operation
    let (replies, last) := next.performAll rest
    (reply :: replies, last)

end PropertySession

end BuildStamp
