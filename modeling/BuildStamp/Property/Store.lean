import BuildStamp.Association

set_option autoImplicit false

/-!
Properties by name. Every property carries a serial that starts at zero when the property comes
to be and moves on by one, around at 2^32, with each write over it; a property that is removed and
written again starts anew. A reader first asks for a handle and then reads through it, and the
store may have changed in between.
-/

namespace BuildStamp

/-- A property's value, and the number of writes over it. -/
structure Property where
  value : String
  serial : UInt32
  deriving DecidableEq

/-- What a reader learns of a property, all of it from one moment. -/
structure Reading where
  name : String
  value : String
  serial : UInt32
  deriving DecidableEq

/-- A property that was found once, to be read later. -/
structure PropertyHandle where
  name : String
  deriving DecidableEq

/-- The properties there are, each name at most once. -/
structure PropertyStore where
  entries : List (String × Property)
  deriving DecidableEq

namespace PropertyStore

/-- The store that holds nothing. -/
def empty : PropertyStore :=
  ⟨[]⟩

/-- The property of a name. -/
def get? (store : PropertyStore) (name : String) : Option Property :=
  store.entries.lookup name

/-- The store with a property put in place of the one of its name. -/
def put (store : PropertyStore) (name : String) (property : Property) : PropertyStore :=
  ⟨Association.insert store.entries name property⟩

/-- The store without the property of a name. -/
def erase (store : PropertyStore) (name : String) : PropertyStore :=
  ⟨Association.erase store.entries name⟩

theorem get?_put (store : PropertyStore) (name other : String) (property : Property) :
    (store.put name property).get? other =
      if other = name then some property else store.get? other := by
  simp [get?, put, Association.lookup_insert]

theorem get?_erase (store : PropertyStore) (name other : String) :
    (store.erase name).get? other = if other = name then none else store.get? other := by
  simp [get?, erase, Association.lookup_erase]

/-- One write: a new property at serial zero, or the next serial of the one there is. -/
def set (store : PropertyStore) (name value : String) : PropertyStore :=
  match store.get? name with
  | none => store.put name ⟨value, 0⟩
  | some property => store.put name ⟨value, property.serial + 1⟩

/-- The value that goes away, and the store without it. -/
def remove (store : PropertyStore) (name : String) : Option String × PropertyStore :=
  ((store.get? name).map (·.value), store.erase name)

/-- The serial of a name. -/
def serial? (store : PropertyStore) (name : String) : Option UInt32 :=
  (store.get? name).map (·.serial)

/-- A handle on the property of a name, if there is one. -/
def find? (store : PropertyStore) (name : String) : Option PropertyHandle :=
  if (store.get? name).isSome then some ⟨name⟩ else none

/-- What reading through a handle reports: the property as it is now, or nothing if it has gone
away. -/
def read? (store : PropertyStore) (handle : PropertyHandle) : Option Reading :=
  (store.get? handle.name).map fun property => ⟨handle.name, property.value, property.serial⟩

/-- The property that holds the build number. -/
def buildNumberName : String :=
  "ro.build.version.incremental"

/-- The build number that a reader gets who asks for the handle in one state of the store and
reads through it in another. Without the property it is empty. -/
def buildNumberAcross (atFind atRead : PropertyStore) : String :=
  match atFind.find? buildNumberName with
  | none => ""
  | some handle =>
    match atRead.read? handle with
    | none => ""
    | some reading => reading.value

/-- The build number in a store that does not change while it is read. -/
def buildNumber (store : PropertyStore) : String :=
  store.buildNumberAcross store

end PropertyStore

end BuildStamp
