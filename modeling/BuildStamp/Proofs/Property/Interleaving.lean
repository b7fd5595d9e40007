import BuildStamp.Proofs.Property.History

set_option autoImplicit false

/-!
A lookup of the build number among other clients of its store. The lookup searches first and reads
through the handle it has got later, and between the two, as before and after, any operations of
others may come to pass. What it returns is nevertheless what the store held at one moment, that of
the search or that of the reading.
-/

namespace BuildStamp

/-- How far a lookup of the build number has come: it has yet to search, it holds a handle that it
has yet to read through, or it has its result. -/
inductive Lookup
  | searching
  | holding (handle : PropertyHandle)
  | finished (value : String)
  deriving DecidableEq

/-- Whose turn it is at a store: the lookup's, or that of another client with an operation. -/
inductive Turn
  | lookup
  | other (operation : PropertyOperation)
  deriving DecidableEq

/-- A store and a lookup in the middle of it. -/
structure SharedStore where
  store : PropertyStore
  lookup : Lookup
  deriving DecidableEq

/-- The store after another client's operation. -/
def PropertyStore.after (store : PropertyStore) (operation : PropertyOperation) : PropertyStore :=
  (PropertySession.perform ⟨store, []⟩ operation).2.store

/-- The next access of a lookup to its store, which nothing interrupts. A lookup that finds nothing
is over at once. -/
def Lookup.access (store : PropertyStore) : Lookup → Lookup
  | .searching =>
    match store.find? PropertyStore.buildNumberName with
    | none => .finished ""
    | some handle => .holding handle
  | .holding handle =>
    match store.read? handle with
    | none => .finished ""
    | some reading => .finished reading.value
  | .finished value => .finished value

namespace SharedStore

/-- One turn. -/
def take (shared : SharedStore) : Turn → SharedStore
  | .lookup => { shared with lookup := shared.lookup.access shared.store }
  | .other operation => { shared with store := shared.store.after operation }

/-- A row of turns, in whatever order the clients come. -/
def takeAll (shared : SharedStore) (turns : List Turn) : SharedStore :=
  turns.foldl take shared

/-- The states that a store is in at the turns of the lookup. -/
def seen : PropertyStore → List Turn → List PropertyStore
  | _, [] => []
  | store, .lookup :: rest => store :: seen store rest
  | store, .other operation :: rest => seen (store.after operation) rest

/-- The lookup goes by what it sees, whatever comes to pass between its turns. -/
theorem lookup_takeAll (shared : SharedStore) (turns : List Turn) :
    (shared.takeAll turns).lookup =
      (seen shared.store turns).foldl (fun lookup store => lookup.access store) shared.lookup := by
  induction turns generalizing shared with
  | nil => rfl
  | cons turn rest ih =>
      cases turn with
      | lookup => exact ih _
      | other operation => exact ih _

end SharedStore

namespace Lookup

theorem foldl_finished (value : String) (stores : List PropertyStore) :
    stores.foldl (fun lookup store => lookup.access store) (finished value) = finished value := by
  induction stores with
  | nil => rfl
  | cons store rest ih => exact ih

theorem access_searching (store : PropertyStore) :
    searching.access store =
      if store.get? PropertyStore.buildNumberName = none then finished ""
      else holding ⟨PropertyStore.buildNumberName⟩ := by
  rw [access, PropertyStore.find?]
  cases store.get? PropertyStore.buildNumberName with
  | none => rfl
  | some property => rfl

theorem access_holding (store : PropertyStore) :
    (holding ⟨PropertyStore.buildNumberName⟩).access store = finished store.current := by
  rw [access, PropertyStore.read?, PropertyStore.current]
  cases store.get? PropertyStore.buildNumberName with
  | none => rfl
  | some property => rfl

/-- Two accesses make a lookup of the build number across the stores of the two. -/
theorem access_access (atSearch atReading : PropertyStore) :
    (searching.access atSearch).access atReading =
      finished (atSearch.buildNumberAcross atReading) := by
  rw [access_searching, PropertyStore.buildNumberAcross_eq]
  split
  · rfl
  · exact access_holding atReading

end Lookup

namespace PropertyStore

/-- Whatever the two stores are, the lookup does not mix them. -/
theorem buildNumberAcross_eq_current (atSearch atReading : PropertyStore) :
    atSearch.buildNumberAcross atReading = atSearch.current ∨
      atSearch.buildNumberAcross atReading = atReading.current := by
  rw [buildNumberAcross_eq]
  split
  · rename_i absent
    exact .inl (current_of_absent absent).symm
  · exact .inr rfl

end PropertyStore

namespace SharedStore

/-- However the turns fall, a lookup that has had two of them has ended, with what an undivided
lookup would have returned at the one or at the other. A lookup that has had one has ended if there
was nothing to be found, with what an undivided one would have returned then. -/
theorem lookup_current_when_seen (initial : PropertyStore) (turns : List Turn) :
    match seen initial turns with
    | [] => (takeAll ⟨initial, .searching⟩ turns).lookup = .searching
    | [atSearch] =>
      (takeAll ⟨initial, .searching⟩ turns).lookup =
        if atSearch.get? PropertyStore.buildNumberName = none then .finished atSearch.current
        else .holding ⟨PropertyStore.buildNumberName⟩
    | atSearch :: atReading :: _ =>
      (takeAll ⟨initial, .searching⟩ turns).lookup =
          .finished (atSearch.buildNumberAcross atReading) ∧
        (atSearch.buildNumberAcross atReading = atSearch.current ∨
          atSearch.buildNumberAcross atReading = atReading.current) := by
  have ends := lookup_takeAll ⟨initial, .searching⟩ turns
  simp only at ends
  rw [ends]
  match seen initial turns with
  | [] => rfl
  | [atSearch] =>
      simp only [List.foldl_cons, List.foldl_nil, Lookup.access_searching]
      split
      · rename_i absent
        rw [PropertyStore.current_of_absent absent]
      · rfl
  | atSearch :: atReading :: rest =>
      refine ⟨?_, PropertyStore.buildNumberAcross_eq_current atSearch atReading⟩
      rw [List.foldl_cons, List.foldl_cons, Lookup.access_access, Lookup.foldl_finished]

/-- The property is removed and made anew between the search and the reading, and goes away before
the lookup's last turn. -/
example :
    (takeAll ⟨PropertyStore.empty.set PropertyStore.buildNumberName "1", .searching⟩
      [.lookup, .other (.remove PropertyStore.buildNumberName),
        .other (.set PropertyStore.buildNumberName "2"), .lookup,
        .other (.remove PropertyStore.buildNumberName), .lookup]).lookup = .finished "2" := by
  decide

end SharedStore

end BuildStamp
