import BuildStamp.Property.Session

set_option autoImplicit false

/-!
What a client of a store is told, read off the operations that came before and nothing else. A
property holds the value of its last write, its serial counts the writes over the first one, and
both begin anew once it has been removed; a handle leads to what the property is at the moment of
reading. Sessions keep this in step with their store, operation by operation.
-/

namespace BuildStamp

/-- The operations on a store so far, the newest first. -/
abbrev PropertyPast := List PropertyOperation

namespace PropertyOperation

/-- What an operation writes to a property. -/
def valueFor (name : String) : PropertyOperation → Option String
  | .set other value => if other = name then some value else none
  | _ => none

/-- An operation concerns the property that it writes or removes. -/
def concerns (name : String) (operation : PropertyOperation) : Bool :=
  (operation.valueFor name).isSome || operation = .remove name

theorem valueFor_eq_some_iff {name value : String} {operation : PropertyOperation} :
    operation.valueFor name = some value ↔ operation = .set name value := by
  cases operation with
  | set other written =>
      by_cases same : other = name
      · simp [valueFor, same]
      · simp [valueFor, same]
  | _ => simp [valueFor]

theorem concerns_iff {name : String} {operation : PropertyOperation} :
    operation.concerns name ↔
      (∃ value, operation = .set name value) ∨ operation = .remove name := by
  simp [concerns, Option.isSome_iff_exists, valueFor_eq_some_iff]

end PropertyOperation

namespace PropertyPast

variable (past : PropertyPast)

/-- The values written to a property since it was last removed, the newest first. -/
def writes (name : String) : List String :=
  (past.takeWhile fun operation => operation ≠ .remove name).filterMap (·.valueFor name)

/-- The property that the writes amount to: the newest value, and the number of those before it,
around at 2^32. -/
def property? (name : String) : Option Property :=
  match writes past name with
  | [] => none
  | value :: earlier => some ⟨value, UInt32.ofNat earlier.length⟩

/-- What reading a property reports. -/
def reading? (name : String) : Option Reading :=
  (property? past name).map fun property => ⟨name, property.value, property.serial⟩

/-- The handle under a label: the name of its latest search, if the property was there then. -/
def handle? (label : String) : PropertyPast → Option PropertyHandle
  | [] => none
  | .find name other :: earlier =>
    if other = label then
      if writes earlier name = [] then none else some ⟨name⟩
    else handle? label earlier
  | _ :: earlier => handle? label earlier

/-- What the client is told of its next operation. -/
def reply : PropertyOperation → PropertyReply
  | .set name _ => .serial (some (UInt32.ofNat (writes past name).length))
  | .remove name => .removed (writes past name).head?
  | .serial name => .serial ((property? past name).map (·.serial))
  | .find name _ => .found (writes past name ≠ [])
  | .read label =>
    .readings ((handle? label past).bind fun handle => reading? past handle.name).toList
  | .buildNumber =>
    .buildNumber ((writes past PropertyStore.buildNumberName).head?.getD "")

open PropertyOperation

variable {past} {name : String}

theorem writes_set (value : String) :
    writes (.set name value :: past) name = value :: writes past name := by
  simp [writes, valueFor]

theorem writes_remove : writes (.remove name :: past) name = [] := by
  simp [writes]

theorem writes_of_unconcerned {operation : PropertyOperation}
    (apart : ¬ operation.concerns name) :
    writes (operation :: past) name = writes past name := by
  obtain ⟨unwritten, kept⟩ := not_or.mp (fun either => apart (concerns_iff.mpr either))
  have nothing : operation.valueFor name = none := by
    rw [Option.eq_none_iff_forall_ne_some]
    intro value written
    exact unwritten ⟨value, valueFor_eq_some_iff.mp written⟩
  rw [writes, List.takeWhile_cons_of_pos (by simpa using kept),
    List.filterMap_cons_none nothing, writes]

/-- Operations that concern other properties might as well not have happened. -/
theorem writes_filter_concerns (past : PropertyPast) (name : String) :
    writes (past.filter (·.concerns name)) name = writes past name := by
  induction past with
  | nil => rfl
  | cons operation past ih =>
      by_cases concerned : operation.concerns name
      · rw [List.filter_cons_of_pos concerned]
        rcases concerns_iff.mp concerned with ⟨value, rfl⟩ | rfl
        · rw [writes_set, writes_set, ih]
        · rw [writes_remove, writes_remove]
      · rw [List.filter_cons_of_neg concerned, ih, writes_of_unconcerned concerned]

theorem property?_eq_none_iff : property? past name = none ↔ writes past name = [] := by
  rw [property?]
  split
  · rename_i nothing
    simp [nothing]
  · rename_i something
    simp [something]

theorem value_property? : (property? past name).map (·.value) = (writes past name).head? := by
  rw [property?]
  split
  · rename_i nothing
    rw [nothing]
    rfl
  · rename_i something
    rw [something]
    rfl

/-- A write puts its value over what is there, under the next serial. -/
theorem property?_set (value : String) :
    property? (.set name value :: past) name =
      some ⟨value, UInt32.ofNat (writes past name).length⟩ := by
  rw [property?, writes_set]

theorem property?_remove : property? (.remove name :: past) name = none :=
  property?_eq_none_iff.mpr writes_remove

theorem property?_of_unconcerned {operation : PropertyOperation}
    (apart : ¬ operation.concerns name) :
    property? (operation :: past) name = property? past name := by
  rw [property?, property?, writes_of_unconcerned apart]

end PropertyPast

namespace PropertyStore

/-- The serial that a write leaves behind. -/
theorem get?_set (store : PropertyStore) (name other value : String) :
    (store.set name value).get? other =
      if other = name then
        some ⟨value, ((store.get? name).map (·.serial + 1)).getD 0⟩
      else store.get? other := by
  rw [set]
  cases store.get? name with
  | none => exact get?_put store name other _
  | some property => exact get?_put store name other _

/-- The build number that a store holds at one moment. Without the property it is empty. -/
def current (store : PropertyStore) : String :=
  ((store.get? buildNumberName).map (·.value)).getD ""

theorem current_of_absent {store : PropertyStore} (absent : store.get? buildNumberName = none) :
    store.current = "" := by
  rw [current, absent]
  rfl

/-- The search only decides whether there is a reading; what is read is what is there then. -/
theorem buildNumberAcross_eq (atFind atRead : PropertyStore) :
    atFind.buildNumberAcross atRead =
      if atFind.get? buildNumberName = none then "" else atRead.current := by
  rw [buildNumberAcross, find?]
  cases atFind.get? buildNumberName with
  | none => rfl
  | some found =>
      rw [current]
      simp only [Option.isSome_some, if_true, reduceCtorEq, if_false, read?]
      cases atRead.get? buildNumberName with
      | none => rfl
      | some property => rfl

theorem buildNumber_eq_current (store : PropertyStore) : store.buildNumber = store.current := by
  rw [buildNumber, buildNumberAcross_eq]
  split
  · rename_i absent
    exact (current_of_absent absent).symm
  · rfl

end PropertyStore

namespace PropertySession

/-- A session on which a past has left what it leaves: the properties as its writes amount to, and
the handles that its searches found. -/
structure Reflects (session : PropertySession) (past : PropertyPast) : Prop where
  store : ∀ name, session.store.get? name = PropertyPast.property? past name
  handles : ∀ label, session.handle? label = PropertyPast.handle? label past

variable {session : PropertySession} {past : PropertyPast}

theorem reflects_start : start.Reflects [] where
  store := fun _ => rfl
  handles := fun _ => rfl

/-- The serial that the next write of a property leaves behind. -/
theorem Reflects.next_serial (reflects : session.Reflects past) (name : String) :
    ((session.store.get? name).map (·.serial + 1)).getD 0 =
      UInt32.ofNat (PropertyPast.writes past name).length := by
  rw [reflects.store, PropertyPast.property?]
  split
  · rename_i nothing
    rw [nothing]
    rfl
  · rename_i value earlier something
    rw [something, List.length_cons, UInt32.ofNat_add]
    rfl

theorem Reflects.present_iff (reflects : session.Reflects past) (name : String) :
    (session.store.get? name).isSome ↔ PropertyPast.writes past name ≠ [] := by
  rw [reflects.store, Option.isSome_iff_ne_none, ne_eq, PropertyPast.property?_eq_none_iff]

theorem Reflects.find? (reflects : session.Reflects past) (name : String) :
    session.store.find? name =
      if PropertyPast.writes past name = [] then none else some ⟨name⟩ := by
  have present := reflects.present_iff name
  rw [PropertyStore.find?]
  by_cases nothing : PropertyPast.writes past name = []
  · rw [if_pos nothing, if_neg (fun there => present.mp there nothing)]
  · rw [if_neg nothing, if_pos (present.mpr nothing)]

theorem Reflects.read? (reflects : session.Reflects past) (handle : PropertyHandle) :
    session.store.read? handle = PropertyPast.reading? past handle.name := by
  rw [PropertyStore.read?, reflects.store, PropertyPast.reading?]

theorem Reflects.buildNumber (reflects : session.Reflects past) :
    session.store.buildNumber =
      (PropertyPast.writes past PropertyStore.buildNumberName).head?.getD "" := by
  rw [PropertyStore.buildNumber_eq_current, PropertyStore.current, reflects.store,
    PropertyPast.value_property?]

/-- One operation is answered from its past alone. -/
theorem Reflects.reply_perform (reflects : session.Reflects past) (operation : PropertyOperation) :
    (session.perform operation).1 = PropertyPast.reply past operation := by
  cases operation with
  | set name value =>
      have after := PropertyStore.get?_set session.store name name value
      rw [if_pos rfl, reflects.next_serial] at after
      simp only [perform, PropertyStore.serial?, after, PropertyPast.reply]
      rfl
  | remove name =>
      simp only [perform, PropertyStore.remove, reflects.store, PropertyPast.value_property?,
        PropertyPast.reply]
  | serial name =>
      simp only [perform, PropertyStore.serial?, reflects.store, PropertyPast.reply]
  | find name label =>
      simp only [perform, reflects.find?, PropertyPast.reply]
      by_cases nothing : PropertyPast.writes past name = []
      · simp [nothing]
      · simp [nothing]
  | read label =>
      simp only [perform, PropertyPast.reply, reflects.handles]
      cases PropertyPast.handle? label past with
      | none => rfl
      | some handle => simp only [Option.bind_some, reflects.read?]
  | buildNumber => simp only [perform, PropertyPast.reply, reflects.buildNumber]

theorem get?_perform_of_unconcerned {operation : PropertyOperation} {name : String}
    (apart : ¬ operation.concerns name) :
    (session.perform operation).2.store.get? name = session.store.get? name := by
  cases operation with
  | set other value =>
      have elsewhere : name ≠ other := by
        rintro rfl
        exact apart (PropertyOperation.concerns_iff.mpr (.inl ⟨value, rfl⟩))
      exact (PropertyStore.get?_set session.store other name value).trans (if_neg elsewhere)
  | remove other =>
      have elsewhere : name ≠ other := by
        rintro rfl
        exact apart (PropertyOperation.concerns_iff.mpr (.inr rfl))
      exact (PropertyStore.get?_erase session.store other name).trans (if_neg elsewhere)
  | _ => rfl

theorem Reflects.get?_perform (reflects : session.Reflects past) (operation : PropertyOperation)
    (name : String) :
    (session.perform operation).2.store.get? name =
      PropertyPast.property? (operation :: past) name := by
  by_cases concerned : operation.concerns name
  · rcases PropertyOperation.concerns_iff.mp concerned with ⟨value, rfl⟩ | rfl
    · rw [PropertyPast.property?_set, ← reflects.next_serial]
      exact (PropertyStore.get?_set session.store name name value).trans (if_pos rfl)
    · rw [PropertyPast.property?_remove]
      exact (PropertyStore.get?_erase session.store name name).trans (if_pos rfl)
  · rw [get?_perform_of_unconcerned concerned, reflects.store,
      PropertyPast.property?_of_unconcerned concerned]

theorem Reflects.handle?_find (reflects : session.Reflects past) (name other label : String) :
    (session.perform (.find name other)).2.handle? label =
      PropertyPast.handle? label (.find name other :: past) := by
  rw [PropertyPast.handle?]
  by_cases same : other = label
  · subst same
    simp [handle?, perform, reflects.find?]
  · have apart : (label == other) = false := beq_eq_false_iff_ne.mpr (Ne.symm same)
    rw [if_neg same, ← reflects.handles]
    simp only [handle?, perform, List.lookup_cons, apart]

/-- One more operation goes to the front of the past. -/
theorem Reflects.perform (reflects : session.Reflects past) (operation : PropertyOperation) :
    (session.perform operation).2.Reflects (operation :: past) where
  store := reflects.get?_perform operation
  handles := by
    intro label
    cases operation with
    | find name other => exact reflects.handle?_find name other label
    | _ => exact reflects.handles label

theorem Reflects.performAll (reflects : session.Reflects past)
    (operations : List PropertyOperation) :
    (session.performAll operations).2.Reflects (operations.reverse ++ past) := by
  induction operations generalizing session past with
  | nil => exact reflects
  | cons operation rest ih =>
      rw [List.reverse_cons, List.append_assoc]
      exact ih (reflects.perform operation)

theorem length_performAll (session : PropertySession) (operations : List PropertyOperation) :
    (session.performAll operations).1.length = operations.length := by
  induction operations generalizing session with
  | nil => rfl
  | cons operation rest ih => exact congrArg (· + 1) (ih _)

theorem performAll_append (session : PropertySession) (first second : List PropertyOperation) :
    (session.performAll (first ++ second)).1 =
      (session.performAll first).1 ++ ((session.performAll first).2.performAll second).1 := by
  induction first generalizing session with
  | nil => rfl
  | cons operation rest ih => exact congrArg (List.cons _) (ih _)

theorem reflects_run (operations : List PropertyOperation) :
    (start.performAll operations).2.Reflects operations.reverse := by
  simpa using reflects_start.performAll operations

/-- At every point of every run the store holds what its past amounts to, the operations on other
properties make no difference, and the client is told what the past says. -/
theorem performAll_follows_past (before after : List PropertyOperation)
    (operation : PropertyOperation) :
    (start.performAll (before ++ operation :: after)).1[before.length]? =
        some (PropertyPast.reply before.reverse operation) ∧
      ∀ name,
        (start.performAll before).2.store.get? name =
            PropertyPast.property? before.reverse name ∧
          (start.performAll (before.filter (·.concerns name))).2.store.get? name =
            (start.performAll before).2.store.get? name := by
  have reflects := reflects_run before
  constructor
  · have position := length_performAll start before
    rw [performAll_append, List.getElem?_append_right (Nat.le_of_eq position), position,
      Nat.sub_self]
    exact congrArg some (reflects.reply_perform operation)
  · intro name
    refine ⟨reflects.store name, ?_⟩
    rw [(reflects_run _).store, reflects.store, PropertyPast.property?, PropertyPast.property?,
      ← List.filter_reverse, PropertyPast.writes_filter_concerns]

end PropertySession

end BuildStamp
