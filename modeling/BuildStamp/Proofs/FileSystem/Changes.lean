import BuildStamp.Proofs.FileSystem.Entries
import BuildStamp.Proofs.FileSystem.Resolution

set_option autoImplicit false

/-!
What the operations on files change: a move puts a file at one entry and takes it from another, and
a file that is opened for writing is emptied at the place its path leads to.
-/

namespace BuildStamp.FileSystem

variable {files after : FileSystem} {place : Place} {path : Path}

theorem node?_erase_self (below : place ≠ []) : (files.erase place).node? place = none := by
  rw [node?_erase files place place below, if_pos rfl]

theorem node?_erase_of_ne {other : Place} (below : place ≠ []) (apart : other ≠ place) :
    (files.erase place).node? other = files.node? other := by
  rw [node?_erase files place other below, if_neg apart]

theorem IsFile.ne_nil (file : files.IsFile place) : place ≠ [] := by
  rintro rfl
  exact file.not_directory rfl

theorem isFile_put (below : place ≠ []) (contents : List UInt8) (permissions : Nat) :
    (files.put place (.file contents permissions)).IsFile place :=
  ⟨contents, permissions, node?_put_self below _⟩

theorem covers_put (below : place ≠ []) (contents : List UInt8) (permissions : Nat) :
    Covers files (files.put place (.file contents permissions)) where
  nodes := by
    intro other
    by_cases here : other = place
    · subst here
      exact .inr (isFile_put below contents permissions)
    · exact .inl (node?_put_of_ne below here _)
  workingPlace := rfl
  rights := rfl

/-- A file that differs from what was there before at one place only. -/
theorem gains_of_others {contents : List UInt8} {permissions : Nat}
    (file : after.node? place = some (.file contents permissions))
    (others : ∀ other, other ≠ place → after.node? other = files.node? other)
    (workingPlace : after.workingPlace = files.workingPlace)
    (rights : after.rights = files.rights)
    (vacant : files.node? place = none ∨ files.IsFile place) : Gains files after where
  nodes := by
    intro other
    by_cases here : other = place
    · exact .inr (here ▸ ⟨contents, permissions, file⟩)
    · exact .inl (others other here)
  workingPlace := workingPlace
  rights := rights
  revealing := by
    rintro ⟨other, covered, there, hidden⟩
    by_cases here : other = place
    · subst here
      rcases vacant with gap | earlier
      · exact there gap
      · exact hidden earlier
    · obtain ⟨contents, permissions, same⟩ := covered
      exact hidden ⟨contents, permissions, (others other here).symm.trans same⟩

theorem gains_put (below : place ≠ []) (vacant : files.node? place = none ∨ files.IsFile place)
    (contents : List UInt8) (permissions : Nat) :
    Gains files (files.put place (.file contents permissions)) :=
  gains_of_others (node?_put_self below _) (fun _ apart => node?_put_of_ne below apart _) rfl rfl
    vacant

theorem gains_put_of_absent (absent : files.node? place = none) (contents : List UInt8)
    (permissions : Nat) : Gains files (files.put place (.file contents permissions)) :=
  gains_put (ne_nil_of_absent absent) (.inl absent) contents permissions

theorem gains_erase_put (below : place ≠ []) (contents : List UInt8) (permissions : Nat) :
    Gains (files.erase place) (files.put place (.file contents permissions)) :=
  gains_of_others (node?_put_self below _)
    (fun _ apart => (node?_put_of_ne below apart _).trans (node?_erase_of_ne below apart).symm)
    rfl rfl (.inl (node?_erase_self below))

theorem gains_erase (file : files.IsFile place) : Gains (files.erase place) files := by
  have below := file.ne_nil
  obtain ⟨contents, permissions, there⟩ := file
  exact gains_of_others there (fun _ apart => (node?_erase_of_ne below apart).symm) rfl rfl
    (.inl (node?_erase_self below))

/-- A file put into both. -/
theorem Gains.put (gains : Gains files after) (below : place ≠ []) (contents : List UInt8)
    (permissions : Nat) :
    Gains (files.put place (.file contents permissions))
      (after.put place (.file contents permissions)) where
  nodes := by
    intro other
    by_cases here : other = place
    · subst here
      exact .inr (isFile_put below contents permissions)
    · rw [node?_put_of_ne below here, node?_put_of_ne below here]
      rcases gains.nodes other with same | ⟨contents, permissions, file⟩
      · exact .inl same
      · exact .inr ⟨contents, permissions, (node?_put_of_ne below here _).trans file⟩
  workingPlace := gains.workingPlace
  rights := gains.rights
  revealing := by
    rintro ⟨other, ⟨held, bits, file⟩, there, hidden⟩
    by_cases here : other = place
    · subst here
      exact hidden (isFile_put below contents permissions)
    · rw [node?_put_of_ne below here] at file there
      refine gains.revealing ⟨other, ⟨held, bits, file⟩, there, ?_⟩
      rintro ⟨held, bits, earlier⟩
      exact hidden ⟨held, bits, (node?_put_of_ne below here _).trans earlier⟩

/-- An entry taken away from both. -/
theorem Gains.erase (gains : Gains files after) (below : place ≠ []) :
    Gains (files.erase place) (after.erase place) where
  nodes := by
    intro other
    by_cases here : other = place
    · subst here
      exact .inl ((node?_erase_self below).trans (node?_erase_self below).symm)
    · rw [node?_erase_of_ne below here, node?_erase_of_ne below here]
      rcases gains.nodes other with same | ⟨contents, permissions, file⟩
      · exact .inl same
      · exact .inr ⟨contents, permissions, (node?_erase_of_ne below here).trans file⟩
  workingPlace := gains.workingPlace
  rights := gains.rights
  revealing := by
    rintro ⟨other, ⟨held, bits, file⟩, there, hidden⟩
    by_cases here : other = place
    · subst here
      exact there (node?_erase_self below)
    · rw [node?_erase_of_ne below here] at file there
      refine gains.revealing ⟨other, ⟨held, bits, file⟩, there, ?_⟩
      rintro ⟨held, bits, earlier⟩
      exact hidden ⟨held, bits, (node?_erase_of_ne below here).trans earlier⟩

theorem checked_eq_ok {α : Type} {request : Except Errno α} {reply : α}
    (passed : checked path request = .ok reply) :
    path.text.toList.contains (Char.ofNat 0) = false ∧ request = .ok reply := by
  unfold checked at passed
  split at passed
  · cases passed
  · rename_i free
    split at passed
    · cases passed
      exact ⟨Bool.eq_false_iff.mpr free, rfl⟩
    · cases passed

theorem checked_of_free {α : Type} (free : path.text.toList.contains (Char.ofNat 0) = false)
    {reply : α} : checked path (.ok reply) = .ok reply := by
  unfold checked
  rw [if_neg (Bool.eq_false_iff.mp free)]

theorem moveTarget_eq_ok (target : files.moveTarget path = .ok place) :
    path.text.toList.contains (Char.ofNat 0) = false ∧ path.endsWithSlash = false ∧
      ∃ directory name, files.entryOf path = .ok (directory, name) ∧
        files.node? (directory ++ [name]) ≠ some .directory ∧ place = directory ++ [name] := by
  rw [moveTarget] at target
  split at target
  · cases target
  · rename_i free
    split at target
    · cases target
    · rename_i directory name stands
      split at target
      · cases target
      · rename_i bare
        split at target
        · cases target
        · rename_i other
          cases target
          exact ⟨Bool.eq_false_iff.mpr free, Bool.eq_false_iff.mpr bare, directory, name, stands,
            other, rfl⟩

/-- A move puts the fresh file at the path's own entry. -/
theorem moveOnto_eq_ok {staged : Staged} (moved : files.moveOnto staged path = .ok (place, after)) :
    files.moveTarget path = .ok place ∧
      ∃ node, files.node? staged.place = some node ∧
        after = (files.erase staged.place).put place node := by
  rw [moveOnto] at moved
  split at moved
  · cases moved
  · rename_i target found
    split at moved
    · rename_i node there
      cases moved
      exact ⟨found, node, there, rfl⟩
    · cases moved

theorem moveTarget_of_entryOf {directory : Place} {name : String}
    (free : path.text.toList.contains (Char.ofNat 0) = false) (bare : path.endsWithSlash = false)
    (stands : files.entryOf path = .ok (directory, name))
    (other : files.node? (directory ++ [name]) ≠ some .directory) :
    files.moveTarget path = .ok (directory ++ [name]) := by
  rw [moveTarget, if_neg (Bool.eq_false_iff.mp free), stands]
  simp only [Bool.eq_false_iff.mp bare, Bool.false_eq_true, if_false, other]

/-- What a move takes over is the same with and without files elsewhere. -/
theorem moveTarget_gained {before : FileSystem} {target : Place} (gains : Gains before after)
    (found : after.moveTarget path = .ok target) : before.moveTarget path = .ok target := by
  obtain ⟨free, bare, directory, name, stands, other, rfl⟩ := moveTarget_eq_ok found
  exact moveTarget_of_entryOf free bare ((entryOf_gained gains path _).mp stands)
    fun inTheWay => other (gains.directory_iff.mpr inTheWay)

/-- The place where a path's own entry stands or would stand. -/
def IsOwnPlace (files : FileSystem) (path : Path) (place : Place) : Prop :=
  ∃ directory name, files.entryOf path = .ok (directory, name) ∧ place = directory ++ [name]

theorem isOwnPlace_of_moveTarget (target : files.moveTarget path = .ok place) :
    files.IsOwnPlace path place := by
  obtain ⟨-, -, directory, name, stands, -, rfl⟩ := moveTarget_eq_ok target
  exact ⟨directory, name, stands, rfl⟩

theorem IsOwnPlace.unique {other : Place} (one : files.IsOwnPlace path place)
    (two : files.IsOwnPlace path other) : place = other := by
  obtain ⟨directory, name, stands, rfl⟩ := one
  obtain ⟨_, _, standsToo, rfl⟩ := two
  rw [stands] at standsToo
  cases standsToo
  rfl

theorem IsOwnPlace.ne_nil (own : files.IsOwnPlace path place) : place ≠ [] := by
  obtain ⟨directory, name, -, rfl⟩ := own
  simp

/-- The path does not go through its own entry where that is a link: without the link it has the
same entry. -/
def AvoidsOwnLink (files : FileSystem) (path : Path) : Prop :=
  ∀ directory name target, files.entryOf path = .ok (directory, name) →
    files.node? (directory ++ [name]) = some (.link target) →
    (files.erase (directory ++ [name])).entryOf path = .ok (directory, name)

theorem entryOf_erase_self {directory : Place} {name : String} (avoids : files.AvoidsOwnLink path)
    (stands : files.entryOf path = .ok (directory, name))
    (other : files.node? (directory ++ [name]) ≠ some .directory) :
    (files.erase (directory ++ [name])).entryOf path = .ok (directory, name) := by
  cases there : files.node? (directory ++ [name]) with
  | none => rwa [erase_of_absent there]
  | some node =>
      cases node with
      | directory => exact absurd there other
      | file contents permissions =>
          exact (entryOf_gained (gains_erase ⟨contents, permissions, there⟩) path _).mp stands
      | link target => exact avoids directory name target stands there

/-- Where a file has taken the place of a path's own entry, the path leads to it. -/
theorem find_of_own {directory : Place} {name : String} (avoids : files.AvoidsOwnLink path)
    (bare : path.endsWithSlash = false) (stands : files.entryOf path = .ok (directory, name))
    (other : files.node? (directory ++ [name]) ≠ some .directory) (contents : List UInt8)
    (permissions : Nat) :
    (files.put (directory ++ [name]) (.file contents permissions)).find path =
      .ok (directory ++ [name]) := by
  have below : directory ++ [name] ≠ [] := by simp
  have gains : Gains (files.erase (directory ++ [name])) _ :=
    gains_erase_put below contents permissions
  have remains := (entryOf_gained gains path _).mpr (entryOf_erase_self avoids stands other)
  exact find_of_entryOf remains bare (node?_put_self below _)

/-- A file that can be read is at the place that its path leads to. -/
theorem readFile_eq_ok {contents : List UInt8} (read : files.readFile path = .ok contents) :
    path.text.toList.contains (Char.ofNat 0) = false ∧
      ∃ place permissions, files.find path = .ok place ∧
        files.node? place = some (.file contents permissions) ∧
        files.rights.reads permissions = true := by
  obtain ⟨free, read⟩ := checked_eq_ok read
  refine ⟨free, ?_⟩
  split at read
  · cases read
  · rename_i place found
    split at read
    · rename_i held permissions file
      split at read
      · rename_i readable
        cases read
        exact ⟨place, permissions, found, file, readable⟩
      · cases read
    · cases read
    · cases read

theorem readFile_of_file {contents : List UInt8} {permissions : Nat}
    (free : path.text.toList.contains (Char.ofNat 0) = false) (found : files.find path = .ok place)
    (file : files.node? place = some (.file contents permissions))
    (readable : files.rights.reads permissions = true) : files.readFile path = .ok contents := by
  simp only [readFile, found, file, readable, if_true]
  exact checked_of_free free

/-- The permission bits of a path are those of the file that it leads to. -/
theorem permissions_of_file {contents : List UInt8} {permissions : Nat}
    (free : path.text.toList.contains (Char.ofNat 0) = false) (found : files.find path = .ok place)
    (file : files.node? place = some (.file contents permissions)) :
    files.permissions path = .ok permissions := by
  simp only [FileSystem.permissions, found, file]
  exact checked_of_free free

theorem truncate_eq_ok (opened : files.truncate path = .ok (place, after)) :
    (files.node? place = none ∨ files.IsFile place) ∧ place ≠ [] ∧
      ∃ permissions, after = files.put place (.file [] permissions) := by
  obtain ⟨-, opened⟩ := checked_eq_ok opened
  split at opened
  · cases opened
  · rename_i directory name arrives
    cases opened
    exact ⟨.inl (node?_of_resolve_absent arrives), by simp, _, rfl⟩
  · split at opened
    · rename_i held permissions file
      split at opened
      · cases opened
        have stands : files.IsFile place := ⟨held, permissions, file⟩
        exact ⟨.inr stands, stands.ne_nil, _, rfl⟩
      · cases opened
    · cases opened

/-- One file has some contents, and every other entry is as before. -/
structure Holds (before after : FileSystem) (place : Place) (contents : List UInt8)
    (permissions : Nat) : Prop where
  file : after.node? place = some (.file contents permissions)
  others : ∀ other, other ≠ place → after.node? other = before.node? other
  workingPlace : after.workingPlace = before.workingPlace
  rights : after.rights = before.rights

theorem holds_put (below : place ≠ [])
    (contents : List UInt8) (permissions : Nat) :
    Holds files (files.put place (.file contents permissions)) place contents permissions where
  file := node?_put_self below _
  others := fun _ apart => node?_put_of_ne below apart _
  workingPlace := rfl
  rights := rfl

theorem Holds.trans {first second third : FileSystem}
    {before after : List UInt8} {permissions final : Nat}
    (one : Holds first second place before permissions)
    (two : Holds second third place after final) : Holds first third place after final where
  file := two.file
  others := fun other apart => (two.others other apart).trans (one.others other apart)
  workingPlace := two.workingPlace.trans one.workingPlace
  rights := two.rights.trans one.rights

theorem holds_append {contents : List UInt8} {permissions : Nat}
    (file : files.node? place = some (.file contents permissions))
    (bytes : List UInt8) :
    Holds files (files.append place bytes) place (contents ++ bytes) permissions := by
  rw [append_of_file file]
  exact holds_put (IsFile.ne_nil ⟨contents, permissions, file⟩) _ _

/-- A file opened for writing is empty from then on, and else nothing has changed. -/
theorem holds_truncate (opened : files.truncate path = .ok (place, after)) :
    ∃ permissions, Holds files after place [] permissions := by
  obtain ⟨-, below, permissions, rfl⟩ := truncate_eq_ok opened
  exact ⟨permissions, holds_put below [] permissions⟩

/-- A path opens a new file at a place that it names, or the file at the place where it leads. -/
inductive Opens (files : FileSystem) (path : Path) : Place → Prop
  | making {directory : Place} {name : String}
      (arrives : files.resolve .opening path = .ok (.absent directory name)) :
      Opens files path (directory ++ [name])
  | emptying {place : Place} {contents : List UInt8} {permissions : Nat}
      (arrives : files.resolve .opening path = .ok (.found place))
      (file : files.node? place = some (.file contents permissions))
      (writable : files.rights.writes permissions = true) : Opens files path place

theorem truncate_iff_opens :
    (∃ opened, files.truncate path = .ok (place, opened)) ↔
      path.text.toList.contains (Char.ofNat 0) = false ∧ files.Opens path place := by
  constructor
  · rintro ⟨opened, accepted⟩
    obtain ⟨free, accepted⟩ := checked_eq_ok accepted
    refine ⟨free, ?_⟩
    split at accepted
    · cases accepted
    · rename_i arrives
      cases accepted
      exact .making arrives
    · rename_i arrives
      split at accepted
      · rename_i file
        split at accepted
        · rename_i writable
          cases accepted
          exact .emptying arrives file writable
        · cases accepted
      · cases accepted
  · rintro ⟨free, opens⟩
    cases opens with
    | making arrives =>
        simp only [truncate, arrives, checked_of_free free, Except.ok.injEq, Prod.mk.injEq,
          true_and]
        exact ⟨_, rfl⟩
    | emptying arrives file writable =>
        simp only [truncate, arrives, file, writable, if_true, checked_of_free free,
          Except.ok.injEq, Prod.mk.injEq, true_and]
        exact ⟨_, rfl⟩

/-- A file over something lets no path open a file that did not, unless the path leads to that very
file. -/
theorem truncate_covered {before opened : FileSystem} (covers : Covers before after)
    (accepted : after.truncate path = .ok (place, opened)) :
    (∃ opened, before.truncate path = .ok (place, opened)) ∨
      after.node? place ≠ before.node? place := by
  by_cases changed : after.node? place = before.node? place
  · left
    obtain ⟨free, opens⟩ := truncate_iff_opens.mp ⟨opened, accepted⟩
    refine truncate_iff_opens.mpr ⟨free, ?_⟩
    have arrivals := resolve_covered covers .opening path
    cases opens with
    | making arrives =>
        rw [arrives] at arrivals
        generalize first : before.resolve .opening path = outcome at arrivals
        cases arrivals with
        | same => exact .making first
    | emptying arrives file writable =>
        rw [arrives] at arrivals
        generalize first : before.resolve .opening path = outcome at arrivals
        cases arrivals with
        | same => exact .emptying first (changed ▸ file) (covers.rights ▸ writable)
        | found other => exact absurd changed other
  · exact .inr changed

/-- The file that a path opens is opened again where it stands. -/
theorem truncate_put_of_truncate {opened : FileSystem}
    (accepted : files.truncate path = .ok (place, opened)) :
    ∃ contents permissions again,
      (files.put place (.file contents permissions)).truncate path = .ok (place, again) := by
  obtain ⟨vacant, below, -⟩ := truncate_eq_ok accepted
  obtain ⟨free, opens⟩ := truncate_iff_opens.mp ⟨opened, accepted⟩
  have again {contents : List UInt8} {permissions : Nat}
      (writable : files.rights.writes permissions = true)
      (arrives : (files.put place (.file contents permissions)).resolve .opening path =
        .ok (.found place)) :
      ∃ again,
        (files.put place (.file contents permissions)).truncate path = .ok (place, again) :=
    truncate_iff_opens.mpr ⟨free, .emptying arrives (node?_put_self below _) writable⟩
  have gains := gains_put below vacant
  cases opens with
  | making arrives =>
      have writable : files.rights.writes stagingPermissions = true := by
        cases files.rights with
        | all => rfl
        | ofOwner closed => rfl
      refine ⟨[], stagingPermissions, again writable ?_⟩
      have arrivals := (resolve_covered (gains [] stagingPermissions).toCovers .opening path).gained
        (gains [] stagingPermissions)
      rw [arrives] at arrivals
      generalize later : (files.put _ (.file [] stagingPermissions)).resolve .opening path = outcome
        at arrivals
      cases arrivals with
      | same =>
          have gap := node?_of_resolve_absent later
          rw [node?_put_self below] at gap
          cases gap
      | found changed => rfl
  | @emptying _ contents permissions arrives file writable =>
      refine ⟨contents, permissions, again writable ?_⟩
      have arrivals :=
        (resolve_covered (gains contents permissions).toCovers .opening path).gained
          (gains contents permissions)
      rw [arrives] at arrivals
      generalize later : (files.put place (.file contents permissions)).resolve .opening path =
        outcome at arrivals
      cases arrivals with
      | same => rfl

/-- Directories have come up where there was nothing, and all else is as before. -/
def AddsDirectories (before after : FileSystem) : Prop :=
  ∀ place, after.node? place = before.node? place ∨
    before.node? place = none ∧ after.node? place = some .directory

theorem AddsDirectories.refl (files : FileSystem) : AddsDirectories files files :=
  fun _ => .inl rfl

theorem AddsDirectories.trans {first second third : FileSystem}
    (one : AddsDirectories first second) (two : AddsDirectories second third) :
    AddsDirectories first third := by
  intro place
  rcases two place with same | ⟨absent, made⟩
  · rw [same]
    exact one place
  · rcases one place with same | ⟨-, directory⟩
    · exact .inr ⟨same ▸ absent, made⟩
    · rw [absent] at directory
      cases directory

theorem addsDirectories_makeDirectory (made : files.makeDirectory path = .ok after) :
    AddsDirectories files after := by
  rw [makeDirectory] at made
  split at made
  · cases made
  · split at made
    · cases made
      exact .refl _
    · cases made
  · split at made
    · cases made
    · rename_i directory name stands
      split at made
      · cases made
      · rename_i free
        cases made
        intro place
        have below : directory ++ [name] ≠ [] := by simp
        by_cases here : place = directory ++ [name]
        · rw [here, node?_put_self below]
          exact .inr ⟨Option.not_isSome_iff_eq_none.mp free, rfl⟩
        · exact .inl (node?_put_of_ne below here _)

theorem addsDirectories_foldl {row : Type} {step : FileSystem × Bool → row → FileSystem × Bool}
    (adds : ∀ state one, AddsDirectories state.1 (step state one).1) (rows : List row)
    (state : FileSystem × Bool) : AddsDirectories state.1 (rows.foldl step state).1 := by
  induction rows generalizing state with
  | nil => exact .refl _
  | cons one rest ih => exact (adds state one).trans (ih (step state one))

/-- Whether or not a step has failed, only directories have come up. -/
theorem addsDirectories_makeDirectories (files : FileSystem) (path : Path) :
    AddsDirectories files (files.makeDirectories path).1 := by
  rw [makeDirectories]
  split
  · exact .refl _
  · refine addsDirectories_foldl ?_ _ (files, true)
    intro state names
    split
    · split
      · rename_i made
        exact addsDirectories_makeDirectory made
      · exact .refl _
    · exact .refl _

end BuildStamp.FileSystem
