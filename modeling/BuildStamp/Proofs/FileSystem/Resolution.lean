import BuildStamp.FileSystem.Operation
import BuildStamp.Proofs.Text.Lines

set_option autoImplicit false

/-!
Where paths lead in two file systems of which the second has files at some more places. A walk goes
through directories and links only, so a file that stands over what was there stops a walk or ends
it, and lets none go on. Where nothing but gaps and files have been covered, no walk even notices,
but that one which ended at a missing name may end at a file.
-/

namespace BuildStamp.FileSystem

/-- A file stands at the place. -/
def IsFile (files : FileSystem) (place : Place) : Prop :=
  ∃ contents permissions, files.node? place = some (.file contents permissions)

/-- Files stand at some places, whatever was there, and all else is as before. -/
structure Covers (before after : FileSystem) : Prop where
  nodes : ∀ place, after.node? place = before.node? place ∨ after.IsFile place
  workingPlace : after.workingPlace = before.workingPlace
  rights : after.rights = before.rights

/-- One of the files stands over a directory or a link. -/
def Hides (before after : FileSystem) : Prop :=
  ∃ place, after.IsFile place ∧ before.node? place ≠ none ∧ ¬ before.IsFile place

/-- Files stand where there was nothing or a file, and all else is as before. -/
structure Gains (before after : FileSystem) : Prop extends Covers before after where
  revealing : ¬ Hides before after

/-- What becomes of a walk up to the first link. -/
inductive StopCovered (before after : FileSystem) : Stop → Stop → Prop
  | same (stop : Stop) : StopCovered before after stop stop
  | found {earlier : Stop} {directory : Place} {name : String}
      (changed : after.node? (directory ++ [name]) ≠ before.node? (directory ++ [name]))
      (gap : earlier = .absent directory name ∨ Hides before after) :
      StopCovered before after earlier (.found (directory ++ [name]))
  | failed {earlier : Stop} {errno : Errno}
      (stuck : (∃ other, earlier = .failed other) ∨ Hides before after) :
      StopCovered before after earlier (.failed errno)

/-- What becomes of a whole walk. -/
inductive ArrivalCovered (before after : FileSystem) :
    Except Errno Arrival → Except Errno Arrival → Prop
  | same (outcome : Except Errno Arrival) : ArrivalCovered before after outcome outcome
  | found {earlier : Except Errno Arrival} {directory : Place} {name : String}
      (changed : after.node? (directory ++ [name]) ≠ before.node? (directory ++ [name]))
      (gap : earlier = .ok (.absent directory name) ∨ Hides before after) :
      ArrivalCovered before after earlier (.ok (.found (directory ++ [name])))
  | failed {earlier : Except Errno Arrival} {errno : Errno}
      (stuck : (∃ other, earlier = .error other) ∨ Hides before after) :
      ArrivalCovered before after earlier (.error errno)

section

variable {before after : FileSystem} {place : Place}

theorem IsFile.not_directory {files : FileSystem} (file : files.IsFile place) :
    files.node? place ≠ some .directory := by
  obtain ⟨contents, permissions, there⟩ := file
  rw [there]
  simp

/-- Nothing lies below a file or below a missing entry. -/
theorem advance_of_not_directory {files : FileSystem} {start : Place} {name : String}
    {rest : List String} (other : files.node? start ≠ some .directory) :
    files.advance start (name :: rest) = .failed .notDirectory := by
  rw [advance]
  split
  · rename_i directory
    exact absurd directory other
  · rfl

theorem hides_of_other {node : Node} (file : after.IsFile place)
    (there : before.node? place = some node)
    (other : ∀ contents permissions, node ≠ .file contents permissions) : Hides before after := by
  refine ⟨place, file, by simp [there], ?_⟩
  rintro ⟨contents, permissions, earlier⟩
  rw [there] at earlier
  exact other contents permissions (Option.some.inj earlier)

/-- A walk comes to a file that is new. It ends there, or cannot go on. -/
theorem stopCovered_of_changed {start : Place} {name : String}
    (file : after.IsFile (start ++ [name]))
    (changed : after.node? (start ++ [name]) ≠ before.node? (start ++ [name]))
    (rest : List String) :
    StopCovered before after
      (match before.node? (start ++ [name]) with
        | none => if rest = [] then .absent start name else .failed .noEntry
        | some (.link target) => .follow start target rest
        | some _ => before.advance (start ++ [name]) rest)
      (after.advance (start ++ [name]) rest) := by
  have blocked := file.not_directory
  cases there : before.node? (start ++ [name]) with
  | none =>
      cases rest with
      | nil => exact .found changed (.inl rfl)
      | cons next more =>
          rw [advance_of_not_directory blocked]
          exact .failed (.inl ⟨_, rfl⟩)
  | some node =>
      cases node with
      | file contents permissions =>
          cases rest with
          | nil => exact .same _
          | cons next more =>
              have blockedToo : before.node? (start ++ [name]) ≠ some .directory := by
                rw [there]
                simp
              simp only [advance_of_not_directory blocked, advance_of_not_directory blockedToo]
              exact .same _
      | directory =>
          have hides := hides_of_other file there (by simp)
          cases rest with
          | nil => exact .same _
          | cons next more =>
              rw [advance_of_not_directory blocked]
              exact .failed (.inr hides)
      | link target =>
          have hides := hides_of_other file there (by simp)
          cases rest with
          | nil => exact .found changed (.inr hides)
          | cons next more =>
              rw [advance_of_not_directory blocked]
              exact .failed (.inr hides)

theorem advance_covered (covers : Covers before after) (start : Place) (names : List String) :
    StopCovered before after (before.advance start names) (after.advance start names) := by
  induction names generalizing start with
  | nil => exact .same _
  | cons name rest ih =>
      by_cases stays : after.node? start = before.node? start
      · by_cases directory : before.node? start = some .directory
        · simp only [advance, stays, directory, covers.rights]
          split
          · exact ih start
          · split
            · exact .same _
            · split
              · exact .same _
              · split
                · exact ih start
                · split
                  · exact ih start.dropLast
                  · split
                    · exact .same _
                    · by_cases changed :
                        after.node? (start ++ [name]) = before.node? (start ++ [name])
                      · rw [changed]
                        split
                        · exact .same _
                        · exact .same _
                        · exact ih (start ++ [name])
                      · have file := (covers.nodes (start ++ [name])).resolve_left changed
                        have meets := stopCovered_of_changed file changed rest
                        obtain ⟨contents, permissions, there⟩ := file
                        rw [there]
                        generalize before.node? (start ++ [name]) = earlier at meets ⊢
                        cases earlier with
                        | none => exact meets
                        | some node =>
                            cases node with
                            | directory => exact meets
                            | file contents permissions => exact meets
                            | link target => exact meets
        · rw [advance_of_not_directory directory, advance_of_not_directory (stays ▸ directory)]
          exact .same _
      · have file := (covers.nodes start).resolve_left stays
        rw [advance_of_not_directory file.not_directory]
        by_cases directory : before.node? start = some .directory
        · exact .failed (.inr (hides_of_other file directory (by simp)))
        · rw [advance_of_not_directory directory]
          exact .same _

theorem walk_covered (covers : Covers before after) (purpose : Purpose) (links : Nat)
    (start : Place) (names : List String) :
    ArrivalCovered before after (before.walk purpose links start names)
      (after.walk purpose links start names) := by
  induction links generalizing start names with
  | zero =>
      have stops := advance_covered covers start names
      rw [walk, walk]
      generalize before.advance start names = first at stops ⊢
      generalize after.advance start names = second at stops ⊢
      cases stops with
      | same => exact .same _
      | found changed gap =>
          refine .found changed (gap.imp_left ?_)
          rintro rfl
          rfl
      | failed stuck =>
          refine .failed (stuck.imp_left ?_)
          rintro ⟨other, rfl⟩
          exact ⟨other, rfl⟩
  | succ links ih =>
      have stops := advance_covered covers start names
      rw [walk, walk]
      generalize before.advance start names = first at stops ⊢
      generalize after.advance start names = second at stops ⊢
      cases stops with
      | same =>
          cases first with
          | follow directory target rest => exact ih _ _
          | found place => exact .same _
          | absent directory name => exact .same _
          | failed errno => exact .same _
      | found changed gap =>
          refine .found changed (gap.imp_left ?_)
          rintro rfl
          rfl
      | failed stuck =>
          refine .failed (stuck.imp_left ?_)
          rintro ⟨other, rfl⟩
          exact ⟨other, rfl⟩

theorem resolve_covered (covers : Covers before after) (purpose : Purpose) (path : Path) :
    ArrivalCovered before after (before.resolve purpose path) (after.resolve purpose path) := by
  have begins : after.start path = before.start path := by
    rw [start, start, covers.workingPlace]
  rw [resolve, resolve, begins]
  split
  · exact .same _
  · split
    · exact .same _
    · exact walk_covered covers purpose _ _ _

theorem Gains.refl (files : FileSystem) : Gains files files where
  nodes := fun _ => .inl rfl
  workingPlace := rfl
  rights := rfl
  revealing := by
    rintro ⟨place, file, -, other⟩
    exact other file

/-- What has come up or been replaced was nothing or a file. -/
theorem Gains.vacant (gains : Gains before after)
    (changed : after.node? place ≠ before.node? place) :
    after.IsFile place ∧ (before.node? place = none ∨ before.IsFile place) := by
  have file := (gains.nodes place).resolve_left changed
  refine ⟨file, ?_⟩
  by_cases gap : before.node? place = none
  · exact .inl gap
  · refine .inr (Classical.byContradiction fun other => ?_)
    exact gains.revealing ⟨place, file, gap, other⟩

theorem Gains.trans {last : FileSystem} (one : Gains before after) (two : Gains after last) :
    Gains before last where
  nodes := by
    intro place
    rcases two.nodes place with same | file
    · rcases one.nodes place with earlier | ⟨contents, permissions, file⟩
      · exact .inl (same.trans earlier)
      · exact .inr ⟨contents, permissions, same.trans file⟩
    · exact .inr file
  workingPlace := two.workingPlace.trans one.workingPlace
  rights := two.rights.trans one.rights
  revealing := by
    rintro ⟨place, file, there, other⟩
    by_cases same : after.node? place = before.node? place
    · refine two.revealing ⟨place, file, same ▸ there, ?_⟩
      rintro ⟨contents, permissions, middle⟩
      exact other ⟨contents, permissions, same ▸ middle⟩
    · rcases (one.vacant same).2 with gap | earlier
      · exact there gap
      · exact other earlier

/-- What becomes of a walk where nothing but gaps and files have been covered. -/
inductive ArrivalGained (before after : FileSystem) :
    Except Errno Arrival → Except Errno Arrival → Prop
  | same (outcome : Except Errno Arrival) : ArrivalGained before after outcome outcome
  | found {directory : Place} {name : String}
      (changed : after.node? (directory ++ [name]) ≠ before.node? (directory ++ [name])) :
      ArrivalGained before after (.ok (.absent directory name)) (.ok (.found (directory ++ [name])))
  | failed (first second : Errno) : ArrivalGained before after (.error first) (.error second)

theorem ArrivalCovered.gained {first second : Except Errno Arrival} (gains : Gains before after)
    (arrivals : ArrivalCovered before after first second) :
    ArrivalGained before after first second := by
  cases arrivals with
  | same => exact .same _
  | found changed gap =>
      cases gap.resolve_right gains.revealing
      exact .found changed
  | failed stuck =>
      obtain ⟨other, rfl⟩ := stuck.resolve_right gains.revealing
      exact .failed other _

/-- Directories are neither gained nor lost. -/
theorem Gains.directory_iff (gains : Gains before after) :
    after.node? place = some .directory ↔ before.node? place = some .directory := by
  by_cases changed : after.node? place = before.node? place
  · rw [changed]
  · obtain ⟨file, gap⟩ := gains.vacant changed
    refine iff_of_false file.not_directory ?_
    rcases gap with none | earlier
    · rw [none]
      simp
    · exact earlier.not_directory

end

section

variable {files : FileSystem}

/-- A component that stands for an entry of that name. -/
structure IsName (name : String) : Prop where
  notMark : name ≠ Path.directoryMark
  nonempty : name ≠ slashedName
  notDot : name ≠ "."
  notDots : name ≠ ".."

/-- What one name does to a walk, whatever names are behind it. -/
inductive Hop (files : FileSystem) (place : Place) (name : String) : (List String → Stop) → Prop
  | refused (errno : Errno) : Hop files place name fun _ => .failed errno
  | stay (inside : files.node? place = some .directory)
      (idle : name = Path.directoryMark ∨ name = ".") : Hop files place name (files.advance place)
  | ascend (inside : files.node? place = some .directory) (dots : name = "..") :
      Hop files place name (files.advance place.dropLast)
  | gap (absent : files.node? (place ++ [name]) = none) :
      Hop files place name fun rest => if rest = [] then .absent place name else .failed .noEntry
  | enter {node : Node} (inside : files.node? place = some .directory) (named : IsName name)
      (there : files.node? (place ++ [name]) = some node)
      (unlinked : ∀ target, node ≠ .link target) :
      Hop files place name (files.advance (place ++ [name]))
  | follow {target : Path} (inside : files.node? place = some .directory) (named : IsName name)
      (there : files.node? (place ++ [name]) = some (.link target)) :
      Hop files place name (.follow place target)

theorem hop (files : FileSystem) (place : Place) (name : String) :
    ∃ next, files.Hop place name next ∧ ∀ rest, files.advance place (name :: rest) = next rest := by
  by_cases inside : files.node? place = some .directory
  · have step := advance.eq_2 files place name
    simp only [inside] at step
    by_cases mark : name = Path.directoryMark
    · exact ⟨_, .stay inside (.inl mark), fun rest => (step rest).trans (if_pos mark)⟩
    · simp only [if_neg mark] at step
      by_cases closed : files.rights.searches place = false
      · exact ⟨_, .refused _, fun rest => (step rest).trans (if_pos closed)⟩
      · simp only [if_neg closed] at step
        by_cases slashed : name = slashedName
        · exact ⟨_, .refused _, fun rest => (step rest).trans (if_pos slashed)⟩
        · simp only [if_neg slashed] at step
          by_cases dot : name = "."
          · exact ⟨_, .stay inside (.inr dot), fun rest => (step rest).trans (if_pos dot)⟩
          · simp only [if_neg dot] at step
            by_cases dots : name = ".."
            · exact ⟨_, .ascend inside dots, fun rest => (step rest).trans (if_pos dots)⟩
            · simp only [if_neg dots] at step
              by_cases long : longestName < Utf8.byteLength name
              · exact ⟨_, .refused _, fun rest => (step rest).trans (if_pos long)⟩
              · simp only [if_neg long] at step
                have named : IsName name := ⟨mark, slashed, dot, dots⟩
                cases there : files.node? (place ++ [name]) with
                | none => exact ⟨_, .gap there, fun rest => by rw [step, there]⟩
                | some node =>
                    cases node with
                    | directory =>
                        exact ⟨_, .enter inside named there (by simp), fun rest => by rw [step, there]⟩
                    | file contents permissions =>
                        exact ⟨_, .enter inside named there (by simp), fun rest => by rw [step, there]⟩
                    | link target =>
                        exact ⟨_, .follow inside named there, fun rest => by rw [step, there]⟩
  · exact ⟨_, .refused _, fun rest => advance_of_not_directory inside⟩

/-- A walk of some names and further ones behind them. -/
theorem advance_append (start : Place) (names : List String) {further : List String}
    (some : further ≠ []) :
    files.advance start (names ++ further) =
      match files.advance start names with
      | .found place => files.advance place further
      | .absent _ _ => .failed .noEntry
      | .follow directory target rest => .follow directory target (rest ++ further)
      | .failed errno => .failed errno := by
  induction names generalizing start with
  | nil => rfl
  | cons name rest ih =>
      obtain ⟨next, hop, goes⟩ := files.hop start name
      rw [List.cons_append, goes, goes]
      cases hop with
      | refused errno => rfl
      | stay inside idle => exact ih start
      | ascend inside dots => exact ih start.dropLast
      | gap absent =>
          by_cases last : rest = []
          · simp [last, some]
          · simp [last]
      | enter inside named there unlinked => exact ih (start ++ [name])
      | follow inside named there => rfl

/-- A walk ends at a missing name only where there is nothing of that name. -/
theorem node?_of_advance_absent {start directory : Place} {names : List String} {name : String}
    (arrives : files.advance start names = .absent directory name) :
    files.node? (directory ++ [name]) = none := by
  induction names generalizing start with
  | nil => cases arrives
  | cons first rest ih =>
      obtain ⟨next, hop, goes⟩ := files.hop start first
      rw [goes] at arrives
      cases hop with
      | refused errno => cases arrives
      | stay inside idle => exact ih arrives
      | ascend inside dots => exact ih arrives
      | gap absent =>
          by_cases last : rest = []
          · cases (if_pos last).symm.trans arrives
            exact absent
          · cases (if_neg last).symm.trans arrives
      | enter inside named there unlinked => exact ih arrives
      | follow inside named there => cases arrives

theorem node?_of_walk_absent {purpose : Purpose} {links : Nat} {start directory : Place}
    {names : List String} {name : String}
    (arrives : files.walk purpose links start names = .ok (.absent directory name)) :
    files.node? (directory ++ [name]) = none := by
  induction links generalizing start names with
  | zero =>
      rw [walk] at arrives
      split at arrives
      · cases arrives
      · rename_i stops
        cases arrives
        exact node?_of_advance_absent stops
      · cases arrives
      · cases arrives
  | succ links ih =>
      rw [walk] at arrives
      split at arrives
      · cases arrives
      · rename_i stops
        cases arrives
        exact node?_of_advance_absent stops
      · cases arrives
      · exact ih arrives

theorem node?_of_resolve_absent {purpose : Purpose} {path : Path} {directory : Place}
    {name : String} (arrives : files.resolve purpose path = .ok (.absent directory name)) :
    files.node? (directory ++ [name]) = none := by
  rw [resolve] at arrives
  split at arrives
  · cases arrives
  · split at arrives
    · cases arrives
    · exact node?_of_walk_absent arrives

/-- A name that an entry can have. -/
structure IsEntryName (name : String) : Prop extends IsName name where
  short : Utf8.byteLength name ≤ longestName

/-- Names may be looked up at the place. -/
structure IsOpenDirectory (files : FileSystem) (place : Place) : Prop where
  directory : files.node? place = some .directory
  searchable : files.rights.searches place = true

theorem advance_dot_eq_found {place arrival : Place}
    (arrives : files.advance place ["."] = .found arrival) :
    arrival = place ∧ files.IsOpenDirectory place := by
  by_cases directory : files.node? place = some .directory
  · simp only [advance, directory, Path.directoryMark, slashedName] at arrives
    split at arrives
    · rename_i wrong
      exact absurd wrong (by decide)
    · split at arrives
      · cases arrives
      · rename_i searchable
        simp only [String.reduceEq, if_false, if_true, Stop.found.injEq] at arrives
        exact ⟨arrives.symm, directory, by simpa using searchable⟩
  · rw [advance_of_not_directory directory] at arrives
    cases arrives

theorem advance_dot_cases (place : Place) :
    files.advance place ["."] = .found place ∨
      ∃ errno, files.advance place ["."] = .failed errno := by
  by_cases directory : files.node? place = some .directory
  · by_cases searchable : files.rights.searches place = true
    · simp [advance, directory, searchable, Path.directoryMark, slashedName]
    · simp [advance, directory, searchable, Path.directoryMark]
  · exact .inr ⟨_, advance_of_not_directory directory⟩

theorem advance_file {place : Place} {name : String} (entry : IsEntryName name)
    (inside : files.IsOpenDirectory place) {contents : List UInt8} {permissions : Nat}
    (file : files.node? (place ++ [name]) = some (.file contents permissions)) :
    files.advance place [name] = .found (place ++ [name]) := by
  have short : ¬ longestName < Utf8.byteLength name := Nat.not_lt.mpr entry.short
  simp [advance, inside.directory, inside.searchable, entry.notMark, entry.nonempty, entry.notDot,
    entry.notDots, short, file]

theorem steps_finding_append (target : Path) (rest : List String) (name : String) :
    Purpose.finding.steps target (rest ++ [name]) =
      Purpose.finding.steps target rest ++ [name] := by
  simp [Purpose.steps]

theorem walk_snoc (links : Nat) (start : Place) (names : List String) (last : String) :
    files.walk .finding links start (names ++ [last]) =
      match files.advance start names with
      | .found place => files.walk .finding links place [last]
      | .absent _ _ => .error .noEntry
      | .failed errno => .error errno
      | .follow directory target rest =>
        match links with
        | 0 => .error .tooManyLinks
        | links + 1 =>
          files.walk .finding links (if target.isAbsolute then [] else directory)
            (Purpose.finding.steps target rest ++ [last]) := by
  rw [walk, advance_append _ _ (List.cons_ne_nil _ _)]
  cases files.advance start names with
  | found place => exact (walk.eq_1 files .finding links place [last]).symm
  | absent directory name => rfl
  | failed errno => rfl
  | follow directory target rest =>
      cases links with
      | zero => rfl
      | succ links =>
          exact congrArg (files.walk .finding links _) (steps_finding_append target rest last)

theorem walk_dot_eq_ok {links : Nat} {place : Place} {arrival : Arrival}
    (arrives : files.walk .finding links place ["."] = .ok arrival) :
    arrival = .found place ∧ files.IsOpenDirectory place := by
  rw [walk] at arrives
  rcases @advance_dot_cases files place with here | ⟨errno, failed⟩
  · rw [here] at arrives
    cases arrives
    exact ⟨rfl, (advance_dot_eq_found here).2⟩
  · rw [failed] at arrives
    cases arrives

/-- A walk that has to end in a directory finds one or fails. -/
theorem walk_to_directory {links : Nat} {start : Place} {names : List String} {arrival : Arrival}
    (arrives : files.walk .finding links start (names ++ ["."]) = .ok arrival) :
    ∃ directory, arrival = .found directory ∧ files.IsOpenDirectory directory := by
  induction links generalizing start names with
  | zero =>
      rw [walk_snoc] at arrives
      split at arrives
      · exact ⟨_, walk_dot_eq_ok arrives⟩
      all_goals cases arrives
  | succ links ih =>
      rw [walk_snoc] at arrives
      split at arrives
      · exact ⟨_, walk_dot_eq_ok arrives⟩
      · cases arrives
      · cases arrives
      · exact ih arrives

theorem walk_name {links : Nat} {place directory : Place} {name : String}
    (arrives : files.walk .finding links place ["."] = .ok (.found directory))
    (entry : IsEntryName name) {contents : List UInt8} {permissions : Nat}
    (file : files.node? (directory ++ [name]) = some (.file contents permissions)) :
    files.walk .finding links place [name] = .ok (.found (directory ++ [name])) := by
  obtain ⟨same, inside⟩ := walk_dot_eq_ok arrives
  cases same
  rw [walk, advance_file entry inside file]

/-- A walk that leads to a directory leads on to a file in it. -/
theorem walk_to_file {links : Nat} {start directory : Place} {names : List String} {name : String}
    (arrives : files.walk .finding links start (names ++ ["."]) = .ok (.found directory))
    (entry : IsEntryName name) {contents : List UInt8} {permissions : Nat}
    (file : files.node? (directory ++ [name]) = some (.file contents permissions)) :
    files.walk .finding links start (names ++ [name]) = .ok (.found (directory ++ [name])) := by
  induction links generalizing start names with
  | zero =>
      rw [walk_snoc] at arrives ⊢
      split at arrives
      · exact walk_name arrives entry file
      all_goals cases arrives
  | succ links ih =>
      rw [walk_snoc] at arrives ⊢
      split at arrives
      · exact walk_name arrives entry file
      · cases arrives
      · cases arrives
      · exact ih arrives

/-- What it takes for a path to have an entry of its own. -/
structure NamesEntry (files : FileSystem) (path : Path) (directory : Place) (name : String) :
    Prop where
  nonempty : path.text ≠ ""
  short : Utf8.byteLength path.text ≤ longestPath
  last : path.names.getLast? = some name
  entry : IsEntryName name
  arrives : files.walk .finding linkLimit (files.start path) (path.names.dropLast ++ ["."]) =
    .ok (.found directory)

theorem nonempty_of_mem_names {path : Path} {name : String} (member : name ∈ path.names) :
    name ≠ "" := by
  have kept := (List.mem_filter.mp member).2
  exact of_decide_eq_true kept

theorem slash_not_mem_of_mem_names {path : Path} {name : String} (member : name ∈ path.names) :
    '/' ∉ name.toList := by
  obtain ⟨part, among, rfl⟩ := List.mem_map.mp (List.mem_filter.mp member).1
  rw [String.toList_ofList]
  exact Parts.not_mem_of_mem_split among

theorem ne_directoryMark_of_mem_names {path : Path} {name : String} (member : name ∈ path.names) :
    name ≠ Path.directoryMark := by
  rintro rfl
  exact slash_not_mem_of_mem_names member (by decide)

theorem namesEntry_of_entryOf {path : Path} {directory : Place} {name : String}
    (stands : files.entryOf path = .ok (directory, name)) :
    NamesEntry files path directory name := by
  rw [entryOf] at stands
  split at stands
  · cases stands
  · rename_i nonempty
    split at stands
    · cases stands
    · rename_i short
      split at stands
      · cases stands
      · rename_i found last
        split at stands
        · cases stands
        · cases stands
        · rename_i inside arrives
          split at stands
          · cases stands
          · rename_i ordinary
            split at stands
            · cases stands
            · rename_i fits
              cases stands
              have member := List.mem_of_getLast? last
              exact ⟨nonempty, Nat.not_lt.mp short, last,
                ⟨⟨ne_directoryMark_of_mem_names member, nonempty_of_mem_names member,
                  fun dot => ordinary (Or.inl dot), fun dots => ordinary (Or.inr dots)⟩,
                  Nat.not_lt.mp fits⟩, arrives⟩

/-- A path without a slash at its end leads to its own entry where that is a file. -/
theorem find_of_entryOf {path : Path} {directory : Place} {name : String}
    (stands : files.entryOf path = .ok (directory, name)) (bare : path.endsWithSlash = false)
    {contents : List UInt8} {permissions : Nat}
    (file : files.node? (directory ++ [name]) = some (.file contents permissions)) :
    files.find path = .ok (directory ++ [name]) := by
  have names := namesEntry_of_entryOf stands
  have leads := walk_to_file names.arrives names.entry file
  have split : path.names.dropLast ++ [name] = path.names := by
    obtain ⟨front, same⟩ := List.getLast?_eq_some_iff.mp names.last
    rw [same, List.dropLast_concat]
  have steps : Purpose.finding.steps path [] = path.names := by
    simp [Purpose.steps, Path.steps, bare]
  rw [split] at leads
  rw [find, resolve, if_neg names.nonempty, if_neg (Nat.not_lt.mpr names.short), steps, leads]

end

section

variable {before after : FileSystem}

theorem walk_to_directory_gained (gains : Gains before after) (links : Nat) (start : Place)
    (names : List String) :
    after.walk .finding links start (names ++ ["."]) =
        before.walk .finding links start (names ++ ["."]) ∨
      ∃ first second, before.walk .finding links start (names ++ ["."]) = .error first ∧
        after.walk .finding links start (names ++ ["."]) = .error second := by
  have arrivals := (walk_covered gains.toCovers .finding links start (names ++ ["."])).gained gains
  generalize outcome : before.walk .finding links start (names ++ ["."]) = first at arrivals ⊢
  generalize after.walk .finding links start (names ++ ["."]) = second at arrivals ⊢
  cases arrivals with
  | same => exact Or.inl rfl
  | found changed =>
      obtain ⟨directory, same, -⟩ := walk_to_directory outcome
      cases same
  | failed first second => exact Or.inr ⟨first, second, rfl, rfl⟩

/-- A path has the same entry with the files as without them. -/
theorem entryOf_gained (gains : Gains before after) (path : Path) (entry : Place × String) :
    after.entryOf path = .ok entry ↔ before.entryOf path = .ok entry := by
  have begins : after.start path = before.start path := by
    rw [start, start, gains.workingPlace]
  rw [entryOf, entryOf, begins]
  split
  · rfl
  · split
    · rfl
    · split
      · rfl
      · rcases walk_to_directory_gained gains linkLimit (before.start path)
          path.names.dropLast with same | ⟨first, second, failed, failedToo⟩
        · rw [same]
        · rw [failed, failedToo]
          simp

/-- A path that leads to an entry leads to the same one with the files. -/
theorem find_gained (gains : Gains before after) {path : Path} {place : Place}
    (found : before.find path = .ok place) : after.find path = .ok place := by
  have arrivals := (resolve_covered gains.toCovers .finding path).gained gains
  rw [find] at found ⊢
  generalize before.resolve .finding path = first at arrivals found
  generalize after.resolve .finding path = second at arrivals ⊢
  cases arrivals with
  | same => exact found
  | found changed => cases found
  | failed first second => cases found

end

end BuildStamp.FileSystem
