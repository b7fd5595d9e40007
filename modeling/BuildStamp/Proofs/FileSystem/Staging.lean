import BuildStamp.Proofs.FileSystem.Changes

set_option autoImplicit false

/-!
Fresh files. One takes the first name that its directory does not hold, and the files that have come
up elsewhere in between make no difference to that.
-/

namespace BuildStamp.FileSystem

variable {files before after made : FileSystem} {directory : Path} {staged : Staged} {base : Place}
  {name : String}

theorem freshName_absent {tries index : Nat}
    (fresh : files.freshName base tries index = some name) :
    files.node? (base ++ [name]) = none := by
  induction tries generalizing index with
  | zero => cases fresh
  | succ tries ih =>
      rw [freshName] at fresh
      split at fresh
      · rename_i absent
        cases fresh
        exact absent
      · exact ih fresh

/-- What it takes to make a fresh file of a name. -/
structure Stages (files : FileSystem) (directory : Path) (base : Place) (name : String) : Prop where
  free : directory.text.toList.contains (Char.ofNat 0) = false
  short : Utf8.byteLength (files.stagedPath directory (stagingName 0)).text ≤ longestPath
  found : files.find directory = .ok base
  inside : files.IsOpenDirectory base
  fresh : files.freshName base stagingTries 0 = some name

theorem stages_of_stage (fresh : files.stage directory = .ok (staged, made)) :
    ∃ base name, files.Stages directory base name ∧
      staged = ⟨files.stagedPath directory name, base ++ [name]⟩ ∧
      made = files.put (base ++ [name]) (.file [] stagingPermissions) := by
  simp only [stage] at fresh
  split at fresh
  · cases fresh
  · rename_i base lookup
    obtain ⟨free, lookup⟩ := checked_eq_ok lookup
    split at lookup
    · cases lookup
    · rename_i short
      split at fresh
      · rename_i inside
        split at fresh
        · rename_i searchable
          split at fresh
          · rename_i name chosen
            cases fresh
            exact ⟨base, name, ⟨free, Nat.not_lt.mp short, lookup, ⟨inside, searchable⟩, chosen⟩,
              rfl, rfl⟩
          · cases fresh
        · cases fresh
      · cases fresh

theorem Stages.stage (stages : files.Stages directory base name) :
    files.stage directory =
      .ok (⟨files.stagedPath directory name, base ++ [name]⟩,
        files.put (base ++ [name]) (.file [] stagingPermissions)) := by
  simp only [FileSystem.stage, if_neg (Nat.not_lt.mpr stages.short), stages.found,
    checked_of_free stages.free, stages.inside.directory, stages.inside.searchable, if_true,
    stages.fresh]

/-- A fresh file is an empty one at a place that nothing had. -/
theorem stage_eq_ok (fresh : files.stage directory = .ok (staged, made)) :
    files.node? staged.place = none ∧
      made = files.put staged.place (.file [] stagingPermissions) := by
  obtain ⟨base, name, stages, rfl, rfl⟩ := stages_of_stage fresh
  exact ⟨freshName_absent stages.fresh, rfl⟩

/-- With files in the directory that were not there before, an earlier name was the first free one,
or the same. -/
theorem freshName_gained (gains : Gains before after) {tries index : Nat}
    (fresh : after.freshName base tries index = some name) :
    ∃ first, before.freshName base tries index = some first ∧
      (after.node? (base ++ [first]) = none → first = name) := by
  induction tries generalizing index with
  | zero => cases fresh
  | succ tries ih =>
      rw [freshName] at fresh ⊢
      by_cases gap : before.node? (base ++ [stagingName index]) = none
      · refine ⟨stagingName index, if_pos gap, ?_⟩
        intro still
        rw [if_pos still] at fresh
        exact Option.some.inj fresh
      · have taken : after.node? (base ++ [stagingName index]) ≠ none := by
          intro absent
          rcases gains.nodes (base ++ [stagingName index]) with same | ⟨contents, permissions, file⟩
          · exact gap (same ▸ absent)
          · rw [absent] at file
            cases file
        rw [if_neg taken] at fresh
        rw [if_neg gap]
        exact ih fresh

/-- A directory that a path leads to was there before the files. -/
theorem find_directory_gained (gains : Gains before after) {path : Path}
    (found : after.find path = .ok base) (inside : after.node? base = some .directory) :
    before.find path = .ok base := by
  have arrivals := (resolve_covered gains.toCovers .finding path).gained gains
  rw [find] at found ⊢
  generalize before.resolve .finding path = first at arrivals ⊢
  generalize after.resolve .finding path = second at arrivals found
  cases arrivals with
  | same => exact found
  | found changed =>
      cases found
      exact absurd inside (gains.vacant changed).1.not_directory
  | failed first second => cases found

/-- A fresh file is the one that could have been made before, as long as its place is free. -/
theorem stage_gained (gains : Gains before after)
    (fresh : after.stage directory = .ok (staged, made)) :
    ∃ first earlier, before.stage directory = .ok (first, earlier) ∧
      (after.node? first.place = none → first = staged) := by
  obtain ⟨base, name, stages, rfl, -⟩ := stages_of_stage fresh
  obtain ⟨first, chosen, same⟩ := freshName_gained gains stages.fresh
  have paths (name : String) :
      before.stagedPath directory name = after.stagedPath directory name := by
    rw [stagedPath, stagedPath, absolute, absolute, gains.workingPlace]
  have earlier : before.Stages directory base first :=
    { free := stages.free
      short := paths _ ▸ stages.short
      found := find_directory_gained gains stages.found stages.inside.directory
      inside := ⟨gains.directory_iff.mp stages.inside.directory,
        gains.rights ▸ stages.inside.searchable⟩
      fresh := chosen }
  refine ⟨_, _, earlier.stage, ?_⟩
  intro still
  rw [same still, paths]

end BuildStamp.FileSystem
