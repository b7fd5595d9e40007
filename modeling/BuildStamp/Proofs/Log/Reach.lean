import BuildStamp.Proofs.Log.Stream

set_option autoImplicit false

/-!
Which files a log can change. A record touches the one file that the log has open, or opens for it,
and as long as no file is open the files are untouched. So what a program does to files, with
records in between, is what it would have done without them, but for the file of the log.
-/

namespace BuildStamp

/-- The lines of a log go to a file at the place: the open one, or the one that they will open. -/
inductive LogSink.Reaches (files : FileSystem) : LogSink → Place → Prop
  | file (place : Place) : Reaches files (.file place) place
  | unopened {path : Path} {place : Place} {opened : FileSystem}
      (accepted : files.truncate path = .ok (place, opened)) : Reaches files (.unopened path) place

namespace Machine

/-- Where the lines of the log go, if there is one. -/
def sink? (machine : Machine) : Option LogSink :=
  machine.logger.map (·.sink)

/-- The log's file is at the place. -/
def LogsTo (machine : Machine) (place : Place) : Prop :=
  ∃ sink, machine.sink? = some sink ∧ sink.Reaches machine.files place

/-- A log with its file still to be opened would open one that stood at the place. -/
def LogOpensAt (machine : Machine) (place : Place) : Prop :=
  ∃ path contents permissions opened, machine.sink? = some (.unopened path) ∧
    (machine.files.put place (.file contents permissions)).truncate path = .ok (place, opened)

/-- The log's file is at the place, or would be if a file stood there. -/
def LogMeets (machine : Machine) (place : Place) : Prop :=
  machine.sink? = some (.file place) ∨ machine.LogOpensAt place

variable {machine : Machine} {place : Place}

theorem not_logsTo_of_none (silent : machine.logger = none) : ¬ machine.LogsTo place := by
  rintro ⟨sink, there, -⟩
  rw [sink?, silent] at there
  cases there

theorem LogsTo.meets (reaches : machine.LogsTo place) : machine.LogMeets place := by
  obtain ⟨sink, there, reaches⟩ := reaches
  cases reaches with
  | file => exact .inl there
  | unopened accepted =>
      obtain ⟨contents, permissions, again, opens⟩ :=
        FileSystem.truncate_put_of_truncate accepted
      exact .inr ⟨_, contents, permissions, again, there, opens⟩

/-- A log that will open its file elsewhere, with or without a file at the place. -/
theorem not_logMeets_of_unopened {path : Path} {other : Place}
    (there : machine.sink? = some (.unopened path)) (apart : place ≠ other)
    (opens : ∀ contents permissions, ∃ made,
      (machine.files.put place (.file contents permissions)).truncate path = .ok (other, made)) :
    ¬ machine.LogMeets place := by
  rintro (open' | ⟨named, contents, permissions, opened, unopened, accepted⟩)
  · rw [there] at open'
    cases open'
  · rw [there] at unopened
    cases unopened
    obtain ⟨made, elsewhere⟩ := opens contents permissions
    rw [elsewhere] at accepted
    cases accepted
    exact apart rfl

/-- What a record does to the files and to the log: nothing, or it leaves the log's file at its
place, with some contents, and open. -/
inductive LogCourse (machine after : Machine) : Prop
  | idle (files : after.files = machine.files) (sink : after.sink? = machine.sink?)
  | written {place : Place} {contents : List UInt8} {permissions : Nat}
      (reaches : machine.LogsTo place) (below : place ≠ [])
      (vacant : machine.files.node? place = none ∨ machine.files.IsFile place)
      (files : after.files = machine.files.put place (.file contents permissions))
      (sink : after.sink? = some (.file place))

theorem logCourse (machine : Machine) (entry : Record) :
    machine.LogCourse (machine.log entry) := by
  rcases Option.eq_none_or_eq_some machine.logger with silent | ⟨logger, present⟩
  · rw [log_of_none silent]
    exact .idle rfl rfl
  · have there : machine.sink? = some logger.sink := by
      rw [sink?, present, Option.map_some]
    cases kept : logger.keeps entry with
    | false =>
        rw [log_dropped present kept]
        exact .idle rfl rfl
    | true =>
        rw [log_kept present kept]
        cases sink : logger.sink with
        | standardError => exact .idle rfl (there.trans (congrArg some sink)).symm
        | lost => exact .idle rfl (there.trans (congrArg some sink)).symm
        | file place =>
            rw [sink] at there
            by_cases file : machine.files.IsFile place
            · have below := file.ne_nil
              have vacant := Or.inr (a := machine.files.node? place = none) file
              obtain ⟨contents, permissions, stands⟩ := file
              exact .written ⟨_, there, .file place⟩ below vacant
                (FileSystem.append_of_file stands _) rfl
            · refine .idle ?_ there.symm
              simp only [Logger.deliver, FileSystem.append]
              split
              · rename_i contents permissions stands
                exact absurd ⟨contents, permissions, stands⟩ file
              · rfl
        | unopened path =>
            rw [sink] at there
            cases accepted : machine.files.truncate path with
            | error cause =>
                simp only [Logger.deliver, accepted]
                exact .idle rfl there.symm
            | ok result =>
                obtain ⟨place, opened⟩ := result
                obtain ⟨vacant, below, permissions, rfl⟩ := FileSystem.truncate_eq_ok accepted
                simp only [Logger.deliver, accepted]
                exact .written ⟨_, there, .unopened accepted⟩ below vacant
                  (FileSystem.append_put below _ _ _) rfl

/-- Where an entry has gone, the log's file has not been, or it is lost. -/
theorem sink?_unlink {sink : LogSink} (there : (machine.unlink place).sink? = some sink) :
    sink = .lost ∨ machine.sink? = some sink ∧ sink ≠ .file place := by
  rcases Option.eq_none_or_eq_some machine.logger with silent | ⟨logger, present⟩
  · rw [sink?, unlink, silent] at there
    cases there
  · simp only [sink?, unlink, present, Option.map_some, Option.some.injEq,
      Logger.afterUnlinking] at there ⊢
    split at there
    · exact .inl there.symm
    · rename_i other
      exact .inr ⟨there, there ▸ other⟩

/-- Where a file has been moved that the log did not have open, the log goes on as it was, or its
file has been replaced and is lost. -/
theorem sink?_afterMoving {files : FileSystem} {source : Place} {sink : LogSink}
    (elsewhere : machine.sink? ≠ some (.file source))
    (there : sink? { machine with
      files, logger := machine.logger.map (·.afterMoving source place) } = some sink)
    (remains : sink ≠ .lost) : machine.sink? = some sink ∧ sink ≠ .file place := by
  rcases Option.eq_none_or_eq_some machine.logger with silent | ⟨logger, present⟩
  · rw [sink?, silent] at there
    cases there
  · simp only [sink?, present, Option.map_some, Option.some.injEq, ne_eq, Logger.afterMoving,
      Logger.afterUnlinking] at there elsewhere ⊢
    rw [if_neg elsewhere] at there
    split at there
    · exact absurd there.symm remains
    · rename_i other
      exact ⟨there, there ▸ other⟩

/-- A machine whose log has had some sink since the files were those given, but for what it has
written within some places. As long as its file is not open, nothing has been written. -/
structure Logged (within : Place → Prop) (sink : Option LogSink) (base : FileSystem)
    (machine : Machine) : Prop where
  gains : FileSystem.Gains base machine.files
  changes : ∀ place, machine.files.node? place ≠ base.node? place → within place
  opened : ∀ place, machine.sink? = some (.file place) → within place
  unopened : ∀ path, machine.sink? = some (.unopened path) →
    sink = some (.unopened path) ∧ machine.files = base
  opens : ∀ path place made, sink = some (.unopened path) →
    base.truncate path = .ok (place, made) → within place

variable {within wider : Place → Prop} {sink : Option LogSink} {base : FileSystem}
  {contents : List UInt8} {permissions : Nat}

theorem logged_refl (machine : Machine) :
    Logged machine.LogsTo machine.sink? machine.files machine where
  gains := .refl _
  changes := fun _ other => absurd rfl other
  opened := fun place there => ⟨_, there, .file place⟩
  unopened := fun _ there => ⟨there, rfl⟩
  opens := fun _ _ _ there accepted => ⟨_, there, .unopened accepted⟩

namespace Logged

theorem node?_eq (logged : Logged within sink base machine) (outside : ¬ within place) :
    machine.files.node? place = base.node? place :=
  Classical.byContradiction fun changed => outside (logged.changes place changed)

theorem within_of_logsTo (logged : Logged within sink base machine)
    (reaches : machine.LogsTo place) : within place := by
  obtain ⟨current, there, reaches⟩ := reaches
  cases reaches with
  | file => exact logged.opened place there
  | unopened accepted =>
      obtain ⟨earlier, same⟩ := logged.unopened _ there
      rw [same] at accepted
      exact logged.opens _ _ _ earlier accepted

/-- Records change nothing but the file of the log. -/
theorem log (logged : Logged within sink base machine) (entry : Record) :
    Logged within sink base (machine.log entry) := by
  cases logCourse machine entry with
  | idle files same =>
      exact
        { gains := files ▸ logged.gains
          changes := files ▸ logged.changes
          opened := fun place there => logged.opened place (same ▸ there)
          unopened := fun path there => files ▸ logged.unopened path (same ▸ there)
          opens := logged.opens }
  | @written place contents permissions reaches below vacant files open' =>
      refine ⟨?_, ?_, ?_, ?_, logged.opens⟩
      · rw [files]
        exact logged.gains.trans (FileSystem.gains_put below vacant _ _)
      · intro other changed
        by_cases here : other = place
        · exact here ▸ logged.within_of_logsTo reaches
        · rw [files, FileSystem.node?_put_of_ne below here] at changed
          exact logged.changes other changed
      · intro other there
        rw [open'] at there
        cases there
        exact logged.within_of_logsTo reaches
      · intro path there
        rw [open'] at there
        cases there

theorem logAll (logged : Logged within sink base machine) (records : List Record) :
    Logged within sink base (machine.logAll records) := by
  induction records generalizing machine with
  | nil => exact logged
  | cons entry rest ih => exact ih (logged.log entry)

/-- A file is put somewhere. The log may open this one. -/
theorem put (logged : Logged within sink base machine) (below : place ≠ [])
    (more : ∀ other, within other → wider other)
    (opens : ∀ path made, sink = some (.unopened path) →
      (base.put place (.file contents permissions)).truncate path = .ok (place, made) →
      wider place) :
    Logged wider sink (base.put place (.file contents permissions))
      { machine with files := machine.files.put place (.file contents permissions) } where
  gains := logged.gains.put below contents permissions
  changes := by
    intro other changed
    by_cases here : other = place
    · rw [here, FileSystem.node?_put_self below, FileSystem.node?_put_self below] at changed
      exact absurd rfl changed
    · rw [FileSystem.node?_put_of_ne below here, FileSystem.node?_put_of_ne below here] at changed
      exact more other (logged.changes other changed)
  opened := fun other there => more other (logged.opened other there)
  unopened := by
    intro path there
    obtain ⟨earlier, same⟩ := logged.unopened path there
    exact ⟨earlier, congrArg (FileSystem.put · place _) same⟩
  opens := by
    intro path other made there accepted
    rcases FileSystem.truncate_covered (FileSystem.covers_put below _ _) accepted with
      ⟨earlier, before⟩ | changed
    · exact more other (logged.opens path other earlier there before)
    · by_cases here : other = place
      · subst here
        exact opens path made there accepted
      · exact absurd (FileSystem.node?_put_of_ne below here _) changed

theorem isAbsent (logged : Logged within sink base machine)
    (absent : machine.files.node? place = none) : base.node? place = none := by
  rcases logged.gains.nodes place with same | ⟨contents, permissions, file⟩
  · exact same ▸ absent
  · rw [absent] at file
    cases file

/-- The file that was put is taken away again, whatever the log has done with it. -/
theorem unlink {earlier : Machine} (before : Logged within sink base earlier)
    (absent : base.node? place = none)
    (during : Logged wider sink (base.put place (.file contents permissions)) machine)
    (narrow : ∀ other, other ≠ place → wider other → within other) :
    Logged within sink base (machine.unlink place) := by
  have below := FileSystem.ne_nil_of_absent absent
  have gone := FileSystem.erase_put_of_absent absent (.file contents permissions)
  refine ⟨?_, ?_, ?_, ?_, before.opens⟩
  · have gains := during.gains.erase below
    rwa [gone] at gains
  · intro other changed
    by_cases here : other = place
    · rw [here, absent] at changed
      exact absurd (FileSystem.node?_erase_self below) changed
    · apply narrow other here
      apply during.changes other
      rw [FileSystem.node?_put_of_ne below here]
      rwa [Machine.unlink, FileSystem.node?_erase_of_ne below here] at changed
  · intro other there
    rcases sink?_unlink there with lost | ⟨still, apart⟩
    · cases lost
    · refine narrow other ?_ (during.opened other still)
      rintro rfl
      exact apart rfl
  · intro path there
    rcases sink?_unlink there with lost | ⟨still, -⟩
    · cases lost
    · obtain ⟨earlier, same⟩ := during.unopened path still
      refine ⟨earlier, ?_⟩
      rw [Machine.unlink, same]
      exact gone

/-- The file that was put is moved on, where the log meets it in neither place. -/
theorem move {first : Machine} {source target : Place}
    (during : Logged first.LogsTo first.sink? (first.files.put source (.file contents permissions))
      machine)
    (absent : first.files.node? source = none) (apart : ¬ first.LogMeets source)
    (clear : ¬ first.LogOpensAt target) (below : target ≠ []) :
    let after := { machine with
      files := (machine.files.erase source).put target (.file contents permissions)
      logger := machine.logger.map (·.afterMoving source target) }
    Logged first.LogsTo first.sink? (first.files.put target (.file contents permissions)) after ∧
      ¬ after.LogsTo target := by
  intro after
  have inside := FileSystem.ne_nil_of_absent absent
  have gone := FileSystem.erase_put_of_absent absent (.file contents permissions)
  have elsewhere : machine.sink? ≠ some (.file source) := fun there =>
    apart (during.opened source there).meets
  have moved : Logged first.LogsTo first.sink?
      (first.files.put target (.file contents permissions)) after := by
    refine ⟨?_, ?_, ?_, ?_, ?_⟩
    · have gains := (during.gains.erase inside).put below contents permissions
      rwa [gone] at gains
    · intro other changed
      by_cases here : other = target
      · rw [here, FileSystem.node?_put_self below, FileSystem.node?_put_self below] at changed
        exact absurd rfl changed
      · rw [FileSystem.node?_put_of_ne below here, FileSystem.node?_put_of_ne below here] at changed
        by_cases there : other = source
        · rw [there, FileSystem.node?_erase_self inside, absent] at changed
          exact absurd rfl changed
        · rw [FileSystem.node?_erase_of_ne inside there] at changed
          apply during.changes other
          rwa [FileSystem.node?_put_of_ne inside there]
    · intro other there
      obtain ⟨still, -⟩ := sink?_afterMoving elsewhere there nofun
      exact during.opened other still
    · intro path there
      obtain ⟨still, -⟩ := sink?_afterMoving elsewhere there nofun
      obtain ⟨earlier, same⟩ := during.unopened path still
      refine ⟨earlier, ?_⟩
      change (machine.files.erase source).put target _ = _
      rw [same, gone]
    · intro path place made there accepted
      rcases FileSystem.truncate_covered (FileSystem.covers_put below _ _) accepted with
        ⟨earlier, before⟩ | changed
      · exact ⟨_, there, .unopened before⟩
      · by_cases here : place = target
        · subst here
          exact absurd ⟨path, _, _, made, there, accepted⟩ clear
        · exact absurd (FileSystem.node?_put_of_ne below here _) changed
  refine ⟨moved, ?_⟩
  rintro ⟨current, there, reaches⟩
  cases reaches with
  | file => exact (sink?_afterMoving elsewhere there nofun).2 rfl
  | unopened accepted =>
      obtain ⟨earlier, same⟩ := moved.unopened _ there
      rw [same] at accepted
      exact clear ⟨_, _, _, _, earlier, accepted⟩

end Logged

/-- A record leaves the places alone that the log does not write to. -/
theorem node?_log (elsewhere : ¬ machine.LogsTo place) (entry : Record) :
    (machine.log entry).files.node? place = machine.files.node? place :=
  ((logged_refl machine).log entry).node?_eq elsewhere

end Machine

end BuildStamp
