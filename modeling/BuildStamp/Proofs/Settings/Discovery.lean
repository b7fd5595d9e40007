import BuildStamp.Proofs.Settings.Provenance

set_option autoImplicit false

/-!
What discovering the settings does and gives. It only looks at files, as long as no log has
started, and a level in the settings is the name of a threshold, since no file with another one
passes its check.
-/

namespace BuildStamp.Settings

/-- A level that is set is the name of a threshold. -/
def HasKnownLevel (settings : Settings) : Prop :=
  ∀ level, settings.logging.level = some level → level ∈ Threshold.names

theorem hasKnownLevel_empty : empty.HasKnownLevel := by
  intro level set
  cases set

theorem checkLevel_eq_ok {text level : String} (checked : checkLevel text = .ok level) :
    level ∈ Threshold.names := by
  simp only [checkLevel] at checked
  split at checked
  · rename_i known
    cases checked
    exact List.contains_iff_mem.mp known
  · cases checked

theorem checkOptional_eq_ok {check : String → Except Objection String} {given : Option String}
    {text : String} (checked : checkOptional check given = .ok (some text)) :
    ∃ written, check written = .ok text := by
  rw [checkOptional.eq_def] at checked
  split at checked
  · cases checked
  · split at checked
    · rename_i passed
      cases checked
      exact ⟨_, passed⟩
    · cases checked

theorem hasKnownLevel_of_normalize {settings checked : Settings}
    (passed : settings.normalize = .ok checked) : checked.HasKnownLevel := by
  intro level set
  rw [normalize] at passed
  split at passed
  · cases passed
  · rename_i leveled
    split at passed
    · cases passed
    · split at passed
      · cases passed
      · cases passed
        cases set
        obtain ⟨written, known⟩ := checkOptional_eq_ok leveled
        exact checkLevel_eq_ok known

theorem hasKnownLevel_of_parse {text : String} {origin : Path} {settings : Settings}
    (parsed : parse text origin = .ok settings) : settings.HasKnownLevel := by
  rw [parse] at parsed
  split at parsed
  · cases parsed
  · split at parsed
    · cases parsed
    · split at parsed
      · cases parsed
      · rename_i passed
        cases parsed
        exact hasKnownLevel_of_normalize passed

variable {machine : Machine}

/-- A machine is left as it was, by settings whose level is known. -/
def Found (machine : Machine) (ending : Except SettingsFailure Settings × Machine) : Prop :=
  ending.2 = machine ∧ ∀ settings, ending.1 = .ok settings → settings.HasKnownLevel

theorem found_discover (silent : machine.logger = none) (explicit : Option Path) :
    Found machine ((discover explicit).perform machine) := by
  have inSome {path : Path} {outcome : Except SettingsFailure Settings}
      (sought : inFile machine.files path = outcome) :
      Found machine (outcome, told machine path outcome) := by
    cases outcome with
    | error failure => exact ⟨rfl, nofun⟩
    | ok settings =>
        refine ⟨Machine.log_of_none silent _, ?_⟩
        rintro taken ⟨⟩
        obtain ⟨-, text, -, -, -, parsed⟩ := inFile_eq_ok sought
        exact hasKnownLevel_of_parse parsed
  have course := discoverCourse machine explicit
  generalize (discover explicit).perform machine = ending at course ⊢
  cases course with
  | named sought => exact inSome sought
  | own own present sought => exact inSome sought
  | nowhere absent =>
      refine ⟨rfl, ?_⟩
      rintro taken ⟨⟩
      exact hasKnownLevel_empty

end BuildStamp.Settings
