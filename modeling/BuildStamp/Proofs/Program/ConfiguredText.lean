import BuildStamp.Proofs.Program.InjectCommand
import BuildStamp.Proofs.Settings.Parsing

set_option autoImplicit false

/-!
Which slot texts of the settings are of any use. The check of the settings lets through every text
that is not empty and holds no NUL, while an injection takes only those that leave room for a NUL in
a slot of the usual size. A text of at most 127 bytes is found in an artifact that is made for it;
with a longer one every injection fails that leaves the text to the settings.
-/

namespace BuildStamp

namespace Slot

variable {text value : String} {capacity : Nat}

/-- In an image of its own a text is found at the beginning. -/
theorem find_image (fits : Fits text capacity) :
    find (image text capacity) text capacity = .ok 0 := by
  have room := fits.byteLength_lt
  have length := image_length text capacity
  rw [find_eq_ok_iff]
  refine ⟨fits, ?_⟩
  intro other
  constructor
  · intro occurs
    have within := occurs.fits
    omega
  · rintro rfl
    exact ⟨by omega, List.prefix_refl _⟩

theorem inject_image (fits : Fits text capacity) (valueFits : Fits value capacity) :
    ∃ contents, inject (image text capacity) ⟨text, value, capacity⟩ = .ok (0, contents) := by
  rw [inject, (checkText_eq_ok_iff .value value capacity).mpr valueFits, find_image fits]
  exact ⟨_, rfl⟩

theorem fits_of_inject {artifact contents : List UInt8} {injection : Injection} {offset : Nat}
    (injected : inject artifact injection = .ok (offset, contents)) :
    Fits injection.expected injection.capacity := by
  have ended : injectInPlace artifact injection = (.ok offset, contents) := by
    rw [injectInPlace, injected]
  exact ((injectInPlace_eq_ok_iff _ _ _ _).mp ended).1.expected

end Slot

namespace Artifact

/-- A machine with an artifact and nothing else. -/
def withArtifact (artifact : List UInt8) : Machine :=
  .fresh ⟨[(["app"], .file artifact 0o644)], []⟩ ⟨[]⟩ ⟨1970, 1, 1, 0, 0, 0, 0⟩

theorem stage_withArtifact (artifact : List UInt8) :
    (withArtifact artifact).files.stage ⟨"."⟩ =
      .ok (⟨⟨"/./.tmp000000"⟩, [".tmp000000"]⟩,
        (withArtifact artifact).files.put [".tmp000000"] (.file [] 0o600)) := by
  have name : FileSystem.stagingName 0 = ".tmp000000" := by decide +kernel
  have sample : (withArtifact artifact).files.stagedPath ⟨"."⟩ ".tmp000000" =
      ⟨"/./.tmp000000"⟩ := by
    change FileSystem.stagedPath ⟨[], []⟩ ⟨"."⟩ ".tmp000000" = _
    decide +kernel
  have unused : (withArtifact artifact).files.node? ([] ++ [FileSystem.stagingName 0]) = none := by
    rw [name]
    rfl
  have stages : (withArtifact artifact).files.Stages ⟨"."⟩ [] (FileSystem.stagingName 0) :=
    { free := by decide
      short := by
        rw [name, sample]
        decide +kernel
      found := rfl
      inside := ⟨rfl, rfl⟩
      fresh := if_pos unused }
  have made := stages.stage
  rw [name, sample] at made
  exact made

/-- A fresh file for the artifact can be made, and moved onto it. -/
theorem ReplaceCourse.outcome_withArtifact {artifact contents : List UInt8} {permissions : Nat}
    {records : List Record} {outcome : Except SlotFailure Unit} {after : Machine}
    (course : ReplaceCourse (withArtifact artifact) ⟨"app"⟩ contents permissions records outcome
      after) : outcome = .ok () := by
  have staged := stage_withArtifact artifact
  have directory : Path.directory ⟨"app"⟩ = ⟨"."⟩ := by decide +kernel
  cases course with
  | unstaged refused =>
      rw [directory, staged] at refused
      rcases refused with refuses | refused
      · exact absurd rfl refuses
      · cases refused
  | abandoned made fails =>
      rw [directory, staged] at made
      cases made
      cases fails with
      | unfinished refuses => exact absurd rfl refuses
      | unmoved refused =>
          rcases refused with refuses | refused
          · exact absurd rfl refuses
          · cases refused
  | placed made succeeds => rfl

/-- Where an injection has what it needs, the artifact can be replaced. -/
theorem perform_inject_withArtifact {artifact contents : List UInt8} {injection : Injection}
    {offset : Nat} (injected : Slot.inject artifact injection = .ok (offset, contents)) :
    ((inject ⟨"app"⟩ ⟨"app"⟩ injection).perform (withArtifact artifact)).1 = .ok offset := by
  have read : (withArtifact artifact).files.readFile ⟨"app"⟩ = .ok artifact := rfl
  obtain ⟨records, outcome, after, ends, course⟩ :=
    injectCourse_whole (withArtifact artifact) ⟨"app"⟩ ⟨"app"⟩ injection
  rw [ends.perform]
  cases course with
  | unread refused =>
      rw [read] at refused
      cases refused
  | unqueried refused =>
      rcases refused with refuses | refused
      · exact absurd rfl refuses
      · cases refused
  | unfit there refused =>
      rw [read] at there
      cases there
      rw [injected] at refused
      cases refused
  | unplaced there _ found refused => cases refused.outcome_withArtifact
  | written there _ found placed =>
      rw [read] at there
      cases there
      rw [injected] at found
      cases found
      rfl

end Artifact

namespace Command

variable {text : String} {origin : Path} {settings : Settings} {expected : String}

/-- An injection that succeeds has found a text that fits into its slot. -/
theorem fits_of_execute_inject {slot : Slot} {options : InjectOptions} {machine : Machine}
    {said : String}
    (succeeds : ((execute slot settings (.inject options)).perform machine).1 = .ok said) :
    Slot.Fits (chosenText options settings) 128 := by
  rw [perform_execute_inject] at succeeds
  cases chosen : chosenValue machine.files options settings with
  | error failure =>
      rw [chosen] at succeeds
      cases succeeds
  | ok value =>
      obtain ⟨records, outcome, after, ends, course⟩ := Artifact.injectCourse_whole machine
        options.input options.output (chosenInjection options settings value)
      simp only [chosen, ends.perform] at succeeds
      cases course with
      | written read queried injected placed => exact Slot.fits_of_inject injected
      | _ => cases succeeds

/-- A text of the settings that fits is found in an artifact made for it. -/
theorem execute_inject_withArtifact (slot : Slot) (settings : Settings)
    (fits : Slot.Fits expected 128) (given : settings.injection.expected = some expected) :
    ((execute slot settings (.inject ⟨⟨"app"⟩, ⟨"app"⟩, none, some "7", none⟩)).perform
      (Artifact.withArtifact (Slot.image expected 128))).1 = .ok "app: injected '7' at 0x0" := by
  have number : Slot.Fits "7" 128 := by decide
  obtain ⟨contents, injected⟩ := Slot.inject_image fits number
  have asked : chosenInjection ⟨⟨"app"⟩, ⟨"app"⟩, none, some "7", none⟩ settings "7" =
      ⟨expected, "7", 128⟩ := by
    rw [chosenInjection, chosenText, given]
  rw [perform_execute_inject, chosenValue]
  simp only [asked, Artifact.perform_inject_withArtifact injected]
  rfl

/-- What the settings leave open of an injection takes the text from them. -/
theorem chosenText_of_open {options : InjectOptions} (left : options.expected = none)
    (given : settings.injection.expected = some expected) :
    chosenText options settings = expected := by
  rw [chosenText, left, given]

/-- A text in the settings can be used, by an injection that leaves the text to them, exactly if it
leaves room for a NUL in a slot of the usual size. -/
theorem configured_text_usable_iff (parsed : Settings.parse text origin = .ok settings)
    (given : settings.injection.expected = some expected) :
    (∃ slot options machine said, options.expected = none ∧
      ((execute slot settings (.inject options)).perform machine).1 = .ok said) ↔
      Utf8.byteLength expected ≤ 127 := by
  constructor
  · rintro ⟨slot, options, machine, said, left, succeeds⟩
    have fits := fits_of_execute_inject succeeds
    rw [chosenText_of_open left given] at fits
    exact fits.within
  · intro short
    obtain ⟨written, admissible, rfl⟩ := Settings.admissible_of_parse parsed
    obtain ⟨nonempty, nulFree⟩ := admissible.expected expected given
    have fits : Slot.Fits expected 128 := ⟨nonempty, nulFree, short⟩
    exact ⟨.holding Slot.sentinel, _, _, _, rfl, execute_inject_withArtifact _ _ fits given⟩

/-- A document that sets nothing but the text. -/
def documentOf (text : String) : String :=
  "[inject]\nfrom = '" ++ text ++ "'\n"

/-- A text that just fits, of characters that mostly take four bytes. -/
def longestText : String :=
  String.ofList (List.replicate 31 (Char.ofNat 0x1F600) ++ ['7', '7', '7'])

theorem configured_text_usable_iff_at_limit :
    Settings.parse (documentOf longestText) ⟨"a.toml"⟩ = .ok ⟨.empty, some longestText, none⟩ ∧
      ∃ slot options machine said, options.expected = none ∧
        ((execute slot ⟨.empty, some longestText, none⟩ (.inject options)).perform machine).1 =
          .ok said := by
  have parsed : Settings.parse (documentOf longestText) ⟨"a.toml"⟩ =
      .ok ⟨.empty, some longestText, none⟩ := by
    decide +kernel
  exact ⟨parsed, (configured_text_usable_iff parsed rfl).mpr (by decide +kernel)⟩

/-- A text that fills a slot and leaves no room for a NUL. -/
def overlongText : String :=
  String.ofList (List.replicate 128 'a')

/-- The check of the settings lets a text through that no injection takes. -/
theorem overlong_text_configured :
    Settings.parse (documentOf overlongText) ⟨"test.toml"⟩ =
        .ok ⟨.empty, some overlongText, none⟩ ∧
      ¬ ∃ slot options machine said, options.expected = none ∧
        ((execute slot ⟨.empty, some overlongText, none⟩ (.inject options)).perform machine).1 =
          .ok said := by
  constructor
  · decide +kernel
  · rintro ⟨slot, options, machine, said, left, succeeds⟩
    have fits := fits_of_execute_inject succeeds
    rw [chosenText_of_open left rfl] at fits
    exact absurd fits.within (by decide +kernel)

end Command

end BuildStamp
