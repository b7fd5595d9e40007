import BuildStamp.Program
import BuildStamp.Proofs.Artifact.Replacement
import BuildStamp.Proofs.Slot.Reinjection

set_option autoImplicit false

/-!
The command that injects a build number. Its flags come before the settings, a file with the build
number is read only where the number itself is not given, and all else is an injection into a slot
of the usual size. What it answers is where a search finds the number afterwards.
-/

namespace BuildStamp.Command

/-- The file that the build number is read from, if it is read from one. -/
def valueFile? (options : InjectOptions) (settings : Settings) : Option Path :=
  match options.value, options.valueFile, settings.injection.valueFile with
  | some _, _, _ => none
  | none, some path, _ => some path
  | none, none, configured => configured

/-- The build number that the flags, the settings and the files choose. -/
def chosenValue (files : FileSystem) (options : InjectOptions) (settings : Settings) :
    Except SlotFailure String :=
  match options.value, valueFile? options settings with
  | some value, _ => .ok value
  | none, some path =>
    match files.readFile path with
    | .error cause => .error (.fileSystem path cause)
    | .ok contents => Artifact.valueIn path contents
  | none, none => .error (.invalidValue "no build number given; use --value or --value-file")

/-- The text that the flags and the settings choose to be replaced. -/
def chosenText (options : InjectOptions) (settings : Settings) : String :=
  match options.expected, settings.injection.expected with
  | some text, _ => text
  | none, some text => text
  | none, none => "SOONG BUILD NUMBER PLACEHOLDER"

theorem expectedText_eq (options : InjectOptions) (settings : Settings) :
    expectedText options settings = chosenText options settings := by
  rw [expectedText, chosenText]
  cases options.expected with
  | some text => rfl
  | none =>
      cases settings.injection.expected with
      | some text => rfl
      | none => rfl

/-- The reads that choosing the build number takes. -/
def valueReads (options : InjectOptions) (settings : Settings) : List Request :=
  (valueFile? options settings).toList.map .read

theorem injectedValue_eq (options : InjectOptions) (settings : Settings) :
    injectedValue options settings =
      match options.value, valueFile? options settings with
      | some value, _ => pure value
      | none, some path => Artifact.readValue path
      | none, none =>
        Attempt.ofExcept
          (.error (.invalidValue "no build number given; use --value or --value-file")) := by
  rw [injectedValue, valueFile?]
  cases options.value with
  | some value => rfl
  | none =>
      cases options.valueFile with
      | some path => rfl
      | none =>
          cases settings.injection.valueFile with
          | some path => rfl
          | none => rfl

theorem perform_injectedValue (options : InjectOptions) (settings : Settings)
    (machine : Machine) :
    (injectedValue options settings).perform machine =
      (chosenValue machine.files options settings, machine) := by
  rw [injectedValue_eq, chosenValue]
  cases options.value with
  | some value => rfl
  | none =>
      cases valueFile? options settings with
      | none => rfl
      | some path =>
          simp only [Artifact.perform_readValue]
          cases machine.files.readFile path with
          | error cause => rfl
          | ok contents => rfl

theorem requests_injectedValue (options : InjectOptions) (settings : Settings)
    (machine : Machine) :
    (injectedValue options settings).requests machine = valueReads options settings := by
  rw [injectedValue_eq, valueReads]
  cases given : options.value with
  | some value =>
      rw [valueFile?, given]
      rfl
  | none =>
      cases valueFile? options settings with
      | none => rfl
      | some path => exact Artifact.requests_readValue machine path

/-- The injection that the flags and the settings ask for. -/
def chosenInjection (options : InjectOptions) (settings : Settings) (value : String) : Injection :=
  ⟨chosenText options settings, value, 128⟩

/-- What a finished injection answers. -/
def injectAnswer (options : InjectOptions) (value : String) (offset : Nat) : String :=
  options.output.text ++ ": injected '" ++ value ++ "' at " ++ Numeral.offset offset

theorem execute_inject (slot : Slot) (settings : Settings) (options : InjectOptions) :
    execute slot settings (.inject options) =
      injectedValue options settings >>= fun value =>
        Artifact.inject options.input options.output (chosenInjection options settings value) >>=
          fun offset => pure (injectAnswer options value offset) := by
  rw [execute]
  simp only [expectedText_eq]
  rfl

theorem perform_execute_inject (slot : Slot) (settings : Settings) (options : InjectOptions)
    (machine : Machine) :
    (execute slot settings (.inject options)).perform machine =
      match chosenValue machine.files options settings with
      | .error failure => (.error failure, machine)
      | .ok value =>
        let ending := (Artifact.inject options.input options.output
          (chosenInjection options settings value)).perform machine
        (ending.1.map (injectAnswer options value), ending.2) := by
  rw [execute_inject, Attempt.perform_bind, perform_injectedValue]
  cases chosenValue machine.files options settings with
  | error failure => rfl
  | ok value =>
      simp only [Attempt.perform_bind]
      generalize (Artifact.inject options.input options.output
        (chosenInjection options settings value)).perform machine = ending
      obtain ⟨outcome, after⟩ := ending
      cases outcome with
      | error failure => rfl
      | ok offset => rfl

theorem requests_execute_inject (slot : Slot) (settings : Settings) (options : InjectOptions)
    (machine : Machine) :
    (execute slot settings (.inject options)).requests machine =
      valueReads options settings ++
        match chosenValue machine.files options settings with
        | .error _ => []
        | .ok value =>
          (Artifact.inject options.input options.output
            (chosenInjection options settings value)).requests machine := by
  rw [execute_inject, Attempt.requests_bind, perform_injectedValue, requests_injectedValue]
  cases chosenValue machine.files options settings with
  | error failure => rfl
  | ok value =>
      simp only [Attempt.requests_bind]
      generalize (Artifact.inject options.input options.output
        (chosenInjection options settings value)).perform machine = ending
      obtain ⟨outcome, after⟩ := ending
      cases outcome with
      | error failure => exact congrArg _ (List.append_nil _)
      | ok offset => exact congrArg _ (List.append_nil _)

theorem perform_execute_locate (slot : Slot) (settings : Settings) (path : Path)
    (value : Option String) (machine : Machine) :
    (execute slot settings (.locate path value)).perform machine =
      match machine.files.readFile path with
      | .error cause => (.error (.fileSystem path cause), machine)
      | .ok artifact =>
        let expected := value.getD Slot.sentinel
        match Slot.find artifact expected 128 with
        | .error failure => (.error failure, machine)
        | .ok offset =>
          (.ok (Numeral.offset offset), machine.log (Artifact.foundRecord expected offset)) := by
  rw [execute, Attempt.perform_bind, Artifact.perform_locate]
  cases machine.files.readFile path with
  | error cause => rfl
  | ok artifact =>
      simp only [Artifact.perform_find, Slot.capacity]
      cases Slot.find artifact (value.getD Slot.sentinel) 128 with
      | error failure => rfl
      | ok offset => rfl

/-- What was injected is found where it was injected, unless the number stands in the artifact a
second time. -/
theorem locate_injected {machine after : Machine} {options : InjectOptions} {settings : Settings}
    {value : String} {offset permissions : Nat} {source place : Place}
    {artifact contents : List UInt8} (avoids : machine.files.AvoidsOwnLink options.output)
    (closed : ∀ place, machine.files.IsOwnPlace options.output place → ¬ machine.LogOpensAt place)
    (wrote : Artifact.Replacement machine after options.input options.output
      (chosenInjection options settings value) offset source artifact contents permissions place)
    (covered : ∀ found, Slot.OccursAt (Slot.image value 128) artifact found →
      found < offset + 128 ∧ offset < found + 128) :
    ∃ contents, after.files.readFile options.output = .ok contents ∧
      Slot.find contents value 128 = .ok offset := by
  obtain ⟨accepted, same⟩ := (Slot.injectInPlace_eq_ok_iff _ _ _ _).mp wrote.injected
  obtain ⟨own, logged, -⟩ := wrote.placed
    (closed place (FileSystem.isOwnPlace_of_moveTarget wrote.target))
  refine ⟨contents, ?_, ?_⟩
  · obtain ⟨free, bare, directory, name, stands, other, rfl⟩ :=
      FileSystem.moveTarget_eq_ok wrote.target
    have found := FileSystem.find_gained logged.gains
      (FileSystem.find_of_own avoids bare stands other contents permissions)
    have readable := wrote.readable
    have rights : after.files.rights = machine.files.rights := logged.gains.rights
    rw [← rights] at readable
    exact FileSystem.readFile_of_file free found own readable
  · rw [same]
    exact Slot.find_written accepted.within accepted.value covered

/-- The command that injects has the outcome, the effects and the requests of the injection that
its flags and settings choose, behind those of choosing the number. A search for the number then
answers with the same offset, as long as the output path does not go through a link that the output
has replaced, and the log opens no file where the output or the fresh file stands. -/
theorem execute_inject_outcome (slot : Slot) (settings : Settings) (options : InjectOptions)
    (machine : Machine) :
    (match chosenValue machine.files options settings with
      | .error failure =>
        (execute slot settings (.inject options)).perform machine = (.error failure, machine) ∧
          (execute slot settings (.inject options)).requests machine =
            valueReads options settings
      | .ok value =>
        let injection := Artifact.inject options.input options.output
          (chosenInjection options settings value)
        (execute slot settings (.inject options)).perform machine =
            ((injection.perform machine).1.map (injectAnswer options value),
              (injection.perform machine).2) ∧
          (execute slot settings (.inject options)).requests machine =
            valueReads options settings ++ injection.requests machine) ∧
    ∀ value said after,
      machine.files.AvoidsOwnLink options.output →
      (∀ place, machine.files.IsOwnPlace options.output place → ¬ machine.LogOpensAt place) →
      (∀ staged made, machine.files.stage options.output.directory = .ok (staged, made) →
        ¬ machine.LogMeets staged.place) →
      chosenValue machine.files options settings = .ok value →
      (execute slot settings (.inject options)).perform machine = (.ok said, after) →
      ∃ artifact offset, machine.files.readFile options.input = .ok artifact ∧
        said = injectAnswer options value offset ∧
        ((∀ place, Slot.OccursAt (Slot.image value 128) artifact place →
            place < offset + 128 ∧ offset < place + 128) →
          ∀ (linked : Slot) (others : Settings) (later : Machine), later.files = after.files →
            ((execute linked others (.locate options.output (some value))).perform later).1 =
              .ok (Numeral.offset offset)) := by
  rw [perform_execute_inject, requests_execute_inject]
  constructor
  · cases chosenValue machine.files options settings with
    | error failure => exact ⟨rfl, List.append_nil _⟩
    | ok value => exact ⟨rfl, rfl⟩
  · intro value said after avoids closed apart chosen succeeds
    obtain ⟨records, outcome, last, ends, course⟩ := Artifact.injectCourse_whole machine
      options.input options.output (chosenInjection options settings value)
    simp only [chosen, ends.perform] at succeeds
    cases outcome with
    | error failure => cases succeeds
    | ok offset =>
        cases succeeds
        obtain ⟨source, artifact, contents, permissions, place, wrote⟩ :=
          course.replacement_of_ok apart
        refine ⟨artifact, offset,
          FileSystem.readFile_of_file wrote.free wrote.found wrote.file wrote.readable, rfl, ?_⟩
        intro covered linked others later same
        obtain ⟨held, reads, found⟩ := locate_injected avoids closed wrote covered
        rw [perform_execute_locate, same, reads]
        simp only [Option.getD_some, found]

/-- An artifact with an untouched slot behind its first byte. -/
def untouchedArtifact : List UInt8 :=
  1 :: Slot.image Slot.sentinel 128

theorem seven_not_in_untouchedArtifact (place : Nat) :
    ¬ Slot.OccursAt (Slot.image "7" 128) untouchedArtifact place := by
  have none : Slot.occurrences (Slot.image "7" 128) untouchedArtifact = [] := by
    decide +kernel
  intro occurs
  have member := (Slot.mem_occurrences_iff _ _ _).mpr occurs
  rw [none] at member
  cases member

/-- The moment of the machines below. -/
def epoch : Timestamp :=
  ⟨1970, 1, 1, 0, 0, 0, 0⟩

/-- A machine with an untouched artifact, a link to it where the output is to go, a file with a
build number, and a log that will open a file of its own. -/
def withNumberFile : Machine :=
  { Machine.fresh
      ⟨[(["app"], .file untouchedArtifact 0o755), (["out"], .link ⟨"app"⟩),
        (["number"], .file [32, 55, 10] 0o644)], []⟩
      ⟨[]⟩ epoch with
    logger := some ⟨⟨[⟨"", .upTo .info⟩], .empty⟩, .text, false, .unopened ⟨"log"⟩⟩ }

theorem execute_inject_outcome_over_link :
    withNumberFile.files.AvoidsOwnLink ⟨"out"⟩ ∧
      chosenValue withNumberFile.files ⟨⟨"app"⟩, ⟨"out"⟩, none, none, none⟩
        ⟨.empty, none, some ⟨"number"⟩⟩ = .ok "7" ∧
      ((execute (.holding Slot.sentinel) ⟨.empty, none, some ⟨"number"⟩⟩
        (.inject ⟨⟨"app"⟩, ⟨"out"⟩, none, none, none⟩)).perform withNumberFile).1 =
          .ok "out: injected '7' at 0x1" ∧
      ((execute (.holding Slot.sentinel) .empty (.locate ⟨"out"⟩ (some "7"))).perform
        ((execute (.holding Slot.sentinel) ⟨.empty, none, some ⟨"number"⟩⟩
          (.inject ⟨⟨"app"⟩, ⟨"out"⟩, none, none, none⟩)).perform withNumberFile).2).1 =
            .ok "0x1" := by
  have stands : withNumberFile.files.entryOf ⟨"out"⟩ = .ok ([], "out") := by
    rfl
  have avoids : withNumberFile.files.AvoidsOwnLink ⟨"out"⟩ := by
    intro directory name target entry link
    rw [stands] at entry
    cases entry
    rfl
  have closed : ∀ place, withNumberFile.files.IsOwnPlace ⟨"out"⟩ place →
      ¬ withNumberFile.LogOpensAt place := by
    intro place own opens
    cases own.unique ⟨[], "out", stands, rfl⟩
    exact Machine.not_logMeets_of_unopened rfl (by decide) (fun _ _ => ⟨_, rfl⟩) (.inr opens)
  have apart : ∀ staged made, withNumberFile.files.stage (Path.directory ⟨"out"⟩) =
      .ok (staged, made) → ¬ withNumberFile.LogMeets staged.place := by
    intro staged made fresh
    have stages : withNumberFile.files.stage (Path.directory ⟨"out"⟩) =
        .ok (⟨⟨"/./.tmp000000"⟩, [".tmp000000"]⟩, _) := rfl
    rw [stages] at fresh
    cases fresh
    exact Machine.not_logMeets_of_unopened rfl (by decide) fun _ _ => ⟨_, rfl⟩
  have chosen : chosenValue withNumberFile.files ⟨⟨"app"⟩, ⟨"out"⟩, none, none, none⟩
      ⟨.empty, none, some ⟨"number"⟩⟩ = .ok "7" := by
    decide +kernel
  have read : withNumberFile.files.readFile ⟨"app"⟩ = .ok untouchedArtifact := by
    rfl
  have succeeds : ((execute (.holding Slot.sentinel) ⟨.empty, none, some ⟨"number"⟩⟩
      (.inject ⟨⟨"app"⟩, ⟨"out"⟩, none, none, none⟩)).perform withNumberFile).1 =
        .ok "out: injected '7' at 0x1" := by
    decide +kernel
  obtain ⟨-, finds⟩ := execute_inject_outcome (.holding Slot.sentinel)
    ⟨.empty, none, some ⟨"number"⟩⟩ ⟨⟨"app"⟩, ⟨"out"⟩, none, none, none⟩ withNumberFile
  obtain ⟨artifact, offset, reads, answer, finds⟩ := finds "7" _ _ avoids closed apart chosen
    (Prod.ext succeeds rfl)
  have number : Numeral.offset offset = "0x1" :=
    (String.append_right_inj "out: injected '7' at ").mp answer.symm
  rw [read] at reads
  cases reads
  rw [← number]
  exact ⟨avoids, chosen, succeeds, finds
    (fun place occurs => absurd occurs (seven_not_in_untouchedArtifact place)) _ _ _ rfl⟩

/-- A machine with an untouched artifact, and a link to a directory. -/
def withOwnLink : Machine :=
  .fresh
    ⟨[(["app"], .file untouchedArtifact 0o644), (["d"], .directory), (["l"], .link ⟨"d"⟩)], []⟩
    ⟨[]⟩ epoch

/-- A machine with an untouched artifact, and a log that will open a file. -/
def withLog (filter : LogFilter) (file : Path) : Machine :=
  { Machine.fresh ⟨[(["app"], .file untouchedArtifact 0o644)], []⟩ ⟨[]⟩ epoch with
    logger := some ⟨filter, .text, false, .unopened file⟩ }

/-- A search for the number 7 behind its injection from an untouched artifact to a path. -/
def locateBehindInject (machine : Machine) (output : Path) : Except SlotFailure String :=
  ((execute (.holding Slot.sentinel) .empty (.locate output (some "7"))).perform
    ((execute (.holding Slot.sentinel) .empty
      (.inject ⟨⟨"app"⟩, output, none, some "7", none⟩)).perform machine).2).1

/-- What was injected is not found again where the output path goes through the link that the
output has replaced. Nor is it where the line that tells of the injection opens a log file in the
output's place, or an earlier one opens the fresh file. -/
theorem locate_fails_after_injection :
    (∀ place, ¬ Slot.OccursAt (Slot.image "7" 128) untouchedArtifact place) ∧
      withOwnLink.files.readFile ⟨"app"⟩ = .ok untouchedArtifact ∧
      ((execute (.holding Slot.sentinel) .empty
        (.inject ⟨⟨"app"⟩, ⟨"l/../l"⟩, none, some "7", none⟩)).perform withOwnLink).1 =
          .ok "l/../l: injected '7' at 0x1" ∧
      locateBehindInject withOwnLink ⟨"l/../l"⟩ =
        .error (.fileSystem ⟨"l/../l"⟩ (.system .notDirectory)) ∧
      (∀ filter file, (withLog filter file).files.readFile ⟨"app"⟩ = .ok untouchedArtifact) ∧
      ((execute (.holding Slot.sentinel) .empty
        (.inject ⟨⟨"app"⟩, ⟨"out"⟩, none, some "7", none⟩)).perform
          (withLog ⟨[⟨"", .upTo .info⟩], .empty⟩ ⟨"out"⟩)).1 = .ok "out: injected '7' at 0x1" ∧
      locateBehindInject (withLog ⟨[⟨"", .upTo .info⟩], .empty⟩ ⟨"out"⟩) ⟨"out"⟩ =
        .error (.slotNotFound "7") ∧
      ((execute (.holding Slot.sentinel) .empty
        (.inject ⟨⟨"app"⟩, ⟨"out"⟩, none, some "7", none⟩)).perform
          (withLog Artifact.movesOnly ⟨".tmp000000"⟩)).1 = .ok "out: injected '7' at 0x1" ∧
      locateBehindInject (withLog Artifact.movesOnly ⟨".tmp000000"⟩) ⟨"out"⟩ =
        .error (.slotNotFound "7") := by
  refine ⟨seven_not_in_untouchedArtifact, rfl, ?_, ?_, fun _ _ => rfl, ?_, ?_, ?_, ?_⟩
  · decide +kernel
  · decide +kernel
  · decide +kernel
  · decide +kernel
  · decide +kernel
  · decide +kernel

end BuildStamp.Command
