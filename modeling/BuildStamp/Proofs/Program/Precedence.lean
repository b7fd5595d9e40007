import BuildStamp.Proofs.Program.Course
import BuildStamp.Proofs.Settings.Discovery

set_option autoImplicit false

/-!
What the command line takes out of the settings' hands. A setting of the log counts where no flag
is given for the same thing, and one of injections where an injection leaves it open. Settings that
agree on all that counts come down to one and the same script, so no run tells them apart.
-/

namespace BuildStamp

/-- The settings agree on whatever the arguments leave to them. -/
structure Settings.AgreeUnder (arguments : Arguments) (one two : Settings) : Prop where
  level : arguments.logLevel = none → one.logging.level = two.logging.level
  format : arguments.logFormat = none → one.logging.format = two.logging.format
  file : arguments.logFile = none → one.logging.file = two.logging.file
  color : arguments.color = false → arguments.noColor = false →
    one.logging.color = two.logging.color
  expected : ∀ options, arguments.effectiveCommand = .inject options →
    options.expected = none → one.injection.expected = two.injection.expected
  valueFile : ∀ options, arguments.effectiveCommand = .inject options →
    options.value = none → options.valueFile = none →
      one.injection.valueFile = two.injection.valueFile

theorem or_eq_or_of_open {α : Type} {flag one two : Option α} (same : flag = none → one = two) :
    flag.or one = flag.or two := by
  cases flag with
  | none => rw [same rfl]
  | some given => rfl

namespace Command

variable {options : InjectOptions} {one two : Settings}

/-- A number that is given needs no file, and a file that is given no other. -/
theorem injectedValue_congr (same : options.value = none → options.valueFile = none →
    one.injection.valueFile = two.injection.valueFile) :
    injectedValue options one = injectedValue options two := by
  rw [injectedValue, injectedValue]
  cases given : options.value with
  | some value => rfl
  | none => rw [or_eq_or_of_open (same given)]

theorem expectedText_congr
    (same : options.expected = none → one.injection.expected = two.injection.expected) :
    expectedText options one = expectedText options two := by
  rw [expectedText, expectedText, or_eq_or_of_open same]

end Command

namespace Program

variable {arguments : Arguments} {one two : Settings}

theorem wantsColor_congr (same : arguments.color = false → arguments.noColor = false →
    one.logging.color = two.logging.color) :
    wantsColor arguments one = wantsColor arguments two := by
  funext terminal
  rw [wantsColor, wantsColor]
  cases refused : arguments.noColor with
  | true => rfl
  | false =>
      cases asked : arguments.color with
      | true => rfl
      | false => rw [same asked refused]

theorem logRequest_congr (agree : one.AgreeUnder arguments two) :
    logRequest arguments one = logRequest arguments two := by
  funext terminal
  rw [logRequest, logRequest, or_eq_or_of_open agree.level, or_eq_or_of_open agree.format,
    or_eq_or_of_open agree.file, wantsColor_congr agree.color]

theorem execute_congr (agree : one.AgreeUnder arguments two) (slot : Slot) :
    arguments.effectiveCommand.execute slot one = arguments.effectiveCommand.execute slot two := by
  cases command : arguments.effectiveCommand with
  | display => rfl
  | locate input value => rfl
  | inject options =>
      rw [Command.execute, Command.execute, Command.injectedValue_congr (agree.valueFile _ command),
        Command.expectedText_congr (agree.expected _ command)]

/-- Settings that agree on what counts make one script. -/
theorem runWith_congr (agree : one.AgreeUnder arguments two) (slot : Slot) :
    runWith slot arguments one = runWith slot arguments two := by
  simp only [runWith, carryOut, logRequest_congr agree, execute_congr agree]

/-- No run tells settings apart that agree on what the arguments leave open, nor two files that they
are found in. -/
theorem runWith_ignores_overridden (agree : one.AgreeUnder arguments two) (slot : Slot)
    (machine : Machine) :
    (runWith slot arguments one).run machine = (runWith slot arguments two).run machine ∧
    (runWith slot arguments one).requests machine =
      (runWith slot arguments two).requests machine ∧
    ∀ first second, machine.logger = none →
      ((Settings.discover first).perform machine).1 = .ok one →
      ((Settings.discover second).perform machine).1 = .ok two →
      (run slot { arguments with configFile := first }).run machine =
        (run slot { arguments with configFile := second }).run machine := by
  have same := runWith_congr agree slot
  refine ⟨by rw [same], by rw [same], ?_⟩
  intro first second silent foundOne foundTwo
  have discovered {name : Option Path} {settings : Settings}
      (found : ((Settings.discover name).perform machine).1 = .ok settings) :
      (Settings.discover name).perform machine = (.ok settings, machine) :=
    Prod.ext found (Settings.found_discover silent name).1
  rw [run_run, run_run, discovered foundOne, discovered foundTwo]
  exact congrArg (Script.run · machine) same

/-- An injection whose flags say everything but what to replace. -/
def injectSeven : Arguments :=
  ⟨none, false, true, some "warn", none, none,
    some (.inject ⟨⟨"app"⟩, ⟨"out"⟩, none, some "7", none⟩)⟩

/-- A machine with an artifact, a file of settings that the flags override, and an empty one. -/
def withTwoSettings : Machine :=
  .fresh
    ⟨[(["app"], .file Command.untouchedArtifact 0o755),
      (["one"], .file (Utf8.encode
        "[logging]\nlevel = 'trace'\ncolor = true\n[inject]\nvalue_file = 'none'\n") 0o644),
      (["two"], .file [] 0o644)], []⟩
    ⟨[]⟩ Command.epoch

theorem runWith_ignores_overridden_by_flags :
    ((Settings.discover (some ⟨"one"⟩)).perform withTwoSettings).1 =
        .ok ⟨⟨some "trace", none, none, some true⟩, ⟨none, some ⟨"none"⟩⟩⟩ ∧
      ((Settings.discover (some ⟨"two"⟩)).perform withTwoSettings).1 = .ok .empty ∧
      ((run (.holding Slot.sentinel) { injectSeven with configFile := some ⟨"two"⟩ }).run
        withTwoSettings).2.output = "out: injected '7' at 0x1\n" ∧
      (run (.holding Slot.sentinel) { injectSeven with configFile := some ⟨"one"⟩ }).run
          withTwoSettings =
        (run (.holding Slot.sentinel) { injectSeven with configFile := some ⟨"two"⟩ }).run
          withTwoSettings := by
  have first : ((Settings.discover (some ⟨"one"⟩)).perform withTwoSettings).1 =
      .ok ⟨⟨some "trace", none, none, some true⟩, ⟨none, some ⟨"none"⟩⟩⟩ := by
    decide +kernel
  have second : ((Settings.discover (some ⟨"two"⟩)).perform withTwoSettings).1 = .ok .empty := by
    decide +kernel
  have agree : Settings.AgreeUnder injectSeven
      ⟨⟨some "trace", none, none, some true⟩, ⟨none, some ⟨"none"⟩⟩⟩ .empty := by
    constructor
    · rintro ⟨⟩
    · exact fun _ => rfl
    · exact fun _ => rfl
    · rintro - ⟨⟩
    · exact fun _ _ _ => rfl
    · rintro options ⟨⟩ ⟨⟩
  have printed : ((run (.holding Slot.sentinel)
      { injectSeven with configFile := some ⟨"two"⟩ }).run withTwoSettings).2.output =
        "out: injected '7' at 0x1\n" := by
    decide +kernel
  obtain ⟨-, -, same⟩ := runWith_ignores_overridden agree (.holding Slot.sentinel) withTwoSettings
  exact ⟨first, second, printed, same _ _ rfl first second⟩

end Program

end BuildStamp
