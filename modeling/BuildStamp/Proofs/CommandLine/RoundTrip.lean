import BuildStamp.Proofs.CommandLine.Acceptance
import BuildStamp.Proofs.CommandLine.Reading

set_option autoImplicit false

/-!
Arguments written as a command line and read again. Every flag stands in one word with its value,
those for all commands in front of the command's name and its own behind it, each group in any
order. What is read is what was written, whatever texts the flags have.
-/

namespace BuildStamp

open CommandLine

/-- A command can be given: no path is empty, and a build number comes from one place. -/
inductive Command.IsGivable : Command → Prop
  | display : IsGivable .display
  | inject {options : InjectOptions} (input : options.input.text ≠ "")
      (output : options.output.text ≠ "")
      (valueFile : ∀ path, options.valueFile = some path → path.text ≠ "")
      (one : ¬ (options.value.isSome ∧ options.valueFile.isSome)) : IsGivable (.inject options)
  | locate {input : Path} (path : input.text ≠ "") (value : Option String) :
      IsGivable (.locate input value)

/-- Arguments can be given: level and layout go by their names, no path is empty, and colors are
not both wanted and refused. -/
structure Arguments.IsGivable (arguments : Arguments) : Prop where
  level : ∀ level, arguments.logLevel = some level → level ∈ Threshold.names
  format : ∀ format, arguments.logFormat = some format → format ∈ Layout.names
  configFile : ∀ path, arguments.configFile = some path → path.text ≠ ""
  logFile : ∀ path, arguments.logFile = some path → path.text ≠ ""
  color : ¬ (arguments.color = true ∧ arguments.noColor = true)
  command : ∀ command, arguments.command = some command → command.IsGivable

/-- Words that give a command, or none: its name, and behind it its flags in some order. -/
inductive CommandLine.Gives : Option Command → List String → Prop
  | nothing : Gives none []
  | command (command : Command) {row : List String} (order : row.Perm command.flagWords) :
      Gives (some command) (command.name :: row)

namespace CommandLine

/-- A flag that may be left out. -/
def optionalSpelling (name : String) (value : Option String) : List Spelling :=
  (value.map fun text => ⟨name, some text⟩).toList

/-- A switch that may be left out. -/
def switchSpelling (name : String) (on : Bool) : List Spelling :=
  if on then [⟨name, none⟩] else []

variable {name key : String} {value : Option String} {on : Bool} {spelling : Spelling}

theorem mem_optionalSpelling :
    spelling ∈ optionalSpelling name value ↔ ∃ text, value = some text ∧
      spelling = ⟨name, some text⟩ := by
  cases value with
  | none => simp [optionalSpelling]
  | some text => simp [optionalSpelling]

theorem mem_switchSpelling :
    spelling ∈ switchSpelling name on ↔ on = true ∧ spelling = ⟨name, none⟩ := by
  cases on with
  | false => simp [switchSpelling]
  | true => simp [switchSpelling]

theorem map_word_optionalSpelling :
    (optionalSpelling name value).map Spelling.word = optionalWord name value := by
  cases value with
  | none => rfl
  | some text => rfl

theorem map_word_switchSpelling :
    (switchSpelling name on).map Spelling.word = if on then [switchWord name] else [] := by
  cases on with
  | false => rfl
  | true => rfl

theorem map_name_optionalSpelling :
    ((optionalSpelling name value).map Spelling.name).Sublist [name] := by
  cases value with
  | none => exact List.nil_sublist _
  | some text => exact .refl _

theorem map_name_switchSpelling :
    ((switchSpelling name on).map Spelling.name).Sublist [name] := by
  cases on with
  | false => exact List.nil_sublist _
  | true => exact .refl _

variable {flags : List Flag} {flag : Flag}

theorem isFor_optionalSpelling
    (known : flags.find? (fun other => other.name = name) = some flag)
    (takes : flag.kind.takesValue = true)
    (accepts : ∀ text, value = some text → flag.kind.accepts text = true) :
    ∀ spelling ∈ optionalSpelling name value, spelling.IsFor flags := by
  intro spelling member
  obtain ⟨text, given, rfl⟩ := mem_optionalSpelling.mp member
  exact .valued known takes (accepts text given)

theorem isFor_switchSpelling
    (known : flags.find? (fun other => other.name = name) = some flag)
    (kind : flag.kind = .switch) :
    ∀ spelling ∈ switchSpelling name on, spelling.IsFor flags := by
  intro spelling member
  obtain ⟨-, rfl⟩ := mem_switchSpelling.mp member
  exact .switch known kind

theorem accepts_path {file : Option Path}
    (named : ∀ path, file = some path → path.text ≠ "") :
    ∀ text, file.map Path.text = some text → FlagKind.accepts .path text = true := by
  intro text given
  obtain ⟨path, there, rfl⟩ := Option.map_eq_some_iff.mp given
  simpa [FlagKind.accepts] using named path there

theorem map_mk_text (file : Option Path) : (file.map Path.text).map Path.mk = file := by
  cases file with
  | none => rfl
  | some path => rfl

theorem isSome_switch (on : Bool) : (if on = true then some "" else none).isSome = on := by
  cases on with
  | false => rfl
  | true => rfl

theorem accepts_choice {names : List String}
    (listed : ∀ text, value = some text → text ∈ names) :
    ∀ text, value = some text → FlagKind.accepts (.choice names) text = true := by
  intro text given
  exact List.contains_iff_mem.mpr (listed text given)

theorem lookup_optionalSpelling :
    ((optionalSpelling name value).map Spelling.entry).lookup key =
      if key = name then value else none := by
  cases value with
  | none => simp [optionalSpelling]
  | some text =>
      by_cases same : key = name
      · simp [optionalSpelling, Spelling.entry, same]
      · simp [optionalSpelling, Spelling.entry, List.lookup_cons,
          beq_eq_false_iff_ne.mpr same, same]

theorem lookup_switchSpelling :
    ((switchSpelling name on).map Spelling.entry).lookup key =
      if key = name ∧ on = true then some "" else none := by
  cases on with
  | false => simp [switchSpelling]
  | true =>
      by_cases same : key = name
      · simp [switchSpelling, Spelling.entry, same]
      · simp [switchSpelling, Spelling.entry, List.lookup_cons,
          beq_eq_false_iff_ne.mpr same, same]

end CommandLine

namespace Arguments

variable {arguments : Arguments}

/-- The flags for all commands. -/
def globalSpellings (arguments : Arguments) : List Spelling :=
  optionalSpelling "config-file" (arguments.configFile.map (·.text)) ++
    switchSpelling "color" arguments.color ++ switchSpelling "no-color" arguments.noColor ++
    optionalSpelling "log-level" arguments.logLevel ++
    optionalSpelling "log-format" arguments.logFormat ++
    optionalSpelling "log-file" (arguments.logFile.map (·.text))

theorem map_word_globalSpellings :
    arguments.globalSpellings.map Spelling.word = arguments.globalWords := by
  simp only [globalSpellings, globalWords, List.map_append, map_word_optionalSpelling,
    map_word_switchSpelling]

theorem nodup_globalSpellings : (arguments.globalSpellings.map Spelling.name).Nodup := by
  have names :
      ["config-file", "color", "no-color", "log-level", "log-format", "log-file"].Nodup := by decide
  apply List.Nodup.sublist _ names
  simp only [globalSpellings, List.map_append]
  exact (((((map_name_optionalSpelling.append map_name_switchSpelling).append
    map_name_switchSpelling).append map_name_optionalSpelling).append
    map_name_optionalSpelling).append map_name_optionalSpelling)

theorem isFor_globalSpellings (givable : arguments.IsGivable) :
    ∀ spelling ∈ arguments.globalSpellings, spelling.IsFor globalFlags := by
  simp only [globalSpellings, List.forall_mem_append]
  refine ⟨⟨⟨⟨⟨?_, ?_⟩, ?_⟩, ?_⟩, ?_⟩, ?_⟩
  · exact isFor_optionalSpelling rfl rfl (accepts_path givable.configFile)
  · exact isFor_switchSpelling rfl rfl
  · exact isFor_switchSpelling rfl rfl
  · exact isFor_optionalSpelling rfl rfl (accepts_choice givable.level)
  · exact isFor_optionalSpelling rfl rfl (accepts_choice givable.format)
  · exact isFor_optionalSpelling rfl rfl (accepts_path givable.logFile)

theorem finish_globalSpellings (givable : arguments.IsGivable) :
    Scan.finish globalFlags ⟨arguments.globalSpellings.map Spelling.entry, none⟩ =
      .ok (arguments.globalSpellings.map Spelling.entry) := by
  have color := givable.color
  rw [Scan.finish_eq_ok_iff]
  constructor
  · simpa [Scan.hasConflict, globalFlags, helpFlag, globalSpellings, List.lookup_append,
      lookup_optionalSpelling, lookup_switchSpelling] using color
  · rfl

theorem isLevel_globalSpellings (givable : arguments.IsGivable) :
    Scan.IsLevel globalFlags arguments.globalSpellings where
  plain := by decide
  spell := isFor_globalSpellings givable
  distinct := nodup_globalSpellings
  finished := finish_globalSpellings givable

theorem argumentsOf_of_lookup {given : List (String × String)}
    (same : ∀ name, given.lookup name =
      (arguments.globalSpellings.map Spelling.entry).lookup name) :
    argumentsOf given arguments.command = arguments := by
  simp only [argumentsOf, path?, same, globalSpellings, List.map_append, List.lookup_append,
    lookup_optionalSpelling, lookup_switchSpelling]
  simp [-Option.map_map, map_mk_text, isSome_switch]

end Arguments

namespace Command

variable {command : Command} {row : List String}

/-- The flags of a command's own. -/
def flagSpellings : Command → List Spelling
  | .display => []
  | .inject options =>
    optionalSpelling "input" (some options.input.text) ++
      optionalSpelling "output" (some options.output.text) ++
      optionalSpelling "from" options.expected ++ optionalSpelling "value" options.value ++
      optionalSpelling "value-file" (options.valueFile.map (·.text))
  | .locate input value =>
    optionalSpelling "input" (some input.text) ++ optionalSpelling "value" value

/-- The flags that a command can have. -/
def ownFlags : Command → List Flag
  | .display => [helpFlag]
  | .inject _ => injectFlags
  | .locate _ _ => locateFlags

theorem map_word_flagSpellings : command.flagSpellings.map Spelling.word = command.flagWords := by
  cases command with
  | display => rfl
  | inject options =>
      simp only [flagSpellings, flagWords, List.map_append, map_word_optionalSpelling]
      rfl
  | locate input value =>
      simp only [flagSpellings, flagWords, List.map_append, map_word_optionalSpelling]
      rfl

theorem nodup_flagSpellings : (command.flagSpellings.map Spelling.name).Nodup := by
  cases command with
  | display => exact List.nodup_nil
  | inject options =>
      have names : ["input", "output", "from", "value", "value-file"].Nodup := by decide
      apply List.Nodup.sublist _ names
      simp only [flagSpellings, List.map_append]
      exact (((map_name_optionalSpelling.append map_name_optionalSpelling).append
        map_name_optionalSpelling).append map_name_optionalSpelling).append
        map_name_optionalSpelling
  | locate input value =>
      have names : ["input", "value"].Nodup := by decide
      apply List.Nodup.sublist _ names
      simp only [flagSpellings, List.map_append]
      exact map_name_optionalSpelling.append map_name_optionalSpelling

theorem isFor_flagSpellings (givable : command.IsGivable) :
    ∀ spelling ∈ command.flagSpellings, spelling.IsFor command.ownFlags := by
  cases givable with
  | display => simp [flagSpellings]
  | inject input output valueFile one =>
      simp only [flagSpellings, ownFlags, List.forall_mem_append]
      refine ⟨⟨⟨⟨?_, ?_⟩, ?_⟩, ?_⟩, ?_⟩
      · exact isFor_optionalSpelling rfl rfl (by simpa [FlagKind.accepts] using input)
      · exact isFor_optionalSpelling rfl rfl (by simpa [FlagKind.accepts] using output)
      · exact isFor_optionalSpelling rfl rfl fun _ _ => rfl
      · exact isFor_optionalSpelling rfl rfl fun _ _ => rfl
      · exact isFor_optionalSpelling rfl rfl (accepts_path valueFile)
  | locate path value =>
      simp only [flagSpellings, ownFlags, List.forall_mem_append]
      constructor
      · exact isFor_optionalSpelling rfl rfl (by simpa [FlagKind.accepts] using path)
      · exact isFor_optionalSpelling rfl rfl fun _ _ => rfl

theorem finish_flagSpellings (givable : command.IsGivable) :
    Scan.finish command.ownFlags ⟨command.flagSpellings.map Spelling.entry, none⟩ =
      .ok (command.flagSpellings.map Spelling.entry) := by
  rw [Scan.finish_eq_ok_iff]
  cases givable with
  | display => exact ⟨rfl, rfl⟩
  | inject input output valueFile one =>
      constructor
      · simpa [Scan.hasConflict, ownFlags, injectFlags, helpFlag, flagSpellings,
          List.lookup_append, lookup_optionalSpelling] using one
      · simp [Scan.isIncomplete, ownFlags, injectFlags, helpFlag, flagSpellings,
          List.lookup_append, lookup_optionalSpelling]
  | locate path value =>
      constructor
      · rfl
      · simp [Scan.isIncomplete, ownFlags, locateFlags, helpFlag, flagSpellings,
          List.lookup_append, lookup_optionalSpelling]

/-- A command's name looks like no flag, and is not the one that explains the others. -/
theorem of_name (command : Command) :
    Word.of command.name = .plain ∧ command.name ∈ commandNames ∧ command.name ≠ helpName := by
  have all : ∀ name ∈ ["show", "inject", "locate"],
      Word.of name = .plain ∧ name ∈ commandNames ∧ name ≠ helpName := by
    decide +kernel
  apply all
  cases command with
  | display => exact List.mem_cons_self
  | inject options => exact List.mem_cons_of_mem _ List.mem_cons_self
  | locate input value => exact List.mem_cons_of_mem _ (List.mem_cons_of_mem _ List.mem_cons_self)

theorem havePlainNames_ownFlags : HavePlainNames command.ownFlags := by
  cases command with
  | display => decide +revert
  | inject options => exact (by decide : HavePlainNames injectFlags)
  | locate input value => exact (by decide : HavePlainNames locateFlags)

theorem isLevel_flagSpellings (givable : command.IsGivable) :
    Scan.IsLevel command.ownFlags command.flagSpellings where
  plain := havePlainNames_ownFlags
  spell := isFor_flagSpellings givable
  distinct := nodup_flagSpellings
  finished := finish_flagSpellings givable

/-- A command's own flags are read in any order. -/
theorem flagsOf_of_perm (givable : command.IsGivable) (order : row.Perm command.flagWords) :
    ∃ given, (∀ name, given.lookup name =
        (command.flagSpellings.map Spelling.entry).lookup name) ∧
      flagsOf command.ownFlags row = .ok given := by
  rw [← map_word_flagSpellings] at order
  obtain ⟨given, same, finished, read⟩ := (isLevel_flagSpellings givable).words_of_perm order
  have all := read [] []
  rw [List.append_nil] at all
  refine ⟨given, same, ?_⟩
  rw [flagsOf, all]
  exact finished

theorem parseCommand_of_perm (givable : command.IsGivable) (order : row.Perm command.flagWords) :
    parseCommand command.name row = .ok command := by
  obtain ⟨given, same, read⟩ := flagsOf_of_perm givable order
  cases command with
  | display =>
      rw [ownFlags] at read
      simp [parseCommand, name, read]
  | inject options =>
      rw [ownFlags] at read
      simp only [flagSpellings, List.map_append, List.lookup_append, lookup_optionalSpelling]
        at same
      simp [parseCommand, name, read, path, path?, same, map_mk_text, -Option.map_map]
  | locate input value =>
      rw [ownFlags] at read
      simp only [flagSpellings, List.map_append, List.lookup_append, lookup_optionalSpelling]
        at same
      simp [parseCommand, name, read, path, path?, same]

end Command

namespace CommandLine

variable {arguments : Arguments} {globals behind : List String}

theorem words_of_command (given : List (String × String)) (command : Command)
    (row : List String) :
    Scan.words globalFlags commandNames ⟨given, none⟩ (command.name :: row) =
      .ok (⟨given, none⟩, some (command.name, row)) := by
  obtain ⟨plain, known, -⟩ := command.of_name
  rw [Scan.words.eq_def]
  simp [plain, Scan.isAwaiting, known]

/-- Arguments that can be given are read from every command line that spells each flag in one word,
in whatever order. -/
theorem parse_of_given (givable : arguments.IsGivable)
    (order : globals.Perm arguments.globalWords) (gives : Gives arguments.command behind) :
    parse (globals ++ behind) = .ok arguments := by
  rw [← Arguments.map_word_globalSpellings] at order
  obtain ⟨given, same, finished, read⟩ :=
    (Arguments.isLevel_globalSpellings givable).words_of_perm order
  have assembled : assemble ⟨given, none⟩ arguments.command = .ok arguments := by
    rw [assemble_eq, finished]
    exact congrArg Except.ok (Arguments.argumentsOf_of_lookup same)
  rw [parse, read]
  generalize called : arguments.command = call at gives assembled
  cases gives with
  | nothing => exact assembled
  | command command row =>
      have own := Command.parseCommand_of_perm (givable.command command called) row
      obtain ⟨-, -, other⟩ := command.of_name
      rw [words_of_command]
      simp only [if_neg other, own, assembled]

/-- Arguments whose texts look like flags, like commands, or like nothing. -/
def unruly : Arguments :=
  ⟨some ⟨"--locate"⟩, true, false, none, some "json", none,
    some (.inject ⟨⟨"inject"⟩, ⟨"-o"⟩, some "--value=7", some "", none⟩)⟩

theorem parse_of_given_unruly :
    parse ["--log-format=json", "--config-file=--locate", "--color", "inject", "--value=",
      "--from=--value=7", "--output=-o", "--input=inject"] = .ok unruly := by
  have command : Command.IsGivable
      (.inject ⟨⟨"inject"⟩, ⟨"-o"⟩, some "--value=7", some "", none⟩) :=
    .inject (by decide) (by decide) (by rintro path ⟨⟩) (by decide)
  have givable : unruly.IsGivable := by
    constructor
    · rintro level ⟨⟩
    · rintro format ⟨⟩
      decide
    · rintro path ⟨⟩
      decide
    · rintro path ⟨⟩
    · decide
    · rintro other ⟨⟩
      exact command
  have order : ["--log-format=json", "--config-file=--locate", "--color"].Perm
      unruly.globalWords := by
    decide
  have own : ["--value=", "--from=--value=7", "--output=-o", "--input=inject"].Perm
      (Command.flagWords (.inject ⟨⟨"inject"⟩, ⟨"-o"⟩, some "--value=7", some "", none⟩)) := by
    decide
  exact parse_of_given givable order (.command _ own)

end CommandLine

end BuildStamp
