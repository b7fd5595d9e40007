import BuildStamp.CommandLine.Arguments

set_option autoImplicit false

/-!
A command line that is read to its end has given every flag a value that the flag accepts. A value
waits behind its flag before it is looked at, but nothing is told of it until then.
-/

namespace BuildStamp.CommandLine

/-- Every value has been accepted by the flag of its name. -/
def Accepted (flags : List Flag) (given : List (String × String)) : Prop :=
  ∀ name value, (name, value) ∈ given →
    ∃ flag ∈ flags, flag.name = name ∧ flag.kind.accepts value = true

namespace Scan

/-- What has been read is accepted, and what is pending belongs to one of the flags. -/
structure IsSound (flags : List Flag) (scan : Scan) : Prop where
  given : Accepted flags scan.given
  pending : ∀ flag value, scan.pending = some ⟨flag, value⟩ → flag ∈ flags

variable {flags : List Flag} {scan next : Scan} {flag : Flag}

theorem isSound_start : IsSound flags start where
  given := by
    intro name value member
    cases member
  pending := by
    intro flag value waiting
    cases waiting

theorem IsSound.record {value : String} (sound : scan.IsSound flags) (known : flag ∈ flags)
    (recorded : scan.record flag value = .ok next) : next.IsSound flags := by
  rw [Scan.record] at recorded
  split at recorded
  · cases recorded
  · split at recorded
    · rename_i accepts
      cases recorded
      refine ⟨?_, sound.pending⟩
      intro name text member
      rcases List.mem_append.mp member with earlier | last
      · exact sound.given name text earlier
      · cases List.mem_singleton.mp last
        exact ⟨flag, known, rfl, accepts⟩
    · cases recorded

theorem IsSound.settle (sound : scan.IsSound flags) (settled : scan.settle = .ok next) :
    next.IsSound flags := by
  rw [Scan.settle] at settled
  split at settled
  · cases settled
    exact sound
  · cases settled
  · rename_i waiting
    have rest : IsSound flags { scan with pending := none } :=
      ⟨sound.given, fun _ _ nothing => by cases nothing⟩
    exact rest.record (sound.pending _ _ waiting) settled

theorem IsSound.take {attached : Option String} (sound : scan.IsSound flags)
    (known : flag ∈ flags) (taken : scan.take flag attached = .ok next) : next.IsSound flags := by
  rw [Scan.take] at taken
  split at taken
  · cases taken
  · rename_i settled
    have rest := sound.settle settled
    split at taken
    · cases taken
    · cases taken
    · exact rest.record known taken
    · split at taken
      · exact rest.record known taken
      · cases taken
        refine ⟨rest.given, ?_⟩
        intro other value waiting
        cases waiting
        exact known

theorem IsSound.takeLong {name : String} {attached : Option String} (sound : scan.IsSound flags)
    (taken : scan.takeLong flags name attached = .ok next) : next.IsSound flags := by
  rw [Scan.takeLong] at taken
  split at taken
  · cases taken
  · rename_i found
    split at taken
    · cases taken
    · exact sound.take (List.mem_of_find?_eq_some found) taken

theorem IsSound.takeShort {letter : Char} {rest : String} (sound : scan.IsSound flags)
    (taken : scan.takeShort flags letter rest = .ok next) : next.IsSound flags := by
  rw [Scan.takeShort] at taken
  split at taken
  · cases taken
  · rename_i found
    exact sound.take (List.mem_of_find?_eq_some found) taken

theorem IsSound.fill (sound : scan.IsSound flags) (value : String) :
    (scan.fill value).IsSound flags where
  given := sound.given
  pending := by
    intro flag text waiting
    obtain ⟨pending, there, same⟩ := Option.map_eq_some_iff.mp waiting
    cases same
    exact sound.pending _ _ there

/-- Every word leaves a sound scan sound. -/
theorem IsSound.words {commands words : List String} {call : Option Call}
    (sound : scan.IsSound flags) (read : Scan.words flags commands scan words = .ok (next, call)) :
    next.IsSound flags := by
  induction words generalizing scan with
  | nil =>
      cases read
      exact sound
  | cons word rest ih =>
      rw [Scan.words.eq_def] at read
      simp only at read
      split at read
      · split at read
        · cases read
          exact sound
        · cases read
      · split at read
        · cases read
        · rename_i taken
          exact ih (sound.takeLong taken) read
      · split at read
        · cases read
        · rename_i taken
          exact ih (sound.takeShort taken) read
      · split at read
        · exact ih (sound.fill word) read
        · split at read
          · cases read
            exact sound
          · cases read

theorem IsSound.finish {given : List (String × String)} (sound : scan.IsSound flags)
    (finished : scan.finish flags = .ok given) : Accepted flags given := by
  rw [Scan.finish] at finished
  split at finished
  · cases finished
  · rename_i settled
    split at finished
    · cases finished
    · split at finished
      · cases finished
      · cases finished
        exact (sound.settle settled).given

end Scan

theorem Accepted.of_lookup {flags : List Flag} {given : List (String × String)}
    {name value : String} (accepted : Accepted flags given)
    (found : given.lookup name = some value) :
    ∃ flag ∈ flags, flag.name = name ∧ flag.kind.accepts value = true := by
  obtain ⟨earlier, later, same, -⟩ := List.lookup_eq_some_iff.mp found
  exact accepted name value (by simp [same])

/-- A value for a choice is one of its names. -/
theorem Accepted.choice {flags : List Flag} {given : List (String × String)} {names : List String}
    {name value : String} (accepted : Accepted flags given)
    (kind : ∀ flag ∈ flags, flag.name = name → flag.kind = .choice names)
    (found : given.lookup name = some value) : value ∈ names := by
  obtain ⟨flag, known, named, accepts⟩ := accepted.of_lookup found
  rw [kind flag known named] at accepts
  exact List.contains_iff_mem.mp accepts

/-- The arguments that flags in front of a command make. -/
def argumentsOf (given : List (String × String)) (command : Option Command) : Arguments :=
  { configFile := path? given "config-file"
    color := (given.lookup "color").isSome
    noColor := (given.lookup "no-color").isSome
    logLevel := given.lookup "log-level"
    logFormat := given.lookup "log-format"
    logFile := path? given "log-file"
    command }

theorem assemble_eq (scan : Scan) (command : Option Command) :
    assemble scan command = (scan.finish globalFlags).map (argumentsOf · command) := by
  rw [assemble]
  cases scan.finish globalFlags with
  | error refusal => rfl
  | ok given => rfl

theorem accepted_of_assemble {scan : Scan} {command : Option Command} {arguments : Arguments}
    (sound : scan.IsSound globalFlags) (assembled : assemble scan command = .ok arguments) :
    ∃ given, Accepted globalFlags given ∧ arguments = argumentsOf given command := by
  rw [assemble_eq] at assembled
  cases finished : scan.finish globalFlags with
  | error refusal =>
      rw [finished] at assembled
      cases assembled
  | ok given =>
      rw [finished] at assembled
      cases assembled
      exact ⟨given, sound.finish finished, rfl⟩

/-- The arguments of a command line come from accepted values. -/
theorem accepted_of_parse {words : List String} {arguments : Arguments}
    (parses : parse words = .ok arguments) :
    ∃ given command, Accepted globalFlags given ∧ arguments = argumentsOf given command := by
  rw [parse] at parses
  split at parses
  · cases parses
  · rename_i read
    obtain ⟨given, assembled⟩ := accepted_of_assemble (Scan.isSound_start.words read) parses
    exact ⟨given, _, assembled⟩
  · rename_i read
    split at parses
    · cases parses
    · split at parses
      · cases parses
      · obtain ⟨given, assembled⟩ := accepted_of_assemble (Scan.isSound_start.words read) parses
        exact ⟨given, _, assembled⟩

/-- A level on a command line is the name of a threshold. -/
theorem logLevel_mem_names {words : List String} {arguments : Arguments} {level : String}
    (parses : parse words = .ok arguments) (given : arguments.logLevel = some level) :
    level ∈ Threshold.names := by
  obtain ⟨values, command, accepted, rfl⟩ := accepted_of_parse parses
  exact accepted.choice (by decide) given

end BuildStamp.CommandLine
