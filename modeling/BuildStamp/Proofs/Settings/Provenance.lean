import BuildStamp.Proofs.FileSystem.Existence
import BuildStamp.Proofs.Log.Reach
import BuildStamp.Proofs.Script.Asking
import BuildStamp.Proofs.Text.Pieces
import BuildStamp.Settings.Discovery
import Mathlib

set_option autoImplicit false

/-!
Where settings come from. A file that is named gives what its text gives, or tells why it gives
nothing, and no other file is looked at. The user's own file is treated like a named one where it
is there, and where it is not, nothing is set; that is the only case in which a file is done
without.
-/

namespace BuildStamp.Settings

/-- What the file that a path leads to comes to, links followed. A path is missing where nothing is
there, and as well where a lookup is refused, whatever is there. -/
inductive FileOutcome (files : FileSystem) (path : Path) : Except SettingsFailure Settings → Prop
  | missing (absent : ∀ place, ¬ files.LeadsTo path place) :
      FileOutcome files path (.error (.missing path))
  | refused (refuses : files.Refuses path) : FileOutcome files path (.error (.missing path))
  | directory {place : Place} (leads : files.LeadsTo path place) (allowed : ¬ files.Refuses path)
      (there : files.node? place = some .directory) :
      FileOutcome files path (.error (.unreadable path (.system .isDirectory)))
  | closed {place : Place} {contents : List UInt8} {permissions : Nat}
      (leads : files.LeadsTo path place) (allowed : ¬ files.Refuses path)
      (there : files.node? place = some (.file contents permissions))
      (closed : files.rights.reads permissions = false) :
      FileOutcome files path (.error (.unreadable path (.system .accessDenied)))
  | notText {place : Place} {contents : List UInt8} {permissions : Nat}
      (leads : files.LeadsTo path place) (allowed : ¬ files.Refuses path)
      (there : files.node? place = some (.file contents permissions))
      (readable : files.rights.reads permissions = true)
      (illFormed : ¬ ∃ text, Utf8.encode text = contents) :
      FileOutcome files path (.error (.unreadable path .notUtf8))
  | text {place : Place} {text : String} {permissions : Nat}
      {outcome : Except SettingsFailure Settings} (leads : files.LeadsTo path place)
      (allowed : ¬ files.Refuses path)
      (there : files.node? place = some (.file (Utf8.encode text) permissions))
      (readable : files.rights.reads permissions = true) (parsed : parse text path = outcome) :
      FileOutcome files path outcome
  /-- No tree has a path that leads to something else. -/
  | stray {place : Place} (leads : files.LeadsTo path place) (allowed : ¬ files.Refuses path)
      (other : files.node? place ≠ some .directory ∧ ¬ files.IsFile place) :
      FileOutcome files path (.error (.unreadable path (.system .noEntry)))

variable {files : FileSystem} {path : Path} {place : Place}

theorem ofContents_encode (path : Path) (text : String) :
    ofContents path (Utf8.encode text) = parse text path := by
  rw [ofContents, (Utf8.decode?_eq_some_iff _ text).mpr rfl]

theorem ofContents_of_illFormed {contents : List UInt8}
    (illFormed : ¬ ∃ text, Utf8.encode text = contents) :
    ofContents path contents = .error (.unreadable path .notUtf8) := by
  rw [ofContents, (Utf8.decode?_eq_none_iff contents).mpr illFormed]

/-- The settings in the file at a path, or why there are none. -/
def inFile (files : FileSystem) (path : Path) : Except SettingsFailure Settings :=
  if files.isPresent path then
    match files.readFile path with
    | .error cause => .error (.unreadable path cause)
    | .ok contents => ofContents path contents
  else .error (.missing path)

/-- The settings in the entry that a path leads to. -/
theorem inFile_of_leadsTo (leads : files.LeadsTo path place) (allowed : ¬ files.Refuses path) :
    inFile files path =
      match files.node? place with
      | some (.file contents permissions) =>
        if files.rights.reads permissions then ofContents path contents
        else .error (.unreadable path (.system .accessDenied))
      | some .directory => .error (.unreadable path (.system .isDirectory))
      | _ => .error (.unreadable path (.system .noEntry)) := by
  rw [inFile, if_pos (FileSystem.isPresent_iff.mpr ⟨⟨place, leads⟩, allowed⟩),
    FileSystem.readFile_of_leadsTo leads allowed]
  cases files.node? place with
  | none => rfl
  | some node =>
      cases node with
      | directory => rfl
      | link target => rfl
      | file contents permissions =>
          cases readable : files.rights.reads permissions with
          | true => simp only [readable, if_true]
          | false => simp only [readable, Bool.false_eq_true, if_false]

theorem inFile_of_file {contents : List UInt8} {permissions : Nat}
    (leads : files.LeadsTo path place) (allowed : ¬ files.Refuses path)
    (there : files.node? place = some (.file contents permissions))
    (readable : files.rights.reads permissions = true) :
    inFile files path = ofContents path contents := by
  rw [inFile_of_leadsTo leads allowed, there]
  exact if_pos readable

theorem inFile_of_stray (leads : files.LeadsTo path place) (allowed : ¬ files.Refuses path)
    (other : files.node? place ≠ some .directory ∧ ¬ files.IsFile place) :
    inFile files path = .error (.unreadable path (.system .noEntry)) := by
  rw [inFile_of_leadsTo leads allowed]
  cases there : files.node? place with
  | none => rfl
  | some node =>
      cases node with
      | directory => exact absurd there other.1
      | link target => rfl
      | file contents permissions => exact absurd ⟨contents, permissions, there⟩ other.2

theorem fileOutcome_inFile (files : FileSystem) (path : Path) :
    FileOutcome files path (inFile files path) := by
  cases present : files.isPresent path with
  | false =>
      rw [inFile, if_neg (by simp [present])]
      rcases FileSystem.isPresent_eq_false_iff.mp present with absent | refuses
      · exact .missing absent
      · exact .refused refuses
  | true =>
      obtain ⟨⟨place, leads⟩, allowed⟩ := FileSystem.isPresent_iff.mp present
      by_cases inside : files.node? place = some .directory
      · rw [inFile_of_leadsTo leads allowed, inside]
        exact .directory leads allowed inside
      · by_cases file : files.IsFile place
        · obtain ⟨contents, permissions, there⟩ := file
          cases readable : files.rights.reads permissions with
          | false =>
              rw [inFile_of_leadsTo leads allowed, there]
              simp only [readable, Bool.false_eq_true, if_false]
              exact .closed leads allowed there readable
          | true =>
              rw [inFile_of_file leads allowed there readable]
              by_cases formed : ∃ text, Utf8.encode text = contents
              · obtain ⟨text, rfl⟩ := formed
                exact .text leads allowed there readable (ofContents_encode path text).symm
              · rw [ofContents_of_illFormed formed]
                exact .notText leads allowed there readable formed
        · rw [inFile_of_stray leads allowed ⟨inside, file⟩]
          exact .stray leads allowed ⟨inside, file⟩

/-- The entry that a path leads to leaves no choice. -/
theorem inFile_eq_iff (outcome : Except SettingsFailure Settings) :
    inFile files path = outcome ↔ FileOutcome files path outcome := by
  constructor
  · rintro rfl
    exact fileOutcome_inFile files path
  · intro comes
    cases comes with
    | missing absent =>
        have gone := FileSystem.isPresent_eq_false_iff.mpr (.inl absent)
        rw [inFile, if_neg (by simp [gone])]
    | refused refuses =>
        have gone := FileSystem.isPresent_eq_false_iff.mpr (.inr refuses)
        rw [inFile, if_neg (by simp [gone])]
    | directory leads allowed there => rw [inFile_of_leadsTo leads allowed, there]
    | closed leads allowed there closed =>
        rw [inFile_of_leadsTo leads allowed, there]
        exact if_neg (by simp [closed])
    | notText leads allowed there readable illFormed =>
        rw [inFile_of_file leads allowed there readable]
        exact ofContents_of_illFormed illFormed
    | text leads allowed there readable parsed =>
        rw [inFile_of_file leads allowed there readable]
        exact (ofContents_encode path _).trans parsed
    | stray leads allowed other => exact inFile_of_stray leads allowed other

/-- The machine once settings have been sought in a file: one record tells of those found. -/
def told (machine : Machine) (path : Path) : Except SettingsFailure Settings → Machine
  | .ok _ => machine.log (loadedRecord path)
  | .error _ => machine

theorem perform_load (machine : Machine) (path : Path) :
    (load path).perform machine =
      (inFile machine.files path, told machine path (inFile machine.files path)) := by
  have reads : (Script.request (.read path)).run machine =
      (machine.files.readFile path, machine) := rfl
  rw [load, Attempt.perform_bind_of_ok (Attempt.perform_isPresent machine path), inFile]
  split
  · cases read : machine.files.readFile path with
    | error cause =>
        rw [read] at reads
        exact Attempt.perform_bind_of_error (Attempt.perform_expect_of_error reads) _
    | ok contents =>
        rw [read] at reads
        rw [Attempt.perform_bind_of_ok (Attempt.perform_expect_of_ok reads)]
        simp only [Attempt.perform_bind, Attempt.perform_ofExcept]
        cases ofContents path contents with
        | error failure => rfl
        | ok settings => rfl
  · rfl

/-- Requests that concern no file but the one at a path, and leave it as it is. -/
def LooksAt (path : Path) (request : Request) : Prop :=
  request = .isPresent path ∨ request = .read path ∨ request = .log (loadedRecord path)

theorem asks_load (path : Path) : (load path).Asks (LooksAt path) := by
  refine Attempt.asks_request_bind (.inl rfl) ?_
  intro present
  split
  · refine Attempt.Asks.bind (Attempt.asks_expect _ ⟨.inr (.inl rfl), fun _ => trivial⟩) ?_
    intro contents
    apply (Attempt.asks_ofExcept _).bind
    intro settings
    exact Attempt.asks_log_bind (.inr (.inr rfl)) (Attempt.asks_pure _)
  · exact Attempt.asks_ofExcept _

/-- Where the configuration file of the user of a machine is kept. -/
def ownPath? (machine : Machine) : Option Path :=
  defaultPath? machine.environment machine.host.home

theorem perform_discover_of_named (machine : Machine) (path : Path) :
    (discover (some path)).perform machine = (load path).perform machine := rfl

theorem perform_discover_none (machine : Machine) :
    (discover none).perform machine =
      match ownPath? machine with
      | none => (.ok .empty, machine)
      | some path =>
        if machine.files.isPresent path then (load path).perform machine
        else (.ok .empty, machine) := by
  rw [discover, Attempt.perform_bind_of_ok (Attempt.perform_environment machine),
    Attempt.perform_bind_of_ok (Attempt.perform_accountHome machine)]
  change Attempt.perform (match ownPath? machine with
    | none => pure Settings.empty
    | some path => _) machine = _
  cases ownPath? machine with
  | none => rfl
  | some path =>
      simp only
      rw [Attempt.perform_bind_of_ok (Attempt.perform_isPresent machine path)]
      split
      · rfl
      · rfl

variable {machine : Machine}

theorem perform_discover_of_own (own : ownPath? machine = some path)
    (present : machine.files.isPresent path = true) :
    (discover none).perform machine = (load path).perform machine := by
  rw [perform_discover_none, own]
  exact if_pos present

theorem perform_discover_of_absent
    (absent : ∀ path, ownPath? machine = some path → machine.files.isPresent path = false) :
    (discover none).perform machine = (.ok .empty, machine) := by
  rw [perform_discover_none]
  cases own : ownPath? machine with
  | none => rfl
  | some path => exact if_neg (by simp [absent path own])

/-- Settings are sought in one file, which is named or there, or in none. -/
inductive DiscoverCourse (machine : Machine) :
    Option Path → Except SettingsFailure Settings × Machine → Prop
  | named {path : Path} {outcome : Except SettingsFailure Settings}
      (sought : inFile machine.files path = outcome) :
      DiscoverCourse machine (some path) (outcome, told machine path outcome)
  | own {path : Path} {outcome : Except SettingsFailure Settings}
      (own : ownPath? machine = some path) (present : machine.files.isPresent path = true)
      (sought : inFile machine.files path = outcome) :
      DiscoverCourse machine none (outcome, told machine path outcome)
  | nowhere
      (absent : ∀ path, ownPath? machine = some path → machine.files.isPresent path = false) :
      DiscoverCourse machine none (.ok .empty, machine)

theorem discoverCourse (machine : Machine) (explicit : Option Path) :
    DiscoverCourse machine explicit ((discover explicit).perform machine) := by
  cases explicit with
  | some path =>
      rw [perform_discover_of_named, perform_load]
      exact .named rfl
  | none =>
      by_cases absent : ∀ path, ownPath? machine = some path →
          machine.files.isPresent path = false
      · rw [perform_discover_of_absent absent]
        exact .nowhere absent
      · simp only [Classical.not_forall, Bool.not_eq_false] at absent
        obtain ⟨path, own, present⟩ := absent
        rw [perform_discover_of_own own present, perform_load]
        exact .own own present rfl

/-- Settings that are found are those of the text in a file. -/
theorem inFile_eq_ok {settings : Settings} (found : inFile files path = .ok settings) :
    ∃ place text permissions, files.LeadsTo path place ∧
      files.node? place = some (.file (Utf8.encode text) permissions) ∧
      parse text path = .ok settings := by
  cases (inFile_eq_iff _).mp found with
  | text leads allowed there readable parsed => exact ⟨_, _, _, leads, there, parsed⟩

theorem parse_ne_missing (text : String) (origin other : Path) :
    parse text origin ≠ .error (.missing other) := by
  rw [parse]
  split
  · nofun
  · split
    · nofun
    · split
      · nofun
      · nofun

theorem inFile_ne_missing (present : files.isPresent path = true) (other : Path) :
    inFile files path ≠ .error (.missing other) := by
  obtain ⟨⟨place, leads⟩, allowed⟩ := FileSystem.isPresent_iff.mp present
  intro missing
  cases (inFile_eq_iff _).mp missing with
  | missing absent => exact absent place leads
  | refused refuses => exact allowed refuses
  | text leads allowed there readable parsed => exact parse_ne_missing _ path other parsed

theorem told_cases (machine : Machine) (path : Path) (outcome : Except SettingsFailure Settings) :
    told machine path outcome = machine ∨
      ∃ other, told machine path outcome = machine.log (loadedRecord other) := by
  cases outcome with
  | ok settings => exact .inr ⟨path, rfl⟩
  | error failure => exact .inl rfl

/-- Settings that are sought leave at most a record behind. -/
theorem DiscoverCourse.after {explicit : Option Path} {outcome : Except SettingsFailure Settings}
    {last : Machine} (course : DiscoverCourse machine explicit (outcome, last)) :
    last = machine ∨ ∃ path, last = machine.log (loadedRecord path) := by
  cases course with
  | named sought => exact told_cases machine _ _
  | own own present sought => exact told_cases machine _ _
  | nowhere absent => exact .inl rfl

/-- Settings come from the file that is named and from no other, or else from the user's own, which
is then treated like a named one; and nothing is set where none is to be had there. A file that
stands where the path leads is never done without, unless a limit refuses the lookup. Only a named
one is reported missing, and no file is changed but that of a log. -/
theorem discover_outcome (machine : Machine) :
    (∀ path,
      (∀ outcome, ((discover (some path)).perform machine).1 = outcome ↔
        FileOutcome machine.files path outcome) ∧
      (discover (some path)).Asks (LooksAt path)) ∧
    (∀ path place, ownPath? machine = some path → machine.files.LeadsTo path place →
      ¬ machine.files.Refuses path →
      (discover none).perform machine = (discover (some path)).perform machine) ∧
    ((∀ path, ownPath? machine = some path →
      (∀ place, ¬ machine.files.LeadsTo path place) ∨ machine.files.Refuses path) →
      (discover none).perform machine = (.ok .empty, machine)) ∧
    (∀ explicit path place settings,
      explicit.or (ownPath? machine) = some path → machine.files.LeadsTo path place →
      ¬ machine.files.Refuses path →
      ((discover explicit).perform machine).1 = .ok settings →
      ∃ text permissions,
        machine.files.node? place = some (.file (Utf8.encode text) permissions) ∧
          parse text path = .ok settings) ∧
    (∀ path, ((discover none).perform machine).1 ≠ .error (.missing path)) ∧
    (machine.files.IsTree → ∀ path place, machine.files.LeadsTo path place →
      machine.files.node? place = some .directory ∨ machine.files.IsFile place) ∧
    ∀ explicit,
      (((discover explicit).perform machine).2 = machine ∨
        ∃ path, ((discover explicit).perform machine).2 = machine.log (loadedRecord path)) ∧
      ∀ place, ¬ machine.LogsTo place →
        ((discover explicit).perform machine).2.files.node? place =
          machine.files.node? place := by
  refine ⟨?_, ?_, ?_, ?_, ?_, fun tree path place leads => leads.directory_or_file tree, ?_⟩
  · intro path
    refine ⟨?_, asks_load path⟩
    intro outcome
    rw [perform_discover_of_named, perform_load]
    exact inFile_eq_iff outcome
  · intro path place own leads allowed
    exact perform_discover_of_own own (FileSystem.isPresent_iff.mpr ⟨⟨place, leads⟩, allowed⟩)
  · intro absent
    apply perform_discover_of_absent
    intro path own
    exact FileSystem.isPresent_eq_false_iff.mpr (absent path own)
  · intro explicit path place settings consulted leads allowed found
    have present := FileSystem.isPresent_iff.mpr ⟨⟨place, leads⟩, allowed⟩
    have loaded : ((discover explicit).perform machine).1 = inFile machine.files path := by
      cases explicit with
      | some named =>
          cases consulted
          rw [perform_discover_of_named, perform_load]
      | none => rw [perform_discover_of_own consulted present, perform_load]
    obtain ⟨other, text, permissions, there, file, parsed⟩ :=
      inFile_eq_ok (loaded.symm.trans found)
    cases there.unique leads allowed
    exact ⟨text, permissions, file, parsed⟩
  · intro path
    have course := discoverCourse machine none
    generalize (discover none).perform machine = ending at course ⊢
    cases course with
    | own own present sought => exact sought ▸ inFile_ne_missing present path
    | nowhere absent => nofun
  · intro explicit
    have course := discoverCourse machine explicit
    generalize (discover explicit).perform machine = ending at course ⊢
    obtain ⟨outcome, last⟩ := ending
    refine ⟨course.after, ?_⟩
    intro place elsewhere
    rcases course.after with rfl | ⟨path, rfl⟩
    · rfl
    · exact Machine.node?_log elsewhere (loadedRecord path)

/-- The path of the root, round about through a link to it. -/
def roundAbout (links : Nat) : String :=
  "/" ++ String.join (List.replicate links "s/")

/-- A user whose home directory, which is on record only, is the root by way of so many links, and
whose configuration has the text. -/
def behindLinks (links : Nat) (text : String) (closed : List Place := []) : Machine where
  files :=
    { entries := [(["s"], .link ⟨"."⟩), ([".config"], .directory),
        ([".config", "Buildversion"], .directory),
        ([".config", "Buildversion", "buildversion.toml"], .file (Utf8.encode text) 0o600)]
      workingPlace := []
      rights := .ofOwner closed }
  environment := ⟨[("HOME", "")]⟩
  now := ⟨1970, 1, 1, 0, 0, 0, 0⟩
  output := ""
  errors := ""
  logger := none
  host := { home := some (roundAbout links) }

/-- The user's own file, behind a link. -/
theorem discover_outcome_behind_link :
    let machine := behindLinks 1 "[inject]\nfrom = 'b'\n"
    let path : Path := ⟨"/s/.config/Buildversion/buildversion.toml"⟩
    (discover none).perform machine = (discover (some path)).perform machine ∧
      ∃ text permissions,
        machine.files.node? [".config", "Buildversion", "buildversion.toml"] =
          some (.file (Utf8.encode text) permissions) ∧
        parse text path = .ok ⟨.empty, some "b", none⟩ := by
  intro machine path
  have own : ownPath? machine = some path := by decide +kernel
  have found : machine.files.find path =
      .ok [".config", "Buildversion", "buildversion.toml"] := by decide +kernel
  have parsed : parse "[inject]\nfrom = 'b'\n" path = .ok ⟨.empty, some "b", none⟩ := by cbv
  have leads := FileSystem.leadsTo_of_find (by decide +kernel) found
  have allowed := FileSystem.not_refuses_of_find found
  have taken : ((discover none).perform machine).1 = .ok ⟨.empty, some "b", none⟩ := by
    rw [perform_discover_of_own own (FileSystem.isPresent_iff.mpr ⟨⟨_, leads⟩, allowed⟩),
      perform_load]
    exact (inFile_eq_iff _).mpr (.text leads allowed rfl rfl parsed)
  obtain ⟨-, sameAsNamed, -, ofText, -⟩ := discover_outcome machine
  exact ⟨sameAsNamed path _ own leads allowed, ofText none path _ _ own leads allowed taken⟩

/-- A file stands where the user's own path leads and gives no settings, and yet it is done
without. -/
def IsPassedOver (machine : Machine) : Prop :=
  ∃ path place text permissions failure,
    ownPath? machine = some path ∧ machine.files.LeadsTo path place ∧
      machine.files.node? place = some (.file (Utf8.encode text) permissions) ∧
      parse text path = .error failure ∧
      (discover none).perform machine = (.ok .empty, machine)

theorem isPassedOver_of_refused (errno : Errno) {links : Nat} {closed : List Place}
    (own : ownPath? (behindLinks links "inject.from=''" closed) = some path)
    (leads : (behindLinks links "inject.from=''" closed).files.LeadsTo path
      [".config", "Buildversion", "buildversion.toml"])
    (limit : errno ∈ FileSystem.limitErrors)
    (refused : (behindLinks links "inject.from=''" closed).files.find path = .error errno) :
    IsPassedOver (behindLinks links "inject.from=''" closed) := by
  have broken : parse "inject.from=''" path =
      .error (.invalid path "inject.from: Slot text cannot be empty") := by cbv
  refine ⟨path, _, _, 0o600, _, own, leads, rfl, broken, perform_discover_of_absent ?_⟩
  intro other same
  cases own.symm.trans same
  exact FileSystem.isPresent_eq_false_iff.mpr (.inr ⟨errno, limit, refused⟩)

/-- Behind one link more than a lookup follows, and below a closed directory, the user's own file
is passed over, whatever it holds. -/
theorem own_file_passed_over :
    IsPassedOver (behindLinks 41 "inject.from=''") ∧
      IsPassedOver (behindLinks 0 "inject.from=''" [[".config"]]) := by
  constructor
  · have leads : (behindLinks 41 "inject.from=''").files.LeadsTo
        ⟨roundAbout 41 ++ ".config/Buildversion/buildversion.toml"⟩
        [".config", "Buildversion", "buildversion.toml"] :=
      ⟨by decide +kernel, by decide +kernel, FileSystem.leads_of_walk 41 (by decide +kernel)⟩
    exact isPassedOver_of_refused .tooManyLinks (by decide +kernel) leads (by decide)
      (by decide +kernel)
  · have opened : (behindLinks 0 "inject.from=''").files.find
        ⟨"/.config/Buildversion/buildversion.toml"⟩ =
          .ok [".config", "Buildversion", "buildversion.toml"] := by decide +kernel
    have closed : (behindLinks 0 "inject.from=''" [[".config"]]).files.LeadsTo
        ⟨"/.config/Buildversion/buildversion.toml"⟩
        [".config", "Buildversion", "buildversion.toml"] :=
      (FileSystem.leadsTo_of_find (by decide +kernel) opened).congr rfl fun _ => rfl
    exact isPassedOver_of_refused .accessDenied (by decide +kernel) closed (by decide)
      (by decide +kernel)

end BuildStamp.Settings
