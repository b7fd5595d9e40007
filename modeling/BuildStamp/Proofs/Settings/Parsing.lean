import BuildStamp.Settings.File
import Mathlib

set_option autoImplicit false

/-!
Which documents hold settings, and which settings they are. A document whose groups are tables is
malformed exactly if one of its keys is unknown or one of its values has the wrong type. Only
then are the values looked at, in the order level, layout, slot text, and the first one that may not
be set is what the whole document is refused for. A document that is accepted gives every setting
as it is written there, but for the level, which is given in lower case.
-/

namespace BuildStamp.Settings

/-- A value is a string. -/
def IsText (value : Toml.Value) : Prop :=
  ∃ text, value = .string text

/-- A value is a boolean. -/
def IsFlag (value : Toml.Value) : Prop :=
  ∃ flag, value = .boolean flag

/-- The entries of the table that stands under a key; there are none if the key is left out. -/
inductive TableAt (entries : Toml.Entries) (key : String) : Toml.Entries → Prop
  | absent (leftOut : entries.lookup key = none) : TableAt entries key []
  | present {origin : Toml.TableOrigin} {inner : Toml.Entries}
      (found : entries.lookup key = some (.table origin inner)) : TableAt entries key inner

/-- Every key of a document with two groups is known, and every value of the right type. -/
structure WellTyped (entries logging injection : Toml.Entries) : Prop where
  groups : ∀ key value, entries.lookup key = some value → key ∈ ["logging", "inject"]
  logging : ∀ key value, logging.lookup key = some value →
    key ∈ ["level", "format", "file"] ∧ IsText value ∨ key = "color" ∧ IsFlag value
  injection : ∀ key value, injection.lookup key = some value →
    key ∈ ["from", "value_file"] ∧ IsText value

/-- The string that a table holds under a key. -/
def textAt? (entries : Toml.Entries) (key : String) : Option String :=
  match entries.lookup key with
  | some (.string text) => some text
  | _ => none

/-- The boolean that a table holds under a key. -/
def flagAt? (entries : Toml.Entries) (key : String) : Option Bool :=
  match entries.lookup key with
  | some (.boolean flag) => some flag
  | _ => none

/-- The settings as two tables have them. -/
def written (logging injection : Toml.Entries) : Settings :=
  { logging :=
      { level := textAt? logging "level"
        format := textAt? logging "format"
        file := (textAt? logging "file").map Path.mk
        color := flagAt? logging "color" }
    injection :=
      { expected := textAt? injection "from"
        valueFile := (textAt? injection "value_file").map Path.mk } }

/-- The settings with the level in lower case. -/
def lowered (settings : Settings) : Settings :=
  { settings with
    logging := { settings.logging with level := settings.logging.level.map LowerCase.ofText } }

/-- Every value may be set. -/
structure Admissible (settings : Settings) : Prop where
  level : ∀ text, settings.logging.level = some text → LowerCase.ofText text ∈ Threshold.names
  format : ∀ text, settings.logging.format = some text → text ∈ Layout.names
  expected : ∀ text, settings.injection.expected = some text →
    text ≠ "" ∧ Char.ofNat 0 ∉ text.toList

/-- What is told of the first value that may not be set. -/
inductive FirstOffence (settings : Settings) : String → Prop
  | level {text : String} (given : settings.logging.level = some text)
      (unknown : LowerCase.ofText text ∉ Threshold.names) :
      FirstOffence settings (Objection.unknownLevel text).message
  | format {text : String}
      (level : ∀ text, settings.logging.level = some text →
        LowerCase.ofText text ∈ Threshold.names)
      (given : settings.logging.format = some text) (unknown : text ∉ Layout.names) :
      FirstOffence settings (Objection.unknownFormat text).message
  | expected {text : String} {objection : Objection}
      (level : ∀ text, settings.logging.level = some text →
        LowerCase.ofText text ∈ Threshold.names)
      (format : ∀ text, settings.logging.format = some text → text ∈ Layout.names)
      (given : settings.injection.expected = some text)
      (unfit : text = "" ∧ objection = .emptySlotText ∨
        text ≠ "" ∧ Char.ofNat 0 ∈ text.toList ∧ objection = .nulInSlotText) :
      FirstOffence settings ("inject.from: " ++ objection.message)

theorem exists_lookup_of_mem {entries : Toml.Entries} {entry : String × Toml.Value}
    (member : entry ∈ entries) : ∃ value, entries.lookup entry.1 = some value := by
  rw [← Option.isSome_iff_exists, List.lookup_isSome_iff]
  exact ⟨entry, member, beq_self_eq_true entry.1⟩

theorem mem_of_lookup {entries : Toml.Entries} {key : String} {value : Toml.Value}
    (found : entries.lookup key = some value) : (key, value) ∈ entries := by
  obtain ⟨front, back, rfl, -⟩ := List.lookup_eq_some_iff.mp found
  exact List.mem_append_right front List.mem_cons_self

theorem checkKeys_eq_ok_iff (names : List String) (entries : Toml.Entries) :
    checkKeys names entries = .ok () ↔
      ∀ key value, entries.lookup key = some value → key ∈ names := by
  have known : checkKeys names entries = .ok () ↔ ∀ entry ∈ entries, entry.1 ∈ names := by
    rw [checkKeys]
    split
    · rename_i entry found
      have member := List.mem_of_find?_eq_some found
      have stranger := List.find?_some found
      simp only [reduceCtorEq, false_iff]
      intro all
      simp [all entry member] at stranger
    · rename_i absent
      simpa using absent
  rw [known]
  constructor
  · intro all key value found
    exact all _ (mem_of_lookup found)
  · intro all entry member
    obtain ⟨value, found⟩ := exists_lookup_of_mem member
    exact all _ _ found

theorem TableAt.group_eq {entries inner : Toml.Entries} {key : String}
    (table : TableAt entries key inner) (names : List String) :
    group key names (entries.lookup key) =
      match checkKeys names inner with
      | .error mismatch => .error mismatch
      | .ok () => .ok fun name => inner.lookup name := by
  cases table with
  | absent leftOut =>
      rw [leftOut]
      rfl
  | present found =>
      rw [found]
      rfl

theorem text?_eq_ok_iff (key : String) (entries : Toml.Entries) (name : String)
    (text : Option String) :
    text? key (entries.lookup name) = .ok text ↔
      (∀ value, entries.lookup name = some value → IsText value) ∧
        text = textAt? entries name := by
  rw [textAt?]
  cases entries.lookup name with
  | none => simp [text?, eq_comm]
  | some value => cases value <;> simp [text?, IsText, eq_comm]

theorem boolean?_eq_ok_iff (key : String) (entries : Toml.Entries) (name : String)
    (flag : Option Bool) :
    boolean? key (entries.lookup name) = .ok flag ↔
      (∀ value, entries.lookup name = some value → IsFlag value) ∧
        flag = flagAt? entries name := by
  rw [flagAt?]
  cases entries.lookup name with
  | none => simp [boolean?, eq_comm]
  | some value => cases value <;> simp [boolean?, IsFlag, eq_comm]

/-- The keys and types of the group of the log, one setting after the other. -/
theorem wellTyped_logging_iff (logging : Toml.Entries) :
    (∀ key value, logging.lookup key = some value →
        key ∈ ["level", "format", "file"] ∧ IsText value ∨ key = "color" ∧ IsFlag value) ↔
      checkKeys ["level", "format", "file", "color"] logging = .ok () ∧
        (∀ value, logging.lookup "level" = some value → IsText value) ∧
        (∀ value, logging.lookup "format" = some value → IsText value) ∧
        (∀ value, logging.lookup "file" = some value → IsText value) ∧
        ∀ value, logging.lookup "color" = some value → IsFlag value := by
  rw [checkKeys_eq_ok_iff]
  constructor
  · intro typed
    refine ⟨?_, ?_, ?_, ?_, ?_⟩
    · intro key value found
      rcases typed key value found with ⟨known, -⟩ | ⟨rfl, -⟩
      · exact List.mem_append_left ["color"] known
      · decide
    all_goals
      intro value found
      simpa using typed _ value found
  · rintro ⟨known, level, format, file, color⟩ key value found
    have member := known key value found
    simp only [List.mem_cons, List.not_mem_nil, or_false] at member
    rcases member with rfl | rfl | rfl | rfl
    · exact Or.inl ⟨by decide, level value found⟩
    · exact Or.inl ⟨by decide, format value found⟩
    · exact Or.inl ⟨by decide, file value found⟩
    · exact Or.inr ⟨rfl, color value found⟩

theorem wellTyped_injection_iff (injection : Toml.Entries) :
    (∀ key value, injection.lookup key = some value →
        key ∈ ["from", "value_file"] ∧ IsText value) ↔
      checkKeys ["from", "value_file"] injection = .ok () ∧
        (∀ value, injection.lookup "from" = some value → IsText value) ∧
        ∀ value, injection.lookup "value_file" = some value → IsText value := by
  rw [checkKeys_eq_ok_iff]
  constructor
  · intro typed
    exact ⟨fun key value found => (typed key value found).1,
      fun value found => (typed _ value found).2, fun value found => (typed _ value found).2⟩
  · rintro ⟨known, expected, valueFile⟩ key value found
    have member := known key value found
    refine ⟨member, ?_⟩
    simp only [List.mem_cons, List.not_mem_nil, or_false] at member
    rcases member with rfl | rfl
    · exact expected value found
    · exact valueFile value found

theorem decode_logging_eq_ok_iff {entries logging : Toml.Entries}
    (table : TableAt entries "logging" logging) (injection : Toml.Entries)
    (settings : LoggingSettings) :
    LoggingSettings.decode (entries.lookup "logging") = .ok settings ↔
      (∀ key value, logging.lookup key = some value →
        key ∈ ["level", "format", "file"] ∧ IsText value ∨ key = "color" ∧ IsFlag value) ∧
      settings = (written logging injection).logging := by
  rw [wellTyped_logging_iff, LoggingSettings.decode, table.group_eq]
  constructor
  · intro decoded
    split at decoded
    · cases decoded
    · rename_i field grouped
      split at grouped
      · cases grouped
      · rename_i known
        cases grouped
        split at decoded
        · rename_i level format file color leveled formatted filed colored
          cases decoded
          rw [text?_eq_ok_iff] at leveled formatted filed
          rw [boolean?_eq_ok_iff] at colored
          obtain ⟨levelText, rfl⟩ := leveled
          obtain ⟨formatText, rfl⟩ := formatted
          obtain ⟨fileText, rfl⟩ := filed
          obtain ⟨colorFlag, rfl⟩ := colored
          exact ⟨⟨known, levelText, formatText, fileText, colorFlag⟩, rfl⟩
        all_goals cases decoded
  · rintro ⟨⟨known, level, format, file, color⟩, rfl⟩
    simp only [known, (text?_eq_ok_iff "level" logging "level" _).mpr ⟨level, rfl⟩,
      (text?_eq_ok_iff "format" logging "format" _).mpr ⟨format, rfl⟩,
      (text?_eq_ok_iff "file" logging "file" _).mpr ⟨file, rfl⟩,
      (boolean?_eq_ok_iff "color" logging "color" _).mpr ⟨color, rfl⟩]
    rfl

theorem decode_injection_eq_ok_iff {entries injection : Toml.Entries}
    (table : TableAt entries "inject" injection) (logging : Toml.Entries)
    (settings : InjectionSettings) :
    InjectionSettings.decode (entries.lookup "inject") = .ok settings ↔
      (∀ key value, injection.lookup key = some value →
        key ∈ ["from", "value_file"] ∧ IsText value) ∧
      settings = (written logging injection).injection := by
  rw [wellTyped_injection_iff, InjectionSettings.decode, table.group_eq]
  constructor
  · intro decoded
    split at decoded
    · cases decoded
    · rename_i field grouped
      split at grouped
      · cases grouped
      · rename_i known
        cases grouped
        split at decoded
        · rename_i expected valueFile given filed
          cases decoded
          rw [text?_eq_ok_iff] at given filed
          obtain ⟨expectedText, rfl⟩ := given
          obtain ⟨fileText, rfl⟩ := filed
          exact ⟨⟨known, expectedText, fileText⟩, rfl⟩
        all_goals cases decoded
  · rintro ⟨⟨known, expected, valueFile⟩, rfl⟩
    simp only [known, (text?_eq_ok_iff "from" injection "from" _).mpr ⟨expected, rfl⟩,
      (text?_eq_ok_iff "value_file" injection "value_file" _).mpr ⟨valueFile, rfl⟩]
    rfl

section

variable {entries logging injection : Toml.Entries}

theorem decode_eq_ok_iff (loggingTable : TableAt entries "logging" logging)
    (injectionTable : TableAt entries "inject" injection) (settings : Settings) :
    decode entries = .ok settings ↔
      WellTyped entries logging injection ∧ settings = written logging injection := by
  rw [decode]
  constructor
  · intro decoded
    split at decoded
    · cases decoded
    · rename_i known
      split at decoded
      · rename_i log inject logged injected
        cases decoded
        obtain ⟨loggingTyped, rfl⟩ :=
          (decode_logging_eq_ok_iff loggingTable injection log).mp logged
        obtain ⟨injectionTyped, rfl⟩ :=
          (decode_injection_eq_ok_iff injectionTable logging inject).mp injected
        exact ⟨⟨(checkKeys_eq_ok_iff _ _).mp known, loggingTyped, injectionTyped⟩, rfl⟩
      all_goals cases decoded
  · rintro ⟨typed, rfl⟩
    simp only [(checkKeys_eq_ok_iff _ _).mpr typed.groups,
      (decode_logging_eq_ok_iff loggingTable injection _).mpr ⟨typed.logging, rfl⟩,
      (decode_injection_eq_ok_iff injectionTable logging _).mpr ⟨typed.injection, rfl⟩]

end

theorem checkOptional_map {check : String → Except Objection String} {change : String → String}
    {given : Option String}
    (passes : ∀ text, given = some text → check text = .ok (change text)) :
    checkOptional check given = .ok (given.map change) := by
  cases given with
  | none => rfl
  | some text => rw [checkOptional, passes text rfl, Option.map_some]

theorem checkOptional_of_error {check : String → Except Objection String} {text : String}
    {objection : Objection} (refused : check text = .error objection) :
    checkOptional check (some text) = .error objection := by
  rw [checkOptional, refused]

section

variable {settings : Settings}

theorem checkOptional_level
    (level : ∀ text, settings.logging.level = some text →
      LowerCase.ofText text ∈ Threshold.names) :
    checkOptional checkLevel settings.logging.level =
      .ok (settings.logging.level.map LowerCase.ofText) := by
  apply checkOptional_map
  intro text given
  rw [checkLevel, if_pos (List.contains_iff_mem.mpr (level text given))]

theorem checkOptional_format
    (format : ∀ text, settings.logging.format = some text → text ∈ Layout.names) :
    checkOptional checkFormat settings.logging.format = .ok settings.logging.format := by
  have passed : ∀ text, settings.logging.format = some text → checkFormat text = .ok (id text) := by
    intro text given
    rw [checkFormat, if_pos (List.contains_iff_mem.mpr (format text given)), id]
  rw [checkOptional_map passed, Option.map_id, id]

theorem normalize_of_admissible (admissible : Admissible settings) :
    settings.normalize = .ok settings.lowered := by
  have passed : ∀ text, settings.injection.expected = some text →
      checkSlotText text = .ok (id text) := by
    intro text given
    obtain ⟨nonempty, nulFree⟩ := admissible.expected text given
    rw [checkSlotText, if_neg nonempty, if_neg (by simpa using nulFree), id]
  rw [normalize, checkOptional_level admissible.level, checkOptional_format admissible.format,
    checkOptional_map passed, Option.map_id]
  rfl

theorem normalize_of_firstOffence {message : String} (offence : FirstOffence settings message) :
    settings.normalize = .error message := by
  cases offence with
  | @level text given unknown =>
      have refused : checkLevel text = .error (.unknownLevel text) := by
        rw [checkLevel, if_neg (by rwa [List.contains_iff_mem])]
      rw [normalize, given, checkOptional_of_error refused]
  | @format text level given unknown =>
      have refused : checkFormat text = .error (.unknownFormat text) := by
        rw [checkFormat, if_neg (by rwa [List.contains_iff_mem])]
      rw [normalize, checkOptional_level level, given, checkOptional_of_error refused]
  | @expected text objection level format given unfit =>
      have refused : checkSlotText text = .error objection := by
        rcases unfit with ⟨rfl, rfl⟩ | ⟨nonempty, nul, rfl⟩
        · rfl
        · rw [checkSlotText, if_neg nonempty, if_pos (List.contains_iff_mem.mpr nul)]
      rw [normalize, checkOptional_level level, checkOptional_format format, given,
        checkOptional_of_error refused]

/-- A value that no check lets through, if there is one. -/
theorem admissible_or_firstOffence (settings : Settings) :
    Admissible settings ∨ ∃ message, FirstOffence settings message := by
  by_cases level : ∀ text, settings.logging.level = some text →
      LowerCase.ofText text ∈ Threshold.names
  · by_cases format : ∀ text, settings.logging.format = some text → text ∈ Layout.names
    · by_cases expected : ∀ text, settings.injection.expected = some text →
          text ≠ "" ∧ Char.ofNat 0 ∉ text.toList
      · exact Or.inl ⟨level, format, expected⟩
      · simp only [Classical.not_forall] at expected
        obtain ⟨text, given, unfit⟩ := expected
        right
        by_cases empty : text = ""
        · exact ⟨_, .expected level format given (Or.inl ⟨empty, rfl⟩)⟩
        · have nul : Char.ofNat 0 ∈ text.toList := by
            apply Classical.byContradiction
            intro nulFree
            exact unfit ⟨empty, nulFree⟩
          exact ⟨_, .expected level format given (Or.inr ⟨empty, nul, rfl⟩)⟩
    · simp only [Classical.not_forall] at format
      obtain ⟨text, given, unknown⟩ := format
      exact Or.inr ⟨_, .format level given unknown⟩
  · simp only [Classical.not_forall] at level
    obtain ⟨text, given, unknown⟩ := level
    exact Or.inr ⟨_, .level given unknown⟩

theorem FirstOffence.not_admissible {message : String} (offence : FirstOffence settings message) :
    ¬ Admissible settings := by
  intro admissible
  have refused := normalize_of_firstOffence offence
  rw [normalize_of_admissible admissible] at refused
  cases refused

end

section

variable {text : String} {entries logging injection : Toml.Entries}

theorem parse_of_wellTyped (document : Toml.read text = .ok entries)
    (loggingTable : TableAt entries "logging" logging)
    (injectionTable : TableAt entries "inject" injection)
    (typed : WellTyped entries logging injection) (origin : Path) :
    parse text origin = (written logging injection).normalize.mapError (.invalid origin) := by
  have decoded := (decode_eq_ok_iff loggingTable injectionTable _).mpr ⟨typed, rfl⟩
  simp only [parse, document, decoded]
  cases (written logging injection).normalize <;> rfl

theorem parse_of_not_wellTyped (document : Toml.read text = .ok entries)
    (loggingTable : TableAt entries "logging" logging)
    (injectionTable : TableAt entries "inject" injection)
    (mistyped : ¬ WellTyped entries logging injection) (origin : Path) :
    ∃ message, parse text origin = .error (.malformed origin message) := by
  match decoded : decode entries with
  | .ok settings =>
      exact absurd ((decode_eq_ok_iff loggingTable injectionTable settings).mp decoded).1 mistyped
  | .error mismatch =>
      refine ⟨mismatch.message, ?_⟩
      simp only [parse, document, decoded]

/-- The settings of any document, be its groups tables or not, have passed the checks. -/
theorem admissible_of_parse {origin : Path} {settings : Settings}
    (parsed : parse text origin = .ok settings) :
    ∃ given, Admissible given ∧ settings = given.lowered := by
  rw [parse] at parsed
  split at parsed
  · cases parsed
  · split at parsed
    · cases parsed
    · rename_i given _
      rcases admissible_or_firstOffence given with admissible | ⟨message, offence⟩
      · rw [normalize_of_admissible admissible] at parsed
        cases parsed
        exact ⟨given, admissible, rfl⟩
      · rw [normalize_of_firstOffence offence] at parsed
        cases parsed

/-- The settings of a document whose groups are tables, or why there are none. -/
theorem parse_outcome (document : Toml.read text = .ok entries)
    (loggingTable : TableAt entries "logging" logging)
    (injectionTable : TableAt entries "inject" injection) (origin : Path) :
    (∀ settings, parse text origin = .ok settings ↔
      WellTyped entries logging injection ∧ Admissible (written logging injection) ∧
        settings = (written logging injection).lowered) ∧
    (¬ WellTyped entries logging injection →
      ∃ message, parse text origin = .error (.malformed origin message)) ∧
    (WellTyped entries logging injection → ¬ Admissible (written logging injection) →
      ∃ message, FirstOffence (written logging injection) message ∧
        parse text origin = .error (.invalid origin message)) := by
  by_cases typed : WellTyped entries logging injection
  · have parsed := parse_of_wellTyped document loggingTable injectionTable typed origin
    rcases admissible_or_firstOffence (written logging injection) with
      admissible | ⟨message, offence⟩
    · rw [normalize_of_admissible admissible, Except.mapError] at parsed
      refine ⟨fun settings => ?_, fun mistyped => absurd typed mistyped,
        fun _ inadmissible => absurd admissible inadmissible⟩
      simp [parsed, typed, admissible, eq_comm]
    · rw [normalize_of_firstOffence offence, Except.mapError] at parsed
      refine ⟨fun settings => ?_, fun mistyped => absurd typed mistyped,
        fun _ _ => ⟨message, offence, parsed⟩⟩
      simp [parsed, offence.not_admissible]
  · obtain ⟨message, parsed⟩ :=
      parse_of_not_wellTyped document loggingTable injectionTable typed origin
    refine ⟨fun settings => ?_, fun _ => ⟨message, parsed⟩, fun known => absurd known typed⟩
    simp [parsed, typed]

end

/-- One group by a dotted key, the other by a header, and a level in capitals. -/
def twoGroups : Toml.Entries :=
  [("logging", .table .dotted [("level", .string "DEBUG")]),
    ("inject", .table .header [("from", .string "b")])]

theorem parse_outcome_of_two_groups :
    Toml.read "logging.level = 'DEBUG'\n[inject]\nfrom = 'b'\n" = .ok twoGroups ∧
      TableAt twoGroups "logging" [("level", .string "DEBUG")] ∧
      TableAt twoGroups "inject" [("from", .string "b")] ∧
      parse "logging.level = 'DEBUG'\n[inject]\nfrom = 'b'\n" ⟨"a.toml"⟩ =
        .ok ⟨⟨some "debug", none, none, none⟩, ⟨some "b", none⟩⟩ := by
  have document : Toml.read "logging.level = 'DEBUG'\n[inject]\nfrom = 'b'\n" =
      .ok twoGroups := by cbv
  have loggingTable : TableAt twoGroups "logging" [("level", .string "DEBUG")] := .present rfl
  have injectionTable : TableAt twoGroups "inject" [("from", .string "b")] := .present rfl
  obtain ⟨accepted, -⟩ := parse_outcome document loggingTable injectionTable ⟨"a.toml"⟩
  have typed := ((decode_eq_ok_iff loggingTable injectionTable _).mp rfl).1
  refine ⟨document, loggingTable, injectionTable,
    (accepted _).mpr ⟨typed, ⟨?_, ?_, ?_⟩, by cbv⟩⟩
  · intro text given
    cases given
    decide
  · intro text given
    cases given
  · intro text given
    cases given
    decide

end BuildStamp.Settings
