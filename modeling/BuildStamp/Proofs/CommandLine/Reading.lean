import BuildStamp.CommandLine.Spelling

set_option autoImplicit false

/-!
Reading the words that spell flags, each with its value in the same word. One such word adds its
flag to what has been read and leaves nothing pending, so a row of them adds all of them, whatever
the values look like. In which order they stand is seen by no lookup, as long as no flag stands
there twice.
-/

namespace BuildStamp.CommandLine

/-- A flag by its name, with a value, or without one if it is a switch. -/
structure Spelling where
  name : String
  value : Option String

namespace Spelling

/-- The one word that spells it. -/
def word : Spelling → String
  | ⟨name, some value⟩ => valueWord name value
  | ⟨name, none⟩ => switchWord name

/-- What is read from it. -/
def entry (spelling : Spelling) : String × String :=
  (spelling.name, spelling.value.getD "")

/-- One of the flags is spelled, with a value that it accepts or as the switch that it is. -/
inductive IsFor (flags : List Flag) : Spelling → Prop
  | valued {name value : String} {flag : Flag}
      (known : flags.find? (fun other => other.name = name) = some flag)
      (takes : flag.kind.takesValue = true) (accepts : flag.kind.accepts value = true) :
      IsFor flags ⟨name, some value⟩
  | switch {name : String} {flag : Flag}
      (known : flags.find? (fun other => other.name = name) = some flag)
      (kind : flag.kind = .switch) : IsFor flags ⟨name, none⟩

end Spelling

/-- No name is empty or can be mistaken for one with a value behind it. -/
def HavePlainNames (flags : List Flag) : Prop :=
  ∀ flag ∈ flags, flag.name ≠ "" ∧ '=' ∉ flag.name.toList

instance (flags : List Flag) : Decidable (HavePlainNames flags) :=
  inferInstanceAs (Decidable (∀ flag ∈ flags, flag.name ≠ "" ∧ '=' ∉ flag.name.toList))

theorem HavePlainNames.of_known {flags : List Flag} {flag : Flag} {name : String}
    (plain : HavePlainNames flags)
    (known : flags.find? (fun other => other.name = name) = some flag) :
    name ≠ "" ∧ '=' ∉ name.toList := by
  obtain rfl : flag.name = name := by simpa using List.find?_some known
  exact plain flag (List.mem_of_find?_eq_some known)

namespace Word

theorem takeWhile_of_plain {name : List Char} (plain : '=' ∉ name) (rest : List Char) :
    (name ++ rest).takeWhile (· ≠ '=') = name ++ rest.takeWhile (· ≠ '=') := by
  apply List.takeWhile_append_of_pos
  intro letter member
  rw [decide_eq_true_iff]
  rintro rfl
  exact plain member

theorem ofLong_valued {name : List Char} (plain : '=' ∉ name) (value : List Char) :
    ofLong (name ++ '=' :: value) = .long (String.ofList name) (some (String.ofList value)) := by
  have front : (name ++ '=' :: value).takeWhile (· ≠ '=') = name := by
    rw [takeWhile_of_plain plain]
    simp
  simp only [ofLong, front, List.drop_left]

theorem ofLong_bare {name : List Char} (plain : '=' ∉ name) :
    ofLong name = .long (String.ofList name) none := by
  have front : name.takeWhile (· ≠ '=') = name := by
    simpa using takeWhile_of_plain plain []
  simp only [ofLong, front, List.drop_length]

theorem of_dashes {word : String} {rest : List Char} (dashes : word.toList = '-' :: '-' :: rest)
    (more : rest ≠ []) : of word = ofLong rest := by
  rw [of, dashes]
  cases rest with
  | nil => exact absurd rfl more
  | cons letter rest => rfl

/-- The value may be any text, since it stands behind the first equals sign. -/
theorem of_valueWord {name : String} (plain : '=' ∉ name.toList) (value : String) :
    of (valueWord name value) = .long name (some value) := by
  have dashes : (valueWord name value).toList =
      '-' :: '-' :: (name.toList ++ '=' :: value.toList) := by
    simp [valueWord]
  rw [of_dashes dashes (by simp), ofLong_valued plain]
  simp

theorem of_switchWord {name : String} (named : name ≠ "") (plain : '=' ∉ name.toList) :
    of (switchWord name) = .long name none := by
  have dashes : (switchWord name).toList = '-' :: '-' :: name.toList := by
    simp [switchWord]
  rw [of_dashes dashes (by simpa using named), ofLong_bare plain]
  simp

end Word

namespace Scan

variable {flags : List Flag} {commands : List String} {given : List (String × String)}
  {spelling : Spelling} {spellings : List Spelling}

theorem record_of_fresh {flag : Flag} {value : String} (fresh : given.lookup flag.name = none)
    (accepts : flag.kind.accepts value = true) :
    record ⟨given, none⟩ flag value = .ok ⟨given ++ [(flag.name, value)], none⟩ := by
  rw [record, fresh]
  simp [accepts]

/-- Every kind of flag that takes a value takes it from the same word. -/
theorem takeLong_of_value {name value : String} {flag : Flag}
    (known : flags.find? (fun other => other.name = name) = some flag)
    (takes : flag.kind.takesValue = true) (accepts : flag.kind.accepts value = true)
    (fresh : given.lookup name = none) :
    takeLong flags ⟨given, none⟩ name (some value) = .ok ⟨given ++ [(name, value)], none⟩ := by
  obtain rfl : flag.name = name := by simpa using List.find?_some known
  have recorded := record_of_fresh fresh accepts
  rw [takeLong, known]
  simp only [takes, Bool.true_eq_false, false_and, if_false, take, settle]
  cases kind : flag.kind with
  | text => exact recorded
  | path => exact recorded
  | choice names => exact recorded
  | _ =>
      rw [kind] at takes
      cases takes

theorem takeLong_of_switch {name : String} {flag : Flag}
    (known : flags.find? (fun other => other.name = name) = some flag)
    (kind : flag.kind = .switch) (fresh : given.lookup name = none) :
    takeLong flags ⟨given, none⟩ name none = .ok ⟨given ++ [(name, "")], none⟩ := by
  obtain rfl : flag.name = name := by simpa using List.find?_some known
  have accepts : flag.kind.accepts "" = true := by
    rw [kind]
    rfl
  have recorded := record_of_fresh fresh accepts
  rw [takeLong, known]
  simp [take, settle, kind, recorded]

theorem words_cons_of_long {scan next : Scan} {word name : String} {attached : Option String}
    (long : Word.of word = .long name attached)
    (taken : scan.takeLong flags name attached = .ok next) (rest : List String) :
    words flags commands scan (word :: rest) = words flags commands next rest := by
  rw [words.eq_def]
  simp only [long, taken]

/-- One word is read to the flag that it spells. -/
theorem words_cons_of_isFor (plain : HavePlainNames flags) (spells : spelling.IsFor flags)
    (fresh : given.lookup spelling.name = none) (rest : List String) :
    words flags commands ⟨given, none⟩ (spelling.word :: rest) =
      words flags commands ⟨given ++ [spelling.entry], none⟩ rest := by
  cases spells with
  | valued known takes accepts =>
      obtain ⟨-, plain⟩ := plain.of_known known
      exact words_cons_of_long (Word.of_valueWord plain _)
        (takeLong_of_value known takes accepts fresh) rest
  | switch known kind =>
      obtain ⟨named, plain⟩ := plain.of_known known
      exact words_cons_of_long (Word.of_switchWord named plain)
        (takeLong_of_switch known kind fresh) rest

/-- A row of words is read to the flags that they spell, behind those already read. -/
theorem words_of_spellings (plain : HavePlainNames flags)
    (spell : ∀ spelling ∈ spellings, spelling.IsFor flags)
    (distinct : (spellings.map Spelling.name).Nodup)
    (fresh : ∀ spelling ∈ spellings, given.lookup spelling.name = none) (rest : List String) :
    words flags commands ⟨given, none⟩ (spellings.map Spelling.word ++ rest) =
      words flags commands ⟨given ++ spellings.map Spelling.entry, none⟩ rest := by
  -- Each word adds to what has been read, so that stays open, and with it what the rest may not
  -- find there. Distinct names keep it so.
  induction spellings generalizing given with
  | nil => simp
  | cons first others ih =>
      obtain ⟨alone, distinct⟩ := List.nodup_cons.mp distinct
      have later : ∀ spelling ∈ others, (given ++ [first.entry]).lookup spelling.name = none := by
        intro spelling member
        have other : spelling.name ≠ first.name := by
          intro same
          exact alone (same ▸ List.mem_map_of_mem member)
        rw [List.lookup_append, fresh spelling (List.mem_cons_of_mem first member)]
        simp [Spelling.entry, List.lookup_cons, beq_eq_false_iff_ne.mpr other]
      rw [List.map_cons, List.cons_append,
        words_cons_of_isFor plain (spell first List.mem_cons_self) (fresh first List.mem_cons_self),
        ih (fun spelling member => spell spelling (List.mem_cons_of_mem first member)) distinct
          later]
      simp

end Scan

section

variable {α β : Type}

/-- A row of images in another order is a row of images of what stands in that order. -/
theorem exists_perm_of_perm_map {image : α → β} {row : List α} {images : List β}
    (order : images.Perm (row.map image)) :
    ∃ other : List α, other.Perm row ∧ images = other.map image := by
  generalize target : row.map image = goal at order
  induction order generalizing row with
  | nil =>
      obtain rfl := List.map_eq_nil_iff.mp target
      exact ⟨[], .refl _, rfl⟩
  | cons first order ih =>
      obtain ⟨head, tail, rfl, rfl, rest⟩ := List.map_eq_cons_iff.mp target
      obtain ⟨other, perm, rfl⟩ := ih rest
      exact ⟨head :: other, perm.cons head, rfl⟩
  | swap first second rest =>
      obtain ⟨head, tail, rfl, rfl, more⟩ := List.map_eq_cons_iff.mp target
      obtain ⟨next, last, rfl, rfl, rfl⟩ := List.map_eq_cons_iff.mp more
      exact ⟨next :: head :: last, .swap head next last, rfl⟩
  | trans one two ihOne ihTwo =>
      obtain ⟨middle, after, rfl⟩ := ihTwo target
      obtain ⟨other, before, rfl⟩ := ihOne rfl
      exact ⟨other, before.trans after, rfl⟩

theorem lookup_eq_some_iff_mem {entries : List (String × α)}
    (distinct : (entries.map Prod.fst).Nodup) (name : String) (value : α) :
    entries.lookup name = some value ↔ (name, value) ∈ entries := by
  induction entries with
  | nil => simp
  | cons first rest ih =>
      obtain ⟨key, held⟩ := first
      obtain ⟨alone, distinct⟩ := List.nodup_cons.mp distinct
      by_cases same : name = key
      · subst same
        have absent : (name, value) ∉ rest := by
          intro member
          exact alone (List.mem_map.mpr ⟨_, member, rfl⟩)
        simp [absent, eq_comm]
      · simp [List.lookup_cons, beq_eq_false_iff_ne.mpr same, ih distinct, same]

/-- No lookup sees the order of entries that have names of their own. -/
theorem lookup_eq_of_perm {one two : List (String × α)} (order : one.Perm two)
    (distinct : (two.map Prod.fst).Nodup) (name : String) : one.lookup name = two.lookup name := by
  have distinctOne : (one.map Prod.fst).Nodup := (order.map Prod.fst).nodup_iff.mpr distinct
  ext value
  rw [lookup_eq_some_iff_mem distinctOne, lookup_eq_some_iff_mem distinct, order.mem_iff]

end

namespace Scan

variable {flags : List Flag} {given other : List (String × String)} {spellings : List Spelling}

theorem finish_eq_ok_iff :
    finish flags ⟨given, none⟩ = .ok given ↔
      hasConflict flags given = false ∧ isIncomplete flags given = false := by
  simp only [finish, settle]
  cases hasConflict flags given <;> cases isIncomplete flags given <;> simp

/-- Whether a level is complete and free of conflicts is a matter of lookups. -/
theorem finish_eq_ok_of_lookup (same : ∀ name, other.lookup name = given.lookup name)
    (finished : finish flags ⟨given, none⟩ = .ok given) :
    finish flags ⟨other, none⟩ = .ok other := by
  rw [finish_eq_ok_iff] at finished ⊢
  simpa only [hasConflict, isIncomplete, same] using finished

/-- Spellings that make up a level of a command line: each one is for a flag of its own, and
together they are complete and free of conflicts. -/
structure IsLevel (flags : List Flag) (spellings : List Spelling) : Prop where
  plain : HavePlainNames flags
  spell : ∀ spelling ∈ spellings, spelling.IsFor flags
  distinct : (spellings.map Spelling.name).Nodup
  finished : finish flags ⟨spellings.map Spelling.entry, none⟩ =
    .ok (spellings.map Spelling.entry)

/-- The words of a level, in any order, are read to something that no lookup can tell from the level
in its first order. -/
theorem IsLevel.words_of_perm (level : IsLevel flags spellings) {row : List String}
    (order : row.Perm (spellings.map Spelling.word)) :
    ∃ given, (∀ name, given.lookup name = (spellings.map Spelling.entry).lookup name) ∧
      finish flags ⟨given, none⟩ = .ok given ∧
      ∀ commands rest,
        words flags commands start (row ++ rest) = words flags commands ⟨given, none⟩ rest := by
  obtain ⟨reordered, perm, rfl⟩ := exists_perm_of_perm_map order
  have names : (spellings.map Spelling.entry).map Prod.fst = spellings.map Spelling.name := by
    rw [List.map_map]
    rfl
  have same := lookup_eq_of_perm (perm.map Spelling.entry) (names ▸ level.distinct)
  refine ⟨reordered.map Spelling.entry, same, finish_eq_ok_of_lookup same level.finished, ?_⟩
  intro commands rest
  have spell : ∀ spelling ∈ reordered, spelling.IsFor flags := by
    intro spelling member
    exact level.spell spelling (perm.mem_iff.mp member)
  have distinct := (perm.map Spelling.name).nodup_iff.mpr level.distinct
  exact words_of_spellings level.plain spell distinct (fun _ _ => rfl) rest

end Scan

end BuildStamp.CommandLine
