import BuildStamp.Log.Layout
import BuildStamp.Proofs.Log.Origin
import BuildStamp.Proofs.Text.Json
import BuildStamp.Proofs.Text.Lines
import Mathlib.Data.List.DropRight

set_option autoImplicit false

/-!
Origins read back from log lines. The names in a module path hold none of the marks that the text of
an origin is put together with, so the text falls apart again: a colon begins the line number, an
ending tells the files of this program from the modules of others, and slashes part the names.
-/

namespace BuildStamp

/-- A module path by its names, beginning with that of a program. No name holds a colon, a slash or
a dot. -/
@[ext]
structure ModulePath where
  names : List String
  named : names ≠ []
  unmarked : ∀ name ∈ names, ':' ∉ name.toList ∧ '/' ∉ name.toList ∧ '.' ∉ name.toList

namespace Origin

/-- What an origin's text shows in front of the line. -/
def shownFile (text : String) : List Char :=
  text.toList.takeWhile (· ≠ ':')

/-- The names in the module path of a shown file. -/
def namesOfFile (file : List Char) : List String :=
  match file.dropSuffix? ".rs".toList with
  | some inner => "buildversion" :: (inner.splitOn '/').map String.ofList
  | none => (file.splitOn '/').map String.ofList

/-- The line that stands behind the colon in an origin's text. -/
def shownLine? (text : String) : Option Nat :=
  match text.toList.dropWhile (· ≠ ':') with
  | [] => none
  | _ :: digits => some (Nat.ofDigitChars 10 digits 0)

/-- The names and the line that an origin's text is made of. -/
def read (text : String) : List String × Option Nat :=
  (namesOfFile (shownFile text), shownLine? text)

end Origin

/-- What a line for people shows behind its last opening parenthesis, without the closing one. -/
def Layout.lastParenthesized (line : String) : String :=
  String.ofList (line.toList.rtakeWhile (· ≠ '(')).dropLast

theorem Parts.mem_intercalate {c : Char} {mark : List Char} {parts : List (List Char)}
    (member : c ∈ mark.intercalate parts) : c ∈ mark ∨ ∃ part ∈ parts, c ∈ part := by
  induction parts with
  | nil => exact absurd member List.not_mem_nil
  | cons part parts ih =>
      cases parts with
      | nil =>
          rw [List.intercalate_singleton] at member
          exact .inr ⟨part, List.mem_cons_self, member⟩
      | cons next parts =>
          rw [List.intercalate_cons_cons, List.mem_append, List.mem_append] at member
          obtain (first | between) | others := member
          · exact .inr ⟨part, List.mem_cons_self, first⟩
          · exact .inl between
          · exact (ih others).imp_right fun ⟨other, among, within⟩ =>
              ⟨other, List.mem_cons_of_mem part among, within⟩

namespace ModulePath

/-- The names, with two colons between them. -/
def text (path : ModulePath) : String :=
  "::".intercalate path.names

/-- The path goes on behind the name of the program. -/
def IsInside (path : ModulePath) (program : String) : Prop :=
  ∃ inner, inner ≠ [] ∧ path.names = program :: inner

/-- A place in the module. -/
def origin (path : ModulePath) (line : Option Nat) : Origin :=
  ⟨path.text, line⟩

variable {path : ModulePath} {names : List String} {line : Option Nat} {c : Char}

/-- The names between marks. -/
def joined (mark : String) (names : List String) : List Char :=
  mark.toList.intercalate (names.map String.toList)

theorem mem_joined {mark : String} (member : c ∈ joined mark names) :
    c ∈ mark.toList ∨ ∃ name ∈ names, c ∈ name.toList := by
  refine (Parts.mem_intercalate member).imp_right ?_
  rintro ⟨part, among, within⟩
  obtain ⟨name, listed, rfl⟩ := List.mem_map.mp among
  exact ⟨name, listed, within⟩

theorem joined_colons_cons (name : String) (more : names ≠ []) :
    joined "::" (name :: names) = name.toList ++ ':' :: ':' :: joined "::" names := by
  rw [joined, List.map_cons, List.intercalate_cons_of_ne_nil (by simpa using more),
    List.append_assoc]
  rfl

theorem slashed_joined (free : ∀ name ∈ names, ':' ∉ name.toList) :
    Origin.slashed (joined "::" names) = joined "/" names :=
  Origin.slashed_intercalate (List.forall_mem_map.mpr free)

theorem splitOn_joined (more : names ≠ []) (free : ∀ name ∈ names, '/' ∉ name.toList) :
    ((joined "/" names).splitOn '/').map String.ofList = names := by
  have parts : (joined "/" names).splitOn '/' = names.map String.toList :=
    List.splitOn_intercalate '/' (List.forall_mem_map.mpr free) (by simpa using more)
  simp [parts]

theorem toList_text (path : ModulePath) : path.text.toList = joined "::" path.names :=
  String.toList_intercalate

/-- A module path begins with the root of this program if it has the program's name first and goes
on behind it. -/
theorem toList_text_eq_root_append_iff (path : ModulePath) (rest : List Char) :
    path.text.toList = Origin.root ++ rest ↔
      ∃ inner, inner ≠ [] ∧ path.names = "buildversion" :: inner ∧ rest = joined "::" inner := by
  have root : Origin.root ++ rest = "buildversion".toList ++ ':' :: ':' :: rest := rfl
  rw [toList_text, root]
  constructor
  · intro same
    cases listed : path.names with
    | nil => exact absurd listed path.named
    | cons name inner =>
        have free : ':' ∉ name.toList := (path.unmarked name (listed ▸ List.mem_cons_self)).1
        rw [listed] at same
        by_cases alone : inner = []
        · rw [alone, joined, List.map_singleton, List.intercalate_singleton] at same
          exact absurd (same ▸ List.mem_append_right _ List.mem_cons_self) free
        · rw [joined_colons_cons _ alone] at same
          -- On either side the first colon ends the name of the program.
          have parts := congrArg (Parts.split ':') same
          rw [Parts.split_append_mark free, Parts.split_append_mark (by decide)] at parts
          have program := String.toList_inj.mp (List.cons.inj parts).1
          rw [program, List.append_cancel_left_eq, List.cons_inj_right, List.cons_inj_right] at same
          exact ⟨inner, alone, by rw [program], same.symm⟩
  · rintro ⟨inner, more, listed, rfl⟩
    rw [listed, joined_colons_cons _ more]

/-- What the file of a module is made of. -/
theorem toList_file (path : ModulePath) (line : Option Nat) :
    (∃ inner, inner ≠ [] ∧ path.names = "buildversion" :: inner ∧
      (path.origin line).file.toList = joined "/" inner ++ ".rs".toList) ∨
    ¬ path.IsInside "buildversion" ∧ (path.origin line).file.toList = joined "/" path.names := by
  have free : ∀ name ∈ path.names, ':' ∉ name.toList := fun name listed =>
    (path.unmarked name listed).1
  rw [Origin.file, origin]
  cases behind : Origin.stripped? Origin.root path.text.toList with
  | some rest =>
      obtain ⟨inner, more, listed, rfl⟩ :=
        (toList_text_eq_root_append_iff path rest).mp (Origin.stripped?_eq_some_iff.mp behind)
      rw [listed, List.forall_mem_cons] at free
      exact .inl ⟨inner, more, listed, by rw [String.toList_ofList, slashed_joined free.2]⟩
  | none =>
      have outside : ¬ path.IsInside "buildversion" := by
        rintro ⟨inner, more, listed⟩
        have begun := (toList_text_eq_root_append_iff path _).mpr ⟨inner, more, listed, rfl⟩
        rw [Origin.stripped?_eq_some_iff.mpr begun] at behind
        cases behind
      exact .inr ⟨outside, by rw [String.toList_ofList, toList_text, slashed_joined free]⟩

theorem ending_suffix_file_iff (path : ModulePath) (line : Option Nat) :
    ".rs".toList <:+ (path.origin line).file.toList ↔ path.IsInside "buildversion" := by
  obtain ⟨inner, more, listed, file⟩ | ⟨outside, file⟩ := toList_file path line
  · rw [file]
    exact iff_of_true (List.suffix_append _ _) ⟨inner, more, listed⟩
  · refine iff_of_false (fun ending => ?_) outside
    have dot : '.' ∈ joined "/" path.names := file ▸ ending.subset List.mem_cons_self
    obtain slash | ⟨name, listed, within⟩ := mem_joined dot
    · exact absurd slash (by decide)
    · exact (path.unmarked name listed).2.2 within

theorem namesOfFile_file (path : ModulePath) (line : Option Nat) :
    Origin.namesOfFile (path.origin line).file.toList = path.names := by
  have free : ∀ name ∈ path.names, '/' ∉ name.toList := fun name listed =>
    (path.unmarked name listed).2.1
  have ends := ending_suffix_file_iff path line
  rw [Origin.namesOfFile]
  obtain ⟨inner, more, listed, file⟩ | ⟨outside, file⟩ := toList_file path line
  · have cut : (path.origin line).file.toList.dropSuffix? ".rs".toList =
        some (joined "/" inner) :=
      List.dropSuffix?_eq_some_iff.mpr ⟨_, file, BEq.rfl⟩
    rw [listed, List.forall_mem_cons] at free
    rw [cut, listed]
    exact congrArg _ (splitOn_joined more free.2)
  · cases cut : (path.origin line).file.toList.dropSuffix? ".rs".toList with
    | none => rw [file, splitOn_joined path.named free]
    | some front =>
        obtain ⟨back, whole, same⟩ := List.dropSuffix?_eq_some_iff.mp cut
        rw [eq_of_beq same] at whole
        exact absurd (ends.mp ⟨front, whole.symm⟩) outside

theorem colon_not_mem_file (path : ModulePath) (line : Option Nat) :
    ':' ∉ (path.origin line).file.toList := by
  intro colon
  have free {names : List String} (listed : ∀ name ∈ names, name ∈ path.names) :
      ':' ∉ joined "/" names := by
    intro within
    obtain slash | ⟨name, member, within⟩ := mem_joined within
    · exact absurd slash (by decide)
    · exact (path.unmarked name (listed name member)).1 within
  obtain ⟨inner, -, listed, file⟩ | ⟨-, file⟩ := toList_file path line
  · rw [file, List.mem_append] at colon
    refine colon.elim (free fun name member => ?_) (by decide)
    exact listed ▸ List.mem_cons_of_mem _ member
  · exact free (fun _ => id) (file ▸ colon)

/-- What stands behind the file: nothing, or a colon and the digits of the line. -/
def lineEnding (line : Option Nat) : List Char :=
  line.elim [] fun number => ':' :: (Numeral.decimal number).toList

theorem toList_text_origin (path : ModulePath) (line : Option Nat) :
    (path.origin line).text.toList = (path.origin line).file.toList ++ lineEnding line := by
  cases line with
  | none => exact (List.append_nil _).symm
  | some number =>
      simp only [Origin.text, origin, String.toList_append, List.append_assoc]
      rfl

theorem not_colon_of_mem_file (path : ModulePath) (line : Option Nat) :
    ∀ c ∈ (path.origin line).file.toList, decide (c ≠ ':') = true := by
  intro c member
  refine decide_eq_true fun colon => ?_
  exact colon_not_mem_file path line (colon ▸ member)

theorem shownFile_text (path : ModulePath) (line : Option Nat) :
    Origin.shownFile (path.origin line).text = (path.origin line).file.toList := by
  rw [Origin.shownFile, toList_text_origin,
    List.takeWhile_append_of_pos (not_colon_of_mem_file path line)]
  cases line <;> exact List.append_nil _

theorem shownLine?_text (path : ModulePath) (line : Option Nat) :
    Origin.shownLine? (path.origin line).text = line := by
  rw [Origin.shownLine?, toList_text_origin,
    List.dropWhile_append_of_pos (not_colon_of_mem_file path line)]
  cases line with
  | none => rfl
  | some number => exact congrArg some (Numeral.ofDigitChars_decimal number)

theorem read_text (path : ModulePath) (line : Option Nat) :
    Origin.read (path.origin line).text = (path.names, line) := by
  rw [Origin.read, shownFile_text, shownLine?_text, namesOfFile_file]

theorem text_eq_iff (path other : ModulePath) (line otherLine : Option Nat) :
    (path.origin line).text = (other.origin otherLine).text ↔ path = other ∧ line = otherLine := by
  constructor
  · intro same
    have parts := congrArg Origin.read same
    rw [read_text, read_text, Prod.mk.injEq] at parts
    exact ⟨ModulePath.ext parts.1, parts.2⟩
  · rintro ⟨rfl, rfl⟩
    rfl

theorem parenthesis_not_mem_text (free : ∀ name ∈ path.names, '(' ∉ name.toList) :
    '(' ∉ (path.origin line).text.toList := by
  intro member
  obtain inPath | other := Origin.mem_text member
  · rw [origin, toList_text] at inPath
    obtain colon | ⟨name, listed, within⟩ := mem_joined inPath
    · exact absurd colon (by decide)
    · exact free name listed within
  · exact absurd other (by decide)

end ModulePath

namespace Layout

theorem lastParenthesized_append {text : String} (free : '(' ∉ text.toList) (front : String) :
    lastParenthesized (front ++ " (" ++ text ++ ")") = text := by
  have inside : ∀ c ∈ (text.toList ++ [')']).reverse, decide (c ≠ '(') = true := by
    intro c member
    rw [List.mem_reverse, List.mem_append, List.mem_singleton] at member
    refine decide_eq_true fun opening => ?_
    exact member.elim (fun within => free (opening ▸ within)) (by rw [opening]; decide)
  have line : (front ++ " (" ++ text ++ ")").toList =
      (front.toList ++ [' ', '(']) ++ (text.toList ++ [')']) := by
    simp [String.toList_append]
  rw [lastParenthesized, line, List.rtakeWhile, List.reverse_append,
    List.takeWhile_append_of_pos inside]
  simp [String.ofList_toList]

theorem lastParenthesized_line {path : ModulePath}
    (free : ∀ name ∈ path.names, '(' ∉ name.toList) (moment : Timestamp) (level : Level)
    (message : String) (line : Option Nat) :
    lastParenthesized (Layout.extended.line false moment ⟨level, path.origin line, message⟩) =
      (path.origin line).text :=
  lastParenthesized_append (ModulePath.parenthesis_not_mem_text free) _

-- A name with a parenthesis in it would read on from the message.
example : Layout.extended.line false (.ofMilliseconds 0) ⟨.info, ⟨"a (b", none⟩, "lost"⟩ =
    Layout.extended.line false (.ofMilliseconds 0) ⟨.info, ⟨"b", none⟩, "lost (a"⟩ := by
  decide +kernel

theorem target_line (styled : Bool) (moment : Timestamp) (record : Record) :
    (Json.readObject (Layout.json.line styled moment record)).bind (List.lookup "target") =
      some record.origin.text := by
  rw [line, Json.readObject_object]
  rfl

end Layout

namespace ModulePath

/-- No two places have the same text. The file in it has the ending of this program's files exactly
if the module lies inside this program, and the names in the module path and the line number are
read back from it. A line for programs has the text as a member, and a line for people ends in it,
where it is found, whatever the message is, if no name opens a parenthesis. -/
theorem place_told_from_text (path other : ModulePath) (line otherLine : Option Nat) :
    let text := (path.origin line).text
    (text = (other.origin otherLine).text ↔ path = other ∧ line = otherLine) ∧
      (".rs".toList <:+ Origin.shownFile text ↔ path.IsInside "buildversion") ∧
      Origin.read text = (path.names, line) ∧
      ∀ (moment : Timestamp) (level : Level) (message : String),
        let record : Record := ⟨level, path.origin line, message⟩
        (∀ styled, (Json.readObject (Layout.json.line styled moment record)).bind
          (List.lookup "target") = some text) ∧
        ((∀ name ∈ path.names, '(' ∉ name.toList) →
          Layout.lastParenthesized (Layout.extended.line false moment record) = text) := by
  intro text
  have file : ".rs".toList <:+ Origin.shownFile text ↔ path.IsInside "buildversion" := by
    rw [shownFile_text, ending_suffix_file_iff]
  refine ⟨text_eq_iff path other line otherLine, file, read_text path line, ?_⟩
  intro moment level message record
  exact ⟨fun styled => Layout.target_line styled moment record,
    fun free => Layout.lastParenthesized_line free moment level message line⟩

/-- A module of this program that is named like it. -/
def namesake : ModulePath where
  names := ["buildversion", "buildversion"]
  named := by decide
  unmarked := by decide

/-- The program's own name. -/
def bare : ModulePath where
  names := ["buildversion"]
  named := by decide
  unmarked := by decide

theorem place_told_from_text_of_namesake :
    (∀ name ∈ namesake.names, '(' ∉ name.toList) ∧
      (namesake.origin (some 7)).text = "buildversion.rs:7" ∧
      (bare.origin (some 7)).text = "buildversion:7" ∧ namesake ≠ bare ∧
      ".rs".toList <:+ Origin.shownFile "buildversion.rs:7" ∧
      Origin.read "buildversion.rs:7" = (["buildversion", "buildversion"], some 7) ∧
      Layout.lastParenthesized
          "1970-01-01 00:00:00.000 INF lost (slot.rs:1) (buildversion.rs:7)" =
        "buildversion.rs:7" := by
  have free : ∀ name ∈ namesake.names, '(' ∉ name.toList := by decide
  have shown : (namesake.origin (some 7)).text = "buildversion.rs:7" := by decide +kernel
  have bareShown : (bare.origin (some 7)).text = "buildversion:7" := by decide +kernel
  have line : Layout.extended.line false (.ofMilliseconds 0)
      ⟨.info, namesake.origin (some 7), "lost (slot.rs:1)"⟩ =
      "1970-01-01 00:00:00.000 INF lost (slot.rs:1) (buildversion.rs:7)" := by decide +kernel
  obtain ⟨same, file, read, lines⟩ := place_told_from_text namesake bare (some 7) (some 7)
  have inside : namesake.IsInside "buildversion" := ⟨["buildversion"], by decide, rfl⟩
  have last := (lines (.ofMilliseconds 0) .info "lost (slot.rs:1)").2 free
  rw [shown, bareShown] at same
  rw [shown] at file read
  rw [line, shown] at last
  have apart : namesake ≠ bare := fun equal => absurd (same.mpr ⟨equal, rfl⟩) (by decide)
  exact ⟨free, shown, bareShown, apart, file.mpr inside, read, last⟩

end ModulePath

end BuildStamp
