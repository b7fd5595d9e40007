import BuildStamp.Proofs.Artifact.Course
import BuildStamp.Proofs.Text.Pieces
import BuildStamp.Proofs.Text.Trimming

set_option autoImplicit false

/-!
Build numbers read from files. The file is a text, and the number is what stands in it between
white space, whatever stands inside of the number itself. A text of white space alone is told apart
from what cannot be read as a text at all.
-/

namespace BuildStamp.Artifact

open WhiteSpace (IsBlankText IsTrimmed)

/-- What reading a build number comes to, by what reading its file comes to. -/
inductive ValueOutcome (path : Path) :
    Except IoError (List UInt8) → Except SlotFailure String → Prop
  | unreadable (cause : IoError) :
      ValueOutcome path (.error cause) (.error (.fileSystem path cause))
  | notText {contents : List UInt8} (illFormed : ¬ ∃ text, Utf8.encode text = contents) :
      ValueOutcome path (.ok contents) (.error (.fileSystem path .notUtf8))
  | blank {text : String} (blank : IsBlankText text) :
      ValueOutcome path (.ok (Utf8.encode text))
        (.error (.invalidValue (path.text ++ " does not contain a build number")))
  | value {front value back : String} (blankFront : IsBlankText front)
      (trimmed : IsTrimmed value) (blankBack : IsBlankText back) :
      ValueOutcome path (.ok (Utf8.encode (front ++ value ++ back))) (.ok value)

variable {path : Path} {contents : List UInt8}

theorem valueIn_of_text (path : Path) (text : String) :
    valueIn path (Utf8.encode text) =
      if WhiteSpace.trim text = "" then
        .error (.invalidValue (path.text ++ " does not contain a build number"))
      else .ok (WhiteSpace.trim text) := by
  rw [valueIn, (Utf8.decode?_eq_some_iff _ text).mpr rfl]

theorem valueIn_of_illFormed (illFormed : ¬ ∃ text, Utf8.encode text = contents) :
    valueIn path contents = .error (.fileSystem path .notUtf8) := by
  rw [valueIn, (Utf8.decode?_eq_none_iff contents).mpr illFormed]
  rfl

theorem valueIn_of_value {value : String} (trimmed : IsTrimmed value) :
    valueIn path (Utf8.encode value) = .ok value := by
  rw [valueIn_of_text, WhiteSpace.trim_of_trimmed trimmed, if_neg trimmed.nonempty]

/-- White space around the contents of a file makes no difference, be they a text or not. -/
theorem valueIn_surrounded {front back : String} (blankFront : IsBlankText front)
    (blankBack : IsBlankText back) (path : Path) (contents : List UInt8) :
    valueIn path (Utf8.encode front ++ contents ++ Utf8.encode back) = valueIn path contents := by
  by_cases formed : ∃ text, Utf8.encode text = contents
  · obtain ⟨text, rfl⟩ := formed
    rw [← Utf8.encode_append, ← Utf8.encode_append, valueIn_of_text, valueIn_of_text,
      WhiteSpace.trim_surrounded blankFront blankBack]
  · rw [valueIn_of_illFormed formed, valueIn_of_illFormed]
    rwa [Utf8.exists_encode_surrounded_iff]

theorem valueOutcome_valueIn (path : Path) (contents : List UInt8) :
    ValueOutcome path (.ok contents) (valueIn path contents) := by
  by_cases formed : ∃ text, Utf8.encode text = contents
  · obtain ⟨text, rfl⟩ := formed
    rw [valueIn_of_text]
    split
    · rename_i nothing
      exact .blank ((WhiteSpace.trim_eq_empty_iff text).mp nothing)
    · rename_i left
      obtain ⟨front, back, same, blankFront, blankBack⟩ := WhiteSpace.exists_between text
      have outcome : ValueOutcome path _ _ :=
        .value blankFront (WhiteSpace.isTrimmed_trim left) blankBack
      rwa [← same] at outcome
  · rw [valueIn_of_illFormed formed]
    exact .notText formed

theorem perform_readValue_outcome (machine : Machine) (path : Path) :
    ValueOutcome path (machine.files.readFile path) ((readValue path).perform machine).1 := by
  rw [perform_readValue]
  cases machine.files.readFile path with
  | error cause => exact .unreadable cause
  | ok contents => exact valueOutcome_valueIn path contents

/-- What reading the file comes to leaves no choice. -/
theorem ValueOutcome.unique {read : Except IoError (List UInt8)}
    {one two : Except SlotFailure String} (first : ValueOutcome path read one)
    (second : ValueOutcome path read two) : one = two := by
  have settled {contents : List UInt8} {outcome : Except SlotFailure String}
      (comes : ValueOutcome path (.ok contents) outcome) : valueIn path contents = outcome := by
    cases comes with
    | notText illFormed => exact valueIn_of_illFormed illFormed
    | blank blank => rw [valueIn_of_text, if_pos (WhiteSpace.trim_of_blank blank)]
    | value blankFront trimmed blankBack =>
        rw [Utf8.encode_append, Utf8.encode_append, valueIn_surrounded blankFront blankBack,
          valueIn_of_value trimmed]
  cases read with
  | error cause =>
      cases first
      cases second
      rfl
  | ok contents => exact (settled first).symm.trans (settled second)

theorem perform_readValue_eq_of_read {machine : Machine}
    (read : machine.files.readFile path = .ok contents) :
    ((readValue path).perform machine).1 = valueIn path contents := by
  rw [perform_readValue, read]

/-- A build number is read from a file exactly if it stands there between white space. White space
around the contents makes no difference, and a file with the number alone gives the same. -/
theorem readValue_outcome (machine : Machine) (path : Path) :
    ((readValue path).perform machine).2 = machine ∧
    (∀ outcome, ((readValue path).perform machine).1 = outcome ↔
      ValueOutcome path (machine.files.readFile path) outcome) ∧
    ∀ contents, machine.files.readFile path = .ok contents → ∀ other : Machine,
      (∀ front back, IsBlankText front → IsBlankText back →
        other.files.readFile path =
          .ok (Utf8.encode front ++ contents ++ Utf8.encode back) →
        ((readValue path).perform other).1 = ((readValue path).perform machine).1) ∧
      ∀ value, ((readValue path).perform machine).1 = .ok value →
        other.files.readFile path = .ok (Utf8.encode value) →
        ((readValue path).perform other).1 = .ok value := by
  have comes := perform_readValue_outcome machine path
  refine ⟨?_, ?_, ?_⟩
  · rw [perform_readValue]
    cases machine.files.readFile path with
    | error cause => rfl
    | ok contents => rfl
  · intro outcome
    constructor
    · rintro rfl
      exact comes
    · exact comes.unique
  · intro contents read other
    constructor
    · intro front back blankFront blankBack surrounded
      rw [perform_readValue_eq_of_read surrounded, perform_readValue_eq_of_read read]
      exact valueIn_surrounded blankFront blankBack path contents
    · intro value found alone
      rw [found] at comes
      rw [perform_readValue_eq_of_read alone]
      generalize machine.files.readFile path = held at comes
      cases comes with
      | value blankFront trimmed blankBack => exact valueIn_of_value trimmed

/-- A machine with a file of some contents. -/
def withNumberIn (contents : List UInt8) : Machine :=
  .fresh ⟨[(["number"], .file contents 0o644)], []⟩ ⟨[]⟩ ⟨1970, 1, 1, 0, 0, 0, 0⟩

/-- A number that begins with U+FEFF and ends with a NUL, with a blank inside. -/
def oddNumber : String :=
  String.ofList [Char.ofNat 0xFEFF, '7', ' ', '8', Char.ofNat 0]

/-- Among other characters, U+3000 and U+0085 are white space, and U+FEFF and NUL are not. -/
theorem readValue_outcome_of_odd_number :
    let contents := Utf8.encode ("\u3000" ++ oddNumber ++ "\n")
    ((readValue ⟨"number"⟩).perform (withNumberIn contents)).1 = .ok oddNumber ∧
      ((readValue ⟨"number"⟩).perform (withNumberIn
        (Utf8.encode "\u0085" ++ contents ++ Utf8.encode ""))).1 = .ok oddNumber ∧
      ((readValue ⟨"number"⟩).perform (withNumberIn (Utf8.encode oddNumber))).1 =
        .ok oddNumber := by
  intro contents
  have read (held : List UInt8) : (withNumberIn held).files.readFile ⟨"number"⟩ = .ok held := rfl
  have wide : IsBlankText "\u3000" := by decide
  have nextLine : IsBlankText "\u0085" := by decide
  have lineFeed : IsBlankText "\n" := by decide
  have nothing : IsBlankText "" := by decide
  have trimmed : IsTrimmed oddNumber := by
    constructor
    · decide
    · rintro c ⟨⟩
      decide
    · rintro c ⟨⟩
      decide
  obtain ⟨-, comes, kept⟩ := readValue_outcome (withNumberIn contents) ⟨"number"⟩
  have found := (comes (.ok oddNumber)).mpr (.value wide trimmed lineFeed)
  have around := (kept contents (read _) _).1 "\u0085" "" nextLine nothing (read _)
  have alone := (kept contents (read _) _).2 oddNumber found (read _)
  exact ⟨found, around.trans found, alone⟩

end BuildStamp.Artifact
