import BuildStamp.Proofs.Text.Lowering
import BuildStamp.Settings.Validation
import Mathlib

set_option autoImplicit false

/-!
Which texts name a level: the names of the thresholds, with any of their letters as capitals. Lower
case brings the Kelvin sign into ASCII as well, but no name has a letter for it, so that a text with
a foreign character names nothing.
-/

namespace BuildStamp.Settings

/-- Two characters are the same, or one ASCII letter in different cases. -/
def SameLetter (one other : Char) : Prop :=
  one = other ∨ one.isAlpha ∧ other.isAlpha ∧ one.toLower = other.toLower

/-- Two texts differ in nothing but the case of ASCII letters. -/
def SameButCase (one other : String) : Prop :=
  List.Forall₂ SameLetter one.toList other.toList

theorem toLower_of_not_isAlpha {c : Char} (other : c.isAlpha = false) : c.toLower = c := by
  apply Char.toLower_eq_of_not_isUpper
  intro upper
  rw [Char.isAlpha, upper, Bool.true_or] at other
  cases other

theorem sameLetter_iff_toLower_eq (one other : Char) :
    SameLetter one other ↔ one.toLower = other.toLower := by
  constructor
  · rintro (rfl | ⟨-, -, same⟩)
    · rfl
    · exact same
  · intro same
    have both : one.isAlpha = other.isAlpha := by
      rw [← Char.isAlpha_toLower_eq_isAlpha, same, Char.isAlpha_toLower_eq_isAlpha]
    cases letter : one.isAlpha with
    | true => exact .inr ⟨letter, both ▸ letter, same⟩
    | false =>
        left
        rwa [toLower_of_not_isAlpha letter, toLower_of_not_isAlpha (both ▸ letter)] at same

theorem sameButCase_iff_map_toLower_eq (one other : String) :
    SameButCase one other ↔ one.toList.map Char.toLower = other.toList.map Char.toLower := by
  have letters : SameLetter = fun a b => a.toLower = b.toLower :=
    funext₂ fun a b => propext (sameLetter_iff_toLower_eq a b)
  rw [SameButCase, letters, ← List.forall₂_map_right_iff, ← List.forall₂_map_left_iff,
    List.forall₂_eq_eq_eq]

/-- No name of a threshold has capitals, foreign characters or the one letter that a foreign
character may become. -/
theorem plain_of_mem_names : ∀ name ∈ Threshold.names,
    IsAscii name.toList ∧ 'k' ∉ name.toList ∧ name.toList.map Char.toLower = name.toList := by
  decide

theorem ofText_of_mem_names {name : String} (member : name ∈ Threshold.names) :
    LowerCase.ofText name = name := by
  obtain ⟨ascii, -, small⟩ := plain_of_mem_names name member
  rw [← String.toList_inj, LowerCase.toList_ofText_of_isAscii ascii, small]

/-- In lower case a text is a name exactly if it is the name but for the case of its letters. -/
theorem ofText_eq_iff_of_mem_names {name : String} (member : name ∈ Threshold.names)
    (text : String) :
    LowerCase.ofText text = name ↔ IsAscii text.toList ∧ SameButCase text name := by
  obtain ⟨ascii, free, small⟩ := plain_of_mem_names name member
  rw [sameButCase_iff_map_toLower_eq, small]
  constructor
  · rintro rfl
    have within := LowerCase.isAscii_of_ofText ascii free
    exact ⟨within, (LowerCase.toList_ofText_of_isAscii within).symm⟩
  · rintro ⟨within, same⟩
    rw [← String.toList_inj, LowerCase.toList_ofText_of_isAscii within, same]

theorem checkLevel_eq_ok_iff (text level : String) :
    checkLevel text = .ok level ↔ level ∈ Threshold.names ∧ LowerCase.ofText text = level := by
  rw [checkLevel]
  simp only [List.contains_iff_mem]
  split
  · rename_i known
    constructor
    · rintro ⟨⟩
      exact ⟨known, rfl⟩
    · rintro ⟨-, rfl⟩
      rfl
  · rename_i unknown
    constructor
    · rintro ⟨⟩
    · rintro ⟨known, rfl⟩
      exact absurd known unknown

theorem checkLevel_eq_error_iff (text : String) (objection : Objection) :
    checkLevel text = .error objection ↔
      LowerCase.ofText text ∉ Threshold.names ∧ objection = .unknownLevel text := by
  rw [checkLevel]
  simp only [List.contains_iff_mem]
  split
  · rename_i known
    simp [known]
  · rename_i unknown
    simp [unknown, eq_comm]

/-- A text is taken for a level exactly if it is in ASCII and one of the six names but for the case
of its letters, and then for that name, which is taken for itself. Of any other text the message
shows what was written. -/
theorem checkLevel_outcome (text : String) :
    (∀ level, checkLevel text = .ok level ↔
      level ∈ ["trace", "debug", "info", "warn", "error", "off"] ∧
        (∀ c ∈ text.toList, c.toNat < 128) ∧ SameButCase text level) ∧
    (∀ level, checkLevel text = .ok level →
      level = LowerCase.ofText text ∧ checkLevel level = .ok level) ∧
    ((∃ c ∈ text.toList, 128 ≤ c.toNat) → ∀ level, checkLevel text ≠ .ok level) ∧
    (∀ objection, checkLevel text = .error objection →
      objection.message = "'" ++ text ++
        "' is not a valid log level (expected one of: trace, debug, info, warn, error, off)") := by
  have accepts (level : String) : checkLevel text = .ok level ↔
      level ∈ ["trace", "debug", "info", "warn", "error", "off"] ∧
        (∀ c ∈ text.toList, c.toNat < 128) ∧ SameButCase text level := by
    rw [checkLevel_eq_ok_iff]
    exact and_congr_right fun member => ofText_eq_iff_of_mem_names member text
  refine ⟨accepts, ?_, ?_, ?_⟩
  · intro level accepted
    obtain ⟨member, lowered⟩ := (checkLevel_eq_ok_iff text level).mp accepted
    have again := (checkLevel_eq_ok_iff level level).mpr ⟨member, ofText_of_mem_names member⟩
    exact ⟨lowered.symm, again⟩
  · rintro ⟨c, member, foreign⟩ level accepted
    have inside := ((accepts level).mp accepted).2.1 c member
    omega
  · intro objection refused
    obtain ⟨-, rfl⟩ := (checkLevel_eq_error_iff text objection).mp refused
    have ending : "' is not a valid log level (expected one of: " ++
        ", ".intercalate Threshold.names ++ ")" =
        "' is not a valid log level (expected one of: trace, debug, info, warn, error, off)" := by
      decide
    rw [Objection.message, ← ending]
    simp only [String.append_assoc]

end BuildStamp.Settings
