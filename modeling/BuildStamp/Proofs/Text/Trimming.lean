import BuildStamp.Text.WhiteSpace
import Mathlib.Data.List.DropRight

set_option autoImplicit false

/-!
What is left of a text without the white space at its ends. A text that is not all white space is
what is left of it between two stretches of white space, in this way and no other, so white space
that is put at either end makes no difference.
-/

namespace BuildStamp.WhiteSpace

/-- All of a text is white space. -/
def IsBlankText (text : String) : Prop :=
  ∀ c ∈ text.toList, isBlank c = true

instance (text : String) : Decidable (IsBlankText text) :=
  decidable_of_iff (text.toList.all isBlank = true) List.all_eq_true

/-- A text that neither begins nor ends with white space, and is not empty. -/
structure IsTrimmed (text : String) : Prop where
  nonempty : text ≠ ""
  first : ∀ c, text.toList.head? = some c → isBlank c = false
  last : ∀ c, text.toList.getLast? = some c → isBlank c = false

theorem trimChars_eq_rdropWhile (text : List Char) :
    trimChars text = (text.dropWhile isBlank).rdropWhile isBlank := rfl

theorem rdropWhile_append_of_blank {back : List Char} (blank : ∀ c ∈ back, isBlank c = true)
    (text : List Char) : (text ++ back).rdropWhile isBlank = text.rdropWhile isBlank := by
  have reversed : ∀ c ∈ back.reverse, isBlank c = true := by
    intro c member
    exact blank c (List.mem_reverse.mp member)
  rw [List.rdropWhile, List.rdropWhile, List.reverse_append,
    List.dropWhile_append_of_pos reversed]

/-- White space behind a text is left out, be the text itself white space or not. -/
theorem trimChars_append_of_blank {back : List Char} (blank : ∀ c ∈ back, isBlank c = true)
    (text : List Char) : trimChars (text ++ back) = trimChars text := by
  rw [trimChars_eq_rdropWhile, trimChars_eq_rdropWhile, List.dropWhile_append]
  split
  · rename_i nothing
    have left : back.dropWhile isBlank = [] := List.dropWhile_eq_nil_iff.mpr blank
    rw [left, List.isEmpty_iff.mp nothing]
  · exact rdropWhile_append_of_blank blank _

theorem trim_surrounded {front back : String} (blankFront : IsBlankText front)
    (blankBack : IsBlankText back) (text : String) : trim (front ++ text ++ back) = trim text := by
  rw [trim, trim, String.toList_append, String.toList_append, trimChars_append_of_blank blankBack,
    trimChars_eq_rdropWhile, List.dropWhile_append_of_pos blankFront, ← trimChars_eq_rdropWhile]

theorem trim_of_trimmed {text : String} (trimmed : IsTrimmed text) : trim text = text := by
  have front : text.toList.dropWhile isBlank = text.toList := by
    rw [List.dropWhile_eq_self_iff]
    intro some
    have first := trimmed.first _ (List.head?_eq_getElem? .. ▸ List.getElem?_eq_getElem some)
    simp [first]
  have back : text.toList.rdropWhile isBlank = text.toList := by
    rw [List.rdropWhile_eq_self_iff]
    intro some
    simp [trimmed.last _ (List.getLast?_eq_some_getLast some)]
  rw [trim, trimChars_eq_rdropWhile, front, back, String.ofList_toList]

theorem trim_of_blank {text : String} (blank : IsBlankText text) : trim text = "" := by
  have nothing : text.toList.dropWhile isBlank = [] := List.dropWhile_eq_nil_iff.mpr blank
  rw [trim, trimChars_eq_rdropWhile, nothing]
  rfl

/-- The white space in front, what is left of the text, and the white space behind it. -/
theorem takeWhile_append_trimChars (text : List Char) :
    text.takeWhile isBlank ++ trimChars text ++ (text.dropWhile isBlank).rtakeWhile isBlank =
      text := by
  rw [trimChars_eq_rdropWhile, List.append_assoc, List.rdropWhile_append_rtakeWhile,
    List.takeWhile_append_dropWhile]

theorem isBlank_head_trimChars {text : List Char} {c : Char}
    (first : (trimChars text).head? = some c) : isBlank c = false := by
  have found : (text.dropWhile isBlank).head? = some c := by
    rw [← @List.rdropWhile_append_rtakeWhile _ isBlank (text.dropWhile isBlank),
      ← trimChars_eq_rdropWhile, List.head?_append, first]
    rfl
  have stops := List.head?_dropWhile_not isBlank text
  rwa [found] at stops

theorem isBlank_getLast_trimChars {text : List Char} {c : Char}
    (last : (trimChars text).getLast? = some c) : isBlank c = false := by
  have left : trimChars text ≠ [] := by
    intro nothing
    rw [nothing] at last
    cases last
  rw [List.getLast?_eq_some_getLast left] at last
  cases last
  exact Bool.eq_false_iff.mpr (List.rdropWhile_last_not isBlank _ left)

theorem isTrimmed_trim {text : String} (left : trim text ≠ "") : IsTrimmed (trim text) where
  nonempty := left
  first := by
    intro c first
    rw [trim, String.toList_ofList] at first
    exact isBlank_head_trimChars first
  last := by
    intro c last
    rw [trim, String.toList_ofList] at last
    exact isBlank_getLast_trimChars last

/-- Every text stands between two stretches of white space around what is left of it. -/
theorem exists_between (text : String) :
    ∃ front back, text = front ++ trim text ++ back ∧ IsBlankText front ∧ IsBlankText back := by
  refine ⟨String.ofList (text.toList.takeWhile isBlank),
    String.ofList ((text.toList.dropWhile isBlank).rtakeWhile isBlank), ?_, ?_, ?_⟩
  · rw [trim, ← String.ofList_append, ← String.ofList_append, takeWhile_append_trimChars,
      String.ofList_toList]
  · intro c member
    rw [String.toList_ofList] at member
    exact List.mem_takeWhile_imp member
  · intro c member
    rw [String.toList_ofList] at member
    exact List.mem_rtakeWhile_imp member

theorem trim_eq_empty_iff (text : String) : trim text = "" ↔ IsBlankText text := by
  constructor
  · intro nothing
    obtain ⟨front, back, same, blankFront, blankBack⟩ := exists_between text
    rw [nothing, String.append_empty] at same
    intro c member
    rw [same, String.toList_append, List.mem_append] at member
    exact member.elim (blankFront c) (blankBack c)
  · exact trim_of_blank

end BuildStamp.WhiteSpace
