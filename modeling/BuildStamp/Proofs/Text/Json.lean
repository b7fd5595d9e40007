import BuildStamp.Text.Json

set_option autoImplicit false

/-!
Flat JSON objects are read back as they were written, whatever characters their strings hold, and
take one line: what would end a line inside a string is written as an escape.
-/

namespace BuildStamp.Json

section

variable {c letter : Char} (rest : List Char)

theorem readString_letter (stands : unescape? letter = some c) :
    readString ('\\' :: letter :: rest) =
      (readString rest).map fun read => (c :: read.1, read.2) := by
  have notCode : letter ≠ 'u' := by
    rintro rfl
    have none : unescape? 'u' = none := by decide
    rw [none] at stands
    cases stands
  simp [readString, stands, notCode]

theorem hexValue?_hexDigit {n : Nat} (digit : n < 16) :
    Numeral.hexValue? (hexDigit n) = some n := by
  have all : ∀ n < 16, Numeral.hexValue? (hexDigit n) = some n := by
    decide
  exact all n digit

/-- Four digits write a code point below 32 as two of them. -/
theorem readString_code (control : c.toNat < 0x20) :
    readString ('\\' :: 'u' :: '0' :: '0' :: hexDigit (c.toNat / 16) :: hexDigit (c.toNat % 16) ::
      rest) = (readString rest).map fun read => (c :: read.1, read.2) := by
  have zero : Numeral.hexValue? '0' = some 0 := by decide
  have high := hexValue?_hexDigit (show c.toNat / 16 < 16 by omega)
  have low := hexValue?_hexDigit (show c.toNat % 16 < 16 by omega)
  have code : c.toNat / 16 * 16 + c.toNat % 16 = c.toNat := by omega
  have valid : c.toNat.isValidChar := Or.inl (by omega)
  simp [readString, zero, high, low, code, valid]

theorem readString_plain (notQuote : c ≠ '\"') (notEscape : c ≠ '\\')
    (notControl : ¬ c.toNat < 0x20) :
    readString (c :: rest) = (readString rest).map fun read => (c :: read.1, read.2) := by
  simp [readString, notEscape, notControl]

theorem readString_escape (c : Char) :
    readString (escape c ++ rest) =
      (readString rest).map fun read => (c :: read.1, read.2) := by
  fun_cases escape c with
  | case1 marked =>
      apply readString_letter
      rw [unescape?, if_pos (marked.imp_right .inl)]
  | case2 _ lineFeed =>
      subst lineFeed
      exact readString_letter rest rfl
  | case3 _ _ carriageReturn =>
      subst carriageReturn
      exact readString_letter rest rfl
  | case4 _ _ _ tab =>
      subst tab
      exact readString_letter rest rfl
  | case5 _ _ _ _ backspace =>
      subst backspace
      exact readString_letter rest rfl
  | case6 _ _ _ _ _ formFeed =>
      subst formFeed
      exact readString_letter rest rfl
  | case7 _ _ _ _ _ _ control => exact readString_code rest control
  | case8 unmarked _ _ _ _ _ notControl =>
      exact readString_plain rest (fun quote => unmarked (.inl quote))
        (fun slash => unmarked (.inr slash)) notControl

end

/-- A string is read back up to its closing quote. -/
theorem readString_flatMap_escape (content rest : List Char) :
    readString (content.flatMap escape ++ '\"' :: rest) = some (content, rest) := by
  induction content with
  | nil => rfl
  | cons c content ih =>
      rw [List.flatMap_cons, List.append_assoc, readString_escape, ih]
      rfl

/-- Every member takes at least one character. -/
theorem length_le_membersChars (members : List (String × String)) :
    members.length ≤ (membersChars members).length := by
  induction members with
  | nil => exact Nat.le_refl 0
  | cons member members ih =>
      cases members with
      | nil => simp [membersChars, stringChars]
      | cons next members =>
          simp only [membersChars, stringChars, List.length_append, List.length_cons] at ih ⊢
          omega

theorem readMembers_membersChars (member : String × String) (members : List (String × String))
    {bound : Nat} (enough : members.length < bound) :
    readMembers bound (membersChars (member :: members) ++ [Char.ofNat 0x7D]) =
      some (member :: members) := by
  obtain ⟨bound, rfl⟩ := Nat.exists_eq_add_one_of_ne_zero (Nat.ne_zero_of_lt enough)
  induction members generalizing member bound with
  | nil =>
      simp only [membersChars, stringChars, List.cons_append, List.append_assoc, List.nil_append,
        readMembers, readString_flatMap_escape, String.ofList_toList]
      change some [(member.1, String.ofList member.2.toList)] = some [member]
      rw [String.ofList_toList]
  | cons next members ih =>
      rw [List.length_cons] at enough
      obtain ⟨bound, rfl⟩ := Nat.exists_eq_add_one_of_ne_zero (show bound ≠ 0 by omega)
      have rest := ih next bound (by omega)
      simp only [membersChars, stringChars, List.cons_append, List.append_assoc, List.nil_append,
        readMembers, readString_flatMap_escape, String.ofList_toList] at rest ⊢
      rw [rest]
      rfl

/-- What is written as an object is read as its members. -/
theorem readObject_object (members : List (String × String)) :
    readObject (object members) = some members := by
  cases members with
  | nil => rfl
  | cons member members =>
      have short := length_le_membersChars (member :: members)
      rw [List.length_cons] at short
      have more : membersChars (member :: members) ++ [Char.ofNat 0x7D] ≠ [Char.ofNat 0x7D] := by
        intro same
        have lengths := congrArg List.length same
        simp only [List.length_append, List.length_singleton] at lengths
        omega
      rw [readObject, object, String.toList_ofList, List.cons_append]
      simp only [ne_eq, not_true_eq_false, if_false, more]
      apply readMembers_membersChars
      rw [List.length_append]
      omega

theorem lineFeed_not_mem_escape (c : Char) : '\n' ∉ escape c := by
  have digits : ∀ n < 16, hexDigit n ≠ '\n' := by decide
  fun_cases escape c with
  | case1 marked =>
      rcases marked with rfl | rfl
      · decide
      · decide
  | case2 => decide
  | case3 => decide
  | case4 => decide
  | case5 => decide
  | case6 => decide
  | case7 _ _ _ _ _ _ control =>
      have high := digits (c.toNat / 16) (by omega)
      have low := digits (c.toNat % 16) (by omega)
      simp [high.symm, low.symm]
  | case8 _ notLineFeed =>
      rw [List.mem_singleton]
      exact fun same => notLineFeed same.symm

theorem lineFeed_not_mem_stringChars (content : String) : '\n' ∉ stringChars content := by
  simp only [stringChars, List.cons_append, List.mem_cons, List.mem_append, List.mem_flatMap,
    List.not_mem_nil, or_false]
  rintro (quote | ⟨c, -, inside⟩ | quote)
  · revert quote
    decide
  · exact lineFeed_not_mem_escape c inside
  · revert quote
    decide

theorem lineFeed_not_mem_membersChars (members : List (String × String)) :
    '\n' ∉ membersChars members := by
  fun_induction membersChars members with
  | case1 => exact List.not_mem_nil
  | case2 member =>
      simp [lineFeed_not_mem_stringChars]
  | case3 member members _ ih =>
      simp [lineFeed_not_mem_stringChars, ih]

/-- An object takes one line. -/
theorem lineFeed_not_mem_object (members : List (String × String)) :
    '\n' ∉ (object members).toList := by
  have brace : '\n' ≠ Char.ofNat 0x7B ∧ '\n' ≠ Char.ofNat 0x7D := by decide
  simp [object, lineFeed_not_mem_membersChars, brace]

end BuildStamp.Json
