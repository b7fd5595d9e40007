import BuildStamp.Log.Record

set_option autoImplicit false

/-!
Of which characters the texts of origins are. They come from the module path, or belong to the
slashes, the ending and the line number that are put between and behind.
-/

namespace BuildStamp

theorem Numeral.isDigit_of_mem_decimal {n : Nat} {c : Char} (member : c ∈ (decimal n).toList) :
    c.isDigit = true := by
  rw [decimal, String.toList_ofList] at member
  exact Nat.isDigit_of_mem_toDigits (by decide) (by decide) member

/-- The digits of a number read as that number. -/
theorem Numeral.ofDigitChars_decimal (n : Nat) :
    Nat.ofDigitChars 10 (decimal n).toList 0 = n := by
  rw [decimal, String.toList_ofList, Nat.ofDigitChars_ten_toDigits]

theorem Numeral.isDigit_of_mem_padded {width n : Nat} {c : Char}
    (member : c ∈ (padded width n).toList) : c.isDigit = true := by
  rw [padded, String.toList_ofList, List.mem_append] at member
  cases member with
  | inl zero =>
      rw [List.eq_of_mem_replicate zero]
      rfl
  | inr digit => exact Nat.isDigit_of_mem_toDigits (by decide) (by decide) digit

namespace Origin

variable {origin : Origin} {c : Char}

theorem mem_slashed {text : List Char} (member : c ∈ slashed text) : c ∈ text ∨ c = '/' := by
  fun_induction slashed text with
  | case1 => exact .inl member
  | case2 rest ih =>
      cases member with
      | head => exact .inr rfl
      | tail _ inner =>
          exact (ih inner).imp_left fun old => List.mem_cons_of_mem _ (List.mem_cons_of_mem _ old)
  | case3 first rest _ ih =>
      cases member with
      | head => exact .inl List.mem_cons_self
      | tail _ inner => exact (ih inner).imp_left (List.mem_cons_of_mem _)

theorem slashed_append {front : List Char} (free : ':' ∉ front) (rest : List Char) :
    slashed (front ++ rest) = front ++ slashed rest := by
  induction front with
  | nil => rfl
  | cons first front ih =>
      rw [List.mem_cons, not_or] at free
      rw [List.cons_append, slashed, ih free.2, List.cons_append]
      exact fun _ colon => absurd colon.symm free.1

/-- Each of the separators between parts without colons becomes one slash. -/
theorem slashed_intercalate {parts : List (List Char)} (free : ∀ part ∈ parts, ':' ∉ part) :
    slashed ("::".toList.intercalate parts) = ['/'].intercalate parts := by
  induction parts with
  | nil => rfl
  | cons part parts ih =>
      obtain ⟨first, others⟩ := List.forall_mem_cons.mp free
      cases parts with
      | nil =>
          have alone := slashed_append first []
          rw [List.append_nil, slashed, List.append_nil] at alone
          rw [List.intercalate_singleton, List.intercalate_singleton, alone]
      | cons next parts =>
          rw [List.intercalate_cons_cons, List.intercalate_cons_cons, List.append_assoc,
            slashed_append first, ← ih others, List.append_assoc]
          rfl

theorem stripped?_eq_some_iff {beginning text rest : List Char} :
    stripped? beginning text = some rest ↔ text = beginning ++ rest := by
  fun_induction stripped? beginning text with
  | case1 text => simp
  | case2 => simp
  | case3 beginning c text ih => simpa using ih
  | case4 a beginning b text other => simp [Ne.symm other]

theorem mem_file (member : c ∈ origin.file.toList) :
    c ∈ origin.modulePath.toList ∨ c = '/' ∨ c ∈ ".rs".toList := by
  rw [file] at member
  split at member
  · rename_i inner stripped
    rw [String.toList_ofList, List.mem_append] at member
    rw [stripped?_eq_some_iff.mp stripped, List.mem_append]
    cases member with
    | inl slashed => exact (mem_slashed slashed).imp .inr .inl
    | inr ending => exact .inr (.inr ending)
  · rw [String.toList_ofList] at member
    exact (mem_slashed member).imp_right .inl

theorem mem_text (member : c ∈ origin.text.toList) :
    c ∈ origin.modulePath.toList ∨ c = '/' ∨ c ∈ ".rs".toList ∨ c = ':' ∨ c.isDigit = true := by
  rw [text] at member
  split at member
  · rename_i line _
    simp only [String.toList_append, List.mem_append] at member
    obtain (file | colon) | digit := member
    · exact (mem_file file).imp_right (Or.imp_right .inl)
    · exact .inr (.inr (.inr (.inl (List.mem_singleton.mp colon))))
    · exact .inr (.inr (.inr (.inr (Numeral.isDigit_of_mem_decimal digit))))
  · exact (mem_file member).imp_right (Or.imp_right .inl)

end Origin

end BuildStamp
