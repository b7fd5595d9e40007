import BuildStamp.Text.Parts

set_option autoImplicit false

/-!
Texts put together from lines, and cut into lines again. Lines that hold no mark of their end and
are ended one by one come apart as they were.
-/

namespace BuildStamp

namespace Parts

variable {mark : Char}

theorem split_ne_nil (mark : Char) (text : List Char) : split mark text ≠ [] := by
  fun_cases split mark text <;> exact List.cons_ne_nil _ _

theorem eq_nil_of_split {text : List Char} (alone : split mark text = [[]]) : text = [] := by
  revert alone
  fun_cases split mark text with
  | case1 => exact fun _ => rfl
  | case2 => simp [split_ne_nil]
  | case3 => simp
  | case4 => simp

/-- No stretch between two places of a character has the character. -/
theorem not_mem_of_mem_split {text part : List Char} (among : part ∈ split mark text) :
    mark ∉ part := by
  induction text generalizing part with
  | nil =>
      cases List.mem_singleton.mp among
      exact List.not_mem_nil
  | cons c rest ih =>
      rw [split] at among
      split at among
      · rcases List.mem_cons.mp among with rfl | later
        · exact List.not_mem_nil
        · exact ih later
      · rename_i other
        split at among
        · cases List.mem_singleton.mp among
          exact fun member => other (List.mem_singleton.mp member).symm
        · rename_i first parts same
          rw [same] at ih
          rcases List.mem_cons.mp among with rfl | later
          · intro member
            rcases List.mem_cons.mp member with here | inside
            · exact other here.symm
            · exact ih (.head parts) inside
          · exact ih (.tail first later)

theorem split_append_mark {part : List Char} (free : mark ∉ part) (rest : List Char) :
    split mark (part ++ mark :: rest) = part :: split mark rest := by
  induction part with
  | nil => simp [split]
  | cons c part ih =>
      rw [List.mem_cons, not_or] at free
      rw [List.cons_append, split, if_neg (Ne.symm free.1), ih free.2]

/-- Lines that are ended one by one are split apart again, with nothing behind the last. -/
theorem split_ended {rows : List (List Char)} (free : ∀ row ∈ rows, mark ∉ row) :
    split mark (rows.flatMap fun row => row ++ [mark]) = rows ++ [[]] := by
  induction rows with
  | nil => rfl
  | cons row rows ih =>
      rw [List.flatMap_cons, List.append_assoc, List.singleton_append,
        split_append_mark (free row List.mem_cons_self),
        ih fun other member => free other (List.mem_cons_of_mem row member), List.cons_append]

end Parts

/-- Texts that are empty are not missed where texts are joined. -/
theorem join_map_filter {α : Type} {text : α → String} {keeps : α → Bool} {items : List α}
    (silent : ∀ item ∈ items, keeps item = false → text item = "") :
    String.join (items.map text) = String.join ((items.filter keeps).map text) := by
  induction items with
  | nil => rfl
  | cons item items ih =>
      have rest := ih fun other member => silent other (List.mem_cons_of_mem item member)
      rw [List.map_cons, String.join_cons, rest, List.filter_cons]
      split
      · rw [List.map_cons, String.join_cons]
      · rename_i dropped
        rw [silent item List.mem_cons_self (Bool.eq_false_iff.mpr dropped), String.empty_append]

end BuildStamp
