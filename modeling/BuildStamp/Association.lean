set_option autoImplicit false

/-!
Lists of keys with values, read as finite maps: the value of a key is that of its first entry.
What is put in or taken out under one key is seen under that key and under no other.
-/

namespace BuildStamp.Association

variable {Key Value : Type} [BEq Key]

/-- The list without the entries of a key. -/
def erase (entries : List (Key × Value)) (key : Key) : List (Key × Value) :=
  entries.filter fun entry => !(entry.1 == key)

/-- The list with one entry for a key, in place of those it had. -/
def insert (entries : List (Key × Value)) (key : Key) (value : Value) : List (Key × Value) :=
  (key, value) :: erase entries key

theorem lookup_erase [LawfulBEq Key] (entries : List (Key × Value)) (key other : Key) :
    (erase entries key).lookup other = if other == key then none else entries.lookup other := by
  induction entries with
  | nil => simp [erase]
  | cons entry rest ih =>
    obtain ⟨head, value⟩ := entry
    simp only [erase] at ih ⊢
    by_cases gone : head = key
    · subst gone
      rw [List.filter_cons_of_neg (by simp), ih]
      by_cases same : other = head
      · simp [same]
      · simp [List.lookup_cons, beq_eq_false_iff_ne.mpr same]
    · rw [List.filter_cons_of_pos (by simp [gone])]
      by_cases same : other = head
      · subst same
        simp [gone]
      · simp only [List.lookup_cons, beq_eq_false_iff_ne.mpr same, ih]

theorem lookup_insert [LawfulBEq Key] (entries : List (Key × Value)) (key other : Key)
    (value : Value) :
    (insert entries key value).lookup other =
      if other == key then some value else entries.lookup other := by
  by_cases same : other = key
  · simp [insert, same]
  · simp [insert, List.lookup_cons, beq_eq_false_iff_ne.mpr same, lookup_erase]

end BuildStamp.Association
