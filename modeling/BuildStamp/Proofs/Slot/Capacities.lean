import BuildStamp.Proofs.Slot.Places

set_option autoImplicit false

/-!
One text sought in slots of two capacities. The image of a narrow slot is the front of that of a
wide one, so a text stands in no wide slot without standing in a narrow one at the same offset. A
search for the wide slot therefore finds no place that one for the narrow slot does not find.
-/

namespace BuildStamp.Slot

variable {text : String} {narrow wide : Nat} {artifact : List UInt8}

theorem Fits.widen (fits : Fits text narrow) (wider : narrow ≤ wide) : Fits text wide := by
  have within := fits.within
  exact ⟨fits.nonempty, fits.nulFree, by omega⟩

/-- A wide slot has the bytes of a narrow one and further NULs. -/
theorem Fits.image_prefix (fits : Fits text narrow) (wider : narrow ≤ wide) :
    image text narrow <+: image text wide := by
  have room := fits.byteLength_lt
  refine ⟨List.replicate (wide - narrow) 0, ?_⟩
  rw [fits.image_eq, (fits.widen wider).image_eq, padded, padded, List.append_assoc,
    List.replicate_append_replicate]
  congr 2
  omega

theorem places_subset_of_le (fits : Fits text narrow) (wider : narrow ≤ wide)
    (artifact : List UInt8) : places text wide artifact ⊆ places text narrow artifact := by
  rintro offset ⟨inside, occurs⟩
  exact ⟨inside, (fits.image_prefix wider).trans occurs⟩

theorem find_eq_slotNotFound_iff (fits : Fits text narrow) :
    find artifact text narrow = .error (.slotNotFound text) ↔
      places text narrow artifact = ∅ := by
  constructor
  · intro refused
    cases (find_eq_error_iff _ _ _ _).mp refused with
    | text fault => exact absurd fits fault.not_fits
    | absent fits nowhere =>
        rw [← fits.image_eq] at nowhere
        exact Set.eq_empty_iff_forall_notMem.mpr nowhere
  · exact find_of_empty fits

/-- A search in doubt names the two smallest of its places. -/
theorem isLeast_of_ambiguous {first second : Nat} (fits : Fits text narrow)
    (refused : find artifact text narrow = .error (.ambiguousSlot text first second)) :
    IsLeast (places text narrow artifact) first ∧
      IsLeast (places text narrow artifact \ {first}) second := by
  cases (find_eq_error_iff _ _ _ _).mp refused with
  | text fault => exact absurd fits fault.not_fits
  | ambiguous fits twice =>
      rw [← fits.image_eq] at twice
      exact twice.isLeast

/-- With further places the two smallest of them get no larger. -/
theorem le_of_isLeast_of_subset {few many : Set Nat} (more : few ⊆ many)
    {first second one two : Nat} (least : IsLeast few first) (next : IsLeast (few \ {first}) second)
    (leastOfMany : IsLeast many one) (nextOfMany : IsLeast (many \ {one}) two) :
    one ≤ first ∧ two ≤ second := by
  have lower : one ≤ first := least.mono leastOfMany more
  have ordered : first ≤ second := least.2 next.1.1
  have apart : second ≠ first := next.1.2
  refine ⟨lower, nextOfMany.2 ⟨more next.1.1, ?_⟩⟩
  rintro rfl
  omega

/-- What a search for a text finds in wide slots, it finds in narrow ones. So it finds nothing in
wide slots if it finds nothing in narrow ones, and the only place in narrow slots or none; and where
it is in doubt over wide slots, it is so over narrow ones, at places no larger. -/
theorem find_in_wider_slots (fits : Fits text narrow) (wider : narrow ≤ wide)
    (artifact : List UInt8) :
    (∀ offset, OccursAt (image text wide) artifact offset →
      OccursAt (image text narrow) artifact offset) ∧
    (find artifact text narrow = .error (.slotNotFound text) →
      find artifact text wide = .error (.slotNotFound text)) ∧
    (∀ offset, find artifact text narrow = .ok offset →
      find artifact text wide = .ok offset ∨
        find artifact text wide = .error (.slotNotFound text)) ∧
    (∀ offset, find artifact text wide = .ok offset →
      find artifact text narrow = .ok offset ∨
        ∃ first second, find artifact text narrow = .error (.ambiguousSlot text first second)) ∧
    (∀ first second, find artifact text wide = .error (.ambiguousSlot text first second) →
      ∃ one two, find artifact text narrow = .error (.ambiguousSlot text one two) ∧
        one ≤ first ∧ two ≤ second) := by
  have fitsWide := fits.widen wider
  have fewer := places_subset_of_le fits wider artifact
  refine ⟨fun offset occurs => fewer occurs, ?_, ?_, ?_, ?_⟩
  · rw [find_eq_slotNotFound_iff fits, find_eq_slotNotFound_iff fitsWide]
    intro none
    rw [none] at fewer
    exact Set.subset_empty_iff.mp fewer
  · intro offset
    rw [find_eq_ok_iff_singleton fits, find_eq_ok_iff_singleton fitsWide,
      find_eq_slotNotFound_iff fitsWide]
    intro single
    rw [single] at fewer
    exact (Set.subset_singleton_iff_eq.mp fewer).symm
  · intro offset
    rw [find_eq_ok_iff_singleton fits, find_eq_ok_iff_singleton fitsWide]
    intro single
    have member : offset ∈ places text narrow artifact := fewer (single ▸ Set.mem_singleton offset)
    rcases Set.eq_singleton_or_nontrivial member with alone | several
    · exact .inl alone
    · obtain ⟨first, second, reported, -⟩ := find_of_nontrivial fits several
      exact .inr ⟨first, second, reported⟩
  · intro first second refused
    obtain ⟨least, next⟩ := isLeast_of_ambiguous fitsWide refused
    have several : (places text narrow artifact).Nontrivial :=
      ⟨second, fewer next.1.1, first, fewer least.1, next.1.2⟩
    obtain ⟨one, two, reported, leastOfMany, nextOfMany⟩ := find_of_nontrivial fits several
    exact ⟨one, two, reported, le_of_isLeast_of_subset fewer least next leastOfMany nextOfMany⟩

/-- At the end of an artifact there is room for the narrow slot alone. -/
theorem find_in_wider_slots_at_end :
    Fits "a" 2 ∧ 2 ≤ 4 ∧
      find [97, 0, 0, 0, 97, 0] "a" 4 = .ok 0 ∧
      find [97, 0, 0, 0, 97, 0] "a" 2 ≠ .ok 0 ∧
      ∃ first second,
        find [97, 0, 0, 0, 97, 0] "a" 2 = .error (.ambiguousSlot "a" first second) := by
  have fits : Fits "a" 2 := by decide
  have searched : find [97, 0, 0, 0, 97, 0] "a" 4 = .ok 0 := by decide
  have other : find [97, 0, 0, 0, 97, 0] "a" 2 ≠ .ok 0 := by decide
  obtain ⟨-, -, -, single, -⟩ := find_in_wider_slots fits (by decide : 2 ≤ 4) [97, 0, 0, 0, 97, 0]
  exact ⟨fits, by decide, searched, other, (single 0 searched).resolve_left other⟩

end BuildStamp.Slot
