import BuildStamp.Proofs.Slot.Overlap

set_option autoImplicit false

/-!
What a search finds in an artifact after an injection. A hit either overlaps the slot, and then the
text written decides on it, or was there before. The same injection run again therefore finds
nothing, unless the text it wrote and the bytes around the slot make up the old text once more.
-/

namespace BuildStamp.Slot

section

variable {artifact : List UInt8} {offset capacity : Nat} {held sought : String}

/-- The old and the new hits in an artifact in which a slot was written. -/
theorem occursAt_written_iff (within : offset + capacity ≤ artifact.length)
    (heldFits : Fits held capacity) (soughtFits : Fits sought capacity) (place : Nat) :
    OccursAt (image sought capacity) (overwrite artifact offset (image held capacity)) place ↔
      (place = offset ∧ sought = held) ∨
        ShiftedHit (artifact.take offset) (artifact.drop (offset + capacity)) held sought place ∨
        ((place + capacity ≤ offset ∨ offset + capacity ≤ place) ∧
          OccursAt (image sought capacity) artifact place) := by
  have front := List.length_take_of_le (show offset ≤ artifact.length by omega)
  by_cases overlaps : place < offset + capacity ∧ offset < place + capacity
  · have hits := occursAt_overlapping_iff heldFits soughtFits (artifact.take offset)
      (artifact.drop (offset + capacity)) (by rw [front]; exact overlaps.1)
      (by rw [front]; exact overlaps.2)
    have touching : ¬ (place + capacity ≤ offset ∨ offset + capacity ≤ place) := by omega
    rw [front] at hits
    simp only [overwrite, image_length, hits, touching, false_and, or_false]
  · have clear : place + capacity ≤ offset ∨ offset + capacity ≤ place := by omega
    have room := heldFits.byteLength_lt
    have moved : place ≠ offset := by omega
    have apart : ¬ ShiftedHit (artifact.take offset) (artifact.drop (offset + capacity)) held
        sought place := by
      intro hit
      have bounds := hit.overlaps heldFits soughtFits
      omega
    rw [occursAt_overwrite_iff (by rwa [image_length]) _ _ (by rwa [image_length, image_length])]
    simp only [moved, apart, clear, false_and, false_or, true_and]

/-- Two images of one text do not overlap, so what was just written is found there alone if all its
former places overlap the slot. -/
theorem find_written (within : offset + capacity ≤ artifact.length)
    (heldFits : Fits held capacity)
    (covered : ∀ place, OccursAt (image held capacity) artifact place →
      place < offset + capacity ∧ offset < place + capacity) :
    find (overwrite artifact offset (image held capacity)) held capacity = .ok offset := by
  rw [find_eq_ok_iff]
  refine ⟨heldFits, ?_⟩
  intro place
  rw [occursAt_written_iff within heldFits heldFits]
  constructor
  · rintro (⟨same, -⟩ | shifted | ⟨clear, occurs⟩)
    · exact same
    · exact absurd rfl shifted.texts_ne
    · have overlaps := covered place occurs
      omega
  · rintro rfl
    exact Or.inl ⟨rfl, rfl⟩

end

section

variable {artifact : List UInt8} {injection : Injection} {offset : Nat}

/-- The old text's only place is gone, so a new one can only be a shifted one. -/
theorem Injectable.occursAt_expected_iff (accepted : Injectable artifact injection offset)
    (changes : injection.value ≠ injection.expected) (place : Nat) :
    OccursAt (image injection.expected injection.capacity)
        (overwrite artifact offset (image injection.value injection.capacity)) place ↔
      ShiftedHit (artifact.take offset) (artifact.drop (offset + injection.capacity))
        injection.value injection.expected place := by
  rw [occursAt_written_iff accepted.within accepted.value accepted.expected]
  constructor
  · rintro (⟨-, same⟩ | shifted | ⟨clear, occurs⟩)
    · exact absurd same.symm changes
    · exact shifted
    · rw [accepted.expected.image_eq] at occurs
      have same := (accepted.only place).mp occurs
      have room := accepted.value.byteLength_lt
      omega
  · intro shifted
    exact Or.inr (Or.inl shifted)

/-- A text that was written over is found again at the shifted place, if there is one. -/
theorem Injectable.again_iff (accepted : Injectable artifact injection offset)
    (changes : injection.value ≠ injection.expected) (place : Nat) :
    Injectable (overwrite artifact offset (image injection.value injection.capacity)) injection
        place ↔
      ShiftedHit (artifact.take offset) (artifact.drop (offset + injection.capacity))
        injection.value injection.expected place := by
  have hits := accepted.occursAt_expected_iff changes
  rw [accepted.expected.image_eq] at hits
  constructor
  · intro again
    exact (hits place).mp ((again.only place).mpr rfl)
  · intro shifted
    refine ⟨accepted.value, accepted.expected, ?_⟩
    intro other
    rw [hits]
    constructor
    · intro another
      have aligned := shifted.ends_align
      have alsoAligned := another.ends_align
      omega
    · rintro rfl
      exact shifted

theorem Injectable.again_absent (accepted : Injectable artifact injection offset)
    (changes : injection.value ≠ injection.expected)
    (unshifted : ∀ place, ¬ ShiftedHit (artifact.take offset)
      (artifact.drop (offset + injection.capacity)) injection.value injection.expected place) :
    InjectionFault (overwrite artifact offset (image injection.value injection.capacity)) injection
      (.slotNotFound injection.expected) := by
  refine .search accepted.value (.absent accepted.expected ?_)
  intro place occurs
  rw [← accepted.expected.image_eq, accepted.occursAt_expected_iff changes] at occurs
  exact unshifted place occurs

/-- An injection run again on its own outcome finds nothing and changes nothing, but where the old
text is made up of the new one and the bytes around the slot. -/
theorem reinjection_outcome {after : List UInt8}
    (first : injectInPlace artifact injection = (.ok offset, after))
    (changes : injection.value ≠ injection.expected) :
    (∀ place, ShiftedHit (artifact.take offset) (artifact.drop (offset + injection.capacity))
        injection.value injection.expected place →
      ∃ again, injectInPlace after injection = (.ok place, again) ∧
        Rewritten after again place (padded injection.value injection.capacity) ∧
        (place < offset ∨ offset + injection.capacity < place + injection.capacity)) ∧
    ((∀ place, ¬ ShiftedHit (artifact.take offset)
        (artifact.drop (offset + injection.capacity)) injection.value injection.expected place) →
      injectInPlace after injection = (.error (.slotNotFound injection.expected), after)) := by
  obtain ⟨accepted, rfl⟩ := (injectInPlace_eq_ok_iff _ _ _ _).mp first
  have within := accepted.within
  have front := List.length_take_of_le (show offset ≤ artifact.length by omega)
  constructor
  · intro place shifted
    have second := (accepted.again_iff changes place).mpr shifted
    have moved := shifted.place_ne
    exact ⟨_, injectInPlace_of_injectable second, (second.rewritten_iff _).mpr rfl, by omega⟩
  · intro unshifted
    exact injectInPlace_of_fault (accepted.again_absent changes unshifted)

/-- With an `a` in front of the slot, `b` in place of `ab` is found as `ab` one byte earlier. -/
theorem reinjection_outcome_before_slot :
    injectInPlace [97, 97, 98, 0, 0] ⟨"ab", "b", 4⟩ = (.ok 1, [97, 98, 0, 0, 0]) ∧
      "b" ≠ "ab" ∧ ShiftedHit [97] [] "b" "ab" 0 ∧
      ∃ again, injectInPlace [97, 98, 0, 0, 0] ⟨"ab", "b", 4⟩ = (.ok 0, again) := by
  have first : injectInPlace [97, 97, 98, 0, 0] ⟨"ab", "b", 4⟩ = (.ok 1, [97, 98, 0, 0, 0]) := by
    decide
  have differ : "b" ≠ "ab" := by decide
  have shifted : ShiftedHit [97] [] "b" "ab" 0 :=
    .back (show "a" ≠ "" by decide) ⟨by decide, by decide⟩ (by decide)
  obtain ⟨again, second, -⟩ := (reinjection_outcome first differ).1 0 shifted
  exact ⟨first, differ, shifted, again, second⟩

end

end BuildStamp.Slot
