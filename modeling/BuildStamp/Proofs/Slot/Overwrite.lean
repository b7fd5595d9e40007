import BuildStamp.Proofs.Slot.Occurrence
import BuildStamp.Slot.Injection

set_option autoImplicit false

/-!
What an overwritten stretch does to an artifact. The artifact keeps its length and every byte in
front of the stretch and behind it, so bytes that stand clear of the stretch stand there before and
afterwards, and only the last of several writes over one stretch counts.
-/

namespace BuildStamp.Slot

theorem OccursAt.fits {needle artifact : List UInt8} {offset : Nat}
    (occurs : OccursAt needle artifact offset) :
    offset + needle.length ≤ artifact.length := by
  obtain ⟨inside, standing⟩ := occurs
  have shorter := standing.length_le
  rw [List.length_drop] at shorter
  omega

theorem occursAt_iff_getElem? (needle artifact : List UInt8) (offset : Nat) :
    OccursAt needle artifact offset ↔
      offset < artifact.length ∧
        ∀ index, index < needle.length → artifact[offset + index]? = needle[index]? := by
  rw [OccursAt, List.prefix_iff_getElem?]
  simp only [List.getElem?_drop]
  constructor
  · rintro ⟨inside, same⟩
    refine ⟨inside, ?_⟩
    intro index bound
    rw [same index bound, List.getElem?_eq_getElem bound]
  · rintro ⟨inside, same⟩
    refine ⟨inside, ?_⟩
    intro index bound
    rw [same index bound, List.getElem?_eq_getElem bound]

section

variable {artifact bytes : List UInt8} {offset : Nat}

theorem overwrite_length (within : offset + bytes.length ≤ artifact.length) :
    (overwrite artifact offset bytes).length = artifact.length := by
  simp only [overwrite, List.length_append, List.length_take, List.length_drop]
  omega

theorem overwrite_inside (within : offset + bytes.length ≤ artifact.length) :
    ((overwrite artifact offset bytes).drop offset).take bytes.length = bytes := by
  have front := List.length_take_of_le (show offset ≤ artifact.length by omega)
  rw [overwrite, List.append_assoc, List.drop_left' front, List.take_left]

theorem overwrite_outside (within : offset + bytes.length ≤ artifact.length) (index : Nat)
    (outside : index < offset ∨ offset + bytes.length ≤ index) :
    (overwrite artifact offset bytes)[index]? = artifact[index]? := by
  have front := List.length_take_of_le (show offset ≤ artifact.length by omega)
  rw [overwrite, List.append_assoc]
  rcases outside with before | behind
  · rw [List.getElem?_append_left (by omega), List.getElem?_take_of_lt before]
  · rw [List.getElem?_append_right (by omega), List.getElem?_append_right (by omega),
      List.getElem?_drop]
    congr 1
    omega

/-- Bytes that stand clear of the overwritten stretch do not come or go. -/
theorem occursAt_overwrite_iff (within : offset + bytes.length ≤ artifact.length)
    (needle : List UInt8) (other : Nat)
    (clear : other + needle.length ≤ offset ∨ offset + bytes.length ≤ other) :
    OccursAt needle (overwrite artifact offset bytes) other ↔ OccursAt needle artifact other := by
  have same : ∀ index, index < needle.length →
      (overwrite artifact offset bytes)[other + index]? = artifact[other + index]? := by
    intro index bound
    apply overwrite_outside within
    omega
  rw [occursAt_iff_getElem?, occursAt_iff_getElem?, overwrite_length within]
  constructor
  · rintro ⟨inside, standing⟩
    exact ⟨inside, fun index bound => (same index bound).symm.trans (standing index bound)⟩
  · rintro ⟨inside, standing⟩
    exact ⟨inside, fun index bound => (same index bound).trans (standing index bound)⟩

theorem overwrite_overwrite (within : offset + bytes.length ≤ artifact.length)
    {replacement : List UInt8} (size : replacement.length = bytes.length) :
    overwrite (overwrite artifact offset bytes) offset replacement =
      overwrite artifact offset replacement := by
  have front := List.length_take_of_le (show offset ≤ artifact.length by omega)
  have stretch : (artifact.take offset ++ bytes).length = offset + replacement.length := by
    rw [List.length_append, front, size]
  have ahead : (overwrite artifact offset bytes).take offset = artifact.take offset := by
    rw [overwrite, List.append_assoc, List.take_left' front]
  have behind : (overwrite artifact offset bytes).drop (offset + replacement.length) =
      artifact.drop (offset + replacement.length) := by
    rw [overwrite, List.drop_left' stretch, size]
  rw [overwrite, ahead, behind, overwrite]

end

/-- Writing what stands there already changes nothing. -/
theorem overwrite_of_occursAt {needle artifact : List UInt8} {offset : Nat}
    (occurs : OccursAt needle artifact offset) : overwrite artifact offset needle = artifact := by
  have split := List.prefix_iff_eq_append.mp occurs.2
  rw [List.drop_drop] at split
  rw [overwrite, List.append_assoc, split, List.take_append_drop]

end BuildStamp.Slot
