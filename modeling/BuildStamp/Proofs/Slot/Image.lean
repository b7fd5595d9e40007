import BuildStamp.Proofs.Text.Encoding
import BuildStamp.Slot.Search

set_option autoImplicit false

/-!
What the checks of a text promise of the image searched for. The image of a text that fits is the
text's bytes and at least one NUL behind them, so the text can be read back from the whole image and
also from any part of it that still ends in NULs. Two images that overlap therefore agree on the
common part exactly if one of the texts ends in the other.
-/

namespace BuildStamp.Slot

/-- A slot of some capacity can hold the text and has room for a NUL behind it. -/
structure Fits (text : String) (capacity : Nat) : Prop where
  nonempty : text ≠ ""
  nulFree : Char.ofNat 0 ∉ text.toList
  within : Utf8.byteLength text ≤ capacity - 1

theorem fits_iff (text : String) (capacity : Nat) :
    Fits text capacity ↔
      text ≠ "" ∧ Char.ofNat 0 ∉ text.toList ∧ Utf8.byteLength text ≤ capacity - 1 :=
  ⟨fun fits => ⟨fits.nonempty, fits.nulFree, fits.within⟩,
    fun ⟨nonempty, nulFree, within⟩ => ⟨nonempty, nulFree, within⟩⟩

instance (text : String) (capacity : Nat) : Decidable (Fits text capacity) :=
  decidable_of_iff _ (fits_iff text capacity).symm

/-- The text's bytes, filled up with NULs to the capacity. -/
def padded (text : String) (capacity : Nat) : List UInt8 :=
  Utf8.encode text ++ List.replicate (capacity - Utf8.byteLength text) 0

/-- What is wrong with a text that does not fit. The faults exclude each other, in this order. -/
inductive TextFault (role : Role) (text : String) (capacity : Nat) : SlotFailure → Prop
  | empty (none : text = "") :
      TextFault role text capacity (.invalidValue (role.name ++ " is empty"))
  | hasNul (nonempty : text ≠ "") (nul : Char.ofNat 0 ∈ text.toList) :
      TextFault role text capacity (.invalidValue (role.name ++ " contains a NUL byte"))
  | tooLong (nonempty : text ≠ "") (nulFree : Char.ofNat 0 ∉ text.toList)
      (excess : capacity - 1 < Utf8.byteLength text) :
      TextFault role text capacity (.valueTooLong (Utf8.byteLength text) (capacity - 1))

theorem checkText_eq_ok_iff (role : Role) (text : String) (capacity : Nat) :
    checkText role text capacity = .ok () ↔ Fits text capacity := by
  rw [fits_iff, checkText]
  simp only [List.contains_iff_mem]
  split
  · simp [*]
  · split
    · simp [*]
    · split
      · simp [*]
      · simp_all

theorem checkText_eq_error_iff (role : Role) (text : String) (capacity : Nat)
    (failure : SlotFailure) :
    checkText role text capacity = .error failure ↔ TextFault role text capacity failure := by
  rw [checkText]
  simp only [List.contains_iff_mem]
  constructor
  · intro refused
    split at refused
    · rename_i none
      cases refused
      exact .empty none
    · rename_i nonempty
      split at refused
      · rename_i nul
        cases refused
        exact .hasNul nonempty nul
      · rename_i nulFree
        split at refused
        · rename_i excess
          cases refused
          exact .tooLong nonempty nulFree excess
        · cases refused
  · intro fault
    cases fault with
    | empty none => rw [if_pos none]
    | hasNul nonempty nul => rw [if_neg nonempty, if_pos nul]
    | tooLong nonempty nulFree excess => rw [if_neg nonempty, if_neg nulFree, if_pos excess]

namespace Fits

variable {text : String} {capacity : Nat}

theorem byteLength_pos (fits : Fits text capacity) : 0 < Utf8.byteLength text :=
  (Utf8.byteLength_pos_iff text).mpr fits.nonempty

theorem byteLength_lt (fits : Fits text capacity) : Utf8.byteLength text < capacity := by
  have positive := fits.byteLength_pos
  have within := fits.within
  omega

theorem zero_not_mem (fits : Fits text capacity) : 0 ∉ Utf8.encode text := by
  rw [Utf8.zero_mem_encode_iff]
  exact fits.nulFree

theorem image_eq (fits : Fits text capacity) : image text capacity = padded text capacity := by
  have whole : (Utf8.encode text).take (capacity - 1) = Utf8.encode text :=
    List.take_of_length_le fits.within
  simp only [image, padded, whole]
  rfl

theorem image_ne_nil (fits : Fits text capacity) : image text capacity ≠ [] := by
  have room := fits.byteLength_lt
  apply List.ne_nil_of_length_pos
  rw [image_length]
  omega

end Fits

theorem takeWhile_append_of_free {bytes : List UInt8} (free : 0 ∉ bytes) (rest : List UInt8) :
    (bytes ++ rest).takeWhile (· ≠ 0) = bytes ++ rest.takeWhile (· ≠ 0) := by
  apply List.takeWhile_append_of_pos
  intro byte member
  rw [decide_eq_true_iff]
  rintro rfl
  exact free member

theorem takeWhile_zeros (count : Nat) :
    (List.replicate count (0 : UInt8)).takeWhile (· ≠ 0) = [] := by
  cases count <;> rfl

/-- The bytes in front of the first NUL. -/
theorem takeWhile_append_zeros {bytes : List UInt8} (free : 0 ∉ bytes) (count : Nat) :
    (bytes ++ List.replicate count 0).takeWhile (· ≠ 0) = bytes := by
  rw [takeWhile_append_of_free free, takeWhile_zeros, List.append_nil]

/-- The text's bytes are read back from the image with its front cut off. -/
theorem takeWhile_drop_image {text : String} {capacity : Nat} (fits : Fits text capacity)
    (count : Nat) :
    ((image text capacity).drop count).takeWhile (· ≠ 0) = (Utf8.encode text).drop count := by
  rw [fits.image_eq, padded, List.drop_append, List.drop_replicate]
  apply takeWhile_append_zeros
  intro member
  exact fits.zero_not_mem (List.mem_of_mem_drop member)

/-- The text's bytes are read back from the image with its end cut off. -/
theorem takeWhile_take_image {text : String} {capacity : Nat} (fits : Fits text capacity)
    (count : Nat) :
    ((image text capacity).take count).takeWhile (· ≠ 0) = (Utf8.encode text).take count := by
  rw [fits.image_eq, padded, List.take_append, List.take_replicate]
  apply takeWhile_append_zeros
  intro member
  exact fits.zero_not_mem (List.mem_of_mem_take member)

/-- The end of one image is the front of another exactly if the one text ends in the other. The
last NUL is what keeps the other text from being cut off. -/
theorem drop_image_eq_take_image_iff {sought held : String} {capacity : Nat}
    (soughtFits : Fits sought capacity) (heldFits : Fits held capacity) (shift : Nat)
    (inside : shift < capacity) :
    (image sought capacity).drop shift = (image held capacity).take (capacity - shift) ↔
      (Utf8.encode sought).drop shift = Utf8.encode held := by
  have soughtRoom := soughtFits.byteLength_lt
  have heldRoom := heldFits.byteLength_lt
  have heldSome := heldFits.byteLength_pos
  constructor
  · intro same
    have texts := congrArg (List.takeWhile (· ≠ 0)) same
    rw [takeWhile_drop_image soughtFits, takeWhile_take_image heldFits] at texts
    have lengths := congrArg List.length texts
    simp only [List.length_drop, List.length_take, Utf8.length_encode] at lengths
    rw [texts]
    apply List.take_of_length_le
    rw [Utf8.length_encode]
    omega
  · intro texts
    have lengths := congrArg List.length texts
    rw [List.length_drop, Utf8.length_encode, Utf8.length_encode] at lengths
    have whole : (Utf8.encode held).length ≤ capacity - shift := by
      rw [Utf8.length_encode]
      omega
    rw [soughtFits.image_eq, heldFits.image_eq, padded, padded, List.drop_append, texts,
      List.drop_replicate, List.take_append, List.take_of_length_le whole, List.take_replicate,
      Utf8.length_encode, Utf8.length_encode]
    congr 2
    omega

end BuildStamp.Slot
