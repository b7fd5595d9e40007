import BuildStamp.Proofs.Slot.Reading

set_option autoImplicit false

/-!
What a foreign caller gets who asks for the build number with a buffer of any size. The number
itself holds no NUL, so the first NUL in the buffer is the one that the call put there, and the
caller can tell by the length reported whether the text in front of it is the whole number. The
bytes that the call does not write are as they were.
-/

namespace BuildStamp.Accessor

/-- What is in a buffer of which a call could write some bytes: the number as far as it leaves
room for a NUL, the NUL, and behind it what was there before. -/
structure Filled (number : List UInt8) (size : Nat) (before after : List UInt8) : Prop where
  length : after.length = before.length
  front : ∀ index < min number.length (size - 1), after[index]? = number[index]?
  nul : after[min number.length (size - 1)]? = some 0
  frame : ∀ index, min number.length (size - 1) < index → after[index]? = before[index]?

/-- The bytes in front of the first NUL, if there is one. -/
def terminated? (bytes : List UInt8) : Option (List UInt8) :=
  if 0 ∈ bytes then some (readText bytes) else none

theorem terminated?_append_nul {front : List UInt8} (free : 0 ∉ front) (rest : List UInt8) :
    terminated? (front ++ 0 :: rest) = some front := by
  rw [terminated?, if_pos (by simp), readText, Slot.takeWhile_append_nul free]

section

variable {text : String} {buffer : List UInt8} {size : Nat}

theorem fill_of_pos (positive : 0 < size) :
    fill text buffer size = (Utf8.encode text).take (size - 1) ++
      0 :: buffer.drop (min (Utf8.encode text).length (size - 1) + 1) := by
  have some : size ≠ 0 := by omega
  simp only [fill, some, ↓reduceIte, List.length_take, Nat.min_comm]

theorem filled_fill (positive : 0 < size) (room : size ≤ buffer.length) :
    Filled (Utf8.encode text) size buffer (fill text buffer size) := by
  have copied : ((Utf8.encode text).take (size - 1)).length =
      min (Utf8.encode text).length (size - 1) := by
    rw [List.length_take, Nat.min_comm]
  rw [fill_of_pos positive]
  refine ⟨?_, ?_, ?_, ?_⟩
  · rw [List.length_append, List.length_cons, List.length_drop, copied]
    omega
  · intro index inside
    rw [List.getElem?_append_left (by omega), List.getElem?_take_of_lt (by omega)]
  · rw [← copied, List.getElem?_append_right (Nat.le_refl _), Nat.sub_self]
    rfl
  · intro index behind
    obtain ⟨further, place⟩ := Nat.exists_eq_add_of_lt behind
    rw [List.getElem?_append_right (by omega), copied,
      show index - min (Utf8.encode text).length (size - 1) = further + 1 by omega,
      List.getElem?_cons_succ, List.getElem?_drop]
    congr 1
    omega

theorem readText_fill (nulFree : 0 ∉ Utf8.encode text) (positive : 0 < size) :
    readText (fill text buffer size) = (Utf8.encode text).take (size - 1) := by
  rw [fill_of_pos positive, readText, Slot.takeWhile_append_nul]
  intro member
  exact nulFree (List.mem_of_mem_take member)

theorem terminated?_take_fill (nulFree : 0 ∉ Utf8.encode text) (positive : 0 < size) :
    terminated? ((fill text buffer size).take size) =
      some ((Utf8.encode text).take (size - 1)) := by
  have free : 0 ∉ (Utf8.encode text).take (size - 1) := by
    intro member
    exact nulFree (List.mem_of_mem_take member)
  have copied : ((Utf8.encode text).take (size - 1)).length ≤ size - 1 := List.length_take_le _ _
  have more : size - ((Utf8.encode text).take (size - 1)).length =
      size - 1 - ((Utf8.encode text).take (size - 1)).length + 1 := by
    omega
  rw [fill_of_pos positive, List.take_append, List.take_of_length_le (by omega), more,
    List.take_succ_cons, terminated?_append_nul free]

/-- Only a number that leaves room for the NUL is copied as a whole. -/
theorem take_eq_iff {number : List UInt8} (positive : 0 < size) :
    number.take (size - 1) = number ↔ number.length < size := by
  constructor
  · intro whole
    have short := List.length_take_le (size - 1) number
    rw [whole] at short
    omega
  · intro room
    exact List.take_of_length_le (by omega)

end

theorem encode_value_nulFree (slot : Slot) : 0 ∉ Utf8.encode slot.value := by
  rw [Utf8.zero_mem_encode_iff]
  exact Slot.nul_not_mem_value slot

/-- A second call with a buffer of one byte more than was reported gives the whole number. -/
theorem readText_fill_reported (slot : Slot) {buffer : List UInt8} {size : Nat}
    (more : Utf8.byteLength slot.value < size) :
    readText (fill slot.value buffer size) = Utf8.encode slot.value := by
  rw [readText_fill (encode_value_nulFree slot) (by omega), take_eq_iff (by omega)]
  exact more

/-- What a call reports and leaves in the buffer, and that the length it reports is enough to ask
again for the whole number. -/
theorem copyBuildNumber_outcome (slot : Slot) (buffer : List UInt8) (size : Nat)
    (room : size ≤ buffer.length) :
    copyBuildNumber slot.value none size = (Utf8.byteLength slot.value, none) ∧
      (∃ after, copyBuildNumber slot.value (some buffer) size =
          (Utf8.byteLength slot.value, some after) ∧
        (size = 0 ∧ after = buffer ∨
          0 < size ∧ Filled (Utf8.encode slot.value) size buffer after ∧
            (readText after = Utf8.encode slot.value ↔ Utf8.byteLength slot.value < size)) ∧
        (terminated? (after.take size) = some (Utf8.encode slot.value) ↔
          Utf8.byteLength slot.value < size)) ∧
      ∀ asked length again,
        (copyBuildNumber slot.value asked length).1 < List.length again →
        ∃ after, (copyBuildNumber slot.value (some again)
            ((copyBuildNumber slot.value asked length).1 + 1)).2 = some after ∧
          readText after = Utf8.encode slot.value := by
  have nulFree := encode_value_nulFree slot
  refine ⟨rfl, ⟨fill slot.value buffer size, rfl, ?_, ?_⟩, ?_⟩
  · rcases Nat.eq_zero_or_pos size with none | positive
    · exact Or.inl ⟨none, by rw [fill, if_pos none]⟩
    · refine Or.inr ⟨positive, filled_fill positive room, ?_⟩
      rw [readText_fill nulFree positive, take_eq_iff positive, Utf8.length_encode]
  · rcases Nat.eq_zero_or_pos size with rfl | positive
    · simp [terminated?]
    · rw [terminated?_take_fill nulFree positive, Option.some.injEq, take_eq_iff positive,
        Utf8.length_encode]
  · intro asked length again room
    exact ⟨_, rfl, readText_fill_reported slot (Nat.lt_succ_self _)⟩

/-- A slot whose only byte in front of the NULs is part of no character. -/
def strayByteSlot : Slot :=
  ⟨0xFF :: List.replicate 127 0, by decide +kernel⟩

/-- The stray byte reads as three bytes, of which a buffer of three has room for two. -/
theorem copyBuildNumber_outcome_of_stray_byte :
    3 ≤ [1, 1, 1, 1, (1 : UInt8)].length ∧
      ∃ after, copyBuildNumber strayByteSlot.value (some [1, 1, 1, 1, 1]) 3 = (3, some after) ∧
        Filled [0xEF, 0xBF, 0xBD] 3 [1, 1, 1, 1, 1] after ∧
        readText after ≠ [0xEF, 0xBF, 0xBD] := by
  have room : 3 ≤ [1, 1, 1, 1, (1 : UInt8)].length := by decide
  have read : strayByteSlot.value = "\uFFFD" := by decide +kernel
  obtain ⟨-, ⟨after, called, filled, -⟩, -⟩ :=
    copyBuildNumber_outcome strayByteSlot [1, 1, 1, 1, 1] 3 room
  obtain ⟨-, filled, whole⟩ := filled.resolve_left (by simp)
  rw [read] at called filled whole
  refine ⟨room, after, by rwa [read], filled, fun same => ?_⟩
  exact absurd (whole.mp same) (by decide)

end BuildStamp.Accessor
