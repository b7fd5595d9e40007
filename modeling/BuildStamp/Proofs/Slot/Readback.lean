import BuildStamp.Proofs.Slot.Outcome
import BuildStamp.Proofs.Text.Decoding
import BuildStamp.Slot.Accessor

set_option autoImplicit false

/-!
What readers of a slot get after an injection. The slot that was linked and the slots that packaging
writes may differ in size: as long as the new text leaves room for a NUL in both, its bytes and a
NUL stand at the front of the linked slot, and what stands behind them is never looked at. The
text comes out of the slot as it went in, and so it does out of a foreign caller's buffer.
-/

namespace BuildStamp

namespace Slot

/-- The bytes in front of a NUL, whatever stands behind it. -/
theorem takeWhile_append_nul {bytes : List UInt8} (free : 0 ∉ bytes) (rest : List UInt8) :
    (bytes ++ 0 :: rest).takeWhile (· ≠ 0) = bytes := by
  rw [takeWhile_append_of_free free, List.takeWhile_cons_of_neg (by decide), List.append_nil]

theorem value_eq_of_bytes {slot : Slot} {text : String} {rest : List UInt8}
    (free : Char.ofNat 0 ∉ text.toList) (bytes : slot.bytes = Utf8.encode text ++ 0 :: rest) :
    slot.value = text := by
  rw [← Utf8.zero_mem_encode_iff] at free
  rw [value, content, bytes, takeWhile_append_nul free, Utf8.decodeLossy_encode]

theorem padded_eq_append_nul {text : String} {capacity : Nat} (fits : Fits text capacity) :
    padded text capacity =
      Utf8.encode text ++ 0 :: List.replicate (capacity - Utf8.byteLength text - 1) 0 := by
  have room := fits.byteLength_lt
  rw [padded, ← List.replicate_succ]
  congr 2
  omega

/-- The bytes behind the offset of an injection begin with the text and a NUL. -/
theorem Injectable.drop_overwrite {artifact : List UInt8} {injection : Injection} {offset : Nat}
    (accepted : Injectable artifact injection offset) :
    ∃ rest, (overwrite artifact offset (image injection.value injection.capacity)).drop offset =
      Utf8.encode injection.value ++ 0 :: rest := by
  have within := accepted.within
  have front := List.length_take_of_le (show offset ≤ artifact.length by omega)
  rw [overwrite, List.append_assoc, List.drop_left' front, accepted.value.image_eq,
    padded_eq_append_nul accepted.value, List.append_assoc, List.cons_append]
  exact ⟨_, rfl⟩

/-- A cut behind the first NUL leaves the text and the NUL. -/
theorem take_append_nul {text : String} {size : Nat} (room : Utf8.byteLength text < size)
    (rest : List UInt8) :
    (Utf8.encode text ++ 0 :: rest).take size =
      Utf8.encode text ++ 0 :: rest.take (size - Utf8.byteLength text - 1) := by
  have whole : (Utf8.encode text).length ≤ size := by
    rw [Utf8.length_encode]
    omega
  have more : size - (Utf8.encode text).length = size - Utf8.byteLength text - 1 + 1 := by
    rw [Utf8.length_encode]
    omega
  rw [List.take_append, List.take_of_length_le whole, more, List.take_succ_cons]

end Slot

namespace Accessor

theorem fill_of_lt {text : String} {size : Nat} (room : Utf8.byteLength text < size)
    (buffer : List UInt8) :
    fill text buffer size =
      Utf8.encode text ++ 0 :: buffer.drop (Utf8.byteLength text + 1) := by
  have positive : size ≠ 0 := by omega
  have whole : (Utf8.encode text).take (size - 1) = Utf8.encode text := by
    apply List.take_of_length_le
    rw [Utf8.length_encode]
    omega
  simp only [fill, positive, ↓reduceIte, whole, Utf8.length_encode]

end Accessor

namespace Slot

/-- A linked slot whose bytes an injection has written reads as the injected text, through the
slot's own reader as well as through the buffer of a foreign caller. -/
theorem readback_of_injection {artifact after : List UInt8} {injection : Injection} {offset : Nat}
    (injected : injectInPlace artifact injection = (.ok offset, after))
    (short : Utf8.byteLength injection.value ≤ capacity - 1)
    (room : offset + capacity ≤ artifact.length) :
    ∃ slot : Slot, ofBytes? ((after.drop offset).take capacity) = some slot ∧
      slot.value = injection.value ∧
      (isPlaceholder slot.value = true ↔ injection.value = sentinel) ∧
      (∀ buffer size,
        (Accessor.copyBuildNumber slot.value buffer size).1 = Utf8.byteLength injection.value) ∧
      ∀ buffer size, Utf8.byteLength injection.value < size →
        (Accessor.copyBuildNumber slot.value (some buffer) size).2 =
          some (Utf8.encode injection.value ++
            0 :: buffer.drop (Utf8.byteLength injection.value + 1)) := by
  obtain ⟨accepted, rfl⟩ := (injectInPlace_eq_ok_iff _ _ _ _).mp injected
  have within := accepted.within
  have length : (overwrite artifact offset (image injection.value injection.capacity)).length =
      artifact.length := overwrite_length (by rwa [image_length])
  have size : (((overwrite artifact offset (image injection.value injection.capacity)).drop
      offset).take capacity).length = capacity := by
    rw [List.length_take, List.length_drop, length]
    omega
  obtain ⟨rest, written⟩ := accepted.drop_overwrite
  have inner : Utf8.byteLength injection.value < capacity := by
    rw [capacity] at short ⊢
    omega
  have bytes := take_append_nul inner rest
  rw [← written] at bytes
  refine ⟨⟨_, size⟩, dif_pos size, ?_⟩
  have value : Slot.value ⟨_, size⟩ = injection.value :=
    value_eq_of_bytes accepted.value.nulFree bytes
  rw [value]
  refine ⟨rfl, decide_eq_true_iff, fun _ _ => rfl, ?_⟩
  intro buffer given fits
  simp only [Accessor.copyBuildNumber, Option.map_some, Accessor.fill_of_lt fits]

/-- A slot of four bytes at the front of a linked one, with bytes other than NUL behind it. -/
theorem readback_of_injection_into_short_slot :
    injectInPlace ([97, 0, 0, 0] ++ List.replicate 124 7) ⟨"a", "éb", 4⟩ =
        (.ok 0, [195, 169, 98, 0] ++ List.replicate 124 7) ∧
      Utf8.byteLength "éb" ≤ capacity - 1 ∧
      0 + capacity ≤ ([97, 0, 0, 0] ++ List.replicate 124 (7 : UInt8)).length ∧
      ∃ slot : Slot, ofBytes? ([195, 169, 98, 0] ++ List.replicate 124 7) = some slot ∧
        slot.value = "éb" ∧
        (Accessor.copyBuildNumber slot.value (some [1, 1, 1, 1, 1]) 5).2 =
          some [195, 169, 98, 0, 1] := by
  have injected : injectInPlace ([97, 0, 0, 0] ++ List.replicate 124 7) ⟨"a", "éb", 4⟩ =
      (.ok 0, [195, 169, 98, 0] ++ List.replicate 124 7) := by decide
  have short : Utf8.byteLength "éb" ≤ capacity - 1 := by decide
  have room : 0 + capacity ≤ ([97, 0, 0, 0] ++ List.replicate 124 (7 : UInt8)).length := by
    decide +kernel
  obtain ⟨slot, read, value, -, -, copied⟩ := readback_of_injection injected short room
  exact ⟨injected, short, room, slot, read, value, copied [1, 1, 1, 1, 1] 5 (by decide)⟩

end Slot

end BuildStamp
