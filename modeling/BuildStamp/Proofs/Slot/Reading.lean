import BuildStamp.Proofs.Slot.Readback
import BuildStamp.Proofs.Text.Pieces

set_option autoImplicit false

/-!
What a slot with any bytes reads as. A text that holds neither a NUL nor the replacement character
is read from its own bytes only, ended by a NUL or by the end of the slot. Nothing else reads like
it: no ill-formed bytes do, and no bytes in front of the first NUL are passed over.
-/

namespace BuildStamp.Slot

theorem ends_at_nul (bytes : List UInt8) :
    (bytes.takeWhile (· ≠ 0)).length = bytes.length ∨
      bytes[(bytes.takeWhile (· ≠ 0)).length]? = some 0 := by
  induction bytes with
  | nil => exact Or.inl rfl
  | cons byte rest ih =>
      by_cases nul : byte = 0
      · subst nul
        exact Or.inr rfl
      · rw [List.takeWhile_cons_of_pos (by simpa using nul)]
        simpa only [List.length_cons, Nat.add_right_cancel_iff, List.getElem?_cons_succ] using ih

/-- The bytes in front of the first NUL are the given ones exactly if these begin the row and
nothing but a NUL follows them. -/
theorem takeWhile_eq_iff {bytes front : List UInt8} (free : 0 ∉ front) :
    bytes.takeWhile (· ≠ 0) = front ↔
      front <+: bytes ∧ (front.length = bytes.length ∨ bytes[front.length]? = some 0) := by
  constructor
  · rintro rfl
    exact ⟨List.takeWhile_prefix _, ends_at_nul bytes⟩
  · rintro ⟨⟨rest, rfl⟩, ended⟩
    cases rest with
    | nil =>
        rw [takeWhile_append_of_free free, List.takeWhile_nil, List.append_nil]
    | cons byte rest =>
        have nul : byte = 0 := by simpa using ended
        rw [nul, takeWhile_append_nul free]

theorem concat_prefix_iff {bytes front : List UInt8} {byte : UInt8} :
    front ++ [byte] <+: bytes ↔ front <+: bytes ∧ bytes[front.length]? = some byte := by
  constructor
  · rintro ⟨rest, rfl⟩
    rw [List.append_assoc]
    exact ⟨List.prefix_append front _, by simp⟩
  · rintro ⟨⟨rest, rfl⟩, next⟩
    rw [List.prefix_append_right_inj]
    cases rest with
    | nil => simp at next
    | cons first rest =>
        have same : first = byte := by simpa using next
        rw [same]
        exact List.prefix_append [byte] rest

/-- A text without U+FFFD is read from its own bytes only, ended by a NUL or the slot's end. -/
theorem value_eq_iff (slot : Slot) {text : String} (nulFree : Char.ofNat 0 ∉ text.toList)
    (clean : Char.ofNat 0xFFFD ∉ text.toList) :
    slot.value = text ↔ Utf8.encode text <+: slot.bytes ∧
      (Utf8.byteLength text = capacity ∨ slot.bytes[Utf8.byteLength text]? = some 0) := by
  rw [← Utf8.zero_mem_encode_iff] at nulFree
  rw [value, Utf8.decodeLossy_eq_iff clean, content, takeWhile_eq_iff nulFree, slot.length_eq]
  rfl

/-- The sentinel and a NUL at the front are what makes a slot a fresh one. -/
theorem isPlaceholder_value_iff (slot : Slot) :
    isPlaceholder slot.value = true ↔ slot.bytes.take 31 = Utf8.encode sentinel ++ [0] := by
  have length : (Utf8.encode sentinel ++ [0]).length = 31 := by decide
  have short : Utf8.byteLength sentinel ≠ capacity := by decide
  rw [isPlaceholder, decide_eq_true_iff, value_eq_iff slot (by decide) (by decide),
    or_iff_right short, ← Utf8.length_encode, ← concat_prefix_iff, List.prefix_iff_eq_take, length]
  exact eq_comm

theorem nul_not_mem_value (slot : Slot) : Char.ofNat 0 ∉ slot.value.toList := by
  apply Utf8.nul_not_mem_decodeLossy
  intro member
  have nonzero := List.all_eq_true.mp List.all_takeWhile 0 member
  simp at nonzero

/-- What a slot reads as, whatever its bytes are. -/
theorem value_reads (slot : Slot) :
    (∀ text, Char.ofNat 0 ∉ text.toList → Char.ofNat 0xFFFD ∉ text.toList →
        (slot.value = text ↔ Utf8.encode text <+: slot.bytes ∧
          (Utf8.byteLength text = capacity ∨ slot.bytes[Utf8.byteLength text]? = some 0))) ∧
      (isPlaceholder slot.value = true ↔ slot.bytes.take 31 = Utf8.encode sentinel ++ [0]) ∧
      Char.ofNat 0 ∉ slot.value.toList ∧
      (Char.ofNat 0xFFFD ∈ slot.value.toList ↔
        (¬ ∃ decoded, Utf8.encode decoded = slot.content) ∨
          ∃ decoded, Utf8.encode decoded = slot.content ∧ Char.ofNat 0xFFFD ∈ decoded.toList) :=
  ⟨fun _ nulFree clean => value_eq_iff slot nulFree clean, isPlaceholder_value_iff slot,
    nul_not_mem_value slot, Utf8.replacement_mem_decodeLossy_iff slot.content⟩

/-- A slot without any NUL reads as all of its bytes. -/
def fullSlot : Slot :=
  ⟨List.replicate 126 97 ++ [0xC3, 0xA9], by decide +kernel⟩

theorem value_reads_to_the_end :
    Char.ofNat 0 ∉ (String.ofList (List.replicate 126 'a' ++ ['é'])).toList ∧
      Char.ofNat 0xFFFD ∉ (String.ofList (List.replicate 126 'a' ++ ['é'])).toList ∧
      fullSlot.value = String.ofList (List.replicate 126 'a' ++ ['é']) := by
  have nulFree : Char.ofNat 0 ∉ (String.ofList (List.replicate 126 'a' ++ ['é'])).toList := by
    rw [String.toList_ofList]
    decide +kernel
  have clean : Char.ofNat 0xFFFD ∉ (String.ofList (List.replicate 126 'a' ++ ['é'])).toList := by
    rw [String.toList_ofList]
    decide +kernel
  obtain ⟨reads, -⟩ := value_reads fullSlot
  refine ⟨nulFree, clean, (reads _ nulFree clean).mpr ⟨?_, Or.inl ?_⟩⟩
  · decide +kernel
  · decide +kernel

end BuildStamp.Slot
