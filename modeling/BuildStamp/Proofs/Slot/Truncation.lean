import BuildStamp.Proofs.Slot.Image
import BuildStamp.Proofs.Text.Cut

set_option autoImplicit false

/-!
What a slot holds that was made for a text of any length. The slot that is linked and the image that
packaging searches for are laid out alike, whatever the text is, and reading the slot gives the
text up to its first NUL as far as it fits: whole characters, and one replacement character where
the last byte of room falls inside one.
-/

namespace BuildStamp.Slot

/-- The text in front of the first NUL. -/
def beforeNul (text : String) : String :=
  String.ofList (text.toList.takeWhile (· ≠ Char.ofNat 0))

/-- Laying bytes out one by one leaves what a copy into zeroed cells leaves. -/
theorem layOut_eq (cells : Nat) (bytes : List UInt8) :
    layOut cells bytes =
      bytes.take (cells - 1) ++ List.replicate (cells - (bytes.take (cells - 1)).length) 0 := by
  fun_induction layOut cells bytes with
  | case1 => rfl
  | case2 => rfl
  | case3 cells ih =>
      rw [ih]
      simp [List.replicate_succ]
  | case4 cells byte rest ih =>
      rw [ih]
      simp

theorem holding_bytes (text : String) : (holding text).bytes = image text capacity :=
  layOut_eq capacity (Utf8.encode text)

theorem takeWhile_encode (text : String) :
    (Utf8.encode text).takeWhile (· ≠ 0) = Utf8.encode (beforeNul text) := by
  rw [beforeNul, Utf8.encode_ofList, Utf8.encode]
  induction text.toList with
  | nil => rfl
  | cons c rest ih =>
      by_cases nul : c = Char.ofNat 0
      · subst nul
        rfl
      · have free : 0 ∉ String.utf8EncodeChar c := by
          intro member
          exact nul (Char.toNat_inj.mp (Utf8.toNat_of_mem_encodeChar member (by decide)).symm)
        rw [List.flatMap_cons, List.takeWhile_cons_of_pos (by simpa using nul),
          List.flatMap_cons, ← ih, takeWhile_append_of_free free]

/-- The bytes in front of the first NUL, of a row that was cut off and filled up with NULs. -/
theorem takeWhile_take_append (bytes : List UInt8) (count zeros : Nat) :
    (bytes.take count ++ List.replicate zeros 0).takeWhile (· ≠ 0) =
      (bytes.takeWhile (· ≠ 0)).take count := by
  induction bytes generalizing count with
  | nil => rw [List.take_nil, List.nil_append, takeWhile_zeros, List.takeWhile_nil, List.take_nil]
  | cons byte rest ih =>
      cases count with
      | zero => rw [List.take_zero, List.nil_append, takeWhile_zeros, List.take_zero]
      | succ count =>
          rw [List.take_succ_cons, List.cons_append]
          by_cases nul : byte = 0
          · rw [List.takeWhile_cons_of_neg (by simpa using nul),
              List.takeWhile_cons_of_neg (by simpa using nul), List.take_nil]
          · rw [List.takeWhile_cons_of_pos (by simpa using nul),
              List.takeWhile_cons_of_pos (by simpa using nul), List.take_succ_cons, ih]

theorem content_holding (text : String) :
    (holding text).content = (Utf8.encode (beforeNul text)).take (capacity - 1) := by
  rw [content, holding_bytes, image, takeWhile_take_append, takeWhile_encode]

/-- The bytes of a fresh slot, and what it reads as. -/
theorem holding_reads (text : String) :
    (holding text).bytes = image text capacity ∧
      (Utf8.byteLength (beforeNul text) ≤ capacity - 1 ∧ (holding text).value = beforeNul text ∨
        capacity - 1 < Utf8.byteLength (beforeNul text) ∧
          ∃ kept, Utf8.IsLongestWithin (capacity - 1) (beforeNul text) kept ∧
            (Utf8.CutsCharacter (capacity - 1) (beforeNul text) ∧
                (holding text).value = kept ++ "\uFFFD" ∨
              ¬ Utf8.CutsCharacter (capacity - 1) (beforeNul text) ∧
                (holding text).value = kept)) := by
  refine ⟨holding_bytes text, ?_⟩
  rw [value, content_holding]
  by_cases short : Utf8.byteLength (beforeNul text) ≤ capacity - 1
  · refine Or.inl ⟨short, ?_⟩
    rw [List.take_of_length_le short, Utf8.decodeLossy_encode]
  · have long : capacity - 1 < Utf8.byteLength (beforeNul text) := Nat.lt_of_not_le short
    exact Or.inr ⟨long, Utf8.decodeLossy_take_encode long⟩

end BuildStamp.Slot
