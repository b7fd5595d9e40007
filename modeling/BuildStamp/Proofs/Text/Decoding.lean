import BuildStamp.Proofs.Text.Encoding

set_option autoImplicit false

/-!
The bytes of a text are read back as that text. The lead byte of a character opens a sequence of
the right length, the range it leaves to the next byte holds the character's second byte, and the
bits gathered on the way are the character. No stretch is ill-formed, so both ways of decoding
answer alike.
-/

namespace BuildStamp.Utf8

section

variable {byte : UInt8} (found : List Piece) (rest : List UInt8)

theorem Lead.of_ascii (below : byte.toNat < 0x80) :
    Lead.of byte = .whole (Char.ofNat byte.toNat) := by
  have first : byte < 0x80 := UInt8.lt_iff_toNat_lt.mpr below
  rw [Lead.of, if_pos first]

theorem Lead.of_two (above : 0xC2 ≤ byte.toNat) (below : byte.toNat < 0xE0) :
    Lead.of byte = .opens ⟨byte.toNat % 32, 1, 0x80, 0xBF⟩ := by
  simp only [Lead.of, UInt8.lt_iff_toNat_lt, ← UInt8.toNat_inj, UInt8.reduceToNat]
  rw [if_neg (by omega), if_neg (by omega), if_pos below]

/-- The two lead bytes whose second byte is restricted keep out overlong forms and surrogates. -/
theorem Lead.of_three (above : 0xE0 ≤ byte.toNat) (below : byte.toNat < 0xF0) :
    Lead.of byte =
      .opens ⟨byte.toNat % 16, 2, if byte.toNat = 0xE0 then 0xA0 else 0x80,
        if byte.toNat = 0xED then 0x9F else 0xBF⟩ := by
  simp only [Lead.of, UInt8.lt_iff_toNat_lt, ← UInt8.toNat_inj, UInt8.reduceToNat]
  rw [if_neg (by omega), if_neg (by omega), if_neg (by omega)]
  by_cases least : byte.toNat = 224
  · simp [least]
  · by_cases surrogate : byte.toNat = 237
    · simp [surrogate]
    · simp [least, surrogate, below]

/-- The two lead bytes whose second byte is restricted keep out overlong forms and too large
values. -/
theorem Lead.of_four (above : 0xF0 ≤ byte.toNat) (below : byte.toNat ≤ 0xF4) :
    Lead.of byte =
      .opens ⟨byte.toNat % 8, 3, if byte.toNat = 0xF0 then 0x90 else 0x80,
        if byte.toNat = 0xF4 then 0x8F else 0xBF⟩ := by
  simp only [Lead.of, UInt8.lt_iff_toNat_lt, ← UInt8.toNat_inj, UInt8.reduceToNat]
  rw [if_neg (by omega), if_neg (by omega), if_neg (by omega), if_neg (by omega),
    if_neg (by omega), if_neg (by omega)]
  by_cases least : byte.toNat = 240
  · simp [least]
  · by_cases greatest : byte.toNat = 244
    · simp [greatest]
    · have inner : byte.toNat < 244 := by omega
      simp [least, greatest, inner]

theorem piecesOnto_whole {c : Char} (lead : Lead.of byte = .whole c) :
    piecesOnto found none (byte :: rest) = piecesOnto (some c :: found) none rest := by
  simp only [piecesOnto, step, begin, lead, List.reverse_cons, List.reverse_nil, List.nil_append,
    List.cons_append]

theorem piecesOnto_opens {sequence : Partial} (lead : Lead.of byte = .opens sequence) :
    piecesOnto found none (byte :: rest) = piecesOnto found (some sequence) rest := by
  simp only [piecesOnto, step, begin, lead, List.reverse_nil, List.nil_append]

theorem piecesOnto_goesOn {sequence : Partial} (low : sequence.low.toNat ≤ byte.toNat)
    (high : byte.toNat ≤ sequence.high.toNat) (more : 1 < sequence.missing) :
    piecesOnto found (some sequence) (byte :: rest) =
      piecesOnto found
        (some ⟨sequence.bits * 64 + byte.toNat % 64, sequence.missing - 1, 0x80, 0xBF⟩) rest := by
  have continues : ¬ sequence.missing ≤ 1 := by omega
  simp only [piecesOnto, step, UInt8.le_iff_toNat_le, low, high, and_self, ↓reduceIte, continues,
    List.reverse_nil, List.nil_append]

theorem piecesOnto_ends {sequence : Partial} (low : sequence.low.toNat ≤ byte.toNat)
    (high : byte.toNat ≤ sequence.high.toNat) (last : sequence.missing ≤ 1) :
    piecesOnto found (some sequence) (byte :: rest) =
      piecesOnto (some (Char.ofNat (sequence.bits * 64 + byte.toNat % 64)) :: found) none rest := by
  simp only [piecesOnto, step, UInt8.le_iff_toNat_le, low, high, and_self, ↓reduceIte, last,
    List.reverse_cons, List.reverse_nil, List.nil_append, List.cons_append]

end

/-- A continuation byte holds six bits. -/
theorem toNat_continuation (bits : Nat) :
    (UInt8.ofNat (bits % 64 + 128)).toNat = bits % 64 + 128 := by
  rw [UInt8.toNat_ofNat']
  omega

theorem continuation_low (bits : Nat) :
    (0x80 : UInt8).toNat ≤ (UInt8.ofNat (bits % 64 + 128)).toNat := by
  simp only [toNat_continuation, UInt8.reduceToNat]
  omega

theorem continuation_high (bits : Nat) :
    (UInt8.ofNat (bits % 64 + 128)).toNat ≤ (0xBF : UInt8).toNat := by
  simp only [toNat_continuation, UInt8.reduceToNat]
  omega

/-- The code points of characters leave out the surrogates. -/
theorem codePoint_valid (c : Char) :
    c.val.toNat < 0xD800 ∨ 0xDFFF < c.val.toNat ∧ c.val.toNat < 0x110000 :=
  c.valid

/-- The bytes that go on a sequence under way to its end, and the character it then makes. -/
inductive Partial.Ends : Partial → List UInt8 → Char → Prop
  | last {sequence : Partial} {byte : UInt8} {c : Char}
      (low : sequence.low.toNat ≤ byte.toNat) (high : byte.toNat ≤ sequence.high.toNat)
      (last : sequence.missing ≤ 1)
      (made : Char.ofNat (sequence.bits * 64 + byte.toNat % 64) = c) :
      Ends sequence [byte] c
  | more {sequence : Partial} {byte : UInt8} {rest : List UInt8} {c : Char}
      (low : sequence.low.toNat ≤ byte.toNat) (high : byte.toNat ≤ sequence.high.toNat)
      (more : 1 < sequence.missing)
      (ends : Ends ⟨sequence.bits * 64 + byte.toNat % 64, sequence.missing - 1, 0x80, 0xBF⟩
        rest c) :
      Ends sequence (byte :: rest) c

/-- The bytes that make a character when they are read outside a sequence. -/
inductive Spells : List UInt8 → Char → Prop
  | whole {byte : UInt8} {c : Char} (lead : Lead.of byte = .whole c) : Spells [byte] c
  | opens {byte : UInt8} {sequence : Partial} {rest : List UInt8} {c : Char}
      (lead : Lead.of byte = .opens sequence) (ends : sequence.Ends rest c) :
      Spells (byte :: rest) c

theorem spells_encodeChar (c : Char) : Spells (String.utf8EncodeChar c) c := by
  have valid := codePoint_valid c
  have same : Char.ofNat c.val.toNat = c := Char.ofNat_toNat c
  fun_cases String.utf8EncodeChar c with
  | case1 code one =>
      have lead : (UInt8.ofNat code).toNat = code := by
        rw [UInt8.toNat_ofNat']
        omega
      have below : (UInt8.ofNat code).toNat < 0x80 := by omega
      have whole := Lead.of_ascii below
      rw [lead, same] at whole
      exact .whole whole
  | case2 code _ two =>
      have lead : (UInt8.ofNat (code / 64 % 32 + 192)).toNat = code / 64 + 192 := by
        rw [UInt8.toNat_ofNat']
        omega
      refine .opens (Lead.of_two (by omega) (by omega))
        (.last (continuation_low code) (continuation_high code) (Nat.le_refl 1) ?_)
      simp only [lead, toNat_continuation]
      rw [← same]
      congr 1
      omega
  | case3 code _ _ three =>
      have lead : (UInt8.ofNat (code / 4096 % 16 + 224)).toNat = code / 4096 + 224 := by
        rw [UInt8.toNat_ofNat']
        omega
      have second := toNat_continuation (code / 64)
      refine .opens (Lead.of_three (by omega) (by omega))
        (.more ?_ ?_ (by simp)
          (.last (continuation_low code) (continuation_high code) (Nat.le_refl 1) ?_))
      -- Only the lead bytes 0xE0 and 0xED say more about the second byte than that it continues.
      · simp only [lead, second]
        split <;> simp only [UInt8.reduceToNat] <;> omega
      · simp only [lead, second]
        split <;> simp only [UInt8.reduceToNat] <;> omega
      · simp only [lead, second, toNat_continuation]
        rw [← same]
        congr 1
        omega
  | case4 code _ _ four =>
      have lead : (UInt8.ofNat (code / 262144 % 8 + 240)).toNat = code / 262144 + 240 := by
        rw [UInt8.toNat_ofNat']
        omega
      have second := toNat_continuation (code / 4096)
      refine .opens (Lead.of_four (by omega) (by omega))
        (.more ?_ ?_ (by simp)
          (.more (continuation_low _) (continuation_high _) (by simp)
            (.last (continuation_low code) (continuation_high code) (Nat.le_refl 1) ?_)))
      -- Likewise for the lead bytes 0xF0 and 0xF4.
      · simp only [lead, second]
        split <;> simp only [UInt8.reduceToNat] <;> omega
      · simp only [lead, second]
        split <;> simp only [UInt8.reduceToNat] <;> omega
      · simp only [lead, second, toNat_continuation]
        rw [← same]
        congr 1
        omega

theorem piecesOnto_finished {sequence : Partial} {bytes : List UInt8} {c : Char}
    (ends : sequence.Ends bytes c) (found : List Piece) (rest : List UInt8) :
    piecesOnto found (some sequence) (bytes ++ rest) = piecesOnto (some c :: found) none rest := by
  induction ends with
  | last low high last made =>
      rw [List.singleton_append, piecesOnto_ends found rest low high last, made]
  | more low high more ends ih =>
      rw [List.cons_append, piecesOnto_goesOn found _ low high more, ih]

theorem piecesOnto_spelled {bytes : List UInt8} {c : Char} (spelled : Spells bytes c)
    (found : List Piece) (rest : List UInt8) :
    piecesOnto found none (bytes ++ rest) = piecesOnto (some c :: found) none rest := by
  cases spelled with
  | whole lead => exact piecesOnto_whole found rest lead
  | opens lead ends =>
      rw [List.cons_append, piecesOnto_opens found _ lead, piecesOnto_finished ends]

/-- The bytes of one character make one piece. -/
theorem piecesOnto_encodeChar (found : List Piece) (c : Char) (rest : List UInt8) :
    piecesOnto found none (String.utf8EncodeChar c ++ rest) =
      piecesOnto (some c :: found) none rest :=
  piecesOnto_spelled (spells_encodeChar c) found rest

theorem piecesOnto_flatMap_append (found : List Piece) (text : List Char) (rest : List UInt8) :
    piecesOnto found none (text.flatMap String.utf8EncodeChar ++ rest) =
      piecesOnto ((text.map some).reverse ++ found) none rest := by
  induction text generalizing found with
  | nil => rfl
  | cons c text ih =>
      rw [List.flatMap_cons, List.append_assoc, piecesOnto_encodeChar, ih, List.map_cons,
        List.reverse_cons, List.append_assoc, List.singleton_append]

theorem piecesOnto_flatMap (found : List Piece) (text : List Char) :
    piecesOnto found none (text.flatMap String.utf8EncodeChar) =
      found.reverse ++ text.map some := by
  have read := piecesOnto_flatMap_append found text []
  rwa [List.append_nil, piecesOnto, List.reverse_append, List.reverse_reverse] at read

/-- The bytes of a text fall into its characters. -/
theorem pieces_encode (text : String) : pieces (encode text) = text.toList.map some :=
  piecesOnto_flatMap [] text.toList

theorem decodeLossy_encode (text : String) : decodeLossy (encode text) = text := by
  rw [decodeLossy, pieces_encode, List.map_map]
  simp only [Function.comp_def, Option.getD_some, List.map_id', String.ofList_toList]

end BuildStamp.Utf8
