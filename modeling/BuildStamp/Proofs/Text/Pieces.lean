import BuildStamp.Proofs.Text.Decoding

set_option autoImplicit false

/-!
What decoding says of the bytes. Only the bytes of a character are read as that character: no
overlong form, surrogate or value past the last code point gets through, because the ranges left to
the second byte keep them out. A byte string therefore falls into the bytes of the characters found
and the ill-formed stretches between them, and nothing is lost: bytes that decode without an
ill-formed stretch are the bytes of the decoded text.
-/

namespace BuildStamp.Utf8

theorem Lead.of_stray {byte : UInt8}
    (stray : 0x80 ≤ byte.toNat ∧ byte.toNat < 0xC2 ∨ 0xF4 < byte.toNat) :
    Lead.of byte = .stray := by
  simp only [Lead.of, UInt8.lt_iff_toNat_lt, ← UInt8.toNat_inj, UInt8.reduceToNat]
  rcases stray with ⟨above, below⟩ | above
  · rw [if_neg (by omega), if_pos below]
  · rw [if_neg (by omega), if_neg (by omega), if_neg (by omega), if_neg (by omega),
      if_neg (by omega), if_neg (by omega), if_neg (by omega), if_neg (by omega),
      if_neg (by omega)]

/-- The sequences that a byte may open. -/
inductive Lead.Opening (byte : UInt8) : Partial → Prop
  | two (above : 0xC2 ≤ byte.toNat) (below : byte.toNat < 0xE0) :
      Opening byte ⟨byte.toNat % 32, 1, 0x80, 0xBF⟩
  | three (above : 0xE0 ≤ byte.toNat) (below : byte.toNat < 0xF0) :
      Opening byte ⟨byte.toNat % 16, 2, if byte.toNat = 0xE0 then 0xA0 else 0x80,
        if byte.toNat = 0xED then 0x9F else 0xBF⟩
  | four (above : 0xF0 ≤ byte.toNat) (below : byte.toNat ≤ 0xF4) :
      Opening byte ⟨byte.toNat % 8, 3, if byte.toNat = 0xF0 then 0x90 else 0x80,
        if byte.toNat = 0xF4 then 0x8F else 0xBF⟩

/-- The meaning of a byte outside a sequence, by what the byte is. -/
inductive Lead.Meaning (byte : UInt8) : Lead → Prop
  | whole (ascii : byte.toNat < 0x80) : Meaning byte (.whole (Char.ofNat byte.toNat))
  | opens {sequence : Partial} (opening : Opening byte sequence) : Meaning byte (.opens sequence)
  | stray : Meaning byte .stray

theorem Lead.meaning_of (byte : UInt8) : Lead.Meaning byte (Lead.of byte) := by
  by_cases ascii : byte.toNat < 0x80
  · rw [Lead.of_ascii ascii]
    exact .whole ascii
  · by_cases two : 0xC2 ≤ byte.toNat ∧ byte.toNat < 0xE0
    · rw [Lead.of_two two.1 two.2]
      exact .opens (.two two.1 two.2)
    · by_cases three : 0xE0 ≤ byte.toNat ∧ byte.toNat < 0xF0
      · rw [Lead.of_three three.1 three.2]
        exact .opens (.three three.1 three.2)
      · by_cases four : 0xF0 ≤ byte.toNat ∧ byte.toNat ≤ 0xF4
        · rw [Lead.of_four four.1 four.2]
          exact .opens (.four four.1 four.2)
        · rw [Lead.of_stray (by omega)]
          exact .stray

theorem toNat_ofNat (code : Nat) (valid : code < 0xD800 ∨ 0xDFFF < code ∧ code < 0x110000) :
    (Char.ofNat code).val.toNat = code := by
  rw [Char.ofNat, dif_pos valid]
  rfl

theorem ofNat_eq {code : Nat} (byte : UInt8) (same : code = byte.toNat) :
    UInt8.ofNat code = byte := by
  rw [same, UInt8.ofNat_toNat]

section

variable {first second third fourth : UInt8}

theorem encodeChar_one (ascii : first.toNat < 0x80) :
    String.utf8EncodeChar (Char.ofNat first.toNat) = [first] := by
  have code := toNat_ofNat first.toNat (by omega)
  rw [String.utf8EncodeChar, code, if_pos (by omega), ofNat_eq first rfl]

theorem encodeChar_two (above : 0xC2 ≤ first.toNat) (below : first.toNat < 0xE0)
    (low : 0x80 ≤ second.toNat) (high : second.toNat ≤ 0xBF) :
    String.utf8EncodeChar (Char.ofNat (first.toNat % 32 * 64 + second.toNat % 64)) =
      [first, second] := by
  have code := toNat_ofNat (first.toNat % 32 * 64 + second.toNat % 64) (by omega)
  rw [String.utf8EncodeChar, code, if_neg (by omega), if_pos (by omega),
    ofNat_eq first (by omega), ofNat_eq second (by omega)]

theorem encodeChar_three (above : 0xE0 ≤ first.toNat) (below : first.toNat < 0xF0)
    (low : 0x80 ≤ second.toNat ∧ (first.toNat = 0xE0 → 0xA0 ≤ second.toNat))
    (high : second.toNat ≤ 0xBF ∧ (first.toNat = 0xED → second.toNat ≤ 0x9F))
    (thirdLow : 0x80 ≤ third.toNat) (thirdHigh : third.toNat ≤ 0xBF) :
    String.utf8EncodeChar (Char.ofNat
        ((first.toNat % 16 * 64 + second.toNat % 64) * 64 + third.toNat % 64)) =
      [first, second, third] := by
  have code := toNat_ofNat
    ((first.toNat % 16 * 64 + second.toNat % 64) * 64 + third.toNat % 64) (by omega)
  rw [String.utf8EncodeChar, code, if_neg (by omega), if_neg (by omega), if_pos (by omega),
    ofNat_eq first (by omega), ofNat_eq second (by omega),
    ofNat_eq third (by omega)]

theorem encodeChar_four (above : 0xF0 ≤ first.toNat) (below : first.toNat ≤ 0xF4)
    (low : 0x80 ≤ second.toNat ∧ (first.toNat = 0xF0 → 0x90 ≤ second.toNat))
    (high : second.toNat ≤ 0xBF ∧ (first.toNat = 0xF4 → second.toNat ≤ 0x8F))
    (thirdLow : 0x80 ≤ third.toNat) (thirdHigh : third.toNat ≤ 0xBF)
    (fourthLow : 0x80 ≤ fourth.toNat) (fourthHigh : fourth.toNat ≤ 0xBF) :
    String.utf8EncodeChar (Char.ofNat
        (((first.toNat % 8 * 64 + second.toNat % 64) * 64 + third.toNat % 64) * 64 +
          fourth.toNat % 64)) =
      [first, second, third, fourth] := by
  have code := toNat_ofNat
    (((first.toNat % 8 * 64 + second.toNat % 64) * 64 + third.toNat % 64) * 64 +
      fourth.toNat % 64) (by omega)
  rw [String.utf8EncodeChar, code, if_neg (by omega), if_neg (by omega), if_neg (by omega),
    ofNat_eq first (by omega), ofNat_eq second (by omega),
    ofNat_eq third (by omega), ofNat_eq fourth (by omega)]

end

theorem le_of_ite {condition : Prop} [Decidable condition] {special usual byte : UInt8}
    (stricter : usual.toNat ≤ special.toNat)
    (low : (if condition then special else usual).toNat ≤ byte.toNat) :
    usual.toNat ≤ byte.toNat ∧ (condition → special.toNat ≤ byte.toNat) := by
  split at low
  · exact ⟨Nat.le_trans stricter low, fun _ => low⟩
  · exact ⟨low, fun holds => absurd holds ‹_›⟩

theorem ge_of_ite {condition : Prop} [Decidable condition] {special usual byte : UInt8}
    (stricter : special.toNat ≤ usual.toNat)
    (high : byte.toNat ≤ (if condition then special else usual).toNat) :
    byte.toNat ≤ usual.toNat ∧ (condition → byte.toNat ≤ special.toNat) := by
  split at high
  · exact ⟨Nat.le_trans high stricter, fun _ => high⟩
  · exact ⟨high, fun holds => absurd holds ‹_›⟩

namespace Partial.Ends

variable {sequence : Partial} {bytes : List UInt8} {c : Char}

theorem of_last (ends : sequence.Ends bytes c) (last : sequence.missing ≤ 1) :
    ∃ byte, bytes = [byte] ∧ sequence.low.toNat ≤ byte.toNat ∧
      byte.toNat ≤ sequence.high.toNat ∧
      Char.ofNat (sequence.bits * 64 + byte.toNat % 64) = c := by
  cases ends with
  | last low high _ made => exact ⟨_, rfl, low, high, made⟩
  | more _ _ more => omega

theorem of_more (ends : sequence.Ends bytes c) (more : 1 < sequence.missing) :
    ∃ byte rest, bytes = byte :: rest ∧ sequence.low.toNat ≤ byte.toNat ∧
      byte.toNat ≤ sequence.high.toNat ∧
      Ends ⟨sequence.bits * 64 + byte.toNat % 64, sequence.missing - 1, 0x80, 0xBF⟩ rest c := by
  cases ends with
  | last _ _ last => omega
  | more low high _ ends => exact ⟨_, _, rfl, low, high, ends⟩

end Partial.Ends

/-- Bytes that make a character are the bytes of that character. -/
theorem encodeChar_of_spells {bytes : List UInt8} {c : Char} (spelled : Spells bytes c) :
    String.utf8EncodeChar c = bytes := by
  cases spelled with
  | @whole byte _ lead =>
      have meaning := Lead.meaning_of byte
      rw [lead] at meaning
      cases meaning with
      | whole ascii => exact encodeChar_one ascii
  | @opens byte sequence rest _ lead ends =>
      have meaning := Lead.meaning_of byte
      rw [lead] at meaning
      cases meaning with
      | opens opening =>
          cases opening with
          | two above below =>
              obtain ⟨second, rfl, low, high, rfl⟩ := ends.of_last (Nat.le_refl 1)
              exact encodeChar_two above below low high
          | three above below =>
              obtain ⟨second, rest, rfl, low, high, ends⟩ := ends.of_more (Nat.lt_succ_self 1)
              obtain ⟨third, rfl, thirdLow, thirdHigh, rfl⟩ := ends.of_last (Nat.le_refl 1)
              exact encodeChar_three above below (le_of_ite (by decide) low)
                (ge_of_ite (by decide) high) thirdLow thirdHigh
          | four above below =>
              obtain ⟨second, rest, rfl, low, high, ends⟩ := ends.of_more (by simp)
              obtain ⟨third, rest, rfl, thirdLow, thirdHigh, ends⟩ :=
                ends.of_more (Nat.lt_succ_self 1)
              obtain ⟨fourth, rfl, fourthLow, fourthHigh, rfl⟩ := ends.of_last (Nat.le_refl 1)
              exact encodeChar_four above below (le_of_ite (by decide) low)
                (ge_of_ite (by decide) high) thirdLow thirdHigh fourthLow fourthHigh

/-- A way for bytes to fall into pieces: into the bytes of the characters found, and into the
stretches between them that are ill-formed. -/
inductive FallsInto : List UInt8 → List Piece → Prop
  | nil : FallsInto [] []
  | character (c : Char) {rest : List UInt8} {found : List Piece} (behind : FallsInto rest found) :
      FallsInto (String.utf8EncodeChar c ++ rest) (some c :: found)
  | stretch (bytes : List UInt8) {rest : List UInt8} {found : List Piece}
      (behind : FallsInto rest found) : FallsInto (bytes ++ rest) (none :: found)

/-- The bytes read of a sequence under way: with whatever ends the sequence, they make the
character that it then makes. -/
inductive Pending : List UInt8 → Option Partial → Prop
  | outside : Pending [] none
  | inside {read : List UInt8} {sequence : Partial}
      (completed : ∀ rest c, sequence.Ends rest c → Spells (read ++ rest) c) :
      Pending read (some sequence)

theorem piecesOnto_eq_append (found : List Piece) (state : Option Partial) (bytes : List UInt8) :
    piecesOnto found state bytes = found.reverse ++ piecesOnto [] state bytes := by
  induction bytes generalizing found state with
  | nil => cases state <;> simp [piecesOnto]
  | cons byte rest ih =>
      rw [piecesOnto, piecesOnto, ih, ih (_ ++ [])]
      simp only [List.reverse_append, List.reverse_reverse, List.append_nil, List.append_assoc]

theorem piecesOnto_stray {byte : UInt8} (lead : Lead.of byte = .stray) (rest : List UInt8) :
    piecesOnto [] none (byte :: rest) = none :: piecesOnto [] none rest := by
  rw [piecesOnto, piecesOnto_eq_append]
  simp only [step, begin, lead, List.append_nil, List.reverse_reverse, List.singleton_append]

/-- A byte that cannot go on a sequence is read again as a first byte. -/
theorem piecesOnto_broken {sequence : Partial} {byte : UInt8}
    (outside : ¬ (sequence.low.toNat ≤ byte.toNat ∧ byte.toNat ≤ sequence.high.toNat))
    (rest : List UInt8) :
    piecesOnto [] (some sequence) (byte :: rest) = none :: piecesOnto [] none (byte :: rest) := by
  rw [piecesOnto, piecesOnto, piecesOnto_eq_append, piecesOnto_eq_append (_ ++ [])]
  simp only [step, UInt8.le_iff_toNat_le, outside, ↓reduceIte, List.append_nil,
    List.reverse_reverse, List.cons_append]

theorem fallsInto_first {rest : List UInt8}
    (behind : ∀ state read, Pending read state →
      FallsInto (read ++ rest) (piecesOnto [] state rest)) (byte : UInt8) :
    FallsInto (byte :: rest) (piecesOnto [] none (byte :: rest)) := by
  match lead : Lead.of byte with
  | .whole c =>
      rw [piecesOnto_whole [] rest lead, piecesOnto_eq_append]
      have one := FallsInto.character c (behind none [] .outside)
      rwa [encodeChar_of_spells (.whole lead)] at one
  | .opens sequence =>
      rw [piecesOnto_opens [] rest lead]
      exact behind (some sequence) [byte] (.inside fun _ _ ends => .opens lead ends)
  | .stray =>
      rw [piecesOnto_stray lead]
      exact .stretch [byte] (behind none [] .outside)

/-- The bytes read of a sequence and those behind them fall into the pieces found. -/
theorem fallsInto_pending (bytes : List UInt8) (state : Option Partial) (read : List UInt8)
    (pending : Pending read state) : FallsInto (read ++ bytes) (piecesOnto [] state bytes) := by
  induction bytes generalizing state read with
  | nil =>
      cases pending with
      | outside => exact .nil
      | inside completed => exact .stretch read .nil
  | cons byte rest ih =>
      cases pending with
      | outside => exact fallsInto_first ih byte
      | @inside read sequence completed =>
          by_cases inRange : sequence.low.toNat ≤ byte.toNat ∧ byte.toNat ≤ sequence.high.toNat
          · obtain ⟨low, high⟩ := inRange
            rw [List.append_cons]
            by_cases last : sequence.missing ≤ 1
            · have spelled := completed [byte] _ (.last low high last rfl)
              rw [piecesOnto_ends [] rest low high last, piecesOnto_eq_append,
                ← encodeChar_of_spells spelled]
              exact .character _ (ih none [] .outside)
            · rw [piecesOnto_goesOn [] rest low high (by omega)]
              apply ih
              refine .inside fun tail c ends => ?_
              rw [List.append_assoc]
              exact completed _ c (.more low high (by omega) ends)
          · rw [piecesOnto_broken inRange]
            exact .stretch read (fallsInto_first ih byte)

theorem fallsInto_pieces (bytes : List UInt8) : FallsInto bytes (pieces bytes) :=
  fallsInto_pending bytes none [] .outside

theorem FallsInto.eq_flatMap {bytes : List UInt8} {text : List Char}
    (falls : FallsInto bytes (text.map some)) : bytes = text.flatMap String.utf8EncodeChar := by
  induction text generalizing bytes with
  | nil =>
      cases falls
      rfl
  | cons c text ih =>
      cases falls with
      | character _ behind => rw [List.flatMap_cons, ← ih behind]

theorem FallsInto.subset {bytes : List UInt8} {found : List Piece} (falls : FallsInto bytes found)
    {c : Char} (member : some c ∈ found) : String.utf8EncodeChar c ⊆ bytes := by
  induction falls with
  | nil => cases member
  | @character d rest _ _ ih =>
      rcases List.mem_cons.mp member with same | behind
      · cases same
        exact List.subset_append_left _ rest
      · exact List.subset_append_of_subset_right _ (ih behind)
  | stretch bytes _ ih =>
      rcases List.mem_cons.mp member with same | behind
      · cases same
      · exact List.subset_append_of_subset_right _ (ih behind)

theorem pieces_eq_map_iff (bytes : List UInt8) (text : String) :
    pieces bytes = text.toList.map some ↔ bytes = encode text := by
  constructor
  · intro found
    have falls := fallsInto_pieces bytes
    rw [found] at falls
    exact falls.eq_flatMap
  · rintro rfl
    exact pieces_encode text

theorem exists_eq_map_some {found : List Piece} (formed : none ∉ found) :
    ∃ text : List Char, found = text.map some := by
  induction found with
  | nil => exact ⟨[], rfl⟩
  | cons piece found ih =>
      rw [List.mem_cons, not_or] at formed
      obtain ⟨text, rfl⟩ := ih formed.2
      cases piece with
      | none => exact absurd rfl formed.1
      | some c => exact ⟨c :: text, rfl⟩

/-- A byte string is the bytes of some text exactly if nothing in it is ill-formed. -/
theorem exists_encode_iff (bytes : List UInt8) :
    (∃ text, encode text = bytes) ↔ none ∉ pieces bytes := by
  constructor
  · rintro ⟨text, rfl⟩
    rw [pieces_encode]
    simp
  · intro formed
    obtain ⟨text, found⟩ := exists_eq_map_some formed
    refine ⟨String.ofList text, ?_⟩
    apply Eq.symm
    rw [← pieces_eq_map_iff, String.toList_ofList, found]

/-- Strict decoding gives the text whose bytes these are. -/
theorem decode?_eq_some_iff (bytes : List UInt8) (text : String) :
    decode? bytes = some text ↔ bytes = encode text := by
  constructor
  · intro decoded
    rw [decode?] at decoded
    split at decoded
    · rename_i formed
      have clean : none ∉ pieces bytes := by
        intro member
        exact absurd (List.all_eq_true.mp formed none member) (by decide)
      obtain ⟨chars, found⟩ := exists_eq_map_some clean
      rw [found, List.filterMap_map, Option.some_inj] at decoded
      rw [← pieces_eq_map_iff, found, ← decoded, String.toList_ofList]
      simp
    · cases decoded
  · rintro rfl
    rw [decode?, pieces_encode]
    simp

theorem decode?_eq_none_iff (bytes : List UInt8) :
    decode? bytes = none ↔ ¬ ∃ text, encode text = bytes := by
  rw [Option.eq_none_iff_forall_ne_some, not_exists]
  refine forall_congr' fun text => not_congr ?_
  rw [decode?_eq_some_iff, eq_comm]

/-- Text around bytes makes them neither more nor less of a text. -/
theorem exists_encode_surrounded_iff (front back : String) (bytes : List UInt8) :
    (∃ text, encode text = encode front ++ bytes ++ encode back) ↔
      ∃ text, encode text = bytes := by
  constructor
  · rintro ⟨text, same⟩
    obtain ⟨head, -, whole⟩ := exists_eq_append_of_encode same
    have formed := (exists_encode_iff (encode front ++ bytes)).mp ⟨head, whole⟩
    rw [pieces, encode, piecesOnto_flatMap_append, piecesOnto_eq_append] at formed
    rw [exists_encode_iff]
    intro broken
    exact formed (List.mem_append_right _ broken)
  · rintro ⟨text, rfl⟩
    exact ⟨front ++ text ++ back, by rw [encode_append, encode_append]⟩

theorem toList_decodeLossy (bytes : List UInt8) :
    (decodeLossy bytes).toList = (pieces bytes).map (·.getD (Char.ofNat 0xFFFD)) := by
  rw [decodeLossy, String.toList_ofList]

theorem eq_map_some_of_getD {found : List Piece} {text : List Char} {mark : Char}
    (clean : mark ∉ text) (read : found.map (·.getD mark) = text) : found = text.map some := by
  subst read
  induction found with
  | nil => rfl
  | cons piece found ih =>
      rw [List.map_cons, List.mem_cons, not_or] at clean
      rw [List.map_cons, List.map_cons, ← ih clean.2]
      cases piece with
      | none => exact absurd rfl clean.1
      | some c => rfl

/-- A text without U+FFFD is decoded from its own bytes only. -/
theorem decodeLossy_eq_iff {bytes : List UInt8} {text : String}
    (clean : Char.ofNat 0xFFFD ∉ text.toList) :
    decodeLossy bytes = text ↔ bytes = encode text := by
  constructor
  · intro read
    rw [← pieces_eq_map_iff]
    apply eq_map_some_of_getD clean
    rw [← toList_decodeLossy, read]
  · rintro rfl
    exact decodeLossy_encode text

theorem nul_not_mem_decodeLossy {bytes : List UInt8} (free : 0 ∉ bytes) :
    Char.ofNat 0 ∉ (decodeLossy bytes).toList := by
  intro member
  rw [toList_decodeLossy, List.mem_map] at member
  obtain ⟨piece, found, shown⟩ := member
  cases piece with
  | none => exact absurd shown (by decide)
  | some c =>
      rw [Option.getD_some] at shown
      subst shown
      exact free ((fallsInto_pieces bytes).subset found (by decide))

/-- U+FFFD stands for what is ill-formed, or for itself. -/
theorem replacement_mem_decodeLossy_iff (bytes : List UInt8) :
    Char.ofNat 0xFFFD ∈ (decodeLossy bytes).toList ↔
      (¬ ∃ text, encode text = bytes) ∨
        ∃ text, encode text = bytes ∧ Char.ofNat 0xFFFD ∈ text.toList := by
  constructor
  · intro member
    by_cases formed : ∃ text, encode text = bytes
    · obtain ⟨text, rfl⟩ := formed
      rw [decodeLossy_encode] at member
      exact Or.inr ⟨text, rfl, member⟩
    · exact Or.inl formed
  · rintro (illFormed | ⟨text, rfl, member⟩)
    · rw [exists_encode_iff, Classical.not_not] at illFormed
      rw [toList_decodeLossy, List.mem_map]
      exact ⟨none, illFormed, rfl⟩
    · rwa [decodeLossy_encode]

end BuildStamp.Utf8
