import BuildStamp.Proofs.Text.Pieces

set_option autoImplicit false

/-!
Texts cut off behind some number of bytes. The cut falls between two characters or inside one. What
is in front of it reads as the characters that are there as a whole, and the part of a character
that a cut inside it leaves behind reads as one replacement character.
-/

namespace BuildStamp.Utf8

/-- The longest beginning of a text that takes no more than some bytes. -/
structure IsLongestWithin (limit : Nat) (text kept : String) : Prop where
  isPrefix : kept.toList <+: text.toList
  within : byteLength kept ≤ limit
  longest : ∀ other : String, other.toList <+: text.toList → byteLength other ≤ limit →
    other.toList <+: kept.toList

/-- A cut behind some bytes of a text falls inside a character. -/
def CutsCharacter (limit : Nat) (text : String) : Prop :=
  ∃ front c back, text.toList = front ++ c :: back ∧
    byteLength (String.ofList front) < limit ∧ limit < byteLength (String.ofList (front ++ [c]))

theorem encode_ofList (text : List Char) :
    encode (String.ofList text) = text.flatMap String.utf8EncodeChar := by
  rw [encode, String.toList_ofList]

theorem byteLength_ofList_append (front back : List Char) :
    byteLength (String.ofList (front ++ back)) =
      byteLength (String.ofList front) + byteLength (String.ofList back) := by
  rw [String.ofList_append, byteLength_append]

theorem byteLength_ofList_singleton (c : Char) :
    byteLength (String.ofList [c]) = (String.utf8EncodeChar c).length := by
  rw [byteLength, encode_ofList, List.flatMap_singleton]

theorem byteLength_le_of_prefix {front text : List Char} (beginning : front <+: text) :
    byteLength (String.ofList front) ≤ byteLength (String.ofList text) := by
  obtain ⟨back, rfl⟩ := beginning
  rw [byteLength_ofList_append]
  exact Nat.le_add_right _ _

/-- A text that takes more bytes has a first character that goes beyond them. -/
theorem exists_first_beyond {limit : Nat} {text : List Char}
    (long : limit < byteLength (String.ofList text)) :
    ∃ front c back, text = front ++ c :: back ∧ byteLength (String.ofList front) ≤ limit ∧
      limit < byteLength (String.ofList (front ++ [c])) := by
  induction text generalizing limit with
  | nil => exact absurd long (Nat.not_lt_zero _)
  | cons c text ih =>
      rw [← List.singleton_append, byteLength_ofList_append] at long
      by_cases first : limit < byteLength (String.ofList [c])
      · exact ⟨[], c, text, rfl, Nat.zero_le _, first⟩
      · have rest : limit - byteLength (String.ofList [c]) < byteLength (String.ofList text) := by
          omega
        obtain ⟨front, d, back, rfl, within, beyond⟩ := ih rest
        refine ⟨c :: front, d, back, rfl, ?_, ?_⟩
        · rw [← List.singleton_append, byteLength_ofList_append]
          omega
        · rw [List.cons_append, ← List.singleton_append, byteLength_ofList_append]
          omega

section

variable {limit : Nat} {front back : List Char} {c : Char}

/-- What the characters in front of the first one beyond the limit make is the longest beginning
within it. -/
theorem isLongestWithin_front (within : byteLength (String.ofList front) ≤ limit)
    (beyond : limit < byteLength (String.ofList (front ++ [c]))) :
    IsLongestWithin limit (String.ofList (front ++ c :: back)) (String.ofList front) := by
  refine ⟨?_, within, ?_⟩
  · simp only [String.toList_ofList]
    exact List.prefix_append front _
  · intro other beginning short
    rw [String.toList_ofList] at beginning ⊢
    by_cases inside : other.toList.length ≤ front.length
    · exact List.prefix_of_prefix_length_le beginning (List.prefix_append front _) inside
    · have whole : front ++ [c] <+: front ++ c :: back := by
        rw [List.append_cons front c back]
        exact List.prefix_append _ back
      have longer : front ++ [c] <+: other.toList := by
        apply List.prefix_of_prefix_length_le whole beginning
        rw [List.length_append, List.length_singleton]
        omega
      have large := byteLength_le_of_prefix longer
      rw [String.ofList_toList] at large
      omega

/-- The characters in front of the first one beyond the limit leave no room exactly if the cut
falls between two characters. -/
theorem cutsCharacter_iff (within : byteLength (String.ofList front) ≤ limit)
    (beyond : limit < byteLength (String.ofList (front ++ [c]))) :
    CutsCharacter limit (String.ofList (front ++ c :: back)) ↔
      byteLength (String.ofList front) < limit := by
  constructor
  · rintro ⟨other, d, rest, same, inside, otherBeyond⟩
    rw [String.toList_ofList] at same
    have whole : other ++ [d] <+: front ++ c :: back := by
      rw [same, List.append_cons other d rest]
      exact List.prefix_append _ rest
    by_cases shorter : other.length < front.length
    · have beginning : other ++ [d] <+: front := by
        apply List.prefix_of_prefix_length_le whole (List.prefix_append front _)
        rw [List.length_append, List.length_singleton]
        omega
      have small := byteLength_le_of_prefix beginning
      omega
    · have beginning : front <+: other := by
        apply List.prefix_of_prefix_length_le (List.prefix_append front _)
          (show other <+: front ++ c :: back from ?_) (by omega)
        rw [same]
        exact List.prefix_append other _
      have small := byteLength_le_of_prefix beginning
      omega
  · intro room
    exact ⟨front, c, back, String.toList_ofList, room, beyond⟩

theorem take_encode_front (within : byteLength (String.ofList front) ≤ limit)
    (beyond : limit < byteLength (String.ofList (front ++ [c]))) :
    (encode (String.ofList (front ++ c :: back))).take limit =
      front.flatMap String.utf8EncodeChar ++
        (String.utf8EncodeChar c).take (limit - byteLength (String.ofList front)) := by
  rw [byteLength_ofList_append, byteLength_ofList_singleton] at beyond
  have size : (front.flatMap String.utf8EncodeChar).length = byteLength (String.ofList front) := by
    rw [byteLength, encode_ofList]
  rw [encode_ofList, List.flatMap_append, List.flatMap_cons, List.take_append,
    List.take_of_length_le (by omega), List.take_append_of_le_length (by omega), size]

end

theorem piecesOnto_finished_take {sequence : Partial} {bytes : List UInt8} {c : Char}
    (ends : sequence.Ends bytes c) {count : Nat} (short : count < bytes.length)
    (found : List Piece) :
    piecesOnto found (some sequence) (bytes.take count) = (none :: found).reverse := by
  induction ends generalizing count with
  | last low high last made =>
      rw [List.length_singleton, Nat.lt_one_iff] at short
      subst short
      rfl
  | more low high more ends ih =>
      cases count with
      | zero => rfl
      | succ count =>
          rw [List.take_succ_cons, piecesOnto_goesOn found _ low high more]
          exact ih (by simpa using short)

/-- Some but not all of the bytes of a character make one ill-formed piece. -/
theorem piecesOnto_take_encodeChar {count : Nat} {c : Char} (some : 0 < count)
    (short : count < (String.utf8EncodeChar c).length) (found : List Piece) :
    piecesOnto found none ((String.utf8EncodeChar c).take count) = (none :: found).reverse := by
  generalize spelling : String.utf8EncodeChar c = bytes at short
  have spelled := spells_encodeChar c
  rw [spelling] at spelled
  cases spelled with
  | whole lead =>
      rw [List.length_singleton] at short
      omega
  | opens lead ends =>
      cases count with
      | zero => omega
      | succ count =>
          rw [List.take_succ_cons, piecesOnto_opens found _ lead]
          exact piecesOnto_finished_take ends (by simpa using short) found

/-- A text that is cut off reads as the characters left as a whole, with one U+FFFD behind them
exactly if the cut falls inside a character. -/
theorem decodeLossy_take_encode {limit : Nat} {text : String} (long : limit < byteLength text) :
    ∃ kept, IsLongestWithin limit text kept ∧
      (CutsCharacter limit text ∧
          decodeLossy ((encode text).take limit) = kept ++ "\uFFFD" ∨
        ¬ CutsCharacter limit text ∧ decodeLossy ((encode text).take limit) = kept) := by
  obtain ⟨characters, rfl⟩ : ∃ characters, text = String.ofList characters :=
    ⟨text.toList, String.ofList_toList.symm⟩
  obtain ⟨front, c, back, rfl, within, beyond⟩ := exists_first_beyond long
  refine ⟨String.ofList front, isLongestWithin_front within beyond, ?_⟩
  rw [cutsCharacter_iff within beyond, take_encode_front within beyond]
  rcases Nat.lt_or_eq_of_le within with room | full
  · refine Or.inl ⟨room, ?_⟩
    rw [byteLength_ofList_append, byteLength_ofList_singleton] at beyond
    rw [decodeLossy, pieces, piecesOnto_flatMap_append,
      piecesOnto_take_encodeChar (by omega) (by omega)]
    rw [List.append_nil, List.reverse_cons, List.reverse_reverse, List.map_append, List.map_map,
      String.ofList_append]
    simp only [Function.comp_def, Option.getD_some, List.map_id', List.map_cons, List.map_nil,
      Option.getD_none]
  · refine Or.inr ⟨by omega, ?_⟩
    rw [full, Nat.sub_self, List.take_zero, List.append_nil, ← encode_ofList, decodeLossy_encode]

end BuildStamp.Utf8
