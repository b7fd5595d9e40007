import BuildStamp.Text.Utf8

set_option autoImplicit false

/-!
Laws of the bytes of a text. Different texts have different bytes, the NUL byte stands for the NUL
character only, and wherever the bytes of one text end in those of another, a character ends there.
-/

namespace BuildStamp.Utf8

theorem encode_eq_data (text : String) : encode text = text.toByteArray.data.toList := by
  rw [← String.utf8Encode_toList, encode, List.utf8Encode]
  simp only [List.data_toByteArray]

theorem byteLength_eq_utf8ByteSize (text : String) : byteLength text = text.utf8ByteSize := by
  rw [byteLength, encode_eq_data]
  rfl

theorem length_encode (text : String) : (encode text).length = byteLength text := rfl

theorem encode_append (front back : String) :
    encode (front ++ back) = encode front ++ encode back := by
  simp only [encode, String.toList_append, List.flatMap_append]

theorem byteLength_append (front back : String) :
    byteLength (front ++ back) = byteLength front + byteLength back := by
  simp only [byteLength, encode_append, List.length_append]

theorem encode_injective {left right : String} (same : encode left = encode right) :
    left = right := by
  rw [encode_eq_data, encode_eq_data] at same
  apply String.toByteArray_inj.mp
  exact ByteArray.ext (Array.ext' same)

theorem encode_eq_nil_iff (text : String) : encode text = [] ↔ text = "" := by
  constructor
  · intro none
    exact encode_injective none
  · rintro rfl
    rfl

theorem byteLength_pos_iff (text : String) : 0 < byteLength text ↔ text ≠ "" := by
  rw [byteLength, List.length_pos_iff, ne_eq, encode_eq_nil_iff]

/-- Only a character of one byte has a byte below 128, so such a byte is the character itself. -/
theorem toNat_of_mem_encodeChar {c : Char} {byte : UInt8}
    (member : byte ∈ String.utf8EncodeChar c) (ascii : byte.toNat < 128) :
    byte.toNat = c.toNat := by
  revert member
  change _ → _ = c.val.toNat
  fun_cases String.utf8EncodeChar c
  all_goals
    intro member
    simp only [List.mem_cons, List.not_mem_nil, or_false] at member
  · subst member
    rw [UInt8.toNat_ofNat']
    omega
  -- Every byte of a longer sequence has 128 or more added to it.
  all_goals
    rcases member with rfl | rfl | rfl | rfl
    all_goals
      rw [UInt8.toNat_ofNat'] at ascii
      omega

theorem zero_mem_encode_iff (text : String) :
    0 ∈ encode text ↔ Char.ofNat 0 ∈ text.toList := by
  rw [encode, List.mem_flatMap]
  constructor
  · rintro ⟨c, member, found⟩
    have value := toNat_of_mem_encodeChar found (by decide)
    have nul : c = Char.ofNat 0 := Char.toNat_inj.mp value.symm
    rwa [nul] at member
  · intro member
    exact ⟨Char.ofNat 0, member, by decide⟩

/-- The bytes behind a front of the right length are those of the other text. -/
theorem extract_of_encode {text back : String} {front : List UInt8}
    (same : encode text = front ++ encode back) :
    text.toByteArray.extract front.length text.utf8ByteSize = back.toByteArray := by
  have total : text.utf8ByteSize = front.length + (encode back).length := by
    rw [← byteLength_eq_utf8ByteSize, byteLength, same, List.length_append]
  apply ByteArray.ext
  apply Array.ext'
  rw [ByteArray.data_extract, Array.toList_extract, List.extract_eq_take_drop,
    ← encode_eq_data, ← encode_eq_data, same, List.drop_left]
  apply List.take_of_length_le
  omega

/-- Where the bytes of a text end in those of another, the bytes in front of these are a text. -/
theorem exists_eq_append_of_encode {text back : String} {front : List UInt8}
    (same : encode text = front ++ encode back) :
    ∃ head : String, text = head ++ back ∧ encode head = front := by
  have inside : front.length ≤ text.utf8ByteSize := by
    rw [← byteLength_eq_utf8ByteSize, byteLength, same, List.length_append]
    omega
  have boundary : String.Pos.Raw.IsValid text ⟨front.length⟩ := by
    rw [String.Pos.Raw.isValid_iff_isValidUTF8_extract_utf8ByteSize, extract_of_encode same]
    refine ⟨?_, back.isValidUTF8⟩
    rw [String.Pos.Raw.le_iff, String.byteIdx_rawEndPos]
    exact inside
  obtain ⟨head, tail, joined, position⟩ := String.Pos.Raw.isValid_iff_exists_append.mp boundary
  have size : (encode head).length = front.length := by
    have bytes := congrArg String.Pos.Raw.byteIdx position
    rw [length_encode, byteLength_eq_utf8ByteSize]
    simpa only [String.byteIdx_rawEndPos] using bytes.symm
  rw [joined, encode_append] at same
  obtain ⟨frontSame, backSame⟩ := List.append_inj same size
  exact ⟨head, by rw [joined, encode_injective backSame], frontSame⟩

end BuildStamp.Utf8
