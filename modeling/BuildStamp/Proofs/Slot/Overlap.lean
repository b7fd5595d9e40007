import BuildStamp.Proofs.Slot.Outcome

set_option autoImplicit false

/-!
Where a search can hit a slot that holds some other text. Slots are not marked in an artifact, so
the image of a text may stand across the edge of a slot: in front of it, if the text ends in the
one held and the bytes before the slot supply the rest, or behind its start, if the text held ends
in the one sought and the bytes behind the slot supply the missing NULs. Nothing else overlaps.
-/

namespace BuildStamp.Slot

/-- Bytes that stand across a seam are the end of what is in front of it and go on behind it. -/
theorem occursAt_append_iff {needle front : List UInt8} (nonempty : needle ≠ [])
    (back : List UInt8) {offset : Nat} (starts : offset ≤ front.length)
    (reaches : front.length ≤ offset + needle.length) :
    OccursAt needle (front ++ back) offset ↔
      front.drop offset = needle.take (front.length - offset) ∧
        needle.drop (front.length - offset) <+: back := by
  have sizes : (needle.take (front.length - offset)).length = (front.drop offset).length := by
    rw [List.length_take, List.length_drop]
    omega
  have parts : needle <+: (front ++ back).drop offset ↔
      needle.take (front.length - offset) = front.drop offset ∧
        needle.drop (front.length - offset) <+: back := by
    rw [List.drop_append_of_le_length starts, ← List.prefix_append_inj_of_length_eq sizes,
      List.take_append_drop]
  rw [OccursAt, parts]
  constructor
  · rintro ⟨-, ends, goesOn⟩
    exact ⟨ends.symm, goesOn⟩
  · rintro ⟨ends, goesOn⟩
    refine ⟨?_, ends.symm, goesOn⟩
    have size := List.length_pos_iff.mpr nonempty
    have shorter := (parts.mpr ⟨ends.symm, goesOn⟩).length_le
    rw [List.length_drop] at shorter
    omega

theorem occursAt_append_right_iff (needle front back : List UInt8) (offset : Nat) :
    OccursAt needle (front ++ back) (front.length + offset) ↔ OccursAt needle back offset := by
  rw [OccursAt, OccursAt, List.drop_length_add_append, List.length_append,
    Nat.add_lt_add_iff_left]

/-- Where no byte of the text is left, the image holds NULs only. -/
theorem drop_image_of_le {text : String} {capacity count : Nat} (fits : Fits text capacity)
    (behind : Utf8.byteLength text ≤ count) :
    (image text capacity).drop count = List.replicate (capacity - count) 0 := by
  have none : (Utf8.encode text).drop count = [] := List.drop_of_length_le behind
  rw [fits.image_eq, padded, List.drop_append, none, List.nil_append, List.drop_replicate,
    Utf8.length_encode]
  congr 1
  omega

theorem take_image_of_le {text : String} {capacity count : Nat} (fits : Fits text capacity)
    (inside : count ≤ Utf8.byteLength text) :
    (image text capacity).take count = (Utf8.encode text).take count := by
  rw [fits.image_eq, padded, List.take_append_of_le_length inside]

/-- The text sought is the one held with more in front of it, which stands before the slot. -/
structure ReachesBack (before : List UInt8) (held sought front : String) : Prop where
  joined : sought = front ++ held
  standing : Utf8.encode front <:+ before

/-- The text held is the one sought with more in front of it, for which the bytes behind the slot
make up with NULs. -/
structure RunsPast (behind : List UInt8) (held sought front : String) : Prop where
  joined : held = front ++ sought
  standing : List.replicate (Utf8.byteLength front) 0 <+: behind

/-- A text whose bytes, but for some in front, are those of another is a text in front of it. -/
theorem exists_front_of_drop {whole back : String} {count : Nat} (nonempty : back ≠ "")
    (same : (Utf8.encode whole).drop count = Utf8.encode back) :
    ∃ front, whole = front ++ back ∧ Utf8.encode front = (Utf8.encode whole).take count ∧
      Utf8.byteLength front = count := by
  have joined : Utf8.encode whole = (Utf8.encode whole).take count ++ Utf8.encode back := by
    rw [← same, List.take_append_drop]
  obtain ⟨front, texts, bytes⟩ := Utf8.exists_eq_append_of_encode joined
  refine ⟨front, texts, bytes, ?_⟩
  have some := (Utf8.byteLength_pos_iff back).mpr nonempty
  have rest := congrArg List.length same
  rw [List.length_drop, Utf8.length_encode back] at rest
  rw [← Utf8.length_encode, bytes, List.length_take]
  omega

theorem drop_encode_append {front back : String} {count : Nat}
    (size : Utf8.byteLength front = count) :
    (Utf8.encode (front ++ back)).drop count = Utf8.encode back := by
  rw [Utf8.encode_append, List.drop_left' size]

section

variable {held sought : String} {capacity : Nat}

/-- A hit that begins at the slot or before it. -/
theorem occursAt_ahead_iff (heldFits : Fits held capacity) (soughtFits : Fits sought capacity)
    (before behind : List UInt8) {place : Nat} (ahead : place ≤ before.length)
    (overlaps : before.length < place + capacity) :
    OccursAt (image sought capacity) (before ++ image held capacity ++ behind) place ↔
      ∃ front, ReachesBack before held sought front ∧
        place + Utf8.byteLength front = before.length := by
  have inside : before.length - place < capacity := by omega
  have rest : (image sought capacity).drop (before.length - place) <+:
      image held capacity ++ behind ↔
      (Utf8.encode sought).drop (before.length - place) = Utf8.encode held := by
    rw [← drop_image_eq_take_image_iff soughtFits heldFits _ inside, List.prefix_iff_eq_take,
      List.length_drop, image_length, List.take_append_of_le_length (by rw [image_length]; omega)]
  rw [List.append_assoc, occursAt_append_iff soughtFits.image_ne_nil _ ahead
    (by rw [image_length]; omega), rest]
  constructor
  · rintro ⟨ends, texts⟩
    obtain ⟨front, joined, bytes, size⟩ := exists_front_of_drop heldFits.nonempty texts
    have shorter : before.length - place ≤ Utf8.byteLength sought := by
      rw [joined, Utf8.byteLength_append]
      omega
    refine ⟨front, ⟨joined, ?_⟩, by omega⟩
    rw [bytes, ← take_image_of_le soughtFits shorter, ← ends]
    exact List.drop_suffix place before
  · rintro ⟨front, ⟨rfl, standing⟩, position⟩
    have size : Utf8.byteLength front = before.length - place := by omega
    refine ⟨?_, drop_encode_append size⟩
    have ends := List.suffix_iff_eq_drop.mp standing
    have shorter : before.length - place ≤ Utf8.byteLength (front ++ held) := by
      rw [Utf8.byteLength_append]
      omega
    rw [take_image_of_le soughtFits shorter, Utf8.encode_append, List.take_left' size, ends,
      Utf8.length_encode]
    congr 1
    omega

/-- A hit that begins at the slot or inside it. -/
theorem occursAt_inside_iff (heldFits : Fits held capacity) (soughtFits : Fits sought capacity)
    (before behind : List UInt8) {shift : Nat} (overlaps : shift < capacity) :
    OccursAt (image sought capacity) (before ++ image held capacity ++ behind)
        (before.length + shift) ↔
      ∃ front, RunsPast behind held sought front ∧ shift = Utf8.byteLength front := by
  rw [List.append_assoc, occursAt_append_right_iff, occursAt_append_iff soughtFits.image_ne_nil _
    (by rw [image_length]; omega) (by rw [image_length, image_length]; omega), image_length,
    drop_image_eq_take_image_iff heldFits soughtFits shift overlaps]
  have room := heldFits.byteLength_lt
  constructor
  · rintro ⟨texts, standing⟩
    obtain ⟨front, joined, -, size⟩ := exists_front_of_drop soughtFits.nonempty texts
    rw [joined, Utf8.byteLength_append] at room
    refine ⟨front, ⟨joined, ?_⟩, size.symm⟩
    rw [drop_image_of_le soughtFits (by omega)] at standing
    rwa [size, show shift = capacity - (capacity - shift) by omega]
  · rintro ⟨front, ⟨rfl, standing⟩, rfl⟩
    rw [Utf8.byteLength_append] at room
    refine ⟨drop_encode_append rfl, ?_⟩
    rw [drop_image_of_le soughtFits (by omega)]
    rwa [show capacity - (capacity - Utf8.byteLength front) = Utf8.byteLength front by omega]

/-- A hit at the slot itself finds the text that the slot holds. -/
theorem occursAt_self_iff (heldFits : Fits held capacity) (soughtFits : Fits sought capacity)
    (before behind : List UInt8) :
    OccursAt (image sought capacity) (before ++ image held capacity ++ behind) before.length ↔
      sought = held := by
  have room := heldFits.byteLength_lt
  have ahead := occursAt_ahead_iff heldFits soughtFits before behind (Nat.le_refl before.length)
    (by omega)
  rw [ahead]
  constructor
  · rintro ⟨front, ⟨joined, -⟩, position⟩
    have none : front = "" := by
      apply Utf8.encode_injective
      exact List.eq_nil_of_length_eq_zero (show Utf8.byteLength front = 0 by omega)
    rw [joined, none, String.empty_append]
  · rintro rfl
    exact ⟨"", ⟨String.empty_append.symm, List.nil_suffix⟩, rfl⟩

end

/-- A place other than the slot's own where the search for one text hits a slot that holds
another one. -/
inductive ShiftedHit (before behind : List UInt8) (held sought : String) : Nat → Prop
  | back {front : String} {place : Nat} (nonempty : front ≠ "")
      (reaches : ReachesBack before held sought front)
      (position : place + Utf8.byteLength front = before.length) :
      ShiftedHit before behind held sought place
  | past {front : String} {place : Nat} (nonempty : front ≠ "")
      (runs : RunsPast behind held sought front)
      (position : place = before.length + Utf8.byteLength front) :
      ShiftedHit before behind held sought place

namespace ShiftedHit

variable {before behind : List UInt8} {held sought : String} {place : Nat}

/-- The last bytes of both texts fall together, which leaves one place for a hit. -/
theorem ends_align (hit : ShiftedHit before behind held sought place) :
    place + Utf8.byteLength sought = before.length + Utf8.byteLength held := by
  cases hit with
  | back nonempty reaches position =>
      rw [reaches.joined, Utf8.byteLength_append]
      omega
  | past nonempty runs position =>
      rw [runs.joined, Utf8.byteLength_append]
      omega

theorem place_ne (hit : ShiftedHit before behind held sought place) : place ≠ before.length := by
  cases hit with
  | back nonempty reaches position =>
      have size := (Utf8.byteLength_pos_iff _).mpr nonempty
      omega
  | past nonempty runs position =>
      have size := (Utf8.byteLength_pos_iff _).mpr nonempty
      omega

theorem texts_ne (hit : ShiftedHit before behind held sought place) : sought ≠ held := by
  rintro rfl
  have aligned := hit.ends_align
  have moved := hit.place_ne
  omega

theorem overlaps {capacity : Nat} (hit : ShiftedHit before behind held sought place)
    (heldFits : Fits held capacity) (soughtFits : Fits sought capacity) :
    place < before.length + capacity ∧ before.length < place + capacity := by
  have aligned := hit.ends_align
  have heldRoom := heldFits.byteLength_lt
  have soughtRoom := soughtFits.byteLength_lt
  omega

end ShiftedHit

section

variable {held sought : String} {capacity : Nat}

theorem occursAt_ahead_iff_shiftedHit (heldFits : Fits held capacity)
    (soughtFits : Fits sought capacity) (before behind : List UInt8) {place : Nat}
    (ahead : place < before.length) (overlaps : before.length < place + capacity) :
    OccursAt (image sought capacity) (before ++ image held capacity ++ behind) place ↔
      ShiftedHit before behind held sought place := by
  rw [occursAt_ahead_iff heldFits soughtFits before behind (Nat.le_of_lt ahead) overlaps]
  constructor
  · rintro ⟨front, reaches, position⟩
    refine .back ?_ reaches position
    rw [← Utf8.byteLength_pos_iff]
    omega
  · intro hit
    cases hit with
    | back nonempty reaches position => exact ⟨_, reaches, position⟩
    | past nonempty runs position => omega

theorem occursAt_inside_iff_shiftedHit (heldFits : Fits held capacity)
    (soughtFits : Fits sought capacity) (before behind : List UInt8) {place : Nat}
    (inside : before.length < place) (overlaps : place < before.length + capacity) :
    OccursAt (image sought capacity) (before ++ image held capacity ++ behind) place ↔
      ShiftedHit before behind held sought place := by
  obtain ⟨shift, rfl⟩ := Nat.exists_eq_add_of_le (Nat.le_of_lt inside)
  rw [occursAt_inside_iff heldFits soughtFits before behind (by omega)]
  constructor
  · rintro ⟨front, runs, rfl⟩
    refine .past ?_ runs rfl
    rw [← Utf8.byteLength_pos_iff]
    omega
  · intro hit
    cases hit with
    | back nonempty reaches position => omega
    | past nonempty runs position => exact ⟨_, runs, by omega⟩

/-- All hits that overlap a slot, by where they begin. -/
theorem occursAt_overlapping_iff (heldFits : Fits held capacity) (soughtFits : Fits sought capacity)
    (before behind : List UInt8) {place : Nat} (within : place < before.length + capacity)
    (reaches : before.length < place + capacity) :
    OccursAt (image sought capacity) (before ++ image held capacity ++ behind) place ↔
      (place = before.length ∧ sought = held) ∨ ShiftedHit before behind held sought place := by
  rcases Nat.lt_trichotomy place before.length with ahead | rfl | inside
  · rw [occursAt_ahead_iff_shiftedHit heldFits soughtFits before behind ahead reaches]
    have moved : place ≠ before.length := by omega
    simp only [moved, false_and, false_or]
  · rw [occursAt_self_iff heldFits soughtFits before behind]
    have own : ¬ ShiftedHit before behind held sought before.length := fun hit => hit.place_ne rfl
    simp only [own, true_and, or_false]
  · rw [occursAt_inside_iff_shiftedHit heldFits soughtFits before behind inside within]
    have moved : place ≠ before.length := by omega
    simp only [moved, false_and, false_or]

/-- A search can hit a slot besides where it stands, and what is then injected goes to bytes
outside the slot. -/
theorem overlapping_occurrence_iff (heldFits : Fits held capacity)
    (soughtFits : Fits sought capacity) (before behind : List UInt8) (place : Nat) :
    ((OccursAt (image sought capacity) (before ++ image held capacity ++ behind) place ∧
        place < before.length + capacity ∧ before.length < place + capacity) ↔
      (place = before.length ∧ sought = held) ∨ ShiftedHit before behind held sought place) ∧
    ∀ value after, sought ≠ held →
      injectInPlace (before ++ image held capacity ++ behind) ⟨sought, value, capacity⟩ =
        (.ok place, after) →
      place < before.length + capacity → before.length < place + capacity →
        Rewritten (before ++ image held capacity ++ behind) after place (padded value capacity) ∧
          (place < before.length ∨ before.length + capacity < place + capacity) := by
  have room := heldFits.byteLength_lt
  constructor
  · constructor
    · rintro ⟨occurs, within, reaches⟩
      exact (occursAt_overlapping_iff heldFits soughtFits before behind within reaches).mp occurs
    · intro hits
      have bounds : place < before.length + capacity ∧ before.length < place + capacity := by
        rcases hits with ⟨rfl, -⟩ | shifted
        · omega
        · exact shifted.overlaps heldFits soughtFits
      have occurs := occursAt_overlapping_iff heldFits soughtFits before behind bounds.1 bounds.2
      exact ⟨occurs.mpr hits, bounds⟩
  · intro value after differ ended within reaches
    obtain ⟨accepted, changed⟩ := (injectInPlace_eq_ok_iff _ _ _ _).mp ended
    refine ⟨(accepted.rewritten_iff after).mpr changed, ?_⟩
    have occurs := (accepted.only place).mpr rfl
    rw [← soughtFits.image_eq,
      occursAt_overlapping_iff heldFits soughtFits before behind within reaches] at occurs
    rcases occurs with ⟨-, same⟩ | shifted
    · exact absurd same differ
    · have moved := shifted.place_ne
      omega

/-- The text `b` is found in a slot that holds `ab`, as a NUL follows the slot. The injection there
reaches behind the slot. -/
theorem overlapping_occurrence_in_longer_text :
    Fits "ab" 4 ∧ Fits "b" 4 ∧
      (OccursAt (image "b" 4) ([7] ++ image "ab" 4 ++ [0, 9]) 2 ∧ 2 < 1 + 4 ∧ 1 < 2 + 4) ∧
      Rewritten [7, 97, 98, 0, 0, 0, 9] [7, 97, 99, 100, 0, 0, 9] 2 (padded "cd" 4) ∧
      (2 < 1 ∨ 1 + 4 < 2 + 4) := by
  have heldFits : Fits "ab" 4 := by decide
  have soughtFits : Fits "b" 4 := by decide
  have past : ShiftedHit [7] [0, 9] "ab" "b" 2 :=
    .past (show "a" ≠ "" by decide) ⟨by decide, by decide⟩ (by decide)
  have ended : injectInPlace ([7] ++ image "ab" 4 ++ [0, 9]) ⟨"b", "cd", 4⟩ =
      (.ok 2, [7, 97, 99, 100, 0, 0, 9]) := by decide
  obtain ⟨hits, writes⟩ := overlapping_occurrence_iff heldFits soughtFits [7] [0, 9] 2
  exact ⟨heldFits, soughtFits, hits.mpr (Or.inr past),
    writes "cd" _ (by decide) ended (by decide) (by decide)⟩

end

end BuildStamp.Slot
