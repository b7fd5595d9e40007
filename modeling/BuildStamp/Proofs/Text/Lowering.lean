import BuildStamp.Proofs.Text.Pieces
import BuildStamp.Text.Lowering

set_option autoImplicit false

/-!
What lower case does to ASCII and to all else. Inside ASCII it changes the capital letters and
nothing more. From outside nothing comes into ASCII but the Kelvin sign: every other character keeps
at least one foreign character in its image, wherever in a word it stands.
-/

namespace BuildStamp

/-- Every character of a text is in ASCII. -/
def IsAscii (text : List Char) : Prop :=
  ∀ c ∈ text, c.toNat < 128

instance (text : List Char) : Decidable (IsAscii text) :=
  decidable_of_iff (text.all (·.toNat < 128) = true) (by simp [IsAscii])

theorem isAscii_nil : IsAscii [] :=
  fun _ member => absurd member List.not_mem_nil

theorem isAscii_cons_iff (c : Char) (rest : List Char) :
    IsAscii (c :: rest) ↔ c.toNat < 128 ∧ IsAscii rest :=
  List.forall_mem_cons

theorem isAscii_append_iff (front back : List Char) :
    IsAscii (front ++ back) ↔ IsAscii front ∧ IsAscii back :=
  List.forall_mem_append

namespace LowerCase

/-- The Kelvin sign, which is a capital letter to lower case. -/
def kelvinSign : Char :=
  Char.ofNat 0x212A

/-- The run of the capital letters of ASCII. -/
def capitals : Run :=
  ⟨0x41, 0x5A, 1, 32⟩

/-- The run of the Kelvin sign. -/
def kelvin : Run :=
  ⟨0x212A, 0x212A, 1, -8383⟩

/-- A run from outside of ASCII to outside of it. It passes by the surrogates, on which there are no
characters. -/
structure Run.StaysForeign (run : Run) : Prop where
  first : 128 ≤ run.first
  image : 128 ≤ run.first + run.offset
  valid : run.last + run.offset < 0xD800 ∨
    0xDFFF < run.first + run.offset ∧ run.last + run.offset < 0x110000

instance (run : Run) : Decidable run.StaysForeign :=
  decidable_of_iff
    (128 ≤ run.first ∧ 128 ≤ run.first + run.offset ∧
      (run.last + run.offset < 0xD800 ∨
        0xDFFF < run.first + run.offset ∧ run.last + run.offset < 0x110000))
    ⟨fun ⟨first, image, valid⟩ => ⟨first, image, valid⟩,
      fun stays => ⟨stays.first, stays.image, stays.valid⟩⟩

/-- Two runs come into ASCII, one of them from outside. -/
theorem run_cases : ∀ run ∈ runs, run = capitals ∨ run = kelvin ∨ run.StaysForeign := by
  decide +kernel

theorem Run.bounds_of_covers {run : Run} {code : Nat} (covers : run.covers code = true) :
    run.first ≤ code ∧ code ≤ run.last := by
  simp only [Run.covers, Bool.and_eq_true, decide_eq_true_eq] at covers
  exact covers.1

theorem Run.StaysForeign.toNat_ofNat {run : Run} (stays : run.StaysForeign) {code : Nat}
    (covers : run.covers code = true) :
    128 ≤ (Char.ofNat (code + run.offset).toNat).toNat := by
  have image := stays.image
  have valid := stays.valid
  obtain ⟨above, below⟩ := Run.bounds_of_covers covers
  change 128 ≤ (Char.ofNat (code + run.offset).toNat).val.toNat
  rw [Utf8.toNat_ofNat _ (by omega)]
  omega

/-- Outside of ASCII only the Kelvin sign has an image inside. -/
theorem not_isAscii_ofChar {c : Char} (foreign : 128 ≤ c.toNat) (other : c ≠ kelvinSign) :
    ¬ IsAscii (ofChar c) := by
  rw [ofChar]
  split
  · decide
  · split
    · rename_i run found
      have covers := List.find?_some found
      rw [isAscii_cons_iff]
      rintro ⟨inside, -⟩
      rcases run_cases run (List.mem_of_find?_eq_some found) with rfl | rfl | stays
      · have bounds := Run.bounds_of_covers covers
        simp only [capitals] at bounds
        omega
      · have bounds := Run.bounds_of_covers covers
        simp only [kelvin] at bounds
        apply other
        rw [← Char.toNat_inj]
        change c.toNat = 0x212A
        omega
      · have outside := stays.toNat_ofNat covers
        omega
    · rw [isAscii_cons_iff]
      rintro ⟨inside, -⟩
      omega

/-- All runs but the first are outside of ASCII. -/
theorem find?_of_lt {code : Nat} (ascii : code < 128) :
    runs.find? (·.covers code) = if capitals.covers code then some capitals else none := by
  have foreign : ∀ run ∈ runs.tail, 128 ≤ run.first := by decide +kernel
  have split : runs = capitals :: runs.tail := rfl
  have nowhere : runs.tail.find? (·.covers code) = none := by
    rw [List.find?_eq_none]
    intro run member covers
    have beyond := foreign run member
    have bounds := Run.bounds_of_covers covers
    omega
  rw [split, List.find?_cons, nowhere]
  cases capitals.covers code <;> rfl

theorem ofChar_of_lt {c : Char} (ascii : c.toNat < 128) :
    ofChar c = [c.toLower] ∧ c.toLower.toNat < 128 := by
  have all : ∀ code < 128,
      (if capitals.covers code then Char.ofNat (code + 32) else Char.ofNat code) =
          (Char.ofNat code).toLower ∧ (Char.ofNat code).toLower.toNat < 128 := by
    decide +kernel
  obtain ⟨same, inside⟩ := all c.toNat ascii
  rw [Char.ofNat_toNat] at same inside
  refine ⟨?_, inside⟩
  have plain : c.toNat ≠ 0x130 := by omega
  rw [ofChar, if_neg plain, find?_of_lt ascii, ← same]
  cases capitals.covers c.toNat <;> rfl

theorem ofCharBetween_of_lt (front back : List Char) {c : Char} (ascii : c.toNat < 128) :
    ofCharBetween front back c = [c.toLower] := by
  have other : c ≠ capitalSigma := by
    rintro rfl
    exact absurd ascii (by decide)
  rw [ofCharBetween, if_neg other, (ofChar_of_lt ascii).1]

theorem ofCharBetween_kelvinSign (front back : List Char) :
    ofCharBetween front back kelvinSign = ['k'] := by
  have other : kelvinSign ≠ capitalSigma := by decide
  rw [ofCharBetween, if_neg other]
  decide +kernel

/-- By its place in a word no character comes into ASCII that does not by itself. -/
theorem isAscii_ofCharBetween_iff (front back : List Char) (c : Char) :
    IsAscii (ofCharBetween front back c) ↔ c.toNat < 128 ∨ c = kelvinSign := by
  constructor
  · intro inside
    by_cases ascii : c.toNat < 128
    · exact .inl ascii
    · by_cases kelvin : c = kelvinSign
      · exact .inr kelvin
      · rw [ofCharBetween] at inside
        split at inside
        · split at inside
          · exact absurd inside (by decide)
          · exact absurd inside (by decide)
        · exact absurd inside (not_isAscii_ofChar (by omega) kelvin)
  · rintro (ascii | rfl)
    · rw [ofCharBetween_of_lt front back ascii, isAscii_cons_iff]
      exact ⟨(ofChar_of_lt ascii).2, isAscii_nil⟩
    · rw [ofCharBetween_kelvinSign]
      decide

theorem isAscii_ofCharsBehind_iff (front text : List Char) :
    IsAscii (ofCharsBehind front text) ↔ ∀ c ∈ text, c.toNat < 128 ∨ c = kelvinSign := by
  induction text generalizing front with
  | nil => exact ⟨fun _ => List.forall_mem_nil _, fun _ => isAscii_nil⟩
  | cons c back ih =>
      rw [ofCharsBehind, isAscii_append_iff, isAscii_ofCharBetween_iff, ih, List.forall_mem_cons]

theorem ofCharsBehind_of_isAscii (front : List Char) {text : List Char} (ascii : IsAscii text) :
    ofCharsBehind front text = text.map Char.toLower := by
  induction text generalizing front with
  | nil => rfl
  | cons c back ih =>
      obtain ⟨first, rest⟩ := (isAscii_cons_iff c back).mp ascii
      rw [ofCharsBehind, ofCharBetween_of_lt front back first, ih _ rest, List.map_cons]
      rfl

/-- A Kelvin sign leaves a small letter behind. -/
theorem k_mem_ofCharsBehind (front : List Char) {text : List Char} (member : kelvinSign ∈ text) :
    'k' ∈ ofCharsBehind front text := by
  induction text generalizing front with
  | nil => cases member
  | cons c back ih =>
      rw [ofCharsBehind, List.mem_append]
      rcases List.mem_cons.mp member with rfl | later
      · rw [ofCharBetween_kelvinSign]
        exact .inl List.mem_cons_self
      · exact .inr (ih _ later)

/-- A text whose lower case is in ASCII and has no small `k` was in ASCII itself. -/
theorem isAscii_of_ofText {text : String} (ascii : IsAscii (ofText text).toList)
    (free : 'k' ∉ (ofText text).toList) : IsAscii text.toList := by
  rw [ofText, String.toList_ofList] at ascii free
  intro c member
  rcases (isAscii_ofCharsBehind_iff [] text.toList).mp ascii c member with inside | rfl
  · exact inside
  · exact absurd (k_mem_ofCharsBehind [] member) free

theorem toList_ofText_of_isAscii {text : String} (ascii : IsAscii text.toList) :
    (ofText text).toList = text.toList.map Char.toLower := by
  rw [ofText, String.toList_ofList, ofCharsBehind_of_isAscii [] ascii]

end LowerCase

end BuildStamp
