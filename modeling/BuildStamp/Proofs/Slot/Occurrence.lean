import BuildStamp.Proofs.Slot.Image
import Mathlib.Data.List.Sort

set_option autoImplicit false

/-!
The list of occurrences holds every offset at which the bytes stand, once and in ascending order.
A search therefore answers with the only one, or with the two smallest.
-/

namespace BuildStamp.Slot

theorem not_occursAt_nil (needle : List UInt8) (offset : Nat) : ¬ OccursAt needle [] offset := by
  rintro ⟨inside, -⟩
  simp only [List.length_nil] at inside
  omega

theorem occursAt_zero_cons (needle : List UInt8) (byte : UInt8) (rest : List UInt8) :
    OccursAt needle (byte :: rest) 0 ↔ needle <+: byte :: rest := by
  simp only [OccursAt, List.length_cons, Nat.zero_lt_succ, true_and, List.drop_zero]

theorem occursAt_succ_cons (needle : List UInt8) (byte : UInt8) (rest : List UInt8)
    (offset : Nat) :
    OccursAt needle (byte :: rest) (offset + 1) ↔ OccursAt needle rest offset := by
  simp only [OccursAt, List.length_cons, List.drop_succ_cons, Nat.add_lt_add_iff_right]

theorem mem_occurrencesFrom_iff (needle artifact : List UInt8) (start offset : Nat) :
    offset ∈ occurrencesFrom needle start artifact ↔
      ∃ distance, offset = start + distance ∧ OccursAt needle artifact distance := by
  induction artifact generalizing start with
  | nil =>
      simp only [occurrencesFrom, List.not_mem_nil, false_iff]
      rintro ⟨distance, -, occurs⟩
      exact not_occursAt_nil needle distance occurs
  | cons byte rest ih =>
      have later : offset ∈ occurrencesFrom needle (start + 1) rest ↔
          ∃ distance, offset = start + (distance + 1) ∧
            OccursAt needle (byte :: rest) (distance + 1) := by
        rw [ih]
        simp only [occursAt_succ_cons, Nat.add_assoc, Nat.add_comm 1]
      have here : OccursAt needle (byte :: rest) 0 ↔ needle.isPrefixOf (byte :: rest) = true := by
        rw [occursAt_zero_cons, List.isPrefixOf_iff_prefix]
      rw [occurrencesFrom]
      constructor
      · intro member
        split at member
        · rename_i standing
          rcases List.mem_cons.mp member with first | behind
          · exact ⟨0, first, here.mpr standing⟩
          · obtain ⟨distance, position, occurs⟩ := later.mp behind
            exact ⟨distance + 1, position, occurs⟩
        · obtain ⟨distance, position, occurs⟩ := later.mp member
          exact ⟨distance + 1, position, occurs⟩
      · rintro ⟨distance, position, occurs⟩
        cases distance with
        | zero =>
            rw [if_pos (here.mp occurs)]
            exact List.mem_cons.mpr (Or.inl position)
        | succ distance =>
            have behind := later.mpr ⟨distance, position, occurs⟩
            split
            · exact List.mem_cons_of_mem start behind
            · exact behind

theorem occurrencesFrom_pairwise (needle artifact : List UInt8) (start : Nat) :
    (occurrencesFrom needle start artifact).Pairwise (· < ·) := by
  induction artifact generalizing start with
  | nil => exact List.Pairwise.nil
  | cons byte rest ih =>
      rw [occurrencesFrom]
      split
      · refine List.pairwise_cons.mpr ⟨?_, ih (start + 1)⟩
        intro offset member
        obtain ⟨distance, position, -⟩ :=
          (mem_occurrencesFrom_iff needle rest (start + 1) offset).mp member
        omega
      · exact ih (start + 1)

theorem mem_occurrences_iff (needle artifact : List UInt8) (offset : Nat) :
    offset ∈ occurrences needle artifact ↔ OccursAt needle artifact offset := by
  rw [occurrences, mem_occurrencesFrom_iff]
  simp only [Nat.zero_add]
  constructor
  · rintro ⟨distance, rfl, occurs⟩
    exact occurs
  · intro occurs
    exact ⟨offset, rfl, occurs⟩

theorem occurrences_pairwise (needle artifact : List UInt8) :
    (occurrences needle artifact).Pairwise (· < ·) :=
  occurrencesFrom_pairwise needle artifact 0

/-- The bytes stand at this offset and at no other. -/
def OccursOnlyAt (needle artifact : List UInt8) (offset : Nat) : Prop :=
  ∀ other, OccursAt needle artifact other ↔ other = offset

/-- The two smallest of the offsets at which the bytes stand. -/
structure OccursFirstAt (needle artifact : List UInt8) (first second : Nat) : Prop where
  atFirst : OccursAt needle artifact first
  atSecond : OccursAt needle artifact second
  ordered : first < second
  least : ∀ offset, OccursAt needle artifact offset → offset = first ∨ second ≤ offset

theorem occurrences_eq_nil_iff (needle artifact : List UInt8) :
    occurrences needle artifact = [] ↔ ∀ offset, ¬ OccursAt needle artifact offset := by
  simp only [List.eq_nil_iff_forall_not_mem, mem_occurrences_iff]

theorem occurrences_eq_singleton_iff (needle artifact : List UInt8) (offset : Nat) :
    occurrences needle artifact = [offset] ↔ OccursOnlyAt needle artifact offset := by
  have members := mem_occurrences_iff needle artifact
  have ascending := occurrences_pairwise needle artifact
  constructor
  · intro only other
    rw [← members, only, List.mem_singleton]
  · intro only
    apply ascending.eq_of_mem_iff (List.pairwise_singleton _ offset)
    intro other
    rw [members, only, List.mem_singleton]

/-- In an ascending list the first two are the smallest. -/
theorem occursFirstAt_of_occurrences {needle artifact : List UInt8} {first second : Nat}
    {rest : List Nat} (listed : occurrences needle artifact = first :: second :: rest) :
    OccursFirstAt needle artifact first second := by
  have members := mem_occurrences_iff needle artifact
  have ascending := occurrences_pairwise needle artifact
  rw [listed] at members ascending
  obtain ⟨aboveFirst, tail⟩ := List.pairwise_cons.mp ascending
  have aboveSecond := (List.pairwise_cons.mp tail).1
  refine ⟨(members first).mp List.mem_cons_self,
    (members second).mp (List.mem_cons_of_mem first List.mem_cons_self),
    aboveFirst second List.mem_cons_self, ?_⟩
  intro offset occurs
  rcases List.mem_cons.mp ((members offset).mpr occurs) with same | behind
  · exact Or.inl same
  · rcases List.mem_cons.mp behind with same | later
    · exact Or.inr (by omega)
    · exact Or.inr (Nat.le_of_lt (aboveSecond offset later))

theorem OccursFirstAt.unique {needle artifact : List UInt8} {first second one two : Nat}
    (twice : OccursFirstAt needle artifact first second)
    (again : OccursFirstAt needle artifact one two) : first = one ∧ second = two := by
  have ordered := twice.ordered
  have againOrdered := again.ordered
  have oneLeast := twice.least one again.atFirst
  have firstLeast := again.least first twice.atFirst
  have twoLeast := twice.least two again.atSecond
  have secondLeast := again.least second twice.atSecond
  omega

theorem occurrences_eq_cons_cons_iff (needle artifact : List UInt8) (first second : Nat) :
    (∃ rest, occurrences needle artifact = first :: second :: rest) ↔
      OccursFirstAt needle artifact first second := by
  constructor
  · rintro ⟨rest, listed⟩
    exact occursFirstAt_of_occurrences listed
  · intro twice
    match listed : occurrences needle artifact with
    | [] =>
        have none := (occurrences_eq_nil_iff needle artifact).mp listed
        exact absurd twice.atFirst (none first)
    | [found] =>
        have only := (occurrences_eq_singleton_iff needle artifact found).mp listed
        have firstSame := (only first).mp twice.atFirst
        have secondSame := (only second).mp twice.atSecond
        have ordered := twice.ordered
        omega
    | one :: two :: rest =>
        obtain ⟨rfl, rfl⟩ := twice.unique (occursFirstAt_of_occurrences listed)
        exact ⟨rest, rfl⟩

/-- Why a search finds no slot. The text is looked at before the artifact. -/
inductive SearchFault (artifact : List UInt8) (expected : String) (capacity : Nat) :
    SlotFailure → Prop
  | text {failure : SlotFailure} (fault : TextFault .expected expected capacity failure) :
      SearchFault artifact expected capacity failure
  | absent (fits : Fits expected capacity)
      (nowhere : ∀ offset, ¬ OccursAt (padded expected capacity) artifact offset) :
      SearchFault artifact expected capacity (.slotNotFound expected)
  | ambiguous (fits : Fits expected capacity) {first second : Nat}
      (twice : OccursFirstAt (padded expected capacity) artifact first second) :
      SearchFault artifact expected capacity (.ambiguousSlot expected first second)

theorem find_of_fits {expected : String} {capacity : Nat} (fits : Fits expected capacity)
    (artifact : List UInt8) :
    find artifact expected capacity =
      match occurrences (image expected capacity) artifact with
      | [] => .error (.slotNotFound expected)
      | [offset] => .ok offset
      | first :: second :: _ => .error (.ambiguousSlot expected first second) := by
  have accepted := (checkText_eq_ok_iff .expected expected capacity).mpr fits
  unfold find
  split
  · rename_i failure refused
    rw [accepted] at refused
    cases refused
  · rfl

theorem find_of_textFault {expected : String} {capacity : Nat} {failure : SlotFailure}
    (fault : TextFault .expected expected capacity failure) (artifact : List UInt8) :
    find artifact expected capacity = .error failure := by
  rw [find, (checkText_eq_error_iff .expected expected capacity failure).mpr fault]

/-- A text fits or has a fault that the check reports. -/
theorem fits_or_textFault (role : Role) (text : String) (capacity : Nat) :
    Fits text capacity ∨ ∃ failure, TextFault role text capacity failure := by
  match checked : checkText role text capacity with
  | .ok () => exact Or.inl ((checkText_eq_ok_iff role text capacity).mp checked)
  | .error failure =>
      exact Or.inr ⟨failure, (checkText_eq_error_iff role text capacity failure).mp checked⟩

theorem TextFault.not_fits {role : Role} {text : String} {capacity : Nat} {failure : SlotFailure}
    (fault : TextFault role text capacity failure) : ¬ Fits text capacity := by
  intro fits
  have accepted := (checkText_eq_ok_iff role text capacity).mpr fits
  rw [(checkText_eq_error_iff role text capacity failure).mpr fault] at accepted
  cases accepted

theorem find_eq_ok_iff (artifact : List UInt8) (expected : String) (capacity offset : Nat) :
    find artifact expected capacity = .ok offset ↔
      Fits expected capacity ∧ OccursOnlyAt (image expected capacity) artifact offset := by
  rw [← occurrences_eq_singleton_iff]
  rcases fits_or_textFault .expected expected capacity with fits | ⟨failure, fault⟩
  · rw [find_of_fits fits]
    simp only [fits, true_and]
    split <;> simp_all
  · rw [find_of_textFault fault]
    simp only [fault.not_fits, false_and, reduceCtorEq]

theorem find_eq_error_iff (artifact : List UInt8) (expected : String) (capacity : Nat)
    (failure : SlotFailure) :
    find artifact expected capacity = .error failure ↔
      SearchFault artifact expected capacity failure := by
  constructor
  · intro refused
    rcases fits_or_textFault .expected expected capacity with fits | ⟨reported, fault⟩
    · rw [find_of_fits fits, fits.image_eq] at refused
      split at refused
      · rename_i none
        cases refused
        exact .absent fits ((occurrences_eq_nil_iff _ _).mp none)
      · cases refused
      · rename_i first second rest listed
        cases refused
        exact .ambiguous fits ((occurrences_eq_cons_cons_iff _ _ _ _).mp ⟨rest, listed⟩)
    · rw [find_of_textFault fault] at refused
      cases refused
      exact .text fault
  · intro fault
    cases fault with
    | text fault => exact find_of_textFault fault artifact
    | absent fits nowhere =>
        rw [find_of_fits fits, fits.image_eq, (occurrences_eq_nil_iff _ _).mpr nowhere]
    | ambiguous fits twice =>
        obtain ⟨rest, listed⟩ := (occurrences_eq_cons_cons_iff _ _ _ _).mpr twice
        rw [find_of_fits fits, fits.image_eq, listed]

end BuildStamp.Slot
