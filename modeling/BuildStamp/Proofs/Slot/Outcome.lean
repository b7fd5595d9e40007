import BuildStamp.Proofs.Slot.Bounds

set_option autoImplicit false

/-!
How an injection ends. It succeeds at an offset exactly if both texts fit and the expected one's
padded bytes stand there and nowhere else, and then that stretch alone is rewritten. Otherwise it
reports the first fault and leaves the artifact as it was.
-/

namespace BuildStamp.Slot

/-- An injection has what it needs to succeed at an offset. -/
structure Injectable (artifact : List UInt8) (injection : Injection) (offset : Nat) : Prop where
  value : Fits injection.value injection.capacity
  expected : Fits injection.expected injection.capacity
  only : OccursOnlyAt (padded injection.expected injection.capacity) artifact offset

/-- Why an injection is refused. The new text is looked at first, then the expected one, and the
artifact last. -/
inductive InjectionFault (artifact : List UInt8) (injection : Injection) : SlotFailure → Prop
  | value {failure : SlotFailure}
      (fault : TextFault .value injection.value injection.capacity failure) :
      InjectionFault artifact injection failure
  | search {failure : SlotFailure} (value : Fits injection.value injection.capacity)
      (fault : SearchFault artifact injection.expected injection.capacity failure) :
      InjectionFault artifact injection failure

/-- A stretch of the artifact holds the bytes, and all else is as it was. -/
structure Rewritten (before after : List UInt8) (offset : Nat) (bytes : List UInt8) : Prop where
  length : after.length = before.length
  stretch : (after.drop offset).take bytes.length = bytes
  frame : ∀ index, index < offset ∨ offset + bytes.length ≤ index → after[index]? = before[index]?

theorem padded_length {text : String} {capacity : Nat} (fits : Fits text capacity) :
    (padded text capacity).length = capacity := by
  rw [← fits.image_eq, image_length]

theorem injectable_iff (artifact : List UInt8) (injection : Injection) (offset : Nat) :
    Injectable artifact injection offset ↔
      Fits injection.value injection.capacity ∧
        find artifact injection.expected injection.capacity = .ok offset := by
  rw [find_eq_ok_iff]
  constructor
  · rintro ⟨value, expected, only⟩
    rw [← expected.image_eq] at only
    exact ⟨value, expected, only⟩
  · rintro ⟨value, expected, only⟩
    rw [expected.image_eq] at only
    exact ⟨value, expected, only⟩

/-- The stretch and the frame leave no other artifact than the overwritten one. -/
theorem rewritten_iff {before bytes : List UInt8} {offset : Nat}
    (within : offset + bytes.length ≤ before.length) (after : List UInt8) :
    Rewritten before after offset bytes ↔ after = overwrite before offset bytes := by
  constructor
  · rintro ⟨-, stretch, frame⟩
    apply List.ext_getElem?
    intro index
    by_cases inside : offset ≤ index ∧ index < offset + bytes.length
    · have read : ∀ list : List UInt8, (list.drop offset).take bytes.length = bytes →
          list[index]? = bytes[index - offset]? := by
        intro list same
        rw [← same, List.getElem?_take_of_lt (by omega), List.getElem?_drop]
        congr 1
        omega
      rw [read after stretch, read _ (overwrite_inside within)]
    · have outside : index < offset ∨ offset + bytes.length ≤ index := by omega
      rw [frame index outside, overwrite_outside within index outside]
  · rintro rfl
    exact ⟨overwrite_length within, overwrite_inside within, overwrite_outside within⟩

theorem injectInPlace_of_injectable {artifact : List UInt8} {injection : Injection} {offset : Nat}
    (accepted : Injectable artifact injection offset) :
    injectInPlace artifact injection =
      (.ok offset, overwrite artifact offset (image injection.value injection.capacity)) := by
  obtain ⟨value, found⟩ := (injectable_iff artifact injection offset).mp accepted
  rw [injectInPlace, inject, (checkText_eq_ok_iff .value _ _).mpr value, found]

theorem injectInPlace_of_fault {artifact : List UInt8} {injection : Injection}
    {failure : SlotFailure} (fault : InjectionFault artifact injection failure) :
    injectInPlace artifact injection = (.error failure, artifact) := by
  cases fault with
  | value fault =>
      rw [injectInPlace, inject, (checkText_eq_error_iff .value _ _ failure).mpr fault]
  | search value fault =>
      rw [injectInPlace, inject, (checkText_eq_ok_iff .value _ _).mpr value,
        (find_eq_error_iff _ _ _ failure).mpr fault]

theorem injectable_or_fault (artifact : List UInt8) (injection : Injection) :
    (∃ offset, Injectable artifact injection offset) ∨
      ∃ failure, InjectionFault artifact injection failure := by
  rcases fits_or_textFault .value injection.value injection.capacity with value | ⟨failure, fault⟩
  · match searched : find artifact injection.expected injection.capacity with
    | .ok offset => exact Or.inl ⟨offset, (injectable_iff _ _ _).mpr ⟨value, searched⟩⟩
    | .error failure =>
        exact Or.inr ⟨failure, .search value ((find_eq_error_iff _ _ _ _).mp searched)⟩
  · exact Or.inr ⟨failure, .value fault⟩

theorem injectInPlace_eq_ok_iff (artifact after : List UInt8) (injection : Injection)
    (offset : Nat) :
    injectInPlace artifact injection = (.ok offset, after) ↔
      Injectable artifact injection offset ∧
        after = overwrite artifact offset (image injection.value injection.capacity) := by
  constructor
  · intro ended
    rcases injectable_or_fault artifact injection with ⟨found, accepted⟩ | ⟨failure, fault⟩
    · rw [injectInPlace_of_injectable accepted] at ended
      cases ended
      exact ⟨accepted, rfl⟩
    · rw [injectInPlace_of_fault fault] at ended
      cases ended
  · rintro ⟨accepted, rfl⟩
    exact injectInPlace_of_injectable accepted

theorem injectInPlace_eq_error_iff (artifact after : List UInt8) (injection : Injection)
    (failure : SlotFailure) :
    injectInPlace artifact injection = (.error failure, after) ↔
      InjectionFault artifact injection failure ∧ after = artifact := by
  constructor
  · intro ended
    rcases injectable_or_fault artifact injection with ⟨found, accepted⟩ | ⟨reported, fault⟩
    · rw [injectInPlace_of_injectable accepted] at ended
      cases ended
    · rw [injectInPlace_of_fault fault] at ended
      cases ended
      exact ⟨fault, rfl⟩
  · rintro ⟨fault, rfl⟩
    exact injectInPlace_of_fault fault

theorem Injectable.within {artifact : List UInt8} {injection : Injection} {offset : Nat}
    (accepted : Injectable artifact injection offset) :
    offset + injection.capacity ≤ artifact.length := by
  have bound := ((accepted.only offset).mpr rfl).fits
  rwa [padded_length accepted.expected] at bound

theorem Injectable.rewritten_iff {artifact : List UInt8} {injection : Injection} {offset : Nat}
    (accepted : Injectable artifact injection offset) (after : List UInt8) :
    Rewritten artifact after offset (padded injection.value injection.capacity) ↔
      after = overwrite artifact offset (image injection.value injection.capacity) := by
  rw [accepted.value.image_eq]
  apply Slot.rewritten_iff
  rw [padded_length accepted.value]
  exact accepted.within

/-- The outcome of every injection, and that no access of it leaves its bounds. -/
theorem injectInPlace_outcome (artifact : List UInt8) (injection : Injection) :
    (∀ offset after, injectInPlace artifact injection = (.ok offset, after) ↔
      Injectable artifact injection offset ∧
        Rewritten artifact after offset (padded injection.value injection.capacity)) ∧
    (∀ failure after, injectInPlace artifact injection = (.error failure, after) ↔
      InjectionFault artifact injection failure ∧ after = artifact) ∧
    Bounded.inject artifact injection = some (injectInPlace artifact injection) := by
  refine ⟨?_, ?_, Bounded.inject_eq_some artifact injection⟩
  · intro offset after
    rw [injectInPlace_eq_ok_iff]
    constructor
    · rintro ⟨accepted, changed⟩
      exact ⟨accepted, (accepted.rewritten_iff after).mpr changed⟩
    · rintro ⟨accepted, changed⟩
      exact ⟨accepted, (accepted.rewritten_iff after).mp changed⟩
  · intro failure after
    exact injectInPlace_eq_error_iff artifact after injection failure

end BuildStamp.Slot
