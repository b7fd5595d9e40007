import BuildStamp.Proofs.Slot.Reinjection
import Mathlib.Data.Set.Card

set_option autoImplicit false

/-!
The places where a text's image stands in an artifact, taken together. Any two of them are a
capacity apart, so an artifact has room for no more of them than its length allows. A search tells
of its places whether there is one, or else the two smallest, and an injection leaves its text
where it wrote it and wherever it stood clear of that before.
-/

namespace BuildStamp.Slot

/-- The offsets at which the image of a text stands. -/
def places (text : String) (capacity : Nat) (artifact : List UInt8) : Set Nat :=
  {offset | OccursAt (image text capacity) artifact offset}

theorem OccursFirstAt.isLeast {needle artifact : List UInt8} {first second : Nat}
    (twice : OccursFirstAt needle artifact first second) :
    IsLeast {offset | OccursAt needle artifact offset} first ∧
      IsLeast ({offset | OccursAt needle artifact offset} \ {first}) second := by
  have ordered := twice.ordered
  have apart : second ≠ first := by omega
  refine ⟨⟨twice.atFirst, ?_⟩, ⟨twice.atSecond, apart⟩, ?_⟩
  · intro offset occurs
    rcases twice.least offset occurs with same | later
    · exact Nat.le_of_eq same.symm
    · omega
  · rintro offset ⟨occurs, other⟩
    rcases twice.least offset occurs with same | later
    · exact absurd same other
    · exact later

section

variable {text : String} {capacity : Nat} {artifact : List UInt8}

theorem find_of_empty (fits : Fits text capacity) (none : places text capacity artifact = ∅) :
    find artifact text capacity = .error (.slotNotFound text) := by
  have nowhere := Set.eq_empty_iff_forall_notMem.mp none
  rw [find_of_fits fits, (occurrences_eq_nil_iff _ _).mpr nowhere]

theorem find_eq_ok_iff_singleton (fits : Fits text capacity) (offset : Nat) :
    find artifact text capacity = .ok offset ↔ places text capacity artifact = {offset} := by
  rw [find_eq_ok_iff]
  constructor
  · rintro ⟨-, only⟩
    exact Set.ext only
  · intro single
    exact ⟨fits, fun other => Set.ext_iff.mp single other⟩

/-- Of several places a search reports the two smallest. -/
theorem find_of_nontrivial (fits : Fits text capacity)
    (several : (places text capacity artifact).Nontrivial) :
    ∃ first second,
      find artifact text capacity = .error (.ambiguousSlot text first second) ∧
        IsLeast (places text capacity artifact) first ∧
        IsLeast (places text capacity artifact \ {first}) second := by
  match searched : find artifact text capacity with
  | .ok offset =>
      have single := (find_eq_ok_iff_singleton fits offset).mp searched
      rw [single] at several
      exact absurd several Set.not_nontrivial_singleton
  | .error failure =>
      cases (find_eq_error_iff _ _ _ _).mp searched with
      | text fault => exact absurd fits fault.not_fits
      | absent fits nowhere =>
          obtain ⟨offset, occurs⟩ := several.nonempty
          exact absurd (fits.image_eq ▸ occurs) (nowhere offset)
      | ambiguous fits twice =>
          rw [← fits.image_eq] at twice
          exact ⟨_, _, rfl, twice.isLeast⟩

/-- The image of a text does not overlap itself. -/
theorem places_apart (fits : Fits text capacity) {one other : Nat}
    (first : one ∈ places text capacity artifact) (second : other ∈ places text capacity artifact)
    (before : one < other) : one + capacity ≤ other := by
  have within := OccursAt.fits first
  rw [image_length] at within
  have hits := occursAt_written_iff within fits fits other
  rw [overwrite_of_occursAt first] at hits
  rcases hits.mp second with ⟨same, -⟩ | shifted | ⟨clear, -⟩
  · omega
  · exact absurd rfl shifted.texts_ne
  · have room := fits.byteLength_lt
    omega

/-- Cut into stretches of a capacity each, an artifact has at most one place in any of them. -/
theorem encard_places_le (fits : Fits text capacity) (artifact : List UInt8) :
    (places text capacity artifact).encard ≤ (artifact.length / capacity : Nat) := by
  have room := fits.byteLength_lt
  have later {low high : Nat} (reaches : low + capacity ≤ high) :
      low / capacity < high / capacity := by
    have quotients := Nat.div_le_div_right (c := capacity) reaches
    rwa [Nat.add_div_right low (by omega)] at quotients
  have stretches : Set.MapsTo (· / capacity) (places text capacity artifact)
      (Finset.range (artifact.length / capacity)) := by
    intro offset occurs
    have within := OccursAt.fits occurs
    rw [image_length] at within
    exact Finset.mem_coe.mpr (Finset.mem_range.mpr (later within))
  have alone : Set.InjOn (· / capacity) (places text capacity artifact) := by
    intro one first other second same
    rcases Nat.lt_trichotomy one other with before | equal | behind
    · exact absurd same (Nat.ne_of_lt (later (places_apart fits first second before)))
    · exact equal
    · exact absurd same.symm (Nat.ne_of_lt (later (places_apart fits second first behind)))
  have fewer := Set.encard_le_encard_of_injOn stretches alone
  rwa [Set.encard_coe_eq_coe_finsetCard, Finset.card_range] at fewer

/-- A search tells of all places of a text that fits: there is none, there is one, or there are
several, of which it names the two smallest. All of them lie clear of each other. -/
theorem find_by_places (fits : Fits text capacity) (artifact : List UInt8) :
    (places text capacity artifact = ∅ →
      find artifact text capacity = .error (.slotNotFound text)) ∧
    (∀ offset, places text capacity artifact = {offset} →
      find artifact text capacity = .ok offset) ∧
    ((places text capacity artifact).Nontrivial → ∃ first second,
      find artifact text capacity = .error (.ambiguousSlot text first second) ∧
        IsLeast (places text capacity artifact) first ∧
        IsLeast (places text capacity artifact \ {first}) second ∧
        first + capacity ≤ second) ∧
    (∀ one ∈ places text capacity artifact, ∀ other ∈ places text capacity artifact,
      one < other → one + capacity ≤ other) ∧
    (places text capacity artifact).Finite ∧
    (places text capacity artifact).ncard ≤ artifact.length / capacity := by
  refine ⟨find_of_empty fits, fun offset => (find_eq_ok_iff_singleton fits offset).mpr, ?_, ?_,
    Set.encard_le_coe_iff_finite_ncard_le.mp (encard_places_le fits artifact)⟩
  · intro several
    obtain ⟨first, second, reported, least, next⟩ := find_of_nontrivial fits several
    have ordered : first < second := by
      have lower := least.2 next.1.1
      have apart : second ≠ first := next.1.2
      omega
    exact ⟨first, second, reported, least, next,
      places_apart fits least.1 next.1.1 ordered⟩
  · intro one first other second
    exact places_apart fits first second

/-- In a run of one letter only the end is followed by enough NULs. -/
theorem find_by_places_in_run :
    Fits "aa" 4 ∧
      find [97, 97, 0, 0, 97, 97, 97, 0, 0] "aa" 4 = .error (.ambiguousSlot "aa" 0 5) ∧
      IsLeast (places "aa" 4 [97, 97, 0, 0, 97, 97, 97, 0, 0]) 0 ∧
      IsLeast (places "aa" 4 [97, 97, 0, 0, 97, 97, 97, 0, 0] \ {0}) 5 ∧
      (places "aa" 4 [97, 97, 0, 0, 97, 97, 97, 0, 0]).ncard ≤ 2 := by
  have fits : Fits "aa" 4 := by decide
  have front : OccursAt (image "aa" 4) [97, 97, 0, 0, 97, 97, 97, 0, 0] 0 := by decide
  have inside : OccursAt (image "aa" 4) [97, 97, 0, 0, 97, 97, 97, 0, 0] 5 := by decide
  have searched : find [97, 97, 0, 0, 97, 97, 97, 0, 0] "aa" 4 =
      .error (.ambiguousSlot "aa" 0 5) := by decide
  obtain ⟨-, -, ambiguous, -, -, few⟩ := find_by_places fits [97, 97, 0, 0, 97, 97, 97, 0, 0]
  obtain ⟨first, second, reported, least, next, -⟩ := ambiguous ⟨0, front, 5, inside, by decide⟩
  rw [searched] at reported
  cases reported
  exact ⟨fits, searched, least, next, few⟩

end

section

variable {artifact after : List UInt8} {injection : Injection} {offset : Nat}

/-- An injected text stands where it was written, and where it stood before clear of that. -/
theorem Injectable.places_value (accepted : Injectable artifact injection offset) :
    places injection.value injection.capacity
        (overwrite artifact offset (image injection.value injection.capacity)) =
      insert offset {place ∈ places injection.value injection.capacity artifact |
        place + injection.capacity ≤ offset ∨ offset + injection.capacity ≤ place} := by
  ext place
  have hits := occursAt_written_iff accepted.within accepted.value accepted.value place
  have own : ¬ ShiftedHit (artifact.take offset) (artifact.drop (offset + injection.capacity))
      injection.value injection.value place := fun shifted => shifted.texts_ne rfl
  simp only [and_true, own, false_or] at hits
  rw [Set.mem_insert_iff, Set.mem_sep_iff, and_comm (a := place ∈ _)]
  exact hits

/-- After an injection a search finds the new text if all its former places were written over, be
it in part, and is else in doubt between the slot and the places that were not. -/
theorem find_value_by_places
    (ended : injectInPlace artifact injection = (.ok offset, after)) :
    let before := places injection.value injection.capacity artifact
    let now := places injection.value injection.capacity after
    (find after injection.value injection.capacity = .ok offset ↔
      ∀ place ∈ before, place < offset + injection.capacity ∧
        offset < place + injection.capacity) ∧
    ((¬ ∀ place ∈ before, place < offset + injection.capacity ∧
        offset < place + injection.capacity) → ∃ first second,
      find after injection.value injection.capacity =
          .error (.ambiguousSlot injection.value first second) ∧
        IsLeast now first ∧ IsLeast (now \ {first}) second) ∧
    offset ∈ now ∧
    now \ {offset} = {place ∈ before |
      place + injection.capacity ≤ offset ∨ offset + injection.capacity ≤ place} := by
  intro before now
  obtain ⟨accepted, rfl⟩ := (injectInPlace_eq_ok_iff _ _ _ _).mp ended
  have room := accepted.value.byteLength_lt
  have all : now = insert offset {place ∈ before |
      place + injection.capacity ≤ offset ∨ offset + injection.capacity ≤ place} :=
    accepted.places_value
  have written : offset ∈ now := all ▸ Set.mem_insert offset _
  have others : now \ {offset} = {place ∈ before |
      place + injection.capacity ≤ offset ∨ offset + injection.capacity ≤ place} := by
    rw [all]
    apply Set.insert_sdiff_self_of_notMem
    rintro ⟨-, clear⟩
    omega
  have single : now = {offset} ↔ ∀ place ∈ before,
      place < offset + injection.capacity ∧ offset < place + injection.capacity := by
    rw [← Set.Nonempty.subset_singleton_iff ⟨offset, written⟩, ← Set.sdiff_eq_empty, others,
      Set.sep_eq_empty_iff_mem_false]
    refine forall₂_congr fun place _ => ?_
    omega
  have found := (find_eq_ok_iff_singleton accepted.value offset).trans single
  refine ⟨found, ?_, written, others⟩
  intro clear
  apply find_of_nontrivial accepted.value
  rcases Set.eq_singleton_or_nontrivial written with alone | several
  · exact absurd (single.mp alone) clear
  · exact several

/-- With `b` in place of `ab`, a `b` that reached into the slot is gone, and one behind it is
not. -/
theorem find_value_by_places_elsewhere :
    injectInPlace [97, 98, 0, 0, 0, 98, 0, 0, 0] ⟨"ab", "b", 4⟩ =
        (.ok 0, [98, 0, 0, 0, 0, 98, 0, 0, 0]) ∧
      1 ∈ places "b" 4 [97, 98, 0, 0, 0, 98, 0, 0, 0] ∧
      find [98, 0, 0, 0, 0, 98, 0, 0, 0] "b" 4 = .error (.ambiguousSlot "b" 0 5) ∧
      IsLeast (places "b" 4 [98, 0, 0, 0, 0, 98, 0, 0, 0] \ {0}) 5 ∧
      places "b" 4 [98, 0, 0, 0, 0, 98, 0, 0, 0] \ {0} =
        {place ∈ places "b" 4 [97, 98, 0, 0, 0, 98, 0, 0, 0] | place + 4 ≤ 0 ∨ 0 + 4 ≤ place} := by
  have ended : injectInPlace [97, 98, 0, 0, 0, 98, 0, 0, 0] ⟨"ab", "b", 4⟩ =
      (.ok 0, [98, 0, 0, 0, 0, 98, 0, 0, 0]) := by decide
  have reaching : OccursAt (image "b" 4) [97, 98, 0, 0, 0, 98, 0, 0, 0] 1 := by decide
  have behind : OccursAt (image "b" 4) [97, 98, 0, 0, 0, 98, 0, 0, 0] 5 := by decide
  have searched : find [98, 0, 0, 0, 0, 98, 0, 0, 0] "b" 4 = .error (.ambiguousSlot "b" 0 5) := by
    decide
  obtain ⟨-, ambiguous, -, others⟩ := find_value_by_places ended
  obtain ⟨first, second, reported, -, next⟩ := ambiguous fun covered =>
    absurd (covered 5 behind).1 (by decide)
  rw [searched] at reported
  cases reported
  exact ⟨ended, reaching, searched, next, others⟩

end

end BuildStamp.Slot
