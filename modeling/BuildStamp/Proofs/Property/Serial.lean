import BuildStamp.Proofs.Property.History

set_option autoImplicit false

/-!
How far a serial stamps a value. As long as a property is not removed its serial moves on with each
write, so two readings with one serial are the same reading. A removal starts the serial anew, and
a value that is written then can come under a serial that another value has had.
-/

namespace BuildStamp

namespace PropertyPast

variable {past recent : PropertyPast} {name : String}

/-- Without a removal the older writes stay behind the newer ones. -/
theorem writes_append (kept : .remove name ∉ recent) :
    writes (recent ++ past) name = recent.filterMap (·.valueFor name) ++ writes past name := by
  have passes : ∀ operation ∈ recent,
      decide (operation ≠ PropertyOperation.remove name) = true := by
    intro operation member
    apply decide_eq_true
    rintro rfl
    exact kept member
  rw [writes, List.takeWhile_append_of_pos passes, List.filterMap_append, writes]

theorem filterMap_valueFor_eq_nil_iff :
    recent.filterMap (·.valueFor name) = [] ↔ ∀ value, .set name value ∉ recent := by
  simp only [List.filterMap_eq_nil_iff, Option.eq_none_iff_forall_ne_some, ne_eq,
    PropertyOperation.valueFor_eq_some_iff]
  constructor
  · intro silent value member
    exact silent _ member value rfl
  · rintro unwritten operation member value rfl
    exact unwritten value member

/-- A reading reports the newest write, and how many writes lie behind it. -/
theorem reading?_eq_some {reading : Reading} (reads : reading? past name = some reading) :
    ∃ value earlier, writes past name = value :: earlier ∧
      reading = ⟨name, value, UInt32.ofNat earlier.length⟩ := by
  rw [reading?, property?] at reads
  split at reads
  · cases reads
  · rename_i value earlier written
    cases reads
    exact ⟨value, earlier, written, rfl⟩

end PropertyPast

/-- Going on from a count by fewer than 2^32 comes back to its serial only by standing still. -/
theorem ofNat_add_eq_iff {fresh : Nat} (few : fresh < UInt32.size) (old : Nat) :
    UInt32.ofNat old = UInt32.ofNat (fresh + old) ↔ fresh = 0 := by
  have size : UInt32.size = 4294967296 := rfl
  rw [← UInt32.toNat_inj, UInt32.toNat_ofNat', UInt32.toNat_ofNat']
  omega

namespace PropertySession

/-- Between two readings of a property that is not removed meanwhile, the serial stays the same
exactly if nothing is written to it, and then the value does. -/
theorem serial_eq_iff_unwritten (earlier between : List PropertyOperation) (name : String)
    (kept : .remove name ∉ between) (few : between.length < UInt32.size) {first second : Reading}
    (one : (start.performAll earlier).2.store.read? ⟨name⟩ = some first)
    (two : (start.performAll (earlier ++ between)).2.store.read? ⟨name⟩ = some second) :
    (first.serial = second.serial ↔ ∀ value, .set name value ∉ between) ∧
      (first.serial = second.serial → first = second) := by
  rw [(reflects_run earlier).read?] at one
  rw [(reflects_run (earlier ++ between)).read?, List.reverse_append] at two
  obtain ⟨oldest, behind, held, rfl⟩ := PropertyPast.reading?_eq_some one
  obtain ⟨newest, below, holds, rfl⟩ := PropertyPast.reading?_eq_some two
  have untouched : .remove name ∉ between.reverse := by simpa using kept
  rw [PropertyPast.writes_append untouched, held] at holds
  have unwritten : between.reverse.filterMap (·.valueFor name) = [] ↔
      ∀ value, .set name value ∉ between := by
    simp only [PropertyPast.filterMap_valueFor_eq_nil_iff, List.mem_reverse]
  have fresh : (between.reverse.filterMap (·.valueFor name)).length < UInt32.size := by
    have bound := List.length_filterMap_le (·.valueFor name) between.reverse
    rw [List.length_reverse] at bound
    omega
  have counts : below.length =
      (between.reverse.filterMap (·.valueFor name)).length + behind.length := by
    have lengths := congrArg List.length holds
    simp only [List.length_append, List.length_cons] at lengths
    omega
  have stamps := ofNat_add_eq_iff fresh behind.length
  rw [← counts, List.length_eq_zero_iff] at stamps
  refine ⟨stamps.trans unwritten, ?_⟩
  intro same
  rw [stamps.mp same, List.nil_append] at holds
  cases holds
  rfl

theorem serial_eq_iff_unwritten_among_others :
    .remove "a" ∉ [.set "b" "2", .remove "b", PropertyOperation.set "a" "1"] ∧
      (start.performAll [.set "a" "1"]).2.store.read? ⟨"a"⟩ = some ⟨"a", "1", 0⟩ ∧
      (start.performAll ([.set "a" "1"] ++ [.set "b" "2", .remove "b", .set "a" "1"])).2.store.read?
        ⟨"a"⟩ = some ⟨"a", "1", 1⟩ ∧
      ((0 : UInt32) = 1 ↔
        ∀ value, .set "a" value ∉ [.set "b" "2", .remove "b", PropertyOperation.set "a" "1"]) ∧
      ((0 : UInt32) = 1 → (⟨"a", "1", 0⟩ : Reading) = ⟨"a", "1", 1⟩) := by
  have kept : .remove "a" ∉ [.set "b" "2", .remove "b", PropertyOperation.set "a" "1"] := by
    decide
  have one : (start.performAll [.set "a" "1"]).2.store.read? ⟨"a"⟩ = some ⟨"a", "1", 0⟩ := by
    decide
  have two : (start.performAll
      ([.set "a" "1"] ++ [.set "b" "2", .remove "b", .set "a" "1"])).2.store.read? ⟨"a"⟩ =
        some ⟨"a", "1", 1⟩ := by
    decide
  exact ⟨kept, one, two, serial_eq_iff_unwritten _ _ "a" kept (by decide) one two⟩

/-- A removal between two readings: another value comes under the same serial. -/
theorem serial_repeats_after_removal :
    (start.performAll
      [.set PropertyStore.buildNumberName "a", .find PropertyStore.buildNumberName "h",
        .read "h", .remove PropertyStore.buildNumberName,
        .set PropertyStore.buildNumberName "b", .read "h"]).1 =
      [.serial (some 0), .found true, .readings [⟨PropertyStore.buildNumberName, "a", 0⟩],
        .removed (some "a"), .serial (some 0),
        .readings [⟨PropertyStore.buildNumberName, "b", 0⟩]] := by
  decide

end PropertySession

end BuildStamp
