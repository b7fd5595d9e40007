import BuildStamp.Proofs.Slot.Reinjection

set_option autoImplicit false

/-!
Injections one after the other, each expecting what the last one wrote. Every image covers the
whole slot, so after any number of them the artifact is the original with the last text in the slot,
and the next search finds the slot where the first one did.
-/

namespace BuildStamp.Slot

/-- The outcomes of writing texts over each other, beginning with an expected one, and the artifact
after the last. A refused injection leaves the artifact to the next. -/
def relabel (capacity : Nat) :
    List UInt8 → String → List String → List (Except SlotFailure Nat) × List UInt8
  | artifact, _, [] => ([], artifact)
  | artifact, expected, value :: rest =>
    let step := injectInPlace artifact ⟨expected, value, capacity⟩
    let run := relabel capacity step.2 value rest
    (step.1 :: run.1, run.2)

section

variable {artifact : List UInt8} {offset capacity : Nat}

/-- One injection over a text that was written into the slot before. -/
theorem injectInPlace_written (within : offset + capacity ≤ artifact.length)
    {held value : String} (heldFits : Fits held capacity) (valueFits : Fits value capacity)
    (covered : ∀ place, OccursAt (image held capacity) artifact place →
      place < offset + capacity ∧ offset < place + capacity) :
    injectInPlace (overwrite artifact offset (image held capacity)) ⟨held, value, capacity⟩ =
      (.ok offset, overwrite artifact offset (image value capacity)) := by
  have accepted : Injectable (overwrite artifact offset (image held capacity))
      ⟨held, value, capacity⟩ offset :=
    (injectable_iff _ _ _).mpr ⟨valueFits, find_written within heldFits covered⟩
  rw [injectInPlace_of_injectable accepted,
    overwrite_overwrite (by rwa [image_length]) (by rw [image_length, image_length])]

/-- The artifact stays the original one with the current text in the slot. -/
theorem relabel_written (within : offset + capacity ≤ artifact.length) (held : String)
    (values : List String) (fit : ∀ text ∈ held :: values, Fits text capacity)
    (covered : ∀ text ∈ held :: values, ∀ place, OccursAt (image text capacity) artifact place →
      place < offset + capacity ∧ offset < place + capacity) :
    relabel capacity (overwrite artifact offset (image held capacity)) held values =
      (List.replicate values.length (.ok offset),
        overwrite artifact offset (image (values.getLastD held) capacity)) := by
  induction values generalizing held with
  | nil => rfl
  | cons value rest ih =>
      have heldFits := fit held List.mem_cons_self
      have later : ∀ text ∈ value :: rest, text ∈ held :: value :: rest := by
        intro text member
        exact List.mem_cons_of_mem held member
      have valueFits := fit value (later value List.mem_cons_self)
      have step := injectInPlace_written within heldFits valueFits
        (covered held List.mem_cons_self)
      have run := ih value (fun text member => fit text (later text member))
        (fun text member => covered text (later text member))
      rw [relabel, step, run, List.getLastD_cons, List.length_cons, List.replicate_succ]

/-- A chain of injections ends like the single one from its first text to its last, if none of the
texts on the way stands in the artifact already. -/
theorem relabel_eq_single (first : String) (values : List String)
    (fit : ∀ text ∈ first :: values, Fits text capacity)
    (found : find artifact first capacity = .ok offset)
    (fresh : ∀ text ∈ values, text ≠ first →
      ∀ place, ¬ OccursAt (image text capacity) artifact place) :
    ∃ final, relabel capacity artifact first values =
        (List.replicate values.length (.ok offset), final) ∧
      injectInPlace artifact ⟨first, values.getLastD first, capacity⟩ = (.ok offset, final) ∧
      (values.getLastD first = first → final = artifact) := by
  obtain ⟨firstFits, only⟩ := (find_eq_ok_iff _ _ _ _).mp found
  have stands := (only offset).mpr rfl
  have room := firstFits.byteLength_lt
  have within : offset + capacity ≤ artifact.length := by
    have bound := stands.fits
    rwa [image_length] at bound
  have covered : ∀ text ∈ first :: values, ∀ place,
      OccursAt (image text capacity) artifact place →
        place < offset + capacity ∧ offset < place + capacity := by
    intro text member place occurs
    by_cases same : text = first
    · rw [same] at occurs
      have here := (only place).mp occurs
      omega
    · rcases List.mem_cons.mp member with first | later
      · exact absurd first same
      · exact absurd occurs (fresh text later same place)
  have original := overwrite_of_occursAt stands
  have run := relabel_written within first values fit covered
  rw [original] at run
  refine ⟨_, run, ?_, ?_⟩
  · have last : values.getLastD first ∈ first :: values := List.getLastD_mem_cons
    have single := injectInPlace_written within firstFits (fit _ last)
      (covered first List.mem_cons_self)
    rwa [original] at single
  · intro same
    rw [same, original]

/-- There and back again, through a text that ends in the first one. -/
theorem relabel_eq_single_round_trip :
    (∀ text ∈ ["a", "ba", "a"], Fits text 4) ∧
      find [7, 97, 0, 0, 0, 9] "a" 4 = .ok 1 ∧
      (∀ text ∈ ["ba", "a"], text ≠ "a" →
        ∀ place, ¬ OccursAt (image text 4) [7, 97, 0, 0, 0, 9] place) ∧
      ∃ final, relabel 4 [7, 97, 0, 0, 0, 9] "a" ["ba", "a"] = ([.ok 1, .ok 1], final) ∧
        injectInPlace [7, 97, 0, 0, 0, 9] ⟨"a", "a", 4⟩ = (.ok 1, final) ∧
        ("a" = "a" → final = [7, 97, 0, 0, 0, 9]) := by
  have fit : ∀ text ∈ ["a", "ba", "a"], Fits text 4 := by decide
  have found : find [7, 97, 0, 0, 0, 9] "a" 4 = .ok 1 := by decide
  have fresh : ∀ text ∈ ["ba", "a"], text ≠ "a" →
      ∀ place, ¬ OccursAt (image text 4) [7, 97, 0, 0, 0, 9] place := by
    intro text member other
    rw [List.mem_pair] at member
    rcases member with rfl | rfl
    · exact (occurrences_eq_nil_iff _ _).mp (by decide)
    · exact absurd rfl other
  exact ⟨fit, found, fresh, relabel_eq_single "a" ["ba", "a"] fit found fresh⟩

end

end BuildStamp.Slot
