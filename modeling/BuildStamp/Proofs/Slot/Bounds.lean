import BuildStamp.Proofs.Slot.Overwrite

set_option autoImplicit false

/-!
An injection with every access checked. A stretch of bytes may only be taken or written where it
lies inside its list, and the windows laid over an artifact must have a size. Run that way, an
injection meets no bound, whatever the artifact, the texts and the capacity are, and ends like the
unchecked one.
-/

namespace BuildStamp.Slot.Bounded

/-- The bytes of a stretch that ends inside the list. -/
def slice (bytes : List UInt8) (start stop : Nat) : Option (List UInt8) :=
  if start ≤ stop ∧ stop ≤ bytes.length then some ((bytes.drop start).take (stop - start))
  else none

/-- The list with a stretch of it replaced by exactly as many bytes. -/
def copyInto (bytes : List UInt8) (start stop : Nat) (source : List UInt8) :
    Option (List UInt8) :=
  if start ≤ stop ∧ stop ≤ bytes.length ∧ source.length = stop - start then
    some (bytes.take start ++ source ++ bytes.drop stop)
  else none

/-- The stretches of some size, one for each offset that leaves room for it. -/
def windows (size : Nat) (bytes : List UInt8) : Option (List (List UInt8)) :=
  if size = 0 then none
  else some ((List.range (bytes.length + 1 - size)).map fun offset =>
    (bytes.drop offset).take size)

/-- A slot's image, written over as many NULs as the slot has bytes. -/
def image (text : String) (capacity : Nat) : Option (List UInt8) := do
  let kept := min (Utf8.byteLength text) (capacity - 1)
  let source ← slice (Utf8.encode text) 0 kept
  copyInto (List.replicate capacity 0) 0 kept source

/-- The places, counted from zero, of the windows that equal the bytes searched for. -/
def hits (needle : List UInt8) (found : List (List UInt8)) : List Nat :=
  (found.zipIdx.filter fun window => window.1 == needle).map Prod.snd

/-- The offset of the one slot in an artifact that holds a text. -/
def find (artifact : List UInt8) (expected : String) (capacity : Nat) :
    Option (Except SlotFailure Nat) :=
  match checkText .expected expected capacity with
  | .error failure => some (.error failure)
  | .ok () => do
    let needle ← image expected capacity
    let found ← windows needle.length artifact
    match hits needle found with
    | [] => return .error (.slotNotFound expected)
    | [offset] => return .ok offset
    | first :: second :: _ => return .error (.ambiguousSlot expected first second)

/-- The outcome of an injection, and the artifact after it. -/
def inject (artifact : List UInt8) (injection : Injection) :
    Option (Except SlotFailure Nat × List UInt8) :=
  match checkText .value injection.value injection.capacity with
  | .error failure => some (.error failure, artifact)
  | .ok () => do
    match ← find artifact injection.expected injection.capacity with
    | .error failure => return (.error failure, artifact)
    | .ok offset =>
      let replacement ← image injection.value injection.capacity
      let changed ← copyInto artifact offset (offset + injection.capacity) replacement
      return (.ok offset, changed)

theorem slice_of_le {bytes : List UInt8} {start stop : Nat} (ordered : start ≤ stop)
    (within : stop ≤ bytes.length) :
    slice bytes start stop = some ((bytes.drop start).take (stop - start)) :=
  if_pos ⟨ordered, within⟩

theorem copyInto_of_le {bytes source : List UInt8} {start stop : Nat} (ordered : start ≤ stop)
    (within : stop ≤ bytes.length) (size : source.length = stop - start) :
    copyInto bytes start stop source = some (bytes.take start ++ source ++ bytes.drop stop) :=
  if_pos ⟨ordered, within, size⟩

theorem windows_of_pos {size : Nat} (positive : 0 < size) (bytes : List UInt8) :
    windows size bytes =
      some ((List.range (bytes.length + 1 - size)).map fun offset =>
        (bytes.drop offset).take size) :=
  if_neg (Nat.ne_of_gt positive)

/-- The kept bytes lie both in the text and in the slot, also in a slot of no bytes. -/
theorem image_eq_some (text : String) (capacity : Nat) :
    image text capacity = some (Slot.image text capacity) := by
  have kept : min (Utf8.byteLength text) (capacity - 1) ≤ (Utf8.encode text).length :=
    Nat.min_le_left _ _
  have room : min (Utf8.byteLength text) (capacity - 1) ≤
      (List.replicate capacity (0 : UInt8)).length := by
    rw [List.length_replicate]
    omega
  have size : ((Utf8.encode text).take (min (Utf8.byteLength text) (capacity - 1))).length =
      min (Utf8.byteLength text) (capacity - 1) := by
    rw [List.length_take]
    exact Nat.min_eq_left kept
  have cut : (Utf8.encode text).take (capacity - 1) =
      (Utf8.encode text).take (min (Utf8.byteLength text) (capacity - 1)) := by
    rw [Nat.min_comm]
    exact List.take_eq_take_min
  simp only [image, slice_of_le (Nat.zero_le _) kept, Option.bind_eq_bind, Option.bind_some,
    List.drop_zero, Nat.sub_zero]
  rw [copyInto_of_le (Nat.zero_le _) room (by rw [size, Nat.sub_zero])]
  simp only [Slot.image, List.take_zero, List.nil_append, List.drop_replicate, cut, size]

theorem hits_pairwise (needle : List UInt8) (found : List (List UInt8)) :
    (hits needle found).Pairwise (· < ·) := by
  have numbers : (found.zipIdx.map Prod.snd).Pairwise (· < ·) := by
    rw [List.zipIdx_map_snd]
    exact List.pairwise_lt_range'
  exact numbers.sublist (List.filter_sublist.map Prod.snd)

theorem mem_hits_iff (needle : List UInt8) (found : List (List UInt8)) (place : Nat) :
    place ∈ hits needle found ↔ found[place]? = some needle := by
  rw [hits, List.mem_map]
  constructor
  · rintro ⟨⟨window, number⟩, member, rfl⟩
    obtain ⟨listed, same⟩ := List.mem_filter.mp member
    rw [← beq_iff_eq.mp same]
    exact List.mk_mem_zipIdx_iff_getElem?.mp listed
  · intro listed
    refine ⟨(needle, place), ?_, rfl⟩
    exact List.mem_filter.mpr ⟨List.mk_mem_zipIdx_iff_getElem?.mpr listed, beq_self_eq_true needle⟩

/-- Windows that equal the bytes searched for are exactly their occurrences: near the end of the
artifact, where no window is laid, no occurrence can begin. -/
theorem hits_windows {needle artifact : List UInt8} {found : List (List UInt8)}
    (nonempty : 0 < needle.length) (laid : windows needle.length artifact = some found) :
    hits needle found = occurrences needle artifact := by
  rw [windows_of_pos nonempty, Option.some.injEq] at laid
  apply (hits_pairwise needle found).eq_of_mem_iff (occurrences_pairwise needle artifact)
  intro offset
  rw [mem_hits_iff, mem_occurrences_iff, ← laid, List.getElem?_map, Option.map_eq_some_iff]
  constructor
  · rintro ⟨place, listed, window⟩
    obtain ⟨bound, same⟩ := List.getElem?_eq_some_iff.mp listed
    rw [List.getElem_range] at same
    rw [List.length_range] at bound
    subst same
    refine ⟨by omega, ?_⟩
    rw [← window]
    exact List.take_prefix _ _
  · intro occurs
    have within := occurs.fits
    refine ⟨offset, ?_, (List.prefix_iff_eq_take.mp occurs.2).symm⟩
    exact List.getElem?_range (by omega)

/-- The windows are as long as the slot, so they have a size wherever the text fits. -/
theorem find_eq_some (artifact : List UInt8) (expected : String) (capacity : Nat) :
    find artifact expected capacity = some (Slot.find artifact expected capacity) := by
  rcases fits_or_textFault .expected expected capacity with fits | ⟨failure, fault⟩
  · have room := fits.byteLength_lt
    have positive : 0 < (Slot.image expected capacity).length := by
      rw [image_length]
      omega
    have laid := windows_of_pos positive artifact
    have listed := hits_windows positive laid
    rw [find, find_of_fits fits, (checkText_eq_ok_iff .expected expected capacity).mpr fits]
    simp only [image_eq_some, laid, listed, Option.bind_eq_bind, Option.bind_some]
    rcases occurrences (Slot.image expected capacity) artifact with _ | ⟨first, _ | ⟨second, rest⟩⟩
    · rfl
    · rfl
    · rfl
  · rw [find, find_of_textFault fault,
      (checkText_eq_error_iff .expected expected capacity failure).mpr fault]

/-- What a search found lies inside the artifact, so the write behind it meets no bound either. -/
theorem inject_eq_some (artifact : List UInt8) (injection : Injection) :
    inject artifact injection = some (injectInPlace artifact injection) := by
  rw [inject, injectInPlace, Slot.inject]
  match checkText .value injection.value injection.capacity with
  | .error failure => rfl
  | .ok () =>
      rw [find_eq_some]
      match searched : Slot.find artifact injection.expected injection.capacity with
      | .error failure => rfl
      | .ok offset =>
          obtain ⟨fits, only⟩ := (find_eq_ok_iff _ _ _ _).mp searched
          have within := ((only offset).mpr rfl).fits
          rw [image_length] at within
          have size : (Slot.image injection.value injection.capacity).length =
              offset + injection.capacity - offset := by
            rw [image_length]
            omega
          have stored := copyInto_of_le (Nat.le_add_right offset injection.capacity) within size
          simp only [image_eq_some, stored, Option.bind_eq_bind, Option.bind_some, overwrite,
            image_length]
          rfl

end BuildStamp.Slot.Bounded
