import BuildStamp.Text.Quoted
import BuildStamp.Text.Utf8

set_option autoImplicit false

/-!
The slot that every artifact carries for its build number: a fixed number of bytes that hold a
text and are filled up with NULs. A fresh slot holds the sentinel, which packaging replaces.
-/

namespace BuildStamp

namespace Slot

/-- The size of a slot in bytes, its last NUL included. -/
def capacity : Nat := 128

/-- The text a slot holds until packaging replaces it. -/
def sentinel : String := "SOONG BUILD NUMBER PLACEHOLDER"

/-- The symbol under which linkers see the slot. -/
def symbol : String := "soong_build_number"

/-- The bytes by which packaging knows a slot of some capacity that holds a text: as much of the
text as leaves room for one NUL, and NULs up to the capacity. -/
def image (text : String) (capacity : Nat) : List UInt8 :=
  let kept := (Utf8.encode text).take (capacity - 1)
  kept ++ List.replicate (capacity - kept.length) 0

theorem image_length (text : String) (capacity : Nat) :
    (image text capacity).length = capacity := by
  simp only [image, List.length_append, List.length_replicate, List.length_take]
  omega

/-- Bytes laid one by one into as many cells as a number says. The last cell is left to a NUL, and
NULs fill the cells that no byte reaches. -/
def layOut : Nat → List UInt8 → List UInt8
  | 0, _ => []
  | 1, _ => [0]
  | cells + 2, [] => 0 :: layOut (cells + 1) []
  | cells + 2, byte :: rest => byte :: layOut (cells + 1) rest

theorem layOut_length (cells : Nat) (bytes : List UInt8) :
    (layOut cells bytes).length = cells := by
  fun_induction layOut cells bytes with
  | case1 => rfl
  | case2 => rfl
  | case3 cells ih => simp [ih]
  | case4 cells byte rest ih => simp [ih]

/-- A text is the sentinel, so nothing has replaced it. -/
def isPlaceholder (text : String) : Bool :=
  text = sentinel

end Slot

/-- A slot of the usual capacity. -/
structure Slot where
  bytes : List UInt8
  length_eq : bytes.length = Slot.capacity
  deriving DecidableEq

namespace Slot

/-- The slot that an artifact is made with to hold a text, which is cut off if it is too long. -/
def holding (text : String) : Slot :=
  ⟨layOut capacity (Utf8.encode text), layOut_length capacity (Utf8.encode text)⟩

/-- The slot with the given bytes, if they are as many as a slot has. -/
def ofBytes? (bytes : List UInt8) : Option Slot :=
  if fits : bytes.length = capacity then some ⟨bytes, fits⟩ else none

/-- The bytes before the first NUL. -/
def content (slot : Slot) : List UInt8 :=
  slot.bytes.takeWhile (· ≠ 0)

/-- The text before the first NUL. A cut may have left an ill-formed end, which reads as one
replacement character. -/
def value (slot : Slot) : String :=
  Utf8.decodeLossy slot.content

/-- The slot as diagnostics show it. -/
def describe (slot : Slot) : String :=
  "PlaceholderSlot(" ++ Quoted.text slot.value ++ ")"

end Slot

end BuildStamp
