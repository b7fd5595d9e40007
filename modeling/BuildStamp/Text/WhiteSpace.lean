set_option autoImplicit false

/-!
The White_Space property of Unicode, and texts without it at either end. U+200B, U+2060 and
U+FEFF are not in it, nor is NUL.
-/

namespace BuildStamp.WhiteSpace

/-- The code points with the property, as ranges. -/
def ranges : List (Nat × Nat) :=
  [(0x09, 0x0D), (0x20, 0x20), (0x85, 0x85), (0xA0, 0xA0), (0x1680, 0x1680), (0x2000, 0x200A),
    (0x2028, 0x2029), (0x202F, 0x202F), (0x205F, 0x205F), (0x3000, 0x3000)]

/-- A character has the property if its code point lies in one of the ranges. -/
def isBlank (c : Char) : Bool :=
  ranges.any fun range => range.1 ≤ c.toNat && c.toNat ≤ range.2

/-- The characters from the first to the last that is not blank. -/
def trimChars (text : List Char) : List Char :=
  ((text.dropWhile isBlank).reverse.dropWhile isBlank).reverse

/-- The text without the white space at its ends. -/
def trim (text : String) : String :=
  String.ofList (trimChars text.toList)

end BuildStamp.WhiteSpace
