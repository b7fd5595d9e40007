set_option autoImplicit false

/-!
Whole numbers as text: plain decimal, decimal filled up with zeros, and hexadecimal behind its
marker. Hexadecimal digits are read as well.
-/

namespace BuildStamp.Numeral

/-- Decimal digits without leading zeros. -/
def decimal (n : Nat) : String :=
  String.ofList (Nat.toDigits 10 n)

/-- Decimal digits behind a minus sign where one is due. -/
def signed : Int → String
  | .ofNat n => decimal n
  | .negSucc n => "-" ++ decimal (n + 1)

/-- Decimal digits, filled up with zeros to the given width. -/
def padded (width n : Nat) : String :=
  let digits := Nat.toDigits 10 n
  String.ofList (List.replicate (width - digits.length) '0' ++ digits)

/-- Lower-case hexadecimal digits behind the marker that offsets carry. -/
def offset (n : Nat) : String :=
  "0x" ++ String.ofList (Nat.toDigits 16 n)

/-- The value of a hexadecimal digit. -/
def hexValue? (c : Char) : Option Nat :=
  if '0' ≤ c ∧ c ≤ '9' then some (c.toNat - 48)
  else if 'a' ≤ c ∧ c ≤ 'f' then some (c.toNat - 87)
  else if 'A' ≤ c ∧ c ≤ 'F' then some (c.toNat - 55)
  else none

/-- The number that hexadecimal digits write. There has to be one, and nothing else. -/
def ofHex? (digits : List Char) : Option Nat :=
  if digits = [] then none
  else digits.foldlM (fun value c => (hexValue? c).map (value * 16 + ·)) 0

end BuildStamp.Numeral
