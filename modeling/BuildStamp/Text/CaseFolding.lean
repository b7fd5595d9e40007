import BuildStamp.Text.LowerCase

set_option autoImplicit false

/-!
Which characters differ in case alone, by the simple case folding of version 17 of Unicode. All
that do share one code point, mostly that of their lower case.
-/

namespace BuildStamp.CaseFolding

/-- The code points whose lower case is not shared by their kin, with the one that is. -/
def strays : List (Nat × Nat) :=
  [
    (0xB5, 0x3BC), (0x17F, 0x73), (0x345, 0x3B9), (0x3C2, 0x3C3), (0x3D0, 0x3B2), (0x3D1, 0x3B8),
    (0x3D5, 0x3C6), (0x3D6, 0x3C0), (0x3F0, 0x3BA), (0x3F1, 0x3C1), (0x3F5, 0x3B5),
    (0x1C80, 0x432), (0x1C81, 0x434), (0x1C82, 0x43E), (0x1C83, 0x441), (0x1C84, 0x442),
    (0x1C85, 0x442), (0x1C86, 0x44A), (0x1C87, 0x463), (0x1C88, 0xA64B), (0x1E9B, 0x1E61),
    (0x1FBE, 0x3B9), (0x1FD3, 0x390), (0x1FE3, 0x3B0), (0xFB06, 0xFB05)
  ]

/-- The code point that stands for all those from which it differs in case alone. -/
def shared (code : Nat) : Nat :=
  match strays.lookup code with
  | some other => other
  | none =>
    match LowerCase.runs.find? fun run => run.covers code with
    | some run => (code + run.offset).toNat
    | none => code

/-- The code points that may share another one: itself, those whose lower case it is, and
strays. -/
def candidates (code : Nat) : List Nat :=
  let raised := LowerCase.runs.filterMap fun run =>
    let upper := ((code : Int) - run.offset).toNat
    if run.covers upper then some upper else none
  let stray := strays.filterMap fun stray => if stray.2 = code then some stray.1 else none
  code :: raised ++ stray

/-- The character in all its cases. -/
def variants (c : Char) : List Char :=
  let common := shared c.toNat
  ((candidates common).filter fun code => shared code = common).map Char.ofNat

/-- The character in all its cases where only ASCII letters have any. -/
def asciiVariants (c : Char) : List Char :=
  [c, c.toLower, c.toUpper]

end BuildStamp.CaseFolding
