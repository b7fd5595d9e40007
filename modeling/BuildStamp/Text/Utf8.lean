set_option autoImplicit false

/-!
The bytes of a text and back. Decoding reads one byte at a time: a lead byte opens a sequence,
the sequence narrows the range of its next byte, and a byte outside that range ends it early.
A byte string is then a row of pieces, each a character or an ill-formed stretch; strict decoding
wants characters only, lossy decoding puts U+FFFD for every stretch.
-/

namespace BuildStamp.Utf8

/-- The bytes of a text, character by character. -/
def encode (text : String) : List UInt8 :=
  text.toList.flatMap String.utf8EncodeChar

/-- The number of bytes a text takes. -/
def byteLength (text : String) : Nat :=
  (encode text).length

/-- A sequence under way: the bits read so far, how many bytes are still missing, and the range
the next of them must lie in. -/
structure Partial where
  bits : Nat
  missing : Nat
  low : UInt8
  high : UInt8
  deriving DecidableEq

/-- What a byte means outside a sequence. -/
inductive Lead
  | whole (c : Char)
  | opens (sequence : Partial)
  | stray
  deriving DecidableEq

/-- The second byte's range keeps out overlong forms, surrogates and values past U+10FFFF. -/
def Lead.of (byte : UInt8) : Lead :=
  if byte < 0x80 then .whole (Char.ofNat byte.toNat)
  else if byte < 0xC2 then .stray
  else if byte < 0xE0 then .opens ⟨byte.toNat % 32, 1, 0x80, 0xBF⟩
  else if byte = 0xE0 then .opens ⟨0, 2, 0xA0, 0xBF⟩
  else if byte = 0xED then .opens ⟨13, 2, 0x80, 0x9F⟩
  else if byte < 0xF0 then .opens ⟨byte.toNat % 16, 2, 0x80, 0xBF⟩
  else if byte = 0xF0 then .opens ⟨0, 3, 0x90, 0xBF⟩
  else if byte < 0xF4 then .opens ⟨byte.toNat % 8, 3, 0x80, 0xBF⟩
  else if byte = 0xF4 then .opens ⟨4, 3, 0x80, 0x8F⟩
  else .stray

/-- A piece is a character, or nothing for an ill-formed stretch. -/
abbrev Piece := Option Char

/-- A byte read outside a sequence: the piece it completes, if any, and the sequence it opens. -/
def begin (byte : UInt8) : List Piece × Option Partial :=
  match Lead.of byte with
  | .whole c => ([some c], none)
  | .opens sequence => ([], some sequence)
  | .stray => ([none], none)

/-- One byte more. A byte that cannot go on the sequence under way ends it as ill-formed and is
read again as a first byte. -/
def step : Option Partial → UInt8 → List Piece × Option Partial
  | none, byte => begin byte
  | some sequence, byte =>
    if sequence.low ≤ byte ∧ byte ≤ sequence.high then
      let bits := sequence.bits * 64 + byte.toNat % 64
      if sequence.missing ≤ 1 then ([some (Char.ofNat bits)], none)
      else ([], some ⟨bits, sequence.missing - 1, 0x80, 0xBF⟩)
    else
      let next := begin byte
      (none :: next.1, next.2)

/-- The pieces of a byte string behind those already found, which stand in reverse. A sequence
that the end cuts off is ill-formed. -/
def piecesOnto : List Piece → Option Partial → List UInt8 → List Piece
  | found, none, [] => found.reverse
  | found, some _, [] => (none :: found).reverse
  | found, state, byte :: rest =>
    let next := step state byte
    piecesOnto (next.1.reverse ++ found) next.2 rest

/-- The pieces of a byte string. -/
def pieces (bytes : List UInt8) : List Piece :=
  piecesOnto [] none bytes

/-- The text with U+FFFD for every ill-formed stretch. -/
def decodeLossy (bytes : List UInt8) : String :=
  String.ofList ((pieces bytes).map (·.getD (Char.ofNat 0xFFFD)))

/-- The text, if the bytes are well-formed throughout. -/
def decode? (bytes : List UInt8) : Option String :=
  let found := pieces bytes
  if found.all Option.isSome then some (String.ofList (found.filterMap id)) else none

end BuildStamp.Utf8
