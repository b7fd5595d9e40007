import BuildStamp.Slot.Basic

set_option autoImplicit false

/-!
The build number as foreign callers get it: copied into a buffer of theirs as far as it fits,
always with a NUL behind it, and always reported in full length, so that a caller can tell a cut
copy and ask again.
-/

namespace BuildStamp.Accessor

/-- The version of the calling convention. -/
def abiVersion : Nat := 1

/-- The bytes of a text put into a buffer of which the first `size` bytes may be written. Nothing
is written if there is no room for the NUL. -/
def fill (text : String) (buffer : List UInt8) (size : Nat) : List UInt8 :=
  if size = 0 then buffer
  else
    let copied := (Utf8.encode text).take (size - 1)
    copied ++ 0 :: buffer.drop (copied.length + 1)

/-- What a call answers: the text's full length, and the buffer if one was passed. -/
def copyBuildNumber (text : String) (buffer : Option (List UInt8)) (size : Nat) :
    Nat × Option (List UInt8) :=
  (Utf8.byteLength text, buffer.map fun bytes => fill text bytes size)

/-- The text a foreign caller reads from a buffer: the bytes before its first NUL. -/
def readText (buffer : List UInt8) : List UInt8 :=
  buffer.takeWhile (· ≠ 0)

end BuildStamp.Accessor
