set_option autoImplicit false

/-!
Text with terminal styles. A styled stretch is written between the sequence that opens its style
and the reset; a reset inside the stretch is followed by the opening sequence again, so that the
style lasts to the stretch's end. Plain, only the texts are written.
-/

namespace BuildStamp.Styled

/-- The character that begins every control sequence of a terminal. -/
def escape : Char :=
  Char.ofNat 0x1B

/-- The styles in use. -/
inductive Style
  | dimmed
  | boldRed
  | yellow
  | green
  | blue
  | magenta
  deriving DecidableEq

/-- The parameters of the sequence that opens a style. -/
def Style.parameters : Style → String
  | .dimmed => "2"
  | .boldRed => "1;31"
  | .yellow => "33"
  | .green => "32"
  | .blue => "34"
  | .magenta => "35"

/-- The sequence that opens a style. -/
def Style.opening (style : Style) : List Char :=
  escape :: '[' :: style.parameters.toList ++ ['m']

/-- The sequence that closes every open style. -/
def reset : List Char :=
  [escape, '[', '0', 'm']

/-- The text with the opening sequence behind every reset in it. -/
def reopen (opening : List Char) : List Char → List Char
  | [] => []
  | a :: '[' :: '0' :: 'm' :: rest =>
    if a = escape then reset ++ opening ++ reopen opening rest
    else a :: '[' :: '0' :: 'm' :: reopen opening rest
  | c :: rest => c :: reopen opening rest

/-- A stretch of text, styled or not. -/
structure Span where
  style : Option Style
  text : String
  deriving DecidableEq

/-- A stretch that no style applies to. -/
def Span.bare (text : String) : Span :=
  ⟨none, text⟩

/-- A stretch in a style. -/
def Span.styled (style : Style) (text : String) : Span :=
  ⟨some style, text⟩

/-- What is written for a stretch where styles are shown. -/
def Span.painted (span : Span) : List Char :=
  match span.style with
  | none => span.text.toList
  | some style => style.opening ++ reopen style.opening span.text.toList ++ reset

/-- A row of stretches with their styles. -/
def painted (spans : List Span) : String :=
  String.ofList (spans.flatMap Span.painted)

/-- A row of stretches without their styles. -/
def plain (spans : List Span) : String :=
  String.ofList (spans.flatMap fun span => span.text.toList)

end BuildStamp.Styled
