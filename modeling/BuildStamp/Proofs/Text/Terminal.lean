import BuildStamp.Text.Styled

set_option autoImplicit false

/-!
Styled text as a terminal takes it: characters to show, and between them style sequences, which are
not shown but settle the styles of what follows until the next reset. A row of stretches without
escape characters is taken as it was meant: bared of its sequences it is the plain text, and it is
sealed: behind it no style is in force, so that what comes next is shown as it would be alone.
-/

namespace BuildStamp.Styled

/-- A character to show, or a style sequence with what stands between its bracket and its final
letter. -/
inductive Token
  | shown (c : Char)
  | sequence (parameters : List Char)
  deriving DecidableEq

/-- A character that may stand between the bracket and the final letter of a style sequence. -/
def isParameter (c : Char) : Bool :=
  c.isDigit || c == ';'

/-- The parameters of the style sequence that a text begins with. -/
def sequence? : List Char → Option (List Char)
  | a :: '[' :: rest =>
    if a = escape ∧ (rest.dropWhile isParameter).head? = some 'm' then
      some (rest.takeWhile isParameter)
    else none
  | _ => none

/-- The tokens of a text behind as many characters as a sequence still has. -/
def tokensBehind : Nat → List Char → List Token
  | _, [] => []
  | left + 1, _ :: rest => tokensBehind left rest
  | 0, c :: rest =>
    match sequence? (c :: rest) with
    | some parameters => .sequence parameters :: tokensBehind (parameters.length + 2) rest
    | none => .shown c :: tokensBehind 0 rest

/-- The tokens of a text. -/
def tokens (text : List Char) : List Token :=
  tokensBehind 0 text

/-- The character that a token shows. -/
def Token.char? : Token → Option Char
  | .shown c => some c
  | .sequence _ => none

/-- The text without its style sequences. -/
def bared (text : String) : String :=
  String.ofList ((tokens text.toList).filterMap Token.char?)

/-- The styles in force behind a token, by the parameters of the sequences that opened them. Without
parameters a sequence is a reset, too. -/
def Token.stylesBehind (styles : List (List Char)) : Token → List (List Char)
  | .shown _ => styles
  | .sequence parameters =>
    if parameters = [] ∨ parameters = ['0'] then [] else styles ++ [parameters]

/-- The styles in force behind tokens. -/
def stylesBehind (styles : List (List Char)) (row : List Token) : List (List Char) :=
  row.foldl Token.stylesBehind styles

/-- Every character that tokens show, with the styles it is shown in. -/
def display : List (List Char) → List Token → List (Char × List (List Char))
  | _, [] => []
  | styles, .shown c :: rest => (c, styles) :: display styles rest
  | styles, .sequence parameters :: rest =>
    display (Token.stylesBehind styles (.sequence parameters)) rest

/-- What a terminal shows of a text if no style is in force in front of it. -/
def displayed (text : String) : List (Char × List (List Char)) :=
  display [] (tokens text.toList)

theorem stylesBehind_append (styles : List (List Char)) (front back : List Token) :
    stylesBehind styles (front ++ back) = stylesBehind (stylesBehind styles front) back :=
  List.foldl_append

theorem display_append (styles : List (List Char)) (front back : List Token) :
    display styles (front ++ back) =
      display styles front ++ display (stylesBehind styles front) back := by
  induction front generalizing styles with
  | nil => rfl
  | cons token front ih =>
      cases token with
      | shown c =>
          rw [List.cons_append, display, ih, display, List.cons_append]
          rfl
      | sequence parameters =>
          rw [List.cons_append, display, ih, display]
          rfl

theorem stylesBehind_reset (styles : List (List Char)) :
    stylesBehind styles [.sequence ['0']] = [] := by
  simp [stylesBehind, Token.stylesBehind]

theorem filterMap_shown (text : List Char) :
    (text.map Token.shown).filterMap Token.char? = text := by
  rw [List.filterMap_map]
  exact List.filterMap_some

theorem stylesBehind_shown (styles : List (List Char)) (text : List Char) :
    stylesBehind styles (text.map .shown) = styles := by
  induction text with
  | nil => rfl
  | cons c text ih => exact ih

theorem display_shown (styles : List (List Char)) (text : List Char) :
    display styles (text.map .shown) = text.map fun c => (c, styles) := by
  induction text with
  | nil => rfl
  | cons c text ih => exact congrArg ((c, styles) :: ·) ih

theorem tokens_nil : tokens [] = [] := rfl

theorem sequence?_of_free {c : Char} (other : c ≠ escape) (rest : List Char) :
    sequence? (c :: rest) = none := by
  rw [sequence?.eq_def]
  split
  · rename_i same
    cases same
    rw [if_neg (fun both => other both.1)]
  · rfl

theorem tokensBehind_append (front rest : List Char) :
    tokensBehind front.length (front ++ rest) = tokens rest := by
  induction front with
  | nil => rfl
  | cons c front ih =>
      rw [List.cons_append, List.length_cons, tokensBehind]
      exact ih

/-- Text without escape characters is shown as it is. -/
theorem tokens_append_of_free {text : List Char} (free : escape ∉ text) (rest : List Char) :
    tokens (text ++ rest) = text.map .shown ++ tokens rest := by
  induction text with
  | nil => rfl
  | cons c text ih =>
      rw [List.mem_cons, not_or] at free
      rw [List.cons_append, tokens, tokensBehind, sequence?_of_free (Ne.symm free.1)]
      exact congrArg (Token.shown c :: ·) (ih free.2)

theorem tokens_of_free {text : List Char} (free : escape ∉ text) :
    tokens text = text.map .shown := by
  have alone := tokens_append_of_free free []
  rwa [List.append_nil, tokens_nil, List.append_nil] at alone

theorem bared_of_free {text : String} (free : escape ∉ text.toList) : bared text = text := by
  rw [bared, tokens_of_free free, filterMap_shown, String.ofList_toList]

/-- Whatever comes next, a text is taken as it is alone, and no style is in force behind it. -/
structure IsSealed (text : String) : Prop where
  taken : ∀ later, tokens (text.toList ++ later) = tokens text.toList ++ tokens later
  closed : stylesBehind [] (tokens text.toList) = []

namespace IsSealed

variable {text other : String} {texts : List String}

theorem of_free (free : escape ∉ text.toList) : IsSealed text := by
  constructor
  · intro later
    rw [tokens_append_of_free free, tokens_of_free free]
  · rw [tokens_of_free free, stylesBehind_shown]

theorem append (first : IsSealed text) (second : IsSealed other) : IsSealed (text ++ other) := by
  constructor
  · intro later
    rw [String.toList_append, List.append_assoc, first.taken, second.taken, first.taken,
      List.append_assoc]
  · rw [String.toList_append, first.taken, stylesBehind_append, first.closed, second.closed]

theorem bared_append (first : IsSealed text) (later : String) :
    bared (text ++ later) = bared text ++ bared later := by
  rw [bared, String.toList_append, first.taken, List.filterMap_append, String.ofList_append]
  rfl

/-- What comes behind a sealed text is shown as it would be alone. -/
theorem displayed_append (first : IsSealed text) (later : String) :
    displayed (text ++ later) = displayed text ++ displayed later := by
  rw [displayed, String.toList_append, first.taken, display_append, first.closed]
  rfl

theorem bared_join (all : ∀ text ∈ texts, IsSealed text) :
    bared (String.join texts) = String.join (texts.map bared) := by
  induction texts with
  | nil => rfl
  | cons text texts ih =>
      have others := ih fun other member => all other (List.mem_cons_of_mem text member)
      rw [String.join_cons, (all text List.mem_cons_self).bared_append, others, List.map_cons,
        String.join_cons]

theorem displayed_join (all : ∀ text ∈ texts, IsSealed text) :
    displayed (String.join texts) = texts.flatMap displayed := by
  induction texts with
  | nil => rfl
  | cons text texts ih =>
      have others := ih fun other member => all other (List.mem_cons_of_mem text member)
      rw [String.join_cons, (all text List.mem_cons_self).displayed_append, others,
        List.flatMap_cons]

end IsSealed

theorem takeWhile_parameters {parameters : List Char}
    (all : ∀ c ∈ parameters, isParameter c = true) (rest : List Char) :
    (parameters ++ 'm' :: rest).takeWhile isParameter = parameters ∧
      (parameters ++ 'm' :: rest).dropWhile isParameter = 'm' :: rest := by
  have final : isParameter 'm' = false := by decide
  constructor
  · rw [List.takeWhile_append_of_pos all, List.takeWhile_cons_of_neg (by simp [final]),
      List.append_nil]
  · rw [List.dropWhile_append_of_pos all, List.dropWhile_cons_of_neg (by simp [final])]

/-- A whole style sequence is taken for one. -/
theorem tokens_sequence {parameters : List Char} (all : ∀ c ∈ parameters, isParameter c = true)
    (rest : List Char) :
    tokens (escape :: '[' :: parameters ++ 'm' :: rest) =
      .sequence parameters :: tokens rest := by
  obtain ⟨taken, left⟩ := takeWhile_parameters all rest
  have found : sequence? (escape :: '[' :: (parameters ++ 'm' :: rest)) = some parameters := by
    rw [sequence?, left, taken, if_pos ⟨rfl, rfl⟩]
  have whole : '[' :: (parameters ++ 'm' :: rest) = ('[' :: parameters ++ ['m']) ++ rest := by
    simp
  have length : parameters.length + 2 = ('[' :: parameters ++ ['m']).length := by
    simp
  rw [List.cons_append, List.cons_append, tokens, tokensBehind, found]
  simp only
  rw [whole, length, tokensBehind_append]

/-- A text without resets needs no style opened again. -/
theorem reopen_of_free (opening : List Char) {text : List Char} (free : escape ∉ text) :
    reopen opening text = text := by
  fun_induction reopen opening text with
  | case1 => rfl
  | case2 rest ih => exact absurd List.mem_cons_self free
  | case3 a rest other ih =>
      have inner : escape ∉ rest := by
        simp only [List.mem_cons, not_or] at free
        exact free.2.2.2.2
      rw [ih inner]
  | case4 c rest other ih => rw [ih (fun member => free (List.mem_cons_of_mem c member))]

theorem Style.parameters_all (style : Style) :
    ∀ c ∈ style.parameters.toList, isParameter c = true := by
  rw [← List.all_eq_true]
  cases style <;> decide

theorem Style.parameters_ne (style : Style) :
    ¬ (style.parameters.toList = [] ∨ style.parameters.toList = ['0']) := by
  cases style <;> decide

theorem plain_cons (span : Span) (spans : List Span) :
    plain (span :: spans) = span.text ++ plain spans := by
  simp [plain]

theorem plain_nil : plain [] = "" := rfl

namespace Span

theorem text_bare (text : String) : (bare text).text = text := rfl

theorem text_styled (style : Style) (text : String) : (styled style text).text = text := rfl

/-- The tokens that are written for a stretch. -/
def written (span : Span) : List Token :=
  match span.style with
  | none => span.text.toList.map .shown
  | some style =>
    .sequence style.parameters.toList :: span.text.toList.map .shown ++ [.sequence ['0']]

/-- A stretch as it is meant: every character in the style of the stretch. -/
def meant (span : Span) : List (Char × List (List Char)) :=
  span.text.toList.map fun c => (c, span.style.toList.map fun style => style.parameters.toList)

theorem tokens_painted_append {span : Span} (free : escape ∉ span.text.toList) (rest : List Char) :
    tokens (span.painted ++ rest) = span.written ++ tokens rest := by
  obtain ⟨style, text⟩ := span
  cases style with
  | none => exact tokens_append_of_free free rest
  | some style =>
      have reset : tokens (Styled.reset ++ rest) = .sequence ['0'] :: tokens rest :=
        @tokens_sequence ['0'] (List.all_eq_true.mp rfl) rest
      have inner := tokens_append_of_free free (Styled.reset ++ rest)
      have opening := tokens_sequence style.parameters_all (text.toList ++ (Styled.reset ++ rest))
      rw [inner, reset] at opening
      simpa [painted, reopen_of_free _ free, Style.opening, written] using opening

theorem filterMap_written (span : Span) :
    span.written.filterMap Token.char? = span.text.toList := by
  obtain ⟨style, text⟩ := span
  cases style with
  | none => exact filterMap_shown text.toList
  | some style =>
      change List.filterMap Token.char? (text.toList.map .shown ++ [.sequence ['0']]) = text.toList
      rw [List.filterMap_append, filterMap_shown]
      exact List.append_nil _

theorem stylesBehind_written (span : Span) : stylesBehind [] span.written = [] := by
  obtain ⟨style, text⟩ := span
  cases style with
  | none => exact stylesBehind_shown [] text.toList
  | some style =>
      change stylesBehind [] ((_ :: text.toList.map .shown) ++ [.sequence ['0']]) = []
      rw [stylesBehind_append, stylesBehind_reset]

theorem display_written (span : Span) : display [] span.written = span.meant := by
  obtain ⟨style, text⟩ := span
  cases style with
  | none => exact display_shown [] text.toList
  | some style =>
      have opened : Token.stylesBehind [] (.sequence style.parameters.toList) =
          [style.parameters.toList] := if_neg style.parameters_ne
      change display (Token.stylesBehind [] (.sequence style.parameters.toList))
        (text.toList.map .shown ++ [.sequence ['0']]) = _
      rw [opened, display_append, display_shown]
      exact List.append_nil _

end Span

theorem stylesBehind_flatMap (spans : List Span) :
    stylesBehind [] (spans.flatMap Span.written) = [] := by
  induction spans with
  | nil => rfl
  | cons span spans ih =>
      rw [List.flatMap_cons, stylesBehind_append, span.stylesBehind_written, ih]

theorem display_flatMap (spans : List Span) :
    display [] (spans.flatMap Span.written) = spans.flatMap Span.meant := by
  induction spans with
  | nil => rfl
  | cons span spans ih =>
      rw [List.flatMap_cons, display_append, span.stylesBehind_written, span.display_written, ih,
        List.flatMap_cons]

section Painted

variable {spans : List Span} (free : ∀ span ∈ spans, escape ∉ span.text.toList)
include free

/-- A row of stretches is taken for what is written of each, one by one. -/
theorem tokens_painted_append (later : List Char) :
    tokens ((painted spans).toList ++ later) = spans.flatMap Span.written ++ tokens later := by
  rw [painted, String.toList_ofList]
  induction spans with
  | nil => rfl
  | cons span spans ih =>
      have first := free span List.mem_cons_self
      have others := ih fun other member => free other (List.mem_cons_of_mem span member)
      rw [List.flatMap_cons, List.append_assoc, Span.tokens_painted_append first, others,
        List.flatMap_cons, List.append_assoc]

theorem tokens_painted : tokens (painted spans).toList = spans.flatMap Span.written := by
  have row := tokens_painted_append free []
  rwa [List.append_nil, tokens_nil, List.append_nil] at row

/-- Bared, a row of stretches is its plain text. -/
theorem bared_painted : bared (painted spans) = plain spans := by
  rw [bared, tokens_painted free, List.filterMap_flatMap]
  exact congrArg String.ofList (congrArg spans.flatMap (funext Span.filterMap_written))

/-- A row of stretches is shown as it is meant. -/
theorem displayed_painted : displayed (painted spans) = spans.flatMap Span.meant := by
  rw [displayed, tokens_painted free, display_flatMap]

theorem isSealed_painted : IsSealed (painted spans) where
  taken later := by rw [tokens_painted_append free, tokens_painted free]
  closed := by rw [tokens_painted free, stylesBehind_flatMap]

end Painted

end BuildStamp.Styled
