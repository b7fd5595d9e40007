import BuildStamp.Log.Record
import BuildStamp.Log.Timestamp
import BuildStamp.Text.Json

set_option autoImplicit false

/-!
The three layouts of a log line. Each of the two for people is made in two ways, as a text and,
where styles are written, as a row of spans; the one for programs is a flat JSON object.
-/

namespace BuildStamp

/-- How a record becomes a line. -/
inductive Layout
  | text
  | extended
  | json
  deriving DecidableEq

namespace Layout

/-- The names by which a layout is chosen. -/
def names : List String :=
  ["text", "ext", "json"]

/-- The layout of a name. Anything that names no other layout means the plain one. -/
def ofName (name : String) : Layout :=
  if name = "json" then .json else if name = "ext" then .extended else .text

/-- The name of the layout that holds where none is chosen. -/
def defaultName : String :=
  "text"

/-- A line for people: time, level and message. -/
def textLine (moment : Timestamp) (record : Record) : String :=
  moment.plain ++ " " ++ record.level.tag ++ " " ++ record.message

/-- The spans of a line for people. -/
def textSpans (moment : Timestamp) (record : Record) : List Styled.Span :=
  [.styled .dimmed moment.plain, .bare " ", record.level.styledTag, .bare " ",
    .bare record.message]

/-- A line for people with the record's origin between parentheses at the end. -/
def extendedLine (moment : Timestamp) (record : Record) : String :=
  moment.plain ++ " " ++ record.level.tag ++ " " ++ record.message ++
    " (" ++ record.origin.text ++ ")"

/-- The spans of a line for people with the record's origin. -/
def extendedSpans (moment : Timestamp) (record : Record) : List Styled.Span :=
  [.styled .dimmed moment.plain, .bare " ", record.level.styledTag, .bare " ",
    .bare record.message, .bare " (", .styled .dimmed record.origin.text, .bare ")"]

/-- The members of a line for programs, in the order of their names. -/
def jsonMembers (moment : Timestamp) (record : Record) : List (String × String) :=
  [("level", record.level.tag), ("message", record.message), ("target", record.origin.text),
    ("timestamp", moment.compact)]

/-- A line of which there is a text and a row of spans. The text is what the spans show without
their styles. -/
def written (styled : Bool) (text : String) (spans : List Styled.Span) : String :=
  if styled then Styled.painted spans else text

/-- The line of a record, without its end. Lines for programs have no styles. -/
def line (layout : Layout) (styled : Bool) (moment : Timestamp) (record : Record) : String :=
  match layout with
  | .text => written styled (textLine moment record) (textSpans moment record)
  | .extended => written styled (extendedLine moment record) (extendedSpans moment record)
  | .json => Json.object (jsonMembers moment record)

end Layout

end BuildStamp
