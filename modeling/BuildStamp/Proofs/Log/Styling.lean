import BuildStamp.Proofs.Log.JsonStream
import BuildStamp.Proofs.Log.Origin
import BuildStamp.Proofs.Text.Terminal

set_option autoImplicit false

/-!
Log lines with their styles. A line that is painted from spans is, without the style sequences, the
line that is made as a text, and leaves no style open: the lines of a log with styles are shown as
each of them would be alone, and without the sequences they are the log without styles.
-/

namespace BuildStamp

/-- Nothing in the message or the module path of a record begins a control sequence. -/
structure Record.IsFree (record : Record) : Prop where
  message : Styled.escape ∉ record.message.toList
  modulePath : Styled.escape ∉ record.origin.modulePath.toList

theorem Level.text_styledTag (level : Level) : level.styledTag.text = level.tag := by
  cases level <;> rfl

theorem Level.free_tag (level : Level) : Styled.escape ∉ level.tag.toList := by
  cases level <;> decide

theorem Timestamp.free_plain (moment : Timestamp) : Styled.escape ∉ moment.plain.toList := by
  have digits (width n : Nat) : Styled.escape ∉ (Numeral.padded width n).toList := fun member =>
    absurd (Numeral.isDigit_of_mem_padded member) (by decide)
  have marks : Styled.escape ∉ ['-', ' ', ':', '.'] := by decide
  simpa [plain, date, time, digits] using marks

theorem Origin.free_text {origin : Origin} (free : Styled.escape ∉ origin.modulePath.toList) :
    Styled.escape ∉ origin.text.toList := by
  intro member
  obtain path | slash | ending | colon | digit := mem_text member
  · exact free path
  · exact absurd slash (by decide)
  · exact absurd ending (by decide)
  · exact absurd colon (by decide)
  · exact absurd digit (by decide)

namespace Layout

/-- The spans that a line is painted from. A line for programs is one, without a style. -/
def spans (layout : Layout) (moment : Timestamp) (record : Record) : List Styled.Span :=
  match layout with
  | .text => textSpans moment record
  | .extended => extendedSpans moment record
  | .json => [.bare (Json.object (jsonMembers moment record))]

variable {layout : Layout} {record : Record}

theorem line_true (layout : Layout) (moment : Timestamp) (record : Record) :
    layout.line true moment record = Styled.painted (layout.spans moment record) := by
  cases layout with
  | text => rfl
  | extended => rfl
  | json => simp [line, spans, Styled.painted, Styled.Span.painted, Styled.Span.bare]

/-- The two ways in which a line is made differ in nothing but its styles. -/
theorem plain_spans (layout : Layout) (moment : Timestamp) (record : Record) :
    Styled.plain (layout.spans moment record) = layout.line false moment record := by
  cases layout with
  | text =>
      simp only [spans, textSpans, Styled.plain_cons, Styled.plain_nil, Styled.Span.text_bare,
        Styled.Span.text_styled, Level.text_styledTag, line, written, textLine,
        Bool.false_eq_true, if_false, String.append_assoc, String.append_empty]
  | extended =>
      simp only [spans, extendedSpans, Styled.plain_cons, Styled.plain_nil, Styled.Span.text_bare,
        Styled.Span.text_styled, Level.text_styledTag, line, written, extendedLine,
        Bool.false_eq_true, if_false, String.append_assoc, String.append_empty]
  | json => exact (Styled.plain_cons _ []).trans String.append_empty

theorem free_spans (people : layout ≠ .json) (free : record.IsFree) (moment : Timestamp) :
    ∀ span ∈ layout.spans moment record, Styled.escape ∉ span.text.toList := by
  have time := moment.free_plain
  have tag := record.level.free_tag
  have origin := Origin.free_text free.modulePath
  have marks : ∀ mark ∈ [" ", " (", ")"], Styled.escape ∉ mark.toList := by decide
  rw [← Level.text_styledTag] at tag
  simp only [List.forall_mem_cons] at marks
  obtain ⟨blank, opening, closing, -⟩ := marks
  cases layout with
  | text =>
      simp only [spans, textSpans, List.forall_mem_cons]
      exact ⟨time, blank, tag, blank, free.message, nofun⟩
  | extended =>
      simp only [spans, extendedSpans, List.forall_mem_cons]
      exact ⟨time, blank, tag, blank, free.message, opening, origin, closing, nofun⟩
  | json => exact absurd rfl people

section Free

variable (people : layout ≠ .json) (free : record.IsFree) (moment : Timestamp)
include people free

theorem bared_line :
    Styled.bared (layout.line true moment record) = layout.line false moment record := by
  rw [line_true, Styled.bared_painted (free_spans people free moment), plain_spans]

theorem displayed_line :
    Styled.displayed (layout.line true moment record) =
      (layout.spans moment record).flatMap Styled.Span.meant := by
  rw [line_true, Styled.displayed_painted (free_spans people free moment)]

theorem isSealed_line : Styled.IsSealed (layout.line true moment record) := by
  rw [line_true]
  exact Styled.isSealed_painted (free_spans people free moment)

end Free

end Layout

namespace Logger

variable {logger : Logger}

theorem styled_of_start {files made : FileSystem} {environment : Environment}
    {request : LogRequest}
    (started : start files environment request = (.ok logger, made)) :
    logger.styled = (request.color && environment.forcesStyles) := by
  obtain ⟨filter, sink, rfl⟩ := assembled_of_start started
  rfl

/-- The same logger with styles, or without. -/
def withStyles (logger : Logger) (styled : Bool) : Logger :=
  { logger with styled }

theorem addition_withStyles (logger : Logger) (styled : Bool) (entry : LogEntry) :
    (logger.withStyles styled).addition entry =
      if logger.keeps entry.record then
        logger.layout.line styled entry.moment entry.record ++ "\n"
      else "" := rfl

theorem free_lineEnd : Styled.escape ∉ "\n".toList := by
  decide

/-- What a record adds to a log with styles is, bared, what it adds to the log without them. -/
theorem bared_addition (people : logger.layout ≠ .json) {entry : LogEntry}
    (free : entry.record.IsFree) :
    Styled.bared ((logger.withStyles true).addition entry) =
      (logger.withStyles false).addition entry := by
  rw [addition_withStyles, addition_withStyles]
  split
  · rw [(Layout.isSealed_line people free _).bared_append, Layout.bared_line people free,
      Styled.bared_of_free free_lineEnd]
  · rfl

theorem isSealed_addition (people : logger.layout ≠ .json) {entry : LogEntry}
    (free : entry.record.IsFree) :
    Styled.IsSealed ((logger.withStyles true).addition entry) := by
  rw [addition_withStyles]
  split
  · exact (Layout.isSealed_line people free _).append (.of_free free_lineEnd)
  · exact .of_free List.not_mem_nil

/-- A whole log with styles is, bared, the log without them, and each of its records is shown as it
would be alone. -/
theorem styled_log (people : logger.layout ≠ .json) {entries : List LogEntry}
    (free : ∀ entry ∈ entries, entry.record.IsFree) :
    let styled := entries.map (logger.withStyles true).addition
    Styled.bared (String.join styled) =
        String.join (entries.map (logger.withStyles false).addition) ∧
      Styled.displayed (String.join styled) = styled.flatMap Styled.displayed := by
  intro styled
  have closed : ∀ text ∈ styled, Styled.IsSealed text := by
    intro text member
    obtain ⟨entry, among, rfl⟩ := List.mem_map.mp member
    exact isSealed_addition people (free entry among)
  have texts : styled.map Styled.bared = entries.map (logger.withStyles false).addition := by
    rw [List.map_map]
    exact List.map_congr_left fun entry among => bared_addition people (free entry among)
  exact ⟨(Styled.IsSealed.bared_join closed).trans (congrArg String.join texts),
    Styled.IsSealed.displayed_join closed⟩

end Logger

namespace Layout

variable {layout : Layout} {record : Record}

/-- A line for people with styles is the line without them but for the style sequences. None of them
joins with anything in the message or the origin, every span has its own style and no other, and no
style lasts beyond the line: whatever comes next is shown as it would be alone. A logger writes the
line with styles if they are asked for and the environment lets them, and else the line without. So
a whole log with styles is, without the sequences, the log without styles, and each of its records
is shown as it would be alone. -/
theorem styled_line_shows_plain (people : layout ≠ .json) (free : record.IsFree)
    (moment : Timestamp) :
    let text := layout.line false moment record
    let styled := layout.line true moment record
    let spans := layout.spans moment record
    styled = Styled.painted spans ∧ text = Styled.plain spans ∧
      Styled.bared styled = text ∧ Styled.displayed styled = spans.flatMap Styled.Span.meant ∧
      Styled.stylesBehind [] (Styled.tokens styled.toList) = [] ∧
      (∀ later, Styled.bared (styled ++ later) = text ++ Styled.bared later ∧
        Styled.displayed (styled ++ later) =
          Styled.displayed styled ++ Styled.displayed later) ∧
      (∀ files environment request logger made,
        Logger.start files environment request = (.ok logger, made) → logger.layout = layout →
          logger.line moment record =
            (if request.color && environment.forcesStyles then styled else text) ++ "\n") ∧
      ∀ (logger : Logger) (entries : List LogEntry), logger.layout = layout →
        (∀ entry ∈ entries, entry.record.IsFree) →
          let additions := entries.map (logger.withStyles true).addition
          Styled.bared (String.join additions) =
              String.join (entries.map (logger.withStyles false).addition) ∧
            Styled.displayed (String.join additions) = additions.flatMap Styled.displayed := by
  intro text styled spans
  have bared : Styled.bared styled = text := bared_line people free moment
  have closed : Styled.IsSealed styled := isSealed_line people free moment
  refine ⟨line_true layout moment record, (plain_spans layout moment record).symm, bared,
    displayed_line people free moment, closed.closed,
    fun later => ⟨?_, closed.displayed_append later⟩, ?_,
    fun logger entries same free => Logger.styled_log (same ▸ people) free⟩
  · rw [closed.bared_append, bared]
  · intro files environment request logger made started same
    rw [Logger.line, Logger.styled_of_start started, same]
    cases request.color && environment.forcesStyles with
    | false => rfl
    | true => rfl

/-- A record whose message reads as sequences without their escape characters. -/
def bracketed : Record :=
  ⟨.error, ⟨"buildversion::slot::search", some 7⟩, "[0m1;31m[2m;3"⟩

/-- A log for people with origins and styles. -/
def colorful : LogRequest :=
  ⟨none, some "ext", none, true⟩

theorem styled_line_shows_plain_of_bracketed :
    let text := "1970-01-01 00:00:00.000 ERR [0m1;31m[2m;3 (slot/search.rs:7)"
    let styled := "\x1b[2m1970-01-01 00:00:00.000\x1b[0m \x1b[1;31mERR\x1b[0m [0m1;31m[2m;3 " ++
      "(\x1b[2mslot/search.rs:7\x1b[0m)"
    Layout.extended ≠ .json ∧ bracketed.IsFree ∧ Styled.bared styled = text ∧
      Styled.stylesBehind [] (Styled.tokens styled.toList) = [] ∧
      Styled.bared (styled ++ "\n" ++ styled) = text ++ "\n" ++ text ∧
      ∃ plain painted,
        Logger.start ⟨[], []⟩ ⟨[]⟩ colorful = (.ok plain, ⟨[], []⟩) ∧
        Logger.start ⟨[], []⟩ ⟨[("CLICOLOR_FORCE", "1")]⟩ colorful = (.ok painted, ⟨[], []⟩) ∧
        plain.line (.ofMilliseconds 0) bracketed = text ++ "\n" ∧
        painted.line (.ofMilliseconds 0) bracketed = styled ++ "\n" := by
  intro text styled
  have people : Layout.extended ≠ .json := by decide
  have free : bracketed.IsFree := ⟨by decide, by decide⟩
  have outcome := styled_line_shows_plain people free (.ofMilliseconds 0)
  have sameText : Layout.extended.line false (.ofMilliseconds 0) bracketed = text := by
    decide +kernel
  have sameStyled : Layout.extended.line true (.ofMilliseconds 0) bracketed = styled := by
    decide +kernel
  simp only [sameText, sameStyled] at outcome
  obtain ⟨-, -, bared, -, closed, later, lines, -⟩ := outcome
  have named : Threshold.ofName? (colorful.level.getD Threshold.defaultName) =
      some (.upTo .warn) := by decide
  have plain := Logger.start_of_standardError named rfl ⟨[], []⟩ ⟨[]⟩
  have painted := Logger.start_of_standardError named rfl ⟨[], []⟩ ⟨[("CLICOLOR_FORCE", "1")]⟩
  refine ⟨people, free, bared, closed, ?_, _, _, plain, painted,
    lines _ _ _ _ _ plain rfl, lines _ _ _ _ _ painted rfl⟩
  have ending : Styled.bared ("\n" ++ styled) = "\n" ++ text := by
    rw [(Styled.IsSealed.of_free Logger.free_lineEnd).bared_append,
      Styled.bared_of_free Logger.free_lineEnd, bared]
  rw [String.append_assoc, (later _).1, ending, String.append_assoc]

end Layout

end BuildStamp
