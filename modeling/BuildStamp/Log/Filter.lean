import BuildStamp.Log.Level
import BuildStamp.Pattern.Reader
import BuildStamp.Text.Lowering

set_option autoImplicit false

/-!
Which records a log keeps. A filter is written as rules between commas: the name of a threshold
for all records, the beginning of a module path for all records from there, or both with an equals
sign between them. Behind a slash may stand a pattern that has to occur in the messages. Of all
rules for a module the one with the longest beginning counts.
-/

namespace BuildStamp

/-- The threshold for the records of all modules whose paths begin in one way. -/
structure LogRule where
  beginning : String
  threshold : Threshold
  deriving DecidableEq

namespace LogRule

/-- The threshold of a rule that names none: everything is kept. -/
def openThreshold : Threshold :=
  .upTo .trace

/-- The rule that a text writes. No blank stands inside a module path. A name alone is that of a
threshold in any case of its letters, and else the beginning of a module path. -/
def ofChars? (text : List Char) : Option LogRule :=
  let named? (name : List Char) : Option Threshold :=
    Threshold.ofName? (LowerCase.ofText (String.ofList name))
  match (Parts.split '=' text).map WhiteSpace.trimChars with
  | [name] =>
    if name.any WhiteSpace.isBlank then none
    else
      match named? name with
      | some threshold => some ⟨"", threshold⟩
      | none => some ⟨String.ofList name, openThreshold⟩
  | [beginning, name] =>
    if beginning.any WhiteSpace.isBlank then none
    else if name = [] then some ⟨String.ofList beginning, openThreshold⟩
    else (named? name).map fun threshold => ⟨String.ofList beginning, threshold⟩
  | _ => none

/-- The rule speaks about the records of a module. -/
def covers (rule : LogRule) (modulePath : String) : Bool :=
  rule.beginning.toList.isPrefixOf modulePath.toList

/-- The rules with one more, in front of those with shorter beginnings and behind all others. -/
def place (rule : LogRule) : List LogRule → List LogRule
  | [] => [rule]
  | first :: rest =>
    if first.beginning.utf8ByteSize < rule.beginning.utf8ByteSize then rule :: first :: rest
    else first :: place rule rest

end LogRule

/-- The rules of a log, the longest beginnings first, and the pattern of its messages. -/
structure LogFilter where
  rules : List LogRule
  pattern : Pattern
  deriving DecidableEq

namespace LogFilter

/-- The rules that a text writes between commas, in the order in which they count. -/
def rulesOf? (text : List Char) : Option (List LogRule) :=
  let written := ((Parts.split ',' text).map WhiteSpace.trimChars).filter fun part => part ≠ []
  (written.mapM LogRule.ofChars?).map fun rules =>
    rules.foldl (fun placed rule => rule.place placed) []

/-- The filter that a text writes. -/
def ofText? (text : String) : Option LogFilter :=
  match Parts.split '/' text.toList with
  | [rules] => (rulesOf? rules).map fun rules => ⟨rules, .empty⟩
  | [rules, written] => do return ⟨← rulesOf? rules, ← Pattern.ofText? written⟩
  | _ => none

/-- The threshold for the records of a module. Where no rule speaks about it, nothing is kept. -/
def thresholdFor (filter : LogFilter) (modulePath : String) : Threshold :=
  match filter.rules.find? fun rule => rule.covers modulePath with
  | some rule => rule.threshold
  | none => .off

/-- The threshold that drops what every rule drops. -/
def widest (filter : LogFilter) : Threshold :=
  filter.rules.foldl
    (fun widest rule => if widest.rank < rule.threshold.rank then rule.threshold else widest) .off

/-- A message of some level from some module is kept. -/
def keeps (filter : LogFilter) (modulePath : String) (level : Level) (message : String) : Bool :=
  (filter.thresholdFor modulePath).admits level && filter.pattern.occursIn message.toList

end LogFilter

end BuildStamp
