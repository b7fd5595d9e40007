import BuildStamp.Text.Styled

set_option autoImplicit false

/-!
How grave a log record is, and the threshold below which records are dropped.
-/

namespace BuildStamp

/-- The gravity of a record, the gravest first. -/
inductive Level
  | error
  | warn
  | info
  | debug
  | trace
  deriving DecidableEq

namespace Level

/-- The place of a level in the order of decreasing gravity. -/
def rank : Level → Nat
  | .error => 1
  | .warn => 2
  | .info => 3
  | .debug => 4
  | .trace => 5

/-- The three letters that stand for a level in a log line. -/
def tag : Level → String
  | .error => "ERR"
  | .warn => "WRN"
  | .info => "INF"
  | .debug => "DBG"
  | .trace => "TRC"

/-- The three letters where styles are asked for, each level in its own style. -/
def styledTag : Level → Styled.Span
  | .error => .styled .boldRed "ERR"
  | .warn => .styled .yellow "WRN"
  | .info => .styled .green "INF"
  | .debug => .styled .blue "DBG"
  | .trace => .styled .magenta "TRC"

end Level

/-- The least grave level that is still recorded, if any is. -/
inductive Threshold
  | off
  | upTo (level : Level)
  deriving DecidableEq

namespace Threshold

/-- Every threshold under the name it is chosen by, in the order shown to users. -/
def table : List (String × Threshold) :=
  [("trace", .upTo .trace), ("debug", .upTo .debug), ("info", .upTo .info),
    ("warn", .upTo .warn), ("error", .upTo .error), ("off", .off)]

/-- The names by which a threshold is chosen. -/
def names : List String :=
  table.map (·.1)

/-- The threshold of a name. -/
def ofName? (name : String) : Option Threshold :=
  table.lookup name

/-- The name of the threshold that holds where none is chosen. -/
def defaultName : String :=
  "warn"

/-- The number of levels that are recorded. -/
def rank : Threshold → Nat
  | .off => 0
  | .upTo level => level.rank

/-- A record of the level is kept. -/
def admits (threshold : Threshold) (level : Level) : Bool :=
  match threshold with
  | .off => false
  | .upTo last => level.rank ≤ last.rank

end Threshold

end BuildStamp
