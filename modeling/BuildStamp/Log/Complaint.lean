import BuildStamp.FileSystem.Operation

set_option autoImplicit false

/-!
What a log says about its own troubles, always on the standard error stream: the trouble in one
line, and the page that explains troubles of its kind in the next.
-/

namespace BuildStamp

/-- A trouble of the log: a record is addressed to a writer that there is not, or the log file
cannot be opened. -/
inductive Complaint
  | unknownWriter (name : String)
  | failedWrite (cause : IoError)
  deriving DecidableEq

namespace Complaint

/-- The name of the kind of trouble. -/
def topic : Complaint → String
  | .unknownWriter _ => "WriterSpec"
  | .failedWrite _ => "Write"

/-- The place on the page where the kind of trouble is explained. -/
def anchor : Complaint → String
  | .unknownWriter _ => "writerspec"
  | .failedWrite _ => "write"

/-- The trouble itself. -/
def text : Complaint → String
  | .unknownWriter name => "bad writer spec: " ++ name
  | .failedWrite cause => "writing failed, caused by " ++ cause.detail

/-- The page that explains all kinds of trouble. -/
def page : String :=
  "https://" ++
    "/".intercalate ["docs.rs", "flexi_logger", "latest", "flexi_logger", "error_info", "index.html"]

/-- The two lines of a complaint. -/
def lines (complaint : Complaint) : String :=
  "[flexi_logger][ERRCODE::" ++ complaint.topic ++ "] " ++ complaint.text ++ "\n    See " ++ page ++
    "#" ++ complaint.anchor ++ "\n"

end Complaint

end BuildStamp
