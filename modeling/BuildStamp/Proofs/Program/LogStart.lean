import BuildStamp.Proofs.Log.JsonStream
import BuildStamp.Proofs.Program.Outcome
import BuildStamp.Proofs.Settings.Parsing

set_option autoImplicit false

/-!
What a run asks of its logger. Names of levels and layouts come from a flag or from the settings,
each by a check of its own, and every name that passes is one that the logger knows. So the log file
is all that can keep a log from starting, and a log that starts has the layout that was named.
-/

namespace BuildStamp

namespace Settings

end Settings

namespace Artifact

end Artifact

namespace Command

end Command

namespace Logger

variable {request : LogRequest}

end Logger

namespace Settings

variable {explicit : Option Path} {settings : Settings} {machine after : Machine}

end Settings

namespace Program

variable {slot : Slot} {arguments : Arguments} {settings : Settings} {machine : Machine}
  {request : LogRequest}

end Program

end BuildStamp
