import BuildStamp.Main
import BuildStamp.Property.Session
import BuildStamp.Script.Machine
import BuildStamp.Slot.Accessor
import BuildStamp.Proofs.Slot.Relabelling
import BuildStamp.Proofs.Slot.Readback
import BuildStamp.Proofs.FileSystem.Changes
import BuildStamp.Proofs.Artifact.Course
import BuildStamp.Proofs.Artifact.Replacement
import BuildStamp.Proofs.Program.InjectCommand
import BuildStamp.Proofs.Artifact.Failure
import BuildStamp.Proofs.CommandLine.Acceptance
import BuildStamp.Proofs.Log.Start
import BuildStamp.Proofs.Settings.Discovery
import BuildStamp.Proofs.Program.Execution
import BuildStamp.Proofs.Program.Course
import BuildStamp.Proofs.Program.Outcome
import BuildStamp.Proofs.Property.History
import BuildStamp.Proofs.Property.Interleaving
import BuildStamp.Proofs.Artifact.Interruption
import BuildStamp.Proofs.Property.Serial
import BuildStamp.Proofs.Log.JsonStream
import BuildStamp.Proofs.Program.Precedence
import BuildStamp.Proofs.Slot.Places
import BuildStamp.Proofs.Slot.Capacities
import BuildStamp.Proofs.Slot.Truncation
import BuildStamp.Proofs.Slot.Buffer
import BuildStamp.Proofs.Settings.Parsing
import BuildStamp.Proofs.Artifact.ValueFile
import BuildStamp.Proofs.Program.ConfiguredText
import BuildStamp.Proofs.Program.LogStart
import BuildStamp.Proofs.CommandLine.RoundTrip
import BuildStamp.Proofs.Settings.LevelNames
import BuildStamp.Proofs.Log.Styling
import BuildStamp.Proofs.Log.ModulePath
import BuildStamp.Proofs.Log.Calls
