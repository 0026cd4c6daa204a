import Checkpointing.Barrier.Json
import Checkpointing.Main
import Checkpointing.Session
import Checkpointing.Proofs.Config.Approach
import Checkpointing.Proofs.Config.Snapshot
import Checkpointing.Proofs.Numeral
import Checkpointing.Proofs.Options.Denotation
import Checkpointing.Proofs.Options.Batch
import Checkpointing.Proofs.Options.Merging
import Checkpointing.Proofs.Options.Totality
import Checkpointing.Proofs.Duration.Overflow
import Checkpointing.Proofs.Duration.Span
import Checkpointing.Proofs.Duration.Text
import Checkpointing.Proofs.Json.Consumption
import Checkpointing.Proofs.Json.Grammar
import Checkpointing.Proofs.Json.Members
import Checkpointing.Proofs.Json.Passing
import Checkpointing.Proofs.Json.Record
import Checkpointing.Proofs.Session.Coherence
import Checkpointing.Proofs.Session.InPlace
import Checkpointing.Proofs.Session.Reachability
import Checkpointing.Proofs.Session.Thinning
import Checkpointing.Proofs.Options.Rendering
import Checkpointing.Proofs.Json.Object
import Checkpointing.Proofs.Json.RoundTrip
import Checkpointing.Proofs.Json.Printed
import Checkpointing.Proofs.Options.Blame
import Checkpointing.Proofs.Session.Agreement
import Checkpointing.Proofs.Session.Dependence
import Checkpointing.Proofs.Options.Planning
import Checkpointing.Proofs.Report.Json
import Checkpointing.Proofs.Report.Table
import Checkpointing.Proofs.CommandLine.Verdict
import Checkpointing.Proofs.Session.Reapplication
import Checkpointing.Proofs.Session.Barriers
import Checkpointing.Proofs.Session.PauseWarning
import Checkpointing.Proofs.Options.FirstFailure
import Checkpointing.Proofs.Options.Single
import Checkpointing.Proofs.Options.Millis
import Checkpointing.Proofs.Options.Units
import Checkpointing.Proofs.OptionsFile
import Checkpointing.Proofs.Options.Number
import Checkpointing.Proofs.Options.Log
import Checkpointing.Proofs.Options.Reporting
import Checkpointing.Proofs.Options.StaleWarning
import Checkpointing.Proofs.Text.Label
