import QueryGate.Main
import QueryGate.Proofs.Text.Blanks
import QueryGate.Proofs.Text.Words
import QueryGate.Proofs.Text.Nesting
import QueryGate.Proofs.Admission.Reading
import QueryGate.Proofs.Admission.Layers
import QueryGate.Proofs.Admission.Tables
import QueryGate.Proofs.Admission.Verdict
import QueryGate.Proofs.Admission.Exact
import QueryGate.Proofs.Admission.NamedTables
import QueryGate.Proofs.Admission.Rewriting
import QueryGate.Proofs.Admission.Cap
import QueryGate.Proofs.Admission.Variation
import QueryGate.Proofs.Text.LetterCase
import QueryGate.Proofs.Admission.LetterCase
import QueryGate.Proofs.Admission.Verbatim
import QueryGate.Proofs.Admission.Revalidation
import QueryGate.Proofs.Execution.Plans
import QueryGate.Proofs.Execution.Events
import QueryGate.Proofs.Execution.Standing
import QueryGate.Proofs.Execution.Workers
import QueryGate.Proofs.Execution.Concurrent
import QueryGate.Proofs.Execution.Shifts
import QueryGate.Proofs.Execution.Settling
import QueryGate.Proofs.Execution.Batch
import QueryGate.Proofs.Execution.Batch.Clock
import QueryGate.Proofs.Execution.Batch.Endings
import QueryGate.Proofs.Service.Comparison
import QueryGate.Proofs.Disk.Files
import QueryGate.Proofs.History.Newest
import QueryGate.Proofs.History.Retention
import QueryGate.Proofs.History.Recovery
import QueryGate.Proofs.History.Race.Shared
import QueryGate.Proofs.History.Race.Outcome
import QueryGate.Proofs.Service.Recording
import QueryGate.Proofs.Disk.Ways
import QueryGate.Proofs.History.Openings
import QueryGate.Proofs.Sample.Claims
import QueryGate.Proofs.Sample.Shop
import QueryGate.Proofs.Disk.Holding
import QueryGate.Proofs.History.Backups
import QueryGate.Proofs.Sandbox.Rollback
import QueryGate.Proofs.Server.Clients
import QueryGate.Proofs.Connection.RoundTrip
import QueryGate.Proofs.Settings.Precedence
import QueryGate.Proofs.Sandbox.Planning
import QueryGate.Proofs.Program.Unseen
import QueryGate.Proofs.Value.Counts
import QueryGate.Proofs.Value.Reduction
import QueryGate.Proofs.Value.PlanText
import QueryGate.Proofs.Sample.Columns
import QueryGate.Proofs.Execution.Probes
import QueryGate.Proofs.History.Resuming
import QueryGate.Proofs.Server.Cells
