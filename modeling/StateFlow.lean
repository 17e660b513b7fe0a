import StateFlow.CommandLine
import StateFlow.Engine
import StateFlow.Execution.Report
import StateFlow.Log.Output
import StateFlow.Machine.Load
import StateFlow.Main
import StateFlow.Metrics.Configuration
import StateFlow.Path.Result
import StateFlow.Rule.Evaluate
import StateFlow.Simulation
import StateFlow.Task.Invoker
import StateFlow.Worker.Samples
import StateFlow.Workflow
import StateFlow.Proofs.Loading.Failure
import StateFlow.Proofs.Run
import StateFlow.Proofs.Action
import StateFlow.Proofs.Cancellation
import StateFlow.Proofs.Json.RoundTrip
import StateFlow.Proofs.Transport
import StateFlow.Proofs.Printing
import StateFlow.Proofs.Task.Reading
import StateFlow.Proofs.Path.Lens
import StateFlow.Proofs.Json.Cursor
import StateFlow.Proofs.Json.Fuel
import StateFlow.Proofs.Json.Written
import StateFlow.Proofs.Ledger
import StateFlow.Proofs.Task.Accounts
import StateFlow.Proofs.Operation
import StateFlow.Proofs.Simulation
import StateFlow.Proofs.Isolation
import StateFlow.Proofs.Accounting
import StateFlow.Proofs.DataOnly
import StateFlow.Proofs.Restart
import StateFlow.Proofs.Termination
import StateFlow.Proofs.Choice
import StateFlow.Proofs.Task.Diagnostics
import StateFlow.Proofs.Path.Sharing
import StateFlow.Proofs.Wildcard
import StateFlow.Proofs.Rule.Names
import StateFlow.Proofs.Wait
import StateFlow.Proofs.Rule.Normal
import StateFlow.Proofs.Rule.Order
import StateFlow.Proofs.Timestamp.Instant
import StateFlow.Proofs.Timestamp.Standard
import StateFlow.Proofs.Clock
import StateFlow.Proofs.Loading.Layout
import StateFlow.Proofs.Path.Follow
import StateFlow.Proofs.Timeout
import StateFlow.Proofs.Discard
import StateFlow.Proofs.Task.OutputTail
import StateFlow.Proofs.Worker.Reference
