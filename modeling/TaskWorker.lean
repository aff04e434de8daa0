import TaskWorker.Allocation
import TaskWorker.Dispatcher.Basic
import TaskWorker.Dispatcher.Execution
import TaskWorker.Dispatcher.Tick
import TaskWorker.Handler
import TaskWorker.Host.Basic
import TaskWorker.Host.Event
import TaskWorker.Json.Basic
import TaskWorker.Json.Decimal
import TaskWorker.Json.Double
import TaskWorker.Json.Draft
import TaskWorker.Json.Reader
import TaskWorker.Json.Shape
import TaskWorker.Json.Writer
import TaskWorker.Logging
import TaskWorker.Overrides.Basic
import TaskWorker.Overrides.Properties
import TaskWorker.Registry
import TaskWorker.Retry
import TaskWorker.Server
import TaskWorker.Settings.Basic
import TaskWorker.Settings.Environment
import TaskWorker.Settings.Error
import TaskWorker.Settings.PairList
import TaskWorker.Settings.Wire
import TaskWorker.Simulation.Script
import TaskWorker.Simulation.Step
import TaskWorker.Simulation.World
import TaskWorker.Site
import TaskWorker.Slots
import TaskWorker.Table
import TaskWorker.Tally
import TaskWorker.Task.Basic
import TaskWorker.Task.Wire
import TaskWorker.Text.Alphanumeric
import TaskWorker.Text.Blank
import TaskWorker.Text.Numeral
import TaskWorker.Text.Printable
import TaskWorker.Text.Quoted
import TaskWorker.Text.Ranges
import TaskWorker.Time.Moment
import TaskWorker.Time.Span
import TaskWorker.Time.Stored
import TaskWorker.Proofs.Moves
import TaskWorker.Proofs.Holders
import TaskWorker.Proofs.SlotAccount
import TaskWorker.Proofs.InFlight
import TaskWorker.Proofs.Lifecycle
import TaskWorker.Proofs.Drain
import TaskWorker.Proofs.Abandonment
import TaskWorker.Proofs.StopSteps
import TaskWorker.Proofs.Stopping
import TaskWorker.Proofs.Calls
import TaskWorker.Proofs.Sites
import TaskWorker.Proofs.Custody
import TaskWorker.Proofs.Balance
import TaskWorker.Proofs.Allocations
import TaskWorker.Proofs.Attempts
import TaskWorker.Proofs.Assembly
import TaskWorker.Clock
import TaskWorker.Proofs.Lanes
import TaskWorker.Proofs.Glimpses
import TaskWorker.Proofs.Isolation
import TaskWorker.Proofs.Building
import TaskWorker.Proofs.Merging
import TaskWorker.Proofs.SharedSlots
import TaskWorker.Proofs.TwoWays
import TaskWorker.Proofs.Variables
import TaskWorker.Proofs.Repetition
import TaskWorker.Proofs.Reporting
import TaskWorker.Proofs.Payloads
import TaskWorker.Proofs.Records
import TaskWorker.Proofs.Digits
import TaskWorker.Proofs.Moments
import TaskWorker.Proofs.Numbers
import TaskWorker.Proofs.Texts
import TaskWorker.Proofs.RoundTrips
import TaskWorker.Proofs.StoredSettings
import TaskWorker.Proofs.Rounding
import TaskWorker.Proofs.WholeTicks
import TaskWorker.Timers
import TaskWorker.Proofs.ExactClock
import TaskWorker.Proofs.Cadence
import TaskWorker.Proofs.GracePeriod
import TaskWorker.Proofs.SharedFailures
import TaskWorker.Proofs.ReportCalls
import TaskWorker.Proofs.Conclusions
import TaskWorker.Proofs.Totals
import TaskWorker.Proofs.Closures
import TaskWorker.Proofs.Signatures
import TaskWorker.Proofs.PairLists
import TaskWorker.Proofs.Numerals
import TaskWorker.Proofs.SlotLists
import TaskWorker.Proofs.HiddenEntries
import TaskWorker.Proofs.Queues
import TaskWorker.Proofs.Names
import TaskWorker.Proofs.SlotSteps
