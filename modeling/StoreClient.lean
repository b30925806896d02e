import StoreClient.Config.Loading
import StoreClient.Config.Printer
import StoreClient.Observability.Logger
import StoreClient.Rehearsal.Cache
import StoreClient.Rehearsal.Retry
import StoreClient.Text.Pattern.Basic
import StoreClient.Text.Pattern.Brackets
import StoreClient.Text.Pattern.Reading
import StoreClient.Proofs.Credentials.Change
import StoreClient.Proofs.Credentials.Run
import StoreClient.Proofs.Credentials.Exclusion
import StoreClient.Proofs.Credentials.Fence
import StoreClient.Proofs.Credentials.Freshness
import StoreClient.Proofs.Credentials.SingleFlight
import StoreClient.Proofs.Credentials.Progress
import StoreClient.Proofs.Credentials.GivingUp
import StoreClient.Proofs.Retry.Transcript
import StoreClient.Proofs.Retry.Attempt
import StoreClient.Proofs.Retry.Course
import StoreClient.Proofs.Retry.Commit
import StoreClient.Proofs.Retry.Handles
import StoreClient.Proofs.Retry.Budget
import StoreClient.Proofs.Retry.Outcome
import StoreClient.Proofs.Retry.Cancellation
import StoreClient.Proofs.Retry.Contention
import StoreClient.Proofs.Binary64.Bounds
import StoreClient.Proofs.Config.Problems
import StoreClient.Proofs.Credentials.Lifetimes
import StoreClient.Proofs.Retry.Resumption
import StoreClient.Proofs.Retry.Agreement
import StoreClient.Proofs.Retry.Counters
import StoreClient.Proofs.Toml.Distinct
import StoreClient.Proofs.Config.Settings
import StoreClient.Proofs.Config.Fieldwise
import StoreClient.Proofs.Binary64.Reading
import StoreClient.Proofs.Binary64.Numeral
import StoreClient.Proofs.Toml.Scalars
import StoreClient.Proofs.Toml.Plain
import StoreClient.Proofs.Config.RoundTrip
import StoreClient.Proofs.Credentials.Secrecy
import StoreClient.Proofs.Retry.Congruence
import StoreClient.Proofs.Retry.InStep
import StoreClient.Proofs.Retry.Rollbacks
import StoreClient.Proofs.Retry.Jitter
import StoreClient.Proofs.Retry.LateConflict
import StoreClient.Proofs.Observability.Registry
import StoreClient.Proofs.Credentials.Accounting
import StoreClient.Proofs.Binary64.Neighbours
import StoreClient.Proofs.Duration.Seconds
import StoreClient.Proofs.Retry.Growth
import StoreClient.Proofs.Retry.Waits
import StoreClient.Proofs.Credentials.Age
import StoreClient.Proofs.Binary64.Accuracy
import StoreClient.Proofs.Duration.Parts
import StoreClient.Proofs.Credentials.Staleness
import StoreClient.Proofs.Retry.Classification
import StoreClient.Proofs.Credentials.Reuse
import StoreClient.Proofs.Text.Readers
import StoreClient.Proofs.Binary64.Value
import StoreClient.Proofs.Net.SocketAddress
import StoreClient.Proofs.Config.Usability
