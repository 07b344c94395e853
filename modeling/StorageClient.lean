import StorageClient.Action
import StorageClient.Batch.Awaited
import StorageClient.Batch.Basic
import StorageClient.Batch.Entry
import StorageClient.Batch.Error
import StorageClient.Batch.RoundTrip
import StorageClient.Bytes
import StorageClient.Chain.Basic
import StorageClient.Chain.Compile
import StorageClient.Config.Basic
import StorageClient.Config.Document
import StorageClient.Config.Folder
import StorageClient.Effect
import StorageClient.Fetch.Buffer
import StorageClient.Fetch.Error
import StorageClient.Fetch.Executor
import StorageClient.Fetch.Row
import StorageClient.Fetch.Store
import StorageClient.Schema.Record
import StorageClient.Schema.Table
import StorageClient.Task
import StorageClient.Telemetry.Counter
import StorageClient.Telemetry.Event
import StorageClient.Telemetry.Line
import StorageClient.Telemetry.Scope
import StorageClient.Telemetry.Severity
import StorageClient.Text.Json
import StorageClient.Text.JsonString
import StorageClient.Text.Masked
import StorageClient.Text.Quoted
import StorageClient.Text.Visible
import StorageClient.Transaction.Cursor
import StorageClient.Transaction.Engine
import StorageClient.Transaction.Error
import StorageClient.Transaction.Operation
import StorageClient.Transaction.Playback
import StorageClient.Transaction.RoundTrip
import StorageClient.Transaction.Shared
import StorageClient.Tree.Access
import StorageClient.Tree.Builder
import StorageClient.Tree.Error
import StorageClient.Tree.Query
import StorageClient.Proofs.Traffic
import StorageClient.Proofs.Actions
import StorageClient.Proofs.Laws
import StorageClient.Proofs.Tree.Refusals
import StorageClient.Proofs.Chain.Acceptance
import StorageClient.Proofs.Chain.RootScan
import StorageClient.Proofs.Fetch.Drain
import StorageClient.Proofs.Fetch.Decoding
import StorageClient.Proofs.Fetch.Levels
import StorageClient.Proofs.Fetch.Deduplication
import StorageClient.Proofs.Fetch.Lifecycle
import StorageClient.Proofs.Fetch.Fields
import StorageClient.Proofs.Fetch.Counts
import StorageClient.Proofs.Fetch.Accounts
import StorageClient.Proofs.Fetch.Capacity
import StorageClient.Proofs.Batch.Entries
import StorageClient.Proofs.Batch.Steps
import StorageClient.Proofs.Batch.Session
import StorageClient.Proofs.Batch.Fields
import StorageClient.Proofs.Batch.Outcomes
import StorageClient.Proofs.Batch.Sending
import StorageClient.Proofs.Batch.Orderly
import StorageClient.Proofs.Batch.Forms
import StorageClient.Proofs.Batch.Notification
import StorageClient.Proofs.Batch.Lifecycle
import StorageClient.Proofs.Transaction.Closing
import StorageClient.Proofs.Batch.Closing
import StorageClient.Proofs.Session.Calls
import StorageClient.Proofs.Session.Closing
import StorageClient.Proofs.Session.Severity
import StorageClient.Proofs.Text.Literals
import StorageClient.Proofs.Text.Numbers
import StorageClient.Proofs.Text.Grammar
import StorageClient.Proofs.Telemetry.Lines
import StorageClient.Proofs.Indexing
import StorageClient.Proofs.Tree.Indexing
import StorageClient.Proofs.Fetch.Indexing
import StorageClient.Proofs.Fetch.Stored
import StorageClient.Proofs.Fetch.Taking
import StorageClient.Proofs.Fetch.Marks
import StorageClient.Proofs.Session.Reports
import StorageClient.Proofs.Telemetry.Scopes
import StorageClient.Proofs.Batch.Blobs
import StorageClient.Proofs.Session.Blobs
import StorageClient.Proofs.Schema.Layout
import StorageClient.Proofs.Config.Settings
import StorageClient.Proofs.Session.Finished
import StorageClient.Proofs.Chain.Rejections
import StorageClient.Proofs.Session.Rejections
import StorageClient.Proofs.Batch.Errors
import StorageClient.Proofs.Session.Errors
