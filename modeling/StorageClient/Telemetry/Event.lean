import StorageClient.Telemetry.Line
/-!
# StorageClient.Telemetry.Event

The lifecycle events of queries, batches and transactions. An event is logged under its name;
those that report a failure go to standard error as errors, all others to standard output as
normal operation.
-/

namespace StorageClient

/-- What can be observed of a query, a batch or a transaction. -/
inductive Event
  | configLoaded
  | definitionRejected
  | rootTurnedIntoScan
  | queryPrepared
  | queryCreated
  | queryCreateFailed
  /-- A result store doubled its capacity. -/
  | headerArrayGrown
  | fetchComplete
  | fetchFailed
  | batchPrepared
  | batchExecuteStart
  /-- The round trip of a batch went through. -/
  | batchExecuteComplete
  /-- The transaction reported a failure for the round trip of a batch. -/
  | batchExecuteFailed
  | transactionClosed
  deriving Repr, DecidableEq

namespace Event

def name : Event → String
  | configLoaded => "CONFIG_LOADED"
  | definitionRejected => "DEFINITION_REJECTED"
  | rootTurnedIntoScan => "PROJECTION_REWRITTEN_TO_SCAN"
  | queryPrepared => "QUERY_PREPARED"
  | queryCreated => "QUERY_CREATED"
  | queryCreateFailed => "QUERY_CREATE_FAILED"
  | headerArrayGrown => "HEADER_ARRAY_GROWN"
  | fetchComplete => "FETCH_COMPLETE"
  | fetchFailed => "FETCH_FAILED"
  | batchPrepared => "BATCH_PREPARED"
  | batchExecuteStart => "BATCH_EXECUTE_START"
  | batchExecuteComplete => "BATCH_EXECUTE_COMPLETE"
  | batchExecuteFailed => "BATCH_EXECUTE_FAILED"
  | transactionClosed => "TRANSACTION_CLOSED"

def all : List Event :=
  [configLoaded, definitionRejected, rootTurnedIntoScan, queryPrepared, queryCreated,
    queryCreateFailed, headerArrayGrown, fetchComplete, fetchFailed, batchPrepared,
    batchExecuteStart, batchExecuteComplete, batchExecuteFailed, transactionClosed]

theorem mem_all (e : Event) : e ∈ all := by
  cases e <;> decide

/-- Whether an event reports a failure. -/
def isFailure : Event → Bool
  | definitionRejected | queryCreateFailed | fetchFailed | batchExecuteFailed => true
  | _ => false

/-- The line an event is logged as. -/
def line (event : Event) (fields : List Field) : Line :=
  if event.isFailure then .error .error event.name fields
  else .output .info event.name fields

@[simp] theorem event_line (event : Event) (fields : List Field) :
    (event.line fields).event = event.name := by
  unfold line
  split <;> rfl

end Event

end StorageClient
