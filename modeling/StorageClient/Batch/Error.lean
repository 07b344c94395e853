import StorageClient.Transaction.Error
/-!
# StorageClient.Batch.Error

Why a batch cannot be used as it was asked to. That an entry fails is no such error: entries have
outcomes.
-/

namespace StorageClient

/-- The calls on a batch that can come at the wrong time. -/
inductive BatchCall
  | setError
  | prepare
  | tryStart
  | execute
  | executeAwaited
  | outcome
  | readBlobResults
  deriving Repr, DecidableEq

def BatchCall.name : BatchCall → String
  | setError => "set_error"
  | prepare => "prepare"
  | tryStart => "try_immediate_start_transaction"
  | execute => "execute"
  | executeAwaited => "execute_async"
  | outcome => "outcome"
  | readBlobResults => "read_blob_results"

/-- Why a batch cannot be used as it was asked to. -/
inductive BatchError
  | illegalState (call : BatchCall) (state required : String)
  | entryOutOfRange (index length : Nat)
  /-- The transaction cannot be used. -/
  | transaction (cause : EngineError)
  | taskFailed (reason : String)
  deriving Repr, DecidableEq

namespace BatchError

def name : BatchError → String
  | illegalState .. => "IllegalState"
  | entryOutOfRange .. => "EntryOutOfRange"
  | transaction _ => "Transaction"
  | taskFailed _ => "TaskFailed"

def code : BatchError → Int
  | illegalState .. => 4850
  | entryOutOfRange .. => 4851
  | transaction cause => cause.code
  | taskFailed _ => 4852

def message : BatchError → String
  | illegalState call state required => s!"batch is {state}; {call.name} requires {required}"
  | entryOutOfRange index length => s!"entry {index} out of range for batch of {length}"
  | transaction cause => s!"transaction unavailable: {cause.display}"
  | taskFailed reason => s!"round trip task failed: {reason}"

end BatchError

end StorageClient
