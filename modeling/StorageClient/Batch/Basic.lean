import StorageClient.Batch.Error
import StorageClient.Batch.RoundTrip
import StorageClient.Telemetry.Event
/-!
# StorageClient.Batch.Basic

A batch: a fixed list of operations that are defined on a transaction, sent in one round trip, and
have one outcome each. A batch is built, then prepared, then executed, and never goes back.

Design points:

* The phase of a batch carries what belongs to it: the transaction it is bound to once it is
  prepared, and the error of the transaction once it is executed.
* The calls that need the transaction are actions on the batch next to the transaction. That is the
  one the batch was prepared on; a batch that is not bound leaves it alone.
* An error of an entry, or of the transaction, is part of the report. `execute` yields an error
  only if the batch could not be run at all, and then the batch is as it was.
-/

namespace StorageClient

/-- How far a batch has come. -/
inductive Batch.Phase
  /-- Nothing is defined yet. -/
  | built
  /-- The operations are defined on a transaction. -/
  | prepared (transaction : String)
  /-- The round trip was made; `error` is the error of the transaction. -/
  | executed (transaction : String) (error : Option EngineError)
  deriving Repr, DecidableEq

namespace Batch.Phase

def name : Phase → String
  | built => "BUILT"
  | prepared _ => "PREPARED"
  | executed .. => "EXECUTED"

def transaction? : Phase → Option String
  | built => none
  | prepared transaction | executed transaction _ => some transaction

/-- The error of the transaction. -/
def transactionError : Phase → Option EngineError
  | built | prepared _ => none
  | executed _ error => error

end Batch.Phase

/-- A list of operations for one round trip. -/
structure Batch where
  entries : List Entry
  phase : Batch.Phase
  deriving Repr, DecidableEq

namespace Batch

variable {σ τ α : Type}

/-- A batch of some operations. -/
def new (operations : List KeyOperation) : Batch := ⟨operations.map Entry.new, .built⟩

def length (batch : Batch) : Nat := batch.entries.length

/-- The entry of a place. -/
def entryAt? (batch : Batch) (n : Nat) : Option Entry := batch.entries[n]?

/-- Whether any large object is read back. -/
def readsBlobs (batch : Batch) : Bool := batch.entries.any fun entry => entry.operation.readsBlobs

def transaction? (batch : Batch) : Option String := batch.phase.transaction?

/-- The error of the transaction in the round trip of the batch. -/
def transactionError (batch : Batch) : Option EngineError := batch.phase.transactionError

/-- The refusal of a call that comes at the wrong time. -/
def wrongPhase (batch : Batch) (call : BatchCall) (required : String) : BatchError :=
  .illegalState call batch.phase.name required

/-- An action on the entries of a batch. -/
def onEntries (action : Action (List Entry × τ) α) : Action (Batch × τ) α := fun (batch, rest) =>
  match action (batch.entries, rest) with
  | ⟨(answer, entries, rest), effects⟩ => ⟨(answer, { batch with entries }, rest), effects⟩

/-! ### Before the round trip -/

/-- Records that an entry failed before it was sent. -/
def setError (batch : Batch) (n : Nat) (error : EngineError) : Except BatchError Batch :=
  match batch.phase with
  | .executed .. => .error (batch.wrongPhase .setError "BUILT or PREPARED")
  | .built | .prepared _ =>
    if n < batch.length then
      .ok { batch with
        entries := batch.entries.modify n fun entry =>
          { entry with id := none, slot := .operation error } }
    else .error (.entryOutOfRange n batch.length)

/-- Defines the operations of a batch on a transaction, and binds the batch to it. -/
def prepare [Sink] [Engine σ] : Action (Batch × SharedTransaction σ) (Except BatchError Unit) := do
  let (batch, shared) ← Action.get
  match batch.phase with
  | .built =>
    match ← onEntries (SharedTransaction.useWith defineEntries) with
    | .error refusal => return .error (.transaction refusal)
    | .ok defined =>
      Action.onFirst <| Action.modify fun batch => { batch with phase := .prepared shared.id }
      Action.log <| Event.batchPrepared.line [
        ("defined", .text (toString defined)),
        ("size", .text (toString batch.length)),
        ("transaction", .text shared.id)]
      return .ok ()
  | .prepared _ | .executed .. => return .error (batch.wrongPhase .prepare "BUILT")

/-- Asks the transaction to start, with the first operation as a hint. -/
def tryStart [Engine σ] : Action (Batch × SharedTransaction σ) (Except BatchError Bool) := do
  let (batch, _) ← Action.get
  match batch.transaction? with
  | none => return .error (batch.wrongPhase .tryStart "PREPARED")
  | some _ =>
    let hint := batch.entries.head?.map Entry.operation
    match ← Action.onSecond (SharedTransaction.use (Transaction.tryStart hint)) with
    | .ok started => return .ok started
    | .error refusal => return .error (.transaction refusal)

/-! ### The round trip -/

/-- What came of an entry. -/
def outcomeOf (transactionError : Option EngineError) (entry : Entry) : Outcome :=
  match entry.slot with
  | .clear => .success
  | .operation error => .operation error
  | .transaction =>
    .transaction (transactionError.getD (.internal "transaction error not recorded"))

def outcomes (batch : Batch) : List Outcome := batch.entries.map (outcomeOf batch.transactionError)

/-- Begins the round trip of a prepared batch. Yields the scope it is made in. -/
def start [Sink] (call : BatchCall) (options : RoundTrip) :
    Action (Batch × SharedTransaction σ) (Except BatchError Scope) := do
  let (batch, shared) ← Action.get
  match batch.phase with
  | .prepared _ =>
    let size := toString batch.length
    Action.log <| Event.batchExecuteStart.line [
      ("abort", .text options.abort.name),
      ("exec", .text options.exec.name),
      ("send", .text options.send.name),
      ("size", .text size),
      ("transaction", .text shared.id)]
    return .ok ⟨"BATCH_EXECUTE", [("exec", .text options.exec.name), ("size", .text size)]⟩
  | .built | .executed .. => return .error (batch.wrongPhase call "PREPARED")

/-- Records a round trip that reached the transaction, and reports on it. -/
def record [Sink] (exec : ExecType) (transactionError : Option EngineError) :
    Action (Batch × SharedTransaction σ) Report := do
  let (_, shared) ← Action.get
  Action.onFirst <| Action.modify fun batch =>
    { batch with phase := .executed shared.id transactionError }
  let (batch, _) ← Action.get
  let report : Report := ⟨exec, batch.outcomes, transactionError⟩
  Action.count .batchesExecuted
  Action.lift (Traced.emit (.count .batchEntryFailures report.failures))
  let failures := toString report.failures
  match transactionError with
  | some error =>
    Action.log <| Event.batchExecuteFailed.line [
      ("code", .text (toString error.code)),
      ("failures", .text failures),
      ("transaction", .text shared.id)]
    return report
  | none =>
    Action.log <| Event.batchExecuteComplete.line [
      ("failures", .text failures),
      ("transaction", .text shared.id)]
    return report

/-- How the scope of a round trip is closed that reached the transaction. -/
def closingOf (report : Report) : Scope.Closing :=
  match report.transactionError with
  | some error => .failed error.message
  | none => .completed [("failures", .text (toString report.failures))]

/-- Ends a round trip and closes its scope. One that reached the transaction is recorded; of one
that did not reach it, this is only told. -/
def complete [Sink] (exec : ExecType) (collected : Except EngineError (Option EngineError)) :
    Action ((Batch × SharedTransaction σ) × Option OpenScope) (Except BatchError Report) := do
  match collected with
  | .error refusal =>
    Action.closeScope (.failed refusal.message)
    return .error (.transaction refusal)
  | .ok transactionError =>
    let report ← Action.onFirst (record exec transactionError)
    Action.closeScope (closingOf report)
    return .ok report

/-- Runs a batch in one round trip and waits for it. -/
def execute [Sink] [Engine σ] (options : RoundTrip) :
    Action (Batch × SharedTransaction σ) (Except BatchError Report) := do
  match ← start .execute options with
  | .error error => return .error error
  | .ok scope =>
    Action.within scope do
      let collected ← Action.onFirst (onEntries (roundTrip options))
      complete options.exec collected

/-! ### After the round trip -/

/-- The entry of a place of an executed batch. -/
def executedEntry (batch : Batch) (call : BatchCall) (n : Nat) : Except BatchError Entry :=
  match batch.phase with
  | .executed .. =>
    match batch.entries[n]? with
    | some entry => .ok entry
    | none => .error (.entryOutOfRange n batch.length)
  | .built | .prepared _ => .error (batch.wrongPhase call "EXECUTED")

/-- What came of an entry of an executed batch. -/
def outcome (batch : Batch) (n : Nat) : Except BatchError Outcome :=
  (batch.executedEntry .outcome n).map (outcomeOf batch.transactionError)

/-- The error of an entry of an executed batch: its own, otherwise that of the transaction. -/
def error? (batch : Batch) (n : Nat) : Except BatchError (Option EngineError) :=
  (batch.outcome n).map Outcome.error?

/-- The large objects that an entry of an executed batch read back. -/
def blobResults (batch : Batch) (n : Nat) : Except BatchError (List (Nat × Bytes)) :=
  (batch.executedEntry .readBlobResults n).map fun entry => entry.operation.blobResults

end Batch

end StorageClient
