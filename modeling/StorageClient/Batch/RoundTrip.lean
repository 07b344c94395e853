import StorageClient.Batch.Entry
import StorageClient.Transaction.Shared
/-!
# StorageClient.Batch.RoundTrip

What a batch has its transaction do: define every entry, and later make one round trip and collect
what came of each entry. Both are uses of the transaction, so they have it alone.

* An entry that failed already is left out.
* The error of an operation counts for its entry before the error of the transaction does; an error
  with code 0 is none.
* Large objects are read back only for entries that nothing is known against.
-/

namespace StorageClient.Batch

variable {σ : Type}

/-- An error, unless its code says that there is none. -/
def genuine (error : Option EngineError) : Option EngineError := error.filter fun e => !e.isOk

/-- Records what is known of the failure of an entry. -/
def setSlot (slot : Slot) : Action (Entry × σ) Unit :=
  Action.onFirst <| Action.modify fun entry => { entry with slot }

/-- Defines the operation of an entry. A refusal becomes the error of the entry. -/
def defineEntry [Engine σ] : Action (Entry × σ) Unit := do
  let (entry, _) ← Action.get
  if entry.slot.isOperation then return ()
  match ← Action.onSecond (Transaction.define entry.operation) with
  | .ok id => Action.onFirst <| Action.modify fun entry => { entry with id := some id }
  | .error refusal => setSlot (.operation refusal)

/-- Defines the operations of all entries, in order. Yields how many were accepted: every entry
without an error of its own was. -/
def defineEntries [Engine σ] : Action (List Entry × σ) Nat := do
  Action.forEach defineEntry
  let (entries, _) ← Action.get
  return entries.countP fun entry => !entry.slot.isOperation

def readBlob [Engine σ] (id : Nat) : Action (BlobHandler × σ) Unit := do
  let (blob, _) ← Action.get
  if !blob.isRead then return ()
  match ← Action.onSecond (Transaction.readBlob id blob.column) with
  | some bytes => Action.onFirst <| Action.modify fun blob => blob.fill bytes
  | none => return ()

/-- Reads all large objects of an entry back. -/
def readBlobs [Engine σ] (id : Nat) : Action (Entry × σ) Unit := fun (entry, engine) =>
  Traced.bind (Action.forEach (readBlob id) (entry.operation.blobs, engine))
    fun (answer, blobs, engine) =>
      pure (answer, { entry with operation := { entry.operation with blobs } }, engine)

/-- Collects what came of an entry, given the error of the transaction. -/
def collectEntry [Engine σ] (transactionError : Option EngineError) : Action (Entry × σ) Unit := do
  let (entry, _) ← Action.get
  if entry.slot.isOperation then return ()
  match entry.id with
  | none => return ()
  | some id =>
    match genuine (← Action.onSecond (Transaction.operationError id)), transactionError with
    | some error, _ => setSlot (.operation error)
    | none, some _ => setSlot .transaction
    | none, none => readBlobs id

/-- Makes the round trip and collects what came of every entry. Yields the error of the
transaction: its own if it has one, otherwise that of the round trip. -/
def executeEntries [Engine σ] (options : RoundTrip) :
    Action (List Entry × σ) (Option EngineError) := do
  let result ← Action.onSecond (Transaction.execute options)
  let own ← Action.onSecond Transaction.error
  let transactionError := match genuine own, result with
    | some error, _ => some error
    | none, .error error => some error
    | none, .ok () => none
  Action.forEach (collectEntry transactionError)
  return transactionError

/-- Makes a round trip on a shared transaction. If the transaction was reached and is over after
that, it is recorded as closed. -/
def roundTrip [Sink] [Engine σ] (options : RoundTrip) :
    Action (List Entry × SharedTransaction σ) (Except EngineError (Option EngineError)) := do
  match ← SharedTransaction.useWith (executeEntries options) with
  | .error refusal => return .error refusal
  | .ok transactionError =>
    if options.exec.closes then Action.onSecond SharedTransaction.registerClose
    return .ok transactionError

end StorageClient.Batch
