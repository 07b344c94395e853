import StorageClient.Batch.Basic
import StorageClient.Task
/-!
# StorageClient.Batch.Awaited

Round trips on a task of their own. The task works on a copy of the entries, and the batch is
changed only once the task is done. So a task that is lost, or that nobody waits for, leaves the
batch prepared as it was, although its round trip may reach the engine.

* `executeAwaited` waits for the task.
* `executeAbandoned` gives up waiting while the round trip is on its way.
* `submit` hands the batch over and has it handed back, with the result, in one notification:
  by a task, if there is a place to run one, and otherwise before it returns.
-/

namespace StorageClient.Batch

variable {σ : Type}

/-- The round trip of a batch on a task, on a copy of its entries. -/
def roundTripOnTask [Sink] [Engine σ] (options : RoundTrip) :
    Action (Batch × SharedTransaction σ)
      (Answer (List Entry × Except EngineError (Option EngineError))) := do
  let (batch, _) ← Action.get
  Action.onSecond (Action.spawn (Action.onCopy batch.entries (roundTrip options)))

/-- Runs a batch in one round trip on the task `task`, and waits for it. -/
def executeAwaited [Sink] [Engine σ] (task : String) (options : RoundTrip) :
    Action (Batch × SharedTransaction σ) (Except BatchError Report) := do
  match ← start .executeAwaited options with
  | .error error => return .error error
  | .ok scope =>
    Action.within scope do
      match ← Action.onFirst (roundTripOnTask options) with
      | .returned (entries, collected) =>
        Action.onFirst <| Action.onFirst <| Action.modify fun batch => { batch with entries }
        complete options.exec collected
      | .panicked text =>
        let error := BatchError.taskFailed (Task.lost task text)
        Action.closeScope (.failed error.message)
        return .error error

/-- Begins to run a batch on a task, and gives up waiting for it. Whoever waits goes away with the
scope in hand; the round trip then goes on to its end by itself. -/
def executeAbandoned [Sink] [Engine σ] (options : RoundTrip) :
    Action (Batch × SharedTransaction σ) (Except BatchError Unit) := do
  match ← start .executeAwaited options with
  | .error error => return .error error
  | .ok scope =>
    Action.within scope (return ())
    let _ ← roundTripOnTask options
    return .ok ()

/-- What the receiver of a submitted batch is told. -/
structure Notification where
  batch : Batch
  result : Except BatchError Report
  /-- Whether the transaction of the batch is recorded as closed at that moment. -/
  closed : Option Bool

/-- What came of handing over a batch. -/
structure Submission where
  /-- Whether the batch is run by a task. -/
  spawned : Bool
  notifications : List Notification

/-- Hands a batch over to be run: by the task of that name, or at once if there is none. -/
def submit [Sink] [Engine σ] (task : Option String) (options : RoundTrip) (batch : Batch) :
    Action (SharedTransaction σ) Submission := fun shared =>
  let run := match task with
    | some task => executeAwaited task options
    | none => execute options
  Traced.bind (run (batch, shared)) fun
    | (.returned result, batch, shared) =>
      let closed := batch.transaction?.map fun _ => shared.closed
      pure (.returned ⟨task.isSome, [⟨batch, result, closed⟩]⟩, shared)
    | (.panicked text, _, shared) => pure (.panicked text, shared)

end StorageClient.Batch
