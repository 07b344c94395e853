import StorageClient.Config.Basic
import StorageClient.Fetch.Row
import StorageClient.Task
import StorageClient.Transaction.Shared
/-!
# StorageClient.Fetch.Executor

An executor runs one query: it has the engine make a cursor, makes a round trip, fetches all rows,
and keeps them.

Design points:

* The phase of an executor carries what belongs to it: a cursor while it fetches, an error once it
  failed. So there is a cursor in no other phase, and an error exactly after a failure. An executor
  that fetches may have lost its cursor to `close`.
* A call in the wrong phase is refused and changes nothing.
* A panic leaves the executor as it was at that moment; `runOnTask` loses it.
-/

namespace StorageClient

/-- How far an executor has come. -/
inductive Executor.Phase
  | notStarted
  /-- There may be rows to come. -/
  | fetching (cursor : Option Cursor)
  | drained
  | failed (error : FetchError)
  deriving Repr, DecidableEq

namespace Executor.Phase

def name : Phase → String
  | notStarted => "NOT_STARTED"
  | fetching _ => "FETCHING"
  | drained => "DRAINED"
  | failed _ => "FAILED"

/-- What a developer is shown. -/
def debugText : Phase → String
  | notStarted => "NotStarted"
  | fetching _ => "Fetching"
  | drained => "Drained"
  | failed _ => "Failed"

/-- The cursor of a phase, if it has one. -/
def cursor? : Phase → Option Cursor
  | fetching cursor => cursor
  | _ => none

/-- The error of a phase, if it has one. -/
def error? : Phase → Option FetchError
  | failed error => some error
  | _ => none

end Executor.Phase

/-- A query that is run, and the rows it found. -/
structure Executor where
  query : Query
  fetch : Fetch
  phase : Executor.Phase
  abort : AbortOption
  send : SendPolicy
  deriving Repr, DecidableEq

namespace Executor

variable {σ : Type}

/-- The buffer of a node: bound if the node has a layout, marked if it only links. -/
def bufferOf (node : Node) : RowBuffer :=
  let buffer := match node.record with
    | some record => RowBuffer.new record
    | none => RowBuffer.unbound
  if node.joinOnly then buffer.markJoinOnly else buffer

/-- An executor that has not started. -/
def new (query : Query) (config : Config) : Executor where
  query
  fetch := ⟨query.nodes.map bufferOf, ResultStore.new config.initialCapacity⟩
  phase := .notStarted
  abort := config.abort
  send := config.send

/-- The rows found so far. -/
def results (executor : Executor) : ResultStore := executor.fetch.results

/-- The buffer of a level. -/
def buffer? (executor : Executor) (level : Nat) : Option RowBuffer := executor.fetch.buffers[level]?

/-- The error that ended the executor. -/
def latestError (executor : Executor) : Option FetchError := executor.phase.error?

/-- The refusal of a call that needs another phase. -/
def wrongPhase (call required : String) (phase : Phase) : FetchError :=
  .illegalState s!"{call} requires state {required}, executor is {phase.name}"

/-! ### Before the start -/

/-- Changes the buffer of a level, while the executor has not started. -/
def changeBuffer (executor : Executor) (call : String) (level : Nat)
    (change : RowBuffer → RowBuffer) : Except FetchError Executor :=
  match executor.phase with
  | .notStarted =>
    let buffers := executor.fetch.buffers
    if level < buffers.length then
      .ok { executor with fetch := { executor.fetch with buffers := buffers.modify level change } }
    else .error (.levelOutOfRange level buffers.length)
  | phase => .error (wrongPhase call "NOT_STARTED" phase)

/-- Gives a level a new buffer for the rows of a record. A mark it has already is kept. -/
def createRowBuffer (executor : Executor) (level : Nat) (record : Record) :
    Except FetchError Executor :=
  executor.changeBuffer "create_row_buffer" level fun old =>
    if old.joinOnly then (RowBuffer.new record).markJoinOnly else RowBuffer.new record

/-- Takes the rows of a level out of those a user sees. -/
def markJoinOnly (executor : Executor) (level : Nat) : Except FetchError Executor :=
  executor.changeBuffer "mark_join_only" level RowBuffer.markJoinOnly

/-! ### Running -/

def close : Action Executor Unit := fun executor =>
  match executor.phase with
  | .fetching (some _) =>
    ⟨(.returned (), { executor with phase := .fetching none }), [.cursor .close]⟩
  | _ => pure (.returned (), executor)

/-- Ends an executor with an error. -/
def fail {α : Type} (error : FetchError) : Action Executor (Except FetchError α) := do
  Action.modify fun executor => { executor with phase := .failed error }
  Action.count .queriesFailed
  return .error error

/-- The first level without a buffer for its rows. -/
def unboundLevel? (executor : Executor) : Option Nat :=
  executor.fetch.buffers.findIdx? fun buffer => !buffer.isBound

/-- Has the engine make a cursor. If it refuses, the executor has failed. -/
def createQuery [Sink] [Engine σ] :
    Action (Executor × SharedTransaction σ) (Except FetchError Unit) := do
  let (executor, shared) ← Action.get
  match executor.phase, executor.unboundLevel? with
  | .notStarted, none =>
    let ask := Transaction.createQuery executor.query
    match ← Action.onSecond (SharedTransaction.attempt ask) with
    | .ok cursor =>
      Action.onFirst <| Action.modify fun executor =>
        { executor with phase := .fetching (some cursor) }
      Action.log <| Event.queryCreated.line [
        ("levels", .text (toString executor.query.levels)),
        ("query", .text executor.query.id),
        ("transaction", .text shared.id)]
      return .ok ()
    | .error cause =>
      Action.log <| Event.queryCreateFailed.line [
        ("code", .text (toString cause.code)),
        ("query", .text executor.query.id)]
      Action.onFirst (fail (.createFailed cause))
  | .notStarted, some level =>
    return .error (.illegalState s!"level {level} has no row buffer")
  | phase, _ => return .error (wrongPhase "create_query" "NOT_STARTED" phase)

/-- Polls the cursor to its end. -/
def drainCursor [Memory] [Sink] : Action Executor (Except FetchError Unit) := fun executor =>
  match executor with
  | ⟨query, fetch, .fetching (some cursor), abort, send⟩ =>
    Traced.bind (Fetch.drain query cursor fetch) fun (answer, cursor, fetch) =>
      pure (answer, ⟨query, fetch, .fetching (some cursor), abort, send⟩)
  | executor => pure (.returned (.error (.illegalState "cursor detached during fetch")), executor)

/-- How the scope of a fetch is closed that failed. -/
def closingOf (error : FetchError) : Scope.Closing :=
  if error.isFatal then .failedFatally error.message else .failed error.message

/-- What a fetch does inside its scope: it polls the cursor to its end, closes it, and says how
that went. -/
def fetchInScope [Memory] [Sink] :
    Action (Executor × Option OpenScope) (Except FetchError Nat) := do
  let outcome ← Action.onFirst drainCursor
  Action.onFirst close
  let (executor, _) ← Action.get
  let id := executor.query.id
  match outcome with
  | .ok () =>
    let rows := toString executor.results.size
    Action.onFirst <| Action.modify fun executor => { executor with phase := .drained }
    Action.count .queriesExecuted
    Action.log <| Event.fetchComplete.line [("query", .text id), ("rows", .text rows)]
    Action.closeScope (.completed [("rows", .text rows)])
    return .ok executor.results.size
  | .error error =>
    Action.log <| Event.fetchFailed.line [("code", .text error.code), ("query", .text id)]
    Action.closeScope (closingOf error)
    Action.onFirst (fail error)

/-- Fetches all rows, and tells how many headers there are. -/
def fetchAll [Memory] [Sink] : Action Executor (Except FetchError Nat) := do
  let executor ← Action.get
  match executor.phase with
  | .fetching _ =>
    Action.within ⟨"QUERY_FETCH", [("query", .text executor.query.id)]⟩ fetchInScope
  | phase => return .error (wrongPhase "fetch_all_results" "FETCHING" phase)

/-- Has the engine make a cursor, makes one round trip that commits nothing, and fetches all
rows. -/
def run [Memory] [Sink] [Engine σ] :
    Action (Executor × SharedTransaction σ) (Except FetchError Nat) := do
  match ← createQuery with
  | .error error => return .error error
  | .ok () =>
    let (executor, _) ← Action.get
    let options : RoundTrip := ⟨.noCommit, executor.abort, executor.send⟩
    match ← Action.onSecond (SharedTransaction.attempt (Transaction.execute options)) with
    | .error cause =>
      Action.onFirst close
      Action.onFirst (fail (.roundTripFailed cause))
    | .ok () => Action.onFirst fetchAll

/-- Runs an executor on a task of its own and waits for it. If the task panics, the executor goes
down with it. -/
def runOnTask [Memory] [Sink] [Engine σ] (task : String) (executor : Executor)
    (shared : SharedTransaction σ) :
    Traced (Except FetchError (Executor × Except FetchError Nat) × SharedTransaction σ) :=
  Traced.bind (run (executor, shared)) fun
    | (.returned result, (executor, shared)) => pure (.ok (executor, result), shared)
    | (.panicked text, (executor, shared)) =>
      Traced.bind (close executor) fun _ =>
        pure (.error (.illegalState s!"fetch task did not complete: {Task.lost task text}"), shared)

/-- Takes the image of a header out of the results. -/
def takeData (executor : Executor) (index : Nat) : Option Bytes × Executor :=
  match executor.results.takeData index with
  | (data, results) => (data, { executor with fetch := { executor.fetch with results } })

/-- What a developer is shown. -/
def debugText (executor : Executor) : String :=
  let isOpen := executor.phase.cursor?.isSome
  s!"QueryExecutor \x7b query: {executor.query.id}, state: {executor.phase.debugText}, " ++
    s!"results: {executor.results.size}, cursor_open: {isOpen} \x7d"

end Executor

end StorageClient
