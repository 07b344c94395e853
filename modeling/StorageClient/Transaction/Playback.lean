import StorageClient.Transaction.Engine
/-!
# StorageClient.Transaction.Playback

An engine that answers from a script and keeps a record of what it was asked. It stands in for a
live engine wherever the answers are to be chosen beforehand.

* An operation is refused if its key is listed as refused; else it gets the next number.
* Cursors and round trips are taken from their lists, one for each call. When the list of round
  trips is used up, they succeed and leave the error of the transaction as it is; when there are no
  more cursors, queries are refused.
* Where a table lists a key twice, the later entry counts.
-/

namespace StorageClient

/-- What a scripted round trip does. -/
inductive Playback.Execution
  /-- It sets the error of the transaction and returns. -/
  | returns (result : Except EngineError Unit) (error : Option EngineError)
  | panics (text : String)

/-- The answers of a scripted engine. -/
structure Playback.Script where
  firstId : Nat
  refusals : List (Bytes × EngineError)
  queries : List (Except EngineError Cursor)
  executions : List Playback.Execution
  error : Option EngineError
  operationErrors : List (Bytes × EngineError)
  blobs : List (Bytes × UInt32 × Bytes)
  /-- The answer to a request to start; without one, the engine starts if it has a hint. -/
  start : Option Bool
  /-- Whether the engine has no way to start at once. -/
  plain : Bool

/-- A scripted engine: the script that is left, and what was asked. -/
structure Playback where
  script : Playback.Script
  /-- The operations that were accepted, in order. -/
  defined : List KeyOperation
  executed : List RoundTrip
  /-- The numbers of levels of the queries that got a cursor. -/
  created : List Nat
  /-- The hints that came with requests to start. -/
  hints : List (Option KeyOperation)
  polls : Nat
  cursorsClosed : Nat
  closes : Nat

namespace Playback

/-- An engine that was not asked anything yet. -/
def new (script : Script) : Playback := ⟨script, [], [], [], [], 0, 0, 0⟩

/-- The last entry of a table for a key. -/
def lookupLast {κ ν : Type} [BEq κ] (key : κ) (table : List (κ × ν)) : Option ν :=
  (table.reverse.find? fun entry => entry.1 == key).map Prod.snd

/-- The operation that was given a number. -/
def operation? (engine : Playback) (id : Nat) : Option KeyOperation :=
  if id < engine.script.firstId then none else engine.defined[id - engine.script.firstId]?

/-- The refusal when the script has no cursor left. -/
def noCursor : EngineError := .internal "no cursor scripted"

/-- Refuses an operation with a listed key, and accepts every other. -/
def define (operation : KeyOperation) (engine : Playback) :
    Answer (Except EngineError Nat) × Playback :=
  match lookupLast operation.key engine.script.refusals with
  | some refusal => (.returned (.error refusal), engine)
  | none =>
    (.returned (.ok (engine.script.firstId + engine.defined.length)),
      { engine with defined := engine.defined ++ [operation] })

/-- Hands out the next cursor of the script. -/
def createQuery (query : Query) (engine : Playback) :
    Answer (Except EngineError Cursor) × Playback :=
  match engine.script.queries with
  | [] => (.returned (.error noCursor), engine)
  | next :: rest =>
    let engine := { engine with script := { engine.script with queries := rest } }
    match next with
    | .error refusal => (.returned (.error refusal), engine)
    | .ok cursor =>
      (.returned (.ok cursor), { engine with created := engine.created ++ [query.levels] })

/-- Makes the next round trip of the script. -/
def execute (options : RoundTrip) (engine : Playback) :
    Answer (Except EngineError Unit) × Playback :=
  let engine := { engine with executed := engine.executed ++ [options] }
  match engine.script.executions with
  | [] => (.returned (.ok ()), engine)
  | .panics text :: rest =>
    (.panicked text, { engine with script := { engine.script with executions := rest } })
  | .returns result error :: rest =>
    (.returned result, { engine with script := { engine.script with executions := rest, error } })

/-- The error listed for the key of an operation. -/
def operationError (id : Nat) (engine : Playback) : Option EngineError :=
  (engine.operation? id).bind fun operation =>
    lookupLast operation.key engine.script.operationErrors

/-- The large object listed for the key of an operation and a column. -/
def readBlob (id : Nat) (column : UInt32) (engine : Playback) : Option Bytes :=
  (engine.operation? id).bind fun operation =>
    lookupLast (operation.key, column)
      (engine.script.blobs.map fun (key, column, value) => ((key, column), value))

/-- Starts as the script says. -/
def tryStart (hint : Option KeyOperation) (engine : Playback) : Answer Bool × Playback :=
  if engine.script.plain then (.returned false, engine)
  else
    (.returned (engine.script.start.getD hint.isSome),
      { engine with hints := engine.hints ++ [hint] })

instance : Engine Playback where
  define := define
  createQuery := createQuery
  execute := execute
  operationError id engine := (.returned (engine.operationError id), engine)
  error engine := (.returned engine.script.error, engine)
  readBlob id column engine := (.returned (engine.readBlob id column), engine)
  tryStart := tryStart
  close engine := (.returned (), { engine with closes := engine.closes + 1 })

/-- Adds the calls on a cursor of this engine to its record. -/
def noteCursorCalls (effects : List Effect) (engine : Playback) : Playback :=
  let calls := Effect.cursorCalls effects
  { engine with
    polls := engine.polls + calls.count .poll
    cursorsClosed := engine.cursorsClosed + calls.count .close }

end Playback

end StorageClient
