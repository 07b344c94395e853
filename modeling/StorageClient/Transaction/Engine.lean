import StorageClient.Action
/-!
# StorageClient.Transaction.Engine

The engine's side of a transaction. The library does not know what a transaction is made of: any
type with the calls of `Engine` will do, and any call may panic. Nothing is required of the
answers, so what is proved holds for every engine.

`Transaction.define` and its siblings are those calls as actions whose effects tell that they were
made, and what the engine answered.
-/

namespace StorageClient

/-- Transactions of an engine, with states in `σ`. -/
class Engine (σ : Type) where
  /-- Takes in an operation, and names it. -/
  define : KeyOperation → σ → Answer (Except EngineError Nat) × σ
  createQuery : Query → σ → Answer (Except EngineError Cursor) × σ
  /-- Makes one round trip for everything defined so far. -/
  execute : RoundTrip → σ → Answer (Except EngineError Unit) × σ
  operationError : Nat → σ → Answer (Option EngineError) × σ
  error : σ → Answer (Option EngineError) × σ
  /-- A large object that a round trip read back. -/
  readBlob : Nat → UInt32 → σ → Answer (Option Bytes) × σ
  /-- Starts the transaction if that can be done now; `hint` helps to pick a node. Unless an engine
  has a way to do so, it cannot be done. -/
  tryStart : (hint : Option KeyOperation) → σ → Answer Bool × σ := fun _ state =>
    (.returned false, state)
  /-- Releases the transaction. -/
  close : σ → Answer Unit × σ

namespace Transaction

variable {σ : Type} [Engine σ]

/-- A call on a transaction, told of by an effect. -/
def call {α : Type} (run : σ → Answer α × σ) (told : Answer α → TransactionCall) : Action σ α :=
  fun state => ⟨run state, [.transaction (told (run state).1)]⟩

def define (operation : KeyOperation) : Action σ (Except EngineError Nat) :=
  call (Engine.define operation) (.define operation)

def createQuery (query : Query) : Action σ (Except EngineError Cursor) :=
  call (Engine.createQuery query) (.createQuery query)

def execute (options : RoundTrip) : Action σ (Except EngineError Unit) :=
  call (Engine.execute options) (.execute options)

def operationError (id : Nat) : Action σ (Option EngineError) :=
  call (Engine.operationError id) (.operationError id)

def error : Action σ (Option EngineError) :=
  call Engine.error .error

def readBlob (id : Nat) (column : UInt32) : Action σ (Option Bytes) :=
  call (Engine.readBlob id column) (.readBlob id column)

def tryStart (hint : Option KeyOperation) : Action σ Bool :=
  call (Engine.tryStart hint) (.tryStart hint)

def close : Action σ Unit :=
  call Engine.close .close

end Transaction

end StorageClient
