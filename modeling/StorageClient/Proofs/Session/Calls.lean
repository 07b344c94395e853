import Mathlib.Logic.Function.Basic
import StorageClient.Batch.Awaited
import StorageClient.Chain.Compile
import StorageClient.Proofs.Batch.Session
import StorageClient.Proofs.Fetch.Lifecycle
import StorageClient.Proofs.Tree.Calls
/-!
# StorageClient.Proofs.Session.Calls

Sessions: everything that clients do with the library, call by call. A session has any number of
builders, queries, executors, batches and transactions, and a transaction may be used by any number
of executors and batches, in any order.

* Objects have names. A call on an object that is not there, or that makes one that is there
  already, is impossible, and nothing happens.
* An object may be lost by a call. A builder is used up when its tree is finalized, a batch that was
  handed over is lost if its run panics, and so is an executor on a task.
* Transactions are told apart by their ids, and are always there. A batch that was prepared uses the
  transaction it is bound to, whichever the call names.

What a call is answered, and what it does outside, is kept (`Session.exchanges`).
-/

namespace StorageClient

namespace Session

variable {σ α : Type}

/-! ### Answers -/

/-- What a call is answered. -/
inductive Response
  /-- There is no object of that name, or there is one already. -/
  | impossible
  | panicked (text : String)
  | done
  | level (answer : Except DefinitionError LevelRef)
  | query (answer : Except DefinitionError Query)
  | fetch (answer : Except FetchError Executor.Response)
  | batch (answer : Except BatchError Batch.Response)
  | submission (submission : Batch.Submission)
  | outcome (answer : Except BatchError Outcome)
  | entryError (answer : Except BatchError (Option EngineError))
  | blobs (answer : Except BatchError (List (Nat × Bytes)))
  | transaction (answer : Except EngineError Unit)
  | transactionError (error : Option EngineError)
  | closed (closed : Bool)

/-- The answer of a call that may panic. -/
def Response.of (tell : α → Response) : Answer α → Response
  | .returned value => tell value
  | .panicked text => .panicked text

/-! ### Calls on one object -/

/-- A call on an executor. Those that need a transaction are given one. -/
inductive OnExecutor
  | createRowBuffer (level : Nat) (record : Record)
  | markJoinOnly (level : Nat)
  | createQuery
  | run
  | runOnTask (task : String)
  | fetchAll
  | close
  | takeData (index : Nat)
  | drop

/-- Makes a call on an executor. Yields the executor, unless it is lost. -/
def OnExecutor.perform [Memory] [Sink] [Engine σ] (executor : Executor)
    (shared : SharedTransaction σ) :
    OnExecutor → Traced (Response × Option Executor × SharedTransaction σ)
  | createRowBuffer level record => setUp (executor.createRowBuffer level record)
  | markJoinOnly level => setUp (executor.markJoinOnly level)
  | createQuery => do
    let (answer, executor, shared) ← Executor.createQuery (executor, shared)
    return (.of (fun result => .fetch (result.map fun () => .done)) answer, some executor, shared)
  | run => do
    let (answer, executor, shared) ← Executor.run (executor, shared)
    return (.of (fun result => .fetch (result.map .rows)) answer, some executor, shared)
  | runOnTask task => do
    match ← Executor.runOnTask task executor shared with
    | (.ok (executor, result), shared) => return (.fetch (result.map .rows), some executor, shared)
    | (.error error, shared) => return (.fetch (.error error), none, shared)
  | fetchAll => do
    let (answer, executor) ← Executor.fetchAll executor
    return (.of (fun result => .fetch (result.map .rows)) answer, some executor, shared)
  | close => do
    let (answer, executor) ← Executor.close executor
    return (.of (fun () => .done) answer, some executor, shared)
  | takeData index =>
    let (image, executor) := executor.takeData index
    return (.fetch (.ok (.data image)), some executor, shared)
  | drop => do
    let _ ← Executor.close executor
    return (.done, none, shared)
where
  setUp : Except FetchError Executor → Traced (Response × Option Executor × SharedTransaction σ)
    | .ok changed => return (.fetch (.ok .done), some changed, shared)
    | .error error => return (.fetch (.error error), some executor, shared)

/-- A call on a batch. -/
inductive OnBatch
  | plain (request : Batch.Request)
  /-- Hands the batch over, and has it handed back. -/
  | submit (task : Option String) (options : RoundTrip)
  /-- Gives up waiting for the round trip. -/
  | abandon (options : RoundTrip)
  | outcome (n : Nat)
  | entryError (n : Nat)
  | blobResults (n : Nat)

/-- The round trip that a call on a batch asks for. -/
def OnBatch.options? : OnBatch → Option RoundTrip
  | plain (.execute options) | plain (.executeAwaited _ options) | submit _ options
  | abandon options => some options
  | _ => none

/-- Makes a call on a batch. Yields the batch, unless it is lost. -/
def OnBatch.perform [Sink] [Engine σ] (batch : Batch) (shared : SharedTransaction σ) :
    OnBatch → Traced (Response × Option Batch × SharedTransaction σ)
  | plain request => do
    let (answer, batch, shared) ← request.perform (batch, shared)
    return (.of .batch answer, some batch, shared)
  | submit task options => do
    let (answer, shared) ← Batch.submit task options batch shared
    return (.of .submission answer, handedBack? answer, shared)
  | abandon options => do
    let (answer, batch, shared) ← Batch.executeAbandoned options (batch, shared)
    return (.of (fun result => .batch (result.map fun () => .done)) answer, some batch, shared)
  | outcome n => return (.outcome (batch.outcome n), some batch, shared)
  | entryError n => return (.entryError (batch.error? n), some batch, shared)
  | blobResults n => return (.blobs (batch.blobResults n), some batch, shared)
where
  handedBack? : Answer Batch.Submission → Option Batch
    | .returned submission => submission.notifications.head?.map Batch.Notification.batch
    | .panicked _ => none

/-- A call on a transaction itself. -/
inductive OnTransaction (σ : Type)
  | isClosed
  | error
  | registerClose
  | close
  /-- Does something of the caller's with the engine. -/
  | use (body : σ → Answer Unit × σ)

def OnTransaction.perform [Sink] [Engine σ] (shared : SharedTransaction σ) :
    OnTransaction σ → Traced (Response × SharedTransaction σ)
  | isClosed => return (.closed shared.closed, shared)
  | error => do
    let (answer, shared) ← SharedTransaction.error shared
    return (.of .transactionError answer, shared)
  | registerClose => do
    let (answer, shared) ← SharedTransaction.registerClose shared
    return (.of (fun () => .done) answer, shared)
  | close => do
    let (answer, shared) ← SharedTransaction.close shared
    return (.of .transaction answer, shared)
  | use body => do
    let (answer, shared) ← SharedTransaction.use (fun engine => ⟨body engine, []⟩) shared
    return (.of .transaction answer, shared)

end Session

/-! ### Sessions -/

/-- All objects that clients hold, by name, and all transactions, by id. -/
structure Session (σ : Type) where
  builders : String → Option Builder
  queries : String → Option Query
  executors : String → Option Executor
  batches : String → Option Batch
  transactions : String → SharedTransaction σ

namespace Session

variable {σ : Type}

/-- The transaction with an id. -/
def transaction (session : Session σ) (id : String) : SharedTransaction σ :=
  { session.transactions id with id }

def setTransaction (session : Session σ) (id : String) (shared : SharedTransaction σ) :
    Session σ :=
  { session with transactions := Function.update session.transactions id shared }

def setBuilder (session : Session σ) (name : String) (builder? : Option Builder) : Session σ :=
  { session with builders := Function.update session.builders name builder? }

def setExecutor (session : Session σ) (name : String) (executor? : Option Executor) : Session σ :=
  { session with executors := Function.update session.executors name executor? }

def setBatch (session : Session σ) (name : String) (batch? : Option Batch) : Session σ :=
  { session with batches := Function.update session.batches name batch? }

/-- Keeps a query that was prepared. -/
def keepQuery (session : Session σ) (answer : Except DefinitionError Query) : Session σ :=
  match answer with
  | .ok query => { session with queries := Function.update session.queries query.id (some query) }
  | .error _ => session

@[simp] theorem transactions_keepQuery (session : Session σ)
    (answer : Except DefinitionError Query) :
    (session.keepQuery answer).transactions = session.transactions := by
  cases answer <;> rfl

@[simp] theorem batches_keepQuery (session : Session σ) (answer : Except DefinitionError Query) :
    (session.keepQuery answer).batches = session.batches := by
  cases answer <;> rfl

/-- A call in a session. -/
inductive Call (σ : Type)
  | newBuilder (name : String)
  | builder (name : String) (call : Builder.Call)
  /-- Finalizes the tree of a builder as a query. -/
  | prepare (builder : String) (root : LevelRef) (query : String)
  | compile (chain : Chain) (query : String)
  | newExecutor (name query : String) (config : Config)
  | executor (name transaction : String) (call : OnExecutor)
  | newBatch (name : String) (operations : List KeyOperation)
  | batch (name transaction : String) (call : OnBatch)
  | transaction (id : String) (call : OnTransaction σ)

/-- The transaction that a call is made on. -/
def Call.transaction? (session : Session σ) : Call σ → Option String
  | executor _ named _ => some named
  | batch name named _ => some <| ((session.batches name).bind Batch.transaction?).getD named
  | transaction id _ => some id
  | _ => none

/-- Makes a call. -/
def perform [Memory] [Sink] [Engine σ] (session : Session σ) :
    Call σ → Traced (Response × Session σ)
  | .newBuilder name =>
    match session.builders name with
    | some _ => return (.impossible, session)
    | none => return (.done, session.setBuilder name (some .empty))
  | .builder name call =>
    match session.builders name with
    | none => return (.impossible, session)
    | some builder => do
      let (answer, builder) ← call.perform builder
      return (.level answer, session.setBuilder name (some builder))
  | .prepare name root id =>
    match session.builders name with
    | none => return (.impossible, session)
    | some builder => do
      let answer ← builder.prepare root id
      return (.query answer, (session.setBuilder name none).keepQuery answer)
  | .compile chain id => do
    let answer ← chain.compile id
    return (.query answer, session.keepQuery answer)
  | .newExecutor name query config =>
    match session.executors name, session.queries query with
    | none, some query => return (.done, session.setExecutor name (some (.new query config)))
    | _, _ => return (.impossible, session)
  | .executor name named call =>
    match session.executors name with
    | none => return (.impossible, session)
    | some executor => do
      let (response, left, shared) ← call.perform executor (session.transaction named)
      return (response, (session.setExecutor name left).setTransaction named shared)
  | .newBatch name operations =>
    match session.batches name with
    | some _ => return (.impossible, session)
    | none => return (.done, session.setBatch name (some (.new operations)))
  | .batch name named call =>
    match session.batches name with
    | none => return (.impossible, session)
    | some batch => do
      let id := batch.transaction?.getD named
      let (response, left, shared) ← call.perform batch (session.transaction id)
      return (response, (session.setBatch name left).setTransaction id shared)
  | .transaction id call => do
    let (response, shared) ← call.perform (session.transaction id)
    return (response, session.setTransaction id shared)

/-! ### Sequences of calls -/

end Session

/-- A call with its answer and its effects, and with the transaction it was made on. -/
structure Session.Exchange (σ : Type) where
  call : Call σ
  transaction? : Option String
  response : Response
  effects : List Effect

namespace Session

variable {σ : Type} [Memory] [Engine σ]

def exchange (session : Session σ) (call : Call σ) : Exchange σ :=
  ⟨call, call.transaction? session, (session.perform call).value.1, (session.perform call).effects⟩

def next (session : Session σ) (call : Call σ) : Session σ := (session.perform call).value.2

/-- What comes of calls that are made one after the other. -/
def exchanges (session : Session σ) : List (Call σ) → List (Exchange σ)
  | [] => []
  | call :: calls => session.exchange call :: (session.next call).exchanges calls

/-- The session after some calls. -/
def after (session : Session σ) (calls : List (Call σ)) : Session σ := calls.foldl next session

theorem after_cons (session : Session σ) (call : Call σ) (calls : List (Call σ)) :
    session.after (call :: calls) = (session.next call).after calls := rfl

/-- Every exchange is that of its call, after the calls before it. -/
theorem getElem?_exchanges (session : Session σ) (calls : List (Call σ)) (n : Nat) :
    (session.exchanges calls)[n]? = calls[n]?.map (session.after (calls.take n)).exchange := by
  induction calls generalizing session n with
  | nil => rfl
  | cons call calls ih =>
    cases n with
    | zero => rfl
    | succ n => exact ih (session.next call) n

end Session

end StorageClient
