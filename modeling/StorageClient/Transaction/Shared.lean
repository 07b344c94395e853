import StorageClient.Telemetry.Event
import StorageClient.Transaction.Engine
/-!
# StorageClient.Transaction.Shared

A transaction that many batches and executors hold at once. Whoever uses it has it alone for the
time of the use. If a call panics in that time, the transaction may be half way through something,
so from then on every use is refused: the transaction is *poisoned*.

Next to the engine's state there is a flag that says whether the transaction was recorded as
closed. It is set once, with one line in the log, and never taken back.
-/

namespace StorageClient

/-- A transaction shared by everybody who holds it. -/
structure SharedTransaction (σ : Type) where
  /-- What tells this transaction from all others. -/
  id : String
  engine : σ
  /-- Whether a call panicked while the transaction was in use. -/
  poisoned : Bool
  closed : Bool
  deriving Repr

namespace SharedTransaction

variable {σ τ α : Type}

/-- A transaction that nobody has used yet. -/
def new (id : String) (engine : σ) : SharedTransaction σ := ⟨id, engine, false, false⟩

/-- Uses the transaction alone, to change something of the user's along with it. A poisoned
transaction cannot be used, and a panic poisons it. -/
def useWith (body : Action (τ × σ) α) :
    Action (τ × SharedTransaction σ) (Except EngineError α) := fun (thing, shared) =>
  if shared.poisoned then pure (.returned (.error .lockPoisoned), thing, shared)
  else Traced.bind (body (thing, shared.engine)) fun
    | (.returned value, thing, engine) =>
      pure (.returned (.ok value), thing, { shared with engine })
    | (.panicked text, thing, engine) =>
      pure (.panicked text, thing, { shared with engine, poisoned := true })

/-- Uses the transaction alone. -/
def use (body : Action σ α) : Action (SharedTransaction σ) (Except EngineError α) := fun shared =>
  Traced.bind (useWith (τ := Unit) (Action.onSecond body) ((), shared)) fun (answer, _, shared) =>
    pure (answer, shared)

/-- Uses the transaction for something that the engine may refuse. -/
def attempt (body : Action σ (Except EngineError α)) :
    Action (SharedTransaction σ) (Except EngineError α) := do
  match ← use body with
  | .ok result => pure result
  | .error refusal => pure (.error refusal)

/-- The error of the transaction; of a poisoned one, that it is poisoned. -/
def error [Engine σ] : Action (SharedTransaction σ) (Option EngineError) := do
  match ← use Transaction.error with
  | .ok error => pure error
  | .error refusal => pure (some refusal)

/-- Records that the transaction is over, unless that was recorded before. The engine is not
asked: it has released the transaction already. -/
def registerClose [Sink] : Action (SharedTransaction σ) Unit := fun shared =>
  if shared.closed then pure (.returned (), shared)
  else do
    Traced.log (Event.transactionClosed.line [("transaction", .text shared.id)])
    return (.returned (), { shared with closed := true })

/-- Releases the transaction and records that it is over. -/
def close [Sink] [Engine σ] : Action (SharedTransaction σ) (Except EngineError Unit) := do
  match ← use Transaction.close with
  | .ok () =>
    registerClose
    pure (.ok ())
  | .error refusal => pure (.error refusal)

/-- What a developer is shown. -/
def debugText (shared : SharedTransaction σ) : String :=
  s!"TransactionHandle \x7b id: {shared.id}, closed: {shared.closed} \x7d"

/-! ### Uses -/

/-- A poisoned transaction refuses every use, and nothing changes. -/
theorem useWith_of_poisoned {shared : SharedTransaction σ} (body : Action (τ × σ) α) (thing : τ)
    (h : shared.poisoned = true) :
    useWith body (thing, shared) = pure (.returned (.error .lockPoisoned), thing, shared) := by
  simp [useWith, h]

/-- A use that returns changes the engine's state and nothing else of the transaction. -/
theorem useWith_of_returned {shared : SharedTransaction σ} {body : Action (τ × σ) α}
    {thing thing' : τ} {value : α} {engine : σ} {effects : List Effect}
    (h : shared.poisoned = false)
    (hbody : body (thing, shared.engine) = ⟨(.returned value, thing', engine), effects⟩) :
    useWith body (thing, shared) =
      ⟨(.returned (.ok value), thing', { shared with engine }), effects⟩ := by
  simp [useWith, h, hbody, Traced.bind]

/-- A use that panics poisons the transaction. -/
theorem useWith_of_panicked {shared : SharedTransaction σ} {body : Action (τ × σ) α}
    {thing thing' : τ} {text : String} {engine : σ} {effects : List Effect}
    (h : shared.poisoned = false)
    (hbody : body (thing, shared.engine) = ⟨(.panicked text, thing', engine), effects⟩) :
    useWith body (thing, shared) =
      ⟨(.panicked text, thing', { shared with engine, poisoned := true }), effects⟩ := by
  simp [useWith, h, hbody, Traced.bind]

/-- No use changes whether the transaction is recorded as closed. -/
@[simp] theorem closed_useWith (body : Action (τ × σ) α) (thing : τ)
    (shared : SharedTransaction σ) :
    (useWith body (thing, shared)).value.2.2.closed = shared.closed := by
  by_cases h : shared.poisoned = true
  · simp [useWith_of_poisoned body thing h]
  · rw [Bool.not_eq_true] at h
    rcases hbody : body (thing, shared.engine) with ⟨⟨answer, thing', engine⟩, effects⟩
    cases answer with
    | returned value => simp [useWith_of_returned h hbody]
    | panicked text => simp [useWith_of_panicked h hbody]

/-- No use changes which transaction it is. -/
@[simp] theorem id_useWith (body : Action (τ × σ) α) (thing : τ) (shared : SharedTransaction σ) :
    (useWith body (thing, shared)).value.2.2.id = shared.id := by
  by_cases h : shared.poisoned = true
  · simp [useWith_of_poisoned body thing h]
  · rw [Bool.not_eq_true] at h
    rcases hbody : body (thing, shared.engine) with ⟨⟨answer, thing', engine⟩, effects⟩
    cases answer with
    | returned value => simp [useWith_of_returned h hbody]
    | panicked text => simp [useWith_of_panicked h hbody]

@[simp] theorem closed_registerClose (shared : SharedTransaction σ) :
    (registerClose shared).value.2.closed = true := by
  unfold registerClose
  split <;> simp_all

end SharedTransaction

end StorageClient
