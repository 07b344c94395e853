import StorageClient.Proofs.Actions
import StorageClient.Proofs.Batch.Session
/-!
# StorageClient.Proofs.Batch.Fields

A batch with its state, its transaction and the error of the transaction side by side
(`Batch.Fields`).

The calls check and write each of them for itself: a round trip needs a transaction and then the
right state, and when it is recorded the transaction stays what it was. That a batch has a
transaction as soon as it is not built any more, and an error of the transaction only once it is
executed, is derived from the phases of a `Batch` by a simulation (`Fields.perform_fields`).

Whoever uses a batch hands over the transaction it was prepared on (`Bound`). A phase says again
which one that is when the round trip is recorded, so this matters there.
-/

namespace StorageClient.Batch

variable {σ τ α : Type}

/-- How far a batch has come, and no more. -/
inductive State
  | built
  | prepared
  | executed
  deriving Repr, DecidableEq

def State.name : State → String
  | built => "BUILT"
  | prepared => "PREPARED"
  | executed => "EXECUTED"

/-- A list of operations for one round trip, with everything that is known of the round trip in a
field of its own. -/
structure Fields where
  entries : List Entry
  state : State
  transaction : Option String
  transactionError : Option EngineError
  deriving Repr, DecidableEq

namespace Fields

/-! ### The calls -/

def new (operations : List KeyOperation) : Fields := ⟨operations.map Entry.new, .built, none, none⟩

def wrongState (fields : Fields) (call : BatchCall) (required : String) : BatchError :=
  .illegalState call fields.state.name required

/-- Refuses a call that needs another state. -/
def require (fields : Fields) (required : State) (call : BatchCall) : Except BatchError Unit :=
  if fields.state = required then .ok () else .error (fields.wrongState call required.name)

/-- The transaction of a call that needs one. -/
def boundTransaction (fields : Fields) (call : BatchCall) : Except BatchError String :=
  match fields.transaction with
  | some transaction => .ok transaction
  | none => .error (fields.wrongState call "PREPARED")

def setError (fields : Fields) (n : Nat) (error : EngineError) : Except BatchError Fields :=
  if fields.state = .executed then .error (fields.wrongState .setError "BUILT or PREPARED")
  else if n < fields.entries.length then
    .ok { fields with
      entries := fields.entries.modify n fun entry =>
        { entry with id := none, slot := .operation error } }
  else .error (.entryOutOfRange n fields.entries.length)

def onEntries (action : Action (List Entry × τ) α) : Action (Fields × τ) α := fun (fields, rest) =>
  match action (fields.entries, rest) with
  | ⟨(answer, entries, rest), effects⟩ => ⟨(answer, { fields with entries }, rest), effects⟩

def prepare [Sink] [Engine σ] : Action (Fields × SharedTransaction σ) (Except BatchError Unit) := do
  let (fields, shared) ← Action.get
  match fields.require .built .prepare with
  | .error error => return .error error
  | .ok () =>
    match ← onEntries (SharedTransaction.useWith defineEntries) with
    | .error refusal => return .error (.transaction refusal)
    | .ok defined =>
      Action.onFirst <| Action.modify fun fields =>
        { fields with transaction := some shared.id, state := .prepared }
      Action.log <| Event.batchPrepared.line [
        ("defined", .text (toString defined)),
        ("size", .text (toString fields.entries.length)),
        ("transaction", .text shared.id)]
      return .ok ()

def tryStart [Engine σ] : Action (Fields × SharedTransaction σ) (Except BatchError Bool) := do
  let (fields, _) ← Action.get
  match fields.boundTransaction .tryStart with
  | .error error => return .error error
  | .ok _ =>
    let hint := fields.entries.head?.map Entry.operation
    match ← Action.onSecond (SharedTransaction.use (Transaction.tryStart hint)) with
    | .ok started => return .ok started
    | .error refusal => return .error (.transaction refusal)

def start [Sink] (call : BatchCall) (options : RoundTrip) :
    Action (Fields × SharedTransaction σ) (Except BatchError Scope) := do
  let (fields, shared) ← Action.get
  match fields.boundTransaction call, fields.require .prepared call with
  | .error error, _ => return .error error
  | .ok _, .error error => return .error error
  | .ok _, .ok () =>
    let size := toString fields.entries.length
    Action.log <| Event.batchExecuteStart.line [
      ("abort", .text options.abort.name),
      ("exec", .text options.exec.name),
      ("send", .text options.send.name),
      ("size", .text size),
      ("transaction", .text shared.id)]
    return .ok ⟨"BATCH_EXECUTE", [("exec", .text options.exec.name), ("size", .text size)]⟩

/-- Records a round trip. The transaction of the batch is not written. -/
def record [Sink] (exec : ExecType) (transactionError : Option EngineError) :
    Action (Fields × SharedTransaction σ) Report := do
  let (_, shared) ← Action.get
  Action.onFirst <| Action.modify fun fields =>
    { fields with transactionError, state := .executed }
  let (fields, _) ← Action.get
  let outcomes := fields.entries.map (outcomeOf fields.transactionError)
  let report : Report := ⟨exec, outcomes, fields.transactionError⟩
  Action.count .batchesExecuted
  Action.lift (Traced.emit (.count .batchEntryFailures report.failures))
  let failures := toString report.failures
  match transactionError with
  | some error =>
    Action.log <| Event.batchExecuteFailed.line [
      ("code", .text (toString error.code)),
      ("failures", .text failures),
      ("transaction", .text shared.id)]
    return report
  | none =>
    Action.log <| Event.batchExecuteComplete.line [
      ("failures", .text failures),
      ("transaction", .text shared.id)]
    return report

def complete [Sink] (exec : ExecType) (collected : Except EngineError (Option EngineError)) :
    Action ((Fields × SharedTransaction σ) × Option OpenScope) (Except BatchError Report) := do
  match collected with
  | .error refusal =>
    Action.closeScope (.failed refusal.message)
    return .error (.transaction refusal)
  | .ok transactionError =>
    let report ← Action.onFirst (record exec transactionError)
    Action.closeScope (closingOf report)
    return .ok report

def execute [Sink] [Engine σ] (options : RoundTrip) :
    Action (Fields × SharedTransaction σ) (Except BatchError Report) := do
  match ← start .execute options with
  | .error error => return .error error
  | .ok scope =>
    Action.within scope do
      let collected ← Action.onFirst (onEntries (roundTrip options))
      complete options.exec collected

def roundTripOnTask [Sink] [Engine σ] (options : RoundTrip) :
    Action (Fields × SharedTransaction σ)
      (Answer (List Entry × Except EngineError (Option EngineError))) := do
  let (fields, _) ← Action.get
  Action.onSecond (Action.spawn (Action.onCopy fields.entries (roundTrip options)))

def executeAwaited [Sink] [Engine σ] (task : String) (options : RoundTrip) :
    Action (Fields × SharedTransaction σ) (Except BatchError Report) := do
  match ← start .executeAwaited options with
  | .error error => return .error error
  | .ok scope =>
    Action.within scope do
      match ← Action.onFirst (roundTripOnTask options) with
      | .returned (entries, collected) =>
        Action.onFirst <| Action.onFirst <| Action.modify fun fields => { fields with entries }
        complete options.exec collected
      | .panicked text =>
        let error := BatchError.taskFailed (Task.lost task text)
        Action.closeScope (.failed error.message)
        return .error error

def executedEntry (fields : Fields) (call : BatchCall) (n : Nat) : Except BatchError Entry := do
  fields.require .executed call
  match fields.entries[n]? with
  | some entry => .ok entry
  | none => .error (.entryOutOfRange n fields.entries.length)

def outcome (fields : Fields) (n : Nat) : Except BatchError Outcome :=
  (fields.executedEntry .outcome n).map (outcomeOf fields.transactionError)

def blobResults (fields : Fields) (n : Nat) : Except BatchError (List (Nat × Bytes)) :=
  (fields.executedEntry .readBlobResults n).map fun entry => entry.operation.blobResults

/-- Makes a call. -/
def perform [Sink] [Engine σ] :
    Request → Action (Fields × SharedTransaction σ) (Except BatchError Response)
  | .setError n error => fun (fields, shared) =>
    let result := fields.setError n error
    pure (.returned (result.map fun _ => .done), result.toOption.getD fields, shared)
  | .prepare => telling (fun () => .done) prepare
  | .tryStart => telling .started tryStart
  | .execute options => telling .report (execute options)
  | .executeAwaited task options => telling .report (executeAwaited task options)

end Fields

/-! ### The fields of a batch -/

def Phase.state : Phase → State
  | built => .built
  | prepared _ => .prepared
  | executed .. => .executed

theorem Phase.name_state (phase : Phase) : phase.state.name = phase.name := by
  cases phase <;> rfl

/-- The fields of a batch. -/
def fields (batch : Batch) : Fields where
  entries := batch.entries
  state := batch.phase.state
  transaction := batch.transaction?
  transactionError := batch.transactionError

/-- The transaction of a batch is the one at hand, if it has one yet. -/
def Bound (batch : Batch) (shared : SharedTransaction σ) : Prop :=
  ∀ transaction, batch.transaction? = some transaction → transaction = shared.id

namespace Fields

open StorageClient.Action (Shows)

variable {batch : Batch} {shared : SharedTransaction σ}

theorem wrongState_fields (batch : Batch) (call : BatchCall) (required : String) :
    batch.fields.wrongState call required = batch.wrongPhase call required := by
  rw [wrongState, wrongPhase, ← batch.phase.name_state]
  rfl

theorem require_fields (batch : Batch) (required : State) (call : BatchCall) :
    batch.fields.require required call =
      if batch.phase.state = required then .ok ()
      else .error (batch.wrongPhase call required.name) := by
  rw [← wrongState_fields]
  rfl

theorem boundTransaction_fields (batch : Batch) (call : BatchCall) :
    batch.fields.boundTransaction call =
      match batch.transaction? with
      | some transaction => .ok transaction
      | none => .error (batch.wrongPhase call "PREPARED") := by
  rw [← wrongState_fields]
  rfl

theorem setError_fields (batch : Batch) (n : Nat) (error : EngineError) :
    batch.fields.setError n error = (batch.setError n error).map Batch.fields := by
  obtain ⟨entries, phase⟩ := batch
  cases phase with
  | executed => rfl
  | built | prepared =>
    by_cases hn : n < entries.length
    · simp [Batch.fields, setError, Batch.setError, Phase.state, hn, Batch.length, Except.map,
        Batch.transaction?, Phase.transaction?, Batch.transactionError, Phase.transactionError]
    · simp [Batch.fields, setError, Batch.setError, Phase.state, hn, Batch.length, Except.map]

theorem shows_onEntries (action : Action (List Entry × τ) α) (batch : Batch) (rest : τ) :
    Shows (Prod.map Batch.fields id) (onEntries action) (Batch.onEntries action) (batch, rest) :=
  rfl

theorem shows_prepare [Engine σ] (batch : Batch) (shared : SharedTransaction σ) :
    Shows (Prod.map Batch.fields id) prepare Batch.prepare (batch, shared) := by
  refine .get ?_
  cases hphase : batch.phase with
  | prepared | executed =>
    simp only [Prod.map_apply, require_fields, hphase]
    exact .pure _
  | built =>
    simp only [Prod.map_apply, require_fields, hphase, Phase.state, if_true]
    refine .bind (shows_onEntries _ _ _) fun answer after hdefined => ?_
    have hafter : after.1.phase = .built := by
      obtain rfl := congrArg Prod.snd hdefined
      exact hphase
    cases answer with
    | error refusal => exact .pure _
    | ok defined =>
      refine .bind (.onFirst (.modify ?_) _) fun _ _ _ => .lift _ (.pure _)
      simp only [Batch.fields, Batch.transactionError, hafter]
      rfl

theorem shows_tryStart [Engine σ] (batch : Batch) (shared : SharedTransaction σ) :
    Shows (Prod.map Batch.fields id) tryStart Batch.tryStart (batch, shared) := by
  refine .get ?_
  dsimp only [Prod.map_apply]
  rw [boundTransaction_fields]
  cases batch.transaction? with
  | none => exact .pure _
  | some transaction =>
    refine .bind (.onSecond _ _) fun answer after _ => ?_
    cases answer <;> exact .pure _

theorem shows_start (batch : Batch) (shared : SharedTransaction σ) (call : BatchCall)
    (options : RoundTrip) :
    Shows (Prod.map Batch.fields id) (start call options) (Batch.start call options)
      (batch, shared) := by
  refine .get ?_
  dsimp only [Prod.map_apply]
  rw [boundTransaction_fields, require_fields, Batch.transaction?]
  cases hphase : batch.phase with
  | built => exact .pure _
  | prepared => exact .lift _ (.pure _)
  | executed => exact .pure _

/-- The transaction that is not written is the one that the phase names. -/
theorem shows_record (hphase : batch.phase = .prepared shared.id) (exec : ExecType)
    (transactionError : Option EngineError) :
    Shows (Prod.map Batch.fields id) (record exec transactionError)
      (Batch.record exec transactionError) (batch, shared) := by
  refine .get (.bind (.onFirst (.modify ?_) _) fun _ after hmodified => .get ?_)
  · simp only [Batch.fields, Batch.transaction?, hphase]
    rfl
  · refine .lift _ (.lift _ ?_)
    obtain rfl := congrArg Prod.snd hmodified
    cases transactionError <;> exact .lift _ (.pure _)

theorem shows_complete {state : (Batch × SharedTransaction σ) × Option OpenScope}
    (hphase : state.1.1.phase = .prepared state.1.2.id) (exec : ExecType)
    (collected : Except EngineError (Option EngineError)) :
    Shows (Prod.map (Prod.map Batch.fields id) id) (complete exec collected)
      (Batch.complete exec collected) state := by
  cases collected with
  | error refusal => exact .closeScope _ _ (.pure _)
  | ok transactionError =>
    exact .bind (.onFirst (shows_record hphase _ _) _) fun _ _ _ => .closeScope _ _ (.pure _)

theorem id_roundTrip [Engine σ] (options : RoundTrip) (entries : List Entry)
    (shared : SharedTransaction σ) :
    (roundTrip options (entries, shared)).value.2.2.id = shared.id := by
  have htripping := tripping options entries shared
  generalize (roundTrip options (entries, shared)).value = came, Effect.transactionCalls _ = calls
    at htripping ⊢
  cases htripping <;> rfl

/-- A batch that starts a round trip is prepared, on the transaction at hand. -/
theorem prepared_of_start (hbound : Bound batch shared) {call : BatchCall} {options : RoundTrip}
    {scope : Scope} {after : Batch × SharedTransaction σ}
    (h : (Batch.start call options (batch, shared)).value = (.returned (.ok scope), after)) :
    after = (batch, shared) ∧ batch.phase = .prepared shared.id := by
  obtain ⟨entries, phase⟩ := batch
  cases phase with
  | built | executed => exact nomatch congrArg Prod.fst h
  | prepared transaction =>
    obtain rfl := hbound transaction rfl
    exact ⟨(congrArg Prod.snd h).symm, rfl⟩

theorem shows_execute [Engine σ] (hbound : Bound batch shared) (options : RoundTrip) :
    Shows (Prod.map Batch.fields id) (execute options) (Batch.execute options)
      (batch, shared) := by
  refine .bind (shows_start batch shared _ _) fun started after hstarted => ?_
  cases started with
  | error error => exact .pure _
  | ok scope =>
    obtain ⟨rfl, hprepared⟩ := prepared_of_start hbound hstarted
    refine .within (.bind (.onFirst (shows_onEntries _ _ _) _) fun collected after htrip => ?_)
    obtain rfl := congrArg Prod.snd htrip
    refine shows_complete ?_ ..
    exact hprepared.trans (congrArg _ (id_roundTrip options batch.entries shared).symm)

theorem shows_executeAwaited [Engine σ] (hbound : Bound batch shared) (task : String)
    (options : RoundTrip) :
    Shows (Prod.map Batch.fields id) (executeAwaited task options)
      (Batch.executeAwaited task options) (batch, shared) := by
  refine .bind (shows_start batch shared _ _) fun started after hstarted => ?_
  cases started with
  | error error => exact .pure _
  | ok scope =>
    obtain ⟨rfl, hprepared⟩ := prepared_of_start hbound hstarted
    refine .within (.bind (.onFirst (.get (.onSecond _ _)) _) fun done after hdone => ?_)
    have hafter : after.1.1 = batch ∧ after.1.2.id = shared.id := by
      have hid := id_roundTrip options batch.entries shared
      rcases htrip : roundTrip options (batch.entries, shared) with
        ⟨⟨answer, entries', shared'⟩, effects⟩
      rw [Action.onFirst_of (roundTripOnTask_eq htrip) _] at hdone
      rw [htrip] at hid
      obtain rfl := congrArg Prod.snd hdone
      exact ⟨rfl, hid⟩
    cases done with
    | panicked text => exact .closeScope _ _ (.pure _)
    | returned came =>
      refine .bind rfl fun _ last htaken => shows_complete ?_ ..
      obtain rfl := congrArg Prod.snd htaken
      exact (congrArg Batch.phase hafter.1).trans (hprepared.trans (congrArg _ hafter.2.symm))

theorem shows_telling {β γ : Type} {shown : Action (Fields × τ) (Except BatchError β)}
    {action : Action (Batch × τ) (Except BatchError β)} {state : Batch × τ}
    (h : Shows (Prod.map Batch.fields id) shown action state) (f : β → γ) :
    Shows (Prod.map Batch.fields id) (telling f shown) (telling f action) state := by
  rw [Shows, telling, h]
  rfl

/-- **On the fields of a batch**, a call does what it does on the batch. -/
theorem perform_fields [Engine σ] (hbound : Bound batch shared) (request : Request) :
    Shows (Prod.map Batch.fields id) (perform request) request.perform (batch, shared) := by
  cases request with
  | setError n error =>
    simp only [Shows, perform, Request.perform, Prod.map_apply, setError_fields]
    cases batch.setError n error <;> rfl
  | prepare => exact shows_telling (shows_prepare batch shared) _
  | tryStart => exact shows_telling (shows_tryStart batch shared) _
  | execute options => exact shows_telling (shows_execute hbound options) _
  | executeAwaited task options => exact shows_telling (shows_executeAwaited hbound task options) _

theorem executedEntry_fields (batch : Batch) (call : BatchCall) (n : Nat) :
    batch.fields.executedEntry call n = batch.executedEntry call n := by
  rw [executedEntry, require_fields]
  obtain ⟨entries, phase⟩ := batch
  cases phase <;> rfl

theorem outcome_fields (batch : Batch) (n : Nat) : batch.fields.outcome n = batch.outcome n := by
  rw [outcome, executedEntry_fields]
  rfl

theorem blobResults_fields (batch : Batch) (n : Nat) :
    batch.fields.blobResults n = batch.blobResults n := by
  rw [blobResults, executedEntry_fields]
  rfl

end Fields

/-! ### Any moves -/

theorem bound_of_executing {batch : Batch} {shared : SharedTransaction σ} {options : RoundTrip}
    {came : Answer (Except BatchError Report) × Batch × SharedTransaction σ}
    {calls : List TransactionCall} (h : Executing options batch shared came calls)
    (hbound : Bound batch shared) : Bound came.2.1 came.2.2 := by
  cases h with
  | refused | panicked | lost => exact hbound
  | made => exact fun _ htransaction => (Option.some.inj htransaction).symm

variable [Engine σ] {state : Batch × SharedTransaction σ}

/-- A call leaves a batch bound to the transaction at hand, if to any. -/
theorem Bound.perform {batch : Batch} {shared : SharedTransaction σ} (h : Bound batch shared)
    (request : Request) :
    Bound (request.perform (batch, shared)).value.2.1
      (request.perform (batch, shared)).value.2.2 := by
  cases request with
  | setError n error =>
    have hmarking := marking batch n error
    dsimp only [Request.perform]
    generalize batch.setError n error = result at hmarking ⊢
    cases hmarking <;> exact h
  | prepare =>
    have hpreparing := preparing batch shared
    rw [Request.perform, telling]
    generalize (prepare (batch, shared)).value = came, Effect.transactionCalls _ = calls
      at hpreparing ⊢
    cases hpreparing with
    | refused => exact h
    | bound => exact fun _ htransaction => (Option.some.inj htransaction).symm
    | panicked => exact nofun
  | tryStart =>
    have hstarting := starting batch shared
    rw [Request.perform, telling]
    generalize (tryStart (batch, shared)).value = came, Effect.transactionCalls _ = calls
      at hstarting ⊢
    cases hstarting <;> exact h
  | execute options => exact bound_of_executing (executing options batch shared) h
  | executeAwaited task options =>
    exact bound_of_executing (executing_awaited task options batch shared) h

theorem Bound.next (h : Bound state.1 state.2) (move : Move σ) :
    Bound (move.next state).1 (move.next state).2 := by
  cases move with
  | call request => exact h.perform request
  | others => exact h

namespace Fields

/-- The fields of a batch and its transaction after a move. -/
def next : Move σ → Fields × SharedTransaction σ → Fields × SharedTransaction σ
  | .call request, state => (perform request state).value.2
  | .others engine poisons closes, (fields, shared) =>
    (fields, { shared with
      engine, poisoned := shared.poisoned || poisons, closed := shared.closed || closes })

/-- The event that a move is. -/
def events : Move σ → Fields × SharedTransaction σ → List Event
  | .call request, state =>
    [⟨request, (perform request state).value.1,
      Effect.transactionCalls (perform request state).effects⟩]
  | .others .., _ => []

/-- The events of some moves, one after the other, and the state after them. -/
def play : List (Move σ) → Fields × SharedTransaction σ → List Event × Fields × SharedTransaction σ
  | [], state => ([], state)
  | move :: moves, state =>
    (events move state ++ (play moves (next move state)).1, (play moves (next move state)).2)

theorem next_fields (h : Bound state.1 state.2) (move : Move σ) :
    next move (state.map Batch.fields id) = (move.next state).map Batch.fields id := by
  cases move with
  | call request => exact congrArg (fun came => came.value.2) (perform_fields h request)
  | others => rfl

theorem events_fields (h : Bound state.1 state.2) (move : Move σ) :
    events move (state.map Batch.fields id) = move.events state := by
  cases move with
  | call request =>
    have hshows : perform request (state.map Batch.fields id) = _ := perform_fields h request
    rw [events, hshows]
    rfl
  | others => rfl

theorem play_fields (moves : List (Move σ)) : ∀ {state : Batch × SharedTransaction σ},
    Bound state.1 state.2 → Bound (Batch.play moves state).2.1 (Batch.play moves state).2.2 ∧
      play moves (state.map Batch.fields id) =
        ((Batch.play moves state).1, (Batch.play moves state).2.map Batch.fields id) := by
  induction moves with
  | nil => exact fun hbound => ⟨hbound, rfl⟩
  | cons move moves ih =>
    intro state hbound
    obtain ⟨hlast, hplayed⟩ := ih (hbound.next move)
    refine ⟨hlast, ?_⟩
    rw [play, next_fields hbound, events_fields hbound, hplayed]
    rfl

end Fields

/-- **The fields of a batch**, after any moves on a new one. They are those of the batch, with the
same events on the way, and tell the same of what came of it. There is a transaction as soon as the
batch is not built any more, the one at hand, and an error of the transaction only once the batch is
executed. -/
theorem fields_of_moves (operations : List KeyOperation) (shared : SharedTransaction σ)
    (moves : List (Move σ)) :
    let (events, batch, last) := play moves (.new operations, shared)
    let (events', fields, last') := Fields.play moves (.new operations, shared)
    events' = events ∧ fields = batch.fields ∧ last' = last ∧
      (∀ n, fields.outcome n = batch.outcome n ∧ fields.blobResults n = batch.blobResults n) ∧
      (fields.transaction = if fields.state = .built then none else some last.id) ∧
      (fields.transactionError.isSome = true → fields.state = .executed) := by
  have hnew : Bound (Batch.new operations) shared := nofun
  obtain ⟨hbound, hplayed⟩ := @Fields.play_fields σ _ moves (Batch.new operations, shared) hnew
  rcases hplay : play moves (Batch.new operations, shared) with ⟨events, batch, last⟩
  rw [hplay] at hbound hplayed
  have hfields : Fields.play moves (.new operations, shared) = (events, batch.fields, last) :=
    hplayed
  rw [hfields]
  refine ⟨rfl, rfl, rfl, fun n => ⟨?_, ?_⟩, ?_, ?_⟩
  · exact Fields.outcome_fields batch n
  · exact Fields.blobResults_fields batch n
  · obtain ⟨entries, phase⟩ := batch
    cases phase with
    | built => rfl
    | prepared transaction | executed transaction =>
      exact congrArg some (hbound transaction rfl)
  · dsimp only [fields, Batch.transactionError]
    cases batch.phase <;> simp [Phase.state, Phase.transactionError]

end StorageClient.Batch
