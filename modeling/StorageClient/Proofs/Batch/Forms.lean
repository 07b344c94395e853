import StorageClient.Proofs.Batch.Orderly
import StorageClient.Proofs.Batch.Session
/-!
# StorageClient.Proofs.Batch.Forms

There are several ways to run a batch: at once, on a task that is waited for, and handed over to be
run in either way. They differ in where the entries are changed, in place or in a copy that is taken
over afterwards, and in what a panic leaves behind.

As long as no call panics, nobody can tell them apart. Not only the results are the same, but the
effects as a whole: the calls on the transaction, the counts and the lines, each in its place.
-/

namespace StorageClient.Batch

variable {σ : Type} {options : RoundTrip} {batch : Batch} {shared : SharedTransaction σ}

/-! ### Scopes -/

section Scopes

variable {transaction : String}
  {work work' : Action ((Batch × SharedTransaction σ) × Option OpenScope)
    (Except BatchError Report)}

/-- Scopes in which the same work is done are the same. -/
theorem inScope_congr (hprepared : batch.phase = .prepared transaction)
    (hwork : work ((batch, shared), opened options batch) =
      work' ((batch, shared), opened options batch)) (call call' : BatchCall) :
    inScope call options work (batch, shared) = inScope call' options work' (batch, shared) := by
  obtain ⟨line, -, hrun⟩ := inScope_of_prepared hprepared options shared
  rw [hrun, hrun, hwork]

/-- What comes of work in a scope is what comes of the work. -/
theorem value_inScope (hprepared : batch.phase = .prepared transaction) (call : BatchCall) :
    (inScope call options work (batch, shared)).value =
      withoutScope (work ((batch, shared), opened options batch)).value := by
  obtain ⟨line, -, hrun⟩ := inScope_of_prepared hprepared options shared
  rw [hrun]

end Scopes

/-! ### What becomes of a round trip -/

variable [Engine σ] {transaction : String} {entries' : List Entry} {shared' : SharedTransaction σ}
  {effects : List Effect}

/-- A round trip that returns is recorded in the same way, wherever it is made. -/
theorem executeAwaited_eq_execute (hprepared : batch.phase = .prepared transaction)
    {collected : Except EngineError (Option EngineError)}
    (htrip : roundTrip options (batch.entries, shared) =
      ⟨(.returned collected, entries', shared'), effects⟩) (task : String) :
    executeAwaited task options (batch, shared) = execute options (batch, shared) := by
  refine inScope_congr hprepared ?_ ..
  rw [Action.bind_apply_of_returned (Action.onFirst_of (roundTripOnTask_eq htrip) _),
    Action.bind_apply_of_returned (onEntries_roundTrip htrip _)]
  dsimp only [Answer.map]
  rw [Action.bind_apply_of_returned (takeOver_eq ..), List.nil_append]

/-- A round trip that was made is recorded and reported on. -/
theorem execute_of_made (hprepared : batch.phase = .prepared transaction)
    {error : Option EngineError}
    (htrip : roundTrip options (batch.entries, shared) =
      ⟨(.returned (.ok error), entries', shared'), effects⟩) :
    (execute options (batch, shared)).value =
      (.returned (.ok ⟨options.exec, entries'.map (outcomeOf error), error⟩),
        ⟨entries', .executed shared'.id error⟩, shared') := by
  refine (value_inScope hprepared _).trans ?_
  rw [Action.bind_apply_of_returned (onEntries_roundTrip htrip _), opened, withoutScope,
    (complete_ok ..).1]

/-- A round trip that was refused leaves the batch prepared. -/
theorem execute_of_refused (hprepared : batch.phase = .prepared transaction)
    {refusal : EngineError}
    (htrip : roundTrip options (batch.entries, shared) =
      ⟨(.returned (.error refusal), entries', shared'), effects⟩) :
    (execute options (batch, shared)).value =
      (.returned (.error (.transaction refusal)), { batch with entries := entries' }, shared') := by
  refine (value_inScope hprepared _).trans ?_
  rw [Action.bind_apply_of_returned (onEntries_roundTrip htrip _)]
  rfl

/-- A round trip on a transaction that can be used is made, unless it panics. -/
theorem roundTrip_of_reached (hreached : shared.poisoned = false) {entries : List Entry}
    {collected : Except EngineError (Option EngineError)}
    (htrip : roundTrip options (entries, shared) =
      ⟨(.returned collected, entries', shared'), effects⟩) :
    ∃ error, collected = .ok error := by
  obtain ⟨used, mid, _, _, huse, hrest, -⟩ := Action.bind_eq_returned htrip
  rcases hexecute : executeEntries options (entries, shared.engine) with
    ⟨⟨error | text, entries₁, engine₁⟩, effects₁⟩
  · rw [SharedTransaction.useWith_of_returned hreached hexecute] at huse
    cases huse
    refine ⟨error, ?_⟩
    dsimp only at hrest
    split at hrest
    · obtain ⟨_, _, _, _, -, hcollected, -⟩ := Action.bind_eq_returned hrest
      exact (Action.pure_eq_returned hcollected).1.symm
    · exact (Action.pure_eq_returned hrest).1.symm
  · rw [SharedTransaction.useWith_of_panicked hreached hexecute] at huse
    cases huse

/-- A panic at once reaches the caller, with the entries as they were when it struck. -/
theorem execute_of_panicked (hprepared : batch.phase = .prepared transaction) {text : String}
    (htrip : roundTrip options (batch.entries, shared) =
      ⟨(.panicked text, entries', shared'), effects⟩) :
    (execute options (batch, shared)).value =
      (.panicked text, { batch with entries := entries' }, shared') := by
  refine (value_inScope hprepared _).trans ?_
  rw [Action.bind_apply_of_panicked (onEntries_roundTrip htrip _)]
  rfl

/-- A batch that is run at once returns only if its round trip does. -/
theorem roundTrip_of_returned (hprepared : batch.phase = .prepared transaction)
    {result : Except BatchError Report} {state : Batch × SharedTransaction σ}
    (hexecute : execute options (batch, shared) = ⟨(.returned result, state), effects⟩) :
    ∃ collected entries' shared' effects', roundTrip options (batch.entries, shared) =
      ⟨(.returned collected, entries', shared'), effects'⟩ := by
  rcases htrip : roundTrip options (batch.entries, shared) with
    ⟨⟨collected | text, entries', shared'⟩, effects'⟩
  · exact ⟨collected, entries', shared', effects', rfl⟩
  · have hpanicked := execute_of_panicked hprepared htrip
    rw [hexecute] at hpanicked
    exact nomatch (Prod.mk.inj hpanicked).1

/-- A panic on a task is an error for whoever waits, and the batch is as it was. -/
theorem executeAwaited_of_panicked (hprepared : batch.phase = .prepared transaction) {text : String}
    (htrip : roundTrip options (batch.entries, shared) =
      ⟨(.panicked text, entries', shared'), effects⟩) (task : String) :
    (executeAwaited task options (batch, shared)).value =
      (.returned (.error (.taskFailed (Task.lost task text))), batch, shared') := by
  refine (value_inScope hprepared _).trans ?_
  rw [Action.bind_apply_of_returned (Action.onFirst_of (roundTripOnTask_eq htrip) _)]
  rfl

/-! ### Handing a batch over -/

/-- How a batch is run that is handed over: on the task, or at once if there is none. -/
def run (task : Option String) (options : RoundTrip) :
    Action (Batch × SharedTransaction σ) (Except BatchError Report) :=
  match task with
  | some task => executeAwaited task options
  | none => execute options

/-- What is told when a batch is handed back. -/
def handedBack (batch : Batch) (result : Except BatchError Report) (shared : SharedTransaction σ) :
    Notification :=
  ⟨batch, result, batch.transaction?.map fun _ => shared.closed⟩

theorem executing_run (task : Option String) (options : RoundTrip) (batch : Batch)
    (shared : SharedTransaction σ) :
    Executing options batch shared (run task options (batch, shared)).value
      (Effect.transactionCalls (run task options (batch, shared)).effects) := by
  cases task with
  | none => exact executing options batch shared
  | some task => exact executing_awaited task options batch shared

theorem orderly_run (task : Option String) (options : RoundTrip) :
    Action.Orderly 1 (run task options : Action (Batch × SharedTransaction σ) _) := by
  cases task with
  | none => exact orderly_execute options
  | some task => exact orderly_executeAwaited task options

theorem submit_of_returned (task : Option String) {result : Except BatchError Report}
    {batch' : Batch}
    (hrun : run task options (batch, shared) = ⟨(.returned result, batch', shared'), effects⟩) :
    submit task options batch shared =
      ⟨(.returned ⟨task.isSome, [handedBack batch' result shared']⟩, shared'), effects⟩ := by
  unfold run at hrun
  cases task <;> simp [submit, Traced.bind, hrun, handedBack]

/-- A panic at once goes through to whoever handed the batch over, and the batch is lost. -/
theorem submit_of_panicked (task : Option String) {text : String} {batch' : Batch}
    (hrun : run task options (batch, shared) = ⟨(.panicked text, batch', shared'), effects⟩) :
    submit task options batch shared = ⟨(.panicked text, shared'), effects⟩ := by
  unfold run at hrun
  cases task <;> simp [submit, Traced.bind, hrun]

/-- **All ways to run a batch agree.** On a prepared batch, as long as no call panics, they yield
the same report, leave the same batch and transaction behind, and have the same effects: the same
calls, counts and lines in the same order. On any other batch, all are refused, and nothing tells
the refusals apart but the name of the call. -/
theorem executions_agree (options : RoundTrip) (batch : Batch) (shared : SharedTransaction σ)
    (hreturns : ∀ call ∈ Effect.transactionCalls (execute options (batch, shared)).effects,
      call.isPanic = false) :
    (∀ transaction, batch.phase = .prepared transaction →
      ∃ result batch' shared' effects,
        (shared.poisoned = false → ∃ report, result = .ok report) ∧
        execute options (batch, shared) = ⟨(.returned result, batch', shared'), effects⟩ ∧
        (∀ task, executeAwaited task options (batch, shared) =
          ⟨(.returned result, batch', shared'), effects⟩) ∧
        ∀ task, submit task options batch shared =
          ⟨(.returned ⟨task.isSome, [handedBack batch' result shared']⟩, shared'), effects⟩) ∧
    ((∀ transaction, batch.phase ≠ .prepared transaction) →
      let refusal (call : BatchCall) : Except BatchError Report :=
        .error (.illegalState call batch.phase.name "PREPARED")
      execute options (batch, shared) = pure (.returned (refusal .execute), batch, shared) ∧
        (∀ task, executeAwaited task options (batch, shared) =
          pure (.returned (refusal .executeAwaited), batch, shared)) ∧
        submit none options batch shared =
          pure (.returned ⟨false, [handedBack batch (refusal .execute) shared]⟩, shared) ∧
        ∀ task, submit (some task) options batch shared =
          pure (.returned ⟨true, [handedBack batch (refusal .executeAwaited) shared]⟩,
            shared)) := by
  refine ⟨fun transaction hprepared => ?_, fun hphase => ?_⟩
  · obtain ⟨result, ⟨batch', shared'⟩, effects, hexecute⟩ :=
      (orderly_execute options).returns hreturns
    obtain ⟨collected, entries', shared₁, effects₁, htrip⟩ :=
      roundTrip_of_returned hprepared hexecute
    have hawaited (task : String) : executeAwaited task options (batch, shared) = _ :=
      (executeAwaited_eq_execute hprepared htrip task).trans hexecute
    refine ⟨result, batch', shared', effects, fun hreached => ?_, hexecute, hawaited,
      fun task => ?_⟩
    · obtain ⟨error, rfl⟩ := roundTrip_of_reached hreached htrip
      have hmade := execute_of_made hprepared htrip
      rw [hexecute] at hmade
      exact ⟨_, Answer.returned.inj (Prod.mk.inj hmade).1⟩
    · cases task with
      | none => exact submit_of_returned none hexecute
      | some task => exact submit_of_returned (some task) (hawaited task)
  · have hexecute : execute options (batch, shared) = _ := inScope_of_unprepared hphase
    have hawaited (task : String) : executeAwaited task options (batch, shared) = _ :=
      inScope_of_unprepared hphase
    exact ⟨hexecute, hawaited, submit_of_returned none hexecute,
      fun task => submit_of_returned (some task) (hawaited task)⟩

/-- Three orders: the second one was refused, and the third one fails. -/
theorem executions_agree_orders :
    let state := (play [.call .prepare] (Batch.new [insertOrder 1, insertOrder 2, insertOrder 3],
      ordersTransaction [([2], .duplicateKey)] [([3], .duplicateKey)])).2
    let options : RoundTrip := ⟨.commit, .operationDefault, .deferred⟩
    let report : Report := ⟨.commit, [.success, .operation .duplicateKey, .operation .duplicateKey],
      none⟩
    (∀ call ∈ Effect.transactionCalls (execute options state).effects, call.isPanic = false) ∧
      state.1.phase = .prepared "tx" ∧
      ∃ batch shared effects,
        execute options state = ⟨(.returned (.ok report), batch, shared), effects⟩ ∧
        submit (some "1") options state.1 state.2 =
          ⟨(.returned ⟨true, [handedBack batch (.ok report) shared]⟩, shared), effects⟩ := by
  intro state options report
  have hreturns : ∀ call ∈ Effect.transactionCalls (execute options state).effects,
      call.isPanic = false := by decide
  refine ⟨hreturns, rfl, ?_⟩
  obtain ⟨result, batch, shared, effects, -, hexecute, -, hsubmit⟩ :=
    (executions_agree options state.1 state.2 hreturns).1 "tx" rfl
  obtain rfl : result = .ok report := by
    have hresult : (execute options state).value.1 = .returned (.ok report) := rfl
    exact Answer.returned.inj ((congrArg (·.value.1) hexecute).symm.trans hresult)
  exact ⟨batch, shared, effects, hexecute, hsubmit (some "1")⟩

end StorageClient.Batch
