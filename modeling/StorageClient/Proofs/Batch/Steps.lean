import StorageClient.Batch.Awaited
import StorageClient.Proofs.Batch.Entries
/-!
# StorageClient.Proofs.Batch.Steps

What each call on a batch can do, by cases: to the batch, to the transaction, and which calls it
makes on the transaction. Everything about sequences of calls is derived from these cases.

* A refused call changes nothing and makes no call.
* A call that panics, or loses its task, leaves the batch in its phase and the transaction poisoned.
-/

namespace StorageClient.Batch

variable {σ : Type}

/-! ### Marking entries -/

/-- An entry after the last error that was recorded for it, if there was one. -/
def mark (recorded : Option EngineError) (entry : Entry) : Entry :=
  match recorded with
  | some error => { entry with id := none, slot := .operation error }
  | none => entry

/-- What `setError` can do. -/
inductive Marking (batch : Batch) (n : Nat) (error : EngineError) : Except BatchError Batch → Prop
  | refused (e : BatchError) : Marking batch n error (.error e)
  | marked (h : ∀ transaction cause, batch.phase ≠ .executed transaction cause) :
    Marking batch n error (.ok { batch with entries := batch.entries.modify n (mark (some error)) })

theorem marking (batch : Batch) (n : Nat) (error : EngineError) :
    Marking batch n error (batch.setError n error) := by
  obtain ⟨entries, phase⟩ := batch
  unfold setError
  cases phase with
  | executed transaction cause => exact .refused _
  | built =>
    dsimp only
    split
    · exact .marked (fun _ _ h => nomatch h)
    · exact .refused _
  | prepared transaction =>
    dsimp only
    split
    · exact .marked (fun _ _ h => nomatch h)
    · exact .refused _

/-! ### Preparing -/

/-- What `prepare` can do. -/
inductive Preparing (batch : Batch) (shared : SharedTransaction σ) :
    Answer (Except BatchError Unit) × Batch × SharedTransaction σ → List TransactionCall → Prop
  | refused (e : BatchError) : Preparing batch shared (.returned (.error e), batch, shared) []
  | bound (hbuilt : batch.phase = .built) (hreached : shared.poisoned = false)
      {definitions : List (List TransactionCall)} {entries : List Entry}
      (hround : Round Defined batch.entries definitions entries) (engine : σ) :
    Preparing batch shared
      (.returned (.ok ()), ⟨entries, .prepared shared.id⟩, { shared with engine })
      definitions.flatten
  | panicked (hbuilt : batch.phase = .built) (hreached : shared.poisoned = false) (text : String)
      (entries : List Entry) (engine : σ) {calls : List TransactionCall}
      (hcalls : ∀ call ∈ calls, call.isDefinition = true) :
    Preparing batch shared
      (.panicked text, ⟨entries, .built⟩, { shared with engine, poisoned := true }) calls

theorem preparing [Engine σ] (batch : Batch) (shared : SharedTransaction σ) :
    Preparing batch shared (prepare (batch, shared)).value
      (Effect.transactionCalls (prepare (batch, shared)).effects) := by
  obtain ⟨entries, phase⟩ := batch
  cases phase with
  | prepared transaction => exact .refused _
  | executed transaction error => exact .refused _
  | built =>
    by_cases hpoisoned : shared.poisoned = true
    · have hprepare : prepare (⟨entries, .built⟩, shared) =
          ⟨(.returned (.error (.transaction .lockPoisoned)), ⟨entries, .built⟩, shared), []⟩ := by
        simp [prepare, Action.bind_apply, Traced.bind, onEntries,
          SharedTransaction.useWith_of_poisoned _ _ hpoisoned]
      rw [hprepare]
      exact .refused _
    rw [Bool.not_eq_true] at hpoisoned
    -- The engine is only reached through the lock, so the round starts from its present state.
    rcases hdefine : defineEntries (entries, shared.engine) with
      ⟨⟨count | text, entries', engine⟩, effects⟩
    · obtain ⟨definitions, hround, hcalls⟩ := defineEntries_returned hdefine
      obtain ⟨line, hprepare⟩ : ∃ line, prepare (⟨entries, .built⟩, shared) =
          ⟨(.returned (.ok ()), ⟨entries', .prepared shared.id⟩, { shared with engine }),
            effects ++ [.line line]⟩ :=
        ⟨_, by
          simp [prepare, Action.bind_apply, Traced.bind, onEntries, Action.log, Traced.log,
            Traced.emit, SharedTransaction.useWith_of_returned hpoisoned hdefine]
          rfl⟩
      have hline : Effect.transactionCalls [.line line] = [] := rfl
      rw [hprepare, Effect.transactionCalls_append, hcalls, hline, List.append_nil]
      exact .bound rfl hpoisoned hround engine
    · have hprepare : prepare (⟨entries, .built⟩, shared) =
          ⟨(.panicked text, ⟨entries', .built⟩, { shared with engine, poisoned := true }),
            effects⟩ := by
        simp [prepare, Action.bind_apply, Traced.bind, onEntries,
          SharedTransaction.useWith_of_panicked hpoisoned hdefine]
      rw [hprepare]
      refine .panicked rfl hpoisoned text entries' engine fun call hcall => ?_
      have hmem : call ∈
          Effect.transactionCalls (defineEntries (entries, shared.engine)).effects := by
        rwa [hdefine]
      exact isDefinition_of_mem_defineEntries hmem

theorem Preparing.isDefinition {batch : Batch} {shared : SharedTransaction σ}
    {value : Answer (Except BatchError Unit) × Batch × SharedTransaction σ}
    {calls : List TransactionCall} (h : Preparing batch shared value calls) :
    ∀ call ∈ calls, call.isDefinition = true := by
  intro call hcall
  cases h with
  | refused => exact nomatch hcall
  | bound _ _ hround =>
    obtain ⟨_, _, _, hvisited, hmem⟩ := hround.visited_of_mem hcall
    exact hvisited.isDefinition call hmem
  | panicked _ _ _ _ _ hcalls => exact hcalls call hcall

/-! ### Starting -/

/-- What `tryStart` can do. -/
inductive Starting (batch : Batch) (shared : SharedTransaction σ) :
    Answer (Except BatchError Bool) × Batch × SharedTransaction σ → List TransactionCall → Prop
  | refused (e : BatchError) : Starting batch shared (.returned (.error e), batch, shared) []
  | asked (hbound : batch.transaction? ≠ none) (hreached : shared.poisoned = false) (now : Bool)
      (engine : σ) :
    Starting batch shared (.returned (.ok now), batch, { shared with engine })
      [.tryStart (batch.entries.head?.map Entry.operation) (.returned now)]
  | panicked (hbound : batch.transaction? ≠ none) (hreached : shared.poisoned = false)
      (text : String) (engine : σ) :
    Starting batch shared (.panicked text, batch, { shared with engine, poisoned := true })
      [.tryStart (batch.entries.head?.map Entry.operation) (.panicked text)]

theorem starting [Engine σ] (batch : Batch) (shared : SharedTransaction σ) :
    Starting batch shared (tryStart (batch, shared)).value
      (Effect.transactionCalls (tryStart (batch, shared)).effects) := by
  cases hbound : batch.transaction? with
  | none =>
    have hstart : tryStart (batch, shared) =
        ⟨(.returned (.error (batch.wrongPhase .tryStart "PREPARED")), batch, shared), []⟩ := by
      simp [tryStart, Action.bind_apply, Traced.bind, hbound]
    rw [hstart]
    exact .refused _
  | some transaction =>
    have hne : batch.transaction? ≠ none := by
      rw [hbound]
      exact Option.some_ne_none transaction
    by_cases hpoisoned : shared.poisoned = true
    · have hstart : tryStart (batch, shared) =
          ⟨(.returned (.error (.transaction .lockPoisoned)), batch, shared), []⟩ := by
        simp [tryStart, Action.bind_apply, Traced.bind, hbound, SharedTransaction.use,
          SharedTransaction.useWith_of_poisoned _ _ hpoisoned]
      rw [hstart]
      exact .refused _
    rw [Bool.not_eq_true] at hpoisoned
    rcases hask : Engine.tryStart (batch.entries.head?.map Entry.operation) shared.engine with
      ⟨now | text, engine⟩
    · have hstart : tryStart (batch, shared) =
          ⟨(.returned (.ok now), batch, { shared with engine }),
            [.transaction (.tryStart (batch.entries.head?.map Entry.operation)
              (.returned now))]⟩ := by
        simp [tryStart, Action.bind_apply, Traced.bind, hbound, SharedTransaction.use,
          SharedTransaction.useWith, hpoisoned, Transaction.tryStart, Transaction.call, hask]
      rw [hstart]
      exact .asked hne hpoisoned now engine
    · have hstart : tryStart (batch, shared) =
          ⟨(.panicked text, batch, { shared with engine, poisoned := true }),
            [.transaction (.tryStart (batch.entries.head?.map Entry.operation)
              (.panicked text))]⟩ := by
        simp [tryStart, Action.bind_apply, Traced.bind, hbound, SharedTransaction.use,
          SharedTransaction.useWith, hpoisoned, Transaction.tryStart, Transaction.call, hask]
      rw [hstart]
      exact .panicked hne hpoisoned text engine

theorem batch_tryStart [Engine σ] (batch : Batch) (shared : SharedTransaction σ) :
    (tryStart (batch, shared)).value.2.1 = batch := by
  have hstarting := starting batch shared
  generalize (tryStart (batch, shared)).value = came, Effect.transactionCalls _ = calls
    at hstarting ⊢
  cases hstarting <;> rfl

theorem Starting.eq_tryStart {batch : Batch} {shared : SharedTransaction σ}
    {value : Answer (Except BatchError Bool) × Batch × SharedTransaction σ}
    {calls : List TransactionCall} (h : Starting batch shared value calls) :
    ∀ call ∈ calls, ∃ hint answer, call = .tryStart hint answer := by
  intro call hcall
  cases h with
  | refused => exact nomatch hcall
  | asked _ _ now => exact ⟨_, _, List.mem_singleton.mp hcall⟩
  | panicked _ _ text => exact ⟨_, _, List.mem_singleton.mp hcall⟩

/-! ### Executing -/

/-- What `roundTrip` can do. -/
inductive Tripping (options : RoundTrip) (entries : List Entry) (shared : SharedTransaction σ) :
    Answer (Except EngineError (Option EngineError)) × List Entry × SharedTransaction σ →
      List TransactionCall → Prop
  | refused (e : EngineError) :
    Tripping options entries shared (.returned (.error e), entries, shared) []
  | made (hreached : shared.poisoned = false) {result : Except EngineError Unit}
      {own : Option EngineError} {inquiries : List (List TransactionCall)} {entries' : List Entry}
      (hround : Round (Collected (roundTripError own result)) entries inquiries entries')
      (engine : σ) :
    Tripping options entries shared
      (.returned (.ok (roundTripError own result)), entries',
        { shared with engine, closed := shared.closed || options.exec.closes })
      (.execute options (.returned result) :: .error (.returned own) :: inquiries.flatten)
  | panicked (hreached : shared.poisoned = false) (text : String) (entries' : List Entry)
      (engine : σ) (calls : List TransactionCall) :
    Tripping options entries shared
      (.panicked text, entries', { shared with engine, poisoned := true }) calls

theorem tripping [Engine σ] (options : RoundTrip) (entries : List Entry)
    (shared : SharedTransaction σ) :
    Tripping options entries shared (roundTrip options (entries, shared)).value
      (Effect.transactionCalls (roundTrip options (entries, shared)).effects) := by
  by_cases hpoisoned : shared.poisoned = true
  · have htrip : roundTrip options (entries, shared) =
        ⟨(.returned (.error .lockPoisoned), entries, shared), []⟩ := by
      simp [roundTrip, Action.bind_apply, Traced.bind,
        SharedTransaction.useWith_of_poisoned _ _ hpoisoned]
    rw [htrip]
    exact .refused _
  rw [Bool.not_eq_true] at hpoisoned
  rcases hexecute : executeEntries options (entries, shared.engine) with
    ⟨⟨transactionError | text, entries', engine⟩, effects⟩
  · obtain ⟨result, own, inquiries, rfl, hround, hcalls⟩ := executeEntries_returned hexecute
    obtain ⟨lines, hlines, htrip⟩ : ∃ lines, Effect.transactionCalls lines = [] ∧
        roundTrip options (entries, shared) =
          ⟨(.returned (.ok (roundTripError own result)), entries',
            { shared with engine, closed := shared.closed || options.exec.closes }),
            effects ++ lines⟩ := by
      cases hcloses : options.exec.closes <;> cases hclosed : shared.closed <;>
      refine ⟨_, ?_, by
        simp [roundTrip, Action.bind_apply, Traced.bind, hcloses, hclosed,
          SharedTransaction.registerClose, SharedTransaction.useWith_of_returned hpoisoned hexecute]
        rfl⟩ <;> rfl
    rw [htrip, Effect.transactionCalls_append, hcalls, hlines, List.append_nil]
    exact .made hpoisoned hround engine
  · have htrip : roundTrip options (entries, shared) =
        ⟨(.panicked text, entries', { shared with engine, poisoned := true }), effects⟩ := by
      simp [roundTrip, Action.bind_apply, Traced.bind,
        SharedTransaction.useWith_of_panicked hpoisoned hexecute]
    rw [htrip]
    exact .panicked hpoisoned text entries' engine _

/-- What `execute` and `executeAwaited` can do. -/
inductive Executing (options : RoundTrip) (batch : Batch) (shared : SharedTransaction σ) :
    Answer (Except BatchError Report) × Batch × SharedTransaction σ → List TransactionCall → Prop
  | refused (e : BatchError) :
    Executing options batch shared (.returned (.error e), batch, shared) []
  | made (transaction : String) (hprepared : batch.phase = .prepared transaction)
      (hreached : shared.poisoned = false) {result : Except EngineError Unit}
      {own : Option EngineError} {inquiries : List (List TransactionCall)} {entries : List Entry}
      (hround : Round (Collected (roundTripError own result)) batch.entries inquiries entries)
      (engine : σ) :
    Executing options batch shared
      (.returned (.ok ⟨options.exec, entries.map (outcomeOf (roundTripError own result)),
          roundTripError own result⟩),
        ⟨entries, .executed shared.id (roundTripError own result)⟩,
        { shared with engine, closed := shared.closed || options.exec.closes })
      (.execute options (.returned result) :: .error (.returned own) :: inquiries.flatten)
  | panicked (transaction : String) (hprepared : batch.phase = .prepared transaction)
      (hreached : shared.poisoned = false) (text : String) (entries : List Entry) (engine : σ)
      (calls : List TransactionCall) :
    Executing options batch shared
      (.panicked text, { batch with entries }, { shared with engine, poisoned := true }) calls
  | lost (transaction : String) (hprepared : batch.phase = .prepared transaction)
      (hreached : shared.poisoned = false) (e : BatchError) (engine : σ)
      (calls : List TransactionCall) :
    Executing options batch shared
      (.returned (.error e), batch, { shared with engine, poisoned := true }) calls

/-- Only a prepared batch makes calls, on a transaction that can be used. -/
theorem Executing.prepared {options : RoundTrip} {batch : Batch} {shared : SharedTransaction σ}
    {value : Answer (Except BatchError Report) × Batch × SharedTransaction σ}
    {calls : List TransactionCall} (h : Executing options batch shared value calls)
    (hne : calls ≠ []) :
    shared.poisoned = false ∧ ∃ transaction, batch.phase = .prepared transaction := by
  cases h with
  | refused => exact absurd rfl hne
  | made transaction hprepared hreached => exact ⟨hreached, transaction, hprepared⟩
  | panicked transaction hprepared hreached => exact ⟨hreached, transaction, hprepared⟩
  | lost transaction hprepared hreached => exact ⟨hreached, transaction, hprepared⟩

/-- The scope of the round trip of a batch. -/
def executeScope (options : RoundTrip) (batch : Batch) : Scope :=
  ⟨"BATCH_EXECUTE",
    [("exec", .text options.exec.name), ("size", .text (toString batch.length))]⟩

/-- The scope of the round trip of a batch, as it is held at first. -/
def opened (options : RoundTrip) (batch : Batch) : Option OpenScope :=
  some ⟨executeScope options batch, false⟩

/-- What comes of a unit of work, without the scope that it may still hold. -/
def withoutScope {α τ : Type} (came : Answer α × τ × Option OpenScope) : Answer α × τ :=
  (came.1, came.2.1)

/-- How a batch is executed: it has to be prepared, and then the work is done in a scope. -/
def inScope (call : BatchCall) (options : RoundTrip)
    (work : Action ((Batch × SharedTransaction σ) × Option OpenScope) (Except BatchError Report)) :
    Action (Batch × SharedTransaction σ) (Except BatchError Report) := do
  match ← start call options with
  | .error error => return .error error
  | .ok scope => Action.within scope work

/-- A prepared batch starts a round trip, and nothing tells by which call. -/
theorem start_of_prepared {batch : Batch} {transaction : String}
    (hprepared : batch.phase = .prepared transaction) (options : RoundTrip)
    (shared : SharedTransaction σ) :
    ∃ line : Line, line.event = Event.batchExecuteStart.name ∧
      ∀ call, start call options (batch, shared) =
        ⟨(.returned (.ok (executeScope options batch)), batch, shared), [.line line]⟩ := by
  obtain ⟨entries, phase⟩ := batch
  obtain rfl : phase = .prepared transaction := hprepared
  exact ⟨_, rfl, fun _ => rfl⟩

/-- A batch that is not prepared is refused, and nothing happens. -/
theorem inScope_of_unprepared {call : BatchCall} {options : RoundTrip} {batch : Batch}
    {shared : SharedTransaction σ}
    {work : Action ((Batch × SharedTransaction σ) × Option OpenScope) (Except BatchError Report)}
    (hphase : ∀ transaction, batch.phase ≠ .prepared transaction) :
    inScope call options work (batch, shared) =
      pure (.returned (.error (batch.wrongPhase call "PREPARED")), batch, shared) := by
  obtain ⟨entries, phase⟩ := batch
  cases phase with
  | built => rfl
  | executed transaction error => rfl
  | prepared transaction => exact absurd rfl (hphase transaction)

/-- What is done in a scope has the lines before it and, if the scope is still held, a line after
it. -/
theorem inScope_of_prepared {batch : Batch} {transaction : String}
    (hprepared : batch.phase = .prepared transaction) (options : RoundTrip)
    (shared : SharedTransaction σ) :
    ∃ line : Line, line.event = Event.batchExecuteStart.name ∧ ∀ call work,
      inScope call options work (batch, shared) =
        let worked := work ((batch, shared), opened options batch)
        ⟨withoutScope worked.value, .line line :: .line (executeScope options batch).opening ::
          (worked.effects ++ (OpenScope.dropHeld worked.value.2.2).effects)⟩ := by
  obtain ⟨line, hline, hstart⟩ := start_of_prepared hprepared options shared
  refine ⟨line, hline, fun call work => ?_⟩
  rw [inScope, Action.bind_apply_of_returned (hstart call)]
  dsimp only
  rw [Action.within_apply]
  rfl

/-- The scope adds nothing but lines. -/
theorem executing_inScope {call : BatchCall} {options : RoundTrip} {batch : Batch}
    {shared : SharedTransaction σ}
    {work : Action ((Batch × SharedTransaction σ) × Option OpenScope) (Except BatchError Report)}
    (hwork : ∀ transaction, batch.phase = .prepared transaction →
      Executing options batch shared
        (withoutScope (work ((batch, shared), opened options batch)).value)
        (Effect.transactionCalls (work ((batch, shared), opened options batch)).effects)) :
    Executing options batch shared (inScope call options work (batch, shared)).value
      (Effect.transactionCalls (inScope call options work (batch, shared)).effects) := by
  by_cases hphase : ∃ transaction, batch.phase = .prepared transaction
  · obtain ⟨transaction, hprepared⟩ := hphase
    obtain ⟨line, -, hrun⟩ := inScope_of_prepared hprepared options shared
    obtain ⟨lines, hlines⟩ := Action.effects_dropHeld
      (work ((batch, shared), opened options batch)).value.2.2
    rw [hrun]
    simpa [hlines] using hwork transaction hprepared
  · rw [inScope_of_unprepared (not_exists.mp hphase)]
    exact .refused _

/-- A round trip that reached the transaction is recorded and reported on, and its scope is
closed. -/
theorem complete_ok (exec : ExecType) (error : Option EngineError) (batch : Batch)
    (shared : SharedTransaction σ) (scope : OpenScope) :
    (complete exec (.ok error) ((batch, shared), some scope)).value =
        (.returned (.ok ⟨exec, batch.entries.map (outcomeOf error), error⟩),
          ({ batch with phase := .executed shared.id error }, shared), none) ∧
      Effect.transactionCalls
        (complete exec (.ok error) ((batch, shared), some scope)).effects = [] := by
  cases error <;>
    simp [complete, record, Action.bind_apply, Traced.bind, Action.count, Action.log, Traced.emit,
      outcomes, transactionError, Phase.transactionError]

/-- The copy is taken over if the task is done. -/
theorem takeOver_eq (entries' : List Entry) (batch : Batch) (shared : SharedTransaction σ)
    (held : Option OpenScope) :
    (Action.onFirst <| Action.onFirst <| Action.modify fun batch : Batch =>
        { batch with entries := entries' } :
      Action ((Batch × SharedTransaction σ) × Option OpenScope) Unit) ((batch, shared), held) =
      ⟨(.returned (), ({ batch with entries := entries' }, shared), held), []⟩ := rfl

section Executing

variable [Engine σ] {options : RoundTrip} {batch : Batch} {shared shared' : SharedTransaction σ}
  {answer : Answer (Except EngineError (Option EngineError))} {entries' : List Entry}
  {effects : List Effect}

/-- At once, the round trip works on the entries of the batch. -/
theorem onEntries_roundTrip
    (htrip : roundTrip options (batch.entries, shared) = ⟨(answer, entries', shared'), effects⟩)
    (held : Option OpenScope) :
    Action.onFirst (onEntries (roundTrip options)) ((batch, shared), held) =
      ⟨(answer, ({ batch with entries := entries' }, shared'), held), effects⟩ :=
  Action.onFirst_of (by simp [onEntries, htrip]) held

/-- On a task, the round trip works on a copy of the entries, which a panic loses. -/
theorem roundTripOnTask_eq
    (htrip : roundTrip options (batch.entries, shared) = ⟨(answer, entries', shared'), effects⟩) :
    roundTripOnTask options (batch, shared) =
      ⟨(.returned (answer.map fun collected => (entries', collected)), batch, shared'),
        effects⟩ := by
  cases answer <;>
    simp [roundTripOnTask, Action.bind_apply, Traced.bind, Action.spawn, Action.onCopy, htrip,
      Answer.map]

theorem executing (options : RoundTrip) (batch : Batch) (shared : SharedTransaction σ) :
    Executing options batch shared (execute options (batch, shared)).value
      (Effect.transactionCalls (execute options (batch, shared)).effects) := by
  refine executing_inScope fun transaction hprepared => ?_
  rcases htrip : roundTrip options (batch.entries, shared) with
    ⟨⟨answer, entries', shared'⟩, effects⟩
  have hentries := onEntries_roundTrip htrip (opened options batch)
  have htripping := tripping options batch.entries shared
  rw [htrip] at htripping
  generalize hcalls : Effect.transactionCalls effects = calls at htripping
  cases htripping with
  | refused e =>
    rw [Action.bind_apply_of_returned hentries, Effect.transactionCalls_append, hcalls]
    exact .refused _
  | made hreached hround engine =>
    rw [Action.bind_apply_of_returned hentries, Effect.transactionCalls_append, hcalls, opened,
      (complete_ok ..).1, (complete_ok ..).2, List.append_nil]
    exact .made transaction hprepared hreached hround engine
  | panicked hreached text entries' engine =>
    rw [Action.bind_apply_of_panicked hentries, hcalls]
    exact .panicked transaction hprepared hreached text entries' engine calls

theorem executing_awaited (task : String) (options : RoundTrip) (batch : Batch)
    (shared : SharedTransaction σ) :
    Executing options batch shared (executeAwaited task options (batch, shared)).value
      (Effect.transactionCalls (executeAwaited task options (batch, shared)).effects) := by
  refine executing_inScope fun transaction hprepared => ?_
  rcases htrip : roundTrip options (batch.entries, shared) with
    ⟨⟨answer, entries', shared'⟩, effects⟩
  have htripping := tripping options batch.entries shared
  rw [htrip] at htripping
  generalize hcalls : Effect.transactionCalls effects = calls at htripping
  rw [Action.bind_apply_of_returned (Action.onFirst_of (roundTripOnTask_eq htrip) _),
    Effect.transactionCalls_append, hcalls]
  cases htripping with
  | refused e =>
    dsimp only [Answer.map]
    rw [Action.bind_apply_of_returned (takeOver_eq ..)]
    exact .refused _
  | made hreached hround engine =>
    dsimp only [Answer.map]
    rw [Action.bind_apply_of_returned (takeOver_eq ..), opened, (complete_ok ..).1, List.nil_append,
      (complete_ok ..).2, List.append_nil]
    exact .made transaction hprepared hreached hround engine
  | panicked hreached text entries' engine =>
    rw [show Effect.transactionCalls _ = [] from rfl, List.append_nil]
    exact .lost transaction hprepared hreached _ engine calls

end Executing

end StorageClient.Batch
