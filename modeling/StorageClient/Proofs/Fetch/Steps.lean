import StorageClient.Fetch.Executor
import StorageClient.Proofs.Laws
import StorageClient.Proofs.Traffic
/-!
# StorageClient.Proofs.Fetch.Steps

What each call on an executor can do, by cases: to the executor, and which calls it makes on the
transaction and on the cursor. Lines, counts and polls are left out of what is told here
(`Effect.traffic`), because there may be any number of them.

* An executor that has not started either gets a cursor, or fails, or is left as it is by a panic
  of the engine (`Executor.Creating`).
* An executor that fetches comes to its end, and its cursor is closed on the way, unless the cursor
  panics (`Executor.Fetching`).

All of this holds whatever memory is granted or refused.
-/

namespace StorageClient

open Effect (acts traffic traffic_acts)

namespace SharedTransaction

variable {σ α : Type}

/-- What an attempt at a call can come to. -/
inductive Attempted (told : Answer (Except EngineError α) → TransactionCall) :
    Answer (Except EngineError α) → List Effect → Prop
  | poisoned : Attempted told (.returned (.error .lockPoisoned)) []
  | reached (answer : Answer (Except EngineError α)) :
    Attempted told answer [.transaction (told answer)]

theorem attempted {run : σ → Answer (Except EngineError α) × σ}
    {told : Answer (Except EngineError α) → TransactionCall} {shared shared' : SharedTransaction σ}
    {answer : Answer (Except EngineError α)} {effects : List Effect}
    (h : attempt (Transaction.call run told) shared = ⟨(answer, shared'), effects⟩) :
    Attempted told answer effects := by
  by_cases hpoisoned : shared.poisoned = true
  · have hattempt : attempt (Transaction.call run told) shared =
        ⟨(.returned (.error .lockPoisoned), shared), []⟩ := by
      simp [attempt, use, Action.bind_apply, Traced.bind, useWith_of_poisoned _ _ hpoisoned]
    cases hattempt.symm.trans h
    exact .poisoned
  rw [Bool.not_eq_true] at hpoisoned
  rcases hrun : run shared.engine with ⟨result | text, engine⟩
  · have hattempt : attempt (Transaction.call run told) shared =
        ⟨(.returned result, { shared with engine }), [.transaction (told (.returned result))]⟩ := by
      simp [attempt, use, useWith, Action.bind_apply, Traced.bind, hpoisoned, Transaction.call,
        hrun]
    cases hattempt.symm.trans h
    exact .reached _
  · have hattempt : attempt (Transaction.call run told) shared =
        ⟨(.panicked text, { shared with engine, poisoned := true }),
          [.transaction (told (.panicked text))]⟩ := by
      simp [attempt, use, useWith, Action.bind_apply, Traced.bind, hpoisoned, Transaction.call,
        hrun]
    cases hattempt.symm.trans h
    exact .reached _

theorem Attempted.traffic_eq {told : Answer (Except EngineError α) → TransactionCall}
    {answer : Answer (Except EngineError α)} {effects : List Effect}
    (h : Attempted told answer effects) : traffic effects = effects := by
  cases h <;> rfl

end SharedTransaction

/-! ### Polling -/

namespace Effect

/-- Whether an effect can come of storing a row. -/
def isStoring : Effect → Bool
  | .line l => l.event == Event.headerArrayGrown.name
  | .count counter _ =>
    counter ∈ [.rowsPushed, .nullRowsPushed, .duplicatesSuppressed, .headerGrowths]
  | _ => false

/-- An effect that can come of storing a row. -/
def Storing (effect : Effect) : Prop := effect.isStoring = true

theorem traffic_eq_nil {effects : List Effect} (h : ∀ effect ∈ effects, effect.isTraffic = false) :
    traffic effects = [] :=
  List.filter_eq_nil_iff.mpr fun effect hmem => Bool.eq_false_iff.mp (h effect hmem)

end Effect

open Effect (Storing)

section Storing

variable [Memory]

namespace ResultStore

theorem storing_makeRoom (store : ResultStore) : store.makeRoom.Emits Storing := by
  have hreserve : store.reserve.Emits Storing := by
    unfold reserve
    split
    · exact .bind (.emit rfl) fun _ => .bind (.log (by simp [Storing, Effect.isStoring])) fun _ =>
        .pure _
    · exact .pure _
  unfold makeRoom
  dsimp only
  split
  · exact .pure _
  · exact .bind hreserve fun _ => .pure _

theorem storing_storeValue (store : ResultStore) (depth flags : UInt16) (image : Bytes) :
    (store.storeValue depth flags image).Emits Storing := by
  refine .bind store.storing_makeRoom fun (answer, store) => ?_
  cases answer with
  | ok =>
    dsimp only
    split <;> exact .pure _
  | error error => exact .pure _

theorem storing_storeNull (store : ResultStore) (depth flags : UInt16) :
    (store.storeNull depth flags).Emits Storing := by
  refine .bind store.storing_makeRoom fun (answer, store) => ?_
  cases answer <;> exact .pure _

end ResultStore

namespace Fetch

theorem storing_storeImage (level : Nat) (buffer : RowBuffer) (results : ResultStore) :
    (storeImage level buffer results).Emits Storing := by
  unfold storeImage
  split
  · exact .bind (.emit rfl) fun _ => .pure _
  · refine .bind (results.storing_storeValue _ _ _) fun (answer, results) => ?_
    cases answer with
    | ok index => exact .bind (.emit rfl) fun _ => .pure _
    | error error => exact .pure _

theorem storing_visitLevel (query : Query) (cells : List Cell) (nulls : List Bool)
    (buffer : RowBuffer) (results : ResultStore) :
    (visitLevel query cells nulls buffer results).Emits Storing := by
  unfold visitLevel
  dsimp only
  split
  · exact .pure _
  · split
    · refine .bind (results.storing_storeNull _ _) fun (answer, results) => ?_
      cases answer with
      | ok => exact .bind (.emit rfl) fun _ => .pure _
      | error error => exact .pure _
    · exact .bind (storing_storeImage _ _ _) fun _ => .pure _

theorem storing_visitLevels (query : Query) (cells : List Cell) (buffers : List RowBuffer) :
    ∀ (nulls : List Bool) (results : ResultStore),
      (visitLevels query cells nulls buffers results).Emits Storing := by
  induction buffers with
  | nil => exact fun _ _ => .pure _
  | cons buffer rest ih =>
    intro nulls results
    refine .bind (storing_visitLevel _ _ _ _ _) fun (answer, buffer, results) => ?_
    cases answer with
    | ok isNull => exact .bind (ih _ _) fun _ => .pure _
    | error error => exact .pure _

/-- A drain polls the cursor and stores rows. -/
theorem emits_drain {p : Effect → Prop} (hstoring : ∀ effect : Effect, effect.Storing → p effect)
    (hpoll : p (.cursor .poll)) (query : Query) (cursor : Cursor) (fetch : Fetch) :
    (drain query cursor fetch).Emits p := by
  have htake (cells : List Cell) (fetch : Fetch) : (takeRow query cells fetch).Emits p := by
    refine .bind (fun effect hmem => hstoring effect (storing_visitLevels _ _ _ _ _ effect hmem))
      fun (answer, buffers, results) => ?_
    cases answer <;> exact .pure _
  have hadvance (taken : Except FetchError Unit × Fetch) (answer : Cursor.Answer) :
      (advance query taken answer).Emits p := by
    obtain ⟨error | ⟨⟩, fetch⟩ := taken
    · exact .pure _
    · refine .bind (.emit hpoll) fun _ => ?_
      cases answer with
      | row cells => exact htake cells fetch
      | empty | panic => exact .pure _
  refine .bind (.foldl hadvance _ _) fun (taken, fetch) => ?_
  cases taken with
  | error error => exact .pure _
  | ok =>
    refine .bind (.emit hpoll) fun _ => ?_
    split <;> exact .pure _

/-- Polling a cursor to its end makes no other call. -/
theorem traffic_drain (query : Query) (cursor : Cursor) (fetch : Fetch) :
    traffic (drain query cursor fetch).effects = [] := by
  refine Effect.traffic_eq_nil (emits_drain (p := fun effect => effect.isTraffic = false)
    (fun effect hstoring => ?_) rfl query cursor fetch)
  cases effect with
  | line | count => rfl
  | transaction | cursor => exact nomatch hstoring

end Fetch

end Storing

namespace Executor

variable {σ : Type} [Engine σ] {executor : Executor}

/-! ### Creating -/

/-- What `createQuery` can do to an executor that has not started, and whose buffers are bound. -/
inductive Creating (executor : Executor) :
    Answer (Except FetchError Unit) → Executor → List Effect → Prop
  | created (cursor : Cursor) : Creating executor (.returned (.ok ()))
      { executor with phase := .fetching (some cursor) }
      [.transaction (.createQuery executor.query (.returned (.ok cursor)))]
  | poisoned : Creating executor (.returned (.error (.createFailed .lockPoisoned)))
      { executor with phase := .failed (.createFailed .lockPoisoned) } []
  | failed (cause : EngineError) : Creating executor (.returned (.error (.createFailed cause)))
      { executor with phase := .failed (.createFailed cause) }
      [.transaction (.createQuery executor.query (.returned (.error cause)))]
  | panicked (text : String) : Creating executor (.panicked text) executor
      [.transaction (.createQuery executor.query (.panicked text))]

/-- The engine is asked for a cursor, and what comes of that decides. -/
theorem createQuery_of_attempted (hphase : executor.phase = .notStarted)
    (hbound : executor.unboundLevel? = none) {shared shared' : SharedTransaction σ}
    {answer : Answer (Except EngineError Cursor)} {effects : List Effect}
    (hask : SharedTransaction.attempt (Transaction.createQuery executor.query) shared =
      ⟨(answer, shared'), effects⟩) :
    (createQuery (executor, shared)).value.2.2 = shared' ∧
    match answer with
    | .returned (.error cause) =>
      (createQuery (executor, shared)).value.1 = .returned (.error (.createFailed cause)) ∧
      (createQuery (executor, shared)).value.2.1 =
        { executor with phase := .failed (.createFailed cause) } ∧
      acts (createQuery (executor, shared)).effects = acts effects ++ [.count .queriesFailed 1]
    | .returned (.ok cursor) =>
      (createQuery (executor, shared)).value.1 = .returned (.ok ()) ∧
      (createQuery (executor, shared)).value.2.1 =
        { executor with phase := .fetching (some cursor) } ∧
      acts (createQuery (executor, shared)).effects = acts effects
    | .panicked text =>
      (createQuery (executor, shared)).value.1 = .panicked text ∧
      (createQuery (executor, shared)).value.2.1 = executor ∧
      acts (createQuery (executor, shared)).effects = acts effects := by
  rcases answer with (cause | cursor) | text <;>
    simp [createQuery, Action.bind_apply, Traced.bind, hphase, hbound, hask, Action.log, fail,
      Action.count]

theorem creating (hphase : executor.phase = .notStarted) (hbound : executor.unboundLevel? = none)
    (shared : SharedTransaction σ) :
    Creating executor (createQuery (executor, shared)).value.1
      (createQuery (executor, shared)).value.2.1
      (traffic (createQuery (executor, shared)).effects) := by
  rcases hask : SharedTransaction.attempt (Transaction.createQuery executor.query) shared with
    ⟨⟨answer, shared'⟩, effects⟩
  have hattempted := SharedTransaction.attempted hask
  obtain ⟨-, hcreate⟩ := createQuery_of_attempted hphase hbound hask
  rw [← traffic_acts]
  rcases answer with (cause | cursor) | text <;>
    obtain ⟨hanswer, hafter, hacts⟩ := hcreate <;> rw [hanswer, hafter, hacts]
  · cases hattempted with
    | poisoned => exact .poisoned
    | reached => exact .failed cause
  · cases hattempted with
    | reached => exact .created cursor
  · cases hattempted with
    | reached => exact .panicked text

/-! ### Fetching -/

@[simp] theorem acts_dropHeld (held : Option OpenScope) :
    acts (OpenScope.dropHeld held).effects = [] := by
  obtain ⟨lines, hlines⟩ := Action.effects_dropHeld held
  rw [hlines, Effect.acts_lines]

/-- The call that closes a cursor, if there is one. -/
def closing : Option Cursor → List Effect
  | some _ => [.cursor .close]
  | none => []

theorem acts_closing (cursor? : Option Cursor) : acts (closing cursor?) = closing cursor? := by
  cases cursor? <;> rfl

/-- An executor that fetches has no cursor after `close`, which closes the one it had. -/
theorem close_fetching {cursor? : Option Cursor} (hphase : executor.phase = .fetching cursor?) :
    close executor =
      ⟨(.returned (), { executor with phase := .fetching none }), closing cursor?⟩ := by
  obtain ⟨query, fetch, _, abort, send⟩ := executor
  obtain rfl := hphase
  cases cursor? <;> rfl

section Fetch

variable [Memory]

theorem drainCursor_of_drain {cursor later : Cursor} {fetched : Fetch}
    {answer : Answer (Except FetchError Unit)} {effects : List Effect}
    (hphase : executor.phase = .fetching (some cursor))
    (hdrain : Fetch.drain executor.query cursor executor.fetch =
      ⟨(answer, later, fetched), effects⟩) :
    drainCursor executor =
      ⟨(answer, { executor with fetch := fetched, phase := .fetching (some later) }), effects⟩ := by
  obtain ⟨query, fetch, _, abort, send⟩ := executor
  obtain rfl := hphase
  simp [drainCursor, hdrain, Traced.bind]

/-- A cursor that was given up is missed. -/
theorem drainCursor_of_detached (hphase : executor.phase = .fetching none) :
    drainCursor executor =
      ⟨(.returned (.error (.illegalState "cursor detached during fetch")), executor), []⟩ := by
  obtain ⟨query, fetch, _, abort, send⟩ := executor
  obtain rfl := hphase
  rfl

/-- The phase after the cursor was polled to its end. -/
def phaseAfterDrain : Except FetchError Unit → Phase
  | .ok () => .drained
  | .error error => .failed error

/-- What is counted when the cursor was polled to its end. -/
def counterAfterDrain : Except FetchError Unit → Counter
  | .ok () => .queriesExecuted
  | .error _ => .queriesFailed

/-- Once the cursor was polled to its end, it is closed, and the executor comes to its own end. -/
theorem fetchAll_of_returned {drained : Executor} {cursor? later? : Option Cursor}
    {outcome : Except FetchError Unit} {effects : List Effect}
    (hphase : executor.phase = .fetching cursor?) (hlater : drained.phase = .fetching later?)
    (hdrain : drainCursor executor = ⟨(.returned outcome, drained), effects⟩) :
    (fetchAll executor).value = (.returned (outcome.map fun () => drained.results.size),
        { drained with phase := phaseAfterDrain outcome }) ∧
      acts (fetchAll executor).effects =
        acts effects ++ (closing later? ++ [.count (counterAfterDrain outcome) 1]) := by
  have hclose := close_fetching hlater
  cases outcome with
  | ok =>
    constructor
    · simp [fetchAll, Action.bind_apply, Traced.bind, Action.within_apply, fetchInScope, hphase,
        hdrain, hclose, Action.log, Action.count, phaseAfterDrain, Except.map, results]
    · simp [fetchAll, Action.bind_apply, Traced.bind, Action.within_apply, fetchInScope, hphase,
        hdrain, hclose, Action.log, Action.count, acts_closing, counterAfterDrain]
  | error error =>
    constructor
    · simp [fetchAll, Action.bind_apply, Traced.bind, Action.within_apply, fetchInScope, hphase,
        hdrain, hclose, Action.log, Action.count, phaseAfterDrain, Except.map, fail]
    · simp [fetchAll, Action.bind_apply, Traced.bind, Action.within_apply, fetchInScope, hphase,
        hdrain, hclose, Action.log, Action.count, acts_closing, fail, counterAfterDrain]

/-- If the cursor panics, the executor stays where it is. -/
theorem fetchAll_of_panicked {drained : Executor} {cursor? : Option Cursor} {text : String}
    {effects : List Effect} (hphase : executor.phase = .fetching cursor?)
    (hdrain : drainCursor executor = ⟨(.panicked text, drained), effects⟩) :
    (fetchAll executor).value = (.panicked text, drained) ∧
      acts (fetchAll executor).effects = acts effects := by
  constructor <;>
    simp [fetchAll, Action.bind_apply, Traced.bind, Action.within_apply, fetchInScope, hphase,
      hdrain]

/-- What `fetchAll` can do to an executor that fetches. -/
inductive Fetching (executor : Executor) :
    Option Cursor → Answer (Except FetchError Nat) → Executor → List Effect → Prop
  | drained (cursor : Cursor) (fetch : Fetch) :
    Fetching executor (some cursor) (.returned (.ok fetch.results.size))
      { executor with fetch, phase := .drained } [.cursor .close]
  | failed (cursor : Cursor) (fetch : Fetch) (error : FetchError) :
    Fetching executor (some cursor) (.returned (.error error))
      { executor with fetch, phase := .failed error } [.cursor .close]
  | panicked (cursor later : Cursor) (fetch : Fetch) (text : String) :
    Fetching executor (some cursor) (.panicked text)
      { executor with fetch, phase := .fetching (some later) } []
  | detached : Fetching executor none
      (.returned (.error (.illegalState "cursor detached during fetch")))
      { executor with phase := .failed (.illegalState "cursor detached during fetch") } []

theorem fetching {cursor? : Option Cursor} (hphase : executor.phase = .fetching cursor?) :
    Fetching executor cursor? (fetchAll executor).value.1 (fetchAll executor).value.2
      (traffic (fetchAll executor).effects) := by
  rw [← traffic_acts]
  cases cursor? with
  | none =>
    obtain ⟨hvalue, hacts⟩ :=
      fetchAll_of_returned hphase hphase (drainCursor_of_detached hphase)
    rw [hvalue, hacts]
    exact .detached
  | some cursor =>
    have hquiet := Fetch.traffic_drain executor.query cursor executor.fetch
    rcases hdrain : Fetch.drain executor.query cursor executor.fetch with
      ⟨⟨outcome | text, later, fetched⟩, effects⟩
    · rw [hdrain] at hquiet
      obtain ⟨hvalue, hacts⟩ :=
        fetchAll_of_returned hphase rfl (drainCursor_of_drain hphase hdrain)
      rw [hvalue, hacts, Effect.traffic_append, traffic_acts, hquiet]
      cases outcome with
      | ok => exact .drained cursor fetched
      | error error => exact .failed cursor fetched error
    · rw [hdrain] at hquiet
      obtain ⟨hvalue, hacts⟩ := fetchAll_of_panicked hphase (drainCursor_of_drain hphase hdrain)
      rw [hvalue, hacts, traffic_acts, hquiet]
      exact .panicked cursor later fetched text

end Fetch

/-! ### Creating, one round trip, and fetching -/

/-- The round trip of an executor commits nothing. -/
def roundTrip (executor : Executor) : RoundTrip := ⟨.noCommit, executor.abort, executor.send⟩

/-- What `run` can do to an executor that has not started, and whose buffers are bound. -/
inductive Running (executor : Executor) :
    Answer (Except FetchError Nat) → Executor → List Effect → Prop
  | uncreated {error : FetchError} {ended : Executor} {calls : List Effect}
      (h : Creating executor (.returned (.error error)) ended calls) :
    Running executor (.returned (.error error)) ended calls
  | interrupted {text : String} {ended : Executor} {calls : List Effect}
      (h : Creating executor (.panicked text) ended calls) :
    Running executor (.panicked text) ended calls
  | unsent (cursor : Cursor) (cause : EngineError) {trip : List Effect}
      (h : SharedTransaction.Attempted (.execute executor.roundTrip) (.returned (.error cause))
        trip) :
    Running executor (.returned (.error (.roundTripFailed cause)))
      { executor with phase := .failed (.roundTripFailed cause) }
      (.transaction (.createQuery executor.query (.returned (.ok cursor))) ::
        (trip ++ [.cursor .close]))
  | cut (cursor : Cursor) (text : String) :
    Running executor (.panicked text) { executor with phase := .fetching (some cursor) }
      [.transaction (.createQuery executor.query (.returned (.ok cursor))),
        .transaction (.execute executor.roundTrip (.panicked text))]
  | sent (cursor : Cursor) {answer : Answer (Except FetchError Nat)}
      {ended : Executor} {calls : List Effect}
      (h : Fetching { executor with phase := .fetching (some cursor) } (some cursor) answer ended
        calls) :
    Running executor answer ended
      (.transaction (.createQuery executor.query (.returned (.ok cursor))) ::
        .transaction (.execute executor.roundTrip (.returned (.ok ()))) :: calls)

section Run

variable [Memory] {created : Executor} {shared shared' after : SharedTransaction σ}
  {effects trip : List Effect}

/-- Without a cursor there is no round trip. -/
theorem run_of_uncreated {error : FetchError}
    (hcreate : createQuery (executor, shared) =
      ⟨(.returned (.error error), created, shared'), effects⟩) :
    run (executor, shared) = ⟨(.returned (.error error), created, shared'), effects⟩ := by
  simp [run, Action.bind_apply, Traced.bind, hcreate]

theorem run_of_interrupted {text : String}
    (hcreate : createQuery (executor, shared) = ⟨(.panicked text, created, shared'), effects⟩) :
    run (executor, shared) = ⟨(.panicked text, created, shared'), effects⟩ := by
  simp [run, Action.bind_apply, Traced.bind, hcreate]

/-- If the round trip fails, so does the executor, and its cursor is closed. -/
theorem run_of_unsent {cursor : Cursor} {cause : EngineError}
    (hcreate : createQuery (executor, shared) =
      ⟨(.returned (.ok ()), created, shared'), effects⟩)
    (hphase : created.phase = .fetching (some cursor))
    (htrip : SharedTransaction.attempt (Transaction.execute created.roundTrip) shared' =
      ⟨(.returned (.error cause), after), trip⟩) :
    run (executor, shared) =
      ⟨(.returned (.error (.roundTripFailed cause)),
        { created with phase := .failed (.roundTripFailed cause) }, after),
        effects ++ (trip ++ [.cursor .close, .count .queriesFailed 1])⟩ := by
  rw [roundTrip] at htrip
  simp [run, Action.bind_apply, Traced.bind, hcreate, htrip, close_fetching hphase, closing, fail,
    Action.count]

/-- If the round trip panics, the executor stays where it is. -/
theorem run_of_cut {text : String}
    (hcreate : createQuery (executor, shared) =
      ⟨(.returned (.ok ()), created, shared'), effects⟩)
    (htrip : SharedTransaction.attempt (Transaction.execute created.roundTrip) shared' =
      ⟨(.panicked text, after), trip⟩) :
    run (executor, shared) = ⟨(.panicked text, created, after), effects ++ trip⟩ := by
  rw [roundTrip] at htrip
  simp [run, Action.bind_apply, Traced.bind, hcreate, htrip]

/-- After the round trip all rows are fetched. -/
theorem run_of_sent
    (hcreate : createQuery (executor, shared) =
      ⟨(.returned (.ok ()), created, shared'), effects⟩)
    (htrip : SharedTransaction.attempt (Transaction.execute created.roundTrip) shared' =
      ⟨(.returned (.ok ()), after), trip⟩) :
    run (executor, shared) =
      ⟨((fetchAll created).value.1, (fetchAll created).value.2, after),
        effects ++ (trip ++ (fetchAll created).effects)⟩ := by
  rw [roundTrip] at htrip
  simp [run, Action.bind_apply, Traced.bind, hcreate, htrip]

end Run

theorem running [Memory] (hphase : executor.phase = .notStarted)
    (hbound : executor.unboundLevel? = none) (shared : SharedTransaction σ) :
    Running executor (run (executor, shared)).value.1 (run (executor, shared)).value.2.1
      (traffic (run (executor, shared)).effects) := by
  have hcreating := creating hphase hbound shared
  rcases hcreate : createQuery (executor, shared) with
    ⟨⟨(error | ⟨⟩) | text, ended, shared'⟩, effects⟩
  · rw [hcreate] at hcreating
    rw [run_of_uncreated hcreate]
    exact .uncreated hcreating
  · rw [hcreate] at hcreating
    dsimp only at hcreating
    generalize hcalls : traffic effects = calls at hcreating
    cases hcreating with
    | created cursor =>
      let fetched : Executor := { executor with phase := .fetching (some cursor) }
      rcases htrip : SharedTransaction.attempt (Transaction.execute fetched.roundTrip) shared' with
        ⟨⟨(cause | ⟨⟩) | text, after⟩, trip⟩
      · have hattempted := SharedTransaction.attempted htrip
        rw [run_of_unsent hcreate rfl htrip, Effect.traffic_append, Effect.traffic_append, hcalls,
          hattempted.traffic_eq]
        exact .unsent cursor cause hattempted
      · have hfetching := fetching (show fetched.phase = .fetching (some cursor) from rfl)
        rw [run_of_sent hcreate htrip, Effect.traffic_append, Effect.traffic_append, hcalls]
        cases SharedTransaction.attempted htrip with
        | reached => exact .sent cursor hfetching
      · rw [run_of_cut hcreate htrip, Effect.traffic_append, hcalls]
        cases SharedTransaction.attempted htrip with
        | reached => exact .cut cursor text
  · rw [hcreate] at hcreating
    rw [run_of_interrupted hcreate]
    exact .interrupted hcreating

end Executor

end StorageClient
