import StorageClient.Proofs.Batch.Closing
import StorageClient.Proofs.Session.Calls
/-!
# StorageClient.Proofs.Telemetry.Threshold

What the threshold of the sink decides. Every operation that may log is done with a sink at hand,
and could ask it for its threshold. All operations of this library are *steady*: the threshold
decides which of their lines are kept, and neither their values, nor what they do to a state, nor
their other effects (`Traced.Steady`, `Action.Steady`).

* A test of the threshold that decides anything else is not steady. So this is proved by following
  the definitions: there is one lemma for each way to put operations together, and one for each
  operation.
* Operations that only call the transaction need no such lemma; what is known of their effects will
  do (`Action.Steady.of_candid`).
* All of this holds whatever memory is granted or refused.
-/

namespace StorageClient

variable {σ τ α β : Type}

/-! ### What a threshold leaves -/

namespace Effect

/-- Whether an effect is left where lines are kept from a threshold on. -/
def isKept (threshold : Severity) : Effect → Bool
  | .line written => written.passes threshold
  | .count .. | .transaction _ | .cursor _ => true

/-- The lines that a sink with a threshold keeps, whatever their streams. -/
def linesAt (threshold : Severity) (effects : List Effect) : List Line :=
  (lines effects).filter (Line.passes threshold)

/-- A threshold does not keep anything from being counted. -/
theorem total_kept (threshold : Severity) (counter : Counter) (effects : List Effect) :
    total counter (effects.filter (isKept threshold)) = total counter effects := by
  induction effects with
  | nil => rfl
  | cons effect rest ih =>
    rw [List.filter_cons]
    split
    · rw [total_cons, total_cons, ih]
    · -- Only a line is left out, and a line counts nothing.
      cases effect with
      | line line =>
        have hnothing : growth counter (.line line) = 0 := by simp [growth]
        rw [ih, total_cons, hnothing, Nat.zero_add]
      | count | transaction | cursor => contradiction

theorem lines_kept (threshold : Severity) (effects : List Effect) :
    lines (effects.filter (isKept threshold)) = linesAt threshold effects := by
  rw [linesAt, lines, lines, List.filterMap_filter, List.filter_filterMap]
  refine List.filterMap_congr fun effect _ => ?_
  cases effect with
  | line line => cases hpasses : line.passes threshold <;>
    simp [isKept, Option.filter_some, hpasses]
  | count | transaction | cursor => rfl

end Effect

/-! ### Values with effects -/

namespace Traced

/-- Whatever the sink, the value is the one that is found where every line is kept, and the effects
are those from there, without the lines below the threshold of the sink. -/
structure Steady (x : Sink → Traced α) : Prop where
  value : ∀ sink, (x sink).value = (x .whole).value
  effects : ∀ sink, (x sink).effects = (x .whole).effects.filter (Effect.isKept sink.threshold)

namespace Steady

theorem of_kept {x : Traced α} (h : ∀ effect ∈ x.effects, ∀ t, effect.isKept t = true) :
    Steady fun _ => x where
  value _ := rfl
  effects sink := (List.filter_eq_self.mpr fun effect hmem => h effect hmem sink.threshold).symm

theorem pure (a : α) : Steady fun _ => (Pure.pure a : Traced α) := ⟨fun _ => rfl, fun _ => rfl⟩

theorem emit {effect : Effect} (h : ∀ t, effect.isKept t = true) :
    Steady fun _ => Traced.emit effect :=
  of_kept fun _ hmem => List.mem_singleton.mp hmem ▸ h

theorem log (line : Line) : Steady fun _ : Sink => Traced.log line where
  value sink := by
    unfold Traced.log
    split <;> rfl
  effects sink := by
    rw [effects_log, Traced.log]
    cases hpasses : line.passes sink.threshold <;> simp [Effect.isKept, hpasses]

/-- The same, told in another way. -/
theorem map {x : Sink → Traced α} (h : Steady x) (f : α → β) :
    Steady fun sink => ⟨f (x sink).value, (x sink).effects⟩ where
  value sink := congrArg f (h.value sink)
  effects := h.effects

theorem bind {x : Sink → Traced α} {f : Sink → α → Traced β} (h : Steady x)
    (hf : ∀ a, Steady fun sink => f sink a) : Steady fun sink => x sink >>= f sink where
  value sink := by
    rw [value_bind, value_bind, h.value sink]
    exact (hf _).value sink
  effects sink := by
    rw [effects_bind, effects_bind, List.filter_append, h.value sink, h.effects sink]
    exact congrArg _ ((hf _).effects sink)

theorem foldl {step : Sink → β → α → Traced β}
    (h : ∀ present element, Steady fun sink => step sink present element) (elements : List α) :
    ∀ start, Steady fun sink => Traced.foldl (step sink) start elements := by
  induction elements with
  | nil => exact fun _ => .pure _
  | cons element rest ih =>
    intro start
    simp only [foldl_cons]
    exact .bind (h start element) ih

end Steady

end Traced

open Traced (Steady)

/-! ### Scopes -/

namespace OpenScope

theorem steady_drop (opened : OpenScope) : Steady fun _ : Sink => opened.drop := by
  unfold drop
  split
  · exact .pure _
  · exact .log _

theorem steady_dropHeld (held : Option OpenScope) : Steady fun _ : Sink => dropHeld held := by
  cases held with
  | none => exact .pure _
  | some opened => exact opened.steady_drop

theorem steady_enter (scope : Scope) : Steady fun _ : Sink => enter scope :=
  .bind (.log _) fun _ => .pure _

theorem steady_close (opened : OpenScope) (closing : Scope.Closing) :
    Steady fun _ : Sink => opened.close closing :=
  .bind (.log _) fun _ => steady_drop _

end OpenScope

/-! ### Actions -/

namespace Action

/-- An action is steady in every state. -/
def Steady (action : Sink → Action σ α) : Prop :=
  ∀ state, Traced.Steady fun sink => action sink state

namespace Steady

theorem pure (a : α) : Steady fun _ => (Pure.pure a : Action σ α) := fun _ => .pure _

theorem get : Steady fun _ => (Action.get : Action σ σ) := fun _ => .pure _

theorem modify (f : σ → σ) : Steady fun _ => Action.modify f := fun _ => .pure _

theorem lift {x : Sink → Traced α} (h : Traced.Steady x) :
    Steady fun sink => (Action.lift (x sink) : Action σ α) := fun state =>
  h.map fun value => (Answer.returned value, state)

theorem log (line : Line) : Steady fun _ : Sink => (Action.log line : Action σ Unit) :=
  lift (.log line)

theorem count (counter : Counter) : Steady fun _ => (Action.count counter : Action σ Unit) :=
  lift (.emit fun _ => rfl)

theorem of_candid {action : Action σ α} (h : Candid action) : Steady fun _ => action := by
  intro state
  obtain ⟨calls, heffects, -⟩ := h state
  refine .of_kept fun effect hmem t => ?_
  obtain ⟨call, -, rfl⟩ := List.mem_map.mp (heffects ▸ hmem)
  rfl

theorem bind {first : Sink → Action σ α} {next : Sink → α → Action σ β} (h : Steady first)
    (hnext : ∀ a, Steady fun sink => next sink a) :
    Steady fun sink => first sink >>= next sink := by
  refine fun state => Traced.Steady.bind (h state) fun (answer, mid) => ?_
  cases answer with
  | returned a => exact hnext a mid
  | panicked text => exact .pure _

theorem onFirst {action : Sink → Action σ α} (h : Steady action) :
    Steady fun sink => (Action.onFirst (action sink) : Action (σ × τ) α) := fun (first, second) =>
  (h first).map fun came => (came.1, came.2, second)

theorem onSecond {action : Sink → Action σ α} (h : Steady action) :
    Steady fun sink => (Action.onSecond (action sink) : Action (τ × σ) α) := fun (first, second) =>
  (h second).map fun came => (came.1, first, came.2)

theorem spawn {action : Sink → Action σ α} (h : Steady action) :
    Steady fun sink => Action.spawn (action sink) := fun state =>
  .bind (h state) fun _ => .pure _

theorem onCopy {action : Sink → Action (τ × σ) α} (h : Steady action) (thing : τ) :
    Steady fun sink => Action.onCopy thing (action sink) := by
  refine fun state => .bind (h (thing, state)) fun (answer, thing, state) => ?_
  cases answer <;> exact .pure _

/-- Work that is steady is so inside a scope as well. -/
theorem within {work : Sink → Action (σ × Option OpenScope) α} (h : Steady work) (scope : Scope) :
    Steady fun sink => Action.within scope (work sink) := fun state =>
  .bind (OpenScope.steady_enter scope) fun opened =>
    .bind (h (state, some opened)) fun (_, _, held) =>
      .bind (OpenScope.steady_dropHeld held) fun _ => .pure _

theorem closeScope (closing : Scope.Closing) :
    Steady fun _ : Sink => (Action.closeScope closing : Action (σ × Option OpenScope) Unit) := by
  rintro ⟨state, _ | opened⟩
  · exact .pure _
  · exact .bind (opened.steady_close closing) fun _ => .pure _

end Steady

end Action

/-! ### Transactions -/

namespace SharedTransaction

open StorageClient.Action (Candid)

theorem steady_useWith {body : Sink → Action (τ × σ) α} (h : Action.Steady body) :
    Action.Steady fun sink => useWith (body sink) := by
  rintro ⟨thing, shared⟩
  by_cases hpoisoned : shared.poisoned = true
  · simp only [useWith, if_pos hpoisoned]
    exact .pure _
  · simp only [useWith, if_neg hpoisoned]
    refine .bind (h (thing, shared.engine)) fun came => ?_
    obtain ⟨answer, thing, engine⟩ := came
    cases answer <;> exact .pure _

theorem steady_use {body : Sink → Action σ α} (h : Action.Steady body) :
    Action.Steady fun sink => use (body sink) := fun shared =>
  .bind (steady_useWith (.onSecond h) ((), shared)) fun _ => .pure _

theorem steady_attempt {body : Action σ (Except EngineError α)} (h : Candid body) :
    Action.Steady fun _ => attempt body := by
  refine .bind (steady_use (.of_candid h)) fun answer => ?_
  cases answer <;> exact .pure _

theorem steady_registerClose :
    Action.Steady fun _ : Sink => (registerClose : Action (SharedTransaction σ) Unit) := by
  intro shared
  dsimp only [registerClose]
  split
  · exact .pure _
  · exact .bind (.log _) fun _ => .pure _

variable [Engine σ]

theorem steady_error :
    Action.Steady fun _ => (error : Action (SharedTransaction σ) (Option EngineError)) := by
  refine .bind (steady_use (.of_candid (.call fun _ => rfl))) fun answer => ?_
  cases answer <;> exact .pure _

theorem steady_close : Action.Steady fun _ : Sink =>
    (close : Action (SharedTransaction σ) (Except EngineError Unit)) := by
  refine .bind (steady_use (.of_candid (.call fun _ => rfl))) fun answer => ?_
  cases answer with
  | ok => exact .bind steady_registerClose fun _ => .pure _
  | error refusal => exact .pure _

end SharedTransaction

/-! ### Trees and chains -/

namespace Builder

theorem steady_report (error : DefinitionError) : Steady fun _ : Sink => report error :=
  .bind (.emit fun _ => rfl) fun _ => .log _

theorem steady_define (builder : Builder) (index : Option Index) (table : Table)
    (operands : List Operand) : Steady fun _ : Sink => builder.define index table operands := by
  unfold define
  split
  · exact .pure _
  · exact .bind (steady_report _) fun _ => .pure _

theorem steady_prepare (builder : Builder) (root : LevelRef) (id : String) :
    Steady fun _ : Sink => builder.prepare root id := by
  unfold prepare
  split
  · exact .bind (.log _) fun _ => .pure _
  · exact .bind (steady_report _) fun _ => .pure _

theorem steady_perform (builder : Builder) (call : Call) :
    Steady fun _ : Sink => call.perform builder := by
  unfold Call.perform
  cases call with
  | define index table operands => exact builder.steady_define index table operands
  | setRecord | markJoinOnly => dsimp only; split <;> exact .pure _

end Builder

namespace Chain

theorem steady_rootIndex (chain : Chain) : Steady fun _ : Sink => chain.rootIndex := by
  unfold rootIndex
  split
  · split
    · exact .bind (.emit fun _ => rfl) fun _ => .bind (.log _) fun _ => .pure _
    · exact .pure _
  · exact .pure _

theorem steady_defineLevel (builder : Builder) (index : Option Index) (source : Source)
    (operands : List Operand) (joinOnly : Bool) :
    Steady fun _ : Sink => defineLevel builder index source operands joinOnly :=
  .bind (builder.steady_define _ _ _) fun _ => .pure _

theorem steady_defineJoins (joins : List Join) : ∀ (builder : Builder) (parent : LevelRef),
    Steady fun _ : Sink => defineJoins builder parent joins := by
  induction joins with
  | nil => exact fun _ _ => .pure _
  | cons join rest ih =>
    intro builder parent
    refine .bind (steady_defineLevel _ _ _ _ _) fun answer => ?_
    rcases answer with error | ⟨ref, builder⟩
    · exact .pure _
    · exact ih builder ref

theorem steady_compile (chain : Chain) (id : String) :
    Steady fun _ : Sink => chain.compile id := by
  refine .bind (.emit fun _ => rfl) fun _ => .bind chain.steady_rootIndex fun index => ?_
  rcases index with error | index
  · exact .pure _
  refine .bind (steady_defineLevel _ _ _ _ _) fun answer => ?_
  rcases answer with error | ⟨root, builder⟩
  · exact .pure _
  refine .bind (steady_defineJoins chain.joins builder root) fun answer => ?_
  rcases answer with error | builder
  · exact .pure _
  · exact builder.steady_prepare root id

end Chain

/-! ### Fetches -/

section Fetch

variable [Memory]

namespace ResultStore

theorem steady_makeRoom (store : ResultStore) : Steady fun _ : Sink => store.makeRoom := by
  have hreserve : Steady fun _ : Sink => store.reserve := by
    unfold reserve
    split
    · exact .bind (.emit fun _ => rfl) fun _ => .bind (.log _) fun _ => .pure _
    · exact .pure _
  unfold makeRoom
  dsimp only
  split
  · exact .pure _
  · exact .bind hreserve fun _ => .pure _

theorem steady_storeValue (store : ResultStore) (depth flags : UInt16) (image : Bytes) :
    Steady fun _ : Sink => store.storeValue depth flags image := by
  refine .bind store.steady_makeRoom fun (answer, store) => ?_
  cases answer with
  | ok =>
    dsimp only
    split <;> exact .pure _
  | error error => exact .pure _

theorem steady_storeNull (store : ResultStore) (depth flags : UInt16) :
    Steady fun _ : Sink => store.storeNull depth flags := by
  refine .bind store.steady_makeRoom fun (answer, store) => ?_
  cases answer <;> exact .pure _

end ResultStore

namespace Fetch

theorem steady_storeImage (level : Nat) (buffer : RowBuffer) (results : ResultStore) :
    Steady fun _ : Sink => storeImage level buffer results := by
  unfold storeImage
  split
  · exact .bind (.emit fun _ => rfl) fun _ => .pure _
  · refine .bind (results.steady_storeValue _ _ _) fun (answer, results) => ?_
    cases answer with
    | ok index => exact .bind (.emit fun _ => rfl) fun _ => .pure _
    | error error => exact .pure _

theorem steady_visitLevel (query : Query) (cells : List Cell) (nulls : List Bool)
    (buffer : RowBuffer) (results : ResultStore) :
    Steady fun _ : Sink => visitLevel query cells nulls buffer results := by
  unfold visitLevel
  dsimp only
  split
  · exact .pure _
  · split
    · refine .bind (results.steady_storeNull _ _) fun (answer, results) => ?_
      cases answer with
      | ok => exact .bind (.emit fun _ => rfl) fun _ => .pure _
      | error error => exact .pure _
    · exact .bind (steady_storeImage _ _ _) fun _ => .pure _

theorem steady_visitLevels (query : Query) (cells : List Cell) (buffers : List RowBuffer) :
    ∀ (nulls : List Bool) (results : ResultStore),
      Steady fun _ : Sink => visitLevels query cells nulls buffers results := by
  induction buffers with
  | nil => exact fun _ _ => .pure _
  | cons buffer rest ih =>
    intro nulls results
    refine .bind (steady_visitLevel _ _ _ _ _) fun (answer, buffer, results) => ?_
    cases answer with
    | ok isNull => exact .bind (ih _ _) fun _ => .pure _
    | error error => exact .pure _

theorem steady_advance (query : Query) (taken : Except FetchError Unit × Fetch)
    (answer : Cursor.Answer) : Steady fun _ : Sink => advance query taken answer := by
  obtain ⟨error | ⟨⟩, fetch⟩ := taken
  · exact .pure _
  · refine .bind (.emit fun _ => rfl) fun _ => ?_
    cases answer with
    | row cells =>
      refine .bind (steady_visitLevels _ _ _ _ _) fun (answer, buffers, results) => ?_
      cases answer <;> exact .pure _
    | empty | panic => exact .pure _

theorem steady_drain (query : Query) (cursor : Cursor) (fetch : Fetch) :
    Steady fun _ : Sink => drain query cursor fetch := by
  refine .bind (.foldl (steady_advance query) _ _) fun (taken, fetch) => ?_
  cases taken with
  | error error => exact .pure _
  | ok =>
    refine .bind (.emit fun _ => rfl) fun _ => ?_
    split <;> exact .pure _

end Fetch

end Fetch

/-! ### Executors -/

namespace Executor

/-- To close a cursor is a call on it, and nothing else. -/
theorem steady_close : Action.Steady fun _ => close := by
  intro executor
  dsimp only [close]
  split
  · exact .of_kept fun _ hmem _ => by rw [List.mem_singleton.mp hmem]; rfl
  · exact .pure _

theorem steady_fail (error : FetchError) :
    Action.Steady fun _ => (fail error : Action Executor (Except FetchError α)) :=
  .bind (.modify _) fun _ => .bind (.count _) fun _ => .pure _

theorem steady_createQuery [Engine σ] : Action.Steady fun _ : Sink =>
    (createQuery : Action (Executor × SharedTransaction σ) (Except FetchError Unit)) := by
  refine .bind .get fun (executor, shared) => ?_
  dsimp only
  split
  · refine .bind (.onSecond (SharedTransaction.steady_attempt (.call fun _ => rfl)))
      fun answer => ?_
    cases answer with
    | ok cursor =>
      exact .bind (.onFirst (.modify _)) fun _ => .bind (.log _) fun _ => .pure _
    | error cause => exact .bind (.log _) fun _ => .onFirst (steady_fail _)
  · exact .pure _
  · exact .pure _

variable [Memory]

theorem steady_drainCursor : Action.Steady fun _ : Sink => drainCursor := by
  intro executor
  dsimp only [drainCursor]
  split
  · exact .bind (Fetch.steady_drain _ _ _) fun _ => .pure _
  · exact .pure _

theorem steady_fetchInScope : Action.Steady fun _ : Sink => fetchInScope := by
  refine .bind (.onFirst steady_drainCursor) fun outcome =>
    .bind (.onFirst steady_close) fun _ => .bind .get fun (executor, held) => ?_
  cases outcome with
  | ok =>
    exact .bind (.onFirst (.modify _)) fun _ => .bind (.count _) fun _ =>
      .bind (.log _) fun _ => .bind (.closeScope _) fun _ => .pure _
  | error error =>
    exact .bind (.log _) fun _ => .bind (.closeScope _) fun _ => .onFirst (steady_fail error)

theorem steady_fetchAll : Action.Steady fun _ : Sink => fetchAll := by
  refine .bind .get fun executor => ?_
  split
  · exact .within steady_fetchInScope _
  · exact .pure _

variable [Engine σ]

theorem steady_run : Action.Steady fun _ : Sink =>
    (run : Action (Executor × SharedTransaction σ) (Except FetchError Nat)) := by
  refine .bind steady_createQuery fun answer => ?_
  cases answer with
  | error error => exact .pure _
  | ok =>
    refine .bind .get fun (executor, shared) =>
      .bind (.onSecond (SharedTransaction.steady_attempt (.call fun _ => rfl))) fun answer => ?_
    cases answer with
    | error cause => exact .bind (.onFirst steady_close) fun _ => .onFirst (steady_fail _)
    | ok => exact .onFirst steady_fetchAll

theorem steady_runOnTask (task : String) (executor : Executor) (shared : SharedTransaction σ) :
    Steady fun _ : Sink => runOnTask task executor shared := by
  refine .bind (steady_run (executor, shared)) fun (answer, executor, shared) => ?_
  cases answer with
  | returned result => exact .pure _
  | panicked text => exact .bind (steady_close executor) fun _ => .pure _

end Executor

/-! ### Batches -/

namespace Batch

theorem steady_onEntries {action : Sink → Action (List Entry × τ) α} (h : Action.Steady action) :
    Action.Steady fun sink => onEntries (action sink) := fun (batch, rest) =>
  (h (batch.entries, rest)).map fun came => (came.1, { batch with entries := came.2.1 }, came.2.2)

theorem steady_start (call : BatchCall) (options : RoundTrip) : Action.Steady fun _ : Sink =>
    (start call options : Action (Batch × SharedTransaction σ) (Except BatchError Scope)) := by
  refine .bind .get fun (batch, shared) => ?_
  dsimp only
  split
  · exact .bind (.log _) fun _ => .pure _
  · exact .pure _
  · exact .pure _

theorem steady_complete (exec : ExecType)
    (collected : Except EngineError (Option EngineError)) : Action.Steady fun _ : Sink =>
    (complete exec collected :
      Action ((Batch × SharedTransaction σ) × Option OpenScope) (Except BatchError Report)) := by
  have hrecord (transactionError : Option EngineError) : Action.Steady fun _ : Sink =>
      (record exec transactionError : Action (Batch × SharedTransaction σ) Report) := by
    refine .bind .get fun _ => .bind (.onFirst (.modify _)) fun _ => .bind .get fun _ =>
      .bind (.count _) fun _ => .bind (.lift (.emit fun _ => rfl)) fun _ => ?_
    cases transactionError <;> exact .bind (.log _) fun _ => .pure _
  cases collected with
  | error refusal => exact .bind (.closeScope _) fun _ => .pure _
  | ok transactionError =>
    exact .bind (.onFirst (hrecord transactionError)) fun _ =>
      .bind (.closeScope _) fun _ => .pure _

variable [Engine σ]

theorem steady_prepare : Action.Steady fun _ : Sink =>
    (prepare : Action (Batch × SharedTransaction σ) (Except BatchError Unit)) := by
  refine .bind .get fun (batch, shared) => ?_
  dsimp only
  split
  · refine .bind (steady_onEntries (SharedTransaction.steady_useWith
      (.of_candid candid_defineEntries))) fun answer => ?_
    cases answer with
    | error refusal => exact .pure _
    | ok defined =>
      exact .bind (.onFirst (.modify _)) fun _ => .bind (.log _) fun _ => .pure _
  · exact .pure _
  · exact .pure _

theorem steady_tryStart : Action.Steady fun _ =>
    (tryStart : Action (Batch × SharedTransaction σ) (Except BatchError Bool)) := by
  refine .bind .get fun (batch, shared) => ?_
  dsimp only
  split
  · exact .pure _
  · refine .bind (.onSecond (SharedTransaction.steady_use
      (.of_candid (.call fun _ => rfl)))) fun answer => ?_
    cases answer <;> exact .pure _

theorem steady_roundTrip (options : RoundTrip) : Action.Steady fun _ : Sink =>
    (roundTrip options :
      Action (List Entry × SharedTransaction σ) (Except EngineError (Option EngineError))) := by
  refine .bind (SharedTransaction.steady_useWith (.of_candid (candid_executeEntries options)))
    fun answer => ?_
  cases answer with
  | error refusal => exact .pure _
  | ok transactionError =>
    dsimp only
    split
    · exact .bind (.onSecond SharedTransaction.steady_registerClose) fun _ => .pure _
    · exact .pure _

theorem steady_execute (options : RoundTrip) : Action.Steady fun _ : Sink =>
    (execute options : Action (Batch × SharedTransaction σ) (Except BatchError Report)) := by
  refine .bind (steady_start _ options) fun answer => ?_
  cases answer with
  | error error => exact .pure _
  | ok scope =>
    exact .within (.bind (.onFirst (steady_onEntries (steady_roundTrip options)))
      fun _ => steady_complete _ _) scope

theorem steady_roundTripOnTask (options : RoundTrip) : Action.Steady fun _ : Sink =>
    (roundTripOnTask options : Action (Batch × SharedTransaction σ) _) :=
  .bind .get fun (batch, _) =>
    .onSecond (.spawn (.onCopy (steady_roundTrip options) batch.entries))

theorem steady_executeAwaited (task : String) (options : RoundTrip) : Action.Steady fun _ : Sink =>
    (executeAwaited task options :
      Action (Batch × SharedTransaction σ) (Except BatchError Report)) := by
  refine .bind (steady_start _ options) fun answer => ?_
  cases answer with
  | error error => exact .pure _
  | ok scope =>
    refine .within (.bind (.onFirst (steady_roundTripOnTask options)) fun answer => ?_) scope
    rcases answer with ⟨entries, collected⟩ | text
    · exact .bind (.onFirst (.onFirst (.modify _))) fun _ => steady_complete _ _
    · exact .bind (.closeScope _) fun _ => .pure _

theorem steady_executeAbandoned (options : RoundTrip) : Action.Steady fun _ : Sink =>
    (executeAbandoned options : Action (Batch × SharedTransaction σ) (Except BatchError Unit)) := by
  refine .bind (steady_start _ options) fun answer => ?_
  cases answer with
  | error error => exact .pure _
  | ok scope =>
    exact .bind (.within (.pure ()) scope) fun _ =>
      .bind (steady_roundTripOnTask options) fun _ => .pure _

theorem steady_submit (task : Option String) (options : RoundTrip) (batch : Batch) :
    Action.Steady fun _ : Sink =>
      (submit task options batch : Action (SharedTransaction σ) Submission) := by
  intro shared
  refine .bind ?_ fun came => ?_
  · cases task with
    | none => exact steady_execute options (batch, shared)
    | some task => exact steady_executeAwaited task options (batch, shared)
  · obtain ⟨answer, batch, shared⟩ := came
    cases answer <;> exact .pure _

theorem steady_perform (request : Request) : Action.Steady fun _ : Sink =>
    (request.perform : Action (Batch × SharedTransaction σ) (Except BatchError Response)) := by
  have htelling {β γ : Type} (f : β → γ)
      {action : Sink → Action (Batch × SharedTransaction σ) (Except BatchError β)}
      (h : Action.Steady action) : Action.Steady fun sink => telling f (action sink) := fun state =>
    (h state).map fun came => (came.1.map (Except.map f), came.2)
  cases request with
  | setError n error => exact fun _ => .pure _
  | prepare => exact htelling _ steady_prepare
  | tryStart => exact htelling _ steady_tryStart
  | execute options => exact htelling _ (steady_execute options)
  | executeAwaited task options => exact htelling _ (steady_executeAwaited task options)

end Batch

/-! ### Sessions -/

namespace Session

variable [Engine σ]

theorem steady_onExecutor [Memory] (executor : Executor) (shared : SharedTransaction σ)
    (call : OnExecutor) : Steady fun _ : Sink => call.perform executor shared := by
  have hsetUp (changed : Except FetchError Executor) :
      Steady fun _ : Sink => OnExecutor.perform.setUp executor shared changed := by
    cases changed <;> exact .pure _
  cases call with
  | createRowBuffer level record => exact hsetUp _
  | markJoinOnly level => exact hsetUp _
  | createQuery => exact .bind (Executor.steady_createQuery (executor, shared)) fun _ => .pure _
  | run => exact .bind (Executor.steady_run (executor, shared)) fun _ => .pure _
  | runOnTask task =>
    refine .bind (Executor.steady_runOnTask task executor shared) fun (answer, shared) => ?_
    cases answer <;> exact .pure _
  | fetchAll => exact .bind (Executor.steady_fetchAll executor) fun _ => .pure _
  | close => exact .bind (Executor.steady_close executor) fun _ => .pure _
  | takeData index => exact .pure _
  | drop => exact .bind (Executor.steady_close executor) fun _ => .pure _

theorem steady_onBatch (batch : Batch) (shared : SharedTransaction σ) (call : OnBatch) :
    Steady fun _ : Sink => call.perform batch shared := by
  cases call with
  | plain request => exact .bind (Batch.steady_perform request (batch, shared)) fun _ => .pure _
  | submit task options =>
    exact .bind (Batch.steady_submit task options batch shared) fun _ => .pure _
  | abandon options =>
    exact .bind (Batch.steady_executeAbandoned options (batch, shared)) fun _ => .pure _
  | outcome | entryError | blobResults => exact .pure _

theorem steady_onTransaction (shared : SharedTransaction σ) (call : OnTransaction σ) :
    Steady fun _ : Sink => call.perform shared := by
  cases call with
  | isClosed => exact .pure _
  | error => exact .bind (SharedTransaction.steady_error shared) fun _ => .pure _
  | registerClose => exact .bind (SharedTransaction.steady_registerClose shared) fun _ => .pure _
  | close => exact .bind (SharedTransaction.steady_close shared) fun _ => .pure _
  | use body =>
    have hbody : Action.Steady fun _ => (fun engine => ⟨body engine, []⟩ : Action σ Unit) :=
      fun _ => .of_kept fun _ hmem => absurd hmem List.not_mem_nil
    exact .bind (SharedTransaction.steady_use hbody shared) fun _ => .pure _

/-- **No call feeds the threshold back.** Whatever the threshold of the sink, a call is answered the
same and leaves the same objects, and nothing but lines below the threshold is left out. -/
theorem steady_perform [Memory] (session : Session σ) (call : Call σ) :
    Steady fun _ : Sink => session.perform call := by
  unfold perform
  cases call with
  | newBuilder name => dsimp only; split <;> exact .pure _
  | builder name call =>
    dsimp only
    split
    · exact .pure _
    · exact .bind (Builder.steady_perform _ call) fun _ => .pure _
  | prepare name root id =>
    dsimp only
    split
    · exact .pure _
    · exact .bind (Builder.steady_prepare _ root id) fun _ => .pure _
  | compile chain id => exact .bind (chain.steady_compile id) fun _ => .pure _
  | newExecutor name query config => dsimp only; split <;> exact .pure _
  | executor name named call =>
    dsimp only
    split
    · exact .pure _
    · exact .bind (steady_onExecutor _ _ call) fun _ => .pure _
  | newBatch name operations => dsimp only; split <;> exact .pure _
  | batch name named call =>
    dsimp only
    split
    · exact .pure _
    · exact .bind (steady_onBatch _ _ call) fun _ => .pure _
  | transaction id call => exact .bind (steady_onTransaction _ call) fun _ => .pure _

end Session

end StorageClient
