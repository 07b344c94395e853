import Mathlib.Data.List.TakeWhile
import StorageClient.Proofs.Fetch.Ample
import StorageClient.Proofs.Tree.Shape
import StorageClient.Transaction.Playback
/-!
# StorageClient.Proofs.Fetch.Start

Executors from their making to the end of their fetch, as far as the order of calls goes.

* Before the start the buffers can be set up (`Executor.setUp`). Whatever is done, nothing was
  stored yet, and the buffers are as good as new (`Executor.Unused`).
* An executor is *started* with a cursor if it was set up, and an engine then made that cursor for
  its query (`Executor.Started`).
* If the cursor does not panic, the fetch is the loop over all of its answers
  (`Executor.value_fetchAll`).
-/

namespace StorageClient

theorem Traced.value_bind_eq {α β : Type} (x : Traced α) (f : α → Traced β) :
    (Traced.bind x f).value = (f x.value).value := rfl

namespace RowBuffer

/-- A buffer that no cursor wrote to, and from which nothing was copied. -/
structure Fresh (buffer : RowBuffer) : Prop where
  lastCopy : buffer.lastCopy = none
  data : buffer.data = List.replicate buffer.size 0

theorem fresh_new (record : Record) : (new record).Fresh := ⟨rfl, by simp [new, size]⟩

theorem fresh_unbound : unbound.Fresh := ⟨rfl, rfl⟩

theorem Fresh.markJoinOnly {buffer : RowBuffer} (h : buffer.Fresh) : buffer.markJoinOnly.Fresh :=
  ⟨h.lastCopy, h.data⟩

end RowBuffer

namespace Executor

variable {query : Query}

inductive Setup
  | createRowBuffer (level : Nat) (record : Record)
  | markJoinOnly (level : Nat)
  deriving Repr, DecidableEq

/-- Makes a call; a refused one changes nothing. -/
def Setup.apply (executor : Executor) : Setup → Executor
  | createRowBuffer level record => (executor.createRowBuffer level record).toOption.getD executor
  | markJoinOnly level => (executor.markJoinOnly level).toOption.getD executor

def setUp (executor : Executor) (calls : List Setup) : Executor := calls.foldl Setup.apply executor

/-- Nothing was stored yet. -/
structure Unused (query : Query) (executor : Executor) : Prop where
  query_eq : executor.query = query
  headers : executor.results.headers = #[]
  length_buffers : executor.fetch.buffers.length = query.levels
  fresh : ∀ buffer ∈ executor.fetch.buffers, buffer.Fresh

/-- An engine made `cursor` for an executor of `query`, after its buffers were set up. -/
def Started (query : Query) (cursor : Cursor) (started : Executor) : Prop :=
  started.phase = .fetching (some cursor) ∧
    ∃ (config : Config) (calls : List Setup) (σ : Type) (_ : Engine σ)
      (shared after : SharedTransaction σ),
      (createQuery ((Executor.new query config).setUp calls, shared)).value =
        (.returned (.ok ()), started, after)

/-! ### Before the start -/

theorem fresh_bufferOf (node : Node) : (bufferOf node).Fresh := by
  rw [bufferOf]
  cases node.record with
  | some record =>
    cases node.joinOnly
    · exact RowBuffer.fresh_new record
    · exact (RowBuffer.fresh_new record).markJoinOnly
  | none =>
    cases node.joinOnly
    · exact RowBuffer.fresh_unbound
    · exact RowBuffer.fresh_unbound.markJoinOnly

theorem unused_new (query : Query) (config : Config) :
    Unused query (Executor.new query config) where
  query_eq := rfl
  headers := rfl
  length_buffers := by simp [Executor.new, Query.levels]
  fresh buffer hbuffer := by
    obtain ⟨node, -, rfl⟩ := List.mem_map.mp hbuffer
    exact fresh_bufferOf node

theorem Unused.changeBuffer {executor changed : Executor} (h : Unused query executor)
    {call : String} {level : Nat} {change : RowBuffer → RowBuffer}
    (hchange : ∀ buffer : RowBuffer, buffer.Fresh → (change buffer).Fresh)
    (hok : executor.changeBuffer call level change = .ok changed) : Unused query changed := by
  unfold Executor.changeBuffer at hok
  split at hok
  · dsimp only at hok
    split at hok
    · cases hok
      refine ⟨h.query_eq, h.headers, by simpa using h.length_buffers, fun buffer hbuffer => ?_⟩
      obtain ⟨i, hi⟩ := List.mem_iff_getElem?.mp hbuffer
      rw [List.getElem?_modify] at hi
      obtain ⟨old, hold, rfl⟩ := Option.map_eq_some_iff.mp hi
      have hfresh := h.fresh old (List.mem_of_getElem? hold)
      split
      · exact hchange old hfresh
      · exact hfresh
    · exact nomatch hok
  · exact nomatch hok

theorem Unused.apply {executor : Executor} (h : Unused query executor) (call : Setup) :
    Unused query (call.apply executor) := by
  cases call with
  | createRowBuffer level record =>
    rw [Setup.apply]
    cases hok : executor.createRowBuffer level record with
    | error e => exact h
    | ok changed =>
      refine h.changeBuffer (fun buffer _ => ?_) hok
      split
      · exact (RowBuffer.fresh_new record).markJoinOnly
      · exact RowBuffer.fresh_new record
  | markJoinOnly level =>
    rw [Setup.apply]
    cases hok : executor.markJoinOnly level with
    | error e => exact h
    | ok changed => exact h.changeBuffer (fun _ hfresh => hfresh.markJoinOnly) hok

/-- Setting up buffers keeps an executor unused, whatever is refused. -/
theorem Unused.setUp {executor : Executor} (h : Unused query executor) (calls : List Setup) :
    Unused query (executor.setUp calls) := by
  induction calls generalizing executor with
  | nil => exact h
  | cons call calls ih => exact ih (h.apply call)

/-! ### The start -/

variable {σ : Type} [Engine σ]

/-- An engine that makes a cursor changes nothing but the phase. -/
theorem createQuery_eq_ok {executor started : Executor} {shared after : SharedTransaction σ}
    (h : (createQuery (executor, shared)).value = (.returned (.ok ()), started, after)) :
    executor.phase = .notStarted ∧ executor.unboundLevel? = none ∧
      ∃ cursor, started = { executor with phase := .fetching (some cursor) } := by
  -- Every refusal returns an error, so only one way leads to the end.
  cases hphase : executor.phase with
  | notStarted =>
    cases hbound : executor.unboundLevel? with
    | some level =>
      simp [createQuery, Action.bind_apply, Traced.value_bind_eq, hphase, hbound] at h
    | none =>
      refine ⟨rfl, rfl, ?_⟩
      rcases hask : (SharedTransaction.attempt (Transaction.createQuery executor.query)
        shared).value with ⟨(answer | text), shared'⟩
      · cases answer with
        | error cause =>
          simp [createQuery, Action.bind_apply, Traced.value_bind_eq, hphase, hbound, hask,
            Action.log, Action.count, fail] at h
        | ok cursor =>
          obtain ⟨rfl, -⟩ : { executor with phase := .fetching (some cursor) } = started ∧
              shared' = after := by
            simpa [createQuery, Action.bind_apply, Traced.value_bind_eq, hphase, hbound, hask,
              Action.log] using h
          exact ⟨cursor, rfl⟩
      · simp [createQuery, Action.bind_apply, Traced.value_bind_eq, hphase, hbound, hask] at h
  | fetching cursor => simp [createQuery, Action.bind_apply, Traced.value_bind_eq, hphase] at h
  | drained => simp [createQuery, Action.bind_apply, Traced.value_bind_eq, hphase] at h
  | failed error => simp [createQuery, Action.bind_apply, Traced.value_bind_eq, hphase] at h

theorem Started.unused {cursor : Cursor} {started : Executor} (h : Started query cursor started) :
    Unused query started := by
  obtain ⟨-, config, calls, σ, _, shared, after, hcreate⟩ := h
  obtain ⟨-, -, cursor, rfl⟩ := createQuery_eq_ok hcreate
  obtain ⟨hquery, hheaders, hlength, hfresh⟩ := (unused_new query config).setUp calls
  exact ⟨hquery, hheaders, hlength, hfresh⟩

def engineWith (cursor : Cursor) : Playback :=
  .new ⟨0, [], [.ok cursor], [], none, [], [], none, false⟩

/-- An executor that was started can be started with any cursor. -/
theorem Started.withCursor {cursor : Cursor} {started : Executor} (h : Started query cursor started)
    (other : Cursor) :
    Started query other { started with phase := .fetching (some other) } := by
  obtain ⟨-, config, calls, σ, _, shared, after, hcreate⟩ := h
  obtain ⟨hphase, hbound, made, rfl⟩ := createQuery_eq_ok hcreate
  have hask : ∃ after, (SharedTransaction.attempt
      (Transaction.createQuery ((Executor.new query config).setUp calls).query)
      (SharedTransaction.new "tx" (engineWith other))).value = (.returned (.ok other), after) :=
    ⟨_, rfl⟩
  obtain ⟨after', hask⟩ := hask
  refine ⟨rfl, config, calls, Playback, inferInstance, .new "tx" (engineWith other), after', ?_⟩
  simp [createQuery, Action.bind_apply, Traced.value_bind_eq, hphase, hbound, hask, Action.log]

end Executor

namespace Fetch

/-- A drain is the loop over the answers up to a panic. -/
theorem fetch_drain (query : Query) (cursor : Cursor) (fetch : Fetch) :
    (drain query cursor fetch).value.2.2 =
      (Traced.foldl (take query) fetch
        (cursor.answers.takeWhile Cursor.Answer.isCalm)).value := by
  rw [drain_eq]
  simp only [Traced.value_bind]
  split <;> rfl

/-- Without a panic, the loop goes over all answers. -/
theorem value_drain (query : Query) {cursor : Cursor} (fetch : Fetch)
    (h : ∀ answer ∈ cursor.answers, answer.isCalm = true) :
    (drain query cursor fetch).value =
      (.returned (outcome cursor.ending), { cursor with answers := [] },
        (Traced.foldl (take query) fetch cursor.answers).value) := by
  have hcalm := List.takeWhile_eq_self_iff.mpr h
  have hnone := List.dropWhile_eq_nil_iff.mpr h
  simp [drain_eq, hcalm, hnone]

end Fetch

namespace Executor

/-- The phase an executor is in after its cursor came to its end. -/
def phaseAfter : Cursor.Ending → Phase
  | .complete => .drained
  | .failed cause => .failed (.cursorFailed cause)

/-- What a fetch yields and leaves behind if the cursor does not panic. -/
theorem value_fetchAll {executor : Executor} {cursor : Cursor}
    (hphase : executor.phase = .fetching (some cursor))
    (hcalm : ∀ answer ∈ cursor.answers, answer.isCalm = true) :
    let fetched := (Traced.foldl (Fetch.take executor.query) executor.fetch cursor.answers).value
    (fetchAll executor).value =
      (.returned ((Fetch.outcome cursor.ending).map fun () => fetched.results.size),
        { executor with fetch := fetched, phase := phaseAfter cursor.ending }) := by
  obtain ⟨query, fetch, _, abort, send⟩ := executor
  obtain rfl := hphase
  have hdrain := Fetch.value_drain query fetch hcalm
  cases hend : cursor.ending with
  | complete =>
    simp [fetchAll, Action.bind_apply, Traced.value_bind_eq, Action.within_apply, fetchInScope,
      drainCursor, hdrain, close, Fetch.outcome, hend, Action.count, Action.log, results,
      phaseAfter, Except.map]
  | failed cause =>
    simp [fetchAll, Action.bind_apply, Traced.value_bind_eq, Action.within_apply, fetchInScope,
      drainCursor, hdrain, close, Fetch.outcome, hend, Action.count, Action.log, fail,
      phaseAfter, Except.map]

/-- If a fetch comes to its end, the cursor did not panic. -/
theorem calm_of_drained {executor : Executor} {cursor : Cursor}
    (hphase : executor.phase = .fetching (some cursor))
    (hdrained : (fetchAll executor).value.2.phase = .drained) :
    ∀ answer ∈ cursor.answers, answer.isCalm = true := by
  obtain ⟨query, fetch, _, abort, send⟩ := executor
  obtain rfl := hphase
  cases hlater : cursor.answers.dropWhile Cursor.Answer.isCalm with
  | nil => exact List.dropWhile_eq_nil_iff.mp hlater
  | cons answer later =>
    have hpanics := List.head?_dropWhile_not Cursor.Answer.isCalm cursor.answers
    rw [hlater] at hpanics
    cases answer with
    | empty => exact nomatch hpanics
    | row cells => exact nomatch hpanics
    | panic text =>
      -- The scope is left with the panic, and the phase stays as it was.
      simp [fetchAll, Action.bind_apply, Traced.value_bind_eq, Action.within_apply, fetchInScope,
        drainCursor, Fetch.drain_eq, hlater] at hdrained

/-! ### Customers and their orders -/

/-- A query for a customer and its orders, with rows of one octet each. -/
def ordersQuery : Query where
  id := "orders"
  root := ⟨0, none, 0, .readTuple ⟨"customer", ["id"], ["id"]⟩ [.constant [1]],
    some (Record.packed [("id", 1)]), false⟩
  joins := [⟨1, some 0, 1, .readTuple ⟨"orders", ["id"], ["id"]⟩ [.linked ⟨0⟩ "id"],
    some (Record.packed [("id", 1)]), false⟩]

def ordersCalls : List Builder.Call :=
  [.define none ⟨"customer", ["id"], ["id"]⟩ [.constant [1]],
    .setRecord ⟨0⟩ (Record.packed [("id", 1)]),
    .define none ⟨"orders", ["id"], ["id"]⟩ [.linked ⟨0⟩ "id"],
    .setRecord ⟨1⟩ (Record.packed [("id", 1)])]

theorem prepared_ordersQuery : ordersQuery.Prepared :=
  ⟨ordersCalls, ⟨0⟩, "orders", rfl⟩

def ordersExecutor (cursor : Cursor) : Executor :=
  { Executor.new ordersQuery Config.default with phase := .fetching (some cursor) }

theorem started_ordersExecutor (cursor : Cursor) :
    (ordersExecutor cursor).Started ordersQuery cursor :=
  ⟨rfl, Config.default, [], Playback, inferInstance, .new "tx" (engineWith cursor), _, rfl⟩

/-- A customer with an order, where either may be NULL. -/
def orderRow (customer order : Option UInt8) : Cursor.Answer :=
  let cell : Option UInt8 → Cell
    | some octet => ⟨false, .fill [octet]⟩
    | none => ⟨true, .keep⟩
  .row [cell customer, cell order]

end Executor

end StorageClient
