import StorageClient.Proofs.Actions
import StorageClient.Proofs.Fetch.Lifecycle
/-!
# StorageClient.Proofs.Fetch.Fields

An executor with its state, its cursor and its error side by side (`Executor.Fields`).

Nothing about such fields ties the three together: to fail is to write a state and an error, and to
close a cursor is to take it away, in any state. That there is an error exactly in the state FAILED
and a cursor only in the state FETCHING is what the calls see to. It is derived here from the phases
of an `Executor`, by a simulation: on the fields of an executor every call does what it does on the
executor (`Fields.perform_fields`), so any sequence of calls does, too.

A phase with a cursor or an error is left only by calls that know of it. Whoever fails has given up
the cursor before; that is where the order of the writes matters.
-/

namespace StorageClient.Executor

variable {σ α : Type}

/-- How far an executor has come, and no more. -/
inductive State
  | notStarted
  | fetching
  | drained
  | failed
  deriving Repr, DecidableEq

def State.name : State → String
  | notStarted => "NOT_STARTED"
  | fetching => "FETCHING"
  | drained => "DRAINED"
  | failed => "FAILED"

/-- A query that is run, with everything that is known of the run in a field of its own. -/
structure Fields where
  query : Query
  fetch : Fetch
  state : State
  cursor : Option Cursor
  latestError : Option FetchError
  abort : AbortOption
  send : SendPolicy
  deriving Repr, DecidableEq

namespace Fields

/-! ### The calls -/

def new (query : Query) (config : Config) : Fields where
  query
  fetch := ⟨query.nodes.map bufferOf, ResultStore.new config.initialCapacity⟩
  state := .notStarted
  cursor := none
  latestError := none
  abort := config.abort
  send := config.send

/-- Refuses a call that needs another state. -/
def require (fields : Fields) (required : State) (call : String) : Except FetchError Unit :=
  if fields.state = required then .ok ()
  else .error (.illegalState
    s!"{call} requires state {required.name}, executor is {fields.state.name}")

def changeBuffer (fields : Fields) (call : String) (level : Nat)
    (change : RowBuffer → RowBuffer) : Except FetchError Fields := do
  fields.require .notStarted call
  let buffers := fields.fetch.buffers
  if level < buffers.length then
    .ok { fields with fetch := { fields.fetch with buffers := buffers.modify level change } }
  else .error (.levelOutOfRange level buffers.length)

def createRowBuffer (fields : Fields) (level : Nat) (record : Record) : Except FetchError Fields :=
  fields.changeBuffer "create_row_buffer" level fun old =>
    if old.joinOnly then (RowBuffer.new record).markJoinOnly else RowBuffer.new record

def markJoinOnly (fields : Fields) (level : Nat) : Except FetchError Fields :=
  fields.changeBuffer "mark_join_only" level RowBuffer.markJoinOnly

/-- Takes the cursor away and closes it, in any state. -/
def close : Action Fields Unit := fun fields =>
  match fields.cursor with
  | some _ => ⟨(.returned (), { fields with cursor := none }), [.cursor .close]⟩
  | none => pure (.returned (), fields)

/-- Records an error. Whatever cursor there is stays. -/
def fail (error : FetchError) : Action Fields (Except FetchError α) := do
  Action.modify fun fields => { fields with state := .failed, latestError := some error }
  Action.count .queriesFailed
  return .error error

def unboundLevel? (fields : Fields) : Option Nat :=
  fields.fetch.buffers.findIdx? fun buffer => !buffer.isBound

def createQuery [Sink] [Engine σ] :
    Action (Fields × SharedTransaction σ) (Except FetchError Unit) := do
  let (fields, shared) ← Action.get
  match fields.require .notStarted "create_query", fields.unboundLevel? with
  | .error error, _ => return .error error
  | .ok (), some level => return .error (.illegalState s!"level {level} has no row buffer")
  | .ok (), none =>
    let ask := Transaction.createQuery fields.query
    match ← Action.onSecond (SharedTransaction.attempt ask) with
    | .ok cursor =>
      Action.onFirst <| Action.modify fun fields =>
        { fields with cursor := some cursor, state := .fetching }
      Action.log <| Event.queryCreated.line [
        ("levels", .text (toString fields.query.levels)),
        ("query", .text fields.query.id),
        ("transaction", .text shared.id)]
      return .ok ()
    | .error cause =>
      Action.log <| Event.queryCreateFailed.line [
        ("code", .text (toString cause.code)),
        ("query", .text fields.query.id)]
      Action.onFirst (fail (.createFailed cause))

def drainCursor [Memory] [Sink] : Action Fields (Except FetchError Unit) := fun fields =>
  match fields.cursor with
  | some cursor =>
    Traced.bind (Fetch.drain fields.query cursor fields.fetch) fun (answer, cursor, fetch) =>
      pure (answer, { fields with fetch, cursor := some cursor })
  | none => pure (.returned (.error (.illegalState "cursor detached during fetch")), fields)

def fetchInScope [Memory] [Sink] :
    Action (Fields × Option OpenScope) (Except FetchError Nat) := do
  let outcome ← Action.onFirst drainCursor
  Action.onFirst close
  let (fields, _) ← Action.get
  let id := fields.query.id
  match outcome with
  | .ok () =>
    let rows := toString fields.fetch.results.size
    Action.onFirst <| Action.modify fun fields => { fields with state := .drained }
    Action.count .queriesExecuted
    Action.log <| Event.fetchComplete.line [("query", .text id), ("rows", .text rows)]
    Action.closeScope (.completed [("rows", .text rows)])
    return .ok fields.fetch.results.size
  | .error error =>
    Action.log <| Event.fetchFailed.line [("code", .text error.code), ("query", .text id)]
    Action.closeScope (closingOf error)
    Action.onFirst (fail error)

def fetchAll [Memory] [Sink] : Action Fields (Except FetchError Nat) := do
  let fields ← Action.get
  match fields.require .fetching "fetch_all_results" with
  | .error error => return .error error
  | .ok () => Action.within ⟨"QUERY_FETCH", [("query", .text fields.query.id)]⟩ fetchInScope

def run [Memory] [Sink] [Engine σ] :
    Action (Fields × SharedTransaction σ) (Except FetchError Nat) := do
  match ← createQuery with
  | .error error => return .error error
  | .ok () =>
    let (fields, _) ← Action.get
    let options : RoundTrip := ⟨.noCommit, fields.abort, fields.send⟩
    match ← Action.onSecond (SharedTransaction.attempt (Transaction.execute options)) with
    | .error cause =>
      Action.onFirst close
      Action.onFirst (fail (.roundTripFailed cause))
    | .ok () => Action.onFirst fetchAll

def takeData (fields : Fields) (index : Nat) : Option Bytes × Fields :=
  match fields.fetch.results.takeData index with
  | (data, results) => (data, { fields with fetch := { fields.fetch with results } })

/-- Makes a call. -/
def perform [Memory] [Sink] [Engine σ] (fields : Fields) :
    Request σ → Traced (Answer (Except FetchError Response) × Fields)
  | .createRowBuffer level record => setUp (fields.createRowBuffer level record)
  | .markJoinOnly level => setUp (fields.markJoinOnly level)
  | .createQuery shared => do
    let (answer, fields, _) ← createQuery (fields, shared)
    return (answer.map (Except.map fun () => .done), fields)
  | .run shared => do
    let (answer, fields, _) ← run (fields, shared)
    return (answer.map (Except.map .rows), fields)
  | .fetchAll => do
    let (answer, fields) ← fetchAll fields
    return (answer.map (Except.map .rows), fields)
  | .close => do
    let (answer, fields) ← close fields
    return (answer.map fun () => .ok .done, fields)
  | .takeData index =>
    let (image, fields) := fields.takeData index
    return (.returned (.ok (.data image)), fields)
where
  setUp : Except FetchError Fields → Traced (Answer (Except FetchError Response) × Fields)
    | .ok changed => return (.returned (.ok .done), changed)
    | .error error => return (.returned (.error error), fields)

/-- Makes one call after the other, whatever comes of them. -/
def play [Memory] [Sink] [Engine σ] (fields : Fields) (requests : List (Request σ)) :
    Traced Fields :=
  Traced.foldl (fun fields request => do
    let (_, fields) ← fields.perform request
    return fields) fields requests

theorem play_cons [Memory] [Sink] [Engine σ] (fields : Fields) (request : Request σ)
    (rest : List (Request σ)) :
    fields.play (request :: rest) =
      Traced.bind (fields.perform request) fun answered => answered.2.play rest := by
  rw [play, Traced.foldl_cons]
  exact Traced.bind_assoc ..

end Fields

/-! ### The fields of an executor -/

def Phase.state : Phase → State
  | notStarted => .notStarted
  | fetching _ => .fetching
  | drained => .drained
  | failed _ => .failed

theorem Phase.name_state (phase : Phase) : phase.state.name = phase.name := by
  cases phase <;> rfl

/-- The fields of an executor. -/
def fields (executor : Executor) : Fields where
  query := executor.query
  fetch := executor.fetch
  state := executor.phase.state
  cursor := executor.phase.cursor?
  latestError := executor.phase.error?
  abort := executor.abort
  send := executor.send

namespace Fields

open StorageClient.Action (Keeps Shows)

variable {executor : Executor}

theorem require_fields (executor : Executor) (required : State) (call : String) :
    executor.fields.require required call =
      if executor.phase.state = required then .ok ()
      else .error (wrongPhase call required.name executor.phase) := by
  rw [wrongPhase, ← executor.phase.name_state]
  rfl

theorem changeBuffer_fields (executor : Executor) (call : String) (level : Nat)
    (change : RowBuffer → RowBuffer) :
    executor.fields.changeBuffer call level change =
      (executor.changeBuffer call level change).map Executor.fields := by
  rw [Fields.changeBuffer, require_fields, Executor.changeBuffer]
  obtain ⟨query, fetch, phase, abort, send⟩ := executor
  cases phase with
  | notStarted =>
    by_cases hlevel : level < fetch.buffers.length
    · simp [Phase.state, Executor.fields, Phase.cursor?, Phase.error?, hlevel, Except.map]
      rfl
    · simp [Phase.state, Executor.fields, hlevel, Except.map]
      rfl
  | fetching | drained | failed => rfl

theorem shows_close (executor : Executor) :
    Shows Executor.fields close Executor.close executor := by
  obtain ⟨query, fetch, phase, abort, send⟩ := executor
  cases phase with
  | fetching cursor? => cases cursor? <;> rfl
  | notStarted | drained | failed => rfl

/-- Whoever fails must have no cursor. -/
theorem shows_fail (hcursor : executor.phase.cursor? = none) (error : FetchError) :
    Shows Executor.fields (fail error : Action Fields (Except FetchError α)) (Executor.fail error)
      executor := by
  refine .bind (.modify ?_) fun _ _ _ => .lift _ (.pure _)
  rw [Executor.fields, Executor.fields, hcursor]
  rfl

theorem shows_drainCursor [Memory] (executor : Executor) :
    Shows Executor.fields drainCursor Executor.drainCursor executor := by
  obtain ⟨query, fetch, phase, abort, send⟩ := executor
  cases phase with
  | fetching cursor? => cases cursor? <;> rfl
  | notStarted | drained | failed => rfl

theorem shows_createQuery [Engine σ] (executor : Executor) (shared : SharedTransaction σ) :
    Shows (Prod.map Executor.fields id) createQuery Executor.createQuery (executor, shared) := by
  refine .get ?_
  cases hphase : executor.phase with
  | fetching | drained | failed =>
    simp only [Prod.map_apply, require_fields, hphase]
    exact .pure _
  | notStarted =>
    have hunbound : executor.fields.unboundLevel? = executor.unboundLevel? := rfl
    simp only [Prod.map_apply, require_fields, hphase, Phase.state, if_true, hunbound]
    cases executor.unboundLevel? with
    | some level => exact .pure _
    | none =>
      refine .bind (.onSecond _ _) fun answer after hasked => ?_
      obtain rfl : executor = after.1 := congrArg (fun came => came.2.1) hasked
      have hcursor : after.1.phase.cursor? = none := by rw [hphase]; rfl
      have herror : after.1.phase.error? = none := by rw [hphase]; rfl
      cases answer with
      | ok cursor =>
        refine .bind (.onFirst (.modify ?_) _) fun _ _ _ => .lift _ (.pure _)
        rw [Executor.fields, Executor.fields, herror]
        rfl
      | error cause => exact .lift _ (.onFirst (shows_fail hcursor _) _)

theorem keeps_drainCursor [Memory] :
    Keeps (fun executor => executor.phase.error?) Executor.drainCursor := by
  rintro ⟨query, fetch, phase, abort, send⟩
  cases phase with
  | fetching cursor? => cases cursor? <;> rfl
  | notStarted | drained | failed => rfl

theorem keeps_close : Keeps (fun executor => executor.phase.error?) Executor.close := by
  rintro ⟨query, fetch, phase, abort, send⟩
  cases phase with
  | fetching cursor? => cases cursor? <;> rfl
  | notStarted | drained | failed => rfl

theorem shows_fetchInScope [Memory] (herror : executor.phase.error? = none)
    (held : Option OpenScope) :
    Shows (Prod.map Executor.fields id) fetchInScope Executor.fetchInScope (executor, held) := by
  refine .bind (.onFirst (shows_drainCursor executor) held) fun outcome drained hdrained => ?_
  refine .bind (.onFirst (shows_close _) _) fun _ closed hclosed => .get ?_
  have hdrained : (Executor.drainCursor executor).value.2 = drained.1 :=
    congrArg (fun came => came.2.1) hdrained
  have hclosed : (Executor.close drained.1).value.2 = closed.1 :=
    congrArg (fun came => came.2.1) hclosed
  have hcursor : closed.1.phase.cursor? = none := hclosed ▸ cursor?_close _
  have herror : closed.1.phase.error? = none :=
    calc closed.1.phase.error?
      _ = drained.1.phase.error? := hclosed ▸ keeps_close _
      _ = executor.phase.error? := hdrained ▸ keeps_drainCursor _
      _ = none := herror
  cases outcome with
  | ok =>
    refine .bind (.onFirst (.modify ?_) _) fun _ _ _ =>
      .lift _ (.lift _ (.closeScope _ _ (.pure _)))
    rw [Executor.fields, Executor.fields, hcursor, herror]
    rfl
  | error error => exact .lift _ (.closeScope _ _ (.onFirst (shows_fail hcursor _) _))

theorem shows_fetchAll [Memory] (executor : Executor) :
    Shows Executor.fields fetchAll Executor.fetchAll executor := by
  refine .get ?_
  cases hphase : executor.phase with
  | notStarted | drained | failed =>
    simp only [require_fields, hphase]
    exact .pure _
  | fetching cursor? =>
    simp only [require_fields, hphase, Phase.state, if_true]
    exact .within (shows_fetchInScope (by rw [hphase]; rfl) _)

theorem shows_run [Memory] [Engine σ] (executor : Executor) (shared : SharedTransaction σ) :
    Shows (Prod.map Executor.fields id) run Executor.run (executor, shared) := by
  refine .bind (shows_createQuery executor shared) fun created after _ => ?_
  cases created with
  | error error => exact .pure _
  | ok =>
    refine .get (.bind (.onSecond _ _) fun sent after _ => ?_)
    cases sent with
    | ok => exact .onFirst (shows_fetchAll _) _
    | error cause =>
      refine .bind (.onFirst (shows_close _) _) fun _ closed hclosed => ?_
      have hclosed : (Executor.close after.1).value.2 = closed.1 :=
        congrArg (fun came => came.2.1) hclosed
      exact .onFirst (shows_fail (hclosed ▸ cursor?_close _) _) _

/-- **On the fields of an executor**, a call does what it does on the executor. -/
theorem perform_fields [Memory] [Engine σ] (executor : Executor) (request : Request σ) :
    executor.fields.perform request =
      ⟨((request.perform executor).value.1, (request.perform executor).value.2.fields),
        (request.perform executor).effects⟩ := by
  cases request with
  | createRowBuffer level record =>
    rw [perform, createRowBuffer, changeBuffer_fields, Request.perform, Executor.createRowBuffer]
    cases executor.changeBuffer _ _ _ <;> rfl
  | markJoinOnly level =>
    rw [perform, markJoinOnly, changeBuffer_fields, Request.perform, Executor.markJoinOnly]
    cases executor.changeBuffer _ _ _ <;> rfl
  | createQuery shared =>
    have hshows : createQuery (executor.fields, shared) = _ := shows_createQuery executor shared
    rw [perform, hshows]
    rfl
  | run shared =>
    have hshows : run (executor.fields, shared) = _ := shows_run executor shared
    rw [perform, hshows]
    rfl
  | fetchAll =>
    rw [perform, shows_fetchAll executor]
    rfl
  | close =>
    rw [perform, shows_close executor]
    rfl
  | takeData index => rfl

theorem play_fields [Memory] [Engine σ] (requests : List (Request σ)) : ∀ executor : Executor,
    executor.fields.play requests =
      ⟨(Executor.play executor requests).value.fields,
        (Executor.play executor requests).effects⟩ := by
  induction requests with
  | nil => exact fun _ => rfl
  | cons request rest ih =>
    intro executor
    have hrest := ih (request.perform executor).value.2
    rw [play_cons, Executor.play_cons, perform_fields]
    dsimp only [Traced.bind]
    rw [hrest]

end Fields

/-! ### The life of an executor -/

open Effect (made trips closed)

/-- **The life of an executor.** Make any calls on a new executor, in any order. Every further call
is lawful, there is an error exactly if the executor has failed, and a cursor only while it fetches.
So it is with a state, a cursor and an error that are kept apart: under the same calls they become
the fields of the executor. And if the executor is dropped then, at most one cursor was made and one
round trip, and each cursor was closed once. -/
theorem lifecycle [Memory] [Engine σ] (query : Query) (config : Config)
    (requests : List (Request σ)) :
    let played := play (Executor.new query config) requests
    let executor := played.value
    let effects := played.effects ++ (close executor).effects
    let apart := (Fields.new query config).play requests
    (∀ request : Request σ, Lawful executor request (request.perform executor).value.1
      (request.perform executor).value.2 (request.perform executor).effects) ∧
    (executor.latestError.isSome = true ↔ executor.phase.name = "FAILED") ∧
    (executor.phase.cursor?.isSome = true → executor.phase.name = "FETCHING") ∧
    apart = ⟨executor.fields, played.effects⟩ ∧
    (apart.value.latestError.isSome = true ↔ apart.value.state = .failed) ∧
    (apart.value.cursor.isSome = true → apart.value.state = .fetching) ∧
    made effects ≤ 1 ∧ trips effects ≤ 1 ∧ closed effects = made effects := by
  intro played executor effects apart
  have happart : apart = ⟨executor.fields, played.effects⟩ :=
    Fields.play_fields requests (Executor.new query config)
  refine ⟨lawful_perform executor, ?_, ?_, happart, ?_, ?_, closed_eq_made query config requests⟩
  · cases hphase : executor.phase <;> simp [latestError, Phase.error?, Phase.name, hphase]
  · cases hphase : executor.phase <;> simp [Phase.cursor?, Phase.name]
  · rw [happart, Executor.fields]
    cases executor.phase <;> simp [Phase.error?, Phase.state]
  · rw [happart, Executor.fields]
    cases executor.phase <;> simp [Phase.cursor?, Phase.state]

/-- An executor that is closed before its fetch has closed its cursor already. It fails, and does
not start again. -/
theorem lifecycle_orders :
    let shared := SharedTransaction.new "tx" (engineWith ⟨[], .complete⟩)
    let requests : List (Request Playback) :=
      [.fetchAll, .createQuery shared, .close, .fetchAll, .run shared]
    let played := play (Executor.new ordersQuery Config.default) requests
    let effects := played.effects ++ (close played.value).effects
    let apart := (Fields.new ordersQuery Config.default).play requests
    let error : FetchError := .illegalState "cursor detached during fetch"
    played.value.phase = .failed error ∧ made effects = 1 ∧ closed effects = made effects ∧
      apart.value.state = .failed ∧ apart.value.latestError = some error := by
  intro shared requests played effects apart error
  obtain ⟨-, -, -, happart, -, -, -, -, hclosed⟩ := lifecycle ordersQuery Config.default requests
  have hphase : played.value.phase = .failed error := by decide +kernel
  have hmade : made effects = 1 := by decide +kernel
  have hfields : apart.value = played.value.fields := congrArg Traced.value happart
  refine ⟨hphase, hmade, hclosed, ?_, ?_⟩ <;> rw [hfields, fields, hphase] <;> rfl

end StorageClient.Executor
