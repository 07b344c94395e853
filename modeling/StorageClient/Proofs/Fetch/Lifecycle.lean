import Mathlib.Logic.Relation
import Mathlib.Tactic.ByContra
import StorageClient.Proofs.Fetch.Start
import StorageClient.Proofs.Fetch.Steps
/-!
# StorageClient.Proofs.Fetch.Lifecycle

What any calls on an executor can come to, in any order, from its making to its drop.

* Every call may be given a transaction of its own, in any state. So nothing is assumed of what
  becomes of a transaction between two calls, or of what an engine or a cursor answers.
* Whatever a call does to the phase is a sequence of moves (`Executor.Moves`), each of which tells
  the calls it makes. What is true of all sequences of calls is proved for one move.
* A panic is no reason to stop: the calls that come after it are played as well.
-/

namespace StorageClient

open Effect (traffic)

namespace Executor

open Effect (made trips closed made_append trips_append closed_append made_traffic trips_traffic
  closed_traffic)

/-! ### Moves -/

/-- What can happen to a phase, and the calls that are made by it. -/
inductive Move : Phase → Phase → List Effect → Prop
  | asked (query : Query) (text : String) : Move .notStarted .notStarted
      [.transaction (.createQuery query (.panicked text))]
  | poisoned (error : FetchError) : Move .notStarted (.failed error) []
  | refused (query : Query) (cause : EngineError) (error : FetchError) :
    Move .notStarted (.failed error)
      [.transaction (.createQuery query (.returned (.error cause)))]
  | created (query : Query) (cursor : Cursor) : Move .notStarted (.fetching (some cursor))
      [.transaction (.createQuery query (.returned (.ok cursor)))]
  /-- There is a round trip only together with a new cursor. -/
  | sent (query : Query) (cursor : Cursor) (options : RoundTrip)
      (answer : Answer (Except EngineError Unit)) : Move .notStarted (.fetching (some cursor))
      [.transaction (.createQuery query (.returned (.ok cursor))),
        .transaction (.execute options answer)]
  | polled (cursor later : Cursor) : Move (.fetching (some cursor)) (.fetching (some later)) []
  | closed (cursor : Cursor) : Move (.fetching (some cursor)) (.fetching none) [.cursor .close]
  | drained : Move (.fetching none) .drained []
  | failed (error : FetchError) : Move (.fetching none) (.failed error) []

/-- Some moves, one after the other, and all calls that are made by them. -/
inductive Moves : Phase → Phase → List Effect → Prop
  | rest (phase : Phase) : Moves phase phase []
  | next {first second last : Phase} {calls later : List Effect} (hmove : Move first second calls)
      (h : Moves second last later) : Moves first last (calls ++ later)

theorem Move.moves {first second : Phase} {calls : List Effect} (h : Move first second calls) :
    Moves first second calls := by
  have hmoves := Moves.next h (.rest second)
  rwa [List.append_nil] at hmoves

/-! ### What a move preserves -/

/-- The states an executor goes through. While it fetches, only its cursor changes. -/
inductive Phase.Next : Phase → Phase → Prop
  | start (cursor : Option Cursor) : Next .notStarted (.fetching cursor)
  | refuse (error : FetchError) : Next .notStarted (.failed error)
  | fetch (cursor later : Option Cursor) : Next (.fetching cursor) (.fetching later)
  | drain (cursor : Option Cursor) : Next (.fetching cursor) .drained
  | fail (cursor : Option Cursor) (error : FetchError) : Next (.fetching cursor) (.failed error)

open Relation (ReflTransGen)

theorem Move.reaches {first second : Phase} {calls : List Effect} (h : Move first second calls) :
    ReflTransGen Phase.Next first second := by
  cases h with
  | asked => exact .refl
  | poisoned error => exact .single (.refuse error)
  | refused _ _ error => exact .single (.refuse error)
  | created _ cursor => exact .single (.start (some cursor))
  | sent _ cursor => exact .single (.start (some cursor))
  | polled cursor later => exact .single (.fetch (some cursor) (some later))
  | closed cursor => exact .single (.fetch (some cursor) none)
  | drained => exact .single (.drain none)
  | failed error => exact .single (.fail none error)

theorem Moves.reaches {first last : Phase} {calls : List Effect} (h : Moves first last calls) :
    ReflTransGen Phase.Next first last := by
  induction h with
  | rest => exact .refl
  | next hmove _ ih => exact hmove.reaches.trans ih

/-- How many cursors an executor has in a phase. -/
def Phase.held (phase : Phase) : Nat := phase.cursor?.toList.length

/-- How the cursors made, the round trips and the cursors closed add up in a phase: at most one
cursor was made, and it is closed unless the executor still has it. -/
structure Balanced (phase : Phase) (effects : List Effect) : Prop where
  unmade : phase = .notStarted → made effects = 0
  made_le : made effects ≤ 1
  trips_le : trips effects ≤ made effects
  closed_add : closed effects + phase.held = made effects

/-- Calls that neither make nor close a cursor keep the balance. -/
theorem Balanced.quiet {first second : Phase} {past calls : List Effect} (h : Balanced first past)
    (hmade : made calls = 0) (htrips : trips calls = 0) (hclosed : closed calls = 0)
    (hstart : second = .notStarted → first = .notStarted) (hheld : second.held = first.held) :
    Balanced second (past ++ calls) where
  unmade hsecond := by rw [made_append, h.unmade (hstart hsecond), hmade]
  made_le := by rw [made_append, hmade]; exact h.made_le
  trips_le := by rw [trips_append, made_append, htrips, hmade]; exact h.trips_le
  closed_add := by rw [closed_append, made_append, hclosed, hmade, hheld]; exact h.closed_add

/-- The first cursor and at most one round trip keep the balance. -/
theorem Balanced.start {cursor : Cursor} {past calls : List Effect}
    (h : Balanced .notStarted past) (hmade : made calls = 1) (htrips : trips calls ≤ 1)
    (hclosed : closed calls = 0) : Balanced (.fetching (some cursor)) (past ++ calls) := by
  have hnone := h.unmade rfl
  have hpast : closed past = made past := h.closed_add
  have hsent := h.trips_le
  have hheld : (Phase.fetching (some cursor)).held = 1 := rfl
  constructor
  · exact nofun
  · rw [made_append]; omega
  · rw [trips_append, made_append]; omega
  · rw [closed_append, made_append]; omega

theorem Balanced.move {first second : Phase} {past calls : List Effect}
    (h : Balanced first past) (hmove : Move first second calls) :
    Balanced second (past ++ calls) := by
  cases hmove with
  | asked => exact h.quiet rfl rfl rfl id rfl
  | poisoned | refused | polled | drained | failed => exact h.quiet rfl rfl rfl nofun rfl
  | created => exact h.start rfl (Nat.zero_le 1) rfl
  | sent => exact h.start rfl (Nat.le_refl 1) rfl
  | closed cursor =>
    have hpast : closed past + 1 = made past := h.closed_add
    refine ⟨nofun, ?_, ?_, ?_⟩
    · rw [made_append]
      exact h.made_le
    · rw [trips_append, made_append]
      exact h.trips_le
    · rw [closed_append, made_append]
      exact hpast

theorem Balanced.moves {first last : Phase} {past calls : List Effect} (h : Balanced first past)
    (hmoves : Moves first last calls) : Balanced last (past ++ calls) := by
  induction hmoves generalizing past with
  | rest => simpa using h
  | next hmove _ ih =>
    rw [← List.append_assoc]
    exact ih (h.move hmove)

/-! ### Requests -/

/-- A call on an executor. Those that need a transaction come with one. -/
inductive Request (σ : Type)
  | createRowBuffer (level : Nat) (record : Record)
  | markJoinOnly (level : Nat)
  | createQuery (shared : SharedTransaction σ)
  | run (shared : SharedTransaction σ)
  | fetchAll
  | close
  | takeData (index : Nat)

/-- What a call is answered, unless it is refused or fails. -/
inductive Response
  | done
  | rows (headers : Nat)
  | data (image : Option Bytes)
  deriving Repr, DecidableEq

variable {σ : Type}

/-- The name under which a call is refused, and the phase that it needs. -/
def Request.needs? : Request σ → Option (String × String)
  | .createRowBuffer .. => some ("create_row_buffer", "NOT_STARTED")
  | .markJoinOnly _ => some ("mark_join_only", "NOT_STARTED")
  | .createQuery _ | .run _ => some ("create_query", "NOT_STARTED")
  | .fetchAll => some ("fetch_all_results", "FETCHING")
  | .close | .takeData _ => none

/-- The level whose buffer a call sets up. -/
def Request.level? : Request σ → Option Nat
  | .createRowBuffer level _ | .markJoinOnly level => some level
  | _ => none

/-- Whether a call has the engine make a cursor. -/
def Request.asks : Request σ → Bool
  | .createQuery _ | .run _ => true
  | _ => false

/-- Makes a call. -/
def Request.perform [Memory] [Sink] [Engine σ] (executor : Executor) :
    Request σ → Traced (Answer (Except FetchError Response) × Executor)
  | .createRowBuffer level record => setUp (executor.createRowBuffer level record)
  | .markJoinOnly level => setUp (executor.markJoinOnly level)
  | .createQuery shared => do
    let (answer, executor, _) ← Executor.createQuery (executor, shared)
    return (answer.map (Except.map fun () => .done), executor)
  | .run shared => do
    let (answer, executor, _) ← Executor.run (executor, shared)
    return (answer.map (Except.map .rows), executor)
  | .fetchAll => do
    let (answer, executor) ← Executor.fetchAll executor
    return (answer.map (Except.map .rows), executor)
  | .close => do
    let (answer, executor) ← Executor.close executor
    return (answer.map fun () => .ok .done, executor)
  | .takeData index =>
    let (image, executor) := executor.takeData index
    return (.returned (.ok (.data image)), executor)
where
  setUp : Except FetchError Executor → Traced (Answer (Except FetchError Response) × Executor)
    | .ok changed => return (.returned (.ok .done), changed)
    | .error error => return (.returned (.error error), executor)

/-- A call that is refused: for the phase, for a level that is not there, or for one that has no
buffer for its rows. -/
inductive Refused (executor : Executor) : Request σ → FetchError → Prop
  | wrongPhase {request : Request σ} {call required : String}
    (hneeds : request.needs? = some (call, required)) (hphase : executor.phase.name ≠ required) :
    Refused executor request (wrongPhase call required executor.phase)
  | outOfRange {request : Request σ} {level : Nat} (hphase : executor.phase = .notStarted)
    (hlevel : request.level? = some level) (hrange : executor.fetch.buffers.length ≤ level) :
    Refused executor request (.levelOutOfRange level executor.fetch.buffers.length)
  | unbound {request : Request σ} {level : Nat} {buffer : RowBuffer}
    (hphase : executor.phase = .notStarted) (hasks : request.asks = true)
    (hlevel : executor.fetch.buffers[level]? = some buffer) (hunbound : buffer.isBound = false)
    (hfirst : ∀ earlier < level, ∀ other, executor.fetch.buffers[earlier]? = some other →
      other.isBound = true) :
    Refused executor request (.illegalState s!"level {level} has no row buffer")

theorem name_eq_notStarted_iff {phase : Phase} :
    phase.name = "NOT_STARTED" ↔ phase = .notStarted := by
  cases phase <;> simp [Phase.name]

theorem name_eq_fetching_iff {phase : Phase} :
    phase.name = "FETCHING" ↔ ∃ cursor, phase = .fetching cursor := by
  cases phase <;> simp [Phase.name]

/-- The first unbound level is unbound, and those before it are bound. -/
theorem unboundLevel?_eq_some_iff {executor : Executor} {level : Nat} :
    executor.unboundLevel? = some level ↔
      (∃ buffer, executor.fetch.buffers[level]? = some buffer ∧ buffer.isBound = false) ∧
        ∀ earlier < level, ∀ other, executor.fetch.buffers[earlier]? = some other →
          other.isBound = true := by
  rw [unboundLevel?, List.findIdx?_eq_some_iff_getElem]
  constructor
  · rintro ⟨hlt, hunbound, hfirst⟩
    refine ⟨⟨_, List.getElem?_eq_getElem hlt, by simpa using hunbound⟩, ?_⟩
    intro earlier hearlier other hother
    obtain ⟨_, rfl⟩ := List.getElem?_eq_some_iff.mp hother
    simpa using hfirst earlier hearlier
  · rintro ⟨⟨buffer, hbuffer, hunbound⟩, hfirst⟩
    obtain ⟨hlt, rfl⟩ := List.getElem?_eq_some_iff.mp hbuffer
    refine ⟨hlt, by simpa using hunbound, fun earlier hearlier => ?_⟩
    have hbound := hfirst earlier hearlier _ (List.getElem?_eq_getElem (Nat.lt_trans hearlier hlt))
    simpa using hbound

section Refusals

variable [Engine σ] {executor : Executor}

theorem changeBuffer_of_ne (h : executor.phase ≠ .notStarted) (call : String) (level : Nat)
    (change : RowBuffer → RowBuffer) : executor.changeBuffer call level change =
      .error (wrongPhase call "NOT_STARTED" executor.phase) := by
  rw [changeBuffer]
  cases hphase : executor.phase <;> simp_all

theorem createQuery_of_ne (h : executor.phase ≠ .notStarted) (shared : SharedTransaction σ) :
    createQuery (executor, shared) = pure
      (.returned (.error (wrongPhase "create_query" "NOT_STARTED" executor.phase)),
        executor, shared) := by
  obtain ⟨query, fetch, phase, abort, send⟩ := executor
  cases phase with
  | notStarted => exact absurd rfl h
  | fetching | drained | failed => rfl

theorem createQuery_of_unbound {level : Nat} (hphase : executor.phase = .notStarted)
    (hlevel : executor.unboundLevel? = some level) (shared : SharedTransaction σ) :
    createQuery (executor, shared) = pure
      (.returned (.error (.illegalState s!"level {level} has no row buffer")),
        executor, shared) := by
  simp [createQuery, Action.bind_apply, Traced.bind, hphase, hlevel]
  rfl

/-- If no cursor is asked for, nothing else happens. -/
theorem run_of_refused [Memory] {shared : SharedTransaction σ} {error : FetchError}
    (h : createQuery (executor, shared) = pure (.returned (.error error), executor, shared)) :
    run (executor, shared) = pure (.returned (.error error), executor, shared) := by
  simp [run, Action.bind_apply, Traced.bind, h]
  rfl

theorem fetchAll_of_ne [Memory] (h : ∀ cursor, executor.phase ≠ .fetching cursor) :
    fetchAll executor = pure
      (.returned (.error (wrongPhase "fetch_all_results" "FETCHING" executor.phase)),
        executor) := by
  obtain ⟨query, fetch, phase, abort, send⟩ := executor
  cases phase with
  | fetching cursor => exact absurd rfl (h cursor)
  | notStarted | drained | failed => rfl

/-- A refused call changes nothing and has no effect at all. -/
theorem perform_of_refused [Memory] {request : Request σ} {error : FetchError}
    (h : Refused executor request error) :
    request.perform executor = pure (.returned (.error error), executor) := by
  cases h with
  | wrongPhase hneeds hphase =>
    cases request with
    | createRowBuffer level record =>
      obtain ⟨rfl, rfl⟩ := Prod.mk.inj (Option.some.inj hneeds)
      have hne := mt name_eq_notStarted_iff.mpr hphase
      rw [Request.perform, createRowBuffer, changeBuffer_of_ne hne]
      rfl
    | markJoinOnly level =>
      obtain ⟨rfl, rfl⟩ := Prod.mk.inj (Option.some.inj hneeds)
      have hne := mt name_eq_notStarted_iff.mpr hphase
      rw [Request.perform, markJoinOnly, changeBuffer_of_ne hne]
      rfl
    | createQuery shared =>
      obtain ⟨rfl, rfl⟩ := Prod.mk.inj (Option.some.inj hneeds)
      have hne := mt name_eq_notStarted_iff.mpr hphase
      rw [Request.perform, createQuery_of_ne hne]
      rfl
    | run shared =>
      obtain ⟨rfl, rfl⟩ := Prod.mk.inj (Option.some.inj hneeds)
      have hne := mt name_eq_notStarted_iff.mpr hphase
      rw [Request.perform, run_of_refused (createQuery_of_ne hne shared)]
      rfl
    | fetchAll =>
      obtain ⟨rfl, rfl⟩ := Prod.mk.inj (Option.some.inj hneeds)
      have hne : ∀ cursor, executor.phase ≠ .fetching cursor :=
        fun cursor h => hphase (name_eq_fetching_iff.mpr ⟨cursor, h⟩)
      rw [Request.perform, fetchAll_of_ne hne]
      rfl
    | close | takeData => exact nomatch hneeds
  | outOfRange hphase hlevel hrange =>
    cases request with
    | createRowBuffer | markJoinOnly =>
      obtain rfl := Option.some.inj hlevel
      simp [Request.perform, createRowBuffer, markJoinOnly, changeBuffer, hphase,
        Nat.not_lt.mpr hrange]
      rfl
    | createQuery | run | fetchAll | close | takeData => exact nomatch hlevel
  | unbound hphase hasks hlevel hunbound hfirst =>
    have hlevel := unboundLevel?_eq_some_iff.mpr ⟨⟨_, hlevel, hunbound⟩, hfirst⟩
    cases request with
    | createQuery shared =>
      rw [Request.perform, createQuery_of_unbound hphase hlevel]
      rfl
    | run shared =>
      rw [Request.perform, run_of_refused (createQuery_of_unbound hphase hlevel shared)]
      rfl
    | createRowBuffer | markJoinOnly | fetchAll | close | takeData => exact nomatch hasks

end Refusals

/-! ### Calls that are not refused -/

/-- The phase moved with these calls, and an error is the one that the executor failed with. -/
structure Acted {α : Type} (before : Executor) (answer : Answer (Except FetchError α))
    (after : Executor) (calls : List Effect) : Prop where
  moves : Moves before.phase after.phase calls
  failed : ∀ error, answer = .returned (.error error) → after.phase = .failed error

section Calls

variable {α β : Type} {before after : Executor} {calls : List Effect}

theorem acted_of_ok (h : Moves before.phase after.phase calls) (value : α) :
    Acted before (.returned (.ok value)) after calls :=
  ⟨h, fun _ hanswer => by cases hanswer⟩

theorem acted_of_panicked (h : Moves before.phase after.phase calls) (text : String) :
    Acted before (.panicked text : Answer (Except FetchError α)) after calls :=
  ⟨h, fun _ hanswer => by cases hanswer⟩

theorem acted_of_failed {error : FetchError} (h : Moves before.phase after.phase calls)
    (hphase : after.phase = .failed error) :
    Acted before (.returned (.error error) : Answer (Except FetchError α)) after calls :=
  ⟨h, fun _ hanswer => by cases hanswer; exact hphase⟩

theorem Acted.map {answer : Answer (Except FetchError α)} (h : Acted before answer after calls)
    (f : α → β) : Acted before (answer.map (Except.map f)) after calls where
  moves := h.moves
  failed error hanswer := by
    refine h.failed error ?_
    rcases answer with ⟨cause | value⟩ | text
    · obtain rfl : cause = error := by simpa [Answer.map, Except.map] using hanswer
      rfl
    · simp [Answer.map, Except.map] at hanswer
    · exact nomatch hanswer

theorem Creating.acted {answer : Answer (Except FetchError Unit)}
    (h : Creating before answer after calls) (hphase : before.phase = .notStarted) :
    Acted before answer after calls := by
  cases h with
  | created cursor => exact acted_of_ok (hphase ▸ (Move.created _ cursor).moves) ()
  | poisoned => exact acted_of_failed (hphase ▸ (Move.poisoned _).moves) rfl
  | failed cause => exact acted_of_failed (hphase ▸ (Move.refused _ cause _).moves) rfl
  | panicked text =>
    refine acted_of_panicked ?_ text
    rw [hphase]
    exact (Move.asked _ text).moves

theorem Fetching.acted {cursor? : Option Cursor} {answer : Answer (Except FetchError Nat)}
    (h : Fetching before cursor? answer after calls) (hphase : before.phase = .fetching cursor?) :
    Acted before answer after calls := by
  cases h with
  | drained cursor fetch =>
    exact acted_of_ok (hphase ▸ .next (.closed cursor) Move.drained.moves) _
  | failed cursor fetch error =>
    exact acted_of_failed (hphase ▸ .next (.closed cursor) (Move.failed error).moves) rfl
  | panicked cursor later fetch text =>
    exact acted_of_panicked (hphase ▸ (Move.polled cursor later).moves) text
  | detached => exact acted_of_failed (hphase ▸ (Move.failed _).moves) rfl

theorem Running.acted {answer : Answer (Except FetchError Nat)}
    (h : Running before answer after calls) (hphase : before.phase = .notStarted) :
    Acted before answer after calls := by
  cases h with
  | uncreated h =>
    have hacted := h.acted hphase
    exact acted_of_failed hacted.moves (hacted.failed _ rfl)
  | interrupted h => exact acted_of_panicked (h.acted hphase).moves _
  | unsent cursor cause h =>
    refine acted_of_failed ?_ rfl
    rw [hphase]
    have hend : ∀ error, Moves (.fetching (some cursor)) (.failed error) [.cursor .close] :=
      fun error => .next (.closed cursor) (Move.failed error).moves
    -- A poisoned transaction is not reached, so there is no round trip then.
    cases h with
    | poisoned => exact .next (.created _ cursor) (hend _)
    | reached => exact .next (.sent _ cursor _ _) (hend _)
  | cut cursor text => exact acted_of_panicked (hphase ▸ (Move.sent _ cursor _ _).moves) text
  | sent cursor h =>
    have hacted := h.acted rfl
    exact ⟨hphase ▸ .next (.sent _ cursor _ _) hacted.moves, hacted.failed⟩

end Calls

section Requests

variable [Engine σ] {executor : Executor} {request : Request σ}

/-- A call on a level that is there sets it up, before the start. -/
theorem changeBuffer_of_lt {level : Nat} (hphase : executor.phase = .notStarted)
    (hlevel : level < executor.fetch.buffers.length) (call : String)
    (change : RowBuffer → RowBuffer) : ∃ changed, changed.phase = .notStarted ∧
      executor.changeBuffer call level change = .ok changed := by
  simp [changeBuffer, hphase, hlevel]

/-- What a call that is not refused can do. -/
theorem acted_of_not_refused [Memory] (h : ∀ error, ¬ Refused executor request error) :
    Acted executor (request.perform executor).value.1 (request.perform executor).value.2
      (traffic (request.perform executor).effects) := by
  have hstart : ∀ call, request.needs? = some (call, "NOT_STARTED") →
      executor.phase = .notStarted := by
    intro call hneeds
    by_contra hne
    exact h _ (.wrongPhase hneeds (mt name_eq_notStarted_iff.mp hne))
  have hbound : request.asks = true → executor.phase = .notStarted →
      executor.unboundLevel? = none := by
    intro hasks hphase
    by_contra hsome
    obtain ⟨level, hlevel⟩ := Option.ne_none_iff_exists'.mp hsome
    obtain ⟨⟨buffer, hbuffer, hunbound⟩, hfirst⟩ := unboundLevel?_eq_some_iff.mp hlevel
    exact h _ (.unbound hphase hasks hbuffer hunbound hfirst)
  have hrange : ∀ level, request.level? = some level → executor.phase = .notStarted →
      level < executor.fetch.buffers.length := by
    intro level hlevel hphase
    by_contra hlt
    exact h _ (.outOfRange hphase hlevel (Nat.le_of_not_lt hlt))
  cases request with
  | createRowBuffer level record =>
    have hphase := hstart _ rfl
    obtain ⟨changed, hchanged, hok⟩ :=
      changeBuffer_of_lt hphase (hrange level rfl hphase) "create_row_buffer" _
    rw [Request.perform, createRowBuffer, hok]
    exact acted_of_ok (hphase ▸ hchanged ▸ .rest _) _
  | markJoinOnly level =>
    have hphase := hstart _ rfl
    obtain ⟨changed, hchanged, hok⟩ :=
      changeBuffer_of_lt hphase (hrange level rfl hphase) "mark_join_only" _
    rw [Request.perform, markJoinOnly, hok]
    exact acted_of_ok (hphase ▸ hchanged ▸ .rest _) _
  | createQuery shared =>
    have hphase := hstart _ rfl
    have hacted := (creating hphase (hbound rfl hphase) shared).acted hphase
    simpa [Request.perform] using hacted.map fun () => Response.done
  | run shared =>
    have hphase := hstart _ rfl
    have hacted := (running hphase (hbound rfl hphase) shared).acted hphase
    simpa [Request.perform] using hacted.map Response.rows
  | fetchAll =>
    obtain ⟨cursor?, hphase⟩ : ∃ cursor?, executor.phase = .fetching cursor? := by
      by_contra hne
      exact h _ (.wrongPhase rfl (mt name_eq_fetching_iff.mp hne))
    have hacted := (fetching hphase).acted hphase
    simpa [Request.perform] using hacted.map Response.rows
  | close =>
    obtain ⟨query, fetch, phase, abort, send⟩ := executor
    cases phase with
    | fetching cursor? =>
      cases cursor? with
      | some cursor => exact acted_of_ok (Move.closed cursor).moves _
      | none => exact acted_of_ok (.rest _) _
    | notStarted | drained | failed => exact acted_of_ok (.rest _) _
  | takeData index =>
    have hrest : Moves executor.phase (executor.takeData index).2.phase [] := .rest _
    exact acted_of_ok hrest _

end Requests

/-! ### Any sequence of calls -/

/-- What every call on an executor obeys. -/
structure Lawful (before : Executor) (request : Request σ)
    (answer : Answer (Except FetchError Response)) (after : Executor) (effects : List Effect) :
    Prop where
  reaches : ReflTransGen Phase.Next before.phase after.phase
  drained : before.phase = .drained → after.phase = .drained
  failed : ∀ error, before.phase = .failed error → after.phase = .failed error
  /-- A refused call changes nothing, and makes no call. -/
  refused : ∀ error, Refused before request error →
    answer = .returned (.error error) ∧ after = before ∧ effects = []
  /-- Every other error is the one that the executor failed with. -/
  error : ∀ error, answer = .returned (.error error) →
    Refused before request error ∨ after.phase = .failed error

/-- Nothing comes after the end. -/
theorem eq_of_reaches {first last : Phase} (h : ReflTransGen Phase.Next first last)
    (hend : ∀ next, ¬ Phase.Next first next) : last = first := by
  induction h with
  | refl => rfl
  | tail _ hnext ih =>
    rw [ih] at hnext
    exact absurd hnext (hend _)

theorem not_next_drained (next : Phase) : ¬ Phase.Next .drained next := nofun

theorem not_next_failed (error : FetchError) (next : Phase) : ¬ Phase.Next (.failed error) next :=
  nofun

section Play

variable [Memory] [Engine σ]

/-- A call moves the phase, whether it is refused or not. -/
theorem moves_perform (executor : Executor) (request : Request σ) :
    Moves executor.phase (request.perform executor).value.2.phase
      (traffic (request.perform executor).effects) := by
  by_cases h : ∃ error, Refused executor request error
  · obtain ⟨error, hrefused⟩ := h
    rw [perform_of_refused hrefused]
    exact .rest _
  · exact (acted_of_not_refused (not_exists.mp h)).moves

theorem lawful_perform (executor : Executor) (request : Request σ) :
    Lawful executor request (request.perform executor).value.1 (request.perform executor).value.2
      (request.perform executor).effects := by
  have hreaches := (moves_perform executor request).reaches
  refine ⟨hreaches, fun hphase => ?_, fun error hphase => ?_, fun error hrefused => ?_,
    fun error hanswer => ?_⟩
  · rw [eq_of_reaches hreaches (hphase ▸ not_next_drained), hphase]
  · rw [eq_of_reaches hreaches (hphase ▸ not_next_failed error), hphase]
  · rw [perform_of_refused hrefused]
    exact ⟨rfl, rfl, rfl⟩
  · by_cases h : ∃ error, Refused executor request error
    · obtain ⟨cause, hrefused⟩ := h
      rw [perform_of_refused hrefused] at hanswer
      cases hanswer
      exact .inl hrefused
    · exact .inr ((acted_of_not_refused (not_exists.mp h)).failed error hanswer)

/-- Makes one call after the other, whatever comes of them. -/
def play [Sink] (executor : Executor) (requests : List (Request σ)) : Traced Executor :=
  Traced.foldl (fun executor request => do
    let (_, executor) ← request.perform executor
    return executor) executor requests

theorem play_cons [Sink] (executor : Executor) (request : Request σ)
    (rest : List (Request σ)) :
    play executor (request :: rest) =
      Traced.bind (request.perform executor) fun answered => play answered.2 rest := by
  rw [play, Traced.foldl_cons]
  exact Traced.bind_assoc ..

theorem Balanced.perform {executor : Executor} {past : List Effect}
    (h : Balanced executor.phase past) (request : Request σ) :
    Balanced (request.perform executor).value.2.phase
      (past ++ (request.perform executor).effects) := by
  obtain ⟨hunmade, hmade, htrips, hclosed⟩ := h.moves (moves_perform executor request)
  rw [made_append, made_traffic] at hunmade hmade
  rw [trips_append, made_append, trips_traffic, made_traffic] at htrips
  rw [closed_append, made_append, closed_traffic, made_traffic] at hclosed
  constructor
  · rwa [made_append]
  · rwa [made_append]
  · rwa [trips_append, made_append]
  · rwa [closed_append, made_append]

theorem Balanced.play {executor : Executor} {past : List Effect}
    (h : Balanced executor.phase past) (requests : List (Request σ)) :
    Balanced (play executor requests).value.phase (past ++ (play executor requests).effects) := by
  induction requests generalizing executor past with
  | nil => simpa [Executor.play] using h
  | cons request rest ih =>
    have hrest := ih (h.perform request)
    simpa [Executor.play_cons, Traced.bind] using hrest

end Play

theorem balanced_new (query : Query) (config : Config) :
    Balanced (Executor.new query config).phase [] :=
  ⟨fun _ => rfl, Nat.zero_le 1, Nat.le_refl 0, rfl⟩

/-- An executor has no cursor after `close`. -/
theorem cursor?_close (executor : Executor) : (close executor).value.2.phase.cursor? = none := by
  obtain ⟨query, fetch, phase, abort, send⟩ := executor
  cases phase with
  | fetching cursor? => cases cursor? <;> rfl
  | notStarted | drained | failed => rfl

/-- However an executor was used, at most one cursor was made and one round trip by the time it is
dropped, and each cursor was closed once. -/
theorem closed_eq_made [Memory] [Engine σ] (query : Query) (config : Config)
    (requests : List (Request σ)) :
    let played := play (Executor.new query config) requests
    let effects := played.effects ++ (close played.value).effects
    made effects ≤ 1 ∧ trips effects ≤ 1 ∧ closed effects = made effects := by
  intro played effects
  have hplayed := (balanced_new query config).play requests
  rw [List.nil_append] at hplayed
  obtain ⟨-, hmade, htrips, hclosed⟩ : Balanced (close played.value).value.2.phase effects := by
    simpa [Request.perform] using hplayed.perform (Request.close : Request σ)
  have hheld : (close played.value).value.2.phase.held = 0 := by
    rw [Phase.held, cursor?_close]
    rfl
  rw [hheld, Nat.add_zero] at hclosed
  exact ⟨hmade, Nat.le_trans htrips hmade, hclosed⟩

end Executor

end StorageClient
