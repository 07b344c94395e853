import StorageClient.Proofs.Fetch.Lifecycle
import StorageClient.Proofs.Fetch.Shortage
/-!
# StorageClient.Proofs.Fetch.Course

The course of an executor: what its calls do, as steps (`Executor.Step`), whatever memory is
granted or refused. What is true of all courses is proved for one step (`Executor.Course.keeps`).

* A course tells what is done with the cursor and what is counted, but no lines. Whatever is
  neither a count nor a poll nor a new cursor is of no account (`Effect.isIdle`).
* Along a course the effects tell which answers were taken off the cursor (`Effect.answers`), and
  which are left (`Executor.Tracked`). So a fetch that panics and is called again goes on where it
  stopped.
* Every call takes a course, except those that set up a buffer or take an image
  (`Executor.Performing`).
-/

namespace StorageClient

open Effect (acts total polls cursor?)

namespace Effect

/-- The answers that were polled from the first cursor that was made. -/
def answers (effects : List Effect) : List Cursor.Answer :=
  match cursor? effects with
  | some made => made.answers.take (polls effects)
  | none => []

/-- The rows that were got from the cursor: those among its answers that were polled. -/
def rows (effects : List Effect) : List (List Cell) :=
  (answers effects).filterMap Cursor.Answer.row?

/-- Whether an effect is of no account. -/
def isIdle : Effect → Bool
  | .count .. => false
  | effect => effect.newCursor?.isNone && !effect.isPoll

/-- Idle effects count nothing. -/
theorem not_counted_of_idle {effects : List Effect} (h : ∀ effect ∈ effects, effect.isIdle = true) :
    (∀ counter, total counter effects = 0) ∧ polls effects = 0 ∧ cursor? effects = none := by
  induction effects with
  | nil => exact ⟨fun _ => rfl, rfl, rfl⟩
  | cons effect rest ih =>
    obtain ⟨heffect, hrest⟩ := List.forall_mem_cons.mp h
    obtain ⟨hcounts, hpolls, hcursor⟩ := ih hrest
    cases effect with
    | count => cases heffect
    | line | transaction | cursor =>
      simp only [isIdle, Bool.and_eq_true, Option.isNone_iff_eq_none, Bool.not_eq_true'] at heffect
      refine ⟨fun counter => ?_, ?_, ?_⟩
      · simp [growth, hcounts]
      · rw [polls, List.countP_cons_of_neg (by simp [heffect.2])]
        exact hpolls
      · rw [cursor?, List.findSome?_cons, heffect.1]
        exact hcursor

/-- Nothing that matters to an account tells two histories apart. -/
structure SameAccount (effects other : List Effect) : Prop where
  total : ∀ counter, total counter effects = total counter other
  polls : polls effects = polls other
  cursor? : cursor? effects = cursor? other

theorem sameAccount_of_acts {effects other : List Effect} (h : acts effects = acts other) :
    SameAccount effects other where
  total counter := by rw [← total_acts, h, total_acts]
  polls := by rw [← polls_acts, h, polls_acts]
  cursor? := by rw [← cursor?_acts, h, cursor?_acts]

theorem sameAccount_append {effects : List Effect}
    (h : ∀ effect ∈ effects, effect.isIdle = true) (past : List Effect) :
    SameAccount (past ++ effects) past := by
  obtain ⟨hcounts, hpolls, hcursor⟩ := not_counted_of_idle h
  refine ⟨fun counter => ?_, ?_, ?_⟩
  · rw [total_append, hcounts, Nat.add_zero]
  · rw [polls_append, hpolls, Nat.add_zero]
  · rw [cursor?_append, hcursor, Option.or_none]

theorem SameAccount.answers {effects other : List Effect} (h : SameAccount effects other) :
    Effect.answers effects = Effect.answers other := by
  rw [Effect.answers, Effect.answers, h.cursor?, h.polls]

/-- Without a poll and a new cursor, no answers are added. -/
theorem answers_append_of_unpolled {effects : List Effect} (past : List Effect)
    (hcursor : cursor? effects = none) (hpolls : polls effects = 0) :
    answers (past ++ effects) = answers past := by
  rw [answers, answers, cursor?_append, polls_append, hcursor, hpolls, Option.or_none, Nat.add_zero]

/-- A call on a transaction that makes no cursor is of no account. -/
theorem isIdle_of_attempted {α : Type} {told : Answer (Except EngineError α) → TransactionCall}
    {answer : Answer (Except EngineError α)} {effects : List Effect}
    (h : SharedTransaction.Attempted told answer effects)
    (htold : newCursor? (.transaction (told answer)) = none) :
    ∀ effect ∈ effects, effect.isIdle = true := by
  cases h with
  | poisoned => simp
  | reached => simp [isIdle, htold, isPoll]

end Effect

namespace Executor

open Effect (answers)

/-! ### Steps -/

section Steps

variable [Memory]

/-- What can happen to an executor, and its effects. -/
inductive Step (executor : Executor) : Executor → List Effect → Prop
  /-- Something that is of no account. -/
  | idled {effects : List Effect} (hidle : ∀ effect ∈ effects, effect.isIdle = true) :
    Step executor executor effects
  | created (hphase : executor.phase = .notStarted) (asked : Query) (cursor : Cursor) :
    Step executor { executor with phase := .fetching (some cursor) }
      [.transaction (.createQuery asked (.returned (.ok cursor)))]
  | closed {cursor? : Option Cursor} (hphase : executor.phase = .fetching cursor?) :
    Step executor { executor with phase := .fetching none } (closing cursor?)
  /-- There is an end without a fetch, but never for want of memory. -/
  | failed {error : FetchError} (hfatal : error.isFatal = false)
      (hphase : executor.phase = .notStarted ∨ ∃ cursor?, executor.phase = .fetching cursor?) :
    Step executor { executor with phase := .failed error } [.count .queriesFailed 1]
  | drained {cursor later : Cursor} {fetched : Fetch} {outcome : Except FetchError Unit}
      {effects : List Effect} (hphase : executor.phase = .fetching (some cursor))
      (hdrain : Fetch.drain executor.query cursor executor.fetch =
        ⟨(.returned outcome, later, fetched), effects⟩) :
    Step executor { executor with fetch := fetched, phase := phaseAfterDrain outcome }
      (effects ++ [.cursor .close, .count (counterAfterDrain outcome) 1])
  | interrupted {cursor later : Cursor} {fetched : Fetch} {text : String} {effects : List Effect}
      (hphase : executor.phase = .fetching (some cursor))
      (hdrain : Fetch.drain executor.query cursor executor.fetch =
        ⟨(.panicked text, later, fetched), effects⟩) :
    Step executor { executor with fetch := fetched, phase := .fetching (some later) } effects

/-- Some steps, one after the other, with any lines in between. -/
inductive Course : Executor → Executor → List Effect → Prop
  | rest (executor : Executor) : Course executor executor []
  | next {first second last : Executor} {effects later : List Effect}
    (hstep : Step first second effects) (h : Course second last later) :
    Course first last (effects ++ later)
  | unlogged {first last : Executor} {effects kept : List Effect} (h : Course first last kept)
    (hacts : acts effects = acts kept) : Course first last effects

theorem Step.course {first last : Executor} {effects : List Effect} (h : Step first last effects) :
    Course first last effects := by
  simpa using Course.next h (.rest last)

theorem Course.trans {first second last : Executor} {effects later : List Effect}
    (h : Course first second effects) (hlater : Course second last later) :
    Course first last (effects ++ later) := by
  induction h with
  | rest => exact hlater
  | next hstep _ ih =>
    rw [List.append_assoc]
    exact .next hstep (ih hlater)
  | unlogged _ hacts ih =>
    refine .unlogged (ih hlater) ?_
    rw [Effect.acts_append, hacts, Effect.acts_append]

/-- **What steps keep, courses keep**, if lines do not matter to it. -/
theorem Course.keeps {p : Executor → List Effect → Prop} {first last : Executor}
    {effects : List Effect} (h : Course first last effects)
    (hstep : ∀ {first second : Executor} {past calls : List Effect}, p first past →
      Step first second calls → p second (past ++ calls))
    (hlines : ∀ {executor : Executor} {one other : List Effect}, p executor one →
      acts other = acts one → p executor other) :
    ∀ {past : List Effect}, p first past → p last (past ++ effects) := by
  induction h with
  | rest => intro past hpast; simpa using hpast
  | next hnext _ ih =>
    intro past hpast
    rw [← List.append_assoc]
    exact ih (hstep hpast hnext)
  | unlogged _ hacts ih =>
    intro past hpast
    exact hlines (ih hpast) (by rw [Effect.acts_append, hacts, Effect.acts_append])

/-! ### Calls -/

section Calls

variable {σ : Type} [Engine σ] (executor : Executor)

theorem course_close : Course executor (close executor).value.2 (close executor).effects := by
  cases hphase : executor.phase with
  | fetching cursor? =>
    rw [close_fetching hphase]
    exact (Step.closed hphase).course
  | notStarted | drained | failed => simpa [close, hphase] using Course.rest executor

theorem course_createQuery (shared : SharedTransaction σ) :
    Course executor (createQuery (executor, shared)).value.2.1
      (createQuery (executor, shared)).effects := by
  by_cases hphase : executor.phase = .notStarted
  · cases hbound : executor.unboundLevel? with
    | some level =>
      rw [createQuery_of_unbound hphase hbound]
      exact .rest executor
    | none =>
      rcases hask : SharedTransaction.attempt (Transaction.createQuery executor.query) shared with
        ⟨⟨answer, shared'⟩, effects⟩
      have hattempted := SharedTransaction.attempted hask
      obtain ⟨-, hcreate⟩ := createQuery_of_attempted hphase hbound hask
      rcases answer with (cause | cursor) | text <;>
        obtain ⟨-, hafter, hacts⟩ := hcreate <;> rw [hafter]
      · have hasked : Step executor executor effects :=
          .idled (Effect.isIdle_of_attempted hattempted rfl)
        have hfailed : Step executor { executor with phase := .failed (.createFailed cause) }
            [.count .queriesFailed 1] := .failed rfl (.inl hphase)
        refine Course.unlogged (.next hasked hfailed.course) ?_
        rw [hacts, Effect.acts_append]
        rfl
      · cases hattempted with
        | reached => exact (Step.created hphase executor.query cursor).course.unlogged hacts
      · exact (Step.idled (Effect.isIdle_of_attempted hattempted rfl)).course.unlogged hacts
  · rw [createQuery_of_ne hphase]
    exact .rest executor

theorem course_fetchAll :
    Course executor (fetchAll executor).value.2 (fetchAll executor).effects := by
  by_cases hphase : ∃ cursor?, executor.phase = .fetching cursor?
  · obtain ⟨_ | cursor, hphase⟩ := hphase
    · obtain ⟨hvalue, hacts⟩ :=
        fetchAll_of_returned hphase hphase (drainCursor_of_detached hphase)
      rw [hvalue]
      exact (Step.failed rfl (.inr ⟨none, hphase⟩)).course.unlogged hacts
    rcases hdrain : Fetch.drain executor.query cursor executor.fetch with
      ⟨⟨outcome | text, later, fetched⟩, effects⟩
    · obtain ⟨hvalue, hacts⟩ :=
        fetchAll_of_returned hphase rfl (drainCursor_of_drain hphase hdrain)
      rw [hvalue]
      refine (Step.drained hphase hdrain).course.unlogged ?_
      rw [hacts, Effect.acts_append]
      rfl
    · obtain ⟨hvalue, hacts⟩ := fetchAll_of_panicked hphase (drainCursor_of_drain hphase hdrain)
      rw [hvalue]
      exact (Step.interrupted hphase hdrain).course.unlogged hacts
  · rw [fetchAll_of_ne (not_exists.mp hphase)]
    exact .rest executor

theorem course_run (shared : SharedTransaction σ) :
    Course executor (run (executor, shared)).value.2.1 (run (executor, shared)).effects := by
  have hcreated := course_createQuery executor shared
  rcases hcreate : createQuery (executor, shared) with
    ⟨⟨(error | ⟨⟩) | text, created, shared'⟩, effects⟩
  · rw [hcreate] at hcreated
    rw [run_of_uncreated hcreate]
    exact hcreated
  · obtain ⟨-, -, cursor, hcreated'⟩ := createQuery_eq_ok (congrArg Traced.value hcreate)
    have hphase : created.phase = .fetching (some cursor) := by rw [hcreated']
    rw [hcreate] at hcreated
    rcases htrip : SharedTransaction.attempt (Transaction.execute created.roundTrip) shared' with
      ⟨⟨outcome, after⟩, trip⟩
    have hsent : Step created created trip :=
      .idled (Effect.isIdle_of_attempted (SharedTransaction.attempted htrip) rfl)
    rcases outcome with (cause | ⟨⟩) | text
    · rw [run_of_unsent hcreate hphase htrip]
      have hfailed : Step { created with phase := .fetching none }
          { created with phase := .failed (.roundTripFailed cause) } [.count .queriesFailed 1] :=
        .failed rfl (.inr ⟨none, rfl⟩)
      exact hcreated.trans (.next hsent (.next (.closed hphase) hfailed.course))
    · rw [run_of_sent hcreate htrip]
      exact hcreated.trans (.next hsent (course_fetchAll created))
    · rw [run_of_cut hcreate htrip]
      exact hcreated.trans hsent.course
  · rw [hcreate] at hcreated
    rw [run_of_interrupted hcreate]
    exact hcreated

end Calls

end Steps

/-! ### Requests -/

variable {σ : Type}

/-- The place whose image a call takes. -/
def Request.place? : Request σ → Option Nat
  | .takeData index => some index
  | _ => none

theorem phase_of_changeBuffer {executor changed : Executor} {call : String} {level : Nat}
    {change : RowBuffer → RowBuffer} (h : executor.changeBuffer call level change = .ok changed) :
    executor.phase = .notStarted := by
  by_contra hne
  rw [changeBuffer_of_ne hne] at h
  exact nomatch h

/-- A buffer that is set up changes nothing but the buffers, and not how many there are. -/
theorem Setup.exists_buffers (executor : Executor) (call : Setup) :
    ∃ buffers, buffers.length = executor.fetch.buffers.length ∧
      call.apply executor = { executor with fetch := { executor.fetch with buffers } } := by
  have hchange : ∀ name level change, ∃ buffers,
      buffers.length = executor.fetch.buffers.length ∧
      (executor.changeBuffer name level change).toOption.getD executor =
        { executor with fetch := { executor.fetch with buffers } } := by
    intro name level change
    unfold changeBuffer
    split
    · dsimp only
      split
      · exact ⟨_, List.length_modify .., rfl⟩
      · exact ⟨_, rfl, rfl⟩
    · exact ⟨_, rfl, rfl⟩
  cases call with
  | createRowBuffer level record => exact hchange ..
  | markJoinOnly level => exact hchange ..

section Requests

variable [Memory]

/-- What a call does to an executor: it takes a course, or it sets up a buffer before the start, or
it takes an image. -/
inductive Performing (executor : Executor) : Request σ → Executor → List Effect → Prop
  | runs {request : Request σ} {after : Executor} {effects : List Effect}
    (hplace : request.place? = none) (hcourse : Course executor after effects) :
    Performing executor request after effects
  | setUp {request : Request σ} (hplace : request.place? = none) {level : Nat}
    (hlevel : request.level? = some level) (hphase : executor.phase = .notStarted) (call : Setup) :
    Performing executor request (call.apply executor) []
  | takes (index : Nat) : Performing executor (.takeData index) (executor.takeData index).2 []

theorem performing_setUp {executor : Executor} {request : Request σ}
    (hplace : request.place? = none) {level : Nat} (hlevel : request.level? = some level)
    (call : Setup) {changed? : Except FetchError Executor}
    (happly : call.apply executor = changed?.toOption.getD executor)
    (hphase : ∀ changed, changed? = .ok changed → executor.phase = .notStarted) :
    Performing executor request (Request.perform.setUp executor changed?).value.2
      (Request.perform.setUp executor changed?).effects := by
  cases changed? with
  | error error => exact .runs hplace (.rest executor)
  | ok changed =>
    have hchanged : call.apply executor = changed := happly
    exact hchanged ▸ .setUp hplace hlevel (hphase changed rfl) call

theorem performing [Engine σ] (executor : Executor) (request : Request σ) :
    Performing executor request (request.perform executor).value.2
      (request.perform executor).effects := by
  cases request with
  | createRowBuffer level record =>
    exact performing_setUp rfl rfl (.createRowBuffer level record) rfl
      fun _ => phase_of_changeBuffer
  | markJoinOnly level =>
    exact performing_setUp rfl rfl (.markJoinOnly level) rfl fun _ => phase_of_changeBuffer
  | createQuery shared =>
    exact .runs rfl (by simpa [Request.perform] using course_createQuery executor shared)
  | run shared => exact .runs rfl (by simpa [Request.perform] using course_run executor shared)
  | fetchAll => exact .runs rfl (by simpa [Request.perform] using course_fetchAll executor)
  | close => exact .runs rfl (by simpa [Request.perform] using course_close executor)
  | takeData index => exact .takes index

end Requests

/-! ### The cursor -/

/-- What the effects of a course tell about the cursor: before the start there was none, the one
that an executor has is the one that was made, with the answers that are left, and of the one that
was drained all answers were got. -/
structure Tracked (executor : Executor) (past : List Effect) : Prop where
  unpolled : executor.phase = .notStarted → cursor? past = none ∧ polls past = 0
  left : ∀ cursor, executor.phase = .fetching (some cursor) →
    ∃ made, cursor? past = some made ∧ cursor.answers = made.answers.drop (polls past)
  drained : executor.phase = .drained → ∃ made, cursor? past = some made ∧
    answers past = made.answers

variable {executor : Executor} {past : List Effect}

theorem tracked_new (query : Query) (config : Config) : Tracked (Executor.new query config) [] where
  unpolled _ := ⟨rfl, rfl⟩
  left _ := Phase.noConfusion
  drained := Phase.noConfusion

theorem Tracked.congr {other : List Effect} (h : Tracked executor past)
    (hsame : Effect.SameAccount other past) : Tracked executor other := by
  obtain ⟨hunpolled, hleft, hdrained⟩ := h
  rw [← hsame.polls, ← hsame.cursor?] at hunpolled
  rw [← hsame.polls, ← hsame.cursor?] at hleft
  rw [← hsame.answers, ← hsame.cursor?] at hdrained
  exact ⟨hunpolled, hleft, hdrained⟩

/-- Nothing is told of an executor that has failed, or has given up its cursor. -/
theorem tracked_of_ne (hstarted : executor.phase ≠ .notStarted)
    (hcursor : ∀ cursor, executor.phase ≠ .fetching (some cursor))
    (hdrained : executor.phase ≠ .drained) : Tracked executor past where
  unpolled hphase := absurd hphase hstarted
  left cursor hphase := absurd hphase (hcursor cursor)
  drained hphase := absurd hphase hdrained

/-- Before the start no answer was got. -/
theorem Tracked.answers_eq_nil (h : Tracked executor past) (hphase : executor.phase = .notStarted) :
    answers past = [] := by
  rw [answers, (h.unpolled hphase).1]

/-- The polls that were made before say where in the answers of the cursor the new ones stand. -/
theorem Tracked.answers_append (h : Tracked executor past) {cursor : Cursor}
    (hphase : executor.phase = .fetching (some cursor)) (effects : List Effect) :
    answers (past ++ effects) = answers past ++ cursor.answers.take (polls effects) := by
  obtain ⟨made, hmade, hleft⟩ := h.left cursor hphase
  rw [answers, answers, Effect.cursor?_append, hmade, Effect.polls_append]
  dsimp only [Option.some_or]
  rw [List.take_add, ← hleft]

/-- What a step takes off the cursor. -/
theorem Tracked.step [Memory] {after : Executor} {effects : List Effect} (h : Tracked executor past)
    (hstep : Step executor after effects) : Tracked after (past ++ effects) := by
  cases hstep with
  | idled hidle => exact h.congr (Effect.sameAccount_append hidle past)
  | created hphase asked cursor =>
    obtain ⟨hnone, hunpolled⟩ := h.unpolled hphase
    refine ⟨Phase.noConfusion, fun other hother => ⟨cursor, ?_, ?_⟩, Phase.noConfusion⟩
    · rw [Effect.cursor?_append, hnone]
      rfl
    · obtain rfl := Option.some.inj (Phase.fetching.inj hother)
      rw [Effect.polls_append, hunpolled]
      rfl
  | closed => exact tracked_of_ne Phase.noConfusion nofun Phase.noConfusion
  | failed => exact tracked_of_ne Phase.noConfusion nofun Phase.noConfusion
  | @drained _ _ _ outcome _ hphase hdrain =>
    cases outcome with
    | error => exact tracked_of_ne Phase.noConfusion nofun Phase.noConfusion
    | ok =>
      obtain ⟨made, hmade, hleft⟩ := h.left _ hphase
      refine ⟨Phase.noConfusion, nofun, fun _ => ⟨made, ?_, ?_⟩⟩
      · rw [Effect.cursor?_append, hmade]
        rfl
      · rw [h.answers_append hphase, Effect.polls_append, show polls [_, _] = 0 from rfl,
          Nat.add_zero, Fetch.take_of_drained hdrain, answers, hmade, hleft, List.take_append_drop]
  | interrupted hphase hdrain =>
    obtain ⟨made, hmade, hleft⟩ := h.left _ hphase
    refine ⟨Phase.noConfusion, fun other hother => ⟨made, ?_, ?_⟩, Phase.noConfusion⟩
    · rw [Effect.cursor?_append, hmade]
      rfl
    · obtain rfl := Option.some.inj (Phase.fetching.inj hother)
      rw [Fetch.answers_of_panicked hdrain, hleft, List.drop_drop, Effect.polls_append]

end Executor

end StorageClient
