import StorageClient.Proofs.Batch.Forms
/-!
# StorageClient.Proofs.Batch.Notification

Who hands a batch over is told once that it is back. A task tells of it in any case: a panic in its
round trip is an error for the task that waits for it. Without a task, a panic goes through to
whoever handed the batch over, and nobody is told.

What is told is told last (`Notification.Sound`): the outcomes can be read by then, and a
transaction that is over is recorded as closed.
-/

namespace StorageClient.Batch

variable {σ : Type} {options : RoundTrip} {batch batch' : Batch}
  {shared shared' : SharedTransaction σ}

/-- What the receiver of a batch can rely on if it is told of a report. -/
structure Notification.Reports (notification : Notification) (options : RoundTrip) (size : Nat)
    (report : Report) : Prop where
  executed : ∃ transaction,
    notification.batch.phase = .executed transaction report.transactionError
  length_outcomes : report.outcomes.length = size
  outcome : ∀ n < size, ∃ outcome,
    notification.batch.outcome n = .ok outcome ∧ report.outcomes[n]? = some outcome
  closed : options.exec.closes = true → notification.closed = some true

/-- What the receiver of a batch can rely on. -/
structure Notification.Sound (notification : Notification) (options : RoundTrip) (batch : Batch) :
    Prop where
  unread : notification.batch.unread = batch.unread
  reports : ∀ report, notification.result = .ok report →
    notification.Reports options batch.length report
  unchanged : ∀ error, notification.result = .error error → notification.batch = batch

/-- What is told of a run is sound, provided the operations are those of the batch. -/
theorem Executing.sound {result : Except BatchError Report} {calls : List TransactionCall}
    (h : Executing options batch shared (.returned result, batch', shared') calls)
    (hunread : batch'.unread = batch.unread) :
    (handedBack batch' result shared').Sound options batch := by
  cases h with
  | refused e => exact ⟨hunread, nofun, fun _ _ => rfl⟩
  | lost => exact ⟨hunread, nofun, fun _ _ => rfl⟩
  | made transaction hprepared hreached hround engine =>
    rename_i result own inquiries entries
    have hlength : entries.length = batch.length := hround.length_things
    refine ⟨hunread, fun report hok => ?_, nofun⟩
    obtain rfl := Except.ok.inj hok
    refine ⟨⟨_, rfl⟩, (List.length_map _).trans hlength, fun n hn => ?_, fun hcloses => ?_⟩
    · have hentry : entries[n]? = some entries[n] := List.getElem?_eq_getElem (hlength ▸ hn)
      refine ⟨outcomeOf (roundTripError own result) entries[n], ?_, ?_⟩
      · simp [handedBack, outcome, executedEntry, hentry, Batch.transactionError,
          Phase.transactionError, Except.map]
      · simp [hentry]
    · simp [handedBack, Batch.transaction?, Phase.transaction?, hcloses]

variable [Engine σ]

/-- A task that waits for a round trip returns, whatever becomes of the round trip. -/
theorem executeAwaited_returns (task : String) (options : RoundTrip) (batch : Batch)
    (shared : SharedTransaction σ) :
    ∃ result batch' shared',
      (executeAwaited task options (batch, shared)).value = (.returned result, batch', shared') ∧
        batch'.unread = batch.unread := by
  by_cases hphase : ∀ transaction, batch.phase ≠ .prepared transaction
  · exact ⟨_, batch, shared, congrArg Traced.value (inScope_of_unprepared hphase), rfl⟩
  obtain ⟨transaction, hprepared⟩ : ∃ transaction, batch.phase = .prepared transaction := by
    simpa using hphase
  rcases htrip : roundTrip options (batch.entries, shared) with
    ⟨⟨collected | text, entries', shared'⟩, effects⟩
  · have hkept := keeps_execute options (batch, shared)
    have hvalue : ∃ result batch', (execute options (batch, shared)).value =
        (.returned result, batch', shared') := by
      cases collected with
      | ok error => exact ⟨_, _, execute_of_made hprepared htrip⟩
      | error refusal => exact ⟨_, _, execute_of_refused hprepared htrip⟩
    obtain ⟨result, batch', hvalue⟩ := hvalue
    rw [hvalue] at hkept
    refine ⟨result, batch', shared', ?_, hkept⟩
    rw [executeAwaited_eq_execute hprepared htrip, hvalue]
  · exact ⟨_, batch, shared', executeAwaited_of_panicked hprepared htrip task, rfl⟩

theorem effects_submit (task : Option String) (options : RoundTrip) (batch : Batch)
    (shared : SharedTransaction σ) :
    (submit task options batch shared).effects = (run task options (batch, shared)).effects := by
  rcases hrun : run task options (batch, shared) with ⟨⟨result | text, batch', shared'⟩, effects⟩
  · rw [submit_of_returned task hrun]
  · rw [submit_of_panicked task hrun]

/-- **The notification.** Handing a batch over leads to exactly one notification if a task runs
the batch, and also without one if no call panics. That notification is sound. -/
theorem notified_once (task : Option String) (options : RoundTrip) (batch : Batch)
    (shared : SharedTransaction σ)
    (hreturns : task = none →
      ∀ call ∈ Effect.transactionCalls (submit task options batch shared).effects,
        call.isPanic = false) :
    ∃ notification,
      (submit task options batch shared).value.1 = .returned ⟨task.isSome, [notification]⟩ ∧
        notification.Sound options batch := by
  obtain ⟨result, batch', shared', effects, hrun, hunread⟩ :
      ∃ result batch' shared' effects, run task options (batch, shared) =
        ⟨(.returned result, batch', shared'), effects⟩ ∧ batch'.unread = batch.unread := by
    cases task with
    | some task =>
      obtain ⟨result, batch', shared', hvalue, hunread⟩ :=
        executeAwaited_returns task options batch shared
      exact ⟨result, batch', shared', _, Traced.ext hvalue rfl, hunread⟩
    | none =>
      have hcalls := hreturns rfl
      rw [effects_submit] at hcalls
      obtain ⟨result, ⟨batch', shared'⟩, effects, hexecute⟩ :=
        (orderly_execute options).returns hcalls
      have hkept := keeps_execute options (batch, shared)
      rw [hexecute] at hkept
      exact ⟨result, batch', shared', effects, hexecute, hkept⟩
  have hexecuting := executing_run task options batch shared
  rw [hrun] at hexecuting
  exact ⟨_, congrArg (·.value.1) (submit_of_returned task hrun), hexecuting.sound hunread⟩

/-- Two orders, of which the second one fails. -/
theorem notified_once_orders :
    let state := (play [.call .prepare] (Batch.new [insertOrder 1, insertOrder 2],
      ordersTransaction [] [([2], .duplicateKey)])).2
    let options : RoundTrip := ⟨.commit, .operationDefault, .deferred⟩
    (∀ call ∈ Effect.transactionCalls (submit none options state.1 state.2).effects,
      call.isPanic = false) ∧
    ∃ notification,
      (submit none options state.1 state.2).value.1 = .returned ⟨false, [notification]⟩ ∧
        notification.result = .ok ⟨.commit, [.success, .operation .duplicateKey], none⟩ ∧
        notification.batch.outcome 1 = .ok (.operation .duplicateKey) ∧
        notification.closed = some true := by
  intro state options
  have hreturns : ∀ call ∈ Effect.transactionCalls (submit none options state.1 state.2).effects,
      call.isPanic = false := by decide
  obtain ⟨notification, hsubmit, hsound⟩ :=
    notified_once none options state.1 state.2 fun _ => hreturns
  have hresult : notification.result =
      .ok ⟨.commit, [.success, .operation .duplicateKey], none⟩ := by
    obtain rfl := List.head_eq_of_cons_eq (Submission.mk.inj (Answer.returned.inj hsubmit)).2
    rfl
  have hreports := hsound.reports _ hresult
  obtain ⟨outcome, houtcome, hreported⟩ := hreports.outcome 1 (by decide)
  obtain rfl := Option.some.inj hreported
  exact ⟨hreturns, notification, hsubmit, hresult, houtcome, hreports.closed rfl⟩

end StorageClient.Batch
