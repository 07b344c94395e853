import StorageClient.Proofs.Batch.Closing
import StorageClient.Proofs.Batch.Outcomes
import StorageClient.Proofs.Session.Calls
/-!
# StorageClient.Proofs.Session.Reports

What becomes of a batch that was reported on. The report is made once, when the round trip is over,
and given away. The batch keeps its entries and the error of the transaction, and is asked again and
again what came of an entry. So the report and the batch have to agree at any time.

They do, because an executed batch is not changed by any call (`Session.keeps_executed`). Every call
that would change it looks at the phase first, and leaves everything as it is. That includes handing
it over, after which the same batch is handed back.

Failed entries are counted when a batch is reported on, and at no other time.
-/

namespace StorageClient

open Effect (total growth)

variable {σ τ α : Type}

/-! ### What is counted -/

namespace Effect

/-- An effect that makes no counter grow. -/
def Uncounted (effect : Effect) : Prop := ∀ counter, growth counter effect = 0

theorem total_of_uncounted {effects : List Effect} (h : ∀ effect ∈ effects, effect.Uncounted)
    (counter : Counter) : total counter effects = 0 := by
  induction effects with
  | nil => rfl
  | cons effect rest ih =>
    obtain ⟨heffect, hrest⟩ := List.forall_mem_cons.mp h
    rw [total_cons, heffect counter, ih hrest]

end Effect

open Effect (Uncounted)

namespace Action.Obeys

theorem uncounted_of_candid {action : Action σ α} (h : Candid action) :
    Obeys (.emits Uncounted) action := .emits_of_candid (fun _ _ => rfl) h

end Action.Obeys

namespace Batch

open StorageClient.Action (Obeys)

variable {call : BatchCall} {options : RoundTrip} {batch : Batch} {shared : SharedTransaction σ}

/-- The report of a run that returned one. -/
def reported : Answer (Except BatchError Report) → Option Report
  | .returned (.ok report) => some report
  | .returned (.error _) | .panicked _ => none

/-- The failed entries of a report, if there is one. -/
def failuresOf (report? : Option Report) : Nat := report?.elim 0 Report.failures

theorem counted_complete (exec : ExecType) (collected : Except EngineError (Option EngineError))
    (batch : Batch) (shared : SharedTransaction σ) (scope : OpenScope) :
    let completed := complete exec collected ((batch, shared), some scope)
    total .batchEntryFailures completed.effects = failuresOf (reported completed.value.1) := by
  rcases collected with refusal | _ | error
  · rfl
  all_goals
    simp [complete, record, Action.bind_apply, Traced.bind, Action.count, Action.log, Traced.emit,
      outcomes, transactionError, Phase.transactionError, reported, failuresOf, growth,
      Traced.count]

/-- The lines of the scope count nothing. -/
theorem counted_inScope
    {work : Action ((Batch × SharedTransaction σ) × Option OpenScope) (Except BatchError Report)}
    (hwork : total .batchEntryFailures (work ((batch, shared), opened options batch)).effects =
      failuresOf (reported (work ((batch, shared), opened options batch)).value.1)) :
    total .batchEntryFailures (inScope call options work (batch, shared)).effects =
      failuresOf (reported (inScope call options work (batch, shared)).value.1) := by
  by_cases hphase : ∃ transaction, batch.phase = .prepared transaction
  · obtain ⟨transaction, hprepared⟩ := hphase
    obtain ⟨line, -, hrun⟩ := inScope_of_prepared hprepared options shared
    obtain ⟨lines, hlines⟩ := Action.effects_dropHeld
      (work ((batch, shared), opened options batch)).value.2.2
    rw [hrun]
    simpa [growth, hlines, withoutScope] using hwork
  · rw [inScope_of_unprepared (not_exists.mp hphase)]
    rfl

variable [Engine σ]

theorem uncounted_prepare :
    Obeys (.emits Uncounted)
      (prepare : Action (Batch × SharedTransaction σ) (Except BatchError Unit)) := by
  refine .bind .get fun (batch, shared) => ?_
  dsimp only
  split
  · refine .bind (fun (batch, shared) => ?_) fun answer => ?_
    · exact Obeys.emits_useWith (.uncounted_of_candid candid_defineEntries) (batch.entries, shared)
    · cases answer with
      | error refusal => exact .pure _
      | ok defined =>
        exact .bind (.emits_onFirst (.change _)) fun _ =>
          .bind (.emit fun _ => rfl) fun _ => .pure _
  · exact .pure _
  · exact .pure _

theorem uncounted_tryStart :
    Obeys (.emits Uncounted)
      (tryStart : Action (Batch × SharedTransaction σ) (Except BatchError Bool)) := by
  refine .bind .get fun (batch, shared) => ?_
  dsimp only
  split
  · exact .pure _
  · refine .bind (.emits_onSecond (.emits_use ?_)) fun answer => ?_
    · exact .uncounted_of_candid (.call fun _ => rfl)
    · cases answer <;> exact .pure _

theorem uncounted_roundTrip (options : RoundTrip) :
    Obeys (.emits Uncounted) (roundTrip options :
      Action (List Entry × SharedTransaction σ) (Except EngineError (Option EngineError))) :=
  emits_roundTrip (fun _ _ => rfl) (fun _ _ => rfl) options

/-- A round trip counts nothing, so all is counted when it is recorded. -/
theorem counted_execute (options : RoundTrip) (batch : Batch) (shared : SharedTransaction σ) :
    total .batchEntryFailures (execute options (batch, shared)).effects =
      failuresOf (reported (execute options (batch, shared)).value.1) := by
  refine counted_inScope ?_
  have huncounted := uncounted_roundTrip options (batch.entries, shared)
  rcases htrip : roundTrip options (batch.entries, shared) with
    ⟨⟨collected | text, entries', shared'⟩, effects⟩ <;> rw [htrip] at huncounted
  · rw [Action.bind_apply_of_returned (onEntries_roundTrip htrip _), Effect.total_append,
      Effect.total_of_uncounted huncounted, Nat.zero_add]
    exact counted_complete ..
  · rw [Action.bind_apply_of_panicked (onEntries_roundTrip htrip _),
      Effect.total_of_uncounted huncounted]
    rfl

theorem counted_executeAwaited (task : String) (options : RoundTrip) (batch : Batch)
    (shared : SharedTransaction σ) :
    total .batchEntryFailures (executeAwaited task options (batch, shared)).effects =
      failuresOf (reported (executeAwaited task options (batch, shared)).value.1) := by
  refine counted_inScope ?_
  have huncounted := uncounted_roundTrip options (batch.entries, shared)
  rcases htrip : roundTrip options (batch.entries, shared) with
    ⟨⟨collected | text, entries', shared'⟩, effects⟩ <;> rw [htrip] at huncounted <;>
    rw [Action.bind_apply_of_returned (Action.onFirst_of (roundTripOnTask_eq htrip) _),
      Effect.total_append, Effect.total_of_uncounted huncounted, Nat.zero_add] <;>
    dsimp only [Answer.map]
  · rw [Action.bind_apply_of_returned (takeOver_eq ..), List.nil_append]
    exact counted_complete ..
  · rfl

theorem counted_run (task : Option String) (options : RoundTrip) (batch : Batch)
    (shared : SharedTransaction σ) :
    total .batchEntryFailures (run task options (batch, shared)).effects =
      failuresOf (reported (run task options (batch, shared)).value.1) := by
  cases task with
  | none => exact counted_execute options batch shared
  | some task => exact counted_executeAwaited task options batch shared

/-- Nobody counts the failures of a round trip that nobody waits for. -/
theorem uncounted_executeAbandoned (options : RoundTrip) (batch : Batch)
    (shared : SharedTransaction σ) :
    total .batchEntryFailures (executeAbandoned options (batch, shared)).effects = 0 := by
  obtain ⟨lines, -, habandoned⟩ | ⟨refusal, habandoned⟩ :=
    executeAbandoned_cases options batch shared
  · have hlines : ∀ effect ∈ lines.map Effect.line, effect.Uncounted :=
      List.forall_mem_map.mpr fun _ _ _ => rfl
    rw [habandoned, Effect.total_append, Effect.total_of_uncounted hlines,
      Effect.total_of_uncounted (uncounted_roundTrip options (batch.entries, shared))]
  · rw [habandoned]
    rfl

/-! ### What is said of a batch -/

/-- Whether an entry of an executed batch has an error. -/
def hasError (batch : Batch) (n : Nat) : Bool :=
  match batch.error? n with
  | .ok error? => error?.isSome
  | .error _ => false

section Executed

variable {transaction : String} {error : Option EngineError} {outcome : Outcome} {n : Nat}

theorem outcome_of_executed (h : batch.phase = .executed transaction error)
    (hn : batch.outcomes[n]? = some outcome) : batch.outcome n = .ok outcome := by
  rw [outcomes, List.getElem?_map] at hn
  obtain ⟨entry, hentry, rfl⟩ := Option.map_eq_some_iff.mp hn
  simp [Batch.outcome, executedEntry, h, hentry, Except.map]

theorem outcome_of_length_le (h : batch.phase = .executed transaction error)
    (hn : batch.length ≤ n) : batch.outcome n = .error (.entryOutOfRange n batch.length) := by
  have hentry : batch.entries[n]? = none := List.getElem?_eq_none hn
  simp [Batch.outcome, executedEntry, h, hentry, Except.map]

theorem error?_of_outcome (h : batch.outcome n = .ok outcome) :
    batch.error? n = .ok outcome.error? := by
  rw [error?, h]
  rfl

theorem hasError_of_outcome (h : batch.outcome n = .ok outcome) :
    batch.hasError n = !outcome.isSuccess := by
  rw [hasError, error?_of_outcome h]
  cases outcome <;> rfl

end Executed

end Batch

/-- What a batch says is what the report on it said: of every entry, of the transaction, and of how
many entries failed. -/
structure Report.Agrees (report : Report) (batch : Batch) : Prop where
  executed : ∃ transaction, batch.phase = .executed transaction report.transactionError
  length_outcomes : report.outcomes.length = batch.length
  outcome : ∀ n outcome, report.outcomes[n]? = some outcome →
    batch.outcome n = .ok outcome ∧ batch.error? n = .ok outcome.error?
  out_of_range : ∀ n, batch.length ≤ n →
    batch.outcome n = .error (.entryOutOfRange n batch.length) ∧
      batch.error? n = .error (.entryOutOfRange n batch.length)
  transactionError : batch.transactionError = report.transactionError
  failures : report.failures = (List.range batch.length).countP batch.hasError
  isSuccess : report.isSuccess = true ↔ ∀ n < batch.length, batch.error? n = .ok none

namespace Batch

/-- Counting by place is counting. -/
theorem countP_range_getElem? (p : α → Bool) (things : List α) :
    ((List.range things.length).countP fun n => things[n]?.any p) = things.countP p := by
  induction things with
  | nil => rfl
  | cons thing rest ih =>
    rw [List.length_cons, List.range_succ_eq_map, List.countP_cons, List.countP_map,
      List.countP_cons, ← ih]
    rfl

theorem agrees_of_outcomes {batch : Batch} {report : Report} {transaction : String}
    (hphase : batch.phase = .executed transaction report.transactionError)
    (houtcomes : report.outcomes = batch.outcomes) : report.Agrees batch := by
  have hlength : report.outcomes.length = batch.length := by
    rw [houtcomes, outcomes, List.length_map, length]
  have houtcome {n : Nat} {outcome : Outcome} (hn : report.outcomes[n]? = some outcome) :
      batch.outcome n = .ok outcome := outcome_of_executed hphase (houtcomes ▸ hn)
  have hwithin {n : Nat} (hn : n < batch.length) :
      ∃ outcome, report.outcomes[n]? = some outcome :=
    ⟨_, List.getElem?_eq_getElem (hlength ▸ hn)⟩
  have hfailures : report.failures = (List.range batch.length).countP batch.hasError := by
    rw [Report.failures, ← List.countP_eq_length_filter, ← countP_range_getElem?, hlength]
    refine List.countP_congr fun n hn => ?_
    obtain ⟨outcome, hn⟩ := hwithin (List.mem_range.mp hn)
    rw [hn, hasError_of_outcome (houtcome hn), Option.any_some]
  refine ⟨⟨transaction, hphase⟩, hlength, fun n outcome hn => ?_, fun n hn => ?_, ?_, hfailures, ?_⟩
  · exact ⟨houtcome hn, error?_of_outcome (houtcome hn)⟩
  · have hrange := outcome_of_length_le hphase hn
    exact ⟨hrange, by rw [error?, hrange]; rfl⟩
  · rw [Batch.transactionError, hphase]
    rfl
  · -- No entry has an error exactly if none is counted.
    rw [Report.isSuccess, beq_iff_eq, hfailures, List.countP_eq_zero]
    refine forall_congr' fun n => ?_
    rw [List.mem_range]
    refine imp_congr_right fun hn => ?_
    obtain ⟨outcome, hn⟩ := hwithin hn
    rw [hasError_of_outcome (houtcome hn), error?_of_outcome (houtcome hn)]
    simpa using outcome.isSuccess_iff

end Batch

namespace Session

/-! ### Calls on a batch -/

/-- The report that a call is answered with, or that comes with a batch that was handed back. -/
def Response.report? : Response → Option Report
  | .batch (.ok (.report report)) => some report
  | .submission handed =>
    handed.notifications.head?.bind fun notification => notification.result.toOption
  | _ => none

variable [Engine σ] {call : OnBatch} {batch : Batch} {shared : SharedTransaction σ}

/-- What comes of a request is told as the answer of a call. -/
theorem perform_plain (request : Batch.Request) (batch : Batch) (shared : SharedTransaction σ) :
    (OnBatch.plain request).perform batch shared =
      ⟨(.of .batch (request.perform (batch, shared)).value.1,
        some (request.perform (batch, shared)).value.2.1,
        (request.perform (batch, shared)).value.2.2),
      (request.perform (batch, shared)).effects⟩ :=
  Traced.ext rfl (List.append_nil _)

theorem answer_of_report? {answer : Answer (Except BatchError Batch.Response)} {report : Report}
    (h : (Response.of .batch answer).report? = some report) :
    answer = .returned (.ok (.report report)) := by
  rcases answer with ⟨error | response⟩ | text
  · exact nomatch h
  · cases response with
    | report told =>
      obtain rfl : told = report := Option.some.inj h
      rfl
    | done | started => exact nomatch h
  · exact nomatch h

theorem report?_of_report (answer : Answer (Except BatchError Report)) :
    (Response.of .batch (answer.map (Except.map .report))).report? = Batch.reported answer := by
  rcases answer with ⟨error | report⟩ | text <;> rfl

theorem report?_of_other {f : α → Batch.Response} (h : ∀ a report, f a ≠ .report report)
    (answer : Answer (Except BatchError α)) :
    (Response.of .batch (answer.map (Except.map f))).report? = none := by
  rcases answer with ⟨error | a⟩ | text
  · rfl
  · change Response.report? (.batch (.ok (f a))) = none
    cases hf : f a with
    | report report => exact absurd hf (h a report)
    | done | started => rfl
  · rfl

section Submit

variable {task : Option String} {options : RoundTrip} {after : Batch × SharedTransaction σ}
  {effects : List Effect}

/-- Handing a batch over runs it, and tells what came of the run. -/
theorem perform_submit_of_returned {result : Except BatchError Report}
    (hrun : Batch.run task options (batch, shared) = ⟨(.returned result, after), effects⟩) :
    (OnBatch.submit task options).perform batch shared =
      ⟨(.submission ⟨task.isSome, [Batch.handedBack after.1 result after.2]⟩, some after.1,
        after.2), effects⟩ := by
  simp [OnBatch.perform, OnBatch.perform.handedBack?, Batch.submit_of_returned task hrun, bind,
    Traced.bind, pure, Response.of, Batch.handedBack]

theorem perform_submit_of_panicked {text : String}
    (hrun : Batch.run task options (batch, shared) = ⟨(.panicked text, after), effects⟩) :
    (OnBatch.submit task options).perform batch shared =
      ⟨(.panicked text, none, after.2), effects⟩ := by
  simp [OnBatch.perform, OnBatch.perform.handedBack?, Batch.submit_of_panicked task hrun, bind,
    Traced.bind, pure, Response.of]

end Submit

/-- A batch that nobody waits for is not reported on. -/
theorem perform_abandon (options : RoundTrip) (batch : Batch) (shared : SharedTransaction σ) :
    let abandoned := Batch.executeAbandoned options (batch, shared)
    (OnBatch.abandon options).perform batch shared =
      ⟨(.of (fun result => .batch (result.map fun () => .done)) abandoned.value.1,
        some abandoned.value.2.1, abandoned.value.2.2), abandoned.effects⟩ :=
  Traced.ext rfl (List.append_nil _)

theorem report?_abandon (options : RoundTrip) (batch : Batch) (shared : SharedTransaction σ) :
    ((OnBatch.abandon options).perform batch shared).value.1.report? = none := by
  rw [perform_abandon]
  rcases (Batch.executeAbandoned options (batch, shared)).value.1 with ⟨error | ⟨⟩⟩ | text <;> rfl

/-- A call that is answered with a report has executed the batch. -/
theorem executing_of_report? {report : Report}
    (h : (call.perform batch shared).value.1.report? = some report) :
    ∃ options value, Batch.Executing options batch shared value
        (Effect.transactionCalls (call.perform batch shared).effects) ∧
      value.1 = .returned (.ok report) ∧
      (call.perform batch shared).value.2 = (some value.2.1, value.2.2) := by
  cases call with
  | plain request =>
    rw [perform_plain] at h ⊢
    obtain ⟨options, value, hexecuting, hreport, hvalue⟩ :=
      Batch.executing_of_report (answer_of_report? h)
    exact ⟨options, value, hexecuting, hreport, by rw [hvalue]⟩
  | submit task options =>
    have hexecuting := Batch.executing_run task options batch shared
    rcases hrun : Batch.run task options (batch, shared) with
      ⟨⟨⟨error | told⟩ | text, after⟩, effects⟩
    · rw [perform_submit_of_returned hrun] at h
      exact nomatch h
    · rw [hrun] at hexecuting
      rw [perform_submit_of_returned hrun] at h ⊢
      obtain rfl : told = report := Option.some.inj h
      exact ⟨options, _, hexecuting, rfl, rfl⟩
    · rw [perform_submit_of_panicked hrun] at h
      exact nomatch h
  | abandon options => exact nomatch (report?_abandon options batch shared).symm.trans h
  | outcome | entryError | blobResults => exact nomatch h

/-- Failed entries are counted with the report on them. -/
theorem counted_perform (call : OnBatch) (batch : Batch) (shared : SharedTransaction σ) :
    total .batchEntryFailures (call.perform batch shared).effects =
      Batch.failuresOf (call.perform batch shared).value.1.report? := by
  cases call with
  | plain request =>
    rw [perform_plain]
    cases request with
    | setError n error =>
      change 0 = Batch.failuresOf (Response.report? (.batch ((batch.setError n error).map _)))
      cases batch.setError n error <;> rfl
    | prepare =>
      exact (Effect.total_of_uncounted (Batch.uncounted_prepare (batch, shared)) _).trans
        (congrArg Batch.failuresOf (report?_of_other nofun _)).symm
    | tryStart =>
      exact (Effect.total_of_uncounted (Batch.uncounted_tryStart (batch, shared)) _).trans
        (congrArg Batch.failuresOf (report?_of_other nofun _)).symm
    | execute options =>
      exact (Batch.counted_execute options batch shared).trans
        (congrArg Batch.failuresOf (report?_of_report _)).symm
    | executeAwaited task options =>
      exact (Batch.counted_executeAwaited task options batch shared).trans
        (congrArg Batch.failuresOf (report?_of_report _)).symm
  | submit task options =>
    have hcounted := Batch.counted_run task options batch shared
    rcases hrun : Batch.run task options (batch, shared) with
      ⟨⟨⟨error | told⟩ | text, after⟩, effects⟩ <;> rw [hrun] at hcounted
    · rw [perform_submit_of_returned hrun]
      exact hcounted
    · rw [perform_submit_of_returned hrun]
      exact hcounted
    · rw [perform_submit_of_panicked hrun]
      exact hcounted
  | abandon options =>
    rw [report?_abandon, perform_abandon]
    exact Batch.uncounted_executeAbandoned options batch shared
  | outcome | entryError | blobResults => rfl

/-- An executed batch is not changed by any call, and not lost. -/
theorem keeps_executed (hexecuted : ∃ transaction error, batch.phase = .executed transaction error)
    (call : OnBatch) (shared : SharedTransaction σ) :
    (call.perform batch shared).value.2.1 = some batch := by
  obtain ⟨reached, error, hexecuted⟩ := hexecuted
  have hunprepared (transaction : String) : batch.phase ≠ .prepared transaction := by
    rw [hexecuted]
    exact nofun
  cases call with
  | plain request =>
    rw [perform_plain]
    refine congrArg some ?_
    cases request with
    | setError n cause =>
      have hmarking := Batch.marking batch n cause
      change (batch.setError n cause).toOption.getD batch = batch
      generalize batch.setError n cause = result at hmarking
      cases hmarking with
      | refused => rfl
      | marked h => exact absurd hexecuted (h reached error)
    | prepare =>
      have hpreparing := Batch.preparing batch shared
      change (Batch.prepare (batch, shared)).value.2.1 = batch
      generalize (Batch.prepare (batch, shared)).value = came,
        Effect.transactionCalls (Batch.prepare (batch, shared)).effects = calls at hpreparing
      cases hpreparing with
      | refused => rfl
      | bound hbuilt => exact nomatch hexecuted.symm.trans hbuilt
      | panicked hbuilt => exact nomatch hexecuted.symm.trans hbuilt
    | tryStart => exact Batch.batch_tryStart batch shared
    | execute options =>
      have hexecute : Batch.execute options (batch, shared) = pure (_, batch, shared) :=
        Batch.inScope_of_unprepared hunprepared
      exact congrArg (fun came => came.value.2.1) hexecute
    | executeAwaited task options =>
      have hexecute : Batch.executeAwaited task options (batch, shared) = pure (_, batch, shared) :=
        Batch.inScope_of_unprepared hunprepared
      exact congrArg (fun came => came.value.2.1) hexecute
  | submit task options =>
    obtain ⟨refusal, hrun⟩ : ∃ refusal, Batch.run task options (batch, shared) =
        pure (.returned (.error refusal), batch, shared) := by
      cases task <;> exact ⟨_, Batch.inScope_of_unprepared hunprepared⟩
    rw [perform_submit_of_returned hrun]
  | abandon options => rw [perform_abandon, Batch.batch_executeAbandoned]
  | outcome | entryError | blobResults => rfl

/-- A call that is answered with a report leaves a batch that agrees with it. -/
theorem agrees_of_report? {report : Report}
    (h : (call.perform batch shared).value.1.report? = some report) :
    ∃ after, (call.perform batch shared).value.2.1 = some after ∧
      after.length = batch.length ∧ report.Agrees after := by
  obtain ⟨options, value, hexecuting, hreport, hleft⟩ := executing_of_report? h
  rw [hleft]
  generalize Effect.transactionCalls _ = calls at hexecuting
  cases hexecuting with
  | refused => exact nomatch hreport
  | panicked => exact nomatch hreport
  | lost => exact nomatch hreport
  | made transaction hprepared hreached hround engine =>
    obtain rfl := Except.ok.inj (Answer.returned.inj hreport)
    exact ⟨_, rfl, hround.length_things, Batch.agrees_of_outcomes rfl rfl⟩

/-- An executed batch is not reported on again. -/
theorem report?_of_executed
    (hexecuted : ∃ transaction error, batch.phase = .executed transaction error)
    (call : OnBatch) (shared : SharedTransaction σ) :
    (call.perform batch shared).value.1.report? = none := by
  obtain ⟨reached, error, hexecuted⟩ := hexecuted
  refine Option.eq_none_iff_forall_ne_some.mpr fun report h => ?_
  obtain ⟨options, value, hexecuting, hreport, -⟩ := executing_of_report? h
  generalize Effect.transactionCalls _ = calls at hexecuting
  cases hexecuting with
  | made transaction hprepared => exact nomatch hexecuted.symm.trans hprepared
  | refused | panicked | lost => exact nomatch hreport

/-! ### Any sequence of calls -/

section Runs

variable [Memory] {session : Session σ} {name named : String} {batch : Batch}

/-- What is known of a call on a batch that is there. -/
theorem perform_batch (hbatch : session.batches name = some batch) (named : String)
    (call : OnBatch) :
    let performed := call.perform batch (session.transaction (batch.transaction?.getD named))
    (session.exchange (.batch name named call)).response = performed.value.1 ∧
      (session.exchange (.batch name named call)).effects = performed.effects ∧
      (session.next (.batch name named call)).batches =
        Function.update session.batches name performed.value.2.1 := by
  intro performed
  have hperform : (session.perform (.batch name named call)).value =
      (performed.value.1, (session.setBatch name performed.value.2.1).setTransaction
        (batch.transaction?.getD named) performed.value.2.2) ∧
      (session.perform (.batch name named call)).effects = performed.effects := by
    rw [perform, hbatch]
    exact ⟨rfl, List.append_nil _⟩
  rw [exchange, next, hperform.1, hperform.2]
  exact ⟨rfl, rfl, rfl⟩

/-- A call on a batch that is not there does nothing. -/
theorem perform_missing (hbatch : session.batches name = none) (named : String) (call : OnBatch) :
    (session.exchange (.batch name named call)).response = .impossible ∧
      (session.exchange (.batch name named call)).effects = [] ∧
      session.next (.batch name named call) = session := by
  rw [exchange, next, perform, hbatch]
  exact ⟨rfl, rfl, rfl⟩

/-- Under the name of a batch nothing changes, but by making it and by the calls on it. -/
theorem batches_next_of_untouched {call : Call σ}
    (hnew : ∀ operations, call ≠ .newBatch name operations)
    (hcall : ∀ named made, call ≠ .batch name named made) :
    (session.next call).batches name = session.batches name := by
  cases call with
  | newBuilder other =>
    rw [next, perform]
    split <;> rfl
  | builder other call =>
    rw [next, perform]
    split <;> rfl
  | prepare other root query =>
    rw [next, perform]
    split
    · rfl
    · simp [setBuilder]
  | compile chain query => simp [next, perform]
  | newExecutor other query config =>
    rw [next, perform]
    split <;> rfl
  | executor other named call =>
    rw [next, perform]
    split <;> rfl
  | newBatch other operations =>
    have hne : name ≠ other := by
      rintro rfl
      exact hnew operations rfl
    rw [next, perform]
    split
    · rfl
    · exact Function.update_of_ne hne _ _
  | batch other named made =>
    have hne : name ≠ other := by
      rintro rfl
      exact hcall named made rfl
    cases hother : session.batches other with
    | none =>
      rw [next, perform, hother]
      rfl
    | some found => rw [(perform_batch hother named made).2.2, Function.update_of_ne hne]
  | transaction id call => rfl

/-- Only the calls on a batch change it. -/
theorem batches_next_of_other (hbatch : session.batches name = some batch) {call : Call σ}
    (hcall : ∀ named made, call ≠ .batch name named made) :
    (session.next call).batches name = some batch := by
  by_cases hnew : ∃ operations, call = .newBatch name operations
  · obtain ⟨operations, rfl⟩ := hnew
    rw [next, perform, hbatch]
    exact hbatch
  · rw [batches_next_of_untouched (not_exists.mp hnew) hcall, hbatch]

/-- No call in a session changes an executed batch. -/
theorem batches_next (hbatch : session.batches name = some batch)
    (hexecuted : ∃ transaction error, batch.phase = .executed transaction error) (call : Call σ) :
    (session.next call).batches name = some batch := by
  by_cases hcall : ∃ named made, call = .batch name named made
  · obtain ⟨named, made, rfl⟩ := hcall
    rw [(perform_batch hbatch named made).2.2, Function.update_self]
    exact keeps_executed hexecuted made _
  · exact batches_next_of_other hbatch fun named made h => hcall ⟨named, made, h⟩

theorem batches_after (hbatch : session.batches name = some batch)
    (hexecuted : ∃ transaction error, batch.phase = .executed transaction error)
    (calls : List (Call σ)) : (session.after calls).batches name = some batch := by
  induction calls generalizing session with
  | nil => exact hbatch
  | cons call calls ih => exact ih (batches_next hbatch hexecuted call)

end Runs

end Session

/-- A call in a session in which a batch stands as it is: the batch tells what it told before, and
nothing that is done with it is counted. -/
structure Session.Exchange.Stands (name : String) (batch : Batch) (exchange : Exchange σ) :
    Prop where
  outcome : ∀ named n, exchange.call = .batch name named (.outcome n) →
    exchange.response = .outcome (batch.outcome n)
  entryError : ∀ named n, exchange.call = .batch name named (.entryError n) →
    exchange.response = .entryError (batch.error? n)
  uncounted : ∀ named call, exchange.call = .batch name named call →
    total .batchEntryFailures exchange.effects = 0

namespace Session

section Runs

variable [Memory] [Engine σ] {session : Session σ} {name named : String} {batch : Batch}

theorem stands_exchange (hbatch : session.batches name = some batch)
    (hexecuted : ∃ transaction error, batch.phase = .executed transaction error) (call : Call σ) :
    (session.exchange call).Stands name batch where
  outcome named n hcall := by
    obtain rfl : call = .batch name named (.outcome n) := hcall
    exact (perform_batch hbatch named (.outcome n)).1
  entryError named n hcall := by
    obtain rfl : call = .batch name named (.entryError n) := hcall
    exact (perform_batch hbatch named (.entryError n)).1
  uncounted named made hcall := by
    obtain rfl : call = .batch name named made := hcall
    rw [(perform_batch hbatch named made).2.1, counted_perform,
      report?_of_executed hexecuted made]
    rfl

/-- **Outcomes are frozen.** If a call on a batch is answered with a report, the batch has as many
entries as before and agrees with the report, and the failures of the report are counted. Whatever
clients do after that, the batch stays as it is: it answers as the report says, and no failure is
counted for it again. -/
theorem outcomes_frozen {call : OnBatch} {report : Report}
    (hreport : (session.exchange (.batch name named call)).response.report? = some report) :
    ∃ before batch, session.batches name = some before ∧ batch.length = before.length ∧
      report.Agrees batch ∧
      total .batchEntryFailures (session.exchange (.batch name named call)).effects =
        report.failures ∧
      ∀ later : List (Call σ),
        let executed := session.next (.batch name named call)
        (executed.after later).batches name = some batch ∧
          ∀ exchange ∈ executed.exchanges later, exchange.Stands name batch := by
  cases hbefore : session.batches name with
  | none =>
    rw [exchange, perform, hbefore] at hreport
    exact nomatch hreport
  | some before =>
    obtain ⟨hresponse, heffects, hbatches⟩ := perform_batch hbefore named call
    rw [hresponse] at hreport
    obtain ⟨batch, hleft, hlength, hagrees⟩ := agrees_of_report? hreport
    have hexecuted : ∃ transaction error, batch.phase = .executed transaction error :=
      hagrees.executed.imp fun _ h => ⟨_, h⟩
    have hthere : (session.next (.batch name named call)).batches name = some batch := by
      rw [hbatches, Function.update_self, hleft]
    refine ⟨before, batch, rfl, hlength, hagrees, ?_, fun later => ?_⟩
    · rw [heffects, counted_perform, hreport]
      rfl
    · refine ⟨batches_after hthere hexecuted later, fun exchange hexchange => ?_⟩
      obtain ⟨n, hn⟩ := List.mem_iff_getElem?.mp hexchange
      rw [getElem?_exchanges] at hn
      obtain ⟨made, -, rfl⟩ := Option.map_eq_some_iff.mp hn
      exact stands_exchange (batches_after hthere hexecuted _) hexecuted made

end Runs

/-- Two orders, of which the second one fails. Afterwards somebody records an error for the first
one, and hands the batch over once more. -/
theorem outcomes_frozen_orders :
    let session := (⟨fun _ => none, fun _ => none, fun _ => none, fun _ => none,
      fun _ => Batch.ordersTransaction [] [([2], .duplicateKey)]⟩ : Session Playback).after [
        .newBatch "orders" [Batch.insertOrder 1, Batch.insertOrder 2],
        .batch "orders" "tx" (.plain .prepare)]
    let options : RoundTrip := ⟨.commit, .operationDefault, .deferred⟩
    let execute : Call Playback := .batch "orders" "tx" (.plain (.execute options))
    let report : Report := ⟨.commit, [.success, .operation .duplicateKey], none⟩
    (session.exchange execute).response.report? = some report ∧
      total .batchEntryFailures (session.exchange execute).effects = 1 ∧
      ∃ batch, ((session.next execute).after [
          .batch "orders" "tx" (.plain (.setError 0 .noDataFound)),
          .batch "orders" "tx" (.submit none options)]).batches "orders" = some batch ∧
        batch.outcome 0 = .ok .success ∧ batch.error? 1 = .ok (some .duplicateKey) ∧
        batch.outcome 2 = .error (.entryOutOfRange 2 2) := by
  intro session options execute report
  have hreport : (session.exchange execute).response.report? = some report := rfl
  obtain ⟨before, batch, -, -, hagrees, hcounted, hlater⟩ := outcomes_frozen hreport
  have hlength : batch.length = 2 := hagrees.length_outcomes.symm
  refine ⟨hreport, hcounted, batch, (hlater _).1, (hagrees.outcome 0 _ rfl).1,
    (hagrees.outcome 1 _ rfl).2, ?_⟩
  exact hlength ▸ (hagrees.out_of_range 2 (Nat.le_of_eq hlength)).1

end Session

end StorageClient
