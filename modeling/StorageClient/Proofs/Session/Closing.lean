import StorageClient.Proofs.Batch.Closing
import StorageClient.Proofs.Session.Calls
/-!
# StorageClient.Proofs.Session.Closing

When a transaction is recorded as closed, in a session with any number of clients. A call on a
transaction closes it (`Exchange.closes`) if it records the end, if it releases the transaction, or
if it makes a round trip for a batch that is to commit or to roll back, and the round trip returns.
No other call does, and no call undoes it.

That a transaction is over is told once, by the first call that closes it.
-/

namespace StorageClient

open Effect (announcements Discreet tripReturned linesTo)

/-- Whether a line says that a transaction is over. -/
def Line.tellsOf (transaction : String) (line : Line) : Bool :=
  line.event == Event.transactionClosed.name &&
    line.fields.contains ("transaction", .text transaction)

/-- The lines on standard output that say that a transaction is over, from a sink with a
threshold. -/
def Effect.toldOf (threshold : Severity) (transaction : String) (effects : List Effect) :
    List Line :=
  (linesTo threshold .output effects).filter (Line.tellsOf transaction)

variable {σ : Type}

theorem tellsOf_closedLine (transaction other : String) :
    (closedLine transaction).tellsOf other = (transaction == other) := by
  by_cases h : transaction = other
  · simp [Line.tellsOf, closedLine, Event.line, Event.isFailure, Line.output, h]
  · simp [Line.tellsOf, closedLine, Event.line, Event.isFailure, Line.output, h, Ne.symm h]

/-- A sink that keeps normal operation keeps the line about the end of a transaction. -/
theorem toldOf_of_latched {threshold : Severity} (henabled : threshold ≤ .info) {closes : Bool}
    {before after : SharedTransaction σ} {effects : List Effect}
    (h : Latched closes before after effects) (id : String) :
    Effect.toldOf threshold id effects =
      if (before.id == id && closes) && !before.closed then [closedLine id] else [] := by
  have hannounced : Effect.toldOf threshold id effects = (announcements effects).filter
      fun line => line.tellsOf id && (line.stream == .output && line.passes threshold) := by
    rw [Effect.toldOf, linesTo, announcements, List.filter_filter, List.filter_filter]
    refine List.filter_congr fun line _ => ?_
    cases hevent : line.event == Event.transactionClosed.name <;> simp [Line.tellsOf, hevent]
  have hkept : (closedLine before.id).passes threshold = true := decide_eq_true henabled
  rw [hannounced, h.announced, Bool.and_assoc]
  cases closes && !before.closed with
  | false => simp
  | true =>
    have houtput : (closedLine before.id).stream = .output := rfl
    by_cases hid : before.id = id
    · subst hid
      simp [tellsOf_closedLine, hkept, houtput]
    · simp [tellsOf_closedLine, hid]

@[simp] theorem toldOf_append (threshold : Severity) (id : String) (a b : List Effect) :
    Effect.toldOf threshold id (a ++ b) =
      Effect.toldOf threshold id a ++ Effect.toldOf threshold id b := by
  simp [Effect.toldOf]

namespace Session

/-! ### Calls that close a transaction -/

/-- Whether a call on a batch closes the transaction. -/
def OnBatch.closes (call : OnBatch) (effects : List Effect) : Bool :=
  call.options?.any fun options => options.exec.closes && tripReturned effects

/-- Whether a call on a transaction closes it. -/
def OnTransaction.closes (response : Response) : OnTransaction σ → Bool
  | registerClose => true
  | close =>
    match response with
    | .transaction (.ok ()) => true
    | _ => false
  | isClosed | error | use _ => false

/-- Whether a call closes the transaction it is made on. -/
def Call.closes (response : Response) (effects : List Effect) : Call σ → Bool
  | batch _ _ call => call.closes effects
  | transaction _ call => call.closes response
  | _ => false

/-- Whether a call closes the transaction with an id. -/
def Exchange.closes (id : String) (exchange : Exchange σ) : Bool :=
  exchange.transaction? == some id && exchange.call.closes exchange.response exchange.effects

/-- The transactions of a session change one by one. -/
theorem transaction_setTransaction (session : Session σ) (touched id : String)
    (shared : SharedTransaction σ) : (session.setTransaction touched shared).transaction id =
      if id = touched then { shared with id } else session.transaction id := by
  by_cases h : id = touched
  · subst h
    simp [setTransaction, transaction]
  · simp [setTransaction, transaction, h]

/-- A call on a transaction closes it or not; if the transaction is poisoned, it does not. -/
structure Closing (closes : Bool) (before after : SharedTransaction σ) (effects : List Effect) :
    Prop where
  latched : Latched closes before after effects
  unreached : before.poisoned = true → closes = false

theorem closing_of_neutral {before after : SharedTransaction σ} {effects : List Effect}
    (h : Law.neutral.Allows before after effects) : Closing false before after effects :=
  ⟨Law.neutral.latched h, fun _ => rfl⟩

theorem closing_of_ran {call : OnBatch} {options : RoundTrip} {before after : SharedTransaction σ}
    {effects : List Effect} (hoptions : call.options? = some options)
    (h : Batch.Ran options before after effects) :
    Closing (call.closes effects) before after effects := by
  have hcloses : call.closes effects = (options.exec.closes && tripReturned effects) := by
    rw [OnBatch.closes, hoptions]
    rfl
  rw [hcloses]
  refine ⟨h.latched, fun hpoisoned => ?_⟩
  rw [h.unreached hpoisoned, Bool.and_false]

/-! ### One call -/

variable [Engine σ]

theorem neutral_onExecutor [Memory] (call : OnExecutor) (executor : Executor)
    (shared : SharedTransaction σ) :
    Law.neutral.Allows shared (call.perform executor shared).value.2.2
      (call.perform executor shared).effects := by
  have hsetUp : ∀ changed?, Law.neutral.Allows shared
      (OnExecutor.perform.setUp executor shared changed?).value.2.2
        (OnExecutor.perform.setUp executor shared changed?).effects := by
    intro changed?
    cases changed? <;> exact Law.neutral.rest shared
  cases call with
  | createRowBuffer level record => exact hsetUp _
  | markJoinOnly level => exact hsetUp _
  | createQuery => simpa [OnExecutor.perform] using Executor.neutral_createQuery (executor, shared)
  | run => simpa [OnExecutor.perform] using Executor.neutral_run (executor, shared)
  | runOnTask task =>
    have hneutral := Executor.neutral_runOnTask task executor shared
    rcases hrun : Executor.runOnTask task executor shared with ⟨⟨_ | ⟨_, _⟩, shared'⟩, effects⟩ <;>
      rw [hrun] at hneutral <;> simpa [OnExecutor.perform, hrun] using hneutral
  | fetchAll =>
    have hneutral : Law.neutral.Allows shared shared (Executor.fetchAll executor).effects :=
      ⟨rfl, Executor.discreet_fetchAll executor⟩
    simpa [OnExecutor.perform] using hneutral
  | close | drop =>
    have hneutral : Law.neutral.Allows shared shared (Executor.close executor).effects :=
      ⟨rfl, Executor.discreet_close executor⟩
    simpa [OnExecutor.perform] using hneutral
  | takeData index => exact Law.neutral.rest shared

theorem closing_onBatch (call : OnBatch) (batch : Batch) (shared : SharedTransaction σ) :
    Closing (call.closes (call.perform batch shared).effects) shared
      (call.perform batch shared).value.2.2 (call.perform batch shared).effects := by
  cases call with
  | plain request =>
    cases request with
    | setError n error => exact closing_of_neutral (Law.neutral.rest shared)
    | prepare =>
      refine closing_of_neutral ?_
      simpa [OnBatch.perform, Batch.Request.perform, Batch.telling] using
        Batch.neutral_prepare (batch, shared)
    | tryStart =>
      refine closing_of_neutral ?_
      simpa [OnBatch.perform, Batch.Request.perform, Batch.telling] using
        Batch.neutral_tryStart (batch, shared)
    | execute options =>
      refine closing_of_ran rfl ?_
      simpa [OnBatch.perform, Batch.Request.perform, Batch.telling] using
        Batch.ran_execute options batch shared
    | executeAwaited task options =>
      refine closing_of_ran rfl ?_
      simpa [OnBatch.perform, Batch.Request.perform, Batch.telling] using
        Batch.ran_executeAwaited task options batch shared
  | submit task options =>
    refine closing_of_ran rfl ?_
    simpa [OnBatch.perform] using Batch.ran_submit task options batch shared
  | abandon options =>
    refine closing_of_ran rfl ?_
    simpa [OnBatch.perform] using Batch.ran_executeAbandoned options batch shared
  | outcome | entryError | blobResults =>
    exact closing_of_neutral (Law.neutral.rest shared)

/-- Only recording the end closes a poisoned transaction. -/
theorem latched_onTransaction (call : OnTransaction σ) (shared : SharedTransaction σ) :
    let performed := call.perform shared
    Latched (call.closes performed.value.1) shared performed.value.2 performed.effects ∧
      (shared.poisoned = true → call.closes performed.value.1 = true → call = .registerClose) := by
  cases call with
  | isClosed => exact ⟨Law.neutral.latched (Law.neutral.rest shared), nofun⟩
  | error =>
    refine ⟨Law.neutral.latched ?_, nofun⟩
    simpa [OnTransaction.perform] using SharedTransaction.neutral_error shared
  | registerClose =>
    refine ⟨?_, fun _ _ => rfl⟩
    simpa [OnTransaction.perform, OnTransaction.closes] using
      SharedTransaction.latched_registerClose shared
  | close =>
    have hlatched := SharedTransaction.latched_close shared
    refine ⟨?_, fun hpoisoned hcloses => ?_⟩
    · rcases hclose : SharedTransaction.close shared with
        ⟨⟨(refusal | ⟨⟩) | text, after⟩, effects⟩ <;>
        rw [hclose] at hlatched <;>
        simpa [OnTransaction.perform, hclose, Response.of, OnTransaction.closes,
          SharedTransaction.released] using hlatched
    · simp [OnTransaction.perform, SharedTransaction.close_of_poisoned hpoisoned, Response.of,
        OnTransaction.closes] at hcloses
  | use body =>
    refine ⟨Law.neutral.latched ?_, nofun⟩
    have hbody : Action.Obeys (.emits Discreet) (fun engine => ⟨body engine, []⟩ : Action σ Unit) :=
      fun _ _ hmem => absurd hmem List.not_mem_nil
    simpa [OnTransaction.perform] using Action.Obeys.use hbody shared

/-! ### Any sequence of calls -/

section Memory

variable [Memory]

/-- What a call does to the record that the transaction with an id is over. -/
structure Records (id : String) (session : Session σ) (call : Call σ) : Prop where
  closed : ((session.next call).transaction id).closed =
    ((session.transaction id).closed || (session.exchange call).closes id)
  told : ∀ threshold ≤ Severity.info, Effect.toldOf threshold id (session.exchange call).effects =
    if (session.exchange call).closes id && !(session.transaction id).closed then [closedLine id]
    else []
  unreached : (session.transaction id).poisoned = true →
    (session.exchange call).closes id = true → call = .transaction id .registerClose

section Records

variable {id touched : String} {session after : Session σ} {call : Call σ}

theorem records_of_touched {shared : SharedTransaction σ} {response : Response}
    {effects : List Effect}
    (hperform : session.perform call = ⟨(response, after.setTransaction touched shared), effects⟩)
    (hothers : after.transactions = session.transactions)
    (htouched : call.transaction? session = some touched)
    (hlatched : Latched (call.closes response effects) (session.transaction touched) shared effects)
    (hunreached : (session.transaction touched).poisoned = true →
      call.closes response effects = true → call = .transaction touched .registerClose) :
    Records id session call := by
  have hexchange : session.exchange call = ⟨call, some touched, response, effects⟩ := by
    rw [exchange, hperform, htouched]
  have hnext : (session.next call).transaction id =
      if id = touched then { shared with id } else session.transaction id := by
    rw [next, hperform, transaction_setTransaction, transaction, hothers, ← transaction]
  have hcloses : (session.exchange call).closes id =
      (touched == id && call.closes response effects) := by
    rw [hexchange]
    rfl
  have htold (threshold) (henabled : threshold ≤ Severity.info) :=
    toldOf_of_latched henabled hlatched id
  by_cases hid : id = touched
  · subst hid
    rw [beq_self_eq_true, Bool.true_and] at hcloses
    rw [if_pos rfl] at hnext
    refine ⟨?_, fun threshold henabled => ?_, fun hpoisoned hclosed => ?_⟩
    · rw [hnext, hcloses]
      exact hlatched.closed
    · rw [hcloses, hexchange, htold threshold henabled]
      simp [transaction]
    · exact hunreached hpoisoned (hcloses ▸ hclosed)
  · have hother : (touched == id) = false := beq_eq_false_iff_ne.mpr (Ne.symm hid)
    rw [hother, Bool.false_and] at hcloses
    rw [if_neg hid] at hnext
    refine ⟨?_, fun threshold henabled => ?_, fun _ hclosed => ?_⟩
    · rw [hnext, hcloses, Bool.or_false]
    · rw [hcloses, hexchange, htold threshold henabled]
      simp [transaction, hother]
    · exact nomatch hcloses.symm.trans hclosed

/-- A call that changes no transaction and is discreet records nothing. -/
theorem records_of_untouched
    (hcloses : call.closes (session.exchange call).response (session.exchange call).effects = false)
    (hafter : (session.next call).transactions = session.transactions)
    (hdiscreet : (session.perform call).Emits Discreet) : Records id session call := by
  have hnext : (session.next call).transaction id = session.transaction id := by
    rw [transaction, hafter, ← transaction]
  have hneutral : Law.neutral.Allows (session.transaction id) (session.transaction id)
      (session.exchange call).effects := ⟨rfl, hdiscreet⟩
  have hclosing : (session.exchange call).closes id = false := by
    rw [Exchange.closes]
    exact (congrArg _ hcloses).trans (Bool.and_false _)
  refine ⟨?_, fun threshold henabled => ?_, fun _ hclosed => ?_⟩
  · rw [hnext, hclosing, Bool.or_false]
  · rw [hclosing, toldOf_of_latched henabled (Law.neutral.latched hneutral), Bool.and_false]
  · exact nomatch hclosing.symm.trans hclosed

/-- An impossible call does nothing. -/
theorem records_of_impossible (h : session.perform call = pure (.impossible, session))
    (hcloses : call.closes .impossible [] = false) : Records id session call := by
  refine records_of_untouched ?_ ?_ ?_
  · rw [exchange, h]
    exact hcloses
  · rw [next, h]
    rfl
  · rw [h]
    exact .pure _

theorem records (id : String) (session : Session σ) (call : Call σ) : Records id session call := by
  cases call with
  | newBuilder name =>
    refine records_of_untouched rfl ?_ ?_
    · rw [next, perform]
      split <;> rfl
    · rw [perform]
      split <;> exact .pure _
  | builder name call =>
    refine records_of_untouched rfl ?_ ?_
    · rw [next, perform]
      split <;> rfl
    · rw [perform]
      split
      · exact .pure _
      · exact .bind (Builder.discreet_perform _ _) fun _ => .pure _
  | prepare name root query =>
    refine records_of_untouched rfl ?_ ?_
    · rw [next, perform]
      split
      · rfl
      · exact transactions_keepQuery ..
    · rw [perform]
      split
      · exact .pure _
      · exact .bind (Builder.discreet_prepare _ _ _) fun _ => .pure _
  | compile chain query =>
    exact records_of_untouched rfl (transactions_keepQuery ..)
      (.bind (Chain.discreet_compile _ _) fun _ => .pure _)
  | newExecutor name query config =>
    refine records_of_untouched rfl ?_ ?_
    · rw [next, perform]
      split <;> rfl
    · rw [perform]
      split <;> exact .pure _
  | newBatch name operations =>
    refine records_of_untouched rfl ?_ ?_
    · rw [next, perform]
      split <;> rfl
    · rw [perform]
      split <;> exact .pure _
  | executor name named call =>
    cases h : session.executors name with
    | none => exact records_of_impossible (by rw [perform, h]) rfl
    | some executor =>
      have hneutral := neutral_onExecutor call executor (session.transaction named)
      rcases hcall : call.perform executor (session.transaction named) with
        ⟨⟨response, left, shared⟩, effects⟩
      have hperform : session.perform (.executor name named call) =
          ⟨(response, (session.setExecutor name left).setTransaction named shared), effects⟩ := by
        rw [perform, h]
        simp [hcall, bind, Traced.bind]
      rw [hcall] at hneutral
      exact records_of_touched hperform rfl rfl (Law.neutral.latched hneutral)
        fun _ hcloses => absurd hcloses Bool.false_ne_true
  | batch name named call =>
    cases h : session.batches name with
    | none =>
      refine records_of_impossible (by rw [perform, h]) ?_
      cases hoptions : call.options? <;> simp [Call.closes, OnBatch.closes, tripReturned, hoptions]
    | some batch =>
      generalize hid : batch.transaction?.getD named = touched
      have hclosing := closing_onBatch call batch (session.transaction touched)
      rcases hcall : call.perform batch (session.transaction touched) with
        ⟨⟨response, left, shared⟩, effects⟩
      have hperform : session.perform (.batch name named call) =
          ⟨(response, (session.setBatch name left).setTransaction touched shared), effects⟩ := by
        rw [perform, h]
        simp [hid, hcall, bind, Traced.bind]
      have htouched : Call.transaction? session (.batch name named call) = some touched := by
        rw [Call.transaction?, h, ← hid]
        rfl
      rw [hcall] at hclosing
      exact records_of_touched hperform rfl htouched hclosing.latched fun hpoisoned hcloses =>
        absurd ((hclosing.unreached hpoisoned).symm.trans hcloses) Bool.false_ne_true
  | transaction touched call =>
    obtain ⟨hlatched, hunreached⟩ := latched_onTransaction call (session.transaction touched)
    rcases hcall : call.perform (session.transaction touched) with ⟨⟨response, shared⟩, effects⟩
    have hperform : session.perform (.transaction touched call) =
        ⟨(response, session.setTransaction touched shared), effects⟩ := by
      simp [perform, hcall, bind, Traced.bind]
    rw [hcall] at hlatched hunreached
    refine records_of_touched hperform rfl rfl hlatched fun hpoisoned hcloses => ?_
    rw [hunreached hpoisoned hcloses]

end Records

section Runs

variable (id : String) (session : Session σ) (calls : List (Call σ))

/-- A transaction is closed by the first call that closes it, and stays so. -/
theorem closed_after (n : Nat) : ((session.after (calls.take n)).transaction id).closed =
    ((session.transaction id).closed ||
      ((session.exchanges calls).take n).any (Exchange.closes id)) := by
  induction calls generalizing session n with
  | nil => simp [after, exchanges]
  | cons call calls ih =>
    cases n with
    | zero => simp [after]
    | succ n =>
      rw [List.take_succ_cons, after_cons, ih, (records id session call).closed, exchanges,
        List.take_succ_cons, List.any_cons, Bool.or_assoc]

theorem toldOf_exchanges {threshold : Severity} (henabled : threshold ≤ .info) :
    Effect.toldOf threshold id ((session.exchanges calls).flatMap Exchange.effects) =
      if (session.exchanges calls).any (Exchange.closes id) && !(session.transaction id).closed
      then [closedLine id] else [] := by
  induction calls generalizing session with
  | nil => rfl
  | cons call calls ih =>
    obtain ⟨hclosed, htold, -⟩ := records id session call
    rw [exchanges, List.flatMap_cons, toldOf_append, htold threshold henabled, ih, hclosed,
      List.any_cons]
    cases (session.exchange call).closes id <;> cases (session.transaction id).closed <;> simp

end Runs

end Memory

end Session

end StorageClient
