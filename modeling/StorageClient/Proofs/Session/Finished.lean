import StorageClient.Proofs.Session.Reports
/-!
# StorageClient.Proofs.Session.Finished

What a batch that was reported on still does with its transaction. The batch stays bound, and the
transaction may be over by then, or be used by others.

Every call that needs a batch in an earlier phase is refused, and does nothing at all
(`OnBatch.required?`, `perform_of_required`). Asking for what came of the entries does not touch the
transaction either.

One call does: `tryStart` only looks whether the batch is bound, and so asks the transaction to
start after its round trip as it did before (`asked_although_finished`).
-/

namespace StorageClient

open Effect (transactionCalls)

variable {σ : Type}

namespace Session

/-- The phases in which a batch can take a call, if it has to be in an earlier one than the last,
with the name the call has in a refusal. -/
def OnBatch.required? : OnBatch → Option (BatchCall × String)
  | plain (.setError ..) => some (.setError, "BUILT or PREPARED")
  | plain .prepare => some (.prepare, "BUILT")
  | plain (.execute _) | submit none _ => some (.execute, "PREPARED")
  | plain (.executeAwaited ..) | submit (some _) _ | abandon _ => some (.executeAwaited, "PREPARED")
  | plain .tryStart | outcome _ | entryError _ | blobResults _ => none

/-- What `tryStart` asks a transaction for: to start, with the first operation of the batch. -/
def hint (batch : Batch) : Option KeyOperation := batch.entries.head?.map Entry.operation

/-- The error that a call on a batch is answered with, or that comes with a batch that was handed
back. -/
def Response.refusal? : Response → Option BatchError
  | .batch (.error refusal) => some refusal
  | .submission handed => handed.notifications.head?.bind fun notification =>
    match notification.result with
    | .error refusal => some refusal
    | .ok _ => none
  | _ => none

variable [Engine σ] {batch : Batch} {transaction : String}

/-! ### One call -/

/-- A call that comes too late is refused, and nothing happens. -/
theorem perform_of_required {error : Option EngineError} {call : OnBatch} {refused : BatchCall}
    {required : String} (hexecuted : batch.phase = .executed transaction error)
    (hrequired : call.required? = some (refused, required)) (shared : SharedTransaction σ) :
    (call.perform batch shared).value.1.refusal? =
        some (.illegalState refused "EXECUTED" required) ∧
      (call.perform batch shared).effects = [] := by
  obtain ⟨entries, phase⟩ := batch
  obtain rfl : phase = .executed transaction error := hexecuted
  cases call with
  | plain request =>
    cases request with
    | tryStart => exact nomatch hrequired
    | setError | prepare | execute | executeAwaited =>
      cases hrequired
      exact ⟨rfl, rfl⟩
  | submit task options =>
    cases task <;> cases hrequired <;> exact ⟨rfl, rfl⟩
  | abandon options =>
    cases hrequired
    exact ⟨rfl, rfl⟩
  | outcome | entryError | blobResults => exact nomatch hrequired

/-- A finished batch makes no call on its transaction but `tryStart`. -/
theorem transactionCalls_of_executed {error : Option EngineError} {call : OnBatch}
    (hexecuted : batch.phase = .executed transaction error) (hcall : call ≠ .plain .tryStart)
    (shared : SharedTransaction σ) :
    transactionCalls (call.perform batch shared).effects = [] := by
  cases hrequired : call.required? with
  | some required =>
    rw [(perform_of_required hexecuted hrequired shared).2]
    rfl
  | none =>
    cases call with
    | plain request =>
      cases request with
      | tryStart => exact absurd rfl hcall
      | setError | prepare | execute | executeAwaited => exact nomatch hrequired
    | submit task options => cases task <;> exact nomatch hrequired
    | abandon options => exact nomatch hrequired
    | outcome | entryError | blobResults => rfl

/-- Asking a bound batch to start asks its transaction, whatever the phase, unless the transaction
cannot be used. -/
theorem perform_tryStart (hbound : batch.transaction? = some transaction)
    (shared : SharedTransaction σ) :
    let performed := (OnBatch.plain .tryStart).perform batch shared
    let answer := (Engine.tryStart (hint batch) shared.engine).1
    (shared.poisoned = true →
      performed.value.1 = .batch (.error (.transaction .lockPoisoned)) ∧
        performed.effects = []) ∧
    (shared.poisoned = false →
      performed.value.1 = .of (fun now => .batch (.ok (.started now))) answer ∧
        performed.effects = [.transaction (.tryStart (hint batch) answer)]) := by
  intro performed answer
  have hperformed : performed = _ := perform_plain .tryStart batch shared
  constructor
  · intro hpoisoned
    have hstart : Batch.tryStart (batch, shared) =
        ⟨(.returned (.error (.transaction .lockPoisoned)), batch, shared), []⟩ := by
      simp [Batch.tryStart, Action.bind_apply, Traced.bind, hbound, SharedTransaction.use,
        SharedTransaction.useWith_of_poisoned _ _ hpoisoned]
    simp [hperformed, Batch.Request.perform, Batch.telling, hstart, Response.of, Answer.map,
      Except.map]
  · intro hreached
    rcases hask : Engine.tryStart (hint batch) shared.engine with ⟨now | text, engine⟩
    all_goals
      have hanswer : answer = _ := congrArg Prod.fst hask
      rw [hint] at hask
      simp [hperformed, Batch.Request.perform, Batch.telling, Batch.tryStart, Action.bind_apply,
        Traced.bind, hbound, SharedTransaction.use, SharedTransaction.useWith, hreached,
        Transaction.tryStart, Transaction.call, hask, hanswer, Response.of, Answer.map, Except.map,
        hint]

/-! ### Any sequence of calls -/

end Session

/-- A call in a session in which a batch is finished, and its transaction is in the state `shared`.
Calls on the batch that need it in an earlier phase are refused and do nothing, and no other call on
it reaches a transaction, except that the transaction may be asked to start. -/
structure Session.Exchange.Rests (name : String) (batch : Batch) [Engine σ]
    (shared : SharedTransaction σ) (exchange : Exchange σ) : Prop where
  silent : ∀ named made, exchange.call = .batch name named made → made ≠ .plain .tryStart →
    transactionCalls exchange.effects = []
  refused : ∀ named made call required, exchange.call = .batch name named made →
    made.required? = some (call, required) →
    exchange.response.refusal? = some (.illegalState call "EXECUTED" required) ∧
      exchange.effects = []
  poisoned : ∀ named, exchange.call = .batch name named (.plain .tryStart) →
    shared.poisoned = true →
    exchange.response = .batch (.error (.transaction .lockPoisoned)) ∧ exchange.effects = []
  asked : ∀ named, exchange.call = .batch name named (.plain .tryStart) →
    shared.poisoned = false →
    let answer := (Engine.tryStart (hint batch) shared.engine).1
    exchange.response = .of (fun now => .batch (.ok (.started now))) answer ∧
      exchange.effects = [.transaction (.tryStart (hint batch) answer)]

namespace Session

section Runs

variable [Memory] [Engine σ] {session : Session σ} {name named : String} {batch : Batch}
  {transaction : String}

theorem rests_exchange {error : Option EngineError} (hbatch : session.batches name = some batch)
    (hexecuted : batch.phase = .executed transaction error) (call : Call σ) :
    (session.exchange call).Rests name batch (session.transaction transaction) := by
  have hbound : batch.transaction? = some transaction := by
    rw [Batch.transaction?, hexecuted]
    rfl
  have hreached (named : String) : batch.transaction?.getD named = transaction := by
    rw [hbound, Option.getD_some]
  refine ⟨fun named made hcall hmade => ?_, fun named made refused required hcall hrequired => ?_,
    fun named hcall hpoisoned => ?_, fun named hcall hreachable => ?_⟩ <;>
    obtain rfl : call = .batch name named _ := hcall <;>
    obtain ⟨hresponse, heffects, -⟩ := perform_batch hbatch named _
  · rw [heffects]
    exact transactionCalls_of_executed hexecuted hmade _
  · rw [hresponse, heffects]
    exact perform_of_required hexecuted hrequired _
  · rw [hresponse, heffects, hreached]
    exact (perform_tryStart hbound _).1 hpoisoned
  · rw [hresponse, heffects, hreached]
    exact (perform_tryStart hbound _).2 hreachable

/-- **A finished batch leaves its transaction alone**, but for being asked to start it. If a call on
a batch is answered with a report, then whatever clients do after that, calls on the batch that
would need it in an earlier phase are refused, and no call on it reaches a transaction. Asking it to
start reaches the transaction it was executed on, exactly once, unless that cannot be used. -/
theorem finished_batch_rests {call : OnBatch} {report : Report}
    (hreport : (session.exchange (.batch name named call)).response.report? = some report) :
    ∃ batch transaction, batch.transaction? = some transaction ∧
      ∀ (later : List (Call σ)) (made : Call σ),
        let present := (session.next (.batch name named call)).after later
        present.batches name = some batch ∧
          (present.exchange made).Rests name batch (present.transaction transaction) := by
  cases hbefore : session.batches name with
  | none =>
    rw [(perform_missing hbefore named call).1] at hreport
    exact nomatch hreport
  | some before =>
    obtain ⟨hresponse, -, hbatches⟩ := perform_batch hbefore named call
    rw [hresponse] at hreport
    obtain ⟨batch, hleft, -, hagrees⟩ := agrees_of_report? hreport
    obtain ⟨transaction, hexecuted⟩ := hagrees.executed
    have hthere : (session.next (.batch name named call)).batches name = some batch := by
      rw [hbatches, Function.update_self, hleft]
    refine ⟨batch, transaction, by rw [Batch.transaction?, hexecuted]; rfl, fun later made => ?_⟩
    have hstill := batches_after hthere ⟨transaction, _, hexecuted⟩ later
    exact ⟨hstill, rests_exchange hstill hexecuted made⟩

end Runs

section Orders

/-- A session in which one order was prepared. -/
def oneOrder : Session Playback :=
  (⟨fun _ => none, fun _ => none, fun _ => none, fun _ => none,
    fun _ => Batch.ordersTransaction [] []⟩ : Session Playback).after [
      .newBatch "orders" [Batch.insertOrder 1],
      .batch "orders" "tx" (.plain .prepare)]

/-- A call on the order, on the transaction it was prepared on. -/
def onOrder (call : OnBatch) : Call Playback := .batch "orders" "tx" call

/-- The call that commits the order. -/
def commitOrder : Call Playback :=
  onOrder (.plain (.execute ⟨.commit, .operationDefault, .deferred⟩))

/-- An order that was committed. Somebody asks what came of it, and hands the batch over once
more. -/
theorem finished_batch_rests_orders :
    let present := (oneOrder.next commitOrder).after [onOrder (.outcome 0)]
    let again := present.exchange
      (onOrder (.submit none ⟨.commit, .operationDefault, .deferred⟩))
    (oneOrder.exchange commitOrder).response.report? = some ⟨.commit, [.success], none⟩ ∧
      again.response.refusal? = some (.illegalState .execute "EXECUTED" "PREPARED") ∧
      transactionCalls again.effects = [] := by
  intro present again
  have hreport : (oneOrder.exchange commitOrder).response.report? =
      some ⟨.commit, [.success], none⟩ := rfl
  obtain ⟨batch, transaction, -, hrests⟩ := finished_batch_rests hreport
  obtain ⟨-, hrest⟩ := hrests [onOrder (.outcome 0)]
    (onOrder (.submit none ⟨.commit, .operationDefault, .deferred⟩))
  exact ⟨hreport, (hrest.refused _ _ _ _ rfl rfl).1, hrest.silent _ _ rfl nofun⟩

/-- The transaction of an order that was committed is asked to start, although it is over. -/
theorem asked_although_finished :
    let present := oneOrder.next commitOrder
    let started := present.exchange (onOrder (.plain .tryStart))
    (oneOrder.exchange commitOrder).response.report? = some ⟨.commit, [.success], none⟩ ∧
      (present.transaction "tx").closed = true ∧
      started.response = .batch (.ok (.started true)) ∧
      transactionCalls started.effects =
        [.tryStart (some (Batch.insertOrder 1)) (.returned true)] :=
  ⟨rfl, rfl, rfl, rfl⟩

end Orders

end Session

end StorageClient
