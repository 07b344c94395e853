import StorageClient.Proofs.Batch.Errors
import StorageClient.Proofs.Session.Reports
/-!
# StorageClient.Proofs.Session.Errors

Which errors clients are told of. Code 0 means that there is no error, and an error that was asked
for and has it is dropped. So is not an error that somebody hands over: a client that records one
for an entry, or the engine, when it refuses a definition or a round trip
(`Session.Exchange.handed`). These are told as they are (`Session.told_although_ok`).

Every error that is told of a batch is genuine or was handed over before (`Session.Sourced`). As
long as nobody hands over an error with code 0, the failures of a report are the entries with a
genuine error (`Session.told_errors_genuine`).
-/

namespace StorageClient

open Effect (refusals total)

variable {σ : Type}

/-- The errors that a report tells of. -/
def Report.errors (report : Report) : List EngineError :=
  report.outcomes.filterMap Outcome.error? ++ report.transactionError.toList

/-- Whether an entry has a genuine error. -/
def Outcome.failedGenuinely (outcome : Outcome) : Bool :=
  outcome.error?.any fun error => !error.isOk

/-- Without an error of code 0 in it, a report counts the entries with a genuine error. -/
theorem Report.failures_of_genuine {report : Report}
    (h : ∀ error ∈ report.errors, error.isOk = false) :
    report.failures = report.outcomes.countP Outcome.failedGenuinely := by
  rw [failures, ← List.countP_eq_length_filter]
  refine List.countP_congr fun outcome hmem => ?_
  have herror : ∀ error, outcome.error? = some error → error.isOk = false := fun error herror =>
    h error (List.mem_append_left _ (List.mem_filterMap.mpr ⟨outcome, hmem, herror⟩))
  rw [Outcome.failedGenuinely]
  cases outcome with
  | success => rfl
  | operation error | transaction error =>
    rw [Outcome.error?, Option.any_some, herror error rfl]
    rfl

namespace Session

/-- The errors that a call is answered with. -/
def Response.errors : Response → List EngineError
  | .outcome (.ok told) => told.error?.toList
  | .entryError (.ok told) => told.toList
  | response => response.report?.elim [] Report.errors

theorem errors_of_report? {response : Response} {report : Report}
    (h : response.report? = some report) : response.errors = report.errors := by
  cases response with
  | batch answer => rw [Response.errors, h, Option.elim_some] <;> exact nofun
  | submission handed => rw [Response.errors, h, Option.elim_some] <;> exact nofun
  | _ => exact nomatch h

section Calls

variable [Engine σ] {call : OnBatch} {batch after : Batch} {shared : SharedTransaction σ}
  {error : EngineError}

/-! ### One call -/

/-- The error that a client records with a call. -/
def OnBatch.recorded? : OnBatch → Response → Option EngineError
  | .plain (.setError _ error), .batch (.ok _) => some error
  | _, _ => none

/-- The errors that are handed over to a batch with a call on it: the one that a client records, and
those with which the engine refuses definitions or the round trip. -/
def OnBatch.handed (call : OnBatch) (response : Response) (effects : List Effect) :
    List EngineError :=
  (call.recorded? response).toList ++ refusals effects

theorem mem_handed_of_refused {response : Response} {effects : List Effect}
    (h : error ∈ refusals effects) : error ∈ call.handed response effects :=
  List.mem_append_right _ h

/-- The errors of a batch after a call were there before, or are genuine, or were handed over. -/
theorem carries_perform (hafter : (call.perform batch shared).value.2.1 = some after)
    (hcarries : after.CarriesError error) :
    batch.CarriesError error ∨ error.isOk = false ∨
      error ∈ call.handed (call.perform batch shared).value.1
        (call.perform batch shared).effects := by
  cases call with
  | plain request =>
    rw [perform_plain] at hafter ⊢
    obtain rfl := Option.some.inj hafter
    cases request with
    | setError n recorded =>
      change Batch.CarriesError ((batch.setError n recorded).toOption.getD batch) error at hcarries
      change _ ∨ _ ∨ error ∈ OnBatch.handed _
        (.batch ((batch.setError n recorded).map fun _ => Batch.Response.done)) []
      cases hset : batch.setError n recorded with
      | error refusal =>
        rw [hset] at hcarries
        exact .inl hcarries
      | ok marked =>
        rw [hset] at hcarries
        obtain hbefore | rfl := Batch.carries_setError hset hcarries
        · exact .inl hbefore
        · exact .inr (.inr (List.mem_singleton_self _))
    | prepare =>
      exact (Batch.carries_prepare batch shared error hcarries).imp_right
        (.imp_right mem_handed_of_refused)
    | tryStart =>
      change Batch.CarriesError (Batch.tryStart (batch, shared)).value.2.1 error at hcarries
      rw [Batch.batch_tryStart] at hcarries
      exact .inl hcarries
    | execute options =>
      exact (Batch.carries_run none options batch shared error hcarries).imp_right
        (.imp_right mem_handed_of_refused)
    | executeAwaited task options =>
      exact (Batch.carries_run (some task) options batch shared error hcarries).imp_right
        (.imp_right mem_handed_of_refused)
  | submit task options =>
    have hrun := Batch.carries_run task options batch shared error
    rcases hcame : Batch.run task options (batch, shared) with ⟨⟨result | text, after'⟩, effects⟩
    · rw [perform_submit_of_returned hcame] at hafter ⊢
      rw [hcame] at hrun
      obtain rfl := Option.some.inj hafter
      exact (hrun hcarries).imp_right (.imp_right mem_handed_of_refused)
    · rw [perform_submit_of_panicked hcame] at hafter
      exact nomatch hafter
  | abandon options =>
    rw [perform_abandon] at hafter
    obtain rfl := Option.some.inj hafter
    rw [Batch.batch_executeAbandoned] at hcarries
    exact .inl hcarries
  | outcome | entryError | blobResults =>
    obtain rfl := Option.some.inj hafter
    exact .inl hcarries

/-- The error of an entry is that of its outcome. -/
theorem errors_of_entryError (answer : Except BatchError Outcome) :
    Response.errors (.entryError (answer.map Outcome.error?)) =
      Response.errors (.outcome answer) := by
  cases answer <;> rfl

/-- What a batch is asked for is read off its entries. -/
theorem carries_of_asked {n : Nat} (hmem : error ∈ Response.errors (.outcome (batch.outcome n))) :
    batch.CarriesError error ∨ error.isOk = false := by
  cases hasked : batch.outcome n with
  | error refusal =>
    rw [hasked] at hmem
    exact nomatch hmem
  | ok outcome =>
    rw [hasked] at hmem
    have herror : outcome.error? = some error := Option.mem_toList.mp hmem
    rw [Batch.outcome, Batch.executedEntry] at hasked
    split at hasked
    · split at hasked
      · rename_i entry hentry
        obtain rfl := Except.ok.inj hasked
        exact Batch.carries_of_outcome (List.mem_of_getElem? hentry) herror
      · cases hasked
    · cases hasked
    · cases hasked

/-- What a report tells is carried by the batch from then on. -/
theorem carries_of_reported {report : Report}
    (hreport : (call.perform batch shared).value.1.report? = some report)
    (hmem : error ∈ report.errors) :
    ∃ after, (call.perform batch shared).value.2.1 = some after ∧
      (after.CarriesError error ∨ error.isOk = false) := by
  obtain ⟨options, value, hexecuting, htold, hleft⟩ := executing_of_report? hreport
  rw [hleft]
  refine ⟨_, rfl, ?_⟩
  generalize Effect.transactionCalls _ = calls at hexecuting
  cases hexecuting with
  | refused | panicked | lost => exact nomatch htold
  | made transaction hprepared hreached hround engine =>
    obtain rfl := Except.ok.inj (Answer.returned.inj htold)
    obtain houtcome | htransaction := List.mem_append.mp hmem
    · obtain ⟨outcome, hmem, herror⟩ := List.mem_filterMap.mp houtcome
      obtain ⟨entry, hentry, rfl⟩ := List.mem_map.mp hmem
      exact Batch.carries_of_outcome hentry herror
    · exact .inl (.inr (Option.mem_toList.mp htransaction))

/-- Only what is asked for an entry is told without a report. -/
theorem errors_of_reported (hcall : ∀ n, call ≠ .outcome n ∧ call ≠ .entryError n) :
    (call.perform batch shared).value.1.errors =
      (call.perform batch shared).value.1.report?.elim [] Report.errors := by
  cases call with
  | plain request =>
    rw [perform_plain]
    cases (request.perform (batch, shared)).value.1 <;> rfl
  | submit task options =>
    rcases hrun : Batch.run task options (batch, shared) with ⟨⟨result | text, after⟩, effects⟩
    · rw [perform_submit_of_returned hrun]
      rfl
    · rw [perform_submit_of_panicked hrun]
      rfl
  | abandon options =>
    rw [perform_abandon]
    cases (Batch.executeAbandoned options (batch, shared)).value.1 <;> rfl
  | outcome n => exact absurd rfl (hcall n).1
  | entryError n => exact absurd rfl (hcall n).2
  | blobResults n => rfl

/-- An error that a call tells is carried by the batch before it or after it, or is genuine. -/
theorem carries_of_told (hmem : error ∈ (call.perform batch shared).value.1.errors) :
    batch.CarriesError error ∨ error.isOk = false ∨
      ∃ after, (call.perform batch shared).value.2.1 = some after ∧ after.CarriesError error := by
  by_cases hasked : ∃ n, call = .outcome n ∨ call = .entryError n
  · obtain ⟨n, rfl | rfl⟩ := hasked
    · exact (carries_of_asked (n := n) hmem).imp_right .inl
    · refine (carries_of_asked (n := n) ?_).imp_right .inl
      rw [← errors_of_entryError]
      exact hmem
  · simp only [not_exists, not_or] at hasked
    rw [errors_of_reported hasked] at hmem
    cases hreport : (call.perform batch shared).value.1.report? with
    | none =>
      rw [hreport] at hmem
      exact nomatch hmem
    | some report =>
      rw [hreport] at hmem
      obtain ⟨after, hafter, hcarries | hgenuine⟩ := carries_of_reported hreport hmem
      · exact .inr (.inr ⟨after, hafter, hcarries⟩)
      · exact .inr (.inl hgenuine)

end Calls

end Session

/-! ### Any sequence of calls -/

/-- The errors that are handed over to a batch. -/
def Session.Exchange.handed (name : String) (exchange : Exchange σ) : List EngineError :=
  match exchange.call with
  | .batch other _ made =>
    if other = name then made.handed exchange.response exchange.effects else []
  | _ => []

namespace Session

/-- An error is genuine, or was handed over to a batch in the past. -/
def HasSource (name : String) (past : List (Exchange σ)) (error : EngineError) : Prop :=
  error.isOk = false ∨ ∃ exchange ∈ past, error ∈ exchange.handed name

theorem HasSource.wait {name : String} {past : List (Exchange σ)} {error : EngineError}
    (h : HasSource name past error) (later : List (Exchange σ)) :
    HasSource name (past ++ later) error :=
  h.imp_right fun ⟨exchange, hmem, hhanded⟩ => ⟨exchange, List.mem_append_left later hmem, hhanded⟩

section Runs

variable [Memory] [Engine σ]

/-- Every error of a batch has a source in the past. -/
def Sourced (name : String) (past : List (Exchange σ)) (session : Session σ) : Prop :=
  ∀ batch, session.batches name = some batch → ∀ error, batch.CarriesError error →
    HasSource name past error

variable {session : Session σ} {name : String} {past : List (Exchange σ)} {error : EngineError}

/-- What a batch carries after a call on it has a source, if what it carried before has. -/
theorem hasSource_of_performed (hsourced : Sourced name past session) {batch after : Batch}
    (hbatch : session.batches name = some batch) {named : String} {made : OnBatch}
    (hafter : (session.next (.batch name named made)).batches name = some after)
    (hcarries : after.CarriesError error) :
    HasSource name (past ++ [session.exchange (.batch name named made)]) error := by
  obtain ⟨hresponse, heffects, hbatches⟩ := perform_batch hbatch named made
  rw [hbatches, Function.update_self] at hafter
  obtain hbefore | hgenuine | hhanded := carries_perform hafter hcarries
  · exact (hsourced batch hbatch error hbefore).wait _
  · exact .inl hgenuine
  · rw [← hresponse, ← heffects] at hhanded
    have hsame : (session.exchange (.batch name named made)).handed name = made.handed _ _ :=
      if_pos rfl
    exact .inr ⟨_, List.mem_append_right past (List.mem_singleton_self _), hsame ▸ hhanded⟩

/-- One more call keeps the errors of a batch sourced. -/
theorem Sourced.next (hsourced : Sourced name past session) (call : Call σ) :
    Sourced name (past ++ [session.exchange call]) (session.next call) := by
  intro after hafter error hcarries
  by_cases hcall : ∃ named made, call = .batch name named made
  · obtain ⟨named, made, rfl⟩ := hcall
    cases hbatch : session.batches name with
    | none =>
      rw [(perform_missing hbatch named made).2.2, hbatch] at hafter
      exact nomatch hafter
    | some batch => exact hasSource_of_performed hsourced hbatch hafter hcarries
  · replace hcall : ∀ named made, call ≠ .batch name named made := fun named made h =>
      hcall ⟨named, made, h⟩
    by_cases hnew : ∃ operations, call = .newBatch name operations
    · obtain ⟨operations, rfl⟩ := hnew
      cases hbatch : session.batches name with
      | some batch =>
        rw [batches_next_of_other hbatch hcall] at hafter
        exact (hsourced after (hbatch.trans hafter) error hcarries).wait _
      | none =>
        -- A batch that was just made carries nothing.
        rw [Session.next, perform, hbatch] at hafter
        obtain rfl : Batch.new operations = after := by
          simpa [setBatch] using hafter
        exact absurd hcarries (Batch.not_carriesError_new operations error)
    · rw [batches_next_of_untouched (not_exists.mp hnew) hcall] at hafter
      exact (hsourced after hafter error hcarries).wait _

theorem Sourced.after (hsourced : Sourced name past session) (calls : List (Call σ)) :
    Sourced name (past ++ session.exchanges calls) (session.after calls) := by
  induction calls generalizing session past with
  | nil => exact (List.append_nil past).symm ▸ hsourced
  | cons call calls ih =>
    have hrest := ih (hsourced.next call)
    rwa [List.append_assoc] at hrest

/-- Every error that a call tells of a batch has a source. -/
theorem hasSource_of_told (hsourced : Sourced name past session) {named : String} {made : OnBatch}
    (hmem : error ∈ (session.exchange (.batch name named made)).response.errors) :
    HasSource name (past ++ [session.exchange (.batch name named made)]) error := by
  cases hbatch : session.batches name with
  | none =>
    rw [(perform_missing hbatch named made).1] at hmem
    exact nomatch hmem
  | some batch =>
    obtain ⟨hresponse, -, hbatches⟩ := perform_batch hbatch named made
    rw [hresponse] at hmem
    obtain hbefore | hgenuine | ⟨after, hafter, hcarries⟩ := carries_of_told hmem
    · exact (hsourced batch hbatch error hbefore).wait _
    · exact .inl hgenuine
    · refine hasSource_of_performed hsourced hbatch ?_ hcarries
      rw [hbatches, Function.update_self, hafter]

/-- A report is counted with its failures. -/
theorem counted_of_report? {named : String} {made : OnBatch} {report : Report}
    (h : (session.exchange (.batch name named made)).response.report? = some report) :
    total .batchEntryFailures (session.exchange (.batch name named made)).effects =
      report.failures := by
  cases hbatch : session.batches name with
  | none =>
    rw [(perform_missing hbatch named made).1] at h
    exact nomatch h
  | some batch =>
    obtain ⟨hresponse, heffects, -⟩ := perform_batch hbatch named made
    rw [heffects, counted_perform, ← hresponse, h]
    rfl

/-- **The errors that are told are genuine**, unless somebody hands over one that is not. Let a
batch carry no error of code 0 at first, be it that there is no such batch yet. Then every error
that a call on it tells, in the outcomes of a report, as the error of the transaction in it, or
asked for an entry, is genuine, or was handed over in that call or before: a client recorded it, or
the engine refused a definition or the round trip with it. As long as no error of code 0 is handed
over, none is told, and the failures of a report, which are counted, are the entries with a genuine
error. -/
theorem told_errors_genuine (session : Session σ) (name named : String)
    (hstart : ∀ batch, session.batches name = some batch → ∀ error, batch.CarriesError error →
      error.isOk = false)
    (calls : List (Call σ)) (made : OnBatch) :
    let last := (session.after calls).exchange (.batch name named made)
    let past := session.exchanges calls ++ [last]
    (∀ error ∈ last.response.errors,
      error.isOk = false ∨ ∃ exchange ∈ past, error ∈ exchange.handed name) ∧
    ((∀ exchange ∈ past, ∀ error ∈ exchange.handed name, error.isOk = false) →
      (∀ error ∈ last.response.errors, error.isOk = false) ∧
      ∀ report, last.response.report? = some report →
        report.failures = report.outcomes.countP Outcome.failedGenuinely ∧
        total .batchEntryFailures last.effects = report.failures) := by
  intro last past
  have hfresh : Sourced name [] session := fun batch hbatch error hcarries =>
    .inl (hstart batch hbatch error hcarries)
  have hsourced : Sourced name (session.exchanges calls) (session.after calls) :=
    hfresh.after calls
  have htold : ∀ error ∈ last.response.errors, HasSource name past error := fun error =>
    hasSource_of_told hsourced
  refine ⟨htold, fun hgenuine => ?_⟩
  have hnone : ∀ error ∈ last.response.errors, error.isOk = false := by
    intro error hmem
    obtain herror | ⟨exchange, hexchange, hhanded⟩ := htold error hmem
    · exact herror
    · exact hgenuine exchange hexchange error hhanded
  refine ⟨hnone, fun report hreport => ⟨?_, counted_of_report? hreport⟩⟩
  exact Report.failures_of_genuine (errors_of_report? hreport ▸ hnone)

end Runs

section Orders

/-- A session in which one order was prepared on a transaction that answers from a script. -/
def scripted (executions : List Playback.Execution) (operationErrors : List (Bytes × EngineError)) :
    Session Playback :=
  ⟨fun _ => none, fun _ => none, fun _ => none, fun _ => none, fun _ =>
    .new "tx" (.new ⟨0, [([2], .duplicateKey)], [], executions, none, operationErrors, [], none,
      false⟩)⟩

/-- Two orders are made and prepared, and the second one is refused. -/
def twoOrders : List (Call Playback) := [
  .newBatch "orders" [Batch.insertOrder 1, Batch.insertOrder 2],
  .batch "orders" "tx" (.plain .prepare)]

/-- The call that commits the orders. -/
def commitOrders : OnBatch := .plain (.execute ⟨.commit, .operationDefault, .deferred⟩)

/-- An error with code 0. -/
def codeZero : EngineError := ⟨0, .application, "no error"⟩

/-- The engine refuses the second order and the round trip. The error that it has for the first
order, and that of the transaction, have code 0 and are dropped. -/
theorem told_errors_genuine_orders :
    let session := scripted [.returns (.error .noDataFound) (some codeZero)] [([1], codeZero)]
    let last := (session.after twoOrders).exchange (.batch "orders" "tx" commitOrders)
    (∀ exchange ∈ session.exchanges twoOrders ++ [last],
      ∀ error ∈ exchange.handed "orders", error.isOk = false) ∧
    last.response.report? = some ⟨.commit,
      [.transaction .noDataFound, .operation .duplicateKey], some .noDataFound⟩ ∧
    total .batchEntryFailures last.effects = 2 := by
  intro session last
  have hhanded : ∀ exchange ∈ session.exchanges twoOrders ++ [last],
      ∀ error ∈ exchange.handed "orders", error.isOk = false := by decide +kernel
  have hreport : last.response.report? = some ⟨.commit,
      [.transaction .noDataFound, .operation .duplicateKey], some .noDataFound⟩ := by rfl
  obtain ⟨-, hgenuine⟩ := told_errors_genuine session "orders" "tx" (fun _ hbatch => nomatch hbatch)
    twoOrders commitOrders
  exact ⟨hhanded, hreport, ((hgenuine hhanded).2 _ hreport).2⟩

/-- The engine refuses the round trip with an error of code 0. It is told as the error of the
transaction and of the first order, which counts as failed. -/
theorem told_although_ok :
    let session := (scripted [.returns (.error codeZero) none] []).after twoOrders
    let last := session.exchange (.batch "orders" "tx" commitOrders)
    codeZero.isOk = true ∧
      last.response.report? = some ⟨.commit,
        [.transaction codeZero, .operation .duplicateKey], some codeZero⟩ ∧
      total .batchEntryFailures last.effects = 2 :=
  ⟨rfl, rfl, rfl⟩

end Orders

end Session

end StorageClient
