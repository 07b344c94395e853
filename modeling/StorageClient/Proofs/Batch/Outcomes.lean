import StorageClient.Proofs.Batch.Session
/-!
# StorageClient.Proofs.Batch.Outcomes

What the report on a batch says of each entry, told from the calls that were made for it.

An outcome is put together from what is known of the entry after `prepare`, after the errors that
were recorded before and after that, and after the round trip. `Law` says it in one place: the last
error that was recorded for the entry counts before all else, then the error of its operation, then
the error of the transaction. An entry succeeds only if its operation was accepted and none of these
is there.
-/

namespace StorageClient.Batch

variable {σ : Type} [Engine σ]

/-- The outcome of an entry, given the errors recorded for it before (`early`) and after (`late`)
`prepare`, the error of the transaction, and the calls made for the entry: its definition, and the
inquiry after the round trip. -/
inductive Law (operation : KeyOperation) (early late transactionError : Option EngineError) :
    List TransactionCall → List TransactionCall → Outcome → Prop
  /-- An error was recorded after `prepare`. -/
  | late (definition : List TransactionCall) {error : EngineError} (hlate : late = some error) :
    Law operation early late transactionError definition [] (.operation error)
  /-- An error was recorded before `prepare`, and none after it. -/
  | early (hlate : late = none) {error : EngineError} (hearly : early = some error) :
    Law operation early late transactionError [] [] (.operation error)
  | refused (hlate : late = none) (hearly : early = none) (refusal : EngineError) :
    Law operation early late transactionError
      [.define operation (.returned (.error refusal))] [] (.operation refusal)
  | failed (hlate : late = none) (hearly : early = none) (id : Nat) {own : Option EngineError}
      {error : EngineError} (hown : genuine own = some error) :
    Law operation early late transactionError
      [.define operation (.returned (.ok id))] [.operationError id (.returned own)]
      (.operation error)
  | lost (hlate : late = none) (hearly : early = none) (id : Nat) {own : Option EngineError}
      (hown : genuine own = none) {error : EngineError} (hlost : transactionError = some error) :
    Law operation early late transactionError
      [.define operation (.returned (.ok id))] [.operationError id (.returned own)]
      (.transaction error)
  | done (hlate : late = none) (hearly : early = none) (id : Nat) {own : Option EngineError}
      (hown : genuine own = none) (hdone : transactionError = none)
      (calls : List TransactionCall) :
    Law operation early late transactionError
      [.define operation (.returned (.ok id))] (.operationError id (.returned own) :: calls)
      .success

theorem Law.accepted {operation : KeyOperation} {early late transactionError : Option EngineError}
    {definition inquiry : List TransactionCall}
    (h : Law operation early late transactionError definition inquiry .success) :
    ∃ id, definition = [.define operation (.returned (.ok id))] := by
  cases h with
  | done _ _ id => exact ⟨id, rfl⟩

/-- The error of a transaction is never made up. -/
theorem Law.of_transaction {operation : KeyOperation}
    {early late transactionError : Option EngineError} {definition inquiry : List TransactionCall}
    {error : EngineError}
    (h : Law operation early late transactionError definition inquiry (.transaction error)) :
    transactionError = some error := by
  cases h with
  | lost _ _ _ _ hlost => exact hlost

/-- An entry that failed before the round trip is reported with its own error. -/
theorem Collected.of_operation {transactionError : Option EngineError} {entry entry' : Entry}
    {inquiry : List TransactionCall} (h : Collected transactionError entry inquiry entry')
    {error : EngineError} (hslot : entry.slot = .operation error) :
    inquiry = [] ∧ outcomeOf transactionError entry' = .operation error := by
  have hfailed : entry.slot.isOperation = true := by rw [hslot]; rfl
  cases h with
  | left => exact ⟨rfl, by rw [outcomeOf, hslot]⟩
  | unnamed hclear => exact absurd (hfailed.symm.trans hclear) (by decide)
  | failed hclear => exact absurd (hfailed.symm.trans hclear) (by decide)
  | lost hclear => exact absurd (hfailed.symm.trans hclear) (by decide)
  | done hclear => exact absurd (hfailed.symm.trans hclear) (by decide)

/-- The stages of an entry lead to the outcome that the law says. -/
theorem law_of_stages {operation : KeyOperation} {early late transactionError : Option EngineError}
    {definition inquiry : List TransactionCall} {defined collected : Entry}
    (hdefined : Defined (mark early (Entry.new operation)) definition defined)
    (hcollected : Collected transactionError (mark late defined) inquiry collected) :
    Law operation early late transactionError definition inquiry
      (outcomeOf transactionError collected) := by
  -- The error recorded last counts, so the stages are looked at from the end.
  cases late with
  | some error =>
    obtain ⟨rfl, houtcome⟩ := hcollected.of_operation rfl
    rw [houtcome]
    exact .late definition rfl
  | none =>
    cases hdefined with
    | left hslot =>
      cases early with
      | none => exact nomatch hslot
      | some error =>
        obtain ⟨rfl, houtcome⟩ := hcollected.of_operation rfl
        rw [houtcome]
        exact .early rfl rfl
    | refused hslot refusal =>
      cases early with
      | some error => exact nomatch hslot
      | none =>
        obtain ⟨rfl, houtcome⟩ := hcollected.of_operation rfl
        rw [houtcome]
        exact .refused rfl rfl refusal
    | accepted hslot id =>
      cases early with
      | some error => exact nomatch hslot
      | none =>
        -- The entry is clear and has a name, so its error and that of the transaction decide.
        cases hcollected with
        | left hfailed => exact nomatch hfailed
        | unnamed _ hid => exact nomatch hid
        | failed _ hid hown =>
          obtain rfl := Option.some.inj hid
          exact .failed rfl rfl id hown
        | lost _ hid hown hlost =>
          obtain rfl := Option.some.inj hid
          subst hlost
          exact .lost rfl rfl id hown rfl
        | done _ hid hown hdone =>
          obtain rfl := Option.some.inj hid
          exact .done rfl rfl id hown hdone _

/-- A call that returns a report has executed the batch. -/
theorem executing_of_report {request : Request} {batch : Batch} {shared : SharedTransaction σ}
    {report : Report}
    (h : (request.event (batch, shared)).answer = .returned (.ok (.report report))) :
    ∃ options value, Executing options batch shared value (request.event (batch, shared)).calls ∧
      value.1 = .returned (.ok report) ∧ value.2 = (request.perform (batch, shared)).value.2 := by
  have htold : ∀ {α : Type} {f : α → Response} {answer : Answer (Except BatchError α)},
      answer.map (Except.map f) = .returned (.ok (.report report)) →
      ∃ a, answer = .returned (.ok a) ∧ f a = .report report := by
    intro α f answer htold
    rcases answer with ⟨e | a⟩ | text
    · exact nomatch htold
    · exact ⟨a, rfl, by injection htold with hok; injection hok⟩
    · exact nomatch htold
  cases request with
  | setError n error =>
    change Answer.returned ((batch.setError n error).map fun _ => Response.done) = _ at h
    cases hset : batch.setError n error <;> rw [hset] at h <;> exact nomatch h
  | prepare =>
    obtain ⟨_, -, hdone⟩ := htold h
    exact nomatch hdone
  | tryStart =>
    obtain ⟨_, -, hstarted⟩ := htold h
    exact nomatch hstarted
  | execute options =>
    obtain ⟨told, hvalue, hreport⟩ := htold h
    obtain rfl := Response.report.inj hreport
    exact ⟨options, _, executing options batch shared, hvalue, rfl⟩
  | executeAwaited task options =>
    obtain ⟨told, hvalue, hreport⟩ := htold h
    obtain rfl := Response.report.inj hreport
    exact ⟨options, _, executing_awaited task options batch shared, hvalue, rfl⟩

/-- **The outcome of every entry.** Whenever a batch is executed and a report is returned, it was
prepared before, the round trip is one call that is followed by one for the error of the transaction
and the inquiries for the entries, and there is one outcome for each operation: the one that the law
says. -/
theorem law_of_report {operations : List KeyOperation} (shared : SharedTransaction σ)
    (moves : List (Move σ)) (request : Request) {report : Report}
    (hreport : (request.event (play moves (Batch.new operations, shared)).2).answer =
      .returned (.ok (.report report))) :
    ∃ (preparation : Preparation (Batch.new operations)) (options : RoundTrip)
      (result : Except EngineError Unit) (own : Option EngineError)
      (inquiries : List (List TransactionCall)),
      preparation.past = (play moves (Batch.new operations, shared)).1 ∧
      (request.event (play moves (Batch.new operations, shared)).2).calls =
        .execute options (.returned result) :: .error (.returned own) :: inquiries.flatten ∧
      report.transactionError = roundTripError own result ∧
      inquiries.length = operations.length ∧ report.outcomes.length = operations.length ∧
      ∀ n operation, operations[n]? = some operation → ∃ definition inquiry outcome,
        preparation.definitions[n]? = some definition ∧ inquiries[n]? = some inquiry ∧
        report.outcomes[n]? = some outcome ∧
        Law operation (lastRecorded n preparation.early) (lastRecorded n preparation.late)
          (roundTripError own result) definition inquiry outcome ∧
        (outcome = .success → ∃ id, definition = [.define operation (.returned (.ok id))]) ∧
        ∀ error, outcome = .transaction error → roundTripError own result = some error := by
  have hbuilt : (Batch.new operations).phase = .built := rfl
  have hknown := known_play hbuilt shared moves
  generalize play moves (Batch.new operations, shared) = played at hknown hreport ⊢
  obtain ⟨past, batch, shared'⟩ := played
  obtain ⟨options, value, hexecuting, hvalue, -⟩ := executing_of_report hreport
  dsimp only at hvalue ⊢
  generalize (request.event (batch, shared')).calls = calls at hexecuting ⊢
  cases hexecuting with
  | refused => exact nomatch hvalue
  | panicked => exact nomatch hvalue
  | lost => exact nomatch hvalue
  | made transaction hprepared hreached hround engine =>
    rename_i result own inquiries entries
    -- A report is returned only if the round trip was made: the batch was prepared by then.
    obtain rfl := Except.ok.inj (Answer.returned.inj hvalue)
    rcases hknown with hpoisoned | hready
    · exact absurd hpoisoned (by simp [hreached])
    dsimp only at hready
    rw [hprepared] at hready
    obtain ⟨preparation, hpast, hready⟩ := hready
    have hlength : batch.entries.length = operations.length :=
      hready.length_entries.trans (List.length_map Entry.new)
    refine ⟨preparation, options, result, own, inquiries, hpast, rfl, rfl,
      hround.length_segments.trans hlength, ?_, fun n operation hn => ?_⟩
    · rw [List.length_map, hround.length_things, hlength]
    have hentry : (Batch.new operations).entries[n]? = some (Entry.new operation) := by
      rw [Batch.new, List.getElem?_map, hn, Option.map_some]
    obtain ⟨definition, defined, hdefinition, hdefined, hentries⟩ := hready.entries n _ hentry
    obtain ⟨inquiry, collected, hinquiry, hcollected, hvisited⟩ := hround.visited n _ hentries
    have hlaw := law_of_stages hdefined hvisited
    refine ⟨definition, inquiry, _, hdefinition, hinquiry, ?_, hlaw, fun hsuccess => ?_,
      fun error hlost => ?_⟩
    · rw [List.getElem?_map, hcollected, Option.map_some]
    · rw [hsuccess] at hlaw
      exact hlaw.accepted
    · rw [hlost] at hlaw
      exact hlaw.of_transaction

/-- Five orders: the second one is refused, the third one fails, and errors are recorded for the
fourth one before, and for the fifth one after `prepare`. -/
theorem law_of_report_orders :
    let operations := [insertOrder 1, insertOrder 2, insertOrder 3, insertOrder 4, insertOrder 5]
    let moves : List (Move Playback) := [.call (.setError 3 .noDataFound), .call .prepare,
      .call (.setError 4 .noDataFound)]
    let played := play moves (Batch.new operations,
      ordersTransaction [([2], .duplicateKey)] [([3], .duplicateKey)])
    let request := Request.execute ⟨.commit, .operationDefault, .deferred⟩
    let outcomes := [.success, .operation .duplicateKey, .operation .duplicateKey,
      .operation .noDataFound, .operation .noDataFound]
    (request.event played.2).answer = .returned (.ok (.report ⟨.commit, outcomes, none⟩)) ∧
      ∃ preparation : Preparation (Batch.new operations), preparation.past = played.1 ∧
        ∀ n operation, operations[n]? = some operation → ∃ definition inquiry outcome,
          preparation.definitions[n]? = some definition ∧ outcomes[n]? = some outcome ∧
          Law operation (lastRecorded n preparation.early) (lastRecorded n preparation.late) none
            definition inquiry outcome := by
  intro operations moves played request outcomes
  have hreport : (request.event played.2).answer =
      .returned (.ok (.report ⟨.commit, outcomes, none⟩)) := rfl
  obtain ⟨preparation, _, result, own, _, hpast, -, herror, -, -, hlaw⟩ := law_of_report
    (ordersTransaction [([2], .duplicateKey)] [([3], .duplicateKey)]) moves request hreport
  refine ⟨hreport, preparation, hpast, fun n operation hn => ?_⟩
  obtain ⟨definition, inquiry, outcome, hdefinition, -, houtcome, hentry, -⟩ := hlaw n operation hn
  rw [← herror] at hentry
  exact ⟨definition, inquiry, outcome, hdefinition, houtcome, hentry⟩

end StorageClient.Batch
