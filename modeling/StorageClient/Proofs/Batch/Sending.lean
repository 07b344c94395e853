import StorageClient.Proofs.Batch.Session
/-!
# StorageClient.Proofs.Batch.Sending

Which operations a round trip sends. The engine runs everything that was defined before, so what is
sent is what `prepare` defined and the engine accepted.

An entry with an error that was recorded before `prepare` is left out. An error that is recorded
after that comes too late: the operation is defined by then, and is sent with the others, although
the entry is reported as failed (`sent_although_marked`).
-/

namespace StorageClient.Batch

variable {σ : Type} [Engine σ]

/-- An event that recorded an error for an entry. -/
def Event.Marks (n : Nat) (event : Event) : Prop :=
  ∃ error response, event.request = .setError n error ∧ event.answer = .returned (.ok response)

theorem Event.recorded_ne_none_iff {n : Nat} {event : Event} :
    event.recorded n ≠ none ↔ event.Marks n := by
  obtain ⟨request, answer, calls⟩ := event
  constructor
  · intro h
    cases request <;> rcases answer with ⟨_ | response⟩ | text <;>
      first
        | exact absurd rfl h
        | skip
    rename_i m error
    by_cases hm : m = n
    · exact ⟨error, response, by rw [hm], rfl⟩
    · exact absurd (if_neg hm) h
  · rintro ⟨error, response, rfl, rfl⟩
    simp [Event.recorded]

theorem lastRecorded_eq_none_iff {n : Nat} {events : List Event} :
    lastRecorded n events = none ↔ ∀ event ∈ events, ¬ event.Marks n := by
  rw [lastRecorded, List.getLast?_eq_none_iff, List.filterMap_eq_nil_iff]
  refine forall_congr' fun event => forall_congr' fun _ => ?_
  rw [← Event.recorded_ne_none_iff, Classical.not_not]

/-- What `Defined` means for an entry that may have been marked before. -/
theorem Defined.of_mark {recorded : Option EngineError} {entry entry' : Entry}
    {definition : List TransactionCall} (h : Defined (mark recorded entry) definition entry') :
    (entry.slot.isOperation = true ∨ recorded ≠ none → definition = []) ∧
      (entry.slot.isOperation = false ∧ recorded = none →
        ∃ answer, definition = [.define entry.operation (.returned answer)]) := by
  cases recorded with
  | some error =>
    refine ⟨fun _ => ?_, fun hnone => nomatch hnone.2⟩
    cases h with
    | left => rfl
    | accepted hslot => exact nomatch hslot
    | refused hslot => exact nomatch hslot
  | none =>
    cases h with
    | left hslot => exact ⟨fun _ => rfl, fun hfree => by simp_all [mark]⟩
    | accepted hslot id => exact ⟨fun hmarked => by simp_all [mark], fun _ => ⟨.ok id, rfl⟩⟩
    | refused hslot e => exact ⟨fun hmarked => by simp_all [mark], fun _ => ⟨.error e, rfl⟩⟩

/-- The definitions in a past are those made by `prepare`. -/
theorem Preparation.filter_calls {start : Batch} (preparation : Preparation start) :
    (preparation.past.flatMap Event.calls).filter TransactionCall.isDefinition =
      preparation.definitions.flatten := by
  have hnone : ∀ events : List Event,
      (∀ event ∈ events, ∀ call ∈ event.calls, call.isDefinition = false) →
      (events.flatMap Event.calls).filter TransactionCall.isDefinition = [] := by
    intro events hevents
    rw [List.filter_eq_nil_iff]
    intro call hcall
    obtain ⟨event, hevent, hmem⟩ := List.mem_flatMap.mp hcall
    rw [hevents event hevent call hmem]
    exact Bool.false_ne_true
  rw [past, List.flatMap_append, List.flatMap_cons, List.filter_append, List.filter_append,
    hnone _ preparation.undefined_early, hnone _ preparation.undefined_late,
    List.filter_eq_self.mpr preparation.defined, List.nil_append, List.append_nil,
    preparation.calls_eq]

/-- Only executing a batch makes a round trip, and only if the transaction can be used. -/
theorem prepared_of_mem_execute {batch : Batch} {shared : SharedTransaction σ} {request : Request}
    {options : RoundTrip} {answer : Answer (Except EngineError Unit)}
    (h : .execute options answer ∈ (request.event (batch, shared)).calls) :
    shared.poisoned = false ∧ ∃ transaction, batch.phase = .prepared transaction := by
  cases request with
  | setError n error => exact nomatch h
  | prepare => exact nomatch (preparing batch shared).isDefinition _ h
  | tryStart =>
    obtain ⟨hint, started, hcall⟩ := (starting batch shared).eq_tryStart _ h
    exact nomatch hcall
  | execute options => exact (executing options batch shared).prepared (List.ne_nil_of_mem h)
  | executeAwaited task options =>
    exact (executing_awaited task options batch shared).prepared (List.ne_nil_of_mem h)

/-- **What is sent.** When a round trip is made for a batch, the operations that were defined for
it are those of one `prepare`, entry by entry: none for an entry that had an error then, and the
operation of any other entry, whatever errors were recorded after that. -/
theorem defined_when_executed {start : Batch} (hbuilt : start.phase = .built)
    (shared : SharedTransaction σ) (moves : List (Move σ)) (request : Request)
    {options : RoundTrip} {answer : Answer (Except EngineError Unit)}
    (hexecutes : .execute options answer ∈
      (request.event (play moves (start, shared)).2).calls) :
    ∃ preparation : Preparation start,
      preparation.past = (play moves (start, shared)).1 ∧
      ((play moves (start, shared)).1.flatMap Event.calls).filter TransactionCall.isDefinition =
        preparation.definitions.flatten ∧
      ∀ n entry, start.entries[n]? = some entry → ∃ definition,
        preparation.definitions[n]? = some definition ∧
        (entry.slot.isOperation = true ∨ (∃ event ∈ preparation.early, event.Marks n) →
          definition = []) ∧
        (entry.slot.isOperation = false ∧ (∀ event ∈ preparation.early, ¬ event.Marks n) →
          ∃ answer, definition = [.define entry.operation (.returned answer)]) := by
  have hknown := known_play hbuilt shared moves
  obtain ⟨hreached, transaction, hprepared⟩ := prepared_of_mem_execute hexecutes
  -- No round trip is made on a poisoned transaction, so the invariant tells of the entries.
  rcases hknown with hpoisoned | hready
  · exact absurd hpoisoned (by simp [hreached])
  rw [hprepared] at hready
  obtain ⟨preparation, hpast, hready⟩ := hready
  refine ⟨preparation, hpast, ?_, fun n entry hn => ?_⟩
  · rw [← hpast, preparation.filter_calls]
  · obtain ⟨definition, defined, hdefinition, hdefined, -⟩ := hready.entries n entry hn
    refine ⟨definition, hdefinition, ?_, ?_⟩
    · rintro (hslot | ⟨event, hevent, hmarks⟩)
      · exact hdefined.of_mark.1 (.inl hslot)
      · exact hdefined.of_mark.1 (.inr fun hnone =>
          lastRecorded_eq_none_iff.mp hnone event hevent hmarks)
    · rintro ⟨hslot, hfree⟩
      exact hdefined.of_mark.2 ⟨hslot, lastRecorded_eq_none_iff.mpr hfree⟩

/-- Of two orders, the second one has an error before, and the first one after `prepare`. -/
theorem defined_when_executed_orders :
    let start := Batch.new [insertOrder 1, insertOrder 2]
    let moves : List (Move Playback) := [.call (.setError 1 .duplicateKey), .call .prepare,
      .call (.setError 0 .duplicateKey)]
    let played := play moves (start, ordersTransaction [] [])
    let options : RoundTrip := ⟨.commit, .operationDefault, .deferred⟩
    start.phase = .built ∧
      .execute options (.returned (.ok ())) ∈ ((Request.execute options).event played.2).calls ∧
      ∃ preparation : Preparation start, preparation.past = played.1 ∧
        [.define (insertOrder 1) (.returned (.ok 0))] = preparation.definitions.flatten := by
  intro start moves played options
  have hexecutes : .execute options (.returned (.ok ())) ∈
      ((Request.execute options).event played.2).calls := List.mem_cons_self
  obtain ⟨preparation, hpast, hcalls, -⟩ :=
    defined_when_executed rfl (ordersTransaction [] []) moves (.execute options) hexecutes
  exact ⟨rfl, hexecutes, preparation, hpast, hcalls⟩

/-- An error that is recorded after `prepare` does not keep an order from being sent. -/
theorem sent_although_marked :
    let moves : List (Move Playback) := [.call .prepare, .call (.setError 0 .duplicateKey)]
    let played := play moves (Batch.new [insertOrder 1], ordersTransaction [] [])
    let options : RoundTrip := ⟨.commit, .operationDefault, .deferred⟩
    (∃ event ∈ played.1, event.Marks 0) ∧
      .define (insertOrder 1) (.returned (.ok 0)) ∈ played.1.flatMap Event.calls ∧
      .execute options (.returned (.ok ())) ∈
        ((Request.execute options).event played.2).calls := by
  intro moves played options
  refine ⟨⟨⟨.setError 0 .duplicateKey, .returned (.ok .done), []⟩, ?_, .duplicateKey, .done, rfl,
    rfl⟩, ?_, List.mem_cons_self⟩
  · exact List.mem_cons_of_mem _ List.mem_cons_self
  · exact List.mem_cons_self

end StorageClient.Batch
