import StorageClient.Proofs.Batch.Forms
import StorageClient.Proofs.Transaction.Closing
/-!
# StorageClient.Proofs.Batch.Closing

What the calls on a batch record about the end of its transaction. To prepare a batch records
nothing, and neither does a request to start. A round trip does if it is to commit or to roll back,
and if it returns (`Batch.latched_roundTrip`).

All ways to run a batch make the same round trip (`Batch.Carries`). Their scopes and reports, and
where the entries are changed, make no difference to the transaction.
-/

namespace StorageClient

variable {σ τ α β : Type}

open Effect (Discreet announcements discreet_event)

/-- Whether a call makes a round trip. -/
def TransactionCall.isTrip : TransactionCall → Bool
  | execute .. => true
  | _ => false

/-- Whether a round trip was made and returned: no call panicked. -/
def Effect.tripReturned (effects : List Effect) : Bool :=
  let calls := Effect.transactionCalls effects
  calls.any TransactionCall.isTrip && !calls.any TransactionCall.isPanic

namespace Batch

open StorageClient.Action (Obeys Candid)
open Effect (tripReturned transactionCalls notable)

variable {options : RoundTrip} {batch : Batch} {shared after : SharedTransaction σ}
  {transaction : String} {effects : List Effect}

theorem neutral_onEntries {action : Action (List Entry × SharedTransaction σ) α}
    (h : Obeys (Law.neutral.on Prod.snd) action) :
    Obeys (Law.neutral.on Prod.snd) (onEntries action) := fun (batch, shared) =>
  h (batch.entries, shared)

theorem complete_aside (exec : ExecType) (collected : Except EngineError (Option EngineError))
    (batch : Batch) (shared : SharedTransaction σ) (scope : OpenScope) :
    let completed := complete exec collected ((batch, shared), some scope)
    completed.value.2.1.2 = shared ∧ notable completed.effects = [] := by
  have hclosing (closing : Scope.Closing) : notable [.line (scope.scope.closing closing)] = [] :=
    Effect.notable_line (Scope.discreet_closing _ closing) []
  rcases collected with refusal | _ | error
  · exact ⟨rfl, hclosing _⟩
  · exact ⟨rfl, hclosing (.completed _)⟩
  · exact ⟨rfl, hclosing (.failed _)⟩

theorem candid_setSlot (slot : Slot) : Candid (setSlot slot : Action (Entry × σ) Unit) :=
  .onFirst (.modify _)

/-- Nothing notable is added to the work that is done in a scope. -/
theorem notable_inScope (hprepared : batch.phase = .prepared transaction) (call : BatchCall)
    (work : Action ((Batch × SharedTransaction σ) × Option OpenScope) (Except BatchError Report)) :
    notable (inScope call options work (batch, shared)).effects =
      notable (work ((batch, shared), opened options batch)).effects := by
  obtain ⟨line, hline, hrun⟩ := inScope_of_prepared hprepared options shared
  have hstart : Discreet (.line line) := by
    rw [Discreet, Effect.announces, hline]
    rfl
  rw [hrun]
  dsimp only
  rw [Effect.notable_line hstart, Effect.notable_line (Scope.discreet_opening _),
    Effect.notable_append, notable_dropHeld, List.append_nil]

/-- A run of a batch. The round trip closes the transaction if it returns and is to close it, and a
poisoned transaction is not reached. -/
structure Ran (options : RoundTrip) (shared after : SharedTransaction σ) (effects : List Effect) :
    Prop where
  latched : Latched (options.exec.closes && tripReturned effects) shared after effects
  unreached : shared.poisoned = true → tripReturned effects = false

/-- A batch that is refused does not run. -/
theorem ran_nothing (options : RoundTrip) (shared : SharedTransaction σ) :
    Ran options shared shared [] where
  latched := by simpa [tripReturned] using Law.neutral.latched (Law.neutral.rest shared)
  unreached _ := rfl

/-- If it is refused to run a batch, nothing happens. -/
theorem ran_of_refused {came : Traced (α × Batch × SharedTransaction σ)} {answer : α}
    (h : came = pure (answer, batch, shared)) : Ran options shared came.value.2.2 came.effects := by
  rw [h]
  exact ran_nothing options shared

/-! ### The calls -/

variable [Engine σ]

theorem candid_defineEntries : Candid (defineEntries : Action (List Entry × σ) Nat) := by
  have hdefine : Candid (defineEntry : Action (Entry × σ) Unit) := by
    refine .bind .get fun (entry, engine) => ?_
    dsimp only
    split
    · exact .pure _
    · refine .bind (.onSecond (.call fun _ => rfl)) fun answer => ?_
      cases answer with
      | ok id => exact .onFirst (.modify _)
      | error refusal => exact candid_setSlot _
  exact .bind (.forEach hdefine) fun _ => .bind .get fun _ => .pure _

theorem neutral_prepare :
    Obeys (Law.neutral.on Prod.snd)
      (prepare : Action (Batch × SharedTransaction σ) (Except BatchError Unit)) := by
  refine .bind .get fun (batch, shared) => ?_
  dsimp only
  split
  · refine .bind (neutral_onEntries (.useWith (.of_candid candid_defineEntries))) fun answer => ?_
    cases answer with
    | error refusal => exact .pure _
    | ok defined =>
      exact .bind (.aside (.change _)) fun _ =>
        .bind (.lifted (.emit (discreet_event _))) fun _ => .pure _
  · exact .pure _
  · exact .pure _

theorem neutral_tryStart :
    Obeys (Law.neutral.on Prod.snd)
      (tryStart : Action (Batch × SharedTransaction σ) (Except BatchError Bool)) := by
  refine .bind .get fun (batch, shared) => ?_
  dsimp only
  split
  · exact .pure _
  · refine .bind (.onSecond (.use (.call _ _))) fun answer => ?_
    cases answer <;> exact .pure _

theorem candid_executeEntries (options : RoundTrip) :
    Candid (executeEntries options : Action (List Entry × σ) (Option EngineError)) := by
  have hreadBlob : ∀ id, Candid (readBlob id : Action (BlobHandler × σ) Unit) := by
    intro id
    refine .bind .get fun (blob, engine) => ?_
    dsimp only
    split
    · exact .pure _
    · refine .bind (.onSecond (.call fun _ => rfl)) fun image => ?_
      cases image with
      | none => exact .pure _
      | some bytes => exact .onFirst (.modify _)
  have hcollect : ∀ transactionError,
      Candid (collectEntry transactionError : Action (Entry × σ) Unit) := by
    intro transactionError
    refine .bind .get fun (entry, engine) => ?_
    dsimp only
    split
    · exact .pure _
    split
    · exact .pure _
    · refine .bind (.onSecond (.call fun _ => rfl)) fun own => ?_
      split
      · exact candid_setSlot _
      · exact candid_setSlot _
      · exact (Candid.forEach (hreadBlob _)).of_part
          (fun state => (state.1.operation.blobs, state.2)) (fun _ => rfl)
          fun _ => List.append_nil _
  exact .bind (.onSecond (.call fun _ => rfl)) fun _ => .bind (.onSecond (.call fun _ => rfl))
    fun _ => .bind (.forEach (hcollect _)) fun _ => .pure _

/-- A round trip makes calls, and may tell that the transaction is closed. -/
theorem emits_roundTrip {p : Effect → Prop} (hcall : ∀ call, p (.transaction call))
    (hclosed : ∀ fields, p (.line (Event.transactionClosed.line fields))) (options : RoundTrip) :
    Obeys (.emits p) (roundTrip options :
      Action (List Entry × SharedTransaction σ) (Except EngineError (Option EngineError))) := by
  refine .bind (.emits_useWith (.emits_of_candid hcall (candid_executeEntries options)))
    fun answer => ?_
  cases answer with
  | error refusal => exact .pure _
  | ok transactionError =>
    dsimp only
    split
    · refine .bind (.emits_onSecond fun shared => ?_) fun _ => .pure _
      unfold SharedTransaction.registerClose
      split
      · exact (Law.emits p).rest shared
      · exact Law.emits_singleton (hclosed _) shared shared
    · exact .pure _

/-- A round trip records that the transaction is over, if it returns and is to end it. -/
theorem latched_roundTrip (options : RoundTrip) (entries : List Entry)
    (shared : SharedTransaction σ) :
    let trip := roundTrip options (entries, shared)
    Latched (options.exec.closes && tripReturned trip.effects) shared trip.value.2.2
      trip.effects := by
  intro trip
  by_cases hpoisoned : shared.poisoned = true
  · have htrip : trip = ⟨(.returned (.error .lockPoisoned), entries, shared), []⟩ := by
      simp [trip, roundTrip, Action.bind_apply, Traced.bind,
        SharedTransaction.useWith_of_poisoned _ _ hpoisoned]
    rw [htrip]
    simpa [tripReturned] using Law.neutral.latched (Law.neutral.rest shared)
  rw [Bool.not_eq_true] at hpoisoned
  obtain ⟨calls, heffects, hpanics⟩ := candid_executeEntries options (entries, shared.engine)
  have hmade := Candid.transactionCalls_map calls
  have hdiscreet := Obeys.of_candid (candid_executeEntries options) (entries, shared.engine)
  rw [← heffects] at hmade
  rcases hexecute : executeEntries options (entries, shared.engine) with
    ⟨⟨transactionError | text, entries', engine⟩, effects⟩ <;>
    rw [hexecute] at hmade hpanics hdiscreet
  · obtain ⟨result, own, inquiries, -, -, hcalls⟩ := executeEntries_returned hexecute
    have hreturned : tripReturned effects = true := by
      rw [← hmade, hcalls] at hpanics
      rw [tripReturned, hcalls, hpanics]
      rfl
    have hused := SharedTransaction.useWith_of_returned hpoisoned hexecute
    cases hcloses : options.exec.closes with
    | false =>
      have htrip : trip = ⟨(.returned (.ok transactionError), entries', { shared with engine }),
          effects⟩ := by
        simp [trip, roundTrip, Action.bind_apply, Traced.bind, hcloses, hused]
      rw [htrip]
      exact Law.neutral.latched ⟨rfl, hdiscreet⟩
    | true =>
      obtain ⟨lines, hregister, hcallsLines, hlines⟩ :=
        SharedTransaction.registerClose_eq { shared with engine }
      have htrip : trip = ⟨(.returned (.ok transactionError), entries',
          { shared with engine, closed := true }), effects ++ lines⟩ := by
        simp [trip, roundTrip, Action.bind_apply, Traced.bind, hcloses, hused, hregister]
      have hboth : tripReturned (effects ++ lines) = true := by
        rwa [tripReturned, Effect.transactionCalls_append, hcallsLines, List.append_nil]
      rw [htrip, hboth]
      refine ⟨(Bool.or_true _).symm, ?_⟩
      rw [Effect.announcements_append, Effect.announcements_eq_nil hdiscreet, hlines]
      cases shared.closed <;> rfl
  · have htrip : trip =
        ⟨(.panicked text, entries', { shared with engine, poisoned := true }), effects⟩ := by
      simp [trip, roundTrip, Action.bind_apply, Traced.bind,
        SharedTransaction.useWith_of_panicked hpoisoned hexecute]
    have hlost : tripReturned effects = false := by
      rw [tripReturned, hmade, hpanics]
      exact Bool.and_false _
    rw [htrip, hlost, Bool.and_false]
    exact Law.neutral.latched ⟨rfl, hdiscreet⟩

/-! ### Ways to run a batch -/

theorem ran_roundTrip (options : RoundTrip) (entries : List Entry) (shared : SharedTransaction σ) :
    Ran options shared (roundTrip options (entries, shared)).value.2.2
      (roundTrip options (entries, shared)).effects where
  latched := latched_roundTrip options entries shared
  unreached hpoisoned := by
    simp [roundTrip, Action.bind_apply, Traced.bind, tripReturned,
      SharedTransaction.useWith_of_poisoned _ _ hpoisoned]

/-- A run that makes the round trip of a batch. Besides, it makes no call on the transaction and
says nothing about its end. -/
structure Carries (options : RoundTrip) (batch : Batch) (shared after : SharedTransaction σ)
    (effects : List Effect) : Prop where
  after_eq : after = (roundTrip options (batch.entries, shared)).value.2.2
  notable_eq : notable effects = notable (roundTrip options (batch.entries, shared)).effects

theorem Carries.ran (h : Carries options batch shared after effects) :
    Ran options shared after effects := by
  obtain ⟨⟨hclosed, hannounced⟩, hunreached⟩ := ran_roundTrip options batch.entries shared
  have hreturned : tripReturned effects =
      tripReturned (roundTrip options (batch.entries, shared)).effects := by
    rw [tripReturned, ← Effect.transactionCalls_notable, h.notable_eq,
      Effect.transactionCalls_notable, tripReturned]
  rw [← hreturned, ← h.after_eq] at hclosed
  rw [← hreturned, ← Effect.announcements_notable, ← h.notable_eq,
    Effect.announcements_notable] at hannounced
  exact ⟨⟨hclosed, hannounced⟩, hreturned ▸ hunreached⟩

theorem Carries.inScope {call : BatchCall}
    {work : Action ((Batch × SharedTransaction σ) × Option OpenScope) (Except BatchError Report)}
    (hprepared : batch.phase = .prepared transaction)
    (h : Carries options batch shared
      (work ((batch, shared), opened options batch)).value.2.1.2
      (work ((batch, shared), opened options batch)).effects) :
    Carries options batch shared (Batch.inScope call options work (batch, shared)).value.2.2
      (Batch.inScope call options work (batch, shared)).effects where
  after_eq := by
    rw [value_inScope hprepared]
    exact h.after_eq
  notable_eq := (notable_inScope hprepared call work).trans h.notable_eq

theorem carries_execute (hprepared : batch.phase = .prepared transaction) :
    Carries options batch shared (execute options (batch, shared)).value.2.2
      (execute options (batch, shared)).effects := by
  refine Carries.inScope hprepared ?_
  rcases htrip : roundTrip options (batch.entries, shared) with
    ⟨⟨collected | text, entries', shared'⟩, effects⟩
  · rw [Action.bind_apply_of_returned (onEntries_roundTrip htrip _)]
    constructor <;> simp [htrip, opened, complete_aside]
  · rw [Action.bind_apply_of_panicked (onEntries_roundTrip htrip _)]
    constructor <;> simp [htrip]

theorem carries_executeAwaited (hprepared : batch.phase = .prepared transaction) (task : String) :
    Carries options batch shared (executeAwaited task options (batch, shared)).value.2.2
      (executeAwaited task options (batch, shared)).effects := by
  refine Carries.inScope hprepared ?_
  rcases htrip : roundTrip options (batch.entries, shared) with
    ⟨⟨collected | text, entries', shared'⟩, effects⟩ <;>
    rw [Action.bind_apply_of_returned (Action.onFirst_of (roundTripOnTask_eq htrip) _)] <;>
    dsimp only [Answer.map]
  · rw [Action.bind_apply_of_returned (takeOver_eq ..)]
    constructor <;> simp [htrip, opened, complete_aside]
  · constructor <;>
      simp [htrip, opened, Action.bind_apply, Traced.bind,
        Effect.notable_line (Scope.discreet_closing _ _)]

/-- The round trip is made although nobody waits for it, and the batch stays as it was. -/
theorem executeAbandoned_cases (options : RoundTrip) (batch : Batch)
    (shared : SharedTransaction σ) :
    (∃ lines : List Line, (∀ line ∈ lines, Discreet (.line line)) ∧
      executeAbandoned options (batch, shared) =
        let trip := roundTrip options (batch.entries, shared)
        ⟨(.returned (.ok ()), batch, trip.value.2.2), lines.map .line ++ trip.effects⟩) ∨
    ∃ refusal, executeAbandoned options (batch, shared) =
      pure (.returned (.error refusal), batch, shared) := by
  by_cases hphase : ∃ transaction, batch.phase = .prepared transaction
  · obtain ⟨transaction, hprepared⟩ := hphase
    obtain ⟨line, hline, hstart⟩ := start_of_prepared hprepared options shared
    let scope := executeScope options batch
    have hdiscreet : Discreet (.line line) := by
      rw [Discreet, Effect.announces, hline]
      rfl
    refine .inl ⟨[line, scope.opening, scope.closing .dropped], ?_, ?_⟩
    · simp [hdiscreet, Scope.discreet_opening, Scope.discreet_closing]
    rcases htrip : roundTrip options (batch.entries, shared) with
      ⟨⟨answer, entries', shared'⟩, effects⟩
    rw [executeAbandoned, Action.bind_apply_of_returned (hstart _)]
    simp [Action.bind_apply, Traced.bind, Action.within_apply, OpenScope.dropHeld, OpenScope.drop,
      roundTripOnTask_eq htrip, scope]
  · obtain ⟨entries, phase⟩ := batch
    cases phase with
    | prepared transaction => exact absurd ⟨transaction, rfl⟩ hphase
    | built | executed => exact .inr ⟨_, rfl⟩

theorem batch_executeAbandoned (options : RoundTrip) (batch : Batch)
    (shared : SharedTransaction σ) :
    (executeAbandoned options (batch, shared)).value.2.1 = batch := by
  obtain ⟨lines, -, habandoned⟩ | ⟨refusal, habandoned⟩ :=
    executeAbandoned_cases options batch shared
  · rw [habandoned]
  · rw [habandoned]
    rfl

theorem ran_execute (options : RoundTrip) (batch : Batch) (shared : SharedTransaction σ) :
    Ran options shared (execute options (batch, shared)).value.2.2
      (execute options (batch, shared)).effects := by
  by_cases hphase : ∃ transaction, batch.phase = .prepared transaction
  · exact (carries_execute hphase.choose_spec).ran
  · exact ran_of_refused (inScope_of_unprepared (not_exists.mp hphase))

theorem ran_executeAwaited (task : String) (options : RoundTrip) (batch : Batch)
    (shared : SharedTransaction σ) :
    Ran options shared (executeAwaited task options (batch, shared)).value.2.2
      (executeAwaited task options (batch, shared)).effects := by
  by_cases hphase : ∃ transaction, batch.phase = .prepared transaction
  · exact (carries_executeAwaited hphase.choose_spec task).ran
  · exact ran_of_refused (inScope_of_unprepared (not_exists.mp hphase))

theorem ran_executeAbandoned (options : RoundTrip) (batch : Batch) (shared : SharedTransaction σ) :
    Ran options shared (executeAbandoned options (batch, shared)).value.2.2
      (executeAbandoned options (batch, shared)).effects := by
  obtain ⟨lines, hlines, habandoned⟩ | ⟨refusal, habandoned⟩ :=
    executeAbandoned_cases options batch shared
  · rw [habandoned]
    have hcarries : Carries options batch shared
        (roundTrip options (batch.entries, shared)).value.2.2
        (lines.map .line ++ (roundTrip options (batch.entries, shared)).effects) :=
      ⟨rfl, by rw [Effect.notable_append, Effect.notable_lines hlines, List.nil_append]⟩
    exact hcarries.ran
  · exact ran_of_refused habandoned

theorem ran_submit (task : Option String) (options : RoundTrip) (batch : Batch)
    (shared : SharedTransaction σ) :
    Ran options shared (submit task options batch shared).value.2
      (submit task options batch shared).effects := by
  have hran : Ran options shared (run task options (batch, shared)).value.2.2
      (run task options (batch, shared)).effects := by
    cases task with
    | none => exact ran_execute options batch shared
    | some task => exact ran_executeAwaited task options batch shared
  rcases hrun : run task options (batch, shared) with
    ⟨⟨result | text, batch', shared'⟩, effects⟩ <;> rw [hrun] at hran
  · rwa [submit_of_returned task hrun]
  · rwa [submit_of_panicked task hrun]

end Batch

end StorageClient
