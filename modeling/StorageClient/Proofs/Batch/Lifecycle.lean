import StorageClient.Proofs.Batch.Forms
/-!
# StorageClient.Proofs.Batch.Lifecycle

The life of a batch, from any start, under any calls: those of a `Request`, handing the batch over,
and asking what came of it. Any call may panic, and others use the transaction in the meantime.

* A call that yields an error leaves the batch as it was, and a call that panics leaves it in its
  phase (`Lawful`). So the phase changes only by a call that succeeds.
* At most one round trip is made for the batch (`Thrifty`). After a round trip the batch is *spent*:
  it was executed, or a panic struck in the middle of the round trip. In the second case the batch
  is still prepared and may be executed again, but the transaction it is bound to is poisoned, and a
  poisoned transaction is not reached any more.
-/

namespace StorageClient.Batch

open Effect (trips trips_append)

variable {σ : Type}

/-! ### Calls -/

/-- A call on a batch. -/
inductive Call
  | plain (request : Request)
  /-- Hands the batch over, and waits until it is handed back. -/
  | submit (task : Option String) (options : RoundTrip)
  | outcome (n : Nat)
  | error (n : Nat)
  | blobResults (n : Nat)

/-- What a call leaves behind. -/
structure Left (σ : Type) where
  /-- What is told to the caller, or to the receiver of the batch. A panic is told to nobody. -/
  result : Option (Except BatchError Unit)
  /-- The batch, unless it was lost. -/
  batch? : Option Batch
  shared : SharedTransaction σ

/-- Whether a call succeeded or not, if it returned. -/
def told {α : Type} : Answer (Except BatchError α) → Option (Except BatchError Unit)
  | .returned result => some (result.map fun _ => ())
  | .panicked _ => none

/-- What a call leaves behind that does not give the batch away. -/
def Left.held {α : Type} (came : Answer (Except BatchError α) × Batch × SharedTransaction σ) :
    Left σ :=
  ⟨told came.1, some came.2.1, came.2.2⟩

/-- Makes a call. -/
def Call.perform [Engine σ] (batch : Batch) (shared : SharedTransaction σ) :
    Call → Traced (Left σ)
  | plain request =>
    match request.perform (batch, shared) with
    | ⟨came, effects⟩ => ⟨.held came, effects⟩
  | submit task options =>
    match Batch.submit task options batch shared with
    | ⟨(.returned submission, shared), effects⟩ =>
      let notification? := submission.notifications.head?
      ⟨⟨notification?.map fun notification => notification.result.map fun _ => (),
        notification?.map Notification.batch, shared⟩, effects⟩
    | ⟨(.panicked _, shared), effects⟩ => ⟨⟨none, none, shared⟩, effects⟩
  | outcome n => pure (.held (.returned (batch.outcome n), batch, shared))
  | error n => pure (.held (.returned (batch.error? n), batch, shared))
  | blobResults n => pure (.held (.returned (batch.blobResults n), batch, shared))

/-- How a call that succeeds may change the phase. -/
inductive Call.Advances : Call → Phase → Phase → Prop
  | prepares (transaction : String) :
    Advances (.plain .prepare) .built (.prepared transaction)
  | executes (options : RoundTrip) (transaction reached : String) (error : Option EngineError) :
    Advances (.plain (.execute options)) (.prepared transaction) (.executed reached error)
  | awaits (task : String) (options : RoundTrip) (transaction reached : String)
      (error : Option EngineError) :
    Advances (.plain (.executeAwaited task options)) (.prepared transaction)
      (.executed reached error)
  | submits (task : Option String) (options : RoundTrip) (transaction reached : String)
      (error : Option EngineError) :
    Advances (.submit task options) (.prepared transaction) (.executed reached error)

theorem Call.Advances.first_ne_executed {call : Call} {first next : Phase}
    (h : call.Advances first next) (transaction : String) (error : Option EngineError) :
    first ≠ .executed transaction error := by
  cases h <;> exact nofun

theorem Call.Advances.next_ne_built {call : Call} {first next : Phase}
    (h : call.Advances first next) : next ≠ .built := by
  cases h <;> exact nofun

/-- No further round trip can be made for a batch. -/
def Spent (batch? : Option Batch) (shared : SharedTransaction σ) : Prop :=
  ∀ batch, batch? = some batch →
    (∃ transaction error, batch.phase = .executed transaction error) ∨
      batch.phase ≠ .built ∧ shared.poisoned = true

theorem spent_of_executed {batch : Batch} {transaction : String} {error : Option EngineError}
    (h : batch.phase = .executed transaction error) (shared : SharedTransaction σ) :
    Spent (some batch) shared := fun _ hafter =>
  .inl ⟨transaction, error, Option.some.inj hafter ▸ h⟩

theorem spent_of_poisoned {batch : Batch} {shared : SharedTransaction σ}
    (hbound : batch.phase ≠ .built) (hpoisoned : shared.poisoned = true) :
    Spent (some batch) shared := fun _ hafter =>
  .inr ⟨Option.some.inj hafter ▸ hbound, hpoisoned⟩

/-- At most one round trip was made, and the batch is spent if one was. -/
structure Thrifty (past : List Effect) (state : Option Batch × SharedTransaction σ) : Prop where
  trips_le : trips past ≤ 1
  spent : trips past ≠ 0 → Spent state.1 state.2

/-- What makes no round trip, and leaves a spent batch spent. -/
theorem Thrifty.quiet {past : List Effect} {state state' : Option Batch × SharedTransaction σ}
    (h : Thrifty past state) (hspent : Spent state.1 state.2 → Spent state'.1 state'.2) :
    Thrifty (past ++ []) state' := by
  rw [List.append_nil]
  exact ⟨h.trips_le, fun htrips => hspent (h.spent htrips)⟩

/-- What every call on a batch obeys. -/
structure Lawful (call : Call) (batch : Batch) (shared : SharedTransaction σ)
    (performed : Traced (Left σ)) : Prop where
  /-- Only a call that succeeds changes the phase. -/
  advances : ∀ after, performed.value.batch? = some after → after.phase = batch.phase ∨
    performed.value.result = some (.ok ()) ∧ call.Advances batch.phase after.phase
  /-- An error leaves the batch as it was. -/
  unchanged : ∀ error, performed.value.result = some (.error error) →
    performed.value.batch? = some batch
  trips_le_one : trips performed.effects ≤ 1
  /-- A round trip is made only for a prepared batch, on a transaction that can be used. -/
  ready : trips performed.effects ≠ 0 →
    shared.poisoned = false ∧ ∃ transaction, batch.phase = .prepared transaction
  spent : trips performed.effects ≠ 0 → Spent performed.value.batch? performed.value.shared
  /-- A transaction that is poisoned stays so. -/
  poisoned : shared.poisoned = true → performed.value.shared.poisoned = true

/-! ### One call -/

section Lawful

variable {call : Call} {batch : Batch} {shared : SharedTransaction σ} {effects : List Effect}

/-- What a call without a round trip has to obey. -/
theorem lawful_of_no_trip {result : Option (Except BatchError Unit)} {after : Batch}
    {shared' : SharedTransaction σ} (htrips : trips effects = 0)
    (hphase : after.phase = batch.phase ∨
      result = some (.ok ()) ∧ call.Advances batch.phase after.phase)
    (herror : ∀ error, result = some (.error error) → after = batch)
    (hpoisoned : shared.poisoned = true → shared'.poisoned = true) :
    Lawful call batch shared ⟨⟨result, some after, shared'⟩, effects⟩ where
  advances _ hafter := Option.some.inj hafter ▸ hphase
  unchanged error hresult := congrArg some (herror error hresult)
  trips_le_one := htrips ▸ Nat.zero_le 1
  ready hne := absurd htrips hne
  spent hne := absurd htrips hne
  poisoned := hpoisoned

/-- What a call with a round trip has to obey. -/
theorem lawful_of_trip {result : Option (Except BatchError Unit)} {after : Batch}
    {shared' : SharedTransaction σ} {transaction : String} (htrips : trips effects ≤ 1)
    (hreached : shared.poisoned = false) (hprepared : batch.phase = .prepared transaction)
    (hphase : after.phase = batch.phase ∨
      result = some (.ok ()) ∧ call.Advances batch.phase after.phase)
    (herror : ∀ error, result = some (.error error) → after = batch)
    (hspent : Spent (some after) shared') :
    Lawful call batch shared ⟨⟨result, some after, shared'⟩, effects⟩ where
  advances _ hafter := Option.some.inj hafter ▸ hphase
  unchanged error hresult := congrArg some (herror error hresult)
  trips_le_one := htrips
  ready _ := ⟨hreached, transaction, hprepared⟩
  spent _ := hspent
  poisoned hpoisoned := nomatch hreached.symm.trans hpoisoned

/-- A call that only looks at the batch, or is refused, is lawful. -/
theorem lawful_of_look {result : Option (Except BatchError Unit)} (htrips : trips effects = 0) :
    Lawful call batch shared ⟨⟨result, some batch, shared⟩, effects⟩ :=
  lawful_of_no_trip htrips (.inl rfl) (fun _ _ => rfl) id

theorem Marking.lawful {n : Nat} {error : EngineError} {result : Except BatchError Batch}
    (h : Marking batch n error result) :
    Lawful call batch shared
      ⟨.held (.returned (result.map fun _ => Response.done), result.toOption.getD batch, shared),
        []⟩ := by
  cases h with
  | refused e => exact lawful_of_look rfl
  | marked => exact lawful_of_no_trip rfl (.inl rfl) nofun id

theorem Preparing.lawful {came : Answer (Except BatchError Unit) × Batch × SharedTransaction σ}
    {calls : List TransactionCall} (h : Preparing batch shared came calls)
    (htrips : trips effects = 0) :
    Lawful (.plain .prepare) batch shared ⟨.held came, effects⟩ := by
  cases h with
  | refused e => exact lawful_of_look htrips
  | bound hbuilt =>
    exact lawful_of_no_trip htrips (.inr ⟨rfl, hbuilt ▸ .prepares shared.id⟩) nofun id
  | panicked hbuilt => exact lawful_of_no_trip htrips (.inl hbuilt.symm) nofun fun _ => rfl

theorem Starting.lawful {came : Answer (Except BatchError Bool) × Batch × SharedTransaction σ}
    {calls : List TransactionCall} (h : Starting batch shared came calls)
    (htrips : trips effects = 0) : Lawful call batch shared ⟨.held came, effects⟩ := by
  cases h with
  | refused e => exact lawful_of_look htrips
  | asked => exact lawful_of_no_trip htrips (.inl rfl) nofun id
  | panicked => exact lawful_of_no_trip htrips (.inl rfl) nofun fun _ => rfl

/-- An execution is lawful: if a round trip is made, the batch is spent. -/
theorem Executing.lawful {options : RoundTrip}
    {came : Answer (Except BatchError Report) × Batch × SharedTransaction σ}
    (h : Executing options batch shared came (Effect.transactionCalls effects))
    (htrips : trips effects ≤ 1)
    (hadvances : ∀ transaction reached error,
      call.Advances (.prepared transaction) (.executed reached error)) :
    Lawful call batch shared ⟨.held came, effects⟩ := by
  generalize hcalls : Effect.transactionCalls effects = calls at h
  cases h with
  | refused e => exact lawful_of_look (Effect.trips_eq_zero hcalls)
  | made transaction hprepared hreached hround engine =>
    exact lawful_of_trip htrips hreached hprepared
      (.inr ⟨rfl, hprepared ▸ hadvances transaction _ _⟩) nofun (spent_of_executed rfl _)
  | panicked transaction hprepared hreached text entries engine =>
    exact lawful_of_trip htrips hreached hprepared (.inl rfl) nofun
      (spent_of_poisoned (by simp [hprepared]) rfl)
  | lost transaction hprepared hreached e engine =>
    exact lawful_of_trip htrips hreached hprepared (.inl rfl) (fun _ _ => rfl)
      (spent_of_poisoned (by simp [hprepared]) rfl)

/-- A call that panics may lose the batch. -/
theorem Lawful.lose {after? : Option Batch} {shared' : SharedTransaction σ}
    (h : Lawful call batch shared ⟨⟨none, after?, shared'⟩, effects⟩) :
    Lawful call batch shared ⟨⟨none, none, shared'⟩, effects⟩ where
  advances _ hafter := nomatch hafter
  unchanged _ herror := nomatch herror
  trips_le_one := h.trips_le_one
  ready := h.ready
  spent _ _ hbatch := nomatch hbatch
  poisoned := h.poisoned

/-- In which words a result is told makes no difference. -/
theorem Lawful.telling {α β : Type} (f : α → β)
    {action : Action (Batch × SharedTransaction σ) (Except BatchError α)}
    (h : Lawful call batch shared
      ⟨.held (action (batch, shared)).value, (action (batch, shared)).effects⟩) :
    Lawful call batch shared ⟨.held (telling f action (batch, shared)).value,
      (telling f action (batch, shared)).effects⟩ := by
  have htold : told ((action (batch, shared)).value.1.map (Except.map f)) =
      told (action (batch, shared)).value.1 := by
    rcases (action (batch, shared)).value.1 with (_ | _) | _ <;> rfl
  rw [Left.held, Batch.telling, htold]
  exact h

/-- A spent batch makes no round trip. -/
theorem Lawful.trips_of_spent {performed : Traced (Left σ)}
    (h : Lawful call batch shared performed) (hspent : Spent (some batch) shared) :
    trips performed.effects = 0 := by
  refine Decidable.byContradiction fun hne => ?_
  obtain ⟨hreached, transaction, hprepared⟩ := h.ready hne
  rcases hspent batch rfl with ⟨_, _, hexecuted⟩ | ⟨-, hpoisoned⟩
  · exact nomatch hprepared.symm.trans hexecuted
  · exact nomatch hreached.symm.trans hpoisoned

/-- A spent batch stays spent. -/
theorem Lawful.spent_of_spent {performed : Traced (Left σ)}
    (h : Lawful call batch shared performed) (hspent : Spent (some batch) shared) :
    Spent performed.value.batch? performed.value.shared := by
  intro after hafter
  rcases hspent batch rfl with ⟨transaction, error, hexecuted⟩ | ⟨hbound, hpoisoned⟩
  · rcases h.advances after hafter with hsame | ⟨-, hadvances⟩
    · exact .inl ⟨transaction, error, hsame.trans hexecuted⟩
    · exact absurd hexecuted (hadvances.first_ne_executed transaction error)
  · refine .inr ⟨?_, h.poisoned hpoisoned⟩
    rcases h.advances after hafter with hsame | ⟨-, hadvances⟩
    · rwa [hsame]
    · exact hadvances.next_ne_built

end Lawful

variable [Engine σ]

/-- Every call on a batch is lawful. -/
theorem lawful_perform (call : Call) (batch : Batch) (shared : SharedTransaction σ) :
    Lawful call batch shared (call.perform batch shared) := by
  cases call with
  | outcome n => exact lawful_of_look rfl
  | error n => exact lawful_of_look rfl
  | blobResults n => exact lawful_of_look rfl
  | submit task options =>
    have hexecuting := executing_run task options batch shared
    have htrips := (orderly_run task options (batch, shared)).trips_le
    rcases hrun : run task options (batch, shared) with ⟨⟨result | text, batch', shared'⟩, effects⟩
    all_goals
      rw [hrun] at hexecuting htrips
      have hlawful := hexecuting.lawful htrips (Call.Advances.submits task options)
    · rw [Call.perform, submit_of_returned task hrun]
      exact hlawful
    · rw [Call.perform, submit_of_panicked task hrun]
      exact hlawful.lose
  | plain request =>
    cases request with
    | setError n error => exact (marking batch n error).lawful
    | prepare =>
      have htrips := Nat.le_zero.mp (orderly_prepare (batch, shared)).trips_le
      exact ((preparing batch shared).lawful htrips).telling _
    | tryStart =>
      have htrips := Nat.le_zero.mp (orderly_tryStart (batch, shared)).trips_le
      exact ((starting batch shared).lawful htrips).telling _
    | execute options =>
      have htrips := (orderly_execute options (batch, shared)).trips_le
      exact ((executing options batch shared).lawful htrips
        (Call.Advances.executes options)).telling _
    | executeAwaited task options =>
      have htrips := (orderly_executeAwaited task options (batch, shared)).trips_le
      exact ((executing_awaited task options batch shared).lawful htrips
        (Call.Advances.awaits task options)).telling _

/-! ### The life of a batch -/

/-- What can happen to a batch and its transaction. -/
inductive Turn (σ : Type)
  | call (call : Call)
  /-- Others use the transaction. -/
  | others (engine : σ) (poisons closes : Bool)
  /-- Another transaction is at hand. Only a batch that is not bound yet can be prepared on it. -/
  | offer (other : SharedTransaction σ)

/-- Takes a turn. Once the batch is lost, there is nothing left to call. -/
def Turn.take :
    Turn σ → Option Batch × SharedTransaction σ → Traced (Option Batch × SharedTransaction σ)
  | call made, (some batch, shared) =>
    match made.perform batch shared with
    | ⟨left, effects⟩ => ⟨(left.batch?, left.shared), effects⟩
  | call _, (none, shared) => pure (none, shared)
  | others engine poisons closes, (batch?, shared) =>
    pure (batch?, { shared with
      engine, poisoned := shared.poisoned || poisons, closed := shared.closed || closes })
  | offer other, (batch?, shared) =>
    pure (batch?, if batch?.map phase = some .built then other else shared)

/-- Takes one turn after the other. -/
def live (turns : List (Turn σ)) (state : Option Batch × SharedTransaction σ) :
    Traced (Option Batch × SharedTransaction σ) :=
  Traced.foldl (fun state turn => turn.take state) state turns

theorem Thrifty.take {past : List Effect} {state : Option Batch × SharedTransaction σ}
    (h : Thrifty past state) (turn : Turn σ) :
    Thrifty (past ++ (turn.take state).effects) (turn.take state).value := by
  obtain ⟨batch?, shared⟩ := state
  cases turn with
  | call call =>
    cases batch? with
    | none => exact h.quiet id
    | some batch =>
      have hlawful := lawful_perform call batch shared
      change Thrifty (past ++ (call.perform batch shared).effects)
        ((call.perform batch shared).value.batch?, (call.perform batch shared).value.shared)
      by_cases hpast : trips past = 0
      · constructor
        · rw [trips_append, hpast, Nat.zero_add]
          exact hlawful.trips_le_one
        · rw [trips_append, hpast, Nat.zero_add]
          exact hlawful.spent
      · -- There was a round trip before, so there is none now.
        have hspent := h.spent hpast
        constructor
        · rw [trips_append, hlawful.trips_of_spent hspent, Nat.add_zero]
          exact h.trips_le
        · exact fun _ => hlawful.spent_of_spent hspent
  | others engine poisons closes =>
    refine h.quiet fun hspent batch hbatch => ?_
    refine (hspent batch hbatch).imp id fun ⟨hbound, hpoisoned⟩ => ⟨hbound, ?_⟩
    exact (Bool.or_eq_true ..).mpr (.inl hpoisoned)
  | offer other =>
    refine h.quiet fun hspent batch hbatch => ?_
    rcases hspent batch hbatch with hexecuted | ⟨hbound, hpoisoned⟩
    · exact .inl hexecuted
    · obtain rfl : batch? = some batch := hbatch
      refine .inr ⟨hbound, ?_⟩
      show (if some batch.phase = some .built then other else shared).poisoned = true
      rwa [if_neg fun hbuilt => hbound (Option.some.inj hbuilt)]

theorem Thrifty.live {past : List Effect} {state : Option Batch × SharedTransaction σ}
    (h : Thrifty past state) (turns : List (Turn σ)) :
    Thrifty (past ++ (live turns state).effects) (live turns state).value := by
  induction turns generalizing past state with
  | nil => simpa [Batch.live] using h
  | cons turn turns ih =>
    have hrest := ih (h.take turn)
    simpa [Batch.live, Traced.foldl_cons] using hrest

/-- **The life of a batch.** Let a batch take any turns. At most one round trip is made for it, and
every further call on it is lawful: it changes the phase only from built to prepared or from
prepared to executed, and only if it succeeds; and if it yields an error, it leaves the batch as it
was. -/
theorem at_most_one_round_trip (batch : Batch) (shared : SharedTransaction σ)
    (turns : List (Turn σ)) :
    let lived := live turns (some batch, shared)
    trips lived.effects ≤ 1 ∧
      ∀ reached, lived.value.1 = some reached → ∀ call : Call,
        Lawful call reached lived.value.2 (call.perform reached lived.value.2) := by
  intro lived
  have hstart : Thrifty [] (some batch, shared) := ⟨Nat.zero_le 1, fun htrips => absurd rfl htrips⟩
  have hlived := hstart.live turns
  rw [List.nil_append] at hlived
  exact ⟨hlived.trips_le, fun reached _ call => lawful_perform call reached _⟩

/-- A round trip panics. The batch is still prepared after that, but to execute it again is an
error, and changes nothing. -/
theorem at_most_one_round_trip_orders :
    let shared := SharedTransaction.new "tx"
      (Playback.new ⟨0, [], [], [.panics "connection lost"], none, [], [], none, false⟩)
    let execute : Call := .plain (.execute ⟨.commit, .operationDefault, .deferred⟩)
    let lived := live [.call (.plain .prepare), .call execute, .call execute]
      (some (Batch.new [insertOrder 1]), shared)
    trips lived.effects = 1 ∧
      ∃ batch, lived.value.1 = some batch ∧ batch.phase = .prepared "tx" ∧
        (execute.perform batch lived.value.2).value.result =
          some (.error (.transaction .lockPoisoned)) ∧
        (execute.perform batch lived.value.2).value.batch? = some batch := by
  intro shared execute lived
  obtain ⟨hle, hlawful⟩ := at_most_one_round_trip (Batch.new [insertOrder 1]) shared
    [.call (.plain .prepare), .call execute, .call execute]
  obtain ⟨batch, hreached, hphase⟩ :
      ∃ batch, lived.value.1 = some batch ∧ batch.phase = .prepared "tx" := ⟨_, rfl, rfl⟩
  have hrefused : (execute.perform batch lived.value.2).value.result =
      some (.error (.transaction .lockPoisoned)) := by
    obtain rfl := Option.some.inj hreached
    rfl
  have htrips : 1 ≤ trips lived.effects := by decide
  exact ⟨Nat.le_antisymm hle htrips, batch, hreached, hphase, hrefused,
    (hlawful batch hreached execute).unchanged _ hrefused⟩

end StorageClient.Batch
