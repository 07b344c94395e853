import StorageClient.Proofs.Batch.Steps
import StorageClient.Transaction.Playback
/-!
# StorageClient.Proofs.Batch.Session

Sequences of calls on a batch, on a transaction that others use as well.

* An `Event` is a call with its answer, and with the calls it made on the transaction. The *past* of
  a batch is a list of events (`play`).
* What others do to the transaction is a move, too: it may change everything, but a transaction that
  is poisoned or closed stays so.
* `Known` is the invariant of such sequences: a built batch has no operation defined, and a prepared
  one had each operation defined or left out in the one call of `prepare` that was not refused.

The invariant says nothing of a poisoned transaction, because no call reaches it any more.
-/

namespace StorageClient

namespace Batch

/-- A call on a batch that may change it. -/
inductive Request
  | setError (n : Nat) (error : EngineError)
  | prepare
  | tryStart
  | execute (options : RoundTrip)
  | executeAwaited (task : String) (options : RoundTrip)
  deriving Repr, DecidableEq

/-- What such a call is answered, unless it is refused. -/
inductive Response
  | done
  | started (now : Bool)
  | report (report : Report)
  deriving Repr, DecidableEq

/-- A call on a batch, what came of it, and the calls it made on the transaction. -/
structure Event where
  request : Request
  answer : Answer (Except BatchError Response)
  calls : List TransactionCall
  deriving Repr, DecidableEq

variable {σ : Type}

/-! ### Recorded errors -/

/-- The error an event records for an entry, apart from refusals. -/
def Event.recorded (n : Nat) (event : Event) : Option EngineError :=
  match event.request, event.answer with
  | .setError m error, .returned (.ok _) => if m = n then some error else none
  | _, _ => none

/-- The error recorded last for an entry, apart from refusals. -/
def lastRecorded (n : Nat) (events : List Event) : Option EngineError :=
  (events.filterMap (Event.recorded n)).getLast?

theorem lastRecorded_concat (n : Nat) (events : List Event) (event : Event) :
    lastRecorded n (events ++ [event]) = (event.recorded n).or (lastRecorded n events) := by
  cases h : event.recorded n <;> simp [lastRecorded, h]

theorem mark_mark (recorded earlier : Option EngineError) (entry : Entry) :
    mark recorded (mark earlier entry) = mark (recorded.or earlier) entry := by
  cases recorded <;> cases earlier <;> rfl

theorem map_mark_none (found : Option Entry) : found.map (mark none) = found := by
  cases found <;> rfl

theorem getElem?_modify_mark (entries : List Entry) (n m : Nat) (error : EngineError) :
    (entries.modify m (mark (some error)))[n]? =
      entries[n]?.map (mark (if m = n then some error else none)) := by
  rw [List.getElem?_modify]
  by_cases h : m = n <;> cases entries[n]? <;> simp [h, mark]

/-! ### The invariant -/

/-- A past in which a batch was prepared: what came before and after that, and the calls that define
the operations, entry by entry. -/
structure Preparation (start : Batch) where
  early : List Event
  prepared : Event
  late : List Event
  definitions : List (List TransactionCall)
  request_eq : prepared.request = .prepare
  answer_eq : prepared.answer = .returned (.ok .done)
  calls_eq : prepared.calls = definitions.flatten
  length_definitions : definitions.length = start.length
  defined : ∀ call ∈ prepared.calls, call.isDefinition = true
  undefined_early : ∀ event ∈ early, ∀ call ∈ event.calls, call.isDefinition = false
  undefined_late : ∀ event ∈ late, ∀ call ∈ event.calls, call.isDefinition = false

def Preparation.past {start : Batch} (preparation : Preparation start) : List Event :=
  preparation.early ++ preparation.prepared :: preparation.late

/-- A batch that was not prepared in its past. -/
structure Unprepared (start : Batch) (past : List Event) (batch : Batch) : Prop where
  entries : ∀ n, batch.entries[n]? = start.entries[n]?.map (mark (lastRecorded n past))
  undefined : ∀ event ∈ past, ∀ call ∈ event.calls, call.isDefinition = false

/-- A batch that was prepared in its past. -/
structure Ready {start : Batch} (preparation : Preparation start) (batch : Batch) : Prop where
  length_entries : batch.length = start.length
  entries : ∀ n entry, start.entries[n]? = some entry → ∃ definition defined,
    preparation.definitions[n]? = some definition ∧
      Defined (mark (lastRecorded n preparation.early) entry) definition defined ∧
      batch.entries[n]? = some (mark (lastRecorded n preparation.late) defined)

/-- What is known of a batch and its transaction after a past that began with `start`. -/
def Known (start : Batch) (past : List Event) (state : Batch × SharedTransaction σ) : Prop :=
  state.2.poisoned = true ∨
    match state.1.phase with
    | .built => Unprepared start past state.1
    | .prepared _ => ∃ preparation : Preparation start,
        preparation.past = past ∧ Ready preparation state.1
    | .executed .. => True

/-- An event that defines nothing, and does nothing to a batch but record an error. -/
structure Quiet (event : Event) (batch batch' : Batch) : Prop where
  phase : batch'.phase = batch.phase
  entries : ∀ n, batch'.entries[n]? = batch.entries[n]?.map (mark (event.recorded n))
  undefined : ∀ call ∈ event.calls, call.isDefinition = false

section Invariant

variable {start : Batch} {past : List Event} {event : Event} {batch batch' : Batch}
  {shared shared' : SharedTransaction σ}

theorem length_eq_of_getElem? {entries entries' : List Entry} {f : Nat → Entry → Entry}
    (h : ∀ n, entries'[n]? = entries[n]?.map (f n)) : entries'.length = entries.length := by
  apply Nat.le_antisymm
  · apply List.getElem?_eq_none_iff.mp
    rw [h, List.getElem?_eq_none (Nat.le_refl _), Option.map_none]
  · apply List.getElem?_eq_none_iff.mp
    apply Option.map_eq_none_iff.mp
    rw [← h, List.getElem?_eq_none (Nat.le_refl _)]

theorem undefined_concat (hevents : ∀ event ∈ past, ∀ call ∈ event.calls, call.isDefinition = false)
    (hevent : ∀ call ∈ event.calls, call.isDefinition = false) :
    ∀ other ∈ past ++ [event], ∀ call ∈ other.calls, call.isDefinition = false := by
  intro other hother
  rcases List.mem_append.mp hother with hother | hother
  · exact hevents other hother
  · rw [List.mem_singleton.mp hother]
    exact hevent

theorem Unprepared.quiet (h : Unprepared start past batch) (hq : Quiet event batch batch') :
    Unprepared start (past ++ [event]) batch' where
  entries n := by
    rw [hq.entries, h.entries, Option.map_map, lastRecorded_concat]
    exact congrArg (Option.map · _) (funext fun entry => mark_mark _ _ entry)
  undefined := undefined_concat h.undefined hq.undefined

theorem Ready.quiet {preparation : Preparation start} (h : Ready preparation batch)
    (hq : Quiet event batch batch') :
    Ready { preparation with
      late := preparation.late ++ [event]
      undefined_late := undefined_concat preparation.undefined_late hq.undefined } batch' where
  length_entries := (length_eq_of_getElem? hq.entries).trans h.length_entries
  entries n entry hn := by
    obtain ⟨definition, defined, hdefinition, hdefined, hentry⟩ := h.entries n entry hn
    refine ⟨definition, defined, hdefinition, hdefined, ?_⟩
    rw [hq.entries, hentry, Option.map_some, mark_mark, lastRecorded_concat]

theorem Known.quiet (h : Known start past (batch, shared)) (hq : Quiet event batch batch')
    (hpoisoned : shared.poisoned = true → shared'.poisoned = true) :
    Known start (past ++ [event]) (batch', shared') := by
  rcases h with h | h
  · exact .inl (hpoisoned h)
  refine .inr ?_
  dsimp only at h ⊢
  -- A quiet event keeps the phase, so each part of the invariant is kept by itself.
  rw [hq.phase]
  cases hphase : batch.phase with
  | built =>
    rw [hphase] at h
    exact h.quiet hq
  | prepared transaction =>
    rw [hphase] at h
    obtain ⟨preparation, rfl, hready⟩ := h
    refine ⟨_, ?_, hready.quiet hq⟩
    rw [Preparation.past, Preparation.past, List.append_assoc, List.cons_append]
  | executed transaction error => trivial

/-- A call that is refused is quiet. -/
theorem quiet_of_refused (request : Request) (e : BatchError) (batch : Batch) :
    Quiet ⟨request, .returned (.error e), []⟩ batch batch where
  phase := rfl
  entries n := by
    have hrecorded : Event.recorded n ⟨request, .returned (.error e), []⟩ = none := by
      cases request <;> rfl
    rw [hrecorded, map_mark_none]
  undefined call hcall := nomatch hcall

/-- Preparing a batch defines each operation that is not left out. -/
theorem Unprepared.bound (h : Unprepared start past batch)
    {definitions : List (List TransactionCall)} {entries : List Entry}
    (hround : Round Defined batch.entries definitions entries) (phase : Phase) :
    ∃ preparation : Preparation start,
      preparation.past = past ++ [⟨.prepare, .returned (.ok .done), definitions.flatten⟩] ∧
        Ready preparation ⟨entries, phase⟩ := by
  have hlength : batch.entries.length = start.entries.length := length_eq_of_getElem? h.entries
  refine ⟨⟨past, ⟨.prepare, .returned (.ok .done), definitions.flatten⟩, [], definitions, rfl, rfl,
    rfl, hround.length_segments.trans hlength, fun call hcall => ?_, h.undefined,
    fun _ hevent => nomatch hevent⟩, rfl, hround.length_things.trans hlength, fun n entry hn => ?_⟩
  · obtain ⟨_, _, _, hvisited, hmem⟩ := hround.visited_of_mem hcall
    exact hvisited.isDefinition call hmem
  -- What is visited is the entry as it was marked until now.
  have hentry : batch.entries[n]? = some (mark (lastRecorded n past) entry) := by
    rw [h.entries, hn, Option.map_some]
  obtain ⟨definition, defined, hdefinition, hdefined, hvisited⟩ := hround.visited n _ hentry
  exact ⟨definition, defined, hdefinition, hvisited, hdefined⟩

theorem Known.setError (h : Known start past (batch, shared)) {n : Nat} {error : EngineError}
    {result : Except BatchError Batch} (hmarking : Marking batch n error result) :
    Known start (past ++ [⟨.setError n error, .returned (result.map fun _ => .done), []⟩])
      (result.toOption.getD batch, shared) := by
  cases hmarking with
  | refused e => exact h.quiet (quiet_of_refused _ e batch) id
  | marked hphase =>
    refine h.quiet ⟨rfl, fun m => ?_, fun call hcall => nomatch hcall⟩ id
    exact getElem?_modify_mark batch.entries m n error

theorem Known.prepare (h : Known start past (batch, shared))
    {value : Answer (Except BatchError Unit) × Batch × SharedTransaction σ}
    {calls : List TransactionCall} (hpreparing : Preparing batch shared value calls) :
    Known start (past ++ [⟨.prepare, value.1.map (Except.map fun () => .done), calls⟩])
      value.2 := by
  cases hpreparing with
  | refused e => exact h.quiet (quiet_of_refused .prepare e batch) id
  | bound hbuilt hreached hround engine =>
    -- The transaction could be used, so it was not poisoned before.
    rcases h with h | h
    · exact absurd h (by simp [hreached])
    · dsimp only at h
      rw [hbuilt] at h
      exact .inr (h.bound hround _)
  | panicked => exact .inl rfl

theorem Known.tryStart (h : Known start past (batch, shared))
    {value : Answer (Except BatchError Bool) × Batch × SharedTransaction σ}
    {calls : List TransactionCall} (hstarting : Starting batch shared value calls) :
    Known start (past ++ [⟨.tryStart, value.1.map (Except.map .started), calls⟩]) value.2 := by
  cases hstarting with
  | refused e => exact h.quiet (quiet_of_refused .tryStart e batch) id
  | asked hbound hreached now engine =>
    refine h.quiet ⟨rfl, fun n => (map_mark_none _).symm, fun call hcall => ?_⟩ id
    rw [List.mem_singleton.mp hcall]
    rfl
  | panicked => exact .inl rfl

theorem Known.execute (h : Known start past (batch, shared)) (request : Request)
    {options : RoundTrip} {value : Answer (Except BatchError Report) × Batch × SharedTransaction σ}
    {calls : List TransactionCall} (hexecuting : Executing options batch shared value calls) :
    Known start (past ++ [⟨request, value.1.map (Except.map .report), calls⟩]) value.2 := by
  cases hexecuting with
  | refused e => exact h.quiet (quiet_of_refused request e batch) id
  | made => exact .inr trivial
  | panicked => exact .inl rfl
  | lost => exact .inl rfl

end Invariant

/-! ### Moves -/

/-- An action whose results are told in another way. -/
def telling {τ α β : Type} (f : α → β) (action : Action τ (Except BatchError α)) :
    Action τ (Except BatchError β) := fun state =>
  ⟨((action state).value.1.map (Except.map f), (action state).value.2), (action state).effects⟩

/-- Makes a call. -/
def Request.perform [Sink] [Engine σ] :
    Request → Action (Batch × SharedTransaction σ) (Except BatchError Response)
  | setError n error => fun (batch, shared) =>
    let result := batch.setError n error
    pure (.returned (result.map fun _ => .done), result.toOption.getD batch, shared)
  | prepare => telling (fun () => .done) Batch.prepare
  | tryStart => telling .started Batch.tryStart
  | execute options => telling .report (Batch.execute options)
  | executeAwaited task options => telling .report (Batch.executeAwaited task options)

variable [Engine σ]

/-- The event that a call is. -/
def Request.event (request : Request) (state : Batch × SharedTransaction σ) : Event :=
  ⟨request, (request.perform state).value.1,
    Effect.transactionCalls (request.perform state).effects⟩

/-- What can happen to a batch and its transaction. -/
inductive Move (σ : Type)
  | call (request : Request)
  /-- Others use the transaction. -/
  | others (engine : σ) (poisons closes : Bool)

/-- The batch and its transaction after a move. -/
def Move.next : Move σ → Batch × SharedTransaction σ → Batch × SharedTransaction σ
  | call request, state => (request.perform state).value.2
  | others engine poisons closes, (batch, shared) =>
    (batch, { shared with
      engine, poisoned := shared.poisoned || poisons, closed := shared.closed || closes })

/-- The event that a move is. What others do is none. -/
def Move.events : Move σ → Batch × SharedTransaction σ → List Event
  | call request, state => [request.event state]
  | others .., _ => []

/-- The events of some moves, one after the other, and the state after them. -/
def play : List (Move σ) → Batch × SharedTransaction σ → List Event × Batch × SharedTransaction σ
  | [], state => ([], state)
  | move :: moves, state =>
    (move.events state ++ (play moves (move.next state)).1, (play moves (move.next state)).2)

/-- What every move preserves, holds after all moves. -/
theorem play_induction (Holds : List Event → Batch × SharedTransaction σ → Prop)
    (hmove : ∀ past state (move : Move σ), Holds past state →
      Holds (past ++ move.events state) (move.next state)) :
    ∀ (moves : List (Move σ)) {past : List Event} {state : Batch × SharedTransaction σ},
      Holds past state → Holds (past ++ (play moves state).1) (play moves state).2 := by
  intro moves
  induction moves with
  | nil =>
    intro past state h
    rwa [play, List.append_nil]
  | cons move moves ih =>
    intro past state h
    rw [play, ← List.append_assoc]
    exact ih (hmove past state move h)

theorem Known.move {start : Batch} {past : List Event} {state : Batch × SharedTransaction σ}
    (h : Known start past state) (move : Move σ) :
    Known start (past ++ move.events state) (move.next state) := by
  obtain ⟨batch, shared⟩ := state
  cases move with
  | others engine poisons closes =>
    rw [Move.events, List.append_nil]
    refine h.imp (fun hpoisoned => ?_) id
    exact (Bool.or_eq_true ..).mpr (.inl hpoisoned)
  | call request =>
    cases request with
    | setError n error => exact h.setError (marking batch n error)
    | prepare => exact h.prepare (preparing batch shared)
    | tryStart => exact h.tryStart (starting batch shared)
    | execute options => exact h.execute _ (executing options batch shared)
    | executeAwaited task options => exact h.execute _ (executing_awaited task options batch shared)

/-- What is known of a batch that is not prepared yet is known after all moves. -/
theorem known_play {start : Batch} (hstart : start.phase = .built) (shared : SharedTransaction σ)
    (moves : List (Move σ)) :
    Known start (play moves (start, shared)).1 (play moves (start, shared)).2 := by
  have hknown : Known start [] (start, shared) := by
    refine .inr ?_
    dsimp only
    rw [hstart]
    exact ⟨fun n => (map_mark_none _).symm, fun event hevent => nomatch hevent⟩
  exact play_induction (Known start) (fun _ _ move h => h.move move) moves hknown

/-! ### Orders to insert -/

def insertOrder (key : UInt8) : KeyOperation :=
  .new .insert ⟨"orders", ["id"], ["id"]⟩ [key] [key]

/-- A transaction in which some orders are refused, and some fail. -/
def ordersTransaction (refused failed : List (Bytes × EngineError)) : SharedTransaction Playback :=
  .new "tx" (.new ⟨0, refused, [], [], none, failed, [], none, false⟩)

end Batch

end StorageClient
