import StorageClient.Proofs.Batch.Forms
import StorageClient.Proofs.Laws
/-!
# StorageClient.Proofs.Batch.Errors

Where the errors of a batch come from. An error of an operation, and the error of the transaction,
are asked for, and one with code 0 is none (`genuine`). But an error with which the engine refuses a
call is taken as it is, whatever its code: that of a definition becomes the error of an entry, and
that of the round trip the error of the transaction (`TransactionCall.refusal?`).

So a batch that carries an error carried it before, or the error is genuine, or the engine refused a
call with it (`Law.sourced`). This holds of every call on a batch, also of one that panics half way
through the entries.
-/

namespace StorageClient

open Effect (transactionCalls)

variable {σ τ α : Type}

/-- The error with which the engine refused a call. -/
def TransactionCall.refusal? : TransactionCall → Option EngineError
  | define _ (.returned (.error refusal)) | execute _ (.returned (.error refusal)) => some refusal
  | _ => none

/-- The errors with which the engine refused calls. -/
def Effect.refusals (effects : List Effect) : List EngineError :=
  (transactionCalls effects).filterMap TransactionCall.refusal?

@[simp] theorem Effect.refusals_append (before after : List Effect) :
    refusals (before ++ after) = refusals before ++ refusals after := by
  simp [refusals]

open Effect (refusals refusals_append)

/-! ### Sources of errors -/

/-- Errors are carried on, and new ones are genuine, or the engine refused a call with them. -/
def Law.sourced (carries : σ → EngineError → Prop) : Law σ where
  Allows before after effects := ∀ error, carries after error →
    carries before error ∨ error.isOk = false ∨ error ∈ refusals effects
  rest _ _ hcarries := .inl hcarries
  trans hbefore hafter := by
    intro error hcarries
    obtain hmid | hgenuine | hrefused := hafter error hcarries
    · obtain hfirst | hgenuine | hrefused := hbefore error hmid
      · exact .inl hfirst
      · exact .inr (.inl hgenuine)
      · exact .inr (.inr (refusals_append _ _ ▸ List.mem_append_left _ hrefused))
    · exact .inr (.inl hgenuine)
    · exact .inr (.inr (refusals_append _ _ ▸ List.mem_append_right _ hrefused))

namespace Law

/-- The errors of a list are those of its things. -/
def sourcedList (carries : σ → EngineError → Prop) : Law (List σ) :=
  sourced fun things error => ∃ thing ∈ things, carries thing error

variable {carries : σ → EngineError → Prop} {thing thing' : σ} {things things' : List σ}
  {effects : List Effect}

theorem sourcedList_head (h : (sourced carries).Allows thing thing' effects) (things : List σ) :
    (sourcedList carries).Allows (thing :: things) (thing' :: things) effects := by
  rintro error ⟨other, hmem, hcarries⟩
  obtain rfl | hmem := List.mem_cons.mp hmem
  · exact (h error hcarries).imp_left fun hbefore => ⟨thing, List.mem_cons_self, hbefore⟩
  · exact .inl ⟨other, List.mem_cons_of_mem thing hmem, hcarries⟩

theorem sourcedList_tail (h : (sourcedList carries).Allows things things' effects) (thing : σ) :
    (sourcedList carries).Allows (thing :: things) (thing :: things') effects := by
  rintro error ⟨other, hmem, hcarries⟩
  obtain rfl | hmem := List.mem_cons.mp hmem
  · exact .inl ⟨other, List.mem_cons_self, hcarries⟩
  · refine (h error ⟨other, hmem, hcarries⟩).imp_left ?_
    rintro ⟨before, hbefore, hcarried⟩
    exact ⟨before, List.mem_cons_of_mem thing hbefore, hcarried⟩

end Law

namespace Action.Obeys

variable {carries : σ → EngineError → Prop}

/-- What brings no new errors may have any effects. -/
theorem sourced_of_carried {action : Action σ α}
    (h : ∀ state error, carries (action state).value.2 error → carries state error) :
    Obeys (.sourced carries) action := fun state error hcarries => .inl (h state error hcarries)

/-- An action on something else brings no errors. -/
theorem sourced_onSecond (action : Action τ α) :
    Obeys ((Law.sourced carries).on Prod.fst) (Action.onSecond action : Action (σ × τ) α) :=
  fun _ _ hcarries => .inl hcarries

theorem sourced_modify {f : σ → σ}
    (h : ∀ state error, carries (f state) error → carries state error) :
    Obeys ((Law.sourced carries).on Prod.fst)
      (Action.onFirst (Action.modify f) : Action (σ × τ) Unit) :=
  (sourced_of_carried h).onFirst

theorem sourced_lift (x : Traced α) :
    Obeys ((Law.sourced carries).on Prod.fst) (Action.lift x : Action (σ × τ) α) :=
  fun _ _ hcarries => .inl hcarries

/-- A use of a shared transaction does to the thing that goes along what its body does to it. -/
theorem fst_useWith {law : Law τ} {body : Action (τ × σ) α} (h : Obeys (law.on Prod.fst) body) :
    Obeys (law.on Prod.fst) (SharedTransaction.useWith body) := by
  rintro ⟨thing, shared⟩
  by_cases hpoisoned : shared.poisoned = true
  · rw [SharedTransaction.useWith_of_poisoned body thing hpoisoned]
    exact law.rest thing
  rw [Bool.not_eq_true] at hpoisoned
  have hbody := h (thing, shared.engine)
  rcases hrun : body (thing, shared.engine) with ⟨⟨answer, thing', engine⟩, effects⟩
  rw [hrun] at hbody
  cases answer with
  | returned value =>
    rw [SharedTransaction.useWith_of_returned hpoisoned hrun]
    exact hbody
  | panicked text =>
    rw [SharedTransaction.useWith_of_panicked hpoisoned hrun]
    exact hbody

/-- What holds of the action on each thing, holds of a round, also of one that a panic cuts
short. -/
theorem sourced_forEach {action : Action (σ × τ) Unit}
    (h : Obeys ((Law.sourced carries).on Prod.fst) action) :
    Obeys ((Law.sourcedList carries).on Prod.fst) (Action.forEach action) := by
  rintro ⟨things, rest⟩
  change (Law.sourcedList carries).Allows things (visit action things rest).value.2.1
    (visit action things rest).effects
  induction things generalizing rest with
  | nil => exact (Law.sourcedList carries).rest []
  | cons thing things ih =>
    have hfirst := h (thing, rest)
    rcases hrun : action (thing, rest) with ⟨⟨answer, thing', mid⟩, before⟩
    rw [hrun, Law.on_allows] at hfirst
    have hhead := Law.sourcedList_head hfirst things
    cases answer with
    | returned value =>
      have hall := (Law.sourcedList carries).trans hhead (Law.sourcedList_tail (ih mid) thing')
      simpa [visit, Traced.bind, hrun] using hall
    | panicked text => simpa [visit, Traced.bind, hrun] using hhead

end Action.Obeys

/-! ### Entries -/

/-- An entry with an error of its own. -/
def Entry.CarriesError (entry : Entry) (error : EngineError) : Prop := entry.slot = .operation error

namespace Batch

open StorageClient.Action (Obeys)

theorem isOk_of_genuine {error? : Option EngineError} {error : EngineError}
    (h : genuine error? = some error) : error.isOk = false := by
  obtain ⟨-, hgenuine⟩ := Option.filter_eq_some_iff.mp h
  simpa using hgenuine

theorem sourced_setSlot {slot : Slot} (h : ∀ error, slot = .operation error → error.isOk = false) :
    Obeys ((Law.sourced Entry.CarriesError).on Prod.fst) (setSlot slot : Action (Entry × σ) Unit) :=
  fun _ error hcarries => .inr (.inl (h error hcarries))

section Entries

variable [Engine σ]

/-- A refused definition becomes the error of its entry. -/
theorem sourced_defineEntry :
    Obeys ((Law.sourced Entry.CarriesError).on Prod.fst)
      (defineEntry : Action (Entry × σ) Unit) := by
  rintro ⟨entry, engine⟩ error hcarries
  by_cases hslot : entry.slot.isOperation = true
  · left
    simpa [defineEntry, Action.bind_apply, Traced.bind, hslot] using hcarries
  rw [Bool.not_eq_true] at hslot
  rcases hask : Engine.define entry.operation engine with ⟨⟨refusal | id⟩ | text, next⟩ <;>
    simp [defineEntry, Action.bind_apply, Traced.bind, hslot, Transaction.define, Transaction.call,
      hask, setSlot] at hcarries ⊢
  · obtain rfl : refusal = error := Slot.operation.inj hcarries
    exact .inr (.inr (List.mem_singleton_self _))
  · exact .inl hcarries
  · exact .inl hcarries

theorem sourced_defineEntries :
    Obeys ((Law.sourcedList Entry.CarriesError).on Prod.fst)
      (defineEntries : Action (List Entry × σ) Nat) :=
  .bind (.sourced_forEach sourced_defineEntry) fun _ => .bind .get fun _ => .pure _

/-- The round trip looks at the codes of the errors it asks for. -/
theorem sourced_collectEntry (transactionError : Option EngineError) :
    Obeys ((Law.sourced Entry.CarriesError).on Prod.fst)
      (collectEntry transactionError : Action (Entry × σ) Unit) := by
  refine .bind .get fun (entry, _) => ?_
  dsimp only
  split
  · exact .pure _
  · split
    · exact .pure _
    · refine .bind (.sourced_onSecond _) fun own => ?_
      split
      · rename_i own cause hown
        refine sourced_setSlot fun error hslot => ?_
        exact Slot.operation.inj hslot ▸ isOk_of_genuine hown
      · exact sourced_setSlot nofun
      · exact fun _ _ hcarries => .inl hcarries

theorem sourced_roundTrip (options : RoundTrip) :
    Obeys ((Law.sourcedList Entry.CarriesError).on Prod.fst) (roundTrip options :
      Action (List Entry × SharedTransaction σ) (Except EngineError (Option EngineError))) := by
  have hexecute : Obeys ((Law.sourcedList Entry.CarriesError).on Prod.fst)
      (executeEntries options : Action (List Entry × σ) (Option EngineError)) :=
    .bind (.sourced_onSecond _) fun _ => .bind (.sourced_onSecond _) fun _ =>
      .bind (.sourced_forEach (sourced_collectEntry _)) fun _ => .pure _
  refine .bind (.fst_useWith hexecute) fun result => ?_
  cases result with
  | error refusal => exact .pure _
  | ok transactionError =>
    dsimp only
    split
    · exact .bind (.sourced_onSecond _) fun _ => .pure _
    · exact .pure _

end Entries

/-! ### Batches -/

/-- A batch with an error of an entry. -/
def CarriesEntryError (batch : Batch) (error : EngineError) : Prop :=
  ∃ entry ∈ batch.entries, entry.CarriesError error

/-- A batch with an error of an entry, or of the transaction. -/
def CarriesError (batch : Batch) (error : EngineError) : Prop :=
  batch.CarriesEntryError error ∨ batch.transactionError = some error

theorem not_carriesError_new (operations : List KeyOperation) (error : EngineError) :
    ¬(Batch.new operations).CarriesError error := by
  rintro (⟨entry, hentry, hslot⟩ | htransaction)
  · obtain ⟨operation, -, rfl⟩ := List.mem_map.mp hentry
    exact nomatch hslot
  · exact nomatch htransaction

theorem sourced_onEntries {action : Action (List Entry × τ) α}
    (h : Obeys ((Law.sourcedList Entry.CarriesError).on Prod.fst) action) :
    Obeys ((Law.sourced CarriesEntryError).on Prod.fst) (onEntries action) :=
  fun (batch, rest) => h (batch.entries, rest)

theorem sourced_start (call : BatchCall) (options : RoundTrip) :
    Obeys ((Law.sourced CarriesEntryError).on Prod.fst) (start call options :
      Action (Batch × SharedTransaction σ) (Except BatchError Scope)) := by
  refine .bind .get fun (batch, shared) => ?_
  dsimp only
  split
  · exact .bind (.sourced_lift _) fun _ => .pure _
  · exact .pure _
  · exact .pure _

theorem sourced_record (exec : ExecType) (transactionError : Option EngineError) :
    Obeys ((Law.sourced CarriesEntryError).on Prod.fst) (record exec transactionError :
      Action (Batch × SharedTransaction σ) Report) := by
  refine .bind .get fun (_, shared) =>
    .bind (.sourced_modify fun _ _ hcarries => hcarries) fun _ =>
    .bind .get fun (batch, _) =>
    .bind (.sourced_lift _) fun _ => .bind (.sourced_lift _) fun _ => ?_
  cases transactionError with
  | some error => exact .bind (.sourced_lift _) fun _ => .pure _
  | none => exact .bind (.sourced_lift _) fun _ => .pure _

theorem sourced_complete (exec : ExecType) (collected : Except EngineError (Option EngineError)) :
    Obeys (((Law.sourced CarriesEntryError).on Prod.fst).on Prod.fst) (complete exec collected :
      Action ((Batch × SharedTransaction σ) × Option OpenScope) (Except BatchError Report)) := by
  have hclose (closing : Scope.Closing) : Obeys (((Law.sourced CarriesEntryError).on Prod.fst).on
      Prod.fst) (Action.closeScope closing :
        Action ((Batch × SharedTransaction σ) × Option OpenScope) Unit) :=
    .closeScope fun _ _ _ => .inl
  cases collected with
  | error refusal => exact .bind (hclose _) fun _ => .pure _
  | ok transactionError =>
    exact .bind (.onFirst (sourced_record _ _)) fun _ => .bind (hclose _) fun _ => .pure _

/-- The error that an outcome tells is carried, unless it says that an error was not recorded. -/
theorem carries_of_outcome {batch : Batch} {entry : Entry} {error : EngineError}
    (hmem : entry ∈ batch.entries)
    (h : (outcomeOf batch.transactionError entry).error? = some error) :
    batch.CarriesError error ∨ error.isOk = false := by
  rw [outcomeOf] at h
  cases hslot : entry.slot with
  | clear =>
    rw [hslot] at h
    exact nomatch h
  | operation own =>
    rw [hslot] at h
    obtain rfl : own = error := Option.some.inj h
    exact .inl (.inl ⟨entry, hmem, hslot⟩)
  | transaction =>
    rw [hslot] at h
    cases htransaction : batch.transactionError with
    | some own =>
      rw [htransaction] at h
      exact .inl (.inr (htransaction.trans h))
    | none =>
      rw [htransaction] at h
      obtain rfl := Option.some.inj h
      exact .inr rfl

/-- An error that is recorded is carried from then on. -/
theorem carries_setError {batch after : Batch} {n : Nat} {recorded error : EngineError}
    (hset : batch.setError n recorded = .ok after) (h : after.CarriesError error) :
    batch.CarriesError error ∨ recorded = error := by
  have hmarking := marking batch n recorded
  rw [hset] at hmarking
  cases hmarking with
  | marked =>
    obtain ⟨entry, hentry, hslot⟩ | htransaction := h
    · obtain ⟨m, hm⟩ := List.mem_iff_getElem?.mp hentry
      rw [getElem?_modify_mark] at hm
      obtain ⟨found, hfound, rfl⟩ := Option.map_eq_some_iff.mp hm
      by_cases hmarked : n = m
      · rw [if_pos hmarked] at hslot
        exact .inr (Slot.operation.inj hslot)
      · rw [if_neg hmarked] at hslot
        exact .inl (.inl ⟨found, List.mem_of_getElem? hfound, hslot⟩)
    · exact .inl (.inr htransaction)

section Batches

variable [Engine σ]

theorem sourced_prepare :
    Obeys ((Law.sourced CarriesEntryError).on Prod.fst)
      (prepare : Action (Batch × SharedTransaction σ) (Except BatchError Unit)) := by
  refine .bind .get fun (batch, shared) => ?_
  dsimp only
  split
  · refine .bind (sourced_onEntries (.fst_useWith sourced_defineEntries)) fun answer => ?_
    cases answer with
    | error refusal => exact .pure _
    | ok defined =>
      exact .bind (.sourced_modify fun _ _ hcarries => hcarries) fun _ =>
        .bind (.sourced_lift _) fun _ => .pure _
  · exact .pure _
  · exact .pure _

/-- The errors of a batch that is prepared have a source. -/
theorem carries_prepare (batch : Batch) (shared : SharedTransaction σ) :
    (Law.sourced CarriesError).Allows batch (prepare (batch, shared)).value.2.1
      (prepare (batch, shared)).effects := by
  have hentries := sourced_prepare (batch, shared)
  have hpreparing := preparing batch shared
  rintro error (hentry | htransaction)
  · exact (hentries error hentry).imp_left .inl
  · -- Only an executed batch has an error of the transaction, and that is refused.
    generalize (prepare (batch, shared)).value = came, transactionCalls _ = calls
      at hpreparing htransaction
    cases hpreparing with
    | refused => exact .inl (.inr htransaction)
    | bound | panicked => exact nomatch htransaction

theorem sourced_execute (options : RoundTrip) :
    Obeys ((Law.sourced CarriesEntryError).on Prod.fst)
      (execute options : Action (Batch × SharedTransaction σ) (Except BatchError Report)) := by
  refine .bind (sourced_start _ _) fun started => ?_
  cases started with
  | error refusal => exact .pure _
  | ok scope =>
    refine .within ?_ (fun _ _ => .inl) fun _ _ _ => .inl
    exact .bind (.onFirst (sourced_onEntries (sourced_roundTrip options))) fun _ =>
      sourced_complete _ _

variable {batch : Batch} {shared : SharedTransaction σ}

theorem sourced_run (task : Option String) (options : RoundTrip) (batch : Batch)
    (shared : SharedTransaction σ) :
    (Law.sourced CarriesEntryError).Allows batch (run task options (batch, shared)).value.2.1
      (run task options (batch, shared)).effects := by
  cases task with
  | none => exact sourced_execute options (batch, shared)
  | some task =>
    by_cases hphase : ∃ transaction, batch.phase = .prepared transaction
    · obtain ⟨transaction, hprepared⟩ := hphase
      rcases htrip : roundTrip options (batch.entries, shared) with
        ⟨⟨collected | text, entries', shared'⟩, effects⟩
      · have hawaited : run (some task) options (batch, shared) = _ :=
          executeAwaited_eq_execute hprepared htrip task
        rw [hawaited]
        exact sourced_execute options (batch, shared)
      · -- A copy of the entries is lost in a panic, and the batch keeps its own.
        have hawaited : (run (some task) options (batch, shared)).value = _ :=
          executeAwaited_of_panicked hprepared htrip task
        rw [hawaited]
        exact fun error => .inl
    · have hawaited : run (some task) options (batch, shared) = pure (_, batch, shared) :=
        inScope_of_unprepared (not_exists.mp hphase)
      rw [hawaited]
      exact fun error => .inl

theorem refuses_of_roundTripError {own : Option EngineError} {result : Except EngineError Unit}
    {error : EngineError} (h : roundTripError own result = some error) :
    error.isOk = false ∨ result = .error error := by
  unfold roundTripError at h
  split at h
  · rename_i own cause _ hown
    exact .inl (Option.some.inj h ▸ isOk_of_genuine hown)
  · exact .inr (congrArg Except.error (Option.some.inj h))
  · exact nomatch h

/-- A refused round trip becomes the error of the transaction, if that has none of its own. -/
theorem transactionError_run (task : Option String) (options : RoundTrip) {error : EngineError}
    (h : (run task options (batch, shared)).value.2.1.transactionError = some error) :
    batch.transactionError = some error ∨ error.isOk = false ∨
      error ∈ refusals (run task options (batch, shared)).effects := by
  have hexecuting := executing_run task options batch shared
  rw [refusals]
  generalize (run task options (batch, shared)).value = came, transactionCalls _ = calls
    at hexecuting h ⊢
  cases hexecuting with
  | refused | panicked | lost => exact .inl h
  | made transaction hprepared hreached hround engine =>
    obtain hgenuine | rfl := refuses_of_roundTripError h
    · exact .inr (.inl hgenuine)
    · exact .inr (.inr List.mem_cons_self)

/-- Whichever way a batch is run, its errors have a source. -/
theorem carries_run (task : Option String) (options : RoundTrip) (batch : Batch)
    (shared : SharedTransaction σ) :
    (Law.sourced CarriesError).Allows batch (run task options (batch, shared)).value.2.1
      (run task options (batch, shared)).effects := by
  rintro error (hentry | htransaction)
  · exact (sourced_run task options batch shared error hentry).imp_left .inl
  · exact (transactionError_run task options htransaction).imp_left .inr

end Batches

end Batch

end StorageClient
