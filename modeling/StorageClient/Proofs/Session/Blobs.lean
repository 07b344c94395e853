import StorageClient.Proofs.Batch.Blobs
import StorageClient.Proofs.Batch.Notification
import StorageClient.Proofs.Session.Reports
/-!
# StorageClient.Proofs.Session.Blobs

The operations of a batch in the course of its life. No call takes an operation for another, or
changes it: all that ever comes to an operation is what was read back (`Session.unread_perform`).

What is read back comes in one go, with the round trip that is reported on. Until then every
operation is as it was made, as long as no call on the transaction panics (`Session.Stage`). A panic
in the middle of a round trip may leave large objects behind, but there is no report on that.
-/

namespace StorageClient.Session

open Effect (transactionCalls)
open Batch (MadeOf Settled ReadBack Defined)

variable {σ : Type}

section Calls

variable [Engine σ] {call : OnBatch} {batch after : Batch} {shared : SharedTransaction σ}

/-! ### Operations are kept -/

theorem unread_run (task : Option String) (options : RoundTrip) (batch : Batch)
    (shared : SharedTransaction σ) :
    (Batch.run task options (batch, shared)).value.2.1.unread = batch.unread := by
  cases task with
  | none => exact Batch.keeps_execute options (batch, shared)
  | some task =>
    obtain ⟨result, batch', shared', hvalue, hunread⟩ :=
      Batch.executeAwaited_returns task options batch shared
    exact (congrArg (fun came => came.2.1.unread) hvalue).trans hunread

/-- No call changes an operation, except for what is read back. -/
theorem unread_perform (call : OnBatch) (batch : Batch) (shared : SharedTransaction σ)
    (hafter : (call.perform batch shared).value.2.1 = some after) :
    after.unread = batch.unread := by
  cases call with
  | plain request =>
    rw [perform_plain] at hafter
    obtain rfl := Option.some.inj hafter
    cases request with
    | setError n error =>
      have hmarking := Batch.marking batch n error
      change ((batch.setError n error).toOption.getD batch).unread = batch.unread
      generalize batch.setError n error = result at hmarking
      cases hmarking with
      | refused => rfl
      | marked =>
        rw [Batch.unread_eq, Batch.unread_eq]
        exact congrArg (List.map KeyOperation.unread)
          (Batch.operations_modify_mark batch.entries n error)
    | prepare => exact Batch.keeps_prepare (batch, shared)
    | tryStart => exact congrArg Batch.unread (Batch.batch_tryStart batch shared)
    | execute options => exact unread_run none options batch shared
    | executeAwaited task options => exact unread_run (some task) options batch shared
  | submit task options =>
    have hunread := unread_run task options batch shared
    rcases hrun : Batch.run task options (batch, shared) with
      ⟨⟨result | text, batch', shared'⟩, effects⟩
    · rw [perform_submit_of_returned hrun] at hafter
      obtain rfl := Option.some.inj hafter
      rwa [hrun] at hunread
    · rw [perform_submit_of_panicked hrun] at hafter
      exact nomatch hafter
  | abandon options =>
    rw [perform_abandon] at hafter
    obtain rfl := Option.some.inj hafter
    rw [Batch.batch_executeAbandoned]
  | outcome | entryError | blobResults =>
    obtain rfl := Option.some.inj hafter
    rfl

/-! ### One call -/

/-- What a call can do to a batch, given the calls on the transaction, if none of them panics. -/
inductive Changing (call : OnBatch) (batch : Batch) (calls : List TransactionCall) : Batch → Prop
  | same : Changing call batch calls batch
  | marked (n : Nat) (error : EngineError) :
    Changing call batch calls
      { batch with entries := batch.entries.modify n (Batch.mark (some error)) }
  | prepared (hcall : call = .plain .prepare) (hbuilt : batch.phase = .built)
      {definitions : List (List TransactionCall)} {entries : List Entry}
      (hround : Round Defined batch.entries definitions entries)
      (hcalls : calls = definitions.flatten) (transaction : String) :
    Changing call batch calls ⟨entries, .prepared transaction⟩
  | executed (entries : List Entry) (transaction : String) (error : Option EngineError) :
    Changing call batch calls ⟨entries, .executed transaction error⟩

theorem changing_run (task : Option String) (options : RoundTrip) (batch : Batch)
    (shared : SharedTransaction σ)
    (hreturns : ∀ made ∈ transactionCalls (Batch.run task options (batch, shared)).effects,
      made.isPanic = false) :
    Changing call batch (transactionCalls (Batch.run task options (batch, shared)).effects)
      (Batch.run task options (batch, shared)).value.2.1 := by
  have hexecuting := Batch.executing_run task options batch shared
  obtain ⟨result, ⟨batch', shared'⟩, effects, hrun⟩ :
      ∃ result after effects,
        Batch.run task options (batch, shared) = ⟨(.returned result, after), effects⟩ :=
    (Batch.orderly_run task options).returns hreturns
  rw [hrun] at hexecuting ⊢
  generalize transactionCalls _ = calls at hexecuting ⊢
  cases hexecuting with
  | refused | lost => exact .same
  | made => exact .executed _ _ _

theorem changing_perform
    (hreturns : ∀ made ∈ transactionCalls (call.perform batch shared).effects,
      made.isPanic = false) :
    ∃ after, (call.perform batch shared).value.2.1 = some after ∧
      Changing call batch (transactionCalls (call.perform batch shared).effects) after := by
  cases call with
  | plain request =>
    rw [perform_plain] at hreturns ⊢
    refine ⟨_, rfl, ?_⟩
    cases request with
    | setError n error =>
      have hmarking := Batch.marking batch n error
      change Changing _ batch _ ((batch.setError n error).toOption.getD batch)
      generalize batch.setError n error = result at hmarking
      cases hmarking with
      | refused => exact .same
      | marked => exact .marked n error
    | prepare =>
      have hpreparing := Batch.preparing batch shared
      obtain ⟨result, ⟨batch', shared'⟩, effects, hrun⟩ :
          ∃ result after effects,
            Batch.prepare (batch, shared) = ⟨(.returned result, after), effects⟩ :=
        Batch.orderly_prepare.returns hreturns
      change Changing _ batch (transactionCalls (Batch.prepare (batch, shared)).effects)
        (Batch.prepare (batch, shared)).value.2.1
      rw [hrun] at hpreparing ⊢
      generalize transactionCalls _ = calls at hpreparing ⊢
      cases hpreparing with
      | refused => exact .same
      | bound hbuilt hreached hround => exact .prepared rfl hbuilt hround rfl _
    | tryStart =>
      change Changing _ batch (transactionCalls (Batch.tryStart (batch, shared)).effects)
        (Batch.tryStart (batch, shared)).value.2.1
      rw [Batch.batch_tryStart]
      exact .same
    | execute options => exact changing_run none options batch shared hreturns
    | executeAwaited task options => exact changing_run (some task) options batch shared hreturns
  | submit task options =>
    rcases hrun : Batch.run task options (batch, shared) with
      ⟨⟨result | text, batch', shared'⟩, effects⟩
    · rw [perform_submit_of_returned hrun] at hreturns ⊢
      refine ⟨batch', rfl, ?_⟩
      have hchanging : Changing (.submit task options) batch _ _ :=
        changing_run task options batch shared (by rwa [hrun])
      rwa [hrun] at hchanging
    · rw [perform_submit_of_panicked hrun] at hreturns
      have hpanics := (Batch.orderly_run task options (batch, shared)).panics
      rw [hrun] at hpanics
      obtain ⟨made, hmade, hpanic⟩ := hpanics rfl
      exact nomatch (hreturns made hmade).symm.trans hpanic
  | abandon options =>
    rw [perform_abandon, Batch.batch_executeAbandoned]
    exact ⟨batch, rfl, .same⟩
  | outcome | entryError | blobResults => exact ⟨batch, rfl, .same⟩

end Calls

/-! ### The life of a batch -/

/-- No call panics that is made on a transaction for a batch. -/
def Exchange.Returns (name : String) (exchange : Exchange σ) : Prop :=
  ∀ named call, exchange.call = .batch name named call →
    ∀ made ∈ transactionCalls exchange.effects, made.isPanic = false

/-- In the past a batch was prepared with some calls, entry by entry. -/
def PreparedBy (name : String) (past : List (Exchange σ))
    (definitions : List (List TransactionCall)) : Prop :=
  ∃ exchange ∈ past, (∃ named, exchange.call = .batch name named (.plain .prepare)) ∧
    transactionCalls exchange.effects = definitions.flatten

/-- How a batch of some operations stands after its past. Until it is executed, its operations are
as they were made. -/
inductive Stage (name : String) (operations : List KeyOperation) (past : List (Exchange σ))
    (batch : Batch) : Prop
  | built (hphase : batch.phase = .built)
      (hoperations : batch.entries.map Entry.operation = operations)
      (hslots : ∀ (n : Nat) (entry : Entry), batch.entries[n]? = some entry →
        entry.slot ≠ .transaction)
  | prepared {transaction : String} (hphase : batch.phase = .prepared transaction)
      (hoperations : batch.entries.map Entry.operation = operations)
      {definitions : List (List TransactionCall)} (hprepared : PreparedBy name past definitions)
      (hlength : definitions.length = operations.length)
      (hsettled : ∀ (n : Nat) (entry : Entry), batch.entries[n]? = some entry → ∃ definition,
        definitions[n]? = some definition ∧ Settled definition entry)
  | executed {transaction : String} {error : Option EngineError}
      (hphase : batch.phase = .executed transaction error)

section Stage

variable {name : String} {operations : List KeyOperation} {past : List (Exchange σ)}
  {batch after : Batch} {exchange : Exchange σ}

theorem stage_new (name : String) (operations : List KeyOperation) :
    Stage name operations ([] : List (Exchange σ)) (.new operations) := by
  refine .built rfl (List.map_map.trans (List.map_id' _)) fun n entry hentry => ?_
  rw [Batch.new, List.getElem?_map] at hentry
  obtain ⟨operation, -, rfl⟩ := Option.map_eq_some_iff.mp hentry
  exact Slot.noConfusion

theorem Stage.wait (h : Stage name operations past batch) (later : List (Exchange σ)) :
    Stage name operations (past ++ later) batch := by
  cases h with
  | built hphase hoperations hslots => exact .built hphase hoperations hslots
  | prepared hphase hoperations hprepared hlength hsettled =>
    obtain ⟨exchange, hexchange, hprepared⟩ := hprepared
    exact .prepared hphase hoperations
      ⟨exchange, List.mem_append_left later hexchange, hprepared⟩ hlength hsettled
  | executed hphase => exact .executed hphase

theorem Stage.next (h : Stage name operations past batch) {named : String} {call : OnBatch}
    (hcall : exchange.call = .batch name named call)
    (hchanging : Changing call batch (transactionCalls exchange.effects) after) :
    Stage name operations (past ++ [exchange]) after := by
  cases hchanging with
  | same => exact h.wait _
  | executed entries transaction error => exact .executed rfl
  | marked n error =>
    have hmarked := Batch.operations_modify_mark batch.entries n error
    cases h.wait [exchange] with
    | built hphase hoperations hslots =>
      refine .built hphase (hmarked.trans hoperations) fun m entry hm => ?_
      rw [Batch.getElem?_modify_mark] at hm
      obtain ⟨found, hfound, rfl⟩ := Option.map_eq_some_iff.mp hm
      exact Batch.slot_mark_ne_transaction (hslots m found hfound) _
    | prepared hphase hoperations hprepared hlength hsettled =>
      refine .prepared hphase (hmarked.trans hoperations) hprepared hlength fun m entry hm => ?_
      rw [Batch.getElem?_modify_mark] at hm
      obtain ⟨found, hfound, rfl⟩ := Option.map_eq_some_iff.mp hm
      obtain ⟨definition, hdefinition, hfound⟩ := hsettled m found hfound
      exact ⟨definition, hdefinition, hfound.mark _⟩
    | executed hphase => exact .executed hphase
  | prepared hprepare hbuilt hround hcalls transaction =>
    subst hprepare
    cases h with
    | prepared hphase => exact nomatch hbuilt.symm.trans hphase
    | executed hphase => exact nomatch hbuilt.symm.trans hphase
    | built hphase hoperations hslots =>
      have hlength := hround.length_segments
      have hkept := hround.map_eq (f := Entry.operation) fun h => h.operation_eq
      refine .prepared rfl (hkept.trans hoperations)
        ⟨exchange, List.mem_append_right _ (List.mem_singleton_self _), ⟨named, hcall⟩, hcalls⟩
        ?_ fun n entry hn => ?_
      · rw [hlength, ← hoperations, List.length_map]
      · obtain ⟨found, definition, hfound, hdefinition, hdefined⟩ := hround.of_getElem? hn
        exact ⟨definition, hdefinition, hdefined.settled (hslots n found hfound)⟩

end Stage

section Runs

variable [Memory] [Engine σ] {session : Session σ} {name : String} {operations : List KeyOperation}
  {batch : Batch} {past : List (Exchange σ)}

theorem unread_next (hbatch : session.batches name = some batch) {call : Call σ} {after : Batch}
    (hafter : (session.next call).batches name = some after) : after.unread = batch.unread := by
  by_cases hcall : ∃ named made, call = .batch name named made
  · obtain ⟨named, made, rfl⟩ := hcall
    rw [(perform_batch hbatch named made).2.2, Function.update_self] at hafter
    exact unread_perform made batch _ hafter
  · rw [batches_next_of_other hbatch fun named made h => hcall ⟨named, made, h⟩] at hafter
    exact congrArg Batch.unread (Option.some.inj hafter).symm

theorem stage_next (hbatch : session.batches name = some batch)
    (hstage : Stage name operations past batch) {call : Call σ}
    (hreturns : (session.exchange call).Returns name) :
    ∃ after, (session.next call).batches name = some after ∧
      Stage name operations (past ++ [session.exchange call]) after := by
  by_cases hcall : ∃ named made, call = .batch name named made
  · obtain ⟨named, made, rfl⟩ := hcall
    obtain ⟨-, heffects, hbatches⟩ := perform_batch hbatch named made
    have hmade := hreturns named made rfl
    rw [heffects] at hmade
    obtain ⟨after, hafter, hchanging⟩ := changing_perform hmade
    rw [← heffects] at hchanging
    refine ⟨after, ?_, hstage.next rfl hchanging⟩
    rw [hbatches, Function.update_self, hafter]
  · exact ⟨batch, batches_next_of_other hbatch fun named made h => hcall ⟨named, made, h⟩,
      hstage.wait _⟩

/-- As long as no call panics, a batch is there and stands as its past says. -/
theorem stage_after (hbatch : session.batches name = some batch)
    (hstage : Stage name operations past batch) {calls : List (Call σ)}
    (hreturns : ∀ exchange ∈ session.exchanges calls, exchange.Returns name) :
    ∃ after, (session.after calls).batches name = some after ∧ after.unread = batch.unread ∧
      Stage name operations (past ++ session.exchanges calls) after := by
  induction calls generalizing session batch past with
  | nil => exact ⟨batch, hbatch, rfl, hstage.wait []⟩
  | cons call calls ih =>
    obtain ⟨hfirst, hrest⟩ := List.forall_mem_cons.mp hreturns
    obtain ⟨next, hnext, hstage⟩ := stage_next hbatch hstage hfirst
    obtain ⟨after, hafter, hunread, hstage⟩ := ih hnext hstage hrest
    refine ⟨after, hafter, hunread.trans (unread_next hbatch hnext), ?_⟩
    rwa [List.append_assoc] at hstage

/-- **Large objects are read back.** Let a batch be made of operations of which nothing was read
back yet, and let no call panic that is made for it. At any time it has the operations it was made
of, and the next call does not change them either, whatever comes of that call. When a call is
answered with a report, then for good each entry that succeeded has in store, in the order of its
handlers, what the transaction answered when it was asked for them; an entry that failed was not
asked for any, and has nothing in store. -/
theorem blobs_read_back (hmade : session.batches name = some (.new operations))
    (hnew : ∀ operation ∈ operations, ∀ blob ∈ operation.blobs, blob.data = none)
    {calls : List (Call σ)}
    (hreturns : ∀ exchange ∈ session.exchanges calls, exchange.Returns name) :
    ∃ batch, (session.after calls).batches name = some batch ∧ batch.MadeOf operations ∧
      (∀ call after, ((session.after calls).next call).batches name = some after →
        after.MadeOf operations) ∧
      ∀ named call report,
        let exchange := (session.after calls).exchange (.batch name named call)
        exchange.response.report? = some report →
        ∃ (after : Batch) (definitions inquiries : List (List TransactionCall))
          (options : RoundTrip) (result : Except EngineError Unit) (own : Option EngineError),
          (∀ later, (((session.after calls).next (.batch name named call)).after later).batches
            name = some after) ∧
          PreparedBy name (session.exchanges calls) definitions ∧
          definitions.length = operations.length ∧
          transactionCalls exchange.effects =
            .execute options (.returned result) :: .error (.returned own) :: inquiries.flatten ∧
          inquiries.length = operations.length ∧
          ∀ n operation, operations[n]? = some operation →
            ∃ entry definition inquiry outcome values, after.entryAt? n = some entry ∧
              definitions[n]? = some definition ∧ inquiries[n]? = some inquiry ∧
              report.outcomes[n]? = some outcome ∧ after.blobResults n = .ok values ∧
              ReadBack operation entry.id definition inquiry outcome values := by
  obtain ⟨batch, hbatch, hkept, hstage⟩ := stage_after hmade (stage_new name operations) hreturns
  have hunread : batch.unread = operations := hkept.trans (Batch.unread_new hnew)
  refine ⟨batch, hbatch, Batch.madeOf_of_unread hunread, fun call after hafter =>
    Batch.madeOf_of_unread ((unread_next hbatch hafter).trans hunread), ?_⟩
  intro named call report exchange hreport
  obtain ⟨hresponse, heffects, hbatches⟩ := perform_batch hbatch named call
  obtain ⟨options, value, hexecuting, hanswer, hleft⟩ :=
    executing_of_report? (hresponse ▸ hreport)
  have hthere : ((session.after calls).next (.batch name named call)).batches name =
      some value.2.1 := by
    rw [hbatches, Function.update_self, hleft]
  rw [← heffects] at hexecuting
  generalize hcalls : transactionCalls _ = made at hexecuting
  cases hexecuting with
  | refused | panicked | lost => exact nomatch hanswer
  | made transaction hphase hreached hround engine =>
    rename_i result own inquiries entries
    obtain rfl := Except.ok.inj (Answer.returned.inj hanswer)
    -- A round trip is made for a prepared batch only, so its operations are as they were made.
    cases hstage with
    | built hbuilt => exact nomatch hphase.symm.trans hbuilt
    | executed hexecuted => exact nomatch hphase.symm.trans hexecuted
    | prepared _ hoperations hprepared hlength hsettled =>
      refine ⟨_, _, inquiries, options, result, own, batches_after hthere ⟨_, _, rfl⟩, hprepared,
        hlength, rfl, ?_, fun n operation hn => ?_⟩
      · rw [hround.length_segments, ← hoperations, List.length_map]
      rw [← hoperations, List.getElem?_map] at hn
      obtain ⟨entry, hentry, rfl⟩ := Option.map_eq_some_iff.mp hn
      obtain ⟨inquiry, collected, hinquiry, hcollected, hvisited⟩ := hround.visited n entry hentry
      obtain ⟨definition, hdefinition, hsettled⟩ := hsettled n entry hentry
      have hfresh := hnew _ (hoperations ▸ List.mem_map_of_mem (List.mem_of_getElem? hentry))
      refine ⟨collected, definition, inquiry, _, _, hcollected, hdefinition, hinquiry, ?_, ?_,
        hsettled.readBack hfresh hvisited⟩
      · rw [List.getElem?_map, hcollected, Option.map_some]
      · simp [Batch.blobResults, Batch.executedEntry, hcollected, Except.map]

end Runs

/-- Two orders with a note each that is to be read back; the first one has a picture to be written
as well, and the second one fails. -/
theorem blobs_read_back_orders :
    let note : Bytes := [110, 111, 116, 101]
    let order (key : UInt8) := (Batch.insertOrder key).withBlob (.read 7 2 none)
    let operations := [(order 1).withBlob (.write 8 3 [255]), order 2]
    let session := (⟨fun _ => none, fun _ => none, fun _ => none, fun _ => none, fun _ =>
      .new "tx" (.new ⟨0, [], [], [], none, [([2], .duplicateKey)],
        [([1], 7, note), ([2], 7, note)], none, false⟩)⟩ : Session Playback).next
      (.newBatch "orders" operations)
    let prepared := session.after [.batch "orders" "tx" (.plain .prepare)]
    let execute : Call Playback :=
      .batch "orders" "tx" (.plain (.execute ⟨.commit, .operationDefault, .deferred⟩))
    session.batches "orders" = some (.new operations) ∧
      (∀ operation ∈ operations, ∀ blob ∈ operation.blobs, blob.data = none) ∧
      (∀ exchange ∈ session.exchanges [.batch "orders" "tx" (.plain .prepare)],
        exchange.Returns "orders") ∧
      (prepared.exchange execute).response.report? =
        some ⟨.commit, [.success, .operation .duplicateKey], none⟩ ∧
      ∃ batch, (prepared.next execute).batches "orders" = some batch ∧
        batch.readsBlobs = true ∧ batch.blobResults 0 = .ok [(2, note)] ∧
        batch.blobResults 1 = .ok [] := by
  intro note order operations session prepared execute
  have hnew : ∀ operation ∈ operations, ∀ blob ∈ operation.blobs, blob.data = none := by decide
  have hreturns : ∀ exchange ∈ session.exchanges [.batch "orders" "tx" (.plain .prepare)],
      exchange.Returns "orders" := by
    intro exchange hexchange named call _
    rw [List.mem_singleton.mp hexchange]
    decide
  have hreport : (prepared.exchange execute).response.report? =
      some ⟨.commit, [.success, .operation .duplicateKey], none⟩ := rfl
  obtain ⟨_, -, -, hkept, hreported⟩ := blobs_read_back rfl hnew hreturns
  obtain ⟨batch, _, _, _, _, _, hbatch, -, -, -, -, hentries⟩ := hreported _ _ _ hreport
  have hreads : batch.readsBlobs = true := (hkept execute batch (hbatch [])).readsBlobs.mpr
    ⟨_, List.mem_cons_self, _, List.mem_cons_self, rfl⟩
  refine ⟨rfl, hnew, hreturns, hreport, batch, hbatch [], hreads, ?_, ?_⟩
  · obtain rfl := Option.some.inj (hbatch [])
    rfl
  · obtain ⟨_, _, _, outcome, values, -, -, -, houtcome, hvalues, hread⟩ := hentries 1 _ rfl
    obtain rfl := Option.some.inj houtcome
    cases hread with
    | failed => exact hvalues

end StorageClient.Session
