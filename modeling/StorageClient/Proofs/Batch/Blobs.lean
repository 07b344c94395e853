import StorageClient.Proofs.Batch.Forms
/-!
# StorageClient.Proofs.Batch.Blobs

What an executed entry read back. An operation says for each of its large objects whether it is to
be read back or written. After a round trip in which nothing failed, those to be read are asked for
one after the other, and what was found is kept with the operation (`ReadBack.done`).

An entry that failed is not asked for anything. What it has to show is what was kept before, and
before the round trip that is nothing.
-/

namespace StorageClient

/-- Whether a call reads a large object back. -/
def TransactionCall.isBlobRead : TransactionCall → Bool
  | readBlob .. => true
  | _ => false

/-- A round visits the first thing, then the rest. -/
theorem Round.uncons {σ : Type} {Visited : σ → List TransactionCall → σ → Prop} {thing : σ}
    {things things' : List σ} {segments : List (List TransactionCall)}
    (h : Round Visited (thing :: things) segments things') :
    ∃ segment thing' rest rest', segments = segment :: rest ∧ things' = thing' :: rest' ∧
      Visited thing segment thing' ∧ Round Visited things rest rest' := by
  obtain ⟨hsegments, hthings, hvisited⟩ := h
  cases segments with
  | nil => exact nomatch hsegments
  | cons segment rest =>
    cases things' with
    | nil => exact nomatch hthings
    | cons thing' rest' =>
      obtain ⟨_, _, hsegment, hthing, hfirst⟩ := hvisited 0 thing rfl
      obtain rfl : segment = _ := Option.some.inj hsegment
      obtain rfl : thing' = _ := Option.some.inj hthing
      exact ⟨segment, thing', rest, rest', rfl, rfl, hfirst, Nat.succ.inj hsegments,
        Nat.succ.inj hthings, fun n => hvisited (n + 1)⟩

/-- Whatever a round left behind, was visited. -/
theorem Round.of_getElem? {σ : Type} {Visited : σ → List TransactionCall → σ → Prop}
    {things things' : List σ} {segments : List (List TransactionCall)}
    (h : Round Visited things segments things') {n : Nat} {thing' : σ}
    (hn : things'[n]? = some thing') :
    ∃ thing segment, things[n]? = some thing ∧ segments[n]? = some segment ∧
      Visited thing segment thing' := by
  have hlt : n < things.length := by
    rw [← h.length_things]
    exact (List.getElem?_eq_some_iff.mp hn).1
  have hthing : things[n]? = some things[n] := List.getElem?_eq_getElem hlt
  obtain ⟨segment, _, hsegment, hthing', hvisited⟩ := h.visited n _ hthing
  obtain rfl := Option.some.inj (hthing'.symm.trans hn)
  exact ⟨_, segment, hthing, hsegment, hvisited⟩

/-- What every visit keeps of a thing, a round keeps of all. -/
theorem Round.map_eq {σ τ : Type} {Visited : σ → List TransactionCall → σ → Prop}
    {things things' : List σ} {segments : List (List TransactionCall)} {f : σ → τ}
    (h : Round Visited things segments things')
    (hvisit : ∀ {thing segment thing'}, Visited thing segment thing' → f thing' = f thing) :
    things'.map f = things.map f := by
  refine List.ext_getElem (by simp [h.length_things]) fun n hn' hn => ?_
  rw [List.length_map] at hn'
  obtain ⟨thing, segment, hthing, -, hvisited⟩ := h.of_getElem? (List.getElem?_eq_getElem hn')
  obtain ⟨_, rfl⟩ := List.getElem?_eq_some_iff.mp hthing
  rw [List.getElem_map, List.getElem_map, hvisit hvisited]

/-- What is read back can be kept by a handler that reads. -/
theorem BlobHandler.data_fill {blob : BlobHandler} (h : blob.isRead = true) (bytes : Bytes) :
    (blob.fill bytes).data = some bytes := by
  cases blob with
  | read => rfl
  | write => exact nomatch h

namespace Batch

/-- The calls that read large objects back, with what was answered for each. -/
def readCalls (id : Nat) (answers : List (BlobHandler × Option Bytes)) : List TransactionCall :=
  answers.map fun (blob, answer) => .readBlob id blob.column (.returned answer)

/-- The large objects that were found, each with the caller's field for it. -/
def found (answers : List (BlobHandler × Option Bytes)) : List (Nat × Bytes) :=
  answers.filterMap fun (blob, answer) => answer.map fun bytes => (blob.field, bytes)

/-- Every handler that reads is asked for once, in order, and keeps what was found. -/
theorem answers_of_round {id : Nat} {blobs : List BlobHandler} :
    ∀ {reads : List (List TransactionCall)} {blobs' : List BlobHandler},
      Round (Reread id) blobs reads blobs' → (∀ blob ∈ blobs, blob.data = none) →
      ∃ answers, answers.map Prod.fst = blobs.filter BlobHandler.isRead ∧
        reads.flatten = readCalls id answers ∧
        (blobs'.filterMap fun blob => blob.data.map fun data => (blob.field, data)) =
          found answers := by
  induction blobs with
  | nil =>
    intro reads blobs' h _
    obtain rfl : reads = [] := List.eq_nil_of_length_eq_zero h.length_segments
    obtain rfl : blobs' = [] := List.eq_nil_of_length_eq_zero h.length_things
    exact ⟨[], rfl, rfl, rfl⟩
  | cons blob blobs ih =>
    intro reads blobs' h hnew
    obtain ⟨segment, blob', rest, rest', rfl, rfl, hvisited, hrest⟩ := h.uncons
    obtain ⟨hblob, hblobs⟩ := List.forall_mem_cons.mp hnew
    obtain ⟨answers, hanswers, hcalls, hfound⟩ := ih hrest hblobs
    cases hvisited with
    | left hwrite =>
      refine ⟨answers, ?_, hcalls, ?_⟩
      · rw [List.filter_cons_of_neg (by simp [hwrite]), hanswers]
      · rw [List.filterMap_cons_none (by simp [hblob]), hfound]
    | found hread bytes =>
      refine ⟨(blob, some bytes) :: answers, ?_, ?_, ?_⟩
      · rw [List.map_cons, List.filter_cons_of_pos hread, hanswers]
      · rw [List.flatten_cons, hcalls]
        rfl
      · rw [List.filterMap_cons_some (by rw [BlobHandler.data_fill hread]; rfl), hfound]
        simp [found]
    | missing hread =>
      refine ⟨(blob, none) :: answers, ?_, ?_, ?_⟩
      · rw [List.map_cons, List.filter_cons_of_pos hread, hanswers]
      · rw [List.flatten_cons, hcalls]
        rfl
      · rw [List.filterMap_cons_none (by simp [hblob]), hfound]
        simp [found]

/-! ### Entries -/

/-- An entry that can be sent: it failed, or nothing is known against it, and the transaction gave
its operation a name. -/
inductive Settled (definition : List TransactionCall) (entry : Entry) : Prop
  | failed (h : entry.slot.isOperation = true)
  | named (hclear : entry.slot = .clear) {id : Nat} (hid : entry.id = some id)
      (hdefinition : definition = [.define entry.operation (.returned (.ok id))])

section Settled

variable {entry entry' : Entry} {definition inquiry : List TransactionCall}

theorem Defined.operation_eq (h : Defined entry definition entry') :
    entry'.operation = entry.operation := by
  cases h <;> rfl

theorem Defined.settled (h : Defined entry definition entry') (hslot : entry.slot ≠ .transaction) :
    Settled definition entry' := by
  cases h with
  | left hfailed => exact .failed hfailed
  | refused hfailed refusal => exact .failed rfl
  | accepted hfailed id =>
    refine .named ?_ rfl rfl
    cases hentry : entry.slot with
    | clear => rfl
    | operation error =>
      rw [hentry] at hfailed
      exact nomatch hfailed
    | transaction => exact absurd hentry hslot

theorem slot_mark_ne_transaction (hslot : entry.slot ≠ .transaction)
    (recorded : Option EngineError) : (mark recorded entry).slot ≠ .transaction := by
  cases recorded with
  | none => exact hslot
  | some error => exact Slot.noConfusion

theorem Settled.mark (h : Settled definition entry) (recorded : Option EngineError) :
    Settled definition (mark recorded entry) := by
  cases recorded with
  | none => exact h
  | some error => exact .failed rfl

/-- What an entry read back, told from the calls that were made for it: its definition, and the
inquiry after the round trip. -/
inductive ReadBack (operation : KeyOperation) (id? : Option Nat)
    (definition inquiry : List TransactionCall) : Outcome → List (Nat × Bytes) → Prop
  /-- Every handler that reads was asked for under the name that the transaction gave to the
  operation, and what was found is there. -/
  | done {id : Nat} (hid : id? = some id)
      (hdefinition : definition = [.define operation (.returned (.ok id))])
      {own : Option EngineError} {answers : List (BlobHandler × Option Bytes)}
      (hinquiry : inquiry = .operationError id (.returned own) :: readCalls id answers)
      (hanswers : answers.map Prod.fst = operation.blobs.filter BlobHandler.isRead) :
    ReadBack operation id? definition inquiry .success (found answers)
  /-- Nothing was asked for. -/
  | failed {outcome : Outcome} (hfailed : outcome ≠ .success)
      (hinquiry : ∀ call ∈ inquiry, call.isBlobRead = false) :
    ReadBack operation id? definition inquiry outcome []

theorem outcomeOf_ne_success {transactionError : Option EngineError} (h : entry.slot ≠ .clear) :
    outcomeOf transactionError entry ≠ .success := by
  rw [outcomeOf]
  cases hslot : entry.slot with
  | clear => exact absurd hslot h
  | operation error => exact Outcome.noConfusion
  | transaction => exact Outcome.noConfusion

theorem blobResults_of_new {operation : KeyOperation}
    (hnew : ∀ blob ∈ operation.blobs, blob.data = none) : operation.blobResults = [] := by
  refine List.filterMap_eq_nil_iff.mpr fun blob hblob => ?_
  rw [hnew blob hblob]
  rfl

/-- The round trip reads back what an entry asks for, unless the entry fails. -/
theorem Settled.readBack {transactionError : Option EngineError} {collected : Entry}
    (hsettled : Settled definition entry)
    (hnew : ∀ blob ∈ entry.operation.blobs, blob.data = none)
    (h : Collected transactionError entry inquiry collected) :
    ReadBack entry.operation collected.id definition inquiry (outcomeOf transactionError collected)
      collected.operation.blobResults := by
  have hnone := blobResults_of_new hnew
  cases h with
  | left hfailed =>
    rw [hnone]
    refine .failed (outcomeOf_ne_success fun hclear => ?_) (List.forall_mem_nil _)
    rw [hclear] at hfailed
    exact Bool.noConfusion hfailed
  | unnamed hslot hid =>
    cases hsettled with
    | failed hfailed => exact nomatch hfailed.symm.trans hslot
    | named _ hnamed => exact nomatch hid.symm.trans hnamed
  | failed hslot hid hown =>
    change ReadBack _ _ _ _ _ entry.operation.blobResults
    rw [hnone]
    refine .failed (outcomeOf_ne_success Slot.noConfusion) fun call hcall => ?_
    rw [List.mem_singleton.mp hcall]
    rfl
  | lost hslot hid hown hlost =>
    change ReadBack _ _ _ _ _ entry.operation.blobResults
    rw [hnone]
    refine .failed (outcomeOf_ne_success Slot.noConfusion) fun call hcall => ?_
    rw [List.mem_singleton.mp hcall]
    rfl
  | done hslot hid hown hdone hread =>
    cases hsettled with
    | failed hfailed => exact nomatch hfailed.symm.trans hslot
    | named hclear hnamed hdefinition =>
      obtain rfl := Option.some.inj (hid.symm.trans hnamed)
      obtain ⟨answers, hanswers, hcalls, hfound⟩ := answers_of_round hread hnew
      have houtcome : outcomeOf transactionError entry = .success := by rw [outcomeOf, hclear]
      rw [hcalls, KeyOperation.blobResults, hfound]
      exact houtcome ▸ .done hid hdefinition rfl hanswers

end Settled

/-! ### Batches -/

theorem unread_eq (batch : Batch) :
    batch.unread = (batch.entries.map Entry.operation).map KeyOperation.unread :=
  List.map_map.symm

/-- To record an error leaves all operations alone. -/
theorem operations_modify_mark (entries : List Entry) (n : Nat) (error : EngineError) :
    (entries.modify n (mark (some error))).map Entry.operation = entries.map Entry.operation := by
  refine List.ext_getElem? fun m => ?_
  rw [List.getElem?_map, getElem?_modify_mark, List.getElem?_map, Option.map_map]
  refine congrArg (Option.map · _) (funext fun entry => ?_)
  rw [Function.comp_apply]
  split <;> rfl

/-- What a batch is made of, without what was read back. -/
structure MadeOf (batch : Batch) (operations : List KeyOperation) : Prop where
  length : batch.length = operations.length
  unread : batch.unread = operations
  readsBlobs : batch.readsBlobs = true ↔
    ∃ operation ∈ operations, ∃ blob ∈ operation.blobs, blob.isRead = true

/-- Whether anything is to be read back does not depend on what was read back. -/
theorem readsBlobs_unread (operation : KeyOperation) :
    operation.unread.readsBlobs = operation.readsBlobs := by
  rw [KeyOperation.readsBlobs, KeyOperation.unread, List.any_map, KeyOperation.readsBlobs]
  congr 1
  funext blob
  cases blob <;> rfl

theorem madeOf_of_unread {batch : Batch} {operations : List KeyOperation}
    (h : batch.unread = operations) : batch.MadeOf operations where
  length := by rw [← h, unread, List.length_map, length]
  unread := h
  readsBlobs := by
    have hany : batch.readsBlobs = operations.any KeyOperation.readsBlobs := by
      rw [← h, unread, List.any_map, readsBlobs]
      exact congrArg (List.any batch.entries) (funext fun entry => (readsBlobs_unread _).symm)
    simp [hany, KeyOperation.readsBlobs]

/-- Of an operation that was just made, nothing was read back. -/
theorem unread_of_new {operation : KeyOperation}
    (hnew : ∀ blob ∈ operation.blobs, blob.data = none) : operation.unread = operation := by
  have hblob : ∀ blob ∈ operation.blobs, blob.unread = blob := by
    intro blob hmem
    cases blob with
    | write => rfl
    | read column field data =>
      obtain rfl : data = none := hnew _ hmem
      rfl
  rw [KeyOperation.unread, List.map_congr_left hblob, List.map_id']

theorem unread_new {operations : List KeyOperation}
    (hnew : ∀ operation ∈ operations, ∀ blob ∈ operation.blobs, blob.data = none) :
    (Batch.new operations).unread = operations := by
  have hunread : (Batch.new operations).unread = operations.map KeyOperation.unread := List.map_map
  rw [hunread, List.map_congr_left fun operation hmem => unread_of_new (hnew operation hmem),
    List.map_id']

end Batch

end StorageClient
