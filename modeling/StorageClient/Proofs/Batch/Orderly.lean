import StorageClient.Batch.Awaited
import StorageClient.Proofs.Actions
/-!
# StorageClient.Proofs.Batch.Orderly

The calls on a batch are orderly: each makes at most one round trip, only `execute` and
`executeAwaited` make any, and none panics unless the transaction does. And no round trip takes an
operation of the batch for another: all it changes in an operation is the large objects that were
read back.

The lemmas follow the definitions, function by function.
-/

namespace StorageClient

/-- A large object without what was read back. -/
def BlobHandler.unread : BlobHandler → BlobHandler
  | read column field _ => read column field none
  | write column field value => write column field value

@[simp] theorem BlobHandler.unread_fill (bytes : Bytes) (blob : BlobHandler) :
    (blob.fill bytes).unread = blob.unread := by
  cases blob <;> rfl

/-- An operation without what was read back. -/
def KeyOperation.unread (operation : KeyOperation) : KeyOperation :=
  { operation with blobs := operation.blobs.map BlobHandler.unread }

/-- The operation of an entry, without what was read back. -/
def Entry.unread (entry : Entry) : KeyOperation := entry.operation.unread

namespace Batch

open StorageClient.Action (Orderly Keeps)

variable {σ τ α : Type}

/-- The operations of a batch, without what was read back. -/
def unread (batch : Batch) : List KeyOperation := batch.entries.map Entry.unread

/-! ### Orderly calls -/

section Orderly

theorem orderly_onEntries {n : Nat} {action : Action (List Entry × τ) α} (h : Orderly n action) :
    Orderly n (onEntries action) :=
  h.of_part (fun state : Batch × τ => (state.1.entries, state.2)) (fun _ => rfl) fun _ => rfl

theorem orderly_setSlot (slot : Slot) : Orderly 0 (setSlot slot : Action (Entry × σ) Unit) :=
  .onFirst (.modify _)

theorem orderly_start (call : BatchCall) (options : RoundTrip) :
    Orderly 0 (start call options : Action (Batch × SharedTransaction σ) _) := by
  refine .tail .get fun ⟨batch, shared⟩ => ?_
  dsimp only
  split
  · exact .tail (.log _) fun _ => .pure _
  · exact .pure _
  · exact .pure _

theorem orderly_record (exec : ExecType) (transactionError : Option EngineError) :
    Orderly 0 (record exec transactionError : Action (Batch × SharedTransaction σ) Report) := by
  refine .tail .get fun ⟨_, shared⟩ => .tail (.onFirst (.modify _)) fun _ =>
    .tail .get fun ⟨batch, _⟩ => .tail (.lift_count _ _) fun _ =>
    .tail (.lift_count _ _) fun _ => ?_
  cases transactionError with
  | some error => exact .tail (.log _) fun _ => .pure _
  | none => exact .tail (.log _) fun _ => .pure _

theorem orderly_complete (exec : ExecType) (collected : Except EngineError (Option EngineError)) :
    Orderly 0 (complete exec collected :
      Action ((Batch × SharedTransaction σ) × Option OpenScope) _) := by
  cases collected with
  | error refusal => exact .tail (.closeScope _) fun _ => .pure _
  | ok transactionError =>
    exact .tail (.onFirst (orderly_record _ _)) fun _ => .tail (.closeScope _) fun _ => .pure _

variable [Engine σ]

theorem orderly_defineEntry : Orderly 0 (defineEntry : Action (Entry × σ) Unit) := by
  refine .tail .get fun ⟨entry, _⟩ => ?_
  dsimp only
  split
  · exact .pure ()
  · refine .tail (.onSecond (.call (fun _ => Nat.le_refl 0) fun _ => rfl)) fun result => ?_
    cases result with
    | ok id => exact .onFirst (.modify _)
    | error refusal => exact orderly_setSlot _

theorem orderly_defineEntries : Orderly 0 (defineEntries : Action (List Entry × σ) Nat) :=
  .tail (.forEach orderly_defineEntry) fun _ => .tail .get fun _ => .pure _

theorem orderly_prepare :
    Orderly 0 (prepare : Action (Batch × SharedTransaction σ) (Except BatchError Unit)) := by
  refine .tail .get fun ⟨batch, shared⟩ => ?_
  dsimp only
  split
  · refine .tail (orderly_onEntries (.useWith orderly_defineEntries)) fun result => ?_
    cases result with
    | error refusal => exact .pure _
    | ok defined => exact .tail (.onFirst (.modify _)) fun _ => .tail (.log _) fun _ => .pure _
  · exact .pure _
  · exact .pure _

theorem orderly_readBlob (id : Nat) : Orderly 0 (readBlob id : Action (BlobHandler × σ) Unit) := by
  refine .tail .get fun ⟨blob, _⟩ => ?_
  dsimp only
  split
  · exact .pure ()
  · refine .tail (.onSecond (.call (fun _ => Nat.le_refl 0) fun _ => rfl)) fun result => ?_
    cases result with
    | some bytes => exact .onFirst (.modify _)
    | none => exact .pure ()

theorem orderly_readBlobs (id : Nat) : Orderly 0 (readBlobs id : Action (Entry × σ) Unit) :=
  (Orderly.forEach (orderly_readBlob id)).of_part
    (fun state : Entry × σ => (state.1.operation.blobs, state.2)) (fun _ => rfl)
    fun _ => List.append_nil _

theorem orderly_collectEntry (transactionError : Option EngineError) :
    Orderly 0 (collectEntry transactionError : Action (Entry × σ) Unit) := by
  refine .tail .get fun ⟨entry, _⟩ => ?_
  dsimp only
  split
  · exact .pure ()
  · split
    · exact .pure ()
    · refine .tail (.onSecond (.call (fun _ => Nat.le_refl 0) fun _ => rfl)) fun own => ?_
      split
      · exact orderly_setSlot _
      · exact orderly_setSlot _
      · exact orderly_readBlobs _

theorem orderly_executeEntries (options : RoundTrip) :
    Orderly 1 (executeEntries options : Action (List Entry × σ) (Option EngineError)) :=
  .head (.onSecond (.call (fun _ => Nat.le_refl 1) fun _ => rfl)) fun _ =>
    .tail (.onSecond (.call (fun _ => Nat.le_refl 0) fun _ => rfl)) fun _ =>
      .tail (.forEach (orderly_collectEntry _)) fun _ => .pure _

theorem orderly_roundTrip (options : RoundTrip) :
    Orderly 1 (roundTrip options : Action (List Entry × SharedTransaction σ) _) := by
  refine .head (.useWith (orderly_executeEntries options)) fun result => ?_
  cases result with
  | error refusal => exact .pure _
  | ok transactionError =>
    dsimp only
    split
    · exact .tail (.onSecond .registerClose) fun _ => .pure _
    · exact .pure _

theorem orderly_execute (options : RoundTrip) :
    Orderly 1 (execute options : Action (Batch × SharedTransaction σ) _) := by
  refine .tail (orderly_start _ _) fun started => ?_
  cases started with
  | error e => exact (Orderly.pure _).mono (Nat.zero_le 1)
  | ok scope =>
    exact .within <| .head (.onFirst (orderly_onEntries (orderly_roundTrip options))) fun _ =>
      orderly_complete _ _

theorem orderly_roundTripOnTask (options : RoundTrip) :
    Orderly 1 (roundTripOnTask options : Action (Batch × SharedTransaction σ) _) :=
  .tail .get fun _ => .onSecond (.spawn (.onCopy (orderly_roundTrip options) _))

theorem orderly_executeAwaited (task : String) (options : RoundTrip) :
    Orderly 1 (executeAwaited task options : Action (Batch × SharedTransaction σ) _) := by
  refine .tail (orderly_start _ _) fun started => ?_
  cases started with
  | error e => exact (Orderly.pure _).mono (Nat.zero_le 1)
  | ok scope =>
    refine .within (.head (.onFirst (orderly_roundTripOnTask options)) fun done => ?_)
    cases done with
    | returned collected =>
      exact .tail (.onFirst (.onFirst (.modify _))) fun _ => orderly_complete _ _
    | panicked text => exact .tail (.closeScope _) fun _ => .pure _

theorem orderly_tryStart :
    Orderly 0 (tryStart : Action (Batch × SharedTransaction σ) (Except BatchError Bool)) := by
  refine .tail .get fun ⟨batch, _⟩ => ?_
  dsimp only
  split
  · exact .pure _
  · refine .tail (.onSecond (.use (.call (fun _ => Nat.le_refl 0) fun _ => rfl))) fun result => ?_
    cases result with
    | ok started => exact .pure _
    | error refusal => exact .pure _

end Orderly

/-! ### Operations are kept -/

theorem keeps_setSlot (slot : Slot) :
    Keeps (fun state : Entry × σ => state.1.unread) (setSlot slot) :=
  .onFirst (.modify fun _ => rfl)

theorem keeps_start (call : BatchCall) (options : RoundTrip) :
    Keeps (fun state : Batch × SharedTransaction σ => state.1.unread) (start call options) := by
  refine .bind (.get _) fun ⟨batch, shared⟩ => ?_
  dsimp only
  split
  · exact .bind (.lift _ _) fun _ => .pure _ _
  · exact .pure _ _
  · exact .pure _ _

theorem keeps_record (exec : ExecType) (transactionError : Option EngineError) :
    Keeps (fun state : Batch × SharedTransaction σ => state.1.unread)
      (record exec transactionError) := by
  refine .bind (.get _) fun ⟨_, shared⟩ => .bind (.onFirst (.modify fun _ => rfl)) fun _ =>
    .bind (.get _) fun ⟨batch, _⟩ => .bind (.lift _ _) fun _ => .bind (.lift _ _) fun _ => ?_
  cases transactionError with
  | some error => exact .bind (.lift _ _) fun _ => .pure _ _
  | none => exact .bind (.lift _ _) fun _ => .pure _ _

theorem keeps_complete (exec : ExecType) (collected : Except EngineError (Option EngineError)) :
    Keeps (fun state : (Batch × SharedTransaction σ) × Option OpenScope => state.1.1.unread)
      (complete exec collected) := by
  cases collected with
  | error refusal =>
    exact .bind (.closeScope (fun state : Batch × SharedTransaction σ => state.1.unread) _)
      fun _ => .pure _ _
  | ok transactionError =>
    exact .bind (.onFirst (keeps_record _ _)) fun report =>
      .bind (.closeScope (fun state : Batch × SharedTransaction σ => state.1.unread) _)
        fun _ => .pure _ _

variable [Engine σ]

theorem keeps_defineEntry :
    Keeps (fun state : Entry × σ => state.1.unread) (defineEntry : Action (Entry × σ) Unit) := by
  refine .bind (.get _) fun ⟨entry, _⟩ => ?_
  dsimp only
  split
  · exact .pure _ _
  · refine .bind (.onSecond _ _) fun answer => ?_
    cases answer with
    | ok id => exact .onFirst (.modify fun _ => rfl)
    | error refusal => exact keeps_setSlot _

theorem keeps_prepare :
    Keeps (fun state : Batch × SharedTransaction σ => state.1.unread) prepare := by
  have hdefine : Keeps (fun state : List Entry × SharedTransaction σ => state.1.map Entry.unread)
      (SharedTransaction.useWith defineEntries) :=
    .useWith (.bind (.forEach keeps_defineEntry) fun _ => .bind (.get _) fun _ => .pure _ _)
  refine .bind (.get _) fun ⟨batch, shared⟩ => ?_
  dsimp only
  split
  · refine .bind (fun state => hdefine (state.1.entries, state.2)) fun answer => ?_
    cases answer with
    | error refusal => exact .pure _ _
    | ok defined =>
      exact .bind (.onFirst (.modify fun _ => rfl)) fun _ => .bind (.lift _ _) fun _ => .pure _ _
  · exact .pure _ _
  · exact .pure _ _

theorem keeps_readBlob (id : Nat) :
    Keeps (fun state : BlobHandler × σ => state.1.unread) (readBlob id) := by
  refine .bind (.get _) fun ⟨blob, _⟩ => ?_
  dsimp only
  split
  · exact .pure _ _
  · refine .bind (.onSecond _ _) fun result => ?_
    cases result with
    | some bytes => exact .onFirst (.modify (BlobHandler.unread_fill bytes))
    | none => exact .pure _ _

theorem keeps_readBlobs (id : Nat) :
    Keeps (fun state : Entry × σ => state.1.unread) (readBlobs id) := by
  rintro ⟨entry, engine⟩
  have hblobs := Keeps.forEach (keeps_readBlob id) (entry.operation.blobs, engine)
  exact congrArg (fun blobs => { entry.operation with blobs }) hblobs

theorem keeps_collectEntry (transactionError : Option EngineError) :
    Keeps (fun state : Entry × σ => state.1.unread) (collectEntry transactionError) := by
  refine .bind (.get _) fun ⟨entry, _⟩ => ?_
  dsimp only
  split
  · exact .pure _ _
  · split
    · exact .pure _ _
    · refine .bind (.onSecond _ _) fun own => ?_
      split
      · exact keeps_setSlot _
      · exact keeps_setSlot _
      · exact keeps_readBlobs _

theorem keeps_executeEntries (options : RoundTrip) :
    Keeps (fun state : List Entry × σ => state.1.map Entry.unread) (executeEntries options) :=
  .bind (.onSecond _ _) fun _ => .bind (.onSecond _ _) fun _ =>
    .bind (.forEach (keeps_collectEntry _)) fun _ => .pure _ _

theorem keeps_roundTrip (options : RoundTrip) :
    Keeps (fun state : List Entry × SharedTransaction σ => state.1.map Entry.unread)
      (roundTrip options) := by
  refine .bind (.useWith (keeps_executeEntries options)) fun result => ?_
  cases result with
  | error refusal => exact .pure _ _
  | ok transactionError =>
    dsimp only
    split
    · exact .bind (.onSecond _ _) fun _ => .pure _ _
    · exact .pure _ _

theorem keeps_execute (options : RoundTrip) :
    Keeps (fun state : Batch × SharedTransaction σ => state.1.unread) (execute options) := by
  refine .bind (keeps_start _ _) fun started => ?_
  cases started with
  | error e => exact .pure _ _
  | ok scope =>
    have htrip : Keeps (fun state : Batch × SharedTransaction σ => state.1.unread)
        (onEntries (roundTrip options)) := fun state =>
      keeps_roundTrip options (state.1.entries, state.2)
    exact .within (.bind (.onFirst htrip) fun _ => keeps_complete _ _)

end Batch

end StorageClient
