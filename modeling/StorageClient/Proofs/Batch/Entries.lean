import StorageClient.Batch.Basic
/-!
# StorageClient.Proofs.Batch.Entries

What the two rounds over the entries of a batch do to one entry, by cases: `Defined` for the round
that defines the operations, `Collected` for the round that collects what came of them. Within the
second, there is a round over the large objects of an entry (`Reread`). All of them tell which calls
are made on the transaction, so the calls of a round are the calls for its entries, one after the
other (`Action.forEach_returned`).

Only rounds that return count: a panic poisons the transaction, and then there are no more rounds.
-/

namespace StorageClient

def TransactionCall.isDefinition : TransactionCall → Bool
  | define .. => true
  | _ => false

/-- A round over some things: every one of them was visited, with some of the calls. -/
structure Round {σ : Type} (Visited : σ → List TransactionCall → σ → Prop) (things : List σ)
    (segments : List (List TransactionCall)) (things' : List σ) : Prop where
  length_segments : segments.length = things.length
  length_things : things'.length = things.length
  visited : ∀ (n : Nat) (thing : σ), things[n]? = some thing → ∃ segment thing',
    segments[n]? = some segment ∧ things'[n]? = some thing' ∧ Visited thing segment thing'

/-- Every call of a round belongs to a visit. -/
theorem Round.visited_of_mem {σ : Type} {Visited : σ → List TransactionCall → σ → Prop}
    {things things' : List σ} {segments : List (List TransactionCall)}
    (h : Round Visited things segments things') {call : TransactionCall}
    (hcall : call ∈ segments.flatten) :
    ∃ thing segment thing', Visited thing segment thing' ∧ call ∈ segment := by
  obtain ⟨segment, hsegment, hmem⟩ := List.mem_flatten.mp hcall
  obtain ⟨n, hn⟩ := List.mem_iff_getElem?.mp hsegment
  have hlt : n < things.length := by
    rw [← h.length_segments]
    exact (List.getElem?_eq_some_iff.mp hn).1
  obtain ⟨segment', thing', hsegment', -, hvisited⟩ :=
    h.visited n things[n] (List.getElem?_eq_getElem hlt)
  obtain rfl : segment = segment' := Option.some.inj (hn.symm.trans hsegment')
  exact ⟨_, segment, thing', hvisited, hmem⟩

namespace Action

variable {σ τ α β : Type}

theorem bind_eq_returned {first : Action σ α} {next : α → Action σ β} {s s' : σ} {b : β}
    {effects : List Effect} (h : (first >>= next) s = ⟨(.returned b, s'), effects⟩) :
    ∃ a mid before after, first s = ⟨(.returned a, mid), before⟩ ∧
      next a mid = ⟨(.returned b, s'), after⟩ ∧ effects = before ++ after := by
  rw [bind_apply] at h
  rcases hfirst : first s with ⟨⟨answer, mid⟩, before⟩
  rw [hfirst] at h
  cases answer with
  | returned a =>
    rcases hnext : next a mid with ⟨⟨answer', last⟩, after⟩
    simp only [Traced.bind, hnext] at h
    obtain ⟨⟨rfl, rfl⟩, rfl⟩ : (answer' = .returned b ∧ last = s') ∧ before ++ after = effects := by
      simpa using h
    exact ⟨a, mid, before, after, rfl, hnext, rfl⟩
  | panicked text =>
    simp [Traced.bind] at h

theorem pure_eq_returned {a b : α} {s s' : σ} {effects : List Effect}
    (h : (pure a : Action σ α) s = ⟨(.returned b, s'), effects⟩) :
    a = b ∧ s = s' ∧ effects = [] := by
  cases h
  exact ⟨rfl, rfl, rfl⟩

/-- A round over a list that returns has visited everything in the list, in order. -/
theorem forEach_returned {action : Action (σ × τ) Unit}
    {Visited : σ → List TransactionCall → σ → Prop}
    (hvisit : ∀ {thing thing' : σ} {before after : τ} {effects : List Effect},
      action (thing, before) = ⟨(.returned (), thing', after), effects⟩ →
      Visited thing (Effect.transactionCalls effects) thing')
    (things : List σ) : ∀ {rest rest' : τ} {things' : List σ} {effects : List Effect},
      forEach action (things, rest) = ⟨(.returned (), things', rest'), effects⟩ →
      ∃ segments, Round Visited things segments things' ∧
        Effect.transactionCalls effects = segments.flatten := by
  induction things with
  | nil =>
    intro rest rest' things' effects h
    have hnil : (⟨(.returned (), [], rest), []⟩ : Traced (Answer Unit × List σ × τ)) =
        ⟨(.returned (), things', rest'), effects⟩ := h
    cases hnil
    exact ⟨[], ⟨rfl, rfl, fun n thing hn => nomatch hn⟩, rfl⟩
  | cons thing things ih =>
    intro rest rest' things' effects h
    rcases hfirst : action (thing, rest) with ⟨⟨answer, thing', mid⟩, before⟩
    cases answer with
    | panicked text => simp [forEach, visit, Traced.bind, hfirst] at h
    | returned value =>
      -- The first visit returned, so the round over the rest did, too.
      rcases hrest : forEach action (things, mid) with ⟨⟨answer, things'', last⟩, after⟩
      rw [forEach] at hrest
      obtain ⟨⟨rfl, rfl, rfl⟩, rfl⟩ : (answer = .returned () ∧ thing' :: things'' = things' ∧
          last = rest') ∧ before ++ after = effects := by
        simpa [forEach, visit, Traced.bind, hfirst, hrest] using h
      obtain ⟨segments, hround, hcalls⟩ := ih hrest
      refine ⟨Effect.transactionCalls before :: segments, ⟨by simp [hround.length_segments],
        by simp [hround.length_things], fun n other hn => ?_⟩, by simp [hcalls]⟩
      cases n with
      | zero =>
        obtain rfl := Option.some.inj hn
        exact ⟨_, thing', rfl, rfl, hvisit hfirst⟩
      | succ n => exact hround.visited n other hn

/-- A round makes no other calls than its visits, also if it panics. -/
theorem mem_calls_forEach {action : Action (σ × τ) Unit} {Made : TransactionCall → Prop}
    (hvisit : ∀ thing rest, ∀ call ∈ Effect.transactionCalls (action (thing, rest)).effects,
      Made call)
    (things : List σ) : ∀ rest,
      ∀ call ∈ Effect.transactionCalls (forEach action (things, rest)).effects, Made call := by
  induction things with
  | nil => intro rest call hcall; exact nomatch hcall
  | cons thing things ih =>
    intro rest call hcall
    have hfirst := hvisit thing rest
    rcases hvisited : action (thing, rest) with ⟨⟨answer, thing', mid⟩, before⟩
    rw [hvisited] at hfirst
    cases answer with
    | panicked text =>
      refine hfirst call ?_
      simpa [forEach, visit, Traced.bind, hvisited] using hcall
    | returned value =>
      have hrest := ih mid
      rw [forEach] at hrest
      rcases hvisits : visit action things mid with ⟨⟨answer, things', last⟩, after⟩
      rw [hvisits] at hrest
      have hmem : call ∈ Effect.transactionCalls before ++ Effect.transactionCalls after := by
        simpa [forEach, visit, Traced.bind, hvisited, hvisits] using hcall
      rcases List.mem_append.mp hmem with hmem | hmem
      · exact hfirst call hmem
      · exact hrest call hmem

end Action

/-- A call that returns tells its answer, and leaves everything else alone. -/
theorem Transaction.call_returned {σ τ α : Type} {run : σ → Answer α × σ}
    {told : Answer α → TransactionCall} {thing thing' : τ} {engine engine' : σ} {value : α}
    {effects : List Effect}
    (h : Action.onSecond (call run told) (thing, engine) =
      ⟨(.returned value, thing', engine'), effects⟩) :
    thing' = thing ∧ effects = [.transaction (told (.returned value))] := by
  rcases hrun : run engine with ⟨answer, next⟩
  simp only [Action.onSecond_apply, call, hrun] at h
  cases h
  exact ⟨rfl, rfl⟩

namespace Batch

variable {σ : Type} [Engine σ]

/-- What defining its operation does to an entry, and the calls made for it. -/
inductive Defined (entry : Entry) : List TransactionCall → Entry → Prop
  /-- The entry failed before, so it is left out. -/
  | left (h : entry.slot.isOperation = true) : Defined entry [] entry
  | accepted (h : entry.slot.isOperation = false) (id : Nat) :
    Defined entry [.define entry.operation (.returned (.ok id))] { entry with id := some id }
  | refused (h : entry.slot.isOperation = false) (refusal : EngineError) :
    Defined entry [.define entry.operation (.returned (.error refusal))]
      { entry with slot := .operation refusal }

theorem Defined.isDefinition {entry entry' : Entry} {definition : List TransactionCall}
    (h : Defined entry definition entry') : ∀ call ∈ definition, call.isDefinition = true := by
  intro call hcall
  cases h with
  | left => exact nomatch hcall
  | accepted _ id => rw [List.mem_singleton.mp hcall]; rfl
  | refused _ refusal => rw [List.mem_singleton.mp hcall]; rfl

/-- What reading back does to a large object of an operation, and the calls made for it. -/
inductive Reread (id : Nat) (blob : BlobHandler) : List TransactionCall → BlobHandler → Prop
  /-- What is written is not read back. -/
  | left (h : blob.isRead = false) : Reread id blob [] blob
  | found (h : blob.isRead = true) (bytes : Bytes) :
    Reread id blob [.readBlob id blob.column (.returned (some bytes))] (blob.fill bytes)
  | missing (h : blob.isRead = true) :
    Reread id blob [.readBlob id blob.column (.returned none)] blob

/-- What collecting does to an entry, given the error of the transaction, and the calls made for
it. -/
inductive Collected (transactionError : Option EngineError) (entry : Entry) :
    List TransactionCall → Entry → Prop
  /-- The entry failed before. -/
  | left (h : entry.slot.isOperation = true) : Collected transactionError entry [] entry
  /-- The operation of the entry was not accepted. -/
  | unnamed (h : entry.slot.isOperation = false) (hid : entry.id = none) :
    Collected transactionError entry [] entry
  | failed (h : entry.slot.isOperation = false) {id : Nat} (hid : entry.id = some id)
      {own : Option EngineError} {error : EngineError} (hown : genuine own = some error) :
    Collected transactionError entry [.operationError id (.returned own)]
      { entry with slot := .operation error }
  | lost (h : entry.slot.isOperation = false) {id : Nat} (hid : entry.id = some id)
      {own : Option EngineError} (hown : genuine own = none) {error : EngineError}
      (hlost : transactionError = some error) :
    Collected transactionError entry [.operationError id (.returned own)]
      { entry with slot := .transaction }
  /-- Nothing failed, and the large objects are read back. -/
  | done (h : entry.slot.isOperation = false) {id : Nat} (hid : entry.id = some id)
      {own : Option EngineError} (hown : genuine own = none) (hdone : transactionError = none)
      {reads : List (List TransactionCall)} {blobs : List BlobHandler}
      (hread : Round (Reread id) entry.operation.blobs reads blobs) :
    Collected transactionError entry (.operationError id (.returned own) :: reads.flatten)
      { entry with operation := { entry.operation with blobs } }

theorem defined_of_returned {entry entry' : Entry} {engine engine' : σ} {effects : List Effect}
    (h : defineEntry (entry, engine) = ⟨(.returned (), entry', engine'), effects⟩) :
    Defined entry (Effect.transactionCalls effects) entry' := by
  by_cases hslot : entry.slot.isOperation = true
  · obtain ⟨⟨rfl, -⟩, rfl⟩ : (entry = entry' ∧ engine = engine') ∧ effects = [] := by
      simpa [defineEntry, Action.bind_apply, Traced.bind, hslot] using h
    exact .left hslot
  rw [Bool.not_eq_true] at hslot
  rcases hask : Engine.define entry.operation engine with ⟨⟨refusal | id⟩ | text, next⟩ <;>
    simp [defineEntry, Action.bind_apply, Traced.bind, hslot, Transaction.define, Transaction.call,
      hask, setSlot] at h
  · obtain ⟨⟨rfl, -⟩, rfl⟩ := h
    exact .refused hslot refusal
  · obtain ⟨⟨rfl, -⟩, rfl⟩ := h
    exact .accepted hslot id

theorem reread_of_returned {id : Nat} {blob blob' : BlobHandler} {engine engine' : σ}
    {effects : List Effect}
    (h : readBlob id (blob, engine) = ⟨(.returned (), blob', engine'), effects⟩) :
    Reread id blob (Effect.transactionCalls effects) blob' := by
  cases hread : blob.isRead with
  | false =>
    obtain ⟨⟨rfl, -⟩, rfl⟩ : (blob = blob' ∧ engine = engine') ∧ effects = [] := by
      simpa [readBlob, Action.bind_apply, Traced.bind, hread] using h
    exact .left hread
  | true =>
    rcases hask : Engine.readBlob id blob.column engine with ⟨⟨_ | bytes⟩ | text, next⟩ <;>
      simp [readBlob, Action.bind_apply, Traced.bind, hread, Transaction.readBlob,
        Transaction.call, hask] at h
    · obtain ⟨⟨rfl, -⟩, rfl⟩ := h
      exact .missing hread
    · obtain ⟨⟨rfl, -⟩, rfl⟩ := h
      exact .found hread bytes

theorem collected_of_returned {transactionError : Option EngineError} {entry entry' : Entry}
    {engine engine' : σ} {effects : List Effect}
    (h : collectEntry transactionError (entry, engine) =
      ⟨(.returned (), entry', engine'), effects⟩) :
    Collected transactionError entry (Effect.transactionCalls effects) entry' := by
  by_cases hslot : entry.slot.isOperation = true
  · obtain ⟨⟨rfl, -⟩, rfl⟩ : (entry = entry' ∧ engine = engine') ∧ effects = [] := by
      simpa [collectEntry, Action.bind_apply, Traced.bind, hslot] using h
    exact .left hslot
  rw [Bool.not_eq_true] at hslot
  obtain ⟨operation, _ | id, slot⟩ := entry
  · obtain ⟨⟨rfl, -⟩, rfl⟩ : (_ = entry' ∧ engine = engine') ∧ effects = [] := by
      simpa [collectEntry, Action.bind_apply, Traced.bind, hslot] using h
    exact .unnamed hslot rfl
  rcases hask : Engine.operationError id engine with ⟨own | text, next⟩
  case panicked =>
    simp [collectEntry, Action.bind_apply, Traced.bind, hslot, Transaction.operationError,
      Transaction.call, hask] at h
  -- The error of the operation counts before the error of the transaction does.
  rcases hown : genuine own with _ | error <;> rcases transactionError with _ | lost <;>
    simp [collectEntry, Action.bind_apply, Traced.bind, hslot, Transaction.operationError,
      Transaction.call, hask, hown, setSlot, readBlobs] at h
  · rcases hround : Action.forEach (readBlob id) (operation.blobs, next) with
      ⟨⟨answer, blobs, last⟩, effects'⟩
    rw [hround] at h
    obtain ⟨⟨rfl, rfl, -⟩, rfl⟩ := h
    obtain ⟨reads, hreads, hcalls⟩ := Action.forEach_returned reread_of_returned _ hround
    rw [Effect.transactionCalls_transaction, hcalls]
    exact .done hslot rfl hown rfl hreads
  · obtain ⟨⟨rfl, -⟩, rfl⟩ := h
    exact .lost hslot rfl hown rfl
  · obtain ⟨⟨rfl, -⟩, rfl⟩ := h
    exact .failed hslot rfl hown
  · obtain ⟨⟨rfl, -⟩, rfl⟩ := h
    exact .failed hslot rfl hown

theorem isDefinition_of_mem_defineEntry {entry : Entry} {engine : σ} {call : TransactionCall}
    (h : call ∈ Effect.transactionCalls (defineEntry (entry, engine)).effects) :
    call.isDefinition = true := by
  by_cases hslot : entry.slot.isOperation = true
  · simp [defineEntry, Action.bind_apply, Traced.bind, hslot] at h
  rw [Bool.not_eq_true] at hslot
  have hcall : ∃ answer, call = .define entry.operation answer := by
    rcases hask : Engine.define entry.operation engine with ⟨⟨refusal | id⟩ | text, next⟩ <;>
      simp [defineEntry, Action.bind_apply, Traced.bind, hslot, Transaction.define,
        Transaction.call, hask, setSlot] at h <;>
      exact ⟨_, h⟩
  obtain ⟨answer, rfl⟩ := hcall
  rfl

/-- The round that defines the operations makes no other calls. -/
theorem isDefinition_of_mem_defineEntries {entries : List Entry} {engine : σ}
    {call : TransactionCall}
    (h : call ∈ Effect.transactionCalls (defineEntries (entries, engine)).effects) :
    call.isDefinition = true := by
  refine Action.mem_calls_forEach (fun entry rest call => isDefinition_of_mem_defineEntry) entries
    engine call ?_
  rcases hround : Action.forEach defineEntry (entries, engine) with ⟨⟨answer, state⟩, effects⟩
  cases answer <;> simpa [defineEntries, Action.bind_apply, Traced.bind, hround] using h

theorem defineEntries_returned {entries entries' : List Entry} {engine engine' : σ} {count : Nat}
    {effects : List Effect}
    (h : defineEntries (entries, engine) = ⟨(.returned count, entries', engine'), effects⟩) :
    ∃ definitions, Round Defined entries definitions entries' ∧
      Effect.transactionCalls effects = definitions.flatten := by
  rw [defineEntries] at h
  obtain ⟨⟨⟩, ⟨visited, engine''⟩, before, after, hround, hcount, rfl⟩ := Action.bind_eq_returned h
  obtain ⟨-, hstate, rfl⟩ := Action.pure_eq_returned hcount
  obtain ⟨rfl, rfl⟩ := Prod.mk.inj hstate
  rw [List.append_nil]
  exact Action.forEach_returned defined_of_returned entries hround

/-- The error of the transaction in a round trip: its own if it has one, otherwise that of the round
trip. -/
def roundTripError (own : Option EngineError) (result : Except EngineError Unit) :
    Option EngineError :=
  match genuine own, result with
  | some error, _ => some error
  | none, .error error => some error
  | none, .ok () => none

/-- The round trip, and the round that collects what came of the entries. -/
theorem executeEntries_returned {options : RoundTrip} {entries entries' : List Entry}
    {engine engine' : σ} {transactionError : Option EngineError} {effects : List Effect}
    (h : executeEntries options (entries, engine) =
      ⟨(.returned transactionError, entries', engine'), effects⟩) :
    ∃ result own inquiries, transactionError = roundTripError own result ∧
      Round (Collected transactionError) entries inquiries entries' ∧
      Effect.transactionCalls effects =
        .execute options (.returned result) :: .error (.returned own) :: inquiries.flatten := by
  rw [executeEntries] at h
  -- The work is taken apart call by call; the two before the round leave the entries alone.
  obtain ⟨result, ⟨_, engine₁⟩, _, _, hexecute, h₁, rfl⟩ := Action.bind_eq_returned h
  obtain ⟨own, ⟨_, engine₂⟩, _, _, herror, h₂, rfl⟩ := Action.bind_eq_returned h₁
  obtain ⟨⟨⟩, ⟨_, engine₃⟩, _, _, hround, h₃, rfl⟩ := Action.bind_eq_returned h₂
  obtain ⟨rfl, rfl⟩ := Transaction.call_returned hexecute
  obtain ⟨rfl, rfl⟩ := Transaction.call_returned herror
  obtain ⟨rfl, hstate, rfl⟩ := Action.pure_eq_returned h₃
  obtain ⟨rfl, rfl⟩ := Prod.mk.inj hstate
  obtain ⟨inquiries, hinquiries, hcalls⟩ := Action.forEach_returned collected_of_returned _ hround
  refine ⟨result, own, inquiries, rfl, hinquiries, ?_⟩
  rw [List.append_nil, Effect.transactionCalls_append, Effect.transactionCalls_append, hcalls]
  rfl

end Batch

end StorageClient
