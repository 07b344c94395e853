import StorageClient.Chain.Compile
import StorageClient.Proofs.Actions
import StorageClient.Proofs.Fetch.Counts
import StorageClient.Proofs.Laws
import StorageClient.Proofs.Tree.Calls
/-!
# StorageClient.Proofs.Transaction.Closing

How it is recorded that a transaction is over.

* What is recorded stays. To record it again is possible, but it changes nothing and is not told
  (`Latched`).
* Most operations are *neutral*: they leave the record as it is, and say nothing about the end of
  any transaction (`Law.neutral`). All that is done with builders, chains and executors is neutral,
  whatever comes of it.
-/

namespace StorageClient

variable {σ τ α β : Type}

/-! ### Announcements -/

/-- The line that says that a transaction is over. -/
def closedLine (transaction : String) : Line :=
  Event.transactionClosed.line [("transaction", .text transaction)]

namespace Effect

/-- Whether an effect is a line that says that some transaction is over. -/
def announces : Effect → Bool
  | .line l => l.event == Event.transactionClosed.name
  | _ => false

/-- The lines that say that some transaction is over. -/
def announcements (effects : List Effect) : List Line :=
  (lines effects).filter fun line => line.event == Event.transactionClosed.name

@[simp] theorem announcements_append (a b : List Effect) :
    announcements (a ++ b) = announcements a ++ announcements b := by
  simp [announcements]

/-- Whether an effect is a call on a transaction, or says that some transaction is over. -/
def isNotable : Effect → Bool
  | .transaction _ => true
  | effect => effect.announces

def notable (effects : List Effect) : List Effect := effects.filter isNotable

@[simp] theorem notable_append (a b : List Effect) : notable (a ++ b) = notable a ++ notable b := by
  simp [notable]

@[simp] theorem notable_nil : notable [] = [] := rfl

theorem notable_line {l : Line} (h : announces (.line l) = false) (rest : List Effect) :
    notable (.line l :: rest) = notable rest :=
  List.filter_cons_of_neg (Bool.eq_false_iff.mp h)

theorem notable_lines {lines : List Line} (h : ∀ line ∈ lines, announces (.line line) = false) :
    notable (lines.map .line) = [] := by
  induction lines with
  | nil => rfl
  | cons line rest ih =>
    obtain ⟨hline, hrest⟩ := List.forall_mem_cons.mp h
    rw [List.map_cons, notable_line hline, ih hrest]

theorem announcements_notable (effects : List Effect) :
    announcements (notable effects) = announcements effects := by
  induction effects with
  | nil => rfl
  | cons effect rest ih =>
    rw [notable, List.filter_cons, ← notable]
    cases effect with
    | line l =>
      cases h : l.event == Event.transactionClosed.name <;>
        simp_all [isNotable, announces, announcements, lines]
    | count | transaction | cursor =>
      simpa [isNotable, announces, announcements, lines] using ih

theorem transactionCalls_notable (effects : List Effect) :
    transactionCalls (notable effects) = transactionCalls effects := by
  induction effects with
  | nil => rfl
  | cons effect rest ih =>
    rw [notable, List.filter_cons, ← notable]
    cases effect with
    | line l =>
      cases h : l.event == Event.transactionClosed.name <;>
        simp_all [isNotable, announces]
    | count | transaction | cursor => simpa [isNotable, announces, transactionCalls] using ih

/-- An effect that says nothing about the end of a transaction. -/
def Discreet (effect : Effect) : Prop := effect.announces = false

theorem announcements_eq_nil {effects : List Effect} (h : ∀ effect ∈ effects, effect.Discreet) :
    announcements effects = [] := by
  induction effects with
  | nil => rfl
  | cons effect rest ih =>
    obtain ⟨heffect, hrest⟩ := List.forall_mem_cons.mp h
    cases effect with
    | line l =>
      have hevent : (l.event == Event.transactionClosed.name) = false := heffect
      simpa [announcements, lines, hevent] using ih hrest
    | count | transaction | cursor => simpa [announcements, lines] using ih hrest

theorem discreet_event {event : Event} (fields : List Field)
    (h : event ≠ .transactionClosed := by decide) : Discreet (.line (event.line fields)) := by
  have hname : event.name ≠ Event.transactionClosed.name := by
    revert h
    cases event <;> decide
  simpa [Discreet, announces] using hname

end Effect

open Effect (Discreet announcements discreet_event)

namespace Scope

/-- A scope does not write under the name of the event that a transaction is over. -/
theorem discreet_of_suffix {line : Line} {name : String} (suffix : String)
    (hevent : line.event = name ++ suffix)
    (h : ¬suffix.toList <:+ Event.transactionClosed.name.toList := by decide) :
    Discreet (.line line) := by
  have hne : line.event ≠ Event.transactionClosed.name := fun heq =>
    h ⟨name.toList, by rw [← String.toList_append, ← hevent, heq]⟩
  simpa [Discreet, Effect.announces] using hne

theorem discreet_opening (scope : Scope) : Discreet (.line scope.opening) :=
  discreet_of_suffix "_BEGIN" rfl

theorem discreet_closing (scope : Scope) (closing : Closing) :
    Discreet (.line (scope.closing closing)) := by
  cases closing with
  | completed extra => exact discreet_of_suffix "_COMPLETE" rfl
  | failed reason => exact discreet_of_suffix "_FAILED" rfl
  | failedFatally reason => exact discreet_of_suffix "_FAILED" rfl
  | dropped => exact discreet_of_suffix "_INCOMPLETE" rfl

end Scope

theorem notable_dropHeld (held : Option OpenScope) :
    Effect.notable (OpenScope.dropHeld held).effects = [] := by
  rcases held with _ | ⟨scope, _ | _⟩
  · rfl
  · exact Effect.notable_line (scope.discreet_closing .dropped) []
  · rfl

/-! ### Operations that record nothing -/

/-- Leaves the record that a transaction is over as it is, and says nothing about it. -/
def Law.neutral : Law (SharedTransaction σ) where
  Allows before after effects :=
    after.closed = before.closed ∧ ∀ effect ∈ effects, effect.Discreet
  rest _ := ⟨rfl, fun _ hmem => absurd hmem List.not_mem_nil⟩
  trans hbefore hafter := ⟨hafter.1.trans hbefore.1, fun effect hmem =>
    (List.mem_append.mp hmem).elim (hbefore.2 effect) (hafter.2 effect)⟩

namespace Action.Obeys

theorem call (run : σ → Answer α × σ) (told : Answer α → TransactionCall) :
    Obeys (.emits Discreet) (Transaction.call run told) := fun _ _ hmem =>
  List.mem_singleton.mp hmem ▸ rfl

/-- An action that makes calls only has effects of a kind if all calls are of that kind. -/
theorem emits_of_candid {p : Effect → Prop} (hcall : ∀ call, p (.transaction call))
    {action : Action σ α} (h : Candid action) : Obeys (.emits p) action := by
  intro state effect hmem
  obtain ⟨calls, heffects, -⟩ := h state
  rw [heffects] at hmem
  obtain ⟨call, -, rfl⟩ := List.mem_map.mp hmem
  exact hcall call

theorem of_candid {action : Action σ α} (h : Candid action) : Obeys (.emits Discreet) action :=
  .emits_of_candid (fun _ => rfl) h

/-- A use is neutral, whatever its body does to the engine. -/
theorem useWith {body : Action (τ × σ) α} (h : Obeys (.emits Discreet) body) :
    Obeys (Law.neutral.on Prod.snd) (SharedTransaction.useWith body) :=
  fun (thing, shared) =>
    ⟨SharedTransaction.closed_useWith body thing shared, h.emits_useWith (thing, shared)⟩

theorem use {body : Action σ α} (h : Obeys (.emits Discreet) body) :
    Obeys Law.neutral (SharedTransaction.use body) := by
  intro shared
  obtain ⟨hclosed, heffects⟩ := useWith (τ := Unit) h.onSecond ((), shared)
  refine ⟨hclosed, fun effect hmem => heffects effect ?_⟩
  simpa [SharedTransaction.use, Traced.bind] using hmem

theorem attempt {body : Action σ (Except EngineError α)} (h : Obeys (.emits Discreet) body) :
    Obeys Law.neutral (SharedTransaction.attempt body) :=
  .bind (use h) fun answer => by cases answer <;> exact .pure _

theorem log {event : Event} (fields : List Field)
    (h : event ≠ .transactionClosed := by decide) :
    Obeys (.emits Discreet) (Action.log (event.line fields) : Action σ Unit) :=
  .emit (discreet_event fields h)

/-- What says nothing and does not touch the transaction is neutral. -/
theorem aside {action : Action τ α} (h : Obeys (.emits Discreet) action) :
    Obeys (Law.neutral.on Prod.snd) (Action.onFirst action : Action (τ × SharedTransaction σ) α) :=
  .beside fun thing _ => ⟨rfl, h thing⟩

theorem lifted {x : Traced α} (h : x.Emits Discreet) :
    Obeys (Law.neutral.on Prod.snd) (Action.lift x : Action (τ × SharedTransaction σ) α) :=
  .lift fun _ => ⟨rfl, h⟩

end Action.Obeys

/-! ### Executors -/

namespace Fetch

/-- Nothing that comes of storing a row says anything but that the store has grown. -/
theorem event_of_storing {line : Line} (h : (Effect.line line).Storing) :
    line.event = Event.headerArrayGrown.name := by
  simpa [Effect.Storing, Effect.isStoring] using h

theorem discreet_drain [Memory] (query : Query) (cursor : Cursor) (fetch : Fetch) :
    (drain query cursor fetch).Emits Discreet := by
  have hpoll : Discreet (.cursor .poll) := rfl
  refine emits_drain (fun effect hstoring => ?_) hpoll query cursor fetch
  cases effect with
  | line l =>
    rw [Discreet, Effect.announces, event_of_storing hstoring]
    decide
  | count | transaction | cursor => rfl

end Fetch

namespace Executor

open StorageClient.Action (Obeys)

theorem discreet_close : Obeys (.emits Discreet) close := by
  refine .of_emits fun executor => ?_
  unfold close
  split
  · exact .emit rfl
  · exact .pure _

theorem discreet_fail (error : FetchError) :
    Obeys (.emits Discreet) (fail error : Action Executor (Except FetchError α)) :=
  .bind (.change _) fun _ => .bind (.emit rfl) fun _ => .pure _

section Fetch

variable [Memory]

theorem discreet_drainCursor : Obeys (.emits Discreet) drainCursor := by
  refine .of_emits fun executor => ?_
  unfold drainCursor
  split
  · exact .bind (Fetch.discreet_drain _ _ _) fun _ => .pure _
  · exact .pure _

theorem discreet_fetchInScope : Obeys (.emits Discreet) fetchInScope := by
  refine .bind (.emits_onFirst discreet_drainCursor) fun outcome =>
    .bind (.emits_onFirst discreet_close) fun _ => .bind .get fun (executor, _) => ?_
  cases outcome with
  | ok =>
    exact .bind (.emits_onFirst (.change _)) fun _ => .bind (.emit rfl) fun _ =>
      .bind (.log _) fun _ => .bind (.emits_closeScope fun _ => Scope.discreet_closing _ _)
        fun _ => .pure _
  | error error =>
    exact .bind (.log _) fun _ => .bind (.emits_closeScope fun _ => Scope.discreet_closing _ _)
      fun _ => .emits_onFirst (discreet_fail error)

theorem discreet_fetchAll : Obeys (.emits Discreet) fetchAll := by
  refine .bind .get fun executor => ?_
  split
  · exact .emits_within discreet_fetchInScope (Scope.discreet_opening _) fun _ =>
      Scope.discreet_closing _ _
  · exact .pure _

end Fetch

variable [Engine σ]

theorem neutral_createQuery :
    Obeys (Law.neutral.on Prod.snd)
      (createQuery : Action (Executor × SharedTransaction σ) (Except FetchError Unit)) := by
  refine .bind .get fun (executor, shared) => ?_
  dsimp only
  split
  · refine .bind (.onSecond (.attempt (.call _ _))) fun answer => ?_
    cases answer with
    | ok cursor =>
      exact .bind (.aside (.change _)) fun _ =>
        .bind (.lifted (.emit (discreet_event _))) fun _ => .pure _
    | error cause =>
      exact .bind (.lifted (.emit (discreet_event _))) fun _ => .aside (discreet_fail _)
  · exact .pure _
  · exact .pure _

theorem neutral_run [Memory] :
    Obeys (Law.neutral.on Prod.snd)
      (run : Action (Executor × SharedTransaction σ) (Except FetchError Nat)) := by
  refine .bind neutral_createQuery fun created => ?_
  cases created with
  | error error => exact .pure _
  | ok =>
    refine .bind .get fun (executor, shared) =>
      .bind (.onSecond (.attempt (.call _ _))) fun sent => ?_
    cases sent with
    | error cause => exact .bind (.aside discreet_close) fun _ => .aside (discreet_fail _)
    | ok => exact .aside discreet_fetchAll

theorem neutral_runOnTask [Memory] (task : String) (executor : Executor)
    (shared : SharedTransaction σ) :
    Law.neutral.Allows shared (runOnTask task executor shared).value.2
      (runOnTask task executor shared).effects := by
  obtain ⟨hclosed, heffects⟩ := neutral_run (executor, shared)
  rcases hrun : run (executor, shared) with ⟨⟨answer, executor', shared'⟩, effects⟩
  rw [hrun] at hclosed heffects
  cases answer with
  | returned result => simpa [runOnTask, Traced.bind, hrun] using ⟨hclosed, heffects⟩
  | panicked text =>
    have hdropped : Law.neutral.Allows shared' shared' (close executor').effects :=
      ⟨rfl, discreet_close executor'⟩
    simpa [runOnTask, Traced.bind, hrun] using Law.neutral.trans ⟨hclosed, heffects⟩ hdropped

end Executor

/-! ### Builders and chains -/

namespace Builder

theorem discreet_report (error : DefinitionError) : (report error).Emits Discreet :=
  .bind (.emit rfl) fun _ => .emit (discreet_event _)

theorem discreet_define (builder : Builder) (index : Option Index) (table : Table)
    (operands : List Operand) : (builder.define index table operands).Emits Discreet := by
  unfold define
  split
  · exact .pure _
  · exact .bind (discreet_report _) fun _ => .pure _

theorem discreet_perform (builder : Builder) (call : Call) :
    (call.perform builder).Emits Discreet := by
  cases call with
  | define index table operands => exact discreet_define builder index table operands
  | setRecord | markJoinOnly =>
    unfold Call.perform
    dsimp only
    split <;> exact .pure _

theorem discreet_prepare (builder : Builder) (root : LevelRef) (id : String) :
    (builder.prepare root id).Emits Discreet := by
  unfold prepare
  split
  · exact .bind (.emit (discreet_event _)) fun _ => .pure _
  · exact .bind (discreet_report _) fun _ => .pure _

end Builder

namespace Chain

theorem discreet_defineJoins (joins : List Join) : ∀ (builder : Builder) (parent : LevelRef),
    (defineJoins builder parent joins).Emits Discreet := by
  induction joins with
  | nil => exact fun _ _ => .pure _
  | cons join rest ih =>
    intro builder parent
    refine .bind (.bind (Builder.discreet_define _ _ _ _) fun _ => .pure _) fun defined => ?_
    cases defined with
    | ok => exact ih _ _
    | error => exact .pure _

theorem discreet_compile (chain : Chain) (id : String) : (chain.compile id).Emits Discreet := by
  have hroot : chain.rootIndex.Emits Discreet := by
    unfold rootIndex
    split
    · split
      · exact .bind (.emit rfl) fun _ => .bind (.emit (discreet_event _)) fun _ => .pure _
      · exact .pure _
    · exact .pure _
  refine .bind (.emit rfl) fun _ => .bind hroot fun index => ?_
  cases index with
  | error error => exact .pure _
  | ok index =>
    refine .bind (.bind (Builder.discreet_define _ _ _ _) fun _ => .pure _) fun defined => ?_
    cases defined with
    | error error => exact .pure _
    | ok defined =>
      refine .bind (discreet_defineJoins _ _ _) fun joined => ?_
      cases joined with
      | error error => exact .pure _
      | ok builder => exact Builder.discreet_prepare builder _ id

end Chain

/-! ### What is recorded -/

/-- What becomes of the record that a transaction is over, and what is said about it. -/
structure Latched (closes : Bool) (before after : SharedTransaction σ) (effects : List Effect) :
    Prop where
  closed : after.closed = (before.closed || closes)
  announced : announcements effects =
    if closes && !before.closed then [closedLine before.id] else []

theorem Law.neutral.latched {before after : SharedTransaction σ} {effects : List Effect}
    (h : Law.neutral.Allows before after effects) : Latched false before after effects where
  closed := h.1.trans (Bool.or_false _).symm
  announced := Effect.announcements_eq_nil h.2

namespace SharedTransaction

/-- Recording the close makes no call, and is told of once. -/
theorem registerClose_eq (shared : SharedTransaction σ) :
    ∃ lines, registerClose shared = ⟨(.returned (), { shared with closed := true }), lines⟩ ∧
      Effect.transactionCalls lines = [] ∧
      announcements lines = if shared.closed then [] else [closedLine shared.id] := by
  obtain ⟨id, engine, poisoned, closed⟩ := shared
  cases closed with
  | true => exact ⟨[], rfl, rfl, rfl⟩
  | false => exact ⟨[.line (closedLine id)], rfl, rfl, rfl⟩

theorem latched_registerClose (shared : SharedTransaction σ) :
    Latched true shared (registerClose shared).value.2 (registerClose shared).effects := by
  obtain ⟨lines, hregister, -, hlines⟩ := registerClose_eq shared
  rw [hregister]
  refine ⟨(Bool.or_true _).symm, hlines.trans ?_⟩
  cases shared.closed <;> rfl

variable [Engine σ]

theorem neutral_error :
    Action.Obeys Law.neutral (error : Action (SharedTransaction σ) (Option EngineError)) :=
  .bind (.use (.call _ _)) fun answer => by cases answer <;> exact .pure _

/-- Whether a transaction was released. -/
def released : Answer (Except EngineError Unit) → Bool
  | .returned (.ok ()) => true
  | _ => false

/-- A poisoned transaction is not released. -/
theorem close_of_poisoned {shared : SharedTransaction σ} (h : shared.poisoned = true) :
    close shared = pure (.returned (.error .lockPoisoned), shared) := by
  simp [close, Action.bind_apply, Traced.bind, use, useWith_of_poisoned _ _ h]
  rfl

/-- The close is recorded exactly if the transaction was released. -/
theorem latched_close (shared : SharedTransaction σ) :
    Latched (released (close shared).value.1) shared (close shared).value.2
      (close shared).effects := by
  by_cases hpoisoned : shared.poisoned = true
  · rw [close_of_poisoned hpoisoned]
    exact Law.neutral.latched (Law.neutral.rest shared)
  obtain ⟨id, engine, poisoned, closed⟩ := shared
  obtain rfl : poisoned = false := Bool.eq_false_iff.mpr hpoisoned
  rcases hask : Engine.close engine with ⟨⟨⟩ | text, engine'⟩
  · obtain ⟨lines, hregister, -, hlines⟩ := registerClose_eq ⟨id, engine', false, closed⟩
    have hclose : close ⟨id, engine, false, closed⟩ =
        ⟨(.returned (.ok ()), ⟨id, engine', false, true⟩),
          .transaction (.close (.returned ())) :: lines⟩ := by
      simp [close, Action.bind_apply, Traced.bind, use, useWith, Transaction.close,
        Transaction.call, hask, hregister]
    rw [hclose]
    refine ⟨(Bool.or_true _).symm, hlines.trans ?_⟩
    cases closed <;> rfl
  · have hclose : close ⟨id, engine, false, closed⟩ =
        ⟨(.panicked text, ⟨id, engine', true, closed⟩),
          [.transaction (.close (.panicked text))]⟩ := by
      simp [close, Action.bind_apply, Traced.bind, use, useWith, Transaction.close,
        Transaction.call, hask]
    rw [hclose]
    exact ⟨(Bool.or_false _).symm, rfl⟩

end SharedTransaction

end StorageClient
