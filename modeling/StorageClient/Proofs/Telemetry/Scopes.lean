import StorageClient.Proofs.Telemetry.Threshold
/-!
# StorageClient.Proofs.Telemetry.Scopes

Every fetch and every round trip is enclosed in the lines of its scope: one before it, and one after
it that tells how it ended. There are many ways out, and each leads past the line at the end: what
returns says how its scope is closed, and what is left by a panic, or given up half way, closes it
on the way out.

* A line of a scope is told apart from all others by the line as a whole (`Scope.Wrote`), not by its
  name: a round trip that went through is told under the same name by an event of its own.
* Such an event is written once inside the scope (`Scope.Inside.told`). Whatever else is written by
  a fetch or a round trip has nothing to do with its end, and cannot be mistaken for a line of the
  scope (`Line.IsAside`).
-/

namespace StorageClient

open Effect (lines)

variable {σ τ α : Type}

/-! ### Lines -/

/-- Whether an event tells how a fetch or a round trip ended. -/
def Event.isEnd : Event → Bool
  | fetchComplete | fetchFailed | batchExecuteComplete | batchExecuteFailed => true
  | _ => false

namespace Line

/-- Whether a line has the name of an event that tells how a fetch or a round trip ended. -/
def tellsEnd (line : Line) : Bool :=
  Event.all.any fun event => event.isEnd && event.name == line.event

@[simp] theorem tellsEnd_line (event : Event) (fields : List Field) :
    (event.line fields).tellsEnd = event.isEnd := by
  rw [tellsEnd, Event.event_line]
  cases event <;> decide

/-- A line about something else than a scope or an end. -/
def IsAside (line : Line) : Prop :=
  line.event ∈ [Event.headerArrayGrown.name, Event.batchExecuteStart.name,
    Event.transactionClosed.name]

theorem IsAside.tellsEnd {line : Line} (h : line.IsAside) : line.tellsEnd = false := by
  rw [IsAside] at h
  rw [Line.tellsEnd]
  generalize line.event = event at h ⊢
  revert event
  decide

end Line

@[simp] theorem Event.fields_line (event : Event) (fields : List Field) :
    (event.line fields).fields = fields := by
  rw [line]
  split <;> rfl

/-- The line of an event is not below normal operation. -/
theorem Event.info_le_severity (event : Event) (fields : List Field) :
    Severity.info ≤ (event.line fields).severity := by
  rw [Event.line]
  split
  · exact show 1 ≤ 3 by decide
  · exact Nat.le_refl 1

namespace Effect

/-- An effect that writes no line about a scope or an end. -/
def Aside (effect : Effect) : Prop := ∀ line, effect = .line line → line.IsAside

theorem isAside_of_mem_lines {effects : List Effect} (h : ∀ effect ∈ effects, effect.Aside)
    {line : Line} (hmem : line ∈ lines effects) : line.IsAside := by
  obtain ⟨effect, heffect, hline⟩ := List.mem_filterMap.mp hmem
  cases effect with
  | line l =>
    obtain rfl := Option.some.inj hline
    exact h _ heffect l rfl
  | count | transaction | cursor => exact nomatch hline

end Effect

open Effect (Aside)

/-! ### Scopes -/

namespace Scope

/-- The ways in which a scope ends. -/
inductive Ending
  | complete
  | failed
  | incomplete
  deriving Repr, DecidableEq

def Ending.suffix : Ending → String
  | complete => "_COMPLETE"
  | failed => "_FAILED"
  | incomplete => "_INCOMPLETE"

def Ending.stream : Ending → Stream
  | complete | incomplete => .output
  | failed => .error

def Closing.ending : Closing → Ending
  | .completed _ => .complete
  | .failed _ | .failedFatally _ => .failed
  | .dropped => .incomplete

/-- How a scope ends, and the event that tells the same inside it. -/
structure Ended where
  ending : Ending
  event? : Option Event
  deriving Repr, DecidableEq

/-- The lines that a scope writes itself. -/
def Wrote (scope : Scope) (line : Line) : Prop :=
  line = scope.opening ∨ ∃ closing, line = scope.closing closing

/-- Lines that have nothing to do with a scope. -/
def Foreign (scope : Scope) (lines : List Line) : Prop :=
  ∀ line ∈ lines, ¬scope.Wrote line ∧ line.tellsEnd = false

/-- Lines inside a scope. It wrote none of them, and its end is told once, if there is an event for
that. -/
structure Inside (scope : Scope) (event? : Option Event) (lines : List Line) : Prop where
  unwritten : ∀ line ∈ lines, ¬scope.Wrote line
  told : ∃ fields, lines.filter Line.tellsEnd = event?.toList.map fun event => event.line fields

/-- Lines before, inside and after a scope. -/
structure Brackets (scope : Scope) (ended : Ended) (before inner : List Line) (closing : Closing)
    (after : List Line) : Prop where
  opening_event : scope.opening.event = scope.name ++ "_BEGIN"
  closing_event : (scope.closing closing).event = scope.name ++ ended.ending.suffix
  closing_stream : (scope.closing closing).stream = ended.ending.stream
  before : scope.Foreign before
  inner : scope.Inside ended.event? inner
  after : scope.Foreign after

/-- Lines of which a scope wrote two, one at its beginning and one at its end. -/
def Bracketed (scope : Scope) (ended : Ended) (lines : List Line) : Prop :=
  ∃ before inner closing after,
    lines = before ++ scope.opening :: (inner ++ scope.closing closing :: after) ∧
      scope.Brackets ended before inner closing after

variable {scope : Scope} {ended : Ended} {event? : Option Event} {line : Line}
  {before inner after : List Line} {closing : Closing} {threshold : Severity}

theorem event_closing (scope : Scope) (closing : Closing) :
    (scope.closing closing).event = scope.name ++ closing.ending.suffix := by
  cases closing <;> rfl

theorem stream_closing (scope : Scope) (closing : Closing) :
    (scope.closing closing).stream = closing.ending.stream := by
  cases closing <;> rfl

/-! ### What a scope writes -/

/-- No scope writes a line below normal operation. -/
theorem Wrote.info_le_severity (h : scope.Wrote line) : Severity.info ≤ line.severity := by
  rcases h with rfl | ⟨closing, rfl⟩
  · exact Nat.le_refl 1
  · cases closing <;> simp [Scope.closing, Line.output, Line.error, Severity.le_def, Severity.rank]

/-- A scope writes under its own name. -/
theorem Wrote.event_mem (h : scope.Wrote line) :
    line.event ∈ ["_BEGIN", "_COMPLETE", "_FAILED", "_INCOMPLETE"].map (scope.name ++ ·) := by
  rcases h with rfl | ⟨closing, rfl⟩
  · exact List.mem_cons_self
  · cases closing <;> simp [Scope.closing, Line.output, Line.error]

/-- A scope first says what it is about, or else why it was closed. -/
theorem Wrote.head_key (h : scope.Wrote line) {key : String} {value : FieldValue}
    {rest : List Field} (hfields : scope.fields = (key, value) :: rest) :
    line.fields.head?.map Prod.fst ∈ [some key, some "reason"] := by
  rcases h with rfl | ⟨closing, rfl⟩
  · simp [opening, Line.output, hfields]
  · cases closing <;> simp [Scope.closing, Line.output, Line.error, hfields]

/-! ### What is written otherwise -/

theorem foreign_nil (scope : Scope) : scope.Foreign [] := fun _ hmem =>
  absurd hmem List.not_mem_nil

theorem Foreign.filter (h : scope.Foreign before) (p : Line → Bool) :
    scope.Foreign (before.filter p) := fun line hmem => h line (List.mem_filter.mp hmem).1

theorem Foreign.tells_no_end (h : scope.Foreign before) : before.filter Line.tellsEnd = [] :=
  List.filter_eq_nil_iff.mpr fun line hmem => Bool.eq_false_iff.mp (h line hmem).2

theorem Inside.of_foreign (h : scope.Foreign inner) : scope.Inside none inner where
  unwritten line hmem := (h line hmem).1
  told := ⟨[], h.tells_no_end⟩

theorem Inside.of_line {event : Event} {fields : List Field} (hend : event.isEnd = true)
    (hwrote : ¬scope.Wrote (event.line fields)) :
    scope.Inside (some event) [event.line fields] where
  unwritten line hmem := List.mem_singleton.mp hmem ▸ hwrote
  told := ⟨fields, by simp [hend]⟩

theorem Inside.append (h : scope.Foreign before) (hinner : scope.Inside event? inner) :
    scope.Inside event? (before ++ inner) where
  unwritten line hmem :=
    (List.mem_append.mp hmem).elim (fun hbefore => (h line hbefore).1) (hinner.unwritten line)
  told := by
    obtain ⟨fields, htold⟩ := hinner.told
    exact ⟨fields, by rw [List.filter_append, h.tells_no_end, List.nil_append, htold]⟩

/-- A sink that keeps lines of normal operation keeps the event that tells the end. -/
theorem Inside.filter (h : scope.Inside event? inner) (hinfo : threshold ≤ .info) :
    scope.Inside event? (inner.filter (Line.passes threshold)) where
  unwritten line hmem := h.unwritten line (List.mem_filter.mp hmem).1
  told := by
    obtain ⟨fields, htold⟩ := h.told
    refine ⟨fields, ?_⟩
    rw [List.filter_comm, htold, List.filter_eq_self]
    intro line hmem
    obtain ⟨event, -, rfl⟩ := List.mem_map.mp hmem
    exact decide_eq_true (Nat.le_trans hinfo (event.info_le_severity fields))

/-- A sink that keeps lines of normal operation keeps the lines of a scope. -/
theorem Bracketed.filter (h : scope.Bracketed ended before) (hinfo : threshold ≤ .info) :
    scope.Bracketed ended (before.filter (Line.passes threshold)) := by
  obtain ⟨before, inner, closing, after, rfl, hbrackets⟩ := h
  have hpasses {line : Line} (hline : scope.Wrote line) : line.passes threshold = true :=
    decide_eq_true (Nat.le_trans hinfo hline.info_le_severity)
  let passes := Line.passes threshold
  refine ⟨before.filter passes, inner.filter passes, closing, after.filter passes, ?_,
    { hbrackets with
      before := hbrackets.before.filter passes
      inner := hbrackets.inner.filter hinfo
      after := hbrackets.after.filter passes }⟩
  rw [List.filter_append, List.filter_cons_of_pos (hpasses (.inl rfl)), List.filter_append,
    List.filter_cons_of_pos (hpasses (.inr ⟨closing, rfl⟩))]

/-- The scopes of this library do not write lines about anything else. -/
theorem not_wrote_of_isAside (hname : scope.name ∈ ["QUERY_FETCH", "BATCH_EXECUTE"])
    (h : line.IsAside) : ¬scope.Wrote line := by
  intro hwrote
  have hevent := hwrote.event_mem
  rw [Line.IsAside] at h
  generalize scope.name = name, line.event = event at hname h hevent
  revert event
  revert name
  decide

theorem foreign_of_isAside (hname : scope.name ∈ ["QUERY_FETCH", "BATCH_EXECUTE"])
    (h : ∀ line ∈ before, line.IsAside) : scope.Foreign before := fun line hmem =>
  ⟨not_wrote_of_isAside hname (h line hmem), (h line hmem).tellsEnd⟩

theorem foreign_of_aside (hname : scope.name ∈ ["QUERY_FETCH", "BATCH_EXECUTE"])
    {effects : List Effect} (h : ∀ effect ∈ effects, effect.Aside) :
    scope.Foreign (lines effects) :=
  foreign_of_isAside hname fun _ => Effect.isAside_of_mem_lines h

/-! ### Work in a scope -/

/-- Work that suits its scope. Either it tells how it went and then closes the scope accordingly, or
it leaves the scope open and has not come to an end. -/
inductive Suits (scope : Scope) (endOf : Answer α → Ended)
    (worked : Traced (Answer α × σ × Option OpenScope)) : Prop
  | closed (inner : List Line) (closing : Closing) (hgone : worked.value.2.2 = none)
    (hlines : lines worked.effects = inner ++ [scope.closing closing])
    (hclosing : closing.ending = (endOf worked.value.1).ending)
    (hinside : scope.Inside (endOf worked.value.1).event? inner)
  | left (hheld : worked.value.2.2 = some ⟨scope, false⟩)
    (hclosing : Ending.incomplete = (endOf worked.value.1).ending)
    (hinside : scope.Inside (endOf worked.value.1).event? (lines worked.effects))

variable {endOf : Answer α → Ended}

/-- What is done before does not count. -/
theorem Suits.append {value : Answer α × σ × Option OpenScope} {first second : List Effect}
    (hfirst : scope.Foreign (lines first)) (hsecond : scope.Suits endOf ⟨value, second⟩) :
    scope.Suits endOf ⟨value, first ++ second⟩ := by
  cases hsecond with
  | closed inner closing hgone hlines hclosing hinside =>
    refine .closed (lines first ++ inner) closing hgone ?_ hclosing (.append hfirst hinside)
    rw [Effect.lines_append, hlines, List.append_assoc]
  | left hheld hclosing hinside =>
    refine .left hheld hclosing ?_
    rw [Effect.lines_append]
    exact .append hfirst hinside

/-- A panic is told by no event, and does not close the scope. -/
theorem suits_of_panicked {text : String} {state : σ} {effects : List Effect}
    (hend : endOf (.panicked text) = ⟨.incomplete, none⟩) (h : scope.Foreign (lines effects)) :
    scope.Suits endOf ⟨(.panicked text, state, some ⟨scope, false⟩), effects⟩ := by
  refine .left rfl ?_ ?_ <;> dsimp only <;> rw [hend]
  exact .of_foreign h

/-- Work that suits its scope is enclosed by it: a scope that the work closed is not dropped, and
one that it left open is. -/
theorem bracketed_within {work : Action (σ × Option OpenScope) α} {state : σ}
    (h : scope.Suits endOf (work (state, some ⟨scope, false⟩))) (hbefore : scope.Foreign before) :
    scope.Bracketed (endOf (Action.within scope work state).value.1)
      (before ++ lines (Action.within scope work state).effects) := by
  rw [Action.within_apply]
  generalize work (state, some ⟨scope, false⟩) = worked at h
  obtain ⟨inner, closing, hlines, hclosing, hinside⟩ : ∃ inner closing,
      lines (worked.effects ++ (OpenScope.dropHeld worked.value.2.2).effects) =
        inner ++ [scope.closing closing] ∧
      closing.ending = (endOf worked.value.1).ending ∧
      scope.Inside (endOf worked.value.1).event? inner := by
    cases h with
    | closed inner closing hgone hlines hclosing hinside =>
      refine ⟨inner, closing, ?_, hclosing, hinside⟩
      rw [hgone, Effect.lines_append, hlines]
      exact List.append_nil _
    | left hheld hclosing hinside =>
      refine ⟨lines worked.effects, .dropped, ?_, hclosing, hinside⟩
      rw [hheld, Effect.lines_append]
      rfl
  refine ⟨before, inner, closing, [], ?_, {
    opening_event := rfl
    closing_event := hclosing ▸ event_closing scope closing
    closing_stream := hclosing ▸ stream_closing scope closing
    before := hbefore
    inner := hinside
    after := foreign_nil scope }⟩
  rw [← hlines]
  rfl

/-- A call that writes within its scope, unless it is refused. -/
structure Encloses (scope : Scope) (ready : Prop) (refusal : Answer α × σ)
    (endOf : Answer α → Ended) (came : Traced (Answer α × σ)) : Prop where
  refused : ¬ready → came = pure refusal
  bracketed : ready → scope.Bracketed (endOf came.value.1) (lines came.effects)

/-- A steady call writes within its scope if it does so where every line is kept, since no line of a
scope is below normal operation. -/
theorem Encloses.of_steady {ready : Prop} {refusal : Answer α × σ}
    {came : Sink → Traced (Answer α × σ)} (h : scope.Encloses ready refusal endOf (came .whole))
    (hsteady : Traced.Steady came) {sink : Sink} (hinfo : sink.threshold ≤ .info) :
    scope.Encloses ready refusal endOf (came sink) where
  refused hready := by
    apply Traced.ext
    · rw [hsteady.value, h.refused hready]
    · rw [hsteady.effects, h.refused hready]
      rfl
  bracketed hready := by
    rw [hsteady.value, hsteady.effects, Effect.lines_kept]
    exact (h.bracketed hready).filter hinfo

end Scope

/-! ### Fetches -/

namespace Executor

open StorageClient.Action (Obeys)

variable {executor : Executor}

def fetchScope (executor : Executor) : Scope :=
  ⟨"QUERY_FETCH", [("query", .text executor.query.id)]⟩

/-- How the scope of a fetch ends. -/
def fetchEnd : Answer (Except FetchError Nat) → Scope.Ended
  | .returned (.ok _) => ⟨.complete, some .fetchComplete⟩
  | .returned (.error _) => ⟨.failed, some .fetchFailed⟩
  | .panicked _ => ⟨.incomplete, none⟩

/-- A cursor is closed without a word. -/
theorem close_silent (executor : Executor) :
    ∃ closed calls, close executor = ⟨(.returned (), closed), calls⟩ ∧ lines calls = [] := by
  obtain ⟨query, fetch, phase, abort, send⟩ := executor
  rcases phase with _ | ⟨_ | cursor⟩ | _ | error <;> exact ⟨_, _, rfl, rfl⟩

/-- A fetch that fails closes its scope as failed. -/
theorem ending_closingOf (error : FetchError) : (closingOf error).ending = .failed := by
  unfold closingOf
  split <;> rfl

/-- The events of a fetch do not have the name of its scope. -/
theorem not_wrote_fetchEvent (executor : Executor) {event : Event}
    (h : event = .fetchComplete ∨ event = .fetchFailed) (fields : List Field) :
    ¬executor.fetchScope.Wrote (event.line fields) := by
  intro hwrote
  have hevent : event.name ∈ ["_BEGIN", "_COMPLETE", "_FAILED", "_INCOMPLETE"].map
      ("QUERY_FETCH" ++ ·) := Event.event_line event fields ▸ hwrote.event_mem
  rcases h with rfl | rfl <;> exact absurd hevent (by decide)

section

variable [Memory]

theorem aside_drainCursor : Obeys (.emits Aside) drainCursor := by
  refine .of_emits fun executor => ?_
  unfold drainCursor
  split
  · refine .bind (Fetch.emits_drain (fun effect hstoring line hline => ?_) nofun _ _ _) fun _ =>
      .pure _
    subst hline
    have hgrown : line.event = Event.headerArrayGrown.name := beq_iff_eq.mp hstoring
    rw [Line.IsAside, hgrown]
    exact List.mem_cons_self
  · exact .pure _

theorem suits_fetchInScope (executor : Executor) :
    executor.fetchScope.Suits fetchEnd
      (fetchInScope (executor, some ⟨executor.fetchScope, false⟩)) := by
  have hname : executor.fetchScope.name ∈ ["QUERY_FETCH", "BATCH_EXECUTE"] := List.mem_cons_self
  have hdrained := Scope.foreign_of_aside hname (aside_drainCursor executor)
  rcases hdrain : drainCursor executor with ⟨⟨outcome | text, drained⟩, effects⟩ <;>
    rw [hdrain] at hdrained
  · obtain ⟨closed, calls, hclose, hcalls⟩ := close_silent drained
    rw [fetchInScope, Action.bind_apply_of_returned (Action.onFirst_of hdrain _)]
    refine .append hdrained ?_
    rw [Action.bind_apply_of_returned (Action.onFirst_of hclose _)]
    refine .append (hcalls ▸ Scope.foreign_nil _) ?_
    cases outcome with
    | ok =>
      exact .closed _ _ rfl rfl rfl (.of_line rfl (not_wrote_fetchEvent executor (.inl rfl) _))
    | error error =>
      -- The failure is counted after the scope is closed, but not told again.
      exact .closed _ _ rfl rfl (ending_closingOf error)
        (.of_line rfl (not_wrote_fetchEvent executor (.inr rfl) _))
  · rw [fetchInScope, Action.bind_apply_of_panicked (Action.onFirst_of hdrain _)]
    exact Scope.suits_of_panicked rfl hdrained

/-- A fetch is enclosed in its scope. -/
theorem encloses_fetchAll (executor : Executor) :
    executor.fetchScope.Encloses (∃ cursor?, executor.phase = .fetching cursor?)
      (.returned (.error (wrongPhase "fetch_all_results" "FETCHING" executor.phase)), executor)
      fetchEnd (fetchAll executor) where
  refused hphase := fetchAll_of_ne (not_exists.mp hphase)
  bracketed := by
    rintro ⟨cursor?, hphase⟩
    have hfetch : fetchAll executor = Action.within executor.fetchScope fetchInScope executor := by
      simp [fetchAll, Action.bind_apply, Traced.bind, hphase, fetchScope]
    rw [hfetch]
    exact Scope.bracketed_within (suits_fetchInScope executor) (Scope.foreign_nil _)

end

end Executor

/-! ### Round trips -/

namespace Batch

open StorageClient.Action (Obeys)

variable {options : RoundTrip} {batch : Batch} {shared : SharedTransaction σ} {call : BatchCall}

/-- How the scope of a round trip ends that is waited for. -/
def executeEnd : Answer (Except BatchError Report) → Scope.Ended
  | .returned (.ok ⟨_, _, none⟩) => ⟨.complete, some .batchExecuteComplete⟩
  | .returned (.ok ⟨_, _, some _⟩) => ⟨.failed, some .batchExecuteFailed⟩
  | .returned (.error _) => ⟨.failed, none⟩
  | .panicked _ => ⟨.incomplete, none⟩

theorem name_executeScope (options : RoundTrip) (batch : Batch) :
    (executeScope options batch).name ∈ ["QUERY_FETCH", "BATCH_EXECUTE"] :=
  List.mem_cons_of_mem _ List.mem_cons_self

/-- The line that a round trip has before its scope is about other things. -/
theorem isAside_of_start {line : Line}
    (h : line.event = StorageClient.Event.batchExecuteStart.name) : line.IsAside := by
  rw [Line.IsAside, h]
  exact List.mem_cons_of_mem _ List.mem_cons_self

/-- An event about a round trip can be told from the lines of its scope by the fields. -/
theorem not_wrote_executeEvent (options : RoundTrip) (batch : Batch)
    (event : StorageClient.Event) (key : String) (hkey : key ∉ ["exec", "reason"])
    (value : FieldValue) (rest : List Field) :
    ¬(executeScope options batch).Wrote (event.line ((key, value) :: rest)) := by
  intro hwrote
  have hhead := hwrote.head_key rfl
  rw [StorageClient.Event.fields_line] at hhead
  exact hkey (by simpa using hhead)

theorem suits_complete (exec : ExecType) (collected : Except EngineError (Option EngineError))
    (state : Batch × SharedTransaction σ) :
    (executeScope options batch).Suits executeEnd
      (complete exec collected (state, opened options batch)) := by
  rcases collected with refusal | _ | error
  · exact .closed _ _ rfl rfl rfl (.of_foreign (Scope.foreign_nil _))
  · exact .closed _ _ rfl rfl rfl
      (.of_line rfl (not_wrote_executeEvent options batch _ "failures" (by decide) _ _))
  · exact .closed _ _ rfl rfl rfl
      (.of_line rfl (not_wrote_executeEvent options batch _ "code" (by decide) _ _))

/-- Work that suits the scope of a batch is enclosed by it. -/
theorem encloses_inScope
    {work : Action ((Batch × SharedTransaction σ) × Option OpenScope) (Except BatchError Report)}
    (hwork : (executeScope options batch).Suits executeEnd
      (work ((batch, shared), opened options batch))) :
    (executeScope options batch).Encloses (∃ transaction, batch.phase = .prepared transaction)
      (.returned (.error (batch.wrongPhase call "PREPARED")), batch, shared) executeEnd
      (inScope call options work (batch, shared)) where
  refused hphase := inScope_of_unprepared (not_exists.mp hphase)
  bracketed := by
    rintro ⟨transaction, hprepared⟩
    obtain ⟨line, hline, hstart⟩ := start_of_prepared hprepared options shared
    rw [inScope, Action.bind_apply_of_returned (hstart call), Effect.lines_append]
    refine Scope.bracketed_within hwork ?_
    exact Scope.foreign_of_isAside (name_executeScope options batch) fun _ hmem =>
      List.mem_singleton.mp hmem ▸ isAside_of_start hline

variable [Engine σ]

theorem aside_roundTrip (options : RoundTrip) :
    Obeys (.emits Aside) (roundTrip options :
      Action (List Entry × SharedTransaction σ) (Except EngineError (Option EngineError))) := by
  refine emits_roundTrip (fun _ => nofun) (fun fields line hline => ?_) options
  obtain rfl := Effect.line.inj hline
  rw [Line.IsAside, StorageClient.Event.event_line]
  decide

theorem encloses_execute (options : RoundTrip) (batch : Batch) (shared : SharedTransaction σ) :
    (executeScope options batch).Encloses (∃ transaction, batch.phase = .prepared transaction)
      (.returned (.error (batch.wrongPhase .execute "PREPARED")), batch, shared) executeEnd
      (execute options (batch, shared)) := by
  refine encloses_inScope ?_
  have htold := Scope.foreign_of_aside (name_executeScope options batch)
    (aside_roundTrip options (batch.entries, shared))
  rcases htrip : roundTrip options (batch.entries, shared) with
    ⟨⟨collected | text, entries', shared'⟩, effects⟩ <;> rw [htrip] at htold
  · rw [Action.bind_apply_of_returned (onEntries_roundTrip htrip _)]
    exact .append htold (suits_complete ..)
  · rw [Action.bind_apply_of_panicked (onEntries_roundTrip htrip _)]
    exact Scope.suits_of_panicked rfl htold

/-- A task that is lost is an error. -/
theorem encloses_executeAwaited (task : String) (options : RoundTrip) (batch : Batch)
    (shared : SharedTransaction σ) :
    (executeScope options batch).Encloses (∃ transaction, batch.phase = .prepared transaction)
      (.returned (.error (batch.wrongPhase .executeAwaited "PREPARED")), batch, shared) executeEnd
      (executeAwaited task options (batch, shared)) := by
  refine encloses_inScope ?_
  have htold := Scope.foreign_of_aside (name_executeScope options batch)
    (aside_roundTrip options (batch.entries, shared))
  rcases htrip : roundTrip options (batch.entries, shared) with
    ⟨⟨collected | text, entries', shared'⟩, effects⟩ <;> rw [htrip] at htold <;>
    rw [Action.bind_apply_of_returned (Action.onFirst_of (roundTripOnTask_eq htrip) _)] <;>
    refine .append htold ?_ <;>
    dsimp only [Answer.map]
  · rw [Action.bind_apply_of_returned (takeOver_eq ..), List.nil_append]
    exact suits_complete ..
  · exact .closed _ _ rfl rfl rfl (.of_foreign (Scope.foreign_nil _))

/-- A round trip that nobody waits for goes on, after its scope was closed. -/
theorem encloses_executeAbandoned (options : RoundTrip) (batch : Batch)
    (shared : SharedTransaction σ) :
    (executeScope options batch).Encloses (∃ transaction, batch.phase = .prepared transaction)
      (.returned (.error (batch.wrongPhase .executeAwaited "PREPARED")), batch, shared)
      (fun _ => ⟨.incomplete, none⟩) (executeAbandoned options (batch, shared)) where
  refused hphase := by
    obtain ⟨entries, phase⟩ := batch
    cases phase with
    | prepared transaction => exact absurd ⟨transaction, rfl⟩ hphase
    | built | executed => rfl
  bracketed := by
    rintro ⟨transaction, hprepared⟩
    obtain ⟨line, hline, hstart⟩ := start_of_prepared hprepared options shared
    have hname := name_executeScope options batch
    have htold := Scope.foreign_of_aside hname (aside_roundTrip options (batch.entries, shared))
    refine ⟨[line], [], .dropped, lines (roundTrip options (batch.entries, shared)).effects, ?_, ?_⟩
    · rcases htrip : roundTrip options (batch.entries, shared) with
        ⟨⟨answer, entries', shared'⟩, effects⟩
      -- Whoever waits goes away with the scope in hand, which is dropped then and there.
      have hgone : Action.within (executeScope options batch)
          (return () : Action ((Batch × SharedTransaction σ) × Option OpenScope) Unit)
          (batch, shared) = ⟨(.returned (), batch, shared),
            [.line (executeScope options batch).opening,
              .line ((executeScope options batch).closing .dropped)]⟩ := by
        rw [Action.within_apply]
        rfl
      rw [executeAbandoned, Action.bind_apply_of_returned (hstart _)]
      dsimp only
      rw [Action.bind_apply_of_returned hgone,
        Action.bind_apply_of_returned (roundTripOnTask_eq htrip)]
      simp [lines]
    · exact {
        opening_event := rfl
        closing_event := rfl
        closing_stream := rfl
        before := Scope.foreign_of_isAside hname fun _ hmem =>
          List.mem_singleton.mp hmem ▸ isAside_of_start hline
        inner := .of_foreign (Scope.foreign_nil _)
        after := htold }

end Batch

namespace Scope

open Executor (fetchScope fetchEnd fetchAll)
open Batch (executeScope executeEnd execute executeAwaited executeAbandoned)

/-- **Scopes are well bracketed.** A sink that keeps lines of normal operation is written two lines
of the scope of a fetch or a round trip: one at its beginning and one after that, which tells
whether the call was successful, failed, or was left by a panic or given up. If there is an event
for that, it is told between the two, once. A call at the wrong time is refused, and nothing is
written. -/
theorem calls_bracketed [Memory] [Sink] [Engine σ] (hinfo : Sink.threshold ≤ .info)
    (executor : Executor) (task : String) (options : RoundTrip) (batch : Batch)
    (shared : SharedTransaction σ) :
    let fetching := ∃ cursor?, executor.phase = .fetching cursor?
    let prepared := ∃ transaction, batch.phase = .prepared transaction
    let unprepared (call : BatchCall) := batch.wrongPhase call "PREPARED"
    executor.fetchScope.Encloses fetching
        (.returned (.error
          (Executor.wrongPhase "fetch_all_results" "FETCHING" executor.phase)), executor)
        fetchEnd (fetchAll executor) ∧
      (executeScope options batch).Encloses prepared
        (.returned (.error (unprepared .execute)), batch, shared)
        executeEnd (execute options (batch, shared)) ∧
      (executeScope options batch).Encloses prepared
        (.returned (.error (unprepared .executeAwaited)), batch, shared)
        executeEnd (executeAwaited task options (batch, shared)) ∧
      (executeScope options batch).Encloses prepared
        (.returned (.error (unprepared .executeAwaited)), batch, shared)
        (fun _ => ⟨.incomplete, none⟩) (executeAbandoned options (batch, shared)) :=
  ⟨.of_steady (Executor.encloses_fetchAll executor) (Executor.steady_fetchAll executor) hinfo,
    .of_steady (Batch.encloses_execute options batch shared)
      (Batch.steady_execute options (batch, shared)) hinfo,
    .of_steady (Batch.encloses_executeAwaited task options batch shared)
      (Batch.steady_executeAwaited task options (batch, shared)) hinfo,
    .of_steady (Batch.encloses_executeAbandoned options batch shared)
      (Batch.steady_executeAbandoned options (batch, shared)) hinfo⟩

/-- A fetch that is left by a panic, and orders that are inserted. That they are is told by the
scope and by an event, under the same name. -/
theorem calls_bracketed_orders :
    let _ : Sink := ⟨.info⟩
    let executor := Executor.ordersExecutor
      ⟨[Executor.orderRow (some 1) (some 7), .panic "connection lost"], .complete⟩
    let state := (Batch.play [.call .prepare]
      (Batch.new [Batch.insertOrder 1, Batch.insertOrder 2], Batch.ordersTransaction [] [])).2
    let options : RoundTrip := ⟨.commit, .operationDefault, .deferred⟩
    let executed := execute options state
    Sink.threshold ≤ .info ∧
      executor.fetchScope.Bracketed ⟨.incomplete, none⟩ (lines (fetchAll executor).effects) ∧
      (executeScope options state.1).Bracketed ⟨.complete, some .batchExecuteComplete⟩
        (lines executed.effects) ∧
      ((lines executed.effects).map Line.event).count "BATCH_EXECUTE_COMPLETE" = 2 := by
  intro sink executor state options executed
  have hinfo : Sink.threshold ≤ .info := Nat.le_refl 1
  obtain ⟨hfetch, hexecute, -, -⟩ :=
    calls_bracketed hinfo executor "worker" options state.1 state.2
  exact ⟨hinfo, hfetch.bracketed ⟨_, rfl⟩, hexecute.bracketed ⟨"tx", rfl⟩, by decide +kernel⟩

end Scope

end StorageClient
