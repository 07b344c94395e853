import StorageClient.Proofs.Tree.Shape
/-!
# StorageClient.Proofs.Tree.Refusals

What refused calls on a builder leave behind: the last error, and nothing else.

* A call reads nothing but the nodes, and a refused call leaves them as they are
  (`Builder.value_perform`). So refused calls can be deleted from any sequence of calls, and the
  others are answered as before (`Builder.replies_remaining`).
* The last error follows the refused definitions alone (`Builder.lastError_after`). Attaching a
  layout or a mark to a level that is not there is refused too, but such a refusal is not kept.
-/

namespace StorageClient

namespace Builder

namespace Call

def isDefinition : Call → Bool
  | define .. => true
  | _ => false

/-- What a call does, read off the nodes: the level it defines or changes and the nodes afterwards,
or why it is refused. -/
def onNodes (nodes : List Node) : Call → Except DefinitionError (LevelRef × List Node)
  | define index table operands =>
    match compile nodes index table operands with
    | .ok node => .ok (⟨node.number⟩, nodes ++ [node])
    | .error cause => .error ((DefinitionError.of cause).atLevel nodes.length)
  | setRecord ref record => changeAt ref fun node => { node with record := some record }
  | markJoinOnly ref => changeAt ref fun node => { node with joinOnly := true }
where
  changeAt (ref : LevelRef) (change : Node → Node) :=
    if ref.number < nodes.length then .ok (ref, nodes.modify ref.number change)
    else .error (.of (.unknownParent ref.number))

/-- A definition that is accepted adds a node, and any other accepted call changes one. -/
theorem length_of_onNodes {nodes after : List Node} {call : Call} {ref : LevelRef}
    (h : call.onNodes nodes = .ok (ref, after)) :
    after.length = nodes.length + if call.isDefinition then 1 else 0 := by
  have hchange : ∀ (ref' : LevelRef) (change : Node → Node),
      onNodes.changeAt nodes ref' change = .ok (ref, after) → after.length = nodes.length := by
    intro ref' change h
    unfold onNodes.changeAt at h
    split at h
    · cases h
      exact List.length_modify ..
    · exact nomatch h
  cases call with
  | define index table operands =>
    rw [onNodes] at h
    split at h
    · cases h
      simp [isDefinition]
    · exact nomatch h
  | setRecord ref' record => exact hchange _ _ h
  | markJoinOnly ref' => exact hchange _ _ h

/-- A refused definition names the level it would have taken. -/
theorem level_of_onNodes {nodes : List Node} {call : Call} {error : DefinitionError}
    (hcall : call.isDefinition = true) (h : call.onNodes nodes = .error error) :
    error.level = some nodes.length := by
  cases call with
  | define index table operands =>
    rw [onNodes] at h
    split at h
    · exact nomatch h
    · obtain rfl := Except.error.inj h
      rfl
  | setRecord ref record => exact nomatch hcall
  | markJoinOnly ref => exact nomatch hcall

end Call

/-- A call reads the nodes only. If it is refused, they stay as they are. -/
theorem value_perform (builder : Builder) (call : Call) :
    (call.perform builder).value =
      match call.onNodes builder.nodes with
      | .ok (ref, nodes) => (.ok ref, { builder with nodes })
      | .error error =>
        (.error error,
          { builder with lastError := if call.isDefinition then some error else builder.lastError })
    := by
  cases call with
  | define index table operands =>
    cases h : compile builder.nodes index table operands <;>
      simp [Call.perform, define, Call.onNodes, Call.isDefinition, h]
  | setRecord ref record =>
    by_cases h : ref.number < builder.nodes.length <;>
      simp [Call.perform, setRecord, update, Call.onNodes, Call.onNodes.changeAt,
        Call.isDefinition, h]
  | markJoinOnly ref =>
    by_cases h : ref.number < builder.nodes.length <;>
      simp [Call.perform, markJoinOnly, update, Call.onNodes, Call.onNodes.changeAt,
        Call.isDefinition, h]

/-! ### Calls and answers -/

/-- A call with its answer. -/
structure Reply where
  call : Call
  answer : Except DefinitionError LevelRef
  deriving Repr, DecidableEq

namespace Reply

def accepted (reply : Reply) : Bool := reply.answer.toBool

/-- Whether the call defined a level. -/
def defines (reply : Reply) : Bool := reply.call.isDefinition && reply.accepted

/-- Why the call, a definition, was refused. -/
def refusal? (reply : Reply) : Option DefinitionError :=
  match reply.answer with
  | .ok _ => none
  | .error error => if reply.call.isDefinition then some error else none

end Reply

/-- What a builder answers to a call. -/
def reply (builder : Builder) (call : Call) : Reply := ⟨call, (call.perform builder).value.1⟩

/-- The builder after a call. -/
def next (builder : Builder) (call : Call) : Builder := (call.perform builder).value.2

/-- What a builder answers to calls that are made one after the other. -/
def replies (builder : Builder) : List Call → List Reply
  | [] => []
  | call :: calls => builder.reply call :: (builder.next call).replies calls

theorem after_cons (builder : Builder) (call : Call) (calls : List Call) :
    builder.after (call :: calls) = (builder.next call).after calls := rfl

section OneCall

variable {builder other : Builder} {call : Call}

theorem reply_congr (h : builder.nodes = other.nodes) (call : Call) :
    builder.reply call = other.reply call := by
  rw [reply, reply, value_perform, value_perform, h]
  split <;> rfl

theorem nodes_next_congr (h : builder.nodes = other.nodes) (call : Call) :
    (builder.next call).nodes = (other.next call).nodes := by
  rw [next, next, value_perform, value_perform, h]
  split <;> rfl

theorem nodes_next_of_refused (h : (builder.reply call).accepted = false) :
    (builder.next call).nodes = builder.nodes := by
  rw [reply, Reply.accepted, value_perform] at h
  rw [next, value_perform]
  split at h
  · exact nomatch h
  · rfl

theorem lastError_next (builder : Builder) (call : Call) :
    (builder.next call).lastError = (builder.reply call).refusal?.or builder.lastError := by
  rw [next, reply, Reply.refusal?, value_perform]
  cases hcall : call.isDefinition <;> cases call.onNodes builder.nodes <;> rfl

theorem length_next (builder : Builder) (call : Call) :
    (builder.next call).nodes.length =
      builder.nodes.length + if (builder.reply call).defines then 1 else 0 := by
  rw [next, reply, Reply.defines, Reply.accepted, value_perform]
  cases h : call.onNodes builder.nodes with
  | ok became =>
    have := Call.length_of_onNodes h
    simpa [Except.toBool] using this
  | error error => simp [Except.toBool]

theorem level_of_refusal {error : DefinitionError}
    (h : (builder.reply call).refusal? = some error) : error.level = some builder.nodes.length := by
  rw [reply, Reply.refusal?, value_perform] at h
  cases hcame : call.onNodes builder.nodes with
  | ok became => simp [hcame] at h
  | error refusal =>
    simp only [hcame, Option.ite_none_right_eq_some, Option.some.injEq] at h
    obtain ⟨hcall, rfl⟩ := h
    exact Call.level_of_onNodes hcall hcame

end OneCall

/-! ### Any sequence of calls -/

theorem replies_congr {builder other : Builder} (h : builder.nodes = other.nodes)
    (calls : List Call) : builder.replies calls = other.replies calls := by
  induction calls generalizing builder other with
  | nil => rfl
  | cons call calls ih =>
    rw [replies, replies, reply_congr h, ih (nodes_next_congr h call)]

theorem nodes_after_congr {builder other : Builder} (h : builder.nodes = other.nodes)
    (calls : List Call) : (builder.after calls).nodes = (other.after calls).nodes := by
  induction calls generalizing builder other with
  | nil => exact h
  | cons call calls ih => exact ih (nodes_next_congr h call)

/-- Some calls without those that are refused. -/
def remaining (builder : Builder) (calls : List Call) : List Call :=
  ((builder.replies calls).filter Reply.accepted).map Reply.call

theorem remaining_cons_of_accepted {builder : Builder} {call : Call}
    (h : (builder.reply call).accepted = true) (calls : List Call) :
    builder.remaining (call :: calls) = call :: (builder.next call).remaining calls := by
  rw [remaining, replies, List.filter_cons_of_pos h]
  rfl

theorem remaining_cons_of_refused {builder : Builder} {call : Call}
    (h : (builder.reply call).accepted = false) (calls : List Call) :
    builder.remaining (call :: calls) = (builder.next call).remaining calls := by
  rw [remaining, replies, List.filter_cons_of_neg (by simp [h])]
  rfl

/-- The calls that remain are answered as they were among the refused ones. -/
theorem replies_remaining (builder : Builder) (calls : List Call) :
    builder.replies (builder.remaining calls) = (builder.replies calls).filter Reply.accepted := by
  induction calls generalizing builder with
  | nil => rfl
  | cons call calls ih =>
    cases h : (builder.reply call).accepted with
    | true => rw [remaining_cons_of_accepted h, replies, replies, List.filter_cons_of_pos h, ih]
    | false =>
      rw [remaining_cons_of_refused h, replies, List.filter_cons_of_neg (by simp [h]),
        replies_congr (nodes_next_of_refused h).symm, ih]

theorem nodes_after_remaining (builder : Builder) (calls : List Call) :
    (builder.after (builder.remaining calls)).nodes = (builder.after calls).nodes := by
  induction calls generalizing builder with
  | nil => rfl
  | cons call calls ih =>
    cases h : (builder.reply call).accepted with
    | true => rw [remaining_cons_of_accepted h, after_cons, after_cons, ih]
    | false =>
      rw [remaining_cons_of_refused h, after_cons, ← ih]
      exact nodes_after_congr (nodes_next_of_refused h).symm _

/-- The last error is that of the last refused definition. -/
theorem lastError_after (builder : Builder) (calls : List Call) :
    (builder.after calls).lastError =
      ((builder.replies calls).filterMap Reply.refusal?).getLast?.or builder.lastError := by
  induction calls generalizing builder with
  | nil => rfl
  | cons call calls ih =>
    rw [after_cons, ih, lastError_next, replies, List.filterMap_cons]
    cases (builder.reply call).refusal? with
    | none => rfl
    | some error => simp [List.getLast?_cons, Option.or_some]

/-- A refused definition names the level after those that were defined before it. -/
theorem level_of_mem_replies (builder : Builder) (calls : List Call) {place : Nat} {reply : Reply}
    {error : DefinitionError} (hreply : (builder.replies calls)[place]? = some reply)
    (herror : reply.refusal? = some error) :
    error.level =
      some (builder.nodes.length + ((builder.replies calls).take place).countP Reply.defines) := by
  induction calls generalizing builder place with
  | nil => exact nomatch hreply
  | cons call calls ih =>
    cases place with
    | zero =>
      obtain rfl := Option.some.inj hreply
      exact level_of_refusal herror
    | succ place =>
      have hlevel := ih (builder.next call) hreply
      rw [length_next] at hlevel
      rw [hlevel, replies, List.take_succ_cons, List.countP_cons]
      congr 1
      omega

/-- The name of a query has no influence on whether a tree can be finalized. -/
theorem finalize_rename (nodes : List Node) (root : LevelRef) (id other : String) :
    finalize nodes root other = (finalize nodes root id).map fun query => { query with id := other }
    := by
  cases nodes with
  | nil => rfl
  | cons first rest =>
    unfold finalize
    dsimp only
    split
    · rfl
    · cases checkDepths 0 (first :: rest) <;> rfl

/-- **Refused calls leave no trace but the last error.** Whatever calls are made on a builder, those
that are not refused are answered as they would be without the others, the nodes are the same, and
so is the outcome of finalizing them, up to the name of the query. The last error is that of the
last refused definition, and such an error names the level after all those defined before. -/
theorem refused_calls_leave_no_trace (builder : Builder) (calls : List Call) :
    let replies := builder.replies calls
    let remaining := builder.remaining calls
    builder.replies remaining = replies.filter Reply.accepted ∧
    (builder.after remaining).nodes = (builder.after calls).nodes ∧
    (∀ root id other, ((builder.after remaining).prepare root other).value =
      ((builder.after calls).prepare root id).value.map fun query => { query with id := other }) ∧
    (builder.after calls).lastError =
      (replies.filterMap Reply.refusal?).getLast?.or builder.lastError ∧
    ∀ place reply error, replies[place]? = some reply → reply.refusal? = some error →
      error.level = some (builder.nodes.length + (replies.take place).countP Reply.defines) := by
  intro replies remaining
  have hnodes := nodes_after_remaining builder calls
  refine ⟨replies_remaining builder calls, hnodes, ?_, lastError_after builder calls, ?_⟩
  · intro root id other
    rw [value_prepare, value_prepare, hnodes]
    exact finalize_rename ..
  · intro place reply error
    exact level_of_mem_replies builder calls

/-- A customer and its orders, among calls that are refused: a scan below a lookup, a link to a
level that is not there, and a mark for such a level. Without them two levels are defined, and the
link that was refused last would have been the third. -/
theorem refused_calls_leave_no_trace_orders :
    let customer : Table := ⟨"customer", ["id", "name"], ["id"]⟩
    let orders : Table := ⟨"orders", ["order_id", "customer"], ["order_id"]⟩
    let byCustomer : Index := ⟨"orders_by_customer", .ordered, ["customer"]⟩
    let calls : List Call := [
      .define none customer [.constant [1]],
      .define (some byCustomer) orders [.linked ⟨0⟩ "id"],
      .markJoinOnly ⟨0⟩,
      .define none orders [.linked ⟨0⟩ "id"],
      .define none orders [.linked ⟨7⟩ "id"],
      .markJoinOnly ⟨7⟩]
    empty.remaining calls = [
      .define none customer [.constant [1]],
      .markJoinOnly ⟨0⟩,
      .define none orders [.linked ⟨0⟩ "id"]] ∧
    (empty.replies (empty.remaining calls)).map Reply.answer = [.ok ⟨0⟩, .ok ⟨0⟩, .ok ⟨1⟩] ∧
    (empty.after (empty.remaining calls)).nodes.length = 2 ∧
    (empty.after calls).lastError = some ⟨.unknownParent 7, some 2⟩ ∧
    ∃ reply error, (empty.replies calls)[4]? = some reply ∧ reply.refusal? = some error ∧
      error.level = some 2 := by
  intro customer orders byCustomer calls
  obtain ⟨hreplies, hnodes, -, hlast, hlevel⟩ := refused_calls_leave_no_trace empty calls
  have hfifth : (empty.replies calls)[4]? =
      some ⟨.define none orders [.linked ⟨7⟩ "id"], .error ⟨.unknownParent 7, some 2⟩⟩ := by
    decide +kernel
  refine ⟨by decide +kernel, ?_, ?_, ?_, ?_⟩
  · rw [hreplies]
    decide +kernel
  · rw [hnodes]
    decide +kernel
  · rw [hlast]
    decide +kernel
  · refine ⟨_, _, hfifth, rfl, ?_⟩
    rw [hlevel 4 _ _ hfifth rfl]
    decide +kernel

end Builder

end StorageClient
