import StorageClient.Proofs.Chain.Rejections
import StorageClient.Proofs.Session.Calls
/-!
# StorageClient.Proofs.Session.Rejections

Refused definitions in a session. Clients define levels, finalize trees and compile chains, in any
order and among other calls. Each of these calls reports the refusal it is answered with, once, and
reports nothing if it is accepted (`Session.reports_exchange`); so what is counted and told in a
session are the refusals in it (`Session.refusals_reported`).

Left out are the chains whose root has to be scanned and offers no index for that: they are refused,
and nobody is told (`Session.refused_untold`).
-/

namespace StorageClient

open Effect (Reports rejections total)

variable {σ : Type}

namespace Effect.Reports

/-- What is reported by one thing after the other is reported by all. -/
theorem flatMap {α : Type} {things : List α} {refusals : α → List DefinitionError}
    {effects : α → List Effect} (h : ∀ thing ∈ things, Reports (refusals thing) (effects thing)) :
    Reports (things.flatMap refusals) (things.flatMap effects) := by
  induction things with
  | nil => exact .nil
  | cons thing rest ih =>
    obtain ⟨hthing, hrest⟩ := List.forall_mem_cons.mp h
    exact hthing.append (ih hrest)

end Effect.Reports

namespace Session

/-! ### One call -/

/-- Whether a call defines a level, finalizes a tree, or does both for a chain. -/
def Call.defines : Call σ → Bool
  | .builder _ (.define ..) | .prepare .. | .compile .. => true
  | _ => false

/-- Whether a call compiles a chain that lacks an index for its root. -/
def Call.lacksRootScan : Call σ → Bool
  | .compile chain _ => chain.lacksRootScan
  | _ => false

/-- The refusal that a call is answered with, if it is refused. -/
def Response.refusals : Response → List DefinitionError
  | .level answer => DefinitionError.refusals answer
  | .query answer => DefinitionError.refusals answer
  | _ => []

end Session

/-- The refusals that a call should report, those of chains that lack an index for their root left
out. -/
def Session.Exchange.reported (exchange : Exchange σ) : List DefinitionError :=
  if exchange.call.lacksRootScan then [] else exchange.response.refusals

namespace Session

/-- A refusal is missing among those reported for every chain that lacks an index for its root. -/
theorem length_reported {made : List (Exchange σ)}
    (h : ∀ exchange ∈ made, exchange.call.lacksRootScan = true →
      exchange.response = .query (.error Chain.noRootScan)) :
    (made.flatMap Exchange.reported).length +
        made.countP (fun exchange => exchange.call.lacksRootScan) =
      (made.flatMap fun exchange => exchange.response.refusals).length := by
  induction made with
  | nil => rfl
  | cons exchange rest ih =>
    obtain ⟨hexchange, hrest⟩ := List.forall_mem_cons.mp h
    rw [List.flatMap_cons, List.flatMap_cons, List.length_append, List.length_append,
      List.countP_cons, ← ih hrest, Exchange.reported]
    by_cases hlacks : exchange.call.lacksRootScan = true
    · rw [if_pos hlacks, if_pos hlacks, hexchange hlacks]
      simp only [Response.refusals, DefinitionError.refusals, List.length_nil,
        List.length_singleton]
      omega
    · rw [if_neg hlacks, if_neg hlacks]
      omega

section Runs

variable [Memory] [Engine σ] {call : Call σ}

/-- A call that defines something reports its refusal, unless a root lacks an index. -/
theorem reports_exchange (session : Session σ) (hcall : call.defines = true) :
    Reports (session.exchange call).reported (session.exchange call).effects := by
  cases call with
  | builder name made =>
    cases made with
    | define index table operands =>
      rw [Exchange.reported, exchange, perform]
      cases session.builders name with
      | none => exact .nil
      | some builder => exact (builder.reports_define index table operands).append_nil
    | setRecord | markJoinOnly => exact nomatch hcall
  | prepare name root id =>
    rw [Exchange.reported, exchange, perform]
    cases session.builders name with
    | none => exact .nil
    | some builder => exact (builder.tells_prepare root id).append_nil
  | compile chain id =>
    have hreported : (session.exchange (.compile chain id)).reported =
        if chain.lacksRootScan then [] else DefinitionError.refusals (chain.compile id).value := rfl
    rw [hreported]
    cases hscan : chain.lacksRootScan with
    | false => exact (Chain.tells_compile hscan id).append_nil
    | true => exact (Chain.compile_of_lacksRootScan hscan id).2.append_nil
  | newBuilder | newExecutor | executor | newBatch | batch | transaction => exact nomatch hcall

theorem response_of_lacksRootScan (session : Session σ) (hcall : call.lacksRootScan = true) :
    (session.exchange call).response = .query (.error Chain.noRootScan) := by
  cases call with
  | compile chain id =>
    exact congrArg Response.query (Chain.compile_of_lacksRootScan hcall id).1
  | newBuilder | builder | prepare | newExecutor | executor | newBatch | batch | transaction =>
    exact nomatch hcall

/-! ### Any sequence of calls -/

/-- The calls in a session that define something. -/
def definitions (session : Session σ) (calls : List (Call σ)) : List (Exchange σ) :=
  (session.exchanges calls).filter fun exchange => exchange.call.defines

theorem exists_of_mem_definitions {session : Session σ} {calls : List (Call σ)}
    {exchange : Exchange σ} (h : exchange ∈ session.definitions calls) :
    ∃ (present : Session σ) (call : Call σ), call.defines = true ∧
      exchange = present.exchange call := by
  obtain ⟨hmem, hdefines⟩ := List.mem_filter.mp h
  obtain ⟨n, hn⟩ := List.mem_iff_getElem?.mp hmem
  rw [getElem?_exchanges] at hn
  obtain ⟨call, -, rfl⟩ := Option.map_eq_some_iff.mp hn
  exact ⟨_, call, hdefines, rfl⟩

/-- **Refused definitions are reported**, each once, except for chains that lack an index for their
root. Whatever calls are made in a session, every call that defines something reports its refusal
and nothing else: one more refusal is counted, and one line with its code, number, message and level
is in every sink that keeps errors. A chain that lacks an index for its root is refused, and this is
not reported; so as many refusals are counted as calls were refused exactly if there is none. -/
theorem refusals_reported (session : Session σ) (calls : List (Call σ)) :
    let made := session.definitions calls
    let refused := made.flatMap fun exchange => exchange.response.refusals
    let effects := made.flatMap Exchange.effects
    let lacking := made.countP fun exchange => exchange.call.lacksRootScan
    (∀ exchange ∈ made, Reports exchange.reported exchange.effects ∧
      (exchange.call.lacksRootScan = true →
        exchange.response = .query (.error Chain.noRootScan))) ∧
    total .definitionsRejected effects + lacking = refused.length ∧
    (total .definitionsRejected effects = refused.length ↔ lacking = 0) ∧
    (lacking = 0 → Reports refused effects) := by
  intro made refused effects lacking
  have hone : ∀ exchange ∈ made, Reports exchange.reported exchange.effects ∧
      (exchange.call.lacksRootScan = true →
        exchange.response = .query (.error Chain.noRootScan)) := by
    intro exchange hmem
    obtain ⟨present, call, hdefines, rfl⟩ := exists_of_mem_definitions hmem
    exact ⟨reports_exchange present hdefines, response_of_lacksRootScan present⟩
  have hall : Reports (made.flatMap Exchange.reported) effects :=
    .flatMap fun exchange hmem => (hone exchange hmem).1
  have hlength : (made.flatMap Exchange.reported).length + lacking = refused.length :=
    length_reported fun exchange hmem => (hone exchange hmem).2
  rw [← hall.counted] at hlength
  refine ⟨hone, hlength, by omega, fun hnone => ?_⟩
  have hrefused : made.flatMap Exchange.reported = refused := by
    refine List.flatMap_congr fun exchange hmem => ?_
    exact if_neg (List.countP_eq_zero.mp hnone exchange hmem)
  exact hrefused ▸ hall

end Runs

section Orders

/-- A session in which nothing is there. -/
def nothing : Session Playback :=
  ⟨fun _ => none, fun _ => none, fun _ => none, fun _ => none,
    fun _ => Batch.ordersTransaction [] []⟩

/-- The orders of one customer, with the index that is offered for scanning customers. -/
def ordersOfCustomer (byId : Option Index) : Chain :=
  { root := ⟨⟨"customer", ["id"], ["id"]⟩, none, .packed [("id", 1)]⟩
    keys := [[1]]
    joins := [⟨⟨⟨"orders", ["id", "customer"], ["id"]⟩,
      some ⟨"orders_by_customer", .ordered, ["customer"]⟩, .packed [("id", 1)]⟩, ["id"], false⟩]
    rootScanIndex := byId }

/-- A key without values is refused, the orders of a customer are compiled, and a tree without
levels is refused. -/
theorem refusals_reported_orders :
    let calls : List (Call Playback) := [
      .newBuilder "builder",
      .builder "builder" (.define none ⟨"customer", ["id"], ["id"]⟩ []),
      .compile (ordersOfCustomer (some ⟨"customer_by_id", .ordered, ["id"]⟩)) "orders",
      .prepare "builder" ⟨0⟩ "nothing"]
    let made := nothing.definitions calls
    let refused : List DefinitionError := [
      (DefinitionError.of (.tooFewKeyValues "customer" 1 0)).atLevel 0, .of .zeroOperations]
    made.length = 3 ∧
      (made.countP fun exchange => exchange.call.lacksRootScan) = 0 ∧
      total .definitionsRejected (made.flatMap Exchange.effects) = 2 ∧
      rejections .warn (made.flatMap Exchange.effects) = refused.map DefinitionError.line := by
  intro calls made refused
  have hlacking : (made.countP fun exchange => exchange.call.lacksRootScan) = 0 := by
    decide +kernel
  have hrefused : (made.flatMap fun exchange => exchange.response.refusals) = refused := by
    decide +kernel
  obtain ⟨-, -, hcounted, hreports⟩ := refusals_reported nothing calls
  refine ⟨by decide +kernel, hlacking, ?_, ?_⟩
  · rw [hcounted.mpr hlacking, hrefused]
    rfl
  · rw [(hreports hlacking).told, hrefused]
    exact if_pos (by decide)

/-- The orders of a customer cannot be compiled without an index for scanning customers. The refusal
is neither counted nor told. -/
theorem refused_untold :
    let made := nothing.exchange (.compile (ordersOfCustomer none) "orders")
    made.response = .query (.error Chain.noRootScan) ∧
      total .definitionsRejected made.effects = 0 ∧
      rejections .trace made.effects = [] := by
  exact ⟨by rfl, by decide +kernel, by decide +kernel⟩

end Orders

end Session

end StorageClient
