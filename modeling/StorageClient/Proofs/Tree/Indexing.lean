import StorageClient.Chain.Compile
import StorageClient.Proofs.Indexing
import StorageClient.Proofs.Tree.Definitions
/-!
# StorageClient.Proofs.Tree.Indexing

The builder never indexes out of range.

An operand may be linked to any number, also to one past the end or to one that another builder
handed out. The numbers are looked up twice, when the columns are checked and when the depth is
found, and both look-ups come after the check that every number is known (`Builder.resolveParent`).
The root of a finalized tree is looked up after the check that there are levels.

So all of `Builder.define`, `Builder.prepare` and `Chain.compile` can be stated with bare indices
(`defineAt`, `prepareAt`, `compileAt`), for any builder and any operands whatsoever.
-/

namespace StorageClient

open Indexed (nth)

namespace Builder

open DefinitionError (Cause)

variable {nodes : List Node}

/-! ### One definition -/

/-- `checkColumn` with the node of the level taken as given. -/
def checkColumnAt (nodes : List Node) : Operand → ExceptT Cause Indexed Unit
  | .constant _ => pure ()
  | .linked parent column => do
    let node ← (nth nodes parent.number : Indexed Node)
    if node.access.table.hasColumn column then return ()
    else throw (.unknownColumn column node.access.table.name)

/-- `depthBelow` with the node of the parent taken as given. -/
def depthBelowAt (nodes : List Node) : Option Nat → Indexed Nat
  | none => return 0
  | some parent => do
    let node ← nth nodes parent
    return node.depth + 1

/-- `compile` with bare indices. -/
def compileAt (nodes : List Node) (index : Option Index) (table : Table) (operands : List Operand) :
    ExceptT Cause Indexed Node := do
  if maxLevels ≤ nodes.length then throw (.definitionTooLarge maxLevels)
  let parent ← ofExcept (resolveParent nodes operands)
  if parent.isNone && !nodes.isEmpty then throw constantsBelowRoot
  operands.forM (checkColumnAt nodes)
  let access ← ofExcept (selectAccess index table operands)
  ofExcept (checkScan nodes parent access)
  let depth ← (depthBelowAt nodes parent : Indexed Nat)
  return {
    number := nodes.length
    parent
    depth
    access
    record := none
    joinOnly := false }

theorem checkColumnAt_eq {operand : Operand}
    (hknown : ∀ parent column, operand = .linked parent column → parent.number < nodes.length) :
    checkColumnAt nodes operand = ofExcept (checkColumn nodes operand) := by
  cases operand with
  | constant value => rfl
  | linked parent column =>
    have hnode := List.getElem?_eq_getElem (hknown parent column rfl)
    simp only [checkColumnAt, Indexed.nth_of_some hnode, liftM_pure, pure_bind, checkColumn, hnode]
    split <;> rfl

theorem depthBelowAt_eq {parent : Option Nat}
    (hknown : ∀ number, parent = some number → number < nodes.length) :
    depthBelowAt nodes parent = pure (depthBelow nodes parent) := by
  cases parent with
  | none => rfl
  | some number =>
    have hnode := List.getElem?_eq_getElem (hknown number rfl)
    rw [depthBelowAt, Indexed.nth_of_some hnode, depthBelow, Option.bind_some, hnode]
    rfl

/-- The parent of a level is known. -/
theorem lt_of_resolveParent {operands : List Operand} {number : Nat}
    (hresolved : resolveParent nodes operands = .ok (some number)) : number < nodes.length := by
  obtain ⟨hlinked, hunlinked⟩ := resolveParent_eq_ok_iff.mp hresolved
  obtain ⟨first, hmem⟩ : ∃ first, first ∈ linkedLevels operands :=
    List.exists_mem_of_ne_nil _ fun hnone => nomatch hunlinked hnone
  obtain ⟨hknown, hsame⟩ := hlinked first hmem
  exact Option.some.inj hsame ▸ hknown

/-- When the levels are looked up, they are known. -/
theorem compileAt_eq (nodes : List Node) (index : Option Index) (table : Table)
    (operands : List Operand) :
    compileAt nodes index table operands = ofExcept (compile nodes index table operands) := by
  unfold compileAt compile
  by_cases hfull : maxLevels ≤ nodes.length
  · simp only [if_pos hfull]
    rfl
  simp only [if_neg hfull]
  cases hresolved : resolveParent nodes operands with
  | error cause => rfl
  | ok parent =>
    obtain ⟨hlinked, hunlinked⟩ := resolveParent_eq_ok_iff.mp hresolved
    have hcolumns : operands.forM (checkColumnAt nodes) =
        ofExcept (operands.forM (checkColumn nodes)) := by
      refine forM_eq_ofExcept fun operand hmem => checkColumnAt_eq ?_
      rintro above column rfl
      exact (hlinked above.number (mem_linkedLevels.mpr ⟨above, column, hmem, rfl⟩)).1
    have hdepth : depthBelowAt nodes parent = pure (depthBelow nodes parent) :=
      depthBelowAt_eq fun number heq => lt_of_resolveParent (heq ▸ hresolved)
    simp only [ofExcept_ok, Except.ok_bind, pure_bind]
    by_cases hconstants : (parent.isNone && !nodes.isEmpty) = true
    · simp only [if_pos hconstants]
      rfl
    · simp only [if_neg hconstants, ofExcept_bind, hcolumns, hdepth, liftM_pure, pure_bind]
      rfl

/-- `define` with bare indices. -/
def defineAt (builder : Builder) (index : Option Index) (table : Table) (operands : List Operand) :
    Indexed (Except DefinitionError LevelRef × Builder) := do
  match ← (compileAt builder.nodes index table operands).run with
  | .ok node => return (.ok ⟨node.number⟩, { builder with nodes := builder.nodes ++ [node] })
  | .error cause =>
    let error := (DefinitionError.of cause).atLevel builder.nodes.length
    report error
    return (.error error, { builder with lastError := some error })

theorem defineAt_eq (builder : Builder) (index : Option Index) (table : Table)
    (operands : List Operand) :
    builder.defineAt index table operands = liftM (builder.define index table operands) := by
  unfold defineAt define
  rw [compileAt_eq, run_ofExcept, pure_bind]
  cases compile builder.nodes index table operands with
  | ok node => exact Indexed.pure_eq _
  | error cause =>
    dsimp only
    rw [← Indexed.bind_eq]
    rfl

/-! ### Finalizing -/

/-- `finalize` with the root taken as given once the tree was checked. -/
def finalizeAt (nodes : List Node) (root : LevelRef) (id : String) :
    ExceptT DefinitionError Indexed Query := do
  if nodes.isEmpty then throw (.of .zeroOperations)
  if root.number ≠ 0 then
    throw (.of (.illegalState s!"{root.display} is not the first defined operation"))
  ofExcept (checkDepths 0 nodes)
  let first ← (nth nodes 0 : Indexed Node)
  return ⟨id, first, nodes.tail⟩

theorem finalizeAt_eq (nodes : List Node) (root : LevelRef) (id : String) :
    finalizeAt nodes root id = ofExcept (finalize nodes root id) := by
  cases nodes with
  | nil => rfl
  | cons first rest =>
    unfold finalizeAt finalize
    by_cases hroot : root.number ≠ 0
    · simp only [if_pos hroot]
      rfl
    · simp only [if_neg hroot, ofExcept_bind]
      rfl

/-- `prepare` with bare indices. -/
def prepareAt (builder : Builder) (root : LevelRef) (id : String) :
    Indexed (Except DefinitionError Query) := do
  match ← (finalizeAt builder.nodes root id).run with
  | .ok query =>
    Traced.log <| Event.queryPrepared.line [
      ("levels", .text (toString query.levels)),
      ("query", .text query.id),
      ("root", .text query.root.access.kindName)]
    return .ok query
  | .error error =>
    report error
    return .error error

theorem prepareAt_eq (builder : Builder) (root : LevelRef) (id : String) :
    builder.prepareAt root id = liftM (builder.prepare root id) := by
  unfold prepareAt prepare
  rw [finalizeAt_eq, run_ofExcept, pure_bind]
  cases finalize builder.nodes root id with
  | ok query | error error =>
    dsimp only
    rw [← Indexed.bind_eq]
    rfl

end Builder

/-! ### Chains -/

namespace Chain

/-- `defineLevel` with bare indices. -/
def defineLevelAt (builder : Builder) (index : Option Index) (source : Source)
    (operands : List Operand) (joinOnly : Bool) :
    Indexed (Except DefinitionError (LevelRef × Builder)) := do
  let (answer, builder) ← builder.defineAt index source.table operands
  return do
    let ref ← answer
    let builder ← builder.setRecord ref source.record
    if joinOnly then
      let builder ← builder.markJoinOnly ref
      return (ref, builder)
    else return (ref, builder)

/-- `defineJoins` with bare indices. -/
def defineJoinsAt (builder : Builder) (parent : LevelRef) :
    List Join → Indexed (Except DefinitionError Builder)
  | [] => return .ok builder
  | join :: rest => do
    let operands := join.columns.map fun column => Operand.linked parent column
    match ← defineLevelAt builder join.source.index join.source operands join.joinOnly with
    | .ok (ref, builder) => defineJoinsAt builder ref rest
    | .error error => return .error error

/-- `compile` with bare indices. -/
def compileAt (chain : Chain) (id : String) : Indexed (Except DefinitionError Query) := do
  Traced.count .rootProjectionsCreated
  match ← (chain.rootIndex : Traced _) with
  | .error error => return .error error
  | .ok index =>
    let operands := chain.keys.map Operand.constant
    match ← defineLevelAt .empty index chain.root operands false with
    | .error error => return .error error
    | .ok (root, builder) =>
      match ← defineJoinsAt builder root chain.joins with
      | .error error => return .error error
      | .ok builder => builder.prepareAt root id

theorem defineLevelAt_eq (builder : Builder) (index : Option Index) (source : Source)
    (operands : List Operand) (joinOnly : Bool) :
    defineLevelAt builder index source operands joinOnly =
      liftM (defineLevel builder index source operands joinOnly) := by
  unfold defineLevelAt defineLevel
  rw [Builder.defineAt_eq, ← Indexed.bind_eq]
  rfl

theorem defineJoinsAt_eq (joins : List Join) (builder : Builder) (parent : LevelRef) :
    defineJoinsAt builder parent joins = liftM (defineJoins builder parent joins) := by
  induction joins generalizing builder parent with
  | nil => exact Indexed.pure_eq _
  | cons join rest ih =>
    unfold defineJoinsAt defineJoins
    dsimp only
    rw [defineLevelAt_eq, ← Indexed.bind_eq]
    refine congrArg _ (funext fun answer => ?_)
    cases answer with
    | ok level => exact ih level.2 level.1
    | error error => exact Indexed.pure_eq _

theorem compileAt_eq (chain : Chain) (id : String) :
    chain.compileAt id = liftM (chain.compile id) := by
  unfold compileAt compile
  simp only [← Indexed.bind_eq]
  refine congrArg _ (funext fun _ => congrArg _ (funext fun index => ?_))
  cases index with
  | error error => exact Indexed.pure_eq _
  | ok index =>
    dsimp only
    rw [← Indexed.bind_eq, defineLevelAt_eq]
    refine congrArg _ (funext fun answer => ?_)
    cases answer with
    | error error => exact Indexed.pure_eq _
    | ok level =>
      dsimp only
      rw [← Indexed.bind_eq, defineJoinsAt_eq]
      refine congrArg _ (funext fun answer => ?_)
      cases answer with
      | error error => exact Indexed.pure_eq _
      | ok builder => exact Builder.prepareAt_eq builder level.1 id

end Chain

end StorageClient
