import StorageClient.Chain.Basic
import StorageClient.Tree.Builder
/-!
# StorageClient.Chain.Compile

Compiling a chain of tables into a query. Every table becomes one level: the root is keyed by its
constants, and each later level by columns of the level before it.

The engine cannot scan below a root that is looked up. If a later table is scanned and the root is
found by a unique key, the root is turned into a scan of the index that the chain offers for it;
the constants of its key then bound that scan.
-/

namespace StorageClient.Chain

/-- Whether any table after the root is scanned. -/
def scansBelowRoot (chain : Chain) : Bool := chain.joins.any fun join => join.source.isScan

/-- Whether the root has to be turned into a scan. -/
def needsRootScan (chain : Chain) : Bool := chain.scansBelowRoot && chain.root.isUnique

/-- The refusal of a chain whose root has to be scanned and cannot. -/
def noRootScan : DefinitionError :=
  (DefinitionError.of (.wrongOperationType "could not rewrite root lookup to use a scan")).atLevel 0

/-- The ordered index that is offered for scanning the root. -/
def rootScan? (chain : Chain) : Option Index :=
  chain.rootScanIndex.filter fun index => index.kind == .ordered

/-- The index by which the root is found in the end. -/
def rootIndex [Sink] (chain : Chain) : Traced (Except DefinitionError (Option Index)) :=
  if chain.needsRootScan then
    match chain.rootScan? with
    | some index => do
      Traced.count .rootsTurnedIntoScans
      Traced.log <| Event.rootTurnedIntoScan.line [
        ("index", .text index.name),
        ("table", .text chain.root.table.name)]
      return .ok (some index)
    | none => return .error noRootScan
  else return .ok chain.root.index

/-- Defines one level with the layout of its rows and its mark. -/
def defineLevel [Sink] (builder : Builder) (index : Option Index) (source : Source)
    (operands : List Operand) (joinOnly : Bool) :
    Traced (Except DefinitionError (LevelRef × Builder)) := do
  let (answer, builder) ← builder.define index source.table operands
  return do
    let ref ← answer
    let builder ← builder.setRecord ref source.record
    if joinOnly then
      let builder ← builder.markJoinOnly ref
      return (ref, builder)
    else return (ref, builder)

/-- Defines the tables after the root, each joined to the one before. -/
def defineJoins [Sink] (builder : Builder) (parent : LevelRef) :
    List Join → Traced (Except DefinitionError Builder)
  | [] => pure (.ok builder)
  | join :: rest => do
    let operands := join.columns.map fun column => Operand.linked parent column
    match ← defineLevel builder join.source.index join.source operands join.joinOnly with
    | .ok (ref, builder) => defineJoins builder ref rest
    | .error error => return .error error

/-- Compiles a chain into the query `id`. -/
def compile [Sink] (chain : Chain) (id : String) : Traced (Except DefinitionError Query) := do
  Traced.count .rootProjectionsCreated
  match ← chain.rootIndex with
  | .error error => return .error error
  | .ok index =>
    let operands := chain.keys.map Operand.constant
    match ← defineLevel .empty index chain.root operands false with
    | .error error => return .error error
    | .ok (root, builder) =>
      match ← defineJoins builder root chain.joins with
      | .error error => return .error error
      | .ok builder => builder.prepare root id

end StorageClient.Chain
