import StorageClient.Effect
import StorageClient.Telemetry.Event
import StorageClient.Tree.Error
/-!
# StorageClient.Tree.Builder

Building an operation tree level by level. A level is defined by an index, a table and operands.
The index decides how the level reaches its rows, and the linked operands decide which earlier
level it is joined to.

Design points:

* `Builder.compile` checks one definition against the levels defined so far. The checks come in a
  fixed order, and the first that fails is the refusal. It neither changes nor logs anything.
* A refused definition leaves the levels as they are. It is counted, logged, and kept as the last
  error of the builder.
* `Builder.prepare` finalizes the tree: the levels have to form a chain that starts at level 0.
-/

namespace StorageClient

/-- The levels of a tree that is being built, and the last refusal. -/
structure Builder where
  nodes : List Node
  lastError : Option DefinitionError
  deriving Repr, DecidableEq

namespace Builder

open DefinitionError (Cause)

/-- How many levels a tree may have. -/
def maxLevels : Nat := 32

/-- A builder without levels. -/
def empty : Builder := ⟨[], none⟩

/-! ### Checks of one definition -/

/-- The numbers of the levels that operands are linked to. -/
def linkedLevels (operands : List Operand) : List Nat :=
  operands.filterMap fun operand => operand.parent?.map LevelRef.number

/-- The one level that operands are linked to, none if they are all constants. A level that was not
defined is reported before a second level; of several unknown levels the least is reported. -/
def resolveParent (nodes : List Node) (operands : List Operand) : Except Cause (Option Nat) :=
  let linked := linkedLevels operands
  match (linked.filter fun number => nodes.length ≤ number).min? with
  | some unknown => .error (.unknownParent unknown)
  | none =>
    match linked with
    | [] => .ok none
    | parent :: rest =>
      if rest.all (· == parent) then .ok (some parent) else .error .multipleParents

/-- A linked operand has to name a column of the table of its level. -/
def checkColumn (nodes : List Node) : Operand → Except Cause Unit
  | .constant _ => .ok ()
  | .linked parent column =>
    match nodes[parent.number]? with
    | none => .error (.unknownParent parent.number)
    | some node =>
      if node.access.table.hasColumn column then .ok ()
      else .error (.unknownColumn column node.access.table.name)

/-- A unique key needs one operand for each of its columns. -/
def checkKeyCount (target : String) (expected got : Nat) : Except Cause Unit :=
  if got < expected then .error (.tooFewKeyValues target expected got)
  else if expected < got then .error (.tooManyKeyValues target expected got)
  else .ok ()

/-- How a level with this index reaches its rows. A scan may leave out trailing columns. -/
def selectAccess (index : Option Index) (table : Table) (operands : List Operand) :
    Except Cause Access :=
  match index with
  | none => do
    checkKeyCount table.name table.primaryKey.length operands.length
    return .readTuple table operands
  | some index =>
    match index.kind with
    | .primaryKey => do
      checkKeyCount index.name index.columns.length operands.length
      return .readTuple table operands
    | .uniqueHash => do
      checkKeyCount index.name index.columns.length operands.length
      return .uniqueLookup index table operands
    | .ordered =>
      if index.columns.length < operands.length then
        .error (.tooManyKeyValues index.name index.columns.length operands.length)
      else .ok (.indexScan index table (.equal operands))
    | .undefined => .error (.wrongIndexType index.name index.kind.name)

/-- The refusal of a level other than the root that is keyed by constants alone. -/
def constantsBelowRoot : Cause :=
  .illegalState "only the root operation may be keyed by constants alone"

/-- The refusal of a scan below a root that does not scan. -/
def scanBelowLookup : Cause :=
  .wrongOperationType "scan with a root lookup operation is not supported"

/-- The engine cannot run a scan below a root that is a lookup. -/
def checkScan (nodes : List Node) (parent : Option Nat) (access : Access) : Except Cause Unit :=
  match nodes with
  | root :: _ =>
    if access.isScan && parent.isSome && !root.access.isScan then .error scanBelowLookup
    else .ok ()
  | [] => .ok ()

/-- The depth of a level below its parent. -/
def depthBelow (nodes : List Node) (parent : Option Nat) : Nat :=
  match parent.bind fun number => nodes[number]? with
  | some node => node.depth + 1
  | none => 0

/-- The node for a definition, given the levels defined so far. -/
def compile (nodes : List Node) (index : Option Index) (table : Table) (operands : List Operand) :
    Except Cause Node := do
  if maxLevels ≤ nodes.length then throw (.definitionTooLarge maxLevels)
  let parent ← resolveParent nodes operands
  if parent.isNone && !nodes.isEmpty then throw constantsBelowRoot
  operands.forM (checkColumn nodes)
  let access ← selectAccess index table operands
  checkScan nodes parent access
  return {
    number := nodes.length
    parent
    depth := depthBelow nodes parent
    access
    record := none
    joinOnly := false }

/-! ### Definitions -/

/-- Counts and logs a refusal. -/
def report [Sink] (error : DefinitionError) : Traced Unit := do
  Traced.count .definitionsRejected
  Traced.log <| Event.definitionRejected.line [
    ("code", .text error.code),
    ("level", .text ((error.level.map toString).getD "")),
    ("message", .text error.message),
    ("number", .text (toString error.number))]

def define [Sink] (builder : Builder) (index : Option Index) (table : Table)
    (operands : List Operand) : Traced (Except DefinitionError LevelRef × Builder) :=
  match compile builder.nodes index table operands with
  | .ok node => pure (.ok ⟨node.number⟩, { builder with nodes := builder.nodes ++ [node] })
  | .error cause => do
    let error := (DefinitionError.of cause).atLevel builder.nodes.length
    report error
    return (.error error, { builder with lastError := some error })

/-- Changes the node of a level, if that level was defined. -/
def update (builder : Builder) (ref : LevelRef) (change : Node → Node) :
    Except DefinitionError Builder :=
  if ref.number < builder.nodes.length then
    .ok { builder with nodes := builder.nodes.modify ref.number change }
  else .error (.of (.unknownParent ref.number))

/-- Attaches the layout of the rows of a level. -/
def setRecord (builder : Builder) (ref : LevelRef) (record : Record) :
    Except DefinitionError Builder :=
  builder.update ref fun node => { node with record := some record }

/-- Marks the rows of a level as a mere link between its parent and its child. -/
def markJoinOnly (builder : Builder) (ref : LevelRef) : Except DefinitionError Builder :=
  builder.update ref fun node => { node with joinOnly := true }

/-! ### Finalizing -/

/-- The refusal of a tree with a node at the wrong depth. -/
def wrongDepth (depth level : Nat) : DefinitionError :=
  (DefinitionError.of <| .illegalState
    s!"depth {depth} at level {level}; depths must increase by one per level").atLevel level

/-- The depths have to count the levels. -/
def checkDepths (level : Nat) : List Node → Except DefinitionError Unit
  | [] => .ok ()
  | node :: rest =>
    if node.depth = level then checkDepths (level + 1) rest
    else .error (wrongDepth node.depth level)

/-- The query that the levels form, if they are a chain that starts at `root`. -/
def finalize (nodes : List Node) (root : LevelRef) (id : String) : Except DefinitionError Query :=
  match nodes with
  | [] => .error (.of .zeroOperations)
  | first :: rest =>
    if root.number ≠ 0 then
      .error (.of (.illegalState s!"{root.display} is not the first defined operation"))
    else do
      checkDepths 0 (first :: rest)
      return ⟨id, first, rest⟩

/-- Finalizes the tree as the query `id`. The builder is used up. -/
def prepare [Sink] (builder : Builder) (root : LevelRef) (id : String) :
    Traced (Except DefinitionError Query) :=
  match finalize builder.nodes root id with
  | .ok query => do
    Traced.log <| Event.queryPrepared.line [
      ("levels", .text (toString query.levels)),
      ("query", .text query.id),
      ("root", .text query.root.access.kindName)]
    return .ok query
  | .error error => do
    report error
    return .error error

end Builder

end StorageClient
