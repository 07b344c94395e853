import StorageClient.Schema.Record
import StorageClient.Tree.Access
/-!
# StorageClient.Tree.Query

Operation trees: the nodes a builder collects, and the finalized tree, a `Query`, which the engine
can execute. A query is a chain. Its nodes stand in level order, the root first, and there is
always a root.
-/

namespace StorageClient

/-- One level of an operation tree. -/
structure Node where
  /-- The place in the order of definition. -/
  number : Nat
  parent : Option Nat
  /-- The distance from the root. -/
  depth : Nat
  access : Access
  /-- The layout of the rows of this level, if one was attached. -/
  record : Option Record
  /-- Whether the rows of this level only link its parent to its child. -/
  joinOnly : Bool
  deriving Repr, DecidableEq

/-- A finalized operation tree. -/
structure Query where
  /-- What tells this query from all others. -/
  id : String
  root : Node
  /-- The levels below the root, in order. -/
  joins : List Node
  deriving Repr, DecidableEq

namespace Query

def nodes (query : Query) : List Node := query.root :: query.joins

def levels (query : Query) : Nat := query.nodes.length

/-- The node of a level. -/
def node? (query : Query) (level : Nat) : Option Node := query.nodes[level]?

/-- The level that a level is joined to; the root is joined to none. -/
def parentOf (query : Query) (level : Nat) : Option Nat :=
  (query.node? level).bind Node.parent

/-- Whether any level scans, so that there may be many root rows. -/
def hasScan (query : Query) : Bool := query.nodes.any fun node => node.access.isScan

/-- The root, for operands that are linked to it. -/
def rootRef (_query : Query) : LevelRef := ⟨0⟩

@[simp] theorem levels_eq (query : Query) : query.levels = query.joins.length + 1 := rfl

end Query

end StorageClient
