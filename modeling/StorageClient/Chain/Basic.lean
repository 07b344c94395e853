import StorageClient.Schema.Record
import StorageClient.Schema.Table
import StorageClient.Bytes
/-!
# StorageClient.Chain.Basic

What a caller asks for: a chain of tables. The root is keyed by constants, and every later table is
joined to the one before it by columns of that one, matched by position with the key columns of its
own index or primary key. That the root has constants and all others have columns is a matter of
the type, and the depth of a level is its place in the chain.
-/

namespace StorageClient

/-- A table, the way into it, and the layout of the rows that are wanted. -/
structure Source where
  table : Table
  /-- Without an index, rows are found by primary key. -/
  index : Option Index
  record : Record
  deriving Repr, DecidableEq

namespace Source

def isPrimaryKey (source : Source) : Bool :=
  match source.index with
  | none => true
  | some index => index.kind == .primaryKey

def isUnique (source : Source) : Bool :=
  match source.index with
  | none => true
  | some index => index.kind.isUnique

def isScan (source : Source) : Bool :=
  match source.index with
  | none => false
  | some index => index.kind == .ordered

/-- The columns of the key, in key order. -/
def keyColumns (source : Source) : List String :=
  match source.index with
  | none => source.table.primaryKey
  | some index => index.columns

end Source

/-- A table joined to the one before it. -/
structure Join where
  source : Source
  /-- The columns of the table before, matched by position with the key columns of this one. -/
  columns : List String
  joinOnly : Bool
  deriving Repr, DecidableEq

/-- A chain of tables. -/
structure Chain where
  root : Source
  /-- The key of the root. -/
  keys : List Bytes
  joins : List Join
  /-- The index to scan when the root cannot be looked up because a later table is scanned. -/
  rootScanIndex : Option Index
  deriving Repr, DecidableEq

namespace Chain

/-- A chain of one table. -/
def single (root : Source) (keys : List Bytes) : Chain := ⟨root, keys, [], none⟩

/-- Joins one more table to the last one. -/
def join (chain : Chain) (source : Source) (columns : List String) : Chain :=
  { chain with joins := chain.joins ++ [⟨source, columns, false⟩] }

/-- Joins a table to the last one through a table that only links the two. -/
def joinThrough (chain : Chain) (via : Source) (viaColumns : List String) (target : Source)
    (targetColumns : List String) : Chain :=
  { chain with
    joins := chain.joins ++ [⟨via, viaColumns, true⟩, ⟨target, targetColumns, false⟩] }

/-- Offers an index for scanning the root. -/
def withRootScanIndex (chain : Chain) (index : Index) : Chain :=
  { chain with rootScanIndex := some index }

/-- How a level of a chain is keyed. -/
inductive Key
  | constants (values : List Bytes)
  | parentColumns (columns : List String)
  deriving Repr, DecidableEq

/-- One level of a chain, whichever it is. -/
structure Level where
  source : Source
  key : Key
  depth : Nat
  joinOnly : Bool
  deriving Repr, DecidableEq

/-- The levels of a chain, root first. -/
def levels (chain : Chain) : List Level :=
  ⟨chain.root, .constants chain.keys, 0, false⟩ ::
    chain.joins.mapIdx fun i join =>
      ⟨join.source, .parentColumns join.columns, i + 1, join.joinOnly⟩

/-- The number of levels, never zero. -/
def length (chain : Chain) : Nat := chain.joins.length + 1

/-- The level after a level. -/
def next? (chain : Chain) (level : Level) : Option Level := chain.levels[level.depth + 1]?

@[simp] theorem length_levels (chain : Chain) : chain.levels.length = chain.length := by
  simp [levels, length]

end Chain

end StorageClient
