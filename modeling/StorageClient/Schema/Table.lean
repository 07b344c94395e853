/-!
# StorageClient.Schema.Table

Tables and indexes as the engine's dictionary describes them. Nothing is looked up here: the
caller supplies metadata that is resolved already.
-/

namespace StorageClient

/-- A table with its columns in table order and its primary key in key order. -/
structure Table where
  name : String
  columns : List String
  primaryKey : List String
  deriving Repr, DecidableEq

/-- Whether the table has a column of this name. -/
def Table.hasColumn (table : Table) (column : String) : Bool := table.columns.contains column

/-- The kinds of index the engine knows. -/
inductive IndexKind
  | primaryKey
  | uniqueHash
  | ordered
  /-- A kind that no query can use. -/
  | undefined
  deriving Repr, DecidableEq

namespace IndexKind

def name : IndexKind → String
  | primaryKey => "PRIMARY_KEY"
  | uniqueHash => "UNIQUE_HASH"
  | ordered => "ORDERED"
  | undefined => "UNDEFINED"

def isUnique : IndexKind → Bool
  | primaryKey | uniqueHash => true
  | ordered | undefined => false

def all : List IndexKind := [primaryKey, uniqueHash, ordered, undefined]

end IndexKind

/-- An index with its columns in index order. -/
structure Index where
  name : String
  kind : IndexKind
  columns : List String
  deriving Repr, DecidableEq

end StorageClient
