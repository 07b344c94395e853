import StorageClient.Bytes
import StorageClient.Schema.Table
/-!
# StorageClient.Tree.Access

How one level of an operation tree reaches its rows: by primary key, through a unique hash index,
or by scanning an ordered index. Key operands are constants or columns of an earlier level.
-/

namespace StorageClient

/-- A level of an operation tree, named by its place in the order of definition. The first one
defined has number 0. -/
structure LevelRef where
  number : Nat
  deriving Repr, DecidableEq

def LevelRef.display (ref : LevelRef) : String := s!"op#{ref.number}"

/-- One operand of a key. -/
inductive Operand
  | constant (value : Bytes)
  | linked (parent : LevelRef) (column : String)
  deriving Repr, DecidableEq

/-- The level an operand is linked to, if any. -/
def Operand.parent? : Operand → Option LevelRef
  | .constant _ => none
  | .linked parent _ => some parent

/-- The range of an index scan. -/
structure IndexBound where
  low : List Operand
  lowInclusive : Bool
  high : List Operand
  highInclusive : Bool
  deriving Repr, DecidableEq

namespace IndexBound

/-- The rows that agree with `keys` on the leading columns of the index. -/
def equal (keys : List Operand) : IndexBound := ⟨keys, true, keys, true⟩

/-- Whether a bound takes in the whole index. -/
def isUnbounded (bound : IndexBound) : Bool := bound.low.isEmpty && bound.high.isEmpty

end IndexBound

/-- How one level reaches its rows. -/
inductive Access
  /-- One row by primary key. -/
  | readTuple (table : Table) (keys : List Operand)
  /-- One row through a unique hash index. -/
  | uniqueLookup (index : Index) (table : Table) (keys : List Operand)
  /-- The rows of a range of an ordered index. -/
  | indexScan (index : Index) (table : Table) (bound : IndexBound)
  deriving Repr, DecidableEq

namespace Access

def table : Access → Table
  | readTuple table _ | uniqueLookup _ table _ | indexScan _ table _ => table

/-- The index that is used; a read by primary key uses none. -/
def index? : Access → Option Index
  | readTuple _ _ => none
  | uniqueLookup index _ _ | indexScan index _ _ => some index

/-- The operands of the key; of a scan, those of the lower bound. -/
def operands : Access → List Operand
  | readTuple _ keys | uniqueLookup _ _ keys => keys
  | indexScan _ _ bound => bound.low

def isScan : Access → Bool
  | indexScan .. => true
  | _ => false

def kindName : Access → String
  | readTuple .. => "READ_TUPLE"
  | uniqueLookup .. => "UNIQUE_LOOKUP"
  | indexScan .. => "INDEX_SCAN"

end Access

end StorageClient
