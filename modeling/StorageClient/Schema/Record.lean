import StorageClient.Bytes
/-!
# StorageClient.Schema.Record

Layouts of row images. A record lists the columns of a row with the octets each occupies; a row
image is as long as the furthest column reaches. Columns may overlap, leave gaps and share a name;
of several columns with one name the first is meant.

`Record.packed` lays columns out back to back in the given order.
-/

namespace StorageClient

/-- Where one column lies in a row image. -/
structure Column where
  name : String
  offset : Nat
  length : Nat
  nullable : Bool
  deriving Repr, DecidableEq

/-- The octet after the last one of a column. -/
def Column.stop (column : Column) : Nat := column.offset + column.length

/-- The layout of a row image. -/
structure Record where
  columns : List Column
  deriving Repr, DecidableEq

namespace Record

/-- The size of a row image: the end of the furthest column. -/
def rowSize (record : Record) : Nat :=
  record.columns.foldl (fun size column => max size column.stop) 0

/-- The columns named in `lengths`, each starting where the one before it ends. -/
def packedColumns (start : Nat) : List (String × Nat) → List Column
  | [] => []
  | (name, length) :: rest => ⟨name, start, length, false⟩ :: packedColumns (start + length) rest

/-- A record of the named columns with their lengths, back to back in the given order. -/
def packed (lengths : List (String × Nat)) : Record :=
  ⟨packedColumns 0 lengths⟩

/-- The column of a name. -/
def column? (record : Record) (name : String) : Option Column :=
  record.columns.find? fun column => column.name == name

/-- The octets of a named column, if the row reaches to its end. -/
def value? (record : Record) (name : String) (row : Bytes) : Option Bytes :=
  (record.column? name).bind fun column => Bytes.slice? row column.offset column.length

@[simp] theorem packedColumns_nil (start : Nat) : packedColumns start [] = [] := rfl

@[simp] theorem packedColumns_cons (start : Nat) (name : String) (length : Nat)
    (rest : List (String × Nat)) :
    packedColumns start ((name, length) :: rest) =
      ⟨name, start, length, false⟩ :: packedColumns (start + length) rest := rfl

end Record

end StorageClient
