import StorageClient.Schema.Record
/-!
# StorageClient.Fetch.Buffer

Where a cursor puts the row images of one level. A buffer has the size of a row of its record and
is used again for every row. It remembers which stored row was copied from it last.
-/

namespace StorageClient

/-- The buffer of one level. -/
structure RowBuffer where
  /-- The layout of the rows; without one the buffer is unbound and has no room. -/
  record : Option Record
  data : Bytes
  /-- Whether the rows of the level only link its parent to its child. -/
  joinOnly : Bool
  /-- The place of the stored row that was copied from here last. -/
  lastCopy : Option Nat
  deriving Repr, DecidableEq

namespace RowBuffer

/-- The buffer of a level that has no layout yet. -/
def unbound : RowBuffer := ⟨none, [], false, none⟩

/-- A buffer for the rows of a record, filled with zeros. -/
def new (record : Record) : RowBuffer :=
  ⟨some record, List.replicate record.rowSize 0, false, none⟩

/-- The flag of levels that only link other levels. -/
def joinFlag : UInt16 := 2

/-- The flags of the rows of this level. -/
def flags (buffer : RowBuffer) : UInt16 := if buffer.joinOnly then joinFlag else 0

/-- The size of a row image. -/
def size (buffer : RowBuffer) : Nat := buffer.data.length

/-- Whether the buffer has a layout. -/
def isBound (buffer : RowBuffer) : Bool := buffer.record.isSome

/-- Marks the rows of the level as a mere link. -/
def markJoinOnly (buffer : RowBuffer) : RowBuffer := { buffer with joinOnly := true }

/-- Stores a row image, cut or padded with zeros to the size of the buffer. -/
def fill (buffer : RowBuffer) (image : Bytes) : RowBuffer :=
  { buffer with data := Bytes.fit buffer.size image }

/-- Overwrites a part of the row image; what would fall past its end is dropped. -/
def patch (buffer : RowBuffer) (offset : Nat) (bytes : Bytes) : RowBuffer :=
  { buffer with data := Bytes.overlay buffer.data offset bytes }

/-- The octets of a named column of the row image. -/
def value? (buffer : RowBuffer) (column : String) : Option Bytes :=
  buffer.record.bind fun record => record.value? column buffer.data

@[simp] theorem size_new (record : Record) : (new record).size = record.rowSize := by
  simp [new, size]

@[simp] theorem size_fill (buffer : RowBuffer) (image : Bytes) :
    (buffer.fill image).size = buffer.size := by
  simp [fill, size]

@[simp] theorem size_patch (buffer : RowBuffer) (offset : Nat) (bytes : Bytes) :
    (buffer.patch offset bytes).size = buffer.size := by
  simp [patch, size]

end RowBuffer

end StorageClient
