import StorageClient.Bytes
import StorageClient.Schema.Table
/-!
# StorageClient.Transaction.Operation

Operations on single rows by primary key, with the large objects they read or write along the way.
-/

namespace StorageClient

/-- A large object of one column of an operation. `field` is the place the caller has for it. -/
inductive BlobHandler
  /-- Reads the value back; `data` is there once it was read. -/
  | read (column : UInt32) (field : Nat) (data : Option Bytes)
  | write (column : UInt32) (field : Nat) (value : Bytes)
  deriving Repr, DecidableEq

namespace BlobHandler

def column : BlobHandler → UInt32
  | read column _ _ | write column _ _ => column

def field : BlobHandler → Nat
  | read _ field _ | write _ field _ => field

def isRead : BlobHandler → Bool
  | read .. => true
  | write .. => false

def data : BlobHandler → Option Bytes
  | read _ _ data => data
  | write .. => none

def value : BlobHandler → Option Bytes
  | read .. => none
  | write _ _ value => some value

/-- Keeps the value that was read back; a handler that writes has no place for it. -/
def fill (bytes : Bytes) : BlobHandler → BlobHandler
  | read column field _ => read column field (some bytes)
  | write column field value => write column field value

variable (bytes : Bytes) (b : BlobHandler)

@[simp] theorem column_fill : (b.fill bytes).column = b.column := by
  cases b <;> rfl

@[simp] theorem field_fill : (b.fill bytes).field = b.field := by
  cases b <;> rfl

@[simp] theorem isRead_fill : (b.fill bytes).isRead = b.isRead := by
  cases b <;> rfl

@[simp] theorem value_fill : (b.fill bytes).value = b.value := by
  cases b <;> rfl

end BlobHandler

/-- The kinds of operation on a single row. -/
inductive Opcode
  | read
  | insert
  | update
  /-- Inserts the row or overwrites it. -/
  | write
  | delete
  deriving Repr, DecidableEq

namespace Opcode

def name : Opcode → String
  | read => "READ"
  | insert => "INSERT"
  | update => "UPDATE"
  | write => "WRITE"
  | delete => "DELETE"

/-- Whether an operation of this kind carries a row image. -/
def hasRow : Opcode → Bool
  | insert | update | write => true
  | read | delete => false

def all : List Opcode := [read, insert, update, write, delete]

end Opcode

/-- An operation on the row of one primary key. -/
structure KeyOperation where
  opcode : Opcode
  table : Table
  key : Bytes
  /-- The row image to store. -/
  row : Option Bytes
  blobs : List BlobHandler
  deriving Repr, DecidableEq

namespace KeyOperation

/-- An operation without large objects; `row` is kept by the kinds that store one. -/
def new (opcode : Opcode) (table : Table) (key row : Bytes) : KeyOperation :=
  ⟨opcode, table, key, if opcode.hasRow then some row else none, []⟩

def withBlob (operation : KeyOperation) (blob : BlobHandler) : KeyOperation :=
  { operation with blobs := operation.blobs ++ [blob] }

/-- Whether any large object is read back. -/
def readsBlobs (operation : KeyOperation) : Bool := operation.blobs.any BlobHandler.isRead

/-- The large objects that were read back, each with the caller's field for it. -/
def blobResults (operation : KeyOperation) : List (Nat × Bytes) :=
  operation.blobs.filterMap fun blob => blob.data.map fun data => (blob.field, data)

end KeyOperation

end StorageClient
