import StorageClient.Transaction.Error
import StorageClient.Bytes
/-!
# StorageClient.Transaction.Cursor

Cursors over the rows of an executing query. What a cursor will do is data: the answers it gives
when it is polled, one after the other, and how it ends. So a fetch is a recursion over the
answers, and every run comes to an end.

A row is aligned: it has a cell for every level of the query, root first. Levels beyond the cells
are not NULL and their buffers are left alone; cells beyond the levels have no effect.
-/

namespace StorageClient

/-- What a cursor does to the buffer of one level. -/
inductive Cell.Write
  | keep
  /-- Stores a row image, cut or padded with zeros to the buffer's size. -/
  | fill (image : Bytes)
  /-- Overwrites a part of the buffer. -/
  | patch (offset : Nat) (bytes : Bytes)
  deriving Repr, DecidableEq

/-- One level of a row. -/
structure Cell where
  isNull : Bool
  write : Cell.Write
  deriving Repr, DecidableEq

namespace Cell

/-- The buffer after the cursor wrote to it. -/
def Write.apply (write : Write) (buffer : Bytes) : Bytes :=
  match write with
  | .keep => buffer
  | .fill image => Bytes.fit buffer.length image
  | .patch offset bytes => Bytes.overlay buffer offset bytes

/-- A cursor writes inside the buffer. -/
@[simp] theorem Write.length_apply (write : Write) (buffer : Bytes) :
    (write.apply buffer).length = buffer.length := by
  cases write <;> simp [Write.apply]

end Cell

namespace Cursor

/-- What a cursor answers when it is polled. -/
inductive Answer
  | empty
  | row (cells : List Cell)
  | panic (text : String)
  deriving Repr, DecidableEq

/-- Whether an answer lets the fetch go on. -/
def Answer.isCalm : Answer → Bool
  | .panic _ => false
  | _ => true

/-- What a cursor answers after all else. -/
inductive Ending
  | complete
  /-- The cursor failed, perhaps with an error that says why. -/
  | failed (error : Option EngineError)
  deriving Repr, DecidableEq

/-- The kinds of answer a cursor gives. -/
inductive Status
  | gotRow
  | bufferEmpty
  | scanComplete
  | error
  deriving Repr, DecidableEq

namespace Status

def name : Status → String
  | gotRow => "GOT_ROW"
  | bufferEmpty => "BUFFER_EMPTY"
  | scanComplete => "SCAN_COMPLETE"
  | error => "ERROR"

def all : List Status := [gotRow, bufferEmpty, scanComplete, error]

end Status

/-- The kind of an answer; a panic is no answer. -/
def Answer.status? : Answer → Option Status
  | .empty => some .bufferEmpty
  | .row _ => some .gotRow
  | .panic _ => none

/-- The kind of the last answer. -/
def Ending.status : Ending → Status
  | .complete => .scanComplete
  | .failed _ => .error

/-- What is done to a cursor. -/
inductive Call
  | poll
  | close
  deriving Repr, DecidableEq

end Cursor

/-- A cursor: the answers that are still to come, and how it ends. -/
structure Cursor where
  answers : List Cursor.Answer
  ending : Cursor.Ending
  deriving Repr, DecidableEq

end StorageClient
