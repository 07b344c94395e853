import StorageClient.Action
import StorageClient.Fetch.Error
import StorageClient.Fetch.Store
import StorageClient.Tree.Query
/-!
# StorageClient.Fetch.Row

What a fetch does with one row, and with all rows of a cursor.

The cursor writes a row into the buffers of its levels, and then the levels are visited, root
first:

1. a level whose parent is NULL is NULL too, and nothing is stored for it;
2. for a level that the cursor reports as NULL a NULL header is stored;
3. a level whose image equals the one stored for it last is passed over;
4. of any other level a copy of the image is stored.

A cursor that has no row yet is polled again. So what a fetch stores depends on the rows alone, as
long as memory is granted. If it is refused in the middle of a row, the headers of this row are
dropped, and the fetch ends.
-/

namespace StorageClient

/-- What a fetch works on: the buffers of the levels, and the rows found so far. -/
structure Fetch where
  buffers : List RowBuffer
  results : ResultStore
  deriving Repr, DecidableEq

namespace Fetch

/-- The buffers after the cursor wrote a row into them. -/
def writeCells : List Cell → List RowBuffer → List RowBuffer
  | cell :: cells, buffer :: buffers =>
    { buffer with data := cell.write.apply buffer.data } :: writeCells cells buffers
  | _, buffers => buffers

/-- Whether the cursor reports a level of a row as NULL. -/
def isRowNull (cells : List Cell) (level : Nat) : Bool :=
  match cells[level]? with
  | some cell => cell.isNull
  | none => false

/-- Whether the parent of a level is NULL, where `nulls` tells it of the levels before. -/
def isHidden (query : Query) (nulls : List Bool) (level : Nat) : Bool :=
  match query.parentOf level with
  | some parent => nulls[parent]?.getD false
  | none => false

/-- The image stored last for the level of a buffer, if it is still in the store. -/
def lastImage (results : ResultStore) (buffer : RowBuffer) : Option Bytes :=
  (buffer.lastCopy.bind results.get?).bind Header.data

/-- Stores a copy of the image of a level, unless the same image was stored for it last. -/
def storeImage [Memory] [Sink] (level : Nat) (buffer : RowBuffer) (results : ResultStore) :
    Traced (Except FetchError Unit × RowBuffer × ResultStore) :=
  if lastImage results buffer = some buffer.data then do
    Traced.count .duplicatesSuppressed
    return (.ok (), buffer, results)
  else do
    match ← results.storeValue (UInt16.ofNat level) buffer.flags buffer.data with
    | (.ok index, results) =>
      Traced.count .rowsPushed
      return (.ok (), { buffer with lastCopy := some index }, results)
    | (.error error, results) => return (.error error, buffer, results)

/-- Visits one level of a row. Tells whether the level is NULL. -/
def visitLevel [Memory] [Sink] (query : Query) (cells : List Cell) (nulls : List Bool)
    (buffer : RowBuffer) (results : ResultStore) :
    Traced (Except FetchError Bool × RowBuffer × ResultStore) :=
  let level := nulls.length
  if isHidden query nulls level then return (.ok true, buffer, results)
  else if isRowNull cells level then do
    match ← results.storeNull (UInt16.ofNat level) buffer.flags with
    | (.ok (), results) =>
      Traced.count .nullRowsPushed
      return (.ok true, buffer, results)
    | (.error error, results) => return (.error error, buffer, results)
  else do
    let (answer, buffer, results) ← storeImage level buffer results
    return (answer.map fun () => false, buffer, results)

/-- Visits the levels of a row after those of `nulls`, up to one at which memory is refused. -/
def visitLevels [Memory] [Sink] (query : Query) (cells : List Cell) (nulls : List Bool) :
    List RowBuffer → ResultStore → Traced (Except FetchError Unit × List RowBuffer × ResultStore)
  | [], results => pure (.ok (), [], results)
  | buffer :: rest, results => do
    match ← visitLevel query cells nulls buffer results with
    | (.ok isNull, buffer, results) =>
      let (answer, rest, results) ← visitLevels query cells (nulls ++ [isNull]) rest results
      return (answer, buffer :: rest, results)
    | (.error error, buffer, results) => return (.error error, buffer :: rest, results)

/-- Takes in a row. If memory is refused on the way, none of its headers stay. -/
def takeRow [Memory] [Sink] (query : Query) (cells : List Cell) (fetch : Fetch) :
    Traced (Except FetchError Unit × Fetch) :=
  match fetch with
  | ⟨buffers, results⟩ => do
    let mark := results.size
    match ← visitLevels query cells [] (writeCells cells buffers) results with
    | (.ok (), buffers, results) => return (.ok (), ⟨buffers, results⟩)
    | (.error error, buffers, results) => return (.error error, ⟨buffers, results.truncate mark⟩)

/-- Polls the cursor and takes in its answer. -/
def takeAnswer [Memory] [Sink] (query : Query) (fetch : Fetch) (answer : Cursor.Answer) :
    Traced (Except FetchError Unit × Fetch) := do
  Traced.emit (.cursor .poll)
  match answer with
  | .row cells => takeRow query cells fetch
  | .empty | .panic _ => return (.ok (), fetch)

/-- Goes on to the next answer, unless something went wrong before. -/
def advance [Memory] [Sink] (query : Query) :
    Except FetchError Unit × Fetch → Cursor.Answer → Traced (Except FetchError Unit × Fetch)
  | (.ok (), fetch), answer => takeAnswer query fetch answer
  | (.error error, fetch), _ => return (.error error, fetch)

/-- What the end of a cursor means for the fetch. -/
def outcome : Cursor.Ending → Except FetchError Unit
  | .complete => .ok ()
  | .failed cause => .error (.cursorFailed cause)

/-- Polls a cursor until it comes to its end or panics, or until memory is refused. A cursor that
panicked keeps the answers after that. -/
def drain [Memory] [Sink] (query : Query) (cursor : Cursor) (fetch : Fetch) :
    Traced (Answer (Except FetchError Unit) × Cursor × Fetch) := do
  let calm := cursor.answers.takeWhile Cursor.Answer.isCalm
  match ← Traced.foldl (advance query) (.ok (), fetch) calm with
  -- The cursor is closed next, so what it would still answer does not matter.
  | (.error error, fetch) => return (.returned (.error error), cursor, fetch)
  | (.ok (), fetch) =>
    Traced.emit (.cursor .poll)
    match cursor.answers.dropWhile Cursor.Answer.isCalm with
    | .panic text :: later => return (.panicked text, { cursor with answers := later }, fetch)
    | _ => return (.returned (outcome cursor.ending), { cursor with answers := [] }, fetch)

end Fetch

end StorageClient
