import StorageClient.Fetch.Executor
/-!
# StorageClient.Proofs.Fetch.Ample

Fetches where memory is never short. No header is refused, so a visit of a level, of a row and of
all rows comes to its end, and what is left of a fetch is a loop over the answers of the cursor with
a step that always returns (`Fetch.take`). There is one equation for each function of a fetch that
may be refused memory, up to the loop (`Fetch.drain_eq`).
-/

namespace StorageClient

namespace ResultStore

theorem makeRoom_ample (store : ResultStore) :
    store.makeRoom = store.reserve >>= fun store => pure (.ok (), store) :=
  if_neg fun h => nomatch h.2

theorem storeValue_ample (store : ResultStore) (depth flags : UInt16) (image : Bytes) :
    store.storeValue depth flags image =
      store.pushValue depth flags image >>= fun stored => pure (.ok store.size, stored) := by
  rw [storeValue, makeRoom_ample, pushValue, push, Traced.bind_assoc, Traced.bind_assoc]
  apply Traced.ext <;> simp [Memory.grants, size, headers_reserve]

theorem storeNull_ample (store : ResultStore) (depth flags : UInt16) :
    store.storeNull depth flags =
      store.pushNull depth flags >>= fun store => pure (.ok (), store) := by
  rw [storeNull, makeRoom_ample, pushNull, push, Traced.bind_assoc, Traced.bind_assoc]
  rfl

end ResultStore

namespace Fetch

/-- Stores a copy of the image of a level, unless the same image was stored for it last. -/
def copyRow (level : Nat) (buffer : RowBuffer) (results : ResultStore) :
    Traced (RowBuffer × ResultStore) :=
  if lastImage results buffer = some buffer.data then do
    Traced.count .duplicatesSuppressed
    return (buffer, results)
  else do
    let index := results.size
    let results ← results.pushValue (UInt16.ofNat level) buffer.flags buffer.data
    Traced.count .rowsPushed
    return ({ buffer with lastCopy := some index }, results)

/-- Visits one level of a row. Tells whether the level is NULL. -/
def pushLevel (query : Query) (cells : List Cell) (nulls : List Bool) (buffer : RowBuffer)
    (results : ResultStore) : Traced (Bool × RowBuffer × ResultStore) :=
  let level := nulls.length
  if isHidden query nulls level then return (true, buffer, results)
  else if isRowNull cells level then do
    let results ← results.pushNull (UInt16.ofNat level) buffer.flags
    Traced.count .nullRowsPushed
    return (true, buffer, results)
  else do
    let (buffer, results) ← copyRow level buffer results
    return (false, buffer, results)

/-- Visits the levels of a row after those of `nulls`. -/
def pushLevels (query : Query) (cells : List Cell) (nulls : List Bool) :
    List RowBuffer → ResultStore → Traced (List RowBuffer × ResultStore)
  | [], results => pure ([], results)
  | buffer :: rest, results => do
    let (isNull, buffer, results) ← pushLevel query cells nulls buffer results
    let (rest, results) ← pushLevels query cells (nulls ++ [isNull]) rest results
    return (buffer :: rest, results)

/-- Takes in a row. -/
def pushRow (query : Query) (cells : List Cell) (fetch : Fetch) : Traced Fetch :=
  match fetch with
  | ⟨buffers, results⟩ => do
    let (buffers, results) ← pushLevels query cells [] (writeCells cells buffers) results
    return ⟨buffers, results⟩

/-- Polls the cursor and takes in its answer. -/
def take (query : Query) (fetch : Fetch) (answer : Cursor.Answer) : Traced Fetch := do
  Traced.emit (.cursor .poll)
  match answer with
  | .row cells => pushRow query cells fetch
  | .empty | .panic _ => return fetch

/-! ### Nothing is refused -/

theorem storeImage_ample (level : Nat) (buffer : RowBuffer) (results : ResultStore) :
    storeImage level buffer results =
      copyRow level buffer results >>= fun stored => pure (.ok (), stored) := by
  unfold storeImage copyRow
  split
  · rfl
  · rw [ResultStore.storeValue_ample]
    apply Traced.ext <;> simp

theorem visitLevel_ample (query : Query) (cells : List Cell) (nulls : List Bool)
    (buffer : RowBuffer) (results : ResultStore) :
    visitLevel query cells nulls buffer results =
      pushLevel query cells nulls buffer results >>= fun visited =>
        pure (.ok visited.1, visited.2) := by
  unfold visitLevel pushLevel
  dsimp only
  split
  · rfl
  · split
    · rw [ResultStore.storeNull_ample]
      apply Traced.ext <;> simp
    · rw [storeImage_ample]
      apply Traced.ext <;> simp [Except.map]

theorem visitLevels_ample (query : Query) (cells : List Cell) (buffers : List RowBuffer) :
    ∀ (nulls : List Bool) (results : ResultStore),
      visitLevels query cells nulls buffers results =
        pushLevels query cells nulls buffers results >>= fun visited =>
          pure (.ok (), visited) := by
  induction buffers with
  | nil => exact fun _ _ => rfl
  | cons buffer rest ih =>
    intro nulls results
    rw [visitLevels, visitLevel_ample, pushLevels, Traced.bind_assoc, Traced.bind_assoc]
    apply Traced.ext <;> simp [ih]

theorem takeAnswer_ample (query : Query) (fetch : Fetch) (answer : Cursor.Answer) :
    takeAnswer query fetch answer =
      take query fetch answer >>= fun fetch => pure (.ok (), fetch) := by
  cases answer with
  | row cells =>
    obtain ⟨buffers, results⟩ := fetch
    apply Traced.ext <;> simp [takeAnswer, take, takeRow, pushRow, visitLevels_ample]
  | empty | panic => rfl

theorem foldl_advance (query : Query) (answers : List Cursor.Answer) : ∀ fetch : Fetch,
    Traced.foldl (advance query) (.ok (), fetch) answers =
      Traced.foldl (take query) fetch answers >>= fun fetch => pure (.ok (), fetch) := by
  induction answers with
  | nil => exact fun _ => rfl
  | cons answer rest ih =>
    intro fetch
    have hadvance : advance query (.ok (), fetch) answer = takeAnswer query fetch answer := rfl
    rw [Traced.foldl_cons, Traced.foldl_cons, hadvance, takeAnswer_ample, Traced.bind_assoc,
      Traced.bind_assoc]
    simp only [Traced.pure_bind, ih]

/-- **Where memory is never short**, a drain is the loop over the answers of the cursor, up to its
end or to a panic. -/
theorem drain_eq (query : Query) (cursor : Cursor) (fetch : Fetch) :
    drain query cursor fetch = do
      let fetch ← Traced.foldl (take query) fetch (cursor.answers.takeWhile Cursor.Answer.isCalm)
      Traced.emit (.cursor .poll)
      match cursor.answers.dropWhile Cursor.Answer.isCalm with
      | .panic text :: later => return (.panicked text, { cursor with answers := later }, fetch)
      | _ => return (.returned (outcome cursor.ending), { cursor with answers := [] }, fetch) := by
  rw [drain, foldl_advance, Traced.bind_assoc]
  rfl

end Fetch

end StorageClient
