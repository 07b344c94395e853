import StorageClient.Proofs.Fetch.Reference
import StorageClient.Proofs.Fetch.Start
import StorageClient.Proofs.Tree.Shape
/-!
# StorageClient.Proofs.Fetch.Drain

The loop of a fetch stores what the reference emits.

The loop keeps, for every level, the place of the header it stored last (`RowBuffer.lastCopy`). The
invariant (`Tracks`) says that this place holds a value of the level, and that it is the value
emitted last there; before the first value there is no place. The store only grows at its end, so
the invariant of one level survives whatever is stored for the others (`Tracks.append`).

In a chain a level is hidden exactly if the level before it is NULL. So the first NULL level of a
row hides all levels below it (`pushLevels_hidden`), as the reference stops there.
-/

namespace StorageClient.Fetch

variable {query : Query} {flags : Nat → UInt16} {stored : List Emission}

/-- The place of the last copy of a buffer holds the value emitted last at its level. -/
structure Tracks (flags : Nat → UInt16) (stored : List Emission) (level : Nat)
    (buffer : RowBuffer) : Prop where
  flags : buffer.flags = flags level
  fresh : buffer.lastCopy = none → lastValue level stored = none
  copied : ∀ i, buffer.lastCopy = some i → ∃ image,
    stored[i]? = some (.value level image) ∧ lastValue level stored = some image

/-- All buffers from `level` on are tracked. -/
def AllTrack (flags : Nat → UInt16) (stored : List Emission) (level : Nat)
    (buffers : List RowBuffer) : Prop :=
  ∀ i buffer, buffers[i]? = some buffer → Tracks flags stored (level + i) buffer

/-- A store holds the headers of what was emitted. -/
def Holds (flags : Nat → UInt16) (results : ResultStore) (stored : List Emission) : Prop :=
  results.headers.toList = stored.map (Emission.header flags)

/-! ### The invariant of a buffer -/

/-- What is no value of the level does not matter. -/
theorem Tracks.append {level : Nat} {buffer : RowBuffer} {more : List Emission}
    (h : Tracks flags stored level buffer) (hmore : ∀ e ∈ more, e.valueAt level = none) :
    Tracks flags (stored ++ more) level buffer where
  flags := h.flags
  fresh hnone := by rw [lastValue_append_of_none hmore, h.fresh hnone]
  copied i hi := by
    obtain ⟨image, hstored, hlast⟩ := h.copied i hi
    refine ⟨image, ?_, by rw [lastValue_append_of_none hmore, hlast]⟩
    rw [List.getElem?_append_left (List.getElem?_eq_some_iff.mp hstored).1, hstored]

theorem Tracks.write {level : Nat} {buffer : RowBuffer} (h : Tracks flags stored level buffer)
    (data : Bytes) : Tracks flags stored level { buffer with data } where
  flags := h.flags
  fresh := h.fresh
  copied := h.copied

theorem Tracks.copy {level : Nat} {buffer : RowBuffer} (h : Tracks flags stored level buffer) :
    Tracks flags (stored ++ [.value level buffer.data]) level
      { buffer with lastCopy := some stored.length } where
  flags := h.flags
  fresh hnone := nomatch hnone
  copied i hi := by
    obtain rfl := Option.some.inj hi
    exact ⟨buffer.data, by simp, by rw [lastValue_append]; simp⟩

theorem AllTrack.append {level : Nat} {buffers : List RowBuffer} {more : List Emission}
    (h : AllTrack flags stored level buffers)
    (hmore : ∀ e ∈ more, ∀ l, level ≤ l → e.valueAt l = none) :
    AllTrack flags (stored ++ more) level buffers := fun i buffer hi =>
  (h i buffer hi).append fun e he => hmore e he _ (Nat.le_add_right level i)

theorem AllTrack.head {level : Nat} {buffer : RowBuffer} {rest : List RowBuffer}
    (h : AllTrack flags stored level (buffer :: rest)) : Tracks flags stored level buffer :=
  h 0 buffer rfl

theorem AllTrack.tail {level : Nat} {buffer : RowBuffer} {rest : List RowBuffer}
    (h : AllTrack flags stored level (buffer :: rest)) :
    AllTrack flags stored (level + 1) rest := fun i other hi => by
  have := h (i + 1) other (by rwa [List.getElem?_cons_succ])
  rwa [Nat.add_assoc, Nat.add_comm 1 i]

theorem AllTrack.cons {level : Nat} {buffer : RowBuffer} {rest : List RowBuffer}
    (hb : Tracks flags stored level buffer) (hr : AllTrack flags stored (level + 1) rest) :
    AllTrack flags stored level (buffer :: rest)
  | 0, _, hi => Option.some.inj hi ▸ hb
  | i + 1, other, hi => by
    have := hr i other (by rwa [List.getElem?_cons_succ] at hi)
    rwa [Nat.add_assoc, Nat.add_comm 1 i] at this

/-! ### The store -/

theorem Holds.size {results : ResultStore} (h : Holds flags results stored) :
    results.size = stored.length := by
  rw [ResultStore.size, ← Array.length_toList, h, List.length_map]

theorem Holds.push {results : ResultStore} (h : Holds flags results stored) (e : Emission) :
    Holds flags (results.push (e.header flags)).value (stored ++ [e]) := by
  simp [Holds, ResultStore.headers_push, Array.toList_push, List.map_append, h.symm]

/-- The image stored last for a buffer is the value emitted last at its level. -/
theorem Tracks.lastImage {results : ResultStore} {level : Nat} {buffer : RowBuffer}
    (h : Tracks flags stored level buffer) (hs : Holds flags results stored) :
    lastImage results buffer = lastValue level stored := by
  rw [Fetch.lastImage]
  cases hcopy : buffer.lastCopy with
  | none => rw [h.fresh hcopy]; rfl
  | some i =>
    obtain ⟨image, hstored, hlast⟩ := h.copied i hcopy
    rw [hlast, Option.bind_some, ResultStore.get?, ← Array.getElem?_toList, hs, List.getElem?_map,
      hstored]
    rfl

/-! ### One level -/

/-- In a chain a level is hidden if the level before it is NULL. -/
theorem isHidden_eq (hq : query.IsChain) {nulls : List Bool} (h : nulls.length < query.levels) :
    isHidden query nulls nulls.length = nulls.getLast?.getD false := by
  unfold isHidden
  rcases List.eq_nil_or_concat nulls with rfl | ⟨before, last, rfl⟩
  · simp [hq.parentOf_zero]
  · rw [List.concat_eq_append, List.length_append, List.length_singleton] at *
    simp [hq.parentOf_succ before.length h]

theorem value_copyRow {results : ResultStore} {level : Nat} {buffer : RowBuffer}
    (ht : Tracks flags stored level buffer) (hs : Holds flags results stored) :
    (copyRow level buffer results).value =
      if lastValue level stored = some buffer.data then (buffer, results)
      else ({ buffer with lastCopy := some stored.length },
        (results.push ((Emission.value level buffer.data).header flags)).value) := by
  unfold copyRow
  rw [ht.lastImage hs]
  split
  · rfl
  · simp [ResultStore.pushValue, Emission.header, ht.flags, hs.size]

/-- What becomes of the buffer and the store when a level is visited, by cases. -/
theorem value_pushLevel (hq : query.IsChain) (cells : List Cell) {nulls : List Bool}
    {buffer : RowBuffer} {results : ResultStore} (hlen : nulls.length < query.levels)
    (hs : Holds flags results stored) (ht : Tracks flags stored nulls.length buffer) :
    (pushLevel query cells nulls buffer results).value =
      if nulls.getLast?.getD false = true then (true, buffer, results)
      else if isRowNull cells nulls.length = true then
        (true, buffer, (results.push ((Emission.null nulls.length).header flags)).value)
      else if lastValue nulls.length stored = some buffer.data then (false, buffer, results)
      else (false, { buffer with lastCopy := some stored.length },
        (results.push ((Emission.value nulls.length buffer.data).header flags)).value) := by
  unfold pushLevel
  dsimp only
  rw [isHidden_eq hq hlen]
  split
  · rfl
  · split
    · simp [ResultStore.pushNull, Emission.header, ht.flags]
    · rw [Traced.value_bind, value_copyRow ht hs]
      split <;> rfl

/-- A visit of the levels is a visit of the first, then of the others. -/
theorem value_pushLevels_cons {cells : List Cell} {nulls : List Bool} {buffer buffer' : RowBuffer}
    {rest : List RowBuffer} {results results' : ResultStore} {isNull : Bool}
    (h : (pushLevel query cells nulls buffer results).value = (isNull, buffer', results')) :
    (pushLevels query cells nulls (buffer :: rest) results).value =
      (buffer' :: (pushLevels query cells (nulls ++ [isNull]) rest results').value.1,
        (pushLevels query cells (nulls ++ [isNull]) rest results').value.2) := by
  rw [pushLevels, Traced.value_bind, h]
  rfl

/-! ### One row -/

def images (buffers : List RowBuffer) : List Bytes := buffers.map RowBuffer.data

/-- Below a NULL level nothing is stored. -/
theorem value_pushLevels_of_null (hq : query.IsChain) (cells : List Cell) {results : ResultStore} :
    ∀ (buffers : List RowBuffer) (nulls : List Bool),
      nulls.length + buffers.length ≤ query.levels → nulls.getLast?.getD false = true →
      (pushLevels query cells nulls buffers results).value = (buffers, results) := by
  intro buffers
  induction buffers with
  | nil => intro nulls _ _; rfl
  | cons buffer rest ih =>
    intro nulls hlen hlast
    rw [List.length_cons] at hlen
    have hhidden : isHidden query nulls nulls.length = true := by
      rw [isHidden_eq hq (by omega), hlast]
    have hrest := ih (nulls ++ [true])
      (by rw [List.length_append, List.length_singleton]; omega) (by simp)
    simp [pushLevels, pushLevel, hhidden, hrest]

/-- Visiting the levels of a row from some level on stores what the reference emits for them, and
keeps the buffers tracked. -/
theorem value_pushLevels (hq : query.IsChain) (cells : List Cell) :
    ∀ (buffers : List RowBuffer) (nulls : List Bool) {results : ResultStore}
      {stored : List Emission},
      nulls.length + buffers.length ≤ query.levels → nulls.getLast?.getD false = false →
      Holds flags results stored → AllTrack flags stored nulls.length buffers →
      let new := emission stored nulls.length (present cells nulls.length (images buffers))
      ∃ buffers' results',
        (pushLevels query cells nulls buffers results).value = (buffers', results') ∧
        images buffers' = images buffers ∧ Holds flags results' (stored ++ new) ∧
        AllTrack flags (stored ++ new) nulls.length buffers' := by
  -- By induction on the levels that are left. Every level may add to what is stored, so `stored` is
  -- general, and the buffers below stay tracked because its headers are not theirs.
  intro buffers
  induction buffers with
  | nil =>
    intro nulls results stored _ _ hs _
    exact ⟨[], results, rfl, rfl, by simpa [images, present, emission] using hs,
      fun i buffer hi => nomatch hi⟩
  | cons buffer rest ih =>
    intro nulls results stored hlen hlast hs ht
    rw [List.length_cons] at hlen
    have hnext : ∀ isNull : Bool, (nulls ++ [isNull]).length = nulls.length + 1 := fun isNull => by
      rw [List.length_append, List.length_singleton]
    have hvisit := value_pushLevel hq cells (by omega) hs ht.head
    rw [if_neg (by simp [hlast])] at hvisit
    simp only [images, List.map_cons, present]
    by_cases hnull : isRowNull cells nulls.length = true
    · -- The first NULL level: one header, and all levels below are hidden.
      rw [if_pos hnull] at hvisit
      rw [if_pos hnull, value_pushLevels_cons hvisit,
        value_pushLevels_of_null hq cells rest _ (by rw [hnext]; omega) (by simp)]
      refine ⟨_, _, rfl, rfl, hs.push (.null nulls.length), ht.append fun e he l _ => ?_⟩
      rw [List.mem_singleton.mp he]
      rfl
    rw [if_neg hnull] at hvisit
    rw [if_neg hnull, emission]
    by_cases hsame : lastValue nulls.length stored = some buffer.data
    · -- The image was stored before: nothing changes.
      rw [if_pos hsame] at hvisit
      obtain ⟨rest', results', hrest, himages, hs', ht'⟩ :=
        ih (nulls ++ [false]) (by rw [hnext]; omega) (by simp) hs (by rw [hnext]; exact ht.tail)
      rw [hnext] at hs' ht'
      rw [if_pos hsame, value_pushLevels_cons hvisit, hrest]
      refine ⟨_, _, rfl, congrArg (buffer.data :: ·) himages, hs', AllTrack.cons ?_ ht'⟩
      exact ht.head.append fun e he => valueAt_of_mem_emission he (Nat.lt_succ_self _)
    · -- The image is new: it is copied, which does not matter for the levels below.
      rw [if_neg hsame] at hvisit
      have hbelow : ∀ l, nulls.length + 1 ≤ l →
          ∀ e ∈ [Emission.value nulls.length buffer.data], e.valueAt l = none := by
        intro l hl e he
        rw [List.mem_singleton.mp he]
        exact Emission.valueAt_of_ne (by simp only [Emission.level]; omega)
      obtain ⟨rest', results', hrest, himages, hs', ht'⟩ :=
        ih (nulls ++ [false]) (by rw [hnext]; omega) (by simp)
          (hs.push (.value nulls.length buffer.data))
          (by rw [hnext]; exact ht.tail.append fun e he l hl => hbelow l hl e he)
      rw [hnext, emission_congr fun l hl => lastValue_append_of_none (hbelow l hl),
        List.append_assoc, List.singleton_append] at hs' ht'
      rw [if_neg hsame, value_pushLevels_cons hvisit, hrest]
      refine ⟨_, _, rfl, congrArg (buffer.data :: ·) himages, hs', AllTrack.cons ?_ ht'⟩
      have hcopy := ht.head.copy
      rw [← List.singleton_append, ← List.append_assoc]
      exact hcopy.append fun e he => valueAt_of_mem_emission he (Nat.lt_succ_self _)

/-! ### All rows -/

theorem images_writeCells (cells : List Cell) (buffers : List RowBuffer) :
    images (writeCells cells buffers) = writeImages cells (images buffers) := by
  induction buffers generalizing cells with
  | nil => cases cells <;> rfl
  | cons buffer rest ih =>
    cases cells with
    | nil => rfl
    | cons cell cells => exact congrArg (cell.write.apply buffer.data :: ·) (ih cells)

/-- Writing a row does not change what was stored last. -/
theorem AllTrack.writeCells (cells : List Cell) :
    ∀ {buffers : List RowBuffer} {level : Nat}, AllTrack flags stored level buffers →
      AllTrack flags stored level (writeCells cells buffers) := by
  induction cells with
  | nil => intro buffers level h; cases buffers <;> exact h
  | cons cell cells ih =>
    intro buffers level h
    cases buffers with
    | nil => exact h
    | cons buffer rest => exact .cons (h.head.write _) (ih h.tail)

/-- The fetch is at a point where `stored` was emitted. -/
structure Reached (query : Query) (flags : Nat → UInt16) (stored : List Emission)
    (fetch : Fetch) : Prop where
  length_buffers : fetch.buffers.length = query.levels
  holds : Holds flags fetch.results stored
  track : AllTrack flags stored 0 fetch.buffers

/-- A row is taken in as the reference says. -/
theorem Reached.pushRow (hq : query.IsChain) {fetch : Fetch} (h : Reached query flags stored fetch)
    (cells : List Cell) :
    let written := writeImages cells (images fetch.buffers)
    Reached query flags (stored ++ emission stored 0 (present cells 0 written))
        (Fetch.pushRow query cells fetch).value ∧
      images (Fetch.pushRow query cells fetch).value.buffers = written := by
  obtain ⟨hlength, hs, ht⟩ := h
  obtain ⟨buffers, results⟩ := fetch
  have hwritten := images_writeCells cells buffers
  have hlength' : (writeCells cells buffers).length = query.levels := by
    rw [← hlength, ← List.length_map RowBuffer.data, ← List.length_map RowBuffer.data]
    exact (congrArg List.length hwritten).trans (length_writeImages cells _)
  obtain ⟨buffers', results', hvisit, himages, hs', ht'⟩ :=
    value_pushLevels hq cells (writeCells cells buffers) []
      (by rw [hlength', List.length_nil, Nat.zero_add]) rfl hs (ht.writeCells cells)
  rw [hwritten] at himages hs' ht'
  have hvalue : (Fetch.pushRow query cells ⟨buffers, results⟩).value = ⟨buffers', results'⟩ := by
    rw [Fetch.pushRow, Traced.value_bind, hvisit]
    rfl
  dsimp only
  rw [hvalue]
  refine ⟨⟨?_, hs', ht'⟩, himages⟩
  have := congrArg List.length himages
  rwa [images, List.length_map, length_writeImages, images, List.length_map, hlength] at this

/-- **The loop refines the reference.** From a point where `stored` was emitted, the answers of a
cursor lead to a point where the reference emission of the presented rows was emitted too. -/
theorem Reached.foldl (hq : query.IsChain) (answers : List Cursor.Answer) :
    ∀ {fetch : Fetch} {stored : List Emission}, Reached query flags stored fetch →
      Reached query flags (stored ++ emissions stored (rows (images fetch.buffers) answers))
        (Traced.foldl (take query) fetch answers).value := by
  induction answers with
  | nil => intro fetch stored h; simpa [rows, emissions] using h
  | cons answer rest ih =>
    intro fetch stored h
    rw [Traced.foldl_cons, Traced.value_bind]
    cases answer with
    | empty => exact ih h
    | panic text => exact ih h
    | row cells =>
      obtain ⟨hrow, himages⟩ := h.pushRow hq cells
      have := ih hrow
      rw [himages, List.append_assoc] at this
      exact this

def flagsOf (buffers : List RowBuffer) (level : Nat) : UInt16 :=
  (buffers[level]?.map RowBuffer.flags).getD 0

end StorageClient.Fetch

namespace StorageClient.Executor

/-- Before anything was stored, nothing was emitted. -/
theorem Unused.reached {query : Query} {executor : Executor} (h : Unused query executor) :
    Fetch.Reached query (Fetch.flagsOf executor.fetch.buffers) [] executor.fetch where
  length_buffers := h.length_buffers
  holds := by
    have hempty : executor.fetch.results.headers = #[] := h.headers
    rw [Fetch.Holds, hempty]
    rfl
  track i buffer hi := {
    flags := by simp [Fetch.flagsOf, hi]
    fresh := fun _ => rfl
    copied := fun j hj => by
      rw [(h.fresh buffer (List.mem_of_getElem? hi)).lastCopy] at hj
      exact nomatch hj }

/-- The rows an executor is presented with by a cursor. -/
def presented (executor : Executor) (cursor : Cursor) : List Fetch.Row :=
  Fetch.rows (Fetch.images executor.fetch.buffers) cursor.answers

/-- After the fetch of a started executor the reference emission of the presented rows is stored,
however the cursor ends. -/
theorem Started.holds {query : Query} {cursor : Cursor} {executor : Executor}
    (hq : query.IsChain) (hs : executor.Started query cursor)
    (hcalm : ∀ answer ∈ cursor.answers, answer.isCalm = true) :
    Fetch.Holds (Fetch.flagsOf executor.fetch.buffers) (fetchAll executor).value.2.results
      (Fetch.emissions [] (executor.presented cursor)) := by
  rw [value_fetchAll hs.1 hcalm, hs.unused.query_eq]
  exact (hs.unused.reached.foldl hq cursor.answers).holds

theorem Started.length_of_mem_rows {query : Query} {cursor : Cursor} {executor : Executor}
    (hs : executor.Started query cursor) {row : Fetch.Row}
    (h : row ∈ executor.presented cursor) : row.length = query.levels := by
  rw [Fetch.length_of_mem_rows h, Fetch.images, List.length_map, hs.unused.length_buffers]

/-- **A fetch stores the reference emission.** For every prepared query, every executor that was
started with a cursor, and all answers and both endings of the cursor, the headers stored by the
fetch are those the reference emits for the presented rows, each with its level as depth; and the
fetch yields their number or the error of the cursor. -/
theorem headers_fetchAll {query : Query} {cursor : Cursor} {executor : Executor}
    (hq : query.Prepared) (hs : executor.Started query cursor)
    (hcalm : ∀ answer ∈ cursor.answers, answer.isCalm = true) :
    let flags := Fetch.flagsOf executor.fetch.buffers
    let emitted := Fetch.emissions [] (executor.presented cursor)
    (fetchAll executor).value.1 =
        .returned ((Fetch.outcome cursor.ending).map fun () => emitted.length) ∧
      (fetchAll executor).value.2.results.headers.toList =
        emitted.map (Fetch.Emission.header flags) ∧
      (∀ row ∈ executor.presented cursor, row.length = query.levels) ∧
      ∀ e ∈ emitted, e.level < query.levels ∧ (e.header flags).depth.toNat = e.level := by
  have hholds := hs.holds hq.isChain hcalm
  refine ⟨?_, hholds, fun row => hs.length_of_mem_rows, fun e he => ?_⟩
  · rw [← hholds.size, value_fetchAll hs.1 hcalm]
    rfl
  · have hlevel := Fetch.level_of_mem_emissions (fun row => hs.length_of_mem_rows) he
    exact ⟨hlevel, Fetch.depth_header (Nat.lt_trans hlevel hq.levels_lt_size)⟩

/-- A customer with two orders, a row without a customer, and an error after another customer. -/
theorem headers_fetchAll_orders :
    let cursor : Cursor :=
      ⟨[orderRow (some 1) (some 10), .empty, orderRow (some 1) (some 11), orderRow none (some 11),
        orderRow (some 2) (some 11)], .failed none⟩
    ordersQuery.Prepared ∧ (ordersExecutor cursor).Started ordersQuery cursor ∧
      (∀ answer ∈ cursor.answers, answer.isCalm = true) ∧
      (fetchAll (ordersExecutor cursor)).value.2.results.headers.toList =
        [.value 0 0 [1], .value 1 0 [10], .value 1 0 [11], .null 0 0, .value 0 0 [2]] := by
  intro cursor
  have hcalm : ∀ answer ∈ cursor.answers, answer.isCalm = true := by decide
  exact ⟨prepared_ordersQuery, started_ordersExecutor cursor, hcalm,
    (headers_fetchAll prepared_ordersQuery (started_ordersExecutor cursor) hcalm).2.1⟩

end StorageClient.Executor
