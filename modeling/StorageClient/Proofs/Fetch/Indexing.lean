import StorageClient.Proofs.Chain.Acceptance
import StorageClient.Proofs.Fetch.Accounts
import StorageClient.Proofs.Tree.Indexing
/-!
# StorageClient.Proofs.Fetch.Indexing

A fetch never indexes out of range.

An executor keeps one list of NULL marks for all of its rows. When a level is visited, the mark of
its parent is read and its own is written, while the marks of later levels are still those of the
row before. So the marks that `Fetch.pushLevels` has gathered are a prefix of that list, and the
parent of a level has to be in the prefix. In a finalized tree it is the level before.

The buffers are visited in place as well. There are as many of them as levels, since a cursor writes
into the buffers and no call adds or removes one (`Executor.Accounted`).
-/

namespace StorageClient

open Indexed (nth put narrow)

namespace Fetch

variable {query : Query}

/-! ### The levels of a row -/

/-- `isHidden` with the mark of the parent taken as given. -/
def isHiddenAt (query : Query) (marks : List Bool) (level : Nat) : Indexed Bool :=
  match query.parentOf level with
  | some parent => nth marks parent
  | none => return false

/-- Visits a level in place, with bare indices and a cast that has to keep the level. -/
def pushLevelAt (query : Query) (cells : List Cell) (state : List Bool × Fetch) (level : Nat) :
    Indexed (List Bool × Fetch) := do
  let (marks, ⟨buffers, results⟩) := state
  if ← isHiddenAt query marks level then
    return (← put marks level true, ⟨buffers, results⟩)
  else
    let marks ← put marks level (isRowNull cells level)
    let depth ← narrow level
    let buffer ← nth buffers level
    if isRowNull cells level then
      let results ← results.pushNull depth buffer.flags
      Traced.count .nullRowsPushed
      return (marks, ⟨buffers, results⟩)
    else
      let (buffer, results) ← copyRow level buffer results
      return (marks, ⟨← put buffers level buffer, results⟩)

/-- `pushRow` in place, level by level. -/
def pushRowAt (query : Query) (cells : List Cell) (state : List Bool × Fetch) :
    Indexed (List Bool × Fetch) :=
  (List.range' 0 state.2.buffers.length).foldlM (pushLevelAt query cells)
    (state.1, ⟨writeCells cells state.2.buffers, state.2.results⟩)

/-- Every level is joined to one before it. -/
def JoinedBackward (query : Query) : Prop :=
  ∀ level parent, query.parentOf level = some parent → parent < level

theorem joinedBackward (h : query.IsChain) : JoinedBackward query := by
  intro level parent hjoined
  cases level with
  | zero => exact nomatch h.parentOf_zero.symm.trans hjoined
  | succ level =>
    by_cases hlevel : level + 1 < query.levels
    · obtain rfl := Option.some.inj ((h.parentOf_succ level hlevel).symm.trans hjoined)
      exact Nat.lt_succ_self _
    · have hnone : query.nodes[level + 1]? = none :=
        List.getElem?_eq_none (Nat.le_of_not_lt hlevel)
      simp [Query.parentOf, Query.node?, hnone] at hjoined

/-- The mark of a parent is in the prefix that was written for this row. -/
theorem isHiddenAt_eq (hbackward : JoinedBackward query) (marks stale : List Bool) :
    isHiddenAt query (marks ++ stale) marks.length =
      pure (isHidden query marks marks.length) := by
  unfold isHiddenAt isHidden
  cases hjoined : query.parentOf marks.length with
  | none => rfl
  | some parent =>
    have hbefore := hbackward _ _ hjoined
    have hmark : (marks ++ stale)[parent]? = some marks[parent] := by
      rw [List.getElem?_append_left hbefore, List.getElem?_eq_getElem hbefore]
    dsimp only
    rw [Indexed.nth_of_some hmark, List.getElem?_eq_getElem hbefore]
    rfl

theorem put_append {α : Type} (before : List α) (old new : α) (after : List α) :
    put (before ++ old :: after) before.length new = pure (before ++ new :: after) := by
  rw [Indexed.put_of_lt (by simp)]
  simp

theorem nth_append {α : Type} (before : List α) (thing : α) (after : List α) :
    nth (before ++ thing :: after) before.length = pure thing :=
  Indexed.nth_of_some (by simp)

/-- Visiting a level in place is visiting it. -/
theorem pushLevelAt_eq (hbackward : JoinedBackward query) (cells : List Cell)
    (marks stale : List Bool) (old : Bool) (visited rest : List RowBuffer) (buffer : RowBuffer)
    (results : ResultStore) (hsame : visited.length = marks.length)
    (hfits : marks.length < UInt16.size) :
    pushLevelAt query cells (marks ++ old :: stale, ⟨visited ++ buffer :: rest, results⟩)
        marks.length =
      liftM (do
        let (isNull, buffer, results) ← pushLevel query cells marks buffer results
        return (marks ++ isNull :: stale, (⟨visited ++ buffer :: rest, results⟩ : Fetch))) := by
  have hbuffer := nth_append visited buffer rest
  have hwrite := fun new => put_append visited buffer new rest
  rw [hsame] at hbuffer
  simp only [hsame] at hwrite
  simp only [pushLevelAt, isHiddenAt_eq hbackward, pure_bind, put_append, pushLevel]
  by_cases hhidden : isHidden query marks marks.length = true
  · simp only [if_pos hhidden, pure_bind]
    rfl
  · simp only [if_neg hhidden, Indexed.narrow_of_lt hfits, hbuffer, pure_bind, hwrite]
    cases isRowNull cells marks.length <;>
      simp only [if_true, Bool.false_eq_true, if_false, bind_assoc, pure_bind, ← Indexed.bind_eq,
        Indexed.pure_eq]

/-- Visiting in place the levels that are left is visiting them. Of the marks of the row before, all
are overwritten. -/
theorem foldlM_pushLevelAt (hbackward : JoinedBackward query) (cells : List Cell)
    (rest : List RowBuffer) : ∀ (marks stale : List Bool) (visited : List RowBuffer)
      (results : ResultStore), visited.length = marks.length → stale.length = rest.length →
      marks.length + rest.length ≤ UInt16.size →
    ∃ after : List Bool, after.length = (marks ++ stale).length ∧
      (List.range' marks.length rest.length).foldlM (pushLevelAt query cells)
          (marks ++ stale, ⟨visited ++ rest, results⟩) =
        liftM (do
          let (rest, results) ← pushLevels query cells marks rest results
          return (after, (⟨visited ++ rest, results⟩ : Fetch))) := by
  induction rest with
  | nil =>
    intro marks stale visited results hsame hstale hfits
    exact ⟨marks ++ stale, rfl, rfl⟩
  | cons buffer rest ih =>
    intro marks stale visited results hsame hstale hfits
    obtain ⟨old, stale, rfl⟩ : ∃ old later, stale = old :: later :=
      List.exists_cons_of_length_eq_add_one hstale
    rw [List.length_cons] at hfits
    -- What the level becomes, and the marks after the levels below it.
    let visit := pushLevel query cells marks buffer results
    obtain ⟨after, hlength, hloop⟩ := ih (marks ++ [visit.value.1]) stale
      (visited ++ [visit.value.2.1]) visit.value.2.2 (by simp [hsame])
      (by simpa using hstale) (by rw [List.length_append, List.length_singleton]; omega)
    refine ⟨after, by simpa using hlength, ?_⟩
    rw [List.length_cons, List.range'_succ, List.foldlM_cons,
      pushLevelAt_eq hbackward cells marks stale old visited rest buffer results hsame (by omega)]
    rw [List.length_append, List.length_singleton, List.append_assoc, List.append_assoc] at hloop
    refine (Indexed.bind_of_value hloop).trans (congrArg liftM ?_)
    rw [pushLevels]
    refine Traced.ext ?_ ?_ <;> simp [visit]

/-! ### All rows -/

/-- Taking in a row in place is taking it in. -/
theorem pushRowAt_eq (hbackward : JoinedBackward query) (cells : List Cell) (marks : List Bool)
    (fetch : Fetch) (hsame : marks.length = fetch.buffers.length)
    (hfits : fetch.buffers.length ≤ UInt16.size) :
    ∃ after : List Bool, after.length = marks.length ∧
      pushRowAt query cells (marks, fetch) = liftM (do
        let fetch ← pushRow query cells fetch
        return (after, fetch)) := by
  obtain ⟨buffers, results⟩ := fetch
  have hlength := length_writeCells cells buffers
  obtain ⟨after, hkept, hloop⟩ := foldlM_pushLevelAt hbackward cells (writeCells cells buffers) []
    marks [] results rfl (hsame.trans hlength.symm) (by simpa [hlength] using hfits)
  rw [hlength] at hloop
  exact ⟨after, hkept, hloop.trans (congrArg liftM (Traced.ext rfl (by simp [pushRow])))⟩

/-- `take` in place. -/
def takeAt (query : Query) (state : List Bool × Fetch) (answer : Cursor.Answer) :
    Indexed (List Bool × Fetch) := do
  Traced.emit (.cursor .poll)
  match answer with
  | .row cells => pushRowAt query cells state
  | .empty | .panic _ => return state

/-- `drain` in place. -/
def drainAt (query : Query) (cursor : Cursor) (state : List Bool × Fetch) :
    Indexed (Answer (Except FetchError Unit) × Cursor × List Bool × Fetch) := do
  let (marks, fetch) ← (cursor.answers.takeWhile Cursor.Answer.isCalm).foldlM (takeAt query) state
  Traced.emit (.cursor .poll)
  match cursor.answers.dropWhile Cursor.Answer.isCalm with
  | .panic text :: later =>
    return (.panicked text, { cursor with answers := later }, marks, fetch)
  | _ => return (.returned (outcome cursor.ending), { cursor with answers := [] }, marks, fetch)

/-- Marks and buffers for all levels of a chain, whose levels fit into the depth of a header. -/
structure InRange (query : Query) (marks : List Bool) (fetch : Fetch) : Prop where
  chain : query.IsChain
  levels_lt : query.levels < UInt16.size
  length_marks : marks.length = query.levels
  length_buffers : fetch.buffers.length = query.levels

theorem InRange.take {marks : List Bool} {fetch : Fetch} (h : InRange query marks fetch)
    (answer : Cursor.Answer) :
    ∃ after : List Bool, InRange query after (take query fetch answer).value ∧
      takeAt query (marks, fetch) answer = liftM (do
        let fetch ← Fetch.take query fetch answer
        return (after, fetch)) := by
  have hlength := (took_take h.chain h.length_buffers answer).length_buffers.trans h.length_buffers
  cases answer with
  | empty | panic => exact ⟨marks, ⟨h.chain, h.levels_lt, h.length_marks, hlength⟩, rfl⟩
  | row cells =>
    obtain ⟨after, hkept, hrow⟩ := pushRowAt_eq (joinedBackward h.chain) cells marks fetch
      (h.length_marks.trans h.length_buffers.symm) (h.length_buffers ▸ Nat.le_of_lt h.levels_lt)
    refine ⟨after, ⟨h.chain, h.levels_lt, hkept.trans h.length_marks, hlength⟩, ?_⟩
    exact (Indexed.bind_of_value hrow).trans
      (congrArg liftM (Traced.ext rfl (by simp [Fetch.take])))

theorem InRange.foldl {marks : List Bool} {fetch : Fetch} (h : InRange query marks fetch)
    (answers : List Cursor.Answer) :
    ∃ after : List Bool, InRange query after (Traced.foldl (Fetch.take query) fetch answers).value ∧
      answers.foldlM (takeAt query) (marks, fetch) = liftM (do
        let fetch ← Traced.foldl (Fetch.take query) fetch answers
        return (after, fetch)) := by
  induction answers generalizing marks fetch with
  | nil => exact ⟨marks, h, rfl⟩
  | cons answer answers ih =>
    obtain ⟨between, hrange, hfirst⟩ := h.take answer
    obtain ⟨after, hrange, hrest⟩ := ih hrange
    rw [Traced.foldl_cons]
    refine ⟨after, hrange, ?_⟩
    rw [List.foldlM_cons, hfirst]
    exact (Indexed.bind_of_value hrest).trans (congrArg liftM (Traced.ext rfl (by simp)))

/-- Draining a cursor in place is draining it, and there are marks for all levels afterwards. -/
theorem InRange.drain {marks : List Bool} {fetch : Fetch} (h : InRange query marks fetch)
    (cursor : Cursor) :
    ∃ after : List Bool, InRange query after (drain query cursor fetch).value.2.2 ∧
      drainAt query cursor (marks, fetch) = liftM (do
        let (answer, cursor, fetch) ← Fetch.drain query cursor fetch
        return (answer, cursor, after, fetch)) := by
  obtain ⟨after, hrange, hloop⟩ := h.foldl (cursor.answers.takeWhile Cursor.Answer.isCalm)
  refine ⟨after, fetch_drain query cursor fetch ▸ hrange, ?_⟩
  rw [drainAt, hloop, drain_eq]
  cases cursor.answers.dropWhile Cursor.Answer.isCalm with
  | nil => refine Indexed.eq_liftM ?_ ?_ <;> simp [OptionT.run_bind]
  | cons answer later =>
    cases answer <;> refine Indexed.eq_liftM ?_ ?_ <;> simp [OptionT.run_bind]

end Fetch

namespace Executor

/-- `drainCursor` in place. -/
def drainCursorAt (marks : List Bool) (executor : Executor) :
    Indexed (Answer (Except FetchError Unit) × List Bool × Executor) :=
  match executor with
  | ⟨query, fetch, .fetching (some cursor), abort, send⟩ => do
    let (answer, cursor, marks, fetch) ← Fetch.drainAt query cursor (marks, fetch)
    return (answer, marks, ⟨query, fetch, .fetching (some cursor), abort, send⟩)
  | executor =>
    return (.returned (.error (.illegalState "cursor detached during fetch")), marks, executor)

theorem drainCursorAt_eq {query : Query} {marks : List Bool} (executor : Executor)
    (hquery : executor.query = query) (h : Fetch.InRange query marks executor.fetch) :
    ∃ after : List Bool, Fetch.InRange query after (drainCursor executor).value.2.fetch ∧
      drainCursorAt marks executor = liftM (do
        let (answer, executor) ← drainCursor executor
        return (answer, after, executor)) := by
  obtain ⟨query, fetch, phase, abort, send⟩ := executor
  obtain rfl := hquery
  match phase with
  | .fetching (some cursor) =>
    obtain ⟨after, hrange, hdrained⟩ := h.drain cursor
    refine ⟨after, hrange, ?_⟩
    rw [drainCursorAt, hdrained]
    refine Indexed.eq_liftM ?_ ?_ <;> simp [drainCursor, Traced.bind]
  | .notStarted | .fetching none | .drained | .failed _ => exact ⟨marks, h, rfl⟩

variable {σ : Type} [Engine σ]

/-- Whatever calls were made on an executor of a finalized tree, it has a buffer for every level. -/
theorem inRange_play {query : Query} (hq : query.Prepared) (config : Config)
    (requests : List (Request σ)) {marks : List Bool} (hlength : marks.length = query.levels) :
    (play (Executor.new query config) requests).value.query = query ∧
      Fetch.InRange query marks (play (Executor.new query config) requests).value.fetch := by
  have hplayed := (accounted_new query config).play hq.isChain requests
  exact ⟨hplayed.query_eq,
    { chain := hq.isChain
      levels_lt := hq.levels_lt_size
      length_marks := hlength
      length_buffers := hplayed.length_buffers }⟩

/-- **No index is out of range.** Definitions on any builder with any operands, the end of a tree,
and the compilation of any chain can be done with bare indices; what a chain is compiled into is a
tree that is defined and finalized. And take an executor of any such tree, after any calls and in
any phase, and marks for all levels: it can drain its cursor with bare indices, whatever the cursor
answers, and has marks for all levels then. The levels of such a tree are numbers of sixteen
bits. -/
theorem indices_in_range :
    (∀ (builder : Builder) index table operands,
      builder.defineAt index table operands = liftM (builder.define index table operands)) ∧
    (∀ (builder : Builder) root id, builder.prepareAt root id = liftM (builder.prepare root id)) ∧
    (∀ (chain : Chain) id, chain.compileAt id = liftM (chain.compile id)) ∧
    (∀ (chain : Chain) id query, (chain.compile id).value = .ok query → query.Prepared) ∧
    ∀ query : Query, query.Prepared →
      query.nodes[0]? = some query.root ∧
      (∀ level < query.levels, (UInt16.ofNat level).toNat = level) ∧
      ∀ (config : Config) (requests : List (Request σ)) (phase : Phase)
        (marks : List Bool), marks.length = query.levels →
        let executor := { (play (Executor.new query config) requests).value with phase }
        ∃ after : List Bool, after.length = query.levels ∧
          executor.drainCursorAt marks = liftM (do
            let (answer, executor) ← executor.drainCursor
            return (answer, after, executor)) := by
  refine ⟨Builder.defineAt_eq, Builder.prepareAt_eq, Chain.compileAt_eq,
    fun _ _ _ => Chain.prepared_of_compile, fun query hq => ⟨rfl, fun level hlevel => ?_, ?_⟩⟩
  · exact UInt16.toNat_ofNat_of_lt (Nat.lt_trans hlevel hq.levels_lt_size)
  · intro config requests phase marks hlength
    obtain ⟨hquery, hrange⟩ := inRange_play hq config requests hlength
    obtain ⟨after, hrange, hdrained⟩ := drainCursorAt_eq
      { (play (Executor.new query config) requests).value with phase } hquery hrange
    exact ⟨after, hrange.length_marks, hdrained⟩

/-- A customer whose order is NULL, after a row that left other marks. -/
theorem indices_in_range_orders :
    let cursor : Cursor := ⟨[orderRow (some 1) none, orderRow none (some 2)], .complete⟩
    let executor := (play (Executor.new ordersQuery Config.default)
      [.createQuery (SharedTransaction.new "tx" (engineWith cursor))]).value
    ordersQuery.Prepared ∧ executor.phase = .fetching (some cursor) ∧
      ∃ after : List Bool, after.length = 2 ∧ executor.drainCursorAt [true, true] = liftM (do
        let (answer, executor) ← executor.drainCursor
        return (answer, after, executor)) := by
  intro cursor executor
  have hphase : executor.phase = .fetching (some cursor) := by decide +kernel
  obtain ⟨-, -, -, -, hfetches⟩ := @indices_in_range Playback _
  obtain ⟨-, -, hdrains⟩ := hfetches ordersQuery prepared_ordersQuery
  exact ⟨prepared_ordersQuery, hphase, hdrains Config.default
    [.createQuery (SharedTransaction.new "tx" (engineWith cursor))] executor.phase [true, true] rfl⟩

end Executor

end StorageClient
