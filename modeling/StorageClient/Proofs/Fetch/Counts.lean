import Mathlib.Algebra.Ring.Nat
import StorageClient.Proofs.Fetch.Levels
import StorageClient.Proofs.Fetch.Steps
/-!
# StorageClient.Proofs.Fetch.Counts

What is counted while rows are taken in.

* Every header that is stored is counted as a value or as a NULL, and every time the store finds
  itself full it doubles its room and counts that (`ResultStore.Counted`).
* A level that is visited is counted as a value, as a NULL or as a duplicate, unless it lies below a
  NULL of its row. Then nothing is counted (`Fetch.visits_pushLevels`).

So the counts and the levels below a NULL add up to rows times levels (`Fetch.Took`). The levels of
a row can be told apart like that because a prepared query is a chain: a level is hidden exactly if
some level above it is NULL, not only its parent.
-/

namespace StorageClient

open Effect (total)

namespace Cursor.Answer

/-- The cells of a row. -/
def row? : Answer → Option (List Cell)
  | .row cells => some cells
  | _ => none

end Cursor.Answer

/-! ### Views of effects -/

namespace Effect

def isPoll : Effect → Bool
  | .cursor .poll => true
  | _ => false

/-- How many times a cursor was polled. -/
def polls (effects : List Effect) : Nat := effects.countP isPoll

/-- The cursor that an engine made. -/
def newCursor? : Effect → Option Cursor
  | .transaction (.createQuery _ (.returned (.ok made))) => some made
  | _ => none

/-- The first cursor that was made. -/
def cursor? (effects : List Effect) : Option Cursor := effects.findSome? newCursor?

/-- How many levels were counted, whether stored or passed over as duplicates. -/
def visits (effects : List Effect) : Nat :=
  total .rowsPushed effects + total .nullRowsPushed effects + total .duplicatesSuppressed effects

@[simp] theorem polls_append (a b : List Effect) : polls (a ++ b) = polls a + polls b :=
  List.countP_append

@[simp] theorem cursor?_append (a b : List Effect) :
    cursor? (a ++ b) = (cursor? a).or (cursor? b) :=
  List.findSome?_append

@[simp] theorem visits_append (a b : List Effect) : visits (a ++ b) = visits a + visits b := by
  simp only [visits, total_append]
  omega

@[simp] theorem polls_acts (effects : List Effect) : polls (acts effects) = polls effects := by
  rw [polls, polls, acts, List.countP_filter]
  refine List.countP_congr fun effect _ => ?_
  cases effect <;> simp [isPoll, isLine]

@[simp] theorem cursor?_acts (effects : List Effect) :
    cursor? (acts effects) = cursor? effects := by
  induction effects with
  | nil => rfl
  | cons effect rest ih =>
    unfold cursor? at ih ⊢
    cases effect <;> simp [List.findSome?_cons, newCursor?, ih]

/-- Storing rows neither polls a cursor nor makes one, and counts no query. -/
theorem not_counted_of_storing {effects : List Effect}
    (h : ∀ effect ∈ effects, effect.Storing) :
    polls effects = 0 ∧ cursor? effects = none ∧ total .queriesExecuted effects = 0 ∧
      total .queriesFailed effects = 0 := by
  induction effects with
  | nil => exact ⟨rfl, rfl, rfl, rfl⟩
  | cons effect rest ih =>
    obtain ⟨heffect, hrest⟩ := List.forall_mem_cons.mp h
    obtain ⟨hpolls, hcursor, hexecuted, hfailed⟩ := ih hrest
    cases effect with
    | line => exact ⟨hpolls, hcursor, by simpa [growth], by simpa [growth]⟩
    | count counter amount =>
      refine ⟨hpolls, hcursor, ?_, ?_⟩ <;> cases counter <;> simp_all [growth, Storing, isStoring]
    | transaction => cases heffect
    | cursor => cases heffect

end Effect

/-! ### The store -/

namespace ResultStore

/-- How many headers have, or had, an image. -/
def values (store : ResultStore) : Nat := store.headers.toList.countP fun header => !header.isNull

/-- How many headers are NULL. -/
def nulls (store : ResultStore) : Nat := store.headers.toList.countP Header.isNull

/-- A store grew as was counted. -/
structure Counted (before after : ResultStore) (effects : List Effect) : Prop where
  values : after.values = before.values + total .rowsPushed effects
  nulls : after.nulls = before.nulls + total .nullRowsPushed effects
  capacity : after.capacity = before.capacity * 2 ^ total .headerGrowths effects

theorem Counted.refl (store : ResultStore) : Counted store store [] := ⟨rfl, rfl, by simp⟩

theorem Counted.trans {first second third : ResultStore} {effects more : List Effect}
    (h : Counted first second effects) (hmore : Counted second third more) :
    Counted first third (effects ++ more) where
  values := by rw [hmore.values, h.values, Effect.total_append, Nat.add_assoc]
  nulls := by rw [hmore.nulls, h.nulls, Effect.total_append, Nat.add_assoc]
  capacity := by
    rw [hmore.capacity, h.capacity, Effect.total_append, Nat.pow_add, Nat.mul_assoc]

/-- A push counts nothing but the growth of the store. -/
theorem total_push {counter : Counter} (h : counter ≠ .headerGrowths) (store : ResultStore)
    (header : Header) : total counter (store.push header).effects = 0 := by
  unfold push reserve
  split <;> simp [Effect.growth, h.symm]

theorem capacity_push (store : ResultStore) (header : Header) :
    (store.push header).value.capacity =
      store.capacity * 2 ^ total .headerGrowths (store.push header).effects := by
  unfold push reserve
  split <;> simp [Effect.growth]

theorem counted_pushValue (store : ResultStore) (depth flags : UInt16) (image : Bytes) :
    store.Counted (store.pushValue depth flags image).value
      ((store.pushValue depth flags image).effects ++ [.count .rowsPushed 1]) := by
  refine ⟨?_, ?_, ?_⟩
  · simp [pushValue, values, Effect.growth, total_push]
  · simp [pushValue, nulls, Effect.growth, total_push]
  · simp [pushValue, Effect.growth, capacity_push]

theorem counted_pushNull (store : ResultStore) (depth flags : UInt16) :
    store.Counted (store.pushNull depth flags).value
      ((store.pushNull depth flags).effects ++ [.count .nullRowsPushed 1]) := by
  refine ⟨?_, ?_, ?_⟩
  · simp [pushNull, values, Effect.growth, total_push]
  · simp [pushNull, nulls, Effect.growth, total_push]
  · simp [pushNull, Effect.growth, capacity_push]

/-- Taking an image leaves the header, and what it counts as. -/
theorem countP_takeData (store : ResultStore) (index : Nat) {p : Header → Bool}
    (hp : ∀ header : Header, p { header with data := none } = p header) :
    (store.takeData index).2.headers.toList.countP p = store.headers.toList.countP p := by
  have hmodify : ∀ (headers : List Header) (index : Nat),
      (headers.modify index fun header => { header with data := none }).countP p =
        headers.countP p := by
    intro headers
    induction headers with
    | nil => intro index; cases index <;> rfl
    | cons header rest ih =>
      intro index
      cases index with
      | zero => simp [List.countP_cons, hp]
      | succ index => simp [List.countP_cons, ih]
  rw [takeData, Array.toList_modify]
  exact hmodify _ _

end ResultStore

namespace Fetch

open Effect (visits polls cursor? Storing)

variable {query : Query} {cells : List Cell}

/-! ### One level -/

/-- Whether a level of a row lies below a NULL. -/
def isBelowNull (cells : List Cell) (level : Nat) : Bool :=
  (List.range level).any (isRowNull cells)

theorem isBelowNull_succ (cells : List Cell) (level : Nat) :
    isBelowNull cells (level + 1) = (isBelowNull cells level || isRowNull cells level) := by
  simp [isBelowNull, List.range_succ]

theorem counted_copyRow (level : Nat) (buffer : RowBuffer) (results : ResultStore) :
    results.Counted (copyRow level buffer results).value.2 (copyRow level buffer results).effects ∧
      visits (copyRow level buffer results).effects = 1 := by
  unfold copyRow
  split
  · refine ⟨⟨?_, ?_, ?_⟩, ?_⟩ <;> simp [visits, Effect.growth]
  · have hcounted := results.counted_pushValue (UInt16.ofNat level) buffer.flags buffer.data
    refine ⟨by simpa using hcounted, ?_⟩
    simp [visits, Effect.growth, ResultStore.pushValue, ResultStore.total_push]

/-- What visiting a level counts, where the levels before are NULL exactly if they should be. -/
theorem counted_pushLevel (hq : query.IsChain) {nulls : List Bool} (buffer : RowBuffer)
    (results : ResultStore) (hlevel : nulls.length < query.levels)
    (hnulls : nulls.getLast?.getD false = isBelowNull cells nulls.length) :
    let visit := pushLevel query cells nulls buffer results
    results.Counted visit.value.2.2 visit.effects ∧
      visits visit.effects + (if isBelowNull cells nulls.length then 1 else 0) = 1 ∧
      visit.value.1 = isBelowNull cells (nulls.length + 1) := by
  dsimp only
  unfold pushLevel
  dsimp only
  rw [isHidden_eq hq hlevel, hnulls, isBelowNull_succ]
  cases hbelow : isBelowNull cells nulls.length with
  | true => exact ⟨.refl results, rfl, rfl⟩
  | false =>
    cases hnull : isRowNull cells nulls.length with
    | true =>
      have hcounted := results.counted_pushNull (UInt16.ofNat nulls.length) buffer.flags
      refine ⟨by simpa using hcounted, ?_, rfl⟩
      simp [visits, Effect.growth, ResultStore.pushNull, ResultStore.total_push]
    | false =>
      have hcopy := counted_copyRow nulls.length buffer results
      exact ⟨by simpa using hcopy.1, by simpa using hcopy.2, rfl⟩

theorem storing_pushLevels (query : Query) (cells : List Cell) (nulls : List Bool)
    (buffers : List RowBuffer) (results : ResultStore) :
    (pushLevels query cells nulls buffers results).Emits Storing := by
  have hstoring := storing_visitLevels query cells buffers nulls results
  rw [visitLevels_ample] at hstoring
  exact fun effect hmem => hstoring effect (List.mem_append_left _ hmem)

/-- Every level is counted, unless it lies below a NULL. -/
theorem counted_pushLevels (hq : query.IsChain) (cells : List Cell) (buffers : List RowBuffer) :
    ∀ (nulls : List Bool) (results : ResultStore),
      nulls.length + buffers.length ≤ query.levels →
      nulls.getLast?.getD false = isBelowNull cells nulls.length →
      let visit := pushLevels query cells nulls buffers results
      results.Counted visit.value.2 visit.effects ∧
        visit.value.1.length = buffers.length ∧
        visits visit.effects +
          (List.range' nulls.length buffers.length).countP (isBelowNull cells) =
            buffers.length := by
  induction buffers with
  | nil => exact fun nulls results _ _ => ⟨.refl results, rfl, rfl⟩
  | cons buffer rest ih =>
    intro nulls results hlength hnulls
    rw [List.length_cons] at hlength
    obtain ⟨hcounted, hvisits, hnull⟩ :=
      counted_pushLevel hq buffer results (by omega) hnulls
    rcases hvisit : pushLevel query cells nulls buffer results with
      ⟨⟨isNull, buffer', results'⟩, effects⟩
    rw [hvisit] at hcounted hvisits hnull
    obtain ⟨hrest, hsame, hvisitsRest⟩ := ih (nulls ++ [isNull]) results'
      (by rw [List.length_append, List.length_singleton]; omega)
      (by rw [List.length_append, List.length_singleton]; simpa using hnull)
    rw [List.length_append, List.length_singleton] at hvisitsRest
    refine ⟨?_, ?_, ?_⟩
    · simpa [pushLevels, hvisit] using hcounted.trans hrest
    · simpa [pushLevels, hvisit] using hsame
    · rw [List.length_cons, List.range'_succ, List.countP_cons]
      simp only [pushLevels, hvisit, Traced.effects_bind, Traced.effects_pure, List.append_nil,
        Effect.visits_append]
      dsimp only at hvisits
      omega

/-- How many of the levels of a row lie below its first NULL. -/
def levelsBelowNull (levels : Nat) (cells : List Cell) : Nat :=
  (List.range levels).countP (isBelowNull cells)

/-! ### All answers -/

/-- What was counted while some answers of a cursor were taken in. -/
structure Took (query : Query) (before after : Fetch) (answers : List Cursor.Answer)
    (effects : List Effect) : Prop where
  counted : before.results.Counted after.results effects
  length_buffers : after.buffers.length = before.buffers.length
  polls : polls effects = answers.length
  visits : visits effects +
      ((answers.filterMap Cursor.Answer.row?).map (levelsBelowNull query.levels)).sum =
    (answers.filterMap Cursor.Answer.row?).length * query.levels
  cursor : cursor? effects = none
  executed : total .queriesExecuted effects = 0
  failed : total .queriesFailed effects = 0

theorem Took.nil (query : Query) (fetch : Fetch) : Took query fetch fetch [] [] where
  counted := .refl _
  length_buffers := rfl
  polls := rfl
  visits := by simp [Effect.visits]
  cursor := rfl
  executed := rfl
  failed := rfl

theorem Took.append {first second third : Fetch} {answers later : List Cursor.Answer}
    {effects more : List Effect} (h : Took query first second answers effects)
    (hlater : Took query second third later more) :
    Took query first third (answers ++ later) (effects ++ more) where
  counted := h.counted.trans hlater.counted
  length_buffers := hlater.length_buffers.trans h.length_buffers
  polls := by rw [Effect.polls_append, List.length_append, h.polls, hlater.polls]
  visits := by
    have hfirst := h.visits
    have hsecond := hlater.visits
    simp only [List.filterMap_append, List.map_append, List.sum_append, List.length_append,
      Nat.add_mul, Effect.visits_append]
    omega
  cursor := by rw [Effect.cursor?_append, h.cursor, hlater.cursor]; rfl
  executed := by rw [Effect.total_append, h.executed, hlater.executed]
  failed := by rw [Effect.total_append, h.failed, hlater.failed]

/-- A poll that brings no row. -/
theorem took_poll (query : Query) (fetch : Fetch) {answer : Cursor.Answer}
    (h : answer.row? = none) : Took query fetch fetch [answer] [.cursor .poll] where
  counted := ⟨rfl, rfl, by simp [Effect.growth]⟩
  length_buffers := rfl
  polls := rfl
  visits := by simp [h, Effect.visits, Effect.growth]
  cursor := rfl
  executed := rfl
  failed := rfl

theorem length_writeCells (cells : List Cell) (buffers : List RowBuffer) :
    (writeCells cells buffers).length = buffers.length := by
  have himages := congrArg List.length (images_writeCells cells buffers)
  rwa [length_writeImages, images, images, List.length_map, List.length_map] at himages

theorem took_take (hq : query.IsChain) {fetch : Fetch}
    (hlength : fetch.buffers.length = query.levels) (answer : Cursor.Answer) :
    Took query fetch (take query fetch answer).value [answer]
      (take query fetch answer).effects := by
  obtain ⟨buffers, results⟩ := fetch
  cases answer with
  | empty => simpa [take] using took_poll query ⟨buffers, results⟩ rfl
  | panic text => simpa [take] using took_poll query ⟨buffers, results⟩ rfl
  | row cells =>
    have hlength' : (writeCells cells buffers).length = query.levels :=
      (length_writeCells cells buffers).trans hlength
    obtain ⟨hcounted, hsame, hvisits⟩ := counted_pushLevels hq cells
      (writeCells cells buffers) [] results (by simp [hlength']) rfl
    obtain ⟨hpolls, hcursor, hexecuted, hfailed⟩ := Effect.not_counted_of_storing
      (storing_pushLevels query cells [] (writeCells cells buffers) results)
    rw [hlength', List.length_nil, ← List.range_eq_range'] at hvisits
    have hpoll : results.Counted results [.cursor .poll] := ⟨rfl, rfl, by simp [Effect.growth]⟩
    have heffects : (take query ⟨buffers, results⟩ (.row cells)).effects =
        [.cursor .poll] ++
          (pushLevels query cells [] (writeCells cells buffers) results).effects := by
      simp [take, pushRow]
    rw [heffects]
    constructor
    · simpa [take, pushRow] using hpoll.trans hcounted
    · simpa [take, pushRow, hlength, hlength'] using hsame
    · rw [Effect.polls_append, hpolls]
      rfl
    · have hnone : visits [.cursor .poll] = 0 := rfl
      rw [Effect.visits_append, hnone, Nat.zero_add]
      simpa [Cursor.Answer.row?, levelsBelowNull] using hvisits
    · rw [Effect.cursor?_append, hcursor]
      rfl
    · rw [Effect.total_append, hexecuted]
      rfl
    · rw [Effect.total_append, hfailed]
      rfl

theorem took_foldl (hq : query.IsChain) (answers : List Cursor.Answer) :
    ∀ {fetch : Fetch}, fetch.buffers.length = query.levels →
      Took query fetch (Traced.foldl (take query) fetch answers).value answers
        (Traced.foldl (take query) fetch answers).effects := by
  induction answers with
  | nil => exact fun _ => .nil query _
  | cons answer rest ih =>
    intro fetch hlength
    have hfirst := took_take hq hlength answer
    have hrest := ih (hfirst.length_buffers.trans hlength)
    simpa [Traced.foldl_cons] using hfirst.append hrest

/-- What was counted while a cursor was polled to its end, or to a panic. -/
structure Polled (query : Query) (cursor later : Cursor) (before after : Fetch)
    (effects : List Effect) : Prop where
  counted : before.results.Counted after.results effects
  length_buffers : after.buffers.length = before.buffers.length
  /-- Every poll takes an answer off the cursor, if there is one. -/
  answers : later.answers = cursor.answers.drop (polls effects)
  visits :
    let rows := (cursor.answers.take (polls effects)).filterMap Cursor.Answer.row?
    visits effects + (rows.map (levelsBelowNull query.levels)).sum = rows.length * query.levels
  cursor : cursor? effects = none
  executed : total .queriesExecuted effects = 0
  failed : total .queriesFailed effects = 0

/-- The answer at which a cursor stops is a panic, if there is one. -/
theorem take_calm (answers : List Cursor.Answer) :
    let calm := answers.takeWhile Cursor.Answer.isCalm
    answers.dropWhile Cursor.Answer.isCalm = [] ∧ answers.take (calm.length + 1) = calm ∧
        answers.drop (calm.length + 1) = [] ∨
      ∃ text later, answers.dropWhile Cursor.Answer.isCalm = .panic text :: later ∧
        answers.take (calm.length + 1) = calm ++ [.panic text] ∧
        answers.drop (calm.length + 1) = later := by
  intro calm
  have hsplit := answers.takeWhile_append_dropWhile (p := Cursor.Answer.isCalm)
  have hpanics := List.head?_dropWhile_not Cursor.Answer.isCalm answers
  cases hrest : answers.dropWhile Cursor.Answer.isCalm with
  | nil =>
    rw [hrest, List.append_nil] at hsplit
    have hlength : answers.length ≤ calm.length + 1 := by
      rw [← hsplit]
      exact Nat.le_succ _
    refine .inl ⟨rfl, ?_, List.drop_of_length_le hlength⟩
    rw [List.take_of_length_le hlength]
    exact hsplit.symm
  | cons answer later =>
    rw [hrest] at hpanics hsplit
    cases answer with
    | row | empty => cases hpanics
    | panic text =>
      refine .inr ⟨text, later, rfl, ?_, ?_⟩
      · rw [← hsplit, List.take_length_add_append]
        rfl
      · rw [← hsplit, List.drop_length_add_append]
        rfl

/-- What a drain leaves of the cursor, and the rows that it took off it. The answer at which it
stops is no row. -/
theorem answers_drain (query : Query) (cursor : Cursor) (fetch : Fetch) :
    let calm := cursor.answers.takeWhile Cursor.Answer.isCalm
    (drain query cursor fetch).value.2.1.answers = cursor.answers.drop (calm.length + 1) ∧
      (cursor.answers.take (calm.length + 1)).filterMap Cursor.Answer.row? =
        calm.filterMap Cursor.Answer.row? := by
  dsimp only
  rcases take_calm cursor.answers with ⟨hrest, htake, hdrop⟩ | ⟨text, later, hrest, htake, hdrop⟩
  · rw [htake, hdrop]
    simp [drain_eq, hrest]
  · rw [htake, hdrop]
    simp [drain_eq, hrest, Cursor.Answer.row?]

theorem polled_drain (hq : query.IsChain) {fetch : Fetch}
    (hlength : fetch.buffers.length = query.levels) (cursor : Cursor) :
    Polled query cursor (drain query cursor fetch).value.2.1 fetch
      (drain query cursor fetch).value.2.2 (drain query cursor fetch).effects := by
  have htook := took_foldl hq (cursor.answers.takeWhile Cursor.Answer.isCalm) hlength
  obtain ⟨hlater, hrows⟩ := answers_drain query cursor fetch
  have hfetch := fetch_drain query cursor fetch
  have heffects : (drain query cursor fetch).effects =
      (Traced.foldl (take query) fetch
        (cursor.answers.takeWhile Cursor.Answer.isCalm)).effects ++ [.cursor .poll] := by
    rw [drain_eq]
    simp only [Traced.effects_bind]
    split <;> rfl
  have hpolls : polls (drain query cursor fetch).effects =
      (cursor.answers.takeWhile Cursor.Answer.isCalm).length + 1 := by
    rw [heffects, Effect.polls_append, htook.polls]
    rfl
  rw [← hpolls] at hlater hrows
  refine ⟨?_, hfetch ▸ htook.length_buffers, hlater, ?_, ?_, ?_, ?_⟩
  · rw [hfetch, heffects]
    exact htook.counted.trans ⟨rfl, rfl, by simp [Effect.growth]⟩
  · intro rows
    have hnone : visits [.cursor .poll] = 0 := rfl
    have hvisits := htook.visits
    rw [← hrows] at hvisits
    rwa [heffects, Effect.visits_append, hnone, Nat.add_zero]
  · rw [heffects, Effect.cursor?_append, htook.cursor]
    rfl
  · rw [heffects, Effect.total_append, htook.executed]
    rfl
  · rw [heffects, Effect.total_append, htook.failed]
    rfl

end Fetch

end StorageClient
