import StorageClient.Proofs.Fetch.Counts
/-!
# StorageClient.Proofs.Fetch.Shortage

Fetches that may be refused memory.

Whatever stores a header either does what it does where memory is never short, or is refused with a
fatal error and adds nothing. So a row is taken in as a whole, or none of its headers stay
(`Fetch.value_takeRow`). A fetch takes in one row after the other like that, and the first one that
is refused is the last one that it asks for (`Fetch.Advanced`, `Fetch.Drained`).

The images in the buffers do not depend on memory: they are what the cursor wrote (`Fetch.written`),
also for a row that is refused.
-/

namespace StorageClient

namespace ResultStore

variable [Memory]

/-- There is room, unless it is refused. -/
theorem makeRoom_cases (store : ResultStore) :
    store.makeRoom = (store.reserve >>= fun store => pure (.ok (), store)) ∨
      ∃ error : FetchError, error.isFatal = true ∧ store.makeRoom = pure (.error error, store) := by
  unfold makeRoom
  dsimp only
  split
  · exact .inr ⟨_, rfl, rfl⟩
  · exact .inl rfl

/-- A header with an image is stored, unless it is refused. -/
theorem value_storeValue (store : ResultStore) (depth flags : UInt16) (image : Bytes) :
    (store.storeValue depth flags image).value =
        (.ok store.size, (store.pushValue depth flags image).value) ∨
      ∃ (error : FetchError) (after : ResultStore), error.isFatal = true ∧
        after.headers = store.headers ∧
        (store.storeValue depth flags image).value = (.error error, after) := by
  rcases store.makeRoom_cases with hroom | ⟨error, hfatal, hrefused⟩
  · by_cases hgrants : Memory.grants store.reserve.value (.image image.length) = true
    · left
      simp [storeValue, hroom, hgrants, pushValue, push, size]
    · right
      rw [Bool.not_eq_true] at hgrants
      refine ⟨.allocationFailed "row copy" image.length, _, rfl, store.headers_reserve, ?_⟩
      simp [storeValue, hroom, hgrants]
  · exact .inr ⟨error, store, hfatal, rfl, by simp [storeValue, hrefused]⟩

/-- A NULL header is stored, unless it is refused. -/
theorem value_storeNull (store : ResultStore) (depth flags : UInt16) :
    (store.storeNull depth flags).value = (.ok (), (store.pushNull depth flags).value) ∨
      ∃ error : FetchError, error.isFatal = true ∧
        (store.storeNull depth flags).value = (.error error, store) := by
  rcases store.makeRoom_cases with hroom | ⟨error, hfatal, hrefused⟩
  · left
    simp [storeNull, hroom, pushNull, push]
  · exact .inr ⟨error, hfatal, by simp [storeNull, hrefused]⟩

end ResultStore

namespace Fetch

open Effect (polls cursor?)

/-! ### One row -/

/-- A visit of a level leaves the image in its buffer, and all headers. -/
theorem grows_pushLevel (query : Query) (cells : List Cell) (nulls : List Bool)
    (buffer : RowBuffer) (results : ResultStore) :
    let visited := (pushLevel query cells nulls buffer results).value
    visited.2.1.data = buffer.data ∧
      results.headers.toList <+: visited.2.2.headers.toList := by
  unfold pushLevel
  dsimp only
  split
  · exact ⟨rfl, List.prefix_rfl⟩
  split
  · exact ⟨rfl, by simp [ResultStore.pushNull]⟩
  · unfold copyRow
    split
    · exact ⟨rfl, List.prefix_rfl⟩
    · exact ⟨rfl, by simp [ResultStore.pushValue]⟩

section Memory

variable [Memory]

theorem value_visitLevel (query : Query) (cells : List Cell) (nulls : List Bool)
    (buffer : RowBuffer) (results : ResultStore) :
    (visitLevel query cells nulls buffer results).value =
        (.ok (pushLevel query cells nulls buffer results).value.1,
          (pushLevel query cells nulls buffer results).value.2) ∨
      ∃ (error : FetchError) (after : ResultStore), error.isFatal = true ∧
        after.headers = results.headers ∧
        (visitLevel query cells nulls buffer results).value = (.error error, buffer, after) := by
  unfold visitLevel pushLevel
  dsimp only
  split
  · exact .inl rfl
  split
  · rcases results.value_storeNull (UInt16.ofNat nulls.length) buffer.flags with
      hstored | ⟨error, hfatal, hrefused⟩
    · left
      simp [hstored]
    · exact .inr ⟨error, results, hfatal, rfl, by simp [hrefused]⟩
  · unfold storeImage copyRow
    split
    · exact .inl rfl
    · rcases results.value_storeValue (UInt16.ofNat nulls.length) buffer.flags buffer.data with
        hstored | ⟨error, after, hfatal, hheaders, hrefused⟩
      · left
        simp [hstored, Except.map]
      · exact .inr ⟨error, after, hfatal, hheaders, by simp [hrefused, Except.map]⟩

/-- The levels of a row are visited, unless one of them is refused. The headers of those before it
are still there then. -/
theorem value_visitLevels (query : Query) (cells : List Cell) (buffers : List RowBuffer) :
    ∀ (nulls : List Bool) (results : ResultStore),
      (visitLevels query cells nulls buffers results).value =
          (.ok (), (pushLevels query cells nulls buffers results).value) ∨
        ∃ (error : FetchError) (left : List RowBuffer) (after : ResultStore),
          error.isFatal = true ∧ images left = images buffers ∧
          results.headers.toList <+: after.headers.toList ∧
          (visitLevels query cells nulls buffers results).value = (.error error, left, after) := by
  induction buffers with
  | nil => exact fun _ _ => .inl rfl
  | cons buffer rest ih =>
    intro nulls results
    have hgrows := grows_pushLevel query cells nulls buffer results
    rcases value_visitLevel query cells nulls buffer results with
      hvisit | ⟨error, after, hfatal, hheaders, hvisit⟩
    · rcases hpush : (pushLevel query cells nulls buffer results).value with
        ⟨isNull, visited, stored⟩
      rw [hpush] at hvisit hgrows
      rcases ih (nulls ++ [isNull]) stored with
        hrest | ⟨error, left, after, hfatal, himages, hprefix, hrest⟩
      · left
        simp [visitLevels, hvisit, hrest, pushLevels, hpush]
      · refine .inr ⟨error, visited :: left, after, hfatal, ?_, hgrows.2.trans hprefix, ?_⟩
        · exact congrArg₂ List.cons hgrows.1 himages
        · simp [visitLevels, hvisit, hrest]
    · refine .inr ⟨error, buffer :: rest, after, hfatal, rfl, ?_, ?_⟩
      · exact (congrArg Array.toList hheaders).symm ▸ List.prefix_rfl
      · simp [visitLevels, hvisit]

/-- **A row is taken in as a whole, or not at all.** If it is refused, the headers are those of
before; only the buffers have the images of the row. -/
theorem value_takeRow (query : Query) (cells : List Cell) (fetch : Fetch) :
    (takeRow query cells fetch).value = (.ok (), (pushRow query cells fetch).value) ∨
      ∃ (error : FetchError) (after : Fetch), error.isFatal = true ∧
        images after.buffers = writeImages cells (images fetch.buffers) ∧
        after.results.headers = fetch.results.headers ∧
        (takeRow query cells fetch).value = (.error error, after) := by
  obtain ⟨buffers, results⟩ := fetch
  rcases value_visitLevels query cells (writeCells cells buffers) [] results with
    hvisit | ⟨error, left, after, hfatal, himages, hprefix, hvisit⟩
  · left
    simp [takeRow, hvisit, pushRow]
  · refine .inr ⟨error, ⟨left, after.truncate results.size⟩, hfatal, ?_, ?_, ?_⟩
    · exact himages.trans (images_writeCells cells buffers)
    · obtain ⟨new, hnew⟩ := hprefix
      apply Array.toList_inj.mp
      simp [ResultStore.truncate, ResultStore.size, ← hnew]
    · simp [takeRow, hvisit]

end Memory

/-! ### Answers -/

/-- The images in the buffers after some answers of a cursor. -/
def written : List Bytes → List Cursor.Answer → List Bytes
  | images, [] => images
  | images, .row cells :: rest => written (writeImages cells images) rest
  | images, .empty :: rest | images, .panic _ :: rest => written images rest

theorem rows_append (answers later : List Cursor.Answer) : ∀ images : List Bytes,
    rows images (answers ++ later) =
      rows images answers ++ rows (written images answers) later := by
  induction answers with
  | nil => exact fun _ => rfl
  | cons answer rest ih =>
    intro images
    cases answer with
    | row cells => exact congrArg (_ :: ·) (ih (writeImages cells images))
    | empty | panic => exact ih images

theorem written_append (answers later : List Cursor.Answer) : ∀ images : List Bytes,
    written images (answers ++ later) = written (written images answers) later := by
  induction answers with
  | nil => exact fun _ => rfl
  | cons answer rest ih =>
    intro images
    cases answer with
    | row cells => exact ih (writeImages cells images)
    | empty | panic => exact ih images

theorem length_written (answers : List Cursor.Answer) : ∀ images : List Bytes,
    (written images answers).length = images.length := by
  induction answers with
  | nil => exact fun _ => rfl
  | cons answer rest ih =>
    intro images
    cases answer with
    | row cells => exact (ih _).trans (length_writeImages cells images)
    | empty | panic => exact ih images

/-! ### What becomes of a fetch -/

section Fetched

variable {query : Query} {flags : Nat → UInt16} {stored : List Emission}

/-- What has become of a fetch, at which `stored` was emitted, with some more answers. If it failed
with a fatal error, the last row is the one that was refused. -/
structure Fetched (query : Query) (flags : Nat → UInt16) (stored : List Emission) (before : Fetch)
    (answers : List Cursor.Answer) (outcome : Except FetchError Unit) (after : Fetch) : Prop where
  images_eq : images after.buffers = written (images before.buffers) answers
  whole : (∀ error, outcome = .error error → error.isFatal = false) →
    Reached query flags (stored ++ emissions stored (rows (images before.buffers) answers)) after
  refused : ∀ error, outcome = .error error → error.isFatal = true → ∃ earlier last,
    rows (images before.buffers) answers = earlier ++ [last] ∧
    Holds flags after.results (stored ++ emissions stored earlier)

theorem Fetched.nil {fetch : Fetch} (h : Reached query flags stored fetch) :
    Fetched query flags stored fetch [] (.ok ()) fetch where
  images_eq := rfl
  whole _ := by simpa [rows, emissions] using h
  refused _ herror := nomatch herror

/-- First some answers, then some more. -/
theorem Fetched.append {first second third : Fetch} {answers later : List Cursor.Answer}
    {outcome : Except FetchError Unit}
    (h : Fetched query flags stored first answers (.ok ()) second)
    (hlater : Fetched query flags (stored ++ emissions stored (rows (images first.buffers) answers))
      second later outcome third) :
    Fetched query flags stored first (answers ++ later) outcome third where
  images_eq := by rw [hlater.images_eq, h.images_eq, written_append]
  whole hcalm := by
    have hreached := hlater.whole hcalm
    rw [h.images_eq, List.append_assoc, ← emissions_append] at hreached
    rwa [rows_append]
  refused error herror hfatal := by
    obtain ⟨earlier, last, hrows, hholds⟩ := hlater.refused error herror hfatal
    rw [h.images_eq] at hrows
    rw [List.append_assoc, ← emissions_append] at hholds
    exact ⟨_, last, by rw [rows_append, hrows, List.append_assoc], hholds⟩

/-- An answer without a row changes nothing. -/
theorem Fetched.append_panic {before after : Fetch} {answers : List Cursor.Answer}
    {outcome : Except FetchError Unit} (h : Fetched query flags stored before answers outcome after)
    (text : String) :
    Fetched query flags stored before (answers ++ [.panic text]) outcome after := by
  have hrows : ∀ images, rows images (answers ++ [.panic text]) = rows images answers :=
    fun images => by rw [rows_append, rows, rows, List.append_nil]
  have hwritten : ∀ images, written images (answers ++ [.panic text]) = written images answers :=
    fun images => by rw [written_append, written, written]
  obtain ⟨himages, hwhole, hrefused⟩ := h
  exact ⟨by rw [himages, hwritten], by rwa [hrows], by rwa [hrows]⟩

/-- There are no more and no fewer buffers than before. -/
theorem Fetched.length_buffers {before after : Fetch} {answers : List Cursor.Answer}
    {outcome : Except FetchError Unit}
    (h : Fetched query flags stored before answers outcome after) :
    after.buffers.length = before.buffers.length := by
  have hsame := congrArg List.length h.images_eq
  rwa [length_written, images, images, List.length_map, List.length_map] at hsame

/-- How the cursor ends is no matter of memory. -/
theorem Fetched.ended {before after : Fetch} {answers : List Cursor.Answer}
    (h : Fetched query flags stored before answers (.ok ()) after) (ending : Cursor.Ending) :
    Fetched query flags stored before answers (outcome ending) after where
  images_eq := h.images_eq
  whole _ := h.whole nofun
  refused error herror hfatal := by
    cases ending with
    | complete => exact nomatch herror
    | failed cause =>
      obtain rfl := Except.error.inj herror
      exact nomatch hfatal

end Fetched

/-! ### The loop -/

section Memory

variable [Memory] {query : Query} {flags : Nat → UInt16} {stored : List Emission}

/-- An answer costs one poll. -/
theorem polls_takeAnswer (query : Query) (fetch : Fetch) (answer : Cursor.Answer) :
    polls (takeAnswer query fetch answer).effects = 1 := by
  cases answer with
  | empty | panic => rfl
  | row cells =>
    obtain ⟨buffers, results⟩ := fetch
    have hstoring := (Effect.not_counted_of_storing
      (storing_visitLevels query cells (writeCells cells buffers) [] results)).1
    have hrow : polls (takeRow query cells ⟨buffers, results⟩).effects = 0 := by
      rw [takeRow, Traced.effects_bind, Effect.polls_append, hstoring]
      split <;> rfl
    rw [takeAnswer, Traced.effects_bind, Effect.polls_append, hrow]
    rfl

/-- The loop goes on after an answer that was taken in. -/
theorem foldl_advance_of_ok {fetch next : Fetch} {answer : Cursor.Answer} {effects : List Effect}
    (h : takeAnswer query fetch answer = ⟨(.ok (), next), effects⟩) (rest : List Cursor.Answer) :
    let later := Traced.foldl (advance query) (.ok (), next) rest
    Traced.foldl (advance query) (.ok (), fetch) (answer :: rest) =
      ⟨later.value, effects ++ later.effects⟩ := by
  rw [Traced.foldl_cons, advance, h]
  rfl

/-- After an error there are no more polls. -/
theorem foldl_advance_of_error {fetch next : Fetch} {answer : Cursor.Answer}
    {error : FetchError} {effects : List Effect}
    (h : takeAnswer query fetch answer = ⟨(.error error, next), effects⟩)
    (rest : List Cursor.Answer) :
    Traced.foldl (advance query) (.ok (), fetch) (answer :: rest) =
      ⟨(.error error, next), effects⟩ := by
  have hstopped : ∀ answers, Traced.foldl (advance query) (.error error, next) answers =
      pure (.error error, next) := by
    intro answers
    induction answers with
    | nil => rfl
    | cons answer rest ih => rw [Traced.foldl_cons, advance, Traced.pure_bind, ih]
  rw [Traced.foldl_cons, advance, h]
  apply Traced.ext <;> simp [hstopped]

/-- No answer is polled twice, and all are if nothing is refused. -/
theorem polls_foldl_advance (query : Query) (answers : List Cursor.Answer) : ∀ fetch : Fetch,
    let run := Traced.foldl (advance query) (.ok (), fetch) answers
    polls run.effects ≤ answers.length ∧
      (run.value.1 = .ok () → polls run.effects = answers.length) := by
  induction answers with
  | nil => exact fun _ => ⟨Nat.le_refl 0, fun _ => rfl⟩
  | cons answer rest ih =>
    intro fetch run
    have hpoll := polls_takeAnswer query fetch answer
    rcases htake : takeAnswer query fetch answer with ⟨⟨error | ⟨⟩, next⟩, effects⟩
    · have hrun : run = _ := foldl_advance_of_error htake rest
      rw [htake] at hpoll
      rw [hrun, show polls effects = 1 from hpoll, List.length_cons]
      exact ⟨Nat.le_add_left 1 _, nofun⟩
    · have hrun : run = _ := foldl_advance_of_ok htake rest
      obtain ⟨hle, hall⟩ := ih next
      rw [htake] at hpoll
      rw [hrun, Effect.polls_append, show polls effects = 1 from hpoll, List.length_cons,
        Nat.add_comm]
      exact ⟨Nat.succ_le_succ hle, fun hok => congrArg (· + 1) (hall hok)⟩

/-- An answer is taken in, unless it is a row that is refused. -/
theorem fetched_takeAnswer (hq : query.IsChain) {fetch : Fetch}
    (h : Reached query flags stored fetch) (answer : Cursor.Answer) :
    let taken := (takeAnswer query fetch answer).value
    Fetched query flags stored fetch [answer] taken.1 taken.2 := by
  cases answer with
  | empty | panic =>
    exact ⟨rfl, fun _ => by simpa [takeAnswer, rows, emissions] using h, by simp [takeAnswer]⟩
  | row cells =>
    have hvalue : (takeAnswer query fetch (.row cells)).value = (takeRow query cells fetch).value :=
      rfl
    rw [hvalue]
    rcases value_takeRow query cells fetch with
      htaken | ⟨error, after, hfatal, himages, hheaders, htaken⟩
    · obtain ⟨hreached, himages⟩ := h.pushRow hq cells
      rw [htaken]
      exact ⟨himages, fun _ => by simpa [rows, emissions] using hreached, by simp⟩
    · rw [htaken]
      refine ⟨himages, fun hcalm => ?_, fun _ _ _ => ⟨[], _, rfl, ?_⟩⟩
      · exact absurd (hcalm error rfl) (by simp [hfatal])
      · rw [emissions, List.append_nil, Holds, hheaders]
        exact h.holds

/-- **The loop.** It takes in all answers, or stops after a row that is refused. -/
theorem fetched_foldl (hq : query.IsChain) (answers : List Cursor.Answer) :
    ∀ {fetch : Fetch} {stored : List Emission}, Reached query flags stored fetch →
      let run := Traced.foldl (advance query) (.ok (), fetch) answers
      Fetched query flags stored fetch (answers.take (polls run.effects)) run.value.1
        run.value.2 := by
  induction answers with
  | nil => exact fun h => .nil h
  | cons answer rest ih =>
    intro fetch stored h run
    have hfirst := fetched_takeAnswer hq h answer
    have hpoll := polls_takeAnswer query fetch answer
    rcases htake : takeAnswer query fetch answer with ⟨⟨error | ⟨⟩, next⟩, effects⟩
    · rw [htake] at hfirst hpoll
      have hrun : run = _ := foldl_advance_of_error htake rest
      rw [hrun, show polls effects = 1 from hpoll]
      exact hfirst
    · rw [htake] at hfirst hpoll
      have hrun : run = _ := foldl_advance_of_ok htake rest
      rw [hrun, Effect.polls_append, show polls effects = 1 from hpoll, Nat.add_comm,
        List.take_succ_cons]
      exact hfirst.append (ih (hfirst.whole nofun))

/-- How a drain ends. Unless memory is refused, it polls once more than the loop, and comes to the
end of the cursor or to a panic. A cursor that panics keeps the answers that were not polled. -/
inductive Draining (query : Query) (cursor : Cursor) (before after : Fetch) :
    Answer (Except FetchError Unit) → Cursor → List Effect → Prop
  | refused {error : FetchError} {effects : List Effect}
    (hloop : Traced.foldl (advance query) (.ok (), before)
      (cursor.answers.takeWhile Cursor.Answer.isCalm) = ⟨(.error error, after), effects⟩)
    (htake : cursor.answers.take (polls effects) =
      (cursor.answers.takeWhile Cursor.Answer.isCalm).take (polls effects)) :
    Draining query cursor before after (.returned (.error error)) cursor effects
  | ended {effects : List Effect}
    (hloop : Traced.foldl (advance query) (.ok (), before)
      (cursor.answers.takeWhile Cursor.Answer.isCalm) = ⟨(.ok (), after), effects⟩)
    (htake : cursor.answers.take (polls (effects ++ [.cursor .poll])) = cursor.answers)
    (hcalm : cursor.answers.takeWhile Cursor.Answer.isCalm = cursor.answers) :
    Draining query cursor before after (.returned (outcome cursor.ending))
      { cursor with answers := [] } (effects ++ [.cursor .poll])
  | panicked {text : String} {later : List Cursor.Answer} {effects : List Effect}
    (hloop : Traced.foldl (advance query) (.ok (), before)
      (cursor.answers.takeWhile Cursor.Answer.isCalm) = ⟨(.ok (), after), effects⟩)
    (htake : cursor.answers.take (polls (effects ++ [.cursor .poll])) =
      cursor.answers.takeWhile Cursor.Answer.isCalm ++ [.panic text])
    (hlater : later = cursor.answers.drop (polls (effects ++ [.cursor .poll]))) :
    Draining query cursor before after (.panicked text) { cursor with answers := later }
      (effects ++ [.cursor .poll])

theorem draining (query : Query) (cursor : Cursor) (fetch : Fetch) :
    let run := drain query cursor fetch
    Draining query cursor fetch run.value.2.2 run.value.1 run.value.2.1 run.effects := by
  obtain ⟨hle, hall⟩ := polls_foldl_advance query
    (cursor.answers.takeWhile Cursor.Answer.isCalm) fetch
  rcases hloop : Traced.foldl (advance query) (.ok (), fetch)
    (cursor.answers.takeWhile Cursor.Answer.isCalm) with ⟨⟨error | ⟨⟩, after⟩, effects⟩
  · have hdrain : drain query cursor fetch =
        ⟨(.returned (.error error), cursor, after), effects⟩ := by
      simp only [drain, hloop]
      apply Traced.ext <;> simp
    rw [hloop] at hle
    have hsplit := cursor.answers.takeWhile_append_dropWhile (p := Cursor.Answer.isCalm)
    rw [hdrain]
    refine .refused hloop ?_
    rw [← List.take_append_of_le_length hle, hsplit]
  · have hpolls : polls (effects ++ [.cursor .poll]) =
        (cursor.answers.takeWhile Cursor.Answer.isCalm).length + 1 := by
      rw [hloop] at hall
      rw [Effect.polls_append, hall rfl]
      rfl
    rcases take_calm cursor.answers with ⟨hrest, htake, -⟩ | ⟨text, later, hrest, htake, hdrop⟩
    · have hdrain : drain query cursor fetch =
          ⟨(.returned (outcome cursor.ending), { cursor with answers := [] }, after),
            effects ++ [.cursor .poll]⟩ := by
        simp only [drain, hloop, hrest]
        apply Traced.ext <;> simp
      have hcalm := cursor.answers.takeWhile_append_dropWhile (p := Cursor.Answer.isCalm)
      rw [hrest, List.append_nil] at hcalm
      rw [hdrain]
      exact .ended hloop (hpolls ▸ htake.trans hcalm) hcalm
    · have hdrain : drain query cursor fetch =
          ⟨(.panicked text, { cursor with answers := later }, after),
            effects ++ [.cursor .poll]⟩ := by
        simp only [drain, hloop, hrest]
        apply Traced.ext <;> simp
      rw [hdrain]
      exact .panicked hloop (hpolls ▸ htake) (hpolls ▸ hdrop.symm)

/-- What a drain has come to. After a panic it may go on. -/
def outcomeOf : Answer (Except FetchError Unit) → Except FetchError Unit
  | .returned outcome => outcome
  | .panicked _ => .ok ()

/-- **A drain.** It takes in the answers that it polls, up to a row that is refused. -/
theorem fetched_drain (hq : query.IsChain) {cursor later : Cursor} {before after : Fetch}
    {answer : Answer (Except FetchError Unit)} {effects : List Effect}
    (h : Reached query flags stored before)
    (hdrain : drain query cursor before = ⟨(answer, later, after), effects⟩) :
    Fetched query flags stored before (cursor.answers.take (polls effects))
      (outcomeOf answer) after := by
  have hloop := fetched_foldl hq (cursor.answers.takeWhile Cursor.Answer.isCalm) h
  have hpolls := (polls_foldl_advance query
    (cursor.answers.takeWhile Cursor.Answer.isCalm) before).2
  have hdraining := draining query cursor before
  rw [hdrain] at hdraining
  dsimp only at hdraining
  cases hdraining with
  | refused hrun htake =>
    rw [hrun] at hloop
    rwa [htake]
  | ended hrun htake hcalm =>
    rw [hrun] at hloop hpolls
    dsimp only at hloop
    rw [hpolls rfl, List.take_length, hcalm] at hloop
    rw [htake]
    exact hloop.ended cursor.ending
  | panicked hrun htake =>
    rw [hrun] at hloop hpolls
    dsimp only at hloop
    rw [hpolls rfl, List.take_length] at hloop
    rw [htake]
    exact hloop.append_panic _

/-- A cursor that panics keeps the answers that were not polled. -/
theorem answers_of_panicked {cursor later : Cursor} {before after : Fetch} {text : String}
    {effects : List Effect}
    (hdrain : drain query cursor before = ⟨(.panicked text, later, after), effects⟩) :
    later.answers = cursor.answers.drop (polls effects) := by
  have hdraining := draining query cursor before
  rw [hdrain] at hdraining
  dsimp only at hdraining
  cases hdraining with
  | panicked _ _ hlater => exact hlater

/-- A drain without an error polls all answers of the cursor. -/
theorem take_of_drained {cursor later : Cursor} {before after : Fetch} {effects : List Effect}
    (hdrain : drain query cursor before = ⟨(.returned (.ok ()), later, after), effects⟩) :
    cursor.answers.take (polls effects) = cursor.answers := by
  have hdraining := draining query cursor before
  rw [hdrain] at hdraining
  dsimp only at hdraining
  generalize hanswer : Answer.returned (Except.ok ()) = answer at hdraining
  cases hdraining with
  | refused => exact nomatch hanswer
  | ended _ htake => exact htake
  | panicked => exact nomatch hanswer

end Memory

end Fetch

end StorageClient
