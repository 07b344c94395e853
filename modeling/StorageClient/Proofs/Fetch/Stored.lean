import StorageClient.Proofs.Fetch.Accounts
/-!
# StorageClient.Proofs.Fetch.Stored

The headers that the calls on an executor store, as they are when they are stored.

* A fetch adds headers at the end of the store and touches none of those before. What it adds for a
  row are headers of levels of this row, with the flags and the size of the buffers of these levels
  (`Fetch.Stamped`). It changes neither of them (`RowBuffer.Layout`).
* So all headers that were ever stored fall into groups, one for each row that was got, in order
  (`Fetch.Grouped`). This holds through any calls in any order. Buffers are only set up while no row
  was got, so the groups never meet another layout than the last.
-/

namespace StorageClient

open Effect (acts polls cursor? answers rows)

/-- What no row changes of a buffer: the flags of its headers, and the size of its images. -/
structure RowBuffer.Layout where
  flags : UInt16
  size : Nat
  deriving Repr, DecidableEq

def RowBuffer.layout (buffer : RowBuffer) : Layout := ⟨buffer.flags, buffer.size⟩

namespace Fetch

def layouts (buffers : List RowBuffer) : List RowBuffer.Layout := buffers.map RowBuffer.layout

/-- A header as it is stored for a level of a row. -/
inductive Stamped (layouts : List RowBuffer.Layout) (cells : List Cell) : Header → Prop
  | value {level : Nat} {layout : RowBuffer.Layout} {image : Bytes}
    (hlayout : layouts[level]? = some layout) (hnull : isRowNull cells level = false)
    (hsize : image.length = layout.size) :
    Stamped layouts cells (.value (UInt16.ofNat level) layout.flags image)
  | null {level : Nat} {layout : RowBuffer.Layout} (hlayout : layouts[level]? = some layout)
    (hnull : isRowNull cells level = true) :
    Stamped layouts cells (.null (UInt16.ofNat level) layout.flags)

/-- Headers in the order in which they are stored for some rows, a group for each row. -/
def Grouped (layouts : List RowBuffer.Layout) (rows : List (List Cell)) (headers : List Header) :
    Prop :=
  ∃ groups : List (List Header), groups.flatten = headers ∧
    List.Forall₂ (fun cells group => ∀ header ∈ group, Stamped layouts cells header) rows groups

variable {all : List RowBuffer.Layout}

theorem Grouped.nil : Grouped all [] [] := ⟨[], rfl, .nil⟩

theorem Grouped.append {got more : List (List Cell)} {headers new : List Header}
    (h : Grouped all got headers) (hnew : Grouped all more new) :
    Grouped all (got ++ more) (headers ++ new) := by
  obtain ⟨groups, rfl, hgroups⟩ := h
  obtain ⟨others, rfl, hothers⟩ := hnew
  exact ⟨groups ++ others, List.flatten_append, List.rel_append hgroups hothers⟩

/-- Without a row there is no header. -/
theorem Grouped.eq_nil {headers : List Header} (h : Grouped all [] headers) : headers = [] := by
  obtain ⟨groups, rfl, hgroups⟩ := h
  cases hgroups
  rfl

/-- Every header is one of a row. -/
theorem Grouped.exists_stamped {got : List (List Cell)} {headers : List Header}
    (h : Grouped all got headers) {header : Header} (hmem : header ∈ headers) :
    ∃ cells ∈ got, Stamped all cells header := by
  obtain ⟨groups, rfl, hgroups⟩ := h
  induction hgroups with
  | nil => exact nomatch hmem
  | cons hstamped _ ih =>
    rw [List.flatten_cons, List.mem_append] at hmem
    rcases hmem with hmem | hmem
    · exact ⟨_, List.mem_cons_self, hstamped header hmem⟩
    · obtain ⟨cells, hcells, hstamped⟩ := ih hmem
      exact ⟨cells, List.mem_cons_of_mem _ hcells, hstamped⟩

/-! ### One row -/

/-- A visit of a level adds at most a header of it. -/
theorem stamped_pushLevel (query : Query) (cells : List Cell) {nulls : List Bool}
    {buffer : RowBuffer} (results : ResultStore) (h : all[nulls.length]? = some buffer.layout) :
    let visited := (pushLevel query cells nulls buffer results).value
    visited.2.1.layout = buffer.layout ∧ ∃ new : List Header,
      visited.2.2.headers.toList = results.headers.toList ++ new ∧
      ∀ header ∈ new, Stamped all cells header := by
  intro visited
  by_cases hhidden : isHidden query nulls nulls.length = true
  · have hvisited : visited = (true, buffer, results) := by simp [visited, pushLevel, hhidden]
    rw [hvisited]
    exact ⟨rfl, [], by simp, by simp⟩
  by_cases hnull : isRowNull cells nulls.length = true
  · have hvisited : visited = (true, buffer,
        (results.push (.null (UInt16.ofNat nulls.length) buffer.flags)).value) := by
      simp [visited, pushLevel, hhidden, hnull, ResultStore.pushNull]
    rw [hvisited]
    refine ⟨rfl, [.null (UInt16.ofNat nulls.length) buffer.flags], by simp, ?_⟩
    exact List.forall_mem_singleton.mpr (.null h hnull)
  rw [Bool.not_eq_true] at hnull
  by_cases hsame : lastImage results buffer = some buffer.data
  · have hvisited : visited = (false, buffer, results) := by
      simp [visited, pushLevel, hhidden, hnull, copyRow, hsame]
    rw [hvisited]
    exact ⟨rfl, [], by simp, by simp⟩
  · have hvisited : visited = (false, { buffer with lastCopy := some results.size },
        (results.push (.value (UInt16.ofNat nulls.length) buffer.flags buffer.data)).value) := by
      simp [visited, pushLevel, hhidden, hnull, copyRow, hsame, ResultStore.pushValue]
    rw [hvisited]
    refine ⟨rfl, [.value (UInt16.ofNat nulls.length) buffer.flags buffer.data], by simp, ?_⟩
    exact List.forall_mem_singleton.mpr (.value h hnull rfl)

theorem stamped_pushLevels (query : Query) (cells : List Cell) (buffers : List RowBuffer) :
    ∀ {nulls : List Bool} (results : ResultStore), all.drop nulls.length = layouts buffers →
      let visited := (pushLevels query cells nulls buffers results).value
      layouts visited.1 = layouts buffers ∧ ∃ new : List Header,
        visited.2.headers.toList = results.headers.toList ++ new ∧
        ∀ header ∈ new, Stamped all cells header := by
  induction buffers with
  | nil => exact fun results _ => ⟨rfl, [], by simp [pushLevels], by simp⟩
  | cons buffer rest ih =>
    intro nulls results hall visited
    have hlevel : all[nulls.length]? = some buffer.layout := by
      rw [← Nat.add_zero nulls.length, ← List.getElem?_drop, hall]
      rfl
    obtain ⟨hlayout, new, hnew, hstamped⟩ := stamped_pushLevel query cells results hlevel
    rcases hvisit : (pushLevel query cells nulls buffer results).value with ⟨isNull, after, stored⟩
    rw [hvisit] at hlayout hnew
    have hrest : all.drop (nulls ++ [isNull]).length = layouts rest := by
      rw [List.length_append, List.length_singleton, ← List.drop_drop, hall]
      rfl
    obtain ⟨hlayouts, later, hlater, hothers⟩ := ih stored hrest
    have hvisited : visited =
        (after :: (pushLevels query cells (nulls ++ [isNull]) rest stored).value.1,
          (pushLevels query cells (nulls ++ [isNull]) rest stored).value.2) :=
      value_pushLevels_cons hvisit
    rw [hvisited]
    refine ⟨?_, new ++ later, ?_, List.forall_mem_append.mpr ⟨hstamped, hothers⟩⟩
    · exact congrArg₂ List.cons hlayout hlayouts
    · rw [hlater, hnew, List.append_assoc]

/-- A cursor writes inside the buffers. -/
theorem layouts_writeCells (cells : List Cell) (buffers : List RowBuffer) :
    layouts (writeCells cells buffers) = layouts buffers := by
  induction buffers generalizing cells with
  | nil => cases cells <;> rfl
  | cons buffer rest ih =>
    cases cells with
    | nil => rfl
    | cons cell cells =>
      refine congrArg₂ List.cons ?_ (ih cells)
      simp [RowBuffer.layout, RowBuffer.size, RowBuffer.flags]

/-! ### All rows -/

/-- What a fetch makes of some rows. -/
structure Gains (rows : List (List Cell)) (before after : Fetch) : Prop where
  layouts : layouts after.buffers = layouts before.buffers
  grows : ∃ new, after.results.headers.toList = before.results.headers.toList ++ new ∧
    Grouped (Fetch.layouts before.buffers) rows new

theorem Gains.refl (fetch : Fetch) : Gains [] fetch fetch :=
  ⟨rfl, [], (List.append_nil _).symm, .nil⟩

theorem Gains.trans {first second third : Fetch} {got more : List (List Cell)}
    (h : Gains got first second) (hmore : Gains more second third) :
    Gains (got ++ more) first third := by
  obtain ⟨hlayouts, new, hnew, hgrouped⟩ := h
  obtain ⟨hlater, others, hothers, hrest⟩ := hmore
  rw [hlayouts] at hrest
  exact ⟨hlater.trans hlayouts, new ++ others, by rw [hothers, hnew, List.append_assoc],
    hgrouped.append hrest⟩

theorem gains_pushRow (query : Query) (cells : List Cell) (fetch : Fetch) :
    Gains [cells] fetch (pushRow query cells fetch).value := by
  obtain ⟨buffers, results⟩ := fetch
  have hall : (layouts buffers).drop ([] : List Bool).length =
      layouts (writeCells cells buffers) := (layouts_writeCells cells buffers).symm
  obtain ⟨hlayouts, new, hnew, hstamped⟩ :=
    stamped_pushLevels query cells (writeCells cells buffers) results hall
  refine ⟨?_, new, ?_, [new], by simp, .cons hstamped .nil⟩
  · simpa [pushRow, layouts_writeCells] using hlayouts
  · simpa [pushRow] using hnew

theorem gains_take (query : Query) (fetch : Fetch) (answer : Cursor.Answer) :
    Gains answer.row?.toList fetch (take query fetch answer).value := by
  cases answer with
  | empty | panic => exact .refl fetch
  | row cells => exact gains_pushRow query cells fetch

theorem gains_foldl (query : Query) (answers : List Cursor.Answer) : ∀ fetch : Fetch,
    Gains (answers.filterMap Cursor.Answer.row?) fetch
      (Traced.foldl (take query) fetch answers).value := by
  induction answers with
  | nil => exact .refl
  | cons answer rest ih =>
    intro fetch
    have hsplit : (answer :: rest).filterMap Cursor.Answer.row? =
        answer.row?.toList ++ rest.filterMap Cursor.Answer.row? := by
      cases hrow : answer.row? <;> simp [hrow]
    rw [hsplit, Traced.foldl_cons, Traced.value_bind]
    exact (gains_take query fetch answer).trans (ih _)

/-- A drain makes headers of the rows that it takes off the cursor. -/
theorem gains_drain {query : Query} (hq : query.IsChain) {fetch : Fetch}
    (hlength : fetch.buffers.length = query.levels) (cursor : Cursor) :
    Gains ((cursor.answers.take (polls (drain query cursor fetch).effects)).filterMap
      Cursor.Answer.row?) fetch (drain query cursor fetch).value.2.2 := by
  obtain ⟨hlater, hrows⟩ := answers_drain query cursor fetch
  have hpolled := (polled_drain hq hlength cursor).answers
  -- What is left of the answers tells which ones were taken.
  have htaken : cursor.answers.take (polls (drain query cursor fetch).effects) =
      cursor.answers.take ((cursor.answers.takeWhile Cursor.Answer.isCalm).length + 1) := by
    rw [hlater] at hpolled
    refine List.append_cancel_right ((List.take_append_drop _ _).trans ?_)
    rw [← hpolled, List.take_append_drop]
  rw [htaken, hrows, fetch_drain]
  exact gains_foldl query _ fetch

end Fetch

namespace Executor

/-! ### Steps -/

/-- What comes of the rows that are got along a course. -/
def Adds (past : List Effect) (before after : Executor) (effects : List Effect) : Prop :=
  ∃ got, rows (past ++ effects) = rows past ++ got ∧ Fetch.Gains got before.fetch after.fetch

theorem Adds.trans {past effects more : List Effect} {first second third : Executor}
    (h : Adds past first second effects) (hmore : Adds (past ++ effects) second third more) :
    Adds past first third (effects ++ more) := by
  obtain ⟨got, hgot, hgains⟩ := h
  obtain ⟨later, hlater, hothers⟩ := hmore
  refine ⟨got ++ later, ?_, hgains.trans hothers⟩
  rw [← List.append_assoc, hlater, hgot, List.append_assoc]

/-- Without a row there is nothing to add. -/
theorem adds_nothing {past effects : List Effect} {before after : Executor}
    (hfetch : after.fetch = before.fetch) (hrows : answers (past ++ effects) = answers past) :
    Adds past before after effects :=
  ⟨[], by rw [rows, hrows, List.append_nil, rows], hfetch ▸ .refl _⟩

/-- Lines add nothing. -/
theorem Adds.unlogged {past effects kept : List Effect} {before after : Executor}
    (h : Adds past before after kept) (hacts : acts effects = acts kept) :
    Adds past before after effects := by
  obtain ⟨got, hgot, hgains⟩ := h
  have hsame : acts (past ++ effects) = acts (past ++ kept) := by
    rw [Effect.acts_append, hacts, Effect.acts_append]
  refine ⟨got, ?_, hgains⟩
  rw [← hgot, rows, (Effect.sameAccount_of_acts hsame).answers, rows]

variable {query : Query} {room : Nat} {executor : Executor} {past : List Effect}

/-- Before the start no row was got. -/
theorem Accounted.rows_of_notStarted (h : Accounted query room executor past)
    (hphase : executor.phase = .notStarted) : rows past = [] := by
  rw [rows, h.tracked.answers_eq_nil hphase, List.filterMap_nil]

/-- A fetch gets the rows that it takes off the cursor. -/
theorem adds_drain (h : Accounted query room executor past) (hq : query.IsChain)
    {cursor later : Cursor} {fetched : Fetch} {answer : Answer (Except FetchError Unit)}
    {effects : List Effect} (hphase : executor.phase = .fetching (some cursor))
    (hdrain : Fetch.drain executor.query cursor executor.fetch =
      ⟨(answer, later, fetched), effects⟩) (phase : Phase) :
    Adds past executor { executor with fetch := fetched, phase } effects := by
  have hgains := Fetch.gains_drain hq h.length_buffers cursor
  rw [← h.query_eq, hdrain] at hgains
  exact ⟨_, h.rows_append hphase effects, hgains⟩

theorem Accounted.adds_step {after : Executor} {effects : List Effect}
    (h : Accounted query room executor past) (hq : query.IsChain)
    (hstep : Step executor after effects) : Adds past executor after effects := by
  cases hstep with
  | idled hidle => exact adds_nothing rfl (Effect.sameAccount_append hidle past).answers
  | created hphase asked cursor =>
    obtain ⟨hnone, hunpolled⟩ := h.tracked.unpolled hphase
    refine adds_nothing rfl ?_
    rw [answers, answers, Effect.cursor?_append, Effect.polls_append, hnone, hunpolled]
    rfl
  | @closed cursor? =>
    refine adds_nothing rfl (Effect.answers_append_of_unpolled past ?_ ?_) <;>
      cases cursor? <;> rfl
  | failed => exact adds_nothing rfl (Effect.answers_append_of_unpolled past rfl rfl)
  | drained hphase hdrain =>
    refine (adds_drain h hq hphase hdrain _).trans (adds_nothing rfl ?_)
    exact Effect.answers_append_of_unpolled _ rfl rfl
  | interrupted hphase hdrain => exact adds_drain h hq hphase hdrain _

theorem Accounted.adds {after : Executor} {effects : List Effect}
    (h : Accounted query room executor past) (hq : query.IsChain)
    (hcourse : Course executor after effects) : Adds past executor after effects := by
  induction hcourse generalizing past with
  | rest => exact adds_nothing rfl (by rw [List.append_nil])
  | next hstep _ ih => exact (h.adds_step hq hstep).trans (ih (h.step hq hstep))
  | unlogged _ hacts ih => exact (ih h).unlogged hacts

variable {σ : Type} [Engine σ]

/-! ### Any sequence of calls -/

/-- The headers that a call adds at the end of the store. -/
def Request.stores (executor : Executor) (request : Request σ) : List Header :=
  (request.perform executor).value.2.results.headers.toList.drop executor.results.size

/-- All headers that some calls add, as they are when they are added. -/
def stored (executor : Executor) : List (Request σ) → List Header
  | [] => []
  | request :: rest =>
    request.stores executor ++ stored (request.perform executor).value.2 rest

theorem stored_append (requests later : List (Request σ)) : ∀ executor : Executor,
    stored executor (requests ++ later) =
      stored executor requests ++ stored (play executor requests).value later := by
  induction requests with
  | nil => intro executor; simp [stored, play]
  | cons request rest ih => intro executor; simp [stored, play_cons, Traced.bind, ih]

/-- A call that sets up a level is refused, or changes the buffer of this level before the start. -/
theorem setUp_changeBuffer (executor : Executor) (call : String) (level : Nat)
    (change : RowBuffer → RowBuffer) :
    let performed := Request.perform.setUp executor (executor.changeBuffer call level change)
    (∃ error, performed = pure (.returned (.error error), executor)) ∨
      executor.phase = .notStarted ∧ level < executor.fetch.buffers.length ∧
        performed = pure (.returned (.ok .done), { executor with
          fetch := { executor.fetch with
            buffers := executor.fetch.buffers.modify level change } }) := by
  intro performed
  by_cases hphase : executor.phase = .notStarted
  · by_cases hlevel : level < executor.fetch.buffers.length
    · refine .inr ⟨hphase, hlevel, ?_⟩
      simp [performed, changeBuffer, hphase, hlevel, Request.perform.setUp]
    · refine .inl ⟨.levelOutOfRange level executor.fetch.buffers.length, ?_⟩
      simp [performed, changeBuffer, hphase, hlevel, Request.perform.setUp]
  · refine .inl ⟨wrongPhase call "NOT_STARTED" executor.phase, ?_⟩
    simp [performed, changeBuffer_of_ne hphase, Request.perform.setUp]

/-- What a call does to the headers: it adds some of the rows that it gets, or has nothing to add
because it sets up a buffer before the start, or takes an image out. -/
inductive Storing (past : List Effect) (executor : Executor) : Request σ → Prop
  | adds {request : Request σ} (hplace : request.place? = none)
    (h : Adds past executor (request.perform executor).value.2
      (request.perform executor).effects) : Storing past executor request
  | setUp {request : Request σ} (hplace : request.place? = none) (hlevel : request.level? ≠ none)
    (hphase : executor.phase = .notStarted)
    (hresults : (request.perform executor).value.2.results = executor.results)
    (hidle : (request.perform executor).effects = []) : Storing past executor request
  | takes (index : Nat) : Storing past executor (.takeData index)

theorem storing_perform (h : Accounted query room executor past) (hq : query.IsChain)
    (request : Request σ) : Storing past executor request := by
  have hperforming := performing executor request
  generalize hafter : (request.perform executor).value.2 = after at hperforming
  generalize heffects : (request.perform executor).effects = effects at hperforming
  cases hperforming with
  | runs hplace hcourse =>
    have hadds := h.adds hq hcourse
    rw [← hafter, ← heffects] at hadds
    exact .adds hplace hadds
  | setUp hplace hlevel hphase call =>
    obtain ⟨buffers, -, happly⟩ := call.exists_buffers executor
    refine .setUp hplace (hlevel ▸ Option.some_ne_none _) hphase ?_ heffects
    rw [hafter, happly]
    rfl
  | takes index => exact .takes index

/-- What a call stores is what it adds. -/
theorem Adds.stores {request : Request σ}
    (h : Adds past executor (request.perform executor).value.2
      (request.perform executor).effects) :
    (request.perform executor).value.2.results.headers.toList =
        executor.results.headers.toList ++ request.stores executor ∧
      ∃ got, rows (past ++ (request.perform executor).effects) = rows past ++ got ∧
        Fetch.Grouped (Fetch.layouts executor.fetch.buffers) got (request.stores executor) := by
  obtain ⟨got, hgot, -, new, hnew, hgrouped⟩ := h
  have hstores : request.stores executor = new := by
    change List.drop executor.fetch.results.headers.toList.length
      (request.perform executor).value.2.fetch.results.headers.toList = new
    rw [hnew]
    exact List.drop_left
  rw [hstores]
  exact ⟨hnew, got, hgot, hgrouped⟩

/-- Without a change of the results nothing is stored. -/
theorem stores_eq_nil {request : Request σ}
    (h : (request.perform executor).value.2.results.size = executor.results.size) :
    request.stores executor = [] := by
  rw [Request.stores, List.drop_eq_nil_iff]
  exact Nat.le_of_eq h

theorem grouped_perform (h : Accounted query room executor past) (hq : query.IsChain)
    {pushed : List Header}
    (hpushed : Fetch.Grouped (Fetch.layouts executor.fetch.buffers) (rows past) pushed)
    (request : Request σ) :
    Fetch.Grouped (Fetch.layouts (request.perform executor).value.2.fetch.buffers)
      (rows (past ++ (request.perform executor).effects)) (pushed ++ request.stores executor) := by
  cases storing_perform h hq request with
  | adds _ hadds =>
    obtain ⟨-, got, hgot, hgrouped⟩ := hadds.stores
    obtain ⟨_, _, hgains⟩ := hadds
    rw [hgains.layouts, hgot]
    exact hpushed.append hgrouped
  | setUp _ _ hphase hresults hidle =>
    -- The layouts change, but there is no header yet that has the old ones.
    have hunstored : request.stores executor = [] := stores_eq_nil (by rw [hresults])
    have hunfetched := h.rows_of_notStarted hphase
    rw [hunfetched] at hpushed
    rw [hunstored, hidle, List.append_nil, List.append_nil, hunfetched, hpushed.eq_nil]
    exact .nil
  | takes index =>
    have hunstored : (Request.takeData index : Request σ).stores executor = [] :=
      stores_eq_nil (executor.results.size_takeData index)
    rw [hunstored, List.append_nil]
    have hidle : ((Request.takeData index : Request σ).perform executor).effects = [] := rfl
    rw [hidle, List.append_nil]
    exact hpushed

/-- **What calls store.** All headers that some calls store fall into groups, one for each row that
they got, in order; and each is a header of a level of its row, as the buffers are in the end. -/
theorem grouped_play (h : Accounted query room executor past) (hq : query.IsChain)
    (requests : List (Request σ)) : ∀ {pushed : List Header},
    Fetch.Grouped (Fetch.layouts executor.fetch.buffers) (rows past) pushed →
    Fetch.Grouped (Fetch.layouts (play executor requests).value.fetch.buffers)
      (rows (past ++ (play executor requests).effects)) (pushed ++ stored executor requests) := by
  induction requests generalizing executor past with
  | nil => intro pushed hpushed; simpa [play, stored] using hpushed
  | cons request rest ih =>
    intro pushed hpushed
    have hrest := ih (h.perform hq request) (grouped_perform h hq hpushed request)
    simpa [play_cons, Traced.bind, stored] using hrest

theorem grouped_play_new (hq : query.IsChain) (config : Config) (requests : List (Request σ)) :
    let played := play (Executor.new query config) requests
    Fetch.Grouped (Fetch.layouts played.value.fetch.buffers) (rows played.effects)
      (stored (Executor.new query config) requests) := by
  intro played
  simpa using grouped_play (accounted_new query config) hq requests .nil

end Executor

end StorageClient
