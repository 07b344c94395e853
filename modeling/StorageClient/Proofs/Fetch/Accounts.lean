import StorageClient.Proofs.Fetch.Course
/-!
# StorageClient.Proofs.Fetch.Accounts

What an executor counts in its life, through any calls in any order, where memory is never short.

An account is kept of the effects (`Executor.Accounted`): of the headers that are stored, of the
levels of the rows that were got, and of the end. Each step of a course keeps it
(`Executor.Accounted.step`). An executor that comes to its end counts that once, because no step
leaves its last phase.
-/

namespace StorageClient

open Effect (acts total visits polls cursor?)

namespace Executor

open Effect (answers rows)

/-- The account of an executor of a query, whose store had room for `room` headers at first. -/
structure Accounted (query : Query) (room : Nat) (executor : Executor) (past : List Effect) :
    Prop where
  query_eq : executor.query = query
  length_buffers : executor.fetch.buffers.length = query.levels
  counted : (ResultStore.new room).Counted executor.results past
  visits : visits past + ((rows past).map (Fetch.levelsBelowNull query.levels)).sum =
    (rows past).length * query.levels
  executed : total .queriesExecuted past = if executor.phase.name = "DRAINED" then 1 else 0
  failed : total .queriesFailed past = if executor.phase.name = "FAILED" then 1 else 0
  tracked : Tracked executor past

variable {query : Query} {room : Nat} {executor : Executor} {past : List Effect}

theorem accounted_new (query : Query) (config : Config) :
    Accounted query config.initialCapacity (Executor.new query config) [] where
  query_eq := rfl
  length_buffers := by simp [Executor.new, Query.levels]
  counted := .refl _
  visits := by simp [rows, answers, cursor?, Effect.visits]
  executed := rfl
  failed := rfl
  tracked := tracked_new query config

theorem Accounted.congr {other : List Effect} (h : Accounted query room executor past)
    (hsame : Effect.SameAccount other past) : Accounted query room executor other := by
  have htracked := h.tracked.congr hsame
  have hrows : rows other = rows past := by rw [rows, hsame.answers, rows]
  have htotal := hsame.total
  have hvisits : Effect.visits other = Effect.visits past := by
    rw [Effect.visits, Effect.visits, htotal, htotal, htotal]
  obtain ⟨hquery, hlength, ⟨hvalues, hnulls, hcapacity⟩, hlevels, hexecuted, hfailed, -⟩ := h
  refine ⟨hquery, hlength, ⟨?_, ?_, ?_⟩, ?_, ?_, ?_, htracked⟩
  · rw [hvalues, htotal]
  · rw [hnulls, htotal]
  · rw [hcapacity, htotal]
  · rw [hvisits, hrows, hlevels]
  · rw [htotal, hexecuted]
  · rw [htotal, hfailed]

/-! ### Steps -/

/-- What an executor counts when it comes to its end. -/
theorem counted_end (results : ResultStore) (outcome : Except FetchError Unit) :
    results.Counted results [.count (counterAfterDrain outcome) 1] ∧
      Effect.visits [.count (counterAfterDrain outcome) 1] = 0 := by
  cases outcome <;> exact ⟨⟨rfl, rfl, by simp [Effect.growth, counterAfterDrain]⟩, rfl⟩

/-- An executor comes to its end with one count. -/
theorem Accounted.finish (h : Accounted query room executor past)
    (hphase : executor.phase = .notStarted ∨ ∃ cursor, executor.phase = .fetching cursor)
    (outcome : Except FetchError Unit)
    (htracked : Tracked { executor with phase := phaseAfterDrain outcome }
      (past ++ [.count (counterAfterDrain outcome) 1])) :
    Accounted query room { executor with phase := phaseAfterDrain outcome }
      (past ++ [.count (counterAfterDrain outcome) 1]) := by
  obtain ⟨hstored, hunvisited⟩ := counted_end executor.results outcome
  have hgot : rows (past ++ [.count (counterAfterDrain outcome) 1]) = rows past := by
    rw [rows, Effect.answers_append_of_unpolled past rfl rfl, rows]
  obtain ⟨hquery, hlength, hcounted, hlevels, hexecuted, hfailed, -⟩ := h
  have hopen : total .queriesExecuted past = 0 ∧ total .queriesFailed past = 0 := by
    rcases hphase with hphase | ⟨cursor, hphase⟩ <;> rw [hphase] at hexecuted hfailed <;>
      exact ⟨hexecuted, hfailed⟩
  refine ⟨hquery, hlength, hcounted.trans hstored, ?_, ?_, ?_, htracked⟩
  · rw [hgot, Effect.visits_append, hunvisited]
    exact hlevels
  · rw [Effect.total_append, hopen.1]
    cases outcome <;> rfl
  · rw [Effect.total_append, hopen.2]
    cases outcome <;> rfl

/-- Before the start no row was got. -/
theorem Accounted.create (h : Accounted query room executor past)
    (hphase : executor.phase = .notStarted) (asked : Query) (cursor : Cursor) :
    Accounted query room { executor with phase := .fetching (some cursor) }
      (past ++ [.transaction (.createQuery asked (.returned (.ok cursor)))]) := by
  have htracked := h.tracked.step (.created hphase asked cursor)
  have hgot : rows past = [] := by rw [rows, h.tracked.answers_eq_nil hphase]; rfl
  have hnew : rows (past ++ [.transaction (.createQuery asked (.returned (.ok cursor)))]) = [] := by
    obtain ⟨hnone, hunpolled⟩ := h.tracked.unpolled hphase
    rw [rows, answers, Effect.cursor?_append, Effect.polls_append, hnone, hunpolled]
    rfl
  have hstored : executor.results.Counted executor.results
      [.transaction (.createQuery asked (.returned (.ok cursor)))] :=
    ⟨rfl, rfl, by simp [Effect.growth]⟩
  obtain ⟨hquery, hlength, hcounted, hlevels, hexecuted, hfailed, -⟩ := h
  rw [hphase] at hexecuted hfailed
  rw [hgot] at hlevels
  refine ⟨hquery, hlength, hcounted.trans hstored, ?_, ?_, ?_, htracked⟩
  · simpa [hnew, Effect.visits, Effect.growth] using hlevels
  · simpa [Effect.growth, Phase.name] using hexecuted
  · simpa [Effect.growth, Phase.name] using hfailed

theorem Accounted.rows_append (h : Accounted query room executor past) {cursor : Cursor}
    (hphase : executor.phase = .fetching (some cursor)) (effects : List Effect) :
    rows (past ++ effects) =
      rows past ++ (cursor.answers.take (polls effects)).filterMap Cursor.Answer.row? := by
  rw [rows, h.tracked.answers_append hphase, List.filterMap_append]
  rfl

/-- A fetch accounts for every answer that it takes off the cursor. -/
theorem Accounted.drain (h : Accounted query room executor past)
    {cursor later : Cursor} {fetched : Fetch} {effects : List Effect}
    (hphase : executor.phase = .fetching (some cursor))
    (hpolled : Fetch.Polled query cursor later executor.fetch fetched effects) :
    Accounted query room { executor with fetch := fetched, phase := .fetching (some later) }
      (past ++ effects) := by
  obtain ⟨made, hmade, hanswers⟩ := h.tracked.left cursor hphase
  have hrows := h.rows_append hphase effects
  obtain ⟨hquery, hlength, hcounted, hlevels, hexecuted, hfailed, -⟩ := h
  rw [hphase] at hexecuted hfailed
  have hvisits := hpolled.visits
  refine ⟨hquery, hpolled.length_buffers.trans hlength, hcounted.trans hpolled.counted, ?_, ?_, ?_,
    Phase.noConfusion, fun other hother => ⟨made, ?_, ?_⟩, Phase.noConfusion⟩
  · rw [hrows, Effect.visits_append, List.map_append, List.sum_append, List.length_append,
      Nat.add_mul]
    dsimp only at hvisits
    omega
  · rw [Effect.total_append, hexecuted, hpolled.executed]
    rfl
  · rw [Effect.total_append, hfailed, hpolled.failed]
    rfl
  · rw [Effect.cursor?_append, hmade]
    rfl
  · obtain rfl := Option.some.inj (Phase.fetching.inj hother)
    rw [hpolled.answers, hanswers, List.drop_drop, Effect.polls_append]

/-- A cursor that is given up leaves no answers to account for. -/
theorem Accounted.detach (h : Accounted query room executor past) {cursor? : Option Cursor}
    (hphase : executor.phase = .fetching cursor?) :
    Accounted query room { executor with phase := .fetching none } (past ++ closing cursor?) := by
  have hidle : ∀ effect ∈ closing cursor?, effect.isIdle = true := by
    cases cursor? <;> simp [closing, Effect.isIdle, Effect.newCursor?, Effect.isPoll]
  obtain ⟨hquery, hlength, hcounted, hlevels, hexecuted, hfailed, -⟩ :=
    h.congr (Effect.sameAccount_append hidle past)
  rw [hphase] at hexecuted hfailed
  exact ⟨hquery, hlength, hcounted, hlevels, hexecuted, hfailed,
    tracked_of_ne Phase.noConfusion (by simp) Phase.noConfusion⟩

/-- Every step keeps the account. -/
theorem Accounted.step {after : Executor} {effects : List Effect}
    (h : Accounted query room executor past) (hq : query.IsChain)
    (hstep : Step executor after effects) : Accounted query room after (past ++ effects) := by
  have htracked := h.tracked.step hstep
  cases hstep with
  | idled hidle => exact h.congr (Effect.sameAccount_append hidle past)
  | created hphase asked cursor => exact h.create hphase asked cursor
  | closed hphase => exact h.detach hphase
  | failed _ hphase => exact h.finish hphase (.error _) htracked
  | @drained cursor _ _ outcome _ hphase hdrain =>
    have hpolled := Fetch.polled_drain hq h.length_buffers cursor
    rw [← h.query_eq, hdrain, h.query_eq] at hpolled
    have hclosed := (h.drain hphase hpolled).detach rfl
    rw [List.append_assoc] at hclosed
    have hended := hclosed.finish (.inr ⟨none, rfl⟩) outcome
    rw [List.append_assoc, List.append_assoc] at hended
    exact hended htracked
  | @interrupted cursor _ _ _ _ hphase hdrain =>
    have hpolled := Fetch.polled_drain hq h.length_buffers cursor
    rw [← h.query_eq, hdrain, h.query_eq] at hpolled
    exact h.drain hphase hpolled

theorem Accounted.course {after : Executor} {effects : List Effect}
    (h : Accounted query room executor past) (hq : query.IsChain)
    (hcourse : Course executor after effects) : Accounted query room after (past ++ effects) :=
  hcourse.keeps (fun h hstep => h.step hq hstep)
    (fun h hacts => h.congr (Effect.sameAccount_of_acts hacts)) h

/-! ### Calls -/

theorem Accounted.setUp (h : Accounted query room executor past) (call : Setup)
    (hphase : executor.phase = .notStarted) : Accounted query room (call.apply executor) past := by
  obtain ⟨buffers, hsame, happly⟩ := call.exists_buffers executor
  obtain ⟨hquery, hlength, hcounted, hlevels, hexecuted, hfailed, htracked⟩ := h
  rw [happly]
  exact ⟨hquery, hsame.trans hlength, hcounted, hlevels, hexecuted, hfailed,
    fun _ => htracked.unpolled hphase, htracked.left, htracked.drained⟩

/-- An image that is taken out is still accounted for. -/
theorem Accounted.takeData (h : Accounted query room executor past) (index : Nat) :
    Accounted query room (executor.takeData index).2 past := by
  obtain ⟨hquery, hlength, ⟨hvalues, hnulls, hcapacity⟩, hlevels, hexecuted, hfailed,
    ⟨hunpolled, hleft, hdrained⟩⟩ := h
  refine ⟨hquery, hlength, ⟨?_, ?_, hcapacity⟩, hlevels, hexecuted, hfailed, hunpolled, hleft,
    hdrained⟩
  · exact (executor.results.countP_takeData index fun _ => rfl).trans hvalues
  · exact (executor.results.countP_takeData index fun _ => rfl).trans hnulls

variable {σ : Type} [Engine σ]

/-- Every call keeps the account. -/
theorem Accounted.perform (h : Accounted query room executor past) (hq : query.IsChain)
    (request : Request σ) :
    Accounted query room (request.perform executor).value.2
      (past ++ (request.perform executor).effects) := by
  have hperforming := performing executor request
  generalize (request.perform executor).value.2 = after at hperforming
  generalize (request.perform executor).effects = effects at hperforming
  cases hperforming with
  | runs _ hcourse => exact h.course hq hcourse
  | setUp _ _ hphase call => simpa using h.setUp call hphase
  | takes index => simpa using h.takeData index

theorem Accounted.play (h : Accounted query room executor past) (hq : query.IsChain)
    (requests : List (Request σ)) :
    Accounted query room (play executor requests).value
      (past ++ (play executor requests).effects) := by
  induction requests generalizing executor past with
  | nil => simpa [Executor.play] using h
  | cons request rest ih => simpa [Executor.play_cons, Traced.bind] using ih (h.perform hq request)

/-- A task that gives its executor back did what `run` does. -/
theorem perform_run_of_task {task : String} {shared : SharedTransaction σ} {ended : Executor}
    {result : Except FetchError Nat}
    (h : (runOnTask task executor shared).value.1 = .ok (ended, result)) :
    (Request.run shared).perform executor =
      ⟨(.returned (result.map .rows), ended), (runOnTask task executor shared).effects⟩ := by
  rcases hrun : run (executor, shared) with ⟨⟨answer, after, shared'⟩, effects⟩
  cases answer with
  | returned value =>
    obtain ⟨rfl, rfl⟩ : after = ended ∧ value = result := by
      simpa [runOnTask, hrun, Traced.bind] using h
    simp [Request.perform, runOnTask, hrun, Traced.bind, Answer.map, bind]
  | panicked text => simp [runOnTask, hrun, Traced.bind] at h

/-- **Everything is counted.** Make any calls on a new executor of a prepared query, in any order,
and whatever comes of them. The values and NULLs counted are those in the store. Together with the
duplicates, and with the levels below a NULL, they are all levels of all rows that were got. The
room of the store was doubled as many times as was counted. The end of the executor was counted
once if it came, as that of a query that was executed or of one that failed. And a query that was
executed got every row of its cursor. -/
theorem counts_account_for_rows (hq : query.Prepared) (config : Config)
    (requests : List (Request σ)) :
    let played := play (Executor.new query config) requests
    let store := played.value.results
    let rows := rows played.effects
    total .rowsPushed played.effects = store.values ∧
    total .nullRowsPushed played.effects = store.nulls ∧
    total .rowsPushed played.effects + total .nullRowsPushed played.effects +
        total .duplicatesSuppressed played.effects +
        (rows.map (Fetch.levelsBelowNull query.levels)).sum = rows.length * query.levels ∧
    store.capacity = max config.initialCapacity 1 * 2 ^ total .headerGrowths played.effects ∧
    total .queriesExecuted played.effects =
      (if played.value.phase.name = "DRAINED" then 1 else 0) ∧
    total .queriesFailed played.effects =
      (if played.value.phase.name = "FAILED" then 1 else 0) ∧
    (played.value.phase.name = "DRAINED" → ∃ cursor, cursor? played.effects = some cursor ∧
      rows = cursor.answers.filterMap Cursor.Answer.row?) := by
  intro played store rows
  have hplayed := (accounted_new query config).play hq.isChain requests
  rw [List.nil_append] at hplayed
  obtain ⟨-, -, ⟨hvalues, hnulls, hcapacity⟩, hlevels, hexecuted, hfailed, htracked⟩ := hplayed
  have hempty : (ResultStore.new config.initialCapacity).values = 0 ∧
      (ResultStore.new config.initialCapacity).nulls = 0 := ⟨rfl, rfl⟩
  rw [hempty.1, Nat.zero_add] at hvalues
  rw [hempty.2, Nat.zero_add] at hnulls
  refine ⟨hvalues.symm, hnulls.symm, hlevels, hcapacity, hexecuted, hfailed, fun hname => ?_⟩
  have hphase : played.value.phase = .drained := by
    cases hphase : played.value.phase <;> simp_all [Phase.name]
  obtain ⟨cursor, hcursor, hanswers⟩ := htracked.drained hphase
  exact ⟨cursor, hcursor, congrArg (List.filterMap Cursor.Answer.row?) hanswers⟩

/-- A customer and an order that come twice, an order without a customer, and a customer without an
order. Of the eight levels three are stored as values, two as NULLs, two are duplicates, and one
lies below a NULL. -/
theorem counts_account_for_rows_orders :
    let cursor : Cursor := ⟨[orderRow (some 1) (some 10), .empty, orderRow (some 1) (some 10),
      orderRow none (some 11), orderRow (some 2) none], .complete⟩
    let config : Config := { Config.default with initialCapacity := 1 }
    let played := play (Executor.new ordersQuery config)
      [.run (SharedTransaction.new "tx" (engineWith cursor)), .takeData 0]
    ordersQuery.Prepared ∧ played.value.results.values = 3 ∧ played.value.results.nulls = 2 ∧
      total .duplicatesSuppressed played.effects = 2 ∧
      rows played.effects = cursor.answers.filterMap Cursor.Answer.row? ∧
      ((rows played.effects).map (Fetch.levelsBelowNull 2)).sum = 1 ∧
      played.value.results.capacity = 8 ∧ total .queriesExecuted played.effects = 1 := by
  intro cursor config played
  obtain ⟨hvalues, hnulls, hlevels, hcapacity, hexecuted, -, hall⟩ :=
    counts_account_for_rows prepared_ordersQuery config
      [.run (SharedTransaction.new "tx" (engineWith cursor)), .takeData 0]
  have hpushed : total .rowsPushed played.effects = 3 := by decide +kernel
  have hnullsPushed : total .nullRowsPushed played.effects = 2 := by decide +kernel
  have hduplicates : total .duplicatesSuppressed played.effects = 2 := by decide +kernel
  have hgrowths : total .headerGrowths played.effects = 3 := by decide +kernel
  have hdrained : played.value.phase.name = "DRAINED" := by decide +kernel
  have hcursor : cursor? played.effects = some cursor := by decide +kernel
  have hrows : rows played.effects = cursor.answers.filterMap Cursor.Answer.row? := by
    obtain ⟨made, hmade, hrows⟩ := hall hdrained
    obtain rfl := Option.some.inj (hcursor.symm.trans hmade)
    exact hrows
  have hlength : (rows played.effects).length = 4 := by rw [hrows]; rfl
  refine ⟨prepared_ordersQuery, hvalues.symm.trans hpushed, hnulls.symm.trans hnullsPushed,
    hduplicates, hrows, ?_, ?_, hexecuted.trans (if_pos hdrained)⟩
  · have hvisits : total .rowsPushed played.effects + total .nullRowsPushed played.effects +
        total .duplicatesSuppressed played.effects +
        ((rows played.effects).map (Fetch.levelsBelowNull 2)).sum =
          (rows played.effects).length * 2 := hlevels
    omega
  · exact hcapacity.trans (by rw [hgrowths]; rfl)

end Executor

end StorageClient
