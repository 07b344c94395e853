import StorageClient.Proofs.Fetch.Course
/-!
# StorageClient.Proofs.Fetch.Deduplication

What an executor stores of the rows that it gets, through any calls in any order, and whatever
memory is granted or refused.

* The effects of the calls tell which answers were polled, and so which rows were got
  (`Executor.got`). The buffers were blank before the first of them.
* The store holds what the reference emits for these rows. If memory was refused, it was for the
  last of them, of which nothing is stored (`Executor.kept`). Each step of a course keeps it so
  (`Executor.Faithful.step`).
* So the headers of a level can be told from the rows alone (`Executor.headers_of_level`), unless
  images are taken out before the end. An image that is gone is not compared with.
-/

namespace StorageClient

open Effect (acts polls cursor?)

namespace Fetch

/-- The images in buffers of the same sizes that no cursor wrote to. -/
def blank (images : List Bytes) : List Bytes :=
  images.map fun image => List.replicate image.length 0

theorem length_blank (images : List Bytes) : (blank images).length = images.length :=
  List.length_map _

theorem blank_writeImages (cells : List Cell) (images : List Bytes) :
    blank (writeImages cells images) = blank images := by
  have hsizes := congrArg (List.map fun size => List.replicate size (0 : UInt8))
    (sizes_writeImages cells images)
  rwa [List.map_map, List.map_map] at hsizes

/-- A cursor writes inside the buffers. -/
theorem blank_written (answers : List Cursor.Answer) : ∀ images : List Bytes,
    blank (written images answers) = blank images := by
  induction answers with
  | nil => exact fun _ => rfl
  | cons answer rest ih =>
    intro images
    cases answer with
    | row cells => exact (ih _).trans (blank_writeImages cells images)
    | empty | panic => exact ih images

end Fetch

namespace Executor

open Effect (answers)
open Fetch (images blank written emissions imageAt firstNull?)

/-- The rows that an executor got with some effects, as its buffers showed them. -/
def got (executor : Executor) (effects : List Effect) : List Fetch.Row :=
  Fetch.rows (blank (images executor.fetch.buffers)) (answers effects)

/-- The rows of which headers are stored: all that were got, except for one for which memory was
refused. -/
def kept (executor : Executor) (effects : List Effect) : List Fetch.Row :=
  if executor.latestError.any FetchError.isFatal then (executor.got effects).dropLast
  else executor.got effects

/-- The store of an executor of a query holds what the reference emits for the rows it keeps. -/
structure Faithful (query : Query) (executor : Executor) (past : List Effect) : Prop where
  query_eq : executor.query = query
  tracked : Tracked executor past
  unused : executor.phase = .notStarted → executor.Unused query
  length_buffers : executor.fetch.buffers.length = query.levels
  images_eq : images executor.fetch.buffers =
    written (blank (images executor.fetch.buffers)) (answers past)
  stored : ∃ flags, Fetch.Holds flags executor.results (emissions [] (executor.kept past)) ∧
    ∀ cursor?, executor.phase = .fetching cursor? →
      Fetch.AllTrack flags (emissions [] (executor.kept past)) 0 executor.fetch.buffers

variable {query : Query} {executor after : Executor} {past effects : List Effect}

theorem length_of_mem_kept {row : Fetch.Row} (h : row ∈ executor.kept effects) :
    row.length = executor.fetch.buffers.length := by
  have hgot : row ∈ executor.got effects := by
    unfold kept at h
    split at h
    · exact List.dropLast_subset _ h
    · exact h
  rw [Fetch.length_of_mem_rows hgot, Fetch.length_blank, images, List.length_map]

/-! ### Steps -/

theorem kept_of_nonfatal (h : ∀ error, executor.phase = .failed error → error.isFatal = false)
    (effects : List Effect) : executor.kept effects = executor.got effects := by
  refine if_neg fun hfatal => ?_
  cases hphase : executor.phase with
  | failed error => simp [latestError, Phase.error?, hphase, h error hphase] at hfatal
  | notStarted | fetching | drained => simp [latestError, Phase.error?, hphase] at hfatal

theorem kept_of_open
    (h : executor.phase = .notStarted ∨ ∃ cursor?, executor.phase = .fetching cursor?)
    (effects : List Effect) : executor.kept effects = executor.got effects := by
  refine kept_of_nonfatal (fun error hfailed => ?_) effects
  rcases h with hphase | ⟨cursor?, hphase⟩ <;> exact nomatch hphase.symm.trans hfailed

theorem faithful_of_unused (h : executor.Unused query) (htracked : Tracked executor past)
    (hphase : executor.phase = .notStarted) : Faithful query executor past := by
  have hnone := htracked.answers_eq_nil hphase
  have hkept : executor.kept past = [] := by
    rw [kept_of_open (.inl hphase), got, hnone, Fetch.rows]
  have hblank : images executor.fetch.buffers = blank (images executor.fetch.buffers) := by
    rw [images, blank, List.map_map]
    exact List.map_congr_left fun buffer hmem => (h.fresh buffer hmem).data
  refine ⟨h.query_eq, htracked, fun _ => h, h.length_buffers, ?_,
    Fetch.flagsOf executor.fetch.buffers, ?_, fun cursor? hfetching => ?_⟩
  · rw [hnone]
    exact hblank
  · rw [hkept]
    exact h.reached.holds
  · exact Phase.noConfusion (hphase.symm.trans hfetching)

/-- Only what the effects tell of the cursor matters. -/
theorem Faithful.congr {other : List Effect} (h : Faithful query executor past)
    (hsame : Effect.SameAccount other past) : Faithful query executor other := by
  have hkept : executor.kept other = executor.kept past := by rw [kept, got, hsame.answers]; rfl
  obtain ⟨hquery, htracked, hunused, hlength, himages, hstored⟩ := h
  exact ⟨hquery, htracked.congr hsame, hunused, hlength, by rwa [hsame.answers], by rwa [hkept]⟩

/-- If only the phase changes, and the executor fails with no fatal error, it keeps the same
rows. -/
theorem Faithful.rephase (h : Faithful query executor past) {phase : Phase}
    (htracked : Tracked { executor with phase } (past ++ effects))
    (hanswers : answers (past ++ effects) = answers past) (hstarted : phase ≠ .notStarted)
    (hopen : executor.phase = .notStarted ∨ ∃ cursor?, executor.phase = .fetching cursor?)
    (hafter : ∀ error, phase = .failed error → error.isFatal = false)
    (htrack : ∀ cursor?, phase = .fetching cursor? →
      ∃ cursor?, executor.phase = .fetching cursor?) :
    Faithful query { executor with phase } (past ++ effects) := by
  have hkept : Executor.kept { executor with phase } (past ++ effects) = executor.kept past := by
    rw [kept_of_nonfatal hafter, kept_of_open hopen, got, hanswers]
    rfl
  obtain ⟨hquery, -, -, hlength, himages, flags, hholds, hall⟩ := h
  refine ⟨hquery, htracked, fun hphase => absurd hphase hstarted, hlength, ?_, flags, ?_, ?_⟩
  · rwa [hanswers]
  · rwa [hkept]
  · intro cursor? hphase
    rw [hkept]
    obtain ⟨cursor?, hfetching⟩ := htrack cursor? hphase
    exact hall cursor? hfetching

theorem Faithful.create [Memory] (h : Faithful query executor past)
    (hphase : executor.phase = .notStarted) (asked : Query) (cursor : Cursor) :
    Faithful query { executor with phase := .fetching (some cursor) }
      (past ++ [.transaction (.createQuery asked (.returned (.ok cursor)))]) := by
  have hnone := h.tracked.answers_eq_nil hphase
  have hanswers : answers (past ++ [.transaction (.createQuery asked (.returned (.ok cursor)))]) =
      answers past := by
    obtain ⟨hcursor, hpolls⟩ := h.tracked.unpolled hphase
    rw [hnone, answers, Effect.cursor?_append, Effect.polls_append, hcursor, hpolls]
    rfl
  have hunused := h.unused hphase
  have hkept : Executor.kept { executor with phase := .fetching (some cursor) }
      (past ++ [.transaction (.createQuery asked (.returned (.ok cursor)))]) = [] := by
    rw [kept_of_open (.inr ⟨_, rfl⟩), got, hanswers, hnone]
    rfl
  refine ⟨h.query_eq, h.tracked.step (.created hphase asked cursor), fun hnot => ?_,
    h.length_buffers, ?_, Fetch.flagsOf executor.fetch.buffers, ?_, fun _ _ => ?_⟩
  · contradiction
  · rw [hanswers]
    exact h.images_eq
  · rw [hkept]
    exact hunused.reached.holds
  · rw [hkept]
    exact hunused.reached.track

/-- Where some answers were taken off the cursor, the rows among them are got. -/
theorem Faithful.got_append (h : Faithful query executor past) {taken : List Cursor.Answer}
    (hanswers : answers (past ++ effects) = answers past ++ taken) {fetched : Fetch}
    (himages : images fetched.buffers = written (images executor.fetch.buffers) taken)
    (phase : Phase) :
    Executor.got { executor with fetch := fetched, phase } (past ++ effects) =
      executor.got past ++ Fetch.rows (images executor.fetch.buffers) taken := by
  have hblank : blank (images fetched.buffers) = blank (images executor.fetch.buffers) := by
    rw [himages, Fetch.blank_written]
  rw [got, hanswers, hblank, Fetch.rows_append, ← h.images_eq]
  rfl

/-- A fetch keeps the rows that it takes off the cursor, but none for which memory is refused. -/
theorem Faithful.drain [Memory] (h : Faithful query executor past) (hq : query.IsChain)
    {cursor later : Cursor} {fetched : Fetch} {answer : Answer (Except FetchError Unit)}
    (hphase : executor.phase = .fetching (some cursor))
    (hdrain : Fetch.drain executor.query cursor executor.fetch =
      ⟨(answer, later, fetched), effects⟩) {phase : Phase} {calls : List Effect}
    (htracked : Tracked { executor with fetch := fetched, phase } (past ++ (effects ++ calls)))
    (hcalls : cursor? calls = none ∧ polls calls = 0) (hstarted : phase ≠ .notStarted)
    (hfailed : ∀ error, phase = .failed error ↔ Fetch.outcomeOf answer = .error error) :
    Faithful query { executor with fetch := fetched, phase } (past ++ (effects ++ calls)) := by
  have hanswers : answers (past ++ (effects ++ calls)) =
      answers past ++ cursor.answers.take (polls effects) := by
    rw [← List.append_assoc, Effect.answers_append_of_unpolled _ hcalls.1 hcalls.2,
      h.tracked.answers_append hphase]
  have hopen : executor.kept past = executor.got past :=
    kept_of_open (.inr ⟨_, hphase⟩) past
  obtain ⟨flags, hholds, htrack⟩ := h.stored
  have htrack := htrack _ hphase
  rw [hopen] at hholds htrack
  have hfetched := Fetch.fetched_drain hq ⟨h.length_buffers, hholds, htrack⟩
    (h.query_eq ▸ hdrain)
  have hgot := h.got_append hanswers hfetched.images_eq phase
  have himages : images fetched.buffers = written (blank (images fetched.buffers))
      (answers (past ++ (effects ++ calls))) := by
    rw [hfetched.images_eq, Fetch.blank_written, hanswers, Fetch.written_append, ← h.images_eq]
  have hlength : fetched.buffers.length = query.levels :=
    hfetched.length_buffers.trans h.length_buffers
  refine ⟨h.query_eq, htracked, fun hnot => absurd hnot hstarted, hlength, himages, flags, ?_⟩
  by_cases hfatal : ∃ error, phase = .failed error ∧ error.isFatal = true
  · obtain ⟨error, rfl, hfatal⟩ := hfatal
    obtain ⟨earlier, last, hrows, hearlier⟩ :=
      hfetched.refused error ((hfailed error).mp rfl) hfatal
    have hkept : Executor.kept { executor with fetch := fetched, phase := .failed error }
        (past ++ (effects ++ calls)) = executor.got past ++ earlier := by
      rw [kept, if_pos (by simpa [latestError, Phase.error?] using hfatal), hgot, hrows,
        ← List.append_assoc, List.dropLast_concat]
    refine ⟨?_, by simp⟩
    rw [hkept, Fetch.emissions_append, List.nil_append]
    exact hearlier
  · have hcalm : ∀ error, phase = .failed error → error.isFatal = false := fun error hphase =>
      Bool.eq_false_iff.mpr fun htrue => hfatal ⟨error, hphase, htrue⟩
    obtain ⟨-, hwhole, hall⟩ := hfetched.whole fun error herror =>
      hcalm error ((hfailed error).mpr herror)
    have hkept : Executor.kept { executor with fetch := fetched, phase }
        (past ++ (effects ++ calls)) =
          executor.got past ++ Fetch.rows (images executor.fetch.buffers)
            (cursor.answers.take (polls effects)) := by
      rw [kept_of_nonfatal hcalm, hgot]
    rw [hkept, Fetch.emissions_append, List.nil_append]
    exact ⟨hwhole, fun _ _ => hall⟩

/-- Every step keeps the store faithful. -/
theorem Faithful.step [Memory] (h : Faithful query executor past) (hq : query.IsChain)
    (hstep : Step executor after effects) : Faithful query after (past ++ effects) := by
  have htracked := h.tracked.step hstep
  cases hstep with
  | idled hidle => exact h.congr (Effect.sameAccount_append hidle past)
  | created hphase asked cursor => exact h.create hphase asked cursor
  | @closed cursor? hphase =>
    refine h.rephase htracked (Effect.answers_append_of_unpolled past ?_ ?_) Phase.noConfusion
      (.inr ⟨_, hphase⟩) (by simp) fun _ _ => ⟨_, hphase⟩
    · cases cursor? <;> rfl
    · cases cursor? <;> rfl
  | failed hfatal hphase =>
    exact h.rephase htracked (Effect.answers_append_of_unpolled past rfl rfl) Phase.noConfusion
      hphase (fun error hfailed => Phase.failed.inj hfailed ▸ hfatal) (by simp)
  | @drained _ _ _ outcome _ hphase hdrain =>
    refine h.drain hq hphase hdrain htracked ⟨rfl, rfl⟩ ?_ fun error => ?_
    · cases outcome <;> exact Phase.noConfusion
    · cases outcome <;> simp [phaseAfterDrain, Fetch.outcomeOf]
  | interrupted hphase hdrain =>
    rw [← List.append_nil effects] at htracked ⊢
    refine h.drain hq hphase hdrain htracked ⟨rfl, rfl⟩ Phase.noConfusion fun error => ?_
    simp [Fetch.outcomeOf]

theorem Faithful.course [Memory] (h : Faithful query executor past) (hq : query.IsChain)
    (hcourse : Course executor after effects) : Faithful query after (past ++ effects) :=
  hcourse.keeps (fun h hstep => h.step hq hstep)
    (fun h hacts => h.congr (Effect.sameAccount_of_acts hacts)) h

/-! ### Any sequence of calls -/

theorem faithful_new (query : Query) (config : Config) :
    Faithful query (Executor.new query config) [] :=
  faithful_of_unused (unused_new query config) (tracked_new query config) rfl

section Play

variable {σ : Type} [Memory] [Engine σ]

theorem Faithful.perform (h : Faithful query executor past) (hq : query.IsChain)
    {request : Request σ} (htaken : request.place? = none) :
    Faithful query (request.perform executor).value.2
      (past ++ (request.perform executor).effects) := by
  have hperforming := performing executor request
  generalize (request.perform executor).value.2 = after at hperforming
  generalize (request.perform executor).effects = effects at hperforming
  cases hperforming with
  | runs _ hcourse => exact h.course hq hcourse
  | setUp _ _ hphase call =>
    -- A buffer that is set up is blank, and no row was got yet.
    obtain ⟨buffers, -, happly⟩ := call.exists_buffers executor
    have htracked : Tracked (call.apply executor) past := by
      rw [happly]
      exact ⟨h.tracked.unpolled, h.tracked.left, h.tracked.drained⟩
    have hunstarted : (call.apply executor).phase = .notStarted := by rw [happly, hphase]
    rw [List.append_nil]
    exact faithful_of_unused ((h.unused hphase).apply call) htracked hunstarted
  | takes index => exact nomatch htaken

theorem Faithful.play (hq : query.IsChain) (requests : List (Request σ)) :
    ∀ {executor : Executor} {past : List Effect}, Faithful query executor past →
      (∀ request ∈ requests, request.place? = none) →
      Faithful query (play executor requests).value
        (past ++ (play executor requests).effects) := by
  induction requests with
  | nil => intro executor past h _; simpa [Executor.play] using h
  | cons request rest ih =>
    intro executor past h htaken
    obtain ⟨hfirst, hothers⟩ := List.forall_mem_cons.mp htaken
    simpa [Executor.play_cons, Traced.bind] using ih (h.perform hq hfirst) hothers

end Play

end Executor

end StorageClient
