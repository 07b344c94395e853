import StorageClient.Proofs.Fetch.Indexing
import StorageClient.Proofs.Fetch.Stored
/-!
# StorageClient.Proofs.Fetch.Taking

The images of headers, and who has them.

An image is in the store until somebody takes it out. What calls handed over for a place, together
with what is still there, is what was stored there (`Executor.Kept`). So an image is handed over
once or not at all, and a header stays what it is without its image: its tag tells whether it is
NULL, not the lack of an image.

After the end of an executor nothing is stored any more, and a take is the only call that changes
anything (`Executor.perform_of_ended`).
-/

namespace StorageClient

/-- What a header is without its image. -/
def Header.stamp (header : Header) : UInt16 × UInt16 := (header.depth, header.tag)

namespace Fetch

/-- Exactly the NULLs are stored without an image. -/
theorem Stamped.data_eq_none_iff {all : List RowBuffer.Layout} {cells : List Cell} {header : Header}
    (h : Stamped all cells header) : header.data = none ↔ header.isNull = true := by
  cases h with
  | value => exact iff_of_false nofun (by simp)
  | null => exact iff_of_true rfl (Header.isNull_null _ _)

end Fetch

namespace Executor

/-! ### What was handed over -/

/-- The image that an answer hands over. -/
def image? : Answer (Except FetchError Response) → Option Bytes
  | .returned (.ok (.data image)) => image
  | _ => none

variable {σ : Type} [Engine σ]

/-- The images that a call hands over for a place. -/
def Request.hands (executor : Executor) (index : Nat) (request : Request σ) : List Bytes :=
  if request.place? = some index then (image? (request.perform executor).value.1).toList else []

/-- The images that some calls hand over for a place, in order. -/
def handed (executor : Executor) (index : Nat) : List (Request σ) → List Bytes
  | [] => []
  | request :: rest =>
    request.hands executor index ++ handed (request.perform executor).value.2 index rest

/-- What was handed over for a place, together with what is still there, is what was stored. -/
structure Kept (pushed : List Header) (given : Nat → List Bytes) (store : ResultStore) : Prop where
  stamps : store.headers.toList.map Header.stamp = pushed.map Header.stamp
  conserved : ∀ index, given index ++ ((store.get? index).bind Header.data).toList =
    (pushed[index]?.bind Header.data).toList

variable {pushed : List Header} {given : Nat → List Bytes} {store : ResultStore}

theorem Kept.size (h : Kept pushed given store) : store.size = pushed.length := by
  have hlength := congrArg List.length h.stamps
  simpa [ResultStore.size] using hlength

/-- What was handed over is gone, and all else is still there. -/
theorem Kept.data (h : Kept pushed given store) (index : Nat) :
    (store.get? index).bind Header.data =
      if given index = [] then pushed[index]?.bind Header.data else none := by
  have hconserved := h.conserved index
  -- What was stored is one image at most, so it is in one of the two places.
  cases hgiven : given index with
  | nil =>
    rw [hgiven, List.nil_append] at hconserved
    rw [if_pos rfl]
    cases hleft : (store.get? index).bind Header.data <;>
      cases hpushed : pushed[index]?.bind Header.data <;> simp_all
  | cons image others =>
    rw [if_neg nofun]
    cases hleft : (store.get? index).bind Header.data with
    | none => rfl
    | some left =>
      rw [hgiven, hleft] at hconserved
      cases hpushed : pushed[index]?.bind Header.data <;> simp [hpushed] at hconserved

/-- A header stays as it was stored, but for its image. -/
theorem Kept.get? (h : Kept pushed given store) (index : Nat) :
    store.get? index = pushed[index]?.map fun header =>
      if given index = [] then header else { header with data := none } := by
  have hstamp : (store.get? index).map Header.stamp = pushed[index]?.map Header.stamp := by
    rw [← List.getElem?_map, ← h.stamps, List.getElem?_map, Array.getElem?_toList,
      ResultStore.get?]
  have hdata := h.data index
  cases hpushed : pushed[index]? with
  | none => rwa [hpushed, Option.map_none, Option.map_eq_none_iff] at hstamp
  | some header =>
    obtain ⟨depth, tag, image⟩ := header
    obtain ⟨⟨depth', tag', image'⟩, hget, hsame⟩ :
        ∃ other, store.get? index = some other ∧ other.stamp = (depth, tag) := by
      rwa [hpushed, Option.map_some, Option.map_eq_some_iff] at hstamp
    obtain ⟨rfl, rfl⟩ := Prod.mk.inj hsame
    rw [hget, hpushed] at hdata
    have himage : image' = if given index = [] then image else none := hdata
    rw [hget, himage]
    split <;> rfl

/-- A take hands over what is still there. -/
theorem Kept.takeData (h : Kept pushed given store) (index : Nat) :
    Kept pushed (fun place => given place ++
        if index = place then (store.takeData index).1.toList else [])
      (store.takeData index).2 where
  stamps := by
    rw [← h.stamps]
    refine List.ext_getElem? fun place => ?_
    simp only [ResultStore.takeData, List.getElem?_map, Array.getElem?_toList,
      Array.getElem?_modify]
    split <;> cases store.headers[place]? <;> rfl
  conserved place := by
    rw [← h.conserved place]
    by_cases hplace : index = place
    · subst hplace
      have hgone : ((store.takeData index).2.get? index).bind Header.data = none := by
        simp only [ResultStore.takeData, ResultStore.get?, Array.getElem?_modify]
        cases store.headers[index]? <;> simp
      rw [if_pos rfl, hgone, Option.toList_none, List.append_nil]
      rfl
    · have hkept : (store.takeData index).2.get? place = store.get? place := by
        simp only [ResultStore.takeData, ResultStore.get?, Array.getElem?_modify, if_neg hplace]
      rw [if_neg hplace, hkept, List.append_nil]

/-- For a place that is not there yet nothing was handed over. -/
theorem Kept.append (h : Kept pushed given store) {after : ResultStore} {new : List Header}
    (hafter : after.headers.toList = store.headers.toList ++ new) :
    Kept (pushed ++ new) given after where
  stamps := by rw [hafter, List.map_append, h.stamps, List.map_append]
  conserved index := by
    have hsize := h.size
    rw [ResultStore.size, ← Array.length_toList] at hsize
    have hconserved := h.conserved index
    rw [ResultStore.get?, ← Array.getElem?_toList] at hconserved ⊢
    rw [hafter]
    by_cases hindex : index < pushed.length
    · rwa [List.getElem?_append_left (hsize ▸ hindex), List.getElem?_append_left hindex]
    · rw [Nat.not_lt] at hindex
      rw [List.getElem?_eq_none hindex, Option.bind_none, Option.toList_none,
        List.append_eq_nil_iff] at hconserved
      rw [List.getElem?_append_right (hsize ▸ hindex), List.getElem?_append_right hindex, hsize,
        hconserved.1, List.nil_append]

/-! ### Any sequence of calls -/

variable {query : Query} {room : Nat} {executor : Executor} {past : List Effect}

theorem hands_of_place?_eq_none {request : Request σ} (h : request.place? = none)
    (executor : Executor) (index : Nat) : request.hands executor index = [] := by
  rw [Request.hands, h, if_neg nofun]

theorem Kept.perform (hkept : Kept pushed given executor.results)
    (h : Accounted query room executor past) (hq : query.IsChain) (request : Request σ) :
    Kept (pushed ++ request.stores executor)
      (fun index => given index ++ request.hands executor index)
      (request.perform executor).value.2.results := by
  cases storing_perform h hq request with
  | adds hplace hadds =>
    simp only [hands_of_place?_eq_none hplace, List.append_nil]
    exact hkept.append hadds.stores.1
  | setUp hplace _ _ hresults _ =>
    have hunstored : request.stores executor = [] := stores_eq_nil (by rw [hresults])
    simp only [hands_of_place?_eq_none hplace, hunstored, List.append_nil]
    rwa [hresults]
  | takes index =>
    have hunstored : (Request.takeData index : Request σ).stores executor = [] :=
      stores_eq_nil (executor.results.size_takeData index)
    have hhands : ∀ place, (Request.takeData index : Request σ).hands executor place =
        if index = place then (executor.results.takeData index).1.toList else [] := by
      intro place
      simp only [Request.hands, Request.place?, Option.some.injEq]
      rfl
    rw [hunstored, List.append_nil]
    simp only [hhands]
    exact hkept.takeData index

/-- **Images are conserved.** Through any calls, what was handed over for a place and what is still
there is together what was stored there. -/
theorem Kept.play (hq : query.IsChain) (requests : List (Request σ)) :
    ∀ {pushed : List Header} {given : Nat → List Bytes} {executor : Executor} {past : List Effect},
      Kept pushed given executor.results → Accounted query room executor past →
      Kept (pushed ++ stored executor requests)
        (fun index => given index ++ handed executor index requests)
        (play executor requests).value.results := by
  induction requests with
  | nil =>
    intro pushed given executor past hkept _
    simpa [Executor.play, stored, handed] using hkept
  | cons request rest ih =>
    intro pushed given executor past hkept h
    have hrest := ih (hkept.perform h hq request) (h.perform hq request)
    simpa [Executor.play_cons, Traced.bind, stored, handed] using hrest

theorem kept_new (query : Query) (config : Config) :
    Kept [] (fun _ => []) (Executor.new query config).results where
  stamps := rfl
  conserved _ := rfl

/-- A new executor has stored nothing and handed over nothing. -/
theorem kept_play_new (hq : query.IsChain) (config : Config) (requests : List (Request σ)) :
    Kept (stored (Executor.new query config) requests)
      (fun index => handed (Executor.new query config) index requests)
      (play (Executor.new query config) requests).value.results := by
  simpa using (kept_new query config).play hq requests (accounted_new query config)

/-! ### After the end -/

/-- The phases that no call leaves. -/
def Phase.IsLast (phase : Phase) : Prop := phase = .drained ∨ ∃ error, phase = .failed error

/-- After the end, nothing but a take changes anything. -/
theorem perform_of_ended (hended : executor.phase.IsLast) (request : Request σ) :
    (request.perform executor).value.2 =
      match request.place? with
      | some index => (executor.takeData index).2
      | none => executor := by
  have hneeds : ∀ {call required : String}, request.needs? = some (call, required) →
      required ∈ ["NOT_STARTED", "FETCHING"] → request.perform executor =
        pure (.returned (.error (wrongPhase call required executor.phase)), executor) := by
    intro call required hneeds hmem
    refine perform_of_refused (.wrongPhase hneeds ?_)
    rcases hended with hphase | ⟨error, hphase⟩ <;> rw [hphase] <;> rintro rfl <;>
      simp [Phase.name] at hmem
  cases request with
  | createRowBuffer | markJoinOnly | createQuery | run | fetchAll =>
    rw [hneeds rfl (by simp)]
    rfl
  | close =>
    obtain ⟨query, fetch, phase, abort, send⟩ := executor
    rcases hended with rfl | ⟨error, rfl⟩ <;> rfl
  | takeData index => rfl

theorem ended_perform (hended : executor.phase.IsLast) (request : Request σ) :
    (request.perform executor).value.2.phase = executor.phase ∧
      (request.perform executor).value.2.results.size = executor.results.size ∧
      (request.perform executor).value.2.results.capacity = executor.results.capacity := by
  rw [perform_of_ended hended request]
  cases request.place? with
  | none => exact ⟨rfl, rfl, rfl⟩
  | some index => exact ⟨rfl, executor.results.size_takeData index, rfl⟩

/-- After the end, nothing is stored, and no room is made. -/
theorem ended_play (requests : List (Request σ)) : ∀ {executor : Executor}, executor.phase.IsLast →
    stored executor requests = [] ∧ (play executor requests).value.phase.IsLast ∧
      (play executor requests).value.results.capacity = executor.results.capacity := by
  induction requests with
  | nil => exact fun hended => ⟨rfl, hended, rfl⟩
  | cons request rest ih =>
    intro executor hended
    obtain ⟨hphase, hsize, hcapacity⟩ := ended_perform hended request
    obtain ⟨hstored, hlast, hroom⟩ := ih (hphase ▸ hended)
    refine ⟨?_, ?_, ?_⟩
    · rw [stored, stores_eq_nil hsize, hstored, List.nil_append]
    · simpa [play_cons, Traced.bind] using hlast
    · simpa [play_cons, Traced.bind, hcapacity] using hroom

/-- After the end, a task gives the executor back as it was. -/
theorem runOnTask_of_ended (hended : executor.phase.IsLast) (task : String)
    (shared : SharedTransaction σ) : (runOnTask task executor shared).value.1 =
      .ok (executor, .error (wrongPhase "create_query" "NOT_STARTED" executor.phase)) := by
  have hne : executor.phase ≠ .notStarted := by
    rcases hended with hphase | ⟨error, hphase⟩ <;> rw [hphase] <;> exact Phase.noConfusion
  rw [runOnTask, run_of_refused (createQuery_of_ne hne shared)]
  rfl

/-- **Every image is handed over once.** Make any calls on a new executor of a finalized tree up to
its end, and then any more. Nothing was stored after the end, and no room was made. Without an image
were stored exactly the NULLs. What was handed over for a place, together with what is still there,
is what was stored there; so it is handed over by the first take, and the next take yields it unless
it is gone. All headers are still there, as they were stored, except for the images that were handed
over. And a task gives the executor back as it is. -/
theorem image_handed_over_once (hq : query.Prepared) (config : Config)
    (requests later : List (Request σ))
    (hended : (play (Executor.new query config) requests).value.phase.IsLast) :
    let fresh := Executor.new query config
    let ended := (play fresh requests).value
    let executor := (play fresh (requests ++ later)).value
    let pushed := stored fresh requests
    let gone := fun index => handed fresh index (requests ++ later)
    stored fresh (requests ++ later) = pushed ∧
    executor.results.capacity = ended.results.capacity ∧
    (∀ header ∈ pushed, header.data = none ↔ header.isNull = true) ∧
    (∀ index, gone index ++ ((executor.results.get? index).bind Header.data).toList =
      (pushed[index]?.bind Header.data).toList) ∧
    (∀ index, ((Request.takeData index : Request σ).perform executor).value.1 = .returned (.ok
      (.data (if gone index = [] then pushed[index]?.bind Header.data else none)))) ∧
    (∀ index, executor.results.get? index = pushed[index]?.map fun header =>
      if gone index = [] then header else { header with data := none }) ∧
    ∀ task (shared : SharedTransaction σ), (runOnTask task executor shared).value.1 =
      .ok (executor, .error (wrongPhase "create_query" "NOT_STARTED" executor.phase)) := by
  intro fresh ended executor pushed gone
  have hexecutor : executor = (play ended later).value := by
    simp [executor, ended, play, Traced.foldl_append]
  obtain ⟨hquiet, hlast, hcapacity⟩ := ended_play later hended
  have hstored : stored fresh (requests ++ later) = pushed := by
    rw [stored_append, hquiet, List.append_nil]
  rw [← hexecutor] at hlast hcapacity
  have hkept : Kept pushed gone executor.results :=
    hstored ▸ kept_play_new hq.isChain config (requests ++ later)
  refine ⟨hstored, hcapacity, ?_, hkept.conserved, ?_, ?_, runOnTask_of_ended hlast⟩
  · intro header hmem
    obtain ⟨cells, -, hstamped⟩ := (grouped_play_new hq.isChain config requests).exists_stamped hmem
    exact hstamped.data_eq_none_iff
  · intro index
    rw [← hkept.data index]
    rfl
  · exact hkept.get?

/-- A customer with an order, and then without one. The image of the customer is taken, and asked
for again after another fetch was refused. There are no images of the missing order and of a header
that is not there. The header of the customer stays, and is not NULL. -/
theorem image_handed_over_once_orders :
    let cursor : Cursor :=
      ⟨[orderRow (some 1) (some 10), orderRow (some 1) none], .complete⟩
    let fresh := Executor.new ordersQuery Config.default
    let requests : List (Request Playback) :=
      [.run (SharedTransaction.new "tx" (engineWith cursor))]
    let later : List (Request Playback) :=
      [.takeData 0, .fetchAll, .takeData 0, .takeData 2, .takeData 9, .close]
    let executor := (play fresh (requests ++ later)).value
    let take := fun index =>
      ((Request.takeData index : Request Playback).perform executor).value.1
    ordersQuery.Prepared ∧ (play fresh requests).value.phase.IsLast ∧
      stored fresh (requests ++ later) = [.value 0 0 [1], .value 1 0 [10], .null 1 0] ∧
      handed fresh 0 (requests ++ later) = [[1]] ∧
      take 0 = .returned (.ok (.data none)) ∧ take 1 = .returned (.ok (.data (some [10]))) ∧
      take 2 = .returned (.ok (.data none)) ∧ take 9 = .returned (.ok (.data none)) ∧
      executor.results.get? 0 = some ⟨0, 0, none⟩ := by
  intro cursor fresh requests later executor take
  have hended : (play fresh requests).value.phase.IsLast := by
    left
    decide +kernel
  obtain ⟨hstored, -, -, -, htaken, hheaders, -⟩ :=
    image_handed_over_once prepared_ordersQuery Config.default requests later hended
  have htake : ∀ index, take index = .returned (.ok (.data
      (if handed fresh index (requests ++ later) = [] then
        (stored fresh requests)[index]?.bind Header.data else none))) := htaken
  have hget : executor.results.get? 0 = (stored fresh requests)[0]?.map fun header =>
      if handed fresh 0 (requests ++ later) = [] then header else { header with data := none } :=
    hheaders 0
  have hpushed : stored fresh requests = [.value 0 0 [1], .value 1 0 [10], .null 1 0] := by
    decide +kernel
  have hgone : handed fresh 0 (requests ++ later) = [[1]] := by decide +kernel
  have hkept : ∀ index ∈ [1, 2, 9], handed fresh index (requests ++ later) = [] := by
    decide +kernel
  refine ⟨prepared_ordersQuery, hended, hstored.trans hpushed, hgone, ?_, ?_, ?_, ?_, ?_⟩
  · exact (htake 0).trans (by rw [hgone]; rfl)
  · exact (htake 1).trans (by rw [hkept 1 (by decide), hpushed]; rfl)
  · exact (htake 2).trans (by rw [hkept 2 (by decide), hpushed]; rfl)
  · exact (htake 9).trans (by rw [hkept 9 (by decide), hpushed]; rfl)
  · exact hget.trans (by rw [hgone, hpushed]; rfl)

end Executor

end StorageClient
