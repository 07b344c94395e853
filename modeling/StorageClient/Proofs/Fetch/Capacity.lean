import Mathlib.Algebra.Ring.Nat
import StorageClient.Fetch.Error
import StorageClient.Fetch.Store
/-!
# StorageClient.Proofs.Fetch.Capacity

The room of a store after any number of pushes.

A store doubles its room whenever a header finds it full. So its room is the first of `room`,
`2 * room`, `4 * room`, ... that is enough for all headers, and the doublings are all that is
counted and logged (`ResultStore.pushAll_eq`). The headers themselves do not depend on the room.

Room is counted in machine words, and more room may be refused, be it because its number does not
fit in a word. Then a header is refused as well, and those after it are not asked for
(`ResultStore.storeAll`). As long as there is memory for the room in the end, this makes no
difference.
-/

namespace StorageClient

namespace Memory

/-- Memory with room for up to `largest` headers, and for any image. -/
@[reducible] def upTo (largest : Nat) : Memory where
  grants _
    | .headers room => decide (room ≤ largest)
    | .image _ => true

/-- Memory that grants room for up to `largest` headers, and every copy of an image. -/
structure Covers [Memory] (largest : Nat) : Prop where
  headers : ∀ store, ∀ room ≤ largest, Memory.grants store (.headers room) = true
  image : ∀ store size, Memory.grants store (.image size) = true

theorem covers_upTo (largest : Nat) : @Covers (upTo largest) largest :=
  @Covers.mk (upTo largest) largest (fun _ _ hroom => decide_eq_true hroom) fun _ _ => rfl

end Memory

namespace ResultStore

/-! ### Pushes -/

/-- A row to be stored. -/
inductive Push
  | value (depth flags : UInt16) (image : Bytes)
  | null (depth flags : UInt16)
  deriving Repr, DecidableEq

namespace Push

/-- The header that a row is stored as. -/
def header : Push → Header
  | value depth flags image => .value depth flags image
  | null depth flags => .null depth flags

def perform (store : ResultStore) : Push → Traced ResultStore
  | value depth flags image => store.pushValue depth flags image
  | null depth flags => store.pushNull depth flags

theorem perform_eq (store : ResultStore) (push : Push) :
    push.perform store = store.push push.header := by
  cases push <;> rfl

/-- Stores a row, unless memory is refused. -/
def store [Memory] [Sink] (results : ResultStore) :
    Push → Traced (Except FetchError Unit × ResultStore)
  | value depth flags image => do
    let (answer, results) ← results.storeValue depth flags image
    return (answer.map fun _ => (), results)
  | null depth flags => results.storeNull depth flags

end Push

/-- Stores rows one after the other. -/
def pushAll (store : ResultStore) (pushes : List Push) : Traced ResultStore :=
  Traced.foldl Push.perform store pushes

/-- Stores rows one after the other, up to the first that is refused. -/
def storeAll [Memory] [Sink] (results : ResultStore) :
    List Push → Traced (Except FetchError Unit × ResultStore)
  | [] => return (.ok (), results)
  | push :: rest => do
    match ← push.store results with
    | (.ok (), results) => storeAll results rest
    | (.error error, results) => return (.error error, results)

theorem pushAll_nil (store : ResultStore) : pushAll store [] = pure store := rfl

theorem pushAll_cons (store : ResultStore) (push : Push) (rest : List Push) :
    pushAll store (push :: rest) = store.push push.header >>= fun next => pushAll next rest := by
  rw [pushAll, Traced.foldl_cons, push.perform_eq]
  rfl

theorem pushAll_append (store : ResultStore) (pushes more : List Push) :
    pushAll store (pushes ++ more) = pushAll store pushes >>= fun next => pushAll next more :=
  Traced.foldl_append ..

/-! ### Doublings -/

/-- What a store with this room does to double it. -/
def growth (room : Nat) : List Effect :=
  [.count .headerGrowths 1, .line (Event.headerArrayGrown.line [
    ("from", .text (toString room)), ("to", .text (toString (room * 2)))])]

/-- What a store does to double its room some times, one after the other. -/
def growths (room count : Nat) : List Effect :=
  (List.range count).flatMap fun n => growth (room * 2 ^ n)

theorem mul_two_pow_succ (room n : Nat) : room * 2 ^ (n + 1) = room * 2 * 2 ^ n := by
  rw [Nat.pow_succ, Nat.mul_comm (2 ^ n), Nat.mul_assoc]

/-- The first doubling comes first, and the others go on from there. -/
theorem growths_succ (room count : Nat) :
    growths room (count + 1) = growth room ++ growths (room * 2) count := by
  rw [growths, List.range_succ_eq_map, List.flatMap_cons, List.flatMap_map, Nat.pow_zero,
    Nat.mul_one]
  simp only [Nat.succ_eq_add_one, mul_two_pow_succ]
  rfl

theorem total_growths (room count : Nat) :
    Effect.total .headerGrowths (growths room count) = count := by
  induction count generalizing room with
  | zero => rfl
  | succ count ih =>
    have hone : Effect.total .headerGrowths (growth room) = 1 := rfl
    rw [growths_succ, Effect.total_append, hone, ih, Nat.add_comm]

theorem lines_growths (room count : Nat) : Effect.lines (growths room count) =
    (List.range count).map fun n => Event.headerArrayGrown.line [
      ("from", .text (toString (room * 2 ^ n))),
      ("to", .text (toString (room * 2 ^ (n + 1))))] := by
  simp only [growths, Effect.lines, List.filterMap_flatMap, List.map_eq_flatMap, Nat.pow_succ,
    ← Nat.mul_assoc]
  rfl

theorem push_of_full {store : ResultStore} (h : store.size = store.capacity) (header : Header) :
    store.push header =
      ⟨⟨store.headers.push header, store.capacity * 2⟩, growth store.capacity⟩ := by
  apply Traced.ext <;> simp [push, reserve, h, growth]

theorem push_of_lt {store : ResultStore} (h : store.size < store.capacity) (header : Header) :
    store.push header = ⟨{ store with headers := store.headers.push header }, []⟩ := by
  apply Traced.ext <;> simp [push, reserve, Nat.ne_of_lt h]

/-- The least number of doublings that makes room for `size` headers. -/
structure Doublings (room size count : Nat) : Prop where
  enough : size ≤ room * 2 ^ count
  least : ∀ n, size ≤ room * 2 ^ n → count ≤ n

theorem doublings_zero {room size : Nat} (h : size ≤ room) : Doublings room size 0 where
  enough := by rwa [Nat.pow_zero, Nat.mul_one]
  least _ _ := Nat.zero_le _

/-- Room that is not enough is doubled at least once. -/
theorem Doublings.succ {room size count : Nat} (hfull : room < size)
    (h : Doublings (room * 2) size count) : Doublings room size (count + 1) where
  enough := by
    rw [mul_two_pow_succ]
    exact h.enough
  least n hn := by
    cases n with
    | zero =>
      rw [Nat.pow_zero, Nat.mul_one] at hn
      exact absurd hn (Nat.not_le.mpr hfull)
    | succ n =>
      rw [mul_two_pow_succ] at hn
      exact Nat.succ_le_succ (h.least n hn)

/-! ### Any number of pushes -/

/-- A store that has room for its headers doubles its room until it has room for the new ones as
well, and stores them behind those it has. -/
theorem pushAll_eq (pushes : List Push) : ∀ {store : ResultStore}, 0 < store.capacity →
    store.size ≤ store.capacity →
    ∃ count, Doublings store.capacity (store.size + pushes.length) count ∧
      pushAll store pushes =
        ⟨⟨store.headers ++ (pushes.map Push.header).toArray, store.capacity * 2 ^ count⟩,
          growths store.capacity count⟩ := by
  induction pushes with
  | nil =>
    intro store _ hfits
    refine ⟨0, doublings_zero hfits, ?_⟩
    apply Traced.ext <;> simp [pushAll_nil, growths]
  | cons push rest ih =>
    intro store hroom hfits
    rw [pushAll_cons]
    have hsize : (store.headers.push push.header).size + rest.length =
        store.size + (push :: rest).length := by
      rw [Array.size_push, List.length_cons, size]
      omega
    rcases Nat.lt_or_eq_of_le hfits with hlt | hfull
    · -- There is room: the first push changes nothing but the headers.
      obtain ⟨count, hcount, hrest⟩ := @ih { store with headers := store.headers.push push.header }
        hroom (by rw [size, Array.size_push]; exact hlt)
      refine ⟨count, hsize ▸ hcount, ?_⟩
      rw [push_of_lt hlt]
      apply Traced.ext <;> simp [hrest]
    · -- The store is full: it doubles its room first, which is the first of all doublings.
      obtain ⟨count, hcount, hrest⟩ := @ih ⟨store.headers.push push.header, store.capacity * 2⟩
        (Nat.mul_pos hroom Nat.two_pos)
        (by rw [size] at hfull; rw [size, Array.size_push]; dsimp only; omega)
      have hcount : Doublings (store.capacity * 2) (store.size + (push :: rest).length) count :=
        hsize ▸ hcount
      refine ⟨count + 1, hcount.succ (by rw [List.length_cons]; omega), ?_⟩
      rw [push_of_full hfull]
      apply Traced.ext
      · simp [hrest, mul_two_pow_succ]
      · simp [hrest, growths_succ]

/-- Room is never given up. -/
theorem capacity_le_pushAll {store : ResultStore} (pushes : List Push) (hroom : 0 < store.capacity)
    (hfits : store.size ≤ store.capacity) :
    store.capacity ≤ (pushAll store pushes).value.capacity ∧
      (pushAll store pushes).value.size ≤ (pushAll store pushes).value.capacity := by
  obtain ⟨count, hcount, hpushed⟩ := pushAll_eq pushes hroom hfits
  rw [hpushed]
  refine ⟨Nat.le_mul_of_pos_right _ (Nat.two_pow_pos count), ?_⟩
  have henough := hcount.enough
  rw [size] at henough
  simpa [size] using henough

/-- Where there is memory for the room after a push, nothing is refused. -/
theorem store_eq_push [Memory] {largest : Nat} (hmemory : Memory.Covers largest)
    {results : ResultStore} {push : Push}
    (hlargest : (results.push push.header).value.capacity ≤ largest) :
    push.store results = results.push push.header >>= fun results => pure (.ok (), results) := by
  have hgranted : ¬(results.size = results.capacity ∧
      Memory.grants results (.headers (results.capacity * 2)) = false) := by
    rintro ⟨hfull, hrefused⟩
    rw [push_of_full hfull] at hlargest
    exact Bool.false_ne_true (hrefused.symm.trans (hmemory.headers results _ hlargest))
  have hroom : results.makeRoom = results.reserve >>= fun results => pure (.ok (), results) :=
    if_neg hgranted
  cases push with
  | value depth flags image =>
    apply Traced.ext <;>
      simp [Push.store, storeValue, hroom, hmemory.image, Except.map, ResultStore.push, Push.header]
  | null depth flags =>
    apply Traced.ext <;> simp [Push.store, storeNull, hroom, ResultStore.push, Push.header]

/-- Memory that is enough in the end is enough all the time. -/
theorem storeAll_eq_pushAll [Memory] {largest : Nat} (hmemory : Memory.Covers largest)
    (pushes : List Push) : ∀ {results : ResultStore}, 0 < results.capacity →
      results.size ≤ results.capacity → (pushAll results pushes).value.capacity ≤ largest →
      storeAll results pushes = (do return (.ok (), ← pushAll results pushes)) := by
  induction pushes with
  | nil => exact fun _ _ _ => rfl
  | cons push rest ih =>
    intro results hroom hfits hlargest
    obtain ⟨hgrown, hfitsNext⟩ : results.capacity ≤ (results.push push.header).value.capacity ∧
        (results.push push.header).value.size ≤ (results.push push.header).value.capacity := by
      simpa [pushAll_cons, pushAll_nil] using capacity_le_pushAll [push] hroom hfits
    have hroomNext := Nat.lt_of_lt_of_le hroom hgrown
    rw [pushAll_cons, Traced.value_bind] at hlargest
    -- The room after the first push is part of the room in the end.
    have hfirst := Nat.le_trans (capacity_le_pushAll rest hroomNext hfitsNext).1 hlargest
    have hrest := ih hroomNext hfitsNext hlargest
    rw [storeAll, store_eq_push hmemory hfirst, pushAll_cons]
    apply Traced.ext <;> simp [hrest]

/-- **The room of a store.** Store any rows in a new store, whatever room was asked for. It doubles
its room the least number of times that makes room for all rows; just that is counted, and logged
with the room before and after. The rows are stored in order, and none of this depends on the room.
At any time before, there were as many headers as rows, room for all of them and not more than in
the end, and every header was as it is in the end. And whatever memory grants beyond the room in the
end, a store that has to ask for it does the same. -/
theorem room_of_pushes (room : Nat) (pushes : List Push) :
    let first := max room 1
    let stored := pushAll (.new room) pushes
    (∃ count, Doublings first pushes.length count ∧
      stored.value.capacity = first * 2 ^ count ∧
      Effect.total .headerGrowths stored.effects = count ∧
      Effect.lines stored.effects = (List.range count).map fun n =>
        Event.headerArrayGrown.line [
          ("from", .text (toString (first * 2 ^ n))),
          ("to", .text (toString (first * 2 ^ (n + 1))))]) ∧
    stored.value.headers.toList = pushes.map Push.header ∧
    (∀ earlier later, pushes = earlier ++ later →
      let before := (pushAll (.new room) earlier).value
      before.size = earlier.length ∧ before.size ≤ before.capacity ∧
      before.capacity ≤ stored.value.capacity ∧
      ∀ index < before.size, stored.value.get? index = before.get? index) ∧
    (∀ other, (pushAll (.new other) pushes).value.headers = stored.value.headers) ∧
    ∀ [Memory] (largest : Nat), Memory.Covers largest → stored.value.capacity ≤ largest →
      storeAll (.new room) pushes = (do return (.ok (), ← stored)) := by
  intro first stored
  have hroom : ∀ asked, 0 < (ResultStore.new asked).capacity := fun asked =>
    Nat.lt_of_lt_of_le Nat.one_pos (Nat.le_max_right asked 1)
  have hfits : ∀ asked, (ResultStore.new asked).size ≤ (ResultStore.new asked).capacity :=
    fun asked => Nat.zero_le _
  have hheaders : ∀ asked (rows : List Push),
      (pushAll (.new asked) rows).value.headers = (rows.map Push.header).toArray := by
    intro asked rows
    obtain ⟨count, -, hpushed⟩ := pushAll_eq rows (hroom asked) (hfits asked)
    rw [hpushed]
    exact Array.empty_append
  refine ⟨?_, ?_, ?_, ?_, ?_⟩
  · obtain ⟨count, hcount, hpushed⟩ := pushAll_eq pushes (hroom room) (hfits room)
    refine ⟨count, ?_, ?_, ?_, ?_⟩
    · simpa [ResultStore.new, size] using hcount
    · exact congrArg (fun pushed => pushed.value.capacity) hpushed
    · exact (congrArg (fun pushed => Effect.total _ pushed.effects) hpushed).trans
        (total_growths _ _)
    · exact (congrArg (fun pushed => Effect.lines pushed.effects) hpushed).trans
        (lines_growths _ _)
  · rw [hheaders]
  · rintro earlier later rfl before
    have hsize : before.size = earlier.length := by
      rw [size, hheaders, List.size_toArray, List.length_map]
    obtain ⟨hgrown, hbefore⟩ := capacity_le_pushAll earlier (hroom room) (hfits room)
    have hlater : stored.value = (pushAll before later).value := by
      change (pushAll (.new room) (earlier ++ later)).value = _
      rw [pushAll_append, Traced.value_bind]
    refine ⟨hsize, hbefore, ?_, fun index hindex => ?_⟩
    · rw [hlater]
      exact (capacity_le_pushAll later (Nat.lt_of_lt_of_le (hroom room) hgrown) hbefore).1
    · rw [hsize] at hindex
      rw [get?, get?, hheaders, hheaders, List.getElem?_toArray, List.getElem?_toArray,
        List.map_append, List.getElem?_append_left (by rwa [List.length_map])]
  · intro other
    rw [hheaders, hheaders]
  · exact fun largest hmemory hlargest =>
      storeAll_eq_pushAll hmemory pushes (hroom room) (hfits room) hlargest

/-- Five rows in a store for which no room was asked: it doubles its room three times, from one to
eight. Memory for seven headers at most is too little for that: the fifth row is refused. -/
theorem room_of_pushes_orders :
    let pushes : List Push :=
      [.value 0 0 [1], .value 1 0 [10], .null 1 0, .value 0 0 [2], .value 1 0 [11]]
    let stored := pushAll (.new 0) pushes
    let refused := (@storeAll (.upTo 7) _ (.new 0) pushes).value
    Doublings 1 5 3 ∧ stored.value.capacity = 8 ∧
      Effect.total .headerGrowths stored.effects = 3 ∧
      (pushAll (.new 0) (pushes.take 3)).value.capacity ≤ stored.value.capacity ∧
      @storeAll (.upTo 8) _ (.new 0) pushes = (do return (.ok (), ← stored)) ∧
      refused.1 = .error (.allocationFailed "result headers" 192) ∧
      refused.2 = (pushAll (.new 0) (pushes.take 4)).value := by
  intro pushes stored refused
  obtain ⟨⟨count, hcount, hcapacity, hcounted, -⟩, -, hbefore, -, hmemory⟩ :=
    room_of_pushes 0 pushes
  have hthree : Effect.total .headerGrowths stored.effects = 3 := by decide
  obtain rfl : count = 3 := hcounted.symm.trans hthree
  exact ⟨hcount, hcapacity, hthree, (hbefore (pushes.take 3) (pushes.drop 3) rfl).2.2.1,
    @hmemory (.upTo 8) 8 (Memory.covers_upTo 8) (Nat.le_of_eq hcapacity), by decide, by decide⟩

end ResultStore

end StorageClient
