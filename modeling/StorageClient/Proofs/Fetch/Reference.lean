import StorageClient.Fetch.Row
/-!
# StorageClient.Proofs.Fetch.Reference

What a fetch is meant to store, said without buffers and places in a store.

A cursor *presents* rows: for every level the image in its buffer, or nothing where it reports NULL
(`rows`). From every row, header after header is *emitted*, root first (`emission`):

* a level gives a value, unless the value emitted last at that level is the same (`lastValue`);
* the first NULL level gives one NULL, and nothing is emitted for the levels below it.

What is emitted for a row depends on what was emitted before and on the row, so the headers of a
fetch are a function of the presented rows (`emissions`).
-/

namespace StorageClient.Fetch

/-- A row as a cursor presents it: the images of all levels, root first, none where a level is
reported as NULL. -/
abbrev Row := List (Option Bytes)

/-- The images in the buffers after the cursor wrote to them. -/
def writeImages : List Cell → List Bytes → List Bytes
  | cell :: cells, image :: images => cell.write.apply image :: writeImages cells images
  | _, images => images

/-- The levels of a row from `level` on, given the images in their buffers. -/
def present (cells : List Cell) (level : Nat) : List Bytes → Row
  | [] => []
  | image :: images =>
    (if isRowNull cells level then none else some image) :: present cells (level + 1) images

/-- The rows a cursor presents with its answers, given the images that are in the buffers. -/
def rows (images : List Bytes) : List Cursor.Answer → List Row
  | [] => []
  | .row cells :: rest =>
    present cells 0 (writeImages cells images) :: rows (writeImages cells images) rest
  | .empty :: rest | .panic _ :: rest => rows images rest

/-- A header to be stored. -/
inductive Emission
  | value (level : Nat) (image : Bytes)
  | null (level : Nat)
  deriving Repr, DecidableEq

namespace Emission

def level : Emission → Nat
  | value level _ | null level => level

/-- The image, if it is one of this level. -/
def valueAt (level : Nat) : Emission → Option Bytes
  | value l image => if l = level then some image else none
  | null _ => none

def header (flags : Nat → UInt16) : Emission → Header
  | value level image => .value (UInt16.ofNat level) (flags level) image
  | null level => .null (UInt16.ofNat level) (flags level)

end Emission

/-- The value emitted last at a level. -/
def lastValue (level : Nat) (stored : List Emission) : Option Bytes :=
  (stored.filterMap (Emission.valueAt level)).getLast?

/-- What is emitted for the levels of a row from `level` on, after `stored`. -/
def emission (stored : List Emission) (level : Nat) : Row → List Emission
  | [] => []
  | none :: _ => [.null level]
  | some image :: rest =>
    if lastValue level stored = some image then emission stored (level + 1) rest
    else .value level image :: emission stored (level + 1) rest

/-- What is emitted for some rows, after `stored`. -/
def emissions (stored : List Emission) : List Row → List Emission
  | [] => []
  | row :: rest =>
    emission stored 0 row ++ emissions (stored ++ emission stored 0 row) rest

/-! ### Rows -/

@[simp] theorem length_writeImages (cells : List Cell) (images : List Bytes) :
    (writeImages cells images).length = images.length := by
  induction images generalizing cells with
  | nil => cases cells <;> rfl
  | cons image images ih =>
    cases cells with
    | nil => rfl
    | cons cell cells => simp [writeImages, ih]

@[simp] theorem length_present (cells : List Cell) (level : Nat) (images : List Bytes) :
    (present cells level images).length = images.length := by
  induction images generalizing level with
  | nil => rfl
  | cons image images ih => simp [present, ih]

theorem length_of_mem_rows {answers : List Cursor.Answer} {images : List Bytes} {row : Row}
    (h : row ∈ rows images answers) : row.length = images.length := by
  induction answers generalizing images with
  | nil => exact nomatch h
  | cons answer rest ih =>
    cases answer with
    | empty => exact ih h
    | panic text => exact ih h
    | row cells =>
      rcases List.mem_cons.mp h with rfl | h
      · simp
      · simpa using ih h

/-! ### The value emitted last -/

theorem lastValue_append (level : Nat) (stored more : List Emission) :
    lastValue level (stored ++ more) = (lastValue level more).or (lastValue level stored) := by
  simp [lastValue, List.getLast?_append]

@[simp] theorem lastValue_value_self (level : Nat) (image : Bytes) :
    lastValue level [.value level image] = some image := by
  simp [lastValue, Emission.valueAt]

theorem Emission.valueAt_of_ne {level : Nat} {e : Emission} (h : e.level ≠ level) :
    e.valueAt level = none := by
  cases e with
  | value l image => exact if_neg h
  | null l => rfl

theorem lastValue_append_of_none {level : Nat} {stored more : List Emission}
    (h : ∀ e ∈ more, e.valueAt level = none) :
    lastValue level (stored ++ more) = lastValue level stored := by
  have hnone : lastValue level more = none := by
    rw [lastValue, List.filterMap_eq_nil_iff.mpr h, List.getLast?_nil]
  rw [lastValue_append, hnone, Option.none_or]

/-- A value is the last one until the level gives another. -/
theorem lastValue_append_value {level : Nat} {stored more : List Emission} {image : Bytes}
    (h : ∀ e ∈ more, e.valueAt level = none) :
    lastValue level (stored ++ .value level image :: more) = some image := by
  rw [← List.singleton_append, ← List.append_assoc, lastValue_append_of_none h, lastValue_append,
    lastValue_value_self, Option.some_or]

theorem lastValue_append_value_of_ne {level l : Nat} {stored more : List Emission} {image : Bytes}
    (h : l ≠ level) :
    lastValue level (stored ++ .value l image :: more) = lastValue level (stored ++ more) := by
  have hvalue : ∀ e ∈ [Emission.value l image], e.valueAt level = none := fun e he =>
    List.mem_singleton.mp he ▸ if_neg h
  rw [← List.singleton_append, ← List.append_assoc, lastValue_append,
    lastValue_append_of_none hvalue, ← lastValue_append]

/-! ### What is emitted for one row -/

theorem emission_cons_of_same {stored : List Emission} {level : Nat} {image : Bytes}
    (h : lastValue level stored = some image) (rest : Row) :
    emission stored level (some image :: rest) = emission stored (level + 1) rest := if_pos h

theorem emission_cons_of_ne {stored : List Emission} {level : Nat} {image : Bytes}
    (h : lastValue level stored ≠ some image) (rest : Row) :
    emission stored level (some image :: rest) =
      .value level image :: emission stored (level + 1) rest := if_neg h

/-- What is emitted depends only on the values emitted last at the levels in question. -/
theorem emission_congr {stored other : List Emission} {row : Row} :
    ∀ {level : Nat}, (∀ l, level ≤ l → lastValue l stored = lastValue l other) →
      emission stored level row = emission other level row := by
  induction row with
  | nil => intro level _; rfl
  | cons image rest ih =>
    intro level h
    cases image with
    | none => rfl
    | some image =>
      rw [emission, emission, h level (Nat.le_refl _), ih fun l hl => h l (by omega)]

/-- A value does not matter for the levels below. -/
theorem emission_append_value {stored more : List Emission} {level : Nat} {image : Bytes}
    (row : Row) :
    emission (stored ++ .value level image :: more) (level + 1) row =
      emission (stored ++ more) (level + 1) row :=
  emission_congr fun l hl => lastValue_append_value_of_ne (by omega)

/-- The headers emitted for levels from `level` on are headers of these levels. -/
theorem level_of_mem_emission {stored : List Emission} {row : Row} {e : Emission} :
    ∀ {level : Nat}, e ∈ emission stored level row →
      level ≤ e.level ∧ e.level < level + row.length := by
  induction row with
  | nil => intro level h; exact nomatch h
  | cons image rest ih =>
    intro level h
    rw [List.length_cons]
    cases image with
    | none =>
      obtain rfl := List.mem_singleton.mp h
      simp only [Emission.level]
      omega
    | some image =>
      rw [emission] at h
      split at h
      · have := ih h
        omega
      · rcases List.mem_cons.mp h with rfl | h
        · simp only [Emission.level]
          omega
        · have := ih h
          omega

theorem valueAt_of_mem_emission {stored : List Emission} {row : Row} {e : Emission}
    {level l : Nat} (he : e ∈ emission stored level row) (hl : l < level) : e.valueAt l = none :=
  Emission.valueAt_of_ne (by have := (level_of_mem_emission he).1; omega)

theorem level_of_mem_emissions {stored : List Emission} {all : List Row} {n : Nat} {e : Emission}
    (hall : ∀ row ∈ all, row.length = n) (h : e ∈ emissions stored all) : e.level < n := by
  induction all generalizing stored with
  | nil => exact nomatch h
  | cons row rest ih =>
    rcases List.mem_append.mp h with h | h
    · have := (level_of_mem_emission h).2
      have := hall row List.mem_cons_self
      omega
    · exact ih (fun row hrow => hall row (List.mem_cons_of_mem _ hrow)) h

/-! ### Headers -/

theorem depth_header {flags : Nat → UInt16} {e : Emission} (h : e.level < UInt16.size) :
    (e.header flags).depth.toNat = e.level := by
  cases e <;> exact UInt16.toNat_ofNat_of_lt' h

/-- No two headers of levels that are small enough are stored alike. -/
theorem header_injective {flags flags' : Nat → UInt16} {e e' : Emission}
    (he : e.level < UInt16.size) (he' : e'.level < UInt16.size)
    (h : e.header flags = e'.header flags') : e = e' := by
  have hlevel : e.level = e'.level := by
    rw [← depth_header he, ← depth_header he', h]
  have hdata := congrArg Header.data h
  cases e <;> cases e' <;> simp_all [Emission.level, Emission.header, Header.value, Header.null]

/-- What was emitted can be told from the headers. -/
theorem eq_of_map_header_eq {flags flags' : Nat → UInt16} {emitted emitted' : List Emission}
    (hlevel : ∀ e ∈ emitted, e.level < UInt16.size)
    (hlevel' : ∀ e ∈ emitted', e.level < UInt16.size)
    (h : emitted.map (Emission.header flags) = emitted'.map (Emission.header flags')) :
    emitted = emitted' := by
  have hlength : emitted.length = emitted'.length := by
    simpa using congrArg List.length h
  -- `List.map_injective_iff` does not apply: only headers of few levels can be told apart.
  refine List.ext_getElem hlength fun i hi hi' => ?_
  have hget : emitted[i].header flags = emitted'[i].header flags' := by
    simpa [hi, hi'] using congrArg (fun headers => headers[i]?) h
  exact header_injective (hlevel _ (List.getElem_mem hi)) (hlevel' _ (List.getElem_mem hi')) hget

end StorageClient.Fetch
