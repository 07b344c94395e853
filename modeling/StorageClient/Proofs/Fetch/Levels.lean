import StorageClient.Proofs.Fetch.Decoding
/-!
# StorageClient.Proofs.Fetch.Levels

The headers of one level, told from the rows alone.

The headers of all levels lie mixed in a store. Those of one level are what somebody would write
down who looks at this level only:

* the image of the level in every row in which neither it nor a level above it is NULL (`imageAt`),
  unless it is the one written down last (`values_emissions`);
* a NULL for every row whose first NULL is at this level (`nulls_emissions`).

What is stored for other levels in between does not matter, because an image is compared with the
value emitted last *at its level*.
-/

namespace StorageClient

namespace Header

/-- Whether a header stores an image of this level. -/
def isValueAt (level : Nat) (header : Header) : Bool :=
  !header.isNull && header.depth.toNat == level

/-- Whether a header stores a NULL of this level. -/
def isNullAt (level : Nat) (header : Header) : Bool :=
  header.isNull && header.depth.toNat == level

@[simp] theorem isNull_value (depth flags : UInt16) (image : Bytes) :
    (value depth flags image).isNull = false := by
  have hbit : flags &&& ~~~nullBit &&& nullBit = 0 := by
    rw [UInt16.and_assoc, show ~~~nullBit &&& nullBit = 0 by decide, UInt16.and_zero]
  simp [isNull, value, hbit]

@[simp] theorem isNull_null (depth flags : UInt16) : (null depth flags).isNull = true := by
  have hbit : (flags ||| nullBit) &&& nullBit = nullBit := by
    rw [← UInt16.toBitVec_inj]
    ext i
    simpa using Or.inr
  rw [isNull, null, hbit]
  decide

end Header

namespace Fetch

/-- The image of a level in a row, if neither the level nor one above it is NULL. -/
def imageAt (level : Nat) (row : Row) : Option Bytes :=
  if none ∈ row.take level then none else row[level]?.join

/-- The level of the first NULL of a row. -/
def firstNull? (row : Row) : Option Nat := row.findIdx? Option.isNone

/-- Whether it is a NULL of this level. -/
def Emission.isNullAt (level : Nat) : Emission → Bool
  | value .. => false
  | null l => l == level

/-! ### One row -/

@[simp] theorem imageAt_nil (level : Nat) : imageAt level [] = none := by
  simp [imageAt]

@[simp] theorem imageAt_cons_none (level : Nat) (rest : Row) :
    imageAt level (none :: rest) = none := by
  cases level <;> simp [imageAt]

@[simp] theorem imageAt_zero_cons (image : Bytes) (rest : Row) :
    imageAt 0 (some image :: rest) = some image := by
  simp [imageAt]

@[simp] theorem imageAt_succ_cons (level : Nat) (image : Bytes) (rest : Row) :
    imageAt (level + 1) (some image :: rest) = imageAt level rest := by
  simp [imageAt]

/-- A row gives the value of a level if it has an image there that is not the last one. -/
theorem values_emission (stored : List Emission) (row : Row) : ∀ level i,
    (emission stored level row).filterMap (Emission.valueAt (level + i)) =
      (imageAt i row).toList.filter fun image => lastValue (level + i) stored ≠ some image := by
  induction row with
  | nil => intro level i; simp [emission]
  | cons image rest ih =>
    intro level i
    cases image with
    | none => simp [emission, Emission.valueAt]
    | some image =>
      cases i with
      | zero =>
        -- The headers below are of other levels, so only this one counts.
        have hbelow : (emission stored (level + 1) rest).filterMap (Emission.valueAt level) = [] :=
          List.filterMap_eq_nil_iff.mpr fun e he =>
            valueAt_of_mem_emission he (Nat.lt_succ_self level)
        by_cases hsame : lastValue level stored = some image
        · simp [emission_cons_of_same hsame, hbelow, hsame]
        · simp [emission_cons_of_ne hsame, hbelow, hsame, Emission.valueAt]
      | succ i =>
        have hrest := ih (level + 1) i
        rw [Nat.add_right_comm] at hrest
        have hother : (Emission.value level image).valueAt (level + i + 1) = none :=
          if_neg (by omega)
        rw [imageAt_succ_cons, ← Nat.add_assoc, ← hrest]
        by_cases hsame : lastValue level stored = some image
        · rw [emission_cons_of_same hsame]
        · rw [emission_cons_of_ne hsame, List.filterMap_cons_none hother]

/-- A row gives a NULL of the level of its first NULL. -/
theorem nulls_emission (stored : List Emission) (row : Row) : ∀ level i,
    (emission stored level row).countP (Emission.isNullAt (level + i)) =
      if firstNull? row = some i then 1 else 0 := by
  induction row with
  | nil => intro level i; simp [emission, firstNull?]
  | cons image rest ih =>
    intro level i
    cases image with
    | none =>
      cases i <;> simp [emission, firstNull?, Emission.isNullAt, List.findIdx?_cons]
    | some image =>
      have hcount : (emission stored level (some image :: rest)).countP
          (Emission.isNullAt (level + i)) =
          (emission stored (level + 1) rest).countP (Emission.isNullAt (level + i)) := by
        by_cases hsame : lastValue level stored = some image
        · rw [emission_cons_of_same hsame]
        · rw [emission_cons_of_ne hsame]
          exact List.countP_cons_of_neg Bool.false_ne_true
      rw [hcount]
      cases i with
      | zero =>
        have hbelow : (emission stored (level + 1) rest).countP (Emission.isNullAt level) = 0 := by
          refine List.countP_eq_zero.mpr fun e he => ?_
          have hlevel := (level_of_mem_emission he).1
          cases e with
          | value => exact Bool.false_ne_true
          | null l => simpa [Emission.isNullAt, Emission.level] using (Nat.ne_of_gt hlevel)
        simpa [firstNull?, List.findIdx?_cons] using hbelow
      | succ i =>
        have hrest := ih (level + 1) i
        rw [Nat.add_right_comm] at hrest
        have hfirst : firstNull? (some image :: rest) = some (i + 1) ↔
            firstNull? rest = some i := by
          simp [firstNull?, List.findIdx?_cons]
        rw [← Nat.add_assoc, hrest]
        exact if_congr hfirst.symm rfl rfl

/-! ### All rows -/

/-- **The values of a level.** Those emitted for some rows are the images of the level in these
rows, without repetitions. The value emitted last before counts as one of them. -/
theorem values_emissions (level : Nat) (all : List Row) : ∀ stored,
    (lastValue level stored).toList ++
        (emissions stored all).filterMap (Emission.valueAt level) =
      ((lastValue level stored).toList ++ all.filterMap (imageAt level)).destutter (· ≠ ·) := by
  -- By induction on the rows. A row changes nothing but the value emitted last.
  induction all with
  | nil => intro stored; cases lastValue level stored <;> simp [emissions]
  | cons row rest ih =>
    intro stored
    have hnew := values_emission stored row 0 level
    have hrest := ih (stored ++ emission stored 0 row)
    rw [Nat.zero_add] at hnew
    rw [lastValue_append] at hrest
    rw [emissions, List.filterMap_append, List.filterMap_cons, hnew]
    rw [lastValue, hnew] at hrest
    cases himage : imageAt level row with
    | none => simpa [himage] using hrest
    | some image =>
      rw [himage] at hrest
      by_cases hsame : lastValue level stored = some image
      · simp only [hsame] at hrest ⊢
        simpa [destutter_cons_self] using hrest
      · have hkept :
            [image].filter (fun image => lastValue level stored ≠ some image) = [image] := by
          simpa using hsame
        rw [Option.toList_some, hkept] at hrest ⊢
        cases hlast : lastValue level stored with
        | none => simpa [hlast] using hrest
        | some last =>
          have hne : last ≠ image := fun heq => hsame (by rw [hlast, heq])
          simpa [hlast, destutter_cons_of_ne hne] using hrest

/-- **The NULLs of a level.** There is one for each row whose first NULL is there. -/
theorem nulls_emissions (level : Nat) (all : List Row) : ∀ stored,
    (emissions stored all).countP (Emission.isNullAt level) =
      all.countP fun row => firstNull? row = some level := by
  induction all with
  | nil => intro stored; rfl
  | cons row rest ih =>
    intro stored
    have hnew := nulls_emission stored row 0 level
    rw [Nat.zero_add] at hnew
    rw [emissions, List.countP_append, hnew, ih, List.countP_cons, Nat.add_comm]
    simp only [decide_eq_true_eq]

/-! ### Headers -/

variable {flags : Nat → UInt16} {level : Nat}

theorem isValueAt_header {e : Emission} (h : e.level < UInt16.size) :
    (e.header flags).isValueAt level = (e.valueAt level).isSome := by
  have hdepth : (e.header flags).depth.toNat = e.level := depth_header h
  rw [Header.isValueAt, hdepth]
  cases e with
  | value l image =>
    by_cases hl : l = level <;> simp [Emission.header, Emission.valueAt, Emission.level, hl]
  | null l => simp [Emission.header, Emission.valueAt]

theorem data_header {e : Emission} {image : Bytes} (h : e.valueAt level = some image) :
    (e.header flags).data = some image := by
  cases e with
  | null => exact nomatch h
  | value l other =>
    rw [Emission.valueAt, Option.ite_none_right_eq_some] at h
    exact h.2

theorem isNullAt_header {e : Emission} (h : e.level < UInt16.size) :
    (e.header flags).isNullAt level = e.isNullAt level := by
  have hdepth : (e.header flags).depth.toNat = e.level := depth_header h
  rw [Header.isNullAt, hdepth]
  cases e <;> simp [Emission.header, Emission.isNullAt, Emission.level]

/-- The headers that store images of a level store the values emitted at it. -/
theorem data_headers {emitted : List Emission} (h : ∀ e ∈ emitted, e.level < UInt16.size) :
    ((emitted.map (Emission.header flags)).filter (Header.isValueAt level)).map Header.data =
      (emitted.filterMap (Emission.valueAt level)).map some := by
  induction emitted with
  | nil => rfl
  | cons e rest ih =>
    have ih := ih fun other hother => h other (List.mem_cons_of_mem _ hother)
    have hvalue : (e.header flags).isValueAt level = (e.valueAt level).isSome :=
      isValueAt_header (h e List.mem_cons_self)
    rw [List.map_cons]
    cases himage : e.valueAt level with
    | none =>
      rw [himage] at hvalue
      rw [List.filter_cons_of_neg (by simp [hvalue]), List.filterMap_cons_none himage, ih]
    | some image =>
      rw [himage] at hvalue
      rw [List.filter_cons_of_pos hvalue, List.filterMap_cons_some himage, List.map_cons,
        data_header himage, ih, List.map_cons]

theorem countP_isNullAt_headers {emitted : List Emission}
    (h : ∀ e ∈ emitted, e.level < UInt16.size) :
    (emitted.map (Emission.header flags)).countP (Header.isNullAt level) =
      emitted.countP (Emission.isNullAt level) := by
  rw [List.countP_map]
  exact List.countP_congr fun e he => by rw [Function.comp_apply, isNullAt_header (h e he)]

end Fetch

end StorageClient
