import Mathlib.Data.List.Destutter
import Mathlib.Data.List.Sublists
import StorageClient.Proofs.Fetch.Drain
/-!
# StorageClient.Proofs.Fetch.Decoding

What the headers of a fetch tell about the rows that were joined.

Of a row a reader can expect what it *shows*: its images down to the first NULL (`visible`). Headers
are suppressed level by level, so they do not always tell even that: a row can be such that the same
headers are stored without it. A run that has no such rows *loses no row* (`LosesNoRow`), and its
headers can be read back (`decode`):

* the images of the levels that have no header are those stored last;
* a row ends with a NULL, or with a value that is followed by no deeper header.

`Apparent` says of a run that both is true of all of its rows. It is what reading back needs
(`decode_emissions`), and runs that lose no row have it (`apparent_of_losesNoRow`): from any other
run a row can be left out.
-/

namespace StorageClient.Fetch

/-- What a row shows: its images down to the first NULL. -/
def visible : Row → Row
  | [] => []
  | none :: _ => [none]
  | some image :: rest => some image :: visible rest

/-- What some rows show, without repetitions. -/
def shown (all : List Row) : List Row := (all.map visible).destutter (· ≠ ·)

/-- No rows can be left out so that the same headers are stored, but other rows are shown. -/
def LosesNoRow (all : List Row) : Prop :=
  ∀ kept, kept.Sublist all → emissions [] kept = emissions [] all → shown kept = shown all

instance (all : List Row) : Decidable (LosesNoRow all) :=
  decidable_of_iff
    (∀ kept ∈ all.sublists, emissions [] kept = emissions [] all → shown kept = shown all)
    (by simp only [List.mem_sublists, LosesNoRow])

/-- The images stored last for some levels from `level` on. -/
def lastRow (stored : List Emission) (level count : Nat) : Row :=
  (List.range' level count).map fun l => lastValue l stored

/-- After a value of `level` no header of a deeper level follows. -/
def endsAt (level : Nat) (rest : List Emission) : Bool := rest.head?.all fun e => e.level ≤ level

/-- The rows of a query with `n` levels, read from headers. -/
def decode (n : Nat) (stored : List Emission) : List Emission → List Row
  | [] => []
  | .null level :: rest =>
    (lastRow stored 0 level ++ [none]) :: decode n (stored ++ [.null level]) rest
  | .value level image :: rest =>
    let now := stored ++ [.value level image]
    if endsAt level rest then lastRow now 0 n :: decode n now rest else decode n now rest

/-- Where the headers `new` of a row are followed by `rest`, it can be seen that the row ends. -/
def Ends (new rest : List Emission) : Prop :=
  ∀ level image, new.getLast? = some (.value level image) → endsAt level rest = true

/-- Every row that differs from the one before has a header, and can be seen to end. -/
def Apparent (stored : List Emission) (before : Option Row) : List Row → Prop
  | [] => True
  | row :: rest =>
    let new := emission stored 0 row
    (new = [] → before = some (visible row)) ∧ Ends new (emissions (stored ++ new) rest) ∧
      Apparent (stored ++ new) (some (visible row)) rest

variable {stored : List Emission} {row : Row}

/-! ### Lists without repetitions -/

section Destutter

variable {α : Type} [DecidableEq α] {a b : α}

theorem destutter_cons_self (a : α) (l : List α) :
    (a :: a :: l).destutter (· ≠ ·) = (a :: l).destutter (· ≠ ·) :=
  if_neg (not_not.mpr rfl)

theorem destutter_cons_of_ne (h : a ≠ b) (l : List α) :
    (a :: b :: l).destutter (· ≠ ·) = a :: (b :: l).destutter (· ≠ ·) :=
  if_pos h

theorem destutter_append_congr {l l' : List α}
    (h : (a :: l).destutter (· ≠ ·) = (a :: l').destutter (· ≠ ·)) (before : List α) :
    (before ++ a :: l).destutter (· ≠ ·) = (before ++ a :: l').destutter (· ≠ ·) := by
  induction before with
  | nil => exact h
  | cons b before ih =>
    -- Whether `b` stays depends on the element after it, which is the same in both lists.
    obtain ⟨c, m, m', hm, hm'⟩ : ∃ c m m', before ++ a :: l = c :: m ∧
        before ++ a :: l' = c :: m' := by
      cases before with
      | nil => exact ⟨a, l, l', rfl, rfl⟩
      | cons c before => exact ⟨c, before ++ a :: l, before ++ a :: l', rfl, rfl⟩
    rw [hm, hm'] at ih
    rw [List.cons_append, List.cons_append, hm, hm']
    by_cases hb : b = c
    · rw [hb, destutter_cons_self, destutter_cons_self, ih]
    · rw [destutter_cons_of_ne hb, destutter_cons_of_ne hb, ih]

theorem length_destutter_cons {l : List α} (h : l.head? ≠ some a) :
    ((a :: l).destutter (· ≠ ·)).length = (l.destutter (· ≠ ·)).length + 1 := by
  cases l with
  | nil => rfl
  | cons b l =>
    have hne : a ≠ b := fun hab => h (hab ▸ rfl)
    rw [destutter_cons_of_ne hne, List.length_cons]

theorem length_destutter_cons_le (a : α) (l : List α) :
    ((a :: l).destutter (· ≠ ·)).length ≤ (l.destutter (· ≠ ·)).length + 1 := by
  by_cases h : l.head? = some a
  · obtain ⟨l, rfl⟩ := List.head?_eq_some_iff.mp h
    rw [destutter_cons_self]
    exact Nat.le_succ _
  · exact (length_destutter_cons h).le

theorem length_destutter_append_lt {l : List α} (h : l.head? ≠ some a) : ∀ {before : List α},
    before.getLast? ≠ some a →
    ((before ++ l).destutter (· ≠ ·)).length < ((before ++ a :: l).destutter (· ≠ ·)).length := by
  intro before hlast
  have hmissed := length_destutter_cons h
  induction before with
  | nil => rw [List.nil_append, List.nil_append]; omega
  | cons b before ih =>
    cases before with
    | nil =>
      have hne : b ≠ a := fun hba => hlast (hba ▸ rfl)
      have hle := length_destutter_cons_le b l
      simp only [List.cons_append, List.nil_append]
      rw [destutter_cons_of_ne hne, List.length_cons]
      omega
    | cons c before =>
      rw [List.getLast?_cons_cons] at hlast
      have ih := ih hlast
      simp only [List.cons_append] at ih ⊢
      by_cases hb : b = c
      · rwa [hb, destutter_cons_self, destutter_cons_self]
      · rw [destutter_cons_of_ne hb, destutter_cons_of_ne hb, List.length_cons, List.length_cons]
        omega

end Destutter

/-! ### The row stored last -/

theorem lastRow_succ (stored : List Emission) (level count : Nat) :
    lastRow stored level (count + 1) =
      lastValue level stored :: lastRow stored (level + 1) count := rfl

theorem lastRow_append (stored : List Emission) (level count more : Nat) :
    lastRow stored level (count + more) =
      lastRow stored level count ++ lastRow stored (level + count) more := by
  rw [lastRow, ← List.range'_append_1, List.map_append]
  rfl

theorem lastRow_congr {other : List Emission} {level count : Nat}
    (h : ∀ l, level ≤ l → l < level + count → lastValue l stored = lastValue l other) :
    lastRow stored level count = lastRow other level count :=
  List.map_congr_left fun l hl => by
    rw [List.mem_range'_1] at hl
    exact h l hl.1 hl.2

/-! ### The headers of a row -/

/-- Only what a row shows matters. -/
theorem emission_visible (row : Row) : ∀ level,
    emission stored level (visible row) = emission stored level row := by
  induction row with
  | nil => intro level; rfl
  | cons image rest ih =>
    intro level
    cases image with
    | none => rfl
    | some image => rw [visible, emission, emission, ih]

theorem emission_eq_of_visible_eq {other : Row} (h : visible row = visible other) (level : Nat) :
    emission stored level row = emission stored level other := by
  rw [← emission_visible row, h, emission_visible]

theorem pairwise_emission (stored : List Emission) (row : Row) : ∀ level,
    (emission stored level row).Pairwise fun e e' => e.level < e'.level := by
  induction row with
  | nil => intro level; exact .nil
  | cons image rest ih =>
    intro level
    cases image with
    | none => exact List.pairwise_singleton ..
    | some image =>
      rw [emission]
      split
      · exact ih _
      · exact .cons (fun e he => (level_of_mem_emission he).1) (ih _)

/-- A NULL is the last header of a row. -/
theorem getLast?_emission_of_mem (h : none ∈ row) : ∀ level,
    ∃ l, (emission stored level row).getLast? = some (.null l) := by
  induction row with
  | nil => exact nomatch h
  | cons image rest ih =>
    intro level
    cases image with
    | none => exact ⟨level, rfl⟩
    | some image =>
      have hrest : none ∈ rest := by simpa using h
      obtain ⟨l, hl⟩ := ih hrest (level + 1)
      rw [emission]
      split
      · exact ⟨l, hl⟩
      · exact ⟨l, by rw [List.getLast?_cons, hl]; rfl⟩

theorem not_mem_of_getLast? {level l : Nat} {image : Bytes}
    (h : (emission stored level row).getLast? = some (.value l image)) : none ∉ row := by
  intro hmem
  obtain ⟨l', hl'⟩ := getLast?_emission_of_mem hmem level
  exact nomatch hl'.symm.trans h

theorem lastValue_append_emission (level : Nat) (image : Bytes) (rest : Row) :
    lastValue level (stored ++ emission stored level (some image :: rest)) = some image := by
  have hbelow : ∀ e ∈ emission stored (level + 1) rest, e.valueAt level = none := fun e he =>
    valueAt_of_mem_emission he (Nat.lt_succ_self _)
  by_cases hsame : lastValue level stored = some image
  · rw [emission_cons_of_same hsame, lastValue_append_of_none hbelow, hsame]
  · rw [emission_cons_of_ne hsame, lastValue_append_value hbelow]

theorem emission_append_emission (level : Nat) (image : Bytes) (rest other : Row) :
    emission (stored ++ emission stored level (some image :: rest)) (level + 1) other =
      emission (stored ++ emission stored (level + 1) rest) (level + 1) other := by
  by_cases hsame : lastValue level stored = some image
  · rw [emission_cons_of_same hsame]
  · rw [emission_cons_of_ne hsame, emission_append_value]

/-- A row without NULL stores nothing when it comes again. -/
theorem emission_again (stored : List Emission) (h : none ∉ row) : ∀ level,
    emission (stored ++ emission stored level row) level row = [] := by
  induction row with
  | nil => intro level; rfl
  | cons image rest ih =>
    intro level
    rw [List.mem_cons, not_or] at h
    obtain ⟨image, rfl⟩ := Option.ne_none_iff_exists'.mp (Ne.symm h.1)
    rw [emission_cons_of_same (lastValue_append_emission level image rest),
      emission_append_emission]
    exact ih h.2 (level + 1)

/-- A row that stores nothing shows what was stored last. -/
theorem visible_of_emission_eq_nil : ∀ {level}, emission stored level row = [] →
    visible row = lastRow stored level row.length := by
  induction row with
  | nil => intro level _; rfl
  | cons image rest ih =>
    intro level h
    cases image with
    | none => exact nomatch h
    | some image =>
      by_cases hsame : lastValue level stored = some image
      · rw [emission_cons_of_same hsame] at h
        rw [visible, ih h, List.length_cons, lastRow_succ, hsame]
      · rw [emission_cons_of_ne hsame] at h
        exact nomatch h

/-- If the headers of a row without NULL are of levels above those of the row after it, they are
also stored if that row is left out. -/
theorem emission_skip (h : none ∉ row) : ∀ {level} {other : Row}, row.length = other.length →
    (∀ e ∈ emission stored level row,
      ∀ e' ∈ emission (stored ++ emission stored level row) level other, e.level < e'.level) →
    emission stored level other =
      emission stored level row ++ emission (stored ++ emission stored level row) level other := by
  induction row with
  | nil =>
    intro level other hlen _
    obtain rfl := List.length_eq_zero_iff.mp hlen.symm
    rfl
  | cons image rest ih =>
    intro level other hlen hlevels
    rw [List.mem_cons, not_or] at h
    obtain ⟨image, rfl⟩ := Option.ne_none_iff_exists'.mp (Ne.symm h.1)
    cases hnew : emission stored level (some image :: rest) with
    | nil => simp
    | cons e more =>
      rw [← hnew]
      -- The row has a header, so the other one has none at this level: its image is the same.
      have hfirst : ∀ e' ∈ emission (stored ++ emission stored level (some image :: rest)) level
          other, level < e'.level := fun e' he' => by
        have he : e ∈ emission stored level (some image :: rest) := hnew ▸ List.mem_cons_self
        exact Nat.lt_of_le_of_lt (level_of_mem_emission he).1 (hlevels e he e' he')
      obtain _ | ⟨_ | image', rest'⟩ := other
      · exact nomatch hlen
      · exact absurd (hfirst (.null level) List.mem_cons_self) (Nat.lt_irrefl level)
      have hsame' : lastValue level (stored ++ emission stored level (some image :: rest)) =
          some image' := by
        by_contra hne
        have hmem := hfirst (.value level image')
        rw [emission_cons_of_ne hne] at hmem
        exact Nat.lt_irrefl level (hmem List.mem_cons_self)
      obtain rfl := Option.some.inj ((lastValue_append_emission level image rest).symm.trans hsame')
      rw [emission_cons_of_same hsame', emission_append_emission] at hlevels ⊢
      have hrest : emission stored (level + 1) rest' = emission stored (level + 1) rest ++
          emission (stored ++ emission stored (level + 1) rest) (level + 1) rest' := by
        refine ih h.2 (Nat.succ.inj hlen) fun e he => hlevels e ?_
        by_cases hsame : lastValue level stored = some image
        · rwa [emission_cons_of_same hsame]
        · rw [emission_cons_of_ne hsame]
          exact List.mem_cons_of_mem _ he
      by_cases hsame : lastValue level stored = some image
      · rw [emission_cons_of_same hsame, emission_cons_of_same hsame, hrest]
      · rw [emission_cons_of_ne hsame, emission_cons_of_ne hsame, List.cons_append, ← hrest]

/-! ### Reading back -/

theorem endsAt_append_of_ne_nil {level : Nat} {new rest : List Emission} (h : new ≠ []) :
    endsAt level (new ++ rest) = endsAt level new := by
  obtain ⟨e, more, rfl⟩ := List.exists_cons_of_ne_nil h
  rfl

theorem endsAt_emission {level : Nat} (h : emission stored (level + 1) row ≠ []) :
    endsAt level (emission stored (level + 1) row) = false := by
  obtain ⟨e, more, hnew⟩ := List.exists_cons_of_ne_nil h
  have he := (level_of_mem_emission (hnew ▸ List.mem_cons_self : e ∈ _)).1
  rw [hnew, endsAt, List.head?_cons, Option.all_some, decide_eq_false_iff_not]
  omega

/-- The images above a level and what a row shows from there on, when nothing more is stored. -/
theorem lastRow_of_emission_eq_nil {level : Nat} (h : emission stored level row = []) :
    lastRow stored 0 level ++ visible row = lastRow stored 0 (level + row.length) := by
  rw [visible_of_emission_eq_nil h, lastRow_append, Nat.zero_add]

theorem lastRow_append_value {level : Nat} {image : Bytes} :
    lastRow (stored ++ [.value level image]) 0 (level + 1) =
      lastRow stored 0 level ++ [some image] := by
  have habove : lastRow (stored ++ [.value level image]) 0 level = lastRow stored 0 level :=
    lastRow_congr fun l _ hl => by
      rw [lastValue_append_value_of_ne (by omega), List.append_nil]
  have hlast : lastValue level (stored ++ [.value level image]) = some image :=
    lastValue_append_value fun e he => nomatch he
  rw [lastRow_append, habove, Nat.zero_add, lastRow_succ, hlast]
  rfl

/-- A row with headers is read back, with the images above stored before. -/
theorem decode_emission {n : Nat} {rest : List Emission} : ∀ {row : Row} {level : Nat}
    {stored : List Emission}, level + row.length = n → emission stored level row ≠ [] →
    Ends (emission stored level row) rest →
    decode n stored (emission stored level row ++ rest) =
      (lastRow stored 0 level ++ visible row) ::
        decode n (stored ++ emission stored level row) rest := by
  intro row
  induction row with
  | nil => intro level stored _ hne _; exact absurd rfl hne
  | cons image below ih =>
    intro level stored hlen hne hends
    rw [List.length_cons] at hlen
    cases image with
    | none => rfl
    | some image =>
      -- A level without a header shows what was stored last, as the levels above do.
      by_cases hsame : lastValue level stored = some image
      · rw [emission_cons_of_same hsame] at hne hends ⊢
        have habove : lastRow stored 0 (level + 1) = lastRow stored 0 level ++ [some image] := by
          rw [lastRow_append, Nat.zero_add, lastRow_succ, hsame]
          rfl
        rw [ih (by omega) hne hends, visible, habove, List.append_assoc, List.singleton_append]
      · rw [emission_cons_of_ne hsame] at hends ⊢
        have hbelow : emission stored (level + 1) below =
            emission (stored ++ [.value level image]) (level + 1) below := by
          rw [emission_append_value, List.append_nil]
        rw [hbelow] at hends ⊢
        rw [List.cons_append, decode]
        by_cases hnew : emission (stored ++ [.value level image]) (level + 1) below = []
        · -- The header is the last one of the row.
          rw [hnew] at hends ⊢
          have hrow := lastRow_of_emission_eq_nil hnew
          rw [lastRow_append_value, List.append_assoc, List.singleton_append,
            show level + 1 + below.length = n by omega] at hrow
          rw [List.nil_append, if_pos (hends level image rfl), ← hrow, visible]
        · -- A deeper header of the row follows.
          have hends' : Ends (emission (stored ++ [.value level image]) (level + 1) below)
              rest := by
            intro l other hlast
            refine hends l other ?_
            rw [List.getLast?_cons, hlast]
            rfl
          have hdeeper : endsAt level
              (emission (stored ++ [.value level image]) (level + 1) below ++ rest) ≠ true := by
            rw [endsAt_append_of_ne_nil hnew, endsAt_emission hnew]
            exact Bool.false_ne_true
          rw [if_neg hdeeper, ih (by omega) hnew hends', lastRow_append_value, visible,
            List.append_assoc, List.append_assoc]
          rfl

/-- The rows of a run that are all apparent are read back, without the repetitions. -/
theorem decode_emissions {n : Nat} {all : List Row} (hall : ∀ row ∈ all, row.length = n) :
    ∀ {stored : List Emission} {before : Option Row}, Apparent stored before all →
      (before.toList ++ decode n stored (emissions stored all)).destutter (· ≠ ·) =
        (before.toList ++ all.map visible).destutter (· ≠ ·) := by
  induction all with
  | nil => intro stored before _; rfl
  | cons row rest ih =>
    intro stored before h
    obtain ⟨hshows, hends, hrest⟩ := h
    have hlen := hall row List.mem_cons_self
    have ih := ih (fun row hrow => hall row (List.mem_cons_of_mem _ hrow)) hrest
    rw [Option.toList_some, List.singleton_append, List.singleton_append] at ih
    rw [emissions, List.map_cons]
    -- A row without headers repeats the one before; any other row is read from its headers.
    by_cases hnew : emission stored 0 row = []
    · obtain rfl := hshows hnew
      rw [hnew, List.append_nil] at ih
      rw [hnew, List.append_nil, Option.toList_some, List.singleton_append, List.singleton_append,
        List.nil_append, destutter_cons_self]
      exact ih
    · rw [decode_emission (by rwa [Nat.zero_add]) hnew hends]
      exact destutter_append_congr ih before.toList

/-! ### Rows that can be left out -/

theorem emissions_append (stored : List Emission) (all more : List Row) :
    emissions stored (all ++ more) =
      emissions stored all ++ emissions (stored ++ emissions stored all) more := by
  induction all generalizing stored with
  | nil => simp [emissions]
  | cons row rest ih => simp [emissions, ih]

/-- The rows after one, from the first that shows something else. -/
def afterRepetitions (row : Row) (rest : List Row) : List Row :=
  rest.dropWhile fun other => visible other = visible row

theorem emissions_afterRepetitions (h : emission stored 0 row = []) (rest : List Row) :
    emissions stored (afterRepetitions row rest) = emissions stored rest := by
  induction rest with
  | nil => rfl
  | cons other rest ih =>
    rw [afterRepetitions, List.dropWhile_cons]
    split
    · rename_i hsame
      have hnone : emission stored 0 other = [] := by
        rw [emission_eq_of_visible_eq (of_decide_eq_true hsame), h]
      rw [emissions, hnone, List.append_nil, List.nil_append]
      exact ih
    · rfl

theorem destutter_afterRepetitions (row : Row) (rest : List Row) :
    (visible row :: (afterRepetitions row rest).map visible).destutter (· ≠ ·) =
      (visible row :: rest.map visible).destutter (· ≠ ·) := by
  induction rest with
  | nil => rfl
  | cons other rest ih =>
    rw [afterRepetitions, List.dropWhile_cons]
    split
    · rename_i hsame
      rw [List.map_cons, of_decide_eq_true hsame, destutter_cons_self]
      exact ih
    · rfl

theorem head?_afterRepetitions (row : Row) (rest : List Row) :
    ((afterRepetitions row rest).map visible).head? ≠ some (visible row) := by
  intro h
  rw [List.head?_map, Option.map_eq_some_iff] at h
  obtain ⟨other, hother, hsame⟩ := h
  have hne := List.head?_dropWhile_not (fun other => visible other = visible row) rest
  rw [afterRepetitions] at hother
  rw [hother] at hne
  exact absurd (decide_eq_true hsame) (by simp [hne])

/-- Without a row and its repetitions, other rows are shown. -/
theorem shown_ne {before : List Row} (rest : List Row)
    (h : (before.map visible).getLast? ≠ some (visible row)) :
    shown (before ++ afterRepetitions row rest) ≠ shown (before ++ row :: rest) := by
  have hlt := length_destutter_append_lt (head?_afterRepetitions row rest) h
  rw [destutter_append_congr (destutter_afterRepetitions row rest)] at hlt
  intro hsame
  rw [shown, shown, List.map_append, List.map_append, List.map_cons] at hsame
  exact Nat.ne_of_lt hlt (congrArg List.length hsame)

theorem sublist_afterRepetitions (before : List Row) (row : Row) (rest : List Row) :
    (before ++ afterRepetitions row rest).Sublist (before ++ row :: rest) :=
  (((List.dropWhile_sublist _).cons row)).append_left before

/-! ### Runs that lose no row -/

/-- In a run that loses no row, every row that differs from the one before has a header. -/
theorem LosesNoRow.shows {before rest : List Row} (h : LosesNoRow (before ++ row :: rest))
    (hnew : emission (emissions [] before) 0 row = []) :
    (before.map visible).getLast? = some (visible row) := by
  by_contra hne
  refine shown_ne rest hne (h _ (sublist_afterRepetitions before row rest) ?_)
  rw [emissions_append, emissions_append, List.nil_append, emissions, hnew, List.append_nil,
    List.nil_append, emissions_afterRepetitions hnew]

/-- A row with headers but without NULL differs from the one before. -/
theorem ne_getLast?_of_emission_ne_nil {before : List Row} (hfull : none ∉ row)
    (hnew : emission (emissions [] before) 0 row ≠ []) :
    (before.map visible).getLast? ≠ some (visible row) := by
  intro hlast
  rw [List.getLast?_map, Option.map_eq_some_iff] at hlast
  obtain ⟨last, hlast, hsame⟩ := hlast
  obtain ⟨first, rfl⟩ := List.getLast?_eq_some_iff.mp hlast
  refine hnew ?_
  rw [emissions_append, List.nil_append, emissions, emissions, List.append_nil,
    emission_eq_of_visible_eq hsame]
  exact emission_again _ hfull 0

theorem LosesNoRow.of_sublist {all kept : List Row} (h : LosesNoRow all)
    (hkept : kept.Sublist all) (hsame : emissions [] kept = emissions [] all) :
    LosesNoRow kept := by
  intro fewer hfewer hfewerSame
  rw [h fewer (hfewer.trans hkept) (hfewerSame.trans hsame), h kept hkept hsame]

/-- If the headers of a row end with a value, and those of the row after it start with a deeper
level, then all levels of the one are above those of the other. -/
theorem level_lt_of_deeper {other : Row} {level : Nat} {image : Bytes}
    (hlast : (emission stored 0 row).getLast? = some (.value level image))
    {before : List Emission} (hne : emission before 0 other ≠ [])
    (hdeeper : endsAt level (emission before 0 other) ≠ true) :
    ∀ e ∈ emission stored 0 row, ∀ e' ∈ emission before 0 other, e.level < e'.level := by
  intro e he e' he'
  have hsorted := pairwise_emission stored row 0
  have hsorted' := pairwise_emission before other 0
  obtain ⟨first, hfirst⟩ := List.getLast?_eq_some_iff.mp hlast
  obtain ⟨next, later, hnext⟩ := List.exists_cons_of_ne_nil hne
  rw [hfirst] at hsorted he
  rw [hnext] at hsorted' hdeeper he'
  have hle : e.level ≤ level := by
    rcases List.mem_append.mp he with he | he
    · exact ((List.pairwise_append.mp hsorted).2.2 e he _ List.mem_cons_self).le
    · rw [List.mem_singleton.mp he]
      rfl
  have hlt : level < next.level := by
    rw [endsAt, List.head?_cons, Option.all_some, Ne, decide_eq_true_eq] at hdeeper
    omega
  rcases List.mem_cons.mp he' with rfl | he'
  · omega
  · have := (List.pairwise_cons.mp hsorted').1 e' he'
    omega

/-- In a run that loses no row, it can be seen of a row that it ends before one that differs. -/
theorem LosesNoRow.ends_of_ne {before later : List Row} {other : Row}
    (h : LosesNoRow (before ++ row :: other :: later)) (hlen : row.length = other.length)
    (hdiffers : visible other ≠ visible row) :
    Ends (emission (emissions [] before) 0 row)
      (emissions (emissions [] before ++ emission (emissions [] before) 0 row)
        (other :: later)) := by
  intro level image hlast
  by_contra hdeeper
  have hfull := not_mem_of_getLast? hlast
  have hne : (before.map visible).getLast? ≠ some (visible row) :=
    ne_getLast?_of_emission_ne_nil hfull fun hnil => by
      rw [hnil] at hlast
      exact nomatch hlast
  -- The row after it has headers, and the first of them is of a deeper level.
  have hnew : emission (emissions [] before ++ emission (emissions [] before) 0 row) 0 other ≠
      [] := by
    intro hnil
    have hlost : LosesNoRow ((before ++ [row]) ++ other :: later) := by
      rwa [List.append_assoc]
    have hsame := hlost.shows (by
      rwa [emissions_append, List.nil_append, emissions, emissions, List.append_nil])
    rw [List.map_append, List.map_singleton, List.getLast?_concat] at hsame
    exact hdiffers (Option.some.inj hsame).symm
  rw [emissions, endsAt_append_of_ne_nil hnew] at hdeeper
  -- So it has all headers of this row, too, if this row is left out.
  have hskip := emission_skip hfull hlen (level_lt_of_deeper hlast hnew hdeeper)
  have hafter : afterRepetitions row (other :: later) = other :: later :=
    List.dropWhile_cons_of_neg (by rwa [decide_eq_true_eq])
  have hsub := sublist_afterRepetitions before row (other :: later)
  have hshown := shown_ne (other :: later) hne
  rw [hafter] at hsub hshown
  refine hshown (h _ hsub ?_)
  rw [emissions_append, emissions_append, List.nil_append, emissions, emissions, emissions, hskip]
  simp only [List.append_assoc]

/-- In a run that loses no row, it can be seen of every row that it ends. -/
theorem LosesNoRow.ends {before rest : List Row} (h : LosesNoRow (before ++ row :: rest))
    (hrest : ∀ other ∈ rest, row.length = other.length) :
    Ends (emission (emissions [] before) 0 row)
      (emissions (emissions [] before ++ emission (emissions [] before) 0 row) rest) := by
  intro level image hlast
  have hfull := not_mem_of_getLast? hlast
  -- The repetitions of the row have no headers.
  have hsub : (afterRepetitions row rest).Sublist rest := List.dropWhile_sublist _
  have hafter := emissions_afterRepetitions (emission_again (emissions [] before) hfull 0) rest
  have hkept : LosesNoRow (before ++ row :: afterRepetitions row rest) := by
    refine h.of_sublist ((hsub.cons_cons row).append_left before) ?_
    rw [emissions_append, emissions_append, List.nil_append, emissions, emissions, hafter]
  have hdiffers := head?_afterRepetitions row rest
  rw [← hafter]
  cases hrows : afterRepetitions row rest with
  | nil => rfl
  | cons other later =>
    rw [hrows] at hkept hdiffers hsub
    have hlen := hrest other (hsub.mem List.mem_cons_self)
    exact hkept.ends_of_ne hlen (fun hsame => hdiffers (congrArg some hsame)) level image hlast

/-- Runs that lose no row are apparent. -/
theorem apparent_of_losesNoRow {n : Nat} (rest : List Row) : ∀ before : List Row,
    LosesNoRow (before ++ rest) → (∀ row ∈ rest, row.length = n) →
    Apparent (emissions [] before) (before.map visible).getLast? rest := by
  induction rest with
  | nil => intro before _ _; trivial
  | cons row rest ih =>
    intro before h hall
    have hrest : ∀ other ∈ rest, row.length = other.length := fun other hother => by
      rw [hall row List.mem_cons_self, hall other (List.mem_cons_of_mem _ hother)]
    have hnext := ih (before ++ [row]) (by rwa [List.append_assoc])
      (fun other hother => hall other (List.mem_cons_of_mem _ hother))
    refine ⟨h.shows, h.ends hrest, ?_⟩
    rwa [emissions_append, List.map_append, List.map_singleton, List.getLast?_concat,
      List.nil_append, emissions, emissions, List.append_nil] at hnext

/-- **Reading back.** The headers of a run that loses no row tell the rows it shows. -/
theorem destutter_decode {n : Nat} {all : List Row} (h : LosesNoRow all)
    (hall : ∀ row ∈ all, row.length = n) :
    (decode n [] (emissions [] all)).destutter (· ≠ ·) = shown all := by
  have happarent := apparent_of_losesNoRow all [] h hall
  exact decode_emissions hall happarent

theorem shown_eq_of_emissions_eq {n : Nat} {all other : List Row} (h : LosesNoRow all)
    (h' : LosesNoRow other) (hall : ∀ row ∈ all, row.length = n)
    (hother : ∀ row ∈ other, row.length = n) (heq : emissions [] all = emissions [] other) :
    shown all = shown other := by
  rw [← destutter_decode h hall, ← destutter_decode h' hother, heq]

/-! ### Cursors that leave rows out -/

def cellOf : Option Bytes → Cell
  | some image => ⟨false, .fill image⟩
  | none => ⟨true, .keep⟩

def cursorOver (all : List Row) : Cursor := ⟨all.map fun row => .row (row.map cellOf), .complete⟩

/-- The images of a row have the sizes of the buffers. -/
def Fits (sizes : List Nat) (row : Row) : Prop :=
  List.Forall₂ (fun size image? => ∀ image ∈ image?, image.length = size) sizes row

theorem sizes_writeImages (cells : List Cell) (images : List Bytes) :
    (writeImages cells images).map List.length = images.map List.length := by
  induction images generalizing cells with
  | nil => cases cells <;> rfl
  | cons image images ih =>
    cases cells with
    | nil => rfl
    | cons cell cells => simp [writeImages, ih]

theorem fits_present (cells : List Cell) (images : List Bytes) : ∀ level,
    Fits (images.map List.length) (present cells level images) := by
  induction images with
  | nil => intro level; exact .nil
  | cons image images ih =>
    intro level
    refine .cons (fun shown hshown => ?_) (ih (level + 1))
    split at hshown
    · exact nomatch hshown
    · rw [Option.some.inj hshown]

theorem fits_of_mem_rows {answers : List Cursor.Answer} {images : List Bytes}
    (h : row ∈ rows images answers) : Fits (images.map List.length) row := by
  induction answers generalizing images with
  | nil => exact nomatch h
  | cons answer rest ih =>
    cases answer with
    | empty => exact ih h
    | panic text => exact ih h
    | row cells =>
      rw [← sizes_writeImages cells]
      rcases List.mem_cons.mp h with rfl | h
      · exact fits_present cells _ 0
      · exact ih h

theorem present_cellOf (cells : List Cell) : ∀ {images : List Bytes} {row : Row} {level : Nat},
    cells.drop level = row.map cellOf → Fits (images.map List.length) row →
    present cells level (writeImages (row.map cellOf) images) = row := by
  intro images
  induction images with
  | nil =>
    intro row level _ hfits
    obtain rfl := List.forall₂_nil_left_iff.mp hfits
    rfl
  | cons image images ih =>
    intro row level hcells hfits
    obtain ⟨image?, rest, himage, hrest, rfl⟩ := List.forall₂_cons_left_iff.mp hfits
    have hhead : cells[level]? = some (cellOf image?) := by
      rw [← List.head?_drop, hcells]
      rfl
    have htail : cells.drop (level + 1) = rest.map cellOf := by
      rw [← List.tail_drop, hcells]
      rfl
    rw [List.map_cons, writeImages, present, ih htail hrest, isRowNull, hhead]
    cases image? with
    | none => rfl
    | some shown =>
      have hfit : (cellOf (some shown)).write.apply image = shown :=
        Bytes.fit_of_length_eq (himage shown rfl)
      rw [hfit]
      rfl

theorem rows_cursorOver : ∀ {all : List Row} {images : List Bytes},
    (∀ row ∈ all, Fits (images.map List.length) row) →
    rows images (cursorOver all).answers = all := by
  intro all
  induction all with
  | nil => intro images _; rfl
  | cons row rest ih =>
    intro images hfits
    have hrow := present_cellOf (row.map cellOf) List.drop_zero (hfits row List.mem_cons_self)
    have hrest : rows (writeImages (row.map cellOf) images) (cursorOver rest).answers = rest := by
      refine ih fun other hother => ?_
      rw [sizes_writeImages]
      exact hfits other (List.mem_cons_of_mem _ hother)
    rw [cursorOver, List.map_cons, rows, hrow]
    exact congrArg (row :: ·) hrest

end StorageClient.Fetch

namespace StorageClient.Executor

open Fetch (LosesNoRow shown)

/-- **The headers tell which rows were joined.** Two fetches over one prepared query, both come to
their end, that lose no row and store the same headers, were presented with rows that show the same,
apart from repetitions. -/
theorem shown_eq_of_headers_eq {query : Query} {cursor cursor' : Cursor}
    {executor executor' : Executor} (hq : query.Prepared) (hs : executor.Started query cursor)
    (hs' : executor'.Started query cursor')
    (hdrained : (fetchAll executor).value.2.phase = .drained)
    (hdrained' : (fetchAll executor').value.2.phase = .drained)
    (hrows : LosesNoRow (executor.presented cursor))
    (hrows' : LosesNoRow (executor'.presented cursor'))
    (heq : (fetchAll executor).value.2.results.headers =
      (fetchAll executor').value.2.results.headers) :
    shown (executor.presented cursor) = shown (executor'.presented cursor') := by
  have hholds := hs.holds hq.isChain (calm_of_drained hs.1 hdrained)
  have hholds' := hs'.holds hq.isChain (calm_of_drained hs'.1 hdrained')
  have hmax := hq.levels_lt_size
  -- The headers tell what was emitted, because there are few levels.
  have hemitted : Fetch.emissions [] (executor.presented cursor) =
      Fetch.emissions [] (executor'.presented cursor') := by
    refine Fetch.eq_of_map_header_eq (fun e he => ?_) (fun e he => ?_)
      (hholds.symm.trans ((congrArg Array.toList heq).trans hholds'))
    · exact Nat.lt_trans (Fetch.level_of_mem_emissions (fun row => hs.length_of_mem_rows) he) hmax
    · exact Nat.lt_trans (Fetch.level_of_mem_emissions (fun row => hs'.length_of_mem_rows) he) hmax
  exact Fetch.shown_eq_of_emissions_eq hrows hrows' (fun row => hs.length_of_mem_rows)
    (fun row => hs'.length_of_mem_rows) hemitted

/-- A customer with two orders, and another one without. -/
theorem shown_eq_of_headers_eq_orders :
    let cursor : Cursor := ⟨[orderRow (some 1) (some 10), orderRow (some 1) (some 11),
      orderRow (some 2) none], .complete⟩
    let cursor' : Cursor := ⟨[orderRow (some 1) (some 10), .empty, orderRow (some 1) (some 10),
      orderRow (some 1) (some 11), orderRow (some 2) none], .complete⟩
    let executor := ordersExecutor cursor
    let executor' := ordersExecutor cursor'
    ordersQuery.Prepared ∧ executor.Started ordersQuery cursor ∧
      executor'.Started ordersQuery cursor' ∧
      (fetchAll executor).value.2.phase = .drained ∧
      (fetchAll executor').value.2.phase = .drained ∧
      LosesNoRow (executor.presented cursor) ∧ LosesNoRow (executor'.presented cursor') ∧
      (fetchAll executor).value.2.results.headers = (fetchAll executor').value.2.results.headers ∧
      shown (executor.presented cursor) = shown (executor'.presented cursor') := by
  intro cursor cursor' executor executor'
  have hs := started_ordersExecutor cursor
  have hs' := started_ordersExecutor cursor'
  have hrows : LosesNoRow (executor.presented cursor) := by decide
  have hrows' : LosesNoRow (executor'.presented cursor') := by decide
  exact ⟨prepared_ordersQuery, hs, hs', rfl, rfl, hrows, hrows', rfl,
    shown_eq_of_headers_eq prepared_ordersQuery hs hs' rfl rfl hrows hrows' rfl⟩

/-- An order that two customers share is stored for the first one only: if the second one has
another order, nothing tells that it has this one, too. -/
theorem headers_eq_of_shared_order :
    let cursor : Cursor := ⟨[orderRow (some 1) (some 10), orderRow (some 2) (some 10),
      orderRow (some 2) (some 20)], .complete⟩
    let cursor' : Cursor := ⟨[orderRow (some 1) (some 10), orderRow (some 2) (some 20)], .complete⟩
    let executor := ordersExecutor cursor
    let executor' := ordersExecutor cursor'
    ordersQuery.Prepared ∧ executor.Started ordersQuery cursor ∧
      executor'.Started ordersQuery cursor' ∧
      (fetchAll executor).value.2.phase = .drained ∧
      (fetchAll executor').value.2.phase = .drained ∧
      (fetchAll executor).value.2.results.headers = (fetchAll executor').value.2.results.headers ∧
      shown (executor.presented cursor) ≠ shown (executor'.presented cursor') := by
  intro cursor cursor' executor executor'
  exact ⟨prepared_ordersQuery, started_ordersExecutor cursor, started_ordersExecutor cursor', rfl,
    rfl, rfl, by decide⟩

/-- The condition is sharp: to a fetch that loses a row there is one that stores the same headers,
and was presented with rows that show something else. -/
theorem exists_headers_eq_of_lost_row {query : Query} {cursor : Cursor} {executor : Executor}
    (hq : query.Prepared) (hs : executor.Started query cursor)
    (hdrained : (fetchAll executor).value.2.phase = .drained)
    (hlost : ¬ LosesNoRow (executor.presented cursor)) :
    ∃ (cursor' : Cursor) (executor' : Executor), executor'.Started query cursor' ∧
      (fetchAll executor').value.2.phase = .drained ∧
      (fetchAll executor').value.2.results.headers = (fetchAll executor).value.2.results.headers ∧
      shown (executor'.presented cursor') ≠ shown (executor.presented cursor) := by
  simp only [LosesNoRow, Classical.not_forall] at hlost
  obtain ⟨kept, hkept, hsame, hshown⟩ := hlost
  have hs' := hs.withCursor (Fetch.cursorOver kept)
  have hcalm : ∀ answer ∈ (Fetch.cursorOver kept).answers, answer.isCalm = true := by
    intro answer hanswer
    obtain ⟨row, -, rfl⟩ := List.mem_map.mp hanswer
    rfl
  -- The rows that are kept fit into the buffers, so a cursor can present them alone.
  have hrows : presented { executor with phase := .fetching (some (Fetch.cursorOver kept)) }
      (Fetch.cursorOver kept) = kept :=
    Fetch.rows_cursorOver fun row hrow => Fetch.fits_of_mem_rows (hkept.mem hrow)
  have hholds := hs.holds hq.isChain (calm_of_drained hs.1 hdrained)
  have hholds' := hs'.holds hq.isChain hcalm
  refine ⟨Fetch.cursorOver kept, _, hs', ?_, ?_, ?_⟩
  · rw [value_fetchAll hs'.1 hcalm]
    rfl
  · rw [hrows, hsame] at hholds'
    exact Array.ext' (hholds'.trans hholds.symm)
  · rwa [hrows]

end StorageClient.Executor
