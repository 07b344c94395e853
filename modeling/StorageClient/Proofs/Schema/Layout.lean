import Mathlib.Algebra.Ring.Nat
import Mathlib.Order.Bounds.Basic
import StorageClient.Schema.Record
/-!
# StorageClient.Proofs.Schema.Layout

What the layout of a record says about its row images. Three facts are kept apart: how far a row
has to reach (`rowSize_le_iff`, over columns that may lie anywhere), what the value of a name is in
a row of any length (`value?_eq_some_iff`, `value?_eq_none_iff`), and where `Record.packed` puts
the columns (`getElem?_packedColumns`, `rowSize_packed`, `flatten_packedColumns`).
`layout_covers_rows` puts them together: the row size is the least that holds every column, and
the values of packed columns are the row, cut into pieces.

Offsets and lengths are natural numbers; the end of a column is never taken modulo a word.
-/

namespace StorageClient

/-- `value` is what `row` has in the octets of a column: the row reaches to the column's end, and
the value is as long as the column and agrees with the row from the column's start on. -/
structure Column.Holds (column : Column) (row value : Bytes) : Prop where
  reaches : column.stop ≤ row.length
  length : value.length = column.length
  octet : ∀ n, n < column.length → value[n]? = row[column.offset + n]?

/-- A slice at the place of a column is what the row has there. -/
theorem Column.slice?_eq_some_iff {column : Column} {row value : Bytes} :
    Bytes.slice? row column.offset column.length = some value ↔ column.Holds row value := by
  rw [Bytes.slice?_eq_some_iff]
  constructor
  · rintro ⟨reaches, rfl⟩
    refine ⟨reaches, ?_, fun n below => ?_⟩
    · rw [List.length_take, List.length_drop]
      omega
    · rw [List.getElem?_take_of_lt below, List.getElem?_drop]
  · intro held
    refine ⟨held.reaches, List.ext_getElem? fun n => ?_⟩
    by_cases below : n < column.length
    · rw [held.octet n below, List.getElem?_take_of_lt below, List.getElem?_drop]
    · have past : column.length ≤ n := Nat.le_of_not_lt below
      rw [List.getElem?_eq_none (held.length ▸ past), List.getElem?_take_eq_none past]

namespace Record

/-! ### The size of a row -/

/-- A size bounds the fold behind `rowSize` when it bounds where the fold starts and every
column. -/
theorem foldl_stop_le_iff (columns : List Column) (start size : Nat) :
    columns.foldl (fun size column => max size column.stop) start ≤ size ↔
      start ≤ size ∧ ∀ column ∈ columns, column.stop ≤ size := by
  induction columns generalizing start with
  | nil => simp
  | cons column rest ih =>
    rw [List.foldl_cons, ih, Nat.max_le, List.forall_mem_cons, and_assoc]

/-- A row is large enough exactly when it reaches to the end of every column. -/
theorem rowSize_le_iff {record : Record} {size : Nat} :
    record.rowSize ≤ size ↔ ∀ column ∈ record.columns, column.stop ≤ size := by
  rw [rowSize, foldl_stop_le_iff]
  exact and_iff_right (Nat.zero_le size)

/-! ### The value of a name -/

/-- `column` is the first of the record's columns with this name. -/
def FirstNamed (record : Record) (name : String) (column : Column) : Prop :=
  column.name = name ∧ ∃ before after, record.columns = before ++ column :: after ∧
    ∀ earlier ∈ before, earlier.name ≠ name

/-- The column of a name is the first one that has it. -/
theorem column?_eq_some_iff {record : Record} {name : String} {column : Column} :
    record.column? name = some column ↔ record.FirstNamed name column := by
  simp only [column?, List.find?_eq_some_iff_append, FirstNamed, beq_iff_eq, Bool.not_eq_true',
    beq_eq_false_iff_ne]

/-- A name has no column exactly when no column has the name. -/
theorem column?_eq_none_iff {record : Record} {name : String} :
    record.column? name = none ↔ ∀ column ∈ record.columns, column.name ≠ name := by
  simp only [column?, List.find?_eq_none, beq_iff_eq, ne_eq]

/-- The value of a name is what the row has in the octets of its first column. -/
theorem value?_eq_some_iff {record : Record} {name : String} {row value : Bytes} :
    record.value? name row = some value ↔
      ∃ column, record.FirstNamed name column ∧ column.Holds row value := by
  simp only [value?, Option.bind_eq_some_iff, column?_eq_some_iff, Column.slice?_eq_some_iff]

/-- A name has no value exactly when no column has it, or the row ends before its first column
does. -/
theorem value?_eq_none_iff {record : Record} {name : String} {row : Bytes} :
    record.value? name row = none ↔
      (∀ column ∈ record.columns, column.name ≠ name) ∨
        ∃ column, record.FirstNamed name column ∧ row.length < column.stop := by
  cases found : record.column? name with
  | none =>
    simp only [value?, found, Option.bind_none, true_iff]
    exact .inl (column?_eq_none_iff.mp found)
  | some column =>
    have first := column?_eq_some_iff.mp found
    rw [value?, found, Option.bind_some, Bytes.slice?_eq_none_iff]
    constructor
    · exact fun short => .inr ⟨column, first, short⟩
    · rintro (unnamed | ⟨named, firstNamed, short⟩)
      · exact nomatch (column?_eq_none_iff.mpr unnamed).symm.trans found
      · obtain rfl : column = named :=
          Option.some.inj (found.symm.trans (column?_eq_some_iff.mpr firstNamed))
        exact short

/-- In a row that is large enough every name of the record has a value. -/
theorem value?_isSome {record : Record} {column : Column} {row : Bytes}
    (listed : column ∈ record.columns) (large : record.rowSize ≤ row.length) :
    (record.value? column.name row).isSome := by
  rw [Option.isSome_iff_ne_none, ne_eq, value?_eq_none_iff]
  rintro (unnamed | ⟨named, ⟨-, before, after, columns, -⟩, short⟩)
  · exact unnamed column listed rfl
  · have reached := rowSize_le_iff.mp large named (by simp [columns])
    exact absurd reached (Nat.not_le_of_lt short)

/-- With distinct names, every column is the column of its name. -/
theorem column?_of_mem {record : Record} {column : Column}
    (distinct : (record.columns.map Column.name).Nodup) (listed : column ∈ record.columns) :
    record.column? column.name = some column := by
  obtain ⟨before, after, columns⟩ := List.append_of_mem listed
  refine column?_eq_some_iff.mpr ⟨rfl, before, after, columns, fun earlier mem same => ?_⟩
  rw [columns, List.map_append, List.map_cons, List.nodup_append] at distinct
  exact distinct.2.2 _ (List.mem_map_of_mem mem) _ (List.mem_cons_self ..) same

/-! ### Packed columns -/

/-- A packed column starts where the ones before it end, and has the name and length asked for. -/
theorem getElem?_packedColumns (start : Nat) (lengths : List (String × Nat)) (n : Nat) :
    (packedColumns start lengths)[n]? = lengths[n]?.map fun entry =>
      ⟨entry.1, start + ((lengths.take n).map Prod.snd).sum, entry.2, false⟩ := by
  induction lengths generalizing start n with
  | nil => rfl
  | cons entry rest ih =>
    obtain ⟨name, length⟩ := entry
    cases n with
    | zero => rfl
    | succ n =>
      rw [packedColumns_cons, List.getElem?_cons_succ, List.getElem?_cons_succ, ih,
        List.take_succ_cons, List.map_cons, List.sum_cons, Nat.add_assoc]

@[simp] theorem names_packedColumns (start : Nat) (lengths : List (String × Nat)) :
    (packedColumns start lengths).map Column.name = lengths.map Prod.fst := by
  induction lengths generalizing start with
  | nil => rfl
  | cons entry rest ih => rw [packedColumns_cons, List.map_cons, List.map_cons, ih]

/-- The fold behind `rowSize`, started where the first packed column starts, ends where the last
one does. -/
theorem foldl_packedColumns (start : Nat) (lengths : List (String × Nat)) :
    (packedColumns start lengths).foldl (fun size column => max size column.stop) start =
      start + (lengths.map Prod.snd).sum := by
  induction lengths generalizing start with
  | nil => rfl
  | cons entry rest ih =>
    obtain ⟨name, length⟩ := entry
    have first : max start (Column.stop ⟨name, start, length, false⟩) = start + length :=
      Nat.max_eq_right (Nat.le_add_right start length)
    rw [packedColumns_cons, List.foldl_cons, first, ih, List.map_cons, List.sum_cons,
      Nat.add_assoc]

/-- Packed columns take up as much as their lengths together. -/
theorem rowSize_packed (lengths : List (String × Nat)) :
    (packed lengths).rowSize = (lengths.map Prod.snd).sum :=
  (foldl_packedColumns 0 lengths).trans (Nat.zero_add _)

/-- The octets of packed columns, one column after the other, are the octets of the row from where
the first starts to where the last ends. -/
theorem flatten_packedColumns (start : Nat) (lengths : List (String × Nat)) (row : Bytes) :
    ((packedColumns start lengths).map fun column =>
        (row.drop column.offset).take column.length).flatten =
      (row.drop start).take (lengths.map Prod.snd).sum := by
  induction lengths generalizing start with
  | nil => simp
  | cons entry rest ih =>
    obtain ⟨name, length⟩ := entry
    rw [packedColumns_cons, List.map_cons, List.flatten_cons, ih, List.map_cons, List.sum_cons,
      List.take_add, List.drop_drop]

/-- The values of packed columns with distinct names tile a row of the record's size. -/
theorem values_packed {lengths : List (String × Nat)} {row : Bytes}
    (distinct : (lengths.map Prod.fst).Nodup) (sized : row.length = (packed lengths).rowSize) :
    ∃ values : List Bytes,
      lengths.map (fun entry => (packed lengths).value? entry.1 row) = values.map some ∧
        values.flatten = row := by
  refine ⟨(packed lengths).columns.map fun column =>
    (row.drop column.offset).take column.length, ?_, ?_⟩
  · have named : lengths.map (fun entry => (packed lengths).value? entry.1 row) =
        (packed lengths).columns.map fun column => (packed lengths).value? column.name row := by
      have names : lengths.map Prod.fst = (packed lengths).columns.map Column.name :=
        (names_packedColumns 0 lengths).symm
      simpa only [List.map_map, Function.comp_def] using
        congrArg (List.map fun name => (packed lengths).value? name row) names
    rw [named, List.map_map]
    refine List.map_congr_left fun column listed => ?_
    rw [value?, column?_of_mem ((names_packedColumns 0 lengths).symm ▸ distinct) listed]
    exact Bytes.slice?_eq_some_iff.mpr
      ⟨rowSize_le_iff.mp (Nat.le_of_eq sized.symm) column listed, rfl⟩
  · rw [packed, flatten_packedColumns, List.drop_zero, ← rowSize_packed, ← sized,
      List.take_length]

/-- **Layouts cover the row.** Packed columns follow one another from the start of the row, with
the names and lengths they were given, and with distinct names their values in order are the row.
Of any record, however its columns lie, the row size is the least whose rows hold every column, so
every name has a value in every row of at least that size. A name has no value exactly when no
column has it or the row ends before its first column does, and else the octets of that column. -/
theorem layout_covers_rows (lengths : List (String × Nat)) (record : Record) (row : Bytes) :
    (packed lengths).columns.length = lengths.length ∧
    (∀ n column, (packed lengths).columns[n]? = some column →
      column.offset = ((lengths.take n).map Prod.snd).sum ∧
        lengths[n]? = some (column.name, column.length)) ∧
    (row.length = (packed lengths).rowSize → (lengths.map Prod.fst).Nodup →
      ∃ values : List Bytes,
        lengths.map (fun entry => (packed lengths).value? entry.1 row) = values.map some ∧
          values.flatten = row) ∧
    IsLeast {size | ∀ image : Bytes, image.length = size →
      ∀ column ∈ record.columns, ∃ value, column.Holds image value} record.rowSize ∧
    (record.rowSize ≤ row.length →
      ∀ column ∈ record.columns, (record.value? column.name row).isSome) ∧
    ∀ name,
      (record.value? name row = none ↔
        (∀ column ∈ record.columns, column.name ≠ name) ∨
          ∃ column, record.FirstNamed name column ∧ row.length < column.stop) ∧
      ∀ value, record.value? name row = some value ↔
        ∃ column, record.FirstNamed name column ∧ column.Holds row value := by
  refine ⟨?_, fun n column placed => ?_, fun sized distinct => values_packed distinct sized,
    ⟨fun image sized column listed => ?_, fun size holding => ?_⟩,
    fun large column listed => value?_isSome listed large,
    fun name => ⟨value?_eq_none_iff, fun value => value?_eq_some_iff⟩⟩
  · have names : (packed lengths).columns.map Column.name = lengths.map Prod.fst :=
      names_packedColumns 0 lengths
    simpa only [List.length_map] using congrArg List.length names
  · rw [packed, getElem?_packedColumns, Option.map_eq_some_iff] at placed
    obtain ⟨entry, asked, rfl⟩ := placed
    exact ⟨Nat.zero_add _, asked⟩
  · have reaches : column.stop ≤ image.length :=
      rowSize_le_iff.mp (Nat.le_of_eq sized.symm) column listed
    exact ⟨_, Column.slice?_eq_some_iff.mp (Bytes.slice?_eq_some_iff.mpr ⟨reaches, rfl⟩)⟩
  · refine rowSize_le_iff.mpr fun column listed => ?_
    -- The least size is met by any row of it, the zero row among them.
    obtain ⟨value, held⟩ :=
      holding (List.replicate size 0) List.length_replicate column listed
    simpa only [List.length_replicate] using held.reaches

/-- A packed row with an empty column, and a row whose columns lie in no order, overlap and share
a name. -/
theorem layout_covers_rows_customer :
    (∃ values : List Bytes, [("id", 2), ("none", 0), ("name", 3)].map (fun entry =>
          (packed [("id", 2), ("none", 0), ("name", 3)]).value? entry.1 [1, 2, 3, 4, 5]) =
        values.map some ∧ values.flatten = [1, 2, 3, 4, 5]) ∧
    ∀ column ∈ [(⟨"name", 2, 3, false⟩ : Column), ⟨"id", 0, 4, false⟩, ⟨"name", 0, 1, true⟩],
      ((Record.mk [⟨"name", 2, 3, false⟩, ⟨"id", 0, 4, false⟩, ⟨"name", 0, 1, true⟩]).value?
        column.name [1, 2, 3, 4, 5]).isSome := by
  obtain ⟨-, -, tiled, -, present, -⟩ :=
    layout_covers_rows [("id", 2), ("none", 0), ("name", 3)]
      ⟨[⟨"name", 2, 3, false⟩, ⟨"id", 0, 4, false⟩, ⟨"name", 0, 1, true⟩]⟩ [1, 2, 3, 4, 5]
  exact ⟨tiled (by decide) (by decide), present (by decide)⟩

end Record

end StorageClient
