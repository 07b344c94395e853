import StorageClient.Proofs.Chain.Acceptance
/-!
# StorageClient.Proofs.Chain.RootScan

What becomes of the key of a root that is turned into a scan.

The values of the key were given for the key columns of the root, and the bound of the scan reads
the same values as those of the leading columns of another index. Nothing compares the two keys.
So the scan finds the rows of the lookup if the index starts with the key columns, in key order,
and there is a value for each of them (`Chain.KeyLeads`). Otherwise it finds other rows, or all of
them: distinct values are kept in no other way (`Chain.keyLeads_of_keepsKey`).
-/

namespace StorageClient

namespace Chain

/-- The scan index starts with the key columns of the root, and there is a value for each. -/
structure KeyLeads (chain : Chain) (index : Index) : Prop where
  count : chain.keys.length = chain.root.keyColumns.length
  columns : index.columns.take chain.keys.length = chain.root.keyColumns

/-- A scan constrains the columns of the root's key, and no others, to the values that the lookup
would constrain them to, and the lookup would take these values. -/
structure KeepsKey (chain : Chain) (index : Index) (bound : IndexBound) : Prop where
  takes : chain.root.table.Takes chain.root.index chain.keys.length
  same : ∀ column operand, (column, operand) ∈ index.columns.zip bound.low ↔
    (column, operand) ∈ chain.root.keyColumns.zip (chain.keys.map .constant)
  all : ∀ column ∈ chain.root.keyColumns, ∃ operand,
    (column, operand) ∈ index.columns.zip bound.low

variable {chain : Chain} {index : Index}

/-- A unique key takes one value for each of its columns. -/
theorem takes_root_iff (h : chain.ReplacesRoot) :
    chain.root.table.Takes chain.root.index chain.keys.length ↔
      chain.keys.length = chain.root.keyColumns.length := by
  have hunique := h.2
  rw [Table.Takes, Table.keyColumns, Source.keyColumns]
  cases hindex : chain.root.index with
  | none => rfl
  | some index =>
    rw [hindex, Option.map_some] at hunique
    cases hkind : index.kind <;> simp [hkind] at hunique ⊢

/-- A root that is replaced is reached by a scan of the offered index, bounded by the key. -/
theorem access_of_replacesRoot {id : String} {query : Query} (hreplaces : chain.ReplacesRoot)
    (h : (chain.compile id).value = .ok query) : ∃ index, chain.rootScanIndex = some index ∧
      chain.keys.length ≤ index.columns.length ∧ query.root.access =
        .indexScan index chain.root.table (.equal (chain.keys.map .constant)) := by
  obtain ⟨_, nodes, hindex, hnodes, hquery, -⟩ := compile_eq_ok_iff.mp h
  obtain ⟨hscan, rfl⟩ := rootIndex_eq_ok_iff.mp hindex
  obtain ⟨index, hindex, hkind⟩ := hscan hreplaces
  have heffective : chain.effectiveRootIndex = some index := by
    rw [effectiveRootIndex, if_pos hreplaces, hindex]
  obtain ⟨access, hroot, hreaches⟩ := (mirrors_of_compiled hnodes hquery).root
  have htakes := fits_root_iff.mp (hnodes.fits rfl)
  rw [heffective] at hreaches htakes
  refine ⟨index, hindex, by simpa [Table.Takes, Table.keyColumns, hkind] using htakes, ?_⟩
  rw [hroot]
  -- The index is ordered, so there is one way only.
  cases hreaches <;> simp_all

/-! ### When the key is kept -/

/-- A column is constrained to the operand at its place. -/
theorem mem_zip_iff {columns : List String} {operands : List Operand} {column : String}
    {operand : Operand} : (column, operand) ∈ columns.zip operands ↔
      ∃ place : Nat, columns[place]? = some column ∧ operands[place]? = some operand := by
  simp only [List.mem_iff_getElem?, List.getElem?_zip_eq_some]

theorem getElem?_constants {place : Nat} (hlt : place < chain.keys.length) :
    (chain.keys.map Operand.constant)[place]? = some (.constant chain.keys[place]) := by
  rw [List.getElem?_map, List.getElem?_eq_getElem hlt, Option.map_some]

theorem keepsKey_of_keyLeads (hreplaces : chain.ReplacesRoot) (h : chain.KeyLeads index) :
    chain.KeepsKey index (.equal (chain.keys.map .constant)) where
  takes := (takes_root_iff hreplaces).mpr h.count
  same column operand := by
    rw [IndexBound.equal, mem_zip_iff, mem_zip_iff]
    refine exists_congr fun place => and_congr_left fun hoperand => ?_
    have hlt : place < chain.keys.length := by
      simpa using (List.getElem?_eq_some_iff.mp hoperand).1
    rw [← h.columns, List.getElem?_take_of_lt hlt]
  all column hmem := by
    obtain ⟨place, hcolumn⟩ := List.mem_iff_getElem?.mp hmem
    have hlt : place < chain.keys.length :=
      h.count ▸ (List.getElem?_eq_some_iff.mp hcolumn).1
    rw [← h.columns, List.getElem?_take_of_lt hlt] at hcolumn
    exact ⟨.constant chain.keys[place], mem_zip_iff.mpr ⟨place, hcolumn, getElem?_constants hlt⟩⟩

/-- Distinct values are kept in no other way: each one tells the place it stands at. -/
theorem keyLeads_of_keepsKey (hreplaces : chain.ReplacesRoot) (hdistinct : chain.keys.Nodup)
    (hroom : chain.keys.length ≤ index.columns.length)
    (h : chain.KeepsKey index (.equal (chain.keys.map .constant))) : chain.KeyLeads index := by
  have hcount := (takes_root_iff hreplaces).mp h.takes
  refine ⟨hcount, List.ext_getElem? fun place => ?_⟩
  by_cases hlt : place < chain.keys.length
  · have hcolumn := List.getElem?_eq_getElem (Nat.lt_of_lt_of_le hlt hroom)
    have hscanned := mem_zip_iff.mpr ⟨place, hcolumn, getElem?_constants hlt⟩
    obtain ⟨other, hkey, hvalue⟩ := mem_zip_iff.mp ((h.same _ _).mp hscanned)
    have hsame : chain.keys[place]? = chain.keys[other]? := by
      simpa [List.getElem?_map, hlt, eq_comm] using hvalue
    obtain rfl := (List.getElem?_inj hlt hdistinct).mp hsame
    rw [List.getElem?_take_of_lt hlt, hcolumn, hkey]
  · rw [List.getElem?_eq_none (by rw [List.length_take]; omega),
      List.getElem?_eq_none (by omega)]

/-- **The key of a root that is turned into a scan.** The root is scanned by the offered index, and
the bound has the values of its key in their order. So the scan keeps the key if the index starts
with the key columns and there is a value for each, and keeps distinct values in no other way. -/
theorem keepsKey_of_compile (chain : Chain) {id : String} {query : Query}
    (hreplaces : chain.ReplacesRoot) (h : (chain.compile id).value = .ok query) :
    ∃ index bound, chain.rootScanIndex = some index ∧
      query.root.access = .indexScan index chain.root.table bound ∧
      bound = .equal (chain.keys.map .constant) ∧
      (chain.KeyLeads index → chain.KeepsKey index bound) ∧
      (chain.keys.Nodup → chain.KeepsKey index bound → chain.KeyLeads index) := by
  obtain ⟨index, hindex, hroom, haccess⟩ := access_of_replacesRoot hreplaces h
  exact ⟨index, _, hindex, haccess, rfl, keepsKey_of_keyLeads hreplaces,
    fun hdistinct => keyLeads_of_keepsKey hreplaces hdistinct hroom⟩

/-- A customer and its orders, by an index on the primary key and a further column. -/
theorem keepsKey_of_compile_orders :
    let customer : Source := ⟨⟨"customer", ["id", "name"], ["id"]⟩, none, .packed [("id", 1)]⟩
    let orders : Source := ⟨⟨"orders", ["id", "customer"], ["id"]⟩,
      some ⟨"orders_by_customer", .ordered, ["customer"]⟩, .packed [("id", 1)]⟩
    let byId : Index := ⟨"customer_by_id", .ordered, ["id", "name"]⟩
    let chain := ((single customer [[1]]).join orders ["id"]).withRootScanIndex byId
    chain.ReplacesRoot ∧ chain.KeyLeads byId ∧
      (∃ query, (chain.compile "orders").value = .ok query ∧
        query.root.access = .indexScan byId customer.table (.equal [.constant [1]])) ∧
      chain.KeepsKey byId (.equal [.constant [1]]) := by
  intro customer orders byId chain
  have hreplaces : chain.ReplacesRoot := by decide
  have hleads : chain.KeyLeads byId := ⟨rfl, rfl⟩
  have hcompiled : (chain.compile "orders").value.toOption.isSome = true := by decide +kernel
  cases hquery : (chain.compile "orders").value with
  | error error => exact nomatch hquery ▸ hcompiled
  | ok query =>
    obtain ⟨_, _, hindex, haccess, rfl, hkeeps, -⟩ := keepsKey_of_compile chain hreplaces hquery
    obtain rfl := Option.some.inj hindex
    exact ⟨hreplaces, hleads, ⟨query, rfl, haccess⟩, hkeeps hleads⟩

/-- Without values, a customer is not looked up, but all customers are scanned. -/
theorem not_keepsKey_without_values :
    let customer : Source := ⟨⟨"customer", ["id"], ["id"]⟩, none, .packed [("id", 1)]⟩
    let orders : Source := ⟨⟨"orders", ["id", "customer"], ["id"]⟩,
      some ⟨"orders_by_customer", .ordered, ["customer"]⟩, .packed [("id", 1)]⟩
    let byId : Index := ⟨"customer_by_id", .ordered, ["id"]⟩
    let lookup := single customer []
    let chain := (lookup.join orders ["id"]).withRootScanIndex byId
    (lookup.compile "customer").value =
        .error ((DefinitionError.of (.tooFewKeyValues "customer" 1 0)).atLevel 0) ∧
      chain.ReplacesRoot ∧
      (∃ query, (chain.compile "orders").value = .ok query ∧
        query.root.access = .indexScan byId customer.table (.equal [])) ∧
      ¬ chain.KeepsKey byId (.equal []) := by
  intro customer orders byId lookup chain
  have hreplaces : chain.ReplacesRoot := by decide
  have hcompiled : (chain.compile "orders").value.toOption.isSome = true := by decide +kernel
  refine ⟨by rfl, hreplaces, ?_, fun h => ?_⟩
  · cases hquery : (chain.compile "orders").value with
    | error error => exact nomatch hquery ▸ hcompiled
    | ok query =>
      obtain ⟨_, hindex, -, haccess⟩ := access_of_replacesRoot hreplaces hquery
      obtain rfl := Option.some.inj hindex
      exact ⟨query, rfl, haccess⟩
  · obtain ⟨operand, hmem⟩ := h.all "id" List.mem_cons_self
    exact nomatch hmem

end Chain

end StorageClient
