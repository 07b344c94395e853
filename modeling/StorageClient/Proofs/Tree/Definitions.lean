import StorageClient.Proofs.Tree.Calls
/-!
# StorageClient.Proofs.Tree.Definitions

Which definitions are accepted, and what becomes of them.

* `Builder.Accepts` says it for one definition, in the order of the checks, and without the code:
  `Builder.compile_eq_ok_iff` proves the two equal.
* `Builder.Compiled` says it for a list of definitions: each became the node at its place, given the
  nodes before.
* Whatever calls are made on a new builder, its nodes are those that the accepted definitions
  became, apart from layouts and marks (`Builder.compiled_after`). So a statement about all
  sequences of calls is one about lists of definitions.
-/

namespace StorageClient

/-- What defines a level. -/
structure Definition where
  index : Option Index
  table : Table
  operands : List Operand
  deriving Repr, DecidableEq

/-- Whether rows are found by a key of some columns. Only a scan may leave out columns, and its
bound is an equality. -/
def Access.KeyedBy (columns : List String) : Access → Prop
  | .readTuple _ keys | .uniqueLookup _ _ keys => keys.length = columns.length
  | .indexScan _ _ bound => bound.low.length ≤ columns.length ∧
    bound.lowInclusive = true ∧ bound.highInclusive = true ∧ bound.high = bound.low

namespace Table

/-- The columns of the key by which rows are found, in key order. -/
def keyColumns (table : Table) (index : Option Index) : List String :=
  index.elim table.primaryKey Index.columns

/-- Whether rows can be found by `count` key values. A unique key needs one for each of its columns,
and a scan may leave out trailing ones. -/
def Takes (table : Table) (index : Option Index) (count : Nat) : Prop :=
  match index.map Index.kind with
  | none | some .primaryKey | some .uniqueHash => count = (table.keyColumns index).length
  | some .ordered => count ≤ (table.keyColumns index).length
  | some .undefined => False

/-- How an index decides the way rows are found. -/
inductive Reaches (table : Table) (operands : List Operand) : Option Index → Access → Prop
  | noIndex : Reaches table operands none (.readTuple table operands)
  | primaryKey {index : Index} (hkind : index.kind = .primaryKey) :
    Reaches table operands (some index) (.readTuple table operands)
  | uniqueHash {index : Index} (hkind : index.kind = .uniqueHash) :
    Reaches table operands (some index) (.uniqueLookup index table operands)
  | ordered {index : Index} (hkind : index.kind = .ordered) :
    Reaches table operands (some index) (.indexScan index table (.equal operands))

variable {table : Table} {index : Option Index} {operands : List Operand} {access : Access}

theorem Reaches.table_eq (h : table.Reaches operands index access) : access.table = table := by
  cases h <;> rfl

theorem Reaches.operands_eq (h : table.Reaches operands index access) :
    access.operands = operands := by
  cases h <;> rfl

theorem Reaches.isScan_iff (h : table.Reaches operands index access) :
    access.isScan = true ↔ index.map Index.kind = some .ordered := by
  cases h <;> simp_all [Access.isScan]

/-- Wherever rows can be found by some number of values, there is a way to find them. -/
theorem Takes.exists_reaches {count : Nat} (h : table.Takes index count) (operands : List Operand) :
    ∃ access, table.Reaches operands index access := by
  cases index with
  | none => exact ⟨_, .noIndex⟩
  | some index =>
    cases hkind : index.kind with
    | primaryKey => exact ⟨_, .primaryKey hkind⟩
    | uniqueHash => exact ⟨_, .uniqueHash hkind⟩
    | ordered => exact ⟨_, .ordered hkind⟩
    | undefined => simp [Takes, hkind] at h

theorem Takes.keyedBy (htakes : table.Takes index operands.length)
    (hreaches : table.Reaches operands index access) :
    access.KeyedBy (table.keyColumns index) := by
  cases hreaches <;> simp_all [Takes, Access.KeyedBy, IndexBound.equal]

end Table

namespace Builder

/-! ### The checks one by one -/

theorem mem_linkedLevels {operands : List Operand} {number : Nat} :
    number ∈ linkedLevels operands ↔
      ∃ parent column, .linked parent column ∈ operands ∧ parent.number = number := by
  simp only [linkedLevels, List.mem_filterMap]
  constructor
  · rintro ⟨operand | ⟨parent, column⟩, hmem, h⟩
    · exact nomatch h
    · exact ⟨parent, column, hmem, Option.some.inj h⟩
  · rintro ⟨parent, column, hmem, h⟩
    exact ⟨.linked parent column, hmem, congrArg some h⟩

/-- Operands without links are constants. -/
theorem exists_constant_of_linkedLevels_eq_nil {operands : List Operand}
    (h : linkedLevels operands = []) :
    ∀ operand ∈ operands, ∃ value, operand = .constant value := by
  intro operand hmem
  cases operand with
  | constant value => exact ⟨value, rfl⟩
  | linked parent column =>
    have hlinked : parent.number ∈ linkedLevels operands :=
      mem_linkedLevels.mpr ⟨parent, column, hmem, rfl⟩
    exact absurd hlinked (by simp [h])

theorem resolveParent_eq_ok_iff {nodes : List Node} {operands : List Operand}
    {parent : Option Nat} :
    resolveParent nodes operands = .ok parent ↔
      (∀ number ∈ linkedLevels operands, number < nodes.length ∧ parent = some number) ∧
        (linkedLevels operands = [] → parent = none) := by
  unfold resolveParent
  dsimp only
  cases hunknown : ((linkedLevels operands).filter fun number => nodes.length ≤ number).min? with
  | some unknown =>
    have hmem := List.min?_mem hunknown
    rw [List.mem_filter] at hmem
    refine ⟨fun h => (by cases h), fun h => ?_⟩
    have := (h.1 unknown hmem.1).1
    simp only [decide_eq_true_eq] at hmem
    omega
  | none =>
    rw [List.min?_eq_none_iff, List.filter_eq_nil_iff] at hunknown
    cases hlinked : linkedLevels operands with
    | nil => simp [eq_comm]
    | cons first rest =>
      have hknown : ∀ number ∈ first :: rest, number < nodes.length := by
        intro number hmem
        simpa using hunknown number (hlinked ▸ hmem)
      dsimp only
      split
      · rename_i hall
        have hsame : ∀ number ∈ first :: rest, number = first := by
          intro number hmem
          rcases List.mem_cons.mp hmem with rfl | hmem
          · rfl
          · simpa using List.all_eq_true.mp hall number hmem
        constructor
        · intro h
          obtain rfl := Except.ok.inj h
          exact ⟨fun number hmem => ⟨hknown number hmem, by rw [hsame number hmem]⟩, nofun⟩
        · rintro ⟨h, -⟩
          rw [(h first List.mem_cons_self).2]
      · rename_i hall
        refine ⟨fun h => (by cases h), fun h => absurd ?_ hall⟩
        -- Every linked level is the parent, and so is the first one.
        have hfirst := (h.1 first List.mem_cons_self).2
        refine List.all_eq_true.mpr fun number hmem => ?_
        have := (h.1 number (List.mem_cons_of_mem _ hmem)).2
        simp_all

theorem checkColumn_eq_ok_iff {nodes : List Node} {operand : Operand} :
    checkColumn nodes operand = .ok () ↔ ∀ parent column, operand = .linked parent column →
      ∃ above, nodes[parent.number]? = some above ∧ column ∈ above.access.table.columns := by
  cases operand with
  | constant value => exact ⟨fun _ _ _ h => (by cases h), fun _ => rfl⟩
  | linked parent column =>
    rw [checkColumn]
    cases habove : nodes[parent.number]? with
    | none => simp [habove]
    | some above => by_cases h : column ∈ above.access.table.columns <;>
        simp [Table.hasColumn, habove, h]

theorem forM_eq_ok_iff {ε α : Type} {check : α → Except ε Unit} {things : List α} :
    things.forM check = .ok () ↔ ∀ thing ∈ things, check thing = .ok () := by
  induction things with
  | nil => simp [pure, Except.pure]
  | cons thing things ih =>
    rw [List.forM_eq_forM, List.forM_cons, Except.bind_eq_ok, List.forall_mem_cons, ← ih]
    exact ⟨fun ⟨_, h⟩ => h, fun h => ⟨(), h⟩⟩

theorem checkKeyCount_eq_ok_iff {target : String} {expected got : Nat} :
    checkKeyCount target expected got = .ok () ↔ got = expected := by
  unfold checkKeyCount
  split
  · exact ⟨fun h => (by cases h), fun h => by omega⟩
  · split
    · exact ⟨fun h => (by cases h), fun h => by omega⟩
    · exact ⟨fun _ => by omega, fun _ => rfl⟩

theorem selectAccess_eq_ok_iff {index : Option Index} {table : Table} {operands : List Operand}
    {access : Access} :
    selectAccess index table operands = .ok access ↔
      table.Takes index operands.length ∧ table.Reaches operands index access := by
  -- A unique key is a check of the count and then the way.
  have hunique : ∀ (target : String) (expected : Nat) (way : Access),
      (do checkKeyCount target expected operands.length; return way) = Except.ok access ↔
        operands.length = expected ∧ way = access := by
    intro target expected way
    rw [Except.bind_eq_ok]
    constructor
    · rintro ⟨_, hcount, h⟩
      exact ⟨checkKeyCount_eq_ok_iff.mp hcount, Except.ok.inj h⟩
    · rintro ⟨hcount, rfl⟩
      exact ⟨(), checkKeyCount_eq_ok_iff.mpr hcount, rfl⟩
  cases index with
  | none =>
    refine (hunique _ _ _).trans (and_congr_right fun _ => ⟨?_, ?_⟩)
    · rintro rfl
      exact .noIndex
    · rintro ⟨⟩
      rfl
  | some index =>
    rw [selectAccess]
    cases hkind : index.kind with
    | primaryKey =>
      refine (hunique _ _ _).trans (and_congr ?_ ⟨?_, ?_⟩)
      · simp [Table.Takes, Table.keyColumns, hkind]
      · rintro rfl
        exact .primaryKey hkind
      · rintro (_ | _ | _ | _) <;> simp_all
    | uniqueHash =>
      refine (hunique _ _ _).trans (and_congr ?_ ⟨?_, ?_⟩)
      · simp [Table.Takes, Table.keyColumns, hkind]
      · rintro rfl
        exact .uniqueHash hkind
      · rintro (_ | _ | _ | _) <;> simp_all
    | ordered =>
      dsimp only
      by_cases hcount : index.columns.length < operands.length
      · rw [if_pos hcount]
        refine ⟨fun h => (by cases h), fun h => ?_⟩
        have := h.1
        simp [Table.Takes, Table.keyColumns, hkind] at this
        omega
      · rw [if_neg hcount]
        constructor
        · intro h
          obtain rfl := Except.ok.inj h
          refine ⟨?_, .ordered hkind⟩
          simpa [Table.Takes, Table.keyColumns, hkind] using hcount
        · rintro ⟨-, _ | _ | _ | _⟩ <;> simp_all
    | undefined =>
      refine ⟨fun h => (by cases h), fun h => ?_⟩
      have := h.1
      simp [Table.Takes, hkind] at this

/-- A scan below the root needs a root that scans. -/
theorem checkScan_eq_ok_iff {nodes : List Node} {parent : Option Nat} {access : Access} :
    checkScan nodes parent access = .ok () ↔
      (access.isScan = true → parent ≠ none → ∀ root ∈ nodes.head?, root.access.isScan = true) := by
  cases nodes with
  | nil => simp [checkScan]
  | cons root rest =>
    cases hscan : access.isScan <;> cases hroot : root.access.isScan <;> cases parent <;>
      simp [checkScan, hscan, hroot]

/-! ### One definition -/

/-- A definition is accepted, given the nodes before, and becomes a node. -/
structure Accepts (nodes : List Node) (definition : Definition) (node : Node) : Prop where
  room : nodes.length < maxLevels
  /-- All links are to one level, which was defined before. -/
  linked : ∀ number ∈ linkedLevels definition.operands,
    number < nodes.length ∧ node.parent = some number
  /-- Only the root has no links. -/
  unlinked : linkedLevels definition.operands = [] → node.parent = none ∧ nodes = []
  columns : ∀ parent column, .linked parent column ∈ definition.operands →
    ∃ above, nodes[parent.number]? = some above ∧ column ∈ above.access.table.columns
  takes : definition.table.Takes definition.index definition.operands.length
  reaches : definition.table.Reaches definition.operands definition.index node.access
  scan : node.access.isScan = true → ∀ root ∈ nodes.head?, root.access.isScan = true
  number : node.number = nodes.length
  depth : node.depth = depthBelow nodes node.parent
  record : node.record = none
  joinOnly : node.joinOnly = false

theorem compile_eq_ok_iff {nodes : List Node} {definition : Definition} {node : Node} :
    compile nodes definition.index definition.table definition.operands = .ok node ↔
      Accepts nodes definition node := by
  constructor
  · intro h
    obtain ⟨hroom, parent, access, hparent, hroot, hcolumns, haccess, hscan, rfl⟩ := compile_eq_ok h
    obtain ⟨hlinked, hunlinked⟩ := resolveParent_eq_ok_iff.mp hparent
    obtain ⟨htakes, hreaches⟩ := selectAccess_eq_ok_iff.mp haccess
    refine ⟨hroom, hlinked, fun hnil => ⟨hunlinked hnil, hroot (hunlinked hnil)⟩, ?_, htakes,
      hreaches, ?_, rfl, rfl, rfl, rfl⟩
    · intro above column hmem
      exact checkColumn_eq_ok_iff.mp (forM_eq_ok_iff.mp hcolumns _ hmem) above column rfl
    · intro his root hmem
      refine checkScan_eq_ok_iff.mp hscan his (fun hnone => ?_) root hmem
      simp [hroot hnone] at hmem
  · intro h
    obtain ⟨number, parent, depth, access, record, joinOnly⟩ := node
    obtain ⟨hroom, hlinked, hunlinked, hcolumns, htakes, hreaches, hscan, hnumber, hdepth, hrecord,
      hjoinOnly⟩ := h
    dsimp only at *
    subst hnumber hdepth hrecord hjoinOnly
    have hparent : resolveParent nodes definition.operands = .ok parent :=
      resolveParent_eq_ok_iff.mpr ⟨hlinked, fun hnil => (hunlinked hnil).1⟩
    have hcheck : definition.operands.forM (checkColumn nodes) = .ok () := by
      refine forM_eq_ok_iff.mpr fun operand hmem => checkColumn_eq_ok_iff.mpr ?_
      rintro above column rfl
      exact hcolumns above column hmem
    have haccess := selectAccess_eq_ok_iff.mpr ⟨htakes, hreaches⟩
    have hbelow : checkScan nodes parent access = .ok () :=
      checkScan_eq_ok_iff.mpr fun his _ => hscan his
    have hconstants : (parent.isNone && !nodes.isEmpty) = false := by
      cases hlevels : linkedLevels definition.operands with
      | nil => simp [hunlinked hlevels]
      | cons first rest => simp [(hlinked first (by simp [hlevels])).2]
    simp [compile, Nat.not_le.mpr hroom, hparent, hconstants, hcheck, haccess, hbelow, bind,
      Except.bind, pure, Except.pure]

/-! ### A list of definitions -/

/-- Every definition became the node at its place, given the nodes before. -/
structure Compiled (definitions : List Definition) (nodes : List Node) : Prop where
  length_eq : definitions.length = nodes.length
  accepts : ∀ place definition node, definitions[place]? = some definition →
    nodes[place]? = some node → Accepts (nodes.take place) definition node

theorem compiled_nil : Compiled [] [] := ⟨rfl, fun _ _ _ h => nomatch h⟩

theorem Compiled.concat {definitions : List Definition} {nodes : List Node}
    (h : Compiled definitions nodes) {definition : Definition} {node : Node}
    (hnode : Accepts nodes definition node) :
    Compiled (definitions ++ [definition]) (nodes ++ [node]) where
  length_eq := by simp [h.length_eq]
  accepts place other became hother hbecame := by
    rcases Nat.lt_trichotomy place nodes.length with hlt | rfl | hgt
    · have hle : place ≤ nodes.length := Nat.le_of_lt hlt
      rw [List.getElem?_append_left (by rw [h.length_eq]; exact hlt)] at hother
      rw [List.getElem?_append_left hlt] at hbecame
      rw [List.take_append_of_le_length hle]
      exact h.accepts place other became hother hbecame
    · rw [← h.length_eq, List.getElem?_concat_length] at hother
      rw [List.getElem?_concat_length] at hbecame
      obtain rfl := Option.some.inj hother
      obtain rfl := Option.some.inj hbecame
      rwa [List.take_left]
    · rw [List.getElem?_eq_none (by simp; omega)] at hbecame
      cases hbecame

/-! ### Any sequence of calls -/

/-- The definition that a call makes, if it is accepted. -/
def Call.accepted (builder : Builder) (call : Call) : List Definition :=
  match call, (call.perform builder).value.1 with
  | .define index table operands, .ok _ => [⟨index, table, operands⟩]
  | _, _ => []

/-- The definitions that are accepted in a sequence of calls, in order. -/
def accepted (builder : Builder) : List Call → List Definition
  | [] => []
  | call :: calls => call.accepted builder ++ accepted (call.perform builder).value.2 calls

/-- Layouts and marks do not matter to a definition. -/
theorem compile_map_bare (nodes : List Node) (index : Option Index) (table : Table)
    (operands : List Operand) :
    compile (nodes.map bare) index table operands = compile nodes index table operands := by
  have hparent : resolveParent (nodes.map bare) operands = resolveParent nodes operands := by
    rw [resolveParent, resolveParent, List.length_map]
  have hcolumn : checkColumn (nodes.map bare) = checkColumn nodes := by
    funext operand
    cases operand with
    | constant value => rfl
    | linked parent column =>
      rw [checkColumn, checkColumn, List.getElem?_map]
      cases nodes[parent.number]? <;> rfl
  have hscan : checkScan (nodes.map bare) = checkScan nodes := by
    cases nodes <;> rfl
  have hdepth : depthBelow (nodes.map bare) = depthBelow nodes := by
    funext parent
    cases parent with
    | none => rfl
    | some number =>
      simp only [depthBelow, Option.bind_some, List.getElem?_map]
      cases nodes[number]? <;> rfl
  have hempty : (nodes.map bare).isEmpty = nodes.isEmpty := by cases nodes <;> rfl
  simp only [compile, hparent, hcolumn, hscan, hdepth, hempty, List.length_map]

theorem Compiled.perform {definitions : List Definition} {builder : Builder}
    (h : Compiled definitions (builder.nodes.map bare)) (call : Call) :
    Compiled (definitions ++ call.accepted builder)
      ((call.perform builder).value.2.nodes.map bare) := by
  cases call with
  | define index table operands =>
    cases hnode : compile builder.nodes index table operands with
    | ok node =>
      have hplain : Accepts (builder.nodes.map bare) ⟨index, table, operands⟩ node :=
        compile_eq_ok_iff.mp ((compile_map_bare ..).trans hnode)
      have hbare : bare node = node := by
        rw [bare, ← hplain.record, ← hplain.joinOnly]
      have hconcat := h.concat hplain
      simpa [Call.accepted, Call.perform, define, hnode, hbare] using hconcat
    | error cause => simpa [Call.accepted, Call.perform, define, hnode] using h
  | setRecord ref record =>
    have hnone : (Call.setRecord ref record).accepted builder = [] := rfl
    rw [hnone, List.append_nil, Call.perform]
    cases hchanged : builder.setRecord ref record with
    | ok changed =>
      have hsame := map_bare_of_update hchanged fun _ => rfl
      simpa [hsame] using h
    | error error => exact h
  | markJoinOnly ref =>
    have hnone : (Call.markJoinOnly ref).accepted builder = [] := rfl
    rw [hnone, List.append_nil, Call.perform]
    cases hchanged : builder.markJoinOnly ref with
    | ok changed =>
      have hsame := map_bare_of_update hchanged fun _ => rfl
      simpa [hsame] using h
    | error error => exact h

theorem Compiled.after {definitions : List Definition} {builder : Builder}
    (h : Compiled definitions (builder.nodes.map bare)) (calls : List Call) :
    Compiled (definitions ++ builder.accepted calls) ((builder.after calls).nodes.map bare) := by
  induction calls generalizing definitions builder with
  | nil => simpa [accepted, Builder.after] using h
  | cons call calls ih =>
    rw [accepted, ← List.append_assoc]
    exact ih (h.perform call)

/-- The nodes of a builder are those that the accepted definitions became. -/
theorem compiled_after (calls : List Call) :
    Compiled (empty.accepted calls) ((empty.after calls).nodes.map bare) := by
  have hempty : Compiled [] (empty.nodes.map bare) := compiled_nil
  simpa using hempty.after calls

end Builder

end StorageClient
