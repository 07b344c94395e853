import StorageClient.Chain.Compile
import StorageClient.Proofs.Tree.Shape
/-!
# StorageClient.Proofs.Chain.Acceptance

Which chains of tables can be compiled, and the query a chain becomes.

Compiling a chain makes one definition for each of its tables, each joined to the one before. So a
chain is compiled exactly if these definitions are accepted (`Chain.compile_eq_ok_iff`), and which
definitions in order are accepted can be said of the definitions alone
(`Builder.exists_compiled_iff`). What remains is to read the two in terms of the chain. In
particular no scan is refused for a root that is looked up: such a root was turned into a scan.
-/

namespace StorageClient

namespace Builder

/-! ### Definitions in order -/

/-- What is required of a definition at its place, given the definitions before. -/
structure Fits (definitions : List Definition) (place : Nat) (definition : Definition) : Prop where
  takes : definition.table.Takes definition.index definition.operands.length
  linked : place ≠ 0 → linkedLevels definition.operands ≠ []
  columns : ∀ parent column, .linked parent column ∈ definition.operands →
    ∃ above, definitions[parent.number]? = some above ∧ column ∈ above.table.columns
  scan : definition.index.map Index.kind = some .ordered →
    ∀ root, definitions[0]? = some root → root.index.map Index.kind = some .ordered

variable {definitions : List Definition}

theorem Compiled.fits {nodes : List Node} (h : Compiled definitions nodes) {place : Nat}
    {definition : Definition} (hdefinition : definitions[place]? = some definition) :
    Fits definitions place definition := by
  obtain ⟨node, hnode⟩ := h.exists_node hdefinition
  have haccepts := h.accepts place definition node hdefinition hnode
  refine ⟨haccepts.takes, ?_, ?_, ?_⟩
  · intro hplace hnil
    have hlength := congrArg List.length (haccepts.unlinked hnil).2
    rw [length_take hnode] at hlength
    exact hplace hlength
  · intro parent column hmem
    obtain ⟨above, habove, hcolumn⟩ := haccepts.columns parent column hmem
    have habove : nodes[parent.number]? = some above := by
      rw [List.getElem?_take] at habove
      split at habove
      · exact habove
      · exact nomatch habove
    obtain ⟨source, hsource⟩ := h.exists_definition habove
    have hreaches := (h.accepts _ source above hsource habove).reaches
    exact ⟨source, hsource, hreaches.table_eq ▸ hcolumn⟩
  · intro hordered root hroot
    obtain ⟨first, hfirst⟩ := h.exists_node hroot
    have hscan := h.isScan_root hfirst hnode (haccepts.reaches.isScan_iff.mpr hordered)
    exact (h.accepts 0 root first hroot hfirst).reaches.isScan_iff.mp hscan

/-- A definition that fits is accepted after the definitions before. -/
theorem Fits.exists_accepts {nodes : List Node} {place : Nat} {definition : Definition}
    (hfits : Fits definitions place definition) (h : Compiled (definitions.take place) nodes)
    (hlength : nodes.length = place) (hroom : place < maxLevels)
    (hordered : ∀ number ∈ linkedLevels definition.operands, number + 1 = place) :
    ∃ node, Accepts nodes definition node := by
  obtain ⟨access, hreaches⟩ := hfits.takes.exists_reaches definition.operands
  have hbefore : ∀ {number other}, number < place → definitions[number]? = some other →
      ∃ above, nodes[number]? = some above ∧
        other.table.Reaches other.operands other.index above.access := by
    intro number other hlt hother
    rw [← List.getElem?_take_of_lt hlt] at hother
    obtain ⟨above, habove⟩ := h.exists_node hother
    exact ⟨above, habove, (h.accepts number other above hother habove).reaches⟩
  let parent := (linkedLevels definition.operands).head?
  refine ⟨⟨nodes.length, parent, depthBelow nodes parent, access, none, false⟩,
    hlength ▸ hroom, ?_, ?_, ?_, hfits.takes, hreaches, ?_, rfl, rfl, rfl, rfl⟩
  · intro number hmem
    have hnumber := hordered number hmem
    refine ⟨by omega, ?_⟩
    -- All links are to the level before, so the first one is, too.
    cases hlevels : linkedLevels definition.operands with
    | nil => exact absurd hmem (by simp [hlevels])
    | cons first rest =>
      have hfirst := hordered first (by simp [hlevels])
      simp only [parent, hlevels, List.head?_cons, Option.some.injEq]
      omega
  · intro hnil
    refine ⟨by simp [parent, hnil], ?_⟩
    by_cases hplace : place = 0
    · exact List.length_eq_zero_iff.mp (hlength.trans hplace)
    · exact absurd hnil (hfits.linked hplace)
  · intro above column hmem
    have hnumber := hordered above.number (mem_linkedLevels.mpr ⟨above, column, hmem, rfl⟩)
    obtain ⟨source, hsource, hcolumn⟩ := hfits.columns above column hmem
    obtain ⟨node, hnode, hway⟩ := hbefore (by omega) hsource
    exact ⟨node, hnode, hway.table_eq.symm ▸ hcolumn⟩
  · intro hscan root hroot
    rw [Option.mem_def, List.head?_eq_getElem?] at hroot
    have hpos : 0 < place := hlength ▸ (List.getElem?_eq_some_iff.mp hroot).1
    obtain ⟨first, hfirst⟩ := h.exists_definition hroot
    rw [List.getElem?_take_of_lt hpos] at hfirst
    obtain ⟨node, hnode, hway⟩ := hbefore hpos hfirst
    obtain rfl := Option.some.inj (hroot.symm.trans hnode)
    exact hway.isScan_iff.mpr (hfits.scan (hreaches.isScan_iff.mp hscan) first hfirst)

/-- Definitions that are linked to the one before or not at all, are accepted exactly if there are
not too many and every one fits. -/
theorem exists_compiled_iff
    (hordered : ∀ place definition, definitions[place]? = some definition →
      ∀ number ∈ linkedLevels definition.operands, number + 1 = place) :
    (∃ nodes, Compiled definitions nodes) ↔ definitions.length ≤ maxLevels ∧
      ∀ place definition, definitions[place]? = some definition →
        Fits definitions place definition := by
  constructor
  · rintro ⟨nodes, h⟩
    exact ⟨h.length_eq ▸ h.length_le, fun place definition => h.fits⟩
  · rintro ⟨hlength, hfits⟩
    -- By induction on how many definitions were accepted.
    have hprefix : ∀ count, count ≤ definitions.length →
        ∃ nodes, Compiled (definitions.take count) nodes := by
      intro count
      induction count with
      | zero => exact fun _ => ⟨[], compiled_nil⟩
      | succ count ih =>
        intro hcount
        obtain ⟨nodes, h⟩ := ih (Nat.le_of_succ_le hcount)
        have hlt : count < definitions.length := hcount
        have hdefinition := List.getElem?_eq_getElem hlt
        have hnodes : nodes.length = count :=
          h.length_eq.symm.trans (List.length_take_of_le (Nat.le_of_lt hlt))
        obtain ⟨node, haccepts⟩ := (hfits count _ hdefinition).exists_accepts h hnodes
          (Nat.lt_of_lt_of_le hlt hlength) (hordered count _ hdefinition)
        refine ⟨nodes ++ [node], ?_⟩
        rw [← List.take_append_getElem hlt]
        exact h.concat haccepts
    have hall := hprefix definitions.length (Nat.le_refl _)
    rwa [List.take_length] at hall

/-- What is compiled at some place was accepted, given the nodes before. -/
theorem Compiled.accepts_append {nodes later : List Node} {definition : Definition} {node : Node}
    {rest : List Definition} (hlength : definitions.length = nodes.length)
    (h : Compiled (definitions ++ definition :: rest) (nodes ++ node :: later)) :
    Accepts nodes definition node := by
  have haccepts := h.accepts nodes.length definition node (by simp [← hlength]) (by simp)
  rwa [List.take_left] at haccepts

end Builder

namespace Chain

open Builder (Compiled bare)

/-! ### The definitions of a chain -/

/-- The definition of a table that is joined to a level. -/
def Join.definition (join : Join) (parent : Nat) : Definition :=
  ⟨join.source.index, join.source.table, join.columns.map fun column => .linked ⟨parent⟩ column⟩

/-- The definitions of tables of which the first is joined to a level, and each other one to the one
before. -/
def joinDefinitions (parent : Nat) : List Join → List Definition
  | [] => []
  | join :: rest => Join.definition join parent :: joinDefinitions (parent + 1) rest

/-- The definitions of a chain whose root is found by an index. -/
def definitions (chain : Chain) (index : Option Index) : List Definition :=
  ⟨index, chain.root.table, chain.keys.map .constant⟩ :: joinDefinitions 0 chain.joins

theorem getElem?_joinDefinitions (joins : List Join) : ∀ (parent place : Nat),
    (joinDefinitions parent joins)[place]? =
      joins[place]?.map fun join => Join.definition join (parent + place) := by
  induction joins with
  | nil => intro parent place; rfl
  | cons join rest ih =>
    intro parent place
    cases place with
    | zero => rfl
    | succ place =>
      rw [joinDefinitions, List.getElem?_cons_succ, List.getElem?_cons_succ, ih,
        Nat.add_right_comm, Nat.add_assoc]

theorem length_definitions (chain : Chain) (index : Option Index) :
    (chain.definitions index).length = chain.length := by
  have hlength : ∀ (joins : List Join) (parent : Nat),
      (joinDefinitions parent joins).length = joins.length := by
    intro joins
    induction joins with
    | nil => exact fun _ => rfl
    | cons join rest ih => exact fun parent => congrArg Nat.succ (ih (parent + 1))
  exact congrArg Nat.succ (hlength chain.joins 0)

/-! ### Compiling -/

/-- A node with the layout and the mark of a table. -/
def dress (source : Source) (joinOnly : Bool) (node : Node) : Node :=
  { node with record := some source.record, joinOnly }

/-- Nodes with the layouts and marks of joined tables. -/
def dressJoins (joins : List Join) (nodes : List Node) : List Node :=
  List.zipWith (fun join node => dress join.source join.joinOnly node) joins nodes

/-- The last level of a builder can be changed. -/
theorem update_last (builder : Builder) (nodes : List Node) (node : Node) (change : Node → Node) :
    ({ builder with nodes := nodes ++ [node] }).update ⟨nodes.length⟩ change =
      .ok { builder with nodes := nodes ++ [change node] } := by
  have hmodify : (nodes ++ [node]).modify nodes.length change = nodes ++ [change node] := by
    induction nodes with
    | nil => rfl
    | cons first rest ih => exact congrArg (first :: ·) ih
  simp [Builder.update, hmodify]

/-- A level is defined exactly if its definition is accepted. -/
theorem defineLevel_eq_ok_iff {builder : Builder} {index : Option Index} {source : Source}
    {operands : List Operand} {joinOnly : Bool} {answer : LevelRef × Builder} :
    (defineLevel builder index source operands joinOnly).value = .ok answer ↔ ∃ node,
      Builder.Accepts (builder.nodes.map bare) ⟨index, source.table, operands⟩ node ∧
      answer = (⟨builder.nodes.length⟩,
        { builder with nodes := builder.nodes ++ [dress source joinOnly node] }) := by
  have haccepts : ∀ node, Builder.compile builder.nodes index source.table operands = .ok node ↔
      Builder.Accepts (builder.nodes.map bare) ⟨index, source.table, operands⟩ node := by
    intro node
    rw [← Builder.compile_map_bare]
    exact @Builder.compile_eq_ok_iff _ ⟨index, source.table, operands⟩ node
  simp only [← haccepts]
  rw [defineLevel, Traced.value_bind]
  cases hnode : Builder.compile builder.nodes index source.table operands with
  | error cause =>
    simp only [Builder.define, hnode]
    constructor
    · intro h
      cases h
    · rintro ⟨_, h, _⟩
      cases h
  | ok node =>
    have hnumber := ((haccepts node).mp hnode).number
    have hmark := ((haccepts node).mp hnode).joinOnly
    obtain ⟨number, parent, depth, access, record, marked⟩ := node
    obtain rfl : marked = false := hmark
    obtain rfl : number = builder.nodes.length := by simpa using hnumber
    simp only [Builder.define, hnode, Builder.setRecord, Traced.value_pure, bind, Except.bind,
      update_last, Except.ok.injEq, exists_eq_left']
    cases joinOnly with
    | false => exact ⟨fun h => (Except.ok.inj h).symm, fun h => h ▸ rfl⟩
    | true =>
      rw [if_pos rfl, Builder.markJoinOnly, update_last]
      exact ⟨fun h => (Except.ok.inj h).symm, fun h => h ▸ rfl⟩

theorem map_bare_dress (nodes : List Node) (source : Source) (joinOnly : Bool) {node : Node}
    {definition : Definition} (h : Builder.Accepts (nodes.map bare) definition node) :
    (nodes ++ [dress source joinOnly node]).map bare = nodes.map bare ++ [node] := by
  have hbare : bare (dress source joinOnly node) = node := by
    rw [bare, dress, ← h.record, ← h.joinOnly]
  rw [List.map_append, List.map_singleton, hbare]

theorem value_defineJoins_cons (builder : Builder) (parent : LevelRef) (join : Join)
    (rest : List Join) :
    (defineJoins builder parent (join :: rest)).value = (do
      let (ref, builder) ← (defineLevel builder join.source.index join.source
        (join.columns.map fun column => .linked parent column) join.joinOnly).value
      (defineJoins builder ref rest).value) := by
  rw [defineJoins, Traced.value_bind]
  cases (defineLevel builder join.source.index join.source
    (join.columns.map fun column => .linked parent column) join.joinOnly).value <;> rfl

/-- Tables are joined, one after the other, exactly if their definitions are accepted. -/
theorem defineJoins_eq_ok_iff (joins : List Join) : ∀ {builder changed : Builder} {last : Nat}
    {before : List Definition}, Compiled before (builder.nodes.map bare) →
      builder.nodes.length = last + 1 →
    ((defineJoins builder ⟨last⟩ joins).value = .ok changed ↔ ∃ nodes,
      Compiled (before ++ joinDefinitions last joins) (builder.nodes.map bare ++ nodes) ∧
      changed = { builder with nodes := builder.nodes ++ dressJoins joins nodes }) := by
  induction joins with
  | nil =>
    intro builder changed last before h hlast
    rw [defineJoins, joinDefinitions, List.append_nil]
    constructor
    · intro hok
      obtain rfl := Except.ok.inj hok
      exact ⟨[], by simpa using h, by simp [dressJoins]⟩
    · rintro ⟨nodes, hnodes, rfl⟩
      simp [dressJoins]
  | cons join rest ih =>
    intro builder changed last before h hlast
    rw [value_defineJoins_cons, Except.bind_eq_ok]
    -- Once the first table is accepted, the others are joined to a builder that has it.
    have hrest : ∀ {node},
        Builder.Accepts (builder.nodes.map bare) (Join.definition join last) node →
        ((defineJoins { builder with
            nodes := builder.nodes ++ [dress join.source join.joinOnly node] }
          ⟨builder.nodes.length⟩ rest).value = .ok changed ↔ ∃ later,
          Compiled (before ++ joinDefinitions last (join :: rest))
            (builder.nodes.map bare ++ node :: later) ∧
          changed = { builder with
            nodes := builder.nodes ++ dressJoins (join :: rest) (node :: later) }) := by
      intro node haccepts
      have hbare := map_bare_dress builder.nodes join.source join.joinOnly haccepts
      have hnext := h.concat haccepts
      rw [← hbare] at hnext
      rw [hlast, ih hnext (by simp [hlast])]
      simp only [hbare, List.append_assoc, List.singleton_append, joinDefinitions, dressJoins,
        List.zipWith_cons_cons]
    constructor
    · rintro ⟨_, hlevel, hok⟩
      obtain ⟨node, haccepts, rfl⟩ := defineLevel_eq_ok_iff.mp hlevel
      obtain ⟨later, hlater⟩ := (hrest haccepts).mp hok
      exact ⟨node :: later, hlater⟩
    · rintro ⟨nodes, hnodes, hchanged⟩
      cases nodes with
      | nil =>
        have hlength := hnodes.length_eq
        simp [h.length_eq, joinDefinitions] at hlength
      | cons node later =>
        have haccepts := hnodes.accepts_append h.length_eq
        exact ⟨_, defineLevel_eq_ok_iff.mpr ⟨node, haccepts, rfl⟩,
          (hrest haccepts).mpr ⟨later, hnodes, hchanged⟩⟩

/-! ### The query of a chain -/

/-- Every table but the root is linked to the one before it. -/
theorem links_definitions (chain : Chain) (index : Option Index) (place : Nat)
    (definition : Definition) (h : (chain.definitions index)[place]? = some definition) :
    ∀ number ∈ Builder.linkedLevels definition.operands, number + 1 = place := by
  intro number hmem
  obtain ⟨parent, column, hlinked, rfl⟩ := Builder.mem_linkedLevels.mp hmem
  cases place with
  | zero =>
    obtain rfl := Option.some.inj h
    simp at hlinked
  | succ place =>
    rw [definitions, List.getElem?_cons_succ, getElem?_joinDefinitions] at h
    obtain ⟨join, -, rfl⟩ := Option.map_eq_some_iff.mp h
    simp only [Join.definition, List.mem_map, Operand.linked.injEq] at hlinked
    obtain ⟨_, -, rfl, -⟩ := hlinked
    simp

theorem joinedInOrder_definitions (chain : Chain) (index : Option Index) :
    Builder.JoinedInOrder (chain.definitions index) := by
  intro place definition h parent column hlinked
  have hnumber := links_definitions chain index (place + 1) definition h parent.number
    (Builder.mem_linkedLevels.mpr ⟨parent, column, hlinked, rfl⟩)
  omega

/-- The nodes of a chain, with the layouts and marks of its tables. -/
def dressed (chain : Chain) : List Node → List Node
  | [] => []
  | root :: nodes => dress chain.root false root :: dressJoins chain.joins nodes

/-- Without the layouts and marks, the compiled nodes are left. -/
theorem map_bare_dressed {chain : Chain} {index : Option Index} {nodes : List Node}
    (h : Compiled (chain.definitions index) nodes) : (chain.dressed nodes).map bare = nodes := by
  have hbare : ∀ node ∈ nodes, bare node = node := by
    intro node hmem
    obtain ⟨place, hplace⟩ := List.mem_iff_getElem?.mp hmem
    obtain ⟨definition, hdefinition⟩ := h.exists_definition hplace
    have haccepts := h.accepts place definition node hdefinition hplace
    rw [bare, ← haccepts.record, ← haccepts.joinOnly]
  have hjoins : ∀ (joins : List Join) (nodes : List Node), joins.length = nodes.length →
      (∀ node ∈ nodes, bare node = node) → (dressJoins joins nodes).map bare = nodes := by
    intro joins
    induction joins with
    | nil => exact fun nodes hlength _ => (List.length_eq_zero_iff.mp hlength.symm).symm
    | cons join rest ih =>
      intro nodes hlength hnodes
      cases nodes with
      | nil => exact absurd hlength (Nat.succ_ne_zero _)
      | cons node later =>
        have hlater := ih later (Nat.succ.inj hlength) (List.forall_mem_cons.mp hnodes).2
        exact List.cons_eq_cons.mpr ⟨hnodes node List.mem_cons_self, hlater⟩
  have hlength : chain.joins.length + 1 = nodes.length :=
    (length_definitions chain index).symm.trans h.length_eq
  cases nodes with
  | nil => exact absurd hlength (Nat.succ_ne_zero _)
  | cons root later =>
    have hlater := hjoins chain.joins later (Nat.succ.inj hlength) (List.forall_mem_cons.mp hbare).2
    exact List.cons_eq_cons.mpr ⟨hbare root List.mem_cons_self, hlater⟩

/-- Compiled nodes can be finalized with the layouts and marks of the tables. -/
theorem depthsCount_dressed {chain : Chain} {index : Option Index} {nodes : List Node}
    (h : Compiled (chain.definitions index) nodes) : Builder.DepthsCount (chain.dressed nodes) := by
  rw [← Builder.depthsCount_map_bare, map_bare_dressed h]
  exact h.depths_iff.mpr (joinedInOrder_definitions chain index)

theorem value_compile (chain : Chain) (id : String) :
    (chain.compile id).value = (do
      let index ← chain.rootIndex.value
      let (root, builder) ← (defineLevel .empty index chain.root (chain.keys.map .constant)
        false).value
      let builder ← (defineJoins builder root chain.joins).value
      (builder.prepare root id).value) := by
  rw [compile, Traced.value_bind, Traced.value_bind]
  cases chain.rootIndex.value with
  | error error => rfl
  | ok index =>
    rw [Except.ok_bind]
    simp only [Traced.value_bind]
    cases (defineLevel .empty index chain.root (chain.keys.map .constant) false).value with
    | error error => rfl
    | ok answer =>
      rw [Except.ok_bind]
      simp only [Traced.value_bind]
      cases (defineJoins answer.2 answer.1 chain.joins).value <;> rfl

/-! ### Compiling as calls on a builder -/

/-- A level is defined by calls on the builder. -/
theorem exists_calls_of_defineLevel {builder changed : Builder} {index : Option Index}
    {source : Source} {operands : List Operand} {joinOnly : Bool} {ref : LevelRef}
    (h : (defineLevel builder index source operands joinOnly).value = .ok (ref, changed)) :
    ∃ calls, changed = builder.after calls := by
  rw [defineLevel, Traced.value_bind] at h
  obtain ⟨level, hlevel, h⟩ := Except.bind_eq_ok.mp h
  obtain ⟨recorded, hrecorded, h⟩ := Except.bind_eq_ok.mp h
  let calls : List Builder.Call :=
    [.define index source.table operands, .setRecord level source.record]
  have hcalls : recorded = builder.after calls := by
    simp [calls, Builder.after, Builder.Call.perform, hrecorded]
  by_cases hmark : joinOnly = true
  · rw [if_pos hmark] at h
    obtain ⟨marked, hmarked, h⟩ := Except.bind_eq_ok.mp h
    refine ⟨calls ++ [.markJoinOnly level], ?_⟩
    rw [← (Prod.mk.inj (Except.ok.inj h)).2, Builder.after_append, ← hcalls]
    simp [Builder.after, Builder.Call.perform, hmarked]
  · rw [if_neg hmark] at h
    exact ⟨calls, (Prod.mk.inj (Except.ok.inj h)).2 ▸ hcalls⟩

/-- Tables are joined by calls on the builder. -/
theorem exists_calls_of_defineJoins (joins : List Join) : ∀ {builder changed : Builder}
    {parent : LevelRef}, (defineJoins builder parent joins).value = .ok changed →
      ∃ calls, changed = builder.after calls := by
  induction joins with
  | nil => exact fun h => ⟨[], (Except.ok.inj h).symm⟩
  | cons join rest ih =>
    intro builder changed parent h
    rw [value_defineJoins_cons] at h
    obtain ⟨⟨ref, next⟩, hlevel, h⟩ := Except.bind_eq_ok.mp h
    obtain ⟨calls, rfl⟩ := exists_calls_of_defineLevel hlevel
    obtain ⟨later, rfl⟩ := ih h
    exact ⟨calls ++ later, (Builder.after_append ..).symm⟩

/-- **What a chain is compiled into** is a tree that is defined by calls and finalized. So whatever
is true of all of these, is true of compiled chains. -/
theorem prepared_of_compile {chain : Chain} {id : String} {query : Query}
    (h : (chain.compile id).value = .ok query) : query.Prepared := by
  rw [value_compile] at h
  obtain ⟨index, -, h⟩ := Except.bind_eq_ok.mp h
  obtain ⟨⟨root, defined⟩, hroot, h⟩ := Except.bind_eq_ok.mp h
  obtain ⟨joined, hjoined, h⟩ := Except.bind_eq_ok.mp h
  obtain ⟨calls, rfl⟩ := exists_calls_of_defineLevel hroot
  obtain ⟨later, rfl⟩ := exists_calls_of_defineJoins _ hjoined
  refine ⟨calls ++ later, root, id, ?_⟩
  rwa [Builder.after_append]

/-! ### Acceptance -/

/-- Once the root is accepted, the other tables are joined exactly if all definitions are. -/
theorem defineJoins_root_eq_ok_iff {chain : Chain} {index : Option Index} {root : Node}
    {changed : Builder}
    (hroot : Builder.Accepts [] ⟨index, chain.root.table, chain.keys.map .constant⟩ root) :
    (defineJoins ⟨[dress chain.root false root], none⟩ ⟨0⟩ chain.joins).value = .ok changed ↔
      ∃ later, Compiled (chain.definitions index) (root :: later) ∧
        changed = ⟨chain.dressed (root :: later), none⟩ := by
  have hbare : [dress chain.root false root].map bare = [root] :=
    map_bare_dress [] chain.root false hroot
  have hfirst : Compiled [⟨index, chain.root.table, chain.keys.map .constant⟩]
      ([dress chain.root false root].map bare) := by
    rw [hbare]
    exact Builder.compiled_nil.concat hroot
  rw [defineJoins_eq_ok_iff chain.joins hfirst rfl, hbare]
  rfl

/-- A chain is compiled exactly if its root has an index in the end, and its definitions are
accepted. -/
theorem compile_eq_ok_iff {chain : Chain} {id : String} {query : Query} :
    (chain.compile id).value = .ok query ↔ ∃ index nodes, chain.rootIndex.value = .ok index ∧
      Compiled (chain.definitions index) nodes ∧ query.nodes = chain.dressed nodes ∧
        query.id = id := by
  rw [value_compile, Except.bind_eq_ok]
  constructor
  · rintro ⟨index, hindex, h⟩
    obtain ⟨_, hlevel, h⟩ := Except.bind_eq_ok.mp h
    obtain ⟨root, hroot, rfl⟩ := defineLevel_eq_ok_iff.mp hlevel
    obtain ⟨_, hjoins, h⟩ := Except.bind_eq_ok.mp h
    obtain ⟨later, hlater, rfl⟩ := (defineJoins_root_eq_ok_iff hroot).mp hjoins
    rw [Builder.value_prepare, Builder.finalize_eq_ok_iff] at h
    exact ⟨index, root :: later, hindex, hlater, h.2.2⟩
  · rintro ⟨index, nodes, hindex, h, hnodes, hid⟩
    cases nodes with
    | nil => exact nomatch hnodes
    | cons root later =>
      have hroot : Builder.Accepts [] ⟨index, chain.root.table, chain.keys.map .constant⟩ root :=
        @Compiled.accepts_append [] [] later _ root _ rfl h
      have hlevel := (@defineLevel_eq_ok_iff .empty index chain.root (chain.keys.map .constant)
        false _).mpr ⟨root, hroot, rfl⟩
      have hjoins := (defineJoins_root_eq_ok_iff hroot).mpr ⟨later, h, rfl⟩
      have hprepare : (Builder.prepare ⟨chain.dressed (root :: later), none⟩ ⟨0⟩ id).value =
          .ok query := by
        rw [Builder.value_prepare, Builder.finalize_eq_ok_iff]
        exact ⟨rfl, depthsCount_dressed h, hnodes, hid⟩
      exact ⟨index, hindex, Except.bind_eq_ok.mpr ⟨_, hlevel,
        Except.bind_eq_ok.mpr ⟨_, hjoins, hprepare⟩⟩⟩

/-! ### Well-formed chains -/

/-- A chain whose root is found by a unique key, while a later table is scanned. -/
def ReplacesRoot (chain : Chain) : Prop :=
  (∃ join ∈ chain.joins, join.source.index.map Index.kind = some .ordered) ∧
    chain.root.index.map Index.kind ∈ [none, some .primaryKey, some .uniqueHash]

instance (chain : Chain) : Decidable chain.ReplacesRoot := inferInstanceAs (Decidable (_ ∧ _))

/-- The index by which the root is found in the end. -/
def effectiveRootIndex (chain : Chain) : Option Index :=
  if chain.ReplacesRoot then chain.rootScanIndex else chain.root.index

/-- The tables of a chain, the root first. -/
def sources (chain : Chain) : List Source := chain.root :: chain.joins.map Join.source

/-- A chain that can be compiled. -/
structure WellFormed (chain : Chain) : Prop where
  length_le : chain.length ≤ 32
  rootScan : chain.ReplacesRoot → ∃ index, chain.rootScanIndex = some index ∧ index.kind = .ordered
  rootKey : chain.root.table.Takes chain.effectiveRootIndex chain.keys.length
  joinKeys : ∀ join ∈ chain.joins, join.source.table.Takes join.source.index join.columns.length
  linked : ∀ join ∈ chain.joins, join.columns ≠ []
  columns : ∀ (level : Nat) (join : Join), chain.joins[level]? = some join →
    ∀ column ∈ join.columns, ∃ above, chain.sources[level]? = some above ∧
      column ∈ above.table.columns

/-- A query with one level for each table of a chain, in order, and nothing else. -/
structure Mirrors (chain : Chain) (query : Query) : Prop where
  levels : query.levels = chain.length
  root : ∃ access, query.root = ⟨0, none, 0, access, some chain.root.record, false⟩ ∧
    chain.root.table.Reaches (chain.keys.map .constant) chain.effectiveRootIndex access
  joins : ∀ (level : Nat) (join : Join), chain.joins[level]? = some join → ∃ access,
    query.joins[level]? =
      some ⟨level + 1, some level, level + 1, access, some join.source.record, join.joinOnly⟩ ∧
    join.source.table.Reaches (join.columns.map fun column => .linked ⟨level⟩ column)
      join.source.index access

theorem needsRootScan_iff {chain : Chain} : chain.needsRootScan = true ↔ chain.ReplacesRoot := by
  have hscan : ∀ source : Source,
      source.isScan = true ↔ source.index.map Index.kind = some .ordered := by
    intro source
    cases hindex : source.index <;> simp [Source.isScan, hindex]
  have hunique : chain.root.isUnique = true ↔
      chain.root.index.map Index.kind ∈ [none, some .primaryKey, some .uniqueHash] := by
    cases hindex : chain.root.index with
    | none => simp [Source.isUnique, hindex]
    | some index => cases hkind : index.kind <;>
        simp [Source.isUnique, hindex, hkind, IndexKind.isUnique]
  rw [needsRootScan, Bool.and_eq_true, hunique, scansBelowRoot, List.any_eq_true]
  simp only [hscan, ReplacesRoot]

/-- The root has an index in the end unless it has to be scanned and cannot. -/
theorem rootIndex_eq_ok_iff {chain : Chain} {index : Option Index} :
    chain.rootIndex.value = .ok index ↔
      (chain.ReplacesRoot → ∃ scan, chain.rootScanIndex = some scan ∧ scan.kind = .ordered) ∧
        index = chain.effectiveRootIndex := by
  rw [rootIndex, effectiveRootIndex]
  by_cases hreplaces : chain.ReplacesRoot
  · rw [if_pos (needsRootScan_iff.mpr hreplaces), if_pos hreplaces]
    cases hscan : chain.rootScanIndex with
    | none => simp [rootScan?, hscan, hreplaces]
    | some scan =>
      by_cases hkind : scan.kind = .ordered
      · have hoffered : chain.rootScan? = some scan := by
          simp [rootScan?, hscan, Option.filter, hkind]
        simp [hoffered, hkind, hreplaces, eq_comm (a := index)]
      · have hoffered : chain.rootScan? = none := by simp [rootScan?, hscan, Option.filter, hkind]
        simp [hoffered, hkind, hreplaces]
  · rw [if_neg (mt needsRootScan_iff.mp hreplaces), if_neg hreplaces]
    simp [hreplaces, eq_comm (a := index)]

/-! ### Definitions that fit -/

/-- The tables of a chain's definitions are those of the chain. -/
theorem map_table_definitions (chain : Chain) (index : Option Index) (level : Nat) :
    ((chain.definitions index)[level]?).map Definition.table =
      (chain.sources[level]?).map Source.table := by
  cases level with
  | zero => rfl
  | succ level =>
    rw [definitions, sources, List.getElem?_cons_succ, List.getElem?_cons_succ,
      getElem?_joinDefinitions, List.getElem?_map, Option.map_map, Option.map_map]
    rfl

/-- A joined table has the columns of the table before to link to, whichever way they are found. -/
theorem column_above_iff {chain : Chain} {index : Option Index} {level : Nat} {column : String} :
    (∃ above, (chain.definitions index)[level]? = some above ∧ column ∈ above.table.columns) ↔
      ∃ above, chain.sources[level]? = some above ∧ column ∈ above.table.columns := by
  have htable := map_table_definitions chain index level
  cases hdefinition : (chain.definitions index)[level]? <;>
    cases hsource : chain.sources[level]? <;> simp_all

theorem linkedLevels_join_eq_nil_iff {join : Join} {parent : Nat} :
    Builder.linkedLevels (Join.definition join parent).operands = [] ↔ join.columns = [] := by
  cases hcolumns : join.columns <;> simp [Join.definition, hcolumns, Builder.linkedLevels,
    Operand.parent?]

theorem definition_of_getElem? {chain : Chain} {level : Nat} {join : Join}
    (hjoin : chain.joins[level]? = some join) (index : Option Index) :
    (chain.definitions index)[level + 1]? = some (Join.definition join level) := by
  rw [definitions, List.getElem?_cons_succ, getElem?_joinDefinitions, hjoin, Nat.zero_add,
    Option.map_some]

/-- The root fits if rows can be found by its key. -/
theorem fits_root_iff {chain : Chain} {index : Option Index} :
    Builder.Fits (chain.definitions index) 0
        ⟨index, chain.root.table, chain.keys.map .constant⟩ ↔
      chain.root.table.Takes index chain.keys.length := by
  constructor
  · intro h
    have htakes := h.takes
    rwa [List.length_map] at htakes
  · intro htakes
    refine ⟨by rwa [List.length_map], fun hplace => absurd rfl hplace, ?_, ?_⟩
    · intro parent column hlinked
      simp at hlinked
    · intro hordered root hroot
      obtain rfl := Option.some.inj hroot
      exact hordered

/-- A joined table fits if rows can be found by its key, which has columns, all of them of the table
before; and if it is scanned, only below a scan. -/
theorem fits_join_iff {chain : Chain} {index : Option Index} {level : Nat} {join : Join} :
    Builder.Fits (chain.definitions index) (level + 1) (Join.definition join level) ↔
      join.source.table.Takes join.source.index join.columns.length ∧ join.columns ≠ [] ∧
      (∀ column ∈ join.columns, ∃ above, chain.sources[level]? = some above ∧
        column ∈ above.table.columns) ∧
      (join.source.index.map Index.kind = some .ordered →
        index.map Index.kind = some .ordered) := by
  simp only [← @column_above_iff chain index]
  constructor
  · intro h
    refine ⟨?_, ?_, ?_, fun hordered => h.scan hordered _ rfl⟩
    · have htakes := h.takes
      rwa [Join.definition, List.length_map] at htakes
    · exact mt linkedLevels_join_eq_nil_iff.mpr (h.linked (Nat.succ_ne_zero level))
    · exact fun column hmem => h.columns ⟨level⟩ column (List.mem_map_of_mem hmem)
  · rintro ⟨htakes, hcolumns, habove, hscan⟩
    refine ⟨?_, fun _ => mt linkedLevels_join_eq_nil_iff.mp hcolumns, ?_, ?_⟩
    · rwa [Join.definition, List.length_map]
    · intro parent column hlinked
      obtain ⟨_, hmem, heq⟩ := List.mem_map.mp hlinked
      obtain ⟨rfl, rfl⟩ := Operand.linked.inj heq
      exact habove _ hmem
    · intro hordered root hroot
      obtain rfl := Option.some.inj hroot
      exact hscan hordered

/-- Below a root of a well-formed chain, scans are below a scan. -/
theorem ordered_root {chain : Chain} (hscan : chain.ReplacesRoot →
      ∃ index, chain.rootScanIndex = some index ∧ index.kind = .ordered)
    (hroot : chain.root.table.Takes chain.effectiveRootIndex chain.keys.length)
    {join : Join} (hmem : join ∈ chain.joins)
    (hordered : join.source.index.map Index.kind = some .ordered) :
    chain.effectiveRootIndex.map Index.kind = some .ordered := by
  rw [effectiveRootIndex] at hroot ⊢
  by_cases hreplaces : chain.ReplacesRoot
  · obtain ⟨index, hindex, hkind⟩ := hscan hreplaces
    rw [if_pos hreplaces, hindex, Option.map_some, hkind]
  · rw [if_neg hreplaces] at hroot ⊢
    -- Without a unique key, the root is scanned already, or its index is of no use.
    have hunique : chain.root.index.map Index.kind ∉ [none, some .primaryKey, some .uniqueHash] :=
      fun h => hreplaces ⟨⟨join, hmem, hordered⟩, h⟩
    cases hkind : chain.root.index.map Index.kind with
    | none => simp [hkind] at hunique
    | some kind => cases kind <;> simp_all [Table.Takes]

/-- A chain is well-formed exactly if its root can be scanned where it has to be, and its
definitions fit. -/
theorem wellFormed_iff {chain : Chain} :
    chain.WellFormed ↔ (chain.ReplacesRoot → ∃ index,
        chain.rootScanIndex = some index ∧ index.kind = .ordered) ∧
      (chain.definitions chain.effectiveRootIndex).length ≤ Builder.maxLevels ∧
      ∀ place definition, (chain.definitions chain.effectiveRootIndex)[place]? = some definition →
        Builder.Fits (chain.definitions chain.effectiveRootIndex) place definition := by
  rw [length_definitions]
  constructor
  · intro h
    refine ⟨h.rootScan, h.length_le, fun place definition hdefinition => ?_⟩
    cases place with
    | zero =>
      obtain rfl := Option.some.inj hdefinition
      exact fits_root_iff.mpr h.rootKey
    | succ level =>
      rw [definitions, List.getElem?_cons_succ, getElem?_joinDefinitions, Nat.zero_add]
        at hdefinition
      obtain ⟨join, hjoin, rfl⟩ := Option.map_eq_some_iff.mp hdefinition
      have hmem := List.mem_of_getElem? hjoin
      exact fits_join_iff.mpr ⟨h.joinKeys join hmem, h.linked join hmem,
        h.columns level join hjoin, ordered_root h.rootScan h.rootKey hmem⟩
  · rintro ⟨hscan, hlength, hfits⟩
    have hjoins : ∀ (level : Nat) (join : Join), chain.joins[level]? = some join →
        Builder.Fits (chain.definitions chain.effectiveRootIndex) (level + 1)
          (Join.definition join level) :=
      fun level join hjoin => hfits _ _ (definition_of_getElem? hjoin _)
    refine ⟨hlength, hscan, fits_root_iff.mp (hfits 0 _ rfl), ?_, ?_, ?_⟩
    · intro join hmem
      obtain ⟨level, hjoin⟩ := List.mem_iff_getElem?.mp hmem
      exact (fits_join_iff.mp (hjoins level join hjoin)).1
    · intro join hmem
      obtain ⟨level, hjoin⟩ := List.mem_iff_getElem?.mp hmem
      exact (fits_join_iff.mp (hjoins level join hjoin)).2.1
    · exact fun level join hjoin => (fits_join_iff.mp (hjoins level join hjoin)).2.2.1

/-! ### The chains that can be compiled -/

theorem exists_query_of_compiled {chain : Chain} {index : Option Index} {nodes : List Node}
    (h : Compiled (chain.definitions index) nodes) (id : String) :
    ∃ query : Query, query.nodes = chain.dressed nodes ∧ query.id = id := by
  cases nodes with
  | nil => exact nomatch h.length_eq
  | cons root later => exact ⟨⟨id, _, _⟩, rfl, rfl⟩

/-- A level of a chain's query is what its place says, apart from the way its rows are found. -/
theorem node_of_formedLevel {query : Query} {definition : Definition} {level : Nat} {node : Node}
    (h : Builder.FormedLevel query definition level node) (hnode : query.node? level = some node) :
    node = ⟨level, if level = 0 then none else some (level - 1), level, node.access, node.record,
      node.joinOnly⟩ := by
  have hparent := h.parent
  rw [Query.parentOf, hnode, Option.bind_some] at hparent
  rw [← hparent]
  obtain ⟨number, parent, depth, access, record, joinOnly⟩ := node
  obtain rfl : number = level := h.number
  obtain rfl : depth = number := h.depth
  rfl

/-- The levels of a query mirror the tables of the chain it is compiled from. -/
theorem mirrors_of_compiled {chain : Chain} {query : Query} {nodes : List Node}
    (h : Compiled (chain.definitions chain.effectiveRootIndex) nodes)
    (hquery : query.nodes = chain.dressed nodes) : chain.Mirrors query := by
  have hbare : query.nodes.map bare = nodes := by rw [hquery, map_bare_dressed h]
  have hformed := (hbare.symm ▸ h).formed (joinedInOrder_definitions chain _)
  cases nodes with
  | nil => exact nomatch h.length_eq
  | cons root later =>
    obtain ⟨hroot, hjoins⟩ := List.cons.inj hquery
    refine ⟨hformed.levels.trans (length_definitions chain _), ?_, ?_⟩
    · have hnode : query.node? 0 = some query.root := rfl
      obtain ⟨definition, hdefinition, hlevel⟩ := hformed.level 0 query.root hnode
      obtain rfl := Option.some.inj hdefinition
      refine ⟨query.root.access, ?_, hlevel.reaches⟩
      have hshape := node_of_formedLevel hlevel hnode
      rw [hroot] at hshape ⊢
      exact hshape
    · intro level join hjoin
      obtain ⟨node, hnode⟩ := h.exists_node (definition_of_getElem? hjoin _)
      rw [List.getElem?_cons_succ] at hnode
      have hplace : query.joins[level]? = some (dress join.source join.joinOnly node) := by
        rw [hjoins, dressJoins, List.getElem?_zipWith, hjoin, hnode]
      obtain ⟨definition, hdefinition, hlevel⟩ := hformed.level (level + 1) _ hplace
      rw [definition_of_getElem? hjoin] at hdefinition
      obtain rfl := Option.some.inj hdefinition
      refine ⟨node.access, ?_, hlevel.reaches⟩
      rw [hplace]
      exact congrArg some (node_of_formedLevel hlevel hplace)

/-- **The chains that can be compiled.** A chain can be compiled exactly if it is well-formed, and
its query has one level for each of its tables then. -/
theorem compile_eq_ok_iff_wellFormed (chain : Chain) (id : String) :
    ((∃ query, (chain.compile id).value = .ok query) ↔ chain.WellFormed) ∧
      ∀ query, (chain.compile id).value = .ok query → query.id = id ∧ chain.Mirrors query := by
  refine ⟨⟨?_, ?_⟩, ?_⟩
  · rintro ⟨query, hquery⟩
    obtain ⟨index, nodes, hindex, hnodes, -⟩ := compile_eq_ok_iff.mp hquery
    obtain ⟨hscan, rfl⟩ := rootIndex_eq_ok_iff.mp hindex
    exact wellFormed_iff.mpr
      ⟨hscan, (Builder.exists_compiled_iff (links_definitions chain _)).mp ⟨nodes, hnodes⟩⟩
  · intro h
    obtain ⟨hscan, hfits⟩ := wellFormed_iff.mp h
    obtain ⟨nodes, hnodes⟩ := (Builder.exists_compiled_iff (links_definitions chain _)).mpr hfits
    obtain ⟨query, hquery, hid⟩ := exists_query_of_compiled hnodes id
    exact ⟨query, compile_eq_ok_iff.mpr
      ⟨_, nodes, rootIndex_eq_ok_iff.mpr ⟨hscan, rfl⟩, hnodes, hquery, hid⟩⟩
  · intro query hquery
    obtain ⟨index, nodes, hindex, hnodes, hsame, hid⟩ := compile_eq_ok_iff.mp hquery
    obtain ⟨-, rfl⟩ := rootIndex_eq_ok_iff.mp hindex
    exact ⟨hid, mirrors_of_compiled hnodes hsame⟩

/-- A customer and its orders, which are scanned, so that the customer is, too. -/
theorem compile_eq_ok_iff_wellFormed_orders :
    let customer : Source := ⟨⟨"customer", ["id", "name"], ["id"]⟩, none, .packed [("id", 4)]⟩
    let orders : Source := ⟨⟨"orders", ["order_id", "customer"], ["order_id"]⟩,
      some ⟨"orders_by_customer", .ordered, ["customer"]⟩, .packed [("order_id", 4)]⟩
    let byId : Index := ⟨"customer_by_id", .ordered, ["id"]⟩
    let chain := ((single customer [[1]]).join orders ["id"]).withRootScanIndex byId
    chain.ReplacesRoot ∧
      ∃ query, (chain.compile "orders").value = .ok query ∧ chain.Mirrors query := by
  intro customer orders byId chain
  have hreplaces : chain.ReplacesRoot := by decide
  have hwellFormed : chain.WellFormed := by
    refine ⟨by decide, fun _ => ⟨byId, rfl, rfl⟩, ?_, ?_, by decide, ?_⟩
    · rw [effectiveRootIndex, if_pos hreplaces]
      exact Nat.le_refl 1
    · rintro join hmem
      obtain rfl := List.mem_singleton.mp hmem
      exact Nat.le_refl 1
    · rintro (_ | level) join hjoin
      · obtain rfl := Option.some.inj hjoin
        exact fun column hmem => ⟨customer, rfl, by simp_all [customer]⟩
      · exact nomatch hjoin
  obtain ⟨hiff, hmirrors⟩ := compile_eq_ok_iff_wellFormed chain "orders"
  obtain ⟨query, hquery⟩ := hiff.mpr hwellFormed
  exact ⟨hreplaces, query, hquery, (hmirrors query hquery).2⟩

end Chain

end StorageClient
