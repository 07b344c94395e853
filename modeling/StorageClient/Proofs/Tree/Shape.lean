import StorageClient.Proofs.Tree.Definitions
/-!
# StorageClient.Proofs.Tree.Shape

Which trees can be finalized, and the shape they have then.

A builder takes any tree: a level may be joined to any level defined before it. What is checked at
the end are the depths, which have to count the levels. A level joined to level `p` has one more
than the depth of `p`, so by induction the depths count the levels exactly if each level is joined
to the one before it (`Builder.Compiled.depths_iff`). That is the chain of `Query.IsChain`.
-/

namespace StorageClient

namespace Builder

/-! ### Finalizing -/

/-- The depth of every node is its place. -/
def DepthsCount (nodes : List Node) : Prop :=
  ∀ (place : Nat) (node : Node), nodes[place]? = some node → node.depth = place

/-- Depths pass the check exactly if they count the levels. -/
theorem checkDepths_eq_ok_iff {nodes : List Node} : ∀ {level : Nat},
    checkDepths level nodes = .ok () ↔ ∀ place node, nodes[place]? = some node →
      node.depth = level + place := by
  induction nodes with
  | nil =>
    intro level
    exact ⟨fun _ _ _ h => (nomatch h), fun _ => rfl⟩
  | cons first rest ih =>
    intro level
    rw [checkDepths]
    constructor
    · intro h place node hnode
      split at h
      · rename_i hfirst
        cases place with
        | zero =>
          obtain rfl := Option.some.inj hnode
          exact hfirst
        | succ place =>
          have := ih.mp h place node hnode
          omega
      · exact nomatch h
    · intro h
      have hfirst : first.depth = level := h 0 first rfl
      rw [if_pos hfirst]
      refine ih.mpr fun place node hnode => ?_
      have := h (place + 1) node hnode
      omega

theorem finalize_eq_ok_iff {nodes : List Node} {root : LevelRef} {id : String} {query : Query} :
    finalize nodes root id = .ok query ↔
      root.number = 0 ∧ DepthsCount nodes ∧
        query.nodes = nodes ∧ query.id = id := by
  have hdepths : checkDepths 0 nodes = .ok () ↔ DepthsCount nodes := by
    rw [checkDepths_eq_ok_iff, DepthsCount]
    simp only [Nat.zero_add]
  rw [← hdepths]
  cases nodes with
  | nil => exact ⟨nofun, fun h => nomatch h.2.2.1⟩
  | cons first rest =>
    rw [finalize]
    constructor
    · intro h
      split at h
      · exact nomatch h
      · rename_i hroot
        obtain ⟨_, hcheck, h⟩ := Except.bind_eq_ok.mp h
        obtain rfl := Except.ok.inj h
        exact ⟨Decidable.not_not.mp hroot, hcheck, rfl, rfl⟩
    · rintro ⟨hroot, hcheck, hnodes, rfl⟩
      obtain ⟨id, root, joins⟩ := query
      obtain ⟨rfl, rfl⟩ := List.cons.inj hnodes
      rw [if_neg (Decidable.not_not.mpr hroot), hcheck]
      rfl

/-- `prepare` finalizes the nodes, and adds nothing but a line. -/
theorem value_prepare (builder : Builder) (root : LevelRef) (id : String) :
    (builder.prepare root id).value = finalize builder.nodes root id := by
  unfold prepare
  split <;> simp_all

/-! ### The depths of compiled nodes -/

/-- Every level but the root is joined to the one before it. -/
def JoinedInOrder (definitions : List Definition) : Prop :=
  ∀ place definition, definitions[place + 1]? = some definition →
    ∀ parent column, .linked parent column ∈ definition.operands → parent.number = place

namespace Compiled

variable {definitions : List Definition} {nodes : List Node}

theorem exists_definition (h : Compiled definitions nodes) {place : Nat} {node : Node}
    (hnode : nodes[place]? = some node) :
    ∃ definition, definitions[place]? = some definition := by
  have hlt : place < definitions.length :=
    h.length_eq ▸ (List.getElem?_eq_some_iff.mp hnode).1
  exact ⟨_, List.getElem?_eq_getElem hlt⟩

theorem exists_node (h : Compiled definitions nodes) {place : Nat} {definition : Definition}
    (hdefinition : definitions[place]? = some definition) : ∃ node, nodes[place]? = some node := by
  have hlt : place < nodes.length :=
    h.length_eq ▸ (List.getElem?_eq_some_iff.mp hdefinition).1
  exact ⟨_, List.getElem?_eq_getElem hlt⟩

theorem length_take {place : Nat} {node : Node} (hnode : nodes[place]? = some node) :
    (nodes.take place).length = place :=
  List.length_take_of_le (Nat.le_of_lt (List.getElem?_eq_some_iff.mp hnode).1)

/-- The root is keyed by constants. -/
theorem unlinked_root (h : Compiled definitions nodes) {definition : Definition}
    (hdefinition : definitions[0]? = some definition) :
    linkedLevels definition.operands = [] := by
  obtain ⟨node, hnode⟩ := h.exists_node hdefinition
  refine List.eq_nil_iff_forall_not_mem.mpr fun number hmem => ?_
  exact Nat.not_lt_zero _ ((h.accepts 0 definition node hdefinition hnode).linked number hmem).1

/-- Every other level is linked to one before it, and to no other. -/
theorem exists_linked (h : Compiled definitions nodes) {place : Nat} {definition : Definition}
    {node : Node} (hdefinition : definitions[place + 1]? = some definition)
    (hnode : nodes[place + 1]? = some node) :
    ∃ number above, number ∈ linkedLevels definition.operands ∧ node.parent = some number ∧
      nodes[number]? = some above ∧ node.depth = above.depth + 1 := by
  have haccepts := h.accepts _ definition node hdefinition hnode
  have htake := length_take hnode
  cases hlinked : linkedLevels definition.operands with
  | nil =>
    have hnil := congrArg List.length (haccepts.unlinked hlinked).2
    rw [htake] at hnil
    exact nomatch hnil
  | cons number rest =>
    obtain ⟨hlt, hparent⟩ := haccepts.linked number (by rw [hlinked]; exact List.mem_cons_self)
    rw [htake] at hlt
    have hbound : number < nodes.length :=
      Nat.lt_trans hlt (List.getElem?_eq_some_iff.mp hnode).1
    have habove := List.getElem?_eq_getElem hbound
    refine ⟨number, nodes[number], List.mem_cons_self, hparent, habove, ?_⟩
    rw [haccepts.depth, hparent, depthBelow, Option.bind_some, List.getElem?_take_of_lt hlt, habove]

/-- The depths count the levels exactly if each level is joined to the one before it. -/
theorem depths_iff (h : Compiled definitions nodes) :
    DepthsCount nodes ↔ JoinedInOrder definitions := by
  constructor
  · intro hdepths place definition hdefinition parent column hmem
    obtain ⟨node, hnode⟩ := h.exists_node hdefinition
    obtain ⟨number, above, -, hparent, habove, hdepth⟩ := h.exists_linked hdefinition hnode
    have hlinked := (h.accepts _ definition node hdefinition hnode).linked parent.number
      (mem_linkedLevels.mpr ⟨parent, column, hmem, rfl⟩)
    obtain rfl : number = parent.number := Option.some.inj (hparent.symm.trans hlinked.2)
    have := hdepths _ node hnode
    have := hdepths _ above habove
    omega
  · -- By induction on the place: the level before has its place as depth.
    intro hordered place
    induction place with
    | zero =>
      intro node hnode
      obtain ⟨definition, hdefinition⟩ := h.exists_definition hnode
      have haccepts := h.accepts 0 definition node hdefinition hnode
      rw [haccepts.depth, (haccepts.unlinked (h.unlinked_root hdefinition)).1]
      rfl
    | succ place ih =>
      intro node hnode
      obtain ⟨definition, hdefinition⟩ := h.exists_definition hnode
      obtain ⟨number, above, hmem, -, habove, hdepth⟩ := h.exists_linked hdefinition hnode
      obtain ⟨parent, column, hlinked, rfl⟩ := mem_linkedLevels.mp hmem
      rw [hordered place definition hdefinition parent column hlinked] at habove
      rw [hdepth, ih above habove]

/-- No tree has too many levels. -/
theorem length_le (h : Compiled definitions nodes) : nodes.length ≤ maxLevels := by
  rcases Nat.eq_zero_or_pos nodes.length with hzero | hpos
  · omega
  · have hnode := List.getElem?_eq_getElem (Nat.sub_lt hpos Nat.one_pos)
    obtain ⟨definition, hdefinition⟩ := h.exists_definition hnode
    have hroom := (h.accepts _ definition _ hdefinition hnode).room
    rw [length_take hnode] at hroom
    omega

/-- Every scan is at the root or below a root that scans. -/
theorem isScan_root (h : Compiled definitions nodes) {place : Nat} {root node : Node}
    (hroot : nodes[0]? = some root) (hnode : nodes[place]? = some node)
    (hscan : node.access.isScan = true) : root.access.isScan = true := by
  cases place with
  | zero =>
    obtain rfl := Option.some.inj (hroot.symm.trans hnode)
    exact hscan
  | succ place =>
    obtain ⟨definition, hdefinition⟩ := h.exists_definition hnode
    refine (h.accepts _ definition node hdefinition hnode).scan hscan root ?_
    rw [Option.mem_def, List.head?_eq_getElem?, List.getElem?_take_of_lt (Nat.succ_pos place)]
    exact hroot

end Compiled

/-! ### The shape of a finalized tree -/

/-- A level of a tree, and the definition it comes from. -/
structure FormedLevel (query : Query) (definition : Definition) (level : Nat) (node : Node) :
    Prop where
  number : node.number = level
  depth : node.depth = level
  parent : query.parentOf level = if level = 0 then none else some (level - 1)
  reaches : definition.table.Reaches definition.operands definition.index node.access
  constants : level = 0 → ∀ operand ∈ node.access.operands, ∃ value, operand = .constant value
  linked : level ≠ 0 → ∃ parent column, .linked parent column ∈ node.access.operands
  links : ∀ parent column, .linked parent column ∈ node.access.operands →
    parent.number + 1 = level ∧
      ∃ above, query.node? parent.number = some above ∧ column ∈ above.access.table.columns
  keys : node.access.KeyedBy (definition.table.keyColumns definition.index)

/-- A tree, level by level, and the definitions it comes from. -/
structure Formed (query : Query) (definitions : List Definition) : Prop where
  levels : query.levels = definitions.length
  levels_le : query.levels ≤ 32
  hasScan : query.hasScan = true ↔ query.root.access.isScan = true
  level : ∀ level node, query.node? level = some node →
    ∃ definition, definitions[level]? = some definition ∧ FormedLevel query definition level node

/-- Layouts and marks do not matter to the depths. -/
theorem depthsCount_map_bare {nodes : List Node} :
    DepthsCount (nodes.map bare) ↔ DepthsCount nodes := by
  simp only [DepthsCount, List.getElem?_map, Option.map_eq_some_iff]
  constructor
  · exact fun h place node hnode => h place (bare node) ⟨node, hnode, rfl⟩
  · rintro h place _ ⟨node, hnode, rfl⟩
    exact h place node hnode

section Formed

variable {query : Query} {definitions : List Definition}

theorem getElem?_map_bare {nodes : List Node} {place : Nat} {node : Node}
    (hnode : nodes[place]? = some node) : (nodes.map bare)[place]? = some (bare node) := by
  rw [List.getElem?_map, hnode, Option.map_some]

theorem Compiled.formedLevel (h : Compiled definitions (query.nodes.map bare))
    (hordered : JoinedInOrder definitions) {level : Nat} {node : Node} {definition : Definition}
    (hnode : query.node? level = some node) (hdefinition : definitions[level]? = some definition) :
    FormedLevel query definition level node := by
  have hbare := getElem?_map_bare hnode
  have haccepts := h.accepts level definition (bare node) hdefinition hbare
  have hreaches : definition.table.Reaches definition.operands definition.index node.access :=
    haccepts.reaches
  have hparent : query.parentOf level = node.parent := by
    rw [Query.parentOf, hnode, Option.bind_some]
  refine
    { number := haccepts.number.trans (length_take hbare)
      depth := h.depths_iff.mpr hordered level (bare node) hbare
      parent := ?_
      reaches := hreaches
      constants := ?_
      linked := ?_
      links := ?_
      keys := ?_ }
  · cases level with
    | zero => exact hparent.trans (haccepts.unlinked (h.unlinked_root hdefinition)).1
    | succ level =>
      obtain ⟨number, -, hmem, hnumber, -⟩ := h.exists_linked hdefinition hbare
      obtain ⟨parent, column, hlinked, rfl⟩ := mem_linkedLevels.mp hmem
      rw [hordered level definition hdefinition parent column hlinked] at hnumber
      exact hparent.trans hnumber
  · rintro rfl
    rw [hreaches.operands_eq]
    exact exists_constant_of_linkedLevels_eq_nil (h.unlinked_root hdefinition)
  · intro hlevel
    rw [hreaches.operands_eq]
    obtain ⟨level, rfl⟩ := Nat.exists_eq_succ_of_ne_zero hlevel
    obtain ⟨number, -, hmem, -⟩ := h.exists_linked hdefinition hbare
    obtain ⟨parent, column, hlinked, -⟩ := mem_linkedLevels.mp hmem
    exact ⟨parent, column, hlinked⟩
  · intro parent column hlinked
    rw [hreaches.operands_eq] at hlinked
    obtain ⟨above, habove, hcolumn⟩ := haccepts.columns parent column hlinked
    have hlt := (haccepts.linked parent.number (mem_linkedLevels.mpr ⟨_, _, hlinked, rfl⟩)).1
    rw [length_take hbare] at hlt
    rw [List.getElem?_take_of_lt hlt, List.getElem?_map] at habove
    obtain ⟨found, hfound, rfl⟩ := Option.map_eq_some_iff.mp habove
    obtain ⟨level, rfl⟩ := Nat.exists_eq_succ_of_ne_zero (Nat.ne_of_gt (Nat.zero_lt_of_lt hlt))
    exact ⟨congrArg Nat.succ (hordered level definition hdefinition parent column hlinked), found,
      hfound, hcolumn⟩
  · exact haccepts.takes.keyedBy hreaches

theorem Compiled.formed (h : Compiled definitions (query.nodes.map bare))
    (hordered : JoinedInOrder definitions) : Formed query definitions where
  levels := by rw [h.length_eq, List.length_map]; rfl
  levels_le := by
    have hle := h.length_le
    rwa [List.length_map] at hle
  hasScan := by
    have hroot : (query.nodes.map bare)[0]? = some (bare query.root) := rfl
    rw [Query.hasScan, List.any_eq_true]
    constructor
    · rintro ⟨node, hmem, hscan⟩
      obtain ⟨place, hplace⟩ := List.mem_iff_getElem?.mp hmem
      have hscans := h.isScan_root hroot (getElem?_map_bare hplace) hscan
      exact hscans
    · exact fun hscan => ⟨query.root, List.mem_cons_self, hscan⟩
  level level node hnode := by
    obtain ⟨definition, hdefinition⟩ := h.exists_definition (getElem?_map_bare hnode)
    exact ⟨definition, hdefinition, h.formedLevel hordered hnode hdefinition⟩

end Formed

/-! ### Any sequence of calls -/

/-- A builder's tree has the depths of a chain exactly if its definitions are joined in order. -/
theorem depthsCount_after (calls : List Call) :
    DepthsCount (empty.after calls).nodes ↔ JoinedInOrder (empty.accepted calls) :=
  depthsCount_map_bare.symm.trans (compiled_after calls).depths_iff

theorem length_accepted (calls : List Call) :
    (empty.accepted calls).length = (empty.after calls).nodes.length := by
  rw [(compiled_after calls).length_eq, List.length_map]

/-- Whatever is finalized has the shape of a chain. -/
theorem formed_of_prepare {calls : List Call} {root : LevelRef} {id : String} {query : Query}
    (h : ((empty.after calls).prepare root id).value = .ok query) :
    Formed query (empty.accepted calls) := by
  rw [value_prepare] at h
  obtain ⟨-, hdepths, hnodes, -⟩ := finalize_eq_ok_iff.mp h
  have hcompiled := compiled_after calls
  rw [← hnodes] at hcompiled
  exact hcompiled.formed ((depthsCount_after calls).mp hdepths)

/-- **The trees that can be finalized.** Whatever calls are made on a new builder, its tree can be
finalized exactly if some definition was accepted, the root is the first one, and each other
accepted definition is linked to the one accepted before it; and the tree has the shape of a chain
then. -/
theorem prepare_eq_ok_iff_joinedInOrder (calls : List Call) (root : LevelRef) (id : String) :
    let builder := empty.after calls
    let definitions := empty.accepted calls
    ((∃ query, (builder.prepare root id).value = .ok query) ↔
      definitions ≠ [] ∧ root.number = 0 ∧ JoinedInOrder definitions) ∧
    ∀ query, (builder.prepare root id).value = .ok query → Formed query definitions := by
  intro builder definitions
  refine ⟨⟨?_, ?_⟩, fun query => formed_of_prepare⟩
  · rintro ⟨query, hquery⟩
    have hlevels : 0 < definitions.length := (formed_of_prepare hquery).levels ▸ Nat.succ_pos _
    rw [value_prepare] at hquery
    obtain ⟨hroot, hdepths, -⟩ := finalize_eq_ok_iff.mp hquery
    exact ⟨List.ne_nil_of_length_pos hlevels, hroot, (depthsCount_after calls).mp hdepths⟩
  · rintro ⟨hsome, hroot, hordered⟩
    have hdepths : DepthsCount builder.nodes := (depthsCount_after calls).mpr hordered
    cases hnodes : builder.nodes with
    | nil =>
      have hlength : definitions.length = builder.nodes.length := length_accepted calls
      rw [hnodes] at hlength
      exact absurd (List.length_eq_zero_iff.mp hlength) hsome
    | cons first rest =>
      rw [value_prepare]
      exact ⟨⟨id, first, rest⟩, finalize_eq_ok_iff.mpr ⟨hroot, hdepths, hnodes.symm, rfl⟩⟩

/-- A customer and its orders, among calls that are refused: a scan below a lookup, a link to a
column that is not there, a link to a level that is not there, and a mark for such a level. -/
theorem prepare_eq_ok_iff_joinedInOrder_orders :
    let customer : Table := ⟨"customer", ["id", "name"], ["id"]⟩
    let orders : Table := ⟨"orders", ["order_id", "customer"], ["order_id"]⟩
    let byCustomer : Index := ⟨"orders_by_customer", .ordered, ["customer"]⟩
    let calls : List Call := [
      .define none customer [.constant [1]],
      .define (some byCustomer) orders [.linked ⟨0⟩ "id"],
      .define none orders [.linked ⟨0⟩ "order"],
      .define none orders [.linked ⟨1⟩ "id"],
      .markJoinOnly ⟨7⟩,
      .define none orders [.linked ⟨0⟩ "id"]]
    empty.accepted calls =
        [⟨none, customer, [.constant [1]]⟩, ⟨none, orders, [.linked ⟨0⟩ "id"]⟩] ∧
      ∃ query, ((empty.after calls).prepare ⟨0⟩ "orders").value = .ok query ∧
        Formed query (empty.accepted calls) := by
  intro customer orders byCustomer calls
  have haccepted : empty.accepted calls =
      [⟨none, customer, [.constant [1]]⟩, ⟨none, orders, [.linked ⟨0⟩ "id"]⟩] := by
    decide +kernel
  have hordered : JoinedInOrder (empty.accepted calls) := by
    rw [haccepted]
    rintro (_ | place) definition hdefinition parent column hlinked
    · obtain rfl := Option.some.inj hdefinition
      simp_all
    · exact nomatch hdefinition
  have hsome : empty.accepted calls ≠ [] := by simp [haccepted]
  obtain ⟨hiff, hshape⟩ := prepare_eq_ok_iff_joinedInOrder calls ⟨0⟩ "orders"
  obtain ⟨query, hquery⟩ := hiff.mpr ⟨hsome, rfl, hordered⟩
  exact ⟨haccepted, query, hquery, hshape query hquery⟩

end Builder

namespace Query

/-! ### Queries that calls define -/

/-- A query that some calls on a new builder define and that is then finalized. So is the query that
a chain is compiled into. -/
def Prepared (query : Query) : Prop :=
  ∃ (calls : List Builder.Call) (root : LevelRef) (id : String),
    ((Builder.empty.after calls).prepare root id).value = .ok query

/-- Every level is joined to the one before it. -/
structure IsChain (query : Query) : Prop where
  parentOf_zero : query.parentOf 0 = none
  parentOf_succ : ∀ level, level + 1 < query.levels → query.parentOf (level + 1) = some level

theorem Prepared.exists_formed {query : Query} (h : query.Prepared) :
    ∃ definitions, Builder.Formed query definitions := by
  obtain ⟨calls, root, id, h⟩ := h
  exact ⟨_, Builder.formed_of_prepare h⟩

theorem Prepared.isChain {query : Query} (h : query.Prepared) : query.IsChain := by
  obtain ⟨definitions, hformed⟩ := h.exists_formed
  constructor
  · obtain ⟨definition, -, hlevel⟩ := hformed.level 0 query.root rfl
    exact hlevel.parent
  · intro level hlt
    obtain ⟨definition, -, hlevel⟩ := hformed.level (level + 1) _ (List.getElem?_eq_getElem hlt)
    exact hlevel.parent

/-- A level of a prepared query fits into the depth of a header. -/
theorem Prepared.levels_lt_size {query : Query} (h : query.Prepared) :
    query.levels < UInt16.size := by
  obtain ⟨definitions, hformed⟩ := h.exists_formed
  exact Nat.lt_of_le_of_lt hformed.levels_le (by decide)

end Query

end StorageClient
