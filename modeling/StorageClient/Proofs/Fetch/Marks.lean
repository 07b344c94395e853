import StorageClient.Proofs.Fetch.Taking
/-!
# StorageClient.Proofs.Fetch.Marks

Which headers a user sees.

A level that only links other levels is marked: in the chain of tables, while the tree is built, or
on the executor before it starts. The mark goes from there to the node, from the node to the buffer,
and from the buffer to the tag of every header of the level, where it stands next to the bit for
NULL. A new buffer takes the mark of the one it replaces, so the order of the calls does not matter.

* `Builder.marks`, `Chain.marks` and `Executor.marks` are the levels that are marked in each way. A
  call that is refused marks nothing.
* A header is marked exactly if its level is (`Executor.headers_follow_marks`), because the flags of
  the buffers say which levels are marked (`Fetch.Flagged`) through all calls.
-/

namespace StorageClient

/-! ### Marks of a tree -/

namespace Builder

def Call.mark? : Call → Option Nat
  | .markJoinOnly ref => some ref.number
  | _ => none

/-- The level that a call marks, unless it is refused. -/
def Call.marks (builder : Builder) (call : Call) : List Nat :=
  if (call.perform builder).value.1.isOk then call.mark?.toList else []

/-- The levels that some calls mark. -/
def marks (builder : Builder) : List Call → List Nat
  | [] => []
  | call :: rest => call.marks builder ++ marks (call.perform builder).value.2 rest

/-- The marks of nodes are those of the levels that were marked. -/
structure Flagged (marked : List Nat) (nodes : List Node) : Prop where
  joinOnly : ∀ level node, nodes[level]? = some node → (node.joinOnly = true ↔ level ∈ marked)
  /-- A mark of a level that is still to come would be lost. -/
  lt : ∀ level ∈ marked, level < nodes.length

variable {builder changed : Builder} {marked : List Nat}

theorem update_eq_ok_iff {ref : LevelRef} {change : Node → Node} :
    builder.update ref change = .ok changed ↔ ref.number < builder.nodes.length ∧
      changed = { builder with nodes := builder.nodes.modify ref.number change } := by
  rw [update]
  split <;> simp_all [eq_comm]

theorem Flagged.update (h : Flagged marked builder.nodes) {ref : LevelRef} {change : Node → Node}
    {more : List Nat} (hmore : ∀ level ∈ more, level = ref.number)
    (hchange : ∀ node : Node,
      (change node).joinOnly = true ↔ node.joinOnly = true ∨ ref.number ∈ more)
    (hok : builder.update ref change = .ok changed) : Flagged (marked ++ more) changed.nodes := by
  obtain ⟨hlt, rfl⟩ := update_eq_ok_iff.mp hok
  refine ⟨fun level node hnode => ?_, fun level hlevel => ?_⟩
  · rw [List.getElem?_modify] at hnode
    obtain ⟨old, hold, rfl⟩ := Option.map_eq_some_iff.mp hnode
    rw [List.mem_append, ← h.joinOnly level old hold]
    split
    · rename_i hsame
      rw [hchange, hsame]
    · rename_i hother
      exact (or_iff_left fun hmem => hother (hmore level hmem).symm).symm
  · rw [List.length_modify]
    rcases List.mem_append.mp hlevel with hmarked | hnew
    · exact h.lt level hmarked
    · rwa [hmore level hnew]

theorem Flagged.perform (h : Flagged marked builder.nodes) (call : Call) :
    Flagged (marked ++ call.marks builder) (call.perform builder).value.2.nodes := by
  cases call with
  | define index table operands =>
    have hunmarked : (Call.define index table operands).marks builder = [] := by
      rw [Call.marks]
      split <;> rfl
    rw [hunmarked, List.append_nil, Call.perform, Builder.define]
    split
    · rename_i node hnode
      obtain ⟨-, parent, access, -, -, -, -, -, rfl⟩ := compile_eq_ok hnode
      refine ⟨fun level node hnode => ?_, fun level hlevel => ?_⟩
      · rw [Traced.value_pure, List.getElem?_append] at hnode
        split at hnode
        · exact h.joinOnly level node hnode
        · -- A new node has no mark, and its level was not there to be marked.
          rename_i hnew
          rw [List.getElem?_singleton, Option.ite_none_right_eq_some] at hnode
          obtain rfl := Option.some.inj hnode.2
          exact iff_of_false Bool.false_ne_true fun hmem => hnew (h.lt level hmem)
      · rw [Traced.value_pure, List.length_append]
        exact Nat.lt_add_right 1 (h.lt level hlevel)
    · simpa using h
  | setRecord ref record =>
    have hunmarked : (Call.setRecord ref record).marks builder = [] := by
      rw [Call.marks]
      split <;> rfl
    rw [hunmarked, Call.perform]
    split
    · rename_i changed hok
      exact h.update (fun _ hmem => absurd hmem List.not_mem_nil) (fun node => by simp) hok
    · rwa [List.append_nil]
  | markJoinOnly ref =>
    rw [Call.marks, Call.perform]
    split
    · rename_i changed hok
      exact h.update (fun level => List.mem_singleton.mp)
        (fun node => iff_of_true rfl (.inr (List.mem_singleton_self _))) hok
    · simpa [Except.isOk, Except.toBool] using h

theorem Flagged.after (calls : List Call) : ∀ {builder : Builder} {marked : List Nat},
    Flagged marked builder.nodes →
      Flagged (marked ++ builder.marks calls) (builder.after calls).nodes := by
  induction calls with
  | nil => intro builder marked h; simpa [marks, Builder.after] using h
  | cons call rest ih =>
    intro builder marked h
    rw [marks, ← List.append_assoc]
    exact ih (h.perform call)

theorem flagged_empty : Flagged [] empty.nodes := ⟨fun _ _ hnode => (nomatch hnode), nofun⟩

end Builder

namespace Chain

/-- The levels of tables that only link others. -/
def marks (chain : Chain) : List Nat := (chain.levels.filter Level.joinOnly).map Level.depth

/-- The depth of a level is its place. -/
theorem depth_of_levels {chain : Chain} {level : Nat} {found : Level}
    (h : chain.levels[level]? = some found) : found.depth = level := by
  cases level with
  | zero =>
    obtain rfl := Option.some.inj h
    rfl
  | succ level =>
    rw [levels, List.getElem?_cons_succ, List.getElem?_mapIdx] at h
    obtain ⟨join, -, rfl⟩ := Option.map_eq_some_iff.mp h
    rfl

theorem mem_marks_iff {chain : Chain} {level : Nat} :
    level ∈ chain.marks ↔ ∃ found, chain.levels[level]? = some found ∧ found.joinOnly = true := by
  rw [marks, List.mem_map]
  constructor
  · rintro ⟨found, hmem, rfl⟩
    obtain ⟨hfound, hmark⟩ := List.mem_filter.mp hmem
    obtain ⟨place, hplace⟩ := List.mem_iff_getElem?.mp hfound
    exact ⟨found, by rwa [depth_of_levels hplace], hmark⟩
  · rintro ⟨found, hfound, hmark⟩
    exact ⟨found, List.mem_filter.mpr ⟨List.mem_of_getElem? hfound, hmark⟩, depth_of_levels hfound⟩

/-- The nodes of a chain's query are marked as its tables are. -/
theorem Mirrors.flagged {chain : Chain} {query : Query} (h : chain.Mirrors query) :
    Builder.Flagged chain.marks query.nodes where
  joinOnly level node hnode := by
    rw [mem_marks_iff]
    cases level with
    | zero =>
      obtain ⟨access, hroot, -⟩ := h.root
      obtain rfl := Option.some.inj hnode
      rw [hroot]
      exact iff_of_false nofun (by rintro ⟨found, hfound, hmark⟩; cases hfound; cases hmark)
    | succ level =>
      have hlt : level < chain.joins.length := by
        have hlevels : query.joins.length + 1 = chain.joins.length + 1 := h.levels
        have hplace := (List.getElem?_eq_some_iff.mp hnode).1
        rw [Query.nodes, List.length_cons] at hplace
        omega
      have hjoin := List.getElem?_eq_getElem hlt
      obtain ⟨access, hplace, -⟩ := h.joins level _ hjoin
      obtain rfl := Option.some.inj (hplace.symm.trans hnode)
      have hfound : chain.levels[level + 1]? = some ⟨chain.joins[level].source,
          .parentColumns chain.joins[level].columns, level + 1, chain.joins[level].joinOnly⟩ := by
        rw [Chain.levels, List.getElem?_cons_succ, List.getElem?_mapIdx, hjoin]
        rfl
      simp [hfound]
  lt level hlevel := by
    obtain ⟨found, hfound, -⟩ := mem_marks_iff.mp hlevel
    have hplace := (List.getElem?_eq_some_iff.mp hfound).1
    rw [length_levels] at hplace
    exact Nat.lt_of_lt_of_eq hplace h.levels.symm

end Chain

namespace Query

/-- A finalized tree, and the levels that are marked in the calls or in the chain of tables that it
comes from. -/
inductive Marked (query : Query) : List Nat → Prop
  | built (calls : List Builder.Call) (root : LevelRef) (id : String)
    (h : ((Builder.empty.after calls).prepare root id).value = .ok query) :
    Marked query (Builder.empty.marks calls)
  | compiled (chain : Chain) (id : String) (h : (chain.compile id).value = .ok query) :
    Marked query chain.marks

theorem Marked.flagged {query : Query} {marked : List Nat} (h : query.Marked marked) :
    Builder.Flagged marked query.nodes := by
  cases h with
  | built calls root id h =>
    rw [Builder.value_prepare] at h
    obtain ⟨-, -, hnodes, -⟩ := Builder.finalize_eq_ok_iff.mp h
    rw [hnodes]
    exact Builder.flagged_empty.after calls
  | compiled chain id h =>
    obtain ⟨index, nodes, hindex, hnodes, hsame, -⟩ := Chain.compile_eq_ok_iff.mp h
    obtain ⟨-, rfl⟩ := Chain.rootIndex_eq_ok_iff.mp hindex
    exact (Chain.mirrors_of_compiled hnodes hsame).flagged

theorem Marked.prepared {query : Query} {marked : List Nat} (h : query.Marked marked) :
    query.Prepared := by
  cases h with
  | built calls root id h => exact ⟨calls, root, id, h⟩
  | compiled chain id h => exact Chain.prepared_of_compile h

end Query

/-! ### Marks of buffers -/

namespace Fetch

/-- The flags of buffers are those of the levels that were marked. -/
def Flagged (marked : List Nat) (layouts : List RowBuffer.Layout) : Prop :=
  ∀ level layout, layouts[level]? = some layout →
    layout.flags = if level ∈ marked then RowBuffer.joinFlag else 0

variable {marked : List Nat} {buffers : List RowBuffer}

theorem Flagged.modify (h : Flagged marked (layouts buffers)) {place : Nat}
    {change : RowBuffer → RowBuffer} {more : List Nat} (hmore : ∀ level ∈ more, level = place)
    (hchange : ∀ buffer : RowBuffer, (change buffer).flags =
      if place ∈ more then RowBuffer.joinFlag else buffer.flags) :
    Flagged (marked ++ more) (layouts (buffers.modify place change)) := by
  intro level layout hlayout
  rw [layouts, List.getElem?_map, List.getElem?_modify] at hlayout
  obtain ⟨_, hbuffer, rfl⟩ := Option.map_eq_some_iff.mp hlayout
  obtain ⟨old, hold, rfl⟩ := Option.map_eq_some_iff.mp hbuffer
  have hflags : old.flags = if level ∈ marked then RowBuffer.joinFlag else 0 :=
    h level old.layout (by rw [layouts, List.getElem?_map, hold]; rfl)
  by_cases hplace : place = level
  · subst hplace
    have hchanged := hchange old
    by_cases hmem : place ∈ more
    · rw [if_pos hmem] at hchanged
      simpa [RowBuffer.layout, hmem] using hchanged
    · rw [if_neg hmem, hflags] at hchanged
      simpa [RowBuffer.layout, hmem] using hchanged
  · have hother : level ∉ more := fun hmem => hplace (hmore level hmem).symm
    simpa [RowBuffer.layout, hplace, hother] using hflags

end Fetch

namespace Executor

/-- A buffer that replaces another has its flags. -/
theorem flags_of_replaced (old : RowBuffer) (record : Record) :
    (if old.joinOnly then (RowBuffer.new record).markJoinOnly else RowBuffer.new record).flags =
      old.flags := by
  cases hmark : old.joinOnly <;>
    simp [RowBuffer.flags, RowBuffer.new, RowBuffer.markJoinOnly, hmark]

theorem flags_bufferOf (node : Node) :
    (bufferOf node).flags = if node.joinOnly then RowBuffer.joinFlag else 0 := by
  cases hrecord : node.record <;> cases hmark : node.joinOnly <;>
    simp [bufferOf, hrecord, hmark, RowBuffer.flags, RowBuffer.new, RowBuffer.unbound,
      RowBuffer.markJoinOnly]

/-- The buffers of a new executor are marked as the nodes of its tree are. -/
theorem flagged_new {query : Query} {marked : List Nat} (h : Builder.Flagged marked query.nodes)
    (config : Config) :
    Fetch.Flagged marked (Fetch.layouts (Executor.new query config).fetch.buffers) := by
  intro level layout hlayout
  rw [Fetch.layouts, Executor.new, List.getElem?_map, List.getElem?_map] at hlayout
  obtain ⟨_, hbuffer, rfl⟩ := Option.map_eq_some_iff.mp hlayout
  obtain ⟨node, hnode, rfl⟩ := Option.map_eq_some_iff.mp hbuffer
  exact (flags_bufferOf node).trans (if_congr (h.joinOnly level node hnode) rfl rfl)

variable {σ : Type} [Engine σ]

def Request.mark? : Request σ → Option Nat
  | .markJoinOnly level => some level
  | _ => none

/-- The level that a call marks, unless it is refused. -/
def Request.marks (executor : Executor) (request : Request σ) : List Nat :=
  match (request.perform executor).value.1 with
  | .returned (.ok .done) => request.mark?.toList
  | _ => []

/-- The levels that some calls mark. -/
def marks (executor : Executor) : List (Request σ) → List Nat
  | [] => []
  | request :: rest => request.marks executor ++ marks (request.perform executor).value.2 rest

variable {query : Query} {room : Nat} {executor : Executor} {past : List Effect}
  {marked : List Nat}

theorem flagged_perform (h : Accounted query room executor past) (hq : query.IsChain)
    (hflags : Fetch.Flagged marked (Fetch.layouts executor.fetch.buffers)) (request : Request σ) :
    Fetch.Flagged (marked ++ request.marks executor)
      (Fetch.layouts (request.perform executor).value.2.fetch.buffers) := by
  by_cases hlevel : request.level? = none
  · have hunmarked : request.marks executor = [] := by
      rw [Request.marks]
      split
      · cases request <;> first | rfl | exact nomatch hlevel
      · rfl
    rw [hunmarked, List.append_nil]
    cases storing_perform h hq request with
    | adds _ hadds =>
      obtain ⟨_, _, hgains⟩ := hadds
      rwa [hgains.layouts]
    | setUp _ hsome => exact absurd hlevel hsome
    | takes index => exact hflags
  · cases request with
    | createRowBuffer level record =>
      have hunmarked : (Request.createRowBuffer level record : Request σ).marks executor = [] := by
        rw [Request.marks]
        split <;> rfl
      rw [hunmarked, Request.perform, createRowBuffer]
      rcases setUp_changeBuffer executor "create_row_buffer" level _ with
        ⟨error, hrefused⟩ | ⟨-, -, hchanged⟩
      · rw [hrefused, List.append_nil]
        exact hflags
      · rw [hchanged]
        exact hflags.modify (fun _ hmem => absurd hmem List.not_mem_nil) fun old =>
          flags_of_replaced old record
    | markJoinOnly level =>
      rw [Request.marks, Request.perform, markJoinOnly]
      rcases setUp_changeBuffer executor "mark_join_only" level RowBuffer.markJoinOnly with
        ⟨error, hrefused⟩ | ⟨-, -, hchanged⟩
      · rw [hrefused]
        simpa using hflags
      · rw [hchanged]
        refine hflags.modify (fun other => List.mem_singleton.mp) fun old => ?_
        simp [RowBuffer.flags, RowBuffer.markJoinOnly, Request.mark?]
    | createQuery | run | fetchAll | close | takeData => exact absurd rfl hlevel

theorem flagged_play (hq : query.IsChain) (requests : List (Request σ)) :
    ∀ {marked : List Nat} {executor : Executor} {past : List Effect},
      Accounted query room executor past →
      Fetch.Flagged marked (Fetch.layouts executor.fetch.buffers) →
      Fetch.Flagged (marked ++ executor.marks requests)
        (Fetch.layouts (play executor requests).value.fetch.buffers) := by
  induction requests with
  | nil => intro marked executor past _ hflags; simpa [marks, play] using hflags
  | cons request rest ih =>
    intro marked executor past h hflags
    have hrest := ih (h.perform hq request) (flagged_perform h hq hflags request)
    simpa [marks, play_cons, Traced.bind] using hrest

end Executor

/-! ### Marks of headers -/

/-- What the depth and the tag of a stored header are, where some levels are marked. -/
structure Header.WellFormed (levels : Nat) (marked : List Nat) (header : Header) : Prop where
  depth_lt : header.depth.toNat < levels
  isJoinOnly : header.isJoinOnly = true ↔ header.depth.toNat ∈ marked
  /-- There is no other bit than those for NULL and for a mark. -/
  tag : header.tag &&& ~~~(Header.nullBit ||| RowBuffer.joinFlag) = 0

/-- A header with its image: only a NULL has none, and the size is that of the rows of its level. -/
structure Header.IsWhole (size? : Nat → Option Nat) (header : Header) : Prop where
  data : header.data = none ↔ header.isNull = true
  size : ∀ image, header.data = some image → size? header.depth.toNat = some image.length

namespace Fetch

variable {all : List RowBuffer.Layout} {marked : List Nat} {cells : List Cell} {header : Header}

theorem Stamped.exists_layout (h : Stamped all cells header) (hlevels : all.length ≤ UInt16.size) :
    ∃ layout, all[header.depth.toNat]? = some layout ∧
      header.isNull = isRowNull cells header.depth.toNat ∧
      (header.tag = layout.flags &&& ~~~Header.nullBit ∨
        header.tag = layout.flags ||| Header.nullBit) ∧
      ∀ image, header.data = some image → image.length = layout.size := by
  have hdepth : ∀ {level : Nat} {layout : RowBuffer.Layout}, all[level]? = some layout →
      (UInt16.ofNat level).toNat = level := fun hlayout =>
    UInt16.toNat_ofNat_of_lt
      (Nat.lt_of_lt_of_le (List.getElem?_eq_some_iff.mp hlayout).1 hlevels)
  cases h with
  | value hlayout hnull hsize =>
    refine ⟨_, ?_, ?_, .inl rfl, ?_⟩
    · exact (hdepth hlayout).symm ▸ hlayout
    · rw [Header.isNull_value, ← hnull]
      exact congrArg _ (hdepth hlayout).symm
    · rintro _ himage
      exact Option.some.inj himage ▸ hsize
  | null hlayout hnull =>
    refine ⟨_, ?_, ?_, .inr rfl, nofun⟩
    · exact (hdepth hlayout).symm ▸ hlayout
    · rw [Header.isNull_null, ← hnull]
      exact congrArg _ (hdepth hlayout).symm

theorem Stamped.wellFormed (h : Stamped all cells header) (hlevels : all.length ≤ UInt16.size)
    (hflags : Flagged marked all) : header.WellFormed all.length marked := by
  obtain ⟨layout, hlayout, -, htag, -⟩ := h.exists_layout hlevels
  have hmark := hflags _ layout hlayout
  refine ⟨(List.getElem?_eq_some_iff.mp hlayout).1, ?_, ?_⟩
  · rw [Header.isJoinOnly]
    by_cases hmarked : header.depth.toNat ∈ marked
    · rw [if_pos hmarked] at hmark
      rw [hmark] at htag
      refine iff_of_true ?_ hmarked
      rcases htag with htag | htag <;> rw [htag] <;> decide
    · rw [if_neg hmarked] at hmark
      rw [hmark] at htag
      refine iff_of_false ?_ hmarked
      rcases htag with htag | htag <;> rw [htag] <;> decide
  · split at hmark <;> rw [hmark] at htag <;> rcases htag with htag | htag <;> rw [htag] <;> decide

theorem Stamped.isWhole (h : Stamped all cells header) (hlevels : all.length ≤ UInt16.size) :
    header.IsWhole fun level => all[level]?.map RowBuffer.Layout.size := by
  obtain ⟨layout, hlayout, -, -, hsize⟩ := h.exists_layout hlevels
  refine ⟨h.data_eq_none_iff, fun image himage => ?_⟩
  rw [hlayout, hsize image himage]
  rfl

end Fetch

namespace Executor

variable {σ : Type} [Engine σ] {query : Query}

/-- **Headers are marked as their levels are.** Take a tree some of whose levels are marked, in the
calls that built it or in the chain of tables that it comes from, and make any calls on a new
executor of it, which may mark more levels. All headers fall into groups, one for each row that was
got, in order, and are NULL as their level is in that row. Each is of a level of the tree, marked
exactly if its level is, and has no other bit. It has an image unless it is NULL, of the size of the
buffer of its level, until the image is taken. And a user sees the headers of the levels that are
not marked, in order. -/
theorem headers_follow_marks {marks : List Nat} (hq : query.Marked marks) (config : Config)
    (requests : List (Request σ)) :
    let fresh := Executor.new query config
    let played := play fresh requests
    let executor := played.value
    let marked := marks ++ fresh.marks requests
    let pushed := stored fresh requests
    (∃ groups : List (List Header), groups.flatten = pushed ∧
      List.Forall₂ (fun cells group => ∀ header ∈ group,
        header.isNull = Fetch.isRowNull cells header.depth.toNat)
        (Effect.rows played.effects) groups) ∧
    executor.results.headers.toList.map Header.stamp = pushed.map Header.stamp ∧
    (∀ index header, executor.results.get? index = some header →
      header.WellFormed query.levels marked ∧
      (handed fresh index requests = [] →
        header.IsWhole fun level => (executor.buffer? level).map RowBuffer.size)) ∧
    executor.results.visible =
      executor.results.headers.toList.filter fun header => header.depth.toNat ∉ marked := by
  intro fresh played executor marked pushed
  have hchain := hq.prepared.isChain
  have hgrouped := grouped_play_new hchain config requests
  have hkept := kept_play_new hchain config requests
  have hflags := flagged_play hchain requests (accounted_new query config)
    (flagged_new hq.flagged config)
  have haccounted := (accounted_new query config).play hchain requests
  have hlength : (Fetch.layouts executor.fetch.buffers).length = query.levels :=
    (List.length_map _).trans haccounted.length_buffers
  have hlevels : (Fetch.layouts executor.fetch.buffers).length ≤ UInt16.size :=
    hlength ▸ Nat.le_of_lt hq.prepared.levels_lt_size
  have hsizes : (fun level => (executor.buffer? level).map RowBuffer.size) =
      fun level => (Fetch.layouts executor.fetch.buffers)[level]?.map RowBuffer.Layout.size := by
    funext level
    rw [Fetch.layouts, List.getElem?_map, Option.map_map]
    rfl
  have hheaders : ∀ index header, executor.results.get? index = some header →
      header.WellFormed query.levels marked ∧ (handed fresh index requests = [] →
        header.IsWhole fun level => (executor.buffer? level).map RowBuffer.size) := by
    intro index header hheader
    obtain ⟨stored, hstored, rfl⟩ :=
      Option.map_eq_some_iff.mp ((hkept.get? index).symm.trans hheader)
    obtain ⟨cells, -, hstamped⟩ := hgrouped.exists_stamped (List.mem_of_getElem? hstored)
    have hwellFormed := hstamped.wellFormed hlevels hflags
    rw [hlength] at hwellFormed
    constructor
    · -- An image that was taken is no part of the depth or the tag.
      split
      · exact hwellFormed
      · exact ⟨hwellFormed.depth_lt, hwellFormed.isJoinOnly, hwellFormed.tag⟩
    · intro hkeeps
      rw [if_pos hkeeps, hsizes]
      exact hstamped.isWhole hlevels
  refine ⟨?_, hkept.stamps, hheaders, ?_⟩
  · obtain ⟨groups, hgroups, hrows⟩ := hgrouped
    refine ⟨groups, hgroups, hrows.imp fun cells group hgroup header hmem => ?_⟩
    obtain ⟨layout, -, hnull, -⟩ := (hgroup header hmem).exists_layout hlevels
    exact hnull
  · refine List.filter_congr fun header hmem => ?_
    obtain ⟨index, hindex⟩ := List.mem_iff_getElem?.mp hmem
    rw [Array.getElem?_toList] at hindex
    have hmark := (hheaders index header hindex).1.isJoinOnly
    rw [Bool.not_eq_eq_eq_not, Bool.eq_iff_iff, hmark]
    simp

/-- A customer, its orders, and the items of the orders. The customer is marked while the tree is
built. The orders get a buffer, are marked, and get another buffer; the mark of a level that is not
there is refused. One order is there, then none. So a user sees the item and nothing else. -/
theorem headers_follow_marks_orders :
    let record := Record.packed [("id", 1)]
    let table : String → Table := fun name => ⟨name, ["id"], ["id"]⟩
    let calls : List Builder.Call := [
      .define none (table "customer") [.constant [1]],
      .setRecord ⟨0⟩ record, .markJoinOnly ⟨0⟩, .markJoinOnly ⟨1⟩,
      .define none (table "orders") [.linked ⟨0⟩ "id"],
      .define none (table "item") [.linked ⟨1⟩ "id"], .setRecord ⟨2⟩ record]
    let query : Query := ⟨"items",
      ⟨0, none, 0, .readTuple (table "customer") [.constant [1]], some record, true⟩,
      [⟨1, some 0, 1, .readTuple (table "orders") [.linked ⟨0⟩ "id"], none, false⟩,
        ⟨2, some 1, 2, .readTuple (table "item") [.linked ⟨1⟩ "id"], some record, false⟩]⟩
    let cell : UInt8 → Cell := fun octet => ⟨false, .fill [octet]⟩
    let cursor : Cursor := ⟨[.row [cell 1, cell 10, cell 100], .row [cell 1, ⟨true, .keep⟩]],
      .complete⟩
    let requests : List (Request Playback) := [
      .createRowBuffer 1 record, .markJoinOnly 1, .markJoinOnly 3,
      .createRowBuffer 1 (Record.packed [("id", 2)]),
      .run (SharedTransaction.new "tx" (engineWith cursor)), .markJoinOnly 2]
    let fresh := Executor.new query Config.default
    let results := (play fresh requests).value.results
    ((Builder.empty.after calls).prepare ⟨0⟩ "items").value = .ok query ∧
      query.Marked [0] ∧ fresh.marks requests = [1] ∧
      results.headers.toList =
        [.value 0 2 [1], .value 1 2 [10, 0], .value 2 0 [100], .null 1 2] ∧
      results.visible = [.value 2 0 [100]] := by
  intro record table calls query cell cursor requests fresh results
  have hquery : ((Builder.empty.after calls).prepare ⟨0⟩ "items").value = .ok query := by
    decide +kernel
  have hbuilt : Builder.empty.marks calls = [0] := by decide +kernel
  have hmarked : query.Marked [0] := hbuilt ▸ .built calls ⟨0⟩ "items" hquery
  obtain ⟨-, -, -, hvisible⟩ := headers_follow_marks hmarked Config.default requests
  have hmarks : fresh.marks requests = [1] := by decide +kernel
  have hheaders : results.headers.toList =
      [.value 0 2 [1], .value 1 2 [10, 0], .value 2 0 [100], .null 1 2] := by decide +kernel
  refine ⟨hquery, hmarked, hmarks, hheaders, ?_⟩
  have hseen : results.visible = results.headers.toList.filter fun header =>
      header.depth.toNat ∉ [0] ++ fresh.marks requests := hvisible
  rw [hseen, hmarks, hheaders]
  decide

end Executor

end StorageClient
