import StorageClient.Tree.Builder
/-!
# StorageClient.Proofs.Tree.Calls

The calls on a builder, and what they leave alone: a definition adds one node or none
(`Builder.compile_eq_ok`), and every other call changes at most the layout and the mark of a node.
-/

namespace StorageClient

/-- An `Except` computation succeeds exactly if both of its steps do. -/
theorem Except.bind_eq_ok {ε α β : Type} {x : Except ε α} {f : α → Except ε β} {b : β} :
    (x >>= f) = .ok b ↔ ∃ a, x = .ok a ∧ f a = .ok b := by
  cases x with
  | error e =>
    refine ⟨fun h => (by cases h), ?_⟩
    rintro ⟨a, h, -⟩
    cases h
  | ok a =>
    refine ⟨fun h => ⟨a, rfl, h⟩, ?_⟩
    rintro ⟨_, h, hb⟩
    exact Except.ok.inj h ▸ hb

theorem Except.ok_bind {ε α β : Type} (a : α) (f : α → Except ε β) :
    (Except.ok a >>= f) = f a := rfl

namespace Builder

inductive Call
  | define (index : Option Index) (table : Table) (operands : List Operand)
  | setRecord (ref : LevelRef) (record : Record)
  | markJoinOnly (ref : LevelRef)
  deriving Repr, DecidableEq

/-- Makes a call. Yields the level that was defined or changed. -/
def Call.perform [Sink] (builder : Builder) :
    Call → Traced (Except DefinitionError LevelRef × Builder)
  | .define index table operands => builder.define index table operands
  | .setRecord ref record =>
    match builder.setRecord ref record with
    | .ok changed => pure (.ok ref, changed)
    | .error error => pure (.error error, builder)
  | .markJoinOnly ref =>
    match builder.markJoinOnly ref with
    | .ok changed => pure (.ok ref, changed)
    | .error error => pure (.error error, builder)

def after (builder : Builder) (calls : List Call) : Builder :=
  calls.foldl (fun builder call => (call.perform builder).value.2) builder

theorem after_append (builder : Builder) (calls later : List Call) :
    builder.after (calls ++ later) = (builder.after calls).after later :=
  List.foldl_append ..

/-! ### One definition -/

/-- The checks that an accepted definition passed, and the node it became. -/
theorem compile_eq_ok {nodes : List Node} {index : Option Index} {table : Table}
    {operands : List Operand} {node : Node} (h : compile nodes index table operands = .ok node) :
    nodes.length < maxLevels ∧ ∃ parent access,
      resolveParent nodes operands = .ok parent ∧ (parent = none → nodes = []) ∧
      operands.forM (checkColumn nodes) = .ok () ∧
      selectAccess index table operands = .ok access ∧
      checkScan nodes parent access = .ok () ∧
      node = ⟨nodes.length, parent, depthBelow nodes parent, access, none, false⟩ := by
  unfold compile at h
  -- The checks come off in the order in which they are made.
  by_cases hfull : maxLevels ≤ nodes.length
  · rw [if_pos hfull] at h
    exact nomatch h
  rw [if_neg hfull] at h
  obtain ⟨parent, hparent, h⟩ := Except.bind_eq_ok.mp h
  by_cases hconstants : (parent.isNone && !nodes.isEmpty) = true
  · rw [if_pos hconstants] at h
    exact nomatch h
  rw [if_neg hconstants] at h
  obtain ⟨_, hcolumns, h⟩ := Except.bind_eq_ok.mp h
  obtain ⟨access, haccess, h⟩ := Except.bind_eq_ok.mp h
  obtain ⟨_, hscan, h⟩ := Except.bind_eq_ok.mp h
  refine ⟨Nat.lt_of_not_le hfull, parent, access, hparent, ?_, hcolumns, haccess, hscan,
    (Except.ok.inj h).symm⟩
  rintro rfl
  simpa using hconstants

/-! ### What a call does to the nodes -/

/-- A node without its layout and its mark, which are all that can be changed later. -/
def bare (node : Node) : Node := { node with record := none, joinOnly := false }

/-- Changing layouts and marks changes nothing else. -/
theorem map_bare_of_update {builder changed : Builder} {ref : LevelRef} {change : Node → Node}
    (h : builder.update ref change = .ok changed)
    (hchange : ∀ node, bare (change node) = bare node) :
    changed.nodes.map bare = builder.nodes.map bare := by
  unfold update at h
  split at h
  · cases h
    refine List.ext_getElem? fun place => ?_
    simp only [List.getElem?_map, List.getElem?_modify]
    cases builder.nodes[place]? with
    | none => rfl
    | some node =>
      simp only [Option.map_some, Option.map_eq_map]
      split
      · rw [hchange]
      · rfl
  · exact nomatch h

end Builder

end StorageClient
