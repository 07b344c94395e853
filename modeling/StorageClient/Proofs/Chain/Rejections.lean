import StorageClient.Proofs.Chain.Acceptance
import StorageClient.Proofs.Telemetry.Scopes
/-!
# StorageClient.Proofs.Chain.Rejections

Who reports a refused definition, and how often. A refusal is counted and logged where it arises, by
the definition or the finalization that was refused (`Builder.reports_define`,
`Builder.reports_prepare`), and is then only handed on. So a chain of steps that stops at the first
refusal reports what it yields, once (`Reports.andThen`), and so does the compilation of a chain.

There is one way out of a compilation that no step of a builder stands behind: a root that has to be
scanned and offers no index for that (`Chain.lacksRootScan`). This refusal is yielded and not
reported (`Chain.compile_of_lacksRootScan`).
-/

namespace StorageClient

open Effect (lines linesAt total growth)

variable {α β : Type}

/-! ### Reports -/

/-- The line that tells of a refused definition. -/
def DefinitionError.line (error : DefinitionError) : Line :=
  ⟨.error, .error, "DEFINITION_REJECTED", [
    ("code", .text error.code),
    ("level", .text ((error.level.map toString).getD "")),
    ("message", .text error.message),
    ("number", .text (toString error.number))]⟩

/-- Whether a line tells of a refused definition. -/
def Line.tellsRejection (line : Line) : Bool := line.event == "DEFINITION_REJECTED"

@[simp] theorem Line.tellsRejection_line (event : Event) (fields : List Field) :
    (event.line fields).tellsRejection = (event == .definitionRejected) := by
  rw [tellsRejection, Event.event_line]
  cases event <;> decide

namespace Effect

/-- The lines about refused definitions that a sink with a threshold keeps. -/
def rejections (threshold : Severity) (effects : List Effect) : List Line :=
  (linesAt threshold effects).filter Line.tellsRejection

theorem rejections_append (threshold : Severity) (a b : List Effect) :
    rejections threshold (a ++ b) = rejections threshold a ++ rejections threshold b := by
  simp [rejections, linesAt]

/-- Exactly these refusals are reported by some effects: each is counted once, and has a line of its
own in every sink that keeps errors. -/
structure Reports (refusals : List DefinitionError) (effects : List Effect) : Prop where
  counted : total .definitionsRejected effects = refusals.length
  told : ∀ threshold, rejections threshold effects =
    if threshold ≤ .error then refusals.map DefinitionError.line else []

namespace Reports

variable {first second : List DefinitionError} {a b : List Effect}

theorem nil : Reports [] [] := ⟨rfl, fun threshold => by split <;> rfl⟩

theorem append (ha : Reports first a) (hb : Reports second b) :
    Reports (first ++ second) (a ++ b) where
  counted := by rw [total_append, ha.counted, hb.counted, List.length_append]
  told threshold := by
    rw [rejections_append, ha.told, hb.told]
    split
    · rw [List.map_append]
    · rfl

/-- What only hands an answer on reports nothing more. -/
theorem append_nil (h : Reports first a) : Reports first (a ++ []) := by
  rwa [List.append_nil]

/-- An effect that is neither counted among refusals nor a line about one. -/
theorem of_other {effect : Effect} (hgrowth : growth .definitionsRejected effect = 0)
    (hline : ∀ line, effect = .line line → line.tellsRejection = false) : Reports [] [effect] where
  counted := by rw [total_cons, hgrowth]; rfl
  told threshold := by
    have hnone : rejections threshold [effect] = [] := by
      refine List.filter_eq_nil_iff.mpr fun line hmem => ?_
      obtain ⟨told, htold, hkept⟩ := List.mem_filterMap.mp (List.mem_filter.mp hmem).1
      obtain rfl := List.mem_singleton.mp htold
      cases told with
      | line told =>
        obtain rfl := Option.some.inj hkept
        rw [hline told rfl]
        exact Bool.false_ne_true
      | count | transaction | cursor => exact nomatch hkept
    rw [hnone, List.map_nil, ite_self]

theorem log {event : Event} (hevent : event ≠ .definitionRejected) (fields : List Field) :
    Reports [] (Traced.log (event.line fields)).effects :=
  of_other rfl fun line hline => by
    obtain rfl := Effect.line.inj hline
    rw [Line.tellsRejection_line]
    exact beq_eq_false_iff_ne.mpr hevent

theorem count {counter : Counter} (hcounter : counter ≠ .definitionsRejected) :
    Reports [] (Traced.count counter).effects :=
  of_other (if_neg hcounter) nofun

end Reports

end Effect

open Effect (Reports)

/-- The refusal in an answer, if it is one. -/
def DefinitionError.refusals : Except DefinitionError α → List DefinitionError
  | .ok _ => []
  | .error error => [error]

open DefinitionError (refusals)

/-- A computation that reports the refusal it yields, and no other. -/
def Traced.Tells (x : Traced (Except DefinitionError α)) : Prop :=
  Reports (refusals x.value) x.effects

namespace Traced.Tells

theorem pure_ok (a : α) : Tells (pure (.ok a)) := .nil

/-- What stops at the first refusal reports a refusal where it arises, and not again. -/
theorem andThen {x : Traced (Except DefinitionError α)}
    {f : Except DefinitionError α → Traced (Except DefinitionError β)} (hx : x.Tells)
    (herror : ∀ error, f (.error error) = pure (.error error)) (hok : ∀ a, (f (.ok a)).Tells) :
    (x >>= f).Tells := by
  obtain ⟨value, effects⟩ := x
  cases value with
  | error error =>
    have hbind : (⟨.error error, effects⟩ >>= f : Traced _) = ⟨.error error, effects⟩ := by
      ext
      · rw [Traced.value_bind, herror]
        rfl
      · rw [Traced.effects_bind, herror, Traced.effects_pure, List.append_nil]
    rw [hbind]
    exact hx
  | ok a => exact hx.append (hok a)

/-- Effects that report nothing may come first. -/
theorem after {x : Traced α} {f : α → Traced (Except DefinitionError β)}
    (hx : Reports [] x.effects) (hf : (f x.value).Tells) : (x >>= f).Tells :=
  hx.append hf

end Traced.Tells

namespace Builder

/-! ### Builders -/

theorem reports_report (error : DefinitionError) : Reports [error] (report error).effects where
  counted := rfl
  told threshold := by
    have hlines : Effect.lines (report error).effects = [error.line] := rfl
    have hpasses : error.line.passes threshold = decide (threshold ≤ .error) := rfl
    have htells : error.line.tellsRejection = true := rfl
    by_cases hkept : threshold ≤ .error <;>
      simp [Effect.rejections, Effect.linesAt, hlines, hpasses, htells, hkept]

/-- A definition reports its refusal. -/
theorem reports_define (builder : Builder) (index : Option Index) (table : Table)
    (operands : List Operand) :
    Reports (refusals (builder.define index table operands).value.1)
      (builder.define index table operands).effects := by
  unfold define
  split
  · exact .nil
  · exact (reports_report _).append_nil

/-- A finalization reports its refusal. -/
theorem tells_prepare (builder : Builder) (root : LevelRef) (id : String) :
    (builder.prepare root id).Tells := by
  unfold prepare
  split
  · exact .after (.log (by decide) _) (.pure_ok _)
  · exact (reports_report _).append_nil

end Builder

namespace Chain

open Builder (bare)

/-! ### Chains -/

/-- A level is refused exactly if its definition is: its layout and its mark always fit. -/
theorem refusals_defineLevel (builder : Builder) (index : Option Index) (source : Source)
    (operands : List Operand) (joinOnly : Bool) :
    refusals (defineLevel builder index source operands joinOnly).value =
      refusals (builder.define index source.table operands).value.1 := by
  cases hnode : Builder.compile builder.nodes index source.table operands with
  | error cause =>
    rw [defineLevel, Traced.value_bind, Builder.define, hnode]
    rfl
  | ok node =>
    have haccepts : Builder.Accepts (builder.nodes.map bare) ⟨index, source.table, operands⟩ node :=
      Builder.compile_eq_ok_iff.mp ((Builder.compile_map_bare ..).trans hnode)
    rw [defineLevel_eq_ok_iff.mpr ⟨node, haccepts, rfl⟩, Builder.define, hnode]
    rfl

theorem tells_defineLevel (builder : Builder) (index : Option Index) (source : Source)
    (operands : List Operand) (joinOnly : Bool) :
    (defineLevel builder index source operands joinOnly).Tells := by
  have heffects : (defineLevel builder index source operands joinOnly).effects =
      (builder.define index source.table operands).effects := List.append_nil _
  rw [Traced.Tells, refusals_defineLevel, heffects]
  exact Builder.reports_define ..

theorem tells_defineJoins (builder : Builder) (parent : LevelRef) (joins : List Join) :
    (defineJoins builder parent joins).Tells := by
  induction joins generalizing builder parent with
  | nil => exact .pure_ok builder
  | cons join rest ih =>
    exact .andThen (tells_defineLevel ..) (fun _ => rfl) fun (ref, builder) => ih builder ref

/-- Whether a chain has a root that has to be scanned, and no index for that. -/
def lacksRootScan (chain : Chain) : Bool := chain.needsRootScan && chain.rootScan?.isNone

/-- Unless it lacks an index for its root, a chain reports why it is refused. -/
theorem tells_compile {chain : Chain} (hscan : chain.lacksRootScan = false) (id : String) :
    (chain.compile id).Tells := by
  have hroot : chain.rootIndex.Tells := by
    unfold rootIndex
    split
    · rename_i hneeds
      split
      · exact .after (.count (by decide)) (.after (.log (by decide) _) (.pure_ok _))
      · rename_i hnone
        rw [lacksRootScan, hneeds, hnone] at hscan
        exact nomatch hscan
    · exact .pure_ok _
  refine .after (.count (by decide)) (.andThen hroot (fun _ => rfl) fun index => ?_)
  refine .andThen (tells_defineLevel ..) (fun _ => rfl) fun (root, builder) => ?_
  refine .andThen (tells_defineJoins ..) (fun _ => rfl) fun builder => ?_
  exact Builder.tells_prepare builder root id

/-- A chain that lacks an index for its root is refused, and nobody is told. -/
theorem compile_of_lacksRootScan {chain : Chain} (hscan : chain.lacksRootScan = true)
    (id : String) :
    (chain.compile id).value = .error noRootScan ∧ Reports [] (chain.compile id).effects := by
  obtain ⟨hneeds, hnone⟩ := Bool.and_eq_true_iff.mp hscan
  have hroot : chain.rootIndex = pure (.error noRootScan) := by
    rw [rootIndex, if_pos hneeds, Option.isNone_iff_eq_none.mp hnone]
  rw [compile, hroot]
  exact ⟨rfl, .count (by decide)⟩

end Chain

end StorageClient
