import StorageClient.Transaction.Shared
/-!
# StorageClient.Proofs.Laws

Laws about what operations do. A law relates the state before, the state after, and the effects in
between (`Law`). It has to allow that nothing happens, and that one thing happens after another.

So it is proved of an action by following its definition: there is one lemma for each way to put
actions together (`Action.Obeys`). Whether the action returns or panics makes no difference.

The simplest law is that every effect is of a kind, whatever becomes of the state (`Law.emits`).
-/

namespace StorageClient

variable {σ τ α β : Type}

/-- What may come between two states, by way of some effects. -/
structure Law (σ : Type) where
  Allows : σ → σ → List Effect → Prop
  rest : ∀ state, Allows state state []
  trans : ∀ {first second third before after}, Allows first second before →
    Allows second third after → Allows first third (before ++ after)

namespace Law

/-- Every effect is of a kind. -/
def emits (p : Effect → Prop) : Law σ where
  Allows _ _ effects := ∀ effect ∈ effects, p effect
  rest _ := fun _ hmem => absurd hmem List.not_mem_nil
  trans hbefore hafter := fun effect hmem =>
    (List.mem_append.mp hmem).elim (hbefore effect) (hafter effect)

theorem emits_singleton {p : Effect → Prop} {effect : Effect} (h : p effect) (first second : σ) :
    (emits p).Allows first second [effect] := fun _ hmem => List.mem_singleton.mp hmem ▸ h

/-- A law about a part of the state. -/
def on (law : Law σ) (part : τ → σ) : Law τ where
  Allows first second := law.Allows (part first) (part second)
  rest _ := law.rest _
  trans := law.trans

@[simp] theorem on_allows {law : Law σ} {part : τ → σ} {first second : τ} {effects : List Effect} :
    (law.on part).Allows first second effects ↔ law.Allows (part first) (part second) effects :=
  Iff.rfl

end Law

/-! ### Values with effects -/

/-- Every effect is of a kind. -/
def Traced.Emits (p : Effect → Prop) (x : Traced α) : Prop := ∀ effect ∈ x.effects, p effect

namespace Traced.Emits

variable {p : Effect → Prop}

theorem pure (a : α) : Emits p (Pure.pure a : Traced α) := fun _ hmem =>
  absurd hmem List.not_mem_nil

theorem emit {effect : Effect} (h : p effect) : Emits p (Traced.emit effect) := fun _ hmem =>
  List.mem_singleton.mp hmem ▸ h

theorem log [Sink] {line : Line} (h : p (.line line)) : Emits p (Traced.log line) := by
  unfold Traced.log
  split
  · exact emit h
  · exact pure ()

theorem bind {x : Traced α} {f : α → Traced β} (h : Emits p x) (hf : ∀ a, Emits p (f a)) :
    Emits p (x >>= f) := fun effect hmem =>
  (List.mem_append.mp hmem).elim (h effect) (hf _ effect)

theorem foldl {step : β → α → Traced β} (h : ∀ present element, Emits p (step present element))
    (elements : List α) : ∀ start, Emits p (Traced.foldl step start elements) := by
  induction elements with
  | nil => exact fun _ => .pure _
  | cons element rest ih =>
    intro start
    rw [Traced.foldl_cons]
    exact .bind (h start element) ih

end Traced.Emits

/-! ### Actions -/

namespace Action

/-- A law holds of an action, whatever it is done to. -/
def Obeys (law : Law σ) (action : Action σ α) : Prop :=
  ∀ state, law.Allows state (action state).value.2 (action state).effects

namespace Obeys

variable {law : Law σ}

theorem pure (a : α) : Obeys law (Pure.pure a : Action σ α) := law.rest

theorem get : Obeys law (Action.get : Action σ σ) := law.rest

theorem lift {x : Traced α} (h : ∀ state, law.Allows state state x.effects) :
    Obeys law (Action.lift x) := h

section Emits

variable {p : Effect → Prop}

/-- What becomes of the state does not matter. -/
theorem of_emits {action : Action σ α} (h : ∀ state, (action state).Emits p) :
    Obeys (.emits p) action := h

theorem change (f : σ → σ) : Obeys (.emits p) (Action.modify f) := of_emits fun _ => .pure _

theorem emit {effect : Effect} (h : p effect) :
    Obeys (.emits p) (Action.lift (Traced.emit effect) : Action σ Unit) := of_emits fun _ => .emit h

theorem emits_onFirst {action : Action σ α} (h : Obeys (.emits p) action) :
    Obeys (.emits p) (Action.onFirst action : Action (σ × τ) α) := fun state => h state.1

theorem emits_onSecond {action : Action σ α} (h : Obeys (.emits p) action) :
    Obeys (.emits p) (Action.onSecond action : Action (τ × σ) α) := fun state => h state.2

/-- A use of a shared transaction has no effects but those of its body. -/
theorem emits_useWith {body : Action (τ × σ) α} (h : Obeys (.emits p) body) :
    Obeys (.emits p) (SharedTransaction.useWith body) := by
  rintro ⟨thing, shared⟩
  by_cases hpoisoned : shared.poisoned = true
  · rw [SharedTransaction.useWith_of_poisoned body thing hpoisoned]
    exact fun _ hmem => absurd hmem List.not_mem_nil
  rw [Bool.not_eq_true] at hpoisoned
  have hbody := h (thing, shared.engine)
  rcases hrun : body (thing, shared.engine) with ⟨⟨answer, thing', engine⟩, effects⟩
  rw [hrun] at hbody
  cases answer with
  | returned value =>
    rw [SharedTransaction.useWith_of_returned hpoisoned hrun]
    exact hbody
  | panicked text =>
    rw [SharedTransaction.useWith_of_panicked hpoisoned hrun]
    exact hbody

theorem emits_use {body : Action σ α} (h : Obeys (.emits p) body) :
    Obeys (.emits p) (SharedTransaction.use body) := by
  intro shared effect hmem
  refine emits_useWith (τ := Unit) (emits_onSecond h) ((), shared) effect ?_
  simpa [SharedTransaction.use, Traced.bind] using hmem

theorem emits_closeScope {closing : Scope.Closing}
    (h : ∀ scope : Scope, p (.line (scope.closing closing))) :
    Obeys (.emits p) (Action.closeScope closing : Action (σ × Option OpenScope) Unit) := by
  rintro ⟨state, _ | opened⟩
  · exact (Law.emits p).rest (state, none)
  · exact Law.emits_singleton (h opened.scope) (state, some opened) (state, none)

end Emits

theorem bind {first : Action σ α} {next : α → Action σ β} (h : Obeys law first)
    (hnext : ∀ a, Obeys law (next a)) : Obeys law (first >>= next) := by
  intro state
  have hfirst := h state
  rcases hrun : first state with ⟨⟨answer, mid⟩, before⟩
  rw [hrun] at hfirst
  cases answer with
  | returned a =>
    rw [bind_apply_of_returned hrun]
    exact law.trans hfirst (hnext a mid)
  | panicked text =>
    rw [bind_apply_of_panicked hrun]
    exact hfirst

theorem onFirst {action : Action σ α} (h : Obeys law action) :
    Obeys (law.on Prod.fst) (Action.onFirst action : Action (σ × τ) α) := fun state => h state.1

theorem onSecond {action : Action σ α} (h : Obeys law action) :
    Obeys (law.on Prod.snd) (Action.onSecond action : Action (τ × σ) α) := fun state => h state.2

/-- An action on the first thing leaves the second alone, so only its effects count. -/
theorem beside {action : Action τ α}
    (h : ∀ thing state, law.Allows state state (action thing).effects) :
    Obeys (law.on Prod.snd) (Action.onFirst action : Action (τ × σ) α) := fun state =>
  h state.1 state.2

theorem closeScope {closing : Scope.Closing}
    (h : ∀ scope : Scope, ∀ state, law.Allows state state [.line (scope.closing closing)]) :
    Obeys (law.on Prod.fst) (Action.closeScope closing : Action (σ × Option OpenScope) Unit) := by
  rintro ⟨state, _ | opened⟩
  · exact law.rest state
  · exact h opened.scope state

/-- A law that allows the lines of scopes holds of what is done in a scope, if it holds of the
work. -/
theorem within {scope : Scope} {work : Action (σ × Option OpenScope) α}
    (h : Obeys (law.on Prod.fst) work)
    (hopening : ∀ state, law.Allows state state [.line scope.opening])
    (hdropped : ∀ scope : Scope, ∀ state, law.Allows state state [.line (scope.closing .dropped)]) :
    Obeys law (Action.within scope work) := by
  intro state
  have hworked := h (state, some ⟨scope, false⟩)
  rw [within_apply]
  generalize work (state, some ⟨scope, false⟩) = done at hworked
  have hdrop : law.Allows done.value.2.1 done.value.2.1
      (OpenScope.dropHeld done.value.2.2).effects := by
    rcases done.value.2.2 with _ | ⟨held, _ | _⟩
    · exact law.rest _
    · exact hdropped held _
    · exact law.rest _
  exact law.trans (hopening state) (law.trans hworked hdrop)

theorem emits_within {p : Effect → Prop} {scope : Scope} {work : Action (σ × Option OpenScope) α}
    (h : Obeys (.emits p) work) (hopening : p (.line scope.opening))
    (hdropped : ∀ scope : Scope, p (.line (scope.closing .dropped))) :
    Obeys (.emits p) (Action.within scope work) :=
  @within _ _ (.emits p) _ _ h (fun state => Law.emits_singleton hopening state state)
    fun scope state => Law.emits_singleton (hdropped scope) state state

end Obeys

end Action

end StorageClient
