import StorageClient.Proofs.Traffic
import StorageClient.Transaction.Shared
/-!
# StorageClient.Proofs.Actions

What can be said of an action from what it is put together from.

* An action is *orderly* if it panics only where a call on the transaction does, and makes no more
  than so many round trips (`Action.Orderly`).
* An action *keeps* something about the state if that is the same afterwards, whether the action
  returns or panics (`Action.Keeps`).
* An action is *candid* if it does nothing but call the transaction, and panics exactly if one of
  its calls does (`Action.Candid`).
* An action on a view of the state *shows* another if it is answered the same, with the same
  effects, and leaves the view of what the other leaves (`Action.Shows`).

There is one lemma for each way to put actions together, so a proof about an action follows its
definition.
-/

namespace StorageClient

/-- Whether a call panicked. -/
def Answer.isPanic {α : Type} : Answer α → Bool
  | returned _ => false
  | panicked _ => true

/-- Whether a call on a transaction panicked. -/
def TransactionCall.isPanic : TransactionCall → Bool
  | define _ answer => answer.isPanic
  | createQuery _ answer => answer.isPanic
  | execute _ answer => answer.isPanic
  | operationError _ answer => answer.isPanic
  | error answer => answer.isPanic
  | readBlob _ _ answer => answer.isPanic
  | tryStart _ answer => answer.isPanic
  | close answer => answer.isPanic

namespace Action

open Effect (trips transactionCalls trips_append trips_line trips_lines transactionCalls_append
  transactionCalls_line transactionCalls_lines)

variable {σ τ α β γ : Type}

/-! ### Orderly actions -/

/-- A run that made at most `n` round trips, and panicked only if a call on the transaction did. -/
structure OrderlyRun (n : Nat) (answer : Answer α) (effects : List Effect) : Prop where
  trips_le : trips effects ≤ n
  panics : answer.isPanic = true → ∃ call ∈ transactionCalls effects, call.isPanic = true

namespace OrderlyRun

variable {m n : Nat} {answer : Answer α} {effects : List Effect}

theorem mono (h : OrderlyRun m answer effects) (hle : m ≤ n) : OrderlyRun n answer effects :=
  ⟨Nat.le_trans h.trips_le hle, h.panics⟩

theorem returned {value : α} (h : trips effects ≤ n) : OrderlyRun n (.returned value) effects :=
  ⟨h, fun hpanic => absurd hpanic Bool.false_ne_true⟩

/-- A panic that goes on is the same panic, whatever is logged about it. -/
theorem panicked {text : String} {more : List Effect}
    (h : OrderlyRun n (.panicked text : Answer α) effects) (htrips : trips more = trips effects)
    (hcalls : transactionCalls more = transactionCalls effects) :
    OrderlyRun n (.panicked text : Answer β) more :=
  ⟨htrips ▸ h.trips_le, fun _ => hcalls ▸ h.panics rfl⟩

/-- Where one run goes on from another, the round trips add up. -/
theorem append {before : List Effect} (hbefore : trips before ≤ m)
    (h : OrderlyRun n answer effects) : OrderlyRun (m + n) answer (before ++ effects) where
  trips_le := by
    rw [trips_append]
    exact Nat.add_le_add hbefore h.trips_le
  panics hpanic := by
    obtain ⟨call, hcall, hcallPanics⟩ := h.panics hpanic
    rw [transactionCalls_append]
    exact ⟨call, List.mem_append_right _ hcall, hcallPanics⟩

end OrderlyRun

/-- An action of which every run is orderly. -/
def Orderly (n : Nat) (action : Action σ α) : Prop :=
  ∀ state, OrderlyRun n (action state).value.1 (action state).effects

namespace Orderly

variable {n : Nat}

/-- An orderly action returns if no call panics. -/
theorem returns {action : Action σ α} (h : Orderly n action) {state : σ}
    (hcalls : ∀ call ∈ transactionCalls (action state).effects, call.isPanic = false) :
    ∃ value after effects, action state = ⟨(.returned value, after), effects⟩ := by
  have hpanics := (h state).panics
  rcases hrun : action state with ⟨⟨answer, after⟩, effects⟩
  rw [hrun] at hpanics hcalls
  cases answer with
  | returned value => exact ⟨value, after, effects, rfl⟩
  | panicked text =>
    obtain ⟨call, hcall, hpanic⟩ := hpanics rfl
    exact absurd ((hcalls call hcall).symm.trans hpanic) Bool.false_ne_true

theorem mono {m : Nat} {action : Action σ α} (h : Orderly m action) (hle : m ≤ n) :
    Orderly n action := fun state => (h state).mono hle

/-- An action that does what another does to a part of the state. -/
theorem of_part {action : Action σ α} {whole : Action τ α} (h : Orderly n action) (part : τ → σ)
    (hanswer : ∀ state, (whole state).value.1 = (action (part state)).value.1)
    (heffects : ∀ state, (whole state).effects = (action (part state)).effects) :
    Orderly n whole := by
  intro state
  rw [hanswer, heffects]
  exact h (part state)

theorem pure (a : α) : Orderly 0 (Pure.pure a : Action σ α) := fun _ => .returned (Nat.le_refl 0)

theorem get : Orderly 0 (Action.get : Action σ σ) := fun _ => .returned (Nat.le_refl 0)

theorem modify (f : σ → σ) : Orderly 0 (Action.modify f) := fun _ => .returned (Nat.le_refl 0)

theorem log (line : Line) : Orderly 0 (Action.log line : Action σ Unit) := fun _ =>
  .returned (Nat.le_refl 0)

theorem lift_count (counter : Counter) (amount : Nat) :
    Orderly 0 (Action.lift (Traced.emit (.count counter amount)) : Action σ Unit) := fun _ =>
  .returned (Nat.le_refl 0)

theorem bind {m n : Nat} {first : Action σ α} {next : α → Action σ β} (h : Orderly m first)
    (hnext : ∀ a, Orderly n (next a)) : Orderly (m + n) (first >>= next) := by
  intro state
  have hfirst := h state
  rcases hrun : first state with ⟨⟨answer, mid⟩, before⟩
  rw [hrun] at hfirst
  cases answer with
  | returned a =>
    rw [bind_apply_of_returned hrun]
    exact (hnext a mid).append hfirst.trips_le
  | panicked text =>
    rw [bind_apply_of_panicked hrun]
    exact (hfirst.panicked rfl rfl).mono (Nat.le_add_right m n)

/-- Only the first action makes round trips. -/
theorem head {first : Action σ α} {next : α → Action σ β} (h : Orderly n first)
    (hnext : ∀ a, Orderly 0 (next a)) : Orderly n (first >>= next) :=
  h.bind hnext

/-- Only the second action makes round trips. -/
theorem tail {first : Action σ α} {next : α → Action σ β} (h : Orderly 0 first)
    (hnext : ∀ a, Orderly n (next a)) : Orderly n (first >>= next) := by
  simpa using h.bind hnext

theorem onFirst {action : Action σ α} (h : Orderly n action) :
    Orderly n (Action.onFirst action : Action (σ × τ) α) :=
  h.of_part Prod.fst (fun _ => rfl) fun _ => rfl

theorem onSecond {action : Action τ α} (h : Orderly n action) :
    Orderly n (Action.onSecond action : Action (σ × τ) α) :=
  h.of_part Prod.snd (fun _ => rfl) fun _ => rfl

theorem forEach {action : Action (σ × τ) Unit} (h : Orderly 0 action) :
    Orderly 0 (Action.forEach action) := by
  rintro ⟨things, rest⟩
  change OrderlyRun 0 (visit action things rest).value.1 (visit action things rest).effects
  -- By induction on the list: the round over the rest starts where the first visit ends.
  induction things generalizing rest with
  | nil => exact .returned (Nat.le_refl 0)
  | cons thing things ih =>
    have hvisit := h (thing, rest)
    rcases hrun : action (thing, rest) with ⟨⟨answer, thing', mid⟩, before⟩
    rw [hrun] at hvisit
    cases answer with
    | returned value => simpa [visit, Traced.bind, hrun] using (ih mid).append hvisit.trips_le
    | panicked text => simpa [visit, Traced.bind, hrun] using hvisit

theorem closeScope (closing : Scope.Closing) :
    Orderly 0 (Action.closeScope closing : Action (σ × Option OpenScope) Unit) := by
  rintro ⟨state, _ | opened⟩ <;> exact .returned (Nat.le_refl 0)

theorem within {scope : Scope} {work : Action (σ × Option OpenScope) α} (h : Orderly n work) :
    Orderly n (Action.within scope work) := by
  intro state
  obtain ⟨htrips, hpanics⟩ := h (state, some ⟨scope, false⟩)
  rw [within_apply]
  generalize work (state, some ⟨scope, false⟩) = done at htrips hpanics
  obtain ⟨lines, hlines⟩ := effects_dropHeld done.value.2.2
  refine ⟨?_, fun hpanic => ?_⟩
  · rwa [hlines, trips_line, trips_append, trips_lines, Nat.add_zero]
  · rw [hlines, transactionCalls_line, transactionCalls_append, transactionCalls_lines,
      List.append_nil]
    exact hpanics hpanic

/-- A task of its own does not panic, whatever becomes of the action. -/
theorem spawn {action : Action σ α} (h : Orderly n action) : Orderly n (Action.spawn action) :=
  fun state => .returned (by simpa [Action.spawn, Traced.bind] using (h state).trips_le)

theorem onCopy {action : Action (τ × σ) α} (h : Orderly n action) (thing : τ) :
    Orderly n (Action.onCopy thing action) := by
  intro state
  have hcopy := h (thing, state)
  rcases hrun : action (thing, state) with ⟨⟨answer, after⟩, effects⟩
  rw [hrun] at hcopy
  cases answer with
  | returned value =>
    simp only [Action.onCopy, Traced.bind, hrun]
    exact .returned (by simpa using hcopy.trips_le)
  | panicked text =>
    simp only [Action.onCopy, Traced.bind, hrun]
    exact hcopy.panicked (by simp) (by simp)

/-- A use of a shared transaction makes the calls of its body, or none. -/
theorem useWith {body : Action (τ × σ) α} (h : Orderly n body) :
    Orderly n (SharedTransaction.useWith body) := by
  rintro ⟨thing, shared⟩
  by_cases hpoisoned : shared.poisoned = true
  · rw [SharedTransaction.useWith_of_poisoned body thing hpoisoned]
    exact .returned (Nat.zero_le n)
  rw [Bool.not_eq_true] at hpoisoned
  have hbody := h (thing, shared.engine)
  rcases hrun : body (thing, shared.engine) with ⟨⟨answer, thing', engine⟩, effects⟩
  rw [hrun] at hbody
  cases answer with
  | returned value =>
    rw [SharedTransaction.useWith_of_returned hpoisoned hrun]
    exact .returned hbody.trips_le
  | panicked text =>
    rw [SharedTransaction.useWith_of_panicked hpoisoned hrun]
    exact hbody.panicked rfl rfl

theorem use {body : Action σ α} (h : Orderly n body) : Orderly n (SharedTransaction.use body) :=
  (useWith (τ := Unit) h.onSecond).of_part (fun shared => ((), shared)) (fun _ => rfl)
    fun _ => List.append_nil _

theorem registerClose :
    Orderly 0 (SharedTransaction.registerClose : Action (SharedTransaction σ) Unit) := by
  intro shared
  unfold SharedTransaction.registerClose
  split <;> exact .returned (Nat.le_refl 0)

/-- A call on a transaction panics exactly if its answer does. -/
theorem call {run : σ → Answer α × σ} {told : Answer α → TransactionCall}
    (htrips : ∀ answer, trips [.transaction (told answer)] ≤ n)
    (htold : ∀ answer, (told answer).isPanic = answer.isPanic) :
    Orderly n (Transaction.call run told) := fun state =>
  ⟨htrips (run state).1, fun hpanic =>
    ⟨_, List.mem_singleton_self _, (htold _).trans hpanic⟩⟩

end Orderly

/-! ### Actions that keep something -/

/-- Whatever the action does, `f` says the same of the state before and after it. -/
def Keeps (f : σ → γ) (action : Action σ α) : Prop :=
  ∀ state, f (action state).value.2 = f state

namespace Keeps

theorem pure (f : σ → γ) (a : α) : Keeps f (Pure.pure a : Action σ α) := fun _ => rfl

theorem get (f : σ → γ) : Keeps f (Action.get : Action σ σ) := fun _ => rfl

theorem modify {f : σ → γ} {g : σ → σ} (h : ∀ state, f (g state) = f state) :
    Keeps f (Action.modify g) := h

theorem lift (f : σ → γ) (x : Traced α) : Keeps f (Action.lift x) := fun _ => rfl

theorem bind {f : σ → γ} {first : Action σ α} {next : α → Action σ β} (h : Keeps f first)
    (hnext : ∀ a, Keeps f (next a)) : Keeps f (first >>= next) := by
  intro state
  have hfirst := h state
  rcases hrun : first state with ⟨⟨answer, mid⟩, before⟩
  rw [hrun] at hfirst
  cases answer with
  | returned a =>
    rw [bind_apply_of_returned hrun]
    exact (hnext a mid).trans hfirst
  | panicked text =>
    rw [bind_apply_of_panicked hrun]
    exact hfirst

theorem onFirst {f : σ → γ} {action : Action σ α} (h : Keeps f action) :
    Keeps (fun state : σ × τ => f state.1) (Action.onFirst action) := fun state => h state.1

/-- An action on the second thing keeps everything about the first. -/
theorem onSecond (f : σ → γ) (action : Action τ α) :
    Keeps (fun state : σ × τ => f state.1) (Action.onSecond action) := fun _ => rfl

/-- What an action keeps about a thing, a round keeps about each thing of a list. -/
theorem forEach {f : σ → γ} {action : Action (σ × τ) Unit}
    (h : Keeps (fun state : σ × τ => f state.1) action) :
    Keeps (fun state : List σ × τ => state.1.map f) (Action.forEach action) := by
  rintro ⟨things, rest⟩
  change (visit action things rest).value.2.1.map f = things.map f
  induction things generalizing rest with
  | nil => rfl
  | cons thing things ih =>
    have hthing := h (thing, rest)
    rcases hrun : action (thing, rest) with ⟨⟨answer, thing', mid⟩, before⟩
    rw [hrun] at hthing
    dsimp only at hthing
    cases answer with
    | returned value =>
      have ih := ih mid
      simpa [visit, Traced.bind, hrun, hthing] using ih
    | panicked text => simp [visit, Traced.bind, hrun, hthing]

/-- Whoever closes a scope keeps everything else. -/
theorem closeScope (f : σ → γ) (closing : Scope.Closing) :
    Keeps (fun state : σ × Option OpenScope => f state.1) (Action.closeScope closing) := by
  rintro ⟨state, _ | opened⟩ <;> rfl

theorem within {f : σ → γ} {scope : Scope} {work : Action (σ × Option OpenScope) α}
    (h : Keeps (fun state : σ × Option OpenScope => f state.1) work) :
    Keeps f (Action.within scope work) := fun state => by
  rw [within_apply]
  exact h (state, some ⟨scope, false⟩)

theorem useWith {f : τ → γ} {body : Action (τ × σ) α}
    (h : Keeps (fun state : τ × σ => f state.1) body) :
    Keeps (fun state : τ × SharedTransaction σ => f state.1) (SharedTransaction.useWith body) := by
  rintro ⟨thing, shared⟩
  by_cases hpoisoned : shared.poisoned = true
  · rw [SharedTransaction.useWith_of_poisoned body thing hpoisoned]
    rfl
  rw [Bool.not_eq_true] at hpoisoned
  have hbody := h (thing, shared.engine)
  rcases hrun : body (thing, shared.engine) with ⟨⟨answer, thing', engine⟩, effects⟩
  rw [hrun] at hbody
  cases answer with
  | returned value => rwa [SharedTransaction.useWith_of_returned hpoisoned hrun]
  | panicked text => rwa [SharedTransaction.useWith_of_panicked hpoisoned hrun]

end Keeps

/-! ### Candid actions -/

/-- A run that had no effects but calls on the transaction, and panicked exactly if one of them
did. -/
structure CandidRun (calls : List TransactionCall) (answer : Answer α) (effects : List Effect) :
    Prop where
  effects_eq : effects = calls.map .transaction
  panics : calls.any TransactionCall.isPanic = answer.isPanic

/-- An action of which every run is candid. -/
def Candid (action : Action σ α) : Prop :=
  ∀ state, ∃ calls, CandidRun calls (action state).value.1 (action state).effects

namespace Candid

theorem transactionCalls_map (calls : List TransactionCall) :
    transactionCalls (calls.map .transaction) = calls := by
  induction calls with
  | nil => rfl
  | cons call rest ih => rw [List.map_cons, Effect.transactionCalls_transaction, ih]

theorem pure (a : α) : Candid (Pure.pure a : Action σ α) := fun _ => ⟨[], rfl, rfl⟩

theorem get : Candid (Action.get : Action σ σ) := fun _ => ⟨[], rfl, rfl⟩

theorem modify (f : σ → σ) : Candid (Action.modify f) := fun _ => ⟨[], rfl, rfl⟩

theorem bind {first : Action σ α} {next : α → Action σ β} (h : Candid first)
    (hnext : ∀ a, Candid (next a)) : Candid (first >>= next) := by
  intro state
  obtain ⟨calls, heffects, hpanics⟩ := h state
  rcases hrun : first state with ⟨⟨answer, mid⟩, before⟩
  rw [hrun] at heffects hpanics
  cases answer with
  | returned a =>
    obtain ⟨later, hlater, hends⟩ := hnext a mid
    rw [bind_apply_of_returned hrun]
    refine ⟨calls ++ later, ?_, ?_⟩
    · rw [List.map_append, hlater]
      exact congrArg (· ++ _) heffects
    · rw [List.any_append, hpanics, hends]
      rfl
  | panicked text =>
    rw [bind_apply_of_panicked hrun]
    exact ⟨calls, heffects, hpanics⟩

/-- An action that does what another does to a part of the state. -/
theorem of_part {action : Action σ α} {whole : Action τ α} (h : Candid action) (part : τ → σ)
    (hanswer : ∀ state, (whole state).value.1 = (action (part state)).value.1)
    (heffects : ∀ state, (whole state).effects = (action (part state)).effects) :
    Candid whole := by
  intro state
  rw [hanswer, heffects]
  exact h (part state)

theorem onFirst {action : Action σ α} (h : Candid action) :
    Candid (Action.onFirst action : Action (σ × τ) α) :=
  h.of_part Prod.fst (fun _ => rfl) fun _ => rfl

theorem onSecond {action : Action τ α} (h : Candid action) :
    Candid (Action.onSecond action : Action (σ × τ) α) :=
  h.of_part Prod.snd (fun _ => rfl) fun _ => rfl

theorem forEach {action : Action (σ × τ) Unit} (h : Candid action) :
    Candid (Action.forEach action) := by
  rintro ⟨things, rest⟩
  change ∃ calls, CandidRun calls (visit action things rest).value.1
    (visit action things rest).effects
  induction things generalizing rest with
  | nil => exact ⟨[], rfl, rfl⟩
  | cons thing things ih =>
    obtain ⟨calls, heffects, hpanics⟩ := h (thing, rest)
    rcases hrun : action (thing, rest) with ⟨⟨answer, thing', mid⟩, before⟩
    rw [hrun] at heffects hpanics
    cases answer with
    | returned value =>
      obtain ⟨later, hlater, hends⟩ := ih mid
      refine ⟨calls ++ later, ?_, ?_⟩
      · simpa [visit, Traced.bind, hrun, hlater] using heffects
      · simp [visit, Traced.bind, hrun, hpanics, hends, Answer.isPanic]
    | panicked text => exact ⟨calls, by simpa [visit, Traced.bind, hrun] using heffects,
        by simpa [visit, Traced.bind, hrun] using hpanics⟩

theorem call {run : σ → Answer α × σ} {told : Answer α → TransactionCall}
    (htold : ∀ answer, (told answer).isPanic = answer.isPanic) :
    Candid (Transaction.call run told) := fun state =>
  ⟨[told (run state).1], rfl, (Bool.or_false _).trans (htold (run state).1)⟩

end Candid

/-! ### Actions on a view of the state -/

variable {ρ : Type}

/-- From the view of a state, an action does what another does from the state itself. -/
def Shows (view : σ → τ) (shown : Action τ α) (action : Action σ α) (state : σ) : Prop :=
  shown (view state) =
    ⟨((action state).value.1, view (action state).value.2), (action state).effects⟩

namespace Shows

variable {view : σ → τ} {state : σ}

theorem pure (a : α) : Shows view (Pure.pure a) (Pure.pure a) state := rfl


theorem modify {f : σ → σ} {g : τ → τ} (h : g (view state) = view (f state)) :
    Shows view (Action.modify g) (Action.modify f) state := by
  rw [Shows, modify_apply, h]
  rfl

/-- What comes second may rely on what the first left behind. -/
theorem bind {first' : Action τ α} {first : Action σ α} {next' : α → Action τ β}
    {next : α → Action σ β} (h : Shows view first' first state)
    (hnext : ∀ a after, (first state).value = (.returned a, after) →
      Shows view (next' a) (next a) after) :
    Shows view (first' >>= next') (first >>= next) state := by
  rcases hrun : first state with ⟨⟨answer, after⟩, effects⟩
  rw [Shows, hrun] at h
  rw [hrun] at hnext
  cases answer with
  | returned a =>
    rw [Shows, bind_apply_of_returned h, bind_apply_of_returned hrun, hnext a after rfl]
  | panicked text => rw [Shows, bind_apply_of_panicked h, bind_apply_of_panicked hrun]

theorem get {next' : τ → Action τ β} {next : σ → Action σ β}
    (h : Shows view (next' (view state)) (next state) state) :
    Shows view (Action.get >>= next') (Action.get >>= next) state := h

/-- What only has effects goes before both. -/
theorem lift (x : Traced α) {next' : α → Action τ β} {next : α → Action σ β}
    (h : Shows view (next' x.value) (next x.value) state) :
    Shows view (Action.lift x >>= next') (Action.lift x >>= next) state :=
  bind rfl fun _ _ hrun => by
    cases hrun
    exact h

theorem onFirst {shown : Action τ α} {action : Action σ α} (h : Shows view shown action state)
    (rest : ρ) :
    Shows (Prod.map view id) (Action.onFirst shown) (Action.onFirst action) (state, rest) := by
  simp only [Shows, Prod.map_apply, onFirst_apply, id_eq]
  rw [h]

theorem onSecond (action : Action ρ α) (rest : ρ) :
    Shows (Prod.map view id) (Action.onSecond action) (Action.onSecond action) (state, rest) := rfl

theorem closeScope (closing : Scope.Closing) (held : Option OpenScope)
    {next' : Unit → Action (τ × Option OpenScope) β} {next : Unit → Action (σ × Option OpenScope) β}
    (h : Shows (Prod.map view id) (next' ()) (next ()) (state, none)) :
    Shows (Prod.map view id) (Action.closeScope closing >>= next')
      (Action.closeScope closing >>= next) (state, held) := by
  refine bind ?_ fun _ after hrun => ?_
  · cases held <;> rfl
  · obtain rfl : (state, none) = after := by cases held <;> exact congrArg Prod.snd hrun
    exact h

theorem within {scope : Scope} {work' : Action (τ × Option OpenScope) α}
    {work : Action (σ × Option OpenScope) α}
    (h : Shows (Prod.map view id) work' work (state, some ⟨scope, false⟩)) :
    Shows view (Action.within scope work') (Action.within scope work) state := by
  rw [Shows, Prod.map_apply, id_eq] at h
  rw [Shows, within_apply, within_apply, h]
  rfl

end Shows

end Action

end StorageClient
