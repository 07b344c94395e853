import StorageClient.Effect
import StorageClient.Telemetry.Scope
/-!
# StorageClient.Action

Operations that change a value and may be cut short. A transaction belongs to somebody else, and a
call on it may panic. The panic unwinds through every operation on the way out, and each object
keeps the state it had when the panic struck. So an action on a state `σ` always yields a new
state, also when it yields no value.

Design points:

* An `Answer` is a value or the text of a panic. Errors that a caller is meant to handle are values
  (`Except`), never panics.
* A unit of work inside a scope (`within`) has the scope next to its state. It may close the scope,
  which is gone then. A scope that is left when the work ends or panics is dropped.
* An action on one of two things is an action on the pair (`onFirst`, `onSecond`); an action on
  something next to a list of things is an action on the list (`forEach`). The things before the
  one at which a panic strikes keep what the action did to them.
-/

namespace StorageClient

namespace OpenScope

/-- Opens a scope. -/
def enter [Sink] (scope : Scope) : Traced OpenScope :=
  Traced.bind (Traced.log scope.opening) fun () => pure ⟨scope, false⟩

/-- What a scope does when it goes away. Unless it was closed, it says that it was dropped. -/
def drop [Sink] (opened : OpenScope) : Traced Unit :=
  if opened.completed then pure () else Traced.log (opened.scope.closing .dropped)

/-- Closes a scope, and uses it up. -/
def close [Sink] (opened : OpenScope) (closing : Scope.Closing) : Traced Unit :=
  Traced.bind (Traced.log (opened.scope.closing closing)) fun () =>
    drop { opened with completed := true }

/-- Drops a scope that may be held. -/
def dropHeld [Sink] : Option OpenScope → Traced Unit
  | some opened => opened.drop
  | none => pure ()

end OpenScope

/-- An operation that changes a state, has effects, and returns unless it panics. -/
def Action (σ α : Type) : Type := σ → Traced (Answer α × σ)

namespace Action

variable {σ τ α β : Type}

/-- First one action, then another that depends on its value, unless the first panics. -/
def bind (first : Action σ α) (next : α → Action σ β) : Action σ β := fun state =>
  Traced.bind (first state) fun
    | (.returned value, state) => next value state
    | (.panicked text, state) => pure (.panicked text, state)

instance : Monad (Action σ) where
  pure value := fun state => pure (.returned value, state)
  bind := bind

/-- An action that neither panics nor changes anything. -/
def lift (x : Traced α) : Action σ α := fun state =>
  ⟨(.returned x.value, state), x.effects⟩

def log [Sink] (line : Line) : Action σ Unit := lift (Traced.log line)

def count (counter : Counter) : Action σ Unit := lift (Traced.count counter)

def get : Action σ σ := fun state => pure (.returned state, state)

def set (state : σ) : Action σ Unit := fun _ => pure (.returned (), state)

def modify (f : σ → σ) : Action σ Unit := fun state => pure (.returned (), f state)

def panic (text : String) : Action σ α := fun state => pure (.panicked text, state)

/-- An action on the first of two things. -/
def onFirst (action : Action σ α) : Action (σ × τ) α := fun (first, second) =>
  match action first with
  | ⟨(answer, first), effects⟩ => ⟨(answer, (first, second)), effects⟩

/-- An action on the second of two things. -/
def onSecond (action : Action τ α) : Action (σ × τ) α := fun (first, second) =>
  match action second with
  | ⟨(answer, second), effects⟩ => ⟨(answer, (first, second)), effects⟩

/-- An action on a task of its own: a panic ends the task and no more. -/
def spawn (action : Action σ α) : Action σ (Answer α) := fun state =>
  Traced.bind (action state) fun (answer, state) => pure (.returned answer, state)

/-- An action on a copy of a thing. Yields what became of the copy, which a panic loses. -/
def onCopy (thing : τ) (action : Action (τ × σ) α) : Action σ (τ × α) := fun state =>
  Traced.bind (action (thing, state)) fun
    | (.returned value, thing, state) => pure (.returned (thing, value), state)
    | (.panicked text, _, state) => pure (.panicked text, state)

/-- Visits the things of a list from left to right, up to the one at which a panic strikes. -/
def visit (action : Action (σ × τ) Unit) : List σ → τ → Traced (Answer Unit × List σ × τ)
  | [], rest => pure (.returned (), [], rest)
  | thing :: things, rest =>
    Traced.bind (action (thing, rest)) fun
      | (.returned (), (thing, rest)) =>
        Traced.bind (visit action things rest) fun (answer, things, rest) =>
          pure (answer, thing :: things, rest)
      | (.panicked text, (thing, rest)) => pure (.panicked text, thing :: things, rest)

/-- The same action on every thing of a list, from left to right. -/
def forEach (action : Action (σ × τ) Unit) : Action (List σ × τ) Unit := fun (things, rest) =>
  visit action things rest

/-- Work that is done inside a scope, and holds it at first. However the work comes to an end, a
scope that it still holds is dropped. -/
def within [Sink] (scope : Scope) (work : Action (σ × Option OpenScope) α) : Action σ α :=
  fun state =>
    Traced.bind (OpenScope.enter scope) fun opened =>
      Traced.bind (work (state, some opened)) fun (answer, state, held) =>
        Traced.bind (OpenScope.dropHeld held) fun () => pure (answer, state)

/-- Closes the scope that is held, and holds it no more. -/
def closeScope [Sink] (closing : Scope.Closing) : Action (σ × Option OpenScope) Unit
  | (state, some opened) =>
    Traced.bind (opened.close closing) fun () => pure (.returned (), state, none)
  | (state, none) => pure (.returned (), state, none)

/-! ### What the combinators do to a state -/

@[simp] theorem pure_apply (a : α) (s : σ) :
    (pure a : Action σ α) s = pure (.returned a, s) := rfl

theorem bind_apply (first : Action σ α) (next : α → Action σ β) (s : σ) :
    (first >>= next) s = Traced.bind (first s) fun
      | (.returned value, state) => next value state
      | (.panicked text, state) => pure (.panicked text, state) := rfl

/-- When the first action returns, the second goes on from there. -/
theorem bind_apply_of_returned {first : Action σ α} {next : α → Action σ β} {s s' : σ} {a : α}
    {es : List Effect} (h : first s = ⟨(.returned a, s'), es⟩) :
    (first >>= next) s = ⟨(next a s').value, es ++ (next a s').effects⟩ := by
  rw [bind_apply, h]
  rfl

/-- When the first action panics, the second does not happen. -/
theorem bind_apply_of_panicked {first : Action σ α} {next : α → Action σ β} {s s' : σ}
    {text : String} {es : List Effect} (h : first s = ⟨(.panicked text, s'), es⟩) :
    (first >>= next) s = ⟨(.panicked text, s'), es⟩ := by
  rw [bind_apply, h]
  simp [Traced.bind]

@[simp] theorem lift_apply (x : Traced α) (s : σ) :
    lift x s = ⟨(.returned x.value, s), x.effects⟩ := rfl

@[simp] theorem get_apply (s : σ) : (get : Action σ σ) s = pure (.returned s, s) := rfl

@[simp] theorem set_apply (s t : σ) : set s t = pure (.returned (), s) := rfl

@[simp] theorem modify_apply (f : σ → σ) (s : σ) : modify f s = pure (.returned (), f s) := rfl

@[simp] theorem panic_apply (text : String) (s : σ) :
    (panic text : Action σ α) s = pure (.panicked text, s) := rfl

/-- An action on the first thing leaves the second alone. -/
@[simp] theorem onFirst_apply (action : Action σ α) (s : σ) (t : τ) :
    onFirst action (s, t) =
      ⟨((action s).value.1, ((action s).value.2, t)), (action s).effects⟩ := rfl

theorem onFirst_of {action : Action σ α} {s s' : σ} {answer : Answer α} {effects : List Effect}
    (h : action s = ⟨(answer, s'), effects⟩) (t : τ) :
    onFirst action (s, t) = ⟨(answer, s', t), effects⟩ := by
  rw [onFirst_apply, h]

/-- An action on the second thing leaves the first alone. -/
@[simp] theorem onSecond_apply (action : Action τ α) (s : σ) (t : τ) :
    onSecond action (s, t) =
      ⟨((action t).value.1, (s, (action t).value.2)), (action t).effects⟩ := rfl

@[simp] theorem forEach_nil (action : Action (σ × τ) Unit) (t : τ) :
    forEach action ([], t) = pure (.returned (), ([], t)) := rfl

/-- A scope that is closed is gone. The flag is set by then, so it is not dropped as well. -/
@[simp] theorem closeScope_apply (closing : Scope.Closing) (s : σ) (opened : OpenScope) :
    closeScope closing (s, some opened) =
      ⟨(.returned (), s, none), [.line (opened.scope.closing closing)]⟩ := rfl

@[simp] theorem closeScope_none (closing : Scope.Closing) (s : σ) :
    closeScope closing (s, none) = pure (.returned (), s, none) := rfl

/-- A scope that goes away does nothing but write lines. -/
theorem effects_dropHeld (held : Option OpenScope) :
    ∃ lines : List Line, (OpenScope.dropHeld held).effects = lines.map .line := by
  rcases held with _ | ⟨scope, _ | _⟩
  · exact ⟨[], rfl⟩
  · exact ⟨[scope.closing .dropped], rfl⟩
  · exact ⟨[], rfl⟩

/-- What is done in a scope is enclosed in its opening and, if the scope is still held, its drop. -/
theorem within_apply (scope : Scope) (work : Action (σ × Option OpenScope) α) (s : σ) :
    within scope work s =
      ⟨((work (s, some ⟨scope, false⟩)).value.1, (work (s, some ⟨scope, false⟩)).value.2.1),
        .line scope.opening :: ((work (s, some ⟨scope, false⟩)).effects ++
          (OpenScope.dropHeld (work (s, some ⟨scope, false⟩)).value.2.2).effects)⟩ := by
  apply Traced.ext
  · rfl
  · change _ :: ([] ++ (_ ++ (_ ++ []))) = _
    rw [List.nil_append, List.append_nil]
    rfl

/-- Visiting a list keeps its length, whatever happens. -/
theorem length_forEach (action : Action (σ × τ) Unit) (things : List σ) (t : τ) :
    (forEach action (things, t)).value.2.1.length = things.length := by
  change (visit action things t).value.2.1.length = things.length
  induction things generalizing t with
  | nil => rfl
  | cons thing things ih =>
    rw [visit, Traced.bind]
    dsimp only
    split
    · simp [Traced.bind, ih]
    · simp

end Action

end StorageClient
