import StorageClient.Telemetry.Counter
import StorageClient.Telemetry.Line
import StorageClient.Transaction.Cursor
import StorageClient.Transaction.Operation
import StorageClient.Transaction.RoundTrip
import StorageClient.Tree.Query
/-!
# StorageClient.Effect

What an operation does besides returning a value. Operations are pure: they return the list of
their effects with their result (`Traced`), and an outer layer carries the effects out. So a
statement about "the calls made on the transaction" or "the lines written" is a statement about a
list.

* The effect of a call on a transaction tells what was asked and what came of it.
* Operations run where lines are logged to some sink (`Sink`), and any of them can read its
  threshold. A line below it is not written, and leaves no effect (`Traced.log`). Where no sink is
  given, it is the one that keeps everything.
* `Traced.effects` is in the order of time.
* `Traced.foldl` is the loop over a list. It gathers the effects in one pass with constant stack;
  `Traced.foldl_cons` states it as one step followed by the loop over the rest.
-/

namespace StorageClient

/-- What came of a call. -/
inductive Answer (α : Type)
  | returned (value : α)
  | panicked (text : String)
  deriving Repr, DecidableEq

/-- An answer with another value. -/
def Answer.map {α β : Type} (f : α → β) : Answer α → Answer β
  | returned value => returned (f value)
  | panicked text => panicked text

instance decidableEqExcept {ε α : Type} [DecidableEq ε] [DecidableEq α] : DecidableEq (Except ε α)
  | .error a, .error b => decidable_of_iff (a = b) ⟨congrArg _, Except.error.inj⟩
  | .ok a, .ok b => decidable_of_iff (a = b) ⟨congrArg _, Except.ok.inj⟩
  | .error _, .ok _ => isFalse nofun
  | .ok _, .error _ => isFalse nofun

/-- A call on a transaction, and what came of it. -/
inductive TransactionCall
  | define (operation : KeyOperation) (answer : Answer (Except EngineError Nat))
  | createQuery (query : Query) (answer : Answer (Except EngineError Cursor))
  | execute (options : RoundTrip) (answer : Answer (Except EngineError Unit))
  | operationError (id : Nat) (answer : Answer (Option EngineError))
  | error (answer : Answer (Option EngineError))
  | readBlob (id : Nat) (column : UInt32) (answer : Answer (Option Bytes))
  | tryStart (hint : Option KeyOperation) (answer : Answer Bool)
  | close (answer : Answer Unit)
  deriving Repr, DecidableEq

/-- Something that happens outside. -/
inductive Effect
  | line (line : Line)
  | count (counter : Counter) (amount : Nat)
  | transaction (call : TransactionCall)
  | cursor (call : Cursor.Call)
  deriving Repr, DecidableEq

namespace Effect

def lines (effects : List Effect) : List Line :=
  effects.filterMap fun
    | .line l => some l
    | _ => none

/-- The lines that reach a stream of a sink with a threshold. -/
def linesTo (threshold : Severity) (stream : Stream) (effects : List Effect) : List Line :=
  (lines effects).filter fun line => line.stream == stream && line.passes threshold

/-- By how much one effect makes a counter grow. -/
def growth (counter : Counter) : Effect → Nat
  | .count c amount => if c = counter then amount else 0
  | _ => 0

/-- By how much some effects make a counter grow. -/
def total (counter : Counter) (effects : List Effect) : Nat :=
  effects.foldl (fun sum effect => sum + growth counter effect) 0

/-- The counters that some effects make grow, each with its growth. -/
def increases (effects : List Effect) : List (Counter × Nat) :=
  (Counter.all.map fun counter => (counter, total counter effects)).filter fun (_, n) => n != 0

/-- The calls on transactions among some effects. -/
def transactionCalls (effects : List Effect) : List TransactionCall :=
  effects.filterMap fun
    | .transaction c => some c
    | _ => none

/-- The calls on cursors among some effects. -/
def cursorCalls (effects : List Effect) : List Cursor.Call :=
  effects.filterMap fun
    | .cursor c => some c
    | _ => none

@[simp] theorem lines_append (a b : List Effect) : lines (a ++ b) = lines a ++ lines b := by
  simp [lines]

@[simp] theorem linesTo_append (t : Severity) (s : Stream) (a b : List Effect) :
    linesTo t s (a ++ b) = linesTo t s a ++ linesTo t s b := by
  simp [linesTo]

/-- What was counted before adds to the growth of a counter. -/
theorem foldl_growth (c : Counter) (effects : List Effect) (sum : Nat) :
    effects.foldl (fun sum effect => sum + growth c effect) sum = sum + total c effects := by
  induction effects generalizing sum with
  | nil => rfl
  | cons effect rest ih =>
    rw [total, List.foldl_cons, List.foldl_cons, ih, ih (0 + growth c effect)]
    omega

@[simp] theorem total_nil (c : Counter) : total c [] = 0 := rfl

@[simp] theorem total_cons (c : Counter) (effect : Effect) (rest : List Effect) :
    total c (effect :: rest) = growth c effect + total c rest := by
  rw [total, List.foldl_cons, foldl_growth, Nat.zero_add]

@[simp] theorem total_append (c : Counter) (a b : List Effect) :
    total c (a ++ b) = total c a + total c b := by
  rw [total, List.foldl_append, foldl_growth, ← total]

@[simp] theorem total_lines (c : Counter) (lines : List Line) : total c (lines.map .line) = 0 := by
  induction lines with
  | nil => rfl
  | cons line rest ih => simpa [growth] using ih

@[simp] theorem transactionCalls_append (a b : List Effect) :
    transactionCalls (a ++ b) = transactionCalls a ++ transactionCalls b := by
  simp [transactionCalls]

@[simp] theorem transactionCalls_nil : transactionCalls [] = [] := rfl

@[simp] theorem transactionCalls_line (l : Line) (rest : List Effect) :
    transactionCalls (.line l :: rest) = transactionCalls rest := rfl

@[simp] theorem transactionCalls_lines (lines : List Line) :
    transactionCalls (lines.map .line) = [] := by
  induction lines with
  | nil => rfl
  | cons line rest ih => rwa [List.map_cons, transactionCalls_line]

@[simp] theorem transactionCalls_count (c : Counter) (n : Nat) (rest : List Effect) :
    transactionCalls (.count c n :: rest) = transactionCalls rest := rfl

@[simp] theorem transactionCalls_transaction (call : TransactionCall) (rest : List Effect) :
    transactionCalls (.transaction call :: rest) = call :: transactionCalls rest := rfl

@[simp] theorem cursorCalls_append (a b : List Effect) :
    cursorCalls (a ++ b) = cursorCalls a ++ cursorCalls b := by
  simp [cursorCalls]

end Effect

/-- Where lines are logged to. -/
class Sink where
  /-- The least serious lines that are kept. -/
  threshold : Severity

/-- A sink that keeps every line. -/
instance Sink.whole : Sink := ⟨.trace⟩

/-- A value with the effects of finding it. -/
structure Traced (α : Type) where
  value : α
  effects : List Effect
  deriving Repr

namespace Traced

variable {α β : Type}

/-- First one thing, then another that depends on its value. -/
def bind (x : Traced α) (f : α → Traced β) : Traced β :=
  match x with
  | ⟨a, before⟩ =>
    match f a with
    | ⟨b, after⟩ => ⟨b, before ++ after⟩

instance : Monad Traced where
  pure a := ⟨a, []⟩
  bind := bind

/-- One effect and no value. -/
def emit (effect : Effect) : Traced Unit := ⟨(), [effect]⟩

/-- Writes a line, unless the sink does not keep it. -/
def log [Sink] (line : Line) : Traced Unit :=
  if line.passes Sink.threshold then emit (.line line) else ⟨(), []⟩

def count (counter : Counter) : Traced Unit := emit (.count counter 1)

@[simp] theorem value_pure (a : α) : (pure a : Traced α).value = a := rfl
@[simp] theorem effects_pure (a : α) : (pure a : Traced α).effects = [] := rfl
@[simp] theorem value_bind (x : Traced α) (f : α → Traced β) :
    (x >>= f).value = (f x.value).value := rfl
@[simp] theorem effects_bind (x : Traced α) (f : α → Traced β) :
    (x >>= f).effects = x.effects ++ (f x.value).effects := rfl
@[simp] theorem effects_emit (e : Effect) : (emit e).effects = [e] := rfl
@[simp] theorem effects_log (l : Line) : (log l).effects = [.line l] := rfl
@[simp] theorem effects_count (c : Counter) : (count c).effects = [.count c 1] := rfl

@[ext] theorem ext {x y : Traced α} (hv : x.value = y.value) (he : x.effects = y.effects) :
    x = y := by
  cases x
  cases y
  simp_all

@[simp] theorem pure_bind (a : α) (f : α → Traced β) : (pure a >>= f) = f a := by
  ext <;> simp

@[simp] theorem bind_pure (x : Traced α) : (x >>= pure) = x := by
  ext <;> simp

theorem bind_assoc {γ : Type} (x : Traced α) (f : α → Traced β) (g : β → Traced γ) :
    (x >>= f >>= g) = (x >>= fun a => f a >>= g) := by
  ext <;> simp

/-! ### Loops -/

/-- One step of a loop, with the effects of the past in reverse order. -/
def foldlStep (step : β → α → Traced β) : β × List Effect → α → β × List Effect
  | (present, past), element =>
    match step present element with
    | ⟨next, effects⟩ => (next, effects.reverseAux past)

/-- Takes one step for every element, from left to right. -/
def foldl (step : β → α → Traced β) (start : β) (elements : List α) : Traced β :=
  match elements.foldl (foldlStep step) (start, []) with
  | (last, past) => ⟨last, past.reverse⟩

@[simp] theorem foldlStep_eq (step : β → α → Traced β) (b : β) (past : List Effect) (a : α) :
    foldlStep step (b, past) a = ((step b a).value, (step b a).effects.reverse ++ past) := by
  simp [foldlStep, List.reverseAux_eq]

/-- Effects of the past stay behind those of the loop. -/
theorem foldl_foldlStep (step : β → α → Traced β) (elements : List α) :
    ∀ (start : β) (past : List Effect),
      elements.foldl (foldlStep step) (start, past) =
        ((foldl step start elements).value,
          (foldl step start elements).effects.reverse ++ past) := by
  induction elements with
  | nil => intro start past; simp [foldl]
  | cons element rest ih =>
    intro start past
    simp only [foldl, List.foldl_cons, foldlStep_eq, List.append_nil]
    rw [ih, ih]
    simp

@[simp] theorem foldl_nil (step : β → α → Traced β) (start : β) :
    foldl step start [] = pure start := rfl

/-- A loop takes its first step, then goes on with the rest. -/
theorem foldl_cons (step : β → α → Traced β) (start : β) (element : α) (rest : List α) :
    foldl step start (element :: rest) =
      step start element >>= fun next => foldl step next rest := by
  rw [foldl, List.foldl_cons, foldl_foldlStep]
  apply Traced.ext <;> simp

/-- A loop over two lists is a loop over the one, then a loop over the other. -/
theorem foldl_append (step : β → α → Traced β) (start : β) (first rest : List α) :
    foldl step start (first ++ rest) =
      foldl step start first >>= fun next => foldl step next rest := by
  induction first generalizing start with
  | nil => rfl
  | cons element first ih =>
    rw [List.cons_append, foldl_cons, foldl_cons, bind_assoc]
    exact congrArg (step start element >>= ·) (funext ih)

end Traced

end StorageClient
