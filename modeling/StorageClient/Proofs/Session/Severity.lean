import Mathlib.Data.List.Forall2
import StorageClient.Proofs.Telemetry.Threshold
/-!
# StorageClient.Proofs.Session.Severity

Sessions in a process. A process has a threshold, two streams that lines are written to, and the
counters. It is the sink of every call that is made in it, so a call can read its threshold
(`Traced.runIn`). What the call logs below that is not written; all else it does is carried out, one
effect after the other.

The same calls can be followed in two processes that differ in their thresholds. Since every call is
steady, they are answered the same, and the stricter process writes what the other one writes,
without the lines below its own threshold (`Session.severity_never_feeds_back`).

The lines of a process are compared before they become text: the time that passed is not filled in
yet, and the ids of queries and transactions are those that the calls name.
-/

namespace StorageClient

/-- The lines for a stream. -/
def Effect.linesOn (stream : Stream) (effects : List Effect) : List Line :=
  (lines effects).filter fun line => line.stream == stream

/-! ### Processes -/

/-- What the clients of one process share: where lines are written to, and the counters. -/
structure Process where
  threshold : Severity
  output : List Line
  errors : List Line
  registry : Registry
  deriving Repr, DecidableEq

namespace Process

/-- The lines that were written to a stream. -/
def written (process : Process) : Stream → List Line
  | .output => process.output
  | .error => process.errors

/-- Writes a line to its stream. -/
def write (process : Process) (line : Line) : Process :=
  match line.stream with
  | .output => { process with output := process.output ++ [line] }
  | .error => { process with errors := process.errors ++ [line] }

/-- Adds to a counter, as a word. -/
def count (process : Process) (counter : Counter) (amount : Nat) : Process :=
  { process with registry := process.registry.add counter (.ofNat amount) }

/-- Carries out an effect. Calls on transactions and cursors were answered when they were made. -/
def carryOut (process : Process) : Effect → Process
  | .line line => process.write line
  | .count counter amount => process.count counter amount
  | .transaction _ | .cursor _ => process

/-- Carries out effects, in the order of time. -/
def carryOutAll (process : Process) (effects : List Effect) : Process :=
  effects.foldl carryOut process

theorem carryOutAll_append (process : Process) (a b : List Effect) :
    process.carryOutAll (a ++ b) = (process.carryOutAll a).carryOutAll b :=
  List.foldl_append

@[simp] theorem threshold_carryOut (process : Process) (effect : Effect) :
    (process.carryOut effect).threshold = process.threshold := by
  cases effect with
  | line line =>
    rw [carryOut, write]
    split <;> rfl
  | count | transaction | cursor => rfl

@[simp] theorem threshold_carryOutAll (process : Process) (effects : List Effect) :
    (process.carryOutAll effects).threshold = process.threshold := by
  induction effects generalizing process with
  | nil => rfl
  | cons effect rest ih => exact (ih (process.carryOut effect)).trans (threshold_carryOut ..)

/-! ### What effects amount to -/

theorem written_carryOut (process : Process) (effect : Effect) (stream : Stream) :
    (process.carryOut effect).written stream =
      process.written stream ++ Effect.linesOn stream [effect] := by
  cases effect with
  | line line =>
    rcases line with ⟨_ | _, severity, event, fields⟩ <;> cases stream <;>
      simp [carryOut, write, written, Effect.linesOn, Effect.lines]
  | count | transaction | cursor => cases stream <;> exact (List.append_nil _).symm

theorem get_carryOut (process : Process) (effect : Effect) (counter : Counter) :
    (process.carryOut effect).registry.get counter =
      process.registry.get counter + .ofNat (Effect.growth counter effect) := by
  cases effect with
  | line line =>
    rw [carryOut, write]
    split <;> exact (UInt64.add_zero _).symm
  | count counted amount =>
    by_cases h : counted = counter
    · simp [carryOut, count, Effect.growth, h]
    · simp [carryOut, count, Effect.growth, h, Registry.get_add_of_ne _ h]
  | transaction | cursor => exact (UInt64.add_zero _).symm

/-- A stream gets the lines that are meant for it. -/
theorem written_carryOutAll (process : Process) (effects : List Effect) (stream : Stream) :
    (process.carryOutAll effects).written stream =
      process.written stream ++ Effect.linesOn stream effects := by
  induction effects generalizing process with
  | nil => exact (List.append_nil _).symm
  | cons effect rest ih =>
    calc ((process.carryOut effect).carryOutAll rest).written stream
        = process.written stream ++ Effect.linesOn stream [effect] ++
            Effect.linesOn stream rest := by
          rw [ih, written_carryOut]
      _ = process.written stream ++ Effect.linesOn stream (effect :: rest) := by
          rw [List.append_assoc, Effect.linesOn, Effect.linesOn, ← List.filter_append,
            ← Effect.lines_append, List.singleton_append, Effect.linesOn]

/-- A counter gets its total, modulo `2 ^ 64`. -/
theorem get_carryOutAll (process : Process) (effects : List Effect) (counter : Counter) :
    (process.carryOutAll effects).registry.get counter =
      process.registry.get counter + .ofNat (Effect.total counter effects) := by
  induction effects generalizing process with
  | nil => exact (UInt64.add_zero _).symm
  | cons effect rest ih =>
    calc ((process.carryOut effect).carryOutAll rest).registry.get counter
        = process.registry.get counter + .ofNat (Effect.growth counter effect) +
            .ofNat (Effect.total counter rest) := by
          rw [ih, get_carryOut]
      _ = process.registry.get counter + .ofNat (Effect.total counter (effect :: rest)) := by
          rw [Effect.total_cons, UInt64.ofNat_add, UInt64.add_assoc]

end Process

/-! ### What is left of effects -/

namespace Effect

theorem linesOn_kept (threshold : Severity) (stream : Stream) (effects : List Effect) :
    linesOn stream (effects.filter (isKept threshold)) =
      (linesOn stream effects).filter (Line.passes threshold) := by
  rw [linesOn, linesOn, lines_kept, linesAt, List.filter_comm]

end Effect

theorem Severity.le_trans {a b c : Severity} (hab : a ≤ b) (hbc : b ≤ c) : a ≤ c :=
  Nat.le_trans hab hbc

/-- A stricter threshold keeps those lines of a more lenient one that are severe enough. -/
theorem Line.filter_passes_of_le {lenient strict : Severity} (h : lenient ≤ strict)
    (lines : List Line) :
    lines.filter (passes strict) = (lines.filter (passes lenient)).filter (passes strict) := by
  rw [List.filter_filter]
  refine List.filter_congr fun line _ => ?_
  have hpasses : line.passes strict = true → line.passes lenient = true := fun hstrict =>
    decide_eq_true (Severity.le_trans h (of_decide_eq_true hstrict))
  cases hstrict : line.passes strict with
  | true => rw [hpasses hstrict, Bool.true_and]
  | false => rw [Bool.false_and]

/-- A process after what its threshold leaves of some effects. -/
def Process.follow (process : Process) (effects : List Effect) : Process :=
  process.carryOutAll (effects.filter (Effect.isKept process.threshold))

theorem Process.follow_append (process : Process) (a b : List Effect) :
    process.follow (a ++ b) = (process.follow a).follow b := by
  rw [follow, List.filter_append, carryOutAll_append, follow, follow, threshold_carryOutAll]

/-! ### Operations in a process -/

namespace Traced

variable {α β : Type}

/-- Does something in a process, which is its sink. -/
def runIn (process : Process) (x : Sink → Traced α) : α × Process :=
  match x ⟨process.threshold⟩ with
  | ⟨value, effects⟩ => (value, process.carryOutAll effects)

/-- A line is written if it is severe enough for the process. -/
theorem runIn_log (process : Process) (line : Line) :
    runIn process (fun _ => log line) =
      ((), if line.passes process.threshold then process.write line else process) := by
  split
  case isTrue hpasses =>
    have hlog : @log ⟨process.threshold⟩ line = emit (.line line) := if_pos hpasses
    rw [runIn, hlog]
    rfl
  case isFalse hpasses =>
    have hlog : @log ⟨process.threshold⟩ line = ⟨(), []⟩ := if_neg hpasses
    rw [runIn, hlog]
    rfl

/-- What is done later is done in the process as it was left. So the threshold might as well be read
anew for every step. -/
theorem runIn_bind (process : Process) (x : Sink → Traced α) (f : Sink → α → Traced β) :
    runIn process (fun sink => x sink >>= f sink) =
      runIn (runIn process x).2 fun sink => f sink (runIn process x).1 := by
  simp [runIn, Process.carryOutAll_append]

/-- A process carries out what its threshold leaves of something steady. -/
theorem Steady.runIn {x : Sink → Traced α} (h : Steady x) (process : Process) :
    runIn process x = ((x .whole).value, process.follow (x .whole).effects) := by
  change ((x ⟨process.threshold⟩).value, process.carryOutAll (x ⟨process.threshold⟩).effects) = _
  rw [h.value ⟨process.threshold⟩, h.effects ⟨process.threshold⟩]
  rfl

end Traced

namespace Session

variable {σ : Type}

/-- What there is to see after a call: its answer, all objects, and the process. -/
structure Observation (σ : Type) where
  response : Response
  session : Session σ
  process : Process

section Observe

variable [Memory] [Engine σ]

/-- Makes a call in a process. -/
def observeCall (session : Session σ) (process : Process) (call : Call σ) : Observation σ :=
  match Traced.runIn process fun _ => session.perform call with
  | ((response, session), process) => ⟨response, session, process⟩

/-- Makes calls one after the other, and looks around after each. -/
def observe (session : Session σ) (process : Process) : List (Call σ) → List (Observation σ)
  | [] => []
  | call :: calls =>
    let seen := session.observeCall process call
    seen :: seen.session.observe seen.process calls

/-- What is seen of a call is what comes of it where every line is kept, and a process that carried
out what its threshold leaves of that. -/
theorem observeCall_eq (session : Session σ) (process : Process) (call : Call σ) :
    session.observeCall process call =
      ⟨(session.perform call).value.1, (session.perform call).value.2,
        process.follow (session.perform call).effects⟩ := by
  rw [observeCall, (session.steady_perform call).runIn]

end Observe

/-! ### Two thresholds -/

/-- What is seen of two runs, one in a process that is stricter than the other, agrees: the answers
and the objects are the same, the processes counted the same since they began, and the stricter one
wrote to each stream those lines of the other that are severe enough for it. -/
structure Observation.Agrees (lenient strict : Process) (seen seenStrict : Observation σ) :
    Prop where
  response : seenStrict.response = seen.response
  session : seenStrict.session = seen.session
  counted : ∀ counter,
    seenStrict.process.registry.get counter - strict.registry.get counter =
      seen.process.registry.get counter - lenient.registry.get counter
  written : ∀ stream, ∃ lines,
    seen.process.written stream = lenient.written stream ++ lines ∧
      seenStrict.process.written stream =
        strict.written stream ++ lines.filter (Line.passes strict.threshold)

/-- Two processes that followed the same effects. -/
theorem agrees_of_effects {lenient strict : Process} (h : lenient.threshold ≤ strict.threshold)
    (response : Response) (session : Session σ) (effects : List Effect) :
    Observation.Agrees lenient strict ⟨response, session, lenient.follow effects⟩
      ⟨response, session, strict.follow effects⟩ := by
  refine ⟨rfl, rfl, fun counter => ?_, fun stream => ?_⟩
  · rw [Process.follow, Process.follow, Process.get_carryOutAll, Process.get_carryOutAll,
      Effect.total_kept, Effect.total_kept, UInt64.add_comm, UInt64.add_sub_cancel,
      UInt64.add_comm, UInt64.add_sub_cancel]
  · refine ⟨_, Process.written_carryOutAll lenient _ stream, ?_⟩
    rw [Process.follow, Process.written_carryOutAll, Effect.linesOn_kept, Effect.linesOn_kept,
      Line.filter_passes_of_le h]

section Thresholds

variable [Memory] [Engine σ] {lenient strict : Process}

/-- After some effects, one call is the same for both processes. -/
theorem agrees_observeCall (h : lenient.threshold ≤ strict.threshold) (past : List Effect)
    (session : Session σ) (call : Call σ) :
    Observation.Agrees lenient strict (session.observeCall (lenient.follow past) call)
      (session.observeCall (strict.follow past) call) := by
  rw [observeCall_eq, observeCall_eq, ← Process.follow_append, ← Process.follow_append]
  exact agrees_of_effects h _ _ _

theorem agrees_observe (h : lenient.threshold ≤ strict.threshold) (past : List Effect)
    (session : Session σ) (calls : List (Call σ)) :
    List.Forall₂ (Observation.Agrees lenient strict)
      (session.observe (lenient.follow past) calls)
      (session.observe (strict.follow past) calls) := by
  -- The processes go on from whatever they did before: the effects so far are what they share.
  induction calls generalizing session past with
  | nil => exact .nil
  | cons call calls ih =>
    refine .cons (agrees_observeCall h past session call) ?_
    rw [observeCall_eq, observeCall_eq, ← Process.follow_append, ← Process.follow_append]
    exact ih _ _

/-- **Severity never feeds back.** Clients make the same calls in two processes, one of which is
stricter than the other. Each call can read the threshold of its process. Yet after every single
call both have got the same answer and the same objects, and the same was counted. What the stricter
process has written to each stream is what the other one has written, without the lines that are
less severe than its threshold. -/
theorem severity_never_feeds_back (h : lenient.threshold ≤ strict.threshold) (session : Session σ)
    (calls : List (Call σ)) :
    List.Forall₂ (Observation.Agrees lenient strict) (session.observe lenient calls)
      (session.observe strict calls) :=
  agrees_observe h [] session calls

end Thresholds

/-- An order whose round trip fails. A process that keeps errors only writes nothing to standard
output; what it writes to standard error, the other process writes as well. -/
theorem severity_never_feeds_back_orders :
    let lenient : Process := ⟨.info, [], [], .empty⟩
    let strict : Process := ⟨.error, [], [], .empty⟩
    let failure : Playback.Execution := .returns (.error (.internal "no connection")) none
    let session : Session Playback := ⟨fun _ => none, fun _ => none, fun _ => none, fun _ => none,
      fun _ => .new "tx" (.new ⟨0, [], [], [failure], none, [], [], none, false⟩)⟩
    let calls : List (Call Playback) := [
      .newBatch "orders" [Batch.insertOrder 1],
      .batch "orders" "tx" (.plain .prepare),
      .batch "orders" "tx" (.plain (.execute ⟨.commit, .operationDefault, .deferred⟩))]
    let sizes (seen : Observation Playback) :=
      (seen.process.output.length, seen.process.errors.length)
    lenient.threshold ≤ strict.threshold ∧
      List.Forall₂ (Observation.Agrees lenient strict) (session.observe lenient calls)
        (session.observe strict calls) ∧
      (session.observe lenient calls).map sizes = [(0, 0), (1, 0), (4, 2)] ∧
      (session.observe strict calls).map sizes = [(0, 0), (0, 0), (0, 2)] := by
  intro lenient strict failure session calls sizes
  have hthresholds : lenient.threshold ≤ strict.threshold := by decide
  exact ⟨hthresholds, severity_never_feeds_back hthresholds session calls, by decide +kernel,
    by decide +kernel⟩

end Session

end StorageClient
