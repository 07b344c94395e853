/-!
# StorageClient.Telemetry.Counter

The counters kept about projections, fetches and batches. They only grow, as 64-bit words, and
nothing is ever decided by them.
-/

namespace StorageClient

/-- What is counted. -/
inductive Counter
  /-- Chains whose compilation was begun. -/
  | rootProjectionsCreated
  /-- Root lookups turned into scans. -/
  | rootsTurnedIntoScans
  /-- Definitions and trees that a builder refused. -/
  | definitionsRejected
  | queriesExecuted
  | queriesFailed
  | rowsPushed
  | nullRowsPushed
  /-- Row images not stored because their level held the same image before. -/
  | duplicatesSuppressed
  | headerGrowths
  /-- Batches whose round trip went through to the transaction. -/
  | batchesExecuted
  /-- Entries of executed batches that did not succeed. -/
  | batchEntryFailures
  deriving Repr, DecidableEq

namespace Counter

def name : Counter → String
  | rootProjectionsCreated => "root_projections_created"
  | rootsTurnedIntoScans => "rewritten_to_scan"
  | definitionsRejected => "definitions_rejected"
  | queriesExecuted => "queries_executed"
  | queriesFailed => "queries_failed"
  | rowsPushed => "rows_pushed"
  | nullRowsPushed => "null_rows_pushed"
  | duplicatesSuppressed => "duplicates_suppressed"
  | headerGrowths => "header_growths"
  | batchesExecuted => "batches_executed"
  | batchEntryFailures => "batch_entry_failures"

/-- All counters, in the order they are reported. -/
def all : List Counter :=
  [rootProjectionsCreated, rootsTurnedIntoScans, definitionsRejected, queriesExecuted,
    queriesFailed, rowsPushed, nullRowsPushed, duplicatesSuppressed, headerGrowths,
    batchesExecuted, batchEntryFailures]

theorem mem_all (c : Counter) : c ∈ all := by
  cases c <;> decide

/-- The place of a counter in a registry. -/
def index : Counter → Fin 11
  | rootProjectionsCreated => 0
  | rootsTurnedIntoScans => 1
  | definitionsRejected => 2
  | queriesExecuted => 3
  | queriesFailed => 4
  | rowsPushed => 5
  | nullRowsPushed => 6
  | duplicatesSuppressed => 7
  | headerGrowths => 8
  | batchesExecuted => 9
  | batchEntryFailures => 10

theorem index_injective {a b : Counter} (h : a.index = b.index) : a = b := by
  revert h
  cases a <;> cases b <;> decide

end Counter

/-- The present values of all counters. -/
structure Registry where
  values : Vector UInt64 11
  deriving Repr, DecidableEq

namespace Registry

/-- A registry in which nothing was counted yet. -/
def empty : Registry := ⟨Vector.replicate 11 0⟩

def get (registry : Registry) (counter : Counter) : UInt64 := registry.values[counter.index]

/-- Adds to one counter, modulo `2 ^ 64`. -/
def add (registry : Registry) (counter : Counter) (amount : UInt64) : Registry :=
  ⟨registry.values.set counter.index (registry.get counter + amount)⟩

@[simp] theorem get_empty (c : Counter) : empty.get c = 0 := by
  simp [get, empty]

@[simp] theorem get_add_self (r : Registry) (c : Counter) (n : UInt64) :
    (r.add c n).get c = r.get c + n := by
  simp [get, add]

/-- Counting one thing leaves every other counter alone. -/
theorem get_add_of_ne (r : Registry) {c d : Counter} (h : c ≠ d) (n : UInt64) :
    (r.add c n).get d = r.get d := by
  have hne : c.index ≠ d.index := fun heq => h (Counter.index_injective heq)
  simp [get, add, Fin.val_inj, hne]

end Registry

end StorageClient
