/-!
# StorageClient.Telemetry.Severity

How serious a log line is. Severities are ordered from `trace` to `fatal`; a sink keeps the lines
at or above its threshold.
-/

namespace StorageClient

/-- How serious a log line is. -/
inductive Severity
  /-- Detail of single rows. -/
  | trace
  /-- Normal operation. -/
  | info
  /-- Trouble that was recovered from. -/
  | warn
  | error
  /-- The current fetch or batch is void. -/
  | fatal
  deriving Repr, DecidableEq

namespace Severity

/-- The place of a severity in the order, least serious first. -/
def rank : Severity → Nat
  | trace => 0
  | info => 1
  | warn => 2
  | error => 3
  | fatal => 4

instance : LE Severity := ⟨fun a b => a.rank ≤ b.rank⟩

instance : DecidableRel (α := Severity) (· ≤ ·) := fun a b => Nat.decLe a.rank b.rank

def name : Severity → String
  | trace => "TRACE"
  | info => "INFO"
  | warn => "WARN"
  | error => "ERROR"
  | fatal => "FATAL"

def keyword : Severity → String
  | trace => "trace"
  | info => "info"
  | warn => "warn"
  | error => "error"
  | fatal => "fatal"

/-- All severities, least serious first. -/
def all : List Severity := [trace, info, warn, error, fatal]

theorem mem_all (s : Severity) : s ∈ all := by
  cases s <;> decide

theorem le_def {a b : Severity} : a ≤ b ↔ a.rank ≤ b.rank := Iff.rfl

/-- Different severities have different ranks, so the order is antisymmetric. -/
theorem rank_injective {a b : Severity} (h : a.rank = b.rank) : a = b := by
  cases a <;> cases b <;> simp_all [rank]

end Severity

end StorageClient
