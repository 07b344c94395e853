import StorageClient.Transaction.Error
import StorageClient.Transaction.Operation
import StorageClient.Transaction.RoundTrip
/-!
# StorageClient.Batch.Entry

The entries of a batch, what came of each, and the report on all of them.
-/

namespace StorageClient

/-- What is known of the failure of an entry. -/
inductive Slot
  | clear
  /-- The operation itself failed. -/
  | operation (error : EngineError)
  /-- The operation has no error of its own, but the transaction failed. -/
  | transaction
  deriving Repr, DecidableEq

/-- Whether the operation itself failed. -/
def Slot.isOperation : Slot → Bool
  | operation _ => true
  | _ => false

/-- One operation of a batch. -/
structure Entry where
  operation : KeyOperation
  /-- The name the engine gave to the operation. -/
  id : Option Nat
  slot : Slot
  deriving Repr, DecidableEq

/-- An entry of which nothing is known yet. -/
def Entry.new (operation : KeyOperation) : Entry := ⟨operation, none, .clear⟩

/-- What came of an entry. -/
inductive Outcome
  | success
  | operation (error : EngineError)
  | transaction (error : EngineError)
  deriving Repr, DecidableEq

namespace Outcome

def name : Outcome → String
  | success => "Success"
  | operation _ => "Operation"
  | transaction _ => "Transaction"

def isSuccess : Outcome → Bool
  | success => true
  | _ => false

/-- The error of an entry. -/
def error? : Outcome → Option EngineError
  | success => none
  | operation error | transaction error => some error

/-- An entry succeeded exactly if it has no error. -/
theorem isSuccess_iff (outcome : Outcome) : outcome.isSuccess = true ↔ outcome.error? = none := by
  cases outcome <;> simp [isSuccess, error?]

end Outcome

/-- What came of a round trip: one outcome for every entry. -/
structure Report where
  exec : ExecType
  outcomes : List Outcome
  transactionError : Option EngineError
  deriving Repr, DecidableEq

namespace Report

def failures (report : Report) : Nat := (report.outcomes.filter fun o => !o.isSuccess).length

def isSuccess (report : Report) : Bool := report.failures == 0

end Report

end StorageClient
