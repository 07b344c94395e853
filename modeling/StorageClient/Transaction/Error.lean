/-!
# StorageClient.Transaction.Error

Errors as the engine reports them: a code, a class and a message. Code 0 means that there is no
error.
-/

namespace StorageClient

/-- The classes the engine sorts its errors into. -/
inductive ErrorClass
  /-- The request itself is wrong. -/
  | application
  | noDataFound
  /-- A unique or foreign key does not hold. -/
  | constraintViolation
  /-- A table, an index or a column does not fit. -/
  | schema
  /-- Resources are short for now. -/
  | temporaryResource
  | timeout
  | internal
  /-- Nobody knows whether the request went through. -/
  | unknown
  deriving Repr, DecidableEq

namespace ErrorClass

def name : ErrorClass → String
  | application => "Application"
  | noDataFound => "NoDataFound"
  | constraintViolation => "ConstraintViolation"
  | schema => "Schema"
  | temporaryResource => "TemporaryResource"
  | timeout => "Timeout"
  | internal => "Internal"
  | unknown => "Unknown"

def label : ErrorClass → String
  | application => "application error"
  | noDataFound => "no data found"
  | constraintViolation => "constraint violation"
  | schema => "schema error"
  | temporaryResource => "temporary resource error"
  | timeout => "timeout expired"
  | internal => "internal error"
  | unknown => "unknown result"

def all : List ErrorClass :=
  [application, noDataFound, constraintViolation, schema, temporaryResource, timeout, internal,
    unknown]

theorem mem_all (c : ErrorClass) : c ∈ all := by
  cases c <;> decide

end ErrorClass

/-- An error of a transaction, an operation or a cursor. -/
structure EngineError where
  code : Int
  errorClass : ErrorClass
  message : String
  deriving Repr, DecidableEq

namespace EngineError

/-- The row does not exist. -/
def noDataFound : EngineError := ⟨626, .noDataFound, "Tuple did not exist"⟩

/-- A row with this key exists already. -/
def duplicateKey : EngineError :=
  ⟨630, .constraintViolation, "Tuple already existed when attempting to insert"⟩

/-- A failure on this side of the engine's interface. -/
def internal (message : String) : EngineError := ⟨4000, .internal, message⟩

/-- What every use of a transaction reports once a call on it has panicked. -/
def lockPoisoned : EngineError := internal "transaction lock poisoned"

/-- Whether the code says that there is no error. -/
def isOk (error : EngineError) : Bool := error.code == 0

/-- Whether it may help to try again. -/
def isTemporary (error : EngineError) : Bool :=
  match error.errorClass with
  | .temporaryResource | .timeout => true
  | _ => false

def display (error : EngineError) : String :=
  s!"engine error {error.code} ({error.errorClass.label}): {error.message}"

@[simp] theorem isOk_lockPoisoned : lockPoisoned.isOk = false := rfl

end EngineError

end StorageClient
