/-!
# StorageClient.Tree.Error

Why a definition is refused. Every cause has a code, a number other than zero and a message; a
refused definition also knows the level it would have taken. A refusal concerns one query only.
-/

namespace StorageClient

/-- Why a definition or a tree is refused. -/
inductive DefinitionError.Cause
  | tooFewKeyValues (target : String) (expected got : Nat)
  | tooManyKeyValues (target : String) (expected got : Nat)
  /-- The linked operands of a level name more than one other level. -/
  | multipleParents
  | unknownParent (number : Nat)
  | unknownColumn (column table : String)
  /-- No lookup can use an index of this kind. -/
  | wrongIndexType (index kind : String)
  /-- The tree has as many levels as it may have. -/
  | definitionTooLarge (limit : Nat)
  | zeroOperations
  /-- The tree does not have the shape that is required. -/
  | illegalState (reason : String)
  /-- The engine cannot run this kind of operation in this place. -/
  | wrongOperationType (reason : String)
  deriving Repr, DecidableEq

/-- A refused definition, with the level it would have taken if that is known. -/
structure DefinitionError where
  cause : DefinitionError.Cause
  level : Option Nat
  deriving Repr, DecidableEq

namespace DefinitionError

namespace Cause

def code : Cause → String
  | tooFewKeyValues .. => "QRY_TOO_FEW_KEY_VALUES"
  | tooManyKeyValues .. => "QRY_TOO_MANY_KEY_VALUES"
  | multipleParents => "QRY_MULTIPLE_PARENTS"
  | unknownParent _ => "QRY_UNKNOWN_PARENT"
  | unknownColumn .. => "QRY_UNKNOWN_COLUMN"
  | wrongIndexType .. => "QRY_WRONG_INDEX_TYPE"
  | definitionTooLarge _ => "QRY_DEFINITION_TOO_LARGE"
  | zeroOperations => "QRY_HAS_ZERO_OPERATIONS"
  | illegalState _ => "QRY_ILLEGAL_STATE"
  | wrongOperationType _ => "QRY_WRONG_OPERATION_TYPE"

/-- The number of a cause among the engine's error numbers. -/
def number : Cause → Nat
  | tooFewKeyValues .. => 4801
  | tooManyKeyValues .. => 4802
  | multipleParents => 4806
  | unknownParent _ => 4807
  | unknownColumn .. => 4808
  | wrongIndexType .. => 4810
  | definitionTooLarge _ => 4812
  | zeroOperations => 4815
  | illegalState _ => 4817
  | wrongOperationType _ => 4820

def message : Cause → String
  | tooFewKeyValues target expected got => s!"'{target}' needs {expected} key values, got {got}"
  | tooManyKeyValues target expected got => s!"'{target}' takes {expected} key values, got {got}"
  | multipleParents => "Linked operands reference more than one parent operation"
  | unknownParent number => s!"Operation {number} has not been defined"
  | unknownColumn column table => s!"Parent table '{table}' has no column '{column}'"
  | wrongIndexType index kind => s!"Index '{index}' of kind {kind} cannot be used in a query"
  | definitionTooLarge limit => s!"Query trees are limited to {limit} levels"
  | zeroOperations => "No operations defined"
  | illegalState reason => reason
  | wrongOperationType reason => reason

theorem number_ne_zero (cause : Cause) : cause.number ≠ 0 := by
  cases cause <;> simp [number]

end Cause

/-- A refusal that concerns no level in particular. -/
def of (cause : Cause) : DefinitionError := ⟨cause, none⟩

/-- The same refusal, of the definition for `level`. -/
def atLevel (error : DefinitionError) (level : Nat) : DefinitionError := ⟨error.cause, some level⟩

def code (error : DefinitionError) : String := error.cause.code

/-- The number of a refusal, never zero. -/
def number (error : DefinitionError) : Nat := error.cause.number

/-- How serious a refusal is: the query is rejected, and nothing else is affected. -/
def severity (_error : DefinitionError) : String := "REJECT"

def message (error : DefinitionError) : String := error.cause.message

def display (error : DefinitionError) : String :=
  let head := s!"[{error.severity}] {error.code} ({error.number}): {error.message}"
  match error.level with
  | some level => s!"{head} [level {level}]"
  | none => head

@[simp] theorem cause_of (cause : Cause) : (of cause).cause = cause := rfl
@[simp] theorem level_of (cause : Cause) : (of cause).level = none := rfl
@[simp] theorem cause_atLevel (e : DefinitionError) (n : Nat) : (e.atLevel n).cause = e.cause := rfl
@[simp] theorem level_atLevel (e : DefinitionError) (n : Nat) : (e.atLevel n).level = some n := rfl

end DefinitionError

end StorageClient
