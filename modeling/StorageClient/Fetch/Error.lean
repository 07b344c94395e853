import StorageClient.Transaction.Error
/-!
# StorageClient.Fetch.Error

Why a fetch or a call on an executor fails. An error keeps the engine's error that caused it, if
there is one.
-/

namespace StorageClient

/-- Why a fetch or a call on an executor fails. -/
inductive FetchError
  | createFailed (cause : EngineError)
  /-- The cursor failed, perhaps with an error that says why. -/
  | cursorFailed (cause : Option EngineError)
  | roundTripFailed (cause : EngineError)
  /-- There is no memory for something. -/
  | allocationFailed (purpose : String) (size : Nat)
  | illegalState (reason : String)
  | levelOutOfRange (level levels : Nat)
  deriving Repr, DecidableEq

namespace FetchError

def code : FetchError → String
  | createFailed _ => "QRY_CREATE_FAILED"
  | cursorFailed _ => "QRY_CURSOR_FAILED"
  | roundTripFailed _ => "QRY_ROUND_TRIP_FAILED"
  | allocationFailed .. => "QRY_ALLOCATION_FAILED"
  | illegalState _ => "QRY_ILLEGAL_STATE"
  | levelOutOfRange .. => "QRY_LEVEL_OUT_OF_RANGE"

/-- Whether what was fetched so far is void. -/
def isFatal : FetchError → Bool
  | allocationFailed .. => true
  | _ => false

/-- How serious an error is. -/
def severity (error : FetchError) : String := if error.isFatal then "FATAL" else "ERROR"

def message : FetchError → String
  | createFailed cause => s!"Could not create query: {cause.message}"
  | cursorFailed (some cause) => s!"Cursor failed: {cause.message}"
  | cursorFailed none => "Cursor failed without an error object"
  | roundTripFailed cause => s!"Execute failed: {cause.message}"
  | allocationFailed purpose size => s!"Could not allocate {size} bytes for {purpose}"
  | illegalState reason => reason
  | levelOutOfRange level levels => s!"Level {level} out of range; query has {levels} levels"

/-- The engine's error behind an error. -/
def engine? : FetchError → Option EngineError
  | createFailed cause | roundTripFailed cause => some cause
  | cursorFailed cause => cause
  | allocationFailed .. | illegalState _ | levelOutOfRange .. => none

def display (error : FetchError) : String :=
  s!"[{error.severity}] {error.code}: {error.message}"

end FetchError

end StorageClient
