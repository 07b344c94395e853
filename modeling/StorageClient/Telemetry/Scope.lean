import StorageClient.Telemetry.Line
/-!
# StorageClient.Telemetry.Scope

Brackets around a unit of work. A scope writes one line when it is opened and one when it is
closed. It is closed as completed, as failed, or, when the work was given up half way, as dropped;
only a line about a dropped scope leaves out the fields that identify the work.

Whoever works in a scope holds it (`OpenScope`). To close a scope uses it up; a scope that is still
held when its holder goes away is dropped. A flag tells the one from the other, since a scope that
was closed goes away as well.
-/

namespace StorageClient

/-- A unit of work with the fields that identify it. -/
structure Scope where
  name : String
  fields : List Field
  deriving Repr, DecidableEq

/-- How a unit of work ended. -/
inductive Scope.Closing
  /-- It was done; `extra` is what there is to say about the result. -/
  | completed (extra : List Field)
  | failed (reason : String)
  /-- It failed and what it did so far is void. -/
  | failedFatally (reason : String)
  /-- It was left without a word. -/
  | dropped
  deriving Repr, DecidableEq

namespace Scope

/-- The line written when the scope is opened. -/
def opening (scope : Scope) : Line :=
  .output .info (scope.name ++ "_BEGIN") scope.fields

/-- The line written when the scope is closed. -/
def closing (scope : Scope) : Closing → Line
  | .completed extra =>
    .output .info (scope.name ++ "_COMPLETE") (scope.fields ++ extra ++ [("elapsed_us", .elapsed)])
  | .failed reason =>
    .error .error (scope.name ++ "_FAILED") (scope.fields ++ [("reason", .text reason)])
  | .failedFatally reason =>
    .error .fatal (scope.name ++ "_FAILED") (scope.fields ++ [("reason", .text reason)])
  | .dropped =>
    .output .warn (scope.name ++ "_INCOMPLETE")
      [("reason", .text "scope dropped without completion")]

end Scope

/-- A scope that was opened. -/
structure OpenScope where
  scope : Scope
  /-- Whether it was closed since. -/
  completed : Bool
  deriving Repr, DecidableEq

end StorageClient
