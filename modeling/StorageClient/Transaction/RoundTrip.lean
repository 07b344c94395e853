/-!
# StorageClient.Transaction.RoundTrip

The options of a round trip: what becomes of the transaction afterwards, whether one failing
operation aborts all, and whether the request is sent at once.
-/

namespace StorageClient

/-- What becomes of the transaction. -/
inductive ExecType
  /-- It stays open. -/
  | noCommit
  | commit
  | rollback
  deriving Repr, DecidableEq

namespace ExecType

def name : ExecType → String
  | noCommit => "NO_COMMIT"
  | commit => "COMMIT"
  | rollback => "ROLLBACK"

def keyword : ExecType → String
  | noCommit => "no_commit"
  | commit => "commit"
  | rollback => "rollback"

/-- Whether the transaction is over after the round trip. -/
def closes : ExecType → Bool
  | noCommit => false
  | commit | rollback => true

def all : List ExecType := [noCommit, commit, rollback]

end ExecType

/-- Whether one failing operation aborts the round trip. -/
inductive AbortOption
  /-- As each operation says. -/
  | operationDefault
  /-- The first failure aborts the transaction. -/
  | abortOnError
  | ignoreError
  deriving Repr, DecidableEq

namespace AbortOption

def name : AbortOption → String
  | operationDefault => "DEFAULT"
  | abortOnError => "ABORT_ON_ERROR"
  | ignoreError => "IGNORE_ERROR"

def keyword : AbortOption → String
  | operationDefault => "default"
  | abortOnError => "abort_on_error"
  | ignoreError => "ignore_error"

def all : List AbortOption := [operationDefault, abortOnError, ignoreError]

end AbortOption

/-- Whether the request is sent at once. -/
inductive SendPolicy
  /-- It may wait for other traffic. -/
  | deferred
  /-- It is sent at once. -/
  | force
  deriving Repr, DecidableEq

namespace SendPolicy

def name : SendPolicy → String
  | deferred => "DEFERRED"
  | force => "FORCE"

def keyword : SendPolicy → String
  | deferred => "deferred"
  | force => "force"

def all : List SendPolicy := [deferred, force]

end SendPolicy

/-- The options of one round trip. -/
structure RoundTrip where
  exec : ExecType
  abort : AbortOption
  send : SendPolicy
  deriving Repr, DecidableEq

namespace RoundTrip

def names (options : RoundTrip) : List String :=
  [options.exec.name, options.abort.name, options.send.name]

def keywords (options : RoundTrip) : List String :=
  [options.exec.keyword, options.abort.keyword, options.send.keyword]

end RoundTrip

end StorageClient
