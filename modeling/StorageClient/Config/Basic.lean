import StorageClient.Fetch.Store
import StorageClient.Transaction.RoundTrip
/-!
# StorageClient.Config.Basic

The settings of a client, and what may be wrong with them. A new executor takes from them the room
of its result store and the options of its round trips; a sink takes its threshold.
-/

namespace StorageClient

/-- The settings of a client. -/
structure Config where
  initialCapacity : Nat
  abort : AbortOption
  send : SendPolicy
  /-- The least serious lines that are logged. -/
  logLevel : Severity
  deriving Repr, DecidableEq

/-- Why settings cannot be used. -/
inductive ConfigError
  | unreadable (path reason : String)
  /-- The document is not one of settings. -/
  | malformed
  | invalid (member reason : String)
  deriving Repr, DecidableEq

namespace ConfigError

def code : ConfigError → Nat
  | unreadable .. => 4900
  | malformed => 4901
  | invalid .. => 4902

def message : ConfigError → String
  | unreadable path reason => s!"failed to read config {path}: {reason}"
  | malformed => "invalid config JSON"
  | invalid member reason => s!"invalid config value for {member}: {reason}"

end ConfigError

namespace Config

/-- The settings of a client that was told nothing. -/
def default : Config := ⟨ResultStore.defaultCapacity, .operationDefault, .deferred, .info⟩

/-- A result store needs room for something. -/
def validate (config : Config) : Except ConfigError Unit :=
  if config.initialCapacity = 0 then .error (.invalid "initial_result_capacity" "must be > 0")
  else .ok ()

end Config

end StorageClient
