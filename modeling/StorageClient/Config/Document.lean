import StorageClient.Config.Basic
import StorageClient.Effect
import StorageClient.Telemetry.Event
import StorageClient.Text.Json
/-!
# StorageClient.Config.Document

The document of a client's settings: a JSON object with one member for each setting.

* A setting that is not given has its default. Members of other names are passed over.
* A setting is given at most once. The room of a result store is a natural number below `2 ^ 64`,
  written with digits alone; the others are words. A word may stand as the one key of an object
  with the value null.
* The settings may also stand in an array, in their order; those missing at its end have their
  defaults.

Settings that were read are validated; a document with a setting that makes no sense is read in
full before it is refused.
-/

namespace StorageClient

namespace Config

open Json (ofText)

def capacityMember : String := "initial_result_capacity"

def abortMember : String := "default_abort_option"

def sendMember : String := "default_send_policy"

def levelMember : String := "log_level"

/-! ### Writing -/

/-- The document of some settings. -/
def toJson (config : Config) : Json :=
  .object [
    (some capacityMember, .ofNat config.initialCapacity),
    (some abortMember, ofText config.abort.keyword),
    (some sendMember, ofText config.send.keyword),
    (some levelMember, ofText config.logLevel.keyword)]

/-- The text of the document of some settings. -/
def document (config : Config) : String := config.toJson.render

/-! ### Reading -/

def readCapacity (value : Json) : Option Nat :=
  value.natural?.filter fun n => n < UInt64.size

/-- One of some words, by itself or as the one key of an object. -/
def readWord {α : Type} (all : List α) (keyword : α → String) : Json → Option α
  | .string (some text) | .object [(some text, .null)] => all.find? fun a => keyword a == text
  | _ => none

/-- A setting that is given at most once. -/
def readOnce {α : Type} (default : α) (read : Json → Option α) : List Json → Option α
  | [] => some default
  | [value] => read value
  | _ => none

/-- The settings of the values that are given for each. -/
def ofValues (values : String → List Json) : Option Config := do
  let readAbort := readWord AbortOption.all AbortOption.keyword
  let readSend := readWord SendPolicy.all SendPolicy.keyword
  let readLevel := readWord Severity.all Severity.keyword
  let capacity ← readOnce default.initialCapacity readCapacity (values capacityMember)
  let abort ← readOnce default.abort readAbort (values abortMember)
  let send ← readOnce default.send readSend (values sendMember)
  let logLevel ← readOnce default.logLevel readLevel (values levelMember)
  return ⟨capacity, abort, send, logLevel⟩

/-- The values of the members with a name. -/
def valuesOf (members : List (Option String × Json)) (name : String) : List Json :=
  members.filterMap fun (key, value) => if key = some name then some value else none

def memberNames : List String := [capacityMember, abortMember, sendMember, levelMember]

/-- The settings of a document. -/
def ofJson : Json → Option Config
  | .object members =>
    if members.all fun (key, _) => key.isSome then ofValues (valuesOf members) else none
  | .array elements =>
    if elements.length ≤ memberNames.length then
      ofValues (valuesOf ((memberNames.map some).zip elements))
    else none
  | _ => none

/-- Reads and validates the text of a document. -/
def parse (text : String) : Except ConfigError Config :=
  match (Json.parse text).bind ofJson with
  | none => .error .malformed
  | some config => do
    config.validate
    return config

/-! ### Loading -/

/-- What came of opening a file. -/
inductive FileContents
  /-- The system refused. -/
  | unreadable (reason : String)
  /-- The octets of the file. -/
  | octets (bytes : ByteArray)

/-- The text of a file, which has to be UTF-8. -/
def readText (path : String) : FileContents → Except ConfigError String
  | .unreadable reason => .error (.unreadable path reason)
  | .octets bytes =>
    match String.fromUTF8? bytes with
    | some text => .ok text
    | none => .error (.unreadable path "stream did not contain valid UTF-8")

/-- Reads the settings from the file at `path`. -/
def load [Sink] (path : String) (contents : FileContents) :
    Traced (Except ConfigError Config) :=
  match (readText path contents).bind parse with
  | .error error => return .error error
  | .ok config => do
    Traced.log <| Event.configLoaded.line [
      (capacityMember, .text (toString config.initialCapacity)),
      ("log_level", .text config.logLevel.name),
      ("path", .text path)]
    return .ok config

end Config

/-- The document of the options of a round trip: an array of words. -/
def RoundTrip.document (options : RoundTrip) : String :=
  (Json.array (options.keywords.map Json.ofText)).render

end StorageClient
