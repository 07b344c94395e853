import StorageClient.Telemetry.Severity
import StorageClient.Text.JsonString
/-!
# StorageClient.Telemetry.Line

Structured log lines. A line is one JSON object: the event first, its severity second, then the
fields sorted by key, fields of one key in the order they were given. All members are strings.

A line does not say when it was logged, but a field may ask for the time that passed since its
scope was opened (`FieldValue.elapsed`); only the outer layer, which has a clock, can fill it in.
-/

namespace StorageClient

/-- Where a line goes. -/
inductive Stream
  | output
  | error
  deriving Repr, DecidableEq

/-- The value of a field of a log line. -/
inductive FieldValue
  | text (value : String)
  /-- The microseconds since the scope of the line was opened. -/
  | elapsed
  deriving Repr, DecidableEq

namespace FieldValue

instance : Coe String FieldValue := ⟨FieldValue.text⟩

/-- The text of a value, where `clock` reads the elapsed time. -/
def resolve (clock : String) : FieldValue → String
  | text value => value
  | elapsed => clock

end FieldValue

/-- A named value of a log line. -/
abbrev Field := String × FieldValue

/-- A log line, before any sink has decided whether to keep it. -/
structure Line where
  stream : Stream
  severity : Severity
  event : String
  fields : List Field
  deriving Repr, DecidableEq

namespace Line

open Text.JsonString (quote)

/-- A line on standard output. -/
def output (severity : Severity) (event : String) (fields : List Field) : Line :=
  ⟨.output, severity, event, fields⟩

def error (severity : Severity) (event : String) (fields : List Field) : Line :=
  ⟨.error, severity, event, fields⟩

/-- Fields by key, in the order of code points; fields of one key keep their order. -/
def sortFields (fields : List (String × String)) : List (String × String) :=
  fields.mergeSort fun a b => decide (a.1 ≤ b.1)

/-- One member of the object. -/
def member (key value : String) : List Char :=
  quote key ++ ':' :: quote value

/-- The object of a line: event, severity, then the sorted fields. -/
def encode (severity : Severity) (event : String) (fields : List (String × String)) : String :=
  String.ofList <|
    '\x7b' :: (member "event" event ++ ',' :: member "severity" severity.name ++
      ((sortFields fields).flatMap fun field => ',' :: member field.1 field.2) ++ ['\x7d'])

/-- The text that goes to a stream for a line, in one write: its object and a line feed. -/
def written (severity : Severity) (event : String) (fields : List (String × String)) : String :=
  (encode severity event fields).push '\n'

/-- The fields of a line as texts. -/
def texts (clock : String) (line : Line) : List (String × String) :=
  line.fields.map fun field => (field.1, field.2.resolve clock)

/-- A line as it is written, where `clock` reads the elapsed time. -/
def render (clock : String) (line : Line) : String :=
  encode line.severity line.event (line.texts clock)

/-- A sink with a threshold keeps the lines at or above it. -/
def passes (threshold : Severity) (line : Line) : Bool :=
  decide (threshold ≤ line.severity)

end Line

end StorageClient
