import PoolMonitor.Time.Duration
import PoolMonitor.Json.Error
import PoolMonitor.Text.Quoted
/-!
# What goes wrong on a connection

Three layers can fail:

* the transport: the socket fails, the controller closes it, a read times out, there is no
  session, or a frame cannot be read;
* pairing a response with its request: a response to another request arrives, none arrives in
  time, or the controller refuses the request;
* connecting: every attempt failed.

Each error has the message the monitor reports it with.
-/

namespace PoolMonitor

/-- A failure of the transport carrying the frames. -/
inductive TransportError where
  /-- The socket failed (refused, reset, unreachable). -/
  | io
  /-- The controller ended the session. -/
  | closed
  /-- Nothing arrived within the given time. -/
  | timeout (after : Duration)
  /-- There is no open session. -/
  | notConnected
  /-- A frame that cannot be read as text. -/
  | invalidFrame (detail : String)
  deriving Repr, BEq, Inhabited

namespace TransportError

/-- The name of the kind of failure. -/
def kind : TransportError → String
  | .io => "Io"
  | .closed => "Closed"
  | .timeout _ => "Timeout"
  | .notConnected => "NotConnected"
  | .invalidFrame _ => "InvalidFrame"

/-- The message of a failure. -/
def message : TransportError → String
  | .io => "I/O Error"
  | .closed => "Connection closed by controller"
  | .timeout d => "Read timed out after " ++ d.debugText
  | .notConnected => "Not connected"
  | .invalidFrame s => "Invalid frame: " ++ s

end TransportError

/-- An optional text as diagnostics show it: `None`, or `Some("…")` with the text quoted. -/
def optionText : Option String → String
  | some s => "Some(" ++ Text.quote s ++ ")"
  | none => "None"

/-- A failure to pair a response with its request. -/
inductive CorrelationError where
  /-- The controller answered another request: the exchange is out of step. -/
  | mismatch (expected received : String)
  /-- No answer in time, or too many other frames while waiting. -/
  | timeout (expected : String) (skipped : Nat)
  /-- The controller answered with a code other than success. -/
  | protocol (code : String) (description : Option String)
  deriving Repr

namespace CorrelationError

/-- The name of the kind of failure. -/
def kind : CorrelationError → String
  | .mismatch .. => "Mismatch"
  | .timeout .. => "Timeout"
  | .protocol .. => "Protocol"

/-- The message of a failure. -/
def message : CorrelationError → String
  | .mismatch expected received => "Response for " ++ received ++ " while waiting on " ++ expected
  | .timeout expected skipped =>
    "No response for " ++ expected ++ " (" ++ toString skipped ++ " frames skipped)"
  | .protocol code description => "Controller returned " ++ code ++ ": " ++ optionText description

end CorrelationError

/-- A failed request: its frame could not be sent or read, could not be written, or its answer
did not pair up. -/
inductive RequestError where
  | transport (e : TransportError)
  | wire (e : Json.Error)
  | correlation (e : CorrelationError)

/-- The message of a failed request. -/
def RequestError.message : RequestError → String
  | .transport _ => "Transport Error"
  | .wire _ => "Wire Error"
  | .correlation _ => "Correlation Error"

/-- A failure to connect. -/
inductive ConnectionError where
  | transport (e : TransportError)
  /-- Every attempt failed; `source` is why the last one did. -/
  | exhausted (endpoint : String) (attempts : Nat) (source : TransportError)
  | cancelled

/-- The message of a failure to connect. -/
def ConnectionError.message : ConnectionError → String
  | .transport _ => "Transport Error"
  | .exhausted endpoint attempts _ =>
    "Unable to connect to " ++ endpoint ++ " after " ++ toString attempts ++ " attempts"
  | .cancelled => "Connect cancelled"

end PoolMonitor
