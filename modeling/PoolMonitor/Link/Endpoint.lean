import PoolMonitor.Json.Error
/-!
# Endpoints

An endpoint is where the controller listens: host, port and transport. The transport is a
WebSocket or a raw TCP stream. Its URL is always the WebSocket form `ws://host:port`; its text
names the transport (`ws://…` or `tcp://…`).

A transport kind is written `websocket` or `tcp` in data, and `ws` is read as `websocket`.
-/

namespace PoolMonitor

open PoolMonitor.Json

/-- How the controller is reached. -/
inductive TransportKind where
  | websocket
  | tcp
  deriving Repr, BEq, DecidableEq, Inhabited

/-- The name of a kind in data. -/
def TransportKind.name : TransportKind → String
  | .websocket => "websocket"
  | .tcp => "tcp"

/-- The names a kind may be read from, in the order messages list them. -/
def TransportKind.names : List String := ["websocket", "ws", "tcp"]

/-- The kind of a name. -/
def TransportKind.ofName? : String → Option TransportKind
  | "websocket" => some .websocket
  | "ws" => some .websocket
  | "tcp" => some .tcp
  | _ => none

/-- A kind from a JSON value: a name, or an object with a name as its only key and `null`. -/
def TransportKind.ofValue (v : Value) : Except Error TransportKind :=
  let variant (name : String) : Except Error TransportKind :=
    match TransportKind.ofName? name with
    | some k => .ok k
    | none => .error (.bare (unknownVariant name TransportKind.names))
  match v with
  | .string s => variant s
  | .object [(k, x)] => do
    let kind ← variant k
    match x with
    | .null => pure kind
    | other => throw (.bare (invalidType other.unexpected "unit"))
  | .object _ => .error (.bare (invalidValue .map "map with a single key"))
  | other => .error (.bare (invalidType other.unexpected "string or map"))

/-- Where the controller listens. -/
structure Endpoint where
  host : String
  port : Nat
  kind : TransportKind
  deriving Repr, BEq, DecidableEq, Inhabited

namespace Endpoint

/-- The same port and transport at another host. -/
def withHost (e : Endpoint) (host : String) : Endpoint := { e with host }

/-- The WebSocket URL. -/
def url (e : Endpoint) : String := "ws://" ++ e.host ++ ":" ++ toString e.port

/-- The text of an endpoint, naming its transport. -/
def text (e : Endpoint) : String :=
  match e.kind with
  | .websocket => e.url
  | .tcp => "tcp://" ++ e.host ++ ":" ++ toString e.port

end Endpoint

end PoolMonitor
