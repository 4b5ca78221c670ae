import PoolMonitor.Wire.Object
import PoolMonitor.Json.Write
/-!
# Requests

A `Request` asks the controller for parameters of objects: a message id, a command, a
condition, and per object the keys wanted (`ObjectQuery`). Its JSON text has the fields in the
order `messageID`, `command`, `condition`, `objectList`, each query as `{"objnam", "keys"}`.

`ObjectQuery.ofValue` reads a query from a JSON value already read; both fields are required,
the members are looked at in key order, and a missing name is reported before missing keys.
-/

namespace PoolMonitor.Wire

open PoolMonitor.Json

/-- An object and the parameter keys asked of it. -/
structure ObjectQuery where
  objnam : String
  keys : List String
  deriving Inhabited, Repr, BEq

/-- A request to the controller. -/
structure Request where
  messageId : String
  command : String
  condition : String
  objects : List ObjectQuery
  deriving Inhabited, Repr

/-- The JSON value of a query. -/
def ObjectQuery.toValue (q : ObjectQuery) : Value :=
  .object [("objnam", .string q.objnam), ("keys", .array (q.keys.map .string))]

/-- The JSON value of a request, fields in wire order. -/
def Request.toValue (r : Request) : Value :=
  .object [("messageID", .string r.messageId), ("command", .string r.command),
    ("condition", .string r.condition), ("objectList", .array (r.objects.map ObjectQuery.toValue))]

/-- The JSON text of a request. -/
def Request.toJson (r : Request) : String := r.toValue.render

/-- The keys of a decoded query. -/
def keysOfValue (v : Value) : Except Error (List String) :=
  match v with
  | .array items => items.mapM textOfValue
  | other => .error (.bare (invalidType other.unexpected "a sequence"))

/-- A query from a JSON value already read; errors carry no position. -/
def ObjectQuery.ofValue (v : Value) : Except Error ObjectQuery :=
  match v with
  | .object ms => do
    let mut objnam : Option String := none
    let mut keys : Option (List String) := none
    for (k, x) in ms do
      if k == "objnam" then objnam := some (← textOfValue x)
      else if k == "keys" then keys := some (← keysOfValue x)
    match objnam, keys with
    | some n, some ks => pure ⟨n, ks⟩
    | none, _ => throw (.bare (missingField "objnam"))
    | _, none => throw (.bare (missingField "keys"))
  | .array items =>
    match items with
    | [n, ks] => do pure ⟨← textOfValue n, ← keysOfValue ks⟩
    | [n] => do
      let _ ← textOfValue n
      throw (.bare (invalidLength 1 "struct ObjectQuery with 2 elements"))
    | [] => throw (.bare (invalidLength 0 "struct ObjectQuery with 2 elements"))
    | _ => throw (.bare (invalidLength items.length "fewer elements in array"))
  | other => throw (.bare (invalidType other.unexpected "struct ObjectQuery"))

end PoolMonitor.Wire
