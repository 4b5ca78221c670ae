import PoolMonitor.Data.Dict
import PoolMonitor.Json.Deserializer
import PoolMonitor.Wire.Keys
/-!
# Equipment objects

An `ObjectData` is one object of a response or notification: its object name and its
parameters as text. Controllers send parameters as strings; numbers and booleans are taken as
their JSON text, and arrays, objects and `null` are not parameters and are dropped. When a key
repeats, the later value decides (also when the later value is then dropped).

An object is read from JSON text as part of a response (`ObjectData.read`, with the steps of a
`Deserializer`) or from a JSON value already read (`ObjectData.ofValue`); both accept the object
form `{"objnam": …, "params": {…}}` and the positional form `[objnam, params]`, and both require
`objnam`.
-/

namespace PoolMonitor.Wire

open PoolMonitor.Json

/-- One equipment object: its name and its parameters. -/
structure ObjectData where
  /-- The controller's name for the object. -/
  objnam : String
  /-- The parameters, by key. -/
  params : Dict String
  deriving Inhabited, Repr, BEq

namespace ObjectData

/-- The parameter `k`, if present. -/
def get? (o : ObjectData) (k : String) : Option String := o.params.get? k

/-- The display name: `SNAME` when present and not empty, else the object name. -/
def name (o : ObjectData) : String :=
  match o.get? Key.sname with
  | some n => if n.isEmpty then o.objnam else n
  | none => o.objnam

/-- The object type, `OBJTYP`. -/
def objectType (o : ObjectData) : Option String := o.get? Key.objtyp

/-- Lay the parameters of `other` over those of `o`; the name stays. -/
def merge (o other : ObjectData) : ObjectData := { o with params := o.params.overlay other.params }

end ObjectData

/-- The text a JSON value gives as a parameter, if it gives one. -/
def paramText : Value → Option String
  | .string s => some s
  | .number n => some n.render
  | .bool b => some (if b then "true" else "false")
  | _ => none

/-- Parameters from raw members: the last of equal keys wins, then non-parameters drop. -/
def paramsOf (raw : Dict Value) : Dict String := raw.filterMap paramText

section Reading

variable (D : Deserializer)

/-- Read parameter members up to the closing brace. -/
def readParamMembers (first : Bool) (acc : Dict Value) : Nat → Read (Dict String)
  | 0 => failAhead .eofWhileParsingObject
  | fuel + 1 => do
    if ← D.nextKey first then
      let k ← D.readKey
      D.expectColon
      let v ← D.readValue
      readParamMembers false (acc.insert k v) fuel
    else pure (paramsOf acc)

/-- Read the parameters object. -/
def readParams : Read (Dict String) :=
  D.readMapping "a map" (do readParamMembers D true Dict.empty (← budget))

/-- How the object form is named in messages. -/
def objectDataName : String := "struct ObjectData"

/-- Read object members: each field at most once, `objnam` required. -/
def readObjectMembers (first : Bool) (objnam : Option String) (params : Option (Dict String)) :
    Nat → Read ObjectData
  | 0 => failAhead .eofWhileParsingObject
  | fuel + 1 => do
    if ← D.nextKey first then
      let k ← D.readKey
      if k == "objnam" then
        if objnam.isSome then throw (.bare (duplicateField "objnam"))
        D.expectColon
        let v ← D.readText
        readObjectMembers false (some v) params fuel
      else if k == "params" then
        if params.isSome then throw (.bare (duplicateField "params"))
        D.expectColon
        let p ← readParams D
        readObjectMembers false objnam (some p) fuel
      else
        D.expectColon
        D.skipValue
        readObjectMembers false objnam params fuel
    else
      match objnam with
      | some n => pure ⟨n, params.getD Dict.empty⟩
      | none => throw (.bare (missingField "objnam"))

/-- Read the positional form: the name, then optionally the parameters. -/
def readObjectItems : Read ObjectData := do
  if ← D.nextItem true then
    let n ← D.readText
    if ← D.nextItem false then pure ⟨n, ← readParams D⟩ else pure ⟨n, Dict.empty⟩
  else throw (.bare (invalidLength 0 (objectDataName ++ " with 2 elements")))

/-- Read one object from JSON text. -/
def ObjectData.read : Read ObjectData := do
  D.readStructure objectDataName (do readObjectMembers D true none none (← budget))
    (readObjectItems D)

end Reading

/-- A text field of a decoded value. -/
def textOfValue (v : Value) : Except Error String :=
  match v with
  | .string s => .ok s
  | other => .error (.bare (invalidType other.unexpected "a string"))

/-- Parameters of a decoded value. -/
def paramsOfValue (v : Value) : Except Error (Dict String) :=
  match v with
  | .object ms => .ok (paramsOf (Dict.ofList ms))
  | other => .error (.bare (invalidType other.unexpected "a map"))

/-- One object from a JSON value already read; errors carry no position. -/
def ObjectData.ofValue (v : Value) : Except Error ObjectData :=
  match v with
  | .object ms => do
    let mut objnam : Option String := none
    let mut params : Option (Dict String) := none
    for (k, x) in ms do
      if k == "objnam" then objnam := some (← textOfValue x)
      else if k == "params" then params := some (← paramsOfValue x)
    match objnam with
    | some n => pure ⟨n, params.getD Dict.empty⟩
    | none => throw (.bare (missingField "objnam"))
  | .array items =>
    match items with
    | [] => throw (.bare (invalidLength 0 (objectDataName ++ " with 2 elements")))
    | [n] => do pure ⟨← textOfValue n, Dict.empty⟩
    | [n, p] => do pure ⟨← textOfValue n, ← paramsOfValue p⟩
    | _ => throw (.bare (invalidLength items.length "fewer elements in array"))
  | other => throw (.bare (invalidType other.unexpected objectDataName))

end PoolMonitor.Wire
