import PoolMonitor.Decimal.Layout
/-!
# JSON values

A `Value` is a JSON document as a tree. Numbers keep the class a reader gives them: a whole
number that fits 64 unsigned bits, a negative whole number that fits 64 signed bits, or a
finite double for everything else. The class decides how a number is written back:
whole numbers with all their digits, doubles in `Layout.data` (`200.0`, `1e16`).

Objects are lists of members. A reader keeps them sorted by key with one member per key
(`Value.insertMember`); values built for output keep the order they are given.
-/

namespace PoolMonitor.Json

open PoolMonitor.Decimal

/-- A JSON number, classified as a reader classifies it. -/
inductive Number where
  /-- A whole number in `[0, 2^64)`. -/
  | unsigned (n : Nat)
  /-- A whole number in `[-2^63, 0)`. -/
  | negative (n : Int)
  /-- A finite double. -/
  | float (x : Float)
  deriving Inhabited, Repr

/-- The text of a number: whole numbers with all digits, doubles in `Layout.data`. -/
def Number.render : Number → String
  | .unsigned n => toString n
  | .negative n => intText n
  | .float x => Layout.data.render x

/-- The number as a double. -/
def Number.toFloat : Number → Float
  | .unsigned n => n.toUInt64.toFloat
  | .negative n => -((n.natAbs).toUInt64.toFloat)
  | .float x => x

/-- A JSON document. -/
inductive Value where
  | null
  | bool (b : Bool)
  | number (n : Number)
  | string (s : String)
  | array (items : List Value)
  | object (members : List (String × Value))
  deriving Inhabited, Repr

namespace Value

/-- Put a member into a key-sorted member list; an existing member of that key is replaced. -/
def insertMember (k : String) (v : Value) : List (String × Value) → List (String × Value)
  | [] => [(k, v)]
  | (k', v') :: rest =>
    if k < k' then (k, v) :: (k', v') :: rest
    else if k = k' then (k, v) :: rest
    else (k', v') :: insertMember k v rest

/-- The member `k` of an object; `none` for a missing member and for other values. -/
def get? (v : Value) (k : String) : Option Value :=
  match v with
  | .object ms => (ms.find? (fun m => m.1 == k)).map (·.2)
  | _ => none

/-- The member `k` of an object, where a `null` member counts as missing. -/
def field? (v : Value) (k : String) : Option Value :=
  match v.get? k with
  | some .null => none
  | other => other

/-- The text of a string value. -/
def asString? : Value → Option String
  | .string s => some s
  | _ => none

/-- The truth value of a boolean. -/
def asBool? : Value → Option Bool
  | .bool b => some b
  | _ => none

/-- The items of an array. -/
def asArray? : Value → Option (List Value)
  | .array items => some items
  | _ => none

/-- The members of an object. -/
def asObject? : Value → Option (List (String × Value))
  | .object ms => some ms
  | _ => none

/-- A whole number that is not negative. -/
def asNat? : Value → Option Nat
  | .number (.unsigned n) => some n
  | _ => none

/-- A whole number. -/
def asInt? : Value → Option Int
  | .number (.unsigned n) => some n
  | .number (.negative n) => some n
  | _ => none

/-- A number as a double. -/
def asFloat? : Value → Option Float
  | .number n => some n.toFloat
  | _ => none

end Value

end PoolMonitor.Json
