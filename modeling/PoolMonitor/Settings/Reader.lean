import PoolMonitor.Settings.Tree
import PoolMonitor.Decimal.Layout
import PoolMonitor.Text.Quoted
/-!
# Reading typed settings from a tree

A reader turns a settings tree into a value of some type, or says what it found instead of
what it expected. The error remembers the dotted key of the offending value and the layer
that value came from.

* A whole number of `bits` bits accepts a signed or unsigned number in its range; out of range
  is an invalid value, any other kind of value an invalid type.
* A float accepts any number.
* Text accepts text and a single character.
* A record accepts a table, whose known keys it reads in key order (unknown keys are skipped,
  missing ones keep their defaults), or a list, whose items fill its fields in order.

What a reader found is described as a reader of settings sees it: a single character shows as
text, and an unset optional value as an option.
-/

namespace PoolMonitor.Settings

open PoolMonitor.Decimal PoolMonitor.Binary64 PoolMonitor.Text

/-- What a reader found. -/
inductive Found where
  | flag (b : Bool)
  | unsigned (n : Nat)
  | signed (n : Int)
  | float (x : Float)
  | text (s : String)
  | unit
  | option
  | sequence
  | map

/-- How a found value is described in a message. -/
def Found.describe : Found → String
  | .flag b => "bool " ++ (if b then "true" else "false")
  | .unsigned n => "unsigned int `" ++ toString n ++ "`"
  | .signed n => "signed int `" ++ intText n ++ "`"
  | .float x => "float `" ++ Layout.plain.render x ++ "`"
  | .text s => "string " ++ quote s
  | .unit => "unit"
  | .option => "option"
  | .sequence => "sequence"
  | .map => "map"

/-- What a tree shows to a reader. -/
def Tree.found : Tree → Found
  | .leaf _ (.text s) => .text s
  | .leaf _ (.letter c) => .text c.toString
  | .leaf _ (.flag b) => .flag b
  | .leaf _ (.unsigned n) => .unsigned n
  | .leaf _ (.signed n) => .signed n
  | .leaf _ (.float x) => .float x
  | .leaf _ .absent => .option
  | .list _ _ => .sequence
  | .table _ _ => .map

/-- The names of the alternatives in a message: one name, two joined by "or", or a list. -/
def oneOf (names : List String) : String :=
  let tick (s : String) := "`" ++ s ++ "`"
  match names with
  | [a] => tick a
  | [a, b] => tick a ++ " or " ++ tick b
  | _ => "one of " ++ ", ".intercalate (names.map tick)

/-- Why a value could not be read. -/
inductive Problem where
  | wrongType (found : Found) (expected : String)
  | wrongValue (found : Found) (expected : String)
  | unknownVariant (name : String) (expected : List String)

/-- The message of a problem. -/
def Problem.describe : Problem → String
  | .wrongType f e => "invalid type: found " ++ f.describe ++ ", expected " ++ e
  | .wrongValue f e => "invalid value " ++ f.describe ++ ", expected " ++ e
  | .unknownVariant n es => "unknown variant: found `" ++ n ++ "`, expected `" ++ oneOf es ++ "`"

/-- A setting that could not be read: the problem, the key path of the value and its layer. -/
structure SettingError where
  problem : Problem
  path : List String
  layer : Layer

/-- A reading of settings. -/
abbrev Read (α : Type) := Except SettingError α

/-- Fail on tree `t` with `p`. -/
def refuse (t : Tree) (p : Problem) : Read α := .error ⟨p, [], t.layer⟩

/-- Put key `k` in front of the path of an error from below it. -/
def under (k : String) (r : Read α) : Read α :=
  r.mapError fun e => { e with path := k :: e.path }

/-- Read a flag. -/
def readFlag (t : Tree) : Read Bool :=
  match t with
  | .leaf _ (.flag b) => .ok b
  | _ => refuse t (.wrongType t.found "a boolean")

/-- Read text; a single character is text too. -/
def readText (t : Tree) : Read String :=
  match t with
  | .leaf _ (.text s) => .ok s
  | .leaf _ (.letter c) => .ok c.toString
  | _ => refuse t (.wrongType t.found "a string")

/-- Read an unsigned whole number of `bits` bits, named `name` in messages. -/
def readWhole (name : String) (bits : Nat) (t : Tree) : Read Nat :=
  match t with
  | .leaf _ (.unsigned n) => if n < Nat.pow 2 bits then .ok n else refuse t (.wrongValue (.unsigned n) name)
  | .leaf _ (.signed n) =>
    if 0 ≤ n ∧ n.toNat < Nat.pow 2 bits then .ok n.toNat else refuse t (.wrongValue (.signed n) name)
  | _ => refuse t (.wrongType t.found name)

/-- Read a double: whole numbers convert to the nearest double. -/
def readFloat (t : Tree) : Read Float :=
  match t with
  | .leaf _ (.unsigned n) => .ok (ofRatio false n 1)
  | .leaf _ (.signed n) => .ok (ofRatio (n < 0) n.natAbs 1)
  | .leaf _ (.float x) => .ok x
  | _ => refuse t (.wrongType t.found "f64")

/-- Read an optional value: unset, or present and read by `read`. -/
def readOptional (read : Tree → Read α) (t : Tree) : Read (Option α) :=
  match t with
  | .leaf _ .absent => .ok none
  | _ => some <$> read t

/-- One field of a record: its key and how a value for it updates the record. -/
structure FieldReader (σ : Type) where
  key : String
  update : Tree → σ → Read σ

/-- Read the entries of a table into a record, in key order; unknown keys are skipped. -/
def readEntries (fields : List (FieldReader σ)) : σ → List (String × Tree) → Read σ
  | r, [] => .ok r
  | r, (k, t) :: rest =>
    match fields.find? (·.key == k) with
    | some f => do
      let r ← under k (f.update t r)
      readEntries fields r rest
    | none => readEntries fields r rest

/-- Read list items into a record, field by field in declaration order; fields past the end
of the list keep their values. -/
def readItems : List (FieldReader σ) → σ → List Tree → Read σ
  | f :: fs, r, t :: ts => do
    let r ← f.update t r
    readItems fs r ts
  | _, r, _ => .ok r

/-- Read a record named `name` with the given fields, starting from `defaults`. -/
def readRecord (name : String) (fields : List (FieldReader σ)) (defaults : σ) (t : Tree) : Read σ :=
  match t with
  | .table _ es => readEntries fields defaults es
  | .list _ items => readItems fields defaults items
  | _ => refuse t (.wrongType t.found ("struct " ++ name))

/-- The key of an error as a reader of the given layer writes it: file keys are prefixed with
the profile `default`, environment keys are in upper case. -/
def keyText (layer : Layer) (path : List String) : String :=
  match layer with
  | .environment => ".".intercalate (path.map String.toUpper)
  | _ => ".".intercalate ("default" :: path)

/-- The message of a setting error, given how each layer names its source. -/
def SettingError.describe (e : SettingError) (source : Layer → String) : String :=
  e.problem.describe ++
    (if e.path.isEmpty then "" else " for key " ++ quote (keyText e.layer e.path)) ++
    " in " ++ source e.layer

end PoolMonitor.Settings
