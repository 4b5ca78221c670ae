import PoolMonitor.Data.Dict
/-!
# Layered settings

Settings come from layers: built-in defaults, a TOML file and environment variables. Each
layer gives a tree of values. A later layer is laid over an earlier one: two tables merge key
by key, and any other value replaces what was there. Every node remembers the layer it came
from, so that an error can say where the offending value was written; a merged table keeps the
layer of the table underneath.

Table entries are kept sorted by key with no key twice, so that reading a table visits its
keys in order.
-/

namespace PoolMonitor.Settings

/-- Where a value was written. -/
inductive Layer where
  | defaults
  | file
  | environment
  deriving DecidableEq, Repr

/-- A value that is not a list or a table. -/
inductive Scalar where
  | text (s : String)
  | letter (c : Char)
  | flag (b : Bool)
  /-- A whole number written without a sign, as the environment layer reads it. -/
  | unsigned (n : Nat)
  /-- A whole number that may be negative: every TOML integer, and negative environment
  numbers. -/
  | signed (n : Int)
  | float (x : Float)
  /-- An unset optional value. -/
  | absent
  deriving Repr

/-- A tree of settings, each node tagged with its layer. -/
inductive Tree where
  | leaf (layer : Layer) (value : Scalar)
  | list (layer : Layer) (items : List Tree)
  | table (layer : Layer) (entries : List (String × Tree))
  deriving Repr

namespace Tree

/-- The layer a node came from. -/
def layer : Tree → Layer
  | .leaf l _ | .list l _ | .table l _ => l

/-- An empty table. -/
def emptyTable (l : Layer) : Tree := .table l []

mutual
/-- The same tree with every node tagged with layer `l`. -/
def retag (l : Layer) : Tree → Tree
  | .leaf _ v => .leaf l v
  | .list _ items => .list l (retagItems l items)
  | .table _ entries => .table l (retagEntries l entries)

/-- `retag` over list items. -/
def retagItems (l : Layer) : List Tree → List Tree
  | [] => []
  | t :: rest => retag l t :: retagItems l rest

/-- `retag` over table entries. -/
def retagEntries (l : Layer) : List (String × Tree) → List (String × Tree)
  | [] => []
  | (k, t) :: rest => (k, retag l t) :: retagEntries l rest
end

mutual
/-- `new` laid over `old`: tables merge key by key (keeping the old table's layer), anything
else is replaced. -/
def overlay (old : Tree) : Tree → Tree
  | .table l' newer =>
    match old with
    | .table l older => .table l (overlayEntries older newer)
    | _ => .table l' newer
  | t => t

/-- The entries of `newer` laid one by one over the sorted entries `older`. -/
def overlayEntries (older : List (String × Tree)) : List (String × Tree) → List (String × Tree)
  | [] => older
  | (k, t) :: rest =>
    let merged := match (Dict.mk older).get? k with
      | some o => overlay o t
      | none => t
    overlayEntries (Dict.insertEntry k merged older) rest
end

end Tree

/-- A table holding `value` at the end of `path`, with every table tagged with `l`. -/
def nested (l : Layer) (path : List String) (value : Tree) : Tree :=
  path.foldr (fun k t => .table l [(k, t)]) value

end PoolMonitor.Settings
