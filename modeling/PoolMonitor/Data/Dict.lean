/-!
# Dictionaries with text keys

A `Dict` is a finite map from `String` keys, kept as a list of entries in strictly increasing
key order. Text keys compare by code point, which is also the order of their UTF-8 bytes, so
walking a dictionary visits keys in the order that a byte-ordered tree map would.

Writing a key that is present replaces its value (`insert`); `insertNew` keeps the first value.
-/

namespace PoolMonitor

/-- A finite map from text keys, its entries in strictly increasing key order. -/
structure Dict (β : Type) where
  /-- The entries, by increasing key. -/
  toList : List (String × β)
  deriving Inhabited, Repr, BEq

namespace Dict

variable {β γ : Type}

/-- The dictionary with no entries. -/
def empty : Dict β := ⟨[]⟩

/-- Put `(k, v)` into an ordered entry list, replacing the value of an entry with key `k`. -/
def insertEntry (k : String) (v : β) : List (String × β) → List (String × β)
  | [] => [(k, v)]
  | (k', v') :: rest =>
    if k < k' then (k, v) :: (k', v') :: rest
    else if k = k' then (k, v) :: rest
    else (k', v') :: insertEntry k v rest

/-- The value stored under `k`, if any. -/
def get? (d : Dict β) (k : String) : Option β :=
  (d.toList.find? (fun e => e.1 == k)).map (·.2)

/-- Whether `k` has an entry. -/
def contains (d : Dict β) (k : String) : Bool :=
  d.toList.any (fun e => e.1 == k)

/-- Store `v` under `k`; a later write to a key wins. -/
def insert (d : Dict β) (k : String) (v : β) : Dict β :=
  ⟨insertEntry k v d.toList⟩

/-- Store `v` under `k` only when `k` has no entry yet; the first write to a key wins. -/
def insertNew (d : Dict β) (k : String) (v : β) : Dict β :=
  if d.contains k then d else d.insert k v

/-- Drop the entry of `k`. -/
def erase (d : Dict β) (k : String) : Dict β :=
  ⟨d.toList.filter (fun e => e.1 != k)⟩

/-- The dictionary of a list of entries, where a later entry for a key wins. -/
def ofList (entries : List (String × β)) : Dict β :=
  entries.foldl (fun d e => d.insert e.1 e.2) empty

/-- The keys, in increasing order. -/
def keys (d : Dict β) : List String := d.toList.map (·.1)

/-- The number of entries. -/
def size (d : Dict β) : Nat := d.toList.length

/-- Whether there is no entry. -/
def isEmpty (d : Dict β) : Bool := d.toList.isEmpty

/-- Apply `f` to every value. -/
def map (f : β → γ) (d : Dict β) : Dict γ := ⟨d.toList.map (fun e => (e.1, f e.2))⟩

/-- Keep the entries whose value passes `p`, transformed by `f`. -/
def filterMap (f : β → Option γ) (d : Dict β) : Dict γ :=
  ⟨d.toList.filterMap (fun e => (f e.2).map (fun w => (e.1, w)))⟩

/-- Write every entry of `other` over `d`; the entries of `other` win. -/
def overlay (d other : Dict β) : Dict β :=
  other.toList.foldl (fun acc e => acc.insert e.1 e.2) d

@[simp] theorem toList_empty : (empty : Dict β).toList = [] := rfl

@[simp] theorem insertEntry_nil (k : String) (v : β) : insertEntry k v [] = [(k, v)] := rfl

end Dict

end PoolMonitor
