import PoolMonitor.Settings.Tree
import PoolMonitor.Settings.Toml
import PoolMonitor.Text.Blank
/-!
# Settings from environment variables

An environment variable whose name starts with a given prefix (in any case) sets one setting.
The rest of the name, with the separator `__` standing for a dot, is the dotted key, in lower
case; a key with an empty part is dropped, and so are the keys listed as ignored (compared in
any case). The variables are laid over each other in the order given, a later one winning.

The value is read by a small grammar, and kept as plain text when the grammar does not cover
all of it:

```
value ::= blank* (true | false | table | array | string | letter | bare) blank*
table ::= "{" (entry ("," entry)* ","?)? "}"      entry ::= blank* key blank* "=" value
array ::= "[" (value ("," value)* ","?)? "]"
```

A bare value runs up to the next `,`, `{`, `}`, `[` or `]` and is trimmed. It reads as a
float when it has a point and parses as one, else as an unsigned whole number, else as a
signed one, else as text.
-/

namespace PoolMonitor.Settings

open PoolMonitor.Text PoolMonitor.Decimal

namespace EnvValue

/-- Text still to read. -/
abbrev Chars := List Char

/-- A blank for the value grammar: an ASCII blank. -/
def isBlank (c : Char) : Bool := isAsciiBlank c

/-- Drop the blanks at the front. -/
def skipBlank : Chars → Chars
  | c :: rest => if isBlank c then skipBlank rest else c :: rest
  | [] => []

/-- A character that ends a bare value. -/
def isSeparator (c : Char) : Bool :=
  c == ',' || c == '{' || c == '}' || c == '[' || c == ']'

/-- A character of a bare key. -/
def isKeyChar (c : Char) : Bool := (c.isAlphanum) || c == '_' || c == '-'

/-- The body of a quoted string after its opening quote, up to the closing quote (a backslash
keeps the next character from closing it): the raw body and the rest. -/
def stringBody (escaped : Bool) (acc : List Char) : Chars → Option (List Char × Chars)
  | [] => none
  | c :: rest =>
    if escaped then stringBody false (c :: acc) rest
    else if c = '\\' then stringBody true (c :: acc) rest
    else if c = '"' then some (acc.reverse, rest)
    else stringBody false (c :: acc) rest

/-- Resolve the escapes of a quoted string body; `none` on a bad escape. -/
def unescape (acc : List Char) : Chars → Option String
  | [] => some (String.ofList acc.reverse)
  | '\\' :: 'u' :: a :: b :: c :: d :: rest =>
    (Toml.escapedChar? [a, b, c, d]).bind fun ch => unescape (ch :: acc) rest
  | '\\' :: 'U' :: a :: b :: c :: d :: e :: f :: g :: h :: rest =>
    (Toml.escapedChar? [a, b, c, d, e, f, g, h]).bind fun ch => unescape (ch :: acc) rest
  | '\\' :: e :: rest => (Toml.simpleEscape? e).bind fun ch => unescape (ch :: acc) rest
  | '\\' :: [] => none
  | c :: rest => unescape (c :: acc) rest

/-- A quoted string at the front (after its opening quote). -/
def quoted (cs : Chars) : Option (String × Chars) := do
  let (body, rest) ← stringBody false [] cs
  let s ← unescape [] body
  pure (s, rest)

/-- An unsigned whole number as the environment reads one: an optional `+`, then decimal
digits, below `2^64`. -/
def unsigned? (cs : List Char) : Option Nat :=
  let digits := match cs with
    | '+' :: r => r
    | r => r
  if digits.isEmpty ∨ !digits.all Char.isDigit then none
  else
    let n : Nat := digits.foldl (fun acc c => acc * 10 + (c.toNat - 48)) 0
    if n < Nat.pow 2 64 then some n else none

/-- A signed whole number: an optional sign, then decimal digits, within 64 bits. -/
def signed? (cs : List Char) : Option Int :=
  let (negative, digits) : Bool × List Char := match cs with
    | '-' :: r => (true, r)
    | '+' :: r => (false, r)
    | r => (false, r)
  if digits.isEmpty ∨ !digits.all Char.isDigit then none
  else
    let n : Nat := digits.foldl (fun acc c => acc * 10 + (c.toNat - 48)) 0
    if negative then (if n ≤ Nat.pow 2 63 then some (-(n : Int)) else none)
    else if n < Nat.pow 2 63 then some n else none

/-- The value of a bare text, already trimmed. -/
def bare (cs : List Char) : Scalar :=
  let s := String.ofList cs
  let asFloat := if cs.contains '.' then readFloat? s else none
  match asFloat with
  | some x => .float x
  | none =>
    match unsigned? cs with
    | some n => .unsigned n
    | none =>
      match signed? cs with
      | some n => .signed n
      | none => .text s

/-- A leaf of the environment layer. -/
def leaf (v : Scalar) : Tree := .leaf .environment v

mutual
/-- A value at the front of `cs`, with the blanks around it. -/
def value : Nat → Chars → Option (Tree × Chars)
  | 0, _ => none
  | fuel + 1, cs => do
    let cs := skipBlank cs
    let (v, rest) ← match cs with
      | 't' :: 'r' :: 'u' :: 'e' :: rest => some (leaf (.flag true), rest)
      | 'f' :: 'a' :: 'l' :: 's' :: 'e' :: rest => some (leaf (.flag false), rest)
      | '{' :: rest =>
        (entries fuel [] rest).map fun (es, r) => (Tree.table .environment es, r)
      | '[' :: rest => (items fuel [] rest).map fun (vs, r) => (Tree.list .environment vs, r)
      | '"' :: rest => (quoted rest).map fun (s, r) => (leaf (.text s), r)
      | '\'' :: c :: '\'' :: rest => some (leaf (.letter c), rest)
      | '\'' :: _ => none
      | _ =>
        let token := cs.takeWhile (fun c => !isSeparator c)
        some (leaf (bare (trimListBy Text.isBlank token)), cs.drop token.length)
    pure (v, skipBlank rest)

/-- The items of an array after its opening bracket; `acc` holds those read, last first. -/
def items : Nat → List Tree → Chars → Option (List Tree × Chars)
  | 0, _, _ => none
  | fuel + 1, acc, cs =>
    match cs with
    | ']' :: rest => some (acc.reverse, rest)
    | _ => do
      let (v, rest) ← value fuel cs
      match rest with
      | ',' :: rest' => items fuel (v :: acc) rest'
      | ']' :: rest' => some ((v :: acc).reverse, rest')
      | _ => none

/-- The entries of a table after its opening brace. -/
def entries : Nat → List (String × Tree) → Chars → Option (List (String × Tree) × Chars)
  | 0, _, _ => none
  | fuel + 1, acc, cs =>
    match cs with
    | '}' :: rest => some (acc, rest)
    | _ => do
      let cs := skipBlank cs
      let (key, rest) ← match cs with
        | '"' :: rest => quoted rest
        | _ =>
          let name := cs.takeWhile isKeyChar
          if name.isEmpty then none else some (String.ofList name, cs.drop name.length)
      match skipBlank rest with
      | '=' :: rest' =>
        let (v, rest'') ← value fuel rest'
        let acc := Dict.insertEntry key v acc
        match rest'' with
        | ',' :: r => entries fuel acc r
        | '}' :: r => some (acc, r)
        | _ => none
      | _ => none
end

end EnvValue

/-- The setting an environment variable's value gives: read by the value grammar when it
covers the whole text, else the text itself. -/
def envValue (s : String) : Tree :=
  let cs := s.toList
  match EnvValue.value (2 * cs.length + 2) cs with
  | some (t, []) => t
  | _ => .leaf .environment (.text s)

/-- ASCII lower case of a key part. -/
def lowerKey (s : String) : String := s.map Char.toLower

/-- The dotted key a variable name gives, if the variable is one of ours: the name starts with
`pre` in any ASCII case, and what follows, with `sep` read as a dot and trimmed, has no empty
part and is not one of `ignored` in any case. -/
def envKey (pre sep : String) (ignored : List String) (name : String) : Option (List String) :=
  let name := Text.trim name
  if name.length < pre.length ∨ lowerKey (name.take pre.length).toString ≠ lowerKey pre then none
  else
    let key := Text.trim ((name.drop pre.length).toString.replace sep ".")
    let parts := key.splitOn "."
    if parts.any String.isEmpty then none
    else if ignored.any (fun i => lowerKey i == lowerKey key) then none
    else some (parts.map lowerKey)

/-- The environment layer: each variable of ours, in the order given, laid over the ones
before it. -/
def environmentLayer (pre sep : String) (ignored : List String)
    (vars : List (String × String)) : Tree :=
  vars.foldl (fun acc (name, v) =>
    match envKey pre sep ignored name with
    | some path => acc.overlay (nested .environment path (envValue v))
    | none => acc) (Tree.emptyTable .environment)

end PoolMonitor.Settings
