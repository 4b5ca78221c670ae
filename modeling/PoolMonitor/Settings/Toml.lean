import PoolMonitor.Settings.Tree
import PoolMonitor.Decimal.Read
/-!
# TOML documents

`readDocument` reads a TOML document into a settings table tagged with the file layer.

* Integers (decimal, or `0x`, `0o`, `0b`) must fit a signed 64-bit integer and read as
  `Scalar.signed`; floats (with `inf` and `nan`) read as `Scalar.float`, correctly rounded.
* Strings come in the four TOML forms: basic and literal, each on one line or on several.
* A date or time reads as a table holding its text under the key `datetimeKey`, which is how
  such a value shows to a reader of settings: as a map.
* `[a.b]` opens a table and `[[a.b]]` adds a table to an array of tables; a key may be
  dotted. A key given twice, or a table opened twice, is refused.

Every reading step is total: the scanners recurse on the text, and the nested value reader
and the line loop spend fuel bounded by the length of the text, since each step reads at
least one character.

A fault is reported the way TOML tools report it: the line and column, the line itself with a
caret under the fault, and what was expected.
-/

namespace PoolMonitor.Settings.Toml

open PoolMonitor.Decimal

/-- The key under which a date or time keeps its text. -/
def datetimeKey : String := "$__toml_private_datetime"

/-- A fault in a document: what went wrong, where (as the number of characters left unread
from that point) and how many characters the offending text spans. -/
structure Fault where
  left : Nat
  width : Nat
  message : String
  deriving Repr

/-- Text still to read. -/
abbrev Chars := List Char

/-- A value read from the front of some text, with the text after it. -/
abbrev Got (α : Type) := Except Fault (α × Chars)

/-- A fault at the front of `rest`. -/
def faultAt (rest : Chars) (message : String) : Except Fault α :=
  .error ⟨rest.length, 1, message⟩

/-! ### Blanks, comments and line ends -/

/-- A blank inside a line. -/
def isSpace (c : Char) : Bool := c == ' ' || c == '\t'

/-- Drop the blanks at the front. -/
def skipSpace : Chars → Chars
  | c :: rest => if isSpace c then skipSpace rest else c :: rest
  | [] => []

/-- Drop a comment at the front, up to (not including) the end of its line. -/
def skipComment : Chars → Chars
  | '#' :: rest => rest.dropWhile (· != '\n')
  | cs => cs

/-- The text after a line end at the front, if there is one. -/
def newline? : Chars → Option Chars
  | '\n' :: rest => some rest
  | '\r' :: '\n' :: rest => some rest
  | _ => none

/-- Drop blanks, line ends and comments; `inComment` says a comment is being skipped. -/
def skipGapsFrom : Bool → Chars → Chars
  | _, [] => []
  | true, c :: rest => if c == '\n' then skipGapsFrom false rest else skipGapsFrom true rest
  | false, c :: rest =>
    if isSpace c || c == '\n' then skipGapsFrom false rest
    else if c == '#' then skipGapsFrom true rest
    else if c == '\r' && rest.head? == some '\n' then skipGapsFrom false rest
    else c :: rest

/-- Drop blanks, line ends and comments. -/
def skipGaps (cs : Chars) : Chars := skipGapsFrom false cs

/-- Whether a character may not stand raw inside a string. -/
def isControl (c : Char) : Bool := c.toNat < 0x20 && c != '\t' || c.toNat == 0x7f

/-! ### Strings -/

/-- The value of a hexadecimal digit. -/
def hexValue? (c : Char) : Option Nat :=
  if c.isDigit then some (c.toNat - 48)
  else if 'a' ≤ c ∧ c ≤ 'f' then some (c.toNat - 87)
  else if 'A' ≤ c ∧ c ≤ 'F' then some (c.toNat - 55)
  else none

/-- The value of hexadecimal digits, if they all are digits. -/
def hexNumber? (cs : List Char) : Option Nat :=
  cs.foldlM (fun acc c => (hexValue? c).map (acc * 16 + ·)) 0

/-- The character of a `\u` or `\U` escape, if its digits name a Unicode scalar value. -/
def escapedChar? (digits : List Char) : Option Char :=
  match hexNumber? digits with
  | some n => if n < 0xD800 ∨ (0xDFFF < n ∧ n < 0x110000) then some (Char.ofNat n) else none
  | none => none

/-- The fault of a bad escape. -/
def badEscape (rest : Chars) : Except Fault α :=
  faultAt rest "invalid escape sequence\nexpected `b`, `f`, `n`, `r`, `t`, `u`, `U`, `\\`, `\"`"

/-- The one-letter escapes. -/
def simpleEscape? : Char → Option Char
  | 'b' => some '\x08'
  | 't' => some '\t'
  | 'n' => some '\n'
  | 'f' => some '\x0c'
  | 'r' => some '\r'
  | '"' => some '"'
  | '\\' => some '\\'
  | _ => none

/-- The body of a one-line basic string after its opening quote; `acc` holds the characters
read so far, last first. -/
def basicBody (acc : List Char) : Chars → Got String
  | [] => faultAt [] "invalid basic string"
  | '"' :: rest => .ok (String.ofList acc.reverse, rest)
  | '\\' :: 'u' :: a :: b :: c :: d :: rest =>
    match escapedChar? [a, b, c, d] with
    | some ch => basicBody (ch :: acc) rest
    | none => badEscape ('u' :: a :: b :: c :: d :: rest)
  | '\\' :: 'U' :: a :: b :: c :: d :: e :: f :: g :: h :: rest =>
    match escapedChar? [a, b, c, d, e, f, g, h] with
    | some ch => basicBody (ch :: acc) rest
    | none => badEscape ('U' :: a :: b :: c :: d :: e :: f :: g :: h :: rest)
  | '\\' :: e :: rest =>
    match simpleEscape? e with
    | some ch => basicBody (ch :: acc) rest
    | none => badEscape (e :: rest)
  | c :: rest =>
    if isControl c then faultAt (c :: rest) "invalid basic string"
    else basicBody (c :: acc) rest

/-- Whether the text after a backslash in a many-line string is blanks up to a line end: the
backslash then trims what follows up to the next character that is not blank. -/
def endsLine (cs : Chars) : Bool := (newline? (skipSpace cs)).isSome

/-- The body of a many-line basic string after its opening quotes. `trimming` is set after a
line-ending backslash, while blanks and line ends are dropped. -/
def multiBasicBody (trimming : Bool) (acc : List Char) : Chars → Got String
  | [] => faultAt [] "invalid multiline basic string"
  | '"' :: '"' :: '"' :: rest =>
    match rest with
    | '"' :: '"' :: rest' => .ok (String.ofList ('"' :: '"' :: acc).reverse, rest')
    | '"' :: rest' => .ok (String.ofList ('"' :: acc).reverse, rest')
    | _ => .ok (String.ofList acc.reverse, rest)
  | '\\' :: 'u' :: a :: b :: c :: d :: rest =>
    match escapedChar? [a, b, c, d] with
    | some ch => multiBasicBody false (ch :: acc) rest
    | none => badEscape ('u' :: a :: b :: c :: d :: rest)
  | '\\' :: 'U' :: a :: b :: c :: d :: e :: f :: g :: h :: rest =>
    match escapedChar? [a, b, c, d, e, f, g, h] with
    | some ch => multiBasicBody false (ch :: acc) rest
    | none => badEscape ('U' :: a :: b :: c :: d :: e :: f :: g :: h :: rest)
  | '\\' :: e :: rest =>
    if endsLine (e :: rest) then multiBasicBody true acc (e :: rest)
    else match simpleEscape? e with
      | some ch => multiBasicBody false (ch :: acc) rest
      | none => badEscape (e :: rest)
  | '\r' :: '\n' :: rest =>
    if trimming then multiBasicBody true acc rest
    else multiBasicBody false ('\n' :: '\r' :: acc) rest
  | c :: rest =>
    if trimming ∧ (isSpace c ∨ c = '\n') then multiBasicBody true acc rest
    else if c ≠ '\n' ∧ isControl c then faultAt (c :: rest) "invalid multiline basic string"
    else multiBasicBody false (c :: acc) rest

/-- The body of a one-line literal string after its opening quote. -/
def literalBody (acc : List Char) : Chars → Got String
  | [] => faultAt [] "invalid literal string"
  | '\'' :: rest => .ok (String.ofList acc.reverse, rest)
  | c :: rest =>
    if isControl c then faultAt (c :: rest) "invalid literal string"
    else literalBody (c :: acc) rest

/-- The body of a many-line literal string after its opening quotes. -/
def multiLiteralBody (acc : List Char) : Chars → Got String
  | [] => faultAt [] "invalid multiline literal string"
  | '\'' :: '\'' :: '\'' :: rest =>
    match rest with
    | '\'' :: '\'' :: rest' => .ok (String.ofList ('\'' :: '\'' :: acc).reverse, rest')
    | '\'' :: rest' => .ok (String.ofList ('\'' :: acc).reverse, rest')
    | _ => .ok (String.ofList acc.reverse, rest)
  | c :: rest =>
    if c = '\r' then
      match rest with
      | '\n' :: rest' => multiLiteralBody ('\n' :: '\r' :: acc) rest'
      | _ => faultAt (c :: rest) "invalid multiline literal string"
    else if c ≠ '\n' ∧ isControl c then faultAt (c :: rest) "invalid multiline literal string"
    else multiLiteralBody (c :: acc) rest

/-- A many-line string drops a line end right after its opening quotes. -/
def dropFirstNewline (cs : Chars) : Chars := (newline? cs).getD cs

/-! ### Keys -/

/-- A character of a bare key. -/
def isBareChar (c : Char) : Bool := c.isAlphanum || c == '_' || c == '-'

/-- One part of a key: bare, or quoted in either one-line form. -/
def simpleKey : Chars → Got String
  | '"' :: rest => basicBody [] rest
  | '\'' :: rest => literalBody [] rest
  | cs =>
    let name := cs.takeWhile isBareChar
    if name.isEmpty then faultAt cs "invalid key"
    else .ok (String.ofList name, cs.drop name.length)

/-- A dotted key: its parts, first part first. -/
def dottedKey : Nat → Chars → Except Fault (List String × Chars)
  | 0, cs => faultAt cs "invalid key"
  | fuel + 1, cs => do
    let (k, rest) ← simpleKey (skipSpace cs)
    match skipSpace rest with
    | '.' :: rest' =>
      let (ks, rest'') ← dottedKey fuel rest'
      pure (k :: ks, rest'')
    | _ => pure ([k], rest)

/-! ### Numbers, booleans and dates -/

/-- A character that may belong to a bare value: a number, a boolean or a date. -/
def isTokenChar (c : Char) : Bool :=
  c.isAlphanum || c == '_' || c == '+' || c == '-' || c == '.' || c == ':'

/-- Digits, with single underscores allowed between two digits. -/
def separatedDigits (isDigit : Char → Bool) (cs : List Char) : Bool :=
  match cs with
  | [] => false
  | c :: rest =>
    isDigit c &&
      (rest.foldl (fun (st : Bool × Bool) d =>
        let (ok, afterUnderscore) := st
        if d == '_' then (ok && !afterUnderscore, true)
        else (ok && isDigit d, false)) (true, false)).1 &&
      cs.getLast? != some '_'

/-- Decimal digits without a superfluous leading zero. -/
def wholeDigits (cs : List Char) : Bool :=
  separatedDigits Char.isDigit cs && (cs.head? != some '0' || cs.length == 1)

/-- The value of digits in a base, underscores skipped. -/
def digitsValue (base : Nat) (cs : List Char) : Nat :=
  cs.foldl (fun acc c => if c == '_' then acc else acc * base + ((hexValue? c).getD 0)) 0

/-- The largest signed 64-bit integer. -/
def maxSigned : Nat := Nat.pow 2 63 - 1

/-- A signed 64-bit integer, if `n` (negated when `negative`) is one. -/
def signedIn (negative : Bool) (n : Nat) : Option Int :=
  if negative then (if n ≤ maxSigned + 1 then some (-(n : Int)) else none)
  else if n ≤ maxSigned then some n else none

/-- Whether a token is a decimal float: a whole part, then a fraction, an exponent or both. -/
def isFloatToken (cs : List Char) : Bool :=
  let body := match cs with
    | '+' :: r | '-' :: r => r
    | r => r
  let whole := body.takeWhile (fun c => c.isDigit || c == '_')
  let rest := body.drop whole.length
  let (frac, rest) : Bool × List Char := match rest with
    | '.' :: r =>
      let ds := r.takeWhile (fun c => c.isDigit || c == '_')
      (separatedDigits Char.isDigit ds, r.drop ds.length)
    | r => (true, r)
  let expOk : Bool := match rest with
    | [] => true
    | e :: r =>
      (e == 'e' || e == 'E') &&
        separatedDigits Char.isDigit (match r with
          | '+' :: r' | '-' :: r' => r'
          | r' => r')
  wholeDigits whole && frac && expOk

/-- Whether a token has the shape of a date or a time. -/
def isDatetimeToken (cs : List Char) : Bool :=
  match cs with
  | a :: b :: c :: d :: '-' :: _ => a.isDigit && b.isDigit && c.isDigit && d.isDigit
  | a :: b :: ':' :: _ => a.isDigit && b.isDigit
  | _ => false

/-- The fault of a bare value that is none of the allowed ones. -/
def badValue (cs : Chars) : Except Fault α :=
  faultAt cs "invalid string\nexpected `\"`, `'`"

/-- The value of a bare token at the front of `cs`. -/
def bareValue (cs : Chars) : Got Tree :=
  let token := cs.takeWhile isTokenChar
  let rest := cs.drop token.length
  -- A date followed by a blank and a time is one value.
  let (token, rest) := match rest with
    | ' ' :: a :: b :: ':' :: _ =>
      if token.length = 10 ∧ isDatetimeToken token ∧ a.isDigit ∧ b.isDigit then
        let more := rest.drop 1 |>.takeWhile isTokenChar
        (token ++ ' ' :: more, rest.drop (1 + more.length))
      else (token, rest)
    | _ => (token, rest)
  let leaf (v : Scalar) : Got Tree := .ok (.leaf .file v, rest)
  match token with
  | [] => badValue cs
  | ['t', 'r', 'u', 'e'] => leaf (.flag true)
  | ['f', 'a', 'l', 's', 'e'] => leaf (.flag false)
  | ['i', 'n', 'f'] | ['+', 'i', 'n', 'f'] => leaf (.float (readFloat? "inf" |>.getD 0))
  | ['-', 'i', 'n', 'f'] => leaf (.float (readFloat? "-inf" |>.getD 0))
  | ['n', 'a', 'n'] | ['+', 'n', 'a', 'n'] | ['-', 'n', 'a', 'n'] =>
    leaf (.float (readFloat? "nan" |>.getD 0))
  | '0' :: 'x' :: ds | '0' :: 'o' :: ds | '0' :: 'b' :: ds =>
    let (base, ok) : Nat × (Char → Bool) := match token with
      | _ :: 'x' :: _ => (16, fun c => (hexValue? c).isSome)
      | _ :: 'o' :: _ => (8, fun c => '0' ≤ c ∧ c ≤ '7')
      | _ => (2, fun c => c == '0' || c == '1')
    if separatedDigits ok ds then
      match signedIn false (digitsValue base ds) with
      | some n => leaf (.signed n)
      | none => faultAt cs "invalid integer\nnumber too large to fit in target type"
    else badValue cs
  | _ =>
    if isDatetimeToken token then
      .ok (.table .file [(datetimeKey, .leaf .file (.text (String.ofList token)))], rest)
    else if token.any (fun c => c == '.' || c == 'e' || c == 'E') then
      if isFloatToken token then
        match readFloat? (String.ofList (token.filter (· != '_'))) with
        | some x => leaf (.float x)
        | none => badValue cs
      else badValue cs
    else
      let (negative, digits) : Bool × List Char := match token with
        | '-' :: r => (true, r)
        | '+' :: r => (false, r)
        | r => (false, r)
      if wholeDigits digits then
        match signedIn negative (digitsValue 10 digits) with
        | some n => leaf (.signed n)
        | none => faultAt cs "invalid integer\nnumber too large to fit in target type"
      else badValue cs

/-! ### Values -/

/-- The name of a table for a fault: the document root or a dotted path. -/
def tableName (path : List String) : String :=
  if path.isEmpty then "document root" else "table `" ++ ".".intercalate path ++ "`"

/-- Put `v` at a dotted key below the entries of an inline table. -/
def putPath (v : Tree) :
    List String → List (String × Tree) → Except String (List (String × Tree))
  | [], es => .ok es
  | [k], es =>
    if (Dict.mk es).contains k then .error k else .ok (Dict.insertEntry k v es)
  | k :: rest, es =>
    match (Dict.mk es).get? k with
    | none => do
      let inner ← putPath v rest []
      pure (Dict.insertEntry k (.table .file inner) es)
    | some (.table l inner) => do
      let inner ← putPath v rest inner
      pure (Dict.insertEntry k (.table l inner) es)
    | some _ => .error k

mutual
/-- A value at the front of `cs`. -/
def value : Nat → Chars → Got Tree
  | 0, cs => faultAt cs "invalid value"
  | fuel + 1, cs =>
    match cs with
    | '"' :: '"' :: '"' :: rest =>
      (multiBasicBody false [] (dropFirstNewline rest)).map fun (s, r) => (.leaf .file (.text s), r)
    | '"' :: rest => (basicBody [] rest).map fun (s, r) => (.leaf .file (.text s), r)
    | '\'' :: '\'' :: '\'' :: rest =>
      (multiLiteralBody [] (dropFirstNewline rest)).map fun (s, r) => (.leaf .file (.text s), r)
    | '\'' :: rest => (literalBody [] rest).map fun (s, r) => (.leaf .file (.text s), r)
    | '[' :: rest => (arrayItems fuel [] rest).map fun (items, r) => (.list .file items, r)
    | '{' :: rest =>
      match skipSpace rest with
      | '}' :: r => .ok (.table .file [], r)
      | _ => (inlineEntries fuel [] rest).map fun (es, r) => (.table .file es, r)
    | _ => bareValue cs

/-- The items of an array after its opening bracket; `acc` holds those read, last first. -/
def arrayItems : Nat → List Tree → Chars → Except Fault (List Tree × Chars)
  | 0, _, cs => faultAt cs "invalid array"
  | fuel + 1, acc, cs =>
    match skipGaps cs with
    | ']' :: rest => .ok (acc.reverse, rest)
    | cs' => do
      let (v, rest) ← value fuel cs'
      match skipGaps rest with
      | ',' :: rest' => arrayItems fuel (v :: acc) rest'
      | ']' :: rest' => pure ((v :: acc).reverse, rest')
      | r => faultAt r "invalid array\nexpected `]`"

/-- The entries of an inline table after its opening brace. -/
def inlineEntries : Nat → List (String × Tree) → Chars →
    Except Fault (List (String × Tree) × Chars)
  | 0, _, cs => faultAt cs "invalid inline table"
  | fuel + 1, es, cs => do
    let start := skipSpace cs
    let (key, rest) ← dottedKey (cs.length + 1) start
    match skipSpace rest with
    | '=' :: rest' =>
      let (v, rest'') ← value fuel (skipSpace rest')
      match putPath v key es with
      | .error k => .error ⟨start.length, 1, "duplicate key `" ++ k ++ "`"⟩
      | .ok es =>
        match skipSpace rest'' with
        | ',' :: r => inlineEntries fuel es r
        | '}' :: r => pure (es, r)
        | r => faultAt r "invalid inline table\nexpected `\x7d`"
    | r => faultAt r "expected `.`, `=`"
end

/-! ### The document -/

/-- A node of a document being read: a value, a table (opened by a header or implicitly, or
made by a dotted key), or an array of tables. -/
inductive Node where
  | value (t : Tree)
  | table (header : Bool) (dotted : Bool) (entries : List (String × Node))
  | tables (items : List (List (String × Node)))

mutual
/-- The settings tree of a node. -/
def Node.toTree : Node → Tree
  | .value t => t
  | .table _ _ es => .table .file (entriesToTrees es)
  | .tables items => .list .file (tablesToTrees items)

/-- `Node.toTree` over entries. -/
def entriesToTrees : List (String × Node) → List (String × Tree)
  | [] => []
  | (k, n) :: rest => (k, n.toTree) :: entriesToTrees rest

/-- `Node.toTree` over the tables of an array of tables. -/
def tablesToTrees : List (List (String × Node)) → List Tree
  | [] => []
  | es :: rest => .table .file (entriesToTrees es) :: tablesToTrees rest
end

/-- Entries of a document node. -/
abbrev Entries := List (String × Node)

/-- Change the entries of the table at `path` below `es` with `f`, opening tables that are
missing. A path goes into the last table of an array of tables; with `dotted` set (for the
parts of a dotted key) it may not enter a table opened by a header. The error is the key at
which the path is blocked. -/
def atTable (dotted : Bool) (f : Entries → Except String Entries) :
    List String → Entries → Except String Entries
  | [], es => f es
  | k :: rest, es =>
    match (Dict.mk es).get? k with
    | none => do
      let inner ← atTable dotted f rest []
      pure (Dict.insertEntry k (.table false dotted inner) es)
    | some (.table header d inner) =>
      if dotted ∧ header then .error k
      else do
        let inner ← atTable dotted f rest inner
        pure (Dict.insertEntry k (.table header d inner) es)
    | some (.tables items) =>
      match items.getLast?, dotted with
      | some last, false => do
        let last ← atTable dotted f rest last
        pure (Dict.insertEntry k (.tables (items.dropLast ++ [last])) es)
      | _, _ => .error k
    | some (.value _) => .error k

/-- A document being read: its entries and the path of the table that keys go to. -/
structure Doc where
  entries : Entries
  current : List String

/-- The fault of a blocked or repeated key. -/
def duplicate (start : Chars) (width : Nat) (key : String) (path : List String) : Fault :=
  ⟨start.length, width, "duplicate key `" ++ key ++ "` in " ++ tableName path⟩

/-- Read `key = value` at the front of `cs` into the current table. -/
def keyValue (doc : Doc) (cs : Chars) : Except Fault (Doc × Chars) := do
  let (key, rest) ← dottedKey (cs.length + 1) cs
  match skipSpace rest with
  | '=' :: rest' =>
    let body := skipSpace rest'
    let (v, after) ← value (2 * body.length + 2) body
    let width := cs.length - rest.length
    let parents := key.dropLast
    let last := key.getLastD ""
    let put : Entries → Except String Entries := fun es =>
      if (Dict.mk es).contains last then .error last
      else .ok (Dict.insertEntry last (.value v) es)
    match atTable false (atTable true put parents) doc.current doc.entries with
    | .ok es => pure ({ doc with entries := es }, after)
    | .error k => .error (duplicate cs width k (doc.current ++ parents))
  | r => faultAt r "expected `.`, `=`"

/-- Read a table header (after its opening bracket): open the table and make it current. -/
def tableHeader (doc : Doc) (cs : Chars) : Except Fault (Doc × Chars) := do
  let (key, rest) ← dottedKey (cs.length + 1) cs
  match skipSpace rest with
  | ']' :: rest' =>
    let last := key.getLastD ""
    let width := cs.length - rest.length
    let opening : Entries → Except String Entries := fun es =>
      match (Dict.mk es).get? last with
      | none => .ok (Dict.insertEntry last (.table true false []) es)
      | some (.table false false inner) => .ok (Dict.insertEntry last (.table true false inner) es)
      | some _ => .error last
    match atTable false opening key.dropLast doc.entries with
    | .ok es => pure ({ entries := es, current := key }, rest')
    | .error k => .error (duplicate cs width k key.dropLast)
  | r => faultAt r "invalid table header\nexpected `.`, `]`"

/-- Read an array-of-tables header (after its two opening brackets): add a table to the array
and make it current. -/
def arrayHeader (doc : Doc) (cs : Chars) : Except Fault (Doc × Chars) := do
  let (key, rest) ← dottedKey (cs.length + 1) cs
  match skipSpace rest with
  | ']' :: ']' :: rest' =>
    let last := key.getLastD ""
    let width := cs.length - rest.length
    let add : Entries → Except String Entries := fun es =>
      match (Dict.mk es).get? last with
      | none => .ok (Dict.insertEntry last (.tables [[]]) es)
      | some (.tables items) => .ok (Dict.insertEntry last (.tables (items ++ [[]])) es)
      | some _ => .error last
    match atTable false add key.dropLast doc.entries with
    | .ok es => pure ({ entries := es, current := key }, rest')
    | .error k => .error (duplicate cs width k key.dropLast)
  | r => faultAt r "invalid table header\nexpected `.`, `]]`"

/-- After an expression: blanks, a comment, then a line end or the end of the text. -/
def finishLine (cs : Chars) : Except Fault Chars :=
  let cs := skipComment (skipSpace cs)
  match cs with
  | [] => .ok []
  | _ =>
    match newline? cs with
    | some rest => .ok rest
    | none => faultAt cs "expected newline, `#`"

/-- Read the lines of a document. -/
def lines : Nat → Doc → Chars → Except Fault Doc
  | 0, doc, _ => .ok doc
  | fuel + 1, doc, cs =>
    let cs := skipSpace cs
    match cs with
    | [] => .ok doc
    | c :: rest =>
      match newline? cs with
      | some rest' => lines fuel doc rest'
      | none =>
        if c = '#' then do
          let rest' ← finishLine cs
          lines fuel doc rest'
        else do
          let (doc, after) ← match rest with
            | '[' :: rest' => arrayHeader doc (skipSpace rest')
            | _ => if c = '[' then tableHeader doc (skipSpace rest) else keyValue doc cs
          let rest' ← finishLine after
          lines fuel doc rest'

/-- The line and column (both from 1) of the point `left` characters before the end of
`text`, with the text of that line. -/
def locate (text : String) (left : Nat) : Nat × Nat × String :=
  let cs := text.toList
  let before := cs.take (cs.length - left)
  let line := before.count '\n'
  let column := (before.reverse.takeWhile (· != '\n')).length
  let content := ((text.splitOn "\n").getD line "")
  (line + 1, column + 1, content)

/-- The report of a fault in `text`: where it is, the line with a caret under it, and what
went wrong. -/
def Fault.render (f : Fault) (text : String) : String :=
  let (line, column, content) := locate text f.left
  let gutter := (toString line).length
  let pad := String.ofList (List.replicate (gutter + 1) ' ')
  let room := content.length - (column - 1)
  let carets := max 1 (min f.width room)
  "TOML parse error at line " ++ toString line ++ ", column " ++ toString column ++ "\n" ++
    pad ++ "|\n" ++
    toString line ++ " | " ++ content ++ "\n" ++
    pad ++ "|" ++ String.ofList (List.replicate column ' ') ++
      String.ofList (List.replicate carets '^') ++ "\n" ++
    f.message ++ "\n"

/-- Read a TOML document into a table of settings, or report its first fault. -/
def readDocument (text : String) : Except String Tree :=
  let cs := text.toList
  match lines (cs.length + 1) ⟨[], []⟩ cs with
  | .ok doc => .ok (.table .file (entriesToTrees doc.entries))
  | .error f => .error (f.render text)

end PoolMonitor.Settings.Toml
