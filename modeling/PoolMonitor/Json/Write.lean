import PoolMonitor.Json.Value
/-!
# Writing JSON

`Value.render` writes a value compactly: no blank between tokens, members in the order held.
In strings, the double quote and the backslash are escaped, control characters are written
as `\b`, `\t`, `\n`, `\f`, `\r` or `\u00xx` with lower-case hex digits, and every other
character stands as itself.
-/

namespace PoolMonitor.Json

/-- The two lower-case hex digits of a byte. -/
def hexByte (n : Nat) : String :=
  let digit (d : Nat) : Char := if d < 10 then Char.ofNat (48 + d) else Char.ofNat (87 + d)
  String.ofList [digit (n / 16 % 16), digit (n % 16)]

/-- How one character is written inside a JSON string. -/
def escapeChar (c : Char) : String :=
  match c with
  | '"' => "\\\""
  | '\\' => "\\\\"
  | '\x08' => "\\b"
  | '\t' => "\\t"
  | '\n' => "\\n"
  | '\x0c' => "\\f"
  | '\r' => "\\r"
  | _ => if c.toNat < 0x20 then "\\u00" ++ hexByte c.toNat else c.toString

/-- A JSON string literal for `s`. -/
def quoteString (s : String) : String :=
  "\"" ++ String.join (s.toList.map escapeChar) ++ "\""

mutual

/-- The compact text of a value. -/
def Value.render : Value → String
  | .null => "null"
  | .bool b => if b then "true" else "false"
  | .number n => n.render
  | .string s => quoteString s
  | .array items => "[" ++ renderItems items ++ "]"
  | .object members => "\x7b" ++ renderMembers members ++ "\x7d"

/-- The items of an array, separated by commas. -/
def renderItems : List Value → String
  | [] => ""
  | [v] => v.render
  | v :: rest => v.render ++ "," ++ renderItems rest

/-- The members of an object, separated by commas. -/
def renderMembers : List (String × Value) → String
  | [] => ""
  | [(k, v)] => quoteString k ++ ":" ++ v.render
  | (k, v) :: rest => quoteString k ++ ":" ++ v.render ++ "," ++ renderMembers rest

end

end PoolMonitor.Json
