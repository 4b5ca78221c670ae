import PoolMonitor.Text.Printable
/-!
# Quoted text for messages

`quote s` writes `s` between double quotes the way diagnostic messages show text: NUL, tab,
carriage return, line feed, backslash and the double quote get a backslash escape; grapheme
extenders and characters that are not printable are written as `\u` followed by their code
point in lower-case hexadecimal between braces; every other character stands as itself.
-/

namespace PoolMonitor.Text

/-- The lower-case hexadecimal digits of `n`, without leading zeros. -/
def hexDigits (n : Nat) : String := String.ofList (Nat.toDigits 16 n)

/-- How one character is written inside quotes. -/
def escapeChar (c : Char) : String :=
  match c with
  | '\x00' => "\\0"
  | '\t' => "\\t"
  | '\r' => "\\r"
  | '\n' => "\\n"
  | '\\' => "\\\\"
  | '"' => "\\\""
  | _ =>
    if isGraphemeExtend c || !isPrintable c then "\\u\x7b" ++ hexDigits c.toNat ++ "\x7d"
    else c.toString

/-- `s` between double quotes, with the escapes above. -/
def quote (s : String) : String :=
  "\"" ++ String.join (s.toList.map escapeChar) ++ "\""

end PoolMonitor.Text
