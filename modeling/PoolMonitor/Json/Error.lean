import PoolMonitor.Json.Value
import PoolMonitor.Text.Quoted
/-!
# Errors of JSON reading

A reading error is a `Code` with the line and column where it arose; line `0` marks an error
raised without a position (while decoding a value already read). Columns count bytes from the
start of the line, lines count from one.

Codes fall into four categories: a failure of the input stream, malformed text, well-formed
text of the wrong shape for the type decoded, and text that ends too early.

`Unexpected` names what was found where something else was expected; its wording is that of
the messages: `null`, `boolean \`true\``, `integer \`5\``, `floating point \`1.5\``,
`string "x"` (quoted as messages quote text), `sequence`, `map`.
-/

namespace PoolMonitor.Json

open PoolMonitor.Decimal

/-- Why reading stopped. -/
inductive Code where
  /-- A message from decoding: wrong type, missing or repeated field, unknown name. -/
  | message (text : String)
  | eofWhileParsingList
  | eofWhileParsingObject
  | eofWhileParsingString
  | eofWhileParsingValue
  | expectedColon
  | expectedListCommaOrEnd
  | expectedObjectCommaOrEnd
  | expectedSomeIdent
  | expectedSomeValue
  | invalidEscape
  | invalidNumber
  | numberOutOfRange
  | controlCharacterWhileParsingString
  | keyMustBeAString
  | loneLeadingSurrogateInHexEscape
  | trailingComma
  | trailingCharacters
  | unexpectedEndOfHexEscape
  | recursionLimitExceeded
  deriving Repr, BEq, Inhabited

/-- The four kinds of reading failure. -/
inductive Category where
  /-- The input stream failed. -/
  | io
  /-- The text is not JSON. -/
  | malformed
  /-- The text is JSON of the wrong shape. -/
  | data
  /-- The text ends too early. -/
  | eof
  deriving Repr, BEq

/-- The category of a code. -/
def Code.category : Code → Category
  | .message _ => .data
  | .eofWhileParsingList | .eofWhileParsingObject | .eofWhileParsingString
  | .eofWhileParsingValue => .eof
  | _ => .malformed

/-- The text of a code. -/
def Code.text : Code → String
  | .message t => t
  | .eofWhileParsingList => "EOF while parsing a list"
  | .eofWhileParsingObject => "EOF while parsing an object"
  | .eofWhileParsingString => "EOF while parsing a string"
  | .eofWhileParsingValue => "EOF while parsing a value"
  | .expectedColon => "expected `:`"
  | .expectedListCommaOrEnd => "expected `,` or `]`"
  | .expectedObjectCommaOrEnd => "expected `,` or `\x7d`"
  | .expectedSomeIdent => "expected ident"
  | .expectedSomeValue => "expected value"
  | .invalidEscape => "invalid escape"
  | .invalidNumber => "invalid number"
  | .numberOutOfRange => "number out of range"
  | .controlCharacterWhileParsingString =>
    "control character (\\u0000-\\u001F) found while parsing a string"
  | .keyMustBeAString => "key must be a string"
  | .loneLeadingSurrogateInHexEscape => "lone leading surrogate in hex escape"
  | .trailingComma => "trailing comma"
  | .trailingCharacters => "trailing characters"
  | .unexpectedEndOfHexEscape => "unexpected end of hex escape"
  | .recursionLimitExceeded => "recursion limit exceeded"

/-- A reading error: a code, and the line and column where it arose (line 0: none). -/
structure Error where
  code : Code
  line : Nat
  column : Nat
  deriving Repr, Inhabited

/-- The message of an error, with its position when it has one. -/
def Error.message (e : Error) : String :=
  if e.line = 0 then e.code.text
  else e.code.text ++ " at line " ++ toString e.line ++ " column " ++ toString e.column

/-- An error without a position. -/
def Error.bare (code : Code) : Error := ⟨code, 0, 0⟩

/-- What was found where something else was expected. -/
inductive Unexpected where
  | bool (b : Bool)
  | unsigned (n : Nat)
  | signed (n : Int)
  | float (x : Float)
  | str (s : String)
  | unit
  | seq
  | map
  deriving Repr

/-- The words for what was found. -/
def Unexpected.text : Unexpected → String
  | .bool b => "boolean `" ++ (if b then "true" else "false") ++ "`"
  | .unsigned n => "integer `" ++ toString n ++ "`"
  | .signed n => "integer `" ++ intText n ++ "`"
  | .float x => "floating point `" ++ Layout.data.render x ++ "`"
  | .str s => "string " ++ Text.quote s
  | .unit => "null"
  | .seq => "sequence"
  | .map => "map"

/-- What a number is, as something found. -/
def Number.unexpected : Number → Unexpected
  | .unsigned n => .unsigned n
  | .negative n => .signed n
  | .float x => .float x

/-- What a value is, as something found. -/
def Value.unexpected : Value → Unexpected
  | .null => .unit
  | .bool b => .bool b
  | .number n => n.unexpected
  | .string s => .str s
  | .array _ => .seq
  | .object _ => .map

/-- A value of the wrong type. -/
def invalidType (found : Unexpected) (expected : String) : Code :=
  .message ("invalid type: " ++ found.text ++ ", expected " ++ expected)

/-- A value of the right type that is not allowed. -/
def invalidValue (found : Unexpected) (expected : String) : Code :=
  .message ("invalid value: " ++ found.text ++ ", expected " ++ expected)

/-- A sequence of the wrong length. -/
def invalidLength (n : Nat) (expected : String) : Code :=
  .message ("invalid length " ++ toString n ++ ", expected " ++ expected)

/-- A required field that is absent. -/
def missingField (name : String) : Code := .message ("missing field `" ++ name ++ "`")

/-- A field given twice. -/
def duplicateField (name : String) : Code := .message ("duplicate field `" ++ name ++ "`")

/-- Names written as a list of alternatives: `a`, `a` or `b`, or one of `a`, `b`, `c`. -/
def oneOf (names : List String) : String :=
  let tick (n : String) := "`" ++ n ++ "`"
  match names with
  | [] => "none"
  | [a] => tick a
  | [a, b] => tick a ++ " or " ++ tick b
  | _ => "one of " ++ ", ".intercalate (names.map tick)

/-- A name that is not one of the allowed names. -/
def unknownVariant (name : String) (allowed : List String) : Code :=
  .message ("unknown variant `" ++ name ++ "`, expected " ++ oneOf allowed)

end PoolMonitor.Json
