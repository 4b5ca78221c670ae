import PoolMonitor.Json.Cursor
/-!
# Reading JSON values and shapes

This module builds on the cursor: the separators of arrays and objects, the frames that open
and close them, and readers for the shapes a decoder asks for.

* `nextItem` and `nextKey` decide whether another item or member follows, refusing a comma
  before the closing bracket (`trailing comma`) and a key that is not a string.
* `inArray` and `inObject` run a body between brackets. The closing bracket is looked for even
  when the body failed: the cursor then stands where that search left it, which is where a
  decoder places an error raised without a position.
* `readString?`, `readOptional`, `readStructure`, `readSequence`, `readMapping` are the shapes of
  typed decoding; a value of the wrong kind is read whole and reported as found (`invalid type:
  integer \`5\`, expected a string`), at the cursor after it.
* `readValue` reads any value into a `Value`, objects sorted by key with the last of equal keys
  kept, nesting limited to 127 levels of arrays and objects together.
-/

namespace PoolMonitor.Json

/-- Whether an item follows after a comma; the cursor is after the comma's blanks. -/
def itemFollows : Option UInt8 → Read Bool
  | some b => if b == byte ']' then failAhead .trailingComma else pure true
  | none => failAhead .eofWhileParsingValue

/-- Whether another array item follows; the cursor ends on its first byte. -/
def nextItem (first : Bool) : Read Bool := do
  match ← skipBlank with
  | none => failAhead .eofWhileParsingList
  | some b =>
    if b == byte ']' then pure false
    else if b == byte ',' && !first then do
      bump
      itemFollows (← skipBlank)
    else if first then itemFollows (some b)
    else failAhead .expectedListCommaOrEnd

/-- Whether a key follows after a comma; the cursor is after the comma's blanks. -/
def keyFollows : Option UInt8 → Read Bool
  | some b =>
    if b == byte '"' then pure true
    else if b == byte '}' then failAhead .trailingComma
    else failAhead .keyMustBeAString
  | none => failAhead .eofWhileParsingValue

/-- Whether another object member follows; the cursor ends on its key's quote. -/
def nextKey (first : Bool) : Read Bool := do
  match ← skipBlank with
  | none => failAhead .eofWhileParsingObject
  | some b =>
    if b == byte '}' then pure false
    else if b == byte ',' && !first then do
      bump
      keyFollows (← skipBlank)
    else if first then keyFollows (some b)
    else failAhead .expectedObjectCommaOrEnd

/-- Read a member's key; the cursor is on its quote. -/
def readKey : Read String := do
  bump
  readString

/-- Move past the colon after a key. -/
def expectColon : Read Unit := do
  match ← skipBlank with
  | some b => if b == byte ':' then bump else failAhead .expectedColon
  | none => failAhead .eofWhileParsingObject

/-- Look for the closing bracket of an array, moving past it when found. -/
def closeArray : Read (Option Error) := do
  match ← skipBlank with
  | some b =>
    if b == byte ']' then do bump; pure none
    else if b == byte ',' then do
      bump
      match ← skipBlank with
      | some x =>
        if x == byte ']' then some <$> errorAhead .trailingComma
        else some <$> errorAhead .trailingCharacters
      | none => some <$> errorAhead .trailingCharacters
    else some <$> errorAhead .trailingCharacters
  | none => some <$> errorAhead .eofWhileParsingList

/-- Look for the closing brace of an object, moving past it when found. -/
def closeObject : Read (Option Error) := do
  match ← skipBlank with
  | some b =>
    if b == byte '}' then do bump; pure none
    else if b == byte ',' then some <$> errorAhead .trailingComma
    else some <$> errorAhead .trailingCharacters
  | none => some <$> errorAhead .eofWhileParsingObject

/-- The outcome of a body and of the search for its closing bracket: the body's error first. -/
def settle {α : Type} : Except Error α → Option Error → Read α
  | .ok v, none => pure v
  | .error e, _ => throw e
  | .ok _, some e => throw e

/-- Run `body` inside an array; the cursor is on the opening bracket. -/
def inArray {α : Type} (body : Read α) : Read α := do
  enterNested
  bump
  let r ← observe body
  leaveNested
  settle r (← closeArray)

/-- Run `body` inside an object; the cursor is on the opening brace. -/
def inObject {α : Type} (body : Read α) : Read α := do
  enterNested
  bump
  let r ← observe body
  leaveNested
  settle r (← closeObject)

/-- Read the value under the cursor only to report it as found instead of `expected`. -/
def reportFound {α : Type} (expected : String) : Read α := placed do
  match ← peek with
  | some b =>
    if b == byte 'n' then do
      bump; expectWord [byte 'u', byte 'l', byte 'l']
      throw (.bare (invalidType .unit expected))
    else if b == byte 't' then do
      bump; expectWord [byte 'r', byte 'u', byte 'e']
      throw (.bare (invalidType (.bool true) expected))
    else if b == byte 'f' then do
      bump; expectWord [byte 'a', byte 'l', byte 's', byte 'e']
      throw (.bare (invalidType (.bool false) expected))
    else if b == byte '-' then do
      bump
      let n ← readNumber false
      throw (.bare (invalidType n.unexpected expected))
    else if (digitValue? (some b)).isSome then do
      let n ← readNumber true
      throw (.bare (invalidType n.unexpected expected))
    else if b == byte '"' then do
      bump
      let s ← readString
      throw (.bare (invalidType (.str s) expected))
    else if b == byte '[' then throw (.bare (invalidType .seq expected))
    else if b == byte '{' then throw (.bare (invalidType .map expected))
    else failAhead .expectedSomeValue
  | none => failAhead .expectedSomeValue

/-- Read a string where one is expected. -/
def readText : Read String := placed do
  match ← skipBlank with
  | none => failAhead .eofWhileParsingValue
  | some b => if b == byte '"' then do bump; readString else reportFound "a string"

/-- Read `null` as `none`, anything else with `inner`. -/
def readOptional {α : Type} (inner : Read α) : Read (Option α) := do
  match ← skipBlank with
  | some b =>
    if b == byte 'n' then do
      bump
      expectWord [byte 'u', byte 'l', byte 'l']
      pure none
    else some <$> inner
  | none => some <$> inner

/-- Read a record given as an object (`byKey`) or as an array of its fields in order
(`byPosition`); `expected` names the record in messages. -/
def readStructure {α : Type} (expected : String) (byKey byPosition : Read α) : Read α := placed do
  match ← skipBlank with
  | none => failAhead .eofWhileParsingValue
  | some b =>
    if b == byte '[' then inArray byPosition
    else if b == byte '{' then inObject byKey
    else reportFound expected

/-- Read an array with `items`; `expected` names it in messages. -/
def readSequence {α : Type} (expected : String) (items : Read α) : Read α := placed do
  match ← skipBlank with
  | none => failAhead .eofWhileParsingValue
  | some b => if b == byte '[' then inArray items else reportFound expected

/-- Read an object with `members`; `expected` names it in messages. -/
def readMapping {α : Type} (expected : String) (members : Read α) : Read α := placed do
  match ← skipBlank with
  | none => failAhead .eofWhileParsingValue
  | some b => if b == byte '{' then inObject members else reportFound expected

mutual

/-- Read one value, the bound `fuel` counting the levels still allowed. -/
def readValueFor : Nat → Read Value
  | 0 => failAhead .eofWhileParsingValue
  | fuel + 1 => do
    match ← skipBlank with
    | none => failAhead .eofWhileParsingValue
    | some b =>
      if b == byte 'n' then do
        bump; expectWord [byte 'u', byte 'l', byte 'l']; pure .null
      else if b == byte 't' then do
        bump; expectWord [byte 'r', byte 'u', byte 'e']; pure (.bool true)
      else if b == byte 'f' then do
        bump; expectWord [byte 'a', byte 'l', byte 's', byte 'e']; pure (.bool false)
      else if b == byte '-' then do
        bump
        return .number (← readNumber false)
      else if (digitValue? (some b)).isSome then return .number (← readNumber true)
      else if b == byte '"' then do
        bump
        return .string (← readString)
      else if b == byte '[' then inArray (readItemsFor fuel true [])
      else if b == byte '{' then inObject (readMembersFor fuel true [])
      else failAhead .expectedSomeValue

/-- Read array items up to the closing bracket; `acc` holds those read, last first. -/
def readItemsFor : Nat → Bool → List Value → Read Value
  | 0, _, _ => failAhead .eofWhileParsingList
  | fuel + 1, first, acc => do
    if ← nextItem first then
      let v ← readValueFor fuel
      readItemsFor fuel false (v :: acc)
    else pure (.array acc.reverse)

/-- Read object members up to the closing brace into a key-sorted list. -/
def readMembersFor : Nat → Bool → List (String × Value) → Read Value
  | 0, _, _ => failAhead .eofWhileParsingObject
  | fuel + 1, first, acc => do
    if ← nextKey first then
      let k ← readKey
      expectColon
      let v ← readValueFor fuel
      readMembersFor fuel false (Value.insertMember k v acc)
    else pure (.object acc)

end

/-- Read one value of any kind. -/
def readValue : Read Value := do readValueFor (← budget)

/-- Read a whole text as one JSON value. -/
def Value.parse (s : String) : Except Error Value := readAll readValue s

end PoolMonitor.Json
