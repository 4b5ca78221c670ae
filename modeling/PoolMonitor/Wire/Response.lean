import PoolMonitor.Wire.Object
/-!
# Responses and notifications

Everything the controller sends is a `Response`: a command, a message id, a response code, a
description and a list of objects. A notification is a response whose command is
`NotifyList`; a request succeeded when its response code is `200`.

`Response.decodeWith` reads one from JSON text with the steps of a `Deserializer`, and
`Response.decode` with this library's JSON reader. Every field may be absent (then empty) and
other fields are skipped; a field given twice is an error. The response code is kept when it is a
string, taken as its text when it is a number (`200`, `200.0`), and counts as absent for any
other kind of value. The record may also come as an array of its fields in order.
-/

namespace PoolMonitor.Wire

open PoolMonitor.Json

/-- A message from the controller. -/
structure Response where
  command : String := ""
  messageId : String := ""
  responseCode : Option String := none
  description : Option String := none
  objects : List ObjectData := []
  deriving Inhabited, Repr

namespace Response

/-- Whether the message is an unsolicited notification. -/
def isPush (r : Response) : Bool := r.command == Command.notifyList

/-- Whether the message reports success. -/
def isSuccess (r : Response) : Bool := r.responseCode == some responseOk

end Response

/-- The response code a value gives: strings as they are, numbers as their text. -/
def codeOfValue : Value → Option String
  | .string s => some s
  | .number n => some n.render
  | _ => none

/-- The fields of a response seen so far while reading its members. -/
structure ResponseFields where
  command : Option String := none
  messageId : Option String := none
  responseCode : Option (Option String) := none
  description : Option (Option String) := none
  objects : Option (List ObjectData) := none

/-- The response once all members are read: absent fields are empty. -/
def ResponseFields.finish (f : ResponseFields) : Response :=
  { command := f.command.getD "", messageId := f.messageId.getD "",
    responseCode := f.responseCode.getD none, description := f.description.getD none,
    objects := f.objects.getD [] }

/-- Refuse a field seen before. -/
def once {α : Type} (seen : Option α) (name : String) : Read Unit :=
  if seen.isSome then throw (.bare (duplicateField name)) else pure ()

section Reading

variable (D : Deserializer)

/-- Read the response code: `null` or any value. -/
def readCode : Read (Option String) := do
  let v ← D.readOptional D.readValue
  pure (v.bind codeOfValue)

/-- Read objects up to the closing bracket. -/
def readObjectItemsFrom (first : Bool) (acc : List ObjectData) : Nat → Read (List ObjectData)
  | 0 => failAhead .eofWhileParsingList
  | fuel + 1 => do
    if ← D.nextItem first then
      let o ← ObjectData.read D
      readObjectItemsFrom false (o :: acc) fuel
    else pure acc.reverse

/-- Read the object list. -/
def readObjectList : Read (List ObjectData) :=
  D.readSequence "a sequence" (do readObjectItemsFrom D true [] (← budget))

/-- Read response members up to the closing brace. -/
def readResponseMembers (first : Bool) (f : ResponseFields) : Nat → Read Response
  | 0 => failAhead .eofWhileParsingObject
  | fuel + 1 => do
    if ← D.nextKey first then
      let k ← D.readKey
      if k == "command" then
        once f.command k
        D.expectColon
        let v ← D.readText
        readResponseMembers false { f with command := some v } fuel
      else if k == "messageID" then
        once f.messageId k
        D.expectColon
        let v ← D.readText
        readResponseMembers false { f with messageId := some v } fuel
      else if k == "response" then
        once f.responseCode k
        D.expectColon
        let v ← readCode D
        readResponseMembers false { f with responseCode := some v } fuel
      else if k == "description" then
        once f.description k
        D.expectColon
        let v ← D.readOptional D.readText
        readResponseMembers false { f with description := some v } fuel
      else if k == "objectList" then
        once f.objects k
        D.expectColon
        let v ← readObjectList D
        readResponseMembers false { f with objects := some v } fuel
      else
        D.expectColon
        D.skipValue
        readResponseMembers false f fuel
    else pure f.finish

/-- Read the next positional field with `field`, or give `absent` at the end of the array. -/
def positional {α : Type} (first : Bool) (field : Read α) (absent : α) : Read (α × Bool) := do
  if ← D.nextItem first then pure (← field, false) else pure (absent, false)

/-- Read a response given as an array of its fields in order. -/
def readResponseItems : Read Response := do
  let (command, _) ← positional D true D.readText ""
  let (messageId, _) ← positional D false D.readText ""
  let (responseCode, _) ← positional D false (readCode D) none
  let (description, _) ← positional D false (D.readOptional D.readText) none
  let (objects, _) ← positional D false (readObjectList D) []
  pure { command, messageId, responseCode, description, objects }

/-- Read a response from JSON text. -/
def Response.read : Read Response :=
  D.readStructure "struct Response" (do readResponseMembers D true {} (← budget))
    (readResponseItems D)

/-- Decode a whole text as one response. -/
def Response.decodeWith (text : String) : Except Error Response := D.readAll (Response.read D) text

end Reading

/-- Decode a whole text as one response with this library's JSON reader. -/
def Response.decode (text : String) : Except Error Response :=
  Response.decodeWith Deserializer.json text

end PoolMonitor.Wire
