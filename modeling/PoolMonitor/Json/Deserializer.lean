import PoolMonitor.Json.Read
/-!
# Deserializers

Typed decoding (the readers of equipment objects and of responses) is written against the steps
of a JSON deserializer rather than against one reader: finding the next member of an object or
the next item of an array, reading a key and passing its colon, reading a string or any value,
passing over a value, and the shapes `null`-or-value, record, sequence and mapping that a typed
decoder asks for. A `Deserializer` holds these steps. The decoders take one as a parameter, so
what they do on a text follows from the laws its steps keep, whatever reader provides them.

`Deserializer.json` gives the steps of this library's reader (`Json.Read`), which follows the
grammar, the error texts and the limits of the JSON library the controller's messages are read
with; it is the deserializer the program runs.
-/

namespace PoolMonitor.Json

/-- The steps of a JSON deserializer that typed decoding is written with. -/
structure Deserializer where
  /-- Whether another member of an object follows (`true` for the first); ends on its key. -/
  nextKey : Bool → Read Bool
  /-- Read a member's key from its opening quote. -/
  readKey : Read String
  /-- Move past the colon after a key. -/
  expectColon : Read Unit
  /-- Whether another item of an array follows (`true` for the first); ends on the item. -/
  nextItem : Bool → Read Bool
  /-- Read a string where one is expected. -/
  readText : Read String
  /-- Read a value of any kind. -/
  readValue : Read Value
  /-- Pass over a value of any kind. -/
  skipValue : Read Unit
  /-- Read `null` as `none`, and anything else with the reader given. -/
  readOptional : {α : Type} → Read α → Read (Option α)
  /-- Read a record, named in messages, by its members or by its fields in order. -/
  readStructure : {α : Type} → String → Read α → Read α → Read α
  /-- Read an array, named in messages, with the reader of its items. -/
  readSequence : {α : Type} → String → Read α → Read α
  /-- Read an object, named in messages, with the reader of its members. -/
  readMapping : {α : Type} → String → Read α → Read α
  /-- Read a whole text with a reader, refusing anything but blanks after it. -/
  readAll : {α : Type} → Read α → String → Except Error α

/-- The steps of this library's JSON reader. -/
def Deserializer.json : Deserializer where
  nextKey := Json.nextKey
  readKey := Json.readKey
  expectColon := Json.expectColon
  nextItem := Json.nextItem
  readText := Json.readText
  readValue := Json.readValue
  skipValue := Json.skipValue
  readOptional := Json.readOptional
  readStructure := Json.readStructure
  readSequence := Json.readSequence
  readMapping := Json.readMapping
  readAll := Json.readAll

end PoolMonitor.Json
