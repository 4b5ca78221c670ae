import PoolMonitor.Link.Fault
import PoolMonitor.Json.Read
import PoolMonitor.Json.Write
import PoolMonitor.Wire.Keys
/-!
# A scripted controller

A controller whose behaviour is written down in advance, for running a connection on a
virtual clock without a network:

* a connect script says how each connection attempt goes (accepted, refused, closed, or never
  answered); once it is used up, attempts are accepted;
* a receive script says what each read gets: a frame, a failure, a pause before the next entry,
  or nothing ever; an empty script never answers;
* every text sent is logged, and pings, closes and connection attempts are counted.

Every session opened with the controller shares the one script and the one log. A frame may
quote the message id of a request sent earlier: `{id}` in its text stands for the id of the
last request sent, and `{idN}` for that of the `N`-th.
-/

namespace PoolMonitor

open PoolMonitor.Json PoolMonitor.Wire

/-- How one connection attempt goes. -/
inductive ConnectStep where
  | accept
  | refuse
  | close
  | hang
  deriving Repr, BEq, DecidableEq

/-- One entry of the receive script. -/
inductive FrameStep where
  /-- A pause of `ms` milliseconds before the next entry; a read that times out during the
  pause still uses the entry up. -/
  | delay (ms : Nat)
  /-- The controller closes the session. -/
  | fail
  /-- A frame that is not text. -/
  | invalid (detail : String)
  /-- Nothing ever arrives. -/
  | hang
  /-- A frame with exactly this text (after the id placeholders are filled in). -/
  | raw (text : String)
  /-- A frame with exactly this text, placeholders and all. -/
  | verbatim (text : String)
  /-- A notification carrying `objects`, under message id `id`. -/
  | push (objects : Value) (id : String)
  /-- A response to a request of someone else's. -/
  | other (id : String) (code : Value) (objects : Value)
  /-- A response to the last request sent. -/
  | reply (code : Value) (objects : Value) (description : Option Value)
  deriving Repr

/-- What a read got. -/
inductive Heard where
  | frame (text : String)
  | failure (e : TransportError)
  /-- Nothing before the read's time ran out. -/
  | silence
  deriving Repr

/-- The state of the scripted controller. -/
structure Script where
  connectSteps : List ConnectStep := []
  frames : List FrameStep := []
  /-- Every text sent to the controller, in order. -/
  sent : Array String := #[]
  pings : Nat := 0
  closes : Nat := 0
  /-- Connection attempts so far. -/
  attempts : Nat := 0
  failPing : Bool := false
  /-- How many of the next sends fail. -/
  failSends : Nat := 0
  deriving Repr

namespace Script

/-- The message id of a sent text, if it is a JSON object with a text `messageID`. -/
def idOf (text : String) : String :=
  match Value.parse text with
  | .ok v => ((v.field? "messageID").bind Value.asString?).getD ""
  | .error _ => ""

/-- The message id of the last text sent, or nothing. -/
def lastSentId (s : Script) : String :=
  match s.sent.back? with
  | some t => idOf t
  | none => ""

/-- Fill the id placeholders of a frame text. -/
def fillIds (s : Script) (text : String) : String :=
  let last := text.replace "\x7bid\x7d" s.lastSentId
  (List.range s.sent.size).foldl (fun t i =>
    t.replace ("\x7bid" ++ toString (i + 1) ++ "\x7d") (idOf (s.sent.getD i ""))) last

/-- A JSON object with its members in key order. -/
def objectOf (members : List (String × Value)) : Value :=
  .object (members.foldl (fun acc (k, v) => Value.insertMember k v acc) [])

/-- The text of a frame entry that carries a frame. -/
def frameText (s : Script) : FrameStep → Option String
  | .raw text => some (s.fillIds text)
  | .verbatim text => some text
  | .push objects id =>
    some (objectOf [("command", .string Command.notifyList), ("messageID", .string id),
      ("objectList", objects)]).render
  | .other id code objects =>
    some (objectOf [("command", .string Command.sendParamList), ("messageID", .string id),
      ("response", code), ("objectList", objects)]).render
  | .reply code objects description =>
    some (objectOf ([("command", .string Command.sendParamList),
      ("messageID", .string s.lastSentId), ("response", code), ("objectList", objects)] ++
      match description with
      | some d => [("description", d)]
      | none => [])).render
  | _ => none

/-- Read the receive script with `budget` milliseconds to wait: what was heard, how long it
took, and the entries left. A pause that ends exactly when the budget runs out lets the next
entry through. -/
def hear (s : Script) (budget : Nat) : List FrameStep → Heard × Nat × List FrameStep
  | [] => (.silence, budget, [])
  | .delay ms :: rest =>
    if ms ≤ budget then
      let (h, waited, left) := hear s (budget - ms) rest
      (h, ms + waited, left)
    else (.silence, budget, rest)
  | .hang :: rest => (.silence, budget, rest)
  | .fail :: rest => (.failure .closed, 0, rest)
  | .invalid d :: rest => (.failure (.invalidFrame d), 0, rest)
  | step :: rest => (.frame ((s.frameText step).getD ""), 0, rest)

/-- One read with `budget` milliseconds to wait: what was heard and how long it took. -/
def receive (s : Script) (budget : Nat) : (Heard × Nat) × Script :=
  let (h, waited, left) := s.hear budget s.frames
  ((h, waited), { s with frames := left })

/-- One connection attempt. -/
def connect (s : Script) : ConnectStep × Script :=
  let s := { s with attempts := s.attempts + 1 }
  match s.connectSteps with
  | [] => (.accept, s)
  | step :: rest => (step, { s with connectSteps := rest })

/-- Send a text: logged, unless sends are set to fail. -/
def send (s : Script) (text : String) : Except TransportError Unit × Script :=
  if s.failSends > 0 then (.error .closed, { s with failSends := s.failSends - 1 })
  else (.ok (), { s with sent := s.sent.push text })

/-- A ping. -/
def ping (s : Script) : Except TransportError Unit × Script :=
  let s := { s with pings := s.pings + 1 }
  if s.failPing then (.error .closed, s) else (.ok (), s)

/-- Closing a session. -/
def close (s : Script) : Script := { s with closes := s.closes + 1 }

end Script

end PoolMonitor
