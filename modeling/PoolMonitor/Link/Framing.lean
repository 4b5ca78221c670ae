import PoolMonitor.Json.Cursor
import PoolMonitor.Link.Fault
import PoolMonitor.Text.Blank
/-!
# Frames of a raw TCP session

Over raw TCP the controller sends the same JSON as over a WebSocket but without any framing:
a frame is one complete JSON value, and the receiver finds where each one ends. The receiver
keeps the bytes read so far in a buffer and, on every receive:

1. asks a stream of JSON values over the buffer for its first value (`ValueStream`);
2. a complete value is the frame: its bytes (blanks before it included) decoded as UTF-8
   with replacement characters and trimmed, and removed from the buffer;
3. a value cut off by the end of the buffer waits for more bytes, and so does a buffer of
   blanks only, which is emptied;
4. anything else is an invalid frame, and the whole buffer is dropped;
5. more bytes come from the socket one read of at most `readChunkSize` bytes at a time, and
   the end of the stream closes the session.

Finding where a value ends is the JSON library's part, and the receiver is written for any
`ValueStream`. `jsonStream` is the one this library provides: a value that does not end
itself (a number, `true`, `false`, `null`) must be followed by a blank or a delimiter, or by
the end of the buffer, so a number cut by the end of one read counts as complete there.

The session's peer is modelled by the chunks it still has to deliver, so a receive is a
plain function and every loop runs at most once per chunk.
-/

namespace PoolMonitor

open PoolMonitor.Json

/-- The most bytes one read from the socket returns. -/
def readChunkSize : Nat := 4096

/-- Whether a byte after a value that does not end itself lets the value end there. -/
def endsValue : Option UInt8 → Bool
  | none => true
  | some b =>
    isBlankByte b || b == byte '"' || b == byte '[' || b == byte ']' || b == byte '{' ||
      b == byte '}' || b == byte ',' || b == byte ':'

/-- The first step of a stream of JSON values over a byte buffer: the offset just past the
first value, `none` when the buffer holds blanks only, or the error that stopped the reading,
which tells an end of input from malformed bytes. -/
abbrev ValueStream := ByteArray → Except Error (Option Nat)

/-- Skip the first value of the buffer and give the index after it; `none` when the buffer
holds blanks only. -/
def firstValue : Json.Read (Option Nat) := do
  match ← skipBlank with
  | none => return none
  | some b =>
    skipValue
    let delimited := b == byte '[' || b == byte '"' || b == byte '{'
    if !delimited && !endsValue (← peek) then failAhead .trailingCharacters
    return some (← get).pos

/-- The stream of values this library provides, read from the start of the buffer with the
usual nesting limit. -/
def jsonStream : ValueStream := fun buffer => (firstValue.run.run ⟨buffer, 0, 128⟩).1

/-- What a look at the buffer finds. -/
inductive Carved where
  /-- A frame, and the bytes after it. -/
  | frame (text : String) (rest : ByteArray)
  /-- No complete value yet: read more, keeping these bytes. -/
  | needMore (kept : ByteArray)
  /-- The buffer does not start with JSON. -/
  | invalid (e : Error)

/-- Look for a frame at the start of `buffer`, with `stream` finding where its first value ends. -/
def carve (stream : ValueStream) (buffer : ByteArray) : Carved :=
  match stream buffer with
  | .ok none => .needMore ByteArray.empty
  | .ok (some stop) =>
    let text := Text.Utf8.decodeLossy ((buffer.extract 0 stop).toList.map (·.toNat))
    .frame (Text.trim text) (buffer.extract stop buffer.size)
  | .error e => if e.code.category == .eof then .needMore buffer else .invalid e

/-- The reads a peer's bytes arrive in: consecutive slices of at most `size` bytes. -/
def chunksOf (size : Nat) (bytes : ByteArray) : List ByteArray :=
  (List.range ((bytes.size + size - 1) / size)).map fun i =>
    bytes.extract (i * size) ((i + 1) * size)

/-- The receiving side of a raw TCP session. -/
structure FrameReader where
  /-- Bytes read and not yet framed. -/
  buffer : ByteArray := ByteArray.empty
  /-- What the peer still sends, read by read, before it closes. -/
  incoming : List ByteArray

/-- A reader of a peer that sends `payload` and closes. -/
def FrameReader.ofPayload (payload : ByteArray) : FrameReader :=
  { incoming := chunksOf readChunkSize payload }

variable (stream : ValueStream)

/-- Receive from `buffer`, reading the `chunks` still to come as needed. -/
def receiveFrom (buffer : ByteArray) (chunks : List ByteArray) :
    Except TransportError String × FrameReader :=
  match carve stream buffer, chunks with
  | .frame text rest, _ => (.ok text, ⟨rest, chunks⟩)
  | .invalid e, _ => (.error (.invalidFrame e.message), ⟨ByteArray.empty, chunks⟩)
  | .needMore kept, [] => (.error .closed, ⟨kept, []⟩)
  | .needMore kept, c :: cs => receiveFrom (kept ++ c) cs

/-- Receive one frame. -/
def FrameReader.receive (r : FrameReader) : Except TransportError String × FrameReader :=
  receiveFrom stream r.buffer r.incoming

/-- What a run of receives gave: each frame or failure in order, and whether the run ended
because the session closed. -/
structure FrameRun where
  outcomes : List (Except TransportError String)
  closed : Bool

/-- Receive up to `limit` times, stopping when the session closes. -/
def FrameReader.receiveUpTo : Nat → FrameReader → FrameRun
  | 0, _ => ⟨[], false⟩
  | limit + 1, r =>
    match r.receive stream with
    | (.error .closed, _) => ⟨[], true⟩
    | (outcome, r) =>
      let run := receiveUpTo limit r
      { run with outcomes := outcome :: run.outcomes }

/-- The frames a receiver gets, at most `limit` receives, from a peer that sends `payload`
and closes. -/
def readFrames (limit : Nat) (payload : ByteArray) : FrameRun :=
  (FrameReader.ofPayload payload).receiveUpTo stream limit

end PoolMonitor
