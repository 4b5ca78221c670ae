import PoolMonitor.Link.Connection
import PoolMonitor.Wire.Request
import PoolMonitor.Wire.Response
/-!
# Pairing requests with responses

A connection carries responses to requests and, between them, notifications pushed by the
controller. A request is sent under a fresh message id and remembered as pending until its
response is read. While waiting for one response:

* a frame that does not decode, and a notification, are skipped (a notification is handed to
  the push handler, if there is one); more than `maxSkips` of them is a timeout;
* the whole wait has a deadline, the clock plus the read deadline, and running out of time is a
  timeout too; a deadline past the instants the clock can hold panics;
* a response to some other request means the exchange is out of step: the connection is
  marked unusable.

A timeout marks the connection unusable but leaves the request pending; `sweepStale` drops
pending requests that are too old.

Message ids are `<nanoseconds>-<count>`: the wall clock when the id was made and how many ids
were made before it, so that no two are alike.
-/

namespace PoolMonitor

open PoolMonitor.Wire

/-- How long and through how many other frames a response is waited for. -/
structure CorrelatorPolicy where
  maxSkips : Nat := 10
  readDeadline : Duration := Duration.ofSecs 10
  deriving Inhabited

/-- The wall clock, in nanoseconds, at the start of the virtual clock. -/
def wallClockStart : Nat := 1700000000000000000

/-- Requests in flight on one connection. -/
structure Correlator where
  policy : CorrelatorPolicy := {}
  /-- Pending message ids with the time (virtual milliseconds) each was sent. -/
  pending : List (String × Nat) := []
  /-- Whether notifications seen while waiting are collected. -/
  routesPushes : Bool := false
  deriving Inhabited

/-- A connection, its correlator, the notifications handed on, and the ids made so far. -/
structure Exchange where
  line : Line
  correlator : Correlator := {}
  /-- Notifications handed to the push handler, in order. -/
  pushes : Array Response := #[]
  issued : Nat := 0
  deriving Inhabited

namespace Correlator

/-- How many requests are pending. -/
def pendingCount (c : Correlator) : Nat := c.pending.length

/-- Whether `id` is pending. -/
def isPending (c : Correlator) (id : String) : Bool := c.pending.any (·.1 == id)

/-- Remember `id` as sent at `now`. -/
def remember (c : Correlator) (id : String) (now : Nat) : Correlator :=
  { c with pending := (c.pending.filter (·.1 != id)) ++ [(id, now)] }

/-- Forget `id`. -/
def forget (c : Correlator) (id : String) : Correlator :=
  { c with pending := c.pending.filter (·.1 != id) }

/-- Drop the pending requests older than `maxAge` at time `now`: the correlator left and how
many were dropped. -/
def sweepStale (c : Correlator) (now : Nat) (maxAge : Duration) : Correlator × Nat :=
  let kept := c.pending.filter fun (_, sent) => (now - sent) * 1000000 ≤ maxAge.toNanos
  ({ c with pending := kept }, c.pending.length - kept.length)

end Correlator

namespace Exchange

/-- Change the connection. -/
def onLine (x : Exchange) (f : Line → α × Line) : α × Exchange :=
  let (a, line) := f x.line
  (a, { x with line })

/-- Change the correlator. -/
def withCorrelator (x : Exchange) (f : Correlator → Correlator) : Exchange :=
  { x with correlator := f x.correlator }

/-- A fresh message id. -/
def freshId (x : Exchange) : String × Exchange :=
  let nanos := wallClockStart + x.line.now * 1000000 + x.issued
  (toString nanos ++ "-" ++ toString x.issued, { x with issued := x.issued + 1 })

/-- Send a request and remember it as pending: its message id. -/
def sendRequest (x : Exchange) (command condition : String) (objects : List ObjectQuery) :
    Except RequestError String × Exchange :=
  let (id, x) := x.freshId
  let text := (Request.mk id command condition objects).toJson
  let x := x.withCorrelator (·.remember id x.line.now)
  match x.onLine (·.sendText text) with
  | (.ok (), x) => (.ok id, x)
  | (.error e, x) => (.error (.transport e), x.withCorrelator (·.forget id))

/-- Give up waiting for `expected` after `skipped` other frames. -/
def timedOut (x : Exchange) (expected : String) (skipped : Nat) :
    Except RequestError Response × Exchange :=
  (.error (.correlation (.timeout expected skipped)),
    { x with line := x.line.markDisconnected })

/-- Wait for the response to `expected` before the instant `deadline` (in nanoseconds), with
`left` more frames that may be skipped and `skipped` skipped so far. -/
def awaitFrom (expected : String) (deadline : Nat) :
    (left skipped : Nat) → Exchange → Except RequestError Response × Exchange
  | 0, skipped, x => x.timedOut expected skipped
  | left + 1, skipped, x =>
    let nowNanos := x.line.now * 1000000
    if nowNanos ≥ deadline then x.timedOut expected skipped
    else
      match x.onLine (·.recvText (Duration.ofNanos (deadline - nowNanos))) with
      | (.error (.timeout _), x) => x.timedOut expected skipped
      | (.error e, x) => (.error (.transport e), x.withCorrelator (·.forget expected))
      | (.ok text, x) =>
        match Response.decode text with
        | .error _ => awaitFrom expected deadline left (skipped + 1) x
        | .ok resp =>
          if resp.messageId == expected then (.ok resp, x.withCorrelator (·.forget expected))
          else if resp.isPush then
            let x := if x.correlator.routesPushes then { x with pushes := x.pushes.push resp }
              else x
            awaitFrom expected deadline left (skipped + 1) x
          else
            (.error (.correlation (.mismatch expected resp.messageId)),
              { (x.withCorrelator (·.forget expected)) with line := x.line.markDisconnected })

/-- Read frames until the response to `expected` arrives, by the clock plus the read deadline.
When that instant cannot be held the program panics before the first read: the request stays
pending, the connection is left as it was, and the wait's result is never seen. -/
def readMatchingResponse (x : Exchange) (expected : String) :
    Except RequestError Response × Exchange :=
  let p := x.correlator.policy
  if p.readDeadline.fitsAfter x.line.now then
    let deadline := x.line.now * 1000000 + p.readDeadline.toNanos
    awaitFrom expected deadline (p.maxSkips + 1) 0 x
  else
    (.error (.correlation (.timeout expected 0)),
      { x with line := { x.line with panicked := some instantOverflow } })

/-- A response read in full must report success; a failed wait is passed on as it is. -/
def requireSuccess : Except RequestError Response × Exchange →
    Except RequestError Response × Exchange
  | (.error e, x) => (.error e, x)
  | (.ok resp, x) =>
    if resp.isSuccess then (.ok resp, x)
    else (.error (.correlation (.protocol (resp.responseCode.getD "") resp.description)), x)

/-- Send a request and wait for its response, which must report success. -/
def request (x : Exchange) (command condition : String) (objects : List ObjectQuery) :
    Except RequestError Response × Exchange :=
  match x.sendRequest command condition objects with
  | (.error e, x) => (.error e, x)
  | (.ok id, x) => requireSuccess (x.readMatchingResponse id)

/-- Drop pending requests older than `maxAge`: how many were dropped. -/
def sweepStale (x : Exchange) (maxAge : Duration) : Nat × Exchange :=
  let (c, n) := x.correlator.sweepStale x.line.now maxAge
  (n, { x with correlator := c })

end Exchange

end PoolMonitor
