import PoolMonitor.Link.Scripted
import PoolMonitor.Link.Backoff
import PoolMonitor.Link.Endpoint
/-!
# Keeping a connection

A connection owns at most one session with the controller and what it takes to keep it:

1. Connecting tries up to `maxRetries + 1` times, waiting the backoff delay for retry `n`
   before it; an attempt that gets no answer gives up after the connect timeout. Each failed
   attempt adds one to a 32-bit counter of failures in a row: past its largest value that
   panics in a build with overflow checks, and wraps around to zero in one without.
2. Health: a ping is sent at most once per `healthCheckInterval`. A failed ping, or any failed
   read or write, marks the session unhealthy without closing it; the owner decides when to
   connect again.
3. Every read has a deadline; running out of time is reported as a timeout and leaves the
   health alone.

The connection runs against the scripted controller on a virtual clock counted in
milliseconds. A timer fires on the first whole millisecond at or after its deadline, so a wait
of a fraction of a millisecond is rounded up.
-/

namespace PoolMonitor

/-- The whole milliseconds a timer of length `d` takes to fire. -/
def Duration.ceilMillis (d : Duration) : Nat := (d.toNanos + 999999) / 1000000

/-- The connect timeout used unless one is given. -/
def defaultConnectTimeout : Duration := Duration.ofSecs 10

/-- The largest value of a 32-bit counter. -/
def u32Max : UInt32 := UInt32.ofNat (Nat.pow 2 32 - 1)

/-- What adding one to a counter at its largest value says in a build with overflow checks. -/
def addOverflow : String := "attempt to add with overflow"

/-- The state of a connection. -/
structure Link where
  endpoint : Endpoint
  policy : RetryPolicy
  connectTimeout : Duration := defaultConnectTimeout
  /-- Whether a session is open. -/
  session : Bool := false
  healthy : Bool := false
  /-- When health was last checked (connecting counts). -/
  lastHealthCheck : Option Nat := none
  /-- Failed attempts since the last success, in a 32-bit counter. -/
  consecutiveFailures : UInt32 := 0
  /-- Whether the program is built with overflow checks, as debug builds are: then adding one
  to a counter at its largest value panics; without them it wraps around to zero. -/
  overflowChecks : Bool := true
  deriving Inhabited

/-- A connection with the scripted controller, on a virtual clock. -/
structure Line where
  /-- Milliseconds since the start. -/
  now : Nat := 0
  link : Link
  peer : Script := {}
  /-- What the program panicked with, if it did: nothing goes on after a panic. -/
  panicked : Option String := none
  deriving Inhabited

/-- The link once a session is opened at `now`. -/
def Link.opened (k : Link) (now : Nat) : Link :=
  { k with
    session := true
    healthy := true
    lastHealthCheck := some now
    consecutiveFailures := 0 }

namespace Line

/-- Let `ms` milliseconds pass. -/
def wait (l : Line) (ms : Nat) : Line := { l with now := l.now + ms }

/-- When a cancellation cuts a wait that would end at `t`: at the moment the caller's token is
cancelled, if that comes by `t`. The token is cancelled from millisecond `cancel` on, if ever;
one cancelled already cuts the wait at once. -/
def cutAt (cancel : Option Nat) (t : Nat) : Option Nat :=
  match cancel with
  | some c => if c ≤ t then some c else none
  | none => none

/-- How a connection attempt ended. -/
inductive AttemptEnd where
  | opened
  | failed (e : TransportError)
  /-- The caller cancelled while the attempt waited for an answer. -/
  | cancelled
  /-- The attempt failed with `e`, and counting the failure panicked. -/
  | panicked (e : TransportError)

/-- Count the failure `e` of an attempt: one more on the 32-bit counter, which at its largest
value panics with overflow checks and wraps around to zero without them. -/
def failWith (l : Line) (e : TransportError) : AttemptEnd × Line :=
  if l.link.overflowChecks && l.link.consecutiveFailures == u32Max then
    (.panicked e, { l with panicked := some addOverflow })
  else
    (.failed e, { l with link := { l.link with consecutiveFailures := l.link.consecutiveFailures + 1 } })

/-- One connection attempt. An attempt that gets no answer waits the connect timeout, unless
the caller cancels first; when both come in the same millisecond, the cancellation is taken. -/
def attempt (cancel : Option Nat) (l : Line) : AttemptEnd × Line :=
  let (step, peer) := l.peer.connect
  let l := { l with peer }
  match step with
  | .accept => (.opened, { l with link := l.link.opened l.now })
  | .refuse => l.failWith .io
  | .close => l.failWith .closed
  | .hang =>
    match cutAt cancel (l.now + l.link.connectTimeout.ceilMillis) with
    | some c => (.cancelled, l.wait (c - l.now))
    | none => (l.wait l.link.connectTimeout.ceilMillis).failWith (.timeout l.link.connectTimeout)

/-- When attempt `index` of a connect may start, the previous one having ended at `now`: at
once for the first, after the backoff delay for retry `index`, rounded up to whole
milliseconds, for the others. -/
def readyAt (l : Line) (index : Nat) : Nat :=
  if index > 0 then l.now + (l.link.policy.delay index).ceilMillis else l.now

/-- How one round of connecting ends: the connect is over, or goes on with the attempt of this
number. -/
inductive Round where
  | done (r : Except ConnectionError Unit)
  | next (index : Nat)

/-- Attempt `index` of `total`, once its backoff wait is over. A refused, closed or unanswered
attempt leaves the next one to come while attempts are left, and ends the connect with its
error after the last; one whose failure panicked ends it at once, its result never seen. -/
def attemptRound (total index : Nat) (cancel : Option Nat) (l : Line) : Round × Line :=
  match l.attempt cancel with
  | (.opened, l) => (.done (.ok ()), l)
  | (.failed e, l) =>
    if index + 1 < total then (.next (index + 1), l)
    else (.done (.error (.exhausted l.link.endpoint.text total e)), l)
  | (.cancelled, l) => (.done (.error .cancelled), l)
  | (.panicked e, l) => (.done (.error (.transport e)), l)

/-- The attempts from number `index` on, `left` of them remaining: each first waits its backoff
delay, and a cancellation by its end ends the connect, as does one already made before the
first attempt. -/
def connectFrom (total : Nat) (cancel : Option Nat) : (left index : Nat) → Line →
    Except ConnectionError Unit × Line
  | 0, _, l => (.error (.exhausted l.link.endpoint.text total .notConnected), l)
  | left + 1, index, l =>
    match cutAt cancel (l.readyAt index) with
    | some c => (.error .cancelled, l.wait (c - l.now))
    | none =>
      match attemptRound total index cancel (l.wait (l.readyAt index - l.now)) with
      | (.done r, l) => (r, l)
      | (.next index, l) => connectFrom total cancel left index l

/-- The number of attempts connecting makes: one more than the retries, within 32 bits. -/
def attemptCount (p : RetryPolicy) : Nat := min (p.maxRetries + 1) (Nat.pow 2 32 - 1)

/-- Connect, retrying with backoff, for a caller whose token is cancelled from millisecond
`cancel` on, if ever. -/
def connect (l : Line) (cancel : Option Nat) : Except ConnectionError Unit × Line :=
  let total := attemptCount l.link.policy
  connectFrom total cancel total 0 l

/-- Close the session, if one is open; the connection is then unhealthy. -/
def close (l : Line) : Line :=
  let l := if l.link.session then { l with peer := l.peer.close } else l
  { l with link := { l.link with session := false, healthy := false, lastHealthCheck := none } }

/-- Mark the session unusable; it stays open until closed. -/
def markDisconnected (l : Line) : Line := { l with link := { l.link with healthy := false } }

/-- Whether the session is usable, pinging the controller when the last check is at least a
health-check interval old. -/
def isHealthy (l : Line) : Bool × Line :=
  if !l.link.session || !l.link.healthy then (false, l)
  else
    let fresh : Bool := match l.link.lastHealthCheck with
      | some last => decide ((l.now - last) * 1000000 < l.link.policy.healthCheckInterval.toNanos)
      | none => false
    if fresh then (true, l)
    else
      let (r, peer) := l.peer.ping
      let l := { l with peer, link := { l.link with lastHealthCheck := some l.now } }
      match r with
      | .ok () => (true, l)
      | .error _ => (false, { l with link := { l.link with healthy := false } })

/-- Make sure a healthy session is open: keep it, or close it and connect again. -/
def ensureConnected (l : Line) (cancel : Option Nat) : Except ConnectionError Unit × Line :=
  match l.isHealthy with
  | (true, l) => (.ok (), l)
  | (false, l) => l.close.connect cancel

/-- Send a text; a failure marks the session unhealthy. -/
def sendText (l : Line) (text : String) : Except TransportError Unit × Line :=
  if !l.link.session then (.error .notConnected, l)
  else
    match l.peer.send text with
    | (.ok (), peer) => (.ok (), { l with peer })
    | (.error e, peer) => (.error e, { l with peer, link := { l.link with healthy := false } })

/-- Read one frame within `deadline`. Running out of time is a timeout and leaves the health
alone; any other failure marks the session unhealthy. -/
def recvText (l : Line) (deadline : Duration) : Except TransportError String × Line :=
  if !l.link.session then (.error .notConnected, l)
  else
    let ((heard, waited), peer) := l.peer.receive deadline.ceilMillis
    let l := { l with peer, now := l.now + waited }
    match heard with
    | .frame text => (.ok text, l)
    | .failure e => (.error e, { l with link := { l.link with healthy := false } })
    | .silence => (.error (.timeout deadline), l)

end Line

end PoolMonitor
