import PoolMonitor.Poller.Calls
/-!
# The poller's two tasks

The poll side starts everything:

1. It takes the configured host, or searches for the controller until found, pausing the
   reconnect delay between searches.
2. It connects the poll connection and then the push connection, each until it succeeds,
   pausing between attempts.
3. It asks for the feature flags and publishes them if they come, then sweeps until a sweep is
   complete, pausing and checking the connection between tries. The complete sweep is
   published as the first snapshot, and the push side is started with the subscription it
   gives.
4. On every tick of its timer it checks its connection and sweeps, publishing each cycle. After
   enough failed cycles the rediscovery controller takes over: each tick searches for the
   controller instead, and an address that changed is shared with the push side and connected
   to; the cycles resume once that succeeds.

The push side subscribes and listens, publishing every notification. When a read fails, or the
connection is quiet and then fails its health check, it connects again, at the shared address
if that changed, and resynchronises: it asks the minder to reset, sweeps, publishes the sweep
as a new snapshot and subscribes to what it found; any failure pauses before the next round.
Notifications that arrive while its requests wait are published as they come.

Each side is a step function from the answer to the call it awaits (`pollStep`, `pushStep`);
`occur` gives one occurrence of the world to the system, and `run` a whole schedule of them.
Pauses and the poll loop's ticks fire only when due, and only a cancelled run reports
cancellation. A panic (the poll loop's first tick beyond the instants the clock holds) is
recorded in the state; the program runs no further.
-/

namespace PoolMonitor.Poller

open PoolMonitor.Wire PoolMonitor.Equipment PoolMonitor.Discovery

/-- Which of the poll side's sweeps a health check or a sweep belongs to. -/
inductive Round where
  /-- The first snapshot, repeated until complete. -/
  | initial
  /-- A cycle of the poll loop. -/
  | cycle
  deriving Repr, DecidableEq

/-- The call the poll side awaits. -/
inductive PollStage where
  | starting
  | discovering
  | discoveryPause
  /-- Connecting one connection at startup, and the pause before trying it again. -/
  | connecting (side : Side)
  | connectPause (side : Side)
  | loadingFlags
  | sweeping (round : Round) (p : SweepProgress)
  | initialPause
  /-- The health check before a sweep: a ping, or connecting again. -/
  | pinging (round : Round)
  | reconnecting (round : Round)
  /-- The poll loop's timer. -/
  | idle
  /-- Searching for the controller again, and connecting to the address found. -/
  | rediscovering
  | retargeting
  | stopped

/-- The call the push side awaits. -/
inductive PushStage where
  | starting
  /-- Subscribing at start, or at the end of a resynchronisation. -/
  | subscribing (resync : Bool)
  | listening
  | pinging
  | connecting
  | sweeping (p : SweepProgress)
  | pausing
  | stopped

/-- The state of the poller: both tasks, what they share, and the clock. -/
structure State where
  config : Config
  pollStage : PollStage := .starting
  /-- No connection exists before the controller is found. -/
  pollConn : Link := default
  rediscovery : Rediscovery
  /-- The push side's stage, once it is started. -/
  pushStage : Option PushStage := none
  pushConn : Link := default
  subscription : List ObjectQuery := []
  /-- The endpoint shared with the push side, how many times the poll side replaced it, and
  how many of those the push side has taken up. -/
  shared : Endpoint := default
  version : Nat := 0
  seen : Nat := 0
  /-- When each side's pending timer is due. -/
  pollWake : Nat := 0
  pushWake : Nat := 0
  cancelled : Bool := false
  /-- Milliseconds since the start. -/
  now : Nat := 0
  /-- What the program panicked with, if it did. -/
  panicked : Option String := none

/-- The poller before it runs. -/
def State.start (config : Config) : State :=
  { config
    rediscovery :=
      Rediscovery.new config.discovery.failureThreshold config.discovery.autoRediscovery }

def flagsRequest : Effect :=
  .request .poll Command.getParamList featureFlagCondition featureFlagQuery

/-- The feature flags published on the answer to their request, if it came. -/
def flagsPublished : Except RequestError Response → List Effect
  | .ok resp => [.publish .poll (.featureFlags (featureFlagsOf resp.objects))]
  | .error _ => []

/-- The push side's request to be notified of changes to `qs`. -/
def subscribeRequest (qs : List ObjectQuery) : Effect :=
  .request .push Command.requestParamList "" qs

/-- What the push side publishes for a frame read while listening: the objects of a
notification; other answers and undecodable frames are dropped. -/
def frame (text : String) : List Effect :=
  match Response.decode text with
  | .ok resp => if resp.isPush then [.publish .push (.push resp.objects)] else []
  | .error _ => []

namespace State

variable (s : State)

/-- A connection to `e` as the configuration asks. -/
def link (e : Endpoint) : Link := { endpoint := e, policy := s.config.retryPolicy }

/-- The configured pause between attempts, the poll period and the listen timeout, in
milliseconds. -/
def delayMs : Nat := s.config.reconnectDelay.ceilMillis
def periodMs : Nat := s.config.pollInterval.ceilMillis
def listenMs : Nat := s.config.listenTimeout.ceilMillis

def conn : Side → Link
  | .poll => s.pollConn
  | .push => s.pushConn

def withConn : Side → Link → State
  | .poll, k => { s with pollConn := k }
  | .push, k => { s with pushConn := k }

/-! ## The poll side -/

def stopPoll : State := { s with pollStage := .stopped }

/-- Pause in `stage` for the reconnect delay. -/
def pausePoll (stage : PollStage) : State :=
  { s with pollStage := stage, pollWake := s.now + s.delayMs }

/-- Use `e` for both connections and share it; connect the poll connection. -/
def resolved (e : Endpoint) : State × List Effect :=
  ({ s with pollStage := .connecting .poll, pollConn := s.link e, pushConn := s.link e, shared := e },
    [.connect .poll e])

/-- Start: the configured host, or a search for the controller. -/
def resolve : State × List Effect :=
  match s.config.controller.host with
  | some h => s.resolved (s.config.endpoint h)
  | none => ({ s with pollStage := .discovering }, [.discover])

/-- After a search at startup. -/
def afterSearch : Found → State × List Effect
  | .addr a => s.resolved (s.config.endpoint a.toText)
  | .cancelled => (s.stopPoll, [])
  | .failed => (s.pausePoll .discoveryPause, [])

/-- After a connection attempt at startup: the push connection follows the poll connection,
and once both are open the feature flags are asked for. -/
def afterStartupConnect (side : Side) : Except ConnectionError Unit → State × List Effect
  | .ok () =>
    let s := s.withConn side ((s.conn side).opened s.now)
    match side with
    | .poll => ({ s with pollStage := .connecting .push }, [.connect .push s.pushConn.endpoint])
    | .push => ({ s with pollStage := .loadingFlags }, [flagsRequest])
  | .error .cancelled => (s.stopPoll, [])
  | .error _ => (s.pausePoll (.connectPause side), [])

/-- Start a sweep on the poll connection. -/
def sweepPoll (round : Round) : State × List Effect :=
  ({ s with pollStage := .sweeping round .start }, [SweepProgress.start.current.request .poll])

/-- After the feature flags' answer: publish them if they came, then sweep. -/
def afterFlags (r : Except RequestError Response) : State × List Effect :=
  let t := { s with pollConn := s.pollConn.afterRequest r }.sweepPoll .initial
  (t.1, .reply .poll r :: (flagsPublished r ++ t.2))

/-- The first snapshot is complete: the push side starts with the subscription it gives, and
the poll loop waits a period for its first tick. The instant of that tick is taken by adding
the period to the clock, which panics when the sum cannot be held. -/
def startLoop (objects : List ObjectData) : State :=
  { s with
    pollStage := .idle
    pollWake := s.now + s.periodMs
    rediscovery :=
      Rediscovery.new s.config.discovery.failureThreshold s.config.discovery.autoRediscovery
    pushStage := some .starting
    subscription := Equipment.subscription objects
    panicked := if s.config.pollInterval.fitsAfter s.now then s.panicked else some instantOverflow }

/-- After a sweep of the poll side: an incomplete first snapshot is tried again after a
pause, a complete one published; a cycle is published and recorded with the rediscovery
controller. -/
def afterPollSweep : Round → SweepOutcome → State × List Effect
  | .initial, o =>
    if o.failed then (s.pausePoll .initialPause, [])
    else (s.startLoop o.objects, [.publish .poll (.initial .poll o.objects)])
  | .cycle, o =>
    ({ s with
        pollStage := .idle
        rediscovery := if o.failed then s.rediscovery.recordFailure else s.rediscovery.recordSuccess },
      [.publish .poll (.pollCycle o.objects o.failed)])

/-- After the poll side's current query got `r`. -/
def afterPollReply (round : Round) (p : SweepProgress) (r : Except RequestError Response) :
    State × List Effect :=
  let s := { s with pollConn := s.pollConn.afterRequest r }
  match p.answer r with
  | .next p => ({ s with pollStage := .sweeping round p }, [.reply .poll r, p.current.request .poll])
  | .done o =>
    let t := s.afterPollSweep round o
    (t.1, .reply .poll r :: t.2)

/-- Close the poll connection and connect it again. -/
def reconnectPoll (round : Round) : State × List Effect :=
  ({ s with pollStage := .reconnecting round, pollConn := s.pollConn.closed },
    [.connect .poll s.pollConn.endpoint])

/-- Make sure the poll connection is usable, then sweep. -/
def ensurePoll (round : Round) : State × List Effect :=
  match s.pollConn.healthAt s.now with
  | some true => s.sweepPoll round
  | some false => s.reconnectPoll round
  | none => ({ s with pollStage := .pinging round }, [])

def afterPollPing (round : Round) (ok : Bool) : State × List Effect :=
  let s := { s with pollConn := s.pollConn.pinged s.now ok }
  if ok then s.sweepPoll round else s.reconnectPoll round

/-- After connecting the poll connection again: a first snapshot is swept whatever came of it
short of cancellation; a cycle that could not connect is a failure and waits for the next
tick. -/
def afterPollReconnect (round : Round) : Except ConnectionError Unit → State × List Effect
  | .ok () => { s with pollConn := s.pollConn.opened s.now }.sweepPoll round
  | .error .cancelled => (s.stopPoll, [])
  | .error _ =>
    match round with
    | .initial => s.sweepPoll .initial
    | .cycle => ({ s with pollStage := .idle, rediscovery := s.rediscovery.recordFailure }, [])

/-- The poll loop's timer ticks. A tick taken more than five milliseconds late sets the next
one a period after it, else the next is a period after this one was due. While rediscovery is
active the tick searches for the controller; otherwise it checks the connection and sweeps. -/
def onTick : State × List Effect :=
  let wake := if s.pollWake + 5 < s.now then s.now + s.periodMs else s.pollWake + s.periodMs
  let s := { s with pollWake := wake }
  if s.rediscovery.active then ({ s with pollStage := .rediscovering }, [.tick, .discover])
  else
    let t := s.ensurePoll .cycle
    (t.1, .tick :: t.2)

/-- After a search in rediscovery: a changed address is shared and connected to; anything else
waits for the next tick. -/
def afterRediscovery (r : Found) : State × List Effect :=
  match attemptOutcome r.addr? s.pollConn.endpoint.host with
  | .addressChanged a =>
    let e := s.pollConn.endpoint.withHost a.toText
    ({ s with
        pollStage := .retargeting
        pollConn := { s.pollConn.closed with endpoint := e }
        shared := e
        version := s.version + 1 },
      [.connect .poll e])
  | _ => ({ s with pollStage := .idle }, [])

/-- After connecting to a rediscovered address: on success the cycle goes on in this tick. -/
def afterRetarget (r : Except ConnectionError Unit) : State × List Effect :=
  let s := { s with
    pollConn := s.pollConn.afterConnect s.now r
    rediscovery := s.rediscovery.reconnected r.isOk }
  if s.rediscovery.active then ({ s with pollStage := .idle }, []) else s.ensurePoll .cycle

/-- The poll side's step on an answer to the call of `stage`; `none` when the call cannot get
that answer. -/
def pollStep : PollStage → Answer → Option (State × List Effect)
  | .starting, .scheduled => some s.resolve
  | .discovering, .found r => some (s.afterSearch r)
  | .discoveryPause, .elapsed => some ({ s with pollStage := .discovering }, [.discover])
  | .discoveryPause, .cancelled => some (s.stopPoll, [])
  | .connecting side, .connected r => some (s.afterStartupConnect side r)
  | .connectPause side, .elapsed =>
    some ({ s with pollStage := .connecting side }, [.connect side (s.conn side).endpoint])
  | .connectPause _, .cancelled => some (s.stopPoll, [])
  | .loadingFlags, .answered r => some (s.afterFlags r)
  | .sweeping round p, .answered r => some (s.afterPollReply round p r)
  | .initialPause, .elapsed => some (s.ensurePoll .initial)
  | .initialPause, .cancelled => some (s.stopPoll, [])
  | .pinging round, .pinged ok => some (s.afterPollPing round ok)
  | .reconnecting round, .connected r => some (s.afterPollReconnect round r)
  | .idle, .elapsed => some s.onTick
  | .idle, .cancelled => some (s.stopPoll, [])
  | .rediscovering, .found r => some (s.afterRediscovery r)
  | .retargeting, .connected r => some (s.afterRetarget r)
  | _, _ => none

/-! ## The push side -/

def stopPush : State := { s with pushStage := some .stopped }

/-- Listen for the next frame, for at most the listen timeout. -/
def listen : State := { s with pushStage := some .listening, pushWake := s.now + s.listenMs }

/-- Pause for the reconnect delay before the next round of connecting. -/
def pausePush : State := { s with pushStage := some .pausing, pushWake := s.now + s.delayMs }

/-- Subscribe to what the push side watches; with nothing to watch it only listens. -/
def subscribe (resync : Bool) : State × List Effect :=
  if s.subscription.isEmpty then (s.listen, [])
  else ({ s with pushStage := some (.subscribing resync) }, [subscribeRequest s.subscription])

/-- A round of connecting the push side again: stop when cancelled, else take up the shared
endpoint if it was replaced, close and connect. -/
def reconnectPush : State × List Effect :=
  if s.cancelled then (s.stopPush, [])
  else
    let e := if s.seen = s.version then s.pushConn.endpoint else s.shared
    ({ s with
        pushStage := some .connecting
        pushConn := { s.pushConn.closed with endpoint := e }
        seen := s.version },
      [.connect .push e])

/-- After the subscription's answer: listen; if it failed, connect again, or at the end of a
resynchronisation pause first. -/
def afterSubscribe (resync : Bool) (r : Except RequestError Response) : State × List Effect :=
  let s := { s with pushConn := s.pushConn.afterRequest r }
  match r with
  | .ok _ => (s.listen, [.reply .push r])
  | .error _ =>
    let t := if resync then (s.pausePush, []) else s.reconnectPush
    (t.1, .reply .push r :: t.2)

/-- After a read while listening: a frame is handled and the next one awaited; a quiet
connection is checked, and a failed read connects again. -/
def afterRead : Except TransportError String → State × List Effect
  | .ok text => (s.listen, frame text)
  | .error (.timeout _) =>
    match s.pushConn.healthAt s.now with
    | some true => (s.listen, [])
    | some false => s.reconnectPush
    | none => ({ s with pushStage := some .pinging }, [])
  | .error _ => s.reconnectPush

def afterPushPing (ok : Bool) : State × List Effect :=
  let s := { s with pushConn := s.pushConn.pinged s.now ok }
  if ok then (s.listen, []) else s.reconnectPush

/-- After connecting the push side again: ask the minder to reset and sweep. -/
def afterPushConnect : Except ConnectionError Unit → State × List Effect
  | .ok () =>
    ({ s with pushConn := s.pushConn.opened s.now, pushStage := some (.sweeping .start) },
      [.publish .push .reset, SweepProgress.start.current.request .push])
  | .error .cancelled => (s.stopPush, [])
  | .error _ => (s.pausePush, [])

/-- After the resynchronising sweep's current query got `r`: a complete sweep is published as a
snapshot and subscribed to; an incomplete one pauses. -/
def afterPushReply (p : SweepProgress) (r : Except RequestError Response) : State × List Effect :=
  let s := { s with pushConn := s.pushConn.afterRequest r }
  match p.answer r with
  | .next p => ({ s with pushStage := some (.sweeping p) }, [.reply .push r, p.current.request .push])
  | .done o =>
    if o.failed then (s.pausePush, [.reply .push r])
    else
      let t := { s with subscription := Equipment.subscription o.objects }.subscribe true
      (t.1, .reply .push r :: .publish .push (.initial .push o.objects) :: t.2)

/-- The push side's step on an answer to the call of `stage`; `none` when the call cannot get
that answer. -/
def pushStep : PushStage → Answer → Option (State × List Effect)
  | .starting, .scheduled => some (s.subscribe false)
  | .subscribing _, .notified objs => some (s, [.publish .push (.push objs)])
  | .subscribing resync, .answered r => some (s.afterSubscribe resync r)
  | .listening, .cancelled => some (s.stopPush, [])
  | .listening, .received r => some (s.afterRead r)
  | .pinging, .pinged ok => some (s.afterPushPing ok)
  | .connecting, .connected r => some (s.afterPushConnect r)
  | .sweeping _, .notified objs => some (s, [.publish .push (.push objs)])
  | .sweeping p, .answered r => some (s.afterPushReply p r)
  | .pausing, .elapsed => some s.reconnectPush
  | .pausing, .cancelled => some (s.stopPush, [])
  | _, _ => none

/-! ## Runs -/

/-- Whether the world may give `a` to a side whose timer is due at `wake`: a pause, a tick or
a listen timeout only once due, a cancellation only once the run is cancelled. -/
def admits (wake : Nat) : Answer → Bool
  | .elapsed => wake ≤ s.now
  | .received (.error (.timeout _)) => wake ≤ s.now
  | a => !a.reportsCancel || s.cancelled

end State

/-- What the world does next: answer one side's call, cancel the run, or let time pass. -/
inductive Occurrence where
  | poll (a : Answer)
  | push (a : Answer)
  | cancel
  | elapse (ms : Nat)

namespace State

variable (s : State)

/-- One occurrence: an answer the awaited call cannot get, or that the world cannot give yet,
changes nothing. -/
def occur : Occurrence → State × List Effect
  | .poll a => if s.admits s.pollWake a then (s.pollStep s.pollStage a).getD (s, []) else (s, [])
  | .push a =>
    match s.pushStage with
    | some stage => if s.admits s.pushWake a then (s.pushStep stage a).getD (s, []) else (s, [])
    | none => (s, [])
  | .cancel => ({ s with cancelled := true }, [])
  | .elapse ms => ({ s with now := s.now + ms }, [])

/-- A schedule of occurrences: the state reached and the effects in order. -/
def run (sched : List Occurrence) : State × List Effect :=
  sched.foldl (fun acc o => ((acc.1.occur o).1, acc.2 ++ (acc.1.occur o).2)) (s, [])

end State

end PoolMonitor.Poller
