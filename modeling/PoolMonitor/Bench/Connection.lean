import PoolMonitor.Equipment.Sweep
/-!
# Exercising a connection

A bench runs a connection and its correlator against the scripted controller, one operation at
a time: connecting, checking health, letting time pass, changing the script, sending and
reading frames, making requests and sweeps. Each operation gives an outcome and the new state;
a run of operations is a fold of `step`, which a panic ends.
-/

namespace PoolMonitor.Bench

open PoolMonitor.Wire PoolMonitor.Equipment

/-- One operation on the bench. -/
inductive BenchOp where
  | connect
  | ensureConnected
  | close
  | markDisconnected
  | isHealthy
  | advance (ms : Nat)
  | setEndpoint (e : Endpoint)
  | setPingFail (on : Bool)
  | failSends (count : Nat)
  | addFrames (frames : List FrameStep)
  | routePushes
  | sendText (text : String)
  | recvText (deadlineMs : Nat)
  | request (command condition : String) (objects : List ObjectQuery)
  | sendRequest (command condition : String) (objects : List ObjectQuery)
  | readResponse (expected : String)
  | sweepStale (ms : Nat)
  | isPending (id : String)
  | sweep
  | loadFeatureFlags

/-- What an operation gave. -/
inductive Outcome where
  | nothing
  | flag (b : Bool)
  | count (n : Nat)
  | connected (r : Except ConnectionError Unit)
  | delivered (r : Except TransportError Unit)
  | received (r : Except TransportError String)
  | answered (r : Except RequestError Response)
  | issued (r : Except RequestError String)
  | swept (s : SweepOutcome)
  | flags (r : Except RequestError (Dict String))

/-- How a bench is set up. -/
structure Setup where
  endpoint : Endpoint
  policy : RetryPolicy
  correlator : CorrelatorPolicy
  connectTimeout : Duration := defaultConnectTimeout
  connectSteps : List ConnectStep := []
  frames : List FrameStep := []
  failPing : Bool := false

/-- The bench before any operation. -/
def Setup.start (s : Setup) : Exchange where
  line := {
    link := { endpoint := s.endpoint, policy := s.policy, connectTimeout := s.connectTimeout }
    peer := { connectSteps := s.connectSteps, frames := s.frames, failPing := s.failPing } }
  correlator := { policy := s.correlator }

/-- Change the scripted controller. -/
def withPeer (x : Exchange) (f : Script → Script) : Exchange :=
  { x with line := { x.line with peer := f x.line.peer } }

/-- An operation's result, told by `k`, with the state after it. -/
def report {α : Type} (k : α → Outcome) (r : α × Exchange) : Outcome × Exchange := (k r.1, r.2)

@[simp] theorem report_fst {α : Type} (k : α → Outcome) (r : α × Exchange) :
    (report k r).1 = k r.1 := rfl

@[simp] theorem report_snd {α : Type} (k : α → Outcome) (r : α × Exchange) :
    (report k r).2 = r.2 := rfl

/-- Run one operation. -/
def step (x : Exchange) : BenchOp → Outcome × Exchange
  | .connect => report .connected (x.onLine (·.connect none))
  | .ensureConnected => report .connected (x.onLine (·.ensureConnected none))
  | .close => (.nothing, { x with line := x.line.close })
  | .markDisconnected => (.nothing, { x with line := x.line.markDisconnected })
  | .isHealthy => report .flag (x.onLine Line.isHealthy)
  | .advance ms => (.nothing, { x with line := x.line.wait ms })
  | .setEndpoint e =>
    (.nothing, { x with line := { x.line with link := { x.line.link with endpoint := e } } })
  | .setPingFail on => (.nothing, withPeer x fun p => { p with failPing := on })
  | .failSends n => (.nothing, withPeer x fun p => { p with failSends := n })
  | .addFrames fs => (.nothing, withPeer x fun p => { p with frames := p.frames ++ fs })
  | .routePushes => (.nothing, x.withCorrelator fun c => { c with routesPushes := true })
  | .sendText text => report .delivered (x.onLine (·.sendText text))
  | .recvText ms => report .received (x.onLine (·.recvText (Duration.ofMillis ms)))
  | .request c cond objs => report .answered (x.request c cond objs)
  | .sendRequest c cond objs => report .issued (x.sendRequest c cond objs)
  | .readResponse id => report .answered (x.readMatchingResponse id)
  | .sweepStale ms => report .count (x.sweepStale (Duration.ofMillis ms))
  | .isPending id => (.flag (x.correlator.isPending id), x)
  | .sweep => report .swept (Equipment.sweep x)
  | .loadFeatureFlags => report .flags (Equipment.loadFeatureFlags x)

/-- Run operations in order: each outcome with the state after it. A panic ends the run: nothing
goes on after the operation that panicked. -/
def run (x : Exchange) : List BenchOp → List (Outcome × Exchange)
  | [] => []
  | op :: rest =>
    let (o, x) := step x op
    (o, x) :: if x.line.panicked.isSome then [] else run x rest

end PoolMonitor.Bench
