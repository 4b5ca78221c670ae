import PoolMonitor.Equipment.Minder
import PoolMonitor.Equipment.Sweep
import PoolMonitor.Discovery.Rediscovery
import PoolMonitor.Config.Schema
/-!
# What the poller's tasks wait for, and what they leave behind

The poller runs two tasks against the controller. The poll side finds the controller, opens
both connections, reads the feature flags and a first snapshot, then sweeps the installation on
a timer; the push side, started once the first snapshot is published, subscribes to changes
and listens, connecting again and re-reading everything whenever its connection fails.

Each task waits on one call at a time: a search for the controller, a connection, a ping, a
request, a read, a pause, the next tick. What the call comes back with is the outside world's
choice, an `Answer`; from it the task's code runs on deterministically up to its next call,
and on the way it publishes updates to the minder, sends requests and opens connections
(`Effect`). Which task is answered next is the world's choice too (`PoolMonitor.Poller.Tasks`).

This module gives the answers and effects, the progress of a sweep whose queries are answered
one by one, and the bookkeeping of a connection's health between calls.
-/

namespace PoolMonitor

open PoolMonitor.Wire PoolMonitor.Equipment PoolMonitor.Discovery

/-! ## A connection's health between calls

A connection is checked before use: with no open session, or one marked unhealthy, it is not
usable; with a check younger than the health-check interval it is; otherwise the controller is
pinged. A failed request marks the session unhealthy when it says the exchange is broken
(the transport failed, the answer never came, or it answered another request), and leaves it
alone when the controller refused the request. -/

/-- The link once its session is closed. -/
def Link.closed (k : Link) : Link :=
  { k with session := false, healthy := false, lastHealthCheck := none }

/-- What a health check at `now` tells without asking the controller; `none` when it must
ping. -/
def Link.healthAt (k : Link) (now : Nat) : Option Bool :=
  if !k.session || !k.healthy then some false
  else match k.lastHealthCheck with
    | some last =>
      if (now - last) * 1000000 < k.policy.healthCheckInterval.toNanos then some true else none
    | none => none

/-- The link after a ping answered at `now`. -/
def Link.pinged (k : Link) (now : Nat) (ok : Bool) : Link :=
  { k with lastHealthCheck := some now, healthy := k.healthy && ok }

/-- Whether a failed request leaves the session unusable. -/
def RequestError.marksUnhealthy : RequestError → Bool
  | .transport _ => true
  | .wire _ => false
  | .correlation (.mismatch _ _) => true
  | .correlation (.timeout _ _) => true
  | .correlation (.protocol _ _) => false

/-- The link after a request got its answer. -/
def Link.afterRequest (k : Link) : Except RequestError Response → Link
  | .ok _ => k
  | .error e => if e.marksUnhealthy then { k with healthy := false } else k

/-- The link after a connection attempt ended at `now`. -/
def Link.afterConnect (k : Link) (now : Nat) : Except ConnectionError Unit → Link
  | .ok () => k.opened now
  | .error _ => k

namespace Poller

/-! ## Answers and effects -/

/-- The two connections to the controller; each belongs to the task of the same name once the
push side runs. -/
inductive Side where
  | poll
  | push
  deriving Repr, DecidableEq

/-- What a search for the controller came back with. -/
inductive Found where
  | addr (a : Ipv4)
  | cancelled
  | failed

def Found.addr? : Found → Option Ipv4
  | .addr a => some a
  | _ => none

/-- What an awaited call came back with. -/
inductive Answer where
  /-- The task is run for the first time. -/
  | scheduled
  /-- A pause ended, or the poll loop's timer ticked. -/
  | elapsed
  /-- The run was cancelled while the task waited for a pause, a tick or a read. -/
  | cancelled
  | found (r : Found)
  | connected (r : Except ConnectionError Unit)
  | pinged (ok : Bool)
  /-- A change notification arrived while a request of the push side waited for its answer. -/
  | notified (objects : List ObjectData)
  | answered (r : Except RequestError Response)
  | received (r : Except TransportError String)

/-- Whether the answer says the run was cancelled: the world gives one only once it is. -/
def Answer.reportsCancel : Answer → Bool
  | .cancelled => true
  | .found .cancelled => true
  | .connected (.error .cancelled) => true
  | _ => false

/-- The answers a request gives the task that made it, from the exchange that carried it: each
notification handed to the push handler while it waited, in order, then its outcome. -/
def Answer.ofRequest (r : Except RequestError Response × Exchange) : List Answer :=
  r.2.pushes.toList.map (fun resp => .notified resp.objects) ++ [.answered r.1]

/-- What a task leaves behind, in order. -/
inductive Effect where
  /-- An update sent to the minder. -/
  | publish (side : Side) (u : Update)
  /-- A request sent to the controller. -/
  | request (side : Side) (command condition : String) (objects : List ObjectQuery)
  /-- The answer a request got. -/
  | reply (side : Side) (r : Except RequestError Response)
  /-- A connection attempt to an endpoint. -/
  | connect (side : Side) (e : Endpoint)
  /-- A search for the controller (by the poll side). -/
  | discover
  /-- A tick of the poll loop. -/
  | tick

end Poller

def Equipment.SweepQuery.request (q : SweepQuery) (side : Poller.Side) : Poller.Effect :=
  .request side Command.getParamList q.condition q.objects

namespace Poller

/-! ## A sweep, one answer at a time

A sweep sends its queries in order and stops at the first failure. Under way, it holds the
answers so far, all successful; the query awaiting its answer is the next one, which exists
by the bound the progress carries. -/

/-- A sweep under way. -/
structure SweepProgress where
  replies : List Response
  inRange : replies.length < sweepQueries.length

def SweepProgress.start : SweepProgress := ⟨[], by decide⟩

@[simp] theorem SweepProgress.replies_start : SweepProgress.start.replies = [] := rfl

/-- The query awaiting its answer. -/
def SweepProgress.current (p : SweepProgress) : SweepQuery :=
  sweepQueries.get ⟨p.replies.length, p.inRange⟩

/-- Where a sweep goes on an answer: to the next query, or to its outcome. -/
inductive SweepStep where
  | next (p : SweepProgress)
  | done (outcome : SweepOutcome)

/-- The sweep after the current query got `r`. -/
def SweepProgress.answer (p : SweepProgress) : Except RequestError Response → SweepStep
  | .ok resp =>
    if h : p.replies.length + 1 < sweepQueries.length then
      .next ⟨p.replies ++ [resp], by simpa using h⟩
    else .done { objects := (p.replies ++ [resp]).flatMap (·.objects) }
  | .error e =>
    .done { objects := p.replies.flatMap (·.objects), error := some (p.current.name, e) }

/-- A sweep goes on only after a successful answer, which it keeps. -/
theorem SweepProgress.answer_eq_next {p p' : SweepProgress} {r : Except RequestError Response}
    (h : p.answer r = .next p') : ∃ resp, r = .ok resp ∧ p'.replies = p.replies ++ [resp] := by
  cases r with
  | error e => cases h
  | ok resp =>
    simp only [answer] at h
    split at h
    · cases h
      exact ⟨resp, rfl, rfl⟩
    · cases h

/-- A sweep that ends without failure got a successful answer to its last query, and its
objects are those of all its answers. -/
theorem SweepProgress.answer_eq_done {p : SweepProgress} {r : Except RequestError Response}
    {o : SweepOutcome} (h : p.answer r = .done o) (hok : o.failed = false) :
    ∃ resp, r = .ok resp ∧ sweepQueries.length ≤ p.replies.length + 1 ∧
      o.objects = (p.replies ++ [resp]).flatMap (·.objects) := by
  cases r with
  | error e =>
    cases h
    simp [SweepOutcome.failed] at hok
  | ok resp =>
    simp only [answer] at h
    split at h
    · cases h
    · rename_i hlast
      cases h
      exact ⟨resp, rfl, by omega, rfl⟩

end Poller

end PoolMonitor
