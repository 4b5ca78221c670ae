import PoolMonitor.Poller.Tasks
import PoolMonitor.Json.Write
/-!
# The poller against a simulated installation

A simulated controller answers the poller the way a real one would, on a virtual clock:

* it holds the installation's objects. A parameter list request gets, for each object asked
  for, the objects of the requested type (all of them without a type), or the one named, with
  only the requested parameters; a request to be notified registers the named objects for the
  session that asked; any other request is refused;
* a host can be down (connections to it are refused, sends and pings fail, and its notified
  sessions are closed) or busy (its parameter list requests are refused), and the next request
  with a given condition can be made to fail;
* a change to an object is pushed to every session notified of it, unless it is quiet;
* a search for the controller answers from a list whose last entry repeats.

The bench runs both tasks of the poller (`PoolMonitor.Poller.State`) against it. Each task's
awaited call is answered when the simulation can answer it: a request at once, its answer read
by the connection's correlator (`Exchange.request`) from the frames the controller sent; a ping
or a search at once, a connection attempt after its backoff, a pause or a tick when due, a read
when a frame arrives or the listen timeout runs out. The earliest of these, and the scripted
changes to the installation, are taken in time order. The updates the tasks publish go to a
minder, whose events and readings are recorded with their time, until the run is cancelled.
-/

namespace PoolMonitor.Bench

open PoolMonitor.Json PoolMonitor.Wire PoolMonitor.Equipment PoolMonitor.Discovery
open PoolMonitor.Poller

/-! ## The simulated controller -/

/-- An object of the installation: its name and its parameters. -/
structure Held where
  objnam : String
  params : List (String × Value)
  deriving Inhabited

/-- The parameters `keys` asks for, in the order the object holds them. -/
def Held.only (h : Held) (keys : List String) : List (String × Value) :=
  h.params.filter fun (k, _) => keys.contains k

/-- Set parameters of an object: each given one replaces the one it names, or is added. -/
def Held.set (h : Held) (params : List (String × Value)) : Held :=
  { h with params := params.foldl (fun ps (k, v) =>
      if ps.any (·.1 == k) then ps.map fun (k', v') => if k' == k then (k', v) else (k', v')
      else ps ++ [(k, v)]) h.params }

/-- The object type of an object, if it has one. -/
def Held.objectType (h : Held) : Option String :=
  (h.params.find? (·.1 == Key.objtyp)).bind fun (_, v) => v.asString?

/-- A change made to the installation during a run. -/
inductive Change where
  /-- Set parameters of an object, adding it if it is new, and notify the sessions that
  watch it unless `quiet`. -/
  | set (objnam : String) (params : List (String × Value)) (quiet : Bool)
  /-- Send a frame to every session that watches objects. -/
  | pushRaw (text : String)
  | remove (objnam : String)
  /-- Close every session that watches objects. -/
  | dropPush
  | down (host : String)
  | up (host : String)
  /-- Refuse every parameter list request to a host, or stop doing so. -/
  | busy (host : String)
  | fix (host : String)
  /-- Refuse the next parameter list request with this condition. -/
  | failNext (condition : String)
  /-- Replace the answers to searches. -/
  | answers (found : List (Option Ipv4))

/-- A session the controller holds with one connection. -/
structure Session where
  host : String
  /-- The objects whose changes are pushed to the session. -/
  watched : List String := []
  /-- Frames sent to the session and not yet read. -/
  inbox : List String := []
  /-- Closed by the controller: the next read fails. -/
  dropped : Bool := false
  deriving Inhabited

/-- The simulated controller. -/
structure Controller where
  objects : List Held
  downHosts : List String := []
  busyHosts : List String := []
  failing : List String := []
  /-- What searches find, the last entry repeating, and how many were made. -/
  found : List (Option Ipv4) := []
  searches : Nat := 0
  /-- The open sessions, by number. -/
  sessions : List (Nat × Session) := []
  opened : Nat := 0
  deriving Inhabited

namespace Controller

variable (c : Controller)

def session? (id : Nat) : Option Session := (c.sessions.find? (·.1 == id)).map (·.2)

def updateSession (id : Nat) (f : Session → Session) : Controller :=
  { c with sessions := c.sessions.map fun (i, s) => if i == id then (i, f s) else (i, s) }

/-- Open a session with `host`: its number. -/
def openSession (host : String) : Nat × Controller :=
  (c.opened, { c with sessions := c.sessions ++ [(c.opened, { host })], opened := c.opened + 1 })

def closeSession (id : Nat) : Controller :=
  { c with sessions := c.sessions.filter (·.1 != id) }

/-- Every session that watches objects gets `f`. -/
def toWatchers (f : Session → Session) : Controller :=
  { c with sessions := c.sessions.map fun (i, s) => (i, if s.watched.isEmpty then s else f s) }

/-- A notification of new parameters of one object. -/
def notification (objnam : String) (params : List (String × Value)) : String :=
  (Value.object [("command", .string Command.notifyList), ("messageID", .string "push"),
    ("objectList",
      .array [.object [("objnam", .string objnam), ("params", .object params)]])]).render

/-- Make a change to the installation. -/
def change : Change → Controller
  | .set objnam params quiet =>
    let objects := if c.objects.any (·.objnam == objnam) then
        c.objects.map fun h => if h.objnam == objnam then h.set params else h
      else c.objects ++ [Held.set ⟨objnam, []⟩ params]
    let c := { c with objects }
    if quiet then c
    else { c with sessions := c.sessions.map fun (i, s) =>
      (i, if s.watched.contains objnam then
        { s with inbox := s.inbox ++ [notification objnam params] } else s) }
  | .pushRaw text => c.toWatchers fun s => { s with inbox := s.inbox ++ [text] }
  | .remove objnam => { c with objects := c.objects.filter (·.objnam != objnam) }
  | .dropPush => c.toWatchers fun s => { s with dropped := true }
  | .down host =>
    { c with
      downHosts := host :: c.downHosts
      sessions := c.sessions.map fun (i, s) =>
        (i, if s.host == host && !s.watched.isEmpty then { s with dropped := true } else s) }
  | .up host => { c with downHosts := c.downHosts.filter (· != host) }
  | .busy host => { c with busyHosts := host :: c.busyHosts }
  | .fix host => { c with busyHosts := c.busyHosts.filter (· != host) }
  | .failNext condition => { c with failing := c.failing ++ [condition] }
  | .answers found => { c with found, searches := 0 }

/-- A search for the controller. -/
def search : Found × Controller :=
  let entry := c.found[min c.searches (c.found.length - 1)]?
  let c := { c with searches := c.searches + 1 }
  match entry with
  | some (some a) => (.addr a, c)
  | _ => (.failed, c)

/-- The objects a parameter list request with `condition` gets for one query: of the type the
condition names, or all of them, when it asks for every object; else the one it names. -/
def matching (condition : String) (q : ObjectQuery) : List Held :=
  if q.objnam == allObjects then
    let typed := Key.objtyp ++ "="
    if condition.startsWith typed then
      c.objects.filter fun h => h.objectType == some (condition.drop typed.length).toString
    else c.objects
  else c.objects.filter (·.objnam == q.objnam)

/-- An answer to request `id`. -/
def reply (id code : String) (members : List (String × Value)) : String :=
  (Value.object ([("command", .string Command.sendParamList), ("messageID", .string id),
    ("response", .string code)] ++ members)).render

/-- Answer a request sent on session `sid` with `host`: the frame, and the controller after
it (a condition made to fail is used up, a subscription registered). -/
def answer (sid : Nat) (host id command condition : String) (objects : List ObjectQuery) :
    String × Controller :=
  if command == Command.getParamList then
    if c.busyHosts.contains host then
      (reply id "500" [("description", .string "busy")], c)
    else if c.failing.contains condition then
      (reply id "500" [("description", .string "busy")],
        { c with failing := c.failing.erase condition })
    else
      let listed := objects.flatMap fun q => (c.matching condition q).map fun h =>
        Value.object [("objnam", .string h.objnam), ("params", .object (h.only q.keys))]
      (reply id "200" [("objectList", .array listed)], c)
  else if command == Command.requestParamList then
    (reply id "200" [("objectList", .array [])],
      c.updateSession sid fun s => { s with watched := s.watched ++ objects.map (·.objnam) })
  else (reply id "400" [], c)

end Controller

/-- What a task waits for. -/
inductive Awaiting where
  /-- Nothing: the task stopped, or has not started. -/
  | nothing
  /-- Answers given at once, one after the other. -/
  | ready (answers : List Answer)
  /-- Its timer: a pause, or the poll loop's next tick. -/
  | timer
  /-- The next frame on the push connection, or the listen timeout. -/
  | frame
  /-- Attempt number `attempt` to connect connection `conn` to `e`, due at `due`. -/
  | connecting (conn : Side) (e : Endpoint) (attempt due : Nat)

/-! ## A run -/

/-- A run of the poller against the simulated controller. -/
structure Run where
  poller : State
  controller : Controller
  minder : Minder := {}
  pollAwaits : Awaiting := .ready [.scheduled]
  pushAwaits : Awaiting := .nothing
  /-- The controller's session with each connection. -/
  pollSession : Option Nat := none
  pushSession : Option Nat := none
  /-- Changes to the installation still to come, with their time. -/
  changes : List (Nat × Change)
  /-- When the run is cancelled. -/
  stopAt : Nat
  issued : Nat := 0
  events : Array (Nat × Event) := #[]
  readings : Nat := 0
  sent : Array (Nat × String × String × String) := #[]
  connects : Array (Nat × String × Bool) := #[]
  searches : Array Nat := #[]

/-- What the run does next. -/
inductive Next where
  | poll (a : Answer)
  | push (a : Answer)
  /-- A connection attempt of the task on this side. -/
  | attempt (task : Side)
  | change
  | cancel

namespace Run

variable (w : Run)

def now : Nat := w.poller.now

def sessionOf : Side → Option Nat
  | .poll => w.pollSession
  | .push => w.pushSession

def withSession : Side → Option Nat → Run
  | .poll, id => { w with pollSession := id }
  | .push, id => { w with pushSession := id }

def awaits : Side → Awaiting
  | .poll => w.pollAwaits
  | .push => w.pushAwaits

def withAwaits : Side → Awaiting → Run
  | .poll, a => { w with pollAwaits := a }
  | .push, a => { w with pushAwaits := a }

/-- When and how a task's awaited call is answered, with a rank that orders what happens in the
same millisecond: answers given at once first, then changes to the installation, the
cancellation, and last the timers and connection attempts. -/
def taskNext (task : Side) (wake : Nat) (answer : Answer → Next) : Option (Nat × Nat × Next) :=
  let s := w.poller
  match w.awaits task with
  | .nothing => none
  | .ready [] => none
  | .ready (a :: _) => some (s.now, 0, answer a)
  | .timer =>
    if s.cancelled then some (s.now, 4, answer .cancelled)
    else some (max s.now wake, 4, answer .elapsed)
  | .frame =>
    if s.cancelled then some (s.now, 4, answer .cancelled)
    else match (w.sessionOf task).bind w.controller.session? with
      | none => some (s.now, 4, answer (.received (.error .notConnected)))
      | some sess =>
        match sess.inbox with
        | text :: _ => some (s.now, 4, answer (.received (.ok text)))
        | [] =>
          if sess.dropped then some (s.now, 4, answer (.received (.error .closed)))
          else some (max s.now wake, 4,
            answer (.received (.error (.timeout s.config.listenTimeout))))
  | .connecting _ _ _ due =>
    if s.cancelled then some (s.now, 4, answer (.connected (.error .cancelled)))
    else some (max s.now due, 4, .attempt task)

/-- The earliest of two candidates, the first on a tie. -/
def earlier : Option (Nat × Nat × Next) → Option (Nat × Nat × Next) → Option (Nat × Nat × Next)
  | none, b => b
  | a, none => a
  | some a, some b => if b.1 < a.1 || (b.1 == a.1 && b.2.1 < a.2.1) then some b else some a

/-- What happens next, and when; `none` once the run is over or the program panicked. -/
def next? : Option (Nat × Next) :=
  let s := w.poller
  let ended := s.cancelled && s.pollStage matches .stopped &&
    (match s.pushStage with
      | none => true
      | some .stopped => true
      | some _ => false)
  if ended || w.poller.panicked.isSome then none
  else
    let change := match w.changes with
      | (t, _) :: _ => some (max s.now t, 2, Next.change)
      | [] => none
    let cancel := if s.cancelled then none else some (max s.now w.stopAt, 3, Next.cancel)
    let best := [w.taskNext .push s.pushWake .push, change, cancel].foldl earlier
      (w.taskNext .poll s.pollWake .poll)
    best.map fun (t, _, n) => (t, n)

/-- Hand an update to the minder, recording what it reports; nothing is handled once the run
is cancelled. -/
def publish (u : Update) : Run :=
  if w.poller.cancelled then w
  else
    let (minder, applied) := w.minder.handle u
    { w with
      minder
      events := applied.events.foldl (fun acc e => acc.push (w.now, e)) w.events
      readings := w.readings + applied.readings.length }

/-- The connection of `side` as its correlator sees it while a request is answered: an open
session whose frames still to read are `frames`, each exactly as the controller sent it. -/
def exchangeOn (side : Side) (frames : List String) : Exchange :=
  { line :=
      { now := w.now
        link := { w.poller.conn side with session := true, healthy := true }
        peer := { frames := frames.map .verbatim } }
    correlator := { policy := w.poller.config.correlatorPolicy, routesPushes := side == .push }
    issued := w.issued }

/-- The bench after a request written to `host` on session `sid`, the controller being
`controller` once it answered, and the exchange ending with `result`: when the read panicked the
poller panics with it; otherwise the session keeps the frames left unread, and the task gets
each notification handed on while it waited and then the outcome. -/
def settleRequest (sid : Nat) (host command condition : String) (controller : Controller)
    (result : Except RequestError Response × Exchange) : Run × List Answer :=
  let written := { w with sent := w.sent.push (w.now, host, command, condition) }
  let x := result.2
  match x.line.panicked with
  | some message => ({ written with poller := { w.poller with panicked := some message } }, [])
  | none =>
    ({ written with
        controller := controller.updateSession sid fun s =>
          { s with inbox := x.line.peer.frames.filterMap x.line.peer.frameText }
        issued := x.issued },
      Answer.ofRequest result)

/-- The bench after a request written on the connection of `side` to `host`, on session `sid`,
which the controller answered with `reply`: the connection reads the frames queued for the
session and then the answer. -/
def afterAnswer (side : Side) (sid : Nat) (host command condition : String)
    (objects : List ObjectQuery) (reply : String × Controller) : Run × List Answer :=
  w.settleRequest sid host command condition reply.2
    ((w.exchangeOn side (((reply.2.session? sid).map (·.inbox)).getD [] ++ [reply.1])).request
      command condition objects)

/-- Send a request on the connection of `side` and read its answer: the answers the task
gets, each notification handed on while it waits and then the outcome. When the read panics,
the poller panics with it: the request was written, and nothing is answered. -/
def request (side : Side) (command condition : String) (objects : List ObjectQuery) :
    Run × List Answer :=
  match w.sessionOf side, (w.poller.conn side).session with
  | some sid, true =>
    match w.controller.session? sid with
    | none => (w, [.answered (.error (.transport .notConnected))])
    | some sess =>
      if sess.dropped || w.controller.downHosts.contains sess.host then
        (w, [.answered (.error (.transport .closed))])
      else
        -- the controller answers under the id the request goes out with
        w.afterAnswer side sid sess.host command condition objects
          (w.controller.answer sid sess.host (w.exchangeOn side sess.inbox).freshId.1 command
            condition objects)
  | _, _ => (w, [.answered (.error (.transport .notConnected))])

/-- Whether a ping on the connection of `side` succeeds. -/
def ping (side : Side) : Bool :=
  match (w.sessionOf side).bind w.controller.session? with
  | some sess => !w.controller.downHosts.contains sess.host
  | none => false

/-- Close the controller's sessions of connections the poller closed. -/
def syncSessions : Run :=
  let close (w : Run) (side : Side) : Run :=
    match w.sessionOf side with
    | some sid =>
      if (w.poller.conn side).session then w
      else { (w.withSession side none) with controller := w.controller.closeSession sid }
    | none => w
  close (close w .poll) .push

/-- Carry out what a task's step left behind: publish its updates and make the call it
awaits next. -/
def afterStep (task : Side) (effects : List Effect) : Run :=
  let (w, call) := effects.foldl (fun (acc : Run × Option Awaiting) e =>
    let (w, call) := acc
    match e with
    | .publish _ u => (w.publish u, call)
    | .request side command condition objects =>
      let (w, answers) := w.request side command condition objects
      (w, some (.ready answers))
    | .connect conn e => (w, some (.connecting conn e 0 w.now))
    | .discover =>
      let (found, controller) := w.controller.search
      ({ w with controller, searches := w.searches.push w.now }, some (.ready [.found found]))
    | _ => (w, call)) (w.syncSessions, none)
  let s := w.poller
  let call := call.getD <| match task with
    | .poll =>
      match s.pollStage with
      | .pinging _ => .ready [.pinged (w.ping .poll)]
      | .idle | .discoveryPause | .connectPause _ | .initialPause => .timer
      | _ => .nothing
    | .push =>
      match s.pushStage with
      | some .starting => .ready [.scheduled]
      | some .pinging => .ready [.pinged (w.ping .push)]
      | some .listening => .frame
      | some .pausing => .timer
      | _ => .nothing
  -- the push task starts when the poll task publishes the first snapshot
  let w := match task, w.pushAwaits, s.pushStage with
    | .poll, .nothing, some .starting => { w with pushAwaits := .ready [.scheduled] }
    | _, _, _ => w
  w.withAwaits task call

/-- Publish the updates of a step whose call goes on. -/
def publishAll (effects : List Effect) : Run :=
  effects.foldl (fun w e => match e with
    | .publish _ u => w.publish u
    | _ => w) w

/-- A frame the push task read while listening leaves its session's inbox. -/
def consume (task : Side) (a : Answer) : Run :=
  match task, a, w.sessionOf task with
  | .push, .received (.ok _), some sid =>
    { w with controller := w.controller.updateSession sid fun s => { s with inbox := s.inbox.drop 1 } }
  | _, _, _ => w

/-- Give a task an answer. -/
def answer (task : Side) (a : Answer) : Run :=
  let rest := match w.awaits task with
    | .ready (_ :: rest) => rest
    | _ => []
  let w := w.consume task a
  let step := w.poller.occur (match task with
    | .poll => .poll a
    | .push => .push a)
  let w := { w with poller := step.1 }
  if rest.isEmpty then w.afterStep task step.2
  else (w.syncSessions.withAwaits task (.ready rest)).publishAll step.2

/-- The connection of `conn` as the connect call sees it when it tries `e`: the controller
accepts the attempt unless the host is down, and refuses it when it is. -/
def dialing (conn : Side) (e : Endpoint) : Line :=
  { now := w.now
    link := { w.poller.conn conn with endpoint := e }
    peer := { connectSteps := [if w.controller.downHosts.contains e.host then .refuse else .accept] } }

/-- Connection attempt number `k` of the task on `task`'s side, as a round of the connect call:
an accepted attempt opens a session with the controller; a refused one leaves the next attempt
due after its backoff delay, or ends the call. -/
def attempt (task : Side) : Run :=
  match w.awaits task with
  | .connecting conn e k _ =>
    let accepted := !w.controller.downHosts.contains e.host
    let total := Line.attemptCount (w.poller.conn conn).policy
    let round := Line.attemptRound total k none (w.dialing conn e)
    let w := { w with connects := w.connects.push (w.now, e.host, accepted) }
    match round with
    | (.done (.ok ()), _) =>
      let (sid, controller) := w.controller.openSession e.host
      ({ w with controller }.withSession conn (some sid)).withAwaits task
        (.ready [.connected (.ok ())])
    | (.done r, _) => w.withAwaits task (.ready [.connected r])
    | (.next k, l) => w.withAwaits task (.connecting conn e k (l.readyAt k))
  | _ => w

/-- Do what happens next at time `t`. -/
def perform (t : Nat) : Next → Run
  | .poll a => { w with poller := (w.poller.occur (.elapse (t - w.now))).1 }.answer .poll a
  | .push a => { w with poller := (w.poller.occur (.elapse (t - w.now))).1 }.answer .push a
  | .attempt task => { w with poller := (w.poller.occur (.elapse (t - w.now))).1 }.attempt task
  | .change =>
    let w := { w with poller := (w.poller.occur (.elapse (t - w.now))).1 }
    match w.changes with
    | (_, c) :: rest => { w with controller := w.controller.change c, changes := rest }
    | [] => w
  | .cancel =>
    let w := { w with poller := (w.poller.occur (.elapse (t - w.now))).1 }
    { w with poller := (w.poller.occur .cancel).1 }

/-- Run for at most `fuel` steps. -/
def go : Nat → Run → Run
  | 0, w => w
  | fuel + 1, w =>
    match w.next? with
    | none => w
    | some (t, n) => go fuel (w.perform t n)

end Run

/-! ## Setting up and reporting -/

/-- A run as it begins: changes due at time zero are made before the poller starts. -/
def Run.start (config : Config) (objects : List Held) (found : List (Option Ipv4))
    (changes : List (Nat × Change)) (stopAt : Nat) : Run :=
  let (first, later) := changes.partition (·.1 == 0)
  { poller := State.start config
    controller := first.foldl (fun c (_, ch) => c.change ch) { objects, found }
    changes := later.mergeSort fun a b => a.1 ≤ b.1
    stopAt }

/-- Lexicographic order of records of what was sent. -/
def sentLe (a b : Nat × String × String × String) : Bool :=
  a.1 < b.1 || (a.1 == b.1 && (a.2.1 < b.2.1 || (a.2.1 == b.2.1 &&
    (a.2.2.1 < b.2.2.1 || (a.2.2.1 == b.2.2.1 && a.2.2.2 ≤ b.2.2.2)))))

/-- Lexicographic order of records of connection attempts. -/
def connectLe (a b : Nat × String × Bool) : Bool :=
  a.1 < b.1 || (a.1 == b.1 && (a.2.1 < b.2.1 || (a.2.1 == b.2.1 && (!a.2.2 || b.2.2))))

/-- What a run reports: the events with their time, how many readings were taken, what was
sent and connected to (in order of time, then text), when searches were made, when the run
ended, and what the program panicked with, if it did. -/
structure Report where
  events : List (Nat × Event)
  readings : Nat
  sent : List (Nat × String × String × String)
  connects : List (Nat × String × Bool)
  searches : List Nat
  endedMs : Nat
  panic : Option String

/-- The report of a finished run. -/
def Run.report (w : Run) : Report where
  events := w.events.toList
  readings := w.readings
  sent := w.sent.toList.mergeSort sentLe
  connects := w.connects.toList.mergeSort connectLe
  searches := w.searches.toList
  endedMs := w.now
  panic := w.poller.panicked

end PoolMonitor.Bench
