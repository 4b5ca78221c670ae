import Mathlib
import PoolMonitor.Link.Correlator
/-!
# Waiting for a response

While a request waits for its response, every frame the controller sends is read in turn.
The scripted controller fixes what those reads get: `Script.arrivals` lists them, the frames and
failures up to the first entry that never answers, and `Script.pauseTotal` is the time the
pauses before them take. When all of it fits before the read deadline (`FramesBefore`), the
wait is a walk down that list:

* a frame that is `skippable` (it does not decode, or it is a notification under another id)
  is passed over, and a notification is handed on (`awaitFrom_skip`); a run of them composes
  (`awaitFrom_skipAll`, through the relation `Skipped`);
* the first other arrival ends the wait: the expected answer, a response to another request, or
  a failure; an empty list is a timeout at the deadline.

`readMatchingResponse_frames` puts it together: with `k` leading skippable frames and room for
`maxSkips` skips, more than `maxSkips` of them time out after exactly `maxSkips + 1` reads, and
otherwise frame `k` decides the outcome. A read starts only by a deadline the clock can hold:
past it, reading panics (`readMatchingResponse_eq`).
-/

namespace PoolMonitor

open PoolMonitor.Wire

@[simp] theorem Duration.toNanos_ofNanos (n : Nat) : (Duration.ofNanos n).toNanos = n :=
  Nat.div_add_mod' n _

/-! ## What the reads of a script get -/

namespace Script

/-- What the reads of a receive script get, in order, when none of them runs out of time: the
frames and failures up to the first entry that never answers. Pauses only take time. -/
def arrivalsFrom (s : Script) : List FrameStep → List (Except TransportError String)
  | [] => []
  | .delay _ :: rest => s.arrivalsFrom rest
  | .hang :: _ => []
  | .fail :: rest => .error .closed :: s.arrivalsFrom rest
  | .invalid d :: rest => .error (.invalidFrame d) :: s.arrivalsFrom rest
  | step :: rest => .ok ((s.frameText step).getD "") :: s.arrivalsFrom rest

def arrivals (s : Script) : List (Except TransportError String) := s.arrivalsFrom s.frames

/-- The milliseconds of pause before the first entry that never answers. -/
def pauseTotal : List FrameStep → Nat
  | [] => 0
  | .delay ms :: rest => ms + pauseTotal rest
  | .hang :: _ => 0
  | _ :: rest => pauseTotal rest

/-- Arrivals read the sent texts only, never the entries left. -/
@[simp] theorem arrivalsFrom_frames (s : Script) (l : List FrameStep) :
    ({ s with frames := l } : Script).arrivalsFrom = s.arrivalsFrom := by
  funext steps
  induction steps with
  | nil => rfl
  | cons step rest ih => cases step <;> simp only [arrivalsFrom, ih] <;> rfl

end Script

/-- What a read hears when the script gives the arrival `a`. -/
def Heard.ofArrival : Except TransportError String → Heard
  | .ok text => .frame text
  | .error e => .failure e

namespace Script

theorem hear_arrival (s : Script) {steps : List FrameStep} {budget : Nat}
    (h : pauseTotal steps ≤ budget) {a : Except TransportError String} {rest}
    (ha : s.arrivalsFrom steps = a :: rest) :
    ∃ w left, w + pauseTotal left ≤ pauseTotal steps ∧ s.arrivalsFrom left = rest ∧
      s.hear budget steps = (Heard.ofArrival a, w, left) := by
  induction steps generalizing budget with
  | nil => simp [arrivalsFrom] at ha
  | cons step steps ih =>
    cases step
    case delay ms =>
      simp only [pauseTotal] at h
      obtain ⟨w, left, hw, hl, hh⟩ := @ih (budget - ms) (by omega) ha
      refine ⟨ms + w, left, by simp only [pauseTotal]; omega, hl, ?_⟩
      simp [hear, if_pos (show ms ≤ budget by omega), hh]
    case hang => simp [arrivalsFrom] at ha
    -- every other entry is heard at once and is the next arrival
    all_goals
      simp only [arrivalsFrom, List.cons.injEq] at ha
      obtain ⟨rfl, rfl⟩ := ha
      exact ⟨0, steps, by simp [pauseTotal], rfl, rfl⟩

theorem hear_silence (s : Script) {steps : List FrameStep} {budget : Nat}
    (h : pauseTotal steps ≤ budget) (ha : s.arrivalsFrom steps = []) :
    ∃ left, s.hear budget steps = (.silence, budget, left) := by
  induction steps generalizing budget with
  | nil => exact ⟨[], rfl⟩
  | cons step steps ih =>
    cases step
    case delay ms =>
      simp only [pauseTotal] at h
      obtain ⟨left, hh⟩ := @ih (budget - ms) (by omega) ha
      refine ⟨left, ?_⟩
      simp [hear, if_pos (show ms ≤ budget by omega), hh]
      omega
    case hang => exact ⟨steps, rfl⟩
    all_goals simp [arrivalsFrom] at ha

theorem timeout_not_mem_arrivalsFrom (s : Script) (steps : List FrameStep) (d : Duration) :
    .error (.timeout d) ∉ s.arrivalsFrom steps := by
  induction steps with
  | nil => simp [arrivalsFrom]
  | cons step rest ih => cases step <;> simp [arrivalsFrom, ih]

end Script

namespace Line

/-- A read within a budget that covers every pause gets the next arrival, takes the pauses
before it, and marks the session unhealthy exactly when the arrival is a failure. -/
theorem recvText_arrival (l : Line) (d : Duration) (hs : l.link.session = true)
    (h : Script.pauseTotal l.peer.frames ≤ d.ceilMillis) {a : Except TransportError String} {rest}
    (ha : l.peer.arrivals = a :: rest) :
    ∃ w left, w + Script.pauseTotal left ≤ Script.pauseTotal l.peer.frames ∧
      l.peer.arrivalsFrom left = rest ∧
      l.recvText d = (a,
        { l with
          now := l.now + w
          peer := { l.peer with frames := left }
          link := if a.isOk then l.link else { l.link with healthy := false } }) := by
  obtain ⟨w, left, hw, hl, hh⟩ := l.peer.hear_arrival h ha
  refine ⟨w, left, hw, hl, ?_⟩
  simp only [recvText, hs, Bool.not_true, Bool.false_eq_true, ↓reduceIte, Script.receive, hh]
  cases a <;> rfl

/-- A read with no arrival left waits out its whole budget and times out. -/
theorem recvText_silence (l : Line) (d : Duration) (hs : l.link.session = true)
    (h : Script.pauseTotal l.peer.frames ≤ d.ceilMillis) (ha : l.peer.arrivals = []) :
    ∃ left, l.recvText d = (.error (.timeout d),
      { l with now := l.now + d.ceilMillis, peer := { l.peer with frames := left } }) := by
  obtain ⟨left, hh⟩ := l.peer.hear_silence h ha
  refine ⟨left, ?_⟩
  simp only [recvText, hs, Bool.not_true, Bool.false_eq_true, ↓reduceIte, Script.receive, hh]

end Line

/-! ## The prefix a wait skips -/

section TakeWhile

variable {α : Type} (p : α → Bool) (l : List α)

/-- The element after the longest prefix satisfying `p` is the first element that `dropWhile`
keeps. -/
theorem getElem?_length_takeWhile : l[(l.takeWhile p).length]? = (l.dropWhile p).head? := by
  have h := @List.getElem?_append_right _ (l.takeWhile p) (l.dropWhile p) _ le_rfl
  rw [List.takeWhile_append_dropWhile, Nat.sub_self] at h
  rw [h, List.head?_eq_getElem?]

theorem not_of_getElem?_length_takeWhile {a : α} (h : l[(l.takeWhile p).length]? = some a) :
    p a = false := by
  rw [getElem?_length_takeWhile] at h
  obtain ⟨t, ht⟩ := List.head?_eq_some_iff.mp h
  have hne : l.dropWhile p ≠ [] := by simp [ht]
  have := List.head_dropWhile_not p hne
  simpa [ht] using this

theorem takeWhile_eq_take_length : l.takeWhile p = l.take (l.takeWhile p).length :=
  List.prefix_iff_eq_take.mp (List.takeWhile_prefix p)

end TakeWhile

/-! ## Waiting, frame by frame -/

namespace Exchange

/-- Whether a frame is passed over while waiting for `expected`: it does not decode, or it is a
notification under another id. -/
def skippable (expected : String) : Except TransportError String → Bool
  | .ok text =>
    match Response.decode text with
    | .error _ => true
    | .ok resp => resp.messageId != expected && resp.isPush
  | .error _ => false

/-- The notification a skipped frame hands to the push handler. -/
def routedPush (expected : String) : Except TransportError String → Option Response
  | .ok text =>
    match Response.decode text with
    | .error _ => none
    | .ok resp => if resp.messageId != expected && resp.isPush then some resp else none
  | .error _ => none

/-- Every frame left on the connection arrives before `deadline` (in nanoseconds): the session
is open and the clock with all the pauses still stays short of it. -/
structure FramesBefore (deadline : Nat) (x : Exchange) : Prop where
  session : x.line.link.session = true
  fits : (x.line.now + Script.pauseTotal x.line.peer.frames) * 1000000 < deadline

theorem FramesBefore.now_lt {deadline : Nat} {x : Exchange} (hx : FramesBefore deadline x) :
    ¬ x.line.now * 1000000 ≥ deadline := by
  have := hx.fits
  rw [Nat.add_mul] at this
  omega

theorem FramesBefore.pauses_le {deadline : Nat} {x : Exchange} (hx : FramesBefore deadline x) :
    Script.pauseTotal x.line.peer.frames ≤
      (Duration.ofNanos (deadline - x.line.now * 1000000)).ceilMillis := by
  have := hx.fits
  rw [Nat.add_mul] at this
  simp only [Duration.ceilMillis, Duration.toNanos_ofNanos]
  omega

theorem onLine_fst_snd (x : Exchange) (f : Line → α × Line) :
    x.onLine f = ((f x.line).1, { x with line := (f x.line).2 }) := rfl

variable {e : String} {deadline : Nat}

/-- `x'` is `x` after reading the skipped frames `pre`: it is still waiting in time, the rest of
the arrivals is still to come, only the notifications among `pre` were handed on, and nothing
else changed. -/
structure Skipped (e : String) (deadline : Nat) (x : Exchange)
    (pre : List (Except TransportError String)) (x' : Exchange) : Prop where
  before : FramesBefore deadline x'
  arrivals : x.line.peer.arrivals = pre ++ x'.line.peer.arrivals
  correlator : x'.correlator = x.correlator
  link : x'.line.link = x.line.link
  pushes : x'.pushes.toList = x.pushes.toList ++
    if x.correlator.routesPushes then pre.filterMap (routedPush e) else []

theorem Skipped.refl {x : Exchange} (hx : FramesBefore deadline x) : Skipped e deadline x [] x where
  before := hx
  arrivals := rfl
  correlator := rfl
  link := rfl
  pushes := by simp

theorem Skipped.trans {x x₁ x₂ : Exchange} {pre₁ pre₂ : List (Except TransportError String)}
    (h₁ : Skipped e deadline x pre₁ x₁) (h₂ : Skipped e deadline x₁ pre₂ x₂) :
    Skipped e deadline x (pre₁ ++ pre₂) x₂ where
  before := h₂.before
  arrivals := by rw [h₁.arrivals, h₂.arrivals, List.append_assoc]
  correlator := h₂.correlator.trans h₁.correlator
  link := h₂.link.trans h₁.link
  pushes := by
    rw [h₂.pushes, h₁.pushes, h₁.correlator]
    cases x.correlator.routesPushes <;> simp

/-- **One skipped frame.** A frame that does not decode, or a notification under another id,
is read and passed over: the wait goes on with one frame fewer to skip. -/
theorem awaitFrom_skip {x : Exchange} (hx : FramesBefore deadline x)
    {a : Except TransportError String} {rest} (ha : x.line.peer.arrivals = a :: rest)
    (hskip : skippable e a = true) (left skipped : Nat) :
    ∃ x', Skipped e deadline x [a] x' ∧
      awaitFrom e deadline (left + 1) skipped x = awaitFrom e deadline left (skipped + 1) x' := by
  obtain ⟨w, steps, hw, hl, hread⟩ :=
    x.line.recvText_arrival _ hx.session hx.pauses_le ha
  cases a with
  | error err => simp [skippable] at hskip
  | ok text =>
    -- the line after the read: the pauses have passed, the entries are used up to the frame
    set line' : Line :=
      { x.line with now := x.line.now + w, peer := { x.line.peer with frames := steps } }
    have hbefore : FramesBefore deadline { x with line := line' } := by
      have hle : x.line.now + w + Script.pauseTotal steps ≤
          x.line.now + Script.pauseTotal x.line.peer.frames := by omega
      exact ⟨hx.session, Nat.lt_of_le_of_lt (Nat.mul_le_mul_right _ hle) hx.fits⟩
    have hrest : line'.peer.arrivals = rest := by simp [line', Script.arrivals, hl]
    rw [awaitFrom, if_neg hx.now_lt, onLine_fst_snd, hread]
    simp only [show (Except.ok text : Except TransportError String).isOk = true from rfl, if_true]
    cases hd : Response.decode text with
    | error err =>
      -- a frame that does not decode is passed over and handed to no one
      refine ⟨{ x with line := line' }, ⟨hbefore, by rw [ha, hrest]; rfl, rfl, rfl, ?_⟩, rfl⟩
      simp [routedPush, hd]
    | ok resp =>
      -- a frame under the expected id is never skipped, so this one is a notification
      obtain ⟨hne, hpush⟩ : (resp.messageId != e) = true ∧ resp.isPush = true := by
        simpa [skippable, hd] using hskip
      have hroute : routedPush e (.ok text) = some resp := by simp [routedPush, hd, hne, hpush]
      simp only [show (resp.messageId == e) = false by simpa using hne, hpush, Bool.false_eq_true,
        if_false, if_true]
      cases hr : x.correlator.routesPushes with
      | false =>
        refine ⟨{ x with line := line' }, ⟨hbefore, by rw [ha, hrest]; rfl, rfl, rfl, ?_⟩, rfl⟩
        simp [hr]
      | true =>
        refine ⟨{ x with line := line', pushes := x.pushes.push resp },
          ⟨⟨hbefore.session, hbefore.fits⟩, by rw [ha, hrest]; rfl, rfl, rfl, ?_⟩, rfl⟩
        simp [hr, hroute]

/-- **A run of skipped frames.** Frames that are each skipped, no more of them than may be
skipped, are read one after another; the wait goes on after the last. The induction is on the
frames, one `awaitFrom_skip` each, and `Skipped` composes. -/
theorem awaitFrom_skipAll {pre rest : List (Except TransportError String)}
    (hpre : ∀ a ∈ pre, skippable e a = true) :
    ∀ {x : Exchange}, FramesBefore deadline x → x.line.peer.arrivals = pre ++ rest →
    ∀ {left : Nat}, pre.length ≤ left → ∀ skipped, ∃ x', Skipped e deadline x pre x' ∧
      awaitFrom e deadline left skipped x =
        awaitFrom e deadline (left - pre.length) (skipped + pre.length) x' := by
  induction pre with
  | nil => exact fun hx _ _ _ skipped => ⟨_, Skipped.refl hx, by simp⟩
  | cons a pre ih =>
    intro x hx ha left hlen skipped
    obtain ⟨left, rfl⟩ : ∃ l, left = l + 1 := ⟨left - 1, by simp at hlen; omega⟩
    obtain ⟨x₁, h₁, heq₁⟩ := awaitFrom_skip hx ha (hpre a List.mem_cons_self) left skipped
    have ha₁ : x₁.line.peer.arrivals = pre ++ rest := by
      simpa [ha] using h₁.arrivals.symm
    obtain ⟨x₂, h₂, heq₂⟩ := ih (fun b hb => hpre b (List.mem_cons_of_mem _ hb)) h₁.before ha₁
      (by simp at hlen; omega) (skipped + 1)
    refine ⟨x₂, h₁.trans h₂, ?_⟩
    rw [heq₁, heq₂, List.length_cons, Nat.add_sub_add_right, Nat.add_right_comm skipped,
      Nat.add_assoc]

/-- **The expected response.** A frame under the expected id ends the wait with that
response, whatever its command, and the request is no longer pending. -/
theorem awaitFrom_match {x : Exchange} (hx : FramesBefore deadline x) {text : String} {rest}
    (ha : x.line.peer.arrivals = .ok text :: rest) {resp : Response}
    (hd : Response.decode text = .ok resp) (hid : resp.messageId = e) (left skipped : Nat) :
    ∃ line' : Line, line'.link = x.line.link ∧
      awaitFrom e deadline (left + 1) skipped x =
        (.ok resp, { x with line := line', correlator := x.correlator.forget e }) := by
  obtain ⟨w, steps, -, -, hread⟩ := x.line.recvText_arrival _ hx.session hx.pauses_le ha
  refine ⟨{ x.line with now := x.line.now + w, peer := { x.line.peer with frames := steps } },
    rfl, ?_⟩
  rw [awaitFrom, if_neg hx.now_lt, onLine_fst_snd, hread]
  simp only [show (Except.ok text : Except TransportError String).isOk = true from rfl, if_true,
    hd, hid, beq_self_eq_true]
  rfl

/-- **A response to another request.** A frame under another id that is not a notification
puts the exchange out of step: the request is dropped and the connection marked unusable,
whatever the frame's response code. -/
theorem awaitFrom_mismatch {x : Exchange} (hx : FramesBefore deadline x) {text : String} {rest}
    (ha : x.line.peer.arrivals = .ok text :: rest) {resp : Response}
    (hd : Response.decode text = .ok resp) (hid : resp.messageId ≠ e) (hpush : resp.isPush = false)
    (left skipped : Nat) :
    ∃ line' : Line, line'.link = { x.line.link with healthy := false } ∧
      awaitFrom e deadline (left + 1) skipped x =
        (.error (.correlation (.mismatch e resp.messageId)),
          { x with line := line', correlator := x.correlator.forget e }) := by
  obtain ⟨w, steps, -, -, hread⟩ := x.line.recvText_arrival _ hx.session hx.pauses_le ha
  refine ⟨({ x.line with now := x.line.now + w, peer := { x.line.peer with frames := steps } }
    : Line).markDisconnected, rfl, ?_⟩
  rw [awaitFrom, if_neg hx.now_lt, onLine_fst_snd, hread]
  simp only [show (Except.ok text : Except TransportError String).isOk = true from rfl, if_true,
    hd, show (resp.messageId == e) = false by simpa using hid, hpush, Bool.false_eq_true, if_false]
  rfl

/-- **A failed read.** A transport failure other than running out of time drops the request,
leaves the connection marked unusable, and is passed on. -/
theorem awaitFrom_failure {x : Exchange} (hx : FramesBefore deadline x) {err : TransportError}
    (herr : ∀ d, err ≠ .timeout d) {rest} (ha : x.line.peer.arrivals = .error err :: rest)
    (left skipped : Nat) :
    ∃ line' : Line, line'.link = { x.line.link with healthy := false } ∧
      awaitFrom e deadline (left + 1) skipped x =
        (.error (.transport err), { x with line := line', correlator := x.correlator.forget e }) := by
  obtain ⟨w, steps, -, -, hread⟩ := x.line.recvText_arrival _ hx.session hx.pauses_le ha
  refine ⟨({ x.line with now := x.line.now + w, peer := { x.line.peer with frames := steps } }
    : Line).markDisconnected, rfl, ?_⟩
  rw [awaitFrom, if_neg hx.now_lt, onLine_fst_snd, hread]
  cases err with
  | timeout d => exact absurd rfl (herr d)
  | _ => rfl

/-- **Nothing more arrives.** With no arrival left the read waits out the time to the
deadline and the wait ends in a timeout that leaves the request pending. -/
theorem awaitFrom_silence {x : Exchange} (hx : FramesBefore deadline x)
    (ha : x.line.peer.arrivals = []) (left skipped : Nat) :
    ∃ line' : Line, line'.link = { x.line.link with healthy := false } ∧
      deadline ≤ line'.now * 1000000 ∧
      awaitFrom e deadline (left + 1) skipped x =
        (.error (.correlation (.timeout e skipped)), { x with line := line' }) := by
  obtain ⟨steps, hread⟩ := x.line.recvText_silence _ hx.session hx.pauses_le ha
  refine ⟨({ x.line with
    now := x.line.now + (Duration.ofNanos (deadline - x.line.now * 1000000)).ceilMillis
    peer := { x.line.peer with frames := steps } } : Line).markDisconnected, rfl, ?_, ?_⟩
  · have := hx.now_lt
    simp only [Duration.ceilMillis, Duration.toNanos_ofNanos, Line.markDisconnected]
    omega
  · rw [awaitFrom, if_neg hx.now_lt, onLine_fst_snd, hread]
    rfl

theorem ne_timeout_of_arrivals {x : Exchange} {err : TransportError} {rest}
    (ha : x.line.peer.arrivals = .error err :: rest) (d : Duration) : err ≠ .timeout d := by
  rintro rfl
  exact Script.timeout_not_mem_arrivalsFrom _ _ d
    (by rw [← Script.arrivals, ha]; exact List.mem_cons_self)

/-- **The last read hands nothing on.** When the next arrival is not skipped the wait ends
with it, and the notifications handed on stay as they were. -/
theorem awaitFrom_pushes_of_not_skippable {x : Exchange} (hx : FramesBefore deadline x)
    (hhead : ∀ a ∈ x.line.peer.arrivals.head?, skippable e a = false) (left skipped : Nat) :
    (awaitFrom e deadline (left + 1) skipped x).2.pushes = x.pushes := by
  rcases ha : x.line.peer.arrivals with _ | ⟨a, rest⟩
  · obtain ⟨line', -, -, h⟩ := @awaitFrom_silence e _ _ hx ha left skipped
    rw [h]
  · have hns : skippable e a = false := hhead a (by simp [ha])
    cases a with
    | error err =>
      obtain ⟨line', -, h⟩ :=
        @awaitFrom_failure e _ _ hx _ (ne_timeout_of_arrivals ha) _ ha left skipped
      rw [h]
    | ok text =>
      cases hd : Response.decode text with
      | error _ => simp [skippable, hd] at hns
      | ok resp =>
        by_cases hid : resp.messageId = e
        · obtain ⟨line', -, h⟩ := awaitFrom_match hx ha hd hid left skipped
          rw [h]
        · have hpush : resp.isPush = false := by simpa [skippable, hd, hid] using hns
          obtain ⟨line', -, h⟩ := awaitFrom_mismatch hx ha hd hid hpush left skipped
          rw [h]

/-! ## The whole wait -/

/-- The instant, in nanoseconds, by which a read started now must be answered. -/
def readBy (x : Exchange) : Nat := x.line.now * 1000000 + x.correlator.policy.readDeadline.toNanos

/-- A read whose deadline can be held waits by it. -/
theorem readMatchingResponse_eq {x : Exchange} (e : String)
    (hfit : x.correlator.policy.readDeadline.fitsAfter x.line.now = true) :
    x.readMatchingResponse e = awaitFrom e x.readBy (x.correlator.policy.maxSkips + 1) 0 x := by
  rw [readMatchingResponse, if_pos hfit]
  rfl

/-- A read whose deadline cannot be held panics before reading anything. -/
theorem readMatchingResponse_of_long {x : Exchange} (e : String)
    (hlong : x.correlator.policy.readDeadline.fitsAfter x.line.now = false) :
    x.readMatchingResponse e = (.error (.correlation (.timeout e 0)),
      { x with line := { x.line with panicked := some instantOverflow } }) := by
  rw [readMatchingResponse, if_neg (by rw [hlong]; nofun)]

variable {x : Exchange}

/-- **More frames to skip than allowed.** When the leading skippable frames outnumber
`maxSkips`, exactly `maxSkips + 1` of them are read, and the wait then gives up. -/
theorem readMatchingResponse_eq_of_lt (hx : FramesBefore x.readBy x)
    (hfit : x.correlator.policy.readDeadline.fitsAfter x.line.now = true)
    (hk : x.correlator.policy.maxSkips < (x.line.peer.arrivals.takeWhile (skippable e)).length) :
    ∃ x', Skipped e x.readBy x (x.line.peer.arrivals.take (x.correlator.policy.maxSkips + 1)) x' ∧
      x.readMatchingResponse e = x'.timedOut e (x.correlator.policy.maxSkips + 1) := by
  set m := x.correlator.policy.maxSkips
  set frames := x.line.peer.arrivals
  -- the first `m + 1` frames lie inside the skippable prefix
  have htake : frames.take (m + 1) = (frames.takeWhile (skippable e)).take (m + 1) := by
    have h := @List.take_append_of_le_length _ (frames.takeWhile (skippable e))
      (frames.dropWhile (skippable e)) _ hk
    rwa [List.takeWhile_append_dropWhile] at h
  have hpre : ∀ a ∈ frames.take (m + 1), skippable e a = true := by
    intro a ha
    rw [htake] at ha
    exact List.mem_takeWhile_imp (List.mem_of_mem_take ha)
  have hlen : (frames.take (m + 1)).length = m + 1 := by
    rw [htake, List.length_take]
    omega
  obtain ⟨x', hsk, heq⟩ :=
    awaitFrom_skipAll hpre hx (List.take_append_drop (m + 1) frames).symm hlen.le 0
  refine ⟨x', hsk, ?_⟩
  rw [readMatchingResponse_eq e hfit, heq, hlen, Nat.sub_self, Nat.zero_add]
  rfl

/-- **No more frames to skip than allowed.** Otherwise all the leading skippable frames are
read, and the wait goes on at the frame after them with budget to spare. -/
theorem readMatchingResponse_eq_of_le (hx : FramesBefore x.readBy x)
    (hfit : x.correlator.policy.readDeadline.fitsAfter x.line.now = true)
    (hk : (x.line.peer.arrivals.takeWhile (skippable e)).length ≤ x.correlator.policy.maxSkips) :
    ∃ x', Skipped e x.readBy x (x.line.peer.arrivals.takeWhile (skippable e)) x' ∧
      x'.line.peer.arrivals =
        x.line.peer.arrivals.drop (x.line.peer.arrivals.takeWhile (skippable e)).length ∧
      x.readMatchingResponse e =
        awaitFrom e x.readBy
          (x.correlator.policy.maxSkips - (x.line.peer.arrivals.takeWhile (skippable e)).length + 1)
          (x.line.peer.arrivals.takeWhile (skippable e)).length x' := by
  obtain ⟨x', hsk, heq⟩ := awaitFrom_skipAll (fun a ha => List.mem_takeWhile_imp ha) hx
    List.takeWhile_append_dropWhile.symm (Nat.le_succ_of_le hk) 0
  refine ⟨x', hsk, ?_, ?_⟩
  · have h := hsk.arrivals
    rw [takeWhile_eq_take_length] at h
    exact (List.append_cancel_left ((List.take_append_drop _ _).trans h)).symm
  · rw [readMatchingResponse_eq e hfit, heq, Nat.zero_add]
    congr 1
    omega

theorem arrivals_eq_cons_of_getElem? {x' : Exchange} {a : Except TransportError String}
    (harr : x'.line.peer.arrivals =
      x.line.peer.arrivals.drop (x.line.peer.arrivals.takeWhile (skippable e)).length)
    (ha : x.line.peer.arrivals[(x.line.peer.arrivals.takeWhile (skippable e)).length]? = some a) :
    ∃ rest, x'.line.peer.arrivals = a :: rest := by
  rw [← List.head?_eq_some_iff, harr, List.head?_drop]
  exact ha

/-- **Notifications handed on.** Exactly the notifications among the frames read and skipped
reach the push handler, in order, when pushes are routed. -/
theorem readMatchingResponse_pushes (hx : FramesBefore x.readBy x)
    (hfit : x.correlator.policy.readDeadline.fitsAfter x.line.now = true) :
    (x.readMatchingResponse e).2.pushes.toList = x.pushes.toList ++
      if x.correlator.routesPushes then
        (x.line.peer.arrivals.take (min (x.line.peer.arrivals.takeWhile (skippable e)).length
          (x.correlator.policy.maxSkips + 1))).filterMap (routedPush e)
      else [] := by
  by_cases hk : x.correlator.policy.maxSkips < (x.line.peer.arrivals.takeWhile (skippable e)).length
  · obtain ⟨x', hsk, heq⟩ := readMatchingResponse_eq_of_lt hx hfit hk
    rw [heq, min_eq_right hk]
    exact hsk.pushes
  · obtain ⟨x', hsk, harr, heq⟩ := readMatchingResponse_eq_of_le hx hfit (Nat.le_of_not_lt hk)
    -- the frame the wait stops at is not skipped, so the last read hands nothing on
    have hhead : ∀ a ∈ x'.line.peer.arrivals.head?, skippable e a = false := by
      intro a ha
      rw [harr, List.head?_drop] at ha
      exact not_of_getElem?_length_takeWhile _ _ ha
    rw [heq, awaitFrom_pushes_of_not_skippable hsk.before hhead, hsk.pushes,
      min_eq_left (by omega), ← takeWhile_eq_take_length]

/-- **Too many frames to skip.** When more than `maxSkips` frames lead that are each skipped,
exactly `maxSkips + 1` are read and the wait times out after them: the connection is marked
unusable and the request stays pending. -/
theorem readMatchingResponse_of_lt (hx : FramesBefore x.readBy x)
    (hfit : x.correlator.policy.readDeadline.fitsAfter x.line.now = true)
    (hk : x.correlator.policy.maxSkips < (x.line.peer.arrivals.takeWhile (skippable e)).length) :
    (x.readMatchingResponse e).1 = .error (.correlation (.timeout e (x.correlator.policy.maxSkips + 1))) ∧
      (x.readMatchingResponse e).2.line.peer.arrivals =
        x.line.peer.arrivals.drop (x.correlator.policy.maxSkips + 1) ∧
      (x.readMatchingResponse e).2.correlator = x.correlator ∧
      (x.readMatchingResponse e).2.line.link = { x.line.link with healthy := false } := by
  obtain ⟨x', hsk, heq⟩ := readMatchingResponse_eq_of_lt hx hfit hk
  rw [heq]
  refine ⟨rfl, ?_, hsk.correlator, ?_⟩
  · exact (List.append_cancel_left ((List.take_append_drop _ _).trans hsk.arrivals)).symm
  · show { x'.line.link with healthy := false } = _
    rw [hsk.link]

/-- **The expected response**, read after the skipped frames: it is the answer, whatever its
command, the request is no longer pending, and the connection keeps its health. -/
theorem readMatchingResponse_of_reply (hx : FramesBefore x.readBy x)
    (hfit : x.correlator.policy.readDeadline.fitsAfter x.line.now = true)
    (hk : (x.line.peer.arrivals.takeWhile (skippable e)).length ≤ x.correlator.policy.maxSkips)
    {text : String} (ha : x.line.peer.arrivals[(x.line.peer.arrivals.takeWhile (skippable e)).length]? =
      some (.ok text)) {resp : Response} (hd : Response.decode text = .ok resp)
    (hid : resp.messageId = e) :
    (x.readMatchingResponse e).1 = .ok resp ∧
      (x.readMatchingResponse e).2.correlator = x.correlator.forget e ∧
      (x.readMatchingResponse e).2.line.link = x.line.link := by
  obtain ⟨x', hsk, harr, heq⟩ := readMatchingResponse_eq_of_le hx hfit hk
  obtain ⟨rest, hrest⟩ := arrivals_eq_cons_of_getElem? harr ha
  obtain ⟨line', hlink, h⟩ := awaitFrom_match hsk.before hrest hd hid _ _
  rw [heq, h]
  exact ⟨rfl, by rw [hsk.correlator], hlink.trans hsk.link⟩

/-- **A response to another request**, read after the skipped frames: the exchange is out of
step, whatever the response code. The request is dropped and the connection marked
unusable. -/
theorem readMatchingResponse_of_other (hx : FramesBefore x.readBy x)
    (hfit : x.correlator.policy.readDeadline.fitsAfter x.line.now = true)
    (hk : (x.line.peer.arrivals.takeWhile (skippable e)).length ≤ x.correlator.policy.maxSkips)
    {text : String} (ha : x.line.peer.arrivals[(x.line.peer.arrivals.takeWhile (skippable e)).length]? =
      some (.ok text)) {resp : Response} (hd : Response.decode text = .ok resp)
    (hid : resp.messageId ≠ e) :
    (x.readMatchingResponse e).1 = .error (.correlation (.mismatch e resp.messageId)) ∧
      (x.readMatchingResponse e).2.correlator = x.correlator.forget e ∧
      (x.readMatchingResponse e).2.line.link = { x.line.link with healthy := false } := by
  obtain ⟨x', hsk, harr, heq⟩ := readMatchingResponse_eq_of_le hx hfit hk
  obtain ⟨rest, hrest⟩ := arrivals_eq_cons_of_getElem? harr ha
  -- a notification under another id would have been skipped
  have hpush : resp.isPush = false := by
    simpa [skippable, hd, hid] using not_of_getElem?_length_takeWhile _ _ ha
  obtain ⟨line', hlink, h⟩ := awaitFrom_mismatch hsk.before hrest hd hid hpush _ _
  rw [heq, h]
  exact ⟨rfl, by rw [hsk.correlator], by rw [hlink, hsk.link]⟩

/-- **A failed read** after the skipped frames: the failure is passed on, the request dropped
and the connection marked unusable. -/
theorem readMatchingResponse_of_failure (hx : FramesBefore x.readBy x)
    (hfit : x.correlator.policy.readDeadline.fitsAfter x.line.now = true)
    (hk : (x.line.peer.arrivals.takeWhile (skippable e)).length ≤ x.correlator.policy.maxSkips)
    {err : TransportError}
    (ha : x.line.peer.arrivals[(x.line.peer.arrivals.takeWhile (skippable e)).length]? =
      some (.error err)) :
    (x.readMatchingResponse e).1 = .error (.transport err) ∧
      (x.readMatchingResponse e).2.correlator = x.correlator.forget e ∧
      (x.readMatchingResponse e).2.line.link = { x.line.link with healthy := false } := by
  obtain ⟨x', hsk, harr, heq⟩ := readMatchingResponse_eq_of_le hx hfit hk
  obtain ⟨rest, hrest⟩ := arrivals_eq_cons_of_getElem? harr ha
  obtain ⟨line', hlink, h⟩ := awaitFrom_failure hsk.before (ne_timeout_of_arrivals hrest) hrest _ _
  rw [heq, h]
  exact ⟨rfl, by rw [hsk.correlator], by rw [hlink, hsk.link]⟩

/-- **The script runs dry** after the skipped frames: the read waits to the deadline and
times out with the skipped frames counted, leaving the request pending. -/
theorem readMatchingResponse_of_silence (hx : FramesBefore x.readBy x)
    (hfit : x.correlator.policy.readDeadline.fitsAfter x.line.now = true)
    (hk : (x.line.peer.arrivals.takeWhile (skippable e)).length ≤ x.correlator.policy.maxSkips)
    (ha : x.line.peer.arrivals[(x.line.peer.arrivals.takeWhile (skippable e)).length]? = none) :
    (x.readMatchingResponse e).1 =
        .error (.correlation (.timeout e (x.line.peer.arrivals.takeWhile (skippable e)).length)) ∧
      x.readBy ≤ (x.readMatchingResponse e).2.line.now * 1000000 ∧
      (x.readMatchingResponse e).2.correlator = x.correlator ∧
      (x.readMatchingResponse e).2.line.link = { x.line.link with healthy := false } := by
  obtain ⟨x', hsk, harr, heq⟩ := readMatchingResponse_eq_of_le hx hfit hk
  have hnil : x'.line.peer.arrivals = [] := by
    rw [← List.head?_eq_none_iff, harr, List.head?_drop]
    exact ha
  obtain ⟨line', hlink, hnow, h⟩ := @awaitFrom_silence e _ _ hsk.before hnil _ _
  rw [heq, h]
  exact ⟨rfl, hnow, hsk.correlator, by rw [hlink, hsk.link]⟩

/-- **Reading frames while waiting for a response.** Let the read's deadline, the clock plus the
read deadline, be an instant the clock can hold, let the frames on the connection all arrive
before it, and let `k` of them lead that are each skipped (they do not decode, or they are
notifications under another id). Then:

* the push handler gets exactly the notifications among the frames read and skipped;
* with more than `maxSkips` of them, `maxSkips + 1` are read and the wait times out;
* otherwise frame `k` decides: the expected id answers (whatever the command), another id
  puts the exchange out of step (whatever the code), a failure is passed on, and no frame at
  all is a timeout at the deadline after `k` skips.

A timeout marks the connection unusable and leaves the request pending; an answer or a
failure drops it. -/
theorem readMatchingResponse_frames (x : Exchange) (e : String)
    (hs : x.line.link.session = true)
    (hpause : Script.pauseTotal x.line.peer.frames * 1000000 < x.correlator.policy.readDeadline.toNanos)
    (hdeadline : x.correlator.policy.readDeadline.fitsAfter x.line.now = true) :
    let frames := x.line.peer.arrivals
    let m := x.correlator.policy.maxSkips
    let k := (frames.takeWhile (skippable e)).length
    let r := x.readMatchingResponse e
    r.2.pushes.toList = x.pushes.toList ++
        (if x.correlator.routesPushes then (frames.take (min k (m + 1))).filterMap (routedPush e)
          else []) ∧
      (m < k → r.1 = .error (.correlation (.timeout e (m + 1))) ∧
        r.2.line.peer.arrivals = frames.drop (m + 1) ∧ r.2.correlator = x.correlator ∧
        r.2.line.link = { x.line.link with healthy := false }) ∧
      (k ≤ m → ∀ text resp, frames[k]? = some (.ok text) → Response.decode text = .ok resp →
        resp.messageId = e →
        r.1 = .ok resp ∧ r.2.correlator = x.correlator.forget e ∧ r.2.line.link = x.line.link) ∧
      (k ≤ m → ∀ text resp, frames[k]? = some (.ok text) → Response.decode text = .ok resp →
        resp.messageId ≠ e →
        r.1 = .error (.correlation (.mismatch e resp.messageId)) ∧
          r.2.correlator = x.correlator.forget e ∧
          r.2.line.link = { x.line.link with healthy := false }) ∧
      (k ≤ m → ∀ err, frames[k]? = some (.error err) →
        r.1 = .error (.transport err) ∧ r.2.correlator = x.correlator.forget e ∧
          r.2.line.link = { x.line.link with healthy := false }) ∧
      (k ≤ m → frames[k]? = none →
        r.1 = .error (.correlation (.timeout e k)) ∧ x.readBy ≤ r.2.line.now * 1000000 ∧
          r.2.correlator = x.correlator ∧ r.2.line.link = { x.line.link with healthy := false }) := by
  have hx : FramesBefore x.readBy x :=
    ⟨hs, by rw [readBy, Nat.add_mul]; exact Nat.add_lt_add_left hpause _⟩
  exact ⟨readMatchingResponse_pushes hx hdeadline,
    fun hk => readMatchingResponse_of_lt hx hdeadline hk,
    fun hk _ _ ha hd hid => readMatchingResponse_of_reply hx hdeadline hk ha hd hid,
    fun hk _ _ ha hd hid => readMatchingResponse_of_other hx hdeadline hk ha hd hid,
    fun hk _ ha => readMatchingResponse_of_failure hx hdeadline hk ha,
    fun hk ha => readMatchingResponse_of_silence hx hdeadline hk ha⟩

/-- A notification, a pause, then the answer: the notification is handed on, the answer read. -/
theorem readMatchingResponse_frames_notification_then_answer :
    let x : Exchange :=
      { line :=
          { link := { endpoint := ⟨"pool", 6680, .websocket⟩, policy := {}, session := true,
                      healthy := true }
            peer := { frames := [.push (.array []) "n1", .delay 5,
                        .other "m1" (.string "200") (.array [])] } }
        correlator := { routesPushes := true } }
    let e := "m1"
    x.line.link.session = true ∧
      Script.pauseTotal x.line.peer.frames * 1000000 < x.correlator.policy.readDeadline.toNanos ∧
      x.correlator.policy.readDeadline.fitsAfter x.line.now = true ∧
    let frames := x.line.peer.arrivals
    let m := x.correlator.policy.maxSkips
    let k := (frames.takeWhile (skippable e)).length
    let r := x.readMatchingResponse e
    r.2.pushes.toList = x.pushes.toList ++
        (if x.correlator.routesPushes then (frames.take (min k (m + 1))).filterMap (routedPush e)
          else []) ∧
      (m < k → r.1 = .error (.correlation (.timeout e (m + 1))) ∧
        r.2.line.peer.arrivals = frames.drop (m + 1) ∧ r.2.correlator = x.correlator ∧
        r.2.line.link = { x.line.link with healthy := false }) ∧
      (k ≤ m → ∀ text resp, frames[k]? = some (.ok text) → Response.decode text = .ok resp →
        resp.messageId = e →
        r.1 = .ok resp ∧ r.2.correlator = x.correlator.forget e ∧ r.2.line.link = x.line.link) ∧
      (k ≤ m → ∀ text resp, frames[k]? = some (.ok text) → Response.decode text = .ok resp →
        resp.messageId ≠ e →
        r.1 = .error (.correlation (.mismatch e resp.messageId)) ∧
          r.2.correlator = x.correlator.forget e ∧
          r.2.line.link = { x.line.link with healthy := false }) ∧
      (k ≤ m → ∀ err, frames[k]? = some (.error err) →
        r.1 = .error (.transport err) ∧ r.2.correlator = x.correlator.forget e ∧
          r.2.line.link = { x.line.link with healthy := false }) ∧
      (k ≤ m → frames[k]? = none →
        r.1 = .error (.correlation (.timeout e k)) ∧ x.readBy ≤ r.2.line.now * 1000000 ∧
          r.2.correlator = x.correlator ∧ r.2.line.link = { x.line.link with healthy := false }) :=
  ⟨rfl, by decide, by decide, readMatchingResponse_frames _ _ rfl (by decide) (by decide)⟩

end Exchange

end PoolMonitor
