import Mathlib
import PoolMonitor.Bench.Connection
import PoolMonitor.Proofs.ExchangeEffects
/-!
# Keeping a connection healthy

A connection is healthy only with an open session whose health was checked, and a check pings
the controller at most once per health-check interval. This module proves it for every run of
the bench, whatever the operations and however the scripted controller answers:

* **`Link.Sound`** — health presupposes an open session with a last check.
* **`Line.isHealthy_cases`**, **`Line.connect_connects`**, **`Line.ensureConnected_cases`**,
  **`Line.close_closes`** — what each connection operation does to the session: a check either
  answers the cached value and changes nothing or pings (`Pinged`); connecting either opens a
  session stamped with the time (`Opened`) or leaves it alone (`Idle`).
* **`Bench.checks`** — the health checks a step made, read off the controller's counters: a
  ping, or a session opened. **`Bench.Stamped`** is the invariant: while the session is healthy
  its last check is no earlier than any check so far.
* **`Bench.Stamped.step`** and **`Bench.Stamped.run`** — the step and run lemmas: each ping
  comes at least an interval after every earlier check (`Spaced`), and only a session opened
  brings health back.
* **`connection_health_discipline`** — all of it together.
-/

namespace PoolMonitor

/-- Health presupposes an open session with a last check. -/
def Link.Sound (k : Link) : Prop :=
  k.healthy = true → k.session = true ∧ k.lastHealthCheck.isSome = true

/-- Without a session a sound link is not healthy. -/
theorem Link.Sound.not_healthy {k : Link} (h : k.Sound) (hs : ¬k.session = true) :
    k.healthy = false := by
  cases hh : k.healthy
  · rfl
  · exact absurd (h hh).1 hs

namespace Script

/-- The scripted controller fails a read only by closing the session or sending a frame that is
not text, never by a timeout. -/
theorem hear_failure (s : Script) (budget : Nat) (steps : List FrameStep) {e : TransportError}
    (h : (s.hear budget steps).1 = .failure e) : ∀ d, e ≠ .timeout d := by
  induction steps generalizing budget with
  | nil => cases h
  | cons step rest ih =>
    cases step
    case delay ms =>
      by_cases hms : ms ≤ budget
      · simp only [Script.hear, if_pos hms] at h
        exact ih (budget - ms) h
      · simp only [Script.hear, if_neg hms] at h
        cases h
    case fail => simp only [Script.hear, Heard.failure.injEq] at h; subst h; simp
    case invalid d => simp only [Script.hear, Heard.failure.injEq] at h; subst h; simp
    case hang => cases h
    all_goals simp [Script.hear] at h

end Script

namespace Line

/-- A ping is due: the last check, if any, is at least a health-check interval old. -/
def PingDue (l : Line) : Prop :=
  ∀ last, l.link.lastHealthCheck = some last →
    l.link.policy.healthCheckInterval.toNanos ≤ (l.now - last) * 1000000

/-- A health check that pinged: the session was open and healthy and a ping was due; the ping is
counted, the check is stamped with the time, and health becomes the ping's answer `b`. -/
structure Pinged (l : Line) (b : Bool) (l' : Line) : Prop where
  session : l.link.session = true
  healthy : l.link.healthy = true
  due : l.PingDue
  pings : l'.peer.pings = l.peer.pings + 1
  attempts : l'.peer.attempts = l.peer.attempts
  now : l'.now = l.now
  policy : l'.link.policy = l.link.policy
  session' : l'.link.session = true
  stamp : l'.link.lastHealthCheck = some l.now
  answer : l'.link.healthy = b

theorem ping_snd (s : Script) : s.ping.2 = { s with pings := s.pings + 1 } := by
  unfold Script.ping
  dsimp only
  split <;> rfl

/-- **A health check answers the cached value or pings.** Without an open healthy session, or
while the last check is younger than the interval, the answer is the cached health and nothing
changes; otherwise the controller is pinged. -/
theorem isHealthy_cases (l : Line) :
    l.isHealthy = (l.link.session && l.link.healthy, l) ∨ Pinged l l.isHealthy.1 l.isHealthy.2 := by
  have hp := ping_snd l.peer
  unfold isHealthy
  generalize l.peer.ping = res at hp ⊢
  obtain ⟨r, peer⟩ := res
  dsimp only at hp
  subst hp
  split
  next hoff =>
    left
    have : (l.link.session && l.link.healthy) = false := by
      cases hs : l.link.session <;> cases hh : l.link.healthy <;> simp_all
    rw [this]
  next hon =>
    have hs : l.link.session = true := by cases h : l.link.session <;> simp_all
    have hh : l.link.healthy = true := by cases h : l.link.healthy <;> simp_all
    -- a fresh last check answers from the cache; a stale or missing one makes the ping due
    split
    next last hlast =>
      dsimp only
      split
      next => left; rw [hs, hh]; rfl
      next hstale =>
        have hdue : l.PingDue := fun last' h => by
          rw [hlast] at h
          cases h
          simpa using hstale
        right
        rcases r with _ | ⟨⟨⟩⟩
        · exact ⟨hs, hh, hdue, rfl, rfl, rfl, rfl, hs, rfl, rfl⟩
        · exact ⟨hs, hh, hdue, rfl, rfl, rfl, rfl, hs, rfl, hh⟩
    next hnone =>
      have hdue : l.PingDue := fun last' h => by rw [hnone] at h; cases h
      dsimp only
      right
      rcases r with _ | ⟨⟨⟩⟩
      · exact ⟨hs, hh, hdue, rfl, rfl, rfl, rfl, hs, rfl, rfl⟩
      · exact ⟨hs, hh, hdue, rfl, rfl, rfl, rfl, hs, rfl, hh⟩

/-- Without an open healthy session a check answers `false` and pings no one. -/
theorem isHealthy_of_not_ready {l : Line} (h : l.link.session = false ∨ l.link.healthy = false) :
    l.isHealthy = (false, l) := by
  unfold isHealthy
  rw [if_pos (by rcases h with h | h <;> simp [h])]

/-- `l'` follows `l` with the session untouched: the clock only moves on, attempts may be
counted, and the session, its health and last check, the pings and the retry policy stay. -/
structure Idle (l l' : Line) : Prop where
  now_le : l.now ≤ l'.now
  attempts_le : l.peer.attempts ≤ l'.peer.attempts
  pings : l'.peer.pings = l.peer.pings
  policy : l'.link.policy = l.link.policy
  session : l'.link.session = l.link.session
  healthy : l'.link.healthy = l.link.healthy
  lastHealthCheck : l'.link.lastHealthCheck = l.link.lastHealthCheck

theorem Idle.refl (l : Line) : Idle l l := ⟨le_rfl, le_rfl, rfl, rfl, rfl, rfl, rfl⟩

theorem Idle.trans {l₁ l₂ l₃ : Line} (h₁ : Idle l₁ l₂) (h₂ : Idle l₂ l₃) : Idle l₁ l₃ :=
  ⟨h₁.now_le.trans h₂.now_le, h₁.attempts_le.trans h₂.attempts_le, h₂.pings.trans h₁.pings,
    h₂.policy.trans h₁.policy, h₂.session.trans h₁.session, h₂.healthy.trans h₁.healthy,
    h₂.lastHealthCheck.trans h₁.lastHealthCheck⟩

theorem Idle.quiet {l l' : Line} (h : Idle l l') : Quiet l l' :=
  ⟨h.now_le, h.session, h.lastHealthCheck, h.pings, h.policy, fun h' => h.healthy ▸ h'⟩

/-- A session opened: after at least one more attempt, and with no ping, the session is open
and healthy and its last check is the time it ended. -/
structure Opened (l l' : Line) : Prop where
  now_le : l.now ≤ l'.now
  attempts_lt : l.peer.attempts < l'.peer.attempts
  pings : l'.peer.pings = l.peer.pings
  policy : l'.link.policy = l.link.policy
  session : l'.link.session = true
  healthy : l'.link.healthy = true
  stamp : l'.link.lastHealthCheck = some l'.now

theorem Idle.opened {l₁ l₂ l₃ : Line} (h₁ : Idle l₁ l₂) (h₂ : Opened l₂ l₃) : Opened l₁ l₃ :=
  ⟨h₁.now_le.trans h₂.now_le, lt_of_le_of_lt h₁.attempts_le h₂.attempts_lt,
    h₂.pings.trans h₁.pings, h₂.policy.trans h₁.policy, h₂.session, h₂.healthy, h₂.stamp⟩

/-- Connecting opens a session when it succeeds and leaves the session alone when it fails. -/
def Connects {ε : Type} (l : Line) (r : Except ε Unit) (l' : Line) : Prop :=
  (r = .ok () ∧ Opened l l') ∨ ((∃ e, r = .error e) ∧ Idle l l')

theorem Idle.connects {ε : Type} {l₁ l₂ l₃ : Line} {r : Except ε Unit} (h₁ : Idle l₁ l₂)
    (h₂ : Connects l₂ r l₃) : Connects l₁ r l₃ := by
  rcases h₂ with ⟨hr, ho⟩ | ⟨hr, hi⟩
  · exact .inl ⟨hr, h₁.opened ho⟩
  · exact .inr ⟨hr, h₁.trans hi⟩

theorem wait_idle (l : Line) (ms : Nat) : Idle l (l.wait ms) :=
  ⟨Nat.le_add_right _ _, le_rfl, rfl, rfl, rfl, rfl, rfl⟩

/-- Counting a failure, or panicking at it, leaves the session alone. -/
theorem failWith_idle (l : Line) (e : TransportError) : Idle l (l.failWith e).2 := by
  unfold failWith
  split <;> exact ⟨le_rfl, le_rfl, rfl, rfl, rfl, rfl, rfl⟩

theorem failWith_ne_opened (l : Line) (e : TransportError) : (l.failWith e).1 ≠ .opened := by
  unfold failWith
  split <;> nofun

theorem connect_attempts (s : Script) : s.connect.2.attempts = s.attempts + 1 ∧
    s.connect.2.pings = s.pings := by
  unfold Script.connect
  dsimp only
  split <;> exact ⟨rfl, rfl⟩

/-- One attempt: accepted, it opens a session at once; refused, closed, unanswered or cancelled,
it leaves the session alone, after the connect timeout or the cancellation if unanswered. -/
theorem attempt_connects (cancel : Option Nat) (l : Line) :
    ((l.attempt cancel).1 = .opened ∧ Opened l (l.attempt cancel).2) ∨
      ((l.attempt cancel).1 ≠ .opened ∧ Idle l (l.attempt cancel).2) := by
  have hc := connect_attempts l.peer
  unfold attempt
  generalize l.peer.connect = res at hc
  obtain ⟨step, peer⟩ := res
  obtain ⟨ha, hp⟩ := hc
  -- the attempt itself is counted; what follows depends on the controller's answer
  have hidle : Idle l { l with peer } :=
    ⟨le_rfl, by dsimp only at ha ⊢; omega, hp, rfl, rfl, rfl, rfl⟩
  cases step
  case accept =>
    exact .inl ⟨rfl, le_rfl, by dsimp only at ha ⊢; omega, hp, rfl, rfl, rfl, rfl⟩
  case hang =>
    dsimp only
    split
    · exact .inr ⟨nofun, hidle.trans (wait_idle _ _)⟩
    · exact .inr ⟨failWith_ne_opened _ _, hidle.trans ((wait_idle _ _).trans (failWith_idle _ _))⟩
  all_goals exact .inr ⟨failWith_ne_opened _ _, hidle.trans (failWith_idle _ _)⟩

/-- One round of connecting: it ends the connect, opening a session or leaving it alone, or it
leaves the session alone for the next attempt. -/
theorem attemptRound_connects (total index : Nat) (cancel : Option Nat) (l : Line) :
    match attemptRound total index cancel l with
    | (.done r, l') => Connects l r l'
    | (.next _, l') => Idle l l' := by
  have ha := attempt_connects cancel l
  unfold attemptRound
  generalize l.attempt cancel = res at ha
  obtain ⟨e, l₂⟩ := res
  cases e with
  | opened =>
    rcases ha with ⟨-, ho⟩ | ⟨h, -⟩
    · exact .inl ⟨rfl, ho⟩
    · exact absurd rfl h
  | failed e =>
    -- a failure leaves the next attempt to come, or ends the connect after the last
    have hi := (ha.resolve_left fun h => nomatch h.1).2
    dsimp only
    by_cases hmore : index + 1 < total
    · rw [if_pos hmore]
      exact hi
    · rw [if_neg hmore]
      exact .inr ⟨⟨_, rfl⟩, hi⟩
  | cancelled => exact .inr ⟨⟨_, rfl⟩, (ha.resolve_left fun h => nomatch h.1).2⟩
  | panicked e => exact .inr ⟨⟨_, rfl⟩, (ha.resolve_left fun h => nomatch h.1).2⟩

/-- Attempts from the `index`-th on: a wait, an attempt, and on failure the attempts after it. -/
theorem connectFrom_connects (total : Nat) (cancel : Option Nat) :
    ∀ left index l, Connects l (connectFrom total cancel left index l).1
      (connectFrom total cancel left index l).2
  | 0, _, l => .inr ⟨⟨_, rfl⟩, Idle.refl l⟩
  | left + 1, index, l => by
    rw [connectFrom]
    split
    · -- cancelled during the backoff wait
      exact .inr ⟨⟨_, rfl⟩, wait_idle _ _⟩
    -- the backoff wait before an attempt is idle
    have hw := wait_idle l (l.readyAt index - l.now)
    have hr := attemptRound_connects total index cancel (l.wait (l.readyAt index - l.now))
    generalize attemptRound total index cancel _ = res at hr
    obtain ⟨round, l₂⟩ := res
    cases round with
    | done r => exact hw.connects hr
    | next k => exact hw.connects (hr.connects (connectFrom_connects total cancel left k l₂))

theorem connect_connects (l : Line) (cancel : Option Nat) :
    Connects l (l.connect cancel).1 (l.connect cancel).2 :=
  connectFrom_connects _ _ _ _ l

/-- Closing leaves no session, no health and no last check, and keeps the clock, the counters
the health checks read and the retry policy. -/
structure Closes (l l' : Line) : Prop where
  now : l'.now = l.now
  attempts : l'.peer.attempts = l.peer.attempts
  pings : l'.peer.pings = l.peer.pings
  policy : l'.link.policy = l.link.policy
  session : l'.link.session = false
  healthy : l'.link.healthy = false
  lastHealthCheck : l'.link.lastHealthCheck = none

theorem close_closes (l : Line) : Closes l l.close := by
  unfold close
  split <;> exact ⟨rfl, rfl, rfl, rfl, rfl, rfl, rfl⟩

/-- **Making sure of a session** keeps a session found healthy (by its cached value or a ping),
and otherwise closes it and connects again. -/
theorem ensureConnected_cases (l : Line) (cancel : Option Nat) :
    (l.isHealthy.1 = true ∧ l.ensureConnected cancel = (.ok (), l.isHealthy.2)) ∨
      (l.isHealthy.1 = false ∧
        Connects l.isHealthy.2.close (l.ensureConnected cancel).1 (l.ensureConnected cancel).2) := by
  unfold ensureConnected
  generalize l.isHealthy = res
  obtain ⟨b, l₁⟩ := res
  cases b
  · exact .inr ⟨rfl, connect_connects _ _⟩
  · exact .inl ⟨rfl, rfl⟩

theorem isHealthy_attempts (l : Line) : l.isHealthy.2.peer.attempts = l.peer.attempts := by
  rcases l.isHealthy_cases with h | h
  · rw [h]
  · exact h.attempts

theorem Connects.pings {ε : Type} {l l' : Line} {r : Except ε Unit} (h : Connects l r l') :
    l'.peer.pings = l.peer.pings := by
  rcases h with ⟨-, h⟩ | ⟨-, h⟩
  · exact h.pings
  · exact h.pings

/-- **A failed write loses health and keeps the session.** Without a session there is no health
to lose. -/
theorem sendText_error {l : Line} (h : l.link.Sound) {text : String} {e : TransportError}
    (he : (l.sendText text).1 = .error e) :
    (l.sendText text).2.link.healthy = false ∧ (l.sendText text).2.link.session = l.link.session := by
  unfold sendText at he ⊢
  by_cases hs : l.link.session = true
  · rw [if_neg (by simp [hs])] at he ⊢
    generalize l.peer.send text = res at he ⊢
    obtain ⟨r, peer⟩ := res
    cases r
    · exact ⟨rfl, rfl⟩
    · cases he
  · rw [if_pos (by simpa using hs)]
    exact ⟨h.not_healthy hs, rfl⟩

/-- **A failed read other than a timeout loses health and keeps the session.** -/
theorem recvText_error {l : Line} (h : l.link.Sound) {d : Duration} {e : TransportError}
    (he : (l.recvText d).1 = .error e) (hne : ∀ d', e ≠ .timeout d') :
    (l.recvText d).2.link.healthy = false ∧ (l.recvText d).2.link.session = l.link.session := by
  unfold recvText at he ⊢
  by_cases hs : l.link.session = true
  · rw [if_neg (by simp [hs])] at he ⊢
    generalize l.peer.receive d.ceilMillis = res at he ⊢
    obtain ⟨⟨heard, waited⟩, peer⟩ := res
    cases heard with
    | frame text => cases he
    | failure e' => exact ⟨rfl, rfl⟩
    | silence => cases he; exact absurd rfl (hne d)
  · rw [if_pos (by simpa using hs)]
    exact ⟨h.not_healthy hs, rfl⟩

/-- **Running out of time on a read leaves health and the session alone.** -/
theorem recvText_timeout {l : Line} {d d' : Duration}
    (he : (l.recvText d).1 = .error (.timeout d')) :
    (l.recvText d).2.link.healthy = l.link.healthy ∧
      (l.recvText d).2.link.session = l.link.session := by
  unfold recvText at he ⊢
  by_cases hs : l.link.session = true
  · rw [if_neg (by simp [hs])] at he ⊢
    have hf := @Script.hear_failure l.peer d.ceilMillis l.peer.frames
    unfold Script.receive at he ⊢
    generalize l.peer.hear d.ceilMillis l.peer.frames = res at hf he ⊢
    obtain ⟨heard, waited, left⟩ := res
    cases heard with
    | frame text => cases he
    | failure e =>
      -- a failure is never a timeout
      cases he
      exact absurd rfl (hf rfl d')
    | silence => exact ⟨rfl, rfl⟩
  · rw [if_pos (by simpa using hs)] at he
    cases he

end Line

namespace Bench

open Line

/-- A check of the session's health, at a time on the clock: a ping, or a session opened. -/
inductive Check where
  | ping (time : Nat)
  | opened (time : Nat)
  deriving DecidableEq

/-- When a check was made. -/
def Check.time : Check → Nat
  | .ping t => t
  | .opened t => t

/-- Whether a check pinged the controller. -/
def Check.isPing : Check → Bool
  | .ping _ => true
  | .opened _ => false

/-- Whether an outcome reports a session made sure of. -/
def Outcome.connectedOk : Outcome → Bool
  | .connected r => r.isOk
  | _ => false

/-- The checks on the way from `l` to `l'`, read off the controller's counters: a ping at the
start if one was counted, and a session opened at the end if an attempt was made and the move
reports success (`ok`). -/
def checksOf (l : Line) (ok : Bool) (l' : Line) : List Check :=
  (if l.peer.pings < l'.peer.pings then [.ping l.now] else []) ++
    (if ok && decide (l.peer.attempts < l'.peer.attempts) then [.opened l'.now] else [])

/-- The health checks a step of the bench made. -/
def checks (x : Exchange) (o : Outcome) (x' : Exchange) : List Check :=
  checksOf x.line o.connectedOk x'.line

/-- The health checks along a run of the bench, in order. -/
def checksAlong : Exchange → List BenchOp → List Check
  | _, [] => []
  | x, op :: rest => checks x (step x op).1 (step x op).2 ++ checksAlong (step x op).2 rest

/-- Check `b` comes no earlier than check `a`, and if `b` is a ping, at least `iv` later. -/
def Spaced (iv : Duration) (a b : Check) : Prop :=
  a.time ≤ b.time ∧ (b.isPing = true → iv.toNanos ≤ (b.time - a.time) * 1000000)

/-- The throttle's invariant after the checks `log`: the link is sound, no check is later than
the clock, and while the session is healthy its last check is no earlier than any of them. -/
structure Stamped (log : List Check) (l : Line) : Prop where
  sound : l.link.Sound
  past : ∀ c ∈ log, c.time ≤ l.now
  stamp : l.link.healthy = true → ∀ last, l.link.lastHealthCheck = some last →
    ∀ c ∈ log, c.time ≤ last

/-- A move from `l` to `l'` after the checks `log` keeps the throttle: the checks it makes come
no earlier than those before and pings among them at least an interval after every earlier
check; the state after it is stamped with them; health comes back only with a session opened;
and at most one ping is sent. -/
structure Throttled (log : List Check) (l : Line) (ok : Bool) (l' : Line) : Prop where
  stamped : Stamped (log ++ checksOf l ok l') l'
  after : ∀ a ∈ log, ∀ b ∈ checksOf l ok l', Spaced l.link.policy.healthCheckInterval a b
  among : (checksOf l ok l').Pairwise (Spaced l.link.policy.healthCheckInterval)
  policy : l'.link.policy = l.link.policy
  revived : l.link.healthy = false → l'.link.healthy = true →
    ok = true ∧ l.peer.attempts < l'.peer.attempts
  pings : l'.peer.pings = l.peer.pings ∨ l'.peer.pings = l.peer.pings + 1

variable {log : List Check} {l l' : Line}

theorem checksOf_eq_nil {ok : Bool} (hp : l'.peer.pings = l.peer.pings)
    (ha : ok = false ∨ l'.peer.attempts ≤ l.peer.attempts) : checksOf l ok l' = [] := by
  unfold checksOf
  rcases ha with rfl | ha
  · simp [hp]
  · simp [hp, Nat.not_lt.2 ha]

/-- Two moves, the first making no attempt and the second no ping, make the checks of each. -/
theorem checksOf_trans {l₁ l₂ : Line} {ok : Bool} (ha : l₁.peer.attempts = l.peer.attempts)
    (hp : l₂.peer.pings = l₁.peer.pings) :
    checksOf l ok l₂ = checksOf l false l₁ ++ checksOf l₁ ok l₂ := by
  unfold checksOf
  simp [ha, hp]

theorem past_concat {t : Nat} {c : Check} (h : ∀ a ∈ log, a.time ≤ t) (hc : c.time ≤ t) :
    ∀ a ∈ log ++ [c], a.time ≤ t := by
  intro a ha
  rcases List.mem_append.1 ha with ha | ha
  · exact h a ha
  · rw [List.mem_singleton.1 ha]
    exact hc

/-- **A quiet move keeps the throttle.** -/
theorem Stamped.quiet {ok : Bool} (h : Stamped log l) (hq : Quiet l l')
    (hn : checksOf l ok l' = []) : Throttled log l ok l' where
  stamped := by
    rw [hn, List.append_nil]
    refine ⟨fun hh => ?_, fun c hc => (h.past c hc).trans hq.now_le, fun hh last hl => ?_⟩
    · rw [hq.session, hq.lastHealthCheck]
      exact h.sound (hq.healthy hh)
    · exact h.stamp (hq.healthy hh) last (hq.lastHealthCheck ▸ hl)
  after := by simp [hn]
  among := by simp [hn]
  policy := hq.policy
  revived hh hh' := absurd (hq.healthy hh') (by simp [hh])
  pings := .inl hq.pings

/-- **Closing keeps the throttle**: without health there is nothing to stamp. -/
theorem Stamped.close (h : Stamped log l) (hc : Closes l l') : Throttled log l false l' := by
  have hn : checksOf l false l' = [] := checksOf_eq_nil hc.pings (.inl rfl)
  refine ⟨?_, by simp [hn], by simp [hn], hc.policy, fun _ hh => ?_, .inl hc.pings⟩
  · rw [hn, List.append_nil]
    refine ⟨fun hh => ?_, fun c hc' => hc.now ▸ h.past c hc', fun hh => ?_⟩
    · rw [hc.healthy] at hh; cases hh
    · rw [hc.healthy] at hh; cases hh
  · rw [hc.healthy] at hh; cases hh

/-- **A ping is spaced.** A ping is due only an interval after the last check, and while the
session is healthy no earlier check is later than that. -/
theorem Stamped.spaced_ping (h : Stamped log l) (hh : l.link.healthy = true) (hdue : l.PingDue) :
    ∀ a ∈ log, Spaced l.link.policy.healthCheckInterval a (.ping l.now) := by
  intro a ha
  obtain ⟨last, hlast⟩ := Option.isSome_iff_exists.1 (h.sound hh).2
  have hle : a.time ≤ last := h.stamp hh last hlast a ha
  refine ⟨h.past a ha, fun _ => ?_⟩
  calc l.link.policy.healthCheckInterval.toNanos ≤ (l.now - last) * 1000000 := hdue last hlast
    _ ≤ (l.now - a.time) * 1000000 := Nat.mul_le_mul_right _ (Nat.sub_le_sub_left hle _)

/-- **A health check keeps the throttle**, whatever the step reports. -/
theorem Stamped.isHealthy (h : Stamped log l) (ok : Bool) : Throttled log l ok l.isHealthy.2 := by
  rcases l.isHealthy_cases with hc | hp
  · -- the cached answer changes nothing
    rw [hc]
    exact h.quiet (Quiet.refl l) (checksOf_eq_nil rfl (.inr le_rfl))
  · -- a ping: checked now, and stamped now
    have hn : checksOf l ok l.isHealthy.2 = [.ping l.now] := by
      simp [checksOf, hp.pings, hp.attempts]
    have hpast := past_concat (c := .ping l.now) h.past le_rfl
    refine ⟨?_, ?_, by rw [hn]; exact List.pairwise_singleton _ _, hp.policy, fun hh => ?_,
      .inr hp.pings⟩
    · rw [hn]
      refine ⟨fun _ => ⟨hp.session', by simp [hp.stamp]⟩, hp.now ▸ hpast, fun _ last hl => ?_⟩
      rw [hp.stamp] at hl
      cases hl
      exact hpast
    · rw [hn]
      intro a ha b hb
      rw [List.mem_singleton] at hb
      subst hb
      exact h.spaced_ping hp.healthy hp.due a ha
    · rw [hp.healthy] at hh
      cases hh

/-- **Connecting keeps the throttle**: a session opened is checked and stamped when it opens. -/
theorem Stamped.connects {ε : Type} {r : Except ε Unit} (h : Stamped log l)
    (hc : Connects l r l') : Throttled log l r.isOk l' := by
  rcases hc with ⟨rfl, ho⟩ | ⟨⟨e, rfl⟩, hi⟩
  · have hn : checksOf l (Except.ok () : Except ε Unit).isOk l' = [.opened l'.now] := by
      simp [checksOf, ho.pings, ho.attempts_lt, Except.isOk, Except.toBool]
    have hpast := past_concat (c := .opened l'.now) (fun c hc => (h.past c hc).trans ho.now_le)
      le_rfl
    refine ⟨?_, ?_, by rw [hn]; exact List.pairwise_singleton _ _, ho.policy,
      fun _ _ => ⟨rfl, ho.attempts_lt⟩, .inl ho.pings⟩
    · rw [hn]
      refine ⟨fun _ => ⟨ho.session, by simp [ho.stamp]⟩, hpast, fun _ last hl => ?_⟩
      rw [ho.stamp] at hl
      cases hl
      exact hpast
    · rw [hn]
      intro a ha b hb
      rw [List.mem_singleton] at hb
      subst hb
      exact ⟨(h.past a ha).trans ho.now_le, fun hp => by cases hp⟩
  · exact h.quiet hi.quiet (checksOf_eq_nil hi.pings (.inl rfl))

/-- **Two moves keep the throttle** when the first makes no attempt and the second no ping. -/
theorem Throttled.trans {l₁ l₂ : Line} {ok : Bool} (h₁ : Throttled log l false l₁)
    (h₂ : Throttled (log ++ checksOf l false l₁) l₁ ok l₂)
    (ha : l₁.peer.attempts = l.peer.attempts) (hp : l₂.peer.pings = l₁.peer.pings) :
    Throttled log l ok l₂ := by
  have hc : checksOf l ok l₂ = checksOf l false l₁ ++ checksOf l₁ ok l₂ := checksOf_trans ha hp
  have hafter := h₂.after
  have hamong := h₂.among
  rw [h₁.policy] at hafter hamong
  refine ⟨by rw [hc, ← List.append_assoc]; exact h₂.stamped, fun a ha' b hb => ?_, ?_,
    h₂.policy.trans h₁.policy, fun hh hh₂ => ?_, hp ▸ h₁.pings⟩
  · rw [hc, List.mem_append] at hb
    rcases hb with hb | hb
    · exact h₁.after a ha' b hb
    · exact hafter a (List.mem_append_left _ ha') b hb
  · rw [hc, List.pairwise_append]
    exact ⟨h₁.among, hamong, fun a ha' b hb => hafter a (List.mem_append_right _ ha') b hb⟩
  · -- health lost before the second move comes back only by a session it opens
    cases hh₁ : l₁.link.healthy
    · obtain ⟨hok, hlt⟩ := h₂.revived hh₁ hh₂
      exact ⟨hok, ha ▸ hlt⟩
    · exact absurd (h₁.revived hh hh₁).1 Bool.false_ne_true

/-- **Making sure of a session keeps the throttle**: a check, then, if it failed, a close and a
new connection. -/
theorem Stamped.ensureConnected (h : Stamped log l) (cancel : Option Nat) :
    Throttled log l (l.ensureConnected cancel).1.isOk (l.ensureConnected cancel).2 := by
  rcases l.ensureConnected_cases cancel with ⟨-, he⟩ | ⟨-, hc⟩
  · rw [he]
    exact h.isHealthy true
  · have h₁ := h.isHealthy false
    have hcl := close_closes l.isHealthy.2
    have h₂ := h₁.stamped.close hcl
    exact h₁.trans (h₂.trans (h₂.stamped.connects hc) hcl.attempts hc.pings)
      (isHealthy_attempts l) (hc.pings.trans hcl.pings)

/-- A quiet step keeps the throttle, and pings no one. -/
theorem Stamped.quietStep {x x' : Exchange} {o : Outcome} {P : Prop} (h : Stamped log x.line)
    (hq : Quiet x.line x'.line) (ho : o.connectedOk = false) :
    Throttled log x.line o.connectedOk x'.line ∧ (x'.line.peer.pings ≠ x.line.peer.pings → P) :=
  ⟨h.quiet hq (checksOf_eq_nil hq.pings (.inl ho)), fun hne => absurd hq.pings hne⟩

/-- **One step of the bench keeps the throttle, and only a health check pings.** One case per
operation: the connection operations by their own lemmas, everything else because it is quiet. -/
theorem Stamped.step {x : Exchange} (h : Stamped log x.line) (op : BenchOp) :
    Throttled log x.line (step x op).1.connectedOk (step x op).2.line ∧
      ((step x op).2.line.peer.pings ≠ x.line.peer.pings →
        op = .isHealthy ∨ op = .ensureConnected) := by
  cases op with
  | connect =>
    rw [Bench.step, report_fst, report_snd, Exchange.onLine_fst_snd]
    exact ⟨h.connects (connect_connects _ none),
      fun hne => absurd (connect_connects _ none).pings hne⟩
  | ensureConnected =>
    rw [Bench.step, report_fst, report_snd, Exchange.onLine_fst_snd]
    exact ⟨h.ensureConnected none, fun _ => .inr rfl⟩
  | close =>
    have hc := close_closes x.line
    exact ⟨h.close hc, fun hne => absurd hc.pings hne⟩
  | markDisconnected => exact h.quietStep (markDisconnected_quiet _) rfl
  | isHealthy =>
    rw [Bench.step, report_fst, report_snd, Exchange.onLine_fst_snd]
    exact ⟨h.isHealthy false, fun _ => .inl rfl⟩
  | advance ms => exact h.quietStep (wait_quiet _ ms) rfl
  | setEndpoint _ | setPingFail _ | failSends _ | addFrames _ =>
    -- changing the script touches neither the session nor the counters
    exact h.quietStep ⟨le_rfl, rfl, rfl, rfl, rfl, id⟩ rfl
  | routePushes | sweepStale _ | isPending _ => exact h.quietStep (Quiet.refl _) rfl
  | sendText text =>
    rw [Bench.step, report_fst, report_snd, Exchange.onLine_fst_snd]
    exact h.quietStep (sendText_quiet _ text) rfl
  | recvText ms =>
    rw [Bench.step, report_fst, report_snd, Exchange.onLine_fst_snd]
    exact h.quietStep (recvText_quiet _ _) rfl
  | request c cond objs =>
    rw [Bench.step, report_fst, report_snd]
    exact h.quietStep (x.request_effect c cond objs).quiet rfl
  | sendRequest c cond objs =>
    rw [Bench.step, report_fst, report_snd]
    exact h.quietStep (x.sendRequest_effect c cond objs).quiet rfl
  | readResponse id =>
    rw [Bench.step, report_fst, report_snd]
    exact h.quietStep (x.readMatchingResponse_effect id).quiet rfl
  | sweep =>
    rw [Bench.step, report_fst, report_snd]
    exact h.quietStep (Equipment.sweepWith_quiet _ _ x) rfl
  | loadFeatureFlags =>
    rw [Bench.step, report_fst, report_snd]
    exact h.quietStep (Equipment.loadFeatureFlags_quiet x) rfl

theorem run_cons (x : Exchange) (op : BenchOp) (ops : List BenchOp) :
    run x (op :: ops) =
      step x op :: if (step x op).2.line.panicked.isSome then [] else run (step x op).2 ops := rfl

/-- **Along a run the throttle holds**: by induction on the operations, from the step lemma. The
checks so far stay spaced, and every state along the way is sound. -/
theorem Stamped.run {x : Exchange} (h : Stamped log x.line)
    (hlog : log.Pairwise (Spaced x.line.link.policy.healthCheckInterval)) (ops : List BenchOp) :
    (log ++ checksAlong x ops).Pairwise (Spaced x.line.link.policy.healthCheckInterval) ∧
      ∀ p ∈ Bench.run x ops, p.2.line.link.Sound := by
  induction ops generalizing log x with
  | nil => simpa [checksAlong, Bench.run] using hlog
  | cons op ops ih =>
    obtain ⟨hs, -⟩ := h.step op
    have hlog' := List.pairwise_append.2 ⟨hlog, hs.among, hs.after⟩
    rw [← hs.policy] at hlog'
    obtain ⟨ih₁, ih₂⟩ := ih hs.stamped hlog'
    rw [hs.policy] at ih₁
    refine ⟨by rw [checksAlong, ← List.append_assoc]; exact ih₁, fun p hp => ?_⟩
    rw [run_cons, List.mem_cons] at hp
    rcases hp with rfl | hp
    · exact hs.stamped.sound
    · -- after a panic the run is over
      split at hp
      · exact absurd hp (List.not_mem_nil)
      · exact ih₂ p hp

theorem stamped_start (s : Setup) : Stamped [] s.start.line :=
  ⟨fun hh => Bool.noConfusion hh, fun _ hc => (List.not_mem_nil hc).elim,
    fun hh => Bool.noConfusion hh⟩

theorem Stamped.of_sound (h : l.link.Sound) : Stamped [] l :=
  ⟨h, fun _ hc => (List.not_mem_nil hc).elim, fun _ _ _ _ hc => (List.not_mem_nil hc).elim⟩

end Bench

open Bench Line

/-- **How a connection keeps its health.** Along every run of a bench, whatever the operations
and however the scripted controller answers, health presupposes an open session with a last
check, and every ping comes at least a health-check interval after every earlier check, ping or
session opened. From any sound state, only a health check pings, once at most, and lost health
comes back only with a session opened. A check that does not ping answers the cached value and
changes nothing; without an open healthy session it answers `false`; one that pings is stamped
with the time and takes the ping's answer, keeping the session. A failed write, or a failed read
other than a timeout, loses health and keeps the session; a timeout leaves both alone. Closing
leaves no session, no health and no last check. -/
theorem connection_health_discipline :
    (∀ (s : Setup) (ops : List BenchOp),
      (∀ p ∈ Bench.run s.start ops, p.2.line.link.Sound) ∧
        (checksAlong s.start ops).Pairwise (Spaced s.policy.healthCheckInterval)) ∧
    (∀ (x : Exchange) (op : BenchOp), x.line.link.Sound →
      (Bench.step x op).2.line.peer.pings ≠ x.line.peer.pings →
        (op = .isHealthy ∨ op = .ensureConnected) ∧
          (Bench.step x op).2.line.peer.pings = x.line.peer.pings + 1) ∧
    (∀ (x : Exchange) (op : BenchOp), x.line.link.Sound → x.line.link.healthy = false →
      (Bench.step x op).2.line.link.healthy = true →
        (Bench.step x op).1.connectedOk = true ∧
          x.line.peer.attempts < (Bench.step x op).2.line.peer.attempts) ∧
    (∀ l : Line, l.isHealthy.2.peer.pings = l.peer.pings →
      l.isHealthy = (l.link.session && l.link.healthy, l)) ∧
    (∀ l : Line, l.link.session = false ∨ l.link.healthy = false → l.isHealthy = (false, l)) ∧
    (∀ l : Line, l.isHealthy.2.peer.pings ≠ l.peer.pings →
      l.isHealthy.2.link.healthy = l.isHealthy.1 ∧ l.isHealthy.2.link.session = true ∧
        l.isHealthy.2.link.lastHealthCheck = some l.now) ∧
    (∀ (l : Line) (text : String) (e : TransportError), l.link.Sound →
      (l.sendText text).1 = .error e →
        (l.sendText text).2.link.healthy = false ∧
          (l.sendText text).2.link.session = l.link.session) ∧
    (∀ (l : Line) (d : Duration) (e : TransportError), l.link.Sound →
      (l.recvText d).1 = .error e → (∀ d', e ≠ .timeout d') →
        (l.recvText d).2.link.healthy = false ∧
          (l.recvText d).2.link.session = l.link.session) ∧
    (∀ (l : Line) (d d' : Duration), (l.recvText d).1 = .error (.timeout d') →
      (l.recvText d).2.link.healthy = l.link.healthy ∧
        (l.recvText d).2.link.session = l.link.session) ∧
    (∀ l : Line, l.close.link.session = false ∧ l.close.link.healthy = false ∧
      l.close.link.lastHealthCheck = none) := by
  refine ⟨fun s ops => ?_, fun x op hx hne => ?_, fun x op hx hh hh' => ?_, fun l hp => ?_,
    fun l h => isHealthy_of_not_ready h, fun l hp => ?_, fun l _ _ h he => sendText_error h he,
    fun l _ _ h he hne => recvText_error h he hne, fun l _ _ he => recvText_timeout he,
    fun l => ?_⟩
  · -- the run lemma from the fresh bench
    obtain ⟨hpair, hsound⟩ := (stamped_start s).run List.Pairwise.nil ops
    exact ⟨hsound, hpair⟩
  · obtain ⟨ht, hop⟩ := (Stamped.of_sound hx).step op
    exact ⟨hop hne, ht.pings.resolve_left hne⟩
  · exact ((Stamped.of_sound hx).step op).1.revived hh hh'
  · rcases l.isHealthy_cases with h | h
    · exact h
    · exact absurd h.pings (by rw [hp]; omega)
  · rcases l.isHealthy_cases with h | h
    · rw [h] at hp
      exact absurd rfl hp
    · exact ⟨h.answer, h.session', h.stamp⟩
  · have hc := close_closes l
    exact ⟨hc.session, hc.healthy, hc.lastHealthCheck⟩

end PoolMonitor
