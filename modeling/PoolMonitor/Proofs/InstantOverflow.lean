import Mathlib
import PoolMonitor.Bench.Poller
import PoolMonitor.Proofs.ExchangeEffects
/-!
# Instants that cannot be held

The poller adds two durations of its configuration to the clock. The poll loop's first tick is
the clock plus the poll interval, and a request's read must end by the clock plus the read
deadline. An instant holds its seconds in a signed 64-bit count, so either sum can fail to
exist, and then the program panics. Validation only asks both durations to be non-zero
(`Config.problem_ignores_timing_size`).

* **`Duration.fitsAfter_of_le`** — a sum that can be held at some time can be held at every
  earlier one; **`Duration.fitsAfter_ofSecs`** — past `maxInstantSecs` seconds, at no time.
* **`State.Steady`** — what a step of a task keeps: the configuration, the clock, and no new
  panic while the poll loop's first tick can be held. Every answer a task gets is a steady step
  (`State.occur_steady`); only the start of the poll loop reads the clock against the interval
  (`State.startLoop_overflow`).
* **`Bench.Run.Steady`** and **`Bench.Run.Forward`** — the same for the bench, whose requests are
  the one other place that can panic (`Run.request_steady`, `Run.request_overflow`), and for
  whole runs (`Run.go_forward`). A run's clock never passes the latest of its cancellation time
  and its scheduled changes (`Run.go_now_le`).
* **`panic_free_when_timings_fit`** — a run whose timings can be added to the clock at that
  horizon never panics; **`unbounded_poll_interval_panics`** — one that validation accepts
  as readily as the default, and whose poll loop panics as soon as it starts.
-/

namespace PoolMonitor

theorem Duration.fitsAfter_iff (d : Duration) (ms : Nat) :
    d.fitsAfter ms = true ↔ (ms * 1000000 + d.toNanos) / Duration.nanosPerSec ≤ maxInstantSecs := by
  unfold Duration.fitsAfter
  exact decide_eq_true_iff

/-- **Earlier sums fit too.** -/
theorem Duration.fitsAfter_of_le {d : Duration} {k m : Nat} (h : d.fitsAfter m = true)
    (hle : k ≤ m) : d.fitsAfter k = true := by
  rw [Duration.fitsAfter_iff] at h ⊢
  exact Nat.le_trans (Nat.div_le_div_right (Nat.add_le_add_right (Nat.mul_le_mul_right _ hle) _)) h

/-- **A duration longer than any instant fits after no time.** -/
theorem Duration.fitsAfter_ofSecs {n : Nat} (hn : maxInstantSecs < n) (ms : Nat) :
    (Duration.ofSecs n).fitsAfter ms = false := by
  rw [← Bool.not_eq_true, Duration.fitsAfter_iff, Nat.not_le]
  have hle : n ≤ (ms * 1000000 + (Duration.ofSecs n).toNanos) / Duration.nanosPerSec := by
    rw [Nat.le_div_iff_mul_le (by decide)]
    simp only [Duration.toNanos, Duration.ofSecs]
    omega
  omega

namespace Poller

open PoolMonitor.Wire PoolMonitor.Equipment

/-- What a step of a task keeps: the configuration and the clock, and, while the poll loop's
first tick after the clock can be held, the absence of a new panic. -/
structure State.Steady (s t : State) : Prop where
  config : t.config = s.config
  now : t.now = s.now
  panicked : s.config.pollInterval.fitsAfter s.now = true → t.panicked = s.panicked

namespace State

variable {s t u : State}

theorem Steady.refl (s : State) : Steady s s := ⟨rfl, rfl, fun _ => rfl⟩

theorem Steady.trans (h₁ : Steady s t) (h₂ : Steady t u) : Steady s u :=
  ⟨h₂.config.trans h₁.config, h₂.now.trans h₁.now, fun hf =>
    (h₂.panicked (by rw [h₁.config, h₁.now]; exact hf)).trans (h₁.panicked hf)⟩

/-- A steady step from a state that agrees with `s` on what steadiness reads is one from `s`. -/
theorem Steady.of_same (h : Steady t u) (hc : t.config = s.config) (hn : t.now = s.now)
    (hp : t.panicked = s.panicked) : Steady s u :=
  Steady.trans ⟨hc, hn, fun _ => hp⟩ h

/-! ## The poll side

Every step of the poll side is a state built from the one before with the configuration, the
clock and the panic left alone, but the start of the poll loop. -/

/-- **The start of the poll loop panics exactly when its first tick cannot be held.** -/
theorem startLoop_panicked (objects : List ObjectData) :
    (s.startLoop objects).panicked =
      if s.config.pollInterval.fitsAfter s.now then s.panicked else some instantOverflow := rfl

theorem startLoop_steady (objects : List ObjectData) : Steady s (s.startLoop objects) :=
  ⟨rfl, rfl, fun hf => by rw [startLoop_panicked, if_pos hf]⟩

theorem startLoop_overflow (objects : List ObjectData)
    (h : s.config.pollInterval.fitsAfter s.now = false) :
    (s.startLoop objects).panicked = some instantOverflow := by
  rw [startLoop_panicked, h, if_neg Bool.false_ne_true]

theorem resolve_steady : Steady s s.resolve.1 := by
  unfold resolve
  split <;> exact ⟨rfl, rfl, fun _ => rfl⟩

theorem afterSearch_steady (r : Found) : Steady s (s.afterSearch r).1 := by
  cases r <;> exact ⟨rfl, rfl, fun _ => rfl⟩

theorem afterStartupConnect_steady (side : Side) (r : Except ConnectionError Unit) :
    Steady s (s.afterStartupConnect side r).1 := by
  cases r with
  | ok u => cases side <;> exact ⟨rfl, rfl, fun _ => rfl⟩
  | error e => cases e <;> exact ⟨rfl, rfl, fun _ => rfl⟩

theorem afterPollReply_steady (round : Round) (p : SweepProgress)
    (r : Except RequestError Response) : Steady s (s.afterPollReply round p r).1 := by
  unfold afterPollReply afterPollSweep
  split
  · exact ⟨rfl, rfl, fun _ => rfl⟩
  · -- a first snapshot completes: the poll loop starts, or the sweep is tried again
    split
    · dsimp only
      split
      · exact ⟨rfl, rfl, fun _ => rfl⟩
      · dsimp only
        exact (startLoop_steady _).of_same rfl rfl rfl
    · exact ⟨rfl, rfl, fun _ => rfl⟩

theorem ensurePoll_steady (round : Round) : Steady s (s.ensurePoll round).1 := by
  unfold ensurePoll
  split <;> exact ⟨rfl, rfl, fun _ => rfl⟩

theorem afterPollPing_steady (round : Round) (ok : Bool) : Steady s (s.afterPollPing round ok).1 := by
  unfold afterPollPing
  split <;> exact ⟨rfl, rfl, fun _ => rfl⟩

theorem afterPollReconnect_steady (round : Round) (r : Except ConnectionError Unit) :
    Steady s (s.afterPollReconnect round r).1 := by
  cases r with
  | ok u => exact ⟨rfl, rfl, fun _ => rfl⟩
  | error e => cases e <;> cases round <;> exact ⟨rfl, rfl, fun _ => rfl⟩

theorem onTick_steady : Steady s s.onTick.1 := by
  simp only [onTick]
  split
  · exact ⟨rfl, rfl, fun _ => rfl⟩
  · exact (ensurePoll_steady _).of_same rfl rfl rfl

theorem afterRediscovery_steady (r : Found) : Steady s (s.afterRediscovery r).1 := by
  unfold afterRediscovery
  split <;> exact ⟨rfl, rfl, fun _ => rfl⟩

theorem afterRetarget_steady (r : Except ConnectionError Unit) : Steady s (s.afterRetarget r).1 := by
  simp only [afterRetarget]
  split
  · exact ⟨rfl, rfl, fun _ => rfl⟩
  · exact (ensurePoll_steady _).of_same rfl rfl rfl

/-- **Every step of the poll side is steady.** -/
theorem pollStep_steady {stage : PollStage} {a : Answer} {r : State × List Effect}
    (h : s.pollStep stage a = some r) : Steady s r.1 := by
  unfold pollStep at h
  split at h <;> cases h
  · exact resolve_steady
  · exact afterSearch_steady _
  · exact ⟨rfl, rfl, fun _ => rfl⟩
  · exact ⟨rfl, rfl, fun _ => rfl⟩
  · exact afterStartupConnect_steady _ _
  · exact ⟨rfl, rfl, fun _ => rfl⟩
  · exact ⟨rfl, rfl, fun _ => rfl⟩
  · exact ⟨rfl, rfl, fun _ => rfl⟩
  · exact afterPollReply_steady _ _ _
  · exact ensurePoll_steady _
  · exact ⟨rfl, rfl, fun _ => rfl⟩
  · exact afterPollPing_steady _ _
  · exact afterPollReconnect_steady _ _
  · exact onTick_steady
  · exact ⟨rfl, rfl, fun _ => rfl⟩
  · exact afterRediscovery_steady _
  · exact afterRetarget_steady _

/-! ## The push side

No step of the push side touches the configuration, the clock or the panic. -/

theorem subscribe_steady (resync : Bool) : Steady s (s.subscribe resync).1 := by
  unfold subscribe
  split <;> exact ⟨rfl, rfl, fun _ => rfl⟩

theorem reconnectPush_steady : Steady s s.reconnectPush.1 := by
  unfold reconnectPush
  split <;> exact ⟨rfl, rfl, fun _ => rfl⟩

theorem afterSubscribe_steady (resync : Bool) (r : Except RequestError Response) :
    Steady s (s.afterSubscribe resync r).1 := by
  unfold afterSubscribe
  split
  · exact ⟨rfl, rfl, fun _ => rfl⟩
  · split
    · exact ⟨rfl, rfl, fun _ => rfl⟩
    · exact reconnectPush_steady.of_same rfl rfl rfl

theorem afterRead_steady (r : Except TransportError String) : Steady s (s.afterRead r).1 := by
  unfold afterRead
  split
  · exact ⟨rfl, rfl, fun _ => rfl⟩
  · split
    · exact ⟨rfl, rfl, fun _ => rfl⟩
    · exact reconnectPush_steady
    · exact ⟨rfl, rfl, fun _ => rfl⟩
  · exact reconnectPush_steady

theorem afterPushPing_steady (ok : Bool) : Steady s (s.afterPushPing ok).1 := by
  unfold afterPushPing
  split
  · exact ⟨rfl, rfl, fun _ => rfl⟩
  · exact reconnectPush_steady.of_same rfl rfl rfl

theorem afterPushConnect_steady (r : Except ConnectionError Unit) :
    Steady s (s.afterPushConnect r).1 := by
  cases r with
  | ok u => exact ⟨rfl, rfl, fun _ => rfl⟩
  | error e => cases e <;> exact ⟨rfl, rfl, fun _ => rfl⟩

theorem afterPushReply_steady (p : SweepProgress) (r : Except RequestError Response) :
    Steady s (s.afterPushReply p r).1 := by
  unfold afterPushReply
  split
  · exact ⟨rfl, rfl, fun _ => rfl⟩
  · split
    · exact ⟨rfl, rfl, fun _ => rfl⟩
    · exact (subscribe_steady _).of_same rfl rfl rfl

/-- **Every step of the push side is steady.** -/
theorem pushStep_steady {stage : PushStage} {a : Answer} {r : State × List Effect}
    (h : s.pushStep stage a = some r) : Steady s r.1 := by
  unfold pushStep at h
  split at h <;> cases h
  · exact subscribe_steady _
  · exact Steady.refl s
  · exact afterSubscribe_steady _ _
  · exact ⟨rfl, rfl, fun _ => rfl⟩
  · exact afterRead_steady _
  · exact afterPushPing_steady _
  · exact afterPushConnect_steady _
  · exact Steady.refl s
  · exact afterPushReply_steady _ _
  · exact reconnectPush_steady
  · exact ⟨rfl, rfl, fun _ => rfl⟩

/-- **An answer to either task, or the cancellation, is a steady step**: only the passing of
time moves the clock. -/
theorem occur_steady (o : Occurrence) (ho : ∀ ms, o ≠ .elapse ms) : Steady s (s.occur o).1 := by
  cases o with
  | poll a =>
    simp only [occur]
    split
    · cases h : s.pollStep s.pollStage a with
      | none => exact Steady.refl s
      | some r => exact pollStep_steady h
    · exact Steady.refl s
  | push a =>
    simp only [occur]
    split
    · split
      · cases h : s.pushStep _ a with
        | none => exact Steady.refl s
        | some r => exact pushStep_steady h
      · exact Steady.refl s
    · exact Steady.refl s
  | cancel => exact ⟨rfl, rfl, fun _ => rfl⟩
  | elapse ms => exact absurd rfl (ho ms)

end State

end Poller

/-- **Validation asks the poll interval and the read deadline only to be non-zero.** -/
theorem Config.problem_ignores_timing_size (c : Config) (n d : Nat) :
    ({ c with monitor := { c.monitor with pollIntervalSecs := n + 1, readDeadlineSecs := d + 1 } }).problem? =
      ({ c with monitor := { c.monitor with pollIntervalSecs := 1, readDeadlineSecs := 1 } }).problem? := by
  simp [Config.problem?]

/-- Whether the poll interval and the read deadline of `c` can both be added to the clock at
`ms` milliseconds past its origin. -/
def Config.timingsFit (c : Config) (ms : Nat) : Bool :=
  c.pollInterval.fitsAfter ms && c.correlatorPolicy.readDeadline.fitsAfter ms

theorem Config.timingsFit_iff (c : Config) (ms : Nat) :
    c.timingsFit ms = true ↔
      c.pollInterval.fitsAfter ms = true ∧ c.correlatorPolicy.readDeadline.fitsAfter ms = true := by
  rw [Config.timingsFit, Bool.and_eq_true]

theorem Config.timingsFit_of_le {c : Config} {k m : Nat} (h : c.timingsFit m = true) (hle : k ≤ m) :
    c.timingsFit k = true := by
  rw [Config.timingsFit_iff] at h ⊢
  exact ⟨Duration.fitsAfter_of_le h.1 hle, Duration.fitsAfter_of_le h.2 hle⟩

namespace Bench.Run

open Poller PoolMonitor.Equipment

/-- A step of the bench that leaves the poller, the changes still to come and the cancellation
time alone. -/
structure Keeps (w w' : Run) : Prop where
  poller : w'.poller = w.poller
  changes : w'.changes = w.changes
  stopAt : w'.stopAt = w.stopAt

/-- What a step of the bench keeps: the poller's configuration, the clock, the changes still to
come and the cancellation time, and, while both timings fit after the clock, the absence of a
new panic. -/
structure Steady (w w' : Run) : Prop where
  config : w'.poller.config = w.poller.config
  now : w'.now = w.now
  changes : w'.changes = w.changes
  stopAt : w'.stopAt = w.stopAt
  panicked : w.poller.config.timingsFit w.now = true → w'.poller.panicked = w.poller.panicked

variable {w w' w'' : Run}

theorem Keeps.refl (w : Run) : Keeps w w := ⟨rfl, rfl, rfl⟩

theorem Steady.refl (w : Run) : Steady w w := ⟨rfl, rfl, rfl, rfl, fun _ => rfl⟩

theorem Steady.trans (h₁ : Steady w w') (h₂ : Steady w' w'') : Steady w w'' :=
  ⟨h₂.config.trans h₁.config, h₂.now.trans h₁.now, h₂.changes.trans h₁.changes,
    h₂.stopAt.trans h₁.stopAt, fun hf =>
      (h₂.panicked (by rw [h₁.config, h₁.now]; exact hf)).trans (h₁.panicked hf)⟩

theorem Keeps.steady (h : Keeps w w') : Steady w w' :=
  ⟨by rw [h.poller], by rw [Run.now, Run.now, h.poller], h.changes, h.stopAt,
    fun _ => by rw [h.poller]⟩

/-- A step of the bench that takes the poller one steady step. -/
theorem Steady.of_state {p : State} (h : State.Steady w.poller p) : Steady w { w with poller := p } :=
  ⟨h.config, h.now, rfl, rfl, fun hf => h.panicked ((Config.timingsFit_iff _ _).1 hf).1⟩

/-! ## The bench's own steps

Handing updates to the minder, closing sessions, searching and connecting touch neither the
poller nor the schedule of the run; a request is steady, and panics only when its read's
deadline cannot be held. -/

theorem Keeps.publish (h : Keeps w w') (u : Update) : Keeps w (w'.publish u) := by
  unfold Run.publish
  split <;> exact ⟨h.poller, h.changes, h.stopAt⟩

theorem Keeps.publishAll (h : Keeps w w') (effects : List Effect) :
    Keeps w (w'.publishAll effects) := by
  unfold Run.publishAll
  induction effects generalizing w' with
  | nil => exact h
  | cons e effects ih =>
    rw [List.foldl_cons]
    apply ih
    split
    · exact h.publish _
    · exact ⟨h.poller, h.changes, h.stopAt⟩

theorem Keeps.withAwaits (h : Keeps w w') (task : Side) (a : Awaiting) :
    Keeps w (w'.withAwaits task a) := by
  cases task <;> exact ⟨h.poller, h.changes, h.stopAt⟩

theorem Keeps.withSession (h : Keeps w w') (side : Side) (id : Option Nat) :
    Keeps w (w'.withSession side id) := by
  cases side <;> exact ⟨h.poller, h.changes, h.stopAt⟩

theorem Keeps.syncSessions (h : Keeps w w') : Keeps w w'.syncSessions := by
  -- whichever sessions are closed, only the controller and the sessions change
  simp only [Run.syncSessions]
  repeat' split
  all_goals exact ⟨h.poller, h.changes, h.stopAt⟩

theorem Keeps.consume (h : Keeps w w') (task : Side) (a : Answer) :
    Keeps w (w'.consume task a) := by
  unfold Run.consume
  split <;> exact ⟨h.poller, h.changes, h.stopAt⟩

theorem Keeps.attempt (h : Keeps w w') (task : Side) : Keeps w (w'.attempt task) := by
  unfold Run.attempt
  split
  · dsimp only
    split
    · refine (Keeps.withSession ?_ _ _).withAwaits _ _
      exact ⟨h.poller, h.changes, h.stopAt⟩
    all_goals refine Keeps.withAwaits ?_ _ _; exact ⟨h.poller, h.changes, h.stopAt⟩
  · exact ⟨h.poller, h.changes, h.stopAt⟩

/-- The exchange a request of the bench runs on panics exactly when the read's deadline cannot be
held at the bench's clock. -/
theorem exchangeOn_request_panicked (side : Side) (frames : List String) (command condition : String)
    (objects : List Wire.ObjectQuery) :
    ((w.exchangeOn side frames).request command condition objects).2.line.panicked =
      if w.poller.config.correlatorPolicy.readDeadline.fitsAfter w.now then none
      else some instantOverflow := by
  cases hfit : w.poller.config.correlatorPolicy.readDeadline.fitsAfter w.now
  · exact Exchange.request_panicked_of_long (x := w.exchangeOn side frames) _ _ _ rfl rfl hfit
  · exact Exchange.request_panicked_of_fits (x := w.exchangeOn side frames) _ _ _ hfit

/-- Settling a request is steady when its read cannot have panicked while the timings fit. -/
theorem settleRequest_steady {sid : Nat} {host command condition : String}
    {controller : Controller} {result : Except RequestError Wire.Response × Exchange}
    (hfit : w.poller.config.timingsFit w.now = true → result.2.line.panicked = none) :
    Steady w (w.settleRequest sid host command condition controller result).1 := by
  unfold settleRequest
  dsimp only
  split
  · rename_i hpanic
    exact ⟨rfl, rfl, rfl, rfl, fun hf => by rw [hfit hf] at hpanic; cases hpanic⟩
  · exact Keeps.steady ⟨rfl, rfl, rfl⟩

/-- A request whose read panicked panics the poller with it. -/
theorem settleRequest_panicked {sid : Nat} {host command condition : String}
    {controller : Controller} {result : Except RequestError Wire.Response × Exchange}
    {message : String} (hpanic : result.2.line.panicked = some message) :
    (w.settleRequest sid host command condition controller result).1.poller.panicked =
      some message := by
  unfold settleRequest
  dsimp only
  rw [hpanic]

/-- **A request panics only when its read's deadline cannot be held**; otherwise the poller is
left alone. -/
theorem request_steady (side : Side) (command condition : String) (objects : List Wire.ObjectQuery) :
    Steady w (w.request side command condition objects).1 := by
  unfold request
  split
  · split
    · exact Steady.refl w
    · split
      · exact Steady.refl w
      · -- the read panics only past its deadline
        exact settleRequest_steady fun hf => by
          rw [exchangeOn_request_panicked, if_pos ((Config.timingsFit_iff _ _).1 hf).2]
  · exact Steady.refl w

/-- **A request written on a live session panics when its read's deadline cannot be held.** -/
theorem request_overflow {side : Side} {sid : Nat} {sess : Session} (command condition : String)
    (objects : List Wire.ObjectQuery) (hsid : w.sessionOf side = some sid)
    (hopen : (w.poller.conn side).session = true) (hsess : w.controller.session? sid = some sess)
    (hlive : (sess.dropped || w.controller.downHosts.contains sess.host) = false)
    (hlong : w.poller.config.correlatorPolicy.readDeadline.fitsAfter w.now = false) :
    (w.request side command condition objects).1.poller.panicked = some instantOverflow := by
  simp only [request, hsid, hopen, hsess, hlive, Bool.false_eq_true, if_false, afterAnswer]
  exact settleRequest_panicked (by rw [exchangeOn_request_panicked, hlong, if_neg Bool.false_ne_true])

/-- A fold whose every step is steady ends steady. -/
theorem steady_of_foldl_eq {α : Type} {f : Run × α → Effect → Run × α}
    (hf : ∀ acc e, Steady acc.1 (f acc e).1) {effects : List Effect} {acc res : Run × α}
    (h : effects.foldl f acc = res) : Steady acc.1 res.1 := by
  subst h
  induction effects generalizing acc with
  | nil => exact Steady.refl _
  | cons e effects ih => exact (hf acc e).trans ih

/-- **Carrying out a step's effects is steady**: updates to the minder, searches and connection
attempts leave the poller alone, and requests are steady. -/
theorem afterStep_steady (task : Side) (effects : List Effect) :
    Steady w (w.afterStep task effects) := by
  unfold afterStep
  split
  rename_i w₁ call heq
  have h₁ : Steady w w₁ := by
    refine (Keeps.refl w).syncSessions.steady.trans (steady_of_foldl_eq ?_ heq)
    rintro ⟨w', call'⟩ e
    cases e with
    | publish side u => exact ((Keeps.refl w').publish u).steady
    | request side command condition objects =>
      dsimp only
      exact request_steady side command condition objects
    | discover =>
      dsimp only
      exact Keeps.steady ⟨rfl, rfl, rfl⟩
    | reply side r => exact Steady.refl _
    | connect side e => exact Steady.refl _
    | tick => exact Steady.refl _
  refine h₁.trans (Keeps.steady ?_)
  dsimp only
  -- the push task is scheduled once the first snapshot is out
  refine Keeps.withAwaits ?_ _ _
  split <;> exact ⟨rfl, rfl, rfl⟩

/-- **Giving a task an answer is steady**: the task takes a steady step, and its effects are
carried out. -/
theorem answer_steady (task : Side) (a : Answer) : Steady w (w.answer task a) := by
  -- the task's occurrence is its answer, never the clock moving
  have hocc : ∀ o : Occurrence, (o = .poll a ∨ o = .push a) → ∀ ms, o ≠ .elapse ms := by
    rintro o (rfl | rfl) ms h <;> cases h
  have h₀ := ((Keeps.refl w).consume task a).steady
  simp only [answer]
  split_ifs
  · exact h₀.trans ((Steady.of_state (State.occur_steady (s := (w.consume task a).poller) _
      (hocc _ (by cases task <;> simp)))).trans (afterStep_steady _ _))
  · exact h₀.trans ((Steady.of_state (State.occur_steady (s := (w.consume task a).poller) _
      (hocc _ (by cases task <;> simp)))).trans
        ((((Keeps.refl _).syncSessions.withAwaits _ _).publishAll _).steady))

/-! ## Along a run

Between steps the clock moves forward, so what a run keeps is said against the later clock. A
run's clock never passes the latest of its cancellation time and its changes' times. -/

/-- What the bench keeps from one state of a run to a later one: the configuration and the
cancellation time; the clock only goes forward; changes still to come were to come before; and
no panic is new if both timings fit after the later clock. -/
structure Forward (w w' : Run) : Prop where
  config : w'.poller.config = w.poller.config
  now_le : w.now ≤ w'.now
  stopAt : w'.stopAt = w.stopAt
  changes : ∀ c ∈ w'.changes, c ∈ w.changes
  panicked : w'.poller.config.timingsFit w'.now = true → w'.poller.panicked = w.poller.panicked

theorem Forward.refl (w : Run) : Forward w w :=
  ⟨rfl, Nat.le_refl _, rfl, fun _ hc => hc, fun _ => rfl⟩

theorem Forward.trans (h₁ : Forward w w') (h₂ : Forward w' w'') : Forward w w'' := by
  refine ⟨h₂.config.trans h₁.config, Nat.le_trans h₁.now_le h₂.now_le, h₂.stopAt.trans h₁.stopAt,
    fun c hc => h₁.changes c (h₂.changes c hc), fun hf => ?_⟩
  -- the sums fit after the middle clock too, since it is earlier
  have hf' : w'.poller.config.timingsFit w'.now = true := by
    rw [← h₂.config]
    exact Config.timingsFit_of_le hf h₂.now_le
  exact (h₂.panicked hf).trans (h₁.panicked hf')

theorem Steady.forward (h : Steady w w') : Forward w w' :=
  ⟨h.config, Nat.le_of_eq h.now.symm, h.stopAt, fun _ hc => h.changes ▸ hc,
    fun hf => h.panicked (by rw [← h.config, ← h.now]; exact hf)⟩

/-- Letting time pass moves only the clock. -/
theorem elapse_forward (d : Nat) :
    Forward w { w with poller := (w.poller.occur (.elapse d)).1 } :=
  ⟨rfl, Nat.le_add_right _ _, rfl, fun _ hc => hc, fun _ => rfl⟩

/-- **Every step of the bench keeps the run going forward.** -/
theorem perform_forward (t : Nat) (n : Next) : Forward w (w.perform t n) := by
  cases n with
  | poll a => exact (elapse_forward _).trans (answer_steady _ _).forward
  | push a => exact (elapse_forward _).trans (answer_steady _ _).forward
  | attempt task => exact (elapse_forward _).trans ((Keeps.refl _).attempt _).steady.forward
  | change =>
    -- the change due is taken off the schedule
    refine (elapse_forward (t - w.now)).trans ?_
    simp only [perform]
    split
    · rename_i c rest hch
      exact ⟨rfl, Nat.le_refl _, rfl, fun x hx => by rw [hch]; exact List.mem_cons_of_mem _ hx,
        fun _ => rfl⟩
    · exact Forward.refl _
  | cancel =>
    refine (elapse_forward _).trans (Steady.of_state (State.occur_steady _ ?_)).forward
    intro ms h
    cases h

/-- A step at time `t` leaves the clock at `t`, or where it was if that is later. -/
theorem perform_now (t : Nat) (n : Next) : (w.perform t n).now = w.now + (t - w.now) := by
  cases n with
  | poll a => exact (answer_steady _ _).now
  | push a => exact (answer_steady _ _).now
  | attempt task => exact ((Keeps.refl _).attempt _).steady.now
  | change =>
    simp only [perform]
    split <;> rfl
  | cancel => rfl

/-- **A whole run goes forward**, by induction on its steps. -/
theorem go_forward (fuel : Nat) (w : Run) : Forward w (go fuel w) := by
  induction fuel generalizing w with
  | zero => exact Forward.refl w
  | succ fuel ih =>
    rw [go]
    split
    · exact Forward.refl w
    · exact (perform_forward _ _).trans (ih _)

/-! ## How far a run's clock goes -/

theorem earlier_le_right {a b : Option (Nat × Nat × Next)} {y r : Nat × Nat × Next}
    (hb : b = some y) (h : earlier a b = some r) : r.1 ≤ y.1 := by
  subst hb
  cases a with
  | none => cases h; exact Nat.le_refl _
  | some x =>
    simp only [earlier] at h
    split at h <;> cases h
    · exact Nat.le_refl _
    · rename_i hlt
      simp only [Bool.or_eq_true, decide_eq_true_eq, Bool.and_eq_true, beq_iff_eq, not_or,
        not_and] at hlt
      omega

theorem earlier_cases {a b : Option (Nat × Nat × Next)} {r : Nat × Nat × Next}
    (h : earlier a b = some r) : a = some r ∨ b = some r := by
  cases a with
  | none => exact .inr h
  | some x =>
    cases b with
    | none => exact .inl h
    | some y =>
      simp only [earlier] at h
      split at h
      · exact .inr h
      · exact .inl h

/-- Once the run is cancelled, a task's call is answered at once. -/
theorem taskNext_cancelled {task : Side} {wake : Nat} {ans : Answer → Next}
    {x : Nat × Nat × Next} (hc : w.poller.cancelled = true) (h : w.taskNext task wake ans = some x) :
    x.1 = w.poller.now := by
  unfold taskNext at h
  split at h
  · cases h
  · cases h
  · cases h
    rfl
  -- a timer, a frame and a connection attempt are each answered by the cancellation
  all_goals
    rw [if_pos hc] at h
    cases h
    rfl

/-- **The next step of a run comes no later than its cancellation, or than a change still to
come**, unless the clock is already past them. -/
theorem next?_le {t horizon : Nat} {n : Next} (h : w.next? = some (t, n)) (hstop : w.stopAt ≤ horizon)
    (hchanges : ∀ c ∈ w.changes, c.1 ≤ horizon) : t ≤ max w.now horizon := by
  simp only [next?] at h
  rw [show w.now = w.poller.now from rfl]
  split_ifs at h with hend hc
  all_goals
    simp only [List.foldl_cons, List.foldl_nil, Option.map_eq_some_iff, Prod.mk.injEq] at h
    obtain ⟨best, hbest, rfl, -⟩ := h
  · -- cancelled: every call is answered at once, and the next change is due by the horizon
    rcases earlier_cases hbest with h₃ | h₃
    · rcases earlier_cases h₃ with h₂ | h₂
      · rcases earlier_cases h₂ with h₁ | h₁
        · rw [taskNext_cancelled hc h₁]
          exact Nat.le_max_left _ _
        · rw [taskNext_cancelled hc h₁]
          exact Nat.le_max_left _ _
      · split at h₂
        · rename_i due c rest hch
          cases h₂
          have hle : due ≤ horizon := hchanges (due, c) (by rw [hch]; exact List.mem_cons_self)
          show max w.poller.now due ≤ max w.poller.now horizon
          omega
        · cases h₂
    · cases h₃
  · -- not cancelled: the cancellation is a candidate, so the next step comes by it
    have hle := earlier_le_right rfl hbest
    simp only at hle
    omega

/-- **A run's clock never passes the latest of its cancellation time and its changes' times**,
by induction on its steps. -/
theorem go_now_le (fuel : Nat) (w : Run) {horizon : Nat} (hnow : w.now ≤ horizon)
    (hstop : w.stopAt ≤ horizon) (hchanges : ∀ c ∈ w.changes, c.1 ≤ horizon) :
    (go fuel w).now ≤ horizon := by
  induction fuel generalizing w with
  | zero => exact hnow
  | succ fuel ih =>
    rw [go]
    split
    · exact hnow
    · rename_i t n hnext
      have hf := perform_forward (w := w) t n
      have ht := next?_le hnext hstop hchanges
      refine ih _ ?_ (hf.stopAt ▸ hstop) fun c hc => hchanges c (hf.changes c hc)
      rw [perform_now]
      omega

/-- The changes a run starts with are some of those it was given. -/
theorem start_changes (config : Config) (objects : List Held) (found : List (Option Discovery.Ipv4))
    (changes : List (Nat × Change)) (stopAt : Nat) :
    ∀ c ∈ (Run.start config objects found changes stopAt).changes, c ∈ changes := by
  intro c hc
  simp only [Run.start, List.mem_mergeSort, List.partition_eq_filter_filter] at hc
  exact (List.mem_filter.1 hc).1

end Bench.Run

open Poller Bench

/-- **A run is free of panics while its timings fit.** Whatever the installation does, a run of
the poller panics at no step when both the poll interval and the read deadline can be added to
the clock at the latest of the run's cancellation time and its scheduled changes' times. -/
theorem panic_free_when_timings_fit (config : Config) (objects : List Held)
    (found : List (Option Discovery.Ipv4)) (changes : List (Nat × Change)) (stopAt fuel horizon : Nat)
    (hstop : stopAt ≤ horizon) (hchanges : ∀ c ∈ changes, c.1 ≤ horizon)
    (hfit : config.timingsFit horizon = true) :
    ((Run.start config objects found changes stopAt).go fuel).report.panic = none := by
  have hrun := Run.go_forward fuel (Run.start config objects found changes stopAt)
  have hend := Run.go_now_le fuel (Run.start config objects found changes stopAt) (Nat.zero_le _)
    hstop fun c hc => hchanges c (Run.start_changes config objects found changes stopAt c hc)
  have hconfig : ((Run.start config objects found changes stopAt).go fuel).poller.config = config :=
    hrun.config
  exact hrun.panicked (by rw [hconfig]; exact Config.timingsFit_of_le hfit hend)

/-- A run with the default timings, cancelled after five seconds, with one change on the way. -/
theorem panic_free_when_timings_fit_defaults :
    5000 ≤ 5000 ∧ (∀ c ∈ [(3000, Change.up "10.0.0.2")], c.1 ≤ 5000) ∧
      ({ controller := { host := some "10.0.0.1" } } : Config).timingsFit 5000 = true ∧
      ((Run.start { controller := { host := some "10.0.0.1" } } [] [] [(3000, .up "10.0.0.2")]
        5000).go 10000000).report.panic = none :=
  ⟨Nat.le_refl _, by simp, by decide,
    panic_free_when_timings_fit _ _ _ _ 5000 10000000 5000 (Nat.le_refl _) (by simp) (by decide)⟩

/-- **Validation lets through a poll interval that no instant can follow.** A poll interval of
2^64 - 1 seconds leaves validation's verdict as it is with the default one, and starting the poll
loop with it panics. -/
theorem unbounded_poll_interval_panics :
    ({ controller := { host := some "10.0.0.1" },
        monitor := { pollIntervalSecs := 18446744073709551615 } } : Config).problem? =
      ({ controller := { host := some "10.0.0.1" } } : Config).problem? ∧
    ((State.start
        ({ controller := { host := some "10.0.0.1" },
           monitor := { pollIntervalSecs := 18446744073709551615 } } : Config)).startLoop
      []).panicked = some instantOverflow := by
  -- both configurations are the plain one with its timings set, to non-zero values
  have hfailing := Config.problem_ignores_timing_size
    ({ controller := { host := some "10.0.0.1" } } : Config) 18446744073709551614 9
  have hplain := Config.problem_ignores_timing_size
    ({ controller := { host := some "10.0.0.1" } } : Config) 59 9
  exact ⟨hfailing.trans hplain.symm,
    State.startLoop_overflow [] (Duration.fitsAfter_ofSecs (by decide) 0)⟩

end PoolMonitor
