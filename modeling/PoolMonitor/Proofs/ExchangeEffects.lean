import Mathlib
import PoolMonitor.Equipment.Sweep
import PoolMonitor.Proofs.ResponseWait
/-!
# What requests and reads change

Requests and the reads that wait for their responses touch three things: the connection, the
correlator's pending requests, and the message-id counter. This module says once, for each of
them, everything they may change, so that the health of the connection and the bookkeeping of
pending requests can each be argued without unfolding them again:

* **`Line.Quiet`** — the connection moves on without a health check: the clock only advances,
  the session, the time of the last check, the ping count and the retry policy stay, and health
  can only be lost. Sending, reading and marking the session unusable are quiet.
* **`awaitFrom_effect`** — a wait for `e` is quiet, and forgets `e` exactly when it ends other
  than by running out of time (`settles`); a timeout names `e`.
* **`sendRequest_effect`**, **`request_effect`** — a request remembers its fresh id with the
  time it was sent, and forgets it again if the write fails or the wait settles it.
* **`sweepWith_quiet`**, **`loadFeatureFlags_quiet`** — so sweeps and the feature-flag query are
  quiet too.
-/

namespace PoolMonitor

namespace Line

/-- `l'` follows `l` without a health check: the clock only moves on; the session, the time of
the last check, the ping count and the retry policy stay; and health can only be lost. -/
structure Quiet (l l' : Line) : Prop where
  now_le : l.now ≤ l'.now
  session : l'.link.session = l.link.session
  lastHealthCheck : l'.link.lastHealthCheck = l.link.lastHealthCheck
  pings : l'.peer.pings = l.peer.pings
  policy : l'.link.policy = l.link.policy
  healthy : l'.link.healthy = true → l.link.healthy = true

theorem Quiet.refl (l : Line) : Quiet l l := ⟨le_rfl, rfl, rfl, rfl, rfl, id⟩

theorem Quiet.trans {l₁ l₂ l₃ : Line} (h₁ : Quiet l₁ l₂) (h₂ : Quiet l₂ l₃) : Quiet l₁ l₃ where
  now_le := h₁.now_le.trans h₂.now_le
  session := h₂.session.trans h₁.session
  lastHealthCheck := h₂.lastHealthCheck.trans h₁.lastHealthCheck
  pings := h₂.pings.trans h₁.pings
  policy := h₂.policy.trans h₁.policy
  healthy := h₁.healthy ∘ h₂.healthy

theorem markDisconnected_quiet (l : Line) : Quiet l l.markDisconnected :=
  ⟨le_rfl, rfl, rfl, rfl, rfl, fun h => Bool.noConfusion h⟩

theorem wait_quiet (l : Line) (ms : Nat) : Quiet l (l.wait ms) :=
  ⟨Nat.le_add_right _ _, rfl, rfl, rfl, rfl, id⟩

theorem sendText_quiet (l : Line) (text : String) : Quiet l (l.sendText text).2 := by
  unfold sendText
  split
  · exact Quiet.refl l
  · -- a logged send keeps the ping count; a failed one only loses health
    have hp : (l.peer.send text).2.pings = l.peer.pings := by
      unfold Script.send; split <;> rfl
    generalize l.peer.send text = res at hp
    obtain ⟨r, peer⟩ := res
    cases r
    · exact ⟨le_rfl, rfl, rfl, hp, rfl, fun h => Bool.noConfusion h⟩
    · exact ⟨le_rfl, rfl, rfl, hp, rfl, id⟩

theorem recvText_quiet (l : Line) (d : Duration) : Quiet l (l.recvText d).2 := by
  unfold recvText
  split
  · exact Quiet.refl l
  · -- a read uses up script entries and takes time; only a failure loses health
    have hp : (l.peer.receive d.ceilMillis).2.pings = l.peer.pings := rfl
    generalize l.peer.receive d.ceilMillis = res at hp
    obtain ⟨⟨heard, waited⟩, peer⟩ := res
    cases heard
    · exact ⟨Nat.le_add_right _ _, rfl, rfl, hp, rfl, id⟩
    · exact ⟨Nat.le_add_right _ _, rfl, rfl, hp, rfl, fun h => Bool.noConfusion h⟩
    · exact ⟨Nat.le_add_right _ _, rfl, rfl, hp, rfl, id⟩

/-- Sending a text takes no time and never panics. -/
theorem sendText_keeps (l : Line) (text : String) :
    (l.sendText text).2.now = l.now ∧ (l.sendText text).2.panicked = l.panicked := by
  unfold sendText
  split
  · exact ⟨rfl, rfl⟩
  · split <;> exact ⟨rfl, rfl⟩

/-- On an open session whose controller takes every text, a send succeeds. -/
theorem sendText_fst_of_open {l : Line} (hs : l.link.session = true) (hf : l.peer.failSends = 0)
    (text : String) : (l.sendText text).1 = .ok () := by
  rw [sendText, if_neg (by rw [hs]; nofun)]
  dsimp only
  rw [Script.send, if_neg (by rw [hf]; exact Nat.lt_irrefl 0)]

theorem recvText_panicked (l : Line) (d : Duration) : (l.recvText d).2.panicked = l.panicked := by
  unfold recvText
  split
  · rfl
  · generalize l.peer.receive d.ceilMillis = res
    obtain ⟨⟨heard, waited⟩, peer⟩ := res
    cases heard <;> rfl

end Line

open PoolMonitor.Wire

/-- Whether the outcome of a wait settles the request waited for: every outcome does but
running out of time. -/
def Exchange.settles : Except RequestError Response → Bool
  | .error (.correlation (.timeout _ _)) => false
  | _ => true

/-- The correlator after a wait for `e` with outcome `r`. -/
def Correlator.afterWait (c : Correlator) (e : String) (r : Except RequestError Response) :
    Correlator :=
  if Exchange.settles r then c.forget e else c

namespace Exchange

/-- What a wait for `e` changes, besides the notifications it hands on: the connection quietly,
the pending requests by `Correlator.afterWait`; a timeout names `e`, and no id is made. -/
structure WaitEffect (e : String) (x : Exchange) (r : Except RequestError Response)
    (x' : Exchange) : Prop where
  quiet : Line.Quiet x.line x'.line
  correlator : x'.correlator = x.correlator.afterWait e r
  issued : x'.issued = x.issued
  timeout : ∀ e' n, r = .error (.correlation (.timeout e' n)) → e' = e

theorem timedOut_effect (x : Exchange) (e : String) (n : Nat) :
    WaitEffect e x (x.timedOut e n).1 (x.timedOut e n).2 :=
  ⟨x.line.markDisconnected_quiet, rfl, rfl, fun _ _ h => by cases h; rfl⟩

/-- **A wait changes the connection quietly and settles only its own request.** Induction on the
frames that may still be skipped: each read is quiet, a skipped frame leaves the correlator
alone, and every way out but a timeout forgets `e`. -/
theorem awaitFrom_effect (e : String) (deadline : Nat) :
    ∀ left skipped x, WaitEffect e x (awaitFrom e deadline left skipped x).1
      (awaitFrom e deadline left skipped x).2 := by
  intro left
  induction left with
  | zero => exact fun skipped x => timedOut_effect x e skipped
  | succ left ih =>
    intro skipped x
    rw [awaitFrom]
    split
    · exact timedOut_effect x e skipped
    · have hq := x.line.recvText_quiet (Duration.ofNanos (deadline - x.line.now * 1000000))
      rw [onLine_fst_snd]
      generalize x.line.recvText (Duration.ofNanos (deadline - x.line.now * 1000000)) = res at hq
      obtain ⟨r, line⟩ := res
      cases r with
      | error err =>
        cases err
        -- running out of time keeps the request; any other failure settles it
        case timeout d =>
          exact ⟨hq.trans line.markDisconnected_quiet, rfl, rfl, fun _ _ h => by cases h; rfl⟩
        all_goals exact ⟨hq, rfl, rfl, fun _ _ h => by cases h⟩
      | ok text =>
        dsimp only
        cases Response.decode text with
        | error _ =>
          have := ih (skipped + 1) { x with line }
          exact ⟨hq.trans this.quiet, this.correlator, this.issued, this.timeout⟩
        | ok resp =>
          dsimp only
          split
          · exact ⟨hq, rfl, rfl, fun _ _ h => by cases h⟩
          · split
            · -- a notification, handed on or not, and the wait goes on
              split
              · have := ih (skipped + 1) { x with line, pushes := x.pushes.push resp }
                exact ⟨hq.trans this.quiet, this.correlator, this.issued, this.timeout⟩
              · have := ih (skipped + 1) { x with line }
                exact ⟨hq.trans this.quiet, this.correlator, this.issued, this.timeout⟩
            · -- a response to another request: out of step
              exact ⟨hq.trans line.markDisconnected_quiet, rfl, rfl, fun _ _ h => by cases h⟩

/-- A read waits as `awaitFrom` does; one that panics at its deadline keeps the request, as a
timeout does, and only marks the connection as panicked. -/
theorem readMatchingResponse_effect (x : Exchange) (e : String) :
    WaitEffect e x (x.readMatchingResponse e).1 (x.readMatchingResponse e).2 := by
  cases hfit : x.correlator.policy.readDeadline.fitsAfter x.line.now
  · rw [readMatchingResponse_of_long e hfit]
    exact ⟨⟨le_rfl, rfl, rfl, rfl, rfl, id⟩, rfl, rfl, fun _ _ h => by cases h; rfl⟩
  · rw [readMatchingResponse_eq e hfit]
    exact awaitFrom_effect e _ _ _ x

/-- What sending a request changes: the connection quietly, one more id is made, and the
correlator remembers the fresh id with the time it was sent, forgetting it again when the write
fails. -/
structure SendEffect (x : Exchange) (r : Except RequestError String) (x' : Exchange) : Prop where
  quiet : Line.Quiet x.line x'.line
  issued : x'.issued = x.issued + 1
  outcome : (r = .ok x.freshId.1 ∧ x'.correlator = x.correlator.remember x.freshId.1 x.line.now) ∨
    ((∃ e, r = .error (.transport e)) ∧
      x'.correlator = (x.correlator.remember x.freshId.1 x.line.now).forget x.freshId.1)

theorem sendRequest_effect (x : Exchange) (command condition : String)
    (objects : List ObjectQuery) :
    SendEffect x (x.sendRequest command condition objects).1
      (x.sendRequest command condition objects).2 := by
  have hfresh : x.freshId = (x.freshId.1, { x with issued := x.issued + 1 }) := rfl
  unfold sendRequest
  rw [hfresh]
  dsimp only [withCorrelator, onLine]
  have hq := x.line.sendText_quiet (Request.mk x.freshId.1 command condition objects).toJson
  generalize x.line.sendText _ = res at hq ⊢
  obtain ⟨r, line⟩ := res
  cases r
  · exact ⟨hq, rfl, Or.inr ⟨⟨_, rfl⟩, rfl⟩⟩
  · exact ⟨hq, rfl, Or.inl ⟨rfl, rfl⟩⟩

/-- What a request changes: the connection quietly, one more id is made, and the correlator
remembers the fresh id with the time it was sent and then settles it as the outcome says; a
timeout names the fresh id. -/
structure RequestEffect (x : Exchange) (r : Except RequestError Response) (x' : Exchange) :
    Prop where
  quiet : Line.Quiet x.line x'.line
  issued : x'.issued = x.issued + 1
  correlator :
    x'.correlator = (x.correlator.remember x.freshId.1 x.line.now).afterWait x.freshId.1 r
  timeout : ∀ e n, r = .error (.correlation (.timeout e n)) → e = x.freshId.1

theorem request_effect (x : Exchange) (command condition : String) (objects : List ObjectQuery) :
    RequestEffect x (x.request command condition objects).1
      (x.request command condition objects).2 := by
  have hs := x.sendRequest_effect command condition objects
  unfold request
  generalize x.sendRequest command condition objects = res at hs ⊢
  obtain ⟨r, x₁⟩ := res
  cases r with
  | error e =>
    -- the write failed and the id is forgotten again
    rcases hs.outcome with ⟨h, -⟩ | ⟨⟨e', h⟩, hc⟩
    · cases h
    · cases h
      exact ⟨hs.quiet, hs.issued, hc, fun _ _ h => by cases h⟩
  | ok id =>
    -- written: the wait for the response decides
    obtain ⟨rfl, hc⟩ : id = x.freshId.1 ∧
        x₁.correlator = x.correlator.remember x.freshId.1 x.line.now := by
      rcases hs.outcome with ⟨h, hc⟩ | ⟨⟨_, h⟩, -⟩
      · exact ⟨Except.ok.inj h, hc⟩
      · cases h
    have hw := x₁.readMatchingResponse_effect x.freshId.1
    dsimp only
    generalize x₁.readMatchingResponse x.freshId.1 = res at hw ⊢
    obtain ⟨r, x₂⟩ := res
    dsimp only at hw
    have hq := hs.quiet.trans hw.quiet
    have hi := hw.issued.trans hs.issued
    have hcw := hw.correlator
    rw [hc] at hcw
    cases r with
    | error e => exact ⟨hq, hi, hcw, hw.timeout⟩
    | ok resp =>
      -- a response read in full settles the request, whatever its code
      rw [requireSuccess]
      split <;> exact ⟨hq, hi, hcw, fun _ _ h => by cases h⟩

/-! ## Panics

Of everything a request does, only its read's deadline can panic: reading frames, sending and
settling the outcome never do. -/

theorem awaitFrom_panicked (e : String) (deadline : Nat) :
    ∀ left skipped x, (awaitFrom e deadline left skipped x).2.line.panicked = x.line.panicked := by
  intro left
  induction left with
  | zero => exact fun _ _ => rfl
  | succ left ih =>
    intro skipped x
    rw [awaitFrom]
    split
    · rfl
    · have hr := x.line.recvText_panicked (Duration.ofNanos (deadline - x.line.now * 1000000))
      rw [onLine_fst_snd]
      generalize x.line.recvText (Duration.ofNanos (deadline - x.line.now * 1000000)) = res at hr
      obtain ⟨r, line⟩ := res
      dsimp only at hr
      cases r with
      | error err => cases err <;> exact hr
      | ok text =>
        dsimp only
        cases Response.decode text with
        | error _ => exact (ih _ _).trans hr
        | ok resp =>
          dsimp only
          split
          · exact hr
          · split
            · -- a notification, handed on or not, and the wait goes on
              split <;> exact (ih _ _).trans hr
            · exact hr

/-- **A read panics exactly when its deadline cannot be held.** -/
theorem readMatchingResponse_panicked (x : Exchange) (e : String) :
    (x.readMatchingResponse e).2.line.panicked =
      if x.correlator.policy.readDeadline.fitsAfter x.line.now then x.line.panicked
      else some instantOverflow := by
  cases hfit : x.correlator.policy.readDeadline.fitsAfter x.line.now
  · rw [readMatchingResponse_of_long e hfit]
    rfl
  · rw [readMatchingResponse_eq e hfit]
    exact awaitFrom_panicked e _ _ _ x

/-- Sending a request takes no time, never panics and keeps the correlator's policy. -/
theorem sendRequest_keeps (x : Exchange) (command condition : String) (objects : List ObjectQuery) :
    (x.sendRequest command condition objects).2.line.now = x.line.now ∧
      (x.sendRequest command condition objects).2.line.panicked = x.line.panicked ∧
      (x.sendRequest command condition objects).2.correlator.policy = x.correlator.policy := by
  have hfresh : x.freshId = (x.freshId.1, { x with issued := x.issued + 1 }) := rfl
  unfold sendRequest
  rw [hfresh]
  dsimp only [withCorrelator, onLine]
  have hk := x.line.sendText_keeps (Request.mk x.freshId.1 command condition objects).toJson
  generalize x.line.sendText _ = res at hk ⊢
  obtain ⟨r, line⟩ := res
  cases r <;> exact ⟨hk.1, hk.2, rfl⟩

theorem requireSuccess_snd (r : Except RequestError Response × Exchange) :
    (requireSuccess r).2 = r.2 := by
  unfold requireSuccess
  split
  · rfl
  · split <;> rfl

/-- **A request panics exactly when it is written and its read's deadline cannot be held.** -/
theorem request_panicked (x : Exchange) (command condition : String) (objects : List ObjectQuery) :
    (x.request command condition objects).2.line.panicked =
      match (x.sendRequest command condition objects).1 with
      | .ok _ =>
        if x.correlator.policy.readDeadline.fitsAfter x.line.now then x.line.panicked
        else some instantOverflow
      | .error _ => x.line.panicked := by
  have hk := x.sendRequest_keeps command condition objects
  unfold request
  generalize x.sendRequest command condition objects = res at hk ⊢
  obtain ⟨r, x₁⟩ := res
  obtain ⟨hnow, hpanicked, hpolicy⟩ := hk
  cases r with
  | error e => exact hpanicked
  | ok id =>
    dsimp only
    rw [requireSuccess_snd, readMatchingResponse_panicked, hnow, hpanicked, hpolicy]

/-- A request whose read's deadline can be held does not panic. -/
theorem request_panicked_of_fits {x : Exchange} (command condition : String)
    (objects : List ObjectQuery) (hfit : x.correlator.policy.readDeadline.fitsAfter x.line.now = true) :
    (x.request command condition objects).2.line.panicked = x.line.panicked := by
  rw [request_panicked]
  split
  · rw [if_pos hfit]
  · rfl

/-- A request written on an open session whose read's deadline cannot be held panics. -/
theorem request_panicked_of_long {x : Exchange} (command condition : String)
    (objects : List ObjectQuery) (hs : x.line.link.session = true) (hf : x.line.peer.failSends = 0)
    (hlong : x.correlator.policy.readDeadline.fitsAfter x.line.now = false) :
    (x.request command condition objects).2.line.panicked = some instantOverflow := by
  have hfresh : x.freshId = (x.freshId.1, { x with issued := x.issued + 1 }) := rfl
  -- the write cannot fail on an open session that takes every text
  have hsent : (x.sendRequest command condition objects).1 = .ok x.freshId.1 := by
    unfold sendRequest
    rw [hfresh]
    dsimp only [withCorrelator, onLine]
    rw [Line.sendText_fst_of_open hs hf]
  rw [request_panicked, hsent]
  dsimp only
  rw [if_neg (by rw [hlong]; nofun)]

end Exchange

namespace Equipment

open PoolMonitor.Wire

theorem sweepWith_quiet :
    ∀ (qs : List SweepQuery) (acc : SweepOutcome) (x : Exchange),
      Line.Quiet x.line (sweepWith qs acc x).2.line
  | [], _, x => Line.Quiet.refl x.line
  | q :: rest, acc, x => by
    have hr := x.request_effect Command.getParamList q.condition q.objects
    unfold sweepWith
    generalize x.request Command.getParamList q.condition q.objects = res at hr ⊢
    obtain ⟨r, x₁⟩ := res
    cases r
    · exact hr.quiet
    · exact hr.quiet.trans (sweepWith_quiet rest _ x₁)

theorem loadFeatureFlags_quiet (x : Exchange) : Line.Quiet x.line (loadFeatureFlags x).2.line := by
  have hr := x.request_effect Command.getParamList featureFlagCondition featureFlagQuery
  unfold loadFeatureFlags
  generalize x.request Command.getParamList featureFlagCondition featureFlagQuery = res at hr ⊢
  obtain ⟨r, x₁⟩ := res
  cases r <;> exact hr.quiet

end Equipment

end PoolMonitor
