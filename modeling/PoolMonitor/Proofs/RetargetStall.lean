import Mathlib
import PoolMonitor.Proofs.PollerMoves
/-!
# A failed retarget stalls rediscovery

When rediscovery finds the controller at a new address, the poll side aims its connection at
that address and shares it with the push side, and only then tries to connect. The address it
judges later searches against is the host of that connection: the address last aimed at, not
the one last connected to. So when the connection to the new address fails, the next search
that finds the controller there judges the address unchanged. The poll side then searches on
every tick and never uses its connection again, for as long as the searches find that address.

`Stalled` is that situation. The push side never touches what it is made of (`PushOnly`, one
lemma per step of the push side); `Stalled.occur` shows that every occurrence keeps it and
leaves the poll connection alone (the step lemma), `Stalled.run` the same of a whole run, and
`failed_retarget_stalls` that a failed connection to a rediscovered address leads into it.
-/

namespace PoolMonitor.Poller

open PoolMonitor.Wire PoolMonitor.Equipment PoolMonitor.Discovery

/-- Whether an effect uses the poll connection: a connection attempt or a request on it. -/
def Effect.usesPollLink : Effect → Bool
  | .connect .poll _ | .request .poll _ _ _ => true
  | _ => false

/-- Every search the occurrence answers finds the controller at `host`, or nowhere. -/
def Occurrence.FindsOnly (host : String) (o : Occurrence) : Prop :=
  ∀ a, o = .poll (.found (.addr a)) → a.toText = host

/-- The poll side waits in the poll loop, or has stopped, with rediscovery active and its
connection aimed at `host`. -/
structure Stalled (host : String) (s : State) : Prop where
  stage : s.pollStage = .idle ∨ s.pollStage = .rediscovering ∨ s.pollStage = .stopped
  active : s.rediscovery.active = true
  aimed : s.pollConn.endpoint.host = host

/-- A step from `s` to `t` with effects `new` that is the push side's alone: the poll side's
stage, connection and rediscovery stay as they were, and the poll connection is not used. -/
structure PushOnly (s t : State) (new : List Effect) : Prop where
  pollStage : t.pollStage = s.pollStage
  pollConn : t.pollConn = s.pollConn
  rediscovery : t.rediscovery = s.rediscovery
  effects : ∀ e ∈ new, e.usesPollLink = false

theorem Stalled.of_pushOnly {host : String} {s t : State} {new : List Effect}
    (h : Stalled host s) (hp : PushOnly s t new) : Stalled host t where
  stage := hp.pollStage ▸ h.stage
  active := hp.rediscovery ▸ h.active
  aimed := hp.pollConn ▸ h.aimed

/-- A step that changes none of the poll side's fields and makes no effect. -/
theorem pushOnly_nil {s t : State} (hstage : t.pollStage = s.pollStage)
    (hconn : t.pollConn = s.pollConn) (hred : t.rediscovery = s.rediscovery) :
    PushOnly s t [] :=
  ⟨hstage, hconn, hred, by simp⟩

theorem PushOnly.cons {s t : State} {new : List Effect} {e : Effect} (h : PushOnly s t new)
    (he : e.usesPollLink = false) : PushOnly s t (e :: new) :=
  ⟨h.pollStage, h.pollConn, h.rediscovery, by simpa [he] using h.effects⟩

/-- A step from a state that differs from `s` only on the push side is one from `s`. -/
theorem PushOnly.of_same {s s' t : State} {new : List Effect} (h : PushOnly s' t new)
    (hstage : s'.pollStage = s.pollStage) (hconn : s'.pollConn = s.pollConn)
    (hred : s'.rediscovery = s.rediscovery) : PushOnly s t new :=
  ⟨h.pollStage.trans hstage, h.pollConn.trans hconn, h.rediscovery.trans hred, h.effects⟩

/-! ## The push side leaves the poll side alone -/

namespace State

variable {s : State}

theorem reconnectPush_pushOnly : PushOnly s s.reconnectPush.1 s.reconnectPush.2 := by
  unfold reconnectPush
  split
  · exact pushOnly_nil rfl rfl rfl
  · exact ⟨rfl, rfl, rfl, by simp [Effect.usesPollLink]⟩

theorem subscribe_pushOnly (resync : Bool) :
    PushOnly s (s.subscribe resync).1 (s.subscribe resync).2 := by
  unfold subscribe
  split
  · exact pushOnly_nil rfl rfl rfl
  · exact ⟨rfl, rfl, rfl, by simp [Effect.usesPollLink, subscribeRequest]⟩

theorem afterSubscribe_pushOnly (resync : Bool) (r : Except RequestError Response) :
    PushOnly s (s.afterSubscribe resync r).1 (s.afterSubscribe resync r).2 := by
  simp only [afterSubscribe]
  split
  · exact ⟨rfl, rfl, rfl, by simp [Effect.usesPollLink]⟩
  · split
    · exact ⟨rfl, rfl, rfl, by simp [Effect.usesPollLink]⟩
    · refine (PushOnly.cons reconnectPush_pushOnly ?_).of_same rfl rfl rfl
      rfl

theorem afterRead_pushOnly (r : Except TransportError String) :
    PushOnly s (s.afterRead r).1 (s.afterRead r).2 := by
  cases r with
  | ok text =>
    refine ⟨rfl, rfl, rfl, fun e he => ?_⟩
    obtain ⟨objects, rfl⟩ := mem_frame he
    rfl
  | error err =>
    cases err
    case timeout d =>
      simp only [afterRead]
      split
      · exact pushOnly_nil rfl rfl rfl
      · exact reconnectPush_pushOnly
      · exact pushOnly_nil rfl rfl rfl
    all_goals exact reconnectPush_pushOnly

theorem afterPushPing_pushOnly (ok : Bool) :
    PushOnly s (s.afterPushPing ok).1 (s.afterPushPing ok).2 := by
  simp only [afterPushPing]
  split
  · exact pushOnly_nil rfl rfl rfl
  · exact reconnectPush_pushOnly.of_same rfl rfl rfl

theorem afterPushConnect_pushOnly (r : Except ConnectionError Unit) :
    PushOnly s (s.afterPushConnect r).1 (s.afterPushConnect r).2 := by
  cases r with
  | ok u =>
    exact ⟨rfl, rfl, rfl, by simp [afterPushConnect, Effect.usesPollLink, SweepQuery.request]⟩
  | error err => cases err <;> exact pushOnly_nil rfl rfl rfl

theorem afterPushReply_pushOnly (p : SweepProgress) (r : Except RequestError Response) :
    PushOnly s (s.afterPushReply p r).1 (s.afterPushReply p r).2 := by
  simp only [afterPushReply]
  split
  · exact ⟨rfl, rfl, rfl, by simp [Effect.usesPollLink, SweepQuery.request]⟩
  · split
    · exact ⟨rfl, rfl, rfl, by simp [Effect.usesPollLink]⟩
    · refine ((PushOnly.cons (PushOnly.cons (subscribe_pushOnly true) ?_) ?_)).of_same rfl rfl rfl
      all_goals rfl

/-- **Every step of the push side is the push side's alone.** -/
theorem pushStep_pushOnly {stage : PushStage} {a : Answer} {r : State × List Effect}
    (h : s.pushStep stage a = some r) : PushOnly s r.1 r.2 := by
  unfold pushStep at h
  split at h <;> cases h
  · exact subscribe_pushOnly false
  · exact ⟨rfl, rfl, rfl, by simp [Effect.usesPollLink]⟩
  · exact afterSubscribe_pushOnly _ _
  · exact pushOnly_nil rfl rfl rfl
  · exact afterRead_pushOnly _
  · exact afterPushPing_pushOnly _
  · exact afterPushConnect_pushOnly _
  · exact ⟨rfl, rfl, rfl, by simp [Effect.usesPollLink]⟩
  · exact afterPushReply_pushOnly _ _
  · exact reconnectPush_pushOnly
  · exact pushOnly_nil rfl rfl rfl

/-! ## Searching on and on -/

variable {host : String}

/-- A search in rediscovery that finds the controller at the host the poll connection is aimed
at, or nowhere, changes nothing but the stage: the poll side waits for the next tick. -/
theorem afterRediscovery_of_found (r : Found)
    (hr : ∀ a, r = .addr a → a.toText = s.pollConn.endpoint.host) :
    s.afterRediscovery r = ({ s with pollStage := .idle }, []) := by
  unfold afterRediscovery
  cases r with
  | addr a => simp [attemptOutcome, Found.addr?, hr a rfl]
  | cancelled => rfl
  | failed => rfl

/-- **The step lemma of the poll side.** From a stalled state, a tick searches again, a search
that finds only `host` waits for the next tick, and a cancellation stops the side. -/
theorem pollStep_stalled (h : Stalled host s) {a : Answer}
    (ha : ∀ b, a = .found (.addr b) → b.toText = host) {r : State × List Effect}
    (hstep : s.pollStep s.pollStage a = some r) :
    Stalled host r.1 ∧ ∀ e ∈ r.2, e.usesPollLink = false := by
  rcases h.stage with hs | hs | hs <;> rw [hs] at hstep
  · -- waiting for the tick
    cases a
    case elapsed =>
      cases hstep
      simp only [onTick, h.active, if_true]
      exact ⟨⟨.inr (.inl rfl), h.active, h.aimed⟩, by simp [Effect.usesPollLink]⟩
    case cancelled =>
      cases hstep
      exact ⟨⟨.inr (.inr rfl), h.active, h.aimed⟩, by simp⟩
    all_goals cases hstep
  · -- searching: the search finds the host aimed at, or nothing
    cases a
    case found r' =>
      cases hstep
      rw [afterRediscovery_of_found r' fun b hb => (ha b (by rw [hb])).trans h.aimed.symm]
      exact ⟨⟨.inl rfl, h.active, h.aimed⟩, by simp⟩
    all_goals cases hstep
  · -- a stopped side takes no answer
    cases a <;> cases hstep

end State

variable {s : State} {host : String}

open State in
/-- **The step lemma.** Every occurrence whose searches find only `host` keeps a stalled state
stalled and leaves the poll connection alone. -/
theorem Stalled.occur (h : Stalled host s) {o : Occurrence} (ho : o.FindsOnly host) :
    Stalled host (s.occur o).1 ∧ ∀ e ∈ (s.occur o).2, e.usesPollLink = false := by
  cases o with
  | poll a =>
    simp only [State.occur]
    split
    · cases hstep : s.pollStep s.pollStage a with
      | none => exact ⟨h, by simp⟩
      | some r => exact pollStep_stalled h (fun b hb => ho b (by rw [hb])) hstep
    · exact ⟨h, by simp⟩
  | push a =>
    simp only [State.occur]
    split
    · split
      · rename_i stage _ _
        cases hstep : s.pushStep stage a with
        | none => exact ⟨h, by simp⟩
        | some r =>
          have hp := pushStep_pushOnly hstep
          exact ⟨h.of_pushOnly hp, hp.effects⟩
      · exact ⟨h, by simp⟩
    · exact ⟨h, by simp⟩
  | cancel => exact ⟨⟨h.stage, h.active, h.aimed⟩, by simp [State.occur]⟩
  | elapse ms => exact ⟨⟨h.stage, h.active, h.aimed⟩, by simp [State.occur]⟩

open State in
/-- **The run lemma.** A run from a stalled state whose searches find only `host` stays
stalled and never uses the poll connection. -/
theorem Stalled.run (h : Stalled host s) (sched : List Occurrence)
    (hsched : ∀ o ∈ sched, o.FindsOnly host) :
    Stalled host (s.run sched).1 ∧ ∀ e ∈ (s.run sched).2, e.usesPollLink = false := by
  induction sched generalizing s with
  | nil => exact ⟨h, by simp [State.run]⟩
  | cons o sched ih =>
    obtain ⟨h₁, he₁⟩ := h.occur (hsched o List.mem_cons_self)
    obtain ⟨h₂, he₂⟩ := ih h₁ fun o' ho' => hsched o' (List.mem_cons_of_mem _ ho')
    rw [State.run_cons]
    refine ⟨h₂, fun e he => ?_⟩
    rcases List.mem_append.1 he with he | he
    · exact he₁ e he
    · exact he₂ e he

/-- **A failed retarget stalls rediscovery.** In rediscovery, a search that finds the
controller at `b`, other than the host the poll connection is aimed at, aims the connection
at `b`, shares that endpoint with the push side, and connects. When that attempt fails, the
connection stays aimed at `b`, which a later search that finds `b` judges the same address:
from then on, in every run whose searches find the controller at `b` or nowhere, the poll side
only searches on each tick and never uses its connection again. -/
theorem failed_retarget_stalls (s : State) (b : Ipv4) (err : ConnectionError)
    (hs : s.pollStage = .rediscovering) (hactive : s.rediscovery.active = true)
    (hnew : b.toText ≠ s.pollConn.endpoint.host) (herr : err ≠ .cancelled)
    (sched : List Occurrence) (hsched : ∀ o ∈ sched, o.FindsOnly b.toText) :
    let t := s.occur (.poll (.found (.addr b)))
    let u := t.1.occur (.poll (.connected (.error err)))
    t.2 = [.connect .poll (s.pollConn.endpoint.withHost b.toText)] ∧
      t.1.shared = s.pollConn.endpoint.withHost b.toText ∧
      u.2 = [] ∧ u.1.pollConn.endpoint.host = b.toText ∧
      attemptOutcome (some b) u.1.pollConn.endpoint.host = .sameAddress ∧
      Stalled b.toText (u.1.run sched).1 ∧ ∀ e ∈ (u.1.run sched).2, e.usesPollLink = false := by
  intro t u
  -- the search finds a new address: the connection is aimed at it before connecting
  have hchanged : attemptOutcome (some b) s.pollConn.endpoint.host = .addressChanged b := by
    simp [attemptOutcome, hnew]
  have ht : t = ({ s with
        pollStage := .retargeting
        pollConn := { s.pollConn.closed with endpoint := s.pollConn.endpoint.withHost b.toText }
        shared := s.pollConn.endpoint.withHost b.toText
        version := s.version + 1 },
      [.connect .poll (s.pollConn.endpoint.withHost b.toText)]) := by
    simp only [t, State.occur, State.admits, Answer.reportsCancel, Bool.not_false, Bool.true_or,
      if_true, hs, State.pollStep, Option.getD_some, State.afterRediscovery, Found.addr?, hchanged]
  -- the attempt fails: the connection stays aimed at `b`, and with rediscovery still active
  -- the side waits for the next tick
  have hfail : (Answer.connected (.error err)).reportsCancel = false := by
    cases err <;> simp_all [Answer.reportsCancel]
  have hu : u = ({ t.1 with pollStage := .idle }, []) := by
    simp only [u, ht, State.occur, State.admits, hfail, Bool.not_false, Bool.true_or, if_true,
      State.pollStep, Option.getD_some, State.afterRetarget, Except.isOk, Except.toBool,
      Rediscovery.reconnected_false, hactive, Link.afterConnect]
  have haimed : u.1.pollConn.endpoint.host = b.toText := by
    rw [hu, ht]
    rfl
  have hstalled : Stalled b.toText u.1 :=
    ⟨by rw [hu]; exact .inl rfl, by rw [hu, ht]; exact hactive, haimed⟩
  obtain ⟨hrun, heffects⟩ := hstalled.run sched hsched
  refine ⟨by rw [ht], by rw [ht], by rw [hu], haimed, ?_, hrun, heffects⟩
  simp [attemptOutcome, haimed]

/-- Rediscovery aimed at `10.0.0.1` finds the controller at `10.0.0.2`, and the connection
fails: the next tick's search finds `10.0.0.2` again and nothing is connected. -/
theorem failed_retarget_stalls_at_new_address :
    let s : State :=
      { State.start {} with
        pollStage := .rediscovering
        rediscovery := { Rediscovery.new 1 true with active := true }
        pollConn := { endpoint := ⟨"10.0.0.1", 6680, .websocket⟩, policy := {} } }
    let b : Ipv4 := ⟨10, 0, 0, 2⟩
    let err : ConnectionError := .transport .closed
    let sched : List Occurrence := [.poll .elapsed, .poll (.found (.addr b))]
    (s.pollStage = .rediscovering ∧ s.rediscovery.active = true ∧
      b.toText ≠ s.pollConn.endpoint.host ∧ err ≠ .cancelled ∧
      ∀ o ∈ sched, o.FindsOnly b.toText) ∧
    let t := s.occur (.poll (.found (.addr b)))
    let u := t.1.occur (.poll (.connected (.error err)))
    t.2 = [.connect .poll (s.pollConn.endpoint.withHost b.toText)] ∧
      t.1.shared = s.pollConn.endpoint.withHost b.toText ∧
      u.2 = [] ∧ u.1.pollConn.endpoint.host = b.toText ∧
      attemptOutcome (some b) u.1.pollConn.endpoint.host = .sameAddress ∧
      Stalled b.toText (u.1.run sched).1 ∧ ∀ e ∈ (u.1.run sched).2, e.usesPollLink = false :=
  have hfinds : ∀ o ∈ [Occurrence.poll .elapsed, .poll (.found (.addr ⟨10, 0, 0, 2⟩))],
      o.FindsOnly (⟨10, 0, 0, 2⟩ : Ipv4).toText := by
    simp [Occurrence.FindsOnly]
  ⟨⟨rfl, rfl, by decide, by simp, hfinds⟩,
    failed_retarget_stalls _ _ _ rfl rfl (by decide) (by simp) _ hfinds⟩

end PoolMonitor.Poller
