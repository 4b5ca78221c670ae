import Mathlib
import PoolMonitor.Poller.Tasks
/-!
# What one step of the poller can do

The two tasks have many steps, but for the order of what they publish and send only a few
kinds of move matter. `PollMove` and `PushMove` list them; `pollStep_move` and `pushStep_move`
show that every step of a task is one of them. Invariants of the poller are then proved with
one case per kind of move, and no proof unfolds a step again.

The poll side only moves forward through its phases (`PollStage.rank`): setting up, loading the
flags, taking the first snapshot, polling, stopped. It publishes the flags on the move out of
loading them, the first snapshot on the move into polling (the only move that starts the push
side and sets its subscription), and its cycles while polling. The push side leaves the poll
side's stage alone, publishes the notifications it hears, asks for a reset when it has
connected again, and publishes a snapshot only at the end of a complete resynchronising sweep.
-/

namespace PoolMonitor.Poller

open PoolMonitor.Wire PoolMonitor.Equipment

/-- The rank of a round: the first snapshot comes before the poll loop. -/
def Round.rank : Round → Nat
  | .initial => 2
  | .cycle => 3

/-- How far the poll side has come: setting up (0), loading the flags (1), taking the first
snapshot (2), polling (3), stopped (4). -/
def PollStage.rank : PollStage → Nat
  | .starting | .discovering | .discoveryPause | .connecting _ | .connectPause _ => 0
  | .loadingFlags => 1
  | .sweeping r _ | .pinging r | .reconnecting r => r.rank
  | .initialPause => 2
  | .idle | .rediscovering | .retargeting => 3
  | .stopped => 4

/-- An effect of the task on `side` that neither publishes nor sends a request: a connection
attempt, a search, a tick, or an answer the task got. -/
def Effect.quietOn (side : Side) : Effect → Bool
  | .connect _ _ | .discover | .tick => true
  | .reply side' _ => side' == side
  | .publish _ _ | .request _ _ _ _ => false

/-- The objects of a complete sweep whose last answer is `r`. -/
def SweepProgress.objectsWith (p : SweepProgress) (r : Response) : List ObjectData :=
  (p.replies ++ [r]).flatMap (·.objects)

/-- Two states agree on the push side's stage and subscription. -/
def State.SamePush (s t : State) : Prop :=
  t.pushStage = s.pushStage ∧ t.subscription = s.subscription

/-! ## The moves -/

/-- The kinds of move of the poll side. Every move but `snapshot` leaves the push side's stage
and subscription alone. -/
inductive PollMove (s t : State) : List Effect → Prop where
  /-- Connecting, searching, ticking, pausing, stopping, or an answer that completes no sweep:
  nothing published or sent, no sweep under way, and the phase kept unless stopped. -/
  | quiet {new : List Effect} (hnew : ∀ e ∈ new, e.quietOn .poll = true)
      (hrank : t.pollStage.rank = s.pollStage.rank ∨ t.pollStage = .stopped)
      (hsweep : ∀ round p, t.pollStage ≠ .sweeping round p) (hkeep : s.SamePush t) :
      PollMove s t new
  /-- Both connections are open: the feature flags are asked for. -/
  | askFlags (hs : s.pollStage.rank = 0) (ht : t.pollStage = .loadingFlags)
      (hkeep : s.SamePush t) :
      PollMove s t [flagsRequest]
  /-- The flags' answer: they are published if they came, and the first snapshot's sweep
  starts. -/
  | flagsAnswered (r : Except RequestError Response) (hs : s.pollStage = .loadingFlags)
      (ht : t.pollStage = .sweeping .initial .start) (hkeep : s.SamePush t) :
      PollMove s t
        (.reply .poll r :: (flagsPublished r ++ [SweepProgress.start.current.request .poll]))
  /-- A sweep starts in the phase of its round, after a tick perhaps. -/
  | sweepStart (pre : List Effect) (round : Round) (hpre : ∀ e ∈ pre, e.quietOn .poll = true)
      (hs : s.pollStage.rank = round.rank) (ht : t.pollStage = .sweeping round .start)
      (hkeep : s.SamePush t) :
      PollMove s t (pre ++ [SweepProgress.start.current.request .poll])
  /-- A query of a sweep is answered and the next one sent. -/
  | sweepNext (round : Round) (p : SweepProgress) (r : Response) (p' : SweepProgress)
      (hs : s.pollStage = .sweeping round p) (hp' : p'.replies = p.replies ++ [r])
      (ht : t.pollStage = .sweeping round p') (hkeep : s.SamePush t) :
      PollMove s t [.reply .poll (.ok r), p'.current.request .poll]
  /-- The first snapshot's sweep completes: it is published, the push side starts with the
  subscription it gives, and the poll loop begins. -/
  | snapshot (p : SweepProgress) (r : Response) (hs : s.pollStage = .sweeping .initial p)
      (hlast : sweepQueries.length ≤ p.replies.length + 1) (ht : t.pollStage = .idle)
      (hpush : t.pushStage = some .starting)
      (hsub : t.subscription = subscription (p.objectsWith r)) :
      PollMove s t [.reply .poll (.ok r), .publish .poll (.initial .poll (p.objectsWith r))]
  /-- A cycle's sweep ends and is published. -/
  | cycleDone (p : SweepProgress) (r : Except RequestError Response)
      (objects : List ObjectData) (failed : Bool) (hs : s.pollStage = .sweeping .cycle p)
      (ht : t.pollStage = .idle) (hkeep : s.SamePush t) :
      PollMove s t [.reply .poll r, .publish .poll (.pollCycle objects failed)]

/-- The kinds of move of the push side. -/
inductive PushMove (s t : State) : List Effect → Prop where
  /-- Connecting, listening, pausing, stopping, or an answer that completes no sweep: nothing
  published or sent, and no sweep under way. -/
  | quiet {new : List Effect} (hnew : ∀ e ∈ new, e.quietOn .push = true)
      (hsweep : ∀ p, t.pushStage ≠ some (.sweeping p)) (hsub : t.subscription = s.subscription) :
      PushMove s t new
  /-- Notifications are published, and the side goes on waiting where it was. -/
  | notify {new : List Effect} (hnew : ∀ e ∈ new, ∃ objects, e = .publish .push (.push objects))
      (hstage : t.pushStage = s.pushStage) (hsub : t.subscription = s.subscription) :
      PushMove s t new
  /-- The side subscribes to what it watches, if anything. -/
  | subscribe {new : List Effect} (hnew : ∀ e ∈ new, e = subscribeRequest s.subscription)
      (hsweep : ∀ p, t.pushStage ≠ some (.sweeping p)) (hsub : t.subscription = s.subscription) :
      PushMove s t new
  /-- Connected again: the minder is asked to reset, and a sweep starts. -/
  | resyncStart (ht : t.pushStage = some (.sweeping .start))
      (hsub : t.subscription = s.subscription) :
      PushMove s t [.publish .push .reset, SweepProgress.start.current.request .push]
  /-- A query of the resynchronising sweep is answered and the next one sent. -/
  | resyncNext (p : SweepProgress) (r : Response) (p' : SweepProgress)
      (hs : s.pushStage = some (.sweeping p)) (hp' : p'.replies = p.replies ++ [r])
      (ht : t.pushStage = some (.sweeping p')) (hsub : t.subscription = s.subscription) :
      PushMove s t [.reply .push (.ok r), p'.current.request .push]
  /-- The resynchronising sweep completes: it is published, becomes what the side watches,
  and is subscribed to. -/
  | resnapshot (p : SweepProgress) (r : Response) {rest : List Effect}
      (hs : s.pushStage = some (.sweeping p)) (hlast : sweepQueries.length ≤ p.replies.length + 1)
      (hsub : t.subscription = subscription (p.objectsWith r))
      (hrest : ∀ e ∈ rest, e = subscribeRequest (subscription (p.objectsWith r)))
      (hsweep : ∀ p, t.pushStage ≠ some (.sweeping p)) :
      PushMove s t (.reply .push (.ok r) :: .publish .push (.initial .push (p.objectsWith r)) :: rest)

/-- A move from a state is one from any state with the same stages and subscription: the moves
read nothing else of where they start. -/
theorem PollMove.of_same {s s' t : State} {new : List Effect} (h : PollMove s' t new)
    (hstage : s'.pollStage = s.pollStage) (hpush : s.SamePush s') : PollMove s t new := by
  obtain ⟨hps, hsub⟩ := hpush
  have hkeep {t : State} (h : s'.SamePush t) : s.SamePush t :=
    ⟨h.1.trans hps, h.2.trans hsub⟩
  cases h with
  | quiet hnew hrank hsweep hk => exact .quiet hnew (hstage ▸ hrank) hsweep (hkeep hk)
  | askFlags hs ht hk => exact .askFlags (hstage ▸ hs) ht (hkeep hk)
  | flagsAnswered r hs ht hk => exact .flagsAnswered r (hstage ▸ hs) ht (hkeep hk)
  | sweepStart pre round hpre hs ht hk => exact .sweepStart pre round hpre (hstage ▸ hs) ht (hkeep hk)
  | sweepNext round p r p' hs hp' ht hk => exact .sweepNext round p r p' (hstage ▸ hs) hp' ht (hkeep hk)
  | snapshot p r hs hlast ht hpush hsub => exact .snapshot p r (hstage ▸ hs) hlast ht hpush hsub
  | cycleDone p r objects failed hs ht hk =>
    exact .cycleDone p r objects failed (hstage ▸ hs) ht (hkeep hk)

theorem PushMove.of_same {s s' t : State} {new : List Effect} (h : PushMove s' t new)
    (hpush : s.SamePush s') : PushMove s t new := by
  obtain ⟨hps, hsub⟩ := hpush
  cases h with
  | quiet hnew hsweep hs => exact .quiet hnew hsweep (hs.trans hsub)
  | notify hnew hstage hs => exact .notify hnew (hstage.trans hps) (hs.trans hsub)
  | subscribe hnew hsweep hs => exact .subscribe (hsub ▸ hnew) hsweep (hs.trans hsub)
  | resyncStart ht hs => exact .resyncStart ht (hs.trans hsub)
  | resyncNext p r p' hs hp' ht hs' => exact .resyncNext p r p' (hps ▸ hs) hp' ht (hs'.trans hsub)
  | resnapshot p r hs hlast hs' hrest hsweep => exact .resnapshot p r (hps ▸ hs) hlast hs' hrest hsweep

/-! ## Every step of the poll side is a move -/

namespace State

variable {s : State}

theorem stopPoll_move : PollMove s s.stopPoll [] :=
  .quiet (by simp) (.inr rfl) (fun _ _ => nofun) ⟨rfl, rfl⟩

theorem pausePoll_move {stage : PollStage} (hrank : stage.rank = s.pollStage.rank)
    (hsweep : ∀ round p, stage ≠ .sweeping round p) : PollMove s (s.pausePoll stage) [] :=
  .quiet (by simp) (.inl hrank) hsweep ⟨rfl, rfl⟩

theorem resolved_move (e : Endpoint) (hs : s.pollStage.rank = 0) :
    PollMove s (s.resolved e).1 (s.resolved e).2 :=
  .quiet (by simp [resolved, Effect.quietOn]) (.inl (by rw [hs]; rfl))
    (fun _ _ => nofun) ⟨rfl, rfl⟩

theorem resolve_move (hs : s.pollStage.rank = 0) : PollMove s s.resolve.1 s.resolve.2 := by
  unfold resolve
  split
  · exact resolved_move _ hs
  · exact .quiet (by simp [Effect.quietOn]) (.inl (by rw [hs]; rfl))
      (fun _ _ => nofun) ⟨rfl, rfl⟩

theorem afterSearch_move (r : Found) (hs : s.pollStage.rank = 0) :
    PollMove s (s.afterSearch r).1 (s.afterSearch r).2 := by
  cases r with
  | addr a => exact resolved_move _ hs
  | cancelled => exact stopPoll_move
  | failed => exact pausePoll_move (by rw [hs]; rfl) (fun _ _ => nofun)

theorem afterStartupConnect_move (side : Side) (r : Except ConnectionError Unit)
    (hs : s.pollStage = .connecting side) :
    PollMove s (s.afterStartupConnect side r).1 (s.afterStartupConnect side r).2 := by
  have h0 : s.pollStage.rank = 0 := by rw [hs]; rfl
  cases r with
  | ok u =>
    cases side with
    | poll =>
      exact .quiet (by simp [afterStartupConnect, Effect.quietOn])
        (.inl (by rw [h0]; rfl)) (fun _ _ => nofun) ⟨rfl, rfl⟩
    | push => exact .askFlags h0 rfl ⟨rfl, rfl⟩
  | error e =>
    cases e with
    | cancelled => exact stopPoll_move
    | transport e => exact pausePoll_move (by rw [h0]; rfl) (fun _ _ => nofun)
    | exhausted endpoint attempts last =>
      exact pausePoll_move (by rw [h0]; rfl) (fun _ _ => nofun)

/-- Starting a sweep, after `pre`. -/
theorem sweepPoll_move (round : Round) (hs : s.pollStage.rank = round.rank)
    (pre : List Effect) (hpre : ∀ e ∈ pre, e.quietOn .poll = true) :
    PollMove s (s.sweepPoll round).1 (pre ++ (s.sweepPoll round).2) :=
  .sweepStart pre round hpre hs rfl ⟨rfl, rfl⟩

theorem reconnectPoll_move (round : Round) (hs : s.pollStage.rank = round.rank)
    (pre : List Effect) (hpre : ∀ e ∈ pre, e.quietOn .poll = true) :
    PollMove s (s.reconnectPoll round).1 (pre ++ (s.reconnectPoll round).2) := by
  refine .quiet ?_ (.inl (by rw [hs]; rfl)) (fun _ _ => nofun)
    ⟨rfl, rfl⟩
  intro e he
  simp only [reconnectPoll, List.mem_append, List.mem_singleton] at he
  rcases he with he | rfl
  · exact hpre e he
  · rfl

/-- The health check before a sweep, after `pre`: the sweep starts, or a ping or a connection
is awaited. -/
theorem ensurePoll_move (round : Round) (hs : s.pollStage.rank = round.rank)
    (pre : List Effect) (hpre : ∀ e ∈ pre, e.quietOn .poll = true) :
    PollMove s (s.ensurePoll round).1 (pre ++ (s.ensurePoll round).2) := by
  unfold ensurePoll
  split
  · exact sweepPoll_move round hs pre hpre
  · exact reconnectPoll_move round hs pre hpre
  · exact .quiet (by simpa using hpre) (.inl (by rw [hs]; rfl)) (fun _ _ => nofun)
      ⟨rfl, rfl⟩

theorem afterFlags_move (r : Except RequestError Response) (hs : s.pollStage = .loadingFlags) :
    PollMove s (s.afterFlags r).1 (s.afterFlags r).2 :=
  .flagsAnswered r hs rfl ⟨rfl, rfl⟩

theorem afterPollReply_move (round : Round) (p : SweepProgress) (r : Except RequestError Response)
    (hs : s.pollStage = .sweeping round p) :
    PollMove s (s.afterPollReply round p r).1 (s.afterPollReply round p r).2 := by
  simp only [afterPollReply]
  split
  · rename_i p' hans
    obtain ⟨resp, rfl, hp'⟩ := SweepProgress.answer_eq_next hans
    exact .sweepNext round p resp p' hs hp' rfl ⟨rfl, rfl⟩
  · rename_i o hans
    cases round with
    | initial =>
      simp only [afterPollSweep]
      cases hf : o.failed with
      | true =>
        exact .quiet (by simp [pausePoll, Effect.quietOn]) (.inl (by rw [hs]; rfl)) (fun _ _ => nofun) ⟨rfl, rfl⟩
      | false =>
        obtain ⟨resp, rfl, hlast, hobjects⟩ := SweepProgress.answer_eq_done hans hf
        rw [if_neg Bool.false_ne_true, hobjects]
        exact .snapshot p resp hs hlast rfl rfl rfl
    | cycle => exact .cycleDone p r o.objects o.failed hs rfl ⟨rfl, rfl⟩

theorem afterPollPing_move (round : Round) (ok : Bool) (hs : s.pollStage = .pinging round) :
    PollMove s (s.afterPollPing round ok).1 (s.afterPollPing round ok).2 := by
  have hr : s.pollStage.rank = round.rank := by rw [hs]; rfl
  simp only [afterPollPing]
  split
  · exact PollMove.of_same (sweepPoll_move round (by exact hr) [] (by simp)) rfl ⟨rfl, rfl⟩
  · exact PollMove.of_same (reconnectPoll_move round (by exact hr) [] (by simp)) rfl ⟨rfl, rfl⟩

theorem afterPollReconnect_move (round : Round) (r : Except ConnectionError Unit)
    (hs : s.pollStage = .reconnecting round) :
    PollMove s (s.afterPollReconnect round r).1 (s.afterPollReconnect round r).2 := by
  have hr : s.pollStage.rank = round.rank := by rw [hs]; rfl
  cases r with
  | ok u => exact PollMove.of_same (sweepPoll_move round (by exact hr) [] (by simp)) rfl ⟨rfl, rfl⟩
  | error e =>
    -- short of cancellation, a first snapshot is swept anyway and a cycle waits for its tick
    cases e with
    | cancelled => exact stopPoll_move
    | transport _ | exhausted _ _ _ =>
      cases round with
      | initial => exact sweepPoll_move .initial hr [] (by simp)
      | cycle =>
        exact .quiet (by simp [afterPollReconnect]) (.inl (by rw [hr]; rfl)) (fun _ _ => nofun)
          ⟨rfl, rfl⟩

theorem onTick_move (hs : s.pollStage = .idle) : PollMove s s.onTick.1 s.onTick.2 := by
  have hr : s.pollStage.rank = Round.cycle.rank := by rw [hs]; rfl
  simp only [onTick]
  split
  · exact .quiet (by simp [Effect.quietOn]) (.inl (by rw [hr]; rfl)) (fun _ _ => nofun) ⟨rfl, rfl⟩
  · exact PollMove.of_same (ensurePoll_move .cycle (by exact hr) [.tick] (by simp [Effect.quietOn]))
      rfl ⟨rfl, rfl⟩

theorem afterRediscovery_move (r : Found) (hs : s.pollStage = .rediscovering) :
    PollMove s (s.afterRediscovery r).1 (s.afterRediscovery r).2 := by
  have hr : s.pollStage.rank = 3 := by rw [hs]; rfl
  unfold afterRediscovery
  split
  · exact .quiet (by simp [Effect.quietOn]) (.inl (by rw [hr]; rfl)) (fun _ _ => nofun) ⟨rfl, rfl⟩
  · exact .quiet (by simp) (.inl (by rw [hr]; rfl)) (fun _ _ => nofun) ⟨rfl, rfl⟩

theorem afterRetarget_move (r : Except ConnectionError Unit) (hs : s.pollStage = .retargeting) :
    PollMove s (s.afterRetarget r).1 (s.afterRetarget r).2 := by
  have hr : s.pollStage.rank = Round.cycle.rank := by rw [hs]; rfl
  simp only [afterRetarget]
  split
  · exact .quiet (by simp) (.inl (by rw [hr]; rfl)) (fun _ _ => nofun) ⟨rfl, rfl⟩
  · exact PollMove.of_same (ensurePoll_move .cycle (by exact hr) [] (by simp)) rfl ⟨rfl, rfl⟩

/-- **Every step of the poll side is a move.** -/
theorem pollStep_move {stage : PollStage} {a : Answer} {r : State × List Effect}
    (hs : s.pollStage = stage) (h : s.pollStep stage a = some r) : PollMove s r.1 r.2 := by
  unfold pollStep at h
  split at h <;> cases h
  · exact resolve_move (by rw [hs]; rfl)
  · exact afterSearch_move _ (by rw [hs]; rfl)
  · exact .quiet (by simp [Effect.quietOn]) (.inl (by rw [hs]; rfl)) (fun _ _ => nofun) ⟨rfl, rfl⟩
  · exact stopPoll_move
  · exact afterStartupConnect_move _ _ hs
  · exact .quiet (by simp [Effect.quietOn]) (.inl (by rw [hs]; rfl)) (fun _ _ => nofun) ⟨rfl, rfl⟩
  · exact stopPoll_move
  · exact afterFlags_move _ hs
  · exact afterPollReply_move _ _ _ hs
  · exact ensurePoll_move .initial (by rw [hs]; rfl) [] (by simp)
  · exact stopPoll_move
  · exact afterPollPing_move _ _ hs
  · exact afterPollReconnect_move _ _ hs
  · exact onTick_move hs
  · exact stopPoll_move
  · exact afterRediscovery_move _ hs
  · exact afterRetarget_move _ hs

end State

/-! ## Every step of the push side is a move -/

/-- What a step of the push side does: it leaves the poll side's stage alone, keeps the push
side running, and is one of its moves. -/
structure PushStepped (s t : State) (new : List Effect) : Prop where
  pollStage : t.pollStage = s.pollStage
  running : t.pushStage.isSome = true
  move : PushMove s t new

theorem PushStepped.of_same {s s' t : State} {new : List Effect} (h : PushStepped s' t new)
    (hstage : s'.pollStage = s.pollStage) (hpush : s.SamePush s') : PushStepped s t new :=
  ⟨h.pollStage.trans hstage, h.running, h.move.of_same hpush⟩

/-- A frame heard while listening publishes at most a notification's objects. -/
theorem mem_frame {text : String} {e : Effect} (he : e ∈ frame text) :
    ∃ objects, e = .publish .push (.push objects) := by
  unfold frame at he
  split at he
  · split at he
    · exact ⟨_, List.mem_singleton.mp he⟩
    · cases he
  · cases he

namespace State

variable {s : State}

theorem stopPush_stepped : PushStepped s s.stopPush [] :=
  ⟨rfl, rfl, .quiet (by simp) (fun _ => nofun) rfl⟩

theorem listen_stepped (pre : List Effect) (hpre : ∀ e ∈ pre, e.quietOn .push = true) :
    PushStepped s s.listen pre :=
  ⟨rfl, rfl, .quiet hpre (fun _ => nofun) rfl⟩

theorem pausePush_stepped (pre : List Effect) (hpre : ∀ e ∈ pre, e.quietOn .push = true) :
    PushStepped s s.pausePush pre :=
  ⟨rfl, rfl, .quiet hpre (fun _ => nofun) rfl⟩

/-- Subscribing sends at most the request for what the side watches, and leaves no sweep under
way. -/
theorem subscribe_spec (resync : Bool) :
    (s.subscribe resync).1.pollStage = s.pollStage ∧ (s.subscribe resync).1.pushStage.isSome ∧
      (s.subscribe resync).1.subscription = s.subscription ∧
      (∀ p, (s.subscribe resync).1.pushStage ≠ some (.sweeping p)) ∧
      ∀ e ∈ (s.subscribe resync).2, e = subscribeRequest s.subscription := by
  unfold subscribe
  split
  · exact ⟨rfl, rfl, rfl, fun _ => nofun, by simp⟩
  · exact ⟨rfl, rfl, rfl, fun _ => nofun, by simp⟩

theorem subscribe_stepped (resync : Bool) :
    PushStepped s (s.subscribe resync).1 (s.subscribe resync).2 := by
  obtain ⟨hstage, hrun, hsub, hsweep, hnew⟩ := @subscribe_spec s resync
  exact ⟨hstage, hrun, .subscribe hnew hsweep hsub⟩

/-- A round of connecting again, after `pre`. -/
theorem reconnectPush_stepped (pre : List Effect) (hpre : ∀ e ∈ pre, e.quietOn .push = true) :
    PushStepped s s.reconnectPush.1 (pre ++ s.reconnectPush.2) := by
  unfold reconnectPush
  split
  · exact ⟨rfl, rfl, .quiet (by simpa using hpre) (fun _ => nofun) rfl⟩
  · refine ⟨rfl, rfl, .quiet ?_ (fun _ => nofun) rfl⟩
    intro e he
    simp only [List.mem_append, List.mem_singleton] at he
    rcases he with he | rfl
    · exact hpre e he
    · rfl

theorem afterSubscribe_stepped (resync : Bool) (r : Except RequestError Response) :
    PushStepped s (s.afterSubscribe resync r).1 (s.afterSubscribe resync r).2 := by
  have hreply : ∀ e ∈ [Effect.reply .push r], e.quietOn .push = true := by simp [Effect.quietOn]
  simp only [afterSubscribe]
  split
  · exact PushStepped.of_same (listen_stepped _ hreply) rfl ⟨rfl, rfl⟩
  · split
    · exact PushStepped.of_same (pausePush_stepped _ hreply) rfl ⟨rfl, rfl⟩
    · exact PushStepped.of_same (reconnectPush_stepped _ hreply) rfl ⟨rfl, rfl⟩

theorem afterRead_stepped (r : Except TransportError String) (hs : s.pushStage = some .listening) :
    PushStepped s (s.afterRead r).1 (s.afterRead r).2 := by
  cases r with
  | ok text => exact ⟨rfl, rfl, .notify (fun _ he => mem_frame he) (by rw [hs]; rfl) rfl⟩
  | error e =>
    -- a quiet connection is checked; any other failed read connects again
    cases e
    case timeout d =>
      simp only [afterRead]
      split
      · exact listen_stepped [] (by simp)
      · exact reconnectPush_stepped [] (by simp)
      · exact ⟨rfl, rfl, .quiet (by simp) (fun _ => nofun) rfl⟩
    all_goals exact reconnectPush_stepped [] (by simp)

theorem afterPushPing_stepped (ok : Bool) :
    PushStepped s (s.afterPushPing ok).1 (s.afterPushPing ok).2 := by
  simp only [afterPushPing]
  split
  · exact PushStepped.of_same (listen_stepped [] (by simp)) rfl ⟨rfl, rfl⟩
  · exact PushStepped.of_same (reconnectPush_stepped [] (by simp)) rfl ⟨rfl, rfl⟩

theorem afterPushConnect_stepped (r : Except ConnectionError Unit) :
    PushStepped s (s.afterPushConnect r).1 (s.afterPushConnect r).2 := by
  cases r with
  | ok u => exact ⟨rfl, rfl, .resyncStart rfl rfl⟩
  | error e =>
    cases e
    case cancelled => exact stopPush_stepped
    all_goals exact pausePush_stepped [] (by simp)

theorem afterPushReply_stepped (p : SweepProgress) (r : Except RequestError Response)
    (hs : s.pushStage = some (.sweeping p)) :
    PushStepped s (s.afterPushReply p r).1 (s.afterPushReply p r).2 := by
  simp only [afterPushReply]
  split
  · rename_i p' hans
    obtain ⟨resp, rfl, hp'⟩ := SweepProgress.answer_eq_next hans
    exact ⟨rfl, rfl, .resyncNext p resp p' hs hp' rfl rfl⟩
  · rename_i o hans
    split
    · exact PushStepped.of_same (pausePush_stepped _ (by simp [Effect.quietOn])) rfl ⟨rfl, rfl⟩
    · rename_i hf
      obtain ⟨resp, rfl, hlast, hobjects⟩ :=
        SweepProgress.answer_eq_done hans (Bool.eq_false_iff.mpr hf)
      rw [hobjects]
      -- the sweep becomes what the side watches, and the subscription follows
      exact ⟨(subscribe_spec true).1, (subscribe_spec true).2.1,
        .resnapshot p resp hs hlast (subscribe_spec true).2.2.1 (subscribe_spec true).2.2.2.2
          (subscribe_spec true).2.2.2.1⟩

/-- **Every step of the push side is a move**, which leaves the poll side's stage alone and
keeps the push side running. -/
theorem pushStep_move {stage : PushStage} {a : Answer} {r : State × List Effect}
    (hs : s.pushStage = some stage) (h : s.pushStep stage a = some r) : PushStepped s r.1 r.2 := by
  have hrun : s.pushStage.isSome = true := by rw [hs]; rfl
  have hnotify (objects : List ObjectData) :
      PushStepped s s [.publish .push (.push objects)] :=
    ⟨rfl, hrun, .notify (by simp) rfl rfl⟩
  unfold pushStep at h
  split at h <;> cases h
  · exact subscribe_stepped false
  · exact hnotify _
  · exact afterSubscribe_stepped _ _
  · exact stopPush_stepped
  · exact afterRead_stepped _ hs
  · exact afterPushPing_stepped _
  · exact afterPushConnect_stepped _
  · exact hnotify _
  · exact afterPushReply_stepped _ _ hs
  · exact reconnectPush_stepped [] (by simp)
  · exact stopPush_stepped

/-! ## Runs, one occurrence at a time -/

/-- A run from a trace so far adds the run's own effects to it. -/
theorem foldl_occur (sched : List Occurrence) (t : State) (es : List Effect) :
    sched.foldl (fun acc o => ((acc.1.occur o).1, acc.2 ++ (acc.1.occur o).2)) (t, es) =
      ((t.run sched).1, es ++ (t.run sched).2) := by
  induction sched generalizing t es with
  | nil => simp [run]
  | cons o sched ih =>
    simp only [run, List.foldl_cons, List.nil_append]
    rw [ih, ih]
    simp

theorem run_cons (t : State) (o : Occurrence) (sched : List Occurrence) :
    t.run (o :: sched) =
      (((t.occur o).1.run sched).1, (t.occur o).2 ++ ((t.occur o).1.run sched).2) := by
  simp only [run, List.foldl_cons, List.nil_append]
  exact foldl_occur sched _ _

end State

end PoolMonitor.Poller
