import Mathlib
import PoolMonitor.Proofs.UpdateStream
/-!
# The push side follows the latest published address

The poll side hands the controller's address to the push side through a channel that holds one
endpoint and counts its versions (`State.shared`, `State.version`). The channel starts with the
endpoint found at startup; rediscovery publishes each new address it aims the poll connection at
as a new version, whether or not it then manages to connect. The push side reads the channel
only at the start of a round of connecting again: if a version it has not taken up yet exists,
it takes up the latest one (`State.seen`) and aims its connection at that endpoint.

* **`PollHandOff`**, **`PushHandOff`**, **`StepHandOff`**: what one step can do to the
  hand-off. The poll side leaves it alone, sets the first endpoint at startup, or publishes a
  new version; the push side leaves it alone, or starts a round that takes up the latest
  version. One lemma per step function, and `occur_handOff` for every occurrence.
* **`channelHistory`**: the endpoints the channel has held along a run, one per version, the
  current one last: each publication supersedes the value it finds.
* **`HandOffInv`**, **`HandOffInv.step`**, **`handOffInv_run`**: along every run, the push
  side has taken up a version that exists and is aimed at that version's endpoint.
* **`push_follows_latest_address`**: every step of every run keeps to the hand-off.
-/

namespace PoolMonitor

open PoolMonitor.Wire PoolMonitor.Equipment

/-- An answer to a request leaves a connection aimed where it was. -/
@[simp] theorem Link.afterRequest_endpoint (k : Link) (r : Except RequestError Response) :
    (k.afterRequest r).endpoint = k.endpoint := by
  unfold Link.afterRequest
  split
  · rfl
  · split <;> rfl

namespace Poller

/-! ## What a step does to the hand-off -/

/-- A step that leaves the hand-off alone: the shared endpoint and its version, the version the
push side has taken up, and the push side's endpoint. -/
structure HandOffKept (s t : State) : Prop where
  shared : t.shared = s.shared
  version : t.version = s.version
  seen : t.seen = s.seen
  endpoint : t.pushConn.endpoint = s.pushConn.endpoint

theorem HandOffKept.refl (s : State) : HandOffKept s s := ⟨rfl, rfl, rfl, rfl⟩

theorem HandOffKept.trans {s t u : State} (h₁ : HandOffKept s t) (h₂ : HandOffKept t u) :
    HandOffKept s u :=
  ⟨h₂.shared.trans h₁.shared, h₂.version.trans h₁.version, h₂.seen.trans h₁.seen,
    h₂.endpoint.trans h₁.endpoint⟩

/-- What a step of the poll side does to the hand-off. -/
inductive PollHandOff (s t : State) : Prop where
  | kept (h : HandOffKept s t)
  /-- The controller is found at startup: the push connection is aimed at it, and it is the
  channel's first value. -/
  | resolved (hrank : s.pollStage.rank = 0) (hendpoint : t.pushConn.endpoint = t.shared)
      (hversion : t.version = s.version) (hseen : t.seen = s.seen)
  /-- Rediscovery publishes the address it aims the poll connection at, as a new version. -/
  | published (hs : s.pollStage = .rediscovering) (hversion : t.version = s.version + 1)
      (hseen : t.seen = s.seen) (hendpoint : t.pushConn.endpoint = s.pushConn.endpoint)

/-- What a step of the push side does to the hand-off. -/
inductive PushHandOff (s t : State) (new : List Effect) : Prop where
  | kept (h : HandOffKept s t) (hnew : ∀ e, Effect.connect .push e ∉ new)
  /-- A round of connecting again: it takes up the latest version, aims the connection at its
  endpoint if it had not taken it up yet, and connects there. -/
  | round (hshared : t.shared = s.shared) (hversion : t.version = s.version)
      (hseen : t.seen = s.version)
      (hendpoint : t.pushConn.endpoint = if s.seen = s.version then s.pushConn.endpoint else s.shared)
      (hnew : ∀ e, Effect.connect .push e ∈ new ↔ e = t.pushConn.endpoint)

/-- A step of the push side from a state with the same hand-off. -/
theorem PushHandOff.of_kept {s s' t : State} {new : List Effect} (hk : HandOffKept s s')
    (h : PushHandOff s' t new) : PushHandOff s t new := by
  cases h with
  | kept hk' hnew => exact .kept (hk.trans hk') hnew
  | round hshared hversion hseen hendpoint hnew =>
    refine .round (hshared.trans hk.shared) (hversion.trans hk.version) (hseen.trans hk.version)
      ?_ hnew
    rw [hendpoint, hk.seen, hk.version, hk.endpoint, hk.shared]

/-- An answer handed on before a step's own effects connects nowhere. -/
theorem PushHandOff.reply {s t : State} {new : List Effect} (r : Except RequestError Response)
    (h : PushHandOff s t new) : PushHandOff s t (.reply .push r :: new) := by
  cases h with
  | kept hk hnew => exact .kept hk fun e he => hnew e (by simpa using he)
  | round hshared hversion hseen hendpoint hnew =>
    exact .round hshared hversion hseen hendpoint fun e => by simpa using hnew e

namespace State

variable {s : State}

/-! ### The poll side -/

theorem stopPoll_kept : HandOffKept s s.stopPoll := ⟨rfl, rfl, rfl, rfl⟩

theorem pausePoll_kept (stage : PollStage) : HandOffKept s (s.pausePoll stage) :=
  ⟨rfl, rfl, rfl, rfl⟩

theorem ensurePoll_kept (round : Round) : HandOffKept s (s.ensurePoll round).1 := by
  unfold ensurePoll
  split <;> exact ⟨rfl, rfl, rfl, rfl⟩

/-- Finding the controller at startup aims both connections at it and shares it. -/
theorem resolved_handOff (e : Endpoint) (hs : s.pollStage.rank = 0) :
    PollHandOff s (s.resolved e).1 :=
  .resolved hs rfl rfl rfl

theorem resolve_handOff (hs : s.pollStage.rank = 0) : PollHandOff s s.resolve.1 := by
  unfold resolve
  split
  · exact resolved_handOff _ hs
  · exact .kept ⟨rfl, rfl, rfl, rfl⟩

theorem afterSearch_handOff (r : Found) (hs : s.pollStage.rank = 0) :
    PollHandOff s (s.afterSearch r).1 := by
  cases r with
  | addr a => exact resolved_handOff _ hs
  | cancelled => exact .kept stopPoll_kept
  | failed => exact .kept (pausePoll_kept _)

/-- Opening a connection at startup keeps where it is aimed. -/
theorem afterStartupConnect_kept (side : Side) (r : Except ConnectionError Unit) :
    HandOffKept s (s.afterStartupConnect side r).1 := by
  cases r with
  | ok u => cases side <;> exact ⟨rfl, rfl, rfl, rfl⟩
  | error e =>
    cases e with
    | cancelled => exact stopPoll_kept
    | transport _ | exhausted _ _ _ => exact pausePoll_kept _

theorem afterPollReply_kept (round : Round) (p : SweepProgress) (r : Except RequestError Response) :
    HandOffKept s (s.afterPollReply round p r).1 := by
  simp only [afterPollReply]
  split
  · exact ⟨rfl, rfl, rfl, rfl⟩
  · cases round with
    | initial =>
      simp only [afterPollSweep]
      split <;> exact ⟨rfl, rfl, rfl, rfl⟩
    | cycle => exact ⟨rfl, rfl, rfl, rfl⟩

theorem afterPollPing_kept (round : Round) (ok : Bool) :
    HandOffKept s (s.afterPollPing round ok).1 := by
  simp only [afterPollPing]
  split <;> exact ⟨rfl, rfl, rfl, rfl⟩

theorem afterPollReconnect_kept (round : Round) (r : Except ConnectionError Unit) :
    HandOffKept s (s.afterPollReconnect round r).1 := by
  cases r with
  | ok u => exact ⟨rfl, rfl, rfl, rfl⟩
  | error e =>
    cases e with
    | cancelled => exact stopPoll_kept
    | transport _ | exhausted _ _ _ => cases round <;> exact ⟨rfl, rfl, rfl, rfl⟩

theorem onTick_kept : HandOffKept s s.onTick.1 := by
  simp only [onTick]
  split
  · exact ⟨rfl, rfl, rfl, rfl⟩
  · refine HandOffKept.trans ?_ (ensurePoll_kept .cycle)
    exact ⟨rfl, rfl, rfl, rfl⟩

/-- A search in rediscovery that finds a new address publishes it as a new version, aimed at by
the poll connection; any other outcome leaves the hand-off alone. -/
theorem afterRediscovery_handOff (r : Found) (hs : s.pollStage = .rediscovering) :
    PollHandOff s (s.afterRediscovery r).1 := by
  unfold afterRediscovery
  split
  · exact .published hs rfl rfl rfl
  · exact .kept ⟨rfl, rfl, rfl, rfl⟩

theorem afterRetarget_kept (r : Except ConnectionError Unit) :
    HandOffKept s (s.afterRetarget r).1 := by
  simp only [afterRetarget]
  split
  · exact ⟨rfl, rfl, rfl, rfl⟩
  · refine HandOffKept.trans ?_ (ensurePoll_kept .cycle)
    exact ⟨rfl, rfl, rfl, rfl⟩

/-- **Every step of the poll side** leaves the hand-off alone, sets its first value at startup,
or publishes a new version. -/
theorem pollStep_handOff {stage : PollStage} {a : Answer} {r : State × List Effect}
    (hs : s.pollStage = stage) (h : s.pollStep stage a = some r) : PollHandOff s r.1 := by
  unfold pollStep at h
  split at h <;> cases h
  · exact resolve_handOff (by rw [hs]; rfl)
  · exact afterSearch_handOff _ (by rw [hs]; rfl)
  · exact .kept ⟨rfl, rfl, rfl, rfl⟩
  · exact .kept stopPoll_kept
  · exact .kept (afterStartupConnect_kept _ _)
  · exact .kept ⟨rfl, rfl, rfl, rfl⟩
  · exact .kept stopPoll_kept
  · exact .kept ⟨rfl, rfl, rfl, rfl⟩
  · exact .kept (afterPollReply_kept _ _ _)
  · exact .kept (ensurePoll_kept .initial)
  · exact .kept stopPoll_kept
  · exact .kept (afterPollPing_kept _ _)
  · exact .kept (afterPollReconnect_kept _ _)
  · exact .kept onTick_kept
  · exact .kept stopPoll_kept
  · exact afterRediscovery_handOff _ hs
  · exact .kept (afterRetarget_kept _)

/-! ### The push side -/

theorem stopPush_kept : HandOffKept s s.stopPush := ⟨rfl, rfl, rfl, rfl⟩

theorem listen_kept : HandOffKept s s.listen := ⟨rfl, rfl, rfl, rfl⟩

theorem pausePush_kept : HandOffKept s s.pausePush := ⟨rfl, rfl, rfl, rfl⟩

theorem subscribe_kept (resync : Bool) : HandOffKept s (s.subscribe resync).1 := by
  unfold subscribe
  split <;> exact ⟨rfl, rfl, rfl, rfl⟩

theorem subscribe_handOff (resync : Bool) :
    PushHandOff s (s.subscribe resync).1 (s.subscribe resync).2 := by
  unfold subscribe
  split
  · exact .kept listen_kept (by simp)
  · exact .kept ⟨rfl, rfl, rfl, rfl⟩ (by simp [subscribeRequest])

/-- **A round of connecting again** takes up the latest version and connects to the endpoint it
is then aimed at; a cancelled run stops instead. -/
theorem reconnectPush_handOff : PushHandOff s s.reconnectPush.1 s.reconnectPush.2 := by
  unfold reconnectPush
  split
  · exact .kept stopPush_kept (by simp)
  · exact .round rfl rfl rfl rfl (by simp)

theorem afterSubscribe_handOff (resync : Bool) (r : Except RequestError Response) :
    PushHandOff s (s.afterSubscribe resync r).1 (s.afterSubscribe resync r).2 := by
  simp only [afterSubscribe]
  split
  · exact .kept ⟨rfl, rfl, rfl, Link.afterRequest_endpoint _ _⟩ (by simp)
  · split
    · exact .kept ⟨rfl, rfl, rfl, Link.afterRequest_endpoint _ _⟩ (by simp)
    · -- the round starts from the state with the failed request noted
      refine PushHandOff.reply _ (PushHandOff.of_kept ?_ reconnectPush_handOff)
      exact ⟨rfl, rfl, rfl, Link.afterRequest_endpoint _ _⟩

theorem afterRead_handOff (r : Except TransportError String) :
    PushHandOff s (s.afterRead r).1 (s.afterRead r).2 := by
  cases r with
  | ok text =>
    refine .kept listen_kept fun e he => ?_
    obtain ⟨_, h⟩ := mem_frame he
    cases h
  | error e =>
    cases e
    case timeout d =>
      simp only [afterRead]
      split
      · exact .kept listen_kept (by simp)
      · exact reconnectPush_handOff
      · exact .kept ⟨rfl, rfl, rfl, rfl⟩ (by simp)
    all_goals exact reconnectPush_handOff

theorem afterPushPing_handOff (ok : Bool) :
    PushHandOff s (s.afterPushPing ok).1 (s.afterPushPing ok).2 := by
  simp only [afterPushPing]
  split
  · exact .kept ⟨rfl, rfl, rfl, rfl⟩ (by simp)
  · refine PushHandOff.of_kept ?_ reconnectPush_handOff
    exact ⟨rfl, rfl, rfl, rfl⟩

theorem afterPushConnect_handOff (r : Except ConnectionError Unit) :
    PushHandOff s (s.afterPushConnect r).1 (s.afterPushConnect r).2 := by
  cases r with
  | ok u => exact .kept ⟨rfl, rfl, rfl, rfl⟩ (by simp [afterPushConnect, SweepQuery.request])
  | error e =>
    cases e with
    | cancelled => exact .kept stopPush_kept (by simp [afterPushConnect])
    | transport _ | exhausted _ _ _ => exact .kept pausePush_kept (by simp [afterPushConnect])

theorem afterPushReply_handOff (p : SweepProgress) (r : Except RequestError Response) :
    PushHandOff s (s.afterPushReply p r).1 (s.afterPushReply p r).2 := by
  simp only [afterPushReply]
  split
  · exact .kept ⟨rfl, rfl, rfl, Link.afterRequest_endpoint _ _⟩ (by simp [SweepQuery.request])
  · split
    · exact .kept ⟨rfl, rfl, rfl, Link.afterRequest_endpoint _ _⟩ (by simp)
    · -- a complete sweep is subscribed to, which sends only the subscription's request
      refine .kept (HandOffKept.trans ?_ (subscribe_kept true)) fun e he => ?_
      · exact ⟨rfl, rfl, rfl, Link.afterRequest_endpoint _ _⟩
      · simp only [List.mem_cons, reduceCtorEq, false_or] at he
        cases (subscribe_spec true).2.2.2.2 _ he

/-- **Every step of the push side** leaves the hand-off alone or starts a round that takes up
the latest version. -/
theorem pushStep_handOff {stage : PushStage} {a : Answer} {r : State × List Effect}
    (h : s.pushStep stage a = some r) : PushHandOff s r.1 r.2 := by
  unfold pushStep at h
  split at h <;> cases h
  · exact subscribe_handOff false
  · exact .kept (.refl s) (by simp)
  · exact afterSubscribe_handOff _ _
  · exact .kept stopPush_kept (by simp)
  · exact afterRead_handOff _
  · exact afterPushPing_handOff _
  · exact afterPushConnect_handOff _
  · exact .kept (.refl s) (by simp)
  · exact afterPushReply_handOff _ _
  · exact reconnectPush_handOff
  · exact .kept stopPush_kept (by simp)

end State

/-! ## Every occurrence -/

/-- What an occurrence `o` from `s` to `t` with effects `new` does to the hand-off. -/
inductive StepHandOff (s t : State) (new : List Effect) : Occurrence → Prop where
  /-- A step of the poll side, which leaves the push side's stage alone unless it starts it. -/
  | poll (a : Answer) (h : PollHandOff s t)
      (hpush : t.pushStage = s.pushStage ∨ t.pushStage.isSome = true) : StepHandOff s t new (.poll a)
  /-- A step of the push side once it runs, which keeps it running. -/
  | push (a : Answer) (hrun : s.pushStage.isSome = true) (hrun' : t.pushStage.isSome = true)
      (h : PushHandOff s t new) : StepHandOff s t new (.push a)
  /-- An occurrence that takes no step. -/
  | stay (o : Occurrence) (h : HandOffKept s t) (hnew : new = []) (hpush : t.pushStage = s.pushStage) :
      StepHandOff s t new o

/-- The poll side starts the push side or leaves its stage alone. -/
theorem State.pollStep_pushStage {s : State} {a : Answer} {r : State × List Effect}
    (h : s.pollStep s.pollStage a = some r) :
    r.1.pushStage = s.pushStage ∨ r.1.pushStage.isSome = true := by
  obtain ⟨t, new⟩ := r
  cases State.pollStep_move rfl h with
  | snapshot _ _ _ _ _ hpush => exact .inr (by rw [hpush]; rfl)
  | quiet _ _ _ hkeep | askFlags _ _ hkeep | flagsAnswered _ _ _ hkeep
  | sweepStart _ _ _ _ _ hkeep | sweepNext _ _ _ _ _ _ _ hkeep
  | cycleDone _ _ _ _ _ _ hkeep => exact .inl hkeep.1

/-- **What every occurrence does to the hand-off.** -/
theorem occur_handOff (s : State) (o : Occurrence) : StepHandOff s (s.occur o).1 (s.occur o).2 o := by
  have hstay (o : Occurrence) : StepHandOff s s [] o := .stay o (.refl s) rfl rfl
  cases o with
  | poll a =>
    simp only [State.occur]
    split
    · cases hr : s.pollStep s.pollStage a with
      | none => exact hstay _
      | some r => exact .poll a (State.pollStep_handOff rfl hr) (State.pollStep_pushStage hr)
    · exact hstay _
  | push a =>
    simp only [State.occur]
    split
    · rename_i stage hs
      split
      · cases hr : s.pushStep stage a with
        | none => exact hstay _
        | some r =>
          exact .push a (by rw [hs]; rfl) (State.pushStep_move hs hr).running
            (State.pushStep_handOff hr)
      · exact hstay _
    · exact hstay _
  | cancel => exact .stay _ ⟨rfl, rfl, rfl, rfl⟩ rfl rfl
  | elapse ms => exact .stay _ ⟨rfl, rfl, rfl, rfl⟩ rfl rfl

/-! ## The channel's history and the invariant -/

/-- The values a step supersedes: the shared endpoint it found, when it moves to a new
version. -/
def supersededBy (s t : State) : List Endpoint := if t.version = s.version then [] else [s.shared]

/-- The endpoints superseded along a schedule from `s`, oldest first. -/
def State.supersededAlong (s : State) : List Occurrence → List Endpoint
  | [] => []
  | o :: rest => supersededBy s (s.occur o).1 ++ (s.occur o).1.supersededAlong rest

/-- The endpoints the channel has held after a schedule from the start, one per version, oldest
first: those superseded, then the current one. -/
def channelHistory (config : Config) (sched : List Occurrence) : List Endpoint :=
  (State.start config).supersededAlong sched ++ [((State.start config).run sched).1.shared]

theorem supersededBy_of_version {s t : State} (h : t.version = s.version) : supersededBy s t = [] :=
  if_pos h

/-- The hand-off after the superseded values `old`: the channel has had one version for each of
them and holds the shared endpoint as its latest; the push side has taken up a version that
exists, all of them until it runs, and is aimed at that version's endpoint. -/
structure HandOffInv (old : List Endpoint) (s : State) : Prop where
  versions : old.length = s.version
  seen_le : s.seen ≤ s.version
  early : s.pushStage = none → s.seen = s.version
  adopted : (old ++ [s.shared])[s.seen]? = some s.pushConn.endpoint

theorem handOffInv_start (config : Config) : HandOffInv [] (State.start config) :=
  ⟨rfl, le_rfl, fun _ => rfl, rfl⟩

section Inv

variable {old : List Endpoint} {s t : State} {es new : List Effect} {o : Occurrence}

/-- The endpoint of the latest version. -/
theorem HandOffInv.latest (h : HandOffInv old s) : (old ++ [s.shared])[s.version]? = some s.shared := by
  rw [← h.versions, List.getElem?_append_right le_rfl, Nat.sub_self]
  rfl

/-- Once the push side has taken up the latest version, it is aimed at the shared endpoint. -/
theorem HandOffInv.aimed (h : HandOffInv old s) (hs : s.seen = s.version) :
    s.pushConn.endpoint = s.shared := by
  have := h.adopted
  rw [hs, h.latest] at this
  exact (Option.some.inj this).symm

/-- A round of connecting again aims the push side at the latest endpoint. -/
theorem HandOffInv.round_endpoint (h : HandOffInv old s) :
    (if s.seen = s.version then s.pushConn.endpoint else s.shared) = s.shared := by
  split
  · exact h.aimed (by assumption)
  · rfl

theorem HandOffInv.of_kept (h : HandOffInv old s) (hk : HandOffKept s t)
    (hpush : t.pushStage = none → s.pushStage = none) : HandOffInv old t := by
  refine ⟨?_, ?_, fun ht => ?_, ?_⟩
  · rw [hk.version]; exact h.versions
  · rw [hk.seen, hk.version]; exact h.seen_le
  · rw [hk.seen, hk.version]; exact h.early (hpush ht)
  · rw [hk.seen, hk.shared, hk.endpoint]; exact h.adopted

/-- Once the push side runs, it runs on. -/
theorem StepHandOff.pushStage_none (hstep : StepHandOff s t new o) (ht : t.pushStage = none) :
    s.pushStage = none := by
  cases hstep with
  | poll a _ hpush =>
    rcases hpush with hpush | hpush
    · rw [← hpush, ht]
    · rw [ht] at hpush; cases hpush
  | push a _ hrun' => rw [ht] at hrun'; cases hrun'
  | stay o _ _ hpush => rw [← hpush, ht]

/-- **The step lemma**: every step keeps the invariant, with the value a new version supersedes
added to the history. The poller's own invariant tells that the poll side finds the controller
only before the push side runs, and rediscovers only after it started. -/
theorem HandOffInv.step (h : HandOffInv old s) (hinv : s.Inv es) (hstep : StepHandOff s t new o) :
    HandOffInv (old ++ supersededBy s t) t := by
  have hnone := hstep.pushStage_none
  cases hstep with
  | poll a hstep =>
    cases hstep with
    | kept hk => rw [supersededBy_of_version hk.version, List.append_nil]; exact h.of_kept hk hnone
    | resolved hrank hendpoint hversion hseen =>
      -- the push side does not run yet: it has taken up every version
      have hs : s.pushStage = none := hinv.poll.push_eq_none (by omega)
      rw [supersededBy_of_version hversion, List.append_nil]
      have hseen' : t.seen = old.length := by rw [hseen, h.early hs, h.versions]
      have hle := h.seen_le
      have hearly := h.early hs
      refine ⟨hversion ▸ h.versions, by omega, fun _ => by omega, ?_⟩
      rw [hseen', List.getElem?_append_right le_rfl, Nat.sub_self, hendpoint]
      rfl
    | published hs hversion hseen hendpoint =>
      -- a new version: the value it supersedes joins the history
      have hsup : supersededBy s t = [s.shared] := if_neg (by omega)
      have hrun : s.pushStage.isSome = true := hinv.poll.loopPush (by rw [hs]; rfl)
      have hle := h.seen_le
      have hlt : s.seen < (old ++ [s.shared]).length := by
        rw [List.length_append, h.versions, List.length_singleton]
        exact Nat.lt_succ_of_le hle
      rw [hsup]
      refine ⟨by rw [List.length_append, h.versions, hversion]; rfl, by omega, fun ht => ?_, ?_⟩
      · rw [hnone ht] at hrun
        cases hrun
      · rw [hseen, hendpoint, List.getElem?_append_left hlt, h.adopted]
  | push a _ _ hstep =>
    cases hstep with
    | kept hk => rw [supersededBy_of_version hk.version, List.append_nil]; exact h.of_kept hk hnone
    | round hshared hversion hseen hendpoint =>
      -- the round takes up the latest version and aims at its endpoint
      rw [supersededBy_of_version hversion, List.append_nil]
      refine ⟨hversion ▸ h.versions, by omega, fun _ => by omega, ?_⟩
      rw [hseen, hshared, hendpoint, h.round_endpoint, h.latest]
  | stay o hk => rw [supersededBy_of_version hk.version, List.append_nil]; exact h.of_kept hk hnone

/-- **The run lemma**: the invariant holds after every schedule, with the values superseded
along it added to the history. -/
theorem HandOffInv.run (sched : List Occurrence) (h : HandOffInv old s) (hinv : s.Inv es) :
    HandOffInv (old ++ s.supersededAlong sched) (s.run sched).1 := by
  induction sched generalizing old s es with
  | nil => simpa [State.supersededAlong, State.run] using h
  | cons o sched ih =>
    rw [State.run_cons, State.supersededAlong, ← List.append_assoc]
    exact ih (h.step hinv (occur_handOff s o)) (hinv.occur o)

end Inv

theorem handOffInv_run (config : Config) (sched : List Occurrence) :
    HandOffInv ((State.start config).supersededAlong sched) ((State.start config).run sched).1 := by
  simpa using (handOffInv_start config).run sched (inv_start config)

/-! ## The hand-off along every run -/

section Step

variable {old : List Endpoint} {s t : State} {es new : List Effect} {o : Occurrence}

/-- Only the poll side moves the channel to a new version, one at a time. -/
theorem StepHandOff.version (hstep : StepHandOff s t new o) :
    t.version = s.version ∨ ∃ a, o = .poll a ∧ t.version = s.version + 1 := by
  cases hstep with
  | poll a hstep =>
    cases hstep with
    | kept hk => exact .inl hk.version
    | resolved _ _ hversion => exact .inl hversion
    | published _ hversion => exact .inr ⟨a, rfl, hversion⟩
  | push a _ _ hstep =>
    cases hstep with
    | kept hk => exact .inl hk.version
    | round _ hversion => exact .inl hversion
  | stay o hk => exact .inl hk.version

/-- The channel's endpoint changes by a publication, or at startup before the push side runs. -/
theorem StepHandOff.shared (hstep : StepHandOff s t new o) (hinv : s.Inv es)
    (hne : t.shared ≠ s.shared) :
    ∃ a, o = .poll a ∧ (t.version = s.version + 1 ∨ s.pushStage = none) := by
  cases hstep with
  | poll a hstep =>
    cases hstep with
    | kept hk => exact absurd hk.shared hne
    | resolved hrank => exact ⟨a, rfl, .inr (hinv.poll.push_eq_none (by omega))⟩
    | published _ hversion => exact ⟨a, rfl, .inl hversion⟩
  | push a _ _ hstep =>
    cases hstep with
    | kept hk => exact absurd hk.shared hne
    | round hshared => exact absurd hshared hne
  | stay o hk => exact absurd hk.shared hne

/-- The version the push side has taken up never goes down. -/
theorem StepHandOff.seen_le (hstep : StepHandOff s t new o) (h : HandOffInv old s) :
    s.seen ≤ t.seen := by
  cases hstep with
  | poll a hstep =>
    cases hstep with
    | kept hk => exact hk.seen.ge
    | resolved _ _ _ hseen => exact hseen.ge
    | published _ _ hseen => exact hseen.ge
  | push a _ _ hstep =>
    cases hstep with
    | kept hk => exact hk.seen.ge
    | round _ _ hseen => exact hseen ▸ h.seen_le
  | stay o hk => exact hk.seen.ge

/-- A round connects the push side to the latest endpoint and takes up its version. -/
theorem PushHandOff.connect {e : Endpoint} (hstep : PushHandOff s t new) (h : HandOffInv old s)
    (he : Effect.connect .push e ∈ new) :
    e = s.shared ∧ t.pushConn.endpoint = e ∧ t.seen = s.version := by
  cases hstep with
  | kept _ hnew => exact absurd he (hnew e)
  | round _ _ hseen hendpoint hnew =>
    have het : e = s.shared := by rw [(hnew e).mp he, hendpoint, h.round_endpoint]
    exact ⟨het, by rw [hendpoint, h.round_endpoint, het], hseen⟩

theorem StepHandOff.connect_push {a : Answer} {e : Endpoint} (hstep : StepHandOff s t new o)
    (h : HandOffInv old s) (ho : o = .push a) (he : Effect.connect .push e ∈ new) :
    e = s.shared ∧ t.pushConn.endpoint = e ∧ t.seen = s.version := by
  cases hstep with
  | poll a' => cases ho
  | push a _ _ hstep => exact hstep.connect h he
  | stay o _ hnew =>
    rw [hnew] at he
    cases he

/-- The push side changes its endpoint or the version it has taken up only in a round that
connects there, or at startup before it runs. -/
theorem StepHandOff.adopt (hstep : StepHandOff s t new o) (hinv : s.Inv es)
    (hchange : t.pushConn.endpoint ≠ s.pushConn.endpoint ∨ t.seen ≠ s.seen) :
    (∃ a, o = .push a ∧ Effect.connect .push t.pushConn.endpoint ∈ new) ∨
      (s.pushStage = none ∧ t.seen = s.seen ∧ t.pushConn.endpoint = t.shared) := by
  have hkept (hendpoint : t.pushConn.endpoint = s.pushConn.endpoint) (hseen : t.seen = s.seen) :
      False := by
    rcases hchange with h | h
    · exact h hendpoint
    · exact h hseen
  cases hstep with
  | poll a hstep =>
    cases hstep with
    | kept hk => exact (hkept hk.endpoint hk.seen).elim
    | resolved hrank hendpoint _ hseen =>
      exact .inr ⟨hinv.poll.push_eq_none (by omega), hseen, hendpoint⟩
    | published _ _ hseen hendpoint => exact (hkept hendpoint hseen).elim
  | push a _ _ hstep =>
    cases hstep with
    | kept hk => exact (hkept hk.endpoint hk.seen).elim
    | round _ _ _ _ hnew => exact .inl ⟨a, rfl, (hnew _).mpr rfl⟩
  | stay o hk => exact (hkept hk.endpoint hk.seen).elim

end Step

/-- **The push side follows the latest published address.** Take any run and any step of it,
from the state `s` reached before the step to `t`. The channel has held `history`, one endpoint
per version, the latest last; only the poll side moves it to a new version, and it changes its
endpoint otherwise only at startup, before the push side runs. A step of the push side that
connects is a round, which connects to the latest endpoint of the channel as the round begins
and takes up that version. The push side is aimed at the endpoint of the version it has taken
up, and that version never goes down: the push connection never goes back to an endpoint
published before one it has adopted. It changes its endpoint or takes up a version only in a
round that connects there, or at startup, before it runs, when it takes up the first one. -/
theorem push_follows_latest_address (config : Config) (pre : List Occurrence) (o : Occurrence) :
    let s := ((State.start config).run pre).1
    let t := (s.occur o).1
    let history := channelHistory config pre
    history.length = s.version + 1 ∧ history.getLast? = some s.shared ∧
    (t.version = s.version ∨ ∃ a, o = .poll a ∧ t.version = s.version + 1) ∧
    (t.shared ≠ s.shared → ∃ a, o = .poll a ∧ (t.version = s.version + 1 ∨ s.pushStage = none)) ∧
    (∀ a e, o = .push a → Effect.connect .push e ∈ (s.occur o).2 →
      history.getLast? = some e ∧ t.pushConn.endpoint = e ∧ t.seen = s.version) ∧
    history[s.seen]? = some s.pushConn.endpoint ∧ s.seen ≤ t.seen ∧
    (t.pushConn.endpoint ≠ s.pushConn.endpoint ∨ t.seen ≠ s.seen →
      (∃ a, o = .push a ∧ Effect.connect .push t.pushConn.endpoint ∈ (s.occur o).2) ∨
        (s.pushStage = none ∧ t.seen = s.seen ∧ t.pushConn.endpoint = t.shared)) := by
  intro s t history
  have h := handOffInv_run config pre
  have hinv := inv_run config pre
  have hstep := occur_handOff s o
  have hhist : history = (State.start config).supersededAlong pre ++ [s.shared] := rfl
  have hlast : history.getLast? = some s.shared := by rw [hhist, List.getLast?_append]; rfl
  refine ⟨by rw [hhist, List.length_append, h.versions]; rfl, hlast, hstep.version,
    hstep.shared hinv, fun a e ho he => ?_, h.adopted, hstep.seen_le h, hstep.adopt hinv⟩
  obtain ⟨hes, hendpoint, hseen⟩ := hstep.connect_push h ho he
  exact ⟨by rw [hlast, hes], hendpoint, hseen⟩

end Poller

end PoolMonitor
