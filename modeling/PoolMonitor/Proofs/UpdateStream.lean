import Mathlib
import PoolMonitor.Proofs.PollerMoves
import PoolMonitor.Proofs.MinderRuns
/-!
# The stream of updates the poller sends

Two tasks publish into the one channel to the minder, and each retries its sweeps and its
subscription any number of times. Whatever the world answers and in whatever order it answers
the two tasks, the updates keep a discipline (`update_stream_discipline`):

1. the feature flags come at most once, and never after the first snapshot;
2. the poll side's first snapshot comes at most once, and before every cycle, notification and
   reset;
3. every snapshot is the concatenated objects of one sweep of its side whose seven queries were
   all answered successfully, and these are the side's last seven requests and answers;
4. every snapshot of the push side follows a reset it asked for since the previous snapshot;
5. every subscription of the push side is to what the last snapshot gives.

Each is a property of every effect with what came before it (`EachAfter`). The invariant
`State.Inv` adds what the state remembers of the trace: the poll side's phase against the
updates published so far, the requests and answers of a sweep under way, the reset before a
resynchronising sweep, and the subscription. It holds at the start and after every move of
either task (`PollMove`, `PushMove`), hence after every occurrence and every run.
-/

namespace PoolMonitor.Equipment.Update

def isFeatureFlags : Update → Bool
  | .featureFlags _ => true
  | _ => false

def isInitialFrom (source : Source) : Update → Bool
  | .initial s _ => s == source
  | _ => false

/-- The updates that only make sense once a first snapshot is in: cycles, notifications and
resets. -/
def needsSnapshot : Update → Bool
  | .pollCycle _ _ | .push _ | .reset => true
  | _ => false

end PoolMonitor.Equipment.Update

namespace PoolMonitor.Poller

open PoolMonitor.Wire PoolMonitor.Equipment

/-! ## Views of the trace -/

namespace Effect

/-- The update an effect publishes, if any. -/
def update? : Effect → Option Update
  | .publish _ u => some u
  | _ => none

/-- Whether the effect publishes an update of the kind `k`. -/
def publishes (k : Update → Bool) : Effect → Bool
  | .publish _ u => k u
  | _ => false

/-- Whether the effect is a request or an answer on the connection of `side`. -/
def exchangeOn (side : Side) : Effect → Bool
  | .request side' _ _ _ | .reply side' _ => side' == side
  | _ => false

/-- The objects of the snapshot the effect publishes, if it publishes one. -/
def snapshot? : Effect → Option (List ObjectData)
  | .publish _ (.initial _ objects) => some objects
  | _ => none

/-- Whether the effect is a subscription request of the push side. -/
def subscribing : Effect → Bool
  | .request .push command _ _ => command == Command.requestParamList
  | _ => false

end Effect

/-- The updates sent to the minder, in order. -/
def updates (es : List Effect) : List Update := es.filterMap Effect.update?

/-- The requests and answers on the connection of `side`, in order. -/
def exchanges (side : Side) (es : List Effect) : List Effect := es.filter (·.exchangeOn side)

/-- The objects of the last snapshot published. -/
def lastSnapshot (es : List Effect) : Option (List ObjectData) :=
  (es.filterMap Effect.snapshot?).getLast?

/-- The requests and successful answers on the connection of `side` of a sweep whose first
queries got the answers `rs`, in order. -/
def sweepExchange (side : Side) : List SweepQuery → List Response → List Effect
  | q :: qs, r :: rs => q.request side :: .reply side (.ok r) :: sweepExchange side qs rs
  | _, _ => []

/-- The push side asked the minder to reset, and no snapshot was published since. -/
def ResetSince (es : List Effect) : Prop :=
  ∃ a₁ a₂, es = a₁ ++ .publish .push .reset :: a₂ ∧ ∀ e ∈ a₂, e.publishes Update.isInitial = false

/-! ### Their small lemmas -/

@[simp] theorem Effect.publishes_publish (k : Update → Bool) (side : Side) (u : Update) :
    (Effect.publish side u).publishes k = k u := rfl

@[simp] theorem Effect.publishes_request (k : Update → Bool) (side : Side) (command condition : String)
    (objects : List ObjectQuery) : (Effect.request side command condition objects).publishes k = false :=
  rfl

@[simp] theorem Effect.publishes_reply (k : Update → Bool) (side : Side)
    (r : Except RequestError Response) : (Effect.reply side r).publishes k = false := rfl

theorem Effect.publishes_of_update?_eq_none {e : Effect} (h : e.update? = none)
    (k : Update → Bool) : e.publishes k = false := by
  cases e with
  | publish side u => cases h
  | _ => rfl

theorem Effect.snapshot?_eq_none {e : Effect} (h : e.publishes Update.isInitial = false) :
    e.snapshot? = none := by
  cases e with
  | publish side u => cases u <;> first | rfl | cases h
  | _ => rfl

theorem Effect.update?_of_quietOn {side : Side} {e : Effect} (h : e.quietOn side = true) :
    e.update? = none := by
  cases e <;> first | rfl | cases h

theorem Effect.subscribing_of_quietOn {side : Side} {e : Effect} (h : e.quietOn side = true) :
    e.subscribing = false := by
  cases e <;> first | rfl | cases h

/-- The quiet effects of one side are no requests or answers of the other. -/
theorem Effect.exchangeOn_of_quietOn {side side' : Side} {e : Effect} (hne : side ≠ side')
    (h : e.quietOn side = true) : e.exchangeOn side' = false := by
  cases e with
  | reply s r =>
    simp only [Effect.quietOn, beq_iff_eq] at h
    subst h
    simpa [Effect.exchangeOn] using hne
  | _ => first | rfl | cases h

theorem countP_updates (k : Update → Bool) (es : List Effect) :
    (updates es).countP k = es.countP (·.publishes k) := by
  rw [updates, List.countP_filterMap]
  congr 1
  funext e
  cases e <;> rfl

theorem exchanges_append (side : Side) (es new : List Effect) :
    exchanges side (es ++ new) = exchanges side es ++ exchanges side new :=
  List.filter_append _ _

theorem exchanges_eq_nil {side : Side} {new : List Effect}
    (h : ∀ e ∈ new, e.exchangeOn side = false) : exchanges side new = [] :=
  List.filter_eq_nil_iff.mpr fun e he => by simp [h e he]

theorem lastSnapshot_append {es new : List Effect}
    (h : ∀ e ∈ new, e.publishes Update.isInitial = false) :
    lastSnapshot (es ++ new) = lastSnapshot es := by
  have hnil : new.filterMap Effect.snapshot? = [] :=
    List.filterMap_eq_nil_iff.mpr fun e he => Effect.snapshot?_eq_none (h e he)
  simp [lastSnapshot, List.filterMap_append, hnil]

theorem lastSnapshot_append_snapshot (es : List Effect) (side : Side) (source : Source)
    (objects : List ObjectData) {rest : List Effect}
    (h : ∀ e ∈ rest, e.publishes Update.isInitial = false) :
    lastSnapshot (es ++ .publish side (.initial source objects) :: rest) = some objects := by
  rw [List.append_cons, lastSnapshot_append h]
  simp [lastSnapshot, List.filterMap_append, Effect.snapshot?]

/-- A snapshot published on the answer that completes its sweep is the last one. -/
theorem lastSnapshot_completed (es : List Effect) (side : Side) (r : Except RequestError Response)
    (source : Source) (objects : List ObjectData) {rest : List Effect}
    (h : ∀ e ∈ rest, e.publishes Update.isInitial = false) :
    lastSnapshot (es ++ .reply side r :: .publish side (.initial source objects) :: rest) =
      some objects := by
  have := lastSnapshot_append_snapshot (es ++ [.reply side r]) side source objects h
  rwa [List.append_assoc, List.singleton_append] at this

theorem ResetSince.append {es new : List Effect} (h : ResetSince es)
    (hnew : ∀ e ∈ new, e.publishes Update.isInitial = false) : ResetSince (es ++ new) := by
  obtain ⟨a₁, a₂, rfl, ha₂⟩ := h
  refine ⟨a₁, a₂ ++ new, by simp, fun e he => ?_⟩
  rcases List.mem_append.mp he with he | he
  · exact ha₂ e he
  · exact hnew e he

/-! ### A sweep's requests and answers -/

theorem sweepExchange_nil (side : Side) (qs : List SweepQuery) : sweepExchange side qs [] = [] := by
  cases qs <;> rfl

/-- One more answer adds the query it answers and the answer. -/
theorem sweepExchange_concat (side : Side) {qs : List SweepQuery} {rs : List Response}
    (r : Response) (h : rs.length < qs.length) :
    sweepExchange side qs (rs ++ [r]) =
      sweepExchange side qs rs ++ [(qs.get ⟨rs.length, h⟩).request side, .reply side (.ok r)] := by
  induction qs generalizing rs with
  | nil => cases h
  | cons q qs ih =>
    cases rs with
    | nil => simp [sweepExchange, sweepExchange_nil]
    | cons r' rs =>
      simp only [List.cons_append, sweepExchange, List.length_cons, List.get_cons_succ]
      rw [ih (by simpa using h)]

/-- The requests and answers of a sweep under way on the connection of `side`, ending with its
current query: the side's last requests and answers. -/
def SweepUnderWay (side : Side) (p : SweepProgress) (es : List Effect) : Prop :=
  sweepExchange side sweepQueries p.replies ++ [p.current.request side] <:+ exchanges side es

@[simp] theorem Effect.exchangeOn_request (side : Side) (q : SweepQuery) :
    (q.request side).exchangeOn side = true := by
  simp [SweepQuery.request, Effect.exchangeOn]

@[simp] theorem Effect.exchangeOn_reply (side : Side) (r : Except RequestError Response) :
    (Effect.reply side r).exchangeOn side = true := by
  simp [Effect.exchangeOn]

theorem sweepUnderWay_start (side : Side) (es pre : List Effect) :
    SweepUnderWay side .start (es ++ (pre ++ [SweepProgress.start.current.request side])) := by
  have hreq : exchanges side [SweepProgress.start.current.request side] =
      [SweepProgress.start.current.request side] := by
    simp [exchanges]
  rw [SweepUnderWay, SweepProgress.replies_start, sweepExchange_nil, List.nil_append,
    exchanges_append, exchanges_append, hreq, ← List.append_assoc]
  exact List.suffix_append _ _

theorem SweepUnderWay.append {side : Side} {p : SweepProgress} {es new : List Effect}
    (h : SweepUnderWay side p es) (hnew : ∀ e ∈ new, e.exchangeOn side = false) :
    SweepUnderWay side p (es ++ new) := by
  rwa [SweepUnderWay, exchanges_append, exchanges_eq_nil hnew, List.append_nil]

/-- A successful answer completes the current query's exchange. -/
theorem SweepUnderWay.answered {side : Side} {p : SweepProgress} {es : List Effect}
    (h : SweepUnderWay side p es) (r : Response) :
    sweepExchange side sweepQueries (p.replies ++ [r]) <:+
      exchanges side (es ++ [.reply side (.ok r)]) := by
  have hreply : exchanges side [.reply side (.ok r)] = [.reply side (.ok r)] := by
    simp [exchanges]
  have hsplit : sweepExchange side sweepQueries (p.replies ++ [r]) =
      (sweepExchange side sweepQueries p.replies ++ [p.current.request side]) ++
        [.reply side (.ok r)] := by
    simp [sweepExchange_concat side r p.inRange, SweepProgress.current]
  rw [hsplit, exchanges_append, hreply]
  exact List.suffix_append_self_iff.mpr h

theorem SweepUnderWay.next {side : Side} {p p' : SweepProgress} {es : List Effect} {r : Response}
    (h : SweepUnderWay side p es) (hp' : p'.replies = p.replies ++ [r]) :
    SweepUnderWay side p' (es ++ [.reply side (.ok r), p'.current.request side]) := by
  have hex : exchanges side (es ++ [.reply side (.ok r), p'.current.request side]) =
      exchanges side (es ++ [.reply side (.ok r)]) ++ [p'.current.request side] := by
    simp [exchanges]
  rw [SweepUnderWay, hp', hex]
  exact List.suffix_append_self_iff.mpr (h.answered r)

/-- The answer that completes a sweep leaves all its queries answered. -/
theorem SweepUnderWay.complete {side : Side} {p : SweepProgress} {es : List Effect}
    (h : SweepUnderWay side p es) (r : Response)
    (hlast : sweepQueries.length ≤ p.replies.length + 1) :
    ∃ rs, rs.length = sweepQueries.length ∧ p.objectsWith r = rs.flatMap (·.objects) ∧
      sweepExchange side sweepQueries rs <:+ exchanges side (es ++ [.reply side (.ok r)]) :=
  ⟨p.replies ++ [r], by have := p.inRange; simp; omega, rfl, h.answered r⟩

/-! ## Properties of each item with what came before it -/

/-- Every item of `l`, read after `pre`, satisfies `good` with all that came before it. -/
def EachAfter {α : Type} (good : List α → α → Prop) : List α → List α → Prop
  | _, [] => True
  | pre, x :: xs => good pre x ∧ EachAfter good (pre ++ [x]) xs

section EachAfter

variable {α : Type} {good : List α → α → Prop}

@[simp] theorem eachAfter_nil (pre : List α) : EachAfter good pre [] := trivial

@[simp] theorem eachAfter_cons (pre : List α) (x : α) (xs : List α) :
    EachAfter good pre (x :: xs) ↔ good pre x ∧ EachAfter good (pre ++ [x]) xs := Iff.rfl

theorem eachAfter_append (pre l₁ l₂ : List α) :
    EachAfter good pre (l₁ ++ l₂) ↔ EachAfter good pre l₁ ∧ EachAfter good (pre ++ l₁) l₂ := by
  induction l₁ generalizing pre with
  | nil => simp
  | cons x xs ih => simp [ih, and_assoc]

/-- `EachAfter` read at every split of the list. -/
theorem eachAfter_iff {pre l : List α} :
    EachAfter good pre l ↔ ∀ a x b, l = a ++ x :: b → good (pre ++ a) x := by
  induction l generalizing pre with
  | nil => simp
  | cons y ys ih =>
    rw [eachAfter_cons, ih]
    constructor
    · rintro ⟨hy, hys⟩ a x b hl
      rcases List.cons_eq_append_iff.mp hl with ⟨rfl, hxb⟩ | ⟨a', rfl, hys'⟩
      · cases hxb
        simpa using hy
      · simpa using hys a' x b hys'
    · intro h
      refine ⟨by simpa using h [] y ys rfl, fun a x b hl => ?_⟩
      simpa using h (y :: a) x b (by simp [hl])

theorem eachAfter_of_forall {pre l : List α} (h : ∀ x ∈ l, ∀ a, good (pre ++ a) x) :
    EachAfter good pre l :=
  eachAfter_iff.mpr fun a x b hl => h x (by simp [hl]) a

/-- Where no item satisfying `p` may come after another, none comes after one in `pre`. -/
theorem countP_eq_zero_of_eachAfter {p : α → Bool}
    (hgood : ∀ a x, good a x → p x = true → ∀ e ∈ a, p e = false) {pre l : List α}
    (h : EachAfter good pre l) (hpre : ∃ e ∈ pre, p e = true) : l.countP p = 0 := by
  induction l generalizing pre with
  | nil => rfl
  | cons x xs ih =>
    obtain ⟨hx, hxs⟩ := h
    obtain ⟨e, he, hpe⟩ := hpre
    have hpx : p x = false := by
      cases hp : p x with
      | false => rfl
      | true => simp [hgood pre x hx hp e he] at hpe
    rw [List.countP_cons_of_neg (by simp [hpx])]
    exact ih hxs ⟨e, by simp [he], hpe⟩

/-- Where no item satisfying `p` may come after another, at most one does. -/
theorem countP_le_one_of_eachAfter {p : α → Bool}
    (hgood : ∀ a x, good a x → p x = true → ∀ e ∈ a, p e = false) {pre l : List α}
    (h : EachAfter good pre l) : l.countP p ≤ 1 := by
  induction l generalizing pre with
  | nil => simp
  | cons x xs ih =>
    obtain ⟨hx, hxs⟩ := h
    by_cases hp : p x = true
    · rw [List.countP_cons_of_pos hp, countP_eq_zero_of_eachAfter hgood hxs ⟨x, by simp, hp⟩]
    · rw [List.countP_cons_of_neg hp]
      exact ih hxs

end EachAfter

/-! ## The rules of the update stream -/

/-- Whether the effect neither publishes nor subscribes: no rule of the update stream reads it. -/
def Effect.inert (e : Effect) : Bool := e.update?.isNone && !e.subscribing

/-- What every effect of the poller keeps with what came before it. -/
structure Disciplined (a : List Effect) (x : Effect) : Prop where
  /-- The feature flags come once, before the first snapshot. -/
  flagsFirst : x.publishes Update.isFeatureFlags = true →
    ∀ e ∈ a, e.publishes Update.isFeatureFlags = false ∧
      e.publishes (Update.isInitialFrom .poll) = false
  /-- The poll side's snapshot comes once, and before every cycle, notification and reset. -/
  snapshotOnce : x.publishes (Update.isInitialFrom .poll) = true →
    ∀ e ∈ a, e.publishes (Update.isInitialFrom .poll) = false
  snapshotFirst : x.publishes Update.needsSnapshot = true →
    ∃ e ∈ a, e.publishes (Update.isInitialFrom .poll) = true
  /-- A snapshot is a complete sweep of its side. -/
  swept : ∀ side source objects, x = .publish side (.initial source objects) →
    ∃ rs, rs.length = sweepQueries.length ∧ objects = rs.flatMap (·.objects) ∧
      sweepExchange side sweepQueries rs <:+ exchanges side a
  /-- The push side's snapshot follows a reset since the last snapshot. -/
  resetFirst : ∀ side objects, x = .publish side (.initial .push objects) → ResetSince a
  /-- The push side subscribes to what the last snapshot gives. -/
  subscribesLast : ∀ condition qs, x = .request .push Command.requestParamList condition qs →
    ∃ objects, lastSnapshot a = some objects ∧ qs = subscription objects

section Inert

variable {e : Effect}

theorem Effect.update?_of_inert (h : e.inert = true) : e.update? = none := by
  simp only [Effect.inert, Bool.and_eq_true, Option.isNone_iff_eq_none] at h
  exact h.1

theorem Effect.publishes_of_inert (h : e.inert = true) (k : Update → Bool) :
    e.publishes k = false :=
  Effect.publishes_of_update?_eq_none (Effect.update?_of_inert h) k

theorem Effect.inert_of_quietOn {side : Side} (h : e.quietOn side = true) : e.inert = true := by
  simp [Effect.inert, Effect.update?_of_quietOn h, Effect.subscribing_of_quietOn h]

@[simp] theorem Effect.inert_request (q : SweepQuery) (side : Side) :
    (q.request side).inert = true := by
  cases side <;> rfl

@[simp] theorem Effect.inert_reply (side : Side) (r : Except RequestError Response) :
    (Effect.reply side r).inert = true := rfl

theorem disciplined_of_inert {a : List Effect} (h : e.inert = true) : Disciplined a e := by
  have hu := Effect.update?_of_inert h
  have hs : e.subscribing = false := by
    simp only [Effect.inert, Bool.and_eq_true, Bool.not_eq_true'] at h
    exact h.2
  have hpub (k : Update → Bool) := Effect.publishes_of_update?_eq_none hu k
  refine ⟨fun hx => ?_, fun hx => ?_, fun hx => ?_, fun _ _ _ hx => ?_, fun _ _ hx => ?_,
    fun _ _ hx => ?_⟩
  · simp [hpub] at hx
  · simp [hpub] at hx
  · simp [hpub] at hx
  · subst hx
    cases hu
  · subst hx
    cases hu
  · subst hx
    simp [Effect.subscribing] at hs

end Inert

theorem eachAfter_inert {pre new : List Effect} (h : ∀ e ∈ new, e.inert = true) :
    EachAfter Disciplined pre new :=
  eachAfter_of_forall fun e he _ => disciplined_of_inert (h e he)

/-- The feature flags are in order when nothing before them is flags or the poll side's
snapshot. -/
theorem disciplined_flags {a : List Effect} {side : Side} {flags : Dict String}
    (h : ∀ e ∈ a, e.publishes Update.isFeatureFlags = false ∧
      e.publishes (Update.isInitialFrom .poll) = false) :
    Disciplined a (.publish side (.featureFlags flags)) :=
  ⟨fun _ => h, nofun, nofun, fun _ _ _ => nofun, fun _ _ => nofun, fun _ _ => nofun⟩

/-- A cycle, a notification or a reset is in order once the poll side's snapshot is in. -/
theorem disciplined_needsSnapshot {a : List Effect} {side : Side} {u : Update}
    (hu : u.needsSnapshot = true) (h : ∃ e ∈ a, e.publishes (Update.isInitialFrom .poll) = true) :
    Disciplined a (.publish side u) := by
  refine ⟨fun hx => ?_, fun hx => ?_, fun _ => h, fun _ _ _ hx => ?_, fun _ _ hx => ?_,
    fun _ _ => nofun⟩
  · cases u <;> simp_all [Update.needsSnapshot, Update.isFeatureFlags]
  · cases u <;> simp_all [Update.needsSnapshot, Update.isInitialFrom]
  · cases hx
    cases hu
  · cases hx
    cases hu

theorem disciplined_subscribe {a : List Effect} {qs : List ObjectQuery}
    (h : ∃ objects, lastSnapshot a = some objects ∧ qs = subscription objects) :
    Disciplined a (subscribeRequest qs) :=
  ⟨nofun, nofun, nofun, fun _ _ _ => nofun, fun _ _ => nofun, fun _ _ hx => by cases hx; exact h⟩

/-! ## What the state remembers of its trace -/

/-- The poll side's phase against the trace: no flags before they are loaded, a running push
side only once polling, polling only with the push side running, and the requests and answers
of the poll side's sweep under way. -/
structure PollPhase (stage : PollStage) (push : Option PushStage) (es : List Effect) : Prop where
  noFlags : stage.rank ≤ 1 → ∀ e ∈ es, e.publishes Update.isFeatureFlags = false
  pushLate : push.isSome = true → 3 ≤ stage.rank
  loopPush : stage.rank = 3 → push.isSome = true
  sweep : ∀ round p, stage = .sweeping round p → SweepUnderWay .poll p es

/-- The push side against the trace: it runs exactly once the poll side's snapshot is out; it
remembers its sweep under way with the reset it asked for before it, and subscribes to what the
last snapshot gives. -/
structure PushPhase (push : Option PushStage) (sub : List ObjectQuery) (es : List Effect) :
    Prop where
  noSnapshot : push = none → ∀ e ∈ es, e.publishes (Update.isInitialFrom .poll) = false
  snapshot : push.isSome = true → ∃ e ∈ es, e.publishes (Update.isInitialFrom .poll) = true
  sweep : ∀ p, push = some (.sweeping p) → SweepUnderWay .push p es ∧ ResetSince es
  subscribed : push.isSome = true →
    ∃ objects, lastSnapshot es = some objects ∧ sub = subscription objects

/-- The invariant of the poller after the trace `es`. -/
structure State.Inv (s : State) (es : List Effect) : Prop where
  poll : PollPhase s.pollStage s.pushStage es
  push : PushPhase s.pushStage s.subscription es
  trace : EachAfter Disciplined [] es

theorem inv_start (config : Config) : (State.start config).Inv [] :=
  ⟨⟨fun _ _ => nofun, nofun, fun h => absurd h (by simp [State.start, PollStage.rank]),
      fun _ _ => nofun⟩,
    ⟨fun _ _ => nofun, nofun, fun _ => nofun, nofun⟩, trivial⟩

theorem Round.two_le_rank (r : Round) : 2 ≤ r.rank := by
  cases r <;> decide

theorem Effect.publishes_isInitialFrom {e : Effect} (h : e.publishes Update.isInitial = false)
    (source : Source) : e.publishes (Update.isInitialFrom source) = false := by
  cases e with
  | publish side u => cases u <;> first | rfl | cases h
  | _ => rfl

theorem PollPhase.push_eq_none {stage : PollStage} {push : Option PushStage} {es : List Effect}
    (h : PollPhase stage push es) (hr : stage.rank < 3) : push = none := by
  cases hp : push with
  | none => rfl
  | some st =>
    have := h.pushLate (by simp [hp])
    omega

/-- Once the push side runs, the poll side's snapshot is in the trace, whatever follows. -/
theorem PushPhase.snapshot_in {push : Option PushStage} {sub : List ObjectQuery} {es : List Effect}
    (h : PushPhase push sub es) (hrun : push.isSome = true) (new : List Effect) :
    ∃ e ∈ es ++ new, e.publishes (Update.isInitialFrom .poll) = true := by
  obtain ⟨e, he, hpe⟩ := h.snapshot hrun
  exact ⟨e, List.mem_append_left _ he, hpe⟩

/-- The push side's phase survives effects that publish no snapshot and are no requests or
answers on its connection. -/
theorem PushPhase.append {push : Option PushStage} {sub : List ObjectQuery} {es new : List Effect}
    (h : PushPhase push sub es)
    (hnew : ∀ e ∈ new, e.publishes Update.isInitial = false ∧ e.exchangeOn .push = false) :
    PushPhase push sub (es ++ new) := by
  refine ⟨fun hn => ?_, fun hs => h.snapshot_in hs new, fun p hp => ?_, fun hs => ?_⟩
  · exact List.forall_mem_append.mpr
      ⟨h.noSnapshot hn, fun e he => Effect.publishes_isInitialFrom (hnew e he).1 _⟩
  · obtain ⟨hw, hr⟩ := h.sweep p hp
    exact ⟨hw.append fun e he => (hnew e he).2, hr.append fun e he => (hnew e he).1⟩
  · obtain ⟨objects, hl, hsub⟩ := h.subscribed hs
    exact ⟨objects, (lastSnapshot_append fun e he => (hnew e he).1).trans hl, hsub⟩

/-- The poll side's phase survives effects that are no requests or answers on its connection
while the push side runs. -/
theorem PollPhase.append {stage : PollStage} {push push' : Option PushStage}
    {es new : List Effect} (h : PollPhase stage push es) (hpush : push.isSome = true)
    (hpush' : push'.isSome = true) (hnew : ∀ e ∈ new, e.exchangeOn .poll = false) :
    PollPhase stage push' (es ++ new) := by
  have hlate := h.pushLate hpush
  exact ⟨fun hr => absurd hlate (by omega), fun _ => hlate, fun _ => hpush',
    fun round p hs => (h.sweep round p hs).append hnew⟩

/-- The poll side's phase on starting or going on with a sweep that belongs to the phase it is
in. -/
theorem PollPhase.sweeping {stage : PollStage} {push : Option PushStage} {es new : List Effect}
    (h : PollPhase stage push es) {round : Round} {p : SweepProgress}
    (hrank : round.rank = stage.rank) (hsweep : SweepUnderWay .poll p (es ++ new)) :
    PollPhase (.sweeping round p) push (es ++ new) := by
  refine ⟨fun hr => ?_, fun hs => ?_, fun h3 => ?_, fun round' q ht => ?_⟩
  · -- every sweep comes after the flags are loaded
    change round.rank ≤ 1 at hr
    have := round.two_le_rank
    omega
  · change 3 ≤ round.rank
    rw [hrank]
    exact h.pushLate hs
  · change round.rank = 3 at h3
    exact h.loopPush (hrank ▸ h3)
  · cases ht
    exact hsweep

/-! ## Every move keeps the invariant -/

section PollMoves

variable {s t : State} {es new : List Effect}

theorem PollMove.pollPhase (hm : PollMove s t new) (h : s.Inv es) :
    PollPhase t.pollStage t.pushStage (es ++ new) := by
  have hp := h.poll
  cases hm with
  | quiet hnew hrank hsweep hkeep =>
    have hrank' : t.pollStage.rank = s.pollStage.rank ∨ t.pollStage.rank = 4 :=
      hrank.imp_right fun h => by rw [h]; rfl
    refine ⟨fun hr => List.forall_mem_append.mpr ⟨hp.noFlags (by omega), fun e he =>
      Effect.publishes_of_inert (Effect.inert_of_quietOn (hnew e he)) _⟩, fun hs => ?_,
      fun h3 => ?_, fun round p ht => absurd ht (hsweep round p)⟩
    · have := hp.pushLate (hkeep.1 ▸ hs)
      omega
    · rw [hkeep.1]
      exact hp.loopPush (by omega)
  | askFlags hs ht hkeep =>
    have hnone := hp.push_eq_none (by omega)
    refine ⟨fun _ => List.forall_mem_append.mpr
      ⟨hp.noFlags (by omega), by simp [flagsRequest, Effect.publishes]⟩,
      fun hs' => ?_, fun h3 => absurd h3 (by rw [ht]; decide), fun _ _ ht' => ?_⟩
    · rw [hkeep.1, hnone] at hs'
      cases hs'
    · rw [ht] at ht'
      cases ht'
  | flagsAnswered r hs ht hkeep =>
    have hnone := hp.push_eq_none (by rw [hs]; decide)
    refine ⟨fun hr => absurd hr (by rw [ht]; decide), fun hs' => ?_,
      fun h3 => absurd h3 (by rw [ht]; decide), fun round p ht' => ?_⟩
    · rw [hkeep.1, hnone] at hs'
      cases hs'
    · rw [ht] at ht'
      cases ht'
      exact sweepUnderWay_start .poll es (.reply .poll r :: flagsPublished r)
  | sweepStart pre round hpre hs ht hkeep =>
    rw [ht, hkeep.1]
    exact hp.sweeping hs.symm (sweepUnderWay_start .poll es pre)
  | sweepNext round p r p' hs hp' ht hkeep =>
    rw [ht, hkeep.1]
    exact hp.sweeping (by rw [hs]; rfl) ((hp.sweep round p hs).next hp')
  | snapshot p r hs hlast ht hpush hsub =>
    refine ⟨fun hr => absurd hr (by rw [ht]; decide), fun _ => by rw [ht]; decide,
      fun _ => by rw [hpush]; rfl, fun _ _ ht' => ?_⟩
    rw [ht] at ht'
    cases ht'
  | cycleDone p r objects failed hs ht hkeep =>
    have h3 : s.pollStage.rank = 3 := by rw [hs]; rfl
    refine ⟨fun hr => absurd hr (by rw [ht]; decide), fun _ => by rw [ht]; decide,
      fun _ => hkeep.1 ▸ hp.loopPush h3, fun _ _ ht' => ?_⟩
    rw [ht] at ht'
    cases ht'

theorem PollMove.pushPhase (hm : PollMove s t new) (h : s.Inv es) :
    PushPhase t.pushStage t.subscription (es ++ new) := by
  have hq : ∀ e : Effect, e.quietOn .poll = true →
      e.publishes Update.isInitial = false ∧ e.exchangeOn .push = false := fun e he =>
    ⟨Effect.publishes_of_inert (Effect.inert_of_quietOn he) _,
      Effect.exchangeOn_of_quietOn (by decide) he⟩
  cases hm with
  | quiet hnew _ _ hkeep =>
    rw [hkeep.1, hkeep.2]
    exact h.push.append fun e he => hq e (hnew e he)
  | askFlags _ _ hkeep =>
    rw [hkeep.1, hkeep.2]
    exact h.push.append (by simp [flagsRequest, Effect.publishes, Effect.exchangeOn])
  | flagsAnswered r _ _ hkeep =>
    rw [hkeep.1, hkeep.2]
    refine h.push.append ?_
    cases r <;>
      simp [flagsPublished, Effect.publishes, Effect.exchangeOn, SweepQuery.request,
        Update.isInitial]
  | sweepStart pre round hpre _ _ hkeep =>
    rw [hkeep.1, hkeep.2]
    refine h.push.append fun e he => ?_
    rcases List.mem_append.mp he with he | he
    · exact hq e (hpre e he)
    · simp only [List.mem_singleton] at he
      subst he
      simp [Effect.publishes, Effect.exchangeOn, SweepQuery.request]
  | sweepNext round p r p' _ _ _ hkeep =>
    rw [hkeep.1, hkeep.2]
    exact h.push.append (by simp [Effect.publishes, Effect.exchangeOn, SweepQuery.request])
  | snapshot p r hs hlast ht hpush hsub =>
    -- the push side starts, subscribed to the snapshot just published
    have hlast' := lastSnapshot_completed es .poll (.ok r) .poll (p.objectsWith r)
      (List.forall_mem_nil _)
    refine ⟨fun hn => (by rw [hpush] at hn; cases hn), fun _ => ?_, fun _ hp => ?_,
      fun _ => ⟨_, hlast', hsub⟩⟩
    · exact ⟨.publish .poll (.initial .poll (p.objectsWith r)), List.mem_append_right _ (by simp),
        rfl⟩
    · rw [hpush] at hp
      cases hp
  | cycleDone p r objects failed _ _ hkeep =>
    rw [hkeep.1, hkeep.2]
    exact h.push.append (by simp [Effect.publishes, Effect.exchangeOn, Update.isInitial])

theorem PollMove.trace (hm : PollMove s t new) (h : s.Inv es) : EachAfter Disciplined es new := by
  have hp := h.poll
  cases hm with
  | quiet hnew _ _ _ => exact eachAfter_inert fun e he => Effect.inert_of_quietOn (hnew e he)
  | askFlags _ _ _ => exact eachAfter_inert (by simp [flagsRequest, Effect.inert, Effect.update?,
      Effect.subscribing])
  | flagsAnswered r hs _ _ =>
    have hnone := hp.push_eq_none (by rw [hs]; decide)
    cases r with
    | error e => exact eachAfter_inert (by simp [flagsPublished])
    | ok resp =>
      -- the flags come after nothing but the poll side's setting up
      simp only [flagsPublished, List.cons_append, List.nil_append, eachAfter_cons, eachAfter_nil,
        and_true]
      refine ⟨disciplined_of_inert rfl, disciplined_flags fun e he => ?_, disciplined_of_inert (by simp)⟩
      rcases List.mem_append.mp he with he | he
      · exact ⟨hp.noFlags (by rw [hs]; decide) e he, h.push.noSnapshot hnone e he⟩
      · simp only [List.mem_singleton] at he
        subst he
        exact ⟨rfl, rfl⟩
  | sweepStart pre _ hpre _ _ _ =>
    refine eachAfter_inert fun e he => ?_
    rcases List.mem_append.mp he with he | he
    · exact Effect.inert_of_quietOn (hpre e he)
    · simp only [List.mem_singleton] at he
      subst he
      simp
  | sweepNext _ _ _ _ _ _ _ _ => exact eachAfter_inert (by simp)
  | snapshot p r hs hlast _ _ _ =>
    have hnone := hp.push_eq_none (by rw [hs]; exact (by decide : 2 < 3))
    simp only [eachAfter_cons, eachAfter_nil, and_true]
    refine ⟨disciplined_of_inert rfl, ⟨nofun, fun _ e he => ?_, nofun,
      fun side source objects hx => ?_, fun _ _ => nofun, fun _ _ => nofun⟩⟩
    · rcases List.mem_append.mp he with he | he
      · exact h.push.noSnapshot hnone e he
      · simp only [List.mem_singleton] at he
        subst he
        rfl
    · cases hx
      exact (hp.sweep .initial p hs).complete r hlast
  | cycleDone p r objects failed hs _ _ =>
    -- a cycle runs only once the push side does, hence after the snapshot
    have hpush := hp.loopPush (by rw [hs]; rfl)
    simp only [eachAfter_cons, eachAfter_nil, and_true]
    exact ⟨disciplined_of_inert rfl, disciplined_needsSnapshot rfl (h.push.snapshot_in hpush _)⟩

end PollMoves

section PushMoves

variable {s t : State} {es new : List Effect}

/-- Subscription requests to what the last snapshot before them gives are in order, however
many there are. -/
theorem eachAfter_subscribe {pre rest : List Effect} {qs : List ObjectQuery}
    (hrest : ∀ e ∈ rest, e = subscribeRequest qs)
    (h : ∃ objects, lastSnapshot pre = some objects ∧ qs = subscription objects) :
    EachAfter Disciplined pre rest := by
  refine eachAfter_iff.mpr fun a x b hl => ?_
  have hmem (e : Effect) (he : e ∈ a) : e = subscribeRequest qs := hrest e (by simp [hl, he])
  rw [hrest x (by simp [hl])]
  obtain ⟨objects, hlast, hqs⟩ := h
  refine disciplined_subscribe ⟨objects, ?_, hqs⟩
  rw [lastSnapshot_append fun e he => by rw [hmem e he]; rfl, hlast]

/-- The push side never touches the poll side's connection. -/
theorem PushMove.exchangeOn_poll (hm : PushMove s t new) : ∀ e ∈ new, e.exchangeOn .poll = false := by
  cases hm with
  | quiet hnew _ _ => exact fun e he => Effect.exchangeOn_of_quietOn (by decide) (hnew e he)
  | notify hnew _ _ =>
    intro e he
    obtain ⟨objects, rfl⟩ := hnew e he
    rfl
  | subscribe hnew _ _ =>
    intro e he
    rw [hnew e he]
    rfl
  | resyncStart _ _ => simp [Effect.exchangeOn, SweepQuery.request]
  | resyncNext _ _ _ _ _ _ _ => simp [Effect.exchangeOn, SweepQuery.request]
  | resnapshot p r _ _ _ hrest _ =>
    intro e he
    simp only [List.mem_cons] at he
    rcases he with rfl | rfl | he
    · rfl
    · rfl
    · rw [hrest e he]
      rfl

theorem PushStepped.pollPhase (hst : PushStepped s t new) (h : s.Inv es)
    (hrun : s.pushStage.isSome = true) : PollPhase t.pollStage t.pushStage (es ++ new) := by
  rw [hst.pollStage]
  exact h.poll.append hrun hst.running hst.move.exchangeOn_poll

/-- The push side's phase survives effects that publish no snapshot, while the side runs and
keeps its subscription, when the sweep it is left with, if any, is under way after a reset. -/
theorem PushPhase.keep {push push' : Option PushStage} {sub : List ObjectQuery}
    (h : PushPhase push sub es) (hrun : push.isSome = true) (hrun' : push'.isSome = true)
    (hsweep : ∀ p, push' = some (.sweeping p) →
      SweepUnderWay .push p (es ++ new) ∧ ResetSince (es ++ new))
    (hnew : ∀ e ∈ new, e.publishes Update.isInitial = false) :
    PushPhase push' sub (es ++ new) := by
  refine ⟨fun hn => by simp [hn] at hrun', fun _ => h.snapshot_in hrun new, hsweep, fun _ => ?_⟩
  obtain ⟨objects, hl, hsub⟩ := h.subscribed hrun
  exact ⟨objects, (lastSnapshot_append hnew).trans hl, hsub⟩

theorem PushStepped.pushPhase (hst : PushStepped s t new) (h : s.Inv es)
    (hrun : s.pushStage.isSome = true) : PushPhase t.pushStage t.subscription (es ++ new) := by
  have hrun' := hst.running
  have hkeep := @PushPhase.keep es new s.pushStage t.pushStage s.subscription h.push hrun hrun'
  cases hst.move with
  | quiet hnew hsweep hsub =>
    rw [hsub]
    exact hkeep (fun p hp => absurd hp (hsweep p))
      fun e he => Effect.publishes_of_inert (Effect.inert_of_quietOn (hnew e he)) _
  | notify hnew hstage hsub =>
    rw [hstage, hsub]
    refine h.push.append fun e he => ?_
    obtain ⟨objects, rfl⟩ := hnew e he
    exact ⟨rfl, rfl⟩
  | subscribe hnew hsweep hsub =>
    rw [hsub]
    exact hkeep (fun p hp => absurd hp (hsweep p)) fun e he => by rw [hnew e he]; rfl
  | resyncStart ht hsub =>
    -- the reset just published starts what the resynchronising sweep answers to
    rw [hsub]
    refine hkeep (fun p hp => ?_) (by simp [SweepQuery.request, Update.isInitial])
    rw [ht] at hp
    cases hp
    refine ⟨sweepUnderWay_start .push es [.publish .push .reset], es,
      [SweepProgress.start.current.request .push], by simp, by simp [SweepQuery.request]⟩
  | resyncNext p r p' hs hp' ht hsub =>
    rw [hsub]
    refine hkeep (fun q hq => ?_) (by simp [SweepQuery.request])
    rw [ht] at hq
    cases hq
    obtain ⟨hw, hreset⟩ := h.push.sweep p hs
    exact ⟨hw.next hp', hreset.append (by simp [SweepQuery.request])⟩
  | @resnapshot p r rest hs hlast hsub hrest hsweep =>
    -- the sweep completes: the snapshot just published is what the side now watches
    have hquiet : ∀ e ∈ rest, e.publishes Update.isInitial = false := fun e he => by
      rw [hrest e he]
      rfl
    have hlast' := lastSnapshot_completed es .push (.ok r) .push (p.objectsWith r) hquiet
    exact ⟨fun hn => by simp [hn] at hrun', fun _ => h.push.snapshot_in hrun _,
      fun q hq => absurd hq (hsweep q), fun _ => ⟨_, hlast', hsub⟩⟩

theorem PushStepped.trace (hst : PushStepped s t new) (h : s.Inv es)
    (hrun : s.pushStage.isSome = true) : EachAfter Disciplined es new := by
  -- the poll side's snapshot is out: everything that needs one is in order
  cases hst.move with
  | quiet hnew _ _ => exact eachAfter_inert fun e he => Effect.inert_of_quietOn (hnew e he)
  | notify hnew _ _ =>
    refine eachAfter_of_forall fun e he a => ?_
    obtain ⟨objects, rfl⟩ := hnew e he
    exact disciplined_needsSnapshot rfl (h.push.snapshot_in hrun a)
  | subscribe hnew _ _ => exact eachAfter_subscribe hnew (h.push.subscribed hrun)
  | resyncStart _ _ =>
    simp only [eachAfter_cons, eachAfter_nil, and_true]
    exact ⟨disciplined_needsSnapshot rfl (h.push.snapshot hrun), disciplined_of_inert (by simp)⟩
  | resyncNext _ _ _ _ _ _ _ => exact eachAfter_inert (by simp)
  | @resnapshot p r rest hs hlast _ hrest _ =>
    -- the snapshot is the sweep just completed, after the reset that started it
    obtain ⟨hw, hreset⟩ := h.push.sweep p hs
    have hsnapshot : Disciplined (es ++ [.reply .push (.ok r)])
        (.publish .push (.initial .push (p.objectsWith r))) := by
      refine ⟨nofun, nofun, nofun, fun side source objects hx => ?_, fun _ _ _ => ?_, fun _ _ => nofun⟩
      · cases hx
        exact hw.complete r hlast
      · exact hreset.append (by simp)
    have hlast' := lastSnapshot_completed es .push (.ok r) .push (p.objectsWith r)
      (List.forall_mem_nil _)
    simp only [eachAfter_cons]
    exact ⟨disciplined_of_inert rfl, hsnapshot,
      eachAfter_subscribe hrest ⟨_, by simpa using hlast', rfl⟩⟩

end PushMoves

/-! ## Every run keeps the invariant -/

section Runs

variable {s t : State} {es new : List Effect}

theorem eachAfter_extend {α : Type} {good : List α → α → Prop} {es new : List α}
    (h : EachAfter good [] es) (hnew : EachAfter good es new) : EachAfter good [] (es ++ new) :=
  (eachAfter_append _ _ _).mpr ⟨h, by rwa [List.nil_append]⟩

theorem State.Inv.pollMove (h : s.Inv es) (hm : PollMove s t new) : t.Inv (es ++ new) :=
  ⟨hm.pollPhase h, hm.pushPhase h, eachAfter_extend h.trace (hm.trace h)⟩

theorem State.Inv.pushStepped (h : s.Inv es) (hst : PushStepped s t new)
    (hrun : s.pushStage.isSome = true) : t.Inv (es ++ new) :=
  ⟨hst.pollPhase h hrun, hst.pushPhase h hrun, eachAfter_extend h.trace (hst.trace h hrun)⟩

/-- A state with the same stages and subscription keeps the invariant of the same trace: an
occurrence that changes nothing, or only the clock or the cancellation. -/
theorem State.Inv.stutter (h : s.Inv es) (hstage : t.pollStage = s.pollStage)
    (hpush : t.SamePush s) : t.Inv (es ++ []) := by
  rw [List.append_nil]
  obtain ⟨hps, hsub⟩ := hpush
  exact ⟨hstage ▸ hps ▸ h.poll, hps ▸ hsub ▸ h.push, h.trace⟩

/-- The step lemma of a run: every occurrence keeps the invariant. -/
theorem State.Inv.occur (h : s.Inv es) (o : Occurrence) :
    (s.occur o).1.Inv (es ++ (s.occur o).2) := by
  have hstay : s.Inv (es ++ []) := h.stutter rfl ⟨rfl, rfl⟩
  cases o with
  | poll a =>
    simp only [State.occur]
    split
    · cases hr : s.pollStep s.pollStage a with
      | none => exact hstay
      | some r => exact h.pollMove (pollStep_move rfl hr)
    · exact hstay
  | push a =>
    simp only [State.occur]
    split
    · rename_i stage hs
      split
      · cases hr : s.pushStep stage a with
        | none => exact hstay
        | some r => exact h.pushStepped (pushStep_move hs hr) (by rw [hs]; rfl)
      · exact hstay
    · exact hstay
  | cancel => exact h.stutter rfl ⟨rfl, rfl⟩
  | elapse ms => exact h.stutter rfl ⟨rfl, rfl⟩

/-- The run lemma: a schedule run from a state and trace with the invariant ends in one. -/
theorem State.Inv.foldl (sched : List Occurrence) (h : s.Inv es) :
    let r := sched.foldl (fun acc o => ((acc.1.occur o).1, acc.2 ++ (acc.1.occur o).2)) (s, es)
    r.1.Inv r.2 := by
  induction sched generalizing s es with
  | nil => exact h
  | cons o sched ih => exact ih (h.occur o)

theorem inv_run (config : Config) (sched : List Occurrence) :
    ((State.start config).run sched).1.Inv ((State.start config).run sched).2 :=
  (inv_start config).foldl sched

/-- Every effect of every run keeps the rules with what came before it. -/
theorem disciplined_run (config : Config) (sched : List Occurrence) {a b : List Effect} {x : Effect}
    (hsplit : ((State.start config).run sched).2 = a ++ x :: b) : Disciplined a x := by
  have := eachAfter_iff.mp (inv_run config sched).trace a x b hsplit
  rwa [List.nil_append] at this

end Runs

/-- The discipline of the update stream, for every configuration and every schedule of answers
and occurrences. -/
theorem update_stream_discipline (config : Config) (sched : List Occurrence) :
    let es := ((State.start config).run sched).2
    (updates es).countP Update.isFeatureFlags ≤ 1 ∧
    (∀ a x b, es = a ++ x :: b → x.publishes Update.isFeatureFlags = true →
      ∀ e ∈ a, e.publishes (Update.isInitialFrom .poll) = false) ∧
    (updates es).countP (Update.isInitialFrom .poll) ≤ 1 ∧
    (∀ a x b, es = a ++ x :: b → x.publishes Update.needsSnapshot = true →
      ∃ e ∈ a, e.publishes (Update.isInitialFrom .poll) = true) ∧
    (∀ a side source objects b, es = a ++ .publish side (.initial source objects) :: b →
      ∃ rs, rs.length = sweepQueries.length ∧ objects = rs.flatMap (·.objects) ∧
        sweepExchange side sweepQueries rs <:+ exchanges side a) ∧
    (∀ a side objects b, es = a ++ .publish side (.initial .push objects) :: b →
      ∃ a₁ a₂, a = a₁ ++ .publish .push .reset :: a₂ ∧
        ∀ e ∈ a₂, e.publishes Update.isInitial = false) ∧
    (∀ a condition qs b, es = a ++ .request .push Command.requestParamList condition qs :: b →
      ∃ objects, lastSnapshot a = some objects ∧ qs = subscription objects) := by
  intro es
  have htrace := (inv_run config sched).trace
  refine ⟨?_, fun a x b hs hx e he => ((disciplined_run config sched hs).flagsFirst hx e he).2, ?_,
    fun a x b hs hx => (disciplined_run config sched hs).snapshotFirst hx,
    fun a side source objects b hs => (disciplined_run config sched hs).swept side source objects rfl,
    fun a side objects b hs => (disciplined_run config sched hs).resetFirst side objects rfl,
    fun a condition qs b hs => (disciplined_run config sched hs).subscribesLast condition qs rfl⟩
  · -- no flags after flags
    rw [countP_updates]
    exact countP_le_one_of_eachAfter (fun a x hx hp e he => (hx.flagsFirst hp e he).1) htrace
  · -- no snapshot of the poll side after another
    rw [countP_updates]
    exact countP_le_one_of_eachAfter (fun a x hx hp => hx.snapshotOnce hp) htrace

end PoolMonitor.Poller
