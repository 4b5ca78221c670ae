import Mathlib
import PoolMonitor.Proofs.ExchangeEffects
/-!
# A sweep asks its queries in order and stops at the first failure

A sweep sends one request per query, in order, and keeps the objects of each answer; the first
request that fails for any reason ends it, and nothing more is sent. Partial sweeps are used as
they are, so this is what the rest of the monitor ever sees of the installation.

* **`Exchange.Writes`**: what one request writes to the controller, on every scripted
  transport. Its text goes out under the fresh message id unless the write itself fails, and a
  response it gives back answers that id with success (`request_writes`). Reading never writes
  (`awaitFrom_sent`).
* **`Asked`**: queries asked one after another, each answered, until one fails; after a
  failure nothing is asked. `sweepWith_asked` shows a sweep is such a run, with the objects of
  the answers and the failing query as its outcome.
* **`Asked.prefix`**, **`Asked.written`**: the queries asked are the first ones of the list, and
  the controller is sent exactly their requests, with their conditions and objects, answered in
  order.
* **`sweep_asks_in_order`**: all of it for the sweep of the installation.
-/

namespace PoolMonitor

open PoolMonitor.Wire

/-! ## What reads and writes log -/

/-- A write is logged when it goes through, and only then. -/
theorem Script.send_sent (s : Script) (text : String) :
    (s.send text).2.sent =
      match (s.send text).1 with
      | .ok () => s.sent.push text
      | .error _ => s.sent := by
  unfold Script.send
  split <;> rfl

namespace Line

theorem sendText_sent (l : Line) (text : String) :
    (l.sendText text).2.peer.sent =
      match (l.sendText text).1 with
      | .ok () => l.peer.sent.push text
      | .error _ => l.peer.sent := by
  unfold sendText
  split
  · rfl
  · have hs := l.peer.send_sent text
    generalize l.peer.send text = res at hs
    obtain ⟨r, peer⟩ := res
    cases r <;> exact hs

theorem recvText_sent (l : Line) (d : Duration) : (l.recvText d).2.peer.sent = l.peer.sent := by
  unfold recvText
  split
  · rfl
  · -- a read uses up entries of the receive script, never the log
    have hs : (l.peer.receive d.ceilMillis).2.sent = l.peer.sent := rfl
    generalize l.peer.receive d.ceilMillis = res at hs
    obtain ⟨⟨heard, waited⟩, peer⟩ := res
    cases heard <;> exact hs

end Line

namespace Exchange

/-- **Waiting for a response writes nothing.** Induction on the frames that may still be
skipped, each read leaving the log alone. -/
theorem awaitFrom_sent (e : String) (deadline : Nat) :
    ∀ left skipped x, (awaitFrom e deadline left skipped x).2.line.peer.sent = x.line.peer.sent := by
  intro left
  induction left with
  | zero => intro skipped x; rfl
  | succ left ih =>
    intro skipped x
    rw [awaitFrom]
    split
    · rfl
    · have hs := x.line.recvText_sent (Duration.ofNanos (deadline - x.line.now * 1000000))
      rw [onLine_fst_snd]
      generalize x.line.recvText (Duration.ofNanos (deadline - x.line.now * 1000000)) = res at hs
      obtain ⟨r, line⟩ := res
      cases r with
      | error err => cases err <;> exact hs
      | ok text =>
        dsimp only
        cases Response.decode text with
        | error _ => exact (ih (skipped + 1) { x with line }).trans hs
        | ok resp =>
          dsimp only
          split
          · exact hs
          · split
            · split
              · exact (ih (skipped + 1) { x with line, pushes := x.pushes.push resp }).trans hs
              · exact (ih (skipped + 1) { x with line }).trans hs
            · exact hs

/-- A wait that gives a response gives the one it waited for. -/
theorem awaitFrom_ok (e : String) (deadline : Nat) :
    ∀ left skipped x resp, (awaitFrom e deadline left skipped x).1 = .ok resp →
      resp.messageId = e := by
  intro left
  induction left with
  | zero => intro skipped x resp h; cases h
  | succ left ih =>
    intro skipped x resp h
    rw [awaitFrom] at h
    split at h
    · cases h
    · rw [onLine_fst_snd] at h
      generalize x.line.recvText (Duration.ofNanos (deadline - x.line.now * 1000000)) = res at h
      obtain ⟨r, line⟩ := res
      cases r with
      | error err => cases err <;> cases h
      | ok text =>
        dsimp only at h
        split at h
        · exact ih _ _ _ h
        · split at h
          · rename_i hid
            cases h
            exact beq_iff_eq.mp hid
          · split at h
            · split at h <;> exact ih _ _ _ h
            · cases h

/-- A read writes nothing, whether it waits or panics at its deadline. -/
theorem readMatchingResponse_sent (x : Exchange) (e : String) :
    (x.readMatchingResponse e).2.line.peer.sent = x.line.peer.sent := by
  cases hfit : x.correlator.policy.readDeadline.fitsAfter x.line.now
  · rw [readMatchingResponse_of_long e hfit]
  · rw [readMatchingResponse_eq e hfit]
    exact awaitFrom_sent _ _ _ _ x

/-- A read that succeeds read the answer to its own id. -/
theorem readMatchingResponse_ok (x : Exchange) (e : String) (resp : Response)
    (h : (x.readMatchingResponse e).1 = .ok resp) : resp.messageId = e := by
  cases hfit : x.correlator.policy.readDeadline.fitsAfter x.line.now
  · rw [readMatchingResponse_of_long e hfit] at h
    cases h
  · rw [readMatchingResponse_eq e hfit] at h
    exact awaitFrom_ok _ _ _ _ x resp h

/-- What a request writes to the controller: the request under the fresh id, with the command,
condition and objects asked for, unless the write itself fails; a response it gives back answers
that id with success. -/
structure Writes (x : Exchange) (command condition : String) (objects : List ObjectQuery)
    (r : Except RequestError Response) (x' : Exchange) : Prop where
  sent : x'.line.peer.sent = x.line.peer.sent.push
      (Request.mk x.freshId.1 command condition objects).toJson ∨
    (x'.line.peer.sent = x.line.peer.sent ∧ ∃ e, r = .error (.transport e))
  answer : ∀ resp, r = .ok resp → resp.messageId = x.freshId.1 ∧ resp.isSuccess = true

/-- A write that goes through logs the request under the fresh id; one that fails logs
nothing. -/
theorem sendRequest_sent (x : Exchange) (command condition : String) (objects : List ObjectQuery) :
    (∀ id, (x.sendRequest command condition objects).1 = .ok id →
      (x.sendRequest command condition objects).2.line.peer.sent =
        x.line.peer.sent.push (Request.mk x.freshId.1 command condition objects).toJson) ∧
    (∀ e, (x.sendRequest command condition objects).1 = .error e →
      (x.sendRequest command condition objects).2.line.peer.sent = x.line.peer.sent) := by
  have hfresh : x.freshId = (x.freshId.1, { x with issued := x.issued + 1 }) := rfl
  unfold sendRequest
  rw [hfresh]
  dsimp only [withCorrelator, onLine]
  have hl := x.line.sendText_sent (Request.mk x.freshId.1 command condition objects).toJson
  generalize x.line.sendText _ = res at hl
  obtain ⟨r, line⟩ := res
  cases r
  · refine ⟨fun _ h => ?_, fun _ _ => hl⟩
    cases h
  · refine ⟨fun _ _ => hl, fun _ h => ?_⟩
    cases h

/-- **What a request writes**, on every scripted transport. -/
theorem request_writes (x : Exchange) (command condition : String) (objects : List ObjectQuery) :
    Writes x command condition objects (x.request command condition objects).1
      (x.request command condition objects).2 := by
  have hs := x.sendRequest_effect command condition objects
  -- the write happens on the line of the exchange with the fresh id taken
  have hsent := x.sendRequest_sent command condition objects
  unfold request
  generalize x.sendRequest command condition objects = res at hs hsent ⊢
  obtain ⟨r, x₁⟩ := res
  cases r with
  | error e =>
    rcases hs.outcome with ⟨h, -⟩ | ⟨⟨e', h⟩, -⟩
    · cases h
    · cases h
      exact ⟨.inr ⟨hsent.2 _ rfl, _, rfl⟩, fun _ h => by cases h⟩
  | ok id =>
    obtain rfl : id = x.freshId.1 := by
      rcases hs.outcome with ⟨h, -⟩ | ⟨⟨_, h⟩, -⟩
      · exact Except.ok.inj h
      · cases h
    have hread := x₁.readMatchingResponse_sent x.freshId.1
    have hid := x₁.readMatchingResponse_ok x.freshId.1
    replace hsent := hsent.1 _ rfl
    dsimp only at hsent ⊢
    generalize x₁.readMatchingResponse x.freshId.1 = res at hread hid
    obtain ⟨r, x₂⟩ := res
    cases r with
    | error e => exact ⟨.inl (hread.trans hsent), fun _ h => by cases h⟩
    | ok resp =>
      -- a response read in full passes only with a success code
      rw [requireSuccess]
      split
      · exact ⟨.inl (hread.trans hsent), fun _ h => by cases h; exact ⟨hid _ rfl, by assumption⟩⟩
      · exact ⟨.inl (hread.trans hsent), fun _ h => by cases h⟩

end Exchange

namespace Equipment

/-! ## Runs of queries -/

/-- The request for query `q` under the message id `id`. -/
def SweepQuery.requestUnder (q : SweepQuery) (id : String) : Request :=
  ⟨id, Command.getParamList, q.condition, q.objects⟩

/-- `Asked qs x rs stop x'`: asking the queries `qs` one after another from `x`, each a request
for its condition and objects, the first ones got the successful answers `rs`; then either all
were answered (`stop = none`), or the next query `q` failed with `e` (`stop = some (q, e)`) and
nothing more was asked. The exchange is left as `x'`. -/
inductive Asked : List SweepQuery → Exchange → List Response → Option (SweepQuery × RequestError) →
    Exchange → Prop where
  | done (x : Exchange) : Asked [] x [] none x
  | answered {q : SweepQuery} {qs : List SweepQuery} {x x₁ x₂ : Exchange} {r : Response}
      {rs : List Response} {stop : Option (SweepQuery × RequestError)} :
      x.request Command.getParamList q.condition q.objects = (.ok r, x₁) →
      Asked qs x₁ rs stop x₂ → Asked (q :: qs) x (r :: rs) stop x₂
  | failed {q : SweepQuery} {qs : List SweepQuery} {x x₁ : Exchange} {e : RequestError} :
      x.request Command.getParamList q.condition q.objects = (.error e, x₁) →
      Asked (q :: qs) x [] (some (q, e)) x₁

variable {qs : List SweepQuery} {x x' : Exchange} {rs : List Response}
  {stop : Option (SweepQuery × RequestError)}

/-- **A sweep is a run of queries** whose outcome is the objects of its answers, in order, and the
query that failed, if one did. -/
theorem sweepWith_asked (qs : List SweepQuery) (acc : SweepOutcome) (x : Exchange) :
    ∃ rs stop, Asked qs x rs stop (sweepWith qs acc x).2 ∧
      (sweepWith qs acc x).1.objects = acc.objects ++ rs.flatMap (·.objects) ∧
      (sweepWith qs acc x).1.error = (stop.map fun s => (s.1.name, s.2)).or acc.error := by
  induction qs generalizing acc x with
  | nil => exact ⟨[], none, .done x, by simp [sweepWith], by simp [sweepWith]⟩
  | cons q qs ih =>
    unfold sweepWith
    cases hr : x.request Command.getParamList q.condition q.objects with
    | mk r x₁ =>
      cases r with
      | error e => exact ⟨[], some (q, e), .failed hr, by simp, by simp⟩
      | ok resp =>
        dsimp only
        obtain ⟨rs, stop, hrun, hobj, herr⟩ :=
          ih { acc with objects := acc.objects ++ resp.objects } x₁
        exact ⟨resp :: rs, stop, .answered hr hrun, by simp [hobj], herr⟩

/-- **The queries asked are the first ones**: a failing query comes right after the answered
ones, and a run without failure answered them all. -/
theorem Asked.prefix (h : Asked qs x rs stop x') :
    (∀ q e, stop = some (q, e) → qs[rs.length]? = some q) ∧
      (stop = none → rs.length = qs.length) := by
  induction h with
  | done => exact ⟨fun _ _ h => (by cases h), fun _ => rfl⟩
  | answered _ _ ih =>
    obtain ⟨hfail, hall⟩ := ih
    exact ⟨fun q e hs => (by simpa using hfail q e hs), fun hs => (by simpa using hall hs)⟩
  | failed _ => exact ⟨fun q e hs => (by cases hs; rfl), fun hs => (by cases hs)⟩

/-- **What a run of queries sends.** The controller is sent the requests of the first queries, in
order, each under its own message id and with the query's condition and objects: one for each
query answered, and one for the failing query unless its write failed. Each answer is the
successful response to its request. -/
theorem Asked.written (h : Asked qs x rs stop x') :
    ∃ ids : List String,
      x'.line.peer.sent.toList = x.line.peer.sent.toList ++
        List.zipWith (fun q id => (q.requestUnder id).toJson) qs ids ∧
      List.Forall₂ (fun r id => r.messageId = id ∧ r.isSuccess = true) rs (ids.take rs.length) ∧
      ((ids.length = rs.length ∧ stop = none) ∨
        (ids.length = rs.length + 1 ∧ stop.isSome) ∨
        (ids.length = rs.length ∧ ∃ q e, stop = some (q, .transport e))) := by
  induction h with
  | done x => exact ⟨[], by simp, by simp, .inl ⟨rfl, rfl⟩⟩
  | @answered q qs x x₁ x₂ r rs stop hr _ ih =>
    obtain ⟨ids, hsent, hans, hcount⟩ := ih
    have hw := x.request_writes Command.getParamList q.condition q.objects
    rw [hr] at hw
    have hpush : x₁.line.peer.sent = x.line.peer.sent.push (q.requestUnder x.freshId.1).toJson := by
      rcases hw.sent with h | ⟨-, e, h⟩
      · exact h
      · cases h
    refine ⟨x.freshId.1 :: ids, ?_, ?_, ?_⟩
    · rw [hsent, hpush, Array.toList_push, List.zipWith_cons_cons, List.append_assoc]
      rfl
    · exact .cons (hw.answer r rfl) hans
    · rcases hcount with ⟨hl, hs⟩ | ⟨hl, hs⟩ | ⟨hl, hs⟩
      · exact .inl ⟨by simp [hl], hs⟩
      · exact .inr (.inl ⟨by simp [hl], hs⟩)
      · exact .inr (.inr ⟨by simp [hl], hs⟩)
  | @failed q qs x x₁ e hr =>
    have hw := x.request_writes Command.getParamList q.condition q.objects
    rw [hr] at hw
    rcases hw.sent with hpush | ⟨hkeep, e', he⟩
    · -- the request went out and its answer failed
      refine ⟨[x.freshId.1], ?_, by simp, .inr (.inl ⟨rfl, rfl⟩)⟩
      rw [hpush, Array.toList_push, List.zipWith_cons_cons, List.zipWith_nil_right]
      rfl
    · -- the write itself failed: nothing was sent
      cases he
      exact ⟨[], by rw [hkeep]; simp, by simp, .inr (.inr ⟨rfl, q, e', rfl⟩)⟩

/-- **The sweep asks its queries in order and stops at the first failure.** On every scripted
transport, the sweep is a run of the seven queries: the first ones got the successful answers
`rs`, and either all did, or the next one failed with `e`. The controller is sent exactly the
requests of the queries asked, in order, each with its query's condition and objects under its
own message id; nothing after the failing one, whose request is sent unless the write itself
failed. The sweep keeps the objects of the answers in order and names the failing query with
its error, and it failed exactly when some request did. -/
theorem sweep_asks_in_order (x : Exchange) :
    ∃ (rs : List Response) (stop : Option (SweepQuery × RequestError)),
      Asked sweepQueries x rs stop (sweep x).2 ∧
      (∀ q e, stop = some (q, e) → sweepQueries[rs.length]? = some q) ∧
      (stop = none → rs.length = sweepQueries.length) ∧
      (∃ ids : List String,
        (sweep x).2.line.peer.sent.toList = x.line.peer.sent.toList ++
          List.zipWith (fun q id => (q.requestUnder id).toJson) sweepQueries ids ∧
        List.Forall₂ (fun r id => r.messageId = id ∧ r.isSuccess = true) rs (ids.take rs.length) ∧
        ((ids.length = rs.length ∧ stop = none) ∨
          (ids.length = rs.length + 1 ∧ stop.isSome) ∨
          (ids.length = rs.length ∧ ∃ q e, stop = some (q, .transport e)))) ∧
      (sweep x).1.objects = rs.flatMap (·.objects) ∧
      (sweep x).1.error = stop.map (fun s => (s.1.name, s.2)) ∧
      ((sweep x).1.failed = true ↔ stop.isSome) := by
  obtain ⟨rs, stop, hrun, hobj, herr⟩ := sweepWith_asked sweepQueries {} x
  have herr' : (sweep x).1.error = stop.map (fun s => (s.1.name, s.2)) := by
    rw [sweep, herr, Option.or_none]
  obtain ⟨hfail, hall⟩ := hrun.prefix
  have hobj' : (sweep x).1.objects = rs.flatMap (·.objects) := by
    rw [sweep, hobj]
    rfl
  refine ⟨rs, stop, hrun, hfail, hall, hrun.written, hobj', herr', ?_⟩
  rw [SweepOutcome.failed, herr']
  simp

end Equipment

end PoolMonitor
