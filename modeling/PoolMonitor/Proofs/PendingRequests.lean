import Mathlib
import PoolMonitor.Bench.Connection
import PoolMonitor.Proofs.ExchangeEffects
/-!
# Pending requests

A correlator remembers each request it writes, with the time it was written, until the wait for
its response settles it or a sweep finds it too old. This module proves the bookkeeping exact
along every run of the bench made of sends, reads, requests and sweeps of stale entries, with
anything else that happens to the connection in between:

* **`count_eq_of_id_eq`** — message ids `<nanos>-<count>` with different counts differ, so the
  fresh id of a request is never pending (`Exchange.Made`, the invariant).
* **`Bench.ledger`** — what each operation should do to the pending requests, read off what it
  reported: a request written and not settled is added with the time it was sent, a read
  settles only its own id, a sweep keeps exactly the entries no older than its age.
* **`Exchange.Made.step`** and **`Exchange.Made.along`** — the step and run lemmas.
* **`pending_requests_exact`** — the ledger holds along every such run, with every id pending
  at most once; a read for one id never drops another, a failed write leaves the pending
  requests as they were, and a sweep drops exactly the entries older than its age and counts
  them.
-/

namespace PoolMonitor

theorem length_eq_of_append_cons_eq {s : Char} {A B C D : List Char} (hA : s ∉ A) (hC : s ∉ C)
    (h : A ++ s :: B = C ++ s :: D) : A.length = C.length := by
  have hA' : (A ++ s :: B).idxOf s = A.length + (s :: B).idxOf s := List.idxOf_append_of_notMem hA
  have hC' : (C ++ s :: D).idxOf s = C.length + (s :: D).idxOf s := List.idxOf_append_of_notMem hC
  simp only [List.idxOf_cons_self, Nat.add_zero] at hA' hC'
  rw [h] at hA'
  omega

theorem dash_not_mem_toDigits (n : Nat) : '-' ∉ Nat.toDigits 10 n := fun hm => by
  have := Nat.isDigit_of_mem_toDigits (by decide) (by decide) hm
  revert this
  decide

/-- **Ids with different counts differ.** The count follows the only dash of an id, since the
nanoseconds before it are written in digits. -/
theorem count_eq_of_id_eq {a b c d : Nat}
    (h : toString a ++ "-" ++ toString b = toString c ++ "-" ++ toString d) : b = d := by
  have hl := congrArg String.toList h
  simp only [String.toList_append, Nat.toString_eq_repr, Nat.toList_repr] at hl
  have hl' : Nat.toDigits 10 a ++ '-' :: Nat.toDigits 10 b =
      Nat.toDigits 10 c ++ '-' :: Nat.toDigits 10 d := by simpa using hl
  have hlen := length_eq_of_append_cons_eq (dash_not_mem_toDigits a) (dash_not_mem_toDigits c) hl'
  have hbd := (List.cons_eq_cons.1 (List.append_inj hl' hlen).2).2
  rw [← Nat.ofDigitChars_ten_toDigits (n := b), hbd, Nat.ofDigitChars_ten_toDigits]

namespace Exchange

theorem freshId_fst (x : Exchange) :
    x.freshId.1 = toString (wallClockStart + x.line.now * 1000000 + x.issued) ++ "-" ++
      toString x.issued := rfl

/-- Every pending request went out under an id made before the next one, and no id is pending
twice. -/
structure Made (x : Exchange) : Prop where
  made : ∀ p ∈ x.correlator.pending, ∃ t m : Nat, m < x.issued ∧ p.1 = toString t ++ "-" ++ toString m
  nodup : (x.correlator.pending.map (·.1)).Nodup

variable {x x' : Exchange}

/-- The id a request is about to be sent under is not pending. -/
theorem Made.fresh (h : x.Made) : x.freshId.1 ∉ x.correlator.pending.map (·.1) := by
  intro hm
  obtain ⟨p, hp, hid⟩ := List.mem_map.1 hm
  obtain ⟨t, m, hlt, hpid⟩ := h.made p hp
  rw [hid, freshId_fst] at hpid
  exact absurd (count_eq_of_id_eq hpid) (by omega)

/-- A state whose pending requests are some of those before, with no id made meanwhile, is
made. -/
theorem Made.sublist (h : x.Made) (hi : x'.issued = x.issued)
    (hs : x'.correlator.pending.Sublist x.correlator.pending) : x'.Made :=
  ⟨fun p hp => hi ▸ h.made p (hs.subset hp), h.nodup.sublist (hs.map _)⟩

/-- One more id made, and the request under it pending or not: still made. -/
theorem Made.issue (h : x.Made) (hi : x'.issued = x.issued + 1) (t : Nat)
    (hp : x'.correlator.pending = x.correlator.pending ∨
      x'.correlator.pending = x.correlator.pending ++ [(x.freshId.1, t)]) : x'.Made := by
  have hold : ∀ p ∈ x.correlator.pending, ∃ t m : Nat, m < x'.issued ∧
      p.1 = toString t ++ "-" ++ toString m := fun p hp' => by
    obtain ⟨t, m, hlt, he⟩ := h.made p hp'
    exact ⟨t, m, by omega, he⟩
  rcases hp with hp | hp
  · exact ⟨fun p hp' => hold p (hp ▸ hp'), hp ▸ h.nodup⟩
  · refine ⟨fun p hp' => ?_, ?_⟩
    · rw [hp] at hp'
      rcases List.mem_append.1 hp' with hp' | hp'
      · exact hold p hp'
      · rw [List.mem_singleton.1 hp']
        exact ⟨_, x.issued, by omega, freshId_fst x⟩
    · rw [hp, List.map_append, List.nodup_append]
      exact ⟨h.nodup, List.nodup_singleton _, fun a ha b hb => by
        rw [List.map_singleton, List.mem_singleton] at hb
        exact fun hab => h.fresh (hb ▸ hab ▸ ha)⟩

end Exchange

namespace Correlator

variable {c : Correlator} {id : String} {now : Nat}

theorem pending_remember_of_fresh (h : id ∉ c.pending.map (·.1)) :
    (c.remember id now).pending = c.pending ++ [(id, now)] := by
  unfold remember
  rw [List.filter_eq_self.2]
  intro p hp
  simpa using fun he => h (List.mem_map.2 ⟨p, hp, he⟩)

theorem pending_forget_remember_of_fresh (h : id ∉ c.pending.map (·.1)) :
    ((c.remember id now).forget id).pending = c.pending := by
  unfold forget
  rw [pending_remember_of_fresh h, List.filter_append, List.filter_eq_self.2]
  · simp
  · intro p hp
    simpa using fun he => h (List.mem_map.2 ⟨p, hp, he⟩)

theorem pending_afterWait (c : Correlator) (e : String) (r : Except RequestError Wire.Response) :
    (c.afterWait e r).pending =
      if Exchange.settles r then c.pending.filter (·.1 != e) else c.pending := by
  unfold afterWait
  split <;> rfl

/-- A request written under a fresh id and then waited for: its id is pending afterwards exactly
when the wait did not settle it. -/
theorem pending_afterWait_remember_of_fresh (h : id ∉ c.pending.map (·.1))
    (r : Except RequestError Wire.Response) :
    ((c.remember id now).afterWait id r).pending =
      if Exchange.settles r then c.pending else c.pending ++ [(id, now)] := by
  unfold afterWait
  split
  · exact pending_forget_remember_of_fresh h
  · exact pending_remember_of_fresh h

end Correlator

namespace Bench

open Exchange

/-- Whether an operation runs a whole sweep of requests rather than one call. -/
def BenchOp.sweeps : BenchOp → Bool
  | .sweep | .loadFeatureFlags => true
  | _ => false

/-- Whether a request sent `sent` is no older than `maxAge` at `now`. -/
def fresh (now : Nat) (maxAge : Duration) (p : String × Nat) : Bool :=
  decide ((now - p.2) * 1000000 ≤ maxAge.toNanos)

/-- **What an operation should do to the pending requests**, read off what it reported: a write
that went out adds its id with the time it was sent; a request adds its id, so sent, exactly
when its wait did not settle it; a read settles only its own id, and only by an outcome that
settles it; a sweep keeps the entries no older than its age; nothing else touches them. -/
def ledger (x : Exchange) : BenchOp → Outcome → List (String × Nat)
  | .sendRequest .., .issued (.ok id) => x.correlator.pending ++ [(id, x.line.now)]
  | .request .., .answered r =>
    if settles r then x.correlator.pending else x.correlator.pending ++ [(x.freshId.1, x.line.now)]
  | .readResponse e, .answered r =>
    if settles r then x.correlator.pending.filter (·.1 != e) else x.correlator.pending
  | .sweepStale ms, _ => x.correlator.pending.filter (fresh x.line.now (Duration.ofMillis ms))
  | _, _ => x.correlator.pending

/-- Every step of the run of `ops` from `x` relates the state before it, the operation, what it
reported and the state after it by `R`. -/
def Along (R : Exchange → BenchOp → Outcome → Exchange → Prop) : Exchange → List BenchOp → Prop
  | _, [] => True
  | x, op :: rest => R x op (step x op).1 (step x op).2 ∧ Along R (step x op).2 rest

end Bench

namespace Exchange

open Bench

/-- A step keeps the pending requests and the ids made. -/
theorem Made.keep {x x' : Exchange} {op : BenchOp} {o : Outcome} (h : x.Made)
    (hp : x'.correlator.pending = x.correlator.pending) (hi : x'.issued = x.issued)
    (hl : ledger x op o = x.correlator.pending) :
    x'.correlator.pending = ledger x op o ∧ x'.Made :=
  ⟨hp.trans hl.symm, h.sublist hi (hp ▸ List.Sublist.refl _)⟩

/-- **One step does to the pending requests what the ledger says**, and keeps them made. One
case per operation: sends, requests, reads and sweeps by what they change; the rest keep the
correlator and make no id. -/
theorem Made.step {x : Exchange} (h : x.Made) (op : BenchOp) (hop : op.sweeps = false) :
    (step x op).2.correlator.pending = ledger x op (step x op).1 ∧ (step x op).2.Made := by
  cases op with
  | sendRequest c cond objs =>
    rw [Bench.step, report_fst, report_snd]
    have hs := x.sendRequest_effect c cond objs
    generalize x.sendRequest c cond objs = res at hs ⊢
    obtain ⟨r, x'⟩ := res
    rcases hs.outcome with ⟨rfl, hc⟩ | ⟨⟨e, rfl⟩, hc⟩
    · -- written: pending under its fresh id since now
      have hp : x'.correlator.pending = x.correlator.pending ++ [(x.freshId.1, x.line.now)] := by
        rw [hc, Correlator.pending_remember_of_fresh h.fresh]
      exact ⟨hp, h.issue hs.issued _ (.inr hp)⟩
    · -- the write failed: remembered and forgotten again
      have hp : x'.correlator.pending = x.correlator.pending := by
        rw [hc, Correlator.pending_forget_remember_of_fresh h.fresh]
      exact ⟨hp, h.issue hs.issued x.line.now (.inl hp)⟩
  | request c cond objs =>
    rw [Bench.step, report_fst, report_snd]
    have hr := x.request_effect c cond objs
    generalize x.request c cond objs = res at hr ⊢
    obtain ⟨r, x'⟩ := res
    dsimp only at hr ⊢
    -- remembered under its fresh id, and then settled or not by the wait
    have hp : x'.correlator.pending = if settles r then x.correlator.pending
        else x.correlator.pending ++ [(x.freshId.1, x.line.now)] := by
      rw [hr.correlator, Correlator.pending_afterWait_remember_of_fresh h.fresh]
    refine ⟨hp, h.issue hr.issued x.line.now ?_⟩
    rw [hp]
    split
    · exact .inl rfl
    · exact .inr rfl
  | readResponse e =>
    rw [Bench.step, report_fst, report_snd]
    have hw := x.readMatchingResponse_effect e
    generalize x.readMatchingResponse e = res at hw ⊢
    obtain ⟨r, x'⟩ := res
    dsimp only at hw ⊢
    have hp : x'.correlator.pending =
        if settles r then x.correlator.pending.filter (·.1 != e) else x.correlator.pending := by
      rw [hw.correlator, Correlator.pending_afterWait]
    refine ⟨hp, h.sublist hw.issued ?_⟩
    rw [hp]
    split
    · exact List.filter_sublist
    · exact List.Sublist.refl _
  | sweepStale ms =>
    exact ⟨rfl, h.sublist rfl List.filter_sublist⟩
  | sweep | loadFeatureFlags => cases hop
  | connect | ensureConnected | close | markDisconnected | isHealthy | advance _ | setEndpoint _
    | setPingFail _ | failSends _ | addFrames _ | routePushes | sendText _ | recvText _
    | isPending _ =>
    exact h.keep rfl rfl rfl

/-- **Along a run the ledger holds**, by induction on the operations from the step lemma, and no
id is ever pending twice. -/
theorem Made.along {x : Exchange} (h : x.Made) (ops : List BenchOp)
    (hops : ∀ op ∈ ops, op.sweeps = false) :
    Along (fun x op o x' => x'.correlator.pending = ledger x op o ∧
      (x'.correlator.pending.map (·.1)).Nodup) x ops := by
  induction ops generalizing x with
  | nil => trivial
  | cons op ops ih =>
    obtain ⟨hl, hm⟩ := h.step op (hops op List.mem_cons_self)
    exact ⟨⟨hl, hm.nodup⟩, ih hm fun op' hop' => hops op' (List.mem_cons_of_mem _ hop')⟩

theorem made_start (s : Setup) : s.start.Made :=
  ⟨fun _ hp => (List.not_mem_nil hp).elim, List.nodup_nil⟩

end Exchange

open Bench Exchange

/-- **The pending requests are exactly what the calls left.** Along every run of the bench that
makes its requests one call at a time, from a fresh bench and whatever the controller does, each
step changes the pending requests as the ledger says and no id is pending twice: a request is
pending, with the time it was sent, exactly when it was written and its wait has not ended in a
response, a mismatch or a failure other than a timeout, and no sweep has dropped it. A read for
one id never drops another; a failed write, from a state where every pending id was made
before, leaves the pending requests as they were; and a sweep drops exactly the entries older
than its age and reports how many. -/
theorem pending_requests_exact :
    (∀ (s : Setup) (ops : List BenchOp), (∀ op ∈ ops, op.sweeps = false) →
      Along (fun x op o x' => x'.correlator.pending = ledger x op o ∧
        (x'.correlator.pending.map (·.1)).Nodup) s.start ops) ∧
    (∀ (x : Exchange) (e : String), ∀ p ∈ x.correlator.pending, p.1 ≠ e →
      p ∈ (Bench.step x (.readResponse e)).2.correlator.pending) ∧
    (∀ (x : Exchange) (c cond : String) (objs : List Wire.ObjectQuery) (err : RequestError),
      x.Made → (Bench.step x (.sendRequest c cond objs)).1 = .issued (.error err) →
        (Bench.step x (.sendRequest c cond objs)).2.correlator.pending = x.correlator.pending) ∧
    (∀ (x : Exchange) (ms : Nat),
      (Bench.step x (.sweepStale ms)).2.correlator.pending =
          x.correlator.pending.filter (fresh x.line.now (Duration.ofMillis ms)) ∧
        (Bench.step x (.sweepStale ms)).1 = .count
          (x.correlator.pending.filter fun p => !fresh x.line.now (Duration.ofMillis ms) p).length) := by
  refine ⟨fun s ops hops => (made_start s).along ops hops, fun x e p hp hne => ?_,
    fun x c cond objs err h ho => ?_, fun x ms => ⟨rfl, ?_⟩⟩
  · -- the wait settles only its own id
    rw [Bench.step, report_snd, (x.readMatchingResponse_effect e).correlator,
      Correlator.pending_afterWait]
    split
    · exact List.mem_filter.2 ⟨hp, by simpa using hne⟩
    · exact hp
  · have hl := (h.step (.sendRequest c cond objs) rfl).1
    rw [ho] at hl
    exact hl
  · -- the count is what the filter dropped
    have hlen := List.length_eq_length_filter_add (l := x.correlator.pending)
      (fresh x.line.now (Duration.ofMillis ms))
    show Outcome.count (x.correlator.pending.length -
      (x.correlator.pending.filter (fresh x.line.now (Duration.ofMillis ms))).length) = _
    rw [hlen, Nat.add_sub_cancel_left]

end PoolMonitor
