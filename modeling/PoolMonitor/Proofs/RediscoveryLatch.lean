import Mathlib
import PoolMonitor.Discovery.Rediscovery
/-!
# The rediscovery controller over any sequence of calls

The controller counts failed cycles and latches into rediscovery once the count reaches its
threshold; only a reconnection that works releases the latch. This module says what the
controller holds after any sequence of calls, in terms of the calls alone:

* **`active_iff_failureRun`** — it is active exactly when it is enabled and, since the last
  reconnection that worked, some stretch of calls held `T` failures and no success;
* **`failures_since_restart`** — its count is the number of failures since the last call that
  restarted it (a reconnection that worked, or a success while not active), stopped at the
  largest 32-bit value;
* **`rediscovery_characterisation`** — both, with what an attempt does: it leaves the
  controller as it was and judges the address found against the current host's text.

The first rests on two views of the calls: the failures since the last success or working
reconnection (`Call.trailingFailures`), which is what the count holds while the controller is
not active, and the stretches that hold `T` failures (`Call.FailureRun`): the call that makes
the controller active closes one.
-/

namespace PoolMonitor.Discovery

namespace Call

/-! ## Runs of failures -/

/-- Whether a call ends a run of failures: a success, or a reconnection that worked. -/
def breaksRun : Call → Bool
  | .success => true
  | .reconnected true => true
  | _ => false

/-- The failures since the last call that ended a run. -/
def trailingFailures (cs : List Call) : Nat :=
  cs.foldl (fun n c => if c = .failure then n + 1 else if c.breaksRun then 0 else n) 0

@[simp] theorem trailingFailures_nil : trailingFailures [] = 0 := rfl

theorem trailingFailures_concat (cs : List Call) (c : Call) :
    trailingFailures (cs ++ [c]) =
      if c = .failure then trailingFailures cs + 1
      else if c.breaksRun then 0 else trailingFailures cs := by
  simp [trailingFailures, List.foldl_append]

/-- Calls that end no run add their failures to the run under way. -/
theorem trailingFailures_append {pre w : List Call} (hw : ∀ c ∈ w, c.breaksRun = false) :
    trailingFailures (pre ++ w) = trailingFailures pre + w.count .failure := by
  induction w using List.reverseRecOn with
  | nil => simp
  | append_singleton w c ih =>
    have hc : c.breaksRun = false := hw c (by simp)
    rw [← List.append_assoc, trailingFailures_concat, ih (fun d hd => hw d (by simp [hd]))]
    by_cases h : c = .failure
    · subst h
      simp [List.count_append]
      omega
    · simp [h, hc, List.count_append]

/-- The run under way is the failures of some stretch at the end that ends no run. -/
theorem exists_trailing_stretch (cs : List Call) :
    ∃ pre w, cs = pre ++ w ∧ (∀ c ∈ w, c.breaksRun = false) ∧
      w.count .failure = trailingFailures cs := by
  induction cs using List.reverseRecOn with
  | nil => exact ⟨[], [], rfl, by simp, rfl⟩
  | append_singleton cs c ih =>
    obtain ⟨pre, w, rfl, hw, hcount⟩ := ih
    by_cases hb : c.breaksRun
    · -- `c` ends the run: the stretch at the end is empty
      have hc : c ≠ .failure := by
        rintro rfl
        simp [breaksRun] at hb
      refine ⟨pre ++ w ++ [c], [], by simp, by simp, ?_⟩
      rw [trailingFailures_concat]
      simp [hc, hb]
    · refine ⟨pre, w ++ [c], by simp, ?_, ?_⟩
      · intro d hd
        rcases List.mem_append.1 hd with hd | hd
        · exact hw d hd
        · rw [List.mem_singleton.1 hd]
          simpa using hb
      · rw [trailingFailures_concat]
        by_cases h : c = .failure
        · subst h
          simp [List.count_append, hcount]
        · simp [h, hb, List.count_append, hcount]

/-- Some stretch of the calls holds `T` failures and no success, and no reconnection that
worked comes in it or after it. -/
def FailureRun (T : Nat) (cs : List Call) : Prop :=
  ∃ pre w post, cs = pre ++ w ++ post ∧ Call.reconnected true ∉ w ++ post ∧
    Call.success ∉ w ∧ T ≤ w.count .failure

/-- A stretch of `cs ++ [c]` that is not empty lies in `cs`, or ends with `c`. -/
theorem stretch_of_concat {cs pre w post : List Call} {c : Call}
    (h : cs ++ [c] = pre ++ w ++ post) (hw : w ≠ []) :
    (∃ post', post = post' ++ [c] ∧ cs = pre ++ w ++ post') ∨
      (post = [] ∧ ∃ w', w = w' ++ [c] ∧ cs = pre ++ w') := by
  rcases List.eq_nil_or_concat' post with rfl | ⟨post', x, rfl⟩
  · rcases List.eq_nil_or_concat' w with rfl | ⟨w', y, rfl⟩
    · exact absurd rfl hw
    · rw [List.append_nil, ← List.append_assoc] at h
      obtain ⟨rfl, rfl⟩ := List.append_singleton_inj.mp h
      exact .inr ⟨rfl, w', rfl, rfl⟩
  · rw [← List.append_assoc] at h
    obtain ⟨rfl, rfl⟩ := List.append_singleton_inj.mp h
    exact .inl ⟨post', rfl, rfl⟩

/-- A stretch holding a failure is not empty. -/
theorem ne_nil_of_count_pos {w : List Call} {T : Nat} (hT : 1 ≤ T) (h : T ≤ w.count .failure) :
    w ≠ [] := by
  rintro rfl
  simp at h
  omega

/-- A stretch free of successes and of working reconnections ends no run. -/
theorem breaksRun_eq_false {w : List Call} (hrt : Call.reconnected true ∉ w)
    (hs : Call.success ∉ w) : ∀ c ∈ w, c.breaksRun = false := by
  intro c hc
  match c with
  | .success => exact absurd hc hs
  | .reconnected true => exact absurd hc hrt
  | .failure | .reconnected false | .attempt _ _ => rfl

section
variable {T : Nat} {cs : List Call}

/-- A failure closes a stretch of `T` failures exactly when the run it extends reaches `T`. -/
theorem failureRun_concat_failure (hT : 1 ≤ T) :
    FailureRun T (cs ++ [.failure]) ↔ FailureRun T cs ∨ T ≤ trailingFailures cs + 1 := by
  constructor
  · rintro ⟨pre, w, post, h, hrt, hs, hcount⟩
    rcases stretch_of_concat h (ne_nil_of_count_pos hT hcount) with
      ⟨post', rfl, rfl⟩ | ⟨rfl, w', rfl, rfl⟩
    · refine .inl ⟨pre, w, post', rfl, fun hm => hrt ?_, hs, hcount⟩
      simp only [List.mem_append] at hm ⊢
      tauto
    · -- the stretch ends in the new failure: the rest of it is part of the run under way
      right
      have hw' : ∀ c ∈ w', c.breaksRun = false :=
        breaksRun_eq_false (fun hm => hrt (by simp [hm])) (fun hm => hs (by simp [hm]))
      have hrun := @trailingFailures_append pre w' hw'
      simp [List.count_append] at hcount
      omega
  · rintro (⟨pre, w, post, rfl, hrt, hs, hcount⟩ | hrun)
    · refine ⟨pre, w, post ++ [.failure], by simp, ?_, hs, hcount⟩
      simpa using hrt
    · obtain ⟨pre, w, rfl, hw, hcount⟩ := exists_trailing_stretch cs
      have hrt : Call.reconnected true ∉ w := fun hm => by simpa [breaksRun] using hw _ hm
      have hs : Call.success ∉ w := fun hm => by simpa [breaksRun] using hw _ hm
      refine ⟨pre, w ++ [.failure], [], by simp, by simpa using hrt, by simpa using hs, ?_⟩
      simp [List.count_append, hcount, hrun]

/-- A call that is neither a failure nor a working reconnection neither opens nor closes a
stretch of `T` failures. -/
theorem failureRun_concat_of_ne {c : Call} (hT : 1 ≤ T) (hf : c ≠ .failure)
    (hrt : c ≠ .reconnected true) : FailureRun T (cs ++ [c]) ↔ FailureRun T cs := by
  constructor
  · rintro ⟨pre, w, post, h, hrtw, hs, hcount⟩
    rcases stretch_of_concat h (ne_nil_of_count_pos hT hcount) with
      ⟨post', rfl, rfl⟩ | ⟨rfl, w', rfl, rfl⟩
    · refine ⟨pre, w, post', rfl, fun hm => hrtw ?_, hs, hcount⟩
      simp only [List.mem_append] at hm ⊢
      tauto
    · refine ⟨pre, w', [], by simp, fun hm => hrtw (by simp_all), fun hm => hs (by simp [hm]), ?_⟩
      simpa [List.count_append, hf] using hcount
  · rintro ⟨pre, w, post, rfl, hrtw, hs, hcount⟩
    refine ⟨pre, w, post ++ [c], by simp, ?_, hs, hcount⟩
    simp only [List.mem_append, List.mem_singleton, not_or] at hrtw ⊢
    exact ⟨hrtw.1, hrtw.2, fun h => hrt h.symm⟩

/-- After a working reconnection no stretch of failures counts. -/
theorem not_failureRun_concat_reconnected (hT : 1 ≤ T) :
    ¬FailureRun T (cs ++ [.reconnected true]) := by
  rintro ⟨pre, w, post, h, hrt, -, hcount⟩
  rcases stretch_of_concat h (ne_nil_of_count_pos hT hcount) with
    ⟨post', rfl, -⟩ | ⟨rfl, w', rfl, -⟩ <;> simp at hrt

theorem not_failureRun_nil (hT : 1 ≤ T) : ¬FailureRun T [] := by
  rintro ⟨pre, w, post, h, -, -, hcount⟩
  have hnil := List.append_eq_nil_iff.1 h.symm
  exact ne_nil_of_count_pos hT hcount (List.append_eq_nil_iff.1 hnil.1).2

end

end Call

/-! ## The latch -/

/-- What the controller holds after calls `cs`, for threshold `T` and switch `enabled`: it is
active exactly when it is enabled and some stretch held `T` failures, and while it is not
active its count is the run of failures under way. -/
structure LatchInv (T : Nat) (enabled : Bool) (cs : List Call) (r : Rediscovery) : Prop where
  threshold : r.threshold = T
  switch : r.enabled = enabled
  active : r.active = true ↔ enabled = true ∧ Call.FailureRun T cs
  idle : r.active = false → r.failures = min (Call.trailingFailures cs) maxFailures

section
variable {T : Nat} {enabled : Bool} {cs : List Call} {r : Rediscovery}

theorem LatchInv.new (t : Nat) (enabled : Bool) :
    LatchInv (max t 1) enabled [] (Rediscovery.new t enabled) where
  threshold := rfl
  switch := rfl
  active := by
    simp only [Rediscovery.new, Bool.false_eq_true, false_iff, not_and]
    exact fun _ => Call.not_failureRun_nil (le_max_right t 1)
  idle := fun _ => by simp [Rediscovery.new]

/-- One call keeps the invariant. -/
theorem LatchInv.call (hT : 1 ≤ T) (hTmax : T ≤ maxFailures) (inv : LatchInv T enabled cs r)
    (c : Call) : LatchInv T enabled (cs ++ [c]) (r.call c).1 := by
  obtain ⟨hthr, hen, hact, hidle⟩ := inv
  cases c with
  | failure =>
    have hrun := @Call.failureRun_concat_failure T cs hT
    cases ha : r.active with
    | true =>
      -- the latch holds, and the stretch that set it is still there
      have hw := (hact.1 ha)
      refine ⟨by simp [Rediscovery.call, hthr], by simp [Rediscovery.call, hen], ?_, ?_⟩
      · simp only [Rediscovery.call, Rediscovery.recordFailure_active, ha, Bool.true_or, true_iff]
        exact ⟨hw.1, hrun.2 (.inl hw.2)⟩
      · simp [Rediscovery.call, ha]
    | false =>
      -- the count is the run under way: the failure sets the latch when the run reaches `T`
      have hf := hidle ha
      have hno : ¬(enabled = true ∧ Call.FailureRun T cs) := fun h => by simp [hact.2 h] at ha
      have key : T ≤ min (min (Call.trailingFailures cs) maxFailures + 1) maxFailures ↔
          T ≤ Call.trailingFailures cs + 1 := by omega
      refine ⟨by simp [Rediscovery.call, hthr], by simp [Rediscovery.call, hen], ?_, ?_⟩
      · simp only [Rediscovery.call, Rediscovery.recordFailure_active, ha, Bool.false_or,
          Bool.and_eq_true, decide_eq_true_eq, hthr, hen, hf, key, hrun]
        tauto
      · intro _
        simp only [Rediscovery.call, Rediscovery.recordFailure_failures, hf,
          Call.trailingFailures_concat, if_true]
        omega
  | success =>
    have hrun := @Call.failureRun_concat_of_ne T cs .success hT (by simp) (by simp)
    refine ⟨by simp [Rediscovery.call, hthr], by simp [Rediscovery.call, hen], ?_, ?_⟩
    · simpa [Rediscovery.call, hrun] using hact
    · intro ha
      simp only [Rediscovery.call, Rediscovery.recordSuccess_active] at ha
      simp [Rediscovery.call, ha, Call.trailingFailures_concat, Call.breaksRun]
  | reconnected ok =>
    cases ok with
    | false =>
      have hrun := @Call.failureRun_concat_of_ne T cs (.reconnected false) hT (by simp) (by simp)
      refine ⟨hthr, hen, by simpa [Rediscovery.call, hrun] using hact, ?_⟩
      intro ha
      simp only [Rediscovery.call, Rediscovery.reconnected_false] at ha ⊢
      simp [hidle ha, Call.trailingFailures_concat, Call.breaksRun]
    | true =>
      refine ⟨by simp [Rediscovery.call, hthr], by simp [Rediscovery.call, hen], ?_, ?_⟩
      · simp [Rediscovery.call, Call.not_failureRun_concat_reconnected hT]
      · intro _
        simp [Rediscovery.call, Call.trailingFailures_concat, Call.breaksRun]
  | attempt found current =>
    have hrun := @Call.failureRun_concat_of_ne T cs (.attempt found current) hT (by simp) (by simp)
    refine ⟨hthr, hen, by simpa [Rediscovery.call, hrun] using hact, ?_⟩
    intro ha
    simp [Rediscovery.call, hidle ha, Call.trailingFailures_concat, Call.breaksRun]

/-- Every sequence of calls keeps the invariant. -/
theorem LatchInv.afterCalls (hT : 1 ≤ T) (hTmax : T ≤ maxFailures)
    (inv : LatchInv T enabled [] r) (cs : List Call) : LatchInv T enabled cs (r.afterCalls cs) := by
  induction cs using List.reverseRecOn with
  | nil => exact inv
  | append_singleton cs c ih =>
    rw [Rediscovery.afterCalls_concat]
    exact ih.call hT hTmax c

end

/-- The threshold a controller made from a 32-bit threshold runs with: at least one, and no more
than the count can reach. -/
theorem threshold_bounds (t : UInt32) : 1 ≤ max t.toNat 1 ∧ max t.toNat 1 ≤ maxFailures := by
  have ht := UInt32.toNat_lt t
  have hmax : maxFailures = 4294967295 := rfl
  omega

/-- **The latch.** A controller made with threshold `t` and switch `enabled` is active after
calls `cs` exactly when it is enabled and, since the last reconnection that worked, some
stretch of calls held `max t 1` failures and no success. -/
theorem active_iff_failureRun (t : UInt32) (enabled : Bool) (cs : List Call) :
    ((Rediscovery.new t.toNat enabled).afterCalls cs).active = true ↔
      enabled = true ∧ Call.FailureRun (max t.toNat 1) cs :=
  ((LatchInv.new t.toNat enabled).afterCalls (threshold_bounds t).1 (threshold_bounds t).2 cs).active

/-- Two failures, a success, then three failures: the second run reaches a threshold of three. -/
example : ((Rediscovery.new 3 true).afterCalls
    [.failure, .failure, .success, .failure, .failure, .failure]).active = true := by decide

/-! ## The count -/

/-- Whether a call restarts the count of the controller it is made on: a reconnection that
worked, or a success while rediscovery is not under way. -/
def Rediscovery.restartsCount (r : Rediscovery) : Call → Bool
  | .reconnected true => true
  | .success => !r.active
  | _ => false

/-- In the calls `pre ++ post` made on `r`, `post` is what came after the last restart of the
count: `pre` is empty or ends with a call that restarted it, and no call of `post` does. -/
def Rediscovery.SinceRestart (r : Rediscovery) (pre post : List Call) : Prop :=
  (pre = [] ∨ ∃ p c, pre = p ++ [c] ∧ (r.afterCalls p).restartsCount c = true) ∧
    ∀ p c q, post = p ++ c :: q → (r.afterCalls (pre ++ p)).restartsCount c = false

section
variable {r : Rediscovery} {c : Call}

theorem call_failures_of_restarts (h : r.restartsCount c = true) : (r.call c).1.failures = 0 := by
  match c, h with
  | .reconnected true, _ => rfl
  | .success, h =>
    simp only [Rediscovery.restartsCount, Bool.not_eq_eq_eq_not, Bool.not_true] at h
    simp [Rediscovery.call, h]

theorem call_failures_of_continues (hmax : r.failures ≤ maxFailures)
    (h : r.restartsCount c = false) :
    (r.call c).1.failures = min (r.failures + [c].count .failure) maxFailures := by
  match c, h with
  | .failure, _ => simp [Rediscovery.call]
  | .success, h =>
    simp only [Rediscovery.restartsCount, Bool.not_eq_eq_eq_not, Bool.not_false] at h
    simp [Rediscovery.call, h, hmax]
  | .reconnected false, _ => simp [Rediscovery.call, hmax]
  | .attempt _ _, _ => simp [Rediscovery.call, hmax]

theorem call_failures_le (hmax : r.failures ≤ maxFailures) (c : Call) :
    (r.call c).1.failures ≤ maxFailures := by
  cases hc : r.restartsCount c
  · rw [call_failures_of_continues hmax hc]
    exact min_le_right _ _
  · rw [call_failures_of_restarts hc]
    exact Nat.zero_le _

/-- Calls that do not restart the count add their failures to it, up to the largest 32-bit
value. -/
theorem afterCalls_failures {post : List Call} (hmax : r.failures ≤ maxFailures)
    (h : ∀ p c q, post = p ++ c :: q → (r.afterCalls p).restartsCount c = false) :
    (r.afterCalls post).failures = min (r.failures + post.count .failure) maxFailures := by
  induction post generalizing r with
  | nil => simp [hmax]
  | cons c post ih =>
    have hc : r.restartsCount c = false := h [] c post rfl
    have hstep := call_failures_of_continues hmax hc
    have ih' : ((r.call c).1.afterCalls post).failures =
        min ((r.call c).1.failures + post.count .failure) maxFailures :=
      ih (call_failures_le hmax c) (fun p d q hq => h (c :: p) d q (by simp [hq]))
    change ((r.call c).1.afterCalls post).failures = _
    rw [ih', hstep, List.count_cons]
    by_cases hcf : c = .failure
    · subst hcf
      simp
      omega
    · simp [hcf]
      omega

end

/-- Every sequence of calls has a last restart of the count, or none at all. -/
theorem exists_sinceRestart (r : Rediscovery) (cs : List Call) :
    ∃ pre post, cs = pre ++ post ∧ r.SinceRestart pre post := by
  induction cs using List.reverseRecOn with
  | nil => exact ⟨[], [], rfl, .inl rfl, fun p c q h => by simp at h⟩
  | append_singleton cs c ih =>
    cases hc : (r.afterCalls cs).restartsCount c
    · -- `c` extends what came after the last restart
      obtain ⟨pre, post, rfl, hpre, hpost⟩ := ih
      refine ⟨pre, post ++ [c], by simp, hpre, fun p d q h => ?_⟩
      rcases List.eq_nil_or_concat' q with rfl | ⟨q', x, rfl⟩
      · obtain ⟨rfl, rfl⟩ := List.append_singleton_inj.mp h
        exact hc
      · rw [← List.cons_append, ← List.append_assoc] at h
        obtain ⟨rfl, -⟩ := List.append_singleton_inj.mp h
        exact hpost p d q' rfl
    · exact ⟨cs ++ [c], [], by simp, .inr ⟨cs, c, rfl, hc⟩, fun p d q h => by simp at h⟩

/-- **The count.** After calls `cs` on a new controller, its count is the number of failures
since the last call that restarted it (or since the start), stopped at the largest 32-bit
value. -/
theorem failures_since_restart (t : Nat) (enabled : Bool) {cs pre post : List Call}
    (hsplit : cs = pre ++ post) (hsince : (Rediscovery.new t enabled).SinceRestart pre post) :
    ((Rediscovery.new t enabled).afterCalls cs).failures = min (post.count .failure) maxFailures := by
  obtain ⟨hpre, hpost⟩ := hsince
  -- the count is zero where `post` starts
  have hzero : ((Rediscovery.new t enabled).afterCalls pre).failures = 0 := by
    rcases hpre with rfl | ⟨p, c, rfl, hc⟩
    · rfl
    · rw [Rediscovery.afterCalls_concat]
      exact call_failures_of_restarts hc
  subst hsplit
  rw [Rediscovery.afterCalls_append, afterCalls_failures (by simp [hzero]) ?_, hzero, zero_add]
  intro p c q hq
  rw [← Rediscovery.afterCalls_append]
  exact hpost p c q hq

/-! ## Attempts -/

/-- What an attempt answers, given what discovery found and the current host: discovery
failed, found the address the current host names, or found another. -/
inductive Judged (current : String) : Option Ipv4 → Outcome → Prop
  | failed : Judged current none .discoveryFailed
  | same (a : Ipv4) (h : a.toText = current) : Judged current (some a) .sameAddress
  | changed (a : Ipv4) (h : a.toText ≠ current) : Judged current (some a) (.addressChanged a)

/-- An attempt leaves the controller as it was and answers as `Judged` says. -/
theorem call_attempt (r : Rediscovery) (found : Option Ipv4) (current : String) :
    ∃ o, r.call (.attempt found current) = (r, some o) ∧ Judged current found o := by
  refine ⟨attemptOutcome found current, rfl, ?_⟩
  cases found with
  | none => exact .failed
  | some a =>
    by_cases h : a.toText = current
    · simpa [attemptOutcome, h] using Judged.same a h
    · simpa [attemptOutcome, h] using Judged.changed a h

/-- **The controller over any sequence of calls.** Made with a 32-bit threshold `t` and switch
`enabled`, after calls `cs` it is active exactly when enabled with a stretch of `max t 1`
failures and no success since the last working reconnection; its count is the saturated
number of failures since the last restart, which every sequence has or lacks; and an attempt
changes nothing and judges the address found against the current host. -/
theorem rediscovery_characterisation (t : UInt32) (enabled : Bool) (cs : List Call) :
    (((Rediscovery.new t.toNat enabled).afterCalls cs).active = true ↔
      enabled = true ∧ Call.FailureRun (max t.toNat 1) cs) ∧
    (∃ pre post, cs = pre ++ post ∧ (Rediscovery.new t.toNat enabled).SinceRestart pre post) ∧
    (∀ pre post, cs = pre ++ post → (Rediscovery.new t.toNat enabled).SinceRestart pre post →
      ((Rediscovery.new t.toNat enabled).afterCalls cs).failures =
        min (post.count .failure) maxFailures) ∧
    ∀ found current, ∃ o,
      ((Rediscovery.new t.toNat enabled).afterCalls cs).call (.attempt found current) =
        ((Rediscovery.new t.toNat enabled).afterCalls cs, some o) ∧ Judged current found o :=
  ⟨active_iff_failureRun t enabled cs, exists_sinceRestart _ cs,
    fun _ _ hsplit hsince => failures_since_restart t.toNat enabled hsplit hsince,
    call_attempt _⟩

end PoolMonitor.Discovery
