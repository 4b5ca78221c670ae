import Mathlib
import PoolMonitor.Proofs.SweepPrefix
import PoolMonitor.Proofs.PollerMoves
/-!
# Every notification is published once, in order

A notification reaches the push side one of two ways. While one of its requests waits for an
answer, the connection's correlator reads the frames, and every notification under another id
is handed to the push handler, which gives it to the push side as it comes. While the push side
listens, it reads the frames itself. Both readers read the same connection, one after the other.

* A read uses up entries of the controller's script from the front and reads the one frame among
  them it returns (`Line.recvText_used`); a wait for an answer uses up entries from the front and
  hands on exactly the notifications under other ids among the frames it read
  (`Exchange.awaitFrom_used`, `Exchange.request_used`). `Line.readTo` names the frames a step
  read: the texts of the entries it used up.
* `PushStage.notifications` says which answers bring the push side a notification;
  `State.pushed_occur` shows that one occurrence publishes exactly those (the step lemma), and
  `State.pushed_run` the same of a whole schedule.
* `PushRun` is a run of the poller whose push side talks over a scripted connection: its reads
  and its requests are answered from that connection, everything else by the world, and each
  frame read is recorded with the id of the request awaited at that moment (`Delivery`).
  Along every such run the notifications published are, in order, those of the frames delivered
  that decode as notifications under an id other than the one awaited, and no other frame
  publishes one (`notifications_published_once_in_order`).
-/

namespace PoolMonitor

open PoolMonitor.Wire PoolMonitor.Equipment

/-! ## What a read of a connection uses up -/

/-- The frame a read heard, if it heard one. -/
def Heard.text? : Heard → Option String
  | .frame text => some text
  | _ => none

namespace Script

/-- The frames a script's entries stand for depend only on what was sent to it. -/
theorem frameText_eq_of_sent {s s' : Script} (h : s.sent = s'.sent) : s.frameText = s'.frameText := by
  funext step
  cases step <;> simp [frameText, fillIds, lastSentId, h]

/-- **A read uses up entries from the front.** The frame it hears, if any, is the one frame
among the entries it used up. -/
theorem hear_used (s : Script) (budget : Nat) (steps : List FrameStep) :
    ∃ used, steps = used ++ (s.hear budget steps).2.2 ∧
      used.filterMap s.frameText = (s.hear budget steps).1.text?.toList := by
  induction steps generalizing budget with
  | nil => exact ⟨[], rfl, rfl⟩
  | cons step rest ih =>
    cases step
    case delay ms =>
      -- a pause that fits goes on to the next entry; one that does not is used up in silence
      by_cases hms : ms ≤ budget
      · obtain ⟨used, hsplit, htext⟩ := ih (budget - ms)
        refine ⟨.delay ms :: used, ?_, ?_⟩
        · simpa only [hear, if_pos hms, List.cons_append, List.cons.injEq, true_and] using hsplit
        · simpa only [hear, if_pos hms, List.filterMap_cons, frameText] using htext
      · exact ⟨[.delay ms], by simp [hear, if_neg hms], by simp [hear, if_neg hms, frameText, Heard.text?]⟩
    all_goals exact ⟨[_], rfl, by simp [hear, frameText, Heard.text?]⟩

end Script

namespace Line

/-- The frames a step read off a connection that went from `l` to `l'`: the texts of the script
entries it used up, as the controller filled them in. -/
def readTo (l l' : Line) : List String :=
  (l.peer.frames.take (l.peer.frames.length - l'.peer.frames.length)).filterMap l'.peer.frameText

theorem readTo_of_used {l l' : Line} {used : List FrameStep} (h : l.peer.frames = used ++ l'.peer.frames) :
    l.readTo l' = used.filterMap l'.peer.frameText := by
  rw [readTo, h, List.length_append, Nat.add_sub_cancel, List.take_left' rfl]

/-- **A read uses up entries from the front and reads the frame it returns**, if it returns
one. -/
theorem recvText_used (l : Line) (d : Duration) :
    ∃ used, l.peer.frames = used ++ (l.recvText d).2.peer.frames ∧
      used.filterMap l.peer.frameText = (l.recvText d).1.toOption.toList := by
  unfold recvText
  by_cases hs : l.link.session = true
  · simp only [hs, Bool.not_true, Bool.false_eq_true, ↓reduceIte, Script.receive]
    obtain ⟨used, hsplit, htext⟩ := l.peer.hear_used d.ceilMillis l.peer.frames
    generalize l.peer.hear d.ceilMillis l.peer.frames = heard at hsplit htext
    obtain ⟨w, waited, left⟩ := heard
    dsimp only at hsplit htext ⊢
    cases w <;> exact ⟨used, hsplit, by simpa [Heard.text?, Except.toOption] using htext⟩
  · simp only [Bool.not_eq_true] at hs
    simp only [hs, Bool.not_false, ↓reduceIte]
    exact ⟨[], rfl, rfl⟩

/-- A read while listening read the frame it returned, and nothing else. -/
theorem readTo_recvText (l : Line) (d : Duration) :
    l.readTo (l.recvText d).2 = (l.recvText d).1.toOption.toList := by
  obtain ⟨used, hsplit, htext⟩ := l.recvText_used d
  rw [readTo_of_used hsplit, Script.frameText_eq_of_sent (recvText_sent l d), htext]

theorem sendText_frames (l : Line) (text : String) : (l.sendText text).2.peer.frames = l.peer.frames := by
  unfold sendText
  split
  · rfl
  · have hs : (l.peer.send text).2.frames = l.peer.frames := by
      unfold Script.send; split <;> rfl
    generalize l.peer.send text = res at hs
    obtain ⟨r, peer⟩ := res
    cases r <;> exact hs

end Line

/-! ## What a wait hands on -/

namespace Exchange

variable {e : String} {deadline : Nat}

@[simp] theorem timedOut_pushes (x : Exchange) (skipped : Nat) :
    (x.timedOut e skipped).2.pushes = x.pushes := rfl

/-- **A wait hands on the notifications it reads.** Whatever the frames and their timing, a
wait for the answer to `e` uses up entries of the script from the front, and when notifications
are routed the push handler gets exactly the frames among them that decode as notifications
under other ids, in order. -/
theorem awaitFrom_used (left skipped : Nat) (x : Exchange) :
    ∃ used, x.line.peer.frames = used ++ (awaitFrom e deadline left skipped x).2.line.peer.frames ∧
      (awaitFrom e deadline left skipped x).2.pushes.toList = x.pushes.toList ++
        if x.correlator.routesPushes then
          (used.filterMap x.line.peer.frameText).filterMap fun text => routedPush e (.ok text)
        else [] := by
  induction left generalizing skipped x with
  | zero => exact ⟨[], rfl, by simp [awaitFrom]⟩
  | succ left ih =>
    rw [awaitFrom]
    by_cases hnow : x.line.now * 1000000 ≥ deadline
    · rw [if_pos hnow]
      exact ⟨[], rfl, by simp⟩
    rw [if_neg hnow, onLine_fst_snd]
    have hsent := Line.recvText_sent x.line (Duration.ofNanos (deadline - x.line.now * 1000000))
    obtain ⟨used, hsplit, htext⟩ := x.line.recvText_used (Duration.ofNanos (deadline - x.line.now * 1000000))
    generalize x.line.recvText (Duration.ofNanos (deadline - x.line.now * 1000000)) = res at hsent hsplit htext ⊢
    obtain ⟨r, line'⟩ := res
    dsimp only at hsent hsplit htext ⊢
    -- the entries read on, as the frames they stand for once this read is done
    have hframes : line'.peer.frameText = x.line.peer.frameText := Script.frameText_eq_of_sent hsent
    cases r with
    | error err =>
      -- a failed read returned no frame and ends the wait
      have hnone : used.filterMap x.line.peer.frameText = [] := by simpa [Except.toOption] using htext
      cases err
      case timeout => exact ⟨used, hsplit, by simp [hnone]⟩
      all_goals exact ⟨used, hsplit, by simp [withCorrelator, hnone]⟩
    | ok text =>
      have hone : used.filterMap x.line.peer.frameText = [text] := by simpa [Except.toOption] using htext
      dsimp only
      cases hd : Response.decode text with
      | error err =>
        -- an undecodable frame is skipped and handed to no one
        dsimp only
        obtain ⟨used', hsplit', hpush⟩ := ih (skipped + 1) { x with line := line' }
        refine ⟨used ++ used', by rw [hsplit, hsplit', List.append_assoc], ?_⟩
        rw [hpush]
        simp [List.filterMap_append, hone, hframes, routedPush, hd]
      | ok resp =>
        dsimp only
        by_cases hid : resp.messageId = e
        · -- the answer ends the wait and is handed to no one
          simp only [hid, beq_self_eq_true, if_true]
          refine ⟨used, hsplit, ?_⟩
          simp [withCorrelator, hone, routedPush, hd, hid]
        have hne : (resp.messageId == e) = false := by simpa using hid
        cases hp : resp.isPush with
        | false =>
          -- any other response puts the exchange out of step
          simp only [hne, Bool.false_eq_true, if_false]
          refine ⟨used, hsplit, ?_⟩
          simp [withCorrelator, hone, routedPush, hd, hp]
        | true =>
          -- a notification under another id is handed on, and the wait goes on
          have hroute : routedPush e (.ok text) = some resp := by simp [routedPush, hd, hid, hp]
          simp only [hne, Bool.false_eq_true, if_false, if_true]
          cases hr : x.correlator.routesPushes with
          | false =>
            simp only [Bool.false_eq_true, ↓reduceIte]
            obtain ⟨used', hsplit', hpush⟩ := ih (skipped + 1) { x with line := line' }
            refine ⟨used ++ used', by rw [hsplit, hsplit', List.append_assoc], ?_⟩
            simpa [hr] using hpush
          | true =>
            simp only [↓reduceIte]
            obtain ⟨used', hsplit', hpush⟩ :=
              ih (skipped + 1) { x with line := line', pushes := x.pushes.push resp }
            refine ⟨used ++ used', by rw [hsplit, hsplit', List.append_assoc], ?_⟩
            rw [hpush]
            simp [hr, List.filterMap_append, hone, hframes, hroute]

/-- A read for the answer to `e` hands on the notifications among the frames it read; one that
panics at its deadline reads nothing. -/
theorem readMatchingResponse_used (x : Exchange) (e : String) :
    ∃ used, x.line.peer.frames = used ++ (x.readMatchingResponse e).2.line.peer.frames ∧
      (x.readMatchingResponse e).2.pushes.toList = x.pushes.toList ++
        if x.correlator.routesPushes then
          (used.filterMap x.line.peer.frameText).filterMap fun text => routedPush e (.ok text)
        else [] := by
  cases hfit : x.correlator.policy.readDeadline.fitsAfter x.line.now
  · rw [readMatchingResponse_of_long e hfit]
    exact ⟨[], rfl, by simp⟩
  · rw [readMatchingResponse_eq e hfit]
    exact awaitFrom_used _ _ x

/-- Writing a request uses up nothing of the receive script and hands nothing on. -/
theorem sendRequest_frames (x : Exchange) (command condition : String) (objects : List ObjectQuery) :
    (x.sendRequest command condition objects).2.line.peer.frames = x.line.peer.frames ∧
      (x.sendRequest command condition objects).2.pushes = x.pushes ∧
      (x.sendRequest command condition objects).2.correlator.routesPushes =
        x.correlator.routesPushes := by
  have hfresh : x.freshId = (x.freshId.1, { x with issued := x.issued + 1 }) := rfl
  unfold sendRequest
  rw [hfresh]
  dsimp only [withCorrelator, onLine]
  have hf := x.line.sendText_frames (Request.mk x.freshId.1 command condition objects).toJson
  generalize x.line.sendText _ = res at hf ⊢
  obtain ⟨r, line⟩ := res
  cases r <;> exact ⟨hf, rfl, rfl⟩

/-- **A request hands on the notifications it reads.** It uses up entries of the script from
the front; when notifications are routed, the push handler gets exactly the frames among them
that decode as notifications under ids other than the request's own, in order. -/
theorem request_used (x : Exchange) (command condition : String) (objects : List ObjectQuery) :
    ∃ used, x.line.peer.frames = used ++ (x.request command condition objects).2.line.peer.frames ∧
      (x.request command condition objects).2.pushes.toList = x.pushes.toList ++
        if x.correlator.routesPushes then
          (used.filterMap (x.request command condition objects).2.line.peer.frameText).filterMap
            fun text => routedPush x.freshId.1 (.ok text)
        else [] := by
  have hs := x.sendRequest_effect command condition objects
  obtain ⟨hframes, hpushes, hroutes⟩ := x.sendRequest_frames command condition objects
  unfold request
  generalize x.sendRequest command condition objects = res at hs hframes hpushes hroutes ⊢
  obtain ⟨r, x₁⟩ := res
  cases r with
  | error err =>
    -- the write failed: nothing was read
    exact ⟨[], hframes.symm, by simpa using congrArg Array.toList hpushes⟩
  | ok id =>
    obtain rfl : id = x.freshId.1 := by
      rcases hs.outcome with ⟨h, -⟩ | ⟨⟨_, h⟩, -⟩
      · exact Except.ok.inj h
      · cases h
    dsimp only
    rw [requireSuccess_snd]
    obtain ⟨used, hsplit, hpush⟩ := x₁.readMatchingResponse_used x.freshId.1
    refine ⟨used, by rw [← hframes, hsplit], ?_⟩
    rw [hpush, hpushes, hroutes, Script.frameText_eq_of_sent (readMatchingResponse_sent x₁ _)]

end Exchange

/-! ## What the push side publishes -/

namespace Poller

/-- The objects an effect publishes as a notification. -/
def Effect.pushed? : Effect → Option (List ObjectData)
  | .publish _ (.push objects) => some objects
  | _ => none

/-- The notifications the push side takes from the answer `a` to the call of `stage`: one
handed on while a request waits for its answer, or a frame heard while listening that decodes
as a response whose command is a notification. -/
def PushStage.notifications : PushStage → Answer → List (List ObjectData)
  | .subscribing _, .notified objects | .sweeping _, .notified objects => [objects]
  | .listening, .received (.ok text) =>
    match Response.decode text with
    | .ok resp => if resp.command = Command.notifyList then [resp.objects] else []
    | .error _ => []
  | _, _ => []

namespace State

/-- The notifications the push side takes in one occurrence. -/
def notificationsOf (s : State) : Occurrence → List (List ObjectData)
  | .push a =>
    match s.pushStage with
    | some stage => stage.notifications a
    | none => []
  | _ => []

/-- The notifications the push side takes along a schedule, in order. -/
def notificationsAlong (s : State) : List Occurrence → List (List ObjectData)
  | [] => []
  | o :: sched => s.notificationsOf o ++ (s.occur o).1.notificationsAlong sched

end State

theorem Effect.pushed?_of_quietOn {side : Side} {e : Effect} (h : e.quietOn side = true) :
    e.pushed? = none := by
  cases e <;> simp_all [Effect.quietOn, Effect.pushed?]

theorem filterMap_pushed?_of_quietOn {side : Side} {es : List Effect}
    (h : ∀ e ∈ es, e.quietOn side = true) : es.filterMap Effect.pushed? = [] :=
  List.filterMap_eq_nil_iff.2 fun e he => Effect.pushed?_of_quietOn (h e he)

/-- The poll side publishes no notification. -/
theorem PollMove.pushed {s t : State} {new : List Effect} (h : PollMove s t new) :
    new.filterMap Effect.pushed? = [] := by
  cases h with
  | quiet hnew => exact filterMap_pushed?_of_quietOn hnew
  | flagsAnswered r => cases r <;> rfl
  | sweepStart pre round hpre =>
    rw [List.filterMap_append, filterMap_pushed?_of_quietOn hpre]
    rfl
  | _ => rfl

namespace State

variable {s : State}

theorem reconnectPush_pushed : s.reconnectPush.2.filterMap Effect.pushed? = [] := by
  unfold reconnectPush
  split <;> rfl

theorem subscribe_pushed (resync : Bool) :
    (s.subscribe resync).2.filterMap Effect.pushed? = [] := by
  unfold subscribe
  split <;> rfl

theorem afterSubscribe_pushed (resync : Bool) (r : Except RequestError Response) :
    (s.afterSubscribe resync r).2.filterMap Effect.pushed? = [] := by
  simp only [afterSubscribe]
  split
  · rfl
  · split
    · rfl
    · simpa [Effect.pushed?] using reconnectPush_pushed

/-- While listening, a frame publishes the notification it decodes as, if it is one. -/
theorem afterRead_pushed (r : Except TransportError String) :
    (s.afterRead r).2.filterMap Effect.pushed? =
      PushStage.listening.notifications (.received r) := by
  cases r with
  | ok text =>
    simp only [afterRead, frame, PushStage.notifications]
    cases Response.decode text with
    | error _ => rfl
    | ok resp =>
      by_cases hpush : resp.command = Command.notifyList
      · simp [Response.isPush, hpush, Effect.pushed?]
      · simp [Response.isPush, hpush]
  | error err =>
    cases err
    case timeout d =>
      simp only [afterRead]
      split
      · rfl
      · exact reconnectPush_pushed
      · rfl
    all_goals exact reconnectPush_pushed

theorem afterPushPing_pushed (ok : Bool) :
    (s.afterPushPing ok).2.filterMap Effect.pushed? = [] := by
  simp only [afterPushPing]
  split
  · rfl
  · exact reconnectPush_pushed

theorem afterPushConnect_pushed (r : Except ConnectionError Unit) :
    (s.afterPushConnect r).2.filterMap Effect.pushed? = [] := by
  cases r with
  | ok u => rfl
  | error err => cases err <;> rfl

theorem afterPushReply_pushed (p : SweepProgress) (r : Except RequestError Response) :
    (s.afterPushReply p r).2.filterMap Effect.pushed? = [] := by
  simp only [afterPushReply]
  split
  · rfl
  · split
    · rfl
    · simpa [Effect.pushed?] using subscribe_pushed true

/-- **One step of the push side** publishes exactly the notifications it takes. -/
theorem pushStep_pushed {stage : PushStage} {a : Answer} {r : State × List Effect}
    (h : s.pushStep stage a = some r) : r.2.filterMap Effect.pushed? = stage.notifications a := by
  unfold pushStep at h
  split at h <;> cases h
  · exact subscribe_pushed false
  · rfl
  · exact afterSubscribe_pushed _ _
  · rfl
  · exact afterRead_pushed _
  · exact afterPushPing_pushed _
  · exact afterPushConnect_pushed _
  · rfl
  · exact afterPushReply_pushed _ _
  · exact reconnectPush_pushed
  · rfl

/-- A call that cannot get an answer takes no notification from it. -/
theorem notifications_of_pushStep_eq_none {stage : PushStage} {a : Answer}
    (h : s.pushStep stage a = none) : stage.notifications a = [] := by
  unfold PushStage.notifications
  split
  · simp [pushStep] at h
  · simp [pushStep] at h
  · simp [pushStep] at h
  · rfl

/-- Every answer that brings a notification may be given at once. -/
theorem notifications_of_not_admits {stage : PushStage} {a : Answer} {wake : Nat}
    (h : s.admits wake a = false) : stage.notifications a = [] := by
  unfold PushStage.notifications
  split
  · simp [admits, Answer.reportsCancel] at h
  · simp [admits, Answer.reportsCancel] at h
  · simp [admits, Answer.reportsCancel] at h
  · rfl

/-- **The step lemma.** One occurrence publishes exactly the notifications the push side takes
in it. -/
theorem pushed_occur (s : State) (o : Occurrence) :
    (s.occur o).2.filterMap Effect.pushed? = s.notificationsOf o := by
  cases o with
  | poll a =>
    simp only [occur, notificationsOf]
    split
    · cases hstep : s.pollStep s.pollStage a with
      | none => rfl
      | some r => exact (pollStep_move rfl hstep).pushed
    · rfl
  | push a =>
    simp only [occur, notificationsOf]
    cases hps : s.pushStage with
    | none => rfl
    | some stage =>
      dsimp only
      cases hadm : s.admits s.pushWake a with
      | false => exact (notifications_of_not_admits hadm).symm
      | true =>
        cases hstep : s.pushStep stage a with
        | none => exact (notifications_of_pushStep_eq_none hstep).symm
        | some r => exact pushStep_pushed hstep
  | cancel => rfl
  | elapse ms => rfl

/-- **The run lemma.** A run publishes exactly the notifications the push side takes along it,
in order. The induction is on the schedule, one `pushed_occur` per occurrence. -/
theorem pushed_run (s : State) (sched : List Occurrence) :
    (s.run sched).2.filterMap Effect.pushed? = s.notificationsAlong sched := by
  induction sched generalizing s with
  | nil => rfl
  | cons o sched ih =>
    rw [run_cons, List.filterMap_append, pushed_occur, ih]
    rfl

end State

/-! ## Runs of the push side against its connection -/

/-- A frame read off the push connection, with the id of the request awaited when it was read;
none while the push side listens. -/
structure Delivery where
  awaited : Option String
  text : String

/-- The notification a delivered frame brings: its objects, when it decodes as a response whose
command is a notification, under an id other than the one awaited. -/
def Delivery.notification? (d : Delivery) : Option (List ObjectData) :=
  match Response.decode d.text with
  | .ok resp => if resp.isPush && d.awaited != some resp.messageId then some resp.objects else none
  | .error _ => none

/-- Whether the world gives an occurrence without the push connection: anything for the poll
side, the cancellation, time passing, and the push side's start, timers and pings. The push
side's frames, notifications and request outcomes come from its connection, and a connection it
makes comes with a line. -/
def Occurrence.offLine : Occurrence → Bool
  | .push (.received _) | .push (.notified _) | .push (.answered _) | .push (.connected _) => false
  | _ => true

/-- The push side waits for the answer to a request while subscribing or sweeping. -/
def PushStage.requesting : PushStage → Bool
  | .subscribing _ | .sweeping _ => true
  | _ => false

/-- A run of the poller from `s` to `t` whose push side talks to the controller over the line
`l`, ending on `l'`; `effects` is what the run did, and `delivered` lists, in order, each frame
read off the push connection with the id of the request awaited when it was read.

* `world`: an occurrence the world gives without the push connection;
* `connect`: the push side's connection attempt ends with `r`, and from then on it talks over
  the line `l₁`;
* `listen`: while listening, a read of the line within `d`, whose outcome is the push side's
  answer;
* `request`: while subscribing or sweeping, the push side's request is carried by an exchange on
  the line whose correlator routes notifications to the push handler, and the push side gets
  each notification handed on, in order, then the outcome. A read that panics ends a run. -/
inductive PushRun : State → Line → List Delivery → List Effect → State → Line → Prop
  | stop (s : State) (l : Line) : PushRun s l [] [] s l
  | world {s : State} {l : Line} {o : Occurrence} {ds : List Delivery} {es : List Effect}
      {t : State} {l' : Line} (ho : o.offLine = true) (rest : PushRun (s.occur o).1 l ds es t l') :
      PushRun s l ds ((s.occur o).2 ++ es) t l'
  | connect {s : State} {l : Line} (r : Except ConnectionError Unit) (l₁ : Line)
      {ds : List Delivery} {es : List Effect} {t : State} {l' : Line}
      (rest : PushRun (s.occur (.push (.connected r))).1 l₁ ds es t l') :
      PushRun s l ds ((s.occur (.push (.connected r))).2 ++ es) t l'
  | listen {s : State} {l : Line} (d : Duration) {ds : List Delivery} {es : List Effect}
      {t : State} {l' : Line} (hstage : s.pushStage = some .listening)
      (rest : PushRun (s.occur (.push (.received (l.recvText d).1))).1 (l.recvText d).2 ds es t l') :
      PushRun s l ((l.readTo (l.recvText d).2).map (Delivery.mk none) ++ ds)
        ((s.occur (.push (.received (l.recvText d).1))).2 ++ es) t l'
  | request {s : State} {l : Line} {stage : PushStage} (x : Exchange) (command condition : String)
      (objects : List ObjectQuery) {ds : List Delivery} {es : List Effect} {t : State} {l' : Line}
      (hstage : s.pushStage = some stage) (hreq : stage.requesting = true) (hline : x.line = l)
      (hroute : x.correlator.routesPushes = true) (hpushes : x.pushes = #[])
      (hpanic : (x.request command condition objects).2.line.panicked = none)
      (rest : PushRun (s.run ((Answer.ofRequest (x.request command condition objects)).map .push)).1
        (x.request command condition objects).2.line ds es t l') :
      PushRun s l ((l.readTo (x.request command condition objects).2.line).map
          (Delivery.mk (some x.freshId.1)) ++ ds)
        ((s.run ((Answer.ofRequest (x.request command condition objects)).map .push)).2 ++ es) t l'

/-- What the world gives brings the push side no notification. -/
theorem PushStage.notifications_of_offLine {stage : PushStage} {a : Answer}
    (ha : (Occurrence.push a).offLine = true) : stage.notifications a = [] := by
  cases a <;> simp [Occurrence.offLine] at ha <;> cases stage <;> rfl

/-- A frame read while listening brings the notification it decodes as, if it is one. -/
theorem Delivery.notification?_listening (text : String) :
    [Delivery.mk none text].filterMap Delivery.notification? =
      PushStage.listening.notifications (.received (.ok text)) := by
  simp only [List.filterMap_cons, List.filterMap_nil, Delivery.notification?, PushStage.notifications]
  cases Response.decode text with
  | error => rfl
  | ok resp => by_cases h : resp.command = Command.notifyList <;> simp [h, Response.isPush]

/-- A notification a wait for `e` hands on is the notification of the frame delivered while
waiting for `e`. -/
theorem Delivery.notification?_routed (e text : String) :
    (Exchange.routedPush e (.ok text)).map (·.objects) = (Delivery.mk (some e) text).notification? := by
  simp only [Exchange.routedPush, Delivery.notification?]
  cases Response.decode text with
  | error => rfl
  | ok resp =>
    by_cases hid : resp.messageId = e
    · simp [hid]
    · cases hp : resp.isPush <;> simp [hid, hp, Ne.symm hid]

namespace State

variable {s : State}

theorem notificationsOf_offLine {o : Occurrence} (ho : o.offLine = true) : s.notificationsOf o = [] := by
  cases o with
  | push a =>
    simp only [notificationsOf]
    cases s.pushStage with
    | none => rfl
    | some stage => exact PushStage.notifications_of_offLine ho
  | _ => rfl

theorem notificationsOf_connected (r : Except ConnectionError Unit) :
    s.notificationsOf (.push (.connected r)) = [] := by
  simp only [notificationsOf]
  cases s.pushStage with
  | none => rfl
  | some stage => cases stage <;> rfl

/-- **A read while listening publishes the notification of the frame it read**, if that frame
is one. -/
theorem notificationsOf_received {l : Line} (d : Duration) (hstage : s.pushStage = some .listening) :
    s.notificationsOf (.push (.received (l.recvText d).1)) =
      ((l.readTo (l.recvText d).2).map (Delivery.mk none)).filterMap Delivery.notification? := by
  rw [Line.readTo_recvText]
  simp only [notificationsOf, hstage]
  generalize (l.recvText d).1 = r
  cases r with
  | error err => simp [Except.toOption, PushStage.notifications]
  | ok text => simpa [Except.toOption] using (Delivery.notification?_listening text).symm

/-- While a request waits, each notification handed on is published as it comes and leaves the
push side as it was; the outcome publishes nothing. -/
theorem notificationsAlong_notified {stage : PushStage} (hstage : s.pushStage = some stage)
    (hreq : stage.requesting = true) (outcome : Except RequestError Response) :
    ∀ objs : List (List ObjectData),
      s.notificationsAlong ((objs.map Answer.notified ++ [Answer.answered outcome]).map .push) = objs
  | [] => by
    simp only [List.map_nil, List.nil_append, List.map_cons, notificationsAlong, notificationsOf,
      hstage, List.append_nil]
    cases stage <;> simp_all [PushStage.requesting, PushStage.notifications]
  | o :: objs => by
    have hocc : s.occur (.push (.notified o)) = (s, [.publish .push (.push o)]) := by
      cases stage <;> simp_all [occur, admits, Answer.reportsCancel, pushStep, PushStage.requesting]
    have hnote : s.notificationsOf (.push (.notified o)) = [o] := by
      cases stage <;> simp_all [notificationsOf, PushStage.notifications, PushStage.requesting]
    simp only [List.map_cons, List.cons_append, notificationsAlong, hocc, hnote,
      notificationsAlong_notified hstage hreq outcome objs, List.nil_append]

/-- **A request publishes the notifications of the frames it read**, in order: those under ids
other than its own. -/
theorem notificationsAlong_request {stage : PushStage} (hstage : s.pushStage = some stage)
    (hreq : stage.requesting = true) {x : Exchange} (hroute : x.correlator.routesPushes = true)
    (hpushes : x.pushes = #[]) (command condition : String) (objects : List ObjectQuery) :
    s.notificationsAlong ((Answer.ofRequest (x.request command condition objects)).map .push) =
      ((x.line.readTo (x.request command condition objects).2.line).map
        (Delivery.mk (some x.freshId.1))).filterMap Delivery.notification? := by
  obtain ⟨used, hsplit, hpush⟩ := x.request_used command condition objects
  have hnotes := notificationsAlong_notified hstage hreq (x.request command condition objects).1
    ((x.request command condition objects).2.pushes.toList.map (·.objects))
  simp only [List.map_map, Function.comp_def] at hnotes
  rw [Answer.ofRequest, hnotes, hpush, hpushes, hroute, Line.readTo_of_used hsplit, if_pos rfl,
    Array.toList_empty, List.nil_append, List.map_filterMap, List.filterMap_map]
  exact List.filterMap_congr fun text _ => Delivery.notification?_routed _ text

end State

/-- **Every notification is published once, in order.** Along every run of the poller whose
push side talks over a scripted connection, reconnecting, resynchronising and reading frames
both while its requests wait and while it listens, the notifications published are exactly,
in order, those of the frames delivered on the push connection that decode as notifications
under an id other than the one awaited when they were read; no other frame publishes one. The
induction is on the run, one step lemma for each way the push side is answered. -/
theorem notifications_published_once_in_order {s t : State} {l l' : Line}
    {delivered : List Delivery} {effects : List Effect} (h : PushRun s l delivered effects t l') :
    effects.filterMap Effect.pushed? = delivered.filterMap Delivery.notification? := by
  induction h with
  | stop => rfl
  | world ho _ ih =>
    rw [List.filterMap_append, State.pushed_occur, State.notificationsOf_offLine ho, ih]
    rfl
  | connect r l₁ _ ih =>
    rw [List.filterMap_append, State.pushed_occur, State.notificationsOf_connected, ih]
    rfl
  | listen d hstage _ ih =>
    rw [List.filterMap_append, State.pushed_occur, State.notificationsOf_received d hstage,
      List.filterMap_append, ih]
  | request x command condition objects hstage hreq hline hroute hpushes _ _ ih =>
    subst hline
    rw [List.filterMap_append, State.pushed_run,
      State.notificationsAlong_request hstage hreq hroute hpushes, List.filterMap_append, ih]

/-- A notification heard while the push side listens is delivered and published. -/
theorem notification_published_while_listening :
    ∃ (ds : List Delivery) (es : List Effect) (t : State) (l' : Line),
      PushRun { State.start {} with pushStage := some .listening }
        { link := { endpoint := default, policy := {}, session := true }
          peer := { frames := [.push (.array []) "n1"] } }
        ds es t l' ∧
      ds.length = 1 ∧ es.filterMap Effect.pushed? = ds.filterMap Delivery.notification? :=
  have h := PushRun.listen (s := { State.start {} with pushStage := some .listening })
    (l := { link := { endpoint := default, policy := {}, session := true }
            peer := { frames := [.push (.array []) "n1"] } })
    (State.start {}).config.listenTimeout rfl (.stop _ _)
  ⟨_, _, _, _, h, by decide, notifications_published_once_in_order h⟩

end Poller

end PoolMonitor
