/-
  The worker's thread waits for a payload or for `_dont_terminate`: the loop of
  AgentSubscriptionUdpWorker.cpp, the push of the receiver, and `del_worker` with `setTerminate`
  of `_cleanupSubscriptionUdpWorker` (AgentServer.cpp), which joins the thread.

  An event is one atomic step of the worker, the receiver or the canceller. The worker has the
  mutex `_m` from the test of its predicate until it waits; `setTerminate` changes the predicate
  and notifies without it. `notify_one` wakes the worker only if it is parked, and nothing else
  wakes it. The receiver holds `_udpreceiver_mutex` while it delivers, so `del_worker` finds it
  idle.

  * `stuck_of_lostWakeup`: a worker that is parked after `setTerminate` stays so.
  * `safe_iff_meets`: this is reached in no state, and the join returns, exactly if the worker is
    never between its test and its wait when `setTerminate` notifies.
-/
import TelemetryAgent.Lib.Run
import TelemetryAgent.Udp.Receiver

namespace TelemetryAgent

open Lib

/-! ## The three threads -/

/-- Where the worker is. It has the mutex in `test`, `wait` and `body`. -/
inductive WorkerPc
  | outer
  | lock
  | test
  | wait
  | parked
  | notified
  | body
  | finished
  deriving DecidableEq, Repr

/-- The receiver has pushed and has the mutex, or has unlocked it and is about to notify. -/
inductive ReceiverPc
  | idle
  | holding
  | notifying
  deriving DecidableEq, Repr

/-- The statements of `_cleanupSubscriptionUdpWorker` that the worker can notice. -/
inductive CancellerPc
  | registered
  | removed
  | flagged
  | terminated
  | joined
  deriving DecidableEq, Repr

structure UdpWorkerThreads where
  worker : AgentSubscriptionUdpWorker
  pc : WorkerPc := .outer
  receiver : ReceiverPc := .idle
  canceller : CancellerPc := .registered
  deriving DecidableEq

inductive WakeupEvent
  | worker
  | push (vec : List UInt8)
  | unlock
  | notify
  | delWorker
  | clearFlag
  | notifyTerminate
  | join
  deriving DecidableEq

/-- What the worker does under the mutex once it need not wait: the front is counted and
    popped, whatever `_dont_terminate` is. -/
def AgentSubscriptionUdpWorker.body (w : AgentSubscriptionUdpWorker) :
    AgentSubscriptionUdpWorker :=
  match w.q with
  | [] => w
  | vec :: q => { w with
      q := q
      totalPktRecvd := w.totalPktRecvd + 1
      messages := w.messages.increment 1 vec.length }

/-- A pass of the loop in Udp/Receiver is one of this body. -/
theorem AgentSubscriptionUdpWorker.body_of_next {w w' : AgentSubscriptionUdpWorker}
    {vec : List UInt8} (h : w.next = some (vec, w')) : w.body = w' := by
  unfold next at h
  split at h
  · split at h
    · exact absurd h (by simp)
    · next hq =>
      rw [body, hq]
      exact (Prod.mk.inj (Option.some.inj h)).2
  · exact absurd h (by simp)

namespace UdpWorkerThreads

def new (id systemHandle : Nat) (pathList : List String) : UdpWorkerThreads where
  worker := .new id systemHandle pathList

def workerHolds (s : UdpWorkerThreads) : Bool :=
  s.pc = .test || s.pc = .wait || s.pc = .body

/-- `notify_one` -/
def notifyOne (s : UdpWorkerThreads) : UdpWorkerThreads :=
  if s.pc = .parked then { s with pc := .notified } else s

/-- The next statement of the worker. It is blocked if it has no next one now. -/
def workerStep (s : UdpWorkerThreads) : Option UdpWorkerThreads :=
  match s.pc with
  | .outer => some { s with pc := if s.worker.dontTerminate then .lock else .finished }
  | .lock | .notified => if s.receiver = .holding then none else some { s with pc := .test }
  | .test =>
    some { s with pc := if s.worker.q = [] ∧ s.worker.dontTerminate then .wait else .body }
  | .wait => some { s with pc := .parked }
  | .body => some { s with worker := s.worker.body, pc := .outer }
  | .parked | .finished => none

def step (s : UdpWorkerThreads) : WakeupEvent → Option UdpWorkerThreads
  | .worker => s.workerStep
  | .push vec =>
    if s.canceller = .registered ∧ s.receiver = .idle ∧ s.workerHolds = false then
      some { s with worker := s.worker.push vec, receiver := .holding }
    else none
  | .unlock => if s.receiver = .holding then some { s with receiver := .notifying } else none
  | .notify =>
    if s.receiver = .notifying then some { s.notifyOne with receiver := .idle } else none
  | .delWorker =>
    if s.canceller = .registered ∧ s.receiver = .idle then some { s with canceller := .removed }
    else none
  | .clearFlag =>
    if s.canceller = .removed then
      some { s with worker := s.worker.setTerminate, canceller := .flagged }
    else none
  | .notifyTerminate =>
    if s.canceller = .flagged then some { s.notifyOne with canceller := .terminated } else none
  | .join =>
    if s.canceller = .terminated ∧ s.pc = .finished then some { s with canceller := .joined }
    else none

/-- `setTerminate` has returned, and the worker is parked with no notification. -/
def LostWakeup (s : UdpWorkerThreads) : Prop := s.canceller = .terminated ∧ s.pc = .parked

/-- The worker comes to its end by its own steps. -/
def Ends (s : UdpWorkerThreads) : Prop :=
  ∃ n t, run step s (List.replicate n .worker) = some t ∧ t.pc = .finished

/-- The worker is not parked after `setTerminate`, and then the join returns. -/
structure Safe (s : UdpWorkerThreads) : Prop where
  notLost : ¬ LostWakeup s
  joins : s.canceller = .terminated → Ends s

/-- When `setTerminate` notifies, the worker is not between its test and its wait. -/
def NotInGap (s : UdpWorkerThreads) (e : WakeupEvent) : Prop :=
  e = .notifyTerminate → s.canceller = .flagged → s.pc ≠ .wait

/-! ## What every run keeps -/

/-- The flag is as the canceller has left it, and a worker that is removed gets no payload. -/
structure Coherent (s : UdpWorkerThreads) : Prop where
  flag : s.worker.dontTerminate = true ↔ s.canceller = .registered ∨ s.canceller = .removed
  receiver : s.canceller ≠ .registered → s.receiver = .idle

theorem coherent_new (id systemHandle : Nat) (pathList : List String) :
    Coherent (new id systemHandle pathList) where
  flag := by simp [new, AgentSubscriptionUdpWorker.new]
  receiver h := absurd rfl h

theorem dontTerminate_body (w : AgentSubscriptionUdpWorker) :
    w.body.dontTerminate = w.dontTerminate := by
  unfold AgentSubscriptionUdpWorker.body
  split <;> rfl

/-- The worker's step leaves the flag and the other threads. -/
theorem workerStep_frame {s s' : UdpWorkerThreads} (h : s.workerStep = some s') :
    s'.worker.dontTerminate = s.worker.dontTerminate ∧ s'.receiver = s.receiver ∧
      s'.canceller = s.canceller := by
  unfold workerStep at h
  cases hpc : s.pc with
  | outer | test | wait =>
    rw [hpc] at h
    obtain rfl := Option.some.inj h
    exact ⟨rfl, rfl, rfl⟩
  | lock | notified =>
    simp only [hpc, Option.ite_none_left_eq_some, Option.some.injEq] at h
    obtain ⟨-, rfl⟩ := h
    exact ⟨rfl, rfl, rfl⟩
  | body =>
    rw [hpc] at h
    obtain rfl := Option.some.inj h
    exact ⟨dontTerminate_body s.worker, rfl, rfl⟩
  | parked | finished =>
    rw [hpc] at h
    exact absurd h (Option.some_ne_none s').symm

@[simp] theorem notifyOne_worker (s : UdpWorkerThreads) : s.notifyOne.worker = s.worker := by
  unfold notifyOne
  split <;> rfl

@[simp] theorem notifyOne_receiver (s : UdpWorkerThreads) :
    s.notifyOne.receiver = s.receiver := by
  unfold notifyOne
  split <;> rfl

@[simp] theorem notifyOne_canceller (s : UdpWorkerThreads) :
    s.notifyOne.canceller = s.canceller := by
  unfold notifyOne
  split <;> rfl

/-- Nobody is parked after a notification. -/
theorem notifyOne_pc_ne (s : UdpWorkerThreads) : s.notifyOne.pc ≠ .parked := by
  unfold notifyOne
  split
  · simp
  · assumption

theorem notifyOne_pc_eq_wait_iff (s : UdpWorkerThreads) :
    s.notifyOne.pc = .wait ↔ s.pc = .wait := by
  unfold notifyOne
  split
  · next h => simp [h]
  · rfl

theorem coherent_step {s s' : UdpWorkerThreads} {e : WakeupEvent} (hs : Coherent s)
    (h : step s e = some s') : Coherent s' := by
  cases e with
  | worker =>
    obtain ⟨hflag, hreceiver, hcanceller⟩ := workerStep_frame h
    exact ⟨by rw [hflag, hcanceller]; exact hs.flag,
      by rw [hreceiver, hcanceller]; exact hs.receiver⟩
  | push vec =>
    simp only [step, Option.ite_none_right_eq_some, Option.some.injEq] at h
    obtain ⟨⟨hregistered, -, -⟩, rfl⟩ := h
    exact ⟨hs.flag, fun hne => absurd hregistered hne⟩
  | unlock =>
    simp only [step, Option.ite_none_right_eq_some, Option.some.injEq] at h
    obtain ⟨hholding, rfl⟩ := h
    refine ⟨hs.flag, fun hne => ?_⟩
    rw [hs.receiver hne] at hholding
    exact ReceiverPc.noConfusion hholding
  | notify =>
    simp only [step, Option.ite_none_right_eq_some, Option.some.injEq] at h
    obtain ⟨-, rfl⟩ := h
    exact ⟨by simpa using hs.flag, fun _ => rfl⟩
  | delWorker =>
    simp only [step, Option.ite_none_right_eq_some, Option.some.injEq] at h
    obtain ⟨⟨hregistered, hidle⟩, rfl⟩ := h
    exact ⟨by simpa [hregistered] using hs.flag, fun _ => hidle⟩
  | clearFlag =>
    simp only [step, Option.ite_none_right_eq_some, Option.some.injEq] at h
    obtain ⟨hremoved, rfl⟩ := h
    refine ⟨by simp [AgentSubscriptionUdpWorker.setTerminate], fun _ => hs.receiver ?_⟩
    rw [hremoved]
    simp
  | notifyTerminate =>
    simp only [step, Option.ite_none_right_eq_some, Option.some.injEq] at h
    obtain ⟨hflagged, rfl⟩ := h
    refine ⟨by simpa [hflagged] using hs.flag, fun _ => ?_⟩
    rw [notifyOne_receiver]
    apply hs.receiver
    rw [hflagged]
    simp
  | join =>
    simp only [step, Option.ite_none_right_eq_some, Option.some.injEq] at h
    obtain ⟨⟨hterminated, -⟩, rfl⟩ := h
    refine ⟨by simpa [hterminated] using hs.flag, fun _ => hs.receiver ?_⟩
    rw [hterminated]
    simp

/-! ## After `setTerminate` -/

theorem Coherent.dontTerminate_eq_false {s : UdpWorkerThreads} (hs : Coherent s)
    (h : s.canceller = .terminated) : s.worker.dontTerminate = false := by
  rw [← Bool.not_eq_true, hs.flag, h]
  simp

/-- No event is possible any more: the join does not return. -/
theorem stuck_of_lostWakeup {s : UdpWorkerThreads} (hs : Coherent s) (h : LostWakeup s)
    (e : WakeupEvent) : step s e = none := by
  obtain ⟨hterminated, hparked⟩ := h
  have hidle : s.receiver = .idle := hs.receiver (by simp [hterminated])
  cases e with
  | worker =>
    rw [step, workerStep, hparked]
  | push vec | unlock | notify | delWorker | clearFlag | notifyTerminate | join =>
    simp [step, hterminated, hparked, hidle]

theorem Ends.of_step {s : UdpWorkerThreads} (s' : UdpWorkerThreads)
    (hstep : step s .worker = some s') (h : Ends s') : Ends s := by
  obtain ⟨n, t, ht, hfinished⟩ := h
  exact ⟨n + 1, t, run_cons_eq_some.mpr ⟨s', hstep, ht⟩, hfinished⟩

theorem Ends.cases {s : UdpWorkerThreads} (h : Ends s) :
    s.pc = .finished ∨ ∃ s', step s .worker = some s' ∧ Ends s' := by
  obtain ⟨n, t, ht, hfinished⟩ := h
  cases n with
  | zero =>
    obtain rfl := Option.some.inj ht
    exact .inl hfinished
  | succ n =>
    obtain ⟨s', hstep, ht'⟩ := run_cons_eq_some.mp ht
    exact .inr ⟨s', hstep, n, t, ht', hfinished⟩

theorem ends_of_finished {s : UdpWorkerThreads} (h : s.pc = .finished) : Ends s := ⟨0, s, rfl, h⟩

theorem ends_of_outer {s : UdpWorkerThreads} (hflag : s.worker.dontTerminate = false)
    (h : s.pc = .outer) : Ends s := by
  refine .of_step { s with pc := .finished } ?_ (ends_of_finished rfl)
  simp [step, workerStep, h, hflag]

theorem ends_of_body {s : UdpWorkerThreads} (hflag : s.worker.dontTerminate = false)
    (h : s.pc = .body) : Ends s := by
  refine .of_step { s with worker := s.worker.body, pc := .outer } ?_ ?_
  · simp [step, workerStep, h]
  · exact ends_of_outer ((dontTerminate_body s.worker).trans hflag) rfl

theorem ends_of_test {s : UdpWorkerThreads} (hflag : s.worker.dontTerminate = false)
    (h : s.pc = .test) : Ends s := by
  refine .of_step { s with pc := .body } ?_ (ends_of_body hflag rfl)
  simp [step, workerStep, h, hflag]

theorem ends_of_lock {s : UdpWorkerThreads} (hflag : s.worker.dontTerminate = false)
    (hidle : s.receiver = .idle) (h : s.pc = .lock ∨ s.pc = .notified) : Ends s := by
  refine .of_step { s with pc := .test } ?_ (ends_of_test hflag rfl)
  obtain h | h := h
  · simp [step, workerStep, h, hidle]
  · simp [step, workerStep, h, hidle]

/-- A worker that is told to stop does so, unless it waits. -/
theorem ends_of_terminated {s : UdpWorkerThreads} (hs : Coherent s)
    (h : s.canceller = .terminated) (hwait : s.pc ≠ .wait) (hparked : s.pc ≠ .parked) :
    Ends s := by
  have hidle : s.receiver = .idle := hs.receiver (by simp [h])
  have hflag := hs.dontTerminate_eq_false h
  cases hpc : s.pc with
  | outer => exact ends_of_outer hflag hpc
  | lock => exact ends_of_lock hflag hidle (.inl hpc)
  | test => exact ends_of_test hflag hpc
  | wait => exact absurd hpc hwait
  | parked => exact absurd hpc hparked
  | notified => exact ends_of_lock hflag hidle (.inr hpc)
  | body => exact ends_of_body hflag hpc
  | finished => exact ends_of_finished hpc

theorem not_ends_of_parked {s : UdpWorkerThreads} (h : s.pc = .parked) : ¬ Ends s := by
  intro hends
  rcases hends.cases with hfinished | ⟨s', hstep, -⟩
  · rw [h] at hfinished
    exact WorkerPc.noConfusion hfinished
  · simp [step, workerStep, h] at hstep

theorem not_ends_of_wait {s : UdpWorkerThreads} (h : s.pc = .wait) : ¬ Ends s := by
  intro hends
  rcases hends.cases with hfinished | ⟨s', hstep, hends'⟩
  · rw [h] at hfinished
    exact WorkerPc.noConfusion hfinished
  · simp only [step, workerStep, h, Option.some.injEq] at hstep
    subst hstep
    exact not_ends_of_parked rfl hends'

/-! ## Runs -/

/-- After `setTerminate` the worker neither waits nor is about to. -/
structure InTime (s : UdpWorkerThreads) : Prop where
  coherent : Coherent s
  notWaiting : s.canceller = .terminated → s.pc ≠ .wait ∧ s.pc ≠ .parked

theorem InTime.safe {s : UdpWorkerThreads} (hs : InTime s) : Safe s where
  notLost h := (hs.notWaiting h.1).2 h.2
  joins h := ends_of_terminated hs.coherent h (hs.notWaiting h).1 (hs.notWaiting h).2

/-- A step of the worker that begins or ends a wait needs the flag, or a mutex in its hands. -/
theorem workerStep_notWaiting {s s' : UdpWorkerThreads}
    (hflag : s.worker.dontTerminate = false) (hwait : s.pc ≠ .wait)
    (h : s.workerStep = some s') : s'.pc ≠ .wait ∧ s'.pc ≠ .parked := by
  unfold workerStep at h
  cases hpc : s.pc with
  | outer | test =>
    simp only [hpc, hflag, Option.some.injEq] at h
    subst h
    simp
  | lock | notified =>
    simp only [hpc, Option.ite_none_left_eq_some, Option.some.injEq] at h
    obtain ⟨-, rfl⟩ := h
    simp
  | body =>
    simp only [hpc, Option.some.injEq] at h
    subst h
    simp
  | wait => exact absurd hpc hwait
  | parked | finished =>
    rw [hpc] at h
    exact absurd h (Option.some_ne_none s').symm

theorem inTime_step {s s' : UdpWorkerThreads} {e : WakeupEvent} (hs : InTime s)
    (hc : NotInGap s e) (h : step s e = some s') : InTime s' := by
  refine ⟨coherent_step hs.coherent h, fun hterminated => ?_⟩
  cases e with
  | worker =>
    have hcanceller : s.canceller = .terminated := by
      rw [← (workerStep_frame h).2.2]
      exact hterminated
    have hflag := hs.coherent.dontTerminate_eq_false hcanceller
    exact workerStep_notWaiting hflag (hs.notWaiting hcanceller).1 h
  | push vec | unlock =>
    simp only [step, Option.ite_none_right_eq_some, Option.some.injEq] at h
    obtain ⟨-, rfl⟩ := h
    exact hs.notWaiting hterminated
  | delWorker | clearFlag | join =>
    simp only [step, Option.ite_none_right_eq_some, Option.some.injEq] at h
    obtain ⟨-, rfl⟩ := h
    exact CancellerPc.noConfusion hterminated
  | notify =>
    simp only [step, Option.ite_none_right_eq_some, Option.some.injEq] at h
    obtain ⟨-, rfl⟩ := h
    have hbefore := hs.notWaiting (by simpa using hterminated)
    exact ⟨fun hw => hbefore.1 ((notifyOne_pc_eq_wait_iff s).mp hw), notifyOne_pc_ne s⟩
  | notifyTerminate =>
    simp only [step, Option.ite_none_right_eq_some, Option.some.injEq] at h
    obtain ⟨hflagged, rfl⟩ := h
    exact ⟨fun hw => hc rfl hflagged ((notifyOne_pc_eq_wait_iff s).mp hw), notifyOne_pc_ne s⟩

/-- A notification in the gap is lost. -/
theorem notInGap_of_safe {s s' : UdpWorkerThreads} {e : WakeupEvent}
    (h : step s e = some s') (hsafe : Safe s') : NotInGap s e := by
  rintro rfl - hwait
  simp only [step, Option.ite_none_right_eq_some, Option.some.injEq] at h
  obtain ⟨-, rfl⟩ := h
  have hends := hsafe.joins rfl
  refine absurd hends (not_ends_of_wait ?_)
  exact (notifyOne_pc_eq_wait_iff s).mpr hwait

/-- For every worker and every interleaving: in each state reached a worker that was told to
    stop is not parked and the join returns, exactly if `setTerminate` never notifies while the
    worker is between its test and its wait. -/
theorem safe_iff_meets (id systemHandle : Nat) (pathList : List String)
    (es : List WakeupEvent) :
    (∀ pre suf t, es = pre ++ suf → run step (new id systemHandle pathList) pre = some t →
        Safe t) ↔
      Meets step NotInGap (new id systemHandle pathList) es := by
  have hs : InTime (new id systemHandle pathList) :=
    ⟨coherent_new id systemHandle pathList, fun h => CancellerPc.noConfusion h⟩
  refine forall_reached_iff_meets (fun _ => InTime.safe) (fun _ _ _ => inTime_step)
    (fun _ _ _ _ => notInGap_of_safe) ?_ hs es
  rintro s e - hnone rfl hflagged
  simp [step, hflagged] at hnone

/-- The worker has found the queue empty; then `setTerminate` comes, and then the worker waits. -/
def lostRun : List WakeupEvent :=
  [.worker, .worker, .worker, .delWorker, .clearFlag, .notifyTerminate, .worker]

theorem lostWakeup_reachable : ¬ ∀ (id systemHandle : Nat) (pathList : List String)
    (es : List WakeupEvent) (t : UdpWorkerThreads),
    run step (new id systemHandle pathList) es = some t → ¬ LostWakeup t := by
  intro h
  exact h 1 0 [] lostRun _ rfl ⟨rfl, rfl⟩

end UdpWorkerThreads

end TelemetryAgent
