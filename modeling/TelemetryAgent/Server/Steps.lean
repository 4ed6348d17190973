/-
  What a step can do to one call.

  `Control r r'`: how the threads of `telemetrySubscribe` and of the tear-downs change the
  record of a call. Datagrams, passes of the UDP workers and messages from the bus are the
  data plane; `step_datagram`, `workerStep_eq_some` and `step_message` say what they do.
  `control_of_step` and `quiet_step` hold of every step, without a condition on it, so
  what is derived from them holds in every run.
-/
import TelemetryAgent.Server.Ownership

namespace TelemetryAgent

open Std TelemetryAgent.Lib

variable {σ : Type}

namespace AgentServer

open SubscribeCall

/-- One step of the control plane, seen from one call. `tearDown` is any part of a
    tear-down: the worker is told to terminate (`t`), the subscription switched off (`a`), the call
    done. -/
inductive Control (env : Environment σ) : SubscribeCall → SubscribeCall → Prop where
  | same (r : SubscribeCall) : Control env r r
  | reject (r : SubscribeCall) (request : SubscriptionRequest) (reply : SubscriptionReply)
      (hpc : r.pc = .idle) :
      Control env r { r with
        request := request, pc := .done, stream := r.stream ++ [.initResponse reply] }
  | allocate (r : SubscribeCall) (request : SubscriptionRequest) (id : Nat) (hpc : r.pc = .idle) :
      Control env r { r with request := request, pc := .allocated, id := id }
  | addRequest (r : SubscribeCall) (handle : HandlePtr) (accepted : SubscriptionRequest)
      (hc : accepted.additionalConfig = r.request.additionalConfig) (hpc : r.pc = .allocated) :
      Control env r { r with pc := .added, systemHandle := handle, accepted := accepted }
  | createSubscription (r : SubscribeCall) (active : Bool) (hpc : r.pc = .added) :
      Control env r { r with
        pc := .created
        sub := AgentSubscription.createSubscription r.id r.systemHandle (finalPathList r)
          (AgentSubscription.limitsOf r.accepted.additionalConfig) active }
  | createSubscriptionUdpWorker (r : SubscribeCall) (hpc : r.pc = .created) :
      Control env r { r with
        pc := .workerCreated
        worker := AgentSubscriptionUdpWorker.new r.id r.systemHandle (finalPathList r) }
  | addWorker (r : SubscribeCall) (hpc : r.pc = .workerCreated) :
      Control env r { r with pc := .mapping 0 }
  | addMapping (r : SubscribeCall) (k : Nat) (hpc : r.pc = .mapping k) :
      Control env r { r with pc := .mapping (k + 1) }
  | sendResponse (r : SubscribeCall) (reply : SubscriptionReply)
      (hpc : r.pc = .created ∨ ∃ k, r.pc = .mapping k) :
      Control env r { r with pc := .metaSent, stream := r.stream ++ [.initResponse reply] }
  | enable (r : SubscribeCall) (hpc : r.pc = .metaSent) :
      Control env r { r with pc := .enabled, sub := r.sub.enable }
  | setActive (r : SubscribeCall) (hpc : r.pc = .enabled) :
      Control env r { r with pc := .streaming, sub := r.sub.setActive true }
  | disconnect (r : SubscribeCall) : Control env r { r with isCancelled := true }
  | tearDown (r : SubscribeCall) (t a : Bool) (pc : Pc)
      (hpc : pc = r.pc ∨ (r.pc = .streaming ∧ pc = .done)) :
      Control env r { r with
        pc := pc
        worker := if t then r.worker.setTerminate else r.worker
        sub := if a then r.sub.disconnect.setActive false else r.sub }

def Event.control : Event → Bool
  | .datagram _ => false
  | .workerStep _ => false
  | .message _ _ _ => false
  | _ => true

variable {env : Environment σ} {s s' : AgentServer σ} {c : CallId}

theorem live_of_same {r r' : SubscribeCall} (hpc : r'.pc = r.pc)
    (hactive : r'.sub.active = true → r.sub.active = true) :
    r'.live = true → r.live = true := by
  unfold live
  rw [hpc]
  cases r.pc with
  | streaming => exact hactive
  | _ => exact id

/-- Only the request brings a call to life. -/
theorem live_of_control {r r' : SubscribeCall} (hc : Control env r r') (hidle : r.pc ≠ .idle)
    (hl : r'.live = true) : r.live = true := by
  cases hc with
  | same => exact hl
  | disconnect => exact hl
  | reject _ _ hpc => exact absurd hpc hidle
  | allocate _ _ hpc => exact absurd hpc hidle
  | tearDown t a pc hpc =>
    obtain rfl | ⟨-, rfl⟩ := hpc
    · cases a with
      | false => exact hl
      | true =>
        refine live_of_same ?_ (fun hact => ?_) hl
        · rfl
        · exact absurd hact Bool.false_ne_true
    · exact absurd hl Bool.false_ne_true
  | sendResponse reply hpc =>
    obtain hpc | ⟨k, hpc⟩ := hpc
    · exact live_of_rank (by rw [hpc]; decide) (by rw [hpc]; decide)
    · exact live_of_rank (by simp [hpc, Pc.rank]) (by simp [hpc, Pc.rank])
  | _ =>
    rename_i hpc
    exact live_of_rank (by simp [hpc, Pc.rank]) (by simp [hpc, Pc.rank])

/-- A step that updates the record of one call. -/
theorem control_update {r : SubscribeCall} (h : Control env (s.calls c) r) (x : CallId) :
    Control env (s.calls x) (Function.update s.calls c r x) := by
  refine (Function.forall_update_iff s.calls fun x => Control env (s.calls x)).mpr ⟨h, ?_⟩ x
  exact fun y _ => .same (s.calls y)

theorem control_allocate (hpc : (s.calls c).pc = .idle) (request : SubscriptionRequest)
    (x : CallId) : Control env (s.calls x) ((s.allocate c request).calls x) := by
  unfold allocate
  simp only [setCall, sendMetaDataInfo, Function.update_self, Function.update_idem]
  split
  · exact control_update (.reject _ _ _ hpc) x
  · split
    · exact control_update (.reject _ _ _ hpc) x
    · exact control_update (.allocate _ _ _ hpc) x

theorem additionalConfig_validate (s : AgentServer σ) (request : SubscriptionRequest) :
    (s.validate env request).1.additionalConfig = request.additionalConfig := by
  unfold validate
  split <;> rfl

theorem control_addRequest (hpc : (s.calls c).pc = .allocated) (x : CallId) :
    Control env (s.calls x) ((s.addRequest env c true).calls x) := by
  rw [addRequest_spec]
  refine control_update (.addRequest _ _ _ ?_ hpc) x
  exact additionalConfig_validate s _

variable (env) in
theorem calls_finish (s : AgentServer σ) (origin : Origin) (hpc : ∀ c, origin = .endOfStream c →
      (s.calls c).pc = .streaming) :
    (finish env s origin).2.calls = s.calls ∨ ∃ c pc, (pc = (s.calls c).pc ∨
      ((s.calls c).pc = .streaming ∧ pc = .done)) ∧
      (finish env s origin).2.calls = Function.update s.calls c { s.calls c with
        pc := pc, sub := (s.calls c).sub.disconnect.setActive false } := by
  cases origin with
  | endOfStream c =>
    refine Or.inr ⟨c, .done, Or.inr ⟨hpc c rfl, rfl⟩, ?_⟩
    simp only [finish, cleanupSubscription, deallocateId, setCall, Function.update_self,
      Function.update_idem]
  | cancel i =>
    cases hf : s.store[i]? with
    | none =>
      left
      simp only [finish, hf]
    | some c =>
      refine Or.inr ⟨c, (s.calls c).pc, Or.inl rfl, ?_⟩
      simp only [finish, hf, cleanupSubscription, deallocateId, setCall]

theorem control_finish (origin : Origin) (hpc : ∀ c, origin = .endOfStream c →
      (s.calls c).pc = .streaming) (x : CallId) :
    Control env (s.calls x) ((finish env s origin).2.calls x) := by
  obtain h | ⟨c, pc, hc, h⟩ := calls_finish env s origin hpc
  · rw [h]
    exact .same _
  · rw [h]
    exact control_update (.tearDown _ false true pc hc) x

theorem control_endOfStream (hpc : (s.calls c).pc = .streaming)
    (hs : s.endOfStream env c = some s') (x : CallId) : Control env (s.calls x) (s'.calls x) := by
  obtain ⟨-, -, ⟨-, -, rfl⟩ | ⟨-, -, rfl⟩ | ⟨-, rfl⟩⟩ := endOfStream_cases hs
  · exact .same _
  · exact control_finish _ (fun c' hc' => Origin.endOfStream.inj hc' ▸ hpc) x
  · exact control_update (.tearDown _ false false .done (Or.inr ⟨hpc, rfl⟩)) x

theorem control_proceed (hs : s.proceed env c = some s') (x : CallId) :
    Control env (s.calls x) (s'.calls x) := by
  obtain ⟨pc, hpc, hp⟩ := proceedStep_of_proceed hs
  cases hp with
  | addRequest => exact control_addRequest hpc x
  | createSubscription => exact control_update (.createSubscription _ _ hpc) x
  | createSubscriptionUdpWorker hudp =>
    exact control_update (.createSubscriptionUdpWorker _ hpc) x
  | sendResponse hudp => exact control_update (.sendResponse _ _ (Or.inl hpc)) x
  | addWorker => exact control_update (.addWorker _ hpc) x
  | addMapping k =>
    unfold addMapping
    simp only []
    split
    · exact control_update (.addMapping _ k hpc) x
    · exact control_update (.sendResponse _ _ (Or.inr ⟨k, hpc⟩)) x
  | enable => exact control_update (.enable _ hpc) x
  | setActive => exact control_update (.setActive _ hpc) x
  | endOfStream hs => exact control_endOfStream hpc hs x

/-- A tear-down by the stream's own thread is of a stream. -/
def Ending (s : AgentServer σ) : Prop :=
  ∀ c stage, s.cleanup = some ⟨.endOfStream c, stage⟩ → (s.calls c).pc = .streaming

theorem calls_setTerminate (s : AgentServer σ) (w x : CallId) :
    (s.setTerminate w).calls x = { s.calls x with
      worker := if decide (x = w) then (s.calls x).worker.setTerminate else (s.calls x).worker } := by
  unfold setTerminate setCall
  simp only []
  by_cases hx : x = w
  · rw [hx, Function.update_self, if_pos (decide_eq_true rfl)]
  · rw [Function.update_of_ne hx, if_neg (by simpa using hx)]

theorem control_cleanupStep (he : s.Ending) (hs : s.cleanupStep env = some s') (x : CallId) :
    Control env (s.calls x) (s'.calls x) := by
  obtain ⟨origin, w, k, -, rfl⟩ | ⟨origin, w, -, rfl⟩ | ⟨origin, w, hcl, -, rfl⟩ :=
    cleanupStep_cases hs
  · unfold unmap
    simp only []
    split
    · exact .same _
    · exact .same _
  · show Control env _ ((s.setTerminate w).calls x)
    rw [calls_setTerminate]
    exact .tearDown _ (decide (x = w)) false _ (Or.inl rfl)
  · exact control_finish (s := { s.deleteUdpSubscription w with cleanup := none }) origin
      (fun c ho => he c _ (ho ▸ hcl)) x

theorem control_of_step {e : Event} (he : s.Ending) (hctl : e.control = true)
    (hs : s.step env e = some s') (x : CallId) : Control env (s.calls x) (s'.calls x) := by
  cases e with
  | subscribe c request =>
    obtain ⟨hpc, rfl⟩ := step_subscribe hs
    exact control_allocate hpc request x
  | proceed c => exact control_proceed hs x
  | disconnect c => exact Option.some.inj hs ▸ control_update (.disconnect _) x
  | cancel i =>
    obtain ⟨-, ⟨-, -, rfl⟩ | ⟨w, -, -, rfl⟩ | ⟨-, rfl⟩⟩ := cancel_cases hs
    · exact .same _
    · exact .same _
    · exact control_finish _ (fun c h => absurd h (by simp)) x
  | cleanup => exact control_cleanupStep he hs x
  | datagram buf => exact absurd hctl (by simp [Event.control])
  | workerStep c => exact absurd hctl (by simp [Event.control])
  | message c now m => exact absurd hctl (by simp [Event.control])

/-! ## The data plane -/

theorem pushAll_apply (calls : CallId → SubscribeCall) (vec : List UInt8) (ws : List CallId)
    (x : CallId) : pushAll calls vec ws x = { calls x with
      worker := { (calls x).worker with
        q := (calls x).worker.q ++ List.replicate (ws.count x) vec } } := by
  induction ws generalizing calls with
  | nil => simp [pushAll]
  | cons w ws ih =>
    rw [pushAll, ih]
    by_cases hx : x = w
    · subst hx
      simp only [Function.update_self, AgentSubscriptionUdpWorker.push, List.count_cons_self,
        List.replicate_succ, List.append_assoc, List.singleton_append]
    · rw [Function.update_of_ne hx, List.count_cons_of_ne (Ne.symm hx)]

/-- The workers that a datagram is pushed to. -/
def reached (s : AgentServer σ) (buf : List UInt8) : List CallId := (s.udpreceiver.receive buf).1

theorem step_datagram {buf : List UInt8} (hs : s.step env (.datagram buf) = some s') :
    s' = { s with
      udpreceiver := (s.udpreceiver.receive buf).2
      calls := pushAll s.calls (UdpReceiver.payload buf) (s.reached buf) } := by
  simp only [step] at hs
  split at hs
  · exact (Option.some.inj hs).symm
  · exact absurd hs (by simp)

/-- What a message does to the subscription of call `c`, and whether it is written. -/
def handled (env : Environment σ) (s : AgentServer σ) (c : CallId) (now : Int)
    (m : MosquittoMessage) : Bool × AgentSubscription :=
  (s.calls c).sub.onMessage env.config env.translate
    (s.consolidator.getHandles (s.calls c).sub.systemSubscription) now m

theorem step_message {now : Int} {m : MosquittoMessage}
    (hs : s.step env (.message c now m) = some s') :
    (s.calls c).sub.connected = true ∧ s' = s.setCall c { s.calls c with
      sub := (s.handled env c now m).2
      stream := (s.calls c).stream ++
        if (s.handled env c now m).1 then [.record (.mqtt m)] else [] } := by
  simp only [step] at hs
  split at hs
  · refine ⟨‹_›, ?_⟩
    rw [← Option.some.inj hs]
    unfold message handled
    simp only []
    split
    · rfl
    · rw [List.append_nil]
  · exact absurd hs (by simp)

theorem live_of_update {r : SubscribeCall} {d : CallId} (hpc : r.pc = (s.calls d).pc)
    (hactive : r.sub.active = true → (s.calls d).sub.active = true)
    (hl : (Function.update s.calls d r c).live = true) : (s.calls c).live = true := by
  by_cases hc : c = d
  · rw [hc, Function.update_self] at hl
    rw [hc]
    exact live_of_same hpc hactive hl
  · rwa [Function.update_of_ne hc] at hl

/-- A call that has begun is not brought back to life. -/
theorem live_of_step {e : Event} (he : s.Ending) (hs : s.step env e = some s')
    (hpc : (s.calls c).pc ≠ .idle) (hl : (s'.calls c).live = true) :
    (s.calls c).live = true := by
  cases e with
  | datagram buf =>
    rw [step_datagram hs] at hl
    change (pushAll _ _ _ c).live = true at hl
    rw [pushAll_apply] at hl
    exact hl
  | workerStep d =>
    obtain ⟨vec, w, -, rfl⟩ := workerStep_eq_some hs
    refine live_of_update (d := d) ?_ (fun hactive => ?_) hl
    · rfl
    · exact hactive
  | message d now m =>
    obtain ⟨-, rfl⟩ := step_message hs
    refine live_of_update (d := d) ?_ (fun hactive => ?_) hl
    · rfl
    · rwa [← AgentSubscription.active_onMessage env.config env.translate _ _ now m]
  | _ => exact live_of_control (control_of_step he rfl hs c) hpc hl

/-- The records of a stream. -/
def records (l : List StreamEvent) : List Record :=
  l.filterMap fun
    | .initResponse _ => none
    | .record r => some r

@[simp] theorem records_append (l l' : List StreamEvent) :
    records (l ++ l') = records l ++ records l' := List.filterMap_append

@[simp] theorem records_initResponse (reply : SubscriptionReply) :
    records [.initResponse reply] = [] := rfl

@[simp] theorem records_record (r : Record) : records [.record r] = [r] := rfl

/-- The control plane writes no record. -/
theorem Control.records_eq {r r' : SubscribeCall} (h : Control env r r') :
    records r'.stream = records r.stream := by
  cases h with
  | reject => rw [records_append, records_initResponse, List.append_nil]
  | sendResponse => rw [records_append, records_initResponse, List.append_nil]
  | _ => rfl

/-! ## What holds in every run -/

theorem Control.rank_le {r r' : SubscribeCall} (h : Control env r r') :
    r.pc.rank ≤ r'.pc.rank := by
  cases h with
  | same => exact Nat.le_refl _
  | disconnect => exact Nat.le_refl _
  | sendResponse reply hpc =>
    obtain hpc | ⟨k, hpc⟩ := hpc
    · simp [hpc, Pc.rank]
    · simp [hpc, Pc.rank]
  | tearDown t a pc hpc =>
    obtain rfl | ⟨hpc, rfl⟩ := hpc
    · exact Nat.le_refl _
    · simp [hpc, Pc.rank]
  | _ =>
    rename_i hpc
    simp [hpc, Pc.rank]

/-- None of the threads pushes to the worker. -/
theorem Control.queue_nil {r r' : SubscribeCall} (hc : Control env r r') (hq : r.worker.q = []) :
    r'.worker.q = [] := by
  cases hc with
  | createSubscriptionUdpWorker hpc => rfl
  | tearDown t a pc hpc =>
    cases t with
    | false => exact hq
    | true => exact hq
  | _ => exact hq

/-- Nothing is queued or written before the worker is in the receiver, and the bus is
    connected when the reply has been sent. -/
structure Early (r : SubscribeCall) : Prop where
  queue : r.pc.rank < 5 → r.worker.q = []
  stream : r.pc.rank < 5 → r.stream = []
  connected : r.pc.rank < 7 → r.sub.connected = false

theorem Early.control {r r' : SubscribeCall} (h : Early r) (hc : Control env r r') : Early r' := by
  have hr := hc.rank_le
  refine ⟨fun h5 => ?_, fun h5 => ?_, fun h7 => ?_⟩
  · exact hc.queue_nil (h.queue (Nat.lt_of_le_of_lt hr h5))
  · have hs := h.stream (Nat.lt_of_le_of_lt hr h5)
    cases hc with
    | reject => exact absurd h5 (by simp [Pc.rank])
    | sendResponse => exact absurd h5 (by simp [Pc.rank])
    | _ => exact hs
  · have hs := h.connected (Nat.lt_of_le_of_lt hr h7)
    cases hc with
    | createSubscription active hpc => rfl
    | enable hpc => exact absurd h7 (by simp [Pc.rank])
    | tearDown t a pc hpc =>
      cases a with
      | false => exact hs
      | true => rfl
    | _ => exact hs

theorem mem_reached {buf : List UInt8} {w : CallId} (h : w ∈ s.reached buf) :
    ∃ e ∈ s.udpreceiver.extIds (UdpReceiver.header buf),
      s.udpreceiver.extIdWorkerStore[e]? = some w := by
  unfold reached at h
  rw [UdpReceiver.receive_fst] at h
  exact List.mem_filterMap.mp h

variable (env) in
theorem finish_keeps (s : AgentServer σ) (origin : Origin) :
    (finish env s origin).2.cleanup = s.cleanup ∧
      (finish env s origin).2.udpreceiver = s.udpreceiver := by
  unfold finish
  split
  · exact ⟨rfl, rfl⟩
  · split
    · exact ⟨rfl, rfl⟩
    · exact ⟨rfl, rfl⟩

/-- Before its stream a call only changes its own record, and registers its worker. -/
theorem proceed_cases (hs : s.proceed env c = some s') :
    ((s.calls c).pc = .streaming ∧ s.endOfStream env c = some s') ∨
    ((s.calls c).pc ≠ .streaming ∧ s'.cleanup = s.cleanup ∧
      (∃ r, s'.calls = Function.update s.calls c r) ∧
      (s'.udpreceiver.extIdWorkerStore = s.udpreceiver.extIdWorkerStore ∨
        ((s.calls c).pc = .workerCreated ∧
          s'.udpreceiver = s.udpreceiver.addWorker (s.calls c).sub.id c))) := by
  obtain ⟨pc, hpc, hp⟩ := proceedStep_of_proceed hs
  rw [hpc]
  cases hp with
  | addRequest =>
    rw [addRequest_spec]
    exact Or.inr ⟨by simp, rfl, ⟨_, rfl⟩, Or.inl rfl⟩
  | createSubscription | createSubscriptionUdpWorker | sendResponse | enable | setActive =>
    exact Or.inr ⟨by simp, rfl, ⟨_, rfl⟩, Or.inl rfl⟩
  | addWorker => exact Or.inr ⟨by simp, rfl, ⟨_, rfl⟩, Or.inr ⟨rfl, rfl⟩⟩
  | addMapping k =>
    unfold addMapping
    simp only []
    split
    · refine Or.inr ⟨by simp, rfl, ⟨_, rfl⟩, Or.inl ?_⟩
      exact UdpReceiver.workers_addMapping _ _ _
    · exact Or.inr ⟨by simp, rfl, ⟨_, rfl⟩, Or.inl rfl⟩
  | endOfStream hs => exact Or.inl ⟨rfl, hs⟩

/-- What holds in every state, whatever the cancels hit. -/
structure Quiet (s : AgentServer σ) : Prop where
  ending : s.Ending
  workers : ∀ (e : Nat) (w : CallId), s.udpreceiver.extIdWorkerStore[e]? = some w →
    5 ≤ (s.calls w).pc.rank
  early : ∀ c, Early (s.calls c)

theorem quiet_new (db : PathInformationDB) (x : σ) : Quiet (new db x) where
  ending c stage h := absurd h (by simp [new])
  workers e w h := absurd h (by simp [new, UdpReceiver.new])
  early c := ⟨fun _ => rfl, fun _ => rfl, fun _ => rfl⟩

/-- A step of the control plane that enters no worker in the receiver. -/
theorem Quiet.of_control (h : Quiet s)
    (hc : ∀ x, Control env (s.calls x) (s'.calls x)) (he : s'.Ending)
    (hw : ∀ (e : Nat) (w : CallId), s'.udpreceiver.extIdWorkerStore[e]? = some w →
      s.udpreceiver.extIdWorkerStore[e]? = some w ∨ 5 ≤ (s'.calls w).pc.rank) : Quiet s' where
  ending := he
  workers e w hs := by
    obtain hs | hs := hw e w hs
    · exact Nat.le_trans (h.workers e w hs) (hc w).rank_le
    · exact hs
  early x := (h.early x).control (hc x)

theorem Ending.of_cleanup_none (h : s.cleanup = none) : s.Ending := by
  intro c stage hcl
  rw [h] at hcl
  exact absurd hcl (by simp)

theorem Ending.of_update (h : s.Ending) (hpc : (s.calls c).pc ≠ .streaming) {r : SubscribeCall}
    (hcalls : s'.calls = Function.update s.calls c r) (hcl : s'.cleanup = s.cleanup) :
    s'.Ending := by
  intro x stage hx
  rw [hcl] at hx
  have hst := h x stage hx
  rw [hcalls, Function.update_of_ne]
  · exact hst
  · intro he
    exact hpc (he ▸ hst)

theorem ending_endOfStream (hpc : (s.calls c).pc = .streaming)
    (hs : s.endOfStream env c = some s') :
    s'.Ending ∧ s'.udpreceiver = s.udpreceiver := by
  obtain ⟨-, hcl, ⟨-, -, rfl⟩ | ⟨-, -, rfl⟩ | ⟨-, rfl⟩⟩ := endOfStream_cases hs
  · refine ⟨fun x stage hx => ?_, rfl⟩
    simp only [Option.some.injEq, Cleanup.mk.injEq, Origin.endOfStream.injEq] at hx
    rw [← hx.1]
    exact hpc
  · obtain ⟨h1, h2⟩ := finish_keeps env s (.endOfStream c)
    exact ⟨Ending.of_cleanup_none (h1.trans hcl), h2⟩
  · exact ⟨Ending.of_cleanup_none hcl, rfl⟩

theorem ending_cancel {i : Nat} (hs : s.cancel env i = some s') :
    s'.Ending ∧ s'.udpreceiver = s.udpreceiver := by
  obtain ⟨hcl, ⟨-, -, rfl⟩ | ⟨w, -, -, rfl⟩ | ⟨-, rfl⟩⟩ := cancel_cases hs
  · exact ⟨Ending.of_cleanup_none hcl, rfl⟩
  · exact ⟨fun x stage hx => absurd hx (by simp), rfl⟩
  · obtain ⟨h1, h2⟩ := finish_keeps env s (.cancel i)
    exact ⟨Ending.of_cleanup_none (h1.trans hcl), h2⟩

theorem ending_cleanupStep (h : s.Ending) (hs : s.cleanupStep env = some s') :
    s'.Ending ∧ ∀ (e : Nat) (w : CallId), s'.udpreceiver.extIdWorkerStore[e]? = some w →
      s.udpreceiver.extIdWorkerStore[e]? = some w := by
  obtain ⟨origin, w, k, hcl, rfl⟩ | ⟨origin, w, hcl, rfl⟩ | ⟨origin, w, -, -, rfl⟩ :=
    cleanupStep_cases hs
  · have ho : ∀ stage c st, some (Cleanup.mk origin stage) = some ⟨.endOfStream c, st⟩ →
        (s.calls c).pc = .streaming := by
      intro stage c st he
      simp only [Option.some.injEq, Cleanup.mk.injEq] at he
      exact h c _ (he.1 ▸ hcl)
    unfold unmap
    simp only []
    split
    · refine ⟨ho _, fun e x hx => ?_⟩
      rw [UdpReceiver.workers_delMapping] at hx
      exact hx
    · refine ⟨ho _, fun e x hx => ?_⟩
      rw [UdpReceiver.workers_delWorker, ExtTreeMap.getElem?_erase] at hx
      split at hx
      · exact absurd hx (by simp)
      · exact hx
  · refine ⟨fun c st he => ?_, fun e x hx => hx⟩
    simp only [Option.some.injEq, Cleanup.mk.injEq] at he
    exact (sameCore_setTerminate s w c).pc.trans (h c _ (he.1 ▸ hcl))
  · obtain ⟨h1, h2⟩ := finish_keeps env { s.deleteUdpSubscription w with cleanup := none } origin
    refine ⟨Ending.of_cleanup_none h1, fun e x hx => ?_⟩
    rw [h2] at hx
    exact hx

theorem Quiet.control_step (h : Quiet s) {e : Event} (he : e.control = true)
    (hs : s.step env e = some s') : Quiet s' := by
  have hc := control_of_step h.ending he hs
  cases e with
  | subscribe c request =>
    obtain ⟨hpc, rfl⟩ := step_subscribe hs
    have hne : (s.calls c).pc ≠ .streaming := by
      rw [hpc]
      simp
    obtain ⟨r, _, he⟩ | ⟨i, _, _, _, he⟩ := allocate_spec s c request
    · rw [he] at hc ⊢
      exact h.of_control hc (h.ending.of_update hne rfl rfl) fun e w hw => Or.inl hw
    · rw [he] at hc ⊢
      exact h.of_control hc (h.ending.of_update hne rfl rfl) fun e w hw => Or.inl hw
  | proceed c =>
    obtain ⟨hpc, hs'⟩ | ⟨hpc, hcl, ⟨r, hr⟩, hu⟩ := proceed_cases hs
    · obtain ⟨h1, h2⟩ := ending_endOfStream hpc hs'
      exact h.of_control hc h1 fun e w hw => Or.inl (h2 ▸ hw)
    · refine h.of_control hc (h.ending.of_update hpc hr hcl) fun e w hw => ?_
      obtain hu | ⟨hwc, hu⟩ := hu
      · exact Or.inl (hu ▸ hw)
      · rw [hu] at hw
        unfold UdpReceiver.addWorker at hw
        split at hw
        · exact Or.inl hw
        · simp only [ExtTreeMap.getElem?_insert] at hw
          split at hw
          · right
            rw [← Option.some.inj hw]
            simp only [step, proceed, hwc] at hs
            rw [← Option.some.inj hs]
            simp [addWorker, setCall, Pc.rank]
          · exact Or.inl hw
  | disconnect c =>
    rw [← Option.some.inj hs] at hc ⊢
    refine h.of_control hc (fun x stage hx => ?_) fun e w hw => Or.inl hw
    have hst := h.ending x stage hx
    by_cases hxc : x = c
    · subst hxc
      simp only [setCall, Function.update_self]
      exact hst
    · simp only [setCall, Function.update_of_ne hxc]
      exact hst
  | cancel i =>
    obtain ⟨h1, h2⟩ := ending_cancel hs
    exact h.of_control hc h1 fun e w hw => Or.inl (h2 ▸ hw)
  | cleanup =>
    obtain ⟨h1, h2⟩ := ending_cleanupStep h.ending hs
    exact h.of_control hc h1 fun e w hw => Or.inl (h2 e w hw)
  | datagram buf => exact absurd he (by simp [Event.control])
  | workerStep c => exact absurd he (by simp [Event.control])
  | message c now m => exact absurd he (by simp [Event.control])

/-- A step of the data plane: the tables stay, and no call moves. -/
theorem Quiet.of_data (h : Quiet s) (hcl : s'.cleanup = s.cleanup)
    (hw : s'.udpreceiver.extIdWorkerStore = s.udpreceiver.extIdWorkerStore)
    (hpc : ∀ x, (s'.calls x).pc = (s.calls x).pc) (he : ∀ x, Early (s'.calls x)) : Quiet s' where
  ending x stage hx := by
    rw [hpc]
    exact h.ending x stage (hcl ▸ hx)
  workers e w hs := by
    rw [hpc]
    exact h.workers e w (hw ▸ hs)
  early := he

theorem pc_update {r : SubscribeCall} (hr : r.pc = (s.calls c).pc) (x : CallId) :
    (Function.update s.calls c r x).pc = (s.calls x).pc := by
  refine (Function.forall_update_iff s.calls fun x r' => r'.pc = (s.calls x).pc).mpr ⟨hr, ?_⟩ x
  exact fun _ _ => rfl

/-- Such a step inside one call. -/
theorem Quiet.of_data_update (h : Quiet s) {r : SubscribeCall}
    (hcalls : s'.calls = Function.update s.calls c r) (hcl : s'.cleanup = s.cleanup)
    (hw : s'.udpreceiver.extIdWorkerStore = s.udpreceiver.extIdWorkerStore)
    (hpc : r.pc = (s.calls c).pc) (he : Early r) : Quiet s' := by
  refine h.of_data hcl hw (fun x => ?_) fun x => ?_
  · rw [hcalls]
    exact pc_update hpc x
  · rw [hcalls]
    exact (Function.forall_update_iff s.calls fun _ => Early).mpr ⟨he, fun y _ => h.early y⟩ x

theorem Quiet.datagram (h : Quiet s) {buf : List UInt8}
    (hs : s.step env (.datagram buf) = some s') : Quiet s' := by
  rw [step_datagram hs]
  refine h.of_data rfl (UdpReceiver.receive_stores s.udpreceiver buf).1 (fun x => ?_) fun x => ?_
  · show (pushAll _ _ _ x).pc = _
    rw [pushAll_apply]
  · show Early (pushAll _ _ _ x)
    rw [pushAll_apply]
    refine ⟨fun h5 => ?_, (h.early x).stream, (h.early x).connected⟩
    have hx : x ∉ s.reached buf := by
      intro hm
      obtain ⟨e, _, hw⟩ := mem_reached hm
      exact absurd (h.workers e x hw) (Nat.not_le_of_lt h5)
    show (s.calls x).worker.q ++ _ = []
    rw [(h.early x).queue h5, List.count_eq_zero_of_not_mem hx]
    rfl

/-- A worker that writes has left the set-up's first points. -/
theorem Quiet.rank_of_next (h : Quiet s) {vec : List UInt8} {w : AgentSubscriptionUdpWorker}
    (hn : (s.calls c).worker.next = some (vec, w)) : 5 ≤ (s.calls c).pc.rank := by
  obtain ⟨_, hq, _⟩ := AgentSubscriptionUdpWorker.next_eq_some hn
  by_contra hlt
  rw [(h.early c).queue (by omega)] at hq
  exact absurd hq (by simp)

theorem Quiet.workerStep (h : Quiet s) (hs : s.step env (.workerStep c) = some s') :
    Quiet s' := by
  obtain ⟨vec, w, hn, rfl⟩ := workerStep_eq_some hs
  have hr := h.rank_of_next hn
  exact h.of_data_update rfl rfl rfl rfl ⟨fun h5 => absurd hr (Nat.not_le_of_lt h5),
    fun h5 => absurd hr (Nat.not_le_of_lt h5), (h.early c).connected⟩

/-- A message only comes when the reply has been sent. -/
theorem Quiet.rank_of_connected (h : Quiet s) (hc : (s.calls c).sub.connected = true) :
    7 ≤ (s.calls c).pc.rank := by
  by_contra hlt
  rw [(h.early c).connected (by omega)] at hc
  exact absurd hc (by simp)

theorem Quiet.message (h : Quiet s) {now : Int} {m : MosquittoMessage}
    (hs : s.step env (.message c now m) = some s') : Quiet s' := by
  obtain ⟨hc, rfl⟩ := step_message hs
  have hr := h.rank_of_connected hc
  exact h.of_data_update rfl rfl rfl rfl
    ⟨fun h5 => absurd h5 (by show ¬ (s.calls c).pc.rank < 5; omega),
      fun h5 => absurd h5 (by show ¬ (s.calls c).pc.rank < 5; omega),
      fun h7 => absurd h7 (by show ¬ (s.calls c).pc.rank < 7; omega)⟩

theorem quiet_step {e : Event} (h : Quiet s) (hs : s.step env e = some s') : Quiet s' := by
  cases e with
  | datagram buf => exact h.datagram hs
  | workerStep c => exact h.workerStep hs
  | message c now m => exact h.message hs
  | _ => exact h.control_step rfl hs

theorem quiet_of_run {db : PathInformationDB} {x : σ} {es : List Event}
    (hr : run (step env) (new db x) es = some s) : Quiet s :=
  run_invariant_of_step (fun _ _ _ h hs => quiet_step h hs) (quiet_new db x) hr

/-! ## The path database and the consolidator -/

/-- What all calls use, beside the tables of the subscriptions. -/
def shared (s : AgentServer σ) : PathInformationDB × AgentConsolidator σ :=
  (s.pathInformationDb, s.consolidator)

/-- What a step can do to them: a request is validated and given to the consolidator, or the
    second half of a tear-down takes one from it. -/
inductive SharedStep (env : Environment σ) (s : AgentServer σ) : AgentServer σ → Prop where
  | addRequest (c : CallId) : SharedStep env s (s.addRequest env c true)
  | finish (t : AgentServer σ) (origin : Origin) (ht : t.shared = s.shared) :
      SharedStep env s (finish env t origin).2
  | same (t : AgentServer σ) (ht : t.shared = s.shared) : SharedStep env s t

theorem sharedStep_endOfStream (hs : s.endOfStream env c = some s') : SharedStep env s s' := by
  obtain ⟨-, -, ⟨-, -, rfl⟩ | ⟨-, -, rfl⟩ | ⟨-, rfl⟩⟩ := endOfStream_cases hs
  · exact .same _ rfl
  · exact .finish s _ rfl
  · exact .same _ rfl

theorem sharedStep_cancel {i : Nat} (hs : s.cancel env i = some s') : SharedStep env s s' := by
  obtain ⟨-, ⟨-, -, rfl⟩ | ⟨w, -, -, rfl⟩ | ⟨-, rfl⟩⟩ := cancel_cases hs
  · exact .same _ rfl
  · exact .same _ rfl
  · exact .finish s _ rfl

theorem sharedStep_cleanupStep (hs : s.cleanupStep env = some s') : SharedStep env s s' := by
  obtain ⟨origin, w, k, -, rfl⟩ | ⟨origin, w, -, rfl⟩ | ⟨origin, w, -, -, rfl⟩ :=
    cleanupStep_cases hs
  · apply SharedStep.same
    unfold unmap
    simp only []
    split <;> rfl
  · exact .same _ rfl
  · exact .finish _ _ rfl

theorem sharedStep_proceed (hs : s.proceed env c = some s') : SharedStep env s s' := by
  obtain ⟨pc, -, hp⟩ := proceedStep_of_proceed hs
  cases hp with
  | addRequest => exact .addRequest c
  | createSubscription | createSubscriptionUdpWorker | sendResponse | addWorker | enable
  | setActive => exact .same _ rfl
  | addMapping k =>
    unfold addMapping
    simp only []
    split <;> exact .same _ rfl
  | endOfStream hs => exact sharedStep_endOfStream hs

theorem sharedStep_of_step {e : Event} (hs : s.step env e = some s') : SharedStep env s s' := by
  match e with
  | .subscribe c request =>
    obtain ⟨-, rfl⟩ := step_subscribe hs
    unfold allocate
    simp only []
    split_ifs <;> exact .same _ rfl
  | .proceed c => exact sharedStep_proceed hs
  | .disconnect c => exact .same _ (Option.some.inj hs ▸ rfl)
  | .cancel i => exact sharedStep_cancel hs
  | .cleanup => exact sharedStep_cleanupStep hs
  | .datagram buf =>
    rw [step_datagram hs]
    exact .same _ rfl
  | .workerStep c =>
    obtain ⟨p, -, rfl⟩ := Option.map_eq_some_iff.mp hs
    exact .same _ rfl
  | .message c now m =>
    obtain ⟨-, rfl⟩ := step_message hs
    exact .same _ rfl

end AgentServer

end TelemetryAgent
