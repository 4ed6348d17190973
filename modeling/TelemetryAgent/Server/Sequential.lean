/-
  Whole operations, one after the other.

  `telemetrySubscribe` up to the wait loop, `cancelTelemetrySubscription` and the end of a
  stream, each in one piece. Each is reached by steps of the threads (`reaches_subscribe`,
  `reaches_cancel`, `reaches_streamEnd`), and when one begins only after the last has
  finished, no cancel is early, so the server's invariant holds in between.
  A tear-down whose join does not come back is not finished, and nothing comes after it (`joins`).

  `consistent_of_operations`: the ids allocated, the keys of the two stores and the keys of
  the receiver's worker store are then one set, the live consolidator handles correspond to
  it one to one, and a cancel succeeds for an id in it and changes nothing for any other.
-/
import Mathlib.Data.Set.Function
import TelemetryAgent.Server.TearDown
import TelemetryAgent.Server.Registered

namespace TelemetryAgent

open Std TelemetryAgent.Lib

variable {σ : Type}

namespace AgentServer

open SubscribeCall

/-! ## The operations -/

/-- The loop that adds the mappings of the internal ids `ids`. -/
def mapAll (s : AgentServer σ) (c : CallId) (ids : List Nat) : AgentServer σ :=
  { s with
    udpreceiver := ids.foldl (fun u i => u.addMapping (s.calls c).worker.id i) s.udpreceiver }

/-- The loop that deletes them. -/
def unmapAll (s : AgentServer σ) (w : CallId) (ids : List Nat) : AgentServer σ :=
  { s with
    udpreceiver := ids.foldl (fun u i => u.delMapping (s.calls w).worker.id i) s.udpreceiver }

/-- `_cleanupSubscriptionUdpWorker` -/
def cleanupSubscriptionUdpWorker (s : AgentServer σ) (w : CallId) : AgentServer σ :=
  let worker := (s.calls w).worker
  let s := s.unmapAll w (s.internalIds worker.systemSubscription)
  let s := { s with udpreceiver := s.udpreceiver.delWorker worker.id }
  (s.setTerminate w).deleteUdpSubscription w

variable (env : Environment σ)

/-- `telemetrySubscribe` up to the wait loop, or to its end if the request is refused. -/
def telemetrySubscribe (s : AgentServer σ) (c : CallId) (request : SubscriptionRequest) :
    AgentServer σ :=
  let s := s.allocate c request
  if (s.calls c).pc = .done then s
  else
    let s := s.addRequest env c true
    if (s.calls c).pc = .done then s
    else
      let s := s.createSubscription env c
      let s :=
        if env.config.udpServerModule then
          let s := (s.createSubscriptionUdpWorker c).addWorker c
          s.mapAll c (s.internalIds (s.calls c).systemHandle)
        else s
      ((s.sendResponse c).enable c).setActive c

def cancelTelemetrySubscription (s : AgentServer σ) (id : Nat) : ReturnCode × AgentServer σ :=
  if env.config.udpServerModule then
    match s.store2[id]? with
    | none => (.noSubscriptionEntry, s)
    | some w => finish env (s.cleanupSubscriptionUdpWorker w) (.cancel id)
  else finish env s (.cancel id)

/-- The rest of `telemetrySubscribe`, once the wait loop is left. -/
def streamEnd (s : AgentServer σ) (c : CallId) : AgentServer σ :=
  let r := s.calls c
  if r.sub.active then
    let s := if env.config.udpServerModule then s.cleanupSubscriptionUdpWorker c else s
    (finish env s (.endOfStream c)).2
  else s.setCall c { r with pc := .done }

/-- A whole operation, or something of the data plane between two of them. -/
inductive Operation where
  | subscribe (c : CallId) (request : SubscriptionRequest)
  | cancel (id : Nat)
  | streamEnd (c : CallId)
  | disconnect (c : CallId)
  | datagram (buf : List UInt8)
  | workerStep (c : CallId)
  | message (c : CallId) (now : Int) (m : MosquittoMessage)
  deriving DecidableEq, Repr

/-- The join of an operation comes back. -/
def joins (s : AgentServer σ) : Operation → Bool
  | .cancel i => !env.config.udpServerModule || s.store2[i]?.all env.workerEnds
  | .streamEnd c =>
    !(env.config.udpServerModule && (s.calls c).sub.active) || env.workerEnds c
  | _ => true

/-- A stream ends when the wait loop is left. -/
def perform (s : AgentServer σ) : Operation → Option (AgentServer σ)
  | .subscribe c request =>
    if (s.calls c).pc = .idle then some (s.telemetrySubscribe env c request) else none
  | .cancel i =>
    if s.joins env (.cancel i) then some (s.cancelTelemetrySubscription env i).2 else none
  | .streamEnd c =>
    if (s.calls c).pc = .streaming ∧ waiting (s.calls c) = false ∧ s.joins env (.streamEnd c) then
      some (s.streamEnd env c)
    else none
  | .disconnect c => s.step env (.disconnect c)
  | .datagram buf => s.step env (.datagram buf)
  | .workerStep c => s.step env (.workerStep c)
  | .message c now m => s.step env (.message c now m)

/-- No operation is under way. -/
structure Settled (s : AgentServer σ) : Prop where
  cleanup : s.cleanup = none
  pc : ∀ c, (s.calls c).pc = .idle ∨ (s.calls c).pc = .streaming ∨ (s.calls c).pc = .done

/-! ## The operations are runs of the threads -/

variable {env} {s s' : AgentServer σ} {c : CallId}

theorem perform_subscribe_eq_some {request : SubscriptionRequest}
    (hs : s.perform env (.subscribe c request) = some s') :
    (s.calls c).pc = .idle ∧ s' = s.telemetrySubscribe env c request := by
  simp only [perform] at hs
  split at hs
  · next hpc => exact ⟨hpc, (Option.some.inj hs).symm⟩
  · exact absurd hs (by simp)

theorem perform_cancel_eq_some {i : Nat} (hs : s.perform env (.cancel i) = some s') :
    s.joins env (.cancel i) = true ∧ s' = (s.cancelTelemetrySubscription env i).2 := by
  simp only [perform] at hs
  split at hs
  · next hjoins => exact ⟨hjoins, (Option.some.inj hs).symm⟩
  · exact absurd hs (by simp)

theorem perform_streamEnd_eq_some (hs : s.perform env (.streamEnd c) = some s') :
    ((s.calls c).pc = .streaming ∧ waiting (s.calls c) = false ∧
      s.joins env (.streamEnd c) = true) ∧ s' = s.streamEnd env c := by
  simp only [perform] at hs
  split at hs
  · next hpc => exact ⟨hpc, (Option.some.inj hs).symm⟩
  · exact absurd hs (by simp)

theorem reaches_proceed {t : AgentServer σ} (hs : s.proceed env c = some t) :
    Reaches (step env) (NoEarlyCancel env) s t :=
  Reaches.of_step (e := .proceed c) trivial hs

/-- After one pass of the loop that adds the mappings. -/
def mapNext (s : AgentServer σ) (c : CallId) (k i : Nat) : AgentServer σ :=
  { s.setCall c { s.calls c with pc := .mapping (k + 1) } with
    udpreceiver := s.udpreceiver.addMapping (s.calls c).worker.id i }

theorem calls_mapNext (s : AgentServer σ) (c : CallId) (k i : Nat) :
    (s.mapNext c k i).calls c = { s.calls c with pc := .mapping (k + 1) } :=
  Function.update_self _ _ _

theorem mapAll_cons (s : AgentServer σ) (c : CallId) (k i : Nat) (ids : List Nat) :
    ((s.mapNext c k i).mapAll c ids).sendResponse c = (s.mapAll c (i :: ids)).sendResponse c := by
  simp only [mapNext, mapAll, sendResponse, sendMetaDataInfo, setCall, Function.update_self,
    Function.update_idem, List.foldl_cons]

/-- The loop over the mappings, from the `k`-th on. -/
theorem reaches_mapAll {k : Nat} (hpc : (s.calls c).pc = .mapping k) :
    Reaches (step env) (NoEarlyCancel env) s
      ((s.mapAll c ((s.internalIds (s.calls c).systemHandle).drop k)).sendResponse c) := by
  induction hn : (s.internalIds (s.calls c).systemHandle).length - k generalizing s k with
  | zero =>
    have hk : (s.internalIds (s.calls c).systemHandle)[k]? = none :=
      List.getElem?_eq_none_iff.mpr (by omega)
    rw [List.drop_eq_nil_of_le (by omega)]
    apply reaches_proceed (c := c)
    unfold proceed addMapping
    simp only [hpc, hk]
    rfl
  | succ n ih =>
    have hlt : k < (s.internalIds (s.calls c).systemHandle).length := by omega
    have hnext : s.proceed env c =
        some (s.mapNext c k (s.internalIds (s.calls c).systemHandle)[k]) := by
      unfold proceed addMapping
      simp only [hpc, List.getElem?_eq_getElem hlt]
      rfl
    have hr := calls_mapNext s c k (s.internalIds (s.calls c).systemHandle)[k]
    have hlen : (s.internalIds (s.calls c).systemHandle).length - (k + 1) = n := by omega
    have hih := @ih (s.mapNext c k (s.internalIds (s.calls c).systemHandle)[k]) (k + 1)
      (by rw [hr]) (by rw [hr]; exact hlen)
    rw [hr] at hih
    rw [List.drop_eq_getElem_cons hlt, ← mapAll_cons s c k]
    exact Reaches.trans (reaches_proceed hnext) hih

/-- After one pass of the loop that deletes the mappings. -/
def unmapNext (s : AgentServer σ) (o : Origin) (w : CallId) (k i : Nat) : AgentServer σ :=
  { s with
    udpreceiver := s.udpreceiver.delMapping (s.calls w).worker.id i
    cleanup := some ⟨o, .unmapping w (k + 1)⟩ }

variable (env) in
/-- The hold of the mutex, from the loop over the mappings on. -/
theorem reaches_unmapAll {o : Origin} {w : CallId} {k : Nat} (hends : env.workerEnds w = true)
    (hcl : s.cleanup = some ⟨o, .unmapping w k⟩) :
    Reaches (step env) (NoEarlyCancel env) s
      (finish env { deleteUdpSubscription (setTerminate { s.unmapAll w
          ((s.internalIds (s.calls w).worker.systemSubscription).drop k) with
        udpreceiver := (s.unmapAll w ((s.internalIds
          (s.calls w).worker.systemSubscription).drop k)).udpreceiver.delWorker
            (s.calls w).worker.id } w) w with cleanup := none } o).2 := by
  induction hn : (s.internalIds (s.calls w).worker.systemSubscription).length - k
    generalizing s k with
  | zero =>
    have hk : (s.internalIds (s.calls w).worker.systemSubscription)[k]? = none :=
      List.getElem?_eq_none_iff.mpr (by omega)
    rw [List.drop_eq_nil_of_le (by omega)]
    let s' : AgentServer σ := { s with
      udpreceiver := s.udpreceiver.delWorker (s.calls w).worker.id
      cleanup := some ⟨o, .unregistered w⟩ }
    let s'' : AgentServer σ := { s'.setTerminate w with cleanup := some ⟨o, .terminated w⟩ }
    have h1 : s.cleanupStep env = some s' := by
      simp only [cleanupStep, hcl, unmap, hk]
      rfl
    have h2 : s'.cleanupStep env = some s'' := rfl
    have h3 : s''.cleanupStep env =
        some (finish env { s''.deleteUdpSubscription w with cleanup := none } o).2 := if_pos hends
    refine (Reaches.of_step (e := .cleanup) trivial h1).trans ?_
    refine (Reaches.of_step (e := .cleanup) trivial h2).trans ?_
    exact Reaches.of_step (s := s'') (e := .cleanup) trivial h3
  | succ n ih =>
    have hlt : k < (s.internalIds (s.calls w).worker.systemSubscription).length := by omega
    have hnext : s.cleanupStep env = some (s.unmapNext o w k
        (s.internalIds (s.calls w).worker.systemSubscription)[k]) := by
      simp only [cleanupStep, hcl, unmap, List.getElem?_eq_getElem hlt]
      rfl
    have hlen : (s.internalIds (s.calls w).worker.systemSubscription).length - (k + 1) = n := by
      omega
    have hih := @ih (s.unmapNext o w k
      (s.internalIds (s.calls w).worker.systemSubscription)[k]) (k + 1) rfl hlen
    rw [List.drop_eq_getElem_cons hlt]
    exact Reaches.trans (Reaches.of_step (e := .cleanup) trivial hnext) hih

theorem pc_allocate (s : AgentServer σ) (c : CallId) (request : SubscriptionRequest) :
    ((s.allocate c request).calls c).pc = .done ∨
      ((s.allocate c request).calls c).pc = .allocated := by
  obtain ⟨r, hr, he⟩ | ⟨i, _, _, _, he⟩ := allocate_spec s c request
  · rw [he]
    simp only [setCall, Function.update_self]
    exact Or.inl hr
  · rw [he]
    simp only [Function.update_self]
    exact Or.inr trivial

variable (env) in
theorem pc_addRequest (s : AgentServer σ) (c : CallId) :
    ((s.addRequest env c true).calls c).pc = .added := by
  rw [addRequest_spec]
  simp only [Function.update_self]

theorem pc_setCall (s : AgentServer σ) (c : CallId) (r : SubscribeCall) :
    ((s.setCall c r).calls c).pc = r.pc := by
  simp only [setCall, Function.update_self]

/-- From the reply to the wait loop. -/
theorem reaches_setActive (hpc : (s.calls c).pc = .metaSent) :
    Reaches (step env) (NoEarlyCancel env) s ((s.enable c).setActive c) := by
  refine Reaches.trans (reaches_proceed (c := c) (t := s.enable c) ?_)
    (reaches_proceed (c := c) ?_)
  · unfold proceed
    rw [hpc]
  · have he : ((s.enable c).calls c).pc = .enabled := pc_setCall s c _
    unfold proceed
    rw [he]

/-- From the subscription in the store to the reply. -/
theorem reaches_sendResponse (hpc : (s.calls c).pc = .created) :
    Reaches (step env) (NoEarlyCancel env) s (AgentServer.sendResponse
      (if env.config.udpServerModule then
        ((s.createSubscriptionUdpWorker c).addWorker c).mapAll c
          (((s.createSubscriptionUdpWorker c).addWorker c).internalIds
            (((s.createSubscriptionUdpWorker c).addWorker c).calls c).systemHandle)
      else s) c) := by
  split
  · rename_i hudp
    have h1 : ((s.createSubscriptionUdpWorker c).calls c).pc = .workerCreated :=
      pc_setCall s c _
    have h2 : (((s.createSubscriptionUdpWorker c).addWorker c).calls c).pc = .mapping 0 :=
      pc_setCall _ c _
    refine Reaches.trans (reaches_proceed (c := c) (t := s.createSubscriptionUdpWorker c) ?_)
      (Reaches.trans (reaches_proceed (c := c)
        (t := (s.createSubscriptionUdpWorker c).addWorker c) ?_) (reaches_mapAll h2))
    · unfold proceed
      simp only [hpc, hudp, if_true]
    · unfold proceed
      rw [h1]
  · rename_i hudp
    apply reaches_proceed (c := c)
    unfold proceed
    simp only [hpc, hudp]
    rfl

theorem reaches_subscribe (hpc : (s.calls c).pc = .idle) (request : SubscriptionRequest) :
    Reaches (step env) (NoEarlyCancel env) s (s.telemetrySubscribe env c request) := by
  have h1 : Reaches (step env) (NoEarlyCancel env) s (s.allocate c request) :=
    Reaches.of_step (e := .subscribe c request) trivial (if_pos hpc)
  unfold telemetrySubscribe
  simp only []
  split
  · exact h1
  · rename_i hnd
    have hpc1 := (pc_allocate s c request).resolve_left hnd
    have hpc2 := pc_addRequest env (s.allocate c request) c
    rw [if_neg (by rw [hpc2]; simp)]
    refine h1.trans (Reaches.trans (reaches_proceed (c := c)
      (t := (s.allocate c request).addRequest env c true) ?_) (Reaches.trans
        (reaches_proceed (c := c)
          (t := ((s.allocate c request).addRequest env c true).createSubscription env c) ?_)
        (Reaches.trans (reaches_sendResponse ?_) (reaches_setActive ?_))))
    · unfold proceed
      rw [hpc1]
    · unfold proceed
      rw [hpc2]
    · exact pc_setCall _ c _
    · exact pc_setCall _ c _

/-- The whole of `_cleanupSubscriptionUdpWorker` and of what follows it under the mutex. -/
theorem reaches_cleanup (h : s.cleanup = none) (o : Origin) {w : CallId}
    (hends : env.workerEnds w = true) :
    Reaches (step env) (NoEarlyCancel env) { s with cleanup := some ⟨o, .unmapping w 0⟩ }
      (finish env (s.cleanupSubscriptionUdpWorker w) o).2 := by
  have hr := reaches_unmapAll env (s := { s with cleanup := some ⟨o, .unmapping w 0⟩ })
    (o := o) (w := w) (k := 0) hends rfl
  have he : s.cleanupSubscriptionUdpWorker w = { deleteUdpSubscription (setTerminate
      { unmapAll { s with cleanup := some ⟨o, .unmapping w 0⟩ } w
          ((s.internalIds (s.calls w).worker.systemSubscription).drop 0) with
        udpreceiver := (unmapAll { s with cleanup := some ⟨o, .unmapping w 0⟩ } w
          ((s.internalIds (s.calls w).worker.systemSubscription).drop 0)).udpreceiver.delWorker
            (s.calls w).worker.id } w) w with cleanup := none } := by
    simp only [cleanupSubscriptionUdpWorker, deleteUdpSubscription, setTerminate, unmapAll, setCall,
      List.drop_zero, h]
  rw [he]
  exact hr

theorem Settled.streaming (h : Settled s) (hl : (s.calls c).live = true) :
    (s.calls c).pc = .streaming := by
  obtain hpc | hpc | hpc := h.pc c
  · rw [live_of_pc_idle hpc] at hl
    exact absurd hl (by simp)
  · exact hpc
  · rw [live_of_pc_done hpc] at hl
    exact absurd hl (by simp)

theorem Settled.holds (h : Settled s) (hl : (s.calls c).live = true) {n : Nat} (hn : n ≤ 8) :
    (s.calls c).holds n = true := by
  rw [holds_iff, h.streaming hl]
  exact ⟨hl, hn⟩

/-- Between whole operations no cancel is early. -/
theorem Settled.noEarlyCancel (h : Settled s) (hi : Inv env s) (i : Nat) :
    NoEarlyCancel env s (.cancel i) := by
  intro c hc
  split at hc
  · rename_i hudp
    exact h.streaming (hi.live_of_store2 hudp hc).1
  · exact h.streaming (hi.live_of_store hc).1

theorem reaches_cancel (h : Settled s) (hi : Inv env s) {i : Nat}
    (hjoins : s.joins env (.cancel i) = true) :
    Reaches (step env) (NoEarlyCancel env) s (s.cancelTelemetrySubscription env i).2 := by
  have hcl : s.cleanup.isSome = false := by rw [h.cleanup]; rfl
  have hearly := h.noEarlyCancel hi i
  unfold cancelTelemetrySubscription
  split
  · rename_i hudp
    cases hw : s.store2[i]? with
    | none => exact Reaches.refl s
    | some w =>
      have hends : env.workerEnds w = true := by simpa [joins, hudp, hw] using hjoins
      refine Reaches.trans (Reaches.of_step (e := .cancel i) hearly ?_)
        (reaches_cleanup h.cleanup (.cancel i) hends)
      simp only [step, cancel, hcl, hudp, hw, if_true]
      rfl
  · rename_i hudp
    apply Reaches.of_step (e := .cancel i) hearly
    simp only [step, cancel, hcl, hudp]
    rfl

theorem reaches_streamEnd (h : Settled s) (hpc : (s.calls c).pc = .streaming)
    (hw : waiting (s.calls c) = false) (hjoins : s.joins env (.streamEnd c) = true) :
    Reaches (step env) (NoEarlyCancel env) s (s.streamEnd env c) := by
  have hcl : s.cleanup.isSome = false := by rw [h.cleanup]; rfl
  unfold streamEnd
  simp only []
  cases ha : (s.calls c).sub.active with
  | false =>
    rw [if_neg (by simp)]
    apply reaches_proceed (c := c)
    simp only [proceed, hpc, endOfStream, hw, hcl, ha]
    rfl
  | true =>
    rw [if_pos rfl]
    split
    · rename_i hudp
      have hends : env.workerEnds c = true := by simpa [joins, hudp, ha] using hjoins
      refine Reaches.trans (reaches_proceed (c := c) ?_)
        (reaches_cleanup h.cleanup (.endOfStream c) hends)
      simp only [proceed, hpc, endOfStream, hw, hcl, ha, hudp]
      rfl
    · rename_i hudp
      apply reaches_proceed (c := c)
      simp only [proceed, hpc, endOfStream, hw, hcl, ha, hudp]
      rfl

/-! ## Between the operations -/

/-- The step is of the thread of call `c` and takes no mutex. -/
structure Own (c : CallId) (s s' : AgentServer σ) : Prop where
  cleanup : s'.cleanup = s.cleanup
  calls : ∀ x, x ≠ c → s'.calls x = s.calls x

theorem Own.trans {s'' : AgentServer σ} (h : Own c s s') (h' : Own c s' s'') : Own c s s'' where
  cleanup := h'.cleanup.trans h.cleanup
  calls x hx := (h'.calls x hx).trans (h.calls x hx)

theorem own_of_update {t : AgentServer σ} {r : SubscribeCall}
    (hcalls : t.calls = Function.update s.calls c r)
    (hcl : t.cleanup = s.cleanup) : Own c s t where
  cleanup := hcl
  calls x hx := by rw [hcalls, Function.update_of_ne hx]

theorem own_allocate (s : AgentServer σ) (c : CallId) (request : SubscriptionRequest) :
    Own c s (s.allocate c request) := by
  obtain ⟨r, _, he⟩ | ⟨i, _, _, _, he⟩ := allocate_spec s c request
  · rw [he]
    exact own_of_update rfl rfl
  · rw [he]
    exact own_of_update rfl rfl

variable (env) in
theorem own_subscribe (s : AgentServer σ) (c : CallId) (request : SubscriptionRequest) :
    Own c s (s.telemetrySubscribe env c request) := by
  have h1 := own_allocate s c request
  have h2 : Own c (s.allocate c request) ((s.allocate c request).addRequest env c true) := by
    rw [addRequest_spec]
    exact own_of_update rfl rfl
  unfold telemetrySubscribe
  simp only []
  split
  · exact h1
  · split
    · exact h1.trans h2
    · have h3 : Own c ((s.allocate c request).addRequest env c true)
          (((s.allocate c request).addRequest env c true).createSubscription env c) :=
        own_of_update rfl rfl
      have hend : ∀ t : AgentServer σ, Own c t (((t.sendResponse c).enable c).setActive c) :=
        fun t => (own_of_update (t := t.sendResponse c) rfl rfl).trans
          ((own_of_update (t := (t.sendResponse c).enable c) rfl rfl).trans
            (own_of_update rfl rfl))
      have hmap : ∀ (t : AgentServer σ) (ids : List Nat), Own c t (t.mapAll c ids) :=
        fun t ids => ⟨rfl, fun _ _ => rfl⟩
      refine ((h1.trans h2).trans h3).trans ?_
      split
      · refine Own.trans (own_of_update (t := AgentServer.createSubscriptionUdpWorker _ c) rfl rfl) ?_
        refine Own.trans (own_of_update (t := AgentServer.addWorker _ c) rfl rfl) ?_
        exact (hmap _ _).trans (hend _)
      · exact hend _

theorem pc_subscribe (s : AgentServer σ) (c : CallId) (request : SubscriptionRequest) :
    ((s.telemetrySubscribe env c request).calls c).pc = .streaming ∨
      ((s.telemetrySubscribe env c request).calls c).pc = .done := by
  unfold telemetrySubscribe
  simp only []
  split
  · rename_i hd
    exact Or.inr hd
  · split
    · rename_i hd
      exact Or.inr hd
    · exact Or.inl (pc_setCall _ c _)

/-- What ends an operation leaves every thread before the call, in the wait loop or after. -/
theorem Settled.of_pc (h : Settled s) (hcl : s'.cleanup = s.cleanup)
    (hpc : ∀ x, (s'.calls x).pc = (s.calls x).pc ∨ (s'.calls x).pc = .streaming ∨
      (s'.calls x).pc = .done) : Settled s' where
  cleanup := hcl.trans h.cleanup
  pc x := by
    obtain hx | hx := hpc x
    · rw [hx]
      exact h.pc x
    · exact Or.inr hx

theorem Settled.subscribe (h : Settled s) (c : CallId) (request : SubscriptionRequest) :
    Settled (s.telemetrySubscribe env c request) := by
  have ho := own_subscribe env s c request
  refine h.of_pc ho.cleanup fun x => ?_
  by_cases hx : x = c
  · rw [hx]
    exact Or.inr (pc_subscribe s c request)
  · rw [ho.calls x hx]
    exact Or.inl rfl

theorem Settled.finish (h : Settled s) (o : Origin)
    (hpc : ∀ c, o = .endOfStream c → (s.calls c).pc = .streaming) :
    Settled (AgentServer.finish env s o).2 := by
  refine h.of_pc (finish_keeps env s o).1 fun x => ?_
  obtain hc | ⟨c, pc, hc, hcalls⟩ := calls_finish env s o hpc
  · rw [hc]
    exact Or.inl rfl
  · rw [hcalls]
    by_cases hx : x = c
    · rw [hx, Function.update_self]
      obtain hc | ⟨_, hc⟩ := hc
      · exact Or.inl hc
      · exact Or.inr (Or.inr hc)
    · rw [Function.update_of_ne hx]
      exact Or.inl rfl

theorem calls_cleanupSubscriptionUdpWorker (s : AgentServer σ) (w x : CallId) :
    (s.cleanupSubscriptionUdpWorker w).calls x = { s.calls x with
      worker := if decide (x = w) then (s.calls x).worker.setTerminate else (s.calls x).worker } := by
  unfold cleanupSubscriptionUdpWorker
  simp only []
  exact calls_setTerminate _ w x

theorem pc_cleanupSubscriptionUdpWorker (s : AgentServer σ) (w x : CallId) :
    ((s.cleanupSubscriptionUdpWorker w).calls x).pc = (s.calls x).pc := by
  rw [calls_cleanupSubscriptionUdpWorker]

theorem Settled.cleanupSubscriptionUdpWorker (h : Settled s) (w : CallId) :
    Settled (s.cleanupSubscriptionUdpWorker w) :=
  h.of_pc rfl fun x => Or.inl (pc_cleanupSubscriptionUdpWorker s w x)

theorem Settled.cancel (h : Settled s) (i : Nat) :
    Settled (s.cancelTelemetrySubscription env i).2 := by
  unfold cancelTelemetrySubscription
  split
  · split
    · exact h
    · exact (h.cleanupSubscriptionUdpWorker _).finish _ fun c hc => absurd hc (by simp)
  · exact h.finish _ fun c hc => absurd hc (by simp)

theorem Settled.streamEnd (h : Settled s) (hpc : (s.calls c).pc = .streaming) :
    Settled (s.streamEnd env c) := by
  unfold AgentServer.streamEnd
  simp only []
  split
  · split
    · refine (h.cleanupSubscriptionUdpWorker c).finish _ fun x hx => ?_
      rw [pc_cleanupSubscriptionUdpWorker, ← Origin.endOfStream.inj hx]
      exact hpc
    · refine h.finish _ fun x hx => ?_
      rw [← Origin.endOfStream.inj hx]
      exact hpc
  · refine h.of_pc rfl fun x => ?_
    by_cases hx : x = c
    · rw [hx, pc_setCall]
      exact Or.inr (Or.inr rfl)
    · simp only [setCall, Function.update_of_ne hx]
      exact Or.inl trivial

/-- What holds between whole operations. -/
structure Between (env : Environment σ) (s : AgentServer σ) : Prop where
  inv : Inv env s
  registered : env.config.udpServerModule = true → Registered s
  settled : Settled s

theorem between_new (db : PathInformationDB) (x : σ) : Between env (new db x) where
  inv := inv_new db x
  registered _ := registered_new db x
  settled := ⟨rfl, fun _ => Or.inl rfl⟩

/-- An operation is a run of the threads and ends with them at rest. -/
theorem Between.of_reaches (h : Between env s) (hr : Reaches (step env) (NoEarlyCancel env) s s')
    (hs : Settled s') : Between env s' where
  inv := hr.invariant (fun _ _ _ hi hc hs => inv_step hi hc hs) h.inv
  registered hudp := by
    have hstep : ∀ s e s', Inv env s ∧ Registered s → NoEarlyCancel env s e →
        s.step env e = some s' → Inv env s' ∧ Registered s' :=
      fun _ _ _ hi hc hs => ⟨inv_step hi.1 hc hs, registered_step hudp hi.1 hi.2 hs⟩
    exact (hr.invariant hstep ⟨h.inv, h.registered hudp⟩).2
  settled := hs

/-- Between two operations, a client leaves or something arrives. -/
theorem Between.of_step (h : Between env s) {e : Event} (hc : NoEarlyCancel env s e)
    (hs : s.step env e = some s') (hcl : s'.cleanup = s.cleanup)
    (hpc : ∀ x, (s'.calls x).pc = (s.calls x).pc) : Between env s' :=
  h.of_reaches (Reaches.of_step hc hs) (h.settled.of_pc hcl fun x => Or.inl (hpc x))

theorem between_perform {o : Operation} (h : Between env s) (hs : s.perform env o = some s') :
    Between env s' := by
  cases o with
  | subscribe c request =>
    obtain ⟨hpc, rfl⟩ := perform_subscribe_eq_some hs
    exact h.of_reaches (reaches_subscribe hpc request) (h.settled.subscribe c request)
  | cancel i =>
    obtain ⟨hjoins, rfl⟩ := perform_cancel_eq_some hs
    exact h.of_reaches (reaches_cancel h.settled h.inv hjoins) (h.settled.cancel i)
  | streamEnd c =>
    obtain ⟨⟨hpc, hwaiting, hjoins⟩, rfl⟩ := perform_streamEnd_eq_some hs
    exact h.of_reaches (reaches_streamEnd h.settled hpc hwaiting hjoins) (h.settled.streamEnd hpc)
  | disconnect c =>
    refine h.of_step (e := .disconnect c) trivial hs ?_ ?_
    · rw [← Option.some.inj hs]
      rfl
    · rw [← Option.some.inj hs]
      exact pc_update rfl
  | datagram buf =>
    have he := step_datagram (show s.step env (.datagram buf) = some s' from hs)
    refine h.of_step (e := .datagram buf) trivial hs ?_ ?_
    · rw [he]
    · rw [he]
      exact fun x => (sameCore_pushAll s.calls _ _ x).pc
  | workerStep c =>
    refine h.of_step (e := .workerStep c) trivial hs ?_ ?_
    · obtain ⟨_, _, _, rfl⟩ := workerStep_eq_some hs
      rfl
    · obtain ⟨_, _, _, rfl⟩ := workerStep_eq_some hs
      exact pc_update rfl
  | message c now m =>
    refine h.of_step (e := .message c now m) trivial hs ?_ ?_
    · obtain ⟨_, rfl⟩ := step_message hs
      rfl
    · obtain ⟨_, rfl⟩ := step_message hs
      exact pc_update rfl

theorem between_of_operations {db : PathInformationDB} {x : σ} {os : List Operation}
    (hr : run (perform env) (new db x) os = some s) : Between env s :=
  run_invariant_of_step (fun _ _ _ h hs => between_perform h hs) (between_new db x) hr

/-! ## The five tables -/

/-- A live call has passed every point. -/
theorem Settled.idAt_eq (h : Settled s) {n : Nat} (hn : n ≤ 8) (c : CallId) :
    (s.calls c).idAt n = (s.calls c).idAt 1 := by
  cases hl : (s.calls c).live with
  | false => rw [idAt_of_not_live hl, idAt_of_not_live hl]
  | true =>
    have hrank : n ≤ Pc.streaming.rank := hn
    rw [idAt_of_live hl, idAt_of_live hl, h.streaming hl, if_pos hrank, if_pos (by decide)]

theorem Between.mem_store (h : Between env s) (i : Nat) :
    i ∈ s.store ↔ ∃ c, (s.calls c).idAt 1 = some i := by
  rw [h.inv.store.mem_iff]
  exact exists_congr fun c => by rw [h.settled.idAt_eq (by omega) c]

theorem Between.mem_store2 (h : Between env s) (hudp : env.config.udpServerModule = true)
    (i : Nat) : i ∈ s.store2 ↔ i ∈ s.store := by
  rw [h.inv.store2.mem_iff, h.mem_store, hudp, store2Name_true]
  exact exists_congr fun c => by rw [h.settled.idAt_eq (by omega) c]

theorem Between.mem_workers (h : Between env s) (hudp : env.config.udpServerModule = true)
    (i : Nat) : i ∈ s.udpreceiver.extIdWorkerStore ↔ i ∈ s.store := by
  rw [(h.registered hudp).workers.mem_iff, h.mem_store]
  apply exists_congr
  intro c
  rw [workerName_eq_idAt, h.settled.idAt_eq (by omega) c]
  intro cl hcl
  rw [h.settled.cleanup] at hcl
  exact absurd hcl (by simp)

/-- The consolidator handle of the subscription that `store` has under an id. -/
def handleOf (s : AgentServer σ) (i : Nat) : HandlePtr :=
  (s.calls ((s.store[i]?).getD 0)).sub.systemSubscription

theorem Between.handleOf_eq (h : Between env s) {i : Nat} (hs : s.store[i]? = some c) :
    s.handleOf i = (s.calls c).systemHandle ∧
      (s.calls c).handleName = some (s.calls c).systemHandle ∧ (s.calls c).id = i := by
  obtain ⟨h3, hid⟩ := idAt_eq_some.mp ((h.inv.store i c).mp hs)
  refine ⟨?_, handleName_eq_some.mpr ⟨holds_mono h3 (by omega), rfl⟩, hid⟩
  unfold handleOf
  rw [hs]
  exact ((h.inv.wf c).sub h3).2

theorem Between.bijOn_handleOf (h : Between env s) :
    Set.BijOn s.handleOf {i | i ∈ s.store} {p | p ∈ s.consolidator.handles} := by
  have hget : ∀ i, i ∈ s.store → ∃ c, s.store[i]? = some c := fun i hi =>
    Option.isSome_iff_exists.mp (ExtTreeMap.mem_iff_isSome_getElem?.mp hi)
  refine ⟨fun i hi => ?_, fun i hi j hj he => ?_, fun p hp => ?_⟩
  · obtain ⟨c, hc⟩ := hget i hi
    obtain ⟨h1, h2, _⟩ := h.handleOf_eq hc
    show s.handleOf i ∈ s.consolidator.handles
    rw [h1]
    exact (h.inv.mem_handles _).mpr ⟨c, h2⟩
  · obtain ⟨c, hc⟩ := hget i hi
    obtain ⟨d, hd⟩ := hget j hj
    obtain ⟨h1, h2, rfl⟩ := h.handleOf_eq hc
    obtain ⟨k1, k2, rfl⟩ := h.handleOf_eq hd
    rw [h1, k1] at he
    rw [h.inv.handles h2 (he ▸ k2)]
  · obtain ⟨c, hc⟩ := (h.inv.mem_handles p).mp hp
    obtain ⟨h2, rfl⟩ := handleName_eq_some.mp hc
    have hl : (s.calls c).live = true := live_of_holds h2
    have h3 : (s.calls c).idAt 3 = some (s.calls c).id :=
      idAt_eq_some.mpr ⟨h.settled.holds hl (by decide), rfl⟩
    have hs : s.store[(s.calls c).id]? = some c := (h.inv.store _ c).mpr h3
    refine ⟨(s.calls c).id, ?_, (h.handleOf_eq hs).1⟩
    exact ExtTreeMap.mem_iff_isSome_getElem?.mpr (by rw [hs]; rfl)

theorem fst_finish_cancel (s : AgentServer σ) (i : Nat) :
    (finish env s (.cancel i)).1 = .success ↔ i ∈ s.store := by
  rw [ExtTreeMap.mem_iff_isSome_getElem?]
  cases hs : s.store[i]? with
  | none => simp [finish, hs]
  | some c => simp [finish, hs]

theorem finish_cancel_of_not_mem {i : Nat} (h : i ∉ s.store) :
    finish env s (.cancel i) = (.noSubscriptionEntry, s) := by
  rw [ExtTreeMap.mem_iff_isSome_getElem?, Option.not_isSome_iff_eq_none] at h
  simp [finish, h]

theorem Between.success_iff (h : Between env s) (i : Nat) :
    (s.cancelTelemetrySubscription env i).1 = .success ↔ i ∈ s.store := by
  unfold cancelTelemetrySubscription
  split
  · rename_i hudp
    have hm := h.mem_store2 hudp i
    rw [ExtTreeMap.mem_iff_isSome_getElem?] at hm
    cases hw : s.store2[i]? with
    | none =>
      rw [hw] at hm
      simpa using hm
    | some w => exact fst_finish_cancel (s.cleanupSubscriptionUdpWorker w) i
  · exact fst_finish_cancel s i

theorem Between.cancel_of_not_mem (h : Between env s) {i : Nat} (hi : i ∉ s.store) :
    s.cancelTelemetrySubscription env i = (.noSubscriptionEntry, s) := by
  unfold cancelTelemetrySubscription
  split
  · rename_i hudp
    have hm : i ∉ s.store2 := fun hm => hi ((h.mem_store2 hudp i).mp hm)
    rw [ExtTreeMap.mem_iff_isSome_getElem?, Option.not_isSome_iff_eq_none] at hm
    rw [hm]
  · exact finish_cancel_of_not_mem hi

/-- The tables are of one set of ids, and a cancel answers by it. -/
structure Consistent (env : Environment σ) (s : AgentServer σ) : Prop where
  allocated : ∀ i, s.idManager.present i = true ↔ i ∈ s.store
  store2 : env.config.udpServerModule = true → ∀ i, i ∈ s.store2 ↔ i ∈ s.store
  workers : env.config.udpServerModule = true →
    ∀ i, i ∈ s.udpreceiver.extIdWorkerStore ↔ i ∈ s.store
  handles : Set.BijOn s.handleOf {i | i ∈ s.store} {p | p ∈ s.consolidator.handles}
  success : ∀ i, (s.cancelTelemetrySubscription env i).1 = .success ↔ i ∈ s.store
  noEntry : ∀ i, i ∉ s.store →
    s.cancelTelemetrySubscription env i = (.noSubscriptionEntry, s)

/-- **Whole operations.** After every sequence of whole operations the tables agree. -/
theorem consistent_of_operations (env : Environment σ) (db : PathInformationDB) (x : σ)
    (os : List Operation) (s : AgentServer σ)
    (hr : run (perform env) (new db x) os = some s) : Consistent env s := by
  have h := between_of_operations hr
  refine ⟨fun i => ?_, h.mem_store2, h.mem_workers, h.bijOn_handleOf, h.success_iff,
    fun i hi => h.cancel_of_not_mem hi⟩
  rw [h.inv.ids.present_iff, h.mem_store]

/-- Two subscriptions, the first is cancelled, a third gets its id, the second leaves. -/
theorem consistent_of_operations_mixed :
    ∃ s, run (perform (nullEnvironment true)) (new ∅ {})
        [.subscribe 0 { pathList := [{ path := "firewall" }] },
          .subscribe 1 { pathList := [{ path := "lsp" }, { path := "firewall" }] }, .cancel 1,
          .subscribe 2 { pathList := [{ path := "lsp" }] }, .cancel 7, .streamEnd 0,
          .disconnect 1, .streamEnd 1] = some s ∧
      s.store.toList = [(1, 2)] ∧ Consistent (nullEnvironment true) s := by
  have hrun : (run (perform (nullEnvironment true)) (new ∅ {})
      [.subscribe 0 { pathList := [{ path := "firewall" }] },
        .subscribe 1 { pathList := [{ path := "lsp" }, { path := "firewall" }] }, .cancel 1,
        .subscribe 2 { pathList := [{ path := "lsp" }] }, .cancel 7, .streamEnd 0,
        .disconnect 1, .streamEnd 1]).map (fun s => s.store.toList) = some [(1, 2)] := by
    decide +kernel
  obtain ⟨s, hs, hl⟩ := Option.map_eq_some_iff.mp hrun
  exact ⟨s, hs, hl, consistent_of_operations _ _ _ _ s hs⟩

end AgentServer

end TelemetryAgent
