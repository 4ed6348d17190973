/-
  What is left when every call is over.

  `Vacant`: nothing is allocated, stored, mapped or held, as when the server started.
  `vacant_of_run`: so it is in every run as soon as no call is live, whatever the order of
  the set-ups, the cancels and the ends of streams, as long as no cancel is early. The
  internal ids are back too, also those of entries that were made when none was free
  (`owned_step`).
-/
import TelemetryAgent.Consolidator.Ids
import TelemetryAgent.Server.EarlyReturn
import TelemetryAgent.Server.Routing

namespace TelemetryAgent

open Std TelemetryAgent.Lib

variable {σ : Type}

/-! ## The internal ids -/

namespace AgentConsolidator

open AgentConsolidatorSystemHandle

/-- A marked id is that of an entry, and the null identifier is not marked. -/
structure Owned (c : AgentConsolidator σ) : Prop where
  null : c.internalIdGenerator.present AgentServerIdManager.getNullIdentifier = false
  entry : ∀ i, c.internalIdGenerator.present i = true → ∃ t, c.entryId t = some i

variable {sys : AgentSystem σ} {getMessageString : Path → String} {c c' : AgentConsolidator σ}
  {l : List SystemHandlePtr}

theorem owned_new (s : σ) : (new s).Owned where
  null := AgentServerIdManager.present_new _
  entry i h := by
    rw [show (new s).internalIdGenerator = .new _ _ from rfl,
      AgentServerIdManager.present_new] at h
    exact absurd h (by simp)

theorem Owned.of_eq (h : c.Owned) (hg : c'.internalIdGenerator = c.internalIdGenerator)
    (he : c'.entry = c.entry) : c'.Owned := by
  refine ⟨hg ▸ h.null, fun i hi => ?_⟩
  rw [entryId_of_entry he]
  exact h.entry i (hg ▸ hi)

variable (sys) in
theorem owned_create (hr : RefInv getMessageString c l) (h : c.Owned) (p : Path) :
    (create sys getMessageString c p).2.Owned := by
  cases hc : create sys getMessageString c p with
  | mk o c' =>
  show c'.Owned
  obtain ⟨_, _, he, hg, _⟩ | ⟨hn, _, _, he, hg⟩ | ⟨_, _, _, he, hg⟩ := create_entry sys hr p hc
  · exact h.of_eq hg he
  · have hold : ∀ t i, c.entryId t = some i → c'.entryId t = some i := by
      intro t i ht
      rw [entryId_of_entry_update he, Function.update_of_ne]
      · exact ht
      · rintro rfl
        rw [entryId, hn] at ht
        exact absurd ht (by simp)
    obtain ⟨i, h1, h2, -, -, ha⟩ | ⟨-, ha⟩ := AgentServerIdManager.allocate_cases (by decide)
      c.internalIdGenerator
    · rw [ha] at hg he
      refine ⟨?_, fun j hj => ?_⟩
      · have hne : i ≠ AgentServerIdManager.getNullIdentifier := by
          rintro rfl
          exact absurd h1 (by decide)
        rw [hg, AgentServerIdManager.present_set, h.null]
        simp [hne]
      · rw [hg, AgentServerIdManager.present_set_of_lt h2] at hj
        obtain hj | rfl := hj
        · obtain ⟨t, ht⟩ := h.entry j hj
          exact ⟨t, hold t j ht⟩
        · exact ⟨getMessageString p, by rw [entryId_of_entry_update he, Function.update_self]; rfl⟩
    · have hsame : c'.internalIdGenerator = c.internalIdGenerator := by rw [hg, ha]
      refine ⟨hsame ▸ h.null, fun j hj => ?_⟩
      obtain ⟨t, ht⟩ := h.entry j (hsame ▸ hj)
      exact ⟨t, hold t j ht⟩
  · have hsame := AgentServerIdManager.present_allocate_deallocate (n := internalSubscriptionIdSpaceSize)
      (by decide) h.null
    refine ⟨?_, fun i hi => ?_⟩
    · rw [hg, hsame]
      exact h.null
    · rw [hg, hsame] at hi
      rw [entryId_of_entry he]
      exact h.entry i hi

variable (sys) in
/-- The id of another entry stays marked, as only the null identifier is shared. -/
theorem owned_destroy {ptr : SystemHandlePtr} (hr : RefInv getMessageString c (ptr :: l))
    (h : c.Owned) : (destroy sys getMessageString c ptr).2.Owned := by
  obtain ⟨_, he, hg, _⟩ | ⟨_, id, p, _, _, hent, _, he, hg⟩ := destroy_entry sys hr
  · exact h.of_eq hg he
  · refine ⟨?_, fun i hi => ?_⟩
    · rw [hg, AgentServerIdManager.deallocate, AgentServerIdManager.present_reset, h.null,
        Bool.false_and]
    · rw [hg, AgentServerIdManager.deallocate, AgentServerIdManager.present_reset,
        Bool.and_eq_true, Bool.not_eq_true', decide_eq_false_iff_not] at hi
      obtain ⟨t, ht⟩ := h.entry i hi.1
      refine ⟨t, ?_⟩
      rw [entryId_of_entry_update he, Function.update_of_ne]
      · exact ht
      · rintro rfl
        rw [entryId, hent, Option.map_some, Option.some.injEq] at ht
        exact hi.2 ht

theorem owned_step {e : Call} (hi : Inv getMessageString c) (h : c.Owned)
    (hs : step sys getMessageString c e = some c') : c'.Owned := by
  cases e with
  | addRequest alloc id request =>
    rw [← Option.some.inj hs]
    cases alloc with
    | false => exact ⟨h.null, h.entry⟩
    | true =>
      have h' : (addPaths sys getMessageString c request.pathList).2.Owned :=
        addPaths_invariant sys (fun c l p hr h _ => owned_create sys hr h p) hi.refs h
          (meets_true _ _ _)
      exact ⟨h'.null, h'.entry⟩
  | removeRequest ptr =>
    obtain ⟨x, hx, hr, rfl⟩ := step_removeRequest_refs sys hi hs
    have h' : (destroyAll sys getMessageString c x.consolidatorsyshandles).Owned :=
      destroyAll_invariant sys (fun c l ptr hr h _ => owned_destroy sys hr h) hr h
        (meets_true _ _ _)
    exact ⟨h'.null, h'.entry⟩

theorem owned_of_run {s : σ} {es : List Call}
    (hr : run (step sys getMessageString) (new s) es = some c) : c.Owned := by
  have hstep : ∀ c e c', Inv getMessageString c ∧ c.Owned → step sys getMessageString c e = some c' →
      Inv getMessageString c' ∧ c'.Owned :=
    fun _ _ _ h hs => ⟨inv_step sys h.1 hs, owned_step h.1 h.2 hs⟩
  exact (run_invariant_of_step hstep ⟨inv_new s, owned_new s⟩ hr).2

/-- Without consolidator handles there is nothing in `sysdb`. -/
theorem sysdb_of_handles_empty (h : Inv getMessageString c) (hh : c.handles = ∅) : c.sysdb = ∅ := by
  have hheld : c.heldHandles = [] := by
    rw [heldHandles, hh]
    rfl
  apply ExtTreeMap.ext_getElem?
  intro t
  rw [ExtTreeMap.getElem?_empty]
  cases hp : c.sysdb[t]? with
  | none => rfl
  | some ptr =>
    have hm := h.refs.mem hp
    rw [hheld] at hm
    exact absurd hm (by simp)

end AgentConsolidator

theorem AgentServerIdManager.eq_new {n minId : Nat} {m : AgentServerIdManager n minId}
    (h : ∀ i, m.present i = false) : m = .new n minId := by
  obtain ⟨bits⟩ := m
  refine congrArg AgentServerIdManager.mk (BitVec.eq_of_getLsbD_eq fun i _ => ?_)
  rw [BitVec.ofNat_eq_ofNat, BitVec.getLsbD_zero]
  exact h i

namespace AgentServer

open SubscribeCall

/-! ## The receiver -/

/-- No worker is registered and nothing is mapped. -/
structure Unmapped (u : UdpReceiver CallId) : Prop where
  workers : u.extIdWorkerStore = ∅
  lists : u.intToExtListStore = ∅

variable {env : Environment σ} {s s' : AgentServer σ} {c : CallId}

theorem Unmapped.receive {u : UdpReceiver CallId} (h : Unmapped u) (buf : List UInt8) :
    Unmapped (u.receive buf).2 := by
  have hnone : (u.countPacket buf).intToExtListStore[UdpReceiver.header buf]? = none := by
    rw [show (u.countPacket buf).intToExtListStore = ∅ from h.lists, ExtTreeMap.getElem?_empty]
  unfold UdpReceiver.receive
  simp only [hnone]
  exact ⟨h.workers, h.lists⟩

/-- Without the UDP module no call comes to the receiver. -/
theorem unmapped_step (hudp : env.config.udpServerModule = false) (hi : Inv env s)
    (h : Unmapped s.udpreceiver) {e : Event} (hs : s.step env e = some s') :
    Unmapped s'.udpreceiver := by
  match e with
  | .subscribe c request =>
    obtain ⟨-, rfl⟩ := step_subscribe hs
    obtain ⟨r, -, he⟩ | ⟨i, -, -, -, he⟩ := allocate_spec s c request
    · exact he ▸ h
    · exact he ▸ h
  | .proceed c =>
    obtain ⟨pc, hpc, hp⟩ := proceedStep_of_proceed hs
    have hrank : ¬ (4 ≤ pc.rank ∧ pc.rank ≤ 5) := by
      rintro ⟨h4, h5⟩
      rw [← hpc] at h4 h5
      rw [(hi.wf c).udp h4 h5] at hudp
      exact absurd hudp (by simp)
    cases hp with
    | addRequest =>
      rw [addRequest_spec]
      exact h
    | createSubscription | createSubscriptionUdpWorker | sendResponse | enable | setActive =>
      exact h
    | addWorker => exact absurd ⟨Nat.le_refl 4, Nat.le_succ 4⟩ hrank
    | addMapping k => exact absurd ⟨Nat.le_succ 4, Nat.le_refl 5⟩ hrank
    | endOfStream hs =>
      obtain ⟨-, -, ⟨-, hon, -⟩ | ⟨-, -, rfl⟩ | ⟨-, rfl⟩⟩ := endOfStream_cases hs
      · rw [hudp] at hon
        exact absurd hon (by simp)
      · rw [(finish_keeps env s _).2]
        exact h
      · exact h
  | .disconnect c => exact Option.some.inj hs ▸ h
  | .cancel i =>
    obtain ⟨-, ⟨hon, -⟩ | ⟨w, hon, -⟩ | ⟨-, rfl⟩⟩ := cancel_cases hs
    · rw [hudp] at hon
      exact absurd hon (by simp)
    · rw [hudp] at hon
      exact absurd hon (by simp)
    · rw [(finish_keeps env s _).2]
      exact h
  | .cleanup =>
    have hnone : s.cleanup = none := by
      cases hcl : s.cleanup with
      | none => rfl
      | some cl =>
        have hon := (hi.cleanup cl hcl).1
        rw [hudp] at hon
        exact absurd hon (by simp)
    rw [step, cleanupStep, hnone] at hs
    exact absurd hs (by simp)
  | .datagram buf =>
    rw [step_datagram hs]
    exact h.receive buf
  | .workerStep c =>
    obtain ⟨vec, w, -, rfl⟩ := workerStep_eq_some hs
    exact h
  | .message c now m =>
    obtain ⟨-, rfl⟩ := step_message hs
    exact h

/-! ## Without live calls -/

/-- Nothing is allocated, stored, mapped or held. -/
structure Vacant (s : AgentServer σ) : Prop where
  idManager : s.idManager = .new _ _
  store : s.store = ∅
  store2 : s.store2 = ∅
  mutex : s.cleanup = none
  handles : s.consolidator.handles = ∅
  sysdb : s.consolidator.sysdb = ∅
  internalIds : s.consolidator.internalIdGenerator = .new _ _
  udpreceiver : Unmapped s.udpreceiver

theorem unmapped_of_registered (h : Registered s) (hu : s.udpreceiver.Sane)
    (hl : ∀ c, (s.calls c).live = false) : Unmapped s.udpreceiver where
  workers := h.workers.eq_empty fun c => workerName_of_not_holds (holds_of_not_live (hl c) 5)
  lists := by
    apply ExtTreeMap.ext_getElem?
    intro i
    rw [ExtTreeMap.getElem?_empty]
    cases hv : s.udpreceiver.intToExtListStore[i]? with
    | none => rfl
    | some v =>
      obtain ⟨e, he⟩ := List.exists_mem_of_ne_nil v (hu.nonempty hv)
      have hmem : e ∈ s.udpreceiver.extIds i := by
        rw [UdpReceiver.extIds, hv]
        exact he
      obtain ⟨c, hc⟩ := (h.mapped e i).mp hmem
      rw [mappings_of_not_holds (holds_of_not_live (hl c) 5)] at hc
      exact absurd hc (by simp)

theorem vacant_of_inv (hi : Inv env s) (ho : s.consolidator.Owned)
    (hu : Unmapped s.udpreceiver) (hl : ∀ c, (s.calls c).live = false) : Vacant s := by
  have hid : ∀ n c, (s.calls c).idAt n = none := fun n c => idAt_of_not_live (hl c) n
  have hhandles : s.consolidator.handles = ∅ := by
    apply ExtTreeMap.eq_empty_iff_forall_not_mem.mpr
    intro h hm
    obtain ⟨c, hc⟩ := (hi.mem_handles h).mp hm
    rw [handleName_of_not_live (hl c)] at hc
    exact absurd hc (by simp)
  have hsysdb := AgentConsolidator.sysdb_of_handles_empty hi.consolidator hhandles
  refine ⟨?_, hi.store.eq_empty (hid 3), hi.store2.eq_empty fun c => ?_, ?_, hhandles,
    hsysdb, ?_, hu⟩
  · refine AgentServerIdManager.eq_new fun i => ?_
    rw [Bool.eq_false_iff, ne_eq, hi.ids.present_iff]
    rintro ⟨c, hc⟩
    rw [hid 1 c] at hc
    exact absurd hc (by simp)
  · unfold store2Name
    split
    · exact hid 4 c
    · rfl
  · cases hcl : s.cleanup with
    | none => rfl
    | some cl =>
      obtain ⟨-, hpc, hact, -⟩ := hi.cleanup cl hcl
      have hlive := live_of_streaming hpc hact
      rw [hl] at hlive
      exact absurd hlive (by simp)
  · refine AgentServerIdManager.eq_new fun i => ?_
    rw [Bool.eq_false_iff, ne_eq]
    intro hp
    obtain ⟨t, ht⟩ := ho.entry i hp
    rw [AgentConsolidator.entryId, AgentConsolidator.entry, hsysdb, ExtTreeMap.getElem?_empty] at ht
    exact absurd ht (by simp)

/-! ## Where the threads are -/

/-- The tear-downs move a thread only from its stream to its end. -/
def Settles (s s' : AgentServer σ) : Prop :=
  ∀ x, (s'.calls x).pc = (s.calls x).pc ∨
    ((s.calls x).pc = .streaming ∧ (s'.calls x).pc = .done)

theorem Settles.refl (s : AgentServer σ) : Settles s s := fun _ => Or.inl rfl

theorem settles_update {p : Pc} {r : SubscribeCall} (hr : r.pc = p)
    (hpc : p = (s.calls c).pc ∨ ((s.calls c).pc = .streaming ∧ p = .done))
    (hcalls : s'.calls = Function.update s.calls c r) : Settles s s' := by
  intro x
  rw [hcalls]
  by_cases hx : x = c
  · rw [hx, Function.update_self, hr]
    exact hpc
  · rw [Function.update_of_ne hx]
    exact Or.inl rfl

variable (env) in
theorem settles_finish (origin : Origin)
    (hpc : ∀ c, origin = .endOfStream c → (s.calls c).pc = .streaming) :
    Settles s (finish env s origin).2 := by
  obtain h | ⟨c, pc, hc, h⟩ := calls_finish env s origin hpc
  · intro x
    rw [h]
    exact Or.inl rfl
  · exact settles_update rfl hc h

theorem settles_endOfStream (hpc : (s.calls c).pc = .streaming)
    (hs : s.endOfStream env c = some s') : Settles s s' := by
  obtain ⟨-, -, ⟨-, -, rfl⟩ | ⟨-, -, rfl⟩ | ⟨-, rfl⟩⟩ := endOfStream_cases hs
  · exact Settles.refl s
  · exact settles_finish env _ fun x hx => Origin.endOfStream.inj hx ▸ hpc
  · exact settles_update (p := .done) rfl (Or.inr ⟨hpc, rfl⟩) rfl

variable (env) in
theorem settles_cleanupStep (he : s.Ending) (hs : s.cleanupStep env = some s') : Settles s s' := by
  obtain ⟨origin, w, k, -, rfl⟩ | ⟨origin, w, -, rfl⟩ | ⟨origin, w, hcl, -, rfl⟩ :=
    cleanupStep_cases hs
  · unfold unmap
    simp only []
    split
    · exact Settles.refl s
    · exact Settles.refl s
  · exact fun x => Or.inl (sameCore_setTerminate s w x).pc
  · exact settles_finish env (s := { s.deleteUdpSubscription w with cleanup := none }) origin
      fun x ho => he x _ (ho ▸ hcl)

theorem Settles.idle (h : Settles s s') (hpc : (s.calls c).pc = .idle) : (s'.calls c).pc = .idle := by
  obtain hsame | ⟨hstream, -⟩ := h c
  · exact hsame.trans hpc
  · rw [hpc] at hstream
    exact absurd hstream (by simp)

theorem settles_cancel {i : Nat} (hs : s.cancel env i = some s') : Settles s s' := by
  obtain ⟨-, ⟨-, -, rfl⟩ | ⟨w, -, -, rfl⟩ | ⟨-, rfl⟩⟩ := cancel_cases hs
  · exact Settles.refl _
  · exact Settles.refl s
  · exact settles_finish env _ fun c hc => absurd hc (by simp)

theorem pc_setCall_of_eq {r : SubscribeCall} (hr : r.pc = (s.calls c).pc) (x : CallId) :
    ((s.setCall c r).calls x).pc = (s.calls x).pc :=
  pc_update hr x

/-- A call is idle until it is made. -/
theorem idle_of_step {e : Event} (he : s.Ending) (hpc : (s.calls c).pc = .idle)
    (hne : ∀ request, e ≠ .subscribe c request) (hs : s.step env e = some s') :
    (s'.calls c).pc = .idle := by
  match e with
  | .subscribe x request =>
    obtain ⟨-, rfl⟩ := step_subscribe hs
    have hx : c ≠ x := fun hcx => hne request (hcx ▸ rfl)
    rw [(own_allocate s x request).calls c hx]
    exact hpc
  | .proceed x =>
    obtain ⟨hstream, hend⟩ | ⟨-, -, ⟨r, hcalls⟩, -⟩ := proceed_cases hs
    · exact (settles_endOfStream hstream hend).idle hpc
    · rw [hcalls, Function.update_of_ne]
      · exact hpc
      · rintro rfl
        rw [step, proceed, hpc] at hs
        exact absurd hs (by simp)
  | .disconnect x =>
    rw [← Option.some.inj hs]
    rw [pc_setCall_of_eq]
    · exact hpc
    · rfl
  | .cancel i => exact (settles_cancel hs).idle hpc
  | .cleanup => exact (settles_cleanupStep env he hs).idle hpc
  | .datagram buf =>
    rw [step_datagram hs]
    exact (sameCore_pushAll s.calls _ _ c).pc.trans hpc
  | .workerStep x =>
    obtain ⟨vec, w, -, rfl⟩ := workerStep_eq_some hs
    rw [pc_setCall_of_eq]
    · exact hpc
    · rfl
  | .message x now m =>
    obtain ⟨-, rfl⟩ := step_message hs
    rw [pc_setCall_of_eq]
    · exact hpc
    · rfl

/-- Only calls that were made are under way. -/
theorem made_of_run {db : PathInformationDB} {x : σ} {es : List Event}
    (hr : run (step env) (new db x) es = some s) (hpc : (s.calls c).pc ≠ .idle) :
    ∃ request, Event.subscribe c request ∈ es := by
  by_contra hno
  have hstep : ∀ (s : AgentServer σ) e s', Quiet s ∧ (s.calls c).pc = .idle →
      (∀ request, e ≠ .subscribe c request) → s.step env e = some s' →
        Quiet s' ∧ (s'.calls c).pc = .idle :=
    fun _ _ _ h hc hs => ⟨quiet_step h.1 hs, idle_of_step h.1.ending h.2 hc hs⟩
  have hother : ∀ e ∈ es, ∀ request, e ≠ .subscribe c request := by
    rintro e he request rfl
    exact hno ⟨request, he⟩
  have hmeets : Meets (step env) (fun _ e => ∀ request, e ≠ .subscribe c request) (new db x) es :=
    meets_of_forall hother _
  exact hpc (run_invariant hstep ⟨quiet_new db x, rfl⟩ hmeets hr).2

/-! ## Runs -/

variable (env) in
/-- What every step keeps that is not an early cancel. -/
structure Accounted (x : σ) (s : AgentServer σ) : Prop where
  inv : Inv env s
  served : Served env x s
  registered : env.config.udpServerModule = true → Registered s ∧ s.udpreceiver.Sane
  unmapped : env.config.udpServerModule = false → Unmapped s.udpreceiver

variable (env) in
theorem accounted_new (db : PathInformationDB) (x : σ) : Accounted env x (new db x) where
  inv := inv_new db x
  served := ⟨[], rfl⟩
  registered _ := ⟨registered_new db x, UdpReceiver.sane_new⟩
  unmapped _ := ⟨rfl, rfl⟩

theorem accounted_step {x : σ} {e : Event} (h : Accounted env x s) (hc : NoEarlyCancel env s e)
    (hs : s.step env e = some s') : Accounted env x s' where
  inv := inv_step h.inv hc hs
  served := served_allocStep (e := .event e) h.served hs
  registered hudp :=
    ⟨registered_step hudp h.inv (h.registered hudp).1 hs,
      sane_step h.inv (h.registered hudp).1 (h.registered hudp).2 hs⟩
  unmapped hudp := unmapped_step hudp h.inv (h.unmapped hudp) hs

theorem Accounted.vacant {x : σ} (h : Accounted env x s) (hl : ∀ c, (s.calls c).live = false) :
    Vacant s := by
  obtain ⟨calls, hcalls⟩ := h.served
  apply vacant_of_inv h.inv (AgentConsolidator.owned_of_run hcalls) ?_ hl
  cases hudp : env.config.udpServerModule with
  | true => exact unmapped_of_registered (h.registered hudp).1 (h.registered hudp).2 hl
  | false => exact h.unmapped hudp

theorem accounted_of_run {db : PathInformationDB} {x : σ} {es : List Event}
    (hc : Meets (step env) (NoEarlyCancel env) (new db x) es)
    (hr : run (step env) (new db x) es = some s) : Accounted env x s :=
  run_invariant (fun _ _ _ h hc hs => accounted_step h hc hs) (accounted_new env db x) hc hr

/-- **Nothing is left.** In every run without an early cancel, a state in which no call is
    live has nothing allocated, stored, mapped or held. -/
theorem vacant_of_run (env : Environment σ) (db : PathInformationDB) (x : σ) (es : List Event)
    (hc : Meets (step env) (NoEarlyCancel env) (new db x) es) (s : AgentServer σ)
    (hr : run (step env) (new db x) es = some s) (hl : ∀ c, (s.calls c).live = false) :
    Vacant s :=
  (accounted_of_run hc hr).vacant hl

/-- Two calls set up side by side share an entry of `sysdb`; one is cancelled, the client of the
    other leaves. -/
theorem vacant_of_run_two :
    ∃ s, run (step (nullEnvironment true)) (new ∅ {})
        (.subscribe 0 { pathList := [{ path := "firewall" }] } ::
          .subscribe 1 { pathList := [{ path := "lsp" }, { path := "firewall" }] } ::
          (List.replicate 8 (.proceed 0) ++ List.replicate 9 (.proceed 1) ++
            [.cancel 1, .disconnect 1] ++ List.replicate 4 .cleanup ++ [.proceed 0, .proceed 1] ++
            List.replicate 5 .cleanup)) = some s ∧ Vacant s := by
  have hrun : (run (step (nullEnvironment true)) (new ∅ {})
      (.subscribe 0 { pathList := [{ path := "firewall" }] } ::
        .subscribe 1 { pathList := [{ path := "lsp" }, { path := "firewall" }] } ::
        (List.replicate 8 (.proceed 0) ++ List.replicate 9 (.proceed 1) ++
          [.cancel 1, .disconnect 1] ++ List.replicate 4 .cleanup ++ [.proceed 0, .proceed 1] ++
          List.replicate 5 .cleanup))).map (fun s => ((s.calls 0).pc, (s.calls 1).pc)) =
      some (.done, .done) := by
    decide +kernel
  obtain ⟨s, hs, hpc⟩ := Option.map_eq_some_iff.mp hrun
  obtain ⟨h0, h1⟩ := Prod.mk.inj hpc
  refine ⟨s, hs, vacant_of_run _ _ _ _ (by decide +kernel) s hs fun c => ?_⟩
  by_cases hidle : (s.calls c).pc = .idle
  · exact live_of_pc_idle hidle
  · obtain ⟨request, hmade⟩ := made_of_run hs hidle
    have hc : c = 0 ∨ c = 1 := Or.imp And.left And.left (by simpa using hmade)
    obtain rfl | rfl := hc
    · exact live_of_pc_done h0
    · exact live_of_pc_done h1

end AgentServer

end TelemetryAgent
