/-
  What the UDP receiver knows of the calls.

  `telemetrySubscribe` enters its worker in the receiver and then maps the internal ids of
  its system handles, one at a time; the tear-down unmaps them one at a time and then takes
  the worker out. `mappedIds s c` are the internal ids that call `c` has mapped and not
  unmapped, read off where its thread and the tear-down stand. `Registered`: the receiver's
  two tables say the same. It is kept by every step under which the server's own invariant
  is kept (`registered_step`).
-/
import TelemetryAgent.Server.Steps

namespace TelemetryAgent

open Std TelemetryAgent.Lib

variable {σ : Type}

namespace AgentServer

open SubscribeCall

/-- The ids mapped by a thread at `pc`. -/
def added (ids : List Nat) : Pc → List Nat
  | .mapping k => ids.take k
  | _ => ids

theorem mem_of_mem_added {ids : List Nat} {pc : Pc} {i : Nat} (h : i ∈ added ids pc) : i ∈ ids := by
  unfold added at h
  split at h
  · exact List.mem_of_mem_take h
  · exact h

/-- The ids of call `c` that the tear-down has unmapped. -/
def deleted (ids : List Nat) (c : CallId) : Option Cleanup → List Nat
  | some ⟨_, .unmapping w k⟩ => if w = c then ids.take k else []
  | some ⟨_, .unregistered w⟩ => if w = c then ids else []
  | some ⟨_, .terminated w⟩ => if w = c then ids else []
  | none => []

/-- The internal ids of the system handles of call `c` that are mapped to it. -/
def mappedIds (s : AgentServer σ) (c : CallId) : List Nat :=
  let ids := s.internalIds (s.calls c).systemHandle
  if (s.calls c).holds 5 then
    (added ids (s.calls c).pc).filter fun i => i ∉ deleted ids c s.cleanup
  else []

/-- The pairs of its own id and an internal id that call `c` has in the mapping store. -/
def mappings (s : AgentServer σ) (c : CallId) : List (Nat × Nat) :=
  (s.mappedIds c).map fun i => ((s.calls c).id, i)

def isUnregistered (c : CallId) : Option Cleanup → Bool
  | some ⟨_, .unregistered w⟩ => w = c
  | some ⟨_, .terminated w⟩ => w = c
  | _ => false

/-- The id under which the worker of call `c` is in the receiver. -/
def workerName (s : AgentServer σ) (c : CallId) : Option Nat :=
  if isUnregistered c s.cleanup then none else (s.calls c).idAt 5

structure Registered (s : AgentServer σ) : Prop where
  workers : Tracks s.udpreceiver.extIdWorkerStore s.workerName
  mapped : ∀ e i, e ∈ s.udpreceiver.extIds i ↔ ∃ c, (e, i) ∈ s.mappings c

variable {env : Environment σ} {s s' : AgentServer σ} {c : CallId}

theorem mem_mappings {e i : Nat} :
    (e, i) ∈ s.mappings c ↔ (s.calls c).id = e ∧ i ∈ s.mappedIds c := by
  unfold mappings
  rw [List.mem_map]
  constructor
  · intro hexists
    obtain ⟨j, hj, he⟩ := hexists
    obtain ⟨rfl, rfl⟩ := Prod.mk.inj he
    exact ⟨rfl, hj⟩
  · intro hboth
    obtain ⟨rfl, hi⟩ := hboth
    exact ⟨i, hi, rfl⟩

theorem mappedIds_of_not_holds (h : (s.calls c).holds 5 = false) : s.mappedIds c = [] := by
  unfold mappedIds
  rw [h]
  rfl

theorem mappings_of_not_holds (h : (s.calls c).holds 5 = false) : s.mappings c = [] := by
  unfold mappings
  rw [mappedIds_of_not_holds h]
  rfl

theorem workerName_of_not_holds (h : (s.calls c).holds 5 = false) : s.workerName c = none := by
  unfold workerName idAt
  rw [h]
  exact ite_self _

theorem holds_of_mem_mappedIds {i : Nat} (h : i ∈ s.mappedIds c) :
    (s.calls c).holds 5 = true := by
  cases hh : (s.calls c).holds 5 with
  | true => rfl
  | false =>
    rw [mappedIds_of_not_holds hh] at h
    exact absurd h (by simp)

theorem registered_new (db : PathInformationDB) (x : σ) : Registered (new db x) where
  workers := by
    have hn : (new db x).workerName = fun _ => none := by
      funext c
      exact workerName_of_not_holds rfl
    rw [hn]
    exact tracks_empty
  mapped e i := by
    constructor
    · intro hm
      exact absurd hm (by simp [new, UdpReceiver.new, UdpReceiver.extIds])
    · intro hexists
      obtain ⟨c, hc⟩ := hexists
      rw [mappings_of_not_holds rfl] at hc
      exact absurd hc (by simp)

/-! ## What a step leaves alone -/

/-- The step does not concern call `x`, as far as the receiver is concerned. -/
structure Aloof (s s' : AgentServer σ) (x : CallId) : Prop where
  call : SameCore (s.calls x) (s'.calls x)
  ids : (s.calls x).holds 5 = true → s'.internalIds (s.calls x).systemHandle =
    s.internalIds (s.calls x).systemHandle
  deleted : ∀ ids, deleted ids x s'.cleanup = AgentServer.deleted ids x s.cleanup
  unregistered : isUnregistered x s'.cleanup = isUnregistered x s.cleanup

theorem Aloof.workerName {x : CallId} (h : Aloof s s' x) : s'.workerName x = s.workerName x := by
  unfold AgentServer.workerName
  rw [h.unregistered, h.call.idAt]

theorem Aloof.mappings {x : CallId} (h : Aloof s s' x) : s'.mappings x = s.mappings x := by
  cases hh : (s.calls x).holds 5 with
  | false => rw [mappings_of_not_holds hh, mappings_of_not_holds (by rw [h.call.holds, hh])]
  | true =>
    unfold AgentServer.mappings mappedIds
    rw [h.call.holds, h.call.id, h.call.pc, h.call.systemHandle, h.ids hh]
    simp only [h.deleted]

theorem Registered.of_aloof (h : Registered s)
    (hw : s'.udpreceiver.extIdWorkerStore = s.udpreceiver.extIdWorkerStore)
    (he : s'.udpreceiver.extIds = s.udpreceiver.extIds) (ha : ∀ x, Aloof s s' x) :
    Registered s' where
  workers := by
    rw [hw, funext fun x => (ha x).workerName]
    exact h.workers
  mapped e i := by
    rw [he, h.mapped]
    exact exists_congr fun x => by rw [(ha x).mappings]

/-- A step concerns call `c` only. -/
theorem registered_of_others (s : AgentServer σ) (c : CallId) (ha : ∀ x, x ≠ c → Aloof s s' x)
    (hw : Tracks s'.udpreceiver.extIdWorkerStore
      (Function.update s.workerName c (s'.workerName c)))
    (hm : ∀ e i, e ∈ s'.udpreceiver.extIds i ↔
      (e, i) ∈ s'.mappings c ∨ ∃ x, x ≠ c ∧ (e, i) ∈ s.mappings x) : Registered s' where
  workers := by
    have hf : s'.workerName = Function.update s.workerName c (s'.workerName c) := by
      funext x
      by_cases hx : x = c
      · rw [hx, Function.update_self]
      · rw [Function.update_of_ne hx, (ha x hx).workerName]
    rw [hf]
    exact hw
  mapped e i := by
    rw [hm]
    constructor
    · intro hx
      obtain hx | ⟨x, hne, hx⟩ := hx
      · exact ⟨c, hx⟩
      · exact ⟨x, (ha x hne).mappings ▸ hx⟩
    · intro hexists
      obtain ⟨x, hx⟩ := hexists
      by_cases hxc : x = c
      · exact Or.inl (hxc ▸ hx)
      · exact Or.inr ⟨x, hxc, (ha x hxc).mappings ▸ hx⟩

theorem Registered.mapped_others (h : Registered s) (c : CallId) (e i : Nat) :
    e ∈ s.udpreceiver.extIds i ↔ (e, i) ∈ s.mappings c ∨ ∃ x, x ≠ c ∧ (e, i) ∈ s.mappings x := by
  rw [h.mapped]
  constructor
  · intro hexists
    obtain ⟨x, hx⟩ := hexists
    by_cases hxc : x = c
    · exact Or.inl (hxc ▸ hx)
    · exact Or.inr ⟨x, hxc, hx⟩
  · intro hx
    obtain hx | ⟨x, _, hx⟩ := hx
    · exact ⟨c, hx⟩
    · exact ⟨x, hx⟩

/-- A step concerns call `c` only and leaves the receiver alone. -/
theorem Registered.of_call (h : Registered s)
    (hw : s'.udpreceiver.extIdWorkerStore = s.udpreceiver.extIdWorkerStore)
    (he : s'.udpreceiver.extIds = s.udpreceiver.extIds) (ha : ∀ x, x ≠ c → Aloof s s' x)
    (hn : s'.workerName c = s.workerName c) (hm : s'.mappings c = s.mappings c) :
    Registered s' := by
  refine registered_of_others s c ha ?_ fun e i => ?_
  · rw [hw, hn, Function.update_eq_self]
    exact h.workers
  · rw [he, hm, h.mapped_others c]

theorem aloof_update {r : SubscribeCall} (hcalls : s'.calls = Function.update s.calls c r)
    (hcl : s'.cleanup = s.cleanup) {x : CallId} (hx : x ≠ c)
    (hids : (s.calls x).holds 5 = true → s'.internalIds (s.calls x).systemHandle =
      s.internalIds (s.calls x).systemHandle) : Aloof s s' x where
  call := by
    rw [hcalls, Function.update_of_ne hx]
    exact SameCore.refl _
  ids := hids
  deleted _ := by rw [hcl]
  unregistered := by rw [hcl]

/-- A point of the set-up before the worker is registered. -/
theorem Registered.of_unheld (h : Registered s) {r : SubscribeCall}
    (hcalls : s'.calls = Function.update s.calls c r) (hu : s'.udpreceiver = s.udpreceiver)
    (hcl : s'.cleanup = s.cleanup)
    (hids : ∀ x, (s.calls x).holds 5 = true → s'.internalIds (s.calls x).systemHandle =
      s.internalIds (s.calls x).systemHandle)
    (h5 : (s.calls c).holds 5 = false) (h5' : r.holds 5 = false) : Registered s' := by
  have hr : (s'.calls c).holds 5 = false := by
    rw [hcalls, Function.update_self]
    exact h5'
  refine h.of_call (by rw [hu]) (by rw [hu]) (fun x hx => aloof_update hcalls hcl hx (hids x)) ?_ ?_
  · rw [workerName_of_not_holds h5, workerName_of_not_holds hr]
  · rw [mappings_of_not_holds h5, mappings_of_not_holds hr]

/-! ## The points of the set-up -/

theorem deleted_of_ne (ids : List Nat) {o : Option Cleanup}
    (h : ∀ cl, o = some cl → cl.stage.worker ≠ c) : deleted ids c o = [] := by
  cases o with
  | none => rfl
  | some cl =>
    obtain ⟨origin, stage⟩ := cl
    have hne := h _ rfl
    cases stage with
    | unmapping w k => exact if_neg hne
    | unregistered w | terminated w => exact if_neg hne

theorem isUnregistered_of_ne {o : Option Cleanup}
    (h : ∀ cl, o = some cl → cl.stage.worker ≠ c) : isUnregistered c o = false := by
  cases o with
  | none => rfl
  | some cl =>
    obtain ⟨origin, stage⟩ := cl
    have hne := h _ rfl
    cases stage with
    | unmapping w k => rfl
    | unregistered w | terminated w => exact decide_eq_false hne

/-- While no tear-down of the call is under way, what it has mapped is what it has added. -/
theorem mappedIds_eq_added (hh : (s.calls c).holds 5 = true)
    (hd : ∀ cl, s.cleanup = some cl → cl.stage.worker ≠ c) :
    s.mappedIds c = added (s.internalIds (s.calls c).systemHandle) (s.calls c).pc := by
  unfold mappedIds
  rw [hh]
  simp only [if_true, deleted_of_ne _ hd, List.not_mem_nil, not_false_eq_true, decide_true,
    List.filter_true]

theorem workerName_eq_idAt (hd : ∀ cl, s.cleanup = some cl → cl.stage.worker ≠ c) :
    s.workerName c = (s.calls c).idAt 5 := by
  unfold workerName
  rw [isUnregistered_of_ne hd]
  rfl

theorem registered_allocate (h : Registered s) (hpc : (s.calls c).pc = .idle)
    (request : SubscriptionRequest) : Registered (s.allocate c request) := by
  have h5 : (s.calls c).holds 5 = false := holds_of_not_live (live_of_pc_idle hpc) 5
  obtain ⟨r, hr, he⟩ | ⟨i, _, _, _, he⟩ := allocate_spec s c request
  · rw [he]
    exact h.of_unheld rfl rfl rfl (fun _ _ => rfl) h5 (holds_of_not_live (live_of_pc_done hr) 5)
  · rw [he]
    exact h.of_unheld rfl rfl rfl (fun _ _ => rfl) h5 rfl

theorem not_holds_of_rank {r : SubscribeCall} (h : r.pc.rank < 5) : r.holds 5 = false := by
  unfold holds
  rw [decide_eq_false (by omega), Bool.and_false]

theorem Inv.mem_consolidator (hi : Inv env s) {x : CallId} (hx : (s.calls x).holds 2 = true) :
    (s.calls x).systemHandle ∈ s.consolidator.handles :=
  (hi.mem_handles _).mpr ⟨x, handleName_eq_some.mpr ⟨hx, rfl⟩⟩

theorem registered_addRequest (hi : Inv env s) (h : Registered s)
    (hpc : (s.calls c).pc = .allocated) : Registered (s.addRequest env c true) := by
  have h5 : (s.calls c).holds 5 = false := not_holds_of_rank (by simp [hpc, Pc.rank])
  rw [addRequest_spec]
  refine h.of_unheld rfl rfl rfl (fun x hh => ?_) h5 (not_holds_of_rank (by simp [Pc.rank]))
  have hm := hi.mem_consolidator (holds_mono hh (by omega))
  exact (AgentConsolidator.getHandles_addRequest env.sys hi.consolidator _ _ hm).1

/-- A point after the registration that maps nothing. -/
theorem Registered.of_held (h : Registered s) {r : SubscribeCall}
    (hcalls : s'.calls = Function.update s.calls c r) (hu : s'.udpreceiver = s.udpreceiver)
    (hcon : s'.consolidator = s.consolidator) (hcl : s'.cleanup = s.cleanup)
    (hc : ∀ cl, s.cleanup = some cl → cl.stage.worker ≠ c)
    (h5 : (s.calls c).holds 5 = true) (h5' : r.holds 5 = true) (hid : r.id = (s.calls c).id)
    (hh : r.systemHandle = (s.calls c).systemHandle)
    (ha : added (s.internalIds (s.calls c).systemHandle) r.pc =
      added (s.internalIds (s.calls c).systemHandle) (s.calls c).pc) : Registered s' := by
  have hr : s'.calls c = r := by
    rw [hcalls, Function.update_self]
  refine h.of_call (by rw [hu]) (by rw [hu]) (fun x hx => aloof_update hcalls hcl hx fun _ => ?_) ?_ ?_
  · unfold internalIds
    rw [hcon]
  · rw [workerName_eq_idAt hc, workerName_eq_idAt (hcl ▸ hc), hr]
    unfold idAt
    rw [h5, h5', hid]
  · unfold mappings
    have hids : s'.internalIds (s.calls c).systemHandle =
        s.internalIds (s.calls c).systemHandle := by
      unfold internalIds
      rw [hcon]
    rw [mappedIds_eq_added h5 hc, mappedIds_eq_added (by rw [hr, h5']) (hcl ▸ hc), hr, hid, hh,
      hids, ha]

theorem idAt_of_workerName {x : CallId} {i : Nat} (h : s.workerName x = some i) :
    (s.calls x).idAt 5 = some i := by
  unfold workerName at h
  split at h
  · exact absurd h (by simp)
  · exact h

/-- No other live call has the id of a live one. -/
theorem Inv.eq_of_id (hi : Inv env s) {x y : CallId} (hx : (s.calls x).holds 1 = true)
    (hy : (s.calls y).holds 1 = true) (h : (s.calls x).id = (s.calls y).id) : x = y :=
  hi.ids.distinct (idAt_eq_some.mpr ⟨hx, h⟩) (idAt_eq_some.mpr ⟨hy, rfl⟩)

/-- No worker is registered yet under the id of a call that is about to register its own. -/
theorem Inv.workerName_ne (hi : Inv env s) (hpc : (s.calls c).pc = .workerCreated) (x : CallId) :
    s.workerName x ≠ some (s.calls c).id := by
  intro hx
  have hrank : (s.calls c).pc.rank = 4 := congrArg Pc.rank hpc
  obtain ⟨hx5, hxid⟩ := idAt_eq_some.mp (idAt_of_workerName hx)
  have he := hi.eq_of_id (holds_mono hx5 (by omega))
    (holds_of_rank (by omega) (by omega) (by omega)) hxid
  rw [he, not_holds_of_rank (by omega)] at hx5
  exact absurd hx5 (by simp)

theorem Inv.subId_of_workerCreated (hi : Inv env s) (hpc : (s.calls c).pc = .workerCreated) :
    (s.calls c).sub.id = (s.calls c).id := by
  have hrank : (s.calls c).pc.rank = 4 := congrArg Pc.rank hpc
  exact ((hi.wf c).sub (holds_of_rank (by omega) (by omega) (by omega))).1

theorem registered_addWorker (hi : Inv env s) (h : Registered s)
    (hpc : (s.calls c).pc = .workerCreated) : Registered (s.addWorker c) := by
  have hrank : (s.calls c).pc.rank = 4 := congrArg Pc.rank hpc
  have h5 : (s.calls c).holds 5 = false := not_holds_of_rank (by omega)
  have hid := hi.subId_of_workerCreated hpc
  have hcl : ∀ cl, s.cleanup = some cl → cl.stage.worker ≠ c := fun cl hcl =>
    hi.cleanup_ne (by omega) hcl
  have hfree := hi.workerName_ne hpc
  have hr : (s.addWorker c).calls c = { s.calls c with pc := .mapping 0 } := by
    simp only [addWorker, setCall, Function.update_self]
  have h5' : ((s.addWorker c).calls c).holds 5 = true := by
    rw [hr]
    rfl
  refine registered_of_others s c (fun x hx => ?_) ?_ fun e i => ?_
  · refine ⟨?_, fun _ => rfl, fun _ => rfl, rfl⟩
    simp only [addWorker, setCall, Function.update_of_ne hx]
    exact SameCore.refl _
  · rw [workerName_eq_idAt (s := s.addWorker c) hcl, hr]
    show Tracks (s.udpreceiver.addWorker (s.calls c).sub.id c).extIdWorkerStore _
    rw [hid, UdpReceiver.workers_addWorker]
    · exact h.workers.insert (workerName_of_not_holds h5) hfree
    · exact Inverse.eq_none h.workers hfree
  · have hm : (s.addWorker c).mappings c = [] := by
      unfold mappings
      rw [mappedIds_eq_added h5' hcl, hr]
      rfl
    show e ∈ (s.udpreceiver.addWorker _ c).extIds i ↔ _
    rw [UdpReceiver.extIds_addWorker, hm, h.mapped_others c, mappings_of_not_holds h5]

theorem holds_of_mapping {r : SubscribeCall} {k n : Nat} (hpc : r.pc = .mapping k) (hn : n ≤ 5) :
    r.holds n = true := by
  have hrank : r.pc.rank = 5 := congrArg Pc.rank hpc
  exact holds_of_rank (by omega) (by omega) (by omega)

theorem registered_addMapping (hi : Inv env s) (h : Registered s) {k : Nat}
    (hpc : (s.calls c).pc = .mapping k) : Registered (s.addMapping c k) := by
  have hcl : ∀ cl, s.cleanup = some cl → cl.stage.worker ≠ c := fun cl hcl =>
    hi.cleanup_ne (by simp [hpc, Pc.rank]) hcl
  have h5 := holds_of_mapping hpc (Nat.le_refl 5)
  have hudp := (hi.wf c).udp (by simp [hpc, Pc.rank]) (by simp [hpc, Pc.rank])
  have hid : (s.calls c).worker.id = (s.calls c).id :=
    ((hi.wf c).worker hudp (holds_of_mapping hpc (by omega))).1
  cases hk : (s.internalIds (s.calls c).systemHandle)[k]? with
  | none =>
    have he : s.addMapping c k = s.sendResponse c := by
      unfold addMapping
      simp only [hk]
    rw [he]
    refine h.of_held rfl rfl rfl rfl hcl h5 rfl rfl rfl ?_
    rw [hpc]
    exact (List.take_of_length_le (List.getElem?_eq_none_iff.mp hk)).symm
  | some intId =>
    have hr : (s.addMapping c k).calls c = { s.calls c with pc := .mapping (k + 1) } := by
      unfold addMapping
      simp only [hk, setCall, Function.update_self]
    have hu : (s.addMapping c k).udpreceiver =
        s.udpreceiver.addMapping (s.calls c).id intId := by
      unfold addMapping
      simp only [hk, hid]
    have hcl' : (s.addMapping c k).cleanup = s.cleanup := by
      unfold addMapping
      simp only [hk, setCall]
    have hids : (s.addMapping c k).internalIds = s.internalIds := by
      unfold addMapping
      simp only [hk]
      rfl
    have h5' : ((s.addMapping c k).calls c).holds 5 = true := by
      rw [hr]
      rfl
    have hm : (s.addMapping c k).mappings c = s.mappings c ++ [((s.calls c).id, intId)] := by
      unfold mappings
      rw [mappedIds_eq_added h5' (hcl' ▸ hcl), mappedIds_eq_added h5 hcl, hr, hids, hpc]
      simp only [added, List.take_add_one, hk, Option.toList_some, List.map_append, List.map_cons,
        List.map_nil]
    refine registered_of_others s c (fun x hx => ?_) ?_ fun e i => ?_
    · refine ⟨?_, fun _ => by rw [hids], fun _ => by rw [hcl'], by rw [hcl']⟩
      unfold addMapping
      simp only [hk, setCall, Function.update_of_ne hx]
      exact SameCore.refl _
    · rw [hu, UdpReceiver.workers_addMapping, workerName_eq_idAt (hcl' ▸ hcl), hr]
      have hn : SubscribeCall.idAt 5 { s.calls c with pc := .mapping (k + 1) } =
          s.workerName c := by
        rw [workerName_eq_idAt hcl]
        unfold idAt
        rw [h5]
        rfl
      rw [hn, Function.update_eq_self]
      exact h.workers
    · rw [hu, UdpReceiver.extIds_addMapping, hm]
      have hold := h.mapped_others c e i
      split
      · rename_i hin
        rw [List.mem_append, hold, List.mem_append, List.mem_singleton, List.mem_singleton,
          Prod.mk.injEq, hin]
        grind
      · rename_i hin
        rw [hold, List.mem_append, List.mem_singleton, Prod.mk.injEq]
        grind

/-! ## Tear-down -/

/-- The mutex is taken to tear call `w` down: nothing is unmapped yet. -/
theorem Registered.start (h : Registered s) (hcl : s.cleanup = none) (origin : Origin)
    (w : CallId) : Registered { s with cleanup := some ⟨origin, .unmapping w 0⟩ } := by
  refine h.of_aloof rfl rfl fun x => ⟨SameCore.refl _, fun _ => rfl, fun ids => ?_, ?_⟩
  · rw [hcl]
    show (if w = x then ids.take 0 else []) = []
    rw [List.take_zero, ite_self]
  · rw [hcl]
    rfl

theorem mappedIds_unmapping (hpc : (s.calls c).pc = .streaming)
    (ha : (s.calls c).sub.active = true) {origin : Origin} {k : Nat}
    (hcl : s.cleanup = some ⟨origin, .unmapping c k⟩) :
    s.mappedIds c = (s.internalIds (s.calls c).systemHandle).filter
      fun i => i ∉ (s.internalIds (s.calls c).systemHandle).take k := by
  unfold mappedIds
  rw [holds_of_streaming hpc ha (by omega), hpc, hcl]
  simp only [if_true, added, deleted]

theorem mappedIds_unregistered (hun : isUnregistered c s.cleanup = true) : s.mappedIds c = [] := by
  have hdeleted : ∀ ids, deleted ids c s.cleanup = ids := by
    intro ids
    unfold isUnregistered at hun
    split at hun
    · next hcl => rw [hcl, deleted, if_pos (of_decide_eq_true hun)]
    · next hcl => rw [hcl, deleted, if_pos (of_decide_eq_true hun)]
    · exact absurd hun Bool.false_ne_true
  unfold mappedIds
  dsimp only
  split
  · rw [List.filter_eq_nil_iff, hdeleted]
    intro i hi
    simpa using mem_of_mem_added hi
  · rfl

/-- A call with a mapping is in the receiver under its id. -/
theorem workerName_of_mem_mappedIds {i : Nat} (h : i ∈ s.mappedIds c) :
    s.workerName c = some (s.calls c).id := by
  unfold workerName
  rw [if_neg]
  · exact idAt_eq_some.mpr ⟨holds_of_mem_mappedIds h, rfl⟩
  · intro hun
    rw [mappedIds_unregistered hun] at h
    exact absurd h List.not_mem_nil

/-- Another call's mappings are under another id. -/
theorem Inv.ne_of_mappings (hi : Inv env s) {w x : CallId} (hw : (s.calls w).holds 1 = true)
    (hx : x ≠ w) {e i : Nat} (hm : (e, i) ∈ s.mappings x) : e ≠ (s.calls w).id := by
  obtain ⟨rfl, hi'⟩ := mem_mappings.mp hm
  intro he
  exact hx (hi.eq_of_id (holds_mono (holds_of_mem_mappedIds hi') (by omega)) hw he)

/-- The tear-down of call `w` moves on: the other calls are not concerned. -/
theorem aloof_cleanup {w x : CallId} (hx : x ≠ w) {o : Origin} {st st' : CleanupStage}
    (hcl : s.cleanup = some ⟨o, st⟩) (hcl' : s'.cleanup = some ⟨o, st'⟩) (hw : st.worker = w)
    (hw' : st'.worker = w) (hcalls : s'.calls = s.calls) (hcon : s'.consolidator = s.consolidator) :
    Aloof s s' x := by
  have hne : ∀ {st : CleanupStage}, st.worker = w → ∀ cl, some (Cleanup.mk o st) = some cl →
      cl.stage.worker ≠ x := by
    intro st hst cl hcl
    rw [← Option.some.inj hcl]
    exact fun he => hx (he.symm.trans hst)
  refine ⟨?_, fun _ => ?_, fun ids => ?_, ?_⟩
  · rw [hcalls]
    exact SameCore.refl _
  · unfold internalIds
    rw [hcon]
  · rw [hcl, hcl', deleted_of_ne _ (hne hw), deleted_of_ne _ (hne hw')]
  · rw [hcl, hcl', isUnregistered_of_ne (hne hw), isUnregistered_of_ne (hne hw')]

section Unmap

variable {origin : Origin} {w : CallId} {k : Nat} (hi : Inv env s) (h : Registered s)
  (hcl : s.cleanup = some ⟨origin, .unmapping w k⟩) (hcalls : s'.calls = s.calls)
  (hcon : s'.consolidator = s.consolidator)
include hi h hcl hcalls hcon

theorem registered_delWorker (hk : (s.internalIds (s.calls w).systemHandle)[k]? = none)
    (hu : s'.udpreceiver = s.udpreceiver.delWorker (s.calls w).id)
    (hcl' : s'.cleanup = some ⟨origin, .unregistered w⟩) : Registered s' := by
  obtain ⟨_, hpc, ha, _⟩ := hi.cleanup _ hcl
  simp only [CleanupStage.worker] at hpc ha
  have hname : s.workerName w = some (s.calls w).id := by
    unfold workerName
    rw [hcl]
    exact idAt_eq_some.mpr ⟨holds_of_streaming hpc ha (by omega), rfl⟩
  have hname' : s'.workerName w = none := by
    unfold workerName isUnregistered
    rw [hcl']
    simp only [decide_true, if_true]
  have hm : s.mappings w = [] := by
    unfold mappings
    rw [mappedIds_unmapping hpc ha hcl, List.take_of_length_le (List.getElem?_eq_none_iff.mp hk),
      List.filter_eq_nil_iff.mpr fun i hi => by simpa using hi]
    rfl
  have hm' : s'.mappings w = [] := by
    unfold mappings
    rw [mappedIds_unregistered (by rw [hcl']; exact decide_eq_true rfl)]
    rfl
  refine registered_of_others s w (fun x hx => aloof_cleanup hx hcl hcl' rfl rfl hcalls hcon) ?_
    fun e i => ?_
  · rw [hname', hu, UdpReceiver.workers_delWorker]
    exact h.workers.erase hname
  · rw [hu, UdpReceiver.extIds_delWorker, h.mapped_others w, hm, hm']

theorem registered_delMapping {intId : Nat}
    (hk : (s.internalIds (s.calls w).systemHandle)[k]? = some intId)
    (hu : s'.udpreceiver = s.udpreceiver.delMapping (s.calls w).id intId)
    (hcl' : s'.cleanup = some ⟨origin, .unmapping w (k + 1)⟩) : Registered s' := by
  obtain ⟨_, hpc, ha, _⟩ := hi.cleanup _ hcl
  simp only [CleanupStage.worker] at hpc ha
  have hname : s'.workerName w = s.workerName w := by
    unfold workerName
    rw [hcl, hcl', hcalls]
    rfl
  have hids : s'.internalIds = s.internalIds := by
    unfold internalIds
    rw [hcon]
  have hm : ∀ e i, (e, i) ∈ s'.mappings w ↔ (e, i) ∈ s.mappings w ∧ i ≠ intId := by
    intro e i
    rw [mem_mappings, mem_mappings, mappedIds_unmapping (hcalls ▸ hpc) (hcalls ▸ ha) hcl',
      mappedIds_unmapping hpc ha hcl, hcalls, hids, List.mem_filter, List.mem_filter,
      decide_eq_true_eq, decide_eq_true_eq, List.take_add_one, hk, Option.toList_some,
      List.mem_append, List.mem_singleton, not_or]
    tauto
  refine registered_of_others s w (fun x hx => aloof_cleanup hx hcl hcl' rfl rfl hcalls hcon) ?_
    fun e i => ?_
  · rw [hname, hu, UdpReceiver.workers_delMapping, Function.update_eq_self]
    exact h.workers
  · rw [hu, UdpReceiver.extIds_delMapping, hm]
    have hold := h.mapped_others w e i
    split
    · rename_i hin
      rw [List.mem_filter, hold, bne_iff_ne]
      constructor
      · intro hboth
        obtain ⟨hx, hne⟩ := hboth
        obtain hx | hx := hx
        · exact absurd (mem_mappings.mp hx).1.symm hne
        · exact Or.inr hx
      · intro hx
        obtain hx | ⟨x, hx, hm⟩ := hx
        · exact absurd hin hx.2
        · exact ⟨Or.inr ⟨x, hx, hm⟩,
            hi.ne_of_mappings (holds_of_streaming hpc ha (by omega)) hx hm⟩
    · rename_i hin
      rw [hold, and_iff_left hin]

end Unmap

theorem registered_unmap (hi : Inv env s) (h : Registered s) {origin : Origin} {w : CallId}
    {k : Nat} (hcl : s.cleanup = some ⟨origin, .unmapping w k⟩) :
    Registered (s.unmap origin w k) := by
  obtain ⟨hudp, hpc, ha, _⟩ := hi.cleanup _ hcl
  simp only [CleanupStage.worker] at hpc ha
  obtain ⟨hid, hh⟩ := (hi.wf w).worker hudp (holds_of_streaming hpc ha (by omega))
  unfold unmap
  simp only [hh, hid]
  cases hk : (s.internalIds (s.calls w).systemHandle)[k]? with
  | none => exact registered_delWorker hi h hcl rfl rfl hk rfl rfl
  | some intId => exact registered_delMapping hi h hcl rfl rfl hk rfl rfl

/-- The worker that is told to terminate has left the receiver. -/
theorem registered_setTerminate (h : Registered s) {origin : Origin} {w : CallId}
    (hcl : s.cleanup = some ⟨origin, .unregistered w⟩) :
    Registered { s.setTerminate w with cleanup := some ⟨origin, .terminated w⟩ } := by
  refine h.of_aloof rfl rfl fun x => ⟨sameCore_setTerminate s w x, fun _ => rfl, fun ids => ?_, ?_⟩
  · rw [hcl]
    rfl
  · rw [hcl]
    rfl

/-- The end of a tear-down: the receiver knows nothing of the call any more. -/
theorem registered_tearDown (hi : Inv env s) (h : Registered s) {origin : Origin} {w : CallId}
    (hcl : s.cleanup = some ⟨origin, .terminated w⟩) {r : SubscribeCall}
    (hcalls : s'.calls = Function.update s.calls w r) (hr : r.live = false)
    (hcon : s'.consolidator = s.consolidator.removeRequest env.sys env.getMessageString
      (some (s.calls w).systemHandle)) (hu : s'.udpreceiver = s.udpreceiver)
    (hcl' : s'.cleanup = none) : Registered s' := by
  obtain ⟨_, hpc, ha, _⟩ := hi.cleanup _ hcl
  simp only [CleanupStage.worker] at hpc ha
  have hw2 := holds_of_streaming hpc ha (by omega : 2 ≤ 8)
  obtain ⟨y, hy⟩ := Option.isSome_iff_exists.mp
    (ExtTreeMap.mem_iff_isSome_getElem?.mp (hi.mem_consolidator hw2))
  have h5 : (s'.calls w).holds 5 = false := by
    rw [hcalls, Function.update_self]
    exact holds_of_not_live hr 5
  have hname : s.workerName w = none := by
    unfold workerName isUnregistered
    rw [hcl]
    simp only [decide_true, if_true]
  have hm : s.mappings w = [] := by
    unfold mappings
    rw [mappedIds_unregistered (by rw [hcl]; exact decide_eq_true rfl)]
    rfl
  refine h.of_call (c := w) (by rw [hu]) (by rw [hu]) (fun x hx => ?_) ?_ ?_
  · have hne : ∀ cl, s.cleanup = some cl → cl.stage.worker ≠ x := by
      intro cl hcl2
      rw [hcl] at hcl2
      rw [← Option.some.inj hcl2]
      exact fun he => hx he.symm
    refine ⟨?_, fun hh => ?_, fun ids => ?_, ?_⟩
    · rw [hcalls, Function.update_of_ne hx]
      exact SameCore.refl _
    · have hp : (s.calls x).systemHandle ≠ (s.calls w).systemHandle := by
        intro he
        exact hx (hi.handles (handleName_eq_some.mpr ⟨holds_mono hh (by omega), he⟩)
          (handleName_eq_some.mpr ⟨hw2, rfl⟩))
      unfold internalIds
      rw [hcon]
      exact (AgentConsolidator.getHandles_removeRequest env.sys hi.consolidator hy hp).1
    · rw [hcl', deleted_of_ne _ hne]
      rfl
    · rw [hcl', isUnregistered_of_ne hne]
      rfl
  · rw [hname, workerName_of_not_holds h5]
  · rw [hm, mappings_of_not_holds h5]

variable (env) in
/-- What the second half of a hold does to the subscription that it finds. -/
theorem finish_cases (s : AgentServer σ) {origin : Origin} (c : CallId)
    (ho : origin = .endOfStream c ∨ ∃ i, origin = .cancel i ∧ s.store[i]? = some c) :
    ∃ r, (finish env s origin).2.calls = Function.update s.calls c r ∧
      (r.pc = .done ∨ r.pc = (s.calls c).pc) ∧ r.sub.active = false ∧
      (finish env s origin).2.consolidator = s.consolidator.removeRequest env.sys
        env.getMessageString (some (s.calls c).sub.systemSubscription) := by
  obtain rfl | ⟨i, rfl, hs⟩ := ho
  · refine ⟨{ s.calls c with pc := .done, sub := (s.calls c).sub.disconnect.setActive false },
      ?_, Or.inl rfl, rfl, rfl⟩
    simp only [finish, cleanupSubscription, deallocateId, setCall, Function.update_self,
      Function.update_idem]
  · refine ⟨{ s.calls c with sub := (s.calls c).sub.disconnect.setActive false },
      ?_, Or.inr rfl, rfl, ?_⟩
    · simp only [finish, hs, cleanupSubscription, deallocateId, setCall]
    · simp only [finish, hs, cleanupSubscription, deallocateId, setCall]
      rfl

theorem registered_cleanupStep (hi : Inv env s) (h : Registered s)
    (hs : s.cleanupStep env = some s') : Registered s' := by
  obtain ⟨origin, w, k, hcl, rfl⟩ | ⟨origin, w, hcl, rfl⟩ | ⟨origin, w, hcl, -, rfl⟩ :=
    cleanupStep_cases hs
  · exact registered_unmap hi h hcl
  · exact registered_setTerminate h hcl
  · obtain ⟨_, hpc, ha, ho⟩ := hi.cleanup _ hcl
    simp only [CleanupStage.worker] at hpc ha ho
    have hstore : s.store[(s.calls w).id]? = some w :=
      (hi.store _ w).mpr (idAt_eq_some.mpr ⟨holds_of_streaming hpc ha (by omega), rfl⟩)
    have hsub := ((hi.wf w).sub (holds_of_streaming hpc ha (by omega))).2
    obtain ⟨r, hcalls, hrpc, hract, hcon⟩ :=
      finish_cases env { s.deleteUdpSubscription w with cleanup := none } w
        (ho.imp id fun ho => ⟨_, ho, hstore⟩)
    obtain ⟨h1, h2⟩ := finish_keeps env { s.deleteUdpSubscription w with cleanup := none } origin
    have htorn : r.Torn := ⟨hract, hrpc.symm.imp (fun hp => hp.trans hpc) id⟩
    refine registered_tearDown hi h hcl (r := r) hcalls htorn.not_live ?_ h2 h1
    rw [hcon, ← hsub]
    rfl

theorem registered_endOfStream (hudp : env.config.udpServerModule = true) (h : Registered s)
    (hpc : (s.calls c).pc = .streaming) (hs : s.endOfStream env c = some s') : Registered s' := by
  obtain ⟨-, hcl, ⟨-, -, rfl⟩ | ⟨-, hno, -⟩ | ⟨hact, rfl⟩⟩ := endOfStream_cases hs
  · exact h.start hcl _ c
  · exact absurd hudp (by simp [hno])
  · refine h.of_unheld rfl rfl rfl (fun _ _ => rfl) ?_ rfl
    unfold holds live
    rw [hpc, hact]
    rfl

theorem registered_cancel (hudp : env.config.udpServerModule = true) (h : Registered s) {i : Nat}
    (hs : s.cancel env i = some s') : Registered s' := by
  obtain ⟨hcl, ⟨-, -, rfl⟩ | ⟨w, -, -, rfl⟩ | ⟨hno, -⟩⟩ := cancel_cases hs
  · exact h
  · exact h.start hcl _ _
  · exact absurd hudp (by simp [hno])

/-! ## Steps and runs -/

theorem registered_proceed (hudp : env.config.udpServerModule = true) (hi : Inv env s)
    (h : Registered s) (hs : s.proceed env c = some s') : Registered s' := by
  obtain ⟨pc, hpc, hp⟩ := proceedStep_of_proceed hs
  cases hp with
  | addRequest => exact registered_addRequest hi h hpc
  | createSubscription =>
    exact h.of_unheld rfl rfl rfl (fun _ _ => rfl)
      (not_holds_of_rank (by simp [hpc, Pc.rank])) (not_holds_of_rank (by simp [Pc.rank]))
  | createSubscriptionUdpWorker =>
    exact h.of_unheld rfl rfl rfl (fun _ _ => rfl)
      (not_holds_of_rank (by simp [hpc, Pc.rank])) (not_holds_of_rank (by simp [Pc.rank]))
  | sendResponse hno => exact absurd hudp hno
  | addWorker => exact registered_addWorker hi h hpc
  | addMapping k => exact registered_addMapping hi h hpc
  | enable | setActive =>
    have h5 : (s.calls c).holds 5 = true := by
      apply holds_of_rank
      · simp [hpc, Pc.rank]
      · simp [hpc, Pc.rank]
      · simp [hpc, Pc.rank]
    refine h.of_held rfl rfl rfl rfl (fun cl hcl => hi.cleanup_ne (by simp [hpc, Pc.rank]) hcl) h5
      rfl rfl rfl ?_
    rw [hpc]
    rfl
  | endOfStream hs => exact registered_endOfStream hudp h hpc hs

/-- A step of the data plane. -/
theorem Registered.of_core (h : Registered s) (hcon : s'.consolidator = s.consolidator)
    (hcl : s'.cleanup = s.cleanup)
    (hw : s'.udpreceiver.extIdWorkerStore = s.udpreceiver.extIdWorkerStore)
    (he : s'.udpreceiver.extIds = s.udpreceiver.extIds)
    (hc : ∀ x, SameCore (s.calls x) (s'.calls x)) : Registered s' := by
  refine h.of_aloof hw he fun x => ⟨hc x, fun _ => ?_, fun ids => ?_, ?_⟩
  · unfold internalIds
    rw [hcon]
  · rw [hcl]
  · rw [hcl]

theorem registered_step {e : Event} (hudp : env.config.udpServerModule = true) (hi : Inv env s)
    (h : Registered s) (hs : s.step env e = some s') : Registered s' := by
  cases e with
  | subscribe c request =>
    obtain ⟨hpc, rfl⟩ := step_subscribe hs
    exact registered_allocate h hpc request
  | proceed c => exact registered_proceed hudp hi h hs
  | disconnect c =>
    rw [← Option.some.inj hs]
    exact h.of_core rfl rfl rfl rfl
      (sameCore_update ⟨rfl, rfl, rfl, rfl, rfl, rfl, rfl, rfl⟩)
  | cancel i => exact registered_cancel hudp h hs
  | cleanup => exact registered_cleanupStep hi h hs
  | datagram buf =>
    rw [step_datagram hs]
    obtain ⟨h1, h2⟩ := UdpReceiver.receive_stores s.udpreceiver buf
    exact h.of_core rfl rfl h1 h2 (sameCore_pushAll s.calls _ _)
  | workerStep c =>
    obtain ⟨vec, w, hn, rfl⟩ := workerStep_eq_some hs
    obtain ⟨_, _, hid, hh, _⟩ := AgentSubscriptionUdpWorker.next_eq_some hn
    exact h.of_core rfl rfl rfl rfl (sameCore_update ⟨rfl, rfl, rfl, rfl, rfl, rfl, hid, hh⟩)
  | message c now m =>
    obtain ⟨_, rfl⟩ := step_message hs
    exact h.of_core rfl rfl rfl rfl (sameCore_update ⟨rfl, rfl, rfl,
      AgentSubscription.id_onMessage _ _ _ _ _ _,
      AgentSubscription.systemSubscription_onMessage _ _ _ _ _ _,
      AgentSubscription.active_onMessage _ _ _ _ _ _, rfl, rfl⟩)

theorem registered_of_run {db : PathInformationDB} {x : σ} {es : List Event}
    (hudp : env.config.udpServerModule = true)
    (hc : Meets (step env) (NoEarlyCancel env) (new db x) es)
    (hr : run (step env) (new db x) es = some s) : Inv env s ∧ Registered s := by
  have hstep : ∀ s e s', Inv env s ∧ Registered s → NoEarlyCancel env s e →
      s.step env e = some s' → Inv env s' ∧ Registered s' :=
    fun _ _ _ h hc hs => ⟨inv_step h.1 hc hs, registered_step hudp h.1 h.2 hs⟩
  exact run_invariant hstep ⟨inv_new db x, registered_new db x⟩ hc hr

end AgentServer

end TelemetryAgent
