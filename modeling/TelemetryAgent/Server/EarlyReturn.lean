/-
  The returns of `telemetrySubscribe` before its stream starts.

  There are four: the path list is empty, no id is free, there is no consolidator handle, there
  is no subscription object. `earlyReturn` is a call from its start to one of them, with the two
  allocations that the code tests as arguments. The last two give the id back; the last one
  leaves with the consolidator what `addRequest` has stored there.

  `unchanged_iff`: in every state of every run, with allocations failing at will, the ids, `sysdb`
  with its entries and `store` are as before the call exactly if the call does not come to the
  last return, or the system has refused all of its paths. A path that is in `sysdb` already has
  one reference more, a path that the system accepts has a new entry.
-/
import TelemetryAgent.Consolidator.Undo
import TelemetryAgent.Server.Steps
import TelemetryAgent.Server.TearDown

namespace TelemetryAgent

open Std TelemetryAgent.Lib

variable {σ : Type}

/-! ## What the consolidator stores -/

/-- The system refuses the paths, offered one after the other under one id. -/
def AgentSystem.RefusesAll (sys : AgentSystem σ) (id : Nat) : List Path → σ → Prop
  | [], _ => True
  | p :: ps, x => (sys.systemAdd id p x).1 = false ∧
      AgentSystem.RefusesAll sys id ps (sys.systemAdd id p x).2

namespace AgentConsolidator

open AgentConsolidatorSystemHandle

variable {sys : AgentSystem σ} {getMessageString : Path → String} {c c' : AgentConsolidator σ}
  {l : List SystemHandlePtr}

/-- `sysdb`, its entries with their counts and ids, and the marked ids are those of `c`. -/
structure Restored (c c' : AgentConsolidator σ) : Prop where
  sysdb : c'.sysdb = c.sysdb
  syshandle : ∀ (t : String) ptr, c.sysdb[t]? = some ptr → c'.syshandle ptr = c.syshandle ptr
  internalIdGenerator : c'.internalIdGenerator = c.internalIdGenerator

theorem Restored.refl (c : AgentConsolidator σ) : Restored c c := ⟨rfl, fun _ _ _ => rfl, rfl⟩

theorem internalIdGenerator_refused (hb : c.internalIdGenerator.Bounded) (p : Path) (s : σ) :
    (c.refused p s).internalIdGenerator = c.internalIdGenerator := by
  apply AgentServerIdManager.ext_present
  exact AgentServerIdManager.present_allocate_deallocate (by decide) (hb.null (by decide))

variable (sys getMessageString) in
/-- What makes the consolidator store nothing for the paths. -/
def StoresNothing (c : AgentConsolidator σ) (ps : List Path) : Prop :=
  (∀ p ∈ ps, c.sysdb[getMessageString p]? = none) ∧
    sys.RefusesAll c.internalIdGenerator.allocate.1 ps c.sysHandle

variable (sys) in
/-- Nothing is stored only if no path is there and the system refuses each of them. -/
theorem addPaths_eq_nil_iff (hb : c.internalIdGenerator.Bounded) (ps : List Path) :
    (addPaths sys getMessageString c ps).1.1 = [] ↔ StoresNothing sys getMessageString c ps := by
  induction ps generalizing c with
  | nil => exact iff_of_true rfl ⟨fun p hp => absurd hp (by simp), trivial⟩
  | cons p ps ih =>
    rw [StoresNothing, List.forall_mem_cons, AgentSystem.RefusesAll]
    obtain ⟨ptr, hp, he⟩ | ⟨hp, s, hs, he⟩ | ⟨hp, s, hs, he⟩ :=
      create_cases sys getMessageString c p
    · rw [addPaths_cons_some sys getMessageString ps he, hp]
      simp
    · rw [addPaths_cons_some sys getMessageString ps he, hs]
      simp
    · have hg := internalIdGenerator_refused hb p s
      have hb' : (c.refused p s).internalIdGenerator.Bounded := by
        rw [hg]
        exact hb
      rw [addPaths_cons_none sys getMessageString ps he, ih hb', StoresNothing, hg, hp, hs]
      simp only [true_and]
      rfl

variable (sys) in
theorem internalIdGenerator_addPaths (hb : c.internalIdGenerator.Bounded) {ps : List Path}
    (h : (addPaths sys getMessageString c ps).1.1 = []) :
    (addPaths sys getMessageString c ps).2.internalIdGenerator = c.internalIdGenerator := by
  induction ps generalizing c with
  | nil => rfl
  | cons p ps ih =>
    obtain ⟨ptr, hp, he⟩ | ⟨hp, s, hs, he⟩ | ⟨hp, s, hs, he⟩ :=
      create_cases sys getMessageString c p
    · rw [addPaths_cons_some sys getMessageString ps he] at h
      exact absurd h (List.cons_ne_nil _ _)
    · rw [addPaths_cons_some sys getMessageString ps he] at h
      exact absurd h (List.cons_ne_nil _ _)
    · have hg := internalIdGenerator_refused hb p s
      rw [addPaths_cons_none sys getMessageString ps he] at h ⊢
      rw [ih (by rwa [hg]) h, hg]

variable (sys) in
/-- What is stored is counted, so nothing is as before unless nothing is stored. -/
theorem restored_addPaths_iff (hr : RefInv getMessageString c l)
    (hb : c.internalIdGenerator.Bounded) (ps : List Path) :
    Restored c (addPaths sys getMessageString c ps).2 ↔
      StoresNothing sys getMessageString c ps := by
  rw [← addPaths_eq_nil_iff sys hb]
  have hr' := refInv_addPaths sys ps hr
  constructor
  · intro h
    by_contra hne
    obtain ⟨ptr, hptr⟩ := List.exists_mem_of_ne_nil _ hne
    have hnew := hr'.held ptr (List.mem_append_left l hptr)
    have hold := hnew
    rw [h.sysdb] at hold
    -- the entry of a handle that was stored has more references than before
    have hcount := hr'.count hnew
    rw [h.syshandle _ ptr hold, hr.count hold, List.count_append] at hcount
    have hpos := List.count_pos_iff.mpr hptr
    omega
  · intro h
    have hg := internalIdGenerator_addPaths sys hb h
    have hk := (keeps_addPaths sys getMessageString c ps).toExtends
    rw [h, List.nil_append] at hr'
    exact ⟨hr.sysdb_eq hr' hk, fun t ptr ht => hr.syshandle_eq hr' hk (hr.mem ht), hg⟩

variable (sys getMessageString) in
/-- A handle that is not there any more is removed by doing nothing. -/
theorem removeRequest_eq_or_step (c : AgentConsolidator σ) (ptr : HandlePtr) :
    removeRequest sys getMessageString c (some ptr) = c ∨
      step sys getMessageString c (.removeRequest ptr) =
        some (removeRequest sys getMessageString c (some ptr)) := by
  by_cases hm : ptr ∈ c.handles
  · right
    rw [step, if_pos hm]
  · left
    rw [ExtTreeMap.mem_iff_isSome_getElem?, Bool.not_eq_true, Option.isSome_eq_false_iff,
      Option.isNone_iff_eq_none] at hm
    simp only [removeRequest, hm]

end AgentConsolidator

namespace AgentServer

variable (env : Environment σ)

/-! ## The returns -/

/-- There is no subscription object: the id is given back and the client gets the null id. -/
def refuseSubscription (s : AgentServer σ) (c : CallId) : AgentServer σ :=
  (s.deallocateId c (s.calls c).id).sendMetaDataInfo c
    { subscriptionId := AgentServerIdManager.getNullIdentifier } .done

/-- `telemetrySubscribe` up to a return before the stream starts. The two arguments are whether
    the consolidator handle and the subscription object are allocated; `none` if the call goes
    on with both. -/
def earlyReturn (s : AgentServer σ) (c : CallId) (request : SubscriptionRequest)
    (handleAlloc subAlloc : Bool) : Option (AgentServer σ) :=
  let s := s.allocate c request
  if (s.calls c).pc = .done then some s
  else
    let s := s.addRequest env c handleAlloc
    if (s.calls c).pc = .done then some s
    else if subAlloc then none
    else some (s.refuseSubscription c)

/-- A step of the server, or an allocation of a call that fails. -/
inductive AllocEvent where
  | event (e : Event)
  | noHandle (c : CallId)
  | noSubscription (c : CallId)

def allocStep (s : AgentServer σ) : AllocEvent → Option (AgentServer σ)
  | .event e => s.step env e
  | .noHandle c =>
    if (s.calls c).pc = .allocated then some (s.addRequest env c false) else none
  | .noSubscription c =>
    if (s.calls c).pc = .added then some (s.refuseSubscription c) else none

/-- The ids, what the consolidator has and `store` are as in `s`. -/
structure Unchanged (s s' : AgentServer σ) : Prop where
  idManager : s'.idManager = s.idManager
  consolidator : s.consolidator.Restored s'.consolidator
  store : s'.store = s.store

/-- The condition: one of the first three returns is taken, or the consolidator has nothing to
    store for the validated request. -/
def LeavesNothing (s : AgentServer σ) (request : SubscriptionRequest) (handleAlloc : Bool) :
    Prop :=
  request.pathList = [] ∨ ¬ s.idManager.HasFree ∨ handleAlloc = false ∨
    AgentConsolidator.StoresNothing env.sys env.getMessageString s.consolidator
      (s.validate env request).1.pathList

/-! ## The consolidator in the runs of the server -/

variable {env} {s s' : AgentServer σ} {c : CallId}

/-- The state of the consolidator comes from a run of its own operations. -/
def Served (env : Environment σ) (x : σ) (s : AgentServer σ) : Prop :=
  ∃ calls, run (AgentConsolidator.step env.sys env.getMessageString) (.new x) calls =
    some s.consolidator

theorem Served.of_step {x : σ} (h : Served env x s) {call : AgentConsolidator.Call}
    (hs : AgentConsolidator.step env.sys env.getMessageString s.consolidator call =
      some s'.consolidator) : Served env x s' := by
  obtain ⟨calls, hr⟩ := h
  refine ⟨calls ++ [call], run_append_eq_some.mpr ⟨_, hr, ?_⟩⟩
  rw [run_cons, hs]
  rfl

theorem Served.of_eq {x : σ} (h : Served env x s) (hs : s'.consolidator = s.consolidator) :
    Served env x s' := by
  rw [Served, hs]
  exact h

theorem consolidator_addRequest (s : AgentServer σ) (c : CallId) (alloc : Bool) :
    (s.addRequest env c alloc).consolidator =
      (s.consolidator.addRequest env.sys env.getMessageString alloc (s.calls c).id
        (s.validate env (s.calls c).request).1).2 := by
  unfold addRequest
  simp only []
  split <;> rfl

theorem served_addRequest {x : σ} (h : Served env x s) (c : CallId) (alloc : Bool) :
    Served env x (s.addRequest env c alloc) := by
  have hstep : AgentConsolidator.step env.sys env.getMessageString s.consolidator
      (.addRequest alloc (s.calls c).id (s.validate env (s.calls c).request).1) =
      some (s.addRequest env c alloc).consolidator := by
    rw [consolidator_addRequest]
    rfl
  exact h.of_step hstep

variable (env) in
theorem consolidator_finish (s : AgentServer σ) (origin : Origin) :
    (finish env s origin).2.consolidator = s.consolidator ∨
      ∃ ptr, (finish env s origin).2.consolidator =
        s.consolidator.removeRequest env.sys env.getMessageString (some ptr) := by
  unfold finish
  split
  · exact .inr ⟨_, rfl⟩
  · split
    · exact .inl rfl
    · exact .inr ⟨_, rfl⟩

theorem served_finish {x : σ} (h : Served env x s) (origin : Origin) :
    Served env x (finish env s origin).2 := by
  obtain he | ⟨ptr, he⟩ := consolidator_finish env s origin
  · exact h.of_eq he
  · obtain hsame | hstep := AgentConsolidator.removeRequest_eq_or_step env.sys
      env.getMessageString s.consolidator ptr
    · exact h.of_eq (he.trans hsame)
    · exact h.of_step (hstep.trans (congrArg some he.symm))

theorem served_allocStep {x : σ} {e : AllocEvent} (h : Served env x s)
    (hs : s.allocStep env e = some s') : Served env x s' := by
  cases e with
  | event e =>
    cases sharedStep_of_step hs with
    | addRequest c => exact served_addRequest h c true
    | finish t origin ht => exact served_finish (h.of_eq (congrArg Prod.snd ht)) origin
    | same t ht => exact h.of_eq (congrArg Prod.snd ht)
  | noHandle c =>
    simp only [allocStep] at hs
    split_ifs at hs
    exact Option.some.inj hs ▸ served_addRequest h c false
  | noSubscription c =>
    simp only [allocStep] at hs
    split_ifs at hs
    exact h.of_eq (Option.some.inj hs ▸ rfl)

theorem served_of_run {db : PathInformationDB} {x : σ} {es : List AllocEvent}
    (hr : run (allocStep env) (new db x) es = some s) : Served env x s :=
  run_invariant_of_step (fun _ _ _ h hs => served_allocStep h hs) ⟨[], rfl⟩ hr

/-! ## The call -/

theorem restored_addRequest_iff {x : σ} (h : Served env x s) (id : Nat)
    (request : SubscriptionRequest) :
    s.consolidator.Restored
        (s.consolidator.addRequest env.sys env.getMessageString true id request).2 ↔
      AgentConsolidator.StoresNothing env.sys env.getMessageString s.consolidator
        request.pathList := by
  obtain ⟨calls, hr⟩ := h
  have hrefs := (AgentConsolidator.inv_of_run env.sys hr).refs
  rw [← AgentConsolidator.restored_addPaths_iff env.sys hrefs
    (AgentConsolidator.bounded_of_run hr)]
  constructor
  · intro h
    exact ⟨h.sysdb, h.syshandle, h.internalIdGenerator⟩
  · intro h
    exact ⟨h.sysdb, h.syshandle, h.internalIdGenerator⟩

theorem allocate_refused {request : SubscriptionRequest}
    (h : request.pathList = [] ∨ ¬ s.idManager.HasFree) :
    ∃ r : SubscribeCall, r.pc = .done ∧ s.allocate c request = s.setCall c r := by
  unfold allocate
  simp only [setCall, sendMetaDataInfo, Function.update_self, Function.update_idem]
  obtain h | h := h
  · rw [if_pos h]
    exact ⟨_, rfl, rfl⟩
  · rw [AgentServerIdManager.allocate_of_not_hasFree (by decide) h]
    simp only [if_true, ite_self]
    exact ⟨_, rfl, rfl⟩

/-- The state in which a call has the id `i`. -/
def withId (s : AgentServer σ) (c : CallId) (request : SubscriptionRequest) (i : Nat) :
    AgentServer σ :=
  { s with
    calls := Function.update s.calls c
      { s.calls c with request := request, pc := .allocated, id := i }
    idManager := s.idManager.set i
    trace := { s.trace with owner := Function.update s.trace.owner i (some c) } }

theorem calls_withId (s : AgentServer σ) (c : CallId) (request : SubscriptionRequest) (i : Nat) :
    (s.withId c request i).calls c =
      { s.calls c with request := request, pc := .allocated, id := i } :=
  Function.update_self _ _ _

theorem allocate_accepted {request : SubscriptionRequest} (hne : request.pathList ≠ [])
    (hf : s.idManager.HasFree) :
    ∃ i, i < subscriptionIdSpaceSize ∧ s.idManager.present i = false ∧
      s.allocate c request = s.withId c request i := by
  obtain ⟨i, h1, h2, hp, ha⟩ := AgentServerIdManager.allocate_of_hasFree (by decide) hf
  have hi : i ≠ AgentServerIdManager.getNullIdentifier := Nat.ne_of_gt h1
  refine ⟨i, h2, hp, ?_⟩
  unfold allocate
  simp only [setCall, Function.update_self, Function.update_idem, if_neg hne, ha, if_neg hi]
  rfl

variable (env) in
/-- Without a handle the id is given back at once. -/
theorem addRequest_noHandle (s : AgentServer σ) (c : CallId) :
    ((s.addRequest env c false).calls c).pc = .done ∧
      (s.addRequest env c false).idManager = (s.idManager.deallocate (s.calls c).id).2 ∧
      s.consolidator.Restored (s.addRequest env c false).consolidator ∧
      (s.addRequest env c false).store = s.store := by
  refine ⟨?_, rfl, ⟨rfl, fun _ _ _ => rfl, rfl⟩, rfl⟩
  simp [addRequest, AgentConsolidator.addRequest, sendMetaDataInfo, setCall]

/-! ### Each of the returns -/

variable {request : SubscriptionRequest}

theorem unchanged_of_refused (h : request.pathList = [] ∨ ¬ s.idManager.HasFree)
    {handleAlloc subAlloc : Bool}
    (he : s.earlyReturn env c request handleAlloc subAlloc = some s') : Unchanged s s' := by
  obtain ⟨r, hpc, ha⟩ := allocate_refused (c := c) h
  have hdone : ((s.setCall c r).calls c).pc = .done := by
    simp only [setCall, Function.update_self, hpc]
  simp only [earlyReturn, ha, if_pos hdone] at he
  obtain rfl := Option.some.inj he
  exact ⟨rfl, .refl _, rfl⟩

theorem unchanged_of_noHandle (hne : request.pathList ≠ []) (hf : s.idManager.HasFree)
    {subAlloc : Bool} (he : s.earlyReturn env c request false subAlloc = some s') :
    Unchanged s s' := by
  obtain ⟨i, hi, hp, ha⟩ := allocate_accepted (c := c) hne hf
  have hpc : ((s.withId c request i).calls c).pc ≠ .done := by simp [calls_withId]
  have hid : ((s.withId c request i).calls c).id = i := by rw [calls_withId]
  obtain ⟨hdone, hids, hcon, hstore⟩ :=
    addRequest_noHandle env (s.withId c request i) c
  simp only [earlyReturn, ha, if_neg hpc, if_pos hdone] at he
  obtain rfl := Option.some.inj he
  rw [hid] at hids
  exact ⟨hids.trans (AgentServerIdManager.deallocate_set hi hp), hcon, hstore⟩

/-- The last return gives the id back, and so what is left is with the consolidator. -/
theorem unchanged_iff_of_noSubscription {x : σ} (h : Served env x s)
    (hne : request.pathList ≠ []) (hf : s.idManager.HasFree) {subAlloc : Bool}
    (he : s.earlyReturn env c request true subAlloc = some s') :
    Unchanged s s' ↔
      AgentConsolidator.StoresNothing env.sys env.getMessageString s.consolidator
        (s.validate env request).1.pathList := by
  obtain ⟨i, hi, hp, ha⟩ := allocate_accepted (c := c) hne hf
  have hpc : ((s.withId c request i).calls c).pc ≠ .done := by simp [calls_withId]
  have hadd : (s.withId c request i).addRequest env c true = _ :=
    addRequest_spec (s.withId c request i) c
  have hpc' : (((s.withId c request i).addRequest env c true).calls c).pc ≠ .done := by
    rw [hadd]
    simp
  have hid : (((s.withId c request i).addRequest env c true).calls c).id = i := by
    rw [hadd]
    simp [calls_withId]
  have hcon : ((s.withId c request i).addRequest env c true).consolidator =
      (s.consolidator.addRequest env.sys env.getMessageString true i
        (s.validate env request).1).2 := by
    rw [consolidator_addRequest, calls_withId]
    rfl
  cases subAlloc with
  | true => simp [earlyReturn, ha, hpc, hpc'] at he
  | false =>
    simp only [earlyReturn, ha, if_neg hpc, if_neg hpc', Bool.false_eq_true, if_false] at he
    obtain rfl := Option.some.inj he
    rw [← restored_addRequest_iff h i, ← hcon]
    constructor
    · intro hu
      exact hu.consolidator
    · intro hrestored
      refine ⟨?_, hrestored, ?_⟩
      · rw [refuseSubscription, hid, hadd]
        exact AgentServerIdManager.deallocate_set hi hp
      · rw [refuseSubscription, hadd]
        rfl

/-- For every request, in every state of every run of the server in which allocations may fail:
    a return before the stream starts leaves the ids, `sysdb` with its entries and `store` as
    they were before the call exactly if the path list was empty, no id was free, the handle was
    not allocated, or the consolidator had nothing to store for the request. -/
theorem unchanged_iff (env : Environment σ) (db : PathInformationDB) (x : σ)
    (es : List AllocEvent) (s : AgentServer σ) (hr : run (allocStep env) (new db x) es = some s)
    (c : CallId) (request : SubscriptionRequest) (handleAlloc subAlloc : Bool)
    (s' : AgentServer σ)
    (he : s.earlyReturn env c request handleAlloc subAlloc = some s') :
    Unchanged s s' ↔ LeavesNothing env s request handleAlloc := by
  unfold LeavesNothing
  by_cases hne : request.pathList = []
  · exact iff_of_true (unchanged_of_refused (.inl hne) he) (.inl hne)
  by_cases hf : s.idManager.HasFree
  · cases handleAlloc with
    | false => exact iff_of_true (unchanged_of_noHandle hne hf he) (.inr (.inr (.inl rfl)))
    | true =>
      rw [unchanged_iff_of_noSubscription (served_of_run hr) hne hf he]
      simp [hne, hf]
  · exact iff_of_true (unchanged_of_refused (.inr hf) he) (.inr (.inl hf))

/-- A client has `firewall`. The next call asks for it too and gets no subscription object. -/
theorem unchanged_iff_firewall :
    ∃ s s', run (allocStep (nullEnvironment false)) (new ∅ {})
        ((subscribeFirewall 0).map .event) = some s ∧
      s.earlyReturn (nullEnvironment false) 1 { pathList := [{ path := "firewall" }] } true false =
        some s' ∧
      (Unchanged s s' ↔
        LeavesNothing (nullEnvironment false) s { pathList := [{ path := "firewall" }] } true) := by
  have hrun : (run (allocStep (nullEnvironment false)) (new ∅ {})
      ((subscribeFirewall 0).map .event)).bind (fun s =>
        s.earlyReturn (nullEnvironment false) 1 { pathList := [{ path := "firewall" }] } true
          false) |>.isSome := by decide +kernel
  obtain ⟨s', hs'⟩ := Option.isSome_iff_exists.mp hrun
  obtain ⟨s, hs, he⟩ := Option.bind_eq_some_iff.mp hs'
  exact ⟨s, s', hs, he, unchanged_iff _ _ _ _ s hs 1 _ true false s' he⟩

/-- The first client asks for `firewall` and gets no subscription object: the entry stays. -/
theorem not_unchanged_noSubscription : ¬ ∀ (env : Environment SystemCounts)
    (db : PathInformationDB) (x : SystemCounts) (es : List AllocEvent)
    (s : AgentServer SystemCounts), run (allocStep env) (new db x) es = some s →
    ∀ (c : CallId) (request : SubscriptionRequest) (handleAlloc subAlloc : Bool)
      (s' : AgentServer SystemCounts),
      s.earlyReturn env c request handleAlloc subAlloc = some s' → Unchanged s s' := by
  intro h
  have hsize : ((new ∅ {}).earlyReturn (nullEnvironment false) 0
      { pathList := [{ path := "firewall" }] } true false).map (·.consolidator.sysdb.size) =
      some 1 := by decide +kernel
  obtain ⟨s', he, hs'⟩ := Option.map_eq_some_iff.mp hsize
  have hu := h (nullEnvironment false) ∅ {} [] _ rfl 0 _ true false s' he
  rw [hu.consolidator.sysdb] at hs'
  exact absurd hs' (by decide)

end AgentServer

end TelemetryAgent
