/-
  Who owns the ids, handles and table entries of the server.

  A call of `telemetrySubscribe` acquires its id, its consolidator handle, its entry of
  `store` and its entry of `store2` at successive points, and its tear-down gives all four
  back. `idAt n` is the id of a live call that has passed point `n`; the tables are the
  inverses of these functions. `Inv` collects this, with what the trace of the tear-downs
  says, and each step keeps it as long as no cancel finds a subscription that its own call
  has not yet made active (`NoEarlyCancel`). That cancel would tear down what the other
  thread goes on to use.

  * `inv_allocate`, ..., `inv_setActive`: one point of `telemetrySubscribe`.
  * `inv_tearDown`: a tear-down, by either thread.
  * `endOfStream_cases`, `cancel_cases`, `cleanupStep_cases`: what a step of a tear-down does.
  * `proceedStep_of_proceed`: what a step of a call does.
  * `inv_step`, `inv_of_run`: steps and runs.
-/
import TelemetryAgent.Lib.Run
import TelemetryAgent.Consolidator.Refs
import TelemetryAgent.Server.Model

namespace TelemetryAgent

open Std TelemetryAgent.Lib

variable {σ : Type}

def Pc.rank : Pc → Nat
  | .idle => 0
  | .allocated => 1
  | .added => 2
  | .created => 3
  | .workerCreated => 4
  | .mapping _ => 5
  | .metaSent => 6
  | .enabled => 7
  | .streaming => 8
  | .done => 9

def CleanupStage.worker : CleanupStage → CallId
  | .unmapping w _ => w
  | .unregistered w => w
  | .terminated w => w

namespace SubscribeCall

/-- The call has an id and has not been torn down. -/
def live (r : SubscribeCall) : Bool :=
  match r.pc with
  | .idle => false
  | .done => false
  | .streaming => r.sub.active
  | _ => true

def holds (n : Nat) (r : SubscribeCall) : Bool := r.live && decide (n ≤ r.pc.rank)

/-- The id of a live call that has passed the point of rank `n`. -/
def idAt (n : Nat) (r : SubscribeCall) : Option Nat := if r.holds n then some r.id else none

def handleName (r : SubscribeCall) : Option HandlePtr :=
  if r.holds 2 then some r.systemHandle else none

def store2Name (udp : Bool) (r : SubscribeCall) : Option Nat := if udp then r.idAt 4 else none

/-- All that a call has in the tables. -/
def names (udp : Bool) (r : SubscribeCall) :=
  (r.idAt 1, r.handleName, r.idAt 3, r.store2Name udp)

/-- The objects of a live call have its id and its handle. -/
structure Wf (udp : Bool) (r : SubscribeCall) : Prop where
  sub : r.holds 3 = true → r.sub.id = r.id ∧ r.sub.systemSubscription = r.systemHandle
  worker : udp = true → r.holds 4 = true →
    r.worker.id = r.id ∧ r.worker.systemSubscription = r.systemHandle
  udp : 4 ≤ r.pc.rank → r.pc.rank ≤ 5 → udp = true

/-- Torn down: the subscription is inactive and its thread will not activate it. -/
def Torn (r : SubscribeCall) : Prop :=
  r.sub.active = false ∧ (r.pc = .streaming ∨ r.pc = .done)

/-- The two records differ at most in what the data plane changes: counters, queues, the
    stream, the state of the bus, the context's flag. -/
structure SameCore (r r' : SubscribeCall) : Prop where
  pc : r'.pc = r.pc
  id : r'.id = r.id
  systemHandle : r'.systemHandle = r.systemHandle
  subId : r'.sub.id = r.sub.id
  subHandle : r'.sub.systemSubscription = r.sub.systemSubscription
  active : r'.sub.active = r.sub.active
  workerId : r'.worker.id = r.worker.id
  workerHandle : r'.worker.systemSubscription = r.worker.systemSubscription

variable {r r' : SubscribeCall}

theorem SameCore.refl (r : SubscribeCall) : SameCore r r :=
  ⟨rfl, rfl, rfl, rfl, rfl, rfl, rfl, rfl⟩

theorem SameCore.trans {r'' : SubscribeCall} (h : SameCore r r') (h' : SameCore r' r'') :
    SameCore r r'' where
  pc := h'.pc.trans h.pc
  id := h'.id.trans h.id
  systemHandle := h'.systemHandle.trans h.systemHandle
  subId := h'.subId.trans h.subId
  subHandle := h'.subHandle.trans h.subHandle
  active := h'.active.trans h.active
  workerId := h'.workerId.trans h.workerId
  workerHandle := h'.workerHandle.trans h.workerHandle

theorem SameCore.holds (h : SameCore r r') (n : Nat) : r'.holds n = r.holds n := by
  unfold SubscribeCall.holds live
  rw [h.pc, h.active]

theorem SameCore.idAt (h : SameCore r r') (n : Nat) : r'.idAt n = r.idAt n := by
  unfold SubscribeCall.idAt
  rw [h.holds, h.id]

theorem SameCore.handleName (h : SameCore r r') : r'.handleName = r.handleName := by
  unfold SubscribeCall.handleName
  rw [h.holds, h.systemHandle]

theorem SameCore.names (h : SameCore r r') (udp : Bool) : r'.names udp = r.names udp := by
  unfold SubscribeCall.names store2Name
  rw [h.handleName, h.idAt, h.idAt, h.idAt]

theorem SameCore.wf (h : SameCore r r') {udp : Bool} (hw : r.Wf udp) : r'.Wf udp where
  sub hn := by
    rw [h.holds] at hn
    rw [h.subId, h.subHandle, h.id, h.systemHandle]
    exact hw.sub hn
  worker hu hn := by
    rw [h.holds] at hn
    rw [h.workerId, h.workerHandle, h.id, h.systemHandle]
    exact hw.worker hu hn
  udp h4 h5 := by
    rw [h.pc] at h4 h5
    exact hw.udp h4 h5

theorem SameCore.torn (h : SameCore r r') (ht : r.Torn) : r'.Torn := by
  unfold Torn
  rw [h.active, h.pc]
  exact ht

theorem idAt_eq_some {n i : Nat} : r.idAt n = some i ↔ r.holds n = true ∧ r.id = i := by
  unfold idAt
  by_cases h : r.holds n = true
  · simp [h]
  · simp [h]

theorem handleName_eq_some {h : HandlePtr} :
    r.handleName = some h ↔ r.holds 2 = true ∧ r.systemHandle = h := by
  unfold handleName
  by_cases hh : r.holds 2 = true
  · simp [hh]
  · simp [hh]

theorem store2Name_true : store2Name true = idAt 4 := by
  funext r
  rfl

theorem holds_iff {n : Nat} : r.holds n = true ↔ r.live = true ∧ n ≤ r.pc.rank := by
  rw [holds, Bool.and_eq_true, decide_eq_true_eq]

theorem live_of_holds {n : Nat} (h : r.holds n = true) : r.live = true := (holds_iff.mp h).1

theorem holds_mono {m n : Nat} (h : r.holds n = true) (hmn : m ≤ n) : r.holds m = true := by
  rw [holds_iff] at h ⊢
  exact ⟨h.1, Nat.le_trans hmn h.2⟩

theorem holds_of_not_live (h : r.live = false) (n : Nat) : r.holds n = false := by
  rw [holds, h, Bool.false_and]

theorem idAt_of_not_live (h : r.live = false) (n : Nat) : r.idAt n = none := by
  rw [idAt, holds_of_not_live h]
  rfl

theorem handleName_of_not_live (h : r.live = false) : r.handleName = none := by
  rw [handleName, holds_of_not_live h]
  rfl

theorem names_of_not_live (h : r.live = false) (udp : Bool) :
    r.names udp = (none, none, none, none) := by
  unfold names store2Name
  rw [handleName_of_not_live h, idAt_of_not_live h, idAt_of_not_live h, idAt_of_not_live h, ite_self]

theorem live_of_rank (h : 0 < r.pc.rank) (h' : r.pc.rank < 8) : r.live = true := by
  unfold live
  cases hpc : r.pc with
  | idle => rw [hpc] at h; exact absurd h (by decide)
  | streaming => rw [hpc] at h'; exact absurd h' (by decide)
  | done => rw [hpc] at h'; exact absurd h' (by decide)
  | _ => rfl

theorem holds_of_rank {n : Nat} (h : 0 < r.pc.rank) (h' : r.pc.rank < 8)
    (hn : n ≤ r.pc.rank) : r.holds n = true := holds_iff.mpr ⟨live_of_rank h h', hn⟩

theorem idAt_of_live (h : r.live = true) (n : Nat) :
    r.idAt n = if n ≤ r.pc.rank then some r.id else none := by
  unfold idAt holds
  simp [h]

theorem handleName_of_live (h : r.live = true) :
    r.handleName = if 2 ≤ r.pc.rank then some r.systemHandle else none := by
  unfold handleName holds
  simp [h]

theorem live_of_streaming (hpc : r.pc = .streaming) (ha : r.sub.active = true) :
    r.live = true := by
  unfold live
  rw [hpc]
  exact ha

theorem holds_of_streaming {n : Nat} (hpc : r.pc = .streaming) (ha : r.sub.active = true)
    (hn : n ≤ 8) : r.holds n = true := by
  rw [holds_iff, hpc]
  exact ⟨live_of_streaming hpc ha, hn⟩

theorem idAt_of_streaming {n : Nat} (hpc : r.pc = .streaming) (ha : r.sub.active = true)
    (hn : n ≤ 8) : r.idAt n = some r.id :=
  idAt_eq_some.mpr ⟨holds_of_streaming hpc ha hn, rfl⟩

theorem Torn.not_live (h : r.Torn) : r.live = false := by
  obtain ⟨ha, hpc | hpc⟩ := h
  · unfold live
    rw [hpc]
    exact ha
  · unfold live
    rw [hpc]

theorem wf_of_not_live (h : r.live = false) {udp : Bool}
    (hu : 4 ≤ r.pc.rank → r.pc.rank ≤ 5 → udp = true) : r.Wf udp where
  sub hn := by
    rw [holds_of_not_live h] at hn
    exact absurd hn (by simp)
  worker _ hn := by
    rw [holds_of_not_live h] at hn
    exact absurd hn (by simp)
  udp := hu

end SubscribeCall

namespace AgentServer

open SubscribeCall

variable (env : Environment σ)

structure Inv (s : AgentServer σ) : Prop where
  wf : ∀ c, (s.calls c).Wf env.config.udpServerModule
  ids : s.idManager.Exact fun c => (s.calls c).idAt 1
  consolidator : s.consolidator.Inv env.getMessageString
  handles : Distinct fun c => (s.calls c).handleName
  mem_handles : ∀ h, h ∈ s.consolidator.handles ↔ ∃ c, (s.calls c).handleName = some h
  store : Tracks s.store fun c => (s.calls c).idAt 3
  store2 : Tracks s.store2 fun c => (s.calls c).store2Name env.config.udpServerModule
  cleanup : ∀ cl, s.cleanup = some cl → env.config.udpServerModule = true ∧
    (s.calls cl.stage.worker).pc = .streaming ∧
    (s.calls cl.stage.worker).sub.active = true ∧
    (cl.origin = .endOfStream cl.stage.worker ∨
      cl.origin = .cancel (s.calls cl.stage.worker).id)
  owner : Inverse s.trace.owner fun c => (s.calls c).idAt 1
  removed : s.trace.removed.Nodup
  removed_old : ∀ h ∈ s.trace.removed,
    h < s.consolidator.nextHandle ∧ h ∉ s.consolidator.handles
  freed : ∀ x ∈ s.trace.freed, x.2 = some x.1
  erased : ∀ x ∈ s.trace.erased, x.2 = some x.1
  succeeded : ∀ c ∈ s.trace.succeeded, (s.calls c).Torn

/-- The tables that `Inv` is about. -/
def tables (s : AgentServer σ) :=
  (s.idManager, s.consolidator, s.store, s.store2, s.cleanup, s.trace)

variable {env} {s s' : AgentServer σ} {c : CallId}

theorem inv_new (db : PathInformationDB) (x : σ) : Inv env (new db x) where
  wf _ := wf_of_not_live rfl fun h _ => absurd h (Nat.not_succ_le_zero 3)
  ids := AgentServerIdManager.exact_new
  consolidator := AgentConsolidator.inv_new x
  handles := distinct_none
  mem_handles h := by
    constructor
    · intro hm
      exact absurd hm (by simp [new, AgentConsolidator.new])
    · intro hexists
      obtain ⟨c, hc⟩ := hexists
      rw [handleName_of_not_live rfl] at hc
      exact absurd hc (by simp)
  store := tracks_empty
  store2 := by
    have hn : (fun c => ((new db x).calls c).store2Name env.config.udpServerModule) =
        fun _ => none := by
      funext c
      unfold store2Name
      split <;> rfl
    rw [hn]
    exact tracks_empty
  cleanup cl h := absurd h (by simp [new])
  owner := inverse_none
  removed := List.nodup_nil
  removed_old h hm := absurd hm (by simp [new])
  freed y hy := absurd hy (by simp [new])
  erased y hy := absurd hy (by simp [new])
  succeeded c hc := absurd hc (by simp [new])

/-- A step that moves no name and no table keeps the invariant. -/
theorem Inv.of_names (h : Inv env s) (ht : s'.tables = s.tables)
    (hwf : ∀ c, (s'.calls c).Wf env.config.udpServerModule)
    (hid : ∀ c, (s'.calls c).names env.config.udpServerModule =
      (s.calls c).names env.config.udpServerModule)
    (hcl : ∀ cl, s.cleanup = some cl →
      SameCore (s.calls cl.stage.worker) (s'.calls cl.stage.worker))
    (hsucc : ∀ c, (s.calls c).Torn → (s'.calls c).Torn) : Inv env s' := by
  simp only [tables, Prod.mk.injEq] at ht
  obtain ⟨h1, h2, h3, h4, h5, h6⟩ := ht
  simp only [names, Prod.mk.injEq, forall_and] at hid
  obtain ⟨hid1, hh, hid3, hs2⟩ := hid
  refine ⟨hwf, ?_, h2 ▸ h.consolidator, ?_, ?_, ?_, ?_, ?_, ?_, h6 ▸ h.removed, ?_, h6 ▸ h.freed,
    h6 ▸ h.erased, ?_⟩
  · rw [h1]
    simp only [hid1]
    exact h.ids
  · simp only [hh]
    exact h.handles
  · simp only [h2, hh]
    exact h.mem_handles
  · simp only [h3, hid3]
    exact h.store
  · simp only [h4, hs2]
    exact h.store2
  · intro cl hcl'
    rw [h5] at hcl'
    have hc := hcl cl hcl'
    rw [hc.pc, hc.active, hc.id]
    exact h.cleanup cl hcl'
  · simp only [h6, hid1]
    exact h.owner
  · rw [h6, h2]
    exact h.removed_old
  · intro c hc
    rw [h6] at hc
    exact hsucc c (h.succeeded c hc)

/-- In particular a step of the data plane. -/
theorem Inv.of_core (h : Inv env s) (ht : s'.tables = s.tables)
    (hc : ∀ c, SameCore (s.calls c) (s'.calls c)) : Inv env s' :=
  h.of_names ht (fun c => (hc c).wf (h.wf c)) (fun c => (hc c).names _)
    (fun cl _ => hc cl.stage.worker) fun c => (hc c).torn

theorem sameCore_update {r : SubscribeCall} (h : SameCore (s.calls c) r) (c' : CallId) :
    SameCore (s.calls c') (Function.update s.calls c r c') := by
  refine (Function.forall_update_iff s.calls fun x => SameCore (s.calls x)).mpr ⟨h, ?_⟩ c'
  exact fun y _ => SameCore.refl (s.calls y)

/-- A step of the thread of call `c` itself that moves no name. -/
theorem Inv.of_proceed (h : Inv env s) (ht : s'.tables = s.tables) {r : SubscribeCall}
    (hcalls : s'.calls = Function.update s.calls c r)
    (hpc : (s.calls c).pc ≠ .streaming ∨ (s.calls c).Torn)
    (hwf : r.Wf env.config.udpServerModule)
    (hid : r.names env.config.udpServerModule =
      (s.calls c).names env.config.udpServerModule)
    (hsucc : (s.calls c).Torn → r.Torn) : Inv env s' := by
  have hupd : ∀ {P : CallId → SubscribeCall → Prop}, P c r →
      (∀ c', c' ≠ c → P c' (s.calls c')) → ∀ c', P c' (s'.calls c') := by
    intro P hc hne c'
    rw [hcalls]
    by_cases hc' : c' = c
    · rw [hc', Function.update_self]
      exact hc
    · rw [Function.update_of_ne hc']
      exact hne c' hc'
  refine h.of_names ht (hupd hwf fun c' _ => h.wf c')
    (hupd (P := fun c' r' => r'.names _ = (s.calls c').names _) hid fun _ _ => rfl) ?_
    (hupd (P := fun c' r' => (s.calls c').Torn → r'.Torn) hsucc fun _ _ ht => ht)
  · intro cl hcl
    obtain ⟨_, hst, ha, _⟩ := h.cleanup cl hcl
    have hne : cl.stage.worker ≠ c := by
      intro he
      rw [he] at hst ha
      obtain hpc | hpc := hpc
      · exact hpc hst
      · rw [hpc.1] at ha
        exact absurd ha (by simp)
    rw [hcalls, Function.update_of_ne hne]
    exact SameCore.refl _

/-! ## The points of `telemetrySubscribe` -/

theorem allocate_spec (s : AgentServer σ) (c : CallId) (request : SubscriptionRequest) :
    (∃ r : SubscribeCall, r.pc = .done ∧ s.allocate c request = s.setCall c r) ∨
    (∃ i, 1 ≤ i ∧ i < subscriptionIdSpaceSize ∧ s.idManager.present i = false ∧
      s.allocate c request = { s with
        calls := Function.update s.calls c
          { s.calls c with request := request, pc := .allocated, id := i }
        idManager := s.idManager.set i
        trace := { s.trace with owner := Function.update s.trace.owner i (some c) } }) := by
  unfold allocate
  simp only [setCall, sendMetaDataInfo, Function.update_self, Function.update_idem]
  split
  · exact Or.inl ⟨_, rfl, rfl⟩
  · obtain ⟨i, h1, h2, hp, _, ha⟩ | ⟨_, ha⟩ :=
      AgentServerIdManager.allocate_cases (by decide) s.idManager
    · right
      have hi : i ≠ AgentServerIdManager.getNullIdentifier := Nat.ne_of_gt h1
      rw [ha]
      refine ⟨i, h1, h2, hp, ?_⟩
      simp only [if_neg hi]
    · left
      rw [ha]
      simp only [if_true]
      exact ⟨_, rfl, rfl⟩

theorem live_of_pc_idle {r : SubscribeCall} (h : r.pc = .idle) : r.live = false := by
  unfold live
  rw [h]

theorem live_of_pc_done {r : SubscribeCall} (h : r.pc = .done) : r.live = false := by
  unfold live
  rw [h]

theorem not_torn_of_pc {r : SubscribeCall} (h : r.pc.rank < 8) : ¬ r.Torn := by
  intro htorn
  obtain ⟨_, hpc⟩ := htorn
  obtain hpc | hpc := hpc
  · rw [hpc] at h
    exact absurd h (by decide)
  · rw [hpc] at h
    exact absurd h (by decide)

theorem ne_streaming_of_rank {r : SubscribeCall} (h : r.pc.rank < 8) : r.pc ≠ .streaming := by
  intro hpc
  rw [hpc] at h
  exact absurd h (by decide)

/-- A call that returns before it has anything. -/
theorem Inv.setCall_done (h : Inv env s) (hpc : (s.calls c).pc = .idle) {r : SubscribeCall}
    (hr : r.pc = .done) : Inv env (s.setCall c r) := by
  have hrank : (s.calls c).pc.rank < 8 := by
    rw [hpc]
    decide
  refine h.of_proceed rfl rfl (Or.inl (ne_streaming_of_rank hrank))
    (wf_of_not_live (live_of_pc_done hr) ?_) ?_ fun ht => absurd ht (not_torn_of_pc hrank)
  · rw [hr]
    intro _ h5
    exact absurd h5 (by decide)
  · rw [names_of_not_live (live_of_pc_done hr), names_of_not_live (live_of_pc_idle hpc)]

/-- A step of the thread of call `c` that moves names, table by table. -/
theorem Inv.of_update (h : Inv env s) {r : SubscribeCall}
    (hcalls : s'.calls = Function.update s.calls c r) (hwf : r.Wf env.config.udpServerModule)
    (hids : s'.idManager.Exact (Function.update (fun x => (s.calls x).idAt 1) c (r.idAt 1)))
    (hcon : s'.consolidator.Inv env.getMessageString)
    (hhandles : Distinct (Function.update (fun x => (s.calls x).handleName) c r.handleName))
    (hmem : ∀ hd, hd ∈ s'.consolidator.handles ↔
      ∃ x, Function.update (fun x => (s.calls x).handleName) c r.handleName x = some hd)
    (hstore : Tracks s'.store (Function.update (fun x => (s.calls x).idAt 3) c (r.idAt 3)))
    (hstore2 : Tracks s'.store2
      (Function.update (fun x => (s.calls x).store2Name env.config.udpServerModule) c
        (r.store2Name env.config.udpServerModule)))
    (hcl : ∀ cl, s'.cleanup = some cl → s.cleanup = some cl ∧ cl.stage.worker ≠ c)
    (howner : Inverse s'.trace.owner
      (Function.update (fun x => (s.calls x).idAt 1) c (r.idAt 1)))
    (hrem : s'.trace.removed.Nodup)
    (hold : ∀ hd ∈ s'.trace.removed,
      hd < s'.consolidator.nextHandle ∧ hd ∉ s'.consolidator.handles)
    (hfreed : ∀ x ∈ s'.trace.freed, x.2 = some x.1)
    (herased : ∀ x ∈ s'.trace.erased, x.2 = some x.1)
    (hsucc : ∀ x ∈ s'.trace.succeeded, (x ∈ s.trace.succeeded ∧ x ≠ c) ∨ (x = c ∧ r.Torn)) :
    Inv env s' := by
  have hf : ∀ {β : Type} (f : SubscribeCall → β), (fun x => f (s'.calls x)) =
      Function.update (fun x => f (s.calls x)) c (f r) := by
    intro β f
    rw [hcalls]
    exact comp_update s.calls c r f
  refine ⟨fun x => ?_, ?_, hcon, ?_, ?_, ?_, ?_, fun cl hcl' => ?_, ?_, hrem, hold, hfreed, herased,
    fun x hx => ?_⟩
  · rw [hcalls]
    by_cases hx : x = c
    · rw [hx, Function.update_self]
      exact hwf
    · rw [Function.update_of_ne hx]
      exact h.wf x
  · rw [hf (idAt 1)]
    exact hids
  · rw [hf handleName]
    exact hhandles
  · intro hd
    rw [hmem, ← hf handleName]
  · rw [hf (idAt 3)]
    exact hstore
  · rw [hf (store2Name env.config.udpServerModule)]
    exact hstore2
  · obtain ⟨hcl', hne⟩ := hcl cl hcl'
    rw [hcalls, Function.update_of_ne hne]
    exact h.cleanup cl hcl'
  · rw [hf (idAt 1)]
    exact howner
  · rw [hcalls]
    obtain ⟨hx, hne⟩ | ⟨rfl, ht⟩ := hsucc x hx
    · rw [Function.update_of_ne hne]
      exact h.succeeded x hx
    · rw [Function.update_self]
      exact ht

theorem update_names {β : Type} (f : SubscribeCall → β) {r : SubscribeCall}
    (hr : f r = f (s.calls c)) :
    Function.update (fun x => f (s.calls x)) c (f r) = fun x => f (s.calls x) := by
  rw [hr]
  exact Function.update_eq_self c _

theorem Inv.cleanup_ne (h : Inv env s) (hpc : (s.calls c).pc.rank < 8) {cl : Cleanup}
    (hcl : s.cleanup = some cl) : cl.stage.worker ≠ c := by
  intro he
  obtain ⟨_, hst, _⟩ := h.cleanup cl hcl
  rw [he] at hst
  exact ne_streaming_of_rank hpc hst

theorem Inv.succeeded_ne (h : Inv env s) (hpc : (s.calls c).pc.rank < 8) {x : CallId}
    (hx : x ∈ s.trace.succeeded) : x ≠ c := by
  intro he
  exact not_torn_of_pc hpc (he ▸ h.succeeded x hx)

/-- No other call has the id of a live one. -/
theorem Inv.idAt_ne (h : Inv env s) {n i : Nat} (hn : 1 ≤ n) (hc : (s.calls c).idAt 1 = some i)
    (hcn : (s.calls c).idAt n = none) (x : CallId) : (s.calls x).idAt n ≠ some i := by
  intro hx
  obtain ⟨hx1, hx2⟩ := idAt_eq_some.mp hx
  have hx' : (s.calls x).idAt 1 = some i := idAt_eq_some.mpr ⟨holds_mono hx1 hn, hx2⟩
  rw [h.ids.distinct hx' hc, hcn] at hx
  exact absurd hx (by simp)

theorem inv_allocate (h : Inv env s) (hpc : (s.calls c).pc = .idle)
    (request : SubscriptionRequest) : Inv env (s.allocate c request) := by
  have hlive := live_of_pc_idle hpc
  have hrank : (s.calls c).pc.rank < 8 := by
    rw [hpc]
    decide
  obtain ⟨r, hr, he⟩ | ⟨i, h1, h2, hp, he⟩ := allocate_spec s c request
  · rw [he]
    exact h.setCall_done hpc hr
  · rw [he]
    have hid := idAt_of_not_live hlive
    have hfree : ∀ x, (s.calls x).idAt 1 ≠ some i := by
      intro x hx
      rw [(h.ids.present_iff i).mpr ⟨x, hx⟩] at hp
      exact absurd hp (by simp)
    refine h.of_update rfl ⟨fun hn => absurd hn ?_, fun _ hn => absurd hn ?_, fun h4 => absurd h4 ?_⟩
      (h.ids.set (hid 1) h1 h2 hp) h.consolidator ?_ ?_ ?_ ?_
      (fun cl hcl => ⟨hcl, h.cleanup_ne hrank hcl⟩) (h.owner.set (hid 1) hfree) h.removed
      h.removed_old h.freed h.erased
      (fun x hx => Or.inl ⟨hx, h.succeeded_ne hrank hx⟩)
    · simp [holds, Pc.rank]
    · simp [holds, Pc.rank]
    · simp [Pc.rank]
    · rw [update_names handleName]
      · exact h.handles
      · rw [handleName_of_not_live hlive]
        rfl
    · rw [update_names handleName]
      · exact h.mem_handles
      · rw [handleName_of_not_live hlive]
        rfl
    · rw [update_names (idAt 3)]
      · exact h.store
      · rw [hid]
        rfl
    · rw [update_names (store2Name _)]
      · exact h.store2
      · unfold store2Name
        rw [hid]
        rfl

theorem addRequest_spec (s : AgentServer σ) (c : CallId) :
    s.addRequest env c true = { s with
      pathInformationDb := (s.validate env (s.calls c).request).2
      consolidator := (s.consolidator.addRequest env.sys env.getMessageString true
        (s.calls c).id (s.validate env (s.calls c).request).1).2
      calls := Function.update s.calls c { s.calls c with
        pc := .added
        systemHandle := s.consolidator.nextHandle
        accepted := { (s.validate env (s.calls c).request).1 with
          pathList := (s.consolidator.addRequest env.sys env.getMessageString true
            (s.calls c).id (s.validate env (s.calls c).request).1).1.2 } } } := by
  have hh := (AgentConsolidator.addRequest_handles env.sys env.getMessageString s.consolidator
    (s.calls c).id (s.validate env (s.calls c).request).1).1
  unfold addRequest
  simp only [hh, setCall]

theorem inv_addRequest (h : Inv env s) (hpc : (s.calls c).pc = .allocated) :
    Inv env (s.addRequest env c true) := by
  have hrank : (s.calls c).pc.rank = 1 := by
    rw [hpc]
    rfl
  have hlive := live_of_rank (by omega) (by omega : (s.calls c).pc.rank < 8)
  have hnone : (s.calls c).handleName = none := by
    rw [handleName_of_live hlive, hrank]
    rfl
  have hfresh : ∀ x, (s.calls x).handleName ≠ some s.consolidator.nextHandle := by
    intro x hx
    have hm := (h.mem_handles _).mpr ⟨x, hx⟩
    rw [ExtTreeMap.mem_iff_isSome_getElem?, AgentConsolidator.handle_fresh h.consolidator] at hm
    exact absurd hm (by simp)
  obtain ⟨_, hh, hn⟩ := AgentConsolidator.addRequest_handles env.sys env.getMessageString
    s.consolidator (s.calls c).id (s.validate env (s.calls c).request).1
  rw [addRequest_spec]
  refine h.of_update rfl ⟨fun hn => absurd hn ?_, fun _ hn => absurd hn ?_, fun h4 => absurd h4 ?_⟩
    ?_ (AgentConsolidator.inv_addRequest env.sys h.consolidator true _ _) ?_ ?_ ?_ ?_
    (fun cl hcl => ⟨hcl, h.cleanup_ne (by omega) hcl⟩) ?_ h.removed ?_ h.freed h.erased
    (fun x hx => Or.inl ⟨hx, h.succeeded_ne (by omega) hx⟩)
  · simp [holds, Pc.rank]
  · simp [holds, Pc.rank]
  · simp [Pc.rank]
  · rw [update_names (idAt 1)]
    · exact h.ids
    · rw [idAt_of_live hlive, hrank]
      rfl
  · exact h.handles.update_some hfresh
  · intro hd
    rw [hh, mem_insert_iff, h.mem_handles, eq_comm]
    exact (@exists_update_some _ _ _ (fun x => (s.calls x).handleName) c _ hnone hd).symm
  · rw [update_names (idAt 3)]
    · exact h.store
    · rw [idAt_of_live hlive, hrank]
      rfl
  · rw [update_names (store2Name _)]
    · exact h.store2
    · unfold store2Name
      rw [idAt_of_live hlive, hrank]
      rfl
  · rw [update_names (idAt 1)]
    · exact h.owner
    · rw [idAt_of_live hlive, hrank]
      rfl
  · intro hd hr
    obtain ⟨h1, h2⟩ := h.removed_old hd hr
    rw [hn, hh, mem_insert_iff, not_or]
    exact ⟨Nat.lt_succ_of_lt h1, Nat.ne_of_lt h1, h2⟩

theorem inv_createSubscription (h : Inv env s) (hpc : (s.calls c).pc = .added) :
    Inv env (s.createSubscription env c) := by
  have hrank : (s.calls c).pc.rank = 2 := by
    rw [hpc]
    rfl
  have hlive := live_of_rank (by omega) (by omega : (s.calls c).pc.rank < 8)
  have h1 : (s.calls c).idAt 1 = some (s.calls c).id := by
    rw [idAt_of_live hlive, hrank]
    rfl
  have h3 : (s.calls c).idAt 3 = none := by
    rw [idAt_of_live hlive, hrank]
    rfl
  unfold createSubscription
  refine h.of_update rfl ⟨fun _ => ⟨rfl, rfl⟩, fun _ hn => absurd hn ?_, fun h4 => absurd h4 ?_⟩
    ?_ h.consolidator ?_ ?_ (h.store.insert h3 (h.idAt_ne (by omega) h1 h3)) ?_
    (fun cl hcl => ⟨hcl, h.cleanup_ne (by omega) hcl⟩) ?_ h.removed h.removed_old h.freed h.erased
    (fun x hx => Or.inl ⟨hx, h.succeeded_ne (by omega) hx⟩)
  · simp [holds, Pc.rank]
  · simp [Pc.rank]
  · rw [update_names (idAt 1)]
    · exact h.ids
    · rw [h1]
      rfl
  · rw [update_names handleName]
    · exact h.handles
    · rw [handleName_of_live hlive, hrank]
      rfl
  · rw [update_names handleName]
    · exact h.mem_handles
    · rw [handleName_of_live hlive, hrank]
      rfl
  · rw [update_names (store2Name _)]
    · exact h.store2
    · unfold store2Name
      rw [idAt_of_live hlive, hrank]
      rfl
  · rw [update_names (idAt 1)]
    · exact h.owner
    · rw [h1]
      rfl

theorem inv_createSubscriptionUdpWorker (h : Inv env s) (hpc : (s.calls c).pc = .created)
    (hudp : env.config.udpServerModule = true) : Inv env (s.createSubscriptionUdpWorker c) := by
  have hrank : (s.calls c).pc.rank = 3 := by
    rw [hpc]
    rfl
  have hlive := live_of_rank (by omega) (by omega : (s.calls c).pc.rank < 8)
  have h1 : (s.calls c).idAt 1 = some (s.calls c).id := by
    rw [idAt_of_live hlive, hrank]
    rfl
  have h4 : (s.calls c).idAt 4 = none := by
    rw [idAt_of_live hlive, hrank]
    rfl
  have hsub := (h.wf c).sub (holds_of_rank (by omega) (by omega) (by omega))
  have hstore2 := h.store2
  unfold createSubscriptionUdpWorker
  refine h.of_update rfl ⟨fun _ => hsub, fun _ _ => ⟨rfl, rfl⟩, fun _ _ => hudp⟩
    ?_ h.consolidator ?_ ?_ ?_ ?_
    (fun cl hcl => ⟨hcl, h.cleanup_ne (by omega) hcl⟩) ?_ h.removed h.removed_old h.freed h.erased
    (fun x hx => Or.inl ⟨hx, h.succeeded_ne (by omega) hx⟩)
  · rw [update_names (idAt 1)]
    · exact h.ids
    · rw [h1]
      rfl
  · rw [update_names handleName]
    · exact h.handles
    · rw [handleName_of_live hlive, hrank]
      rfl
  · rw [update_names handleName]
    · exact h.mem_handles
    · rw [handleName_of_live hlive, hrank]
      rfl
  · rw [update_names (idAt 3)]
    · exact h.store
    · rw [idAt_of_live hlive, hrank]
      rfl
  · rw [hudp, store2Name_true] at hstore2 ⊢
    exact hstore2.insert h4 (h.idAt_ne (by omega) h1 h4)
  · rw [update_names (idAt 1)]
    · exact h.owner
    · rw [h1]
      rfl

/-- Once the call has its entries, moving on changes no name. -/
theorem names_eq {udp : Bool} {r r' : SubscribeCall} (hl : r.live = true) (hl' : r'.live = true)
    (hid : r'.id = r.id) (hh : r'.systemHandle = r.systemHandle) (hr : 3 ≤ r.pc.rank)
    (hr' : 3 ≤ r'.pc.rank) (h4 : udp = true → 4 ≤ r.pc.rank ∧ 4 ≤ r'.pc.rank) :
    r'.names udp = r.names udp := by
  have h1 : 1 ≤ r.pc.rank := by omega
  have h2 : 2 ≤ r.pc.rank := by omega
  have h1' : 1 ≤ r'.pc.rank := by omega
  have h2' : 2 ≤ r'.pc.rank := by omega
  unfold names store2Name
  simp only [idAt_of_live hl, idAt_of_live hl', handleName_of_live hl, handleName_of_live hl', hid,
    hh, if_pos h1, if_pos h2, if_pos hr, if_pos h1', if_pos h2', if_pos hr']
  cases udp with
  | false => rfl
  | true => rw [if_pos (h4 rfl).1, if_pos (h4 rfl).2]

/-- A point between the creation of the objects and the end of the set-up. -/
theorem Inv.of_advance (h : Inv env s) (ht : s'.tables = s.tables) {r : SubscribeCall}
    (hcalls : s'.calls = Function.update s.calls c r) (hr : 3 ≤ (s.calls c).pc.rank)
    (hr' : (s.calls c).pc.rank < 8) (hl : r.live = true) (hid : r.id = (s.calls c).id)
    (hh : r.systemHandle = (s.calls c).systemHandle)
    (hsub : r.sub.id = (s.calls c).sub.id ∧
      r.sub.systemSubscription = (s.calls c).sub.systemSubscription)
    (hworker : r.worker = (s.calls c).worker) (hrank : 3 ≤ r.pc.rank)
    (h4 : env.config.udpServerModule = true → 4 ≤ (s.calls c).pc.rank ∧ 4 ≤ r.pc.rank)
    (h5 : 4 ≤ r.pc.rank → r.pc.rank ≤ 5 → env.config.udpServerModule = true) : Inv env s' := by
  have hlive := live_of_rank (by omega) hr'
  have hholds : ∀ n, n ≤ (s.calls c).pc.rank → (s.calls c).holds n = true :=
    fun n hn => holds_iff.mpr ⟨hlive, hn⟩
  refine h.of_proceed ht hcalls (Or.inl (ne_streaming_of_rank hr')) ⟨fun _ => ?_, fun hu _ => ?_, h5⟩
    (names_eq hlive hl hid hh hr hrank h4) fun ht => absurd ht (not_torn_of_pc hr')
  · rw [hsub.1, hsub.2, hid, hh]
    exact (h.wf c).sub (hholds 3 hr)
  · rw [hworker, hid, hh]
    exact (h.wf c).worker hu (hholds 4 (h4 hu).1)

theorem inv_addWorker (h : Inv env s) (hpc : (s.calls c).pc = .workerCreated) :
    Inv env (s.addWorker c) := by
  have hrank : (s.calls c).pc.rank = 4 := by
    rw [hpc]
    rfl
  have hudp := (h.wf c).udp (by omega) (by omega)
  exact h.of_advance rfl rfl (by omega) (by omega) rfl rfl rfl ⟨rfl, rfl⟩ rfl
    (by simp [Pc.rank]) (fun _ => ⟨by omega, by simp [Pc.rank]⟩) fun _ _ => hudp

theorem inv_sendResponse (h : Inv env s) (hr : 3 ≤ (s.calls c).pc.rank)
    (hr' : (s.calls c).pc.rank < 8)
    (h4 : env.config.udpServerModule = true → 4 ≤ (s.calls c).pc.rank) :
    Inv env (s.sendResponse c) :=
  h.of_advance rfl rfl hr hr' rfl rfl rfl ⟨rfl, rfl⟩ rfl (by simp [Pc.rank])
    (fun hu => ⟨h4 hu, by simp [Pc.rank]⟩) fun _ h5 => absurd h5 (by simp [Pc.rank])

theorem inv_addMapping (h : Inv env s) {k : Nat} (hpc : (s.calls c).pc = .mapping k) :
    Inv env (s.addMapping c k) := by
  have hrank : (s.calls c).pc.rank = 5 := by
    rw [hpc]
    rfl
  have hudp := (h.wf c).udp (by omega) (by omega)
  unfold addMapping
  simp only []
  split
  · exact h.of_advance rfl rfl (by omega) (by omega) rfl rfl rfl ⟨rfl, rfl⟩ rfl
      (by simp [Pc.rank]) (fun _ => ⟨by omega, by simp [Pc.rank]⟩) fun _ _ => hudp
  · exact inv_sendResponse h (by omega) (by omega) fun _ => by omega

theorem inv_enable (h : Inv env s) (hpc : (s.calls c).pc = .metaSent) :
    Inv env (s.enable c) := by
  have hrank : (s.calls c).pc.rank = 6 := by
    rw [hpc]
    rfl
  exact h.of_advance rfl rfl (by omega) (by omega) rfl rfl rfl ⟨rfl, rfl⟩ rfl
    (by simp [Pc.rank]) (fun _ => ⟨by omega, by simp [Pc.rank]⟩) fun _ h5 => absurd h5 (by simp [Pc.rank])

theorem inv_setActive (h : Inv env s) (hpc : (s.calls c).pc = .enabled) :
    Inv env (s.setActive c) := by
  have hrank : (s.calls c).pc.rank = 7 := by
    rw [hpc]
    rfl
  exact h.of_advance rfl rfl (by omega) (by omega) rfl rfl rfl ⟨rfl, rfl⟩ rfl
    (by simp [Pc.rank]) (fun _ => ⟨by omega, by simp [Pc.rank]⟩) fun _ h5 => absurd h5 (by simp [Pc.rank])

/-! ## The data plane -/

theorem sameCore_pushAll (calls : CallId → SubscribeCall) (vec : List UInt8) (ws : List CallId)
    (c : CallId) : SameCore (calls c) (pushAll calls vec ws c) := by
  induction ws generalizing calls with
  | nil => exact SameCore.refl _
  | cons w ws ih =>
    refine SameCore.trans ?_ (ih _)
    by_cases hc : c = w
    · rw [hc, Function.update_self]
      exact ⟨rfl, rfl, rfl, rfl, rfl, rfl, rfl, rfl⟩
    · rw [Function.update_of_ne hc]
      exact SameCore.refl _

theorem inv_receive (h : Inv env s) (buf : List UInt8) : Inv env (s.receive buf) :=
  h.of_core rfl fun c => sameCore_pushAll s.calls _ _ c

theorem Inv.setCall_sameCore (h : Inv env s) {r : SubscribeCall} (hr : SameCore (s.calls c) r) :
    Inv env (s.setCall c r) := h.of_core rfl fun c' => sameCore_update hr c'

theorem workerStep_eq_some (hs : s.workerStep c = some s') :
    ∃ vec worker, (s.calls c).worker.next = some (vec, worker) ∧
      s' = s.setCall c { s.calls c with
        worker := worker, stream := (s.calls c).stream ++ [.record (.udp vec)] } := by
  obtain ⟨⟨vec, worker⟩, hn, he⟩ := Option.map_eq_some_iff.mp hs
  exact ⟨vec, worker, hn, he.symm⟩

theorem inv_workerStep (h : Inv env s) (hs : s.workerStep c = some s') : Inv env s' := by
  obtain ⟨vec, worker, hn, rfl⟩ := workerStep_eq_some hs
  obtain ⟨_, _, hid, hh, _⟩ := AgentSubscriptionUdpWorker.next_eq_some hn
  exact h.setCall_sameCore ⟨rfl, rfl, rfl, rfl, rfl, rfl, hid, hh⟩

theorem inv_message (h : Inv env s) (now : Int) (m : MosquittoMessage) :
    Inv env (s.message env c now m) :=
  h.setCall_sameCore ⟨rfl, rfl, rfl, AgentSubscription.id_onMessage _ _ _ _ _ _,
    AgentSubscription.systemSubscription_onMessage _ _ _ _ _ _,
    AgentSubscription.active_onMessage _ _ _ _ _ _, rfl, rfl⟩

theorem inv_disconnect (h : Inv env s) :
    Inv env (s.setCall c { s.calls c with isCancelled := true }) :=
  h.setCall_sameCore ⟨rfl, rfl, rfl, rfl, rfl, rfl, rfl, rfl⟩

/-! ## Tear-down -/

/-- What a tear-down of call `c` leaves, apart from where its thread then stands and what
    is noted as cancelled. -/
theorem inv_tearDown (h : Inv env s) (hpc : (s.calls c).pc = .streaming)
    (hact : (s.calls c).sub.active = true) {r : SubscribeCall} (hr : SameCore (s.calls c) r)
    (hidm : s'.idManager = (s.idManager.deallocate r.sub.id).2)
    (hcon : s'.consolidator = s.consolidator.removeRequest env.sys env.getMessageString
      (some r.sub.systemSubscription))
    (hstore : s'.store = s.store.erase r.sub.id)
    (hstore2 : Tracks s'.store2
      (Function.update (fun x => (s.calls x).store2Name env.config.udpServerModule) c none))
    (hcl : s'.cleanup = none) (howner : s'.trace.owner = Function.update s.trace.owner r.sub.id none)
    (hremoved : s'.trace.removed = r.sub.systemSubscription :: s.trace.removed)
    (hfreed : s'.trace.freed = (c, s.trace.owner r.sub.id) :: s.trace.freed)
    (herased : s'.trace.erased = (c, s.store[r.sub.id]?) :: s.trace.erased)
    (r' : SubscribeCall) (hcalls : s'.calls = Function.update s.calls c r') (hr' : r'.Torn)
    (hsucc : ∀ x ∈ s'.trace.succeeded, x ∈ s.trace.succeeded ∨ x = c) : Inv env s' := by
  have hsub := (h.wf c).sub (holds_of_streaming hpc hact (by decide))
  have hi : r.sub.id = (s.calls c).id := hr.subId.trans hsub.1
  have hh : r.sub.systemSubscription = (s.calls c).systemHandle := hr.subHandle.trans hsub.2
  rw [hi] at hidm hstore howner hfreed herased
  rw [hh] at hcon hremoved
  have hid : ∀ n, n ≤ 8 → (s.calls c).idAt n = some (s.calls c).id :=
    fun n hn => idAt_of_streaming hpc hact hn
  have hname : (s.calls c).handleName = some (s.calls c).systemHandle :=
    handleName_eq_some.mpr ⟨holds_of_streaming hpc hact (by decide), rfl⟩
  have hmem : (s.calls c).systemHandle ∈ s.consolidator.handles :=
    (h.mem_handles _).mpr ⟨c, hname⟩
  obtain ⟨x, hx⟩ := Option.isSome_iff_exists.mp
    ((ExtTreeMap.mem_iff_isSome_getElem?).mp hmem)
  obtain ⟨hhandles, hnext⟩ :=
    AgentConsolidator.removeRequest_handles env.sys env.getMessageString hx
  have hdead := hr'.not_live
  refine h.of_update hcalls (wf_of_not_live hdead ?_) ?_ ?_ ?_ ?_ ?_ ?_ ?_ ?_ ?_ ?_ ?_ ?_ ?_
  · intro _ h5
    obtain ⟨_, hst | hst⟩ := hr'
    · rw [hst] at h5
      exact absurd h5 (by decide)
    · rw [hst] at h5
      exact absurd h5 (by decide)
  · rw [hidm, idAt_of_not_live hdead]
    exact h.ids.deallocate (hid 1 (by omega))
  · rw [hcon]
    exact AgentConsolidator.inv_removeRequest env.sys h.consolidator hx
  · rw [handleName_of_not_live hdead]
    exact h.handles.update_none
  · intro hd
    rw [handleName_of_not_live hdead, hcon, hhandles, mem_erase_iff, h.mem_handles, ne_comm]
    exact (@Distinct.exists_update_none _ _ _ (fun x => (s.calls x).handleName) c _ h.handles
      hname hd).symm
  · rw [hstore, idAt_of_not_live hdead]
    exact h.store.erase (hid 3 (by omega))
  · have : r'.store2Name env.config.udpServerModule = none := by
      unfold store2Name
      rw [idAt_of_not_live hdead, ite_self]
    rw [this]
    exact hstore2
  · intro cl hcl'
    rw [hcl] at hcl'
    exact absurd hcl' (by simp)
  · rw [howner, idAt_of_not_live hdead]
    exact h.owner.clear (hid 1 (by omega))
  · rw [hremoved]
    exact List.nodup_cons.mpr ⟨fun hm => (h.removed_old _ hm).2 hmem, h.removed⟩
  · intro hd hm
    rw [hremoved] at hm
    rw [hcon, hnext, hhandles, mem_erase_iff]
    obtain rfl | hm := List.mem_cons.mp hm
    · exact ⟨h.consolidator.handle_lt hx, fun hn => hn.1 rfl⟩
    · obtain ⟨h1, h2⟩ := h.removed_old hd hm
      exact ⟨h1, fun hn => h2 hn.2⟩
  · intro y hy
    rw [hfreed] at hy
    obtain rfl | hy := List.mem_cons.mp hy
    · exact (h.owner _ c).mpr (hid 1 (by omega))
    · exact h.freed y hy
  · intro y hy
    rw [herased] at hy
    obtain rfl | hy := List.mem_cons.mp hy
    · exact (h.store _ c).mpr (hid 3 (by omega))
    · exact h.erased y hy
  · intro y hy
    by_cases hyc : y = c
    · exact Or.inr ⟨hyc, hr'⟩
    · exact Or.inl ⟨(hsucc y hy).resolve_right hyc, hyc⟩

/-- The second half of a hold, on the subscription of a call that is streaming. `r` is the
    record of the call and `t` is `store2` after the UDP worker, if there is one, is gone. -/
theorem inv_finish (h : Inv env s) (hpc : (s.calls c).pc = .streaming)
    (hact : (s.calls c).sub.active = true) {r : SubscribeCall} (hr : SameCore (s.calls c) r)
    {t : ExtTreeMap Nat CallId} (ht : Tracks t
      (Function.update (fun x => (s.calls x).store2Name env.config.udpServerModule) c none))
    {origin : Origin} (ho : origin = .endOfStream c ∨ origin = .cancel (s.calls c).id) :
    Inv env (finish env { s with
      calls := Function.update s.calls c r, store2 := t, cleanup := none } origin).2 := by
  obtain rfl | rfl := ho
  · refine inv_tearDown h hpc hact hr ?_ ?_ ?_ ht rfl ?_ ?_ ?_ ?_
      { r with sub := r.sub.disconnect.setActive false, pc := .done } ?_ ⟨rfl, Or.inr rfl⟩
      fun x hx => Or.inl hx
    all_goals simp only [finish, cleanupSubscription, deallocateId, setCall, Function.update_self,
      Function.update_idem, AgentSubscription.disconnect]
  · have hstore : s.store[(s.calls c).id]? = some c :=
      (h.store _ c).mpr (idAt_of_streaming hpc hact (by decide))
    have hstore2 : (finish env { s with
        calls := Function.update s.calls c r, store2 := t, cleanup := none }
        (.cancel (s.calls c).id)).2.store2 = t := by
      simp only [finish, hstore]
      rfl
    refine inv_tearDown h hpc hact hr ?_ ?_ ?_ (by rw [hstore2]; exact ht) ?_ ?_ ?_ ?_ ?_
      { r with sub := r.sub.disconnect.setActive false } ?_
      ⟨rfl, Or.inl (hr.pc.trans hpc)⟩ fun x hx => ?_
    rotate_right
    · simp only [finish, hstore, cleanupSubscription, deallocateId, setCall,
        Function.update_self] at hx
      exact (List.mem_cons.mp hx).symm
    all_goals simp only [finish, hstore, cleanupSubscription, deallocateId, setCall,
      Function.update_self, Function.update_idem, AgentSubscription.disconnect]

/-- No cancel finds a subscription that its own call has not made active. -/
def NoEarlyCancel (env : Environment σ) (s : AgentServer σ) : Event → Prop
  | .cancel i => ∀ c ∈ (if env.config.udpServerModule then s.store2[i]? else s.store[i]?),
    (s.calls c).pc = .streaming
  | _ => True

instance (env : Environment σ) (s : AgentServer σ) : ∀ e, Decidable (NoEarlyCancel env s e)
  | .cancel i => inferInstanceAs (Decidable (∀ c ∈ (if env.config.udpServerModule then
      s.store2[i]? else s.store[i]?), (s.calls c).pc = .streaming))
  | .subscribe _ _ => .isTrue trivial
  | .proceed _ => .isTrue trivial
  | .disconnect _ => .isTrue trivial
  | .cleanup => .isTrue trivial
  | .datagram _ => .isTrue trivial
  | .workerStep _ => .isTrue trivial
  | .message _ _ _ => .isTrue trivial

theorem Inv.live_of_store (h : Inv env s) {i : Nat} (hs : s.store[i]? = some c) :
    (s.calls c).live = true ∧ (s.calls c).id = i := by
  obtain ⟨hh, hi⟩ := idAt_eq_some.mp ((h.store i c).mp hs)
  exact ⟨live_of_holds hh, hi⟩

theorem Inv.live_of_store2 (h : Inv env s) (hudp : env.config.udpServerModule = true) {i : Nat}
    (hs : s.store2[i]? = some c) : (s.calls c).live = true ∧ (s.calls c).id = i := by
  have hn := (h.store2 i c).mp hs
  rw [hudp, store2Name_true] at hn
  obtain ⟨hh, hi⟩ := idAt_eq_some.mp hn
  exact ⟨live_of_holds hh, hi⟩

theorem active_of_live {r : SubscribeCall} (hl : r.live = true) (hpc : r.pc = .streaming) :
    r.sub.active = true := by
  unfold live at hl
  rw [hpc] at hl
  exact hl

/-- Without the UDP module nothing is in `store2`. -/
theorem Inv.finish_noUdp (h : Inv env s) (hudp : env.config.udpServerModule = false)
    (hcl : s.cleanup = none) (hpc : (s.calls c).pc = .streaming)
    (hact : (s.calls c).sub.active = true) {origin : Origin}
    (ho : origin = .endOfStream c ∨ origin = .cancel (s.calls c).id) :
    Inv env (finish env s origin).2 := by
  have hs : s = { s with
      calls := Function.update s.calls c (s.calls c), store2 := s.store2, cleanup := none } := by
    rw [Function.update_eq_self, ← hcl]
  have hn : (fun x => (s.calls x).store2Name env.config.udpServerModule) = fun _ => none := by
    funext x
    rw [hudp]
    rfl
  have ht := h.store2
  rw [hs]
  refine inv_finish h hpc hact (SameCore.refl _) ?_ ho
  rw [hn] at ht ⊢
  rw [Function.update_eq_self_iff.mpr rfl]
  exact ht

/-- The mutex is taken, or the thread that holds it moves on. -/
theorem Inv.setCleanup (h : Inv env s) (u : UdpReceiver CallId) {cl : Cleanup}
    (hcl : env.config.udpServerModule = true ∧ (s.calls cl.stage.worker).pc = .streaming ∧
      (s.calls cl.stage.worker).sub.active = true ∧
      (cl.origin = .endOfStream cl.stage.worker ∨
        cl.origin = .cancel (s.calls cl.stage.worker).id)) :
    Inv env { s with udpreceiver := u, cleanup := some cl } where
  wf := h.wf
  ids := h.ids
  consolidator := h.consolidator
  handles := h.handles
  mem_handles := h.mem_handles
  store := h.store
  store2 := h.store2
  cleanup _ hcl' := Option.some.inj hcl' ▸ hcl
  owner := h.owner
  removed := h.removed
  removed_old := h.removed_old
  freed := h.freed
  erased := h.erased
  succeeded := h.succeeded

theorem endOfStream_cases (hs : s.endOfStream env c = some s') :
    waiting (s.calls c) = false ∧ s.cleanup = none ∧
      ((s.calls c).sub.active = true ∧ env.config.udpServerModule = true ∧
          s' = { s with cleanup := some ⟨.endOfStream c, .unmapping c 0⟩ } ∨
        (s.calls c).sub.active = true ∧ env.config.udpServerModule = false ∧
          s' = (finish env s (.endOfStream c)).2 ∨
        (s.calls c).sub.active = false ∧
          s' = s.setCall c { s.calls c with pc := .done }) := by
  unfold endOfStream at hs
  simp only [] at hs
  split_ifs at hs with hw hact hudp
  all_goals
    rw [Bool.or_eq_true, not_or, Bool.not_eq_true, Bool.not_eq_true,
      Option.isSome_eq_false_iff, Option.isNone_iff_eq_none] at hw
    refine ⟨hw.1, hw.2, ?_⟩
  · exact Or.inl ⟨hact, hudp, (Option.some.inj hs).symm⟩
  · exact Or.inr (Or.inl ⟨hact, Bool.not_eq_true _ ▸ hudp, (Option.some.inj hs).symm⟩)
  · exact Or.inr (Or.inr ⟨Bool.not_eq_true _ ▸ hact, (Option.some.inj hs).symm⟩)

theorem cancel_cases {i : Nat} (hs : s.cancel env i = some s') :
    s.cleanup = none ∧
      (env.config.udpServerModule = true ∧ s.store2[i]? = none ∧ s' = s ∨
        (∃ w, env.config.udpServerModule = true ∧ s.store2[i]? = some w ∧
          s' = { s with cleanup := some ⟨.cancel i, .unmapping w 0⟩ }) ∨
        env.config.udpServerModule = false ∧ s' = (finish env s (.cancel i)).2) := by
  unfold cancel at hs
  split_ifs at hs with hcl hudp
  all_goals
    rw [Bool.not_eq_true, Option.isSome_eq_false_iff, Option.isNone_iff_eq_none] at hcl
    refine ⟨hcl, ?_⟩
  · split at hs
    · exact Or.inl ⟨hudp, ‹_›, (Option.some.inj hs).symm⟩
    · exact Or.inr (Or.inl ⟨_, hudp, ‹_›, (Option.some.inj hs).symm⟩)
  · exact Or.inr (Or.inr ⟨Bool.not_eq_true _ ▸ hudp, (Option.some.inj hs).symm⟩)

theorem cleanupStep_cases (hs : s.cleanupStep env = some s') :
    (∃ origin w k, s.cleanup = some ⟨origin, .unmapping w k⟩ ∧ s' = s.unmap origin w k) ∨
      (∃ origin w, s.cleanup = some ⟨origin, .unregistered w⟩ ∧
        s' = { s.setTerminate w with cleanup := some ⟨origin, .terminated w⟩ }) ∨
      ∃ origin w, s.cleanup = some ⟨origin, .terminated w⟩ ∧ env.workerEnds w = true ∧
        s' = (finish env { s.deleteUdpSubscription w with cleanup := none } origin).2 := by
  unfold cleanupStep at hs
  split at hs
  · exact absurd hs (by simp)
  · exact Or.inl ⟨_, _, _, ‹_›, (Option.some.inj hs).symm⟩
  · exact Or.inr (Or.inl ⟨_, _, ‹_›, (Option.some.inj hs).symm⟩)
  · split_ifs at hs with hends
    exact Or.inr (Or.inr ⟨_, _, ‹_›, hends, (Option.some.inj hs).symm⟩)

theorem inv_endOfStream (h : Inv env s) (hpc : (s.calls c).pc = .streaming)
    (hs : s.endOfStream env c = some s') : Inv env s' := by
  obtain ⟨-, hcl, ⟨hact, hudp, rfl⟩ | ⟨hact, hudp, rfl⟩ | ⟨hact, rfl⟩⟩ := endOfStream_cases hs
  · exact h.setCleanup s.udpreceiver ⟨hudp, hpc, hact, Or.inl rfl⟩
  · exact h.finish_noUdp hudp hcl hpc hact (Or.inl rfl)
  · have htorn : (s.calls c).Torn := ⟨hact, Or.inl hpc⟩
    refine h.of_proceed rfl rfl (Or.inr htorn) (wf_of_not_live rfl ?_) ?_
      fun _ => ⟨hact, Or.inr rfl⟩
    · intro _ h5
      exact absurd h5 (by simp [Pc.rank])
    · rw [names_of_not_live htorn.not_live, names_of_not_live rfl]

theorem inv_cancel (h : Inv env s) {i : Nat} (hc : NoEarlyCancel env s (.cancel i))
    (hs : s.cancel env i = some s') : Inv env s' := by
  unfold NoEarlyCancel at hc
  obtain ⟨hcl, ⟨-, -, rfl⟩ | ⟨w, hudp, hw, rfl⟩ | ⟨hudp, rfl⟩⟩ := cancel_cases hs
  · exact h
  · rw [hudp] at hc
    obtain ⟨hl, hi⟩ := h.live_of_store2 hudp hw
    have hpc := hc w hw
    exact h.setCleanup s.udpreceiver
      ⟨hudp, hpc, active_of_live hl hpc, Or.inr (congrArg Origin.cancel hi.symm)⟩
  · rw [hudp] at hc
    cases hf : s.store[i]? with
    | none =>
      simp only [finish, hf]
      exact h
    | some c =>
      obtain ⟨hl, hi⟩ := h.live_of_store hf
      have hpc := hc c hf
      exact h.finish_noUdp hudp hcl hpc (active_of_live hl hpc)
        (Or.inr (congrArg Origin.cancel hi.symm))

theorem sameCore_setTerminate (s : AgentServer σ) (w x : CallId) :
    SameCore (s.calls x) ((s.setTerminate w).calls x) :=
  sameCore_update (r := { s.calls w with worker := (s.calls w).worker.setTerminate })
    ⟨rfl, rfl, rfl, rfl, rfl, rfl, rfl, rfl⟩ x

theorem inv_cleanupStep (h : Inv env s) (hs : s.cleanupStep env = some s') : Inv env s' := by
  obtain ⟨origin, w, k, hcl, rfl⟩ | ⟨origin, w, hcl, rfl⟩ | ⟨origin, w, hcl, -, rfl⟩ :=
    cleanupStep_cases hs
  · obtain ⟨hudp, hpc, hact, ho⟩ := h.cleanup _ hcl
    simp only [CleanupStage.worker] at hpc hact ho
    unfold unmap
    simp only []
    split
    · exact h.setCleanup _ ⟨hudp, hpc, hact, ho⟩
    · exact h.setCleanup _ ⟨hudp, hpc, hact, ho⟩
  · obtain ⟨hudp, hpc, hact, ho⟩ := h.cleanup _ hcl
    simp only [CleanupStage.worker] at hpc hact ho
    have hr := sameCore_setTerminate s w
    refine Inv.setCleanup (s := s.setTerminate w)
      (h.setCall_sameCore ⟨rfl, rfl, rfl, rfl, rfl, rfl, rfl, rfl⟩) s.udpreceiver ⟨hudp, ?_, ?_, ?_⟩
    · exact (hr w).pc.trans hpc
    · exact (hr w).active.trans hact
    · exact (hr w).id ▸ ho
  · obtain ⟨hudp, hpc, hact, ho⟩ := h.cleanup _ hcl
    simp only [CleanupStage.worker] at hpc hact ho
    have hid := ((h.wf w).worker hudp (holds_of_streaming hpc hact (by decide))).1
    have ht := h.store2
    have hs : { s.deleteUdpSubscription w with cleanup := none } = { s with
        calls := Function.update s.calls w (s.calls w)
        store2 := s.store2.erase (s.calls w).worker.id
        cleanup := none } := by
      rw [Function.update_eq_self]
      rfl
    rw [hs]
    refine inv_finish h hpc hact (SameCore.refl _) ?_ ho
    rw [hid]
    rw [hudp, store2Name_true] at ht ⊢
    exact ht.erase (idAt_of_streaming hpc hact (by decide))

/-! ## Steps and runs -/

/-- The step of a call, by where it is. -/
inductive ProceedStep (env : Environment σ) (s : AgentServer σ) (c : CallId) :
    Pc → AgentServer σ → Prop where
  | addRequest : ProceedStep env s c .allocated (s.addRequest env c true)
  | createSubscription : ProceedStep env s c .added (s.createSubscription env c)
  | createSubscriptionUdpWorker (hudp : env.config.udpServerModule = true) :
      ProceedStep env s c .created (s.createSubscriptionUdpWorker c)
  | sendResponse (hudp : ¬ env.config.udpServerModule = true) :
      ProceedStep env s c .created (s.sendResponse c)
  | addWorker : ProceedStep env s c .workerCreated (s.addWorker c)
  | addMapping (k : Nat) : ProceedStep env s c (.mapping k) (s.addMapping c k)
  | enable : ProceedStep env s c .metaSent (s.enable c)
  | setActive : ProceedStep env s c .enabled (s.setActive c)
  | endOfStream {s' : AgentServer σ} (hs : s.endOfStream env c = some s') :
      ProceedStep env s c .streaming s'

theorem proceedStep_of_proceed (hs : s.proceed env c = some s') :
    ∃ pc, (s.calls c).pc = pc ∧ ProceedStep env s c pc s' := by
  refine ⟨_, rfl, ?_⟩
  unfold proceed at hs
  cases hpc : (s.calls c).pc with
  | idle | done =>
    rw [hpc] at hs
    exact absurd hs (by simp)
  | allocated =>
    rw [hpc] at hs
    exact Option.some.inj hs ▸ .addRequest
  | added =>
    rw [hpc] at hs
    exact Option.some.inj hs ▸ .createSubscription
  | created =>
    rw [hpc] at hs
    simp only [] at hs
    split at hs
    · next hudp => exact Option.some.inj hs ▸ .createSubscriptionUdpWorker hudp
    · next hudp => exact Option.some.inj hs ▸ .sendResponse hudp
  | workerCreated =>
    rw [hpc] at hs
    exact Option.some.inj hs ▸ .addWorker
  | mapping k =>
    rw [hpc] at hs
    exact Option.some.inj hs ▸ .addMapping k
  | metaSent =>
    rw [hpc] at hs
    exact Option.some.inj hs ▸ .enable
  | enabled =>
    rw [hpc] at hs
    exact Option.some.inj hs ▸ .setActive
  | streaming =>
    rw [hpc] at hs
    exact .endOfStream hs

theorem inv_proceed (h : Inv env s) (hs : s.proceed env c = some s') : Inv env s' := by
  obtain ⟨pc, hpc, hp⟩ := proceedStep_of_proceed hs
  cases hp with
  | addRequest => exact inv_addRequest h hpc
  | createSubscription => exact inv_createSubscription h hpc
  | createSubscriptionUdpWorker hudp => exact inv_createSubscriptionUdpWorker h hpc hudp
  | sendResponse hudp =>
    have hrank : (s.calls c).pc.rank = 3 := by
      rw [hpc]
      rfl
    exact inv_sendResponse h (by omega) (by omega) fun hu => absurd hu hudp
  | addWorker => exact inv_addWorker h hpc
  | addMapping k => exact inv_addMapping h hpc
  | enable => exact inv_enable h hpc
  | setActive => exact inv_setActive h hpc
  | endOfStream hs => exact inv_endOfStream h hpc hs

theorem step_subscribe {request : SubscriptionRequest}
    (hs : s.step env (.subscribe c request) = some s') :
    (s.calls c).pc = .idle ∧ s' = s.allocate c request := by
  simp only [step] at hs
  split at hs
  · next hpc => exact ⟨hpc, (Option.some.inj hs).symm⟩
  · exact absurd hs (by simp)

theorem inv_step {e : Event} (h : Inv env s) (hc : NoEarlyCancel env s e)
    (hs : s.step env e = some s') : Inv env s' := by
  cases e with
  | subscribe c request =>
    obtain ⟨hpc, rfl⟩ := step_subscribe hs
    exact inv_allocate h hpc request
  | proceed c => exact inv_proceed h hs
  | disconnect c => exact Option.some.inj hs ▸ inv_disconnect h
  | cancel i => exact inv_cancel h hc hs
  | cleanup => exact inv_cleanupStep h hs
  | datagram buf =>
    simp only [step] at hs
    split at hs
    · exact Option.some.inj hs ▸ inv_receive h buf
    · exact absurd hs (by simp)
  | workerStep c => exact inv_workerStep h hs
  | message c now m =>
    simp only [step] at hs
    split at hs
    · exact Option.some.inj hs ▸ inv_message h now m
    · exact absurd hs (by simp)

theorem inv_of_run {db : PathInformationDB} {x : σ} {es : List Event}
    (hc : Meets (step env) (NoEarlyCancel env) (new db x) es)
    (hr : run (step env) (new db x) es = some s) : Inv env s :=
  run_invariant (fun _ _ _ h hc hs => inv_step h hc hs) (inv_new db x) hc hr

end AgentServer

end TelemetryAgent
