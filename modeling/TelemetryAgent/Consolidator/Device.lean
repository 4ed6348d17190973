/-
  The device behind the consolidator.

  `observe sys` is `sys` with a record of what the device runs: a successful `systemAdd`
  provisions the pair of internal id and path, a successful `systemRemove` takes it out, a
  failed call leaves the device as it was. `handedInUse` is set when an id is offered to
  the device while a sensor runs under it.

  `InSync c`: the pairs provisioned are the pairs in `sysdb`, and no id in use was handed
  out. `insert` takes its entry back when the device refuses it, but `remove` erases the
  entry, and frees the id, also when the device keeps the sensor. A run keeps `InSync`
  exactly as long as every removal it asks for succeeds and no entry is made under the null
  identifier while another has it (`inSync_iff_removed`). One refused removal and the next
  path is provisioned under the id of the sensor left behind (`not_inSync_refused_remove`).
-/
import TelemetryAgent.Consolidator.Ids

namespace TelemetryAgent

open Std TelemetryAgent.Lib

variable {σ : Type}

structure Device where
  provisioned : List (Nat × Path) := []
  handedInUse : Bool := false
  deriving DecidableEq, Repr

def Device.add (d : Device) (id : Nat) (p : Path) (result : Bool) : Device where
  provisioned := if result then (id, p) :: d.provisioned else d.provisioned
  handedInUse := d.handedInUse || d.provisioned.any fun q => q.1 == id

def Device.remove (d : Device) (id : Nat) (p : Path) (result : Bool) : Device where
  provisioned :=
    if result then d.provisioned.filter fun q => q != (id, p) else d.provisioned
  handedInUse := d.handedInUse

/-- `sys`, with what its calls do to the device. -/
def observe (sys : AgentSystem σ) : AgentSystem (σ × Device) where
  systemAdd id p s :=
    let (result, s') := sys.systemAdd id p s.1
    (result, s', s.2.add id p result)
  systemRemove id p s :=
    let (result, s') := sys.systemRemove id p s.1
    (result, s', s.2.remove id p result)

theorem Device.mem_add {d : Device} {id : Nat} {p : Path} {result : Bool} {q : Nat × Path} :
    q ∈ (d.add id p result).provisioned ↔ (result = true ∧ q = (id, p)) ∨ q ∈ d.provisioned := by
  unfold Device.add
  cases result <;> simp

theorem Device.mem_remove {d : Device} {id : Nat} {p : Path} {result : Bool} {q : Nat × Path} :
    q ∈ (d.remove id p result).provisioned ↔
      q ∈ d.provisioned ∧ (result = true → q ≠ (id, p)) := by
  unfold Device.remove
  cases result <;> simp

theorem Device.handedInUse_add {d : Device} {id : Nat} {p : Path} {result : Bool} :
    (d.add id p result).handedInUse = true ↔
      d.handedInUse = true ∨ ∃ q ∈ d.provisioned, q.1 = id := by
  unfold Device.add
  simp

namespace AgentConsolidator

open AgentConsolidatorSystemHandle

structure InSync (c : AgentConsolidator (σ × Device)) : Prop where
  provisioned : ∀ ip, ip ∈ c.sysHandle.2.provisioned ↔ ∃ t, c.entry t = some ip
  handedInUse : c.sysHandle.2.handedInUse = false

variable {sys : AgentSystem σ} {getMessageString : Path → String}
  {c c' : AgentConsolidator (σ × Device)} {l : List SystemHandlePtr}

/-- What the steps keep besides `InSync`: no two entries share an id, and an entry's id is
    marked unless it is the null identifier. -/
structure SyncInv (c : AgentConsolidator (σ × Device)) : Prop where
  sync : c.InSync
  distinct : Distinct c.entryId
  marked : ∀ {t i}, c.entryId t = some i →
    i = AgentServerIdManager.getNullIdentifier ∨ c.internalIdGenerator.present i = true

/-! ## The condition -/

/-- The id that `allocate` would answer is not the id of an entry: an id is free, or no
    entry has the null identifier. -/
def ClearId (c : AgentConsolidator σ) : Prop :=
  c.internalIdGenerator.HasFree ∨
    ∀ t, c.entryId t ≠ some AgentServerIdManager.getNullIdentifier

variable (getMessageString) in
/-- A path without an entry is offered to the system under an id no entry has. -/
def CreatesClear (c : AgentConsolidator σ) (p : Path) : Prop :=
  c.entry (getMessageString p) = none → c.ClearId

variable (sys) in
/-- If this is the last reference, the system takes the removal. -/
def RemoveSucceeds (c : AgentConsolidator (σ × Device)) (ptr : SystemHandlePtr) : Prop :=
  (c.syshandle ptr).refcount = 1 →
    (sys.systemRemove (c.syshandle ptr).internalSubscriptionId (c.syshandle ptr).path
      c.sysHandle.1).1 = true

variable (sys getMessageString) in
/-- So it is for each iteration of the operation's loop when its turn comes. -/
def SyncStep (c : AgentConsolidator (σ × Device)) : Call → Prop
  | .addRequest true _ request =>
    Meets (createStep (observe sys) getMessageString) (CreatesClear getMessageString) c
      request.pathList
  | .addRequest false _ _ => True
  | .removeRequest ptr => ∀ x, c.handles[ptr]? = some x →
    Meets (destroyStep (observe sys) getMessageString) (RemoveSucceeds sys) c
      x.consolidatorsyshandles

/-! ## Under it the device stays in sync -/

theorem SyncInv.of_entry (h : SyncInv c) (he : c'.entry = c.entry)
    (hd : c'.sysHandle.2 = c.sysHandle.2)
    (hg : ∀ i, c.internalIdGenerator.present i = true →
      c'.internalIdGenerator.present i = true) : SyncInv c' := by
  have hid := entryId_of_entry he
  refine ⟨⟨fun ip => ?_, ?_⟩, fun {t t' i} ht ht' => ?_, fun {t i} ht => ?_⟩
  · rw [hd, he]
    exact h.sync.provisioned ip
  · rw [hd]
    exact h.sync.handedInUse
  · rw [hid] at ht ht'
    exact h.distinct ht ht'
  · rw [hid] at ht
    exact (h.marked ht).imp_right (hg i)

/-- `allocate` answers an id that no entry has. -/
theorem SyncInv.entryId_allocate (h : SyncInv c) (hc : c.ClearId) (t : String) :
    c.entryId t ≠ some c.internalIdGenerator.allocate.1 := by
  intro ht
  by_cases hf : c.internalIdGenerator.HasFree
  · obtain ⟨i, h1, _, hp, ha⟩ := AgentServerIdManager.allocate_of_hasFree (by decide) hf
    rw [ha] at ht
    obtain h0 | hm := h.marked ht
    · unfold AgentServerIdManager.getNullIdentifier at h0
      unfold internalSubscriptionIdSpaceMin at h1
      omega
    · exact absurd (hp.symm.trans hm) (by simp)
  · rw [AgentServerIdManager.allocate_of_not_hasFree (by decide) hf] at ht
    exact (hc.resolve_left hf) t ht

/-- So the device runs no sensor under it. -/
theorem SyncInv.handedInUse_add (h : SyncInv c) (hc : c.ClearId) (p : Path) (result : Bool) :
    (c.sysHandle.2.add c.internalIdGenerator.allocate.1 p result).handedInUse = false := by
  rw [Bool.eq_false_iff]
  intro hu
  obtain hu | ⟨q, hq, hi⟩ := Device.handedInUse_add.mp hu
  · rw [h.sync.handedInUse] at hu
    exact absurd hu (by simp)
  · obtain ⟨t, ht⟩ := (h.sync.provisioned q).mp hq
    apply h.entryId_allocate hc t
    unfold entryId
    rw [ht, ← hi]
    rfl

theorem present_allocate_of_present {i : Nat} (g : InternalIdGenerator)
    (h : g.present i = true) : g.allocate.2.present i = true := by
  obtain ⟨j, _, hj, _, _, he⟩ | ⟨_, he⟩ := AgentServerIdManager.allocate_cases (by decide) g
  · rw [he]
    exact (AgentServerIdManager.present_set_of_lt hj i).mpr (Or.inl h)
  · rw [he]
    exact h

/-- The id just answered is marked, unless it is the null identifier. -/
theorem present_allocate (g : InternalIdGenerator) :
    g.allocate.1 = AgentServerIdManager.getNullIdentifier ∨
      g.allocate.2.present g.allocate.1 = true := by
  obtain ⟨j, _, hj, _, _, he⟩ | ⟨_, he⟩ := AgentServerIdManager.allocate_cases (by decide) g
  · rw [he]
    exact Or.inr ((AgentServerIdManager.present_set_of_lt hj j).mpr (Or.inr rfl))
  · rw [he]
    exact Or.inl rfl

theorem observe_systemAdd {id : Nat} {p : Path} {s s' : σ × Device} {result : Bool}
    (h : (observe sys).systemAdd id p s = (result, s')) : s'.2 = s.2.add id p result := by
  simp only [observe, Prod.mk.injEq] at h
  rw [← h.2, ← h.1]

/-- A new entry, under an id no entry has. -/
theorem SyncInv.add (h : SyncInv c) {p : Path} (hn : c.entry (getMessageString p) = none)
    (hc : c.ClearId)
    (hd : c'.sysHandle.2 = c.sysHandle.2.add c.internalIdGenerator.allocate.1 p true)
    (he : c'.entry = Function.update c.entry (getMessageString p)
      (some (c.internalIdGenerator.allocate.1, p)))
    (hg : c'.internalIdGenerator = c.internalIdGenerator.allocate.2) : SyncInv c' := by
  have hid := entryId_of_entry_update he
  refine ⟨⟨fun ip => ?_, ?_⟩, ?_, fun {t i} ht => ?_⟩
  · rw [hd, he, Device.mem_add, exists_update_some hn, h.sync.provisioned]
    simp [eq_comm]
  · rw [hd]
    exact h.handedInUse_add hc p true
  · rw [hid]
    exact h.distinct.update_some (h.entryId_allocate hc)
  · rw [hid] at ht
    rw [hg]
    obtain ⟨_, rfl⟩ | ⟨_, ht⟩ := update_some_eq_some.mp ht
    · exact present_allocate _
    · exact (h.marked ht).imp_right (present_allocate_of_present _)

/-- A refused entry: the id is given back. -/
theorem SyncInv.refuse (h : SyncInv c) {p : Path} (hc : c.ClearId)
    (hd : c'.sysHandle.2 = c.sysHandle.2.add c.internalIdGenerator.allocate.1 p false)
    (he : c'.entry = c.entry) (hg : c'.internalIdGenerator =
      (c.internalIdGenerator.allocate.2.deallocate c.internalIdGenerator.allocate.1).2) :
    SyncInv c' := by
  have hid := entryId_of_entry he
  refine ⟨⟨fun ip => ?_, ?_⟩, hid ▸ h.distinct, fun {t i} ht => ?_⟩
  · rw [hd, he, Device.mem_add, ← h.sync.provisioned]
    simp
  · rw [hd]
    exact h.handedInUse_add hc p false
  · rw [hid] at ht
    refine (h.marked ht).imp_right fun hm => ?_
    rw [hg]
    simp only [AgentServerIdManager.deallocate, AgentServerIdManager.present_reset,
      Bool.and_eq_true, Bool.not_eq_true', decide_eq_false_iff_not]
    refine ⟨present_allocate_of_present _ hm, fun hi => ?_⟩
    exact h.entryId_allocate hc t (hi ▸ ht)

/-- An entry taken out, with its sensor and its id. -/
theorem SyncInv.remove (h : SyncInv c) {id : Nat} {p : Path}
    (ht : ∀ {t : String} {ip : Nat × Path}, c.entry t = some ip → getMessageString ip.2 = t)
    (hent : c.entry (getMessageString p) = some (id, p))
    (hd : c'.sysHandle.2 = c.sysHandle.2.remove id p true)
    (he : c'.entry = Function.update c.entry (getMessageString p) none)
    (hg : c'.internalIdGenerator = (c.internalIdGenerator.deallocate id).2) : SyncInv c' := by
  have hid := entryId_of_entry_update he
  have hidp : c.entryId (getMessageString p) = some id := by
    unfold entryId
    rw [hent]
    rfl
  have hdist : Distinct c.entry := by
    intro t t' ip ha ha'
    rw [← ht ha, ht ha']
  refine ⟨⟨fun ip => ?_, ?_⟩, ?_, fun {t i} hti => ?_⟩
  · rw [hd, he, Device.mem_remove, hdist.exists_update_none hent, h.sync.provisioned]
    simp [and_comm, eq_comm]
  · rw [hd]
    exact h.sync.handedInUse
  · rw [hid]
    exact h.distinct.update_none
  · rw [hid] at hti
    obtain ⟨hne, hti⟩ := update_none_eq_some.mp hti
    refine (h.marked hti).imp_right fun hm => ?_
    rw [hg]
    simp only [AgentServerIdManager.deallocate, AgentServerIdManager.present_reset,
      Bool.and_eq_true, Bool.not_eq_true', decide_eq_false_iff_not]
    exact ⟨hm, fun hi => hne (h.distinct (hi ▸ hti) hidp)⟩

variable (sys) in
theorem syncInv_create (hr : RefInv getMessageString c l) (h : SyncInv c) {p : Path}
    (hc : CreatesClear getMessageString c p) :
    SyncInv (create (observe sys) getMessageString c p).2 := by
  cases he : create (observe sys) getMessageString c p with
  | mk o c' =>
  show SyncInv c'
  obtain ⟨_, _, hent, hg, hs⟩ | ⟨hn, _, hs, hent, hg⟩ | ⟨hn, _, hs, hent, hg⟩ :=
    create_entry (observe sys) hr p he
  · exact h.of_entry hent (by rw [hs]) fun i hi => hg ▸ hi
  · exact h.add hn (hc hn) (observe_systemAdd hs) hent hg
  · exact h.refuse (hc hn) (observe_systemAdd hs) hent hg

variable (sys) in
theorem syncInv_destroy {ptr : SystemHandlePtr} (hr : RefInv getMessageString c (ptr :: l))
    (h : SyncInv c) (hc : RemoveSucceeds sys c ptr) :
    SyncInv (destroy (observe sys) getMessageString c ptr).2 := by
  obtain ⟨_, he, hg, hs⟩ | ⟨h1, id, p, hi, hp, hent, hs, he, hg⟩ := destroy_entry (observe sys) hr
  · exact h.of_entry he (by rw [hs]) fun i hi => hg ▸ hi
  · refine h.remove hr.entry_text hent ?_ he hg
    rw [hs, hi, hp, ← hc h1]
    rfl

/-- The bookkeeping of an operation after its loop is not seen by `SyncInv`. -/
theorem SyncInv.of_eq (h : SyncInv c) (he : c'.entry = c.entry)
    (hd : c'.sysHandle = c.sysHandle) (hg : c'.internalIdGenerator = c.internalIdGenerator) :
    SyncInv c' := h.of_entry he (by rw [hd]) fun _ hi => hg ▸ hi

theorem syncInv_step {e : Call} (hi : Inv getMessageString c) (h : SyncInv c)
    (hc : SyncStep sys getMessageString c e)
    (hs : step (observe sys) getMessageString c e = some c') : SyncInv c' := by
  cases e with
  | addRequest alloc id request =>
    rw [← Option.some.inj hs]
    cases alloc with
    | false => exact h.of_eq rfl rfl rfl
    | true =>
      have h' := addPaths_invariant (observe sys)
        (fun c l p hr h hc => syncInv_create sys hr h hc) hi.refs h hc
      exact h'.of_eq rfl rfl rfl
  | removeRequest ptr =>
    obtain ⟨x, hx, hr, rfl⟩ := step_removeRequest_refs (observe sys) hi hs
    have h' := destroyAll_invariant (observe sys)
      (fun c l ptr hr h hc => syncInv_destroy sys hr h hc) hr h (hc x hx)
    exact h'.of_eq rfl rfl rfl

/-! ## Without it the device is out of sync at the end of the operation -/

variable (sys) in
/-- The flag is never cleared. -/
theorem handedInUse_create (hr : RefInv getMessageString c l) (p : Path)
    (h : c.sysHandle.2.handedInUse = true) :
    (create (observe sys) getMessageString c p).2.sysHandle.2.handedInUse = true := by
  cases he : create (observe sys) getMessageString c p with
  | mk o c' =>
  show c'.sysHandle.2.handedInUse = true
  obtain ⟨_, _, _, _, hs⟩ | ⟨_, _, hs, _⟩ | ⟨_, _, hs, _⟩ := create_entry (observe sys) hr p he
  · rw [hs]
    exact h
  · rw [observe_systemAdd hs]
    exact Device.handedInUse_add.mpr (Or.inl h)
  · rw [observe_systemAdd hs]
    exact Device.handedInUse_add.mpr (Or.inl h)

variable (sys) in
/-- With every id taken and the null identifier in use, the next new path is offered under
    the null identifier again. -/
theorem handedInUse_of_not_clear (hr : RefInv getMessageString c l) (h : SyncInv c) {p : Path}
    (hc : ¬ CreatesClear getMessageString c p) :
    (create (observe sys) getMessageString c p).2.sysHandle.2.handedInUse = true := by
  unfold CreatesClear ClearId at hc
  push Not at hc
  obtain ⟨hn, hf, t, ht⟩ := hc
  obtain ⟨q, hq, hi⟩ := Option.map_eq_some_iff.mp ht
  have hadd : ∀ result, (c.sysHandle.2.add c.internalIdGenerator.allocate.1 p
      result).handedInUse = true := by
    intro result
    rw [Device.handedInUse_add, AgentServerIdManager.allocate_of_not_hasFree (by decide) hf]
    exact Or.inr ⟨q, (h.sync.provisioned q).mpr ⟨t, hq⟩, hi⟩
  cases he : create (observe sys) getMessageString c p with
  | mk o c' =>
  show c'.sysHandle.2.handedInUse = true
  obtain ⟨hs, _⟩ | ⟨_, _, hs, _⟩ | ⟨_, _, hs, _⟩ := create_entry (observe sys) hr p he
  · exact absurd hn hs
  · rw [observe_systemAdd hs]
    exact hadd true
  · rw [observe_systemAdd hs]
    exact hadd false

/-- A sensor runs on the device for a path that has no entry. -/
def Stale (getMessageString : Path → String) (c : AgentConsolidator (σ × Device)) : Prop :=
  ∃ ip ∈ c.sysHandle.2.provisioned, c.entry (getMessageString ip.2) = none

variable (sys) in
theorem stale_destroy {ptr : SystemHandlePtr} (hr : RefInv getMessageString c (ptr :: l))
    (h : Stale getMessageString c) :
    Stale getMessageString (destroy (observe sys) getMessageString c ptr).2 := by
  obtain ⟨ip, hip, hn⟩ := h
  obtain ⟨_, he, _, hs⟩ | ⟨_, id, p, _, _, hent, hs, he, _⟩ := destroy_entry (observe sys) hr
  · refine ⟨ip, ?_, ?_⟩
    · rw [hs]
      exact hip
    · rw [he]
      exact hn
  · have hne : ip ≠ (id, p) := by
      intro hip
      rw [hip, hent] at hn
      exact absurd hn (by simp)
    refine ⟨ip, ?_, ?_⟩
    · rw [hs]
      exact Device.mem_remove.mpr ⟨hip, fun _ => hne⟩
    · rw [he]
      by_cases ht : getMessageString ip.2 = getMessageString p
      · rw [ht, Function.update_self]
      · rw [Function.update_of_ne ht]
        exact hn

variable (sys) in
theorem stale_of_refused {ptr : SystemHandlePtr} (hr : RefInv getMessageString c (ptr :: l))
    (h : SyncInv c) (hc : ¬ RemoveSucceeds sys c ptr) :
    Stale getMessageString (destroy (observe sys) getMessageString c ptr).2 := by
  unfold RemoveSucceeds at hc
  push Not at hc
  obtain ⟨h1, hf⟩ := hc
  obtain ⟨h1', _⟩ | ⟨_, id, p, hi, hp, hent, hs, he, _⟩ := destroy_entry (observe sys) hr
  · exact absurd h1 h1'
  · rw [← hi, ← hp] at hf
    refine ⟨(id, p), ?_, ?_⟩
    · rw [hs]
      apply Device.mem_remove.mpr
      exact ⟨(h.sync.provisioned _).mpr ⟨_, hent⟩, fun hok => absurd hok hf⟩
    · rw [he]
      exact Function.update_self _ _ _

theorem not_stale_of_inSync (hr : RefInv getMessageString c l) (h : c.InSync) :
    ¬ Stale getMessageString c := by
  intro hexists
  obtain ⟨ip, hip, hn⟩ := hexists
  obtain ⟨t, ht⟩ := (h.provisioned ip).mp hip
  rw [hr.entry_text ht, ht] at hn
  exact absurd hn (by simp)

theorem syncStep_of_inSync {e : Call} (hi : Inv getMessageString c) (h : SyncInv c)
    (hs : step (observe sys) getMessageString c e = some c') (h' : c'.InSync) :
    SyncStep sys getMessageString c e := by
  have hi' := inv_step (observe sys) hi hs
  cases e with
  | addRequest alloc id request =>
    cases alloc with
    | false => trivial
    | true =>
      by_contra hn
      have hbad : (addPaths (observe sys) getMessageString c
          request.pathList).2.sysHandle.2.handedInUse = true :=
        addPaths_of_not_meets (observe sys) (fun c l p hr h hc => syncInv_create sys hr h hc)
          (fun c l p hr h hc => handedInUse_of_not_clear sys hr h hc)
          (fun c l p hr h _ => handedInUse_create sys hr p h) hi.refs h hn
      rw [← Option.some.inj hs] at h'
      exact absurd (hbad.symm.trans h'.handedInUse) (by simp)
  | removeRequest ptr =>
    intro x hx
    obtain ⟨y, hy, hr, rfl⟩ := step_removeRequest_refs (observe sys) hi hs
    obtain rfl := Option.some.inj (hx.symm.trans hy)
    by_contra hn
    have hbad : Stale getMessageString
        (destroyAll (observe sys) getMessageString c x.consolidatorsyshandles) :=
      destroyAll_of_not_meets (observe sys) (fun c l ptr hr h hc => syncInv_destroy sys hr h hc)
        (fun c l ptr hr h hc => stale_of_refused sys hr h hc)
        (fun c l ptr hr h _ => stale_destroy sys hr h) hr h hn
    exact not_stale_of_inSync hi'.refs h' hbad

/-- **The device.** It is in sync in every state of a run if and only if each removal that
    the run asks for succeeds and no path is offered under the null identifier while an
    entry has it. -/
theorem inSync_iff_removed (s : σ) (es : List Call) :
    (∀ pre suf c', es = pre ++ suf →
      run (step (observe sys) getMessageString) (new (s, {})) pre = some c' → c'.InSync) ↔
    Meets (step (observe sys) getMessageString) (SyncStep sys getMessageString)
      (new (s, {})) es := by
  apply forall_reached_iff_meets
    (fun c (h : Inv getMessageString c ∧ SyncInv c) => h.2.sync)
  · intro c e c' h hc hs
    exact ⟨inv_step (observe sys) h.1 hs, syncInv_step h.1 h.2 hc hs⟩
  · intro c e c' h hs h'
    exact syncStep_of_inSync h.1 h.2 hs h'
  · intro c e _ hs
    obtain ⟨ptr, rfl, hn⟩ := step_eq_none (observe sys) hs
    intro x hx
    exact absurd (hn.symm.trans hx) (by simp)
  · have hid := entryId_new (s, ({} : Device))
    refine ⟨inv_new _, ⟨fun ip => ?_, rfl⟩, ?_, fun {t i} ht => ?_⟩
    · rw [entry_new]
      simp [new]
    · intro t t' i ht
      rw [hid] at ht
      exact absurd ht (by simp)
    · rw [hid] at ht
      exact absurd ht (by simp)

/-- A system whose calls succeed or fail as `answers` says, and succeed after that. -/
def scriptedSystem : AgentSystem (List Bool) where
  systemAdd _ _ answers := (answers.headD true, answers.tail)
  systemRemove _ _ answers := (answers.headD true, answers.tail)

/-- The device refuses to remove `firewall`; then `port` is provisioned beside it under the
    same id. -/
theorem not_inSync_refused_remove :
    ¬ ∀ c, run (step (observe scriptedSystem) singleLineText) (new ([true, false], {}))
      [.addRequest true 1 { pathList := [{ path := "firewall" }] }, .removeRequest 0,
       .addRequest true 1 { pathList := [{ path := "port" }] }] = some c → c.InSync := by
  intro h
  have hrun : (run (step (observe scriptedSystem) singleLineText) (new ([true, false], {}))
      [.addRequest true 1 { pathList := [{ path := "firewall" }] }, .removeRequest 0,
       .addRequest true 1 { pathList := [{ path := "port" }] }]).map (·.sysHandle.2) =
      some { provisioned := [(1000, { path := "port" }), (1000, { path := "firewall" })],
             handedInUse := true } := by decide +kernel
  obtain ⟨c, hc, hd⟩ := Option.map_eq_some_iff.mp hrun
  have := (h c hc).handedInUse
  rw [hd] at this
  exact absurd this (by simp)

end AgentConsolidator

end TelemetryAgent
