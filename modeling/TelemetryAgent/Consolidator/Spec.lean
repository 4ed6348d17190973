/-
  What the consolidator's functions can do, said once.

  * `create_cases`: a hit, a new entry, or a refused one. `withEntry` and `refused` are the
    two states a miss can end in.
  * `destroy_cases`: an underflow, one reference less, or the end of the entry
    (`withoutEntry`).
  * `Keeps`: what every loop of the consolidator leaves alone: the consolidator handles,
    and the path and internal id of every system handle allocated so far.
-/
import TelemetryAgent.Consolidator.Model

namespace TelemetryAgent

open Std

variable {σ : Type}

namespace AgentConsolidator

variable (getMessageString : Path → String)

/-- A new entry for `p`, with the next internal id, after the system went to `s`. -/
def withEntry (c : AgentConsolidator σ) (p : Path) (s : σ) : AgentConsolidator σ :=
  { c with
    sysHandle := s
    internalIdGenerator := c.internalIdGenerator.allocate.2
    sysdb := c.sysdb.insert (getMessageString p) c.nextSyshandle
    syshandle := Function.update c.syshandle c.nextSyshandle
      ⟨p, c.internalIdGenerator.allocate.1, 1⟩
    nextSyshandle := c.nextSyshandle + 1 }

/-- The system refused the entry for `p` and went to `s`; the id is free again. -/
def refused (c : AgentConsolidator σ) (p : Path) (s : σ) : AgentConsolidator σ :=
  { c with
    sysHandle := s
    internalIdGenerator :=
      (c.internalIdGenerator.allocate.2.deallocate c.internalIdGenerator.allocate.1).2
    syshandle := Function.update c.syshandle c.nextSyshandle
      ⟨p, c.internalIdGenerator.allocate.1, 1⟩
    nextSyshandle := c.nextSyshandle + 1 }

/-- The entry of `p`, which is `ptr`, is gone, after the system went to `s`. -/
def withoutEntry (c : AgentConsolidator σ) (p : Path) (ptr : SystemHandlePtr) (s : σ) :
    AgentConsolidator σ :=
  { c with
    sysHandle := s
    internalIdGenerator :=
      (c.internalIdGenerator.deallocate (c.syshandle ptr).internalSubscriptionId).2
    sysdb := c.sysdb.erase (getMessageString p) }

end AgentConsolidator

namespace AgentConsolidatorSystemHandle

variable (sys : AgentSystem σ) (getMessageString : Path → String)

theorem insert_erase_self {m : ExtTreeMap String SystemHandlePtr} {t : String}
    (h : m[t]? = none) (ptr : SystemHandlePtr) : (m.insert t ptr).erase t = m := by
  ext k
  grind

theorem create_cases (c : AgentConsolidator σ) (p : Path) :
    (∃ ptr, c.sysdb[getMessageString p]? = some ptr ∧
      create sys getMessageString c p = (some ptr, c.setSyshandle ptr (c.syshandle ptr).incRef)) ∨
    (c.sysdb[getMessageString p]? = none ∧ ∃ s,
      sys.systemAdd c.internalIdGenerator.allocate.1 p c.sysHandle = (true, s) ∧
      create sys getMessageString c p =
        (some c.nextSyshandle, c.withEntry getMessageString p s)) ∨
    (c.sysdb[getMessageString p]? = none ∧ ∃ s,
      sys.systemAdd c.internalIdGenerator.allocate.1 p c.sysHandle = (false, s) ∧
      create sys getMessageString c p = (none, c.refused p s)) := by
  cases hf : c.sysdb[getMessageString p]? with
  | some ptr =>
    left
    refine ⟨ptr, rfl, ?_⟩
    simp only [create, find, hf]
  | none =>
    right
    cases ha : sys.systemAdd c.internalIdGenerator.allocate.1 p c.sysHandle with
    | mk result s =>
      cases result with
      | true =>
        left
        refine ⟨rfl, s, rfl, ?_⟩
        simp [create, find, hf, insert, AgentConsolidator.setSyshandle, ha,
          AgentConsolidator.withEntry]
      | false =>
        right
        refine ⟨rfl, s, rfl, ?_⟩
        simp [create, find, hf, insert, AgentConsolidator.setSyshandle, ha,
          AgentConsolidator.refused, insert_erase_self hf]

theorem remove_cases (c : AgentConsolidator σ) (p : Path) :
    (c.sysdb[getMessageString p]? = none ∧
      remove sys getMessageString c p = (false, c)) ∨
    (∃ ptr result s, c.sysdb[getMessageString p]? = some ptr ∧
      sys.systemRemove (c.syshandle ptr).internalSubscriptionId p c.sysHandle = (result, s) ∧
      remove sys getMessageString c p =
        (result, c.withoutEntry getMessageString p ptr s)) := by
  cases hf : c.sysdb[getMessageString p]? with
  | none =>
    left
    refine ⟨rfl, ?_⟩
    simp only [remove, hf]
  | some ptr =>
    right
    refine ⟨ptr, _, _, rfl, rfl, ?_⟩
    simp only [remove, hf, AgentConsolidator.withoutEntry]

theorem destroy_cases (c : AgentConsolidator σ) (ptr : SystemHandlePtr) :
    ((c.syshandle ptr).refcount = 0 ∧ destroy sys getMessageString c ptr = (false, c)) ∨
    (2 ≤ (c.syshandle ptr).refcount ∧ destroy sys getMessageString c ptr =
      (true, c.setSyshandle ptr (c.syshandle ptr).decRef)) ∨
    ((c.syshandle ptr).refcount = 1 ∧ destroy sys getMessageString c ptr =
      (true, (remove sys getMessageString (c.setSyshandle ptr (c.syshandle ptr).decRef)
        (c.syshandle ptr).path).2)) := by
  unfold destroy
  by_cases h0 : (c.syshandle ptr).refcount = 0
  · left
    exact ⟨h0, if_pos h0⟩
  · right
    by_cases h1 : (c.syshandle ptr).refcount = 1
    · right
      refine ⟨h1, ?_⟩
      rw [if_neg h0]
      simp [AgentConsolidator.setSyshandle, decRef, h1]
    · left
      refine ⟨by omega, ?_⟩
      rw [if_neg h0]
      have h2 : (c.syshandle ptr).refcount - 1 ≠ 0 := by omega
      simp [AgentConsolidator.setSyshandle, decRef, h2]

end AgentConsolidatorSystemHandle

namespace AgentConsolidator

open AgentConsolidatorSystemHandle

variable (sys : AgentSystem σ) (getMessageString : Path → String)

/-- What no step of the consolidator's loops changes. -/
structure Keeps (c c' : AgentConsolidator σ) : Prop where
  handles : c'.handles = c.handles
  nextHandle : c'.nextHandle = c.nextHandle
  addCount : c'.addCount = c.addCount
  removeCount : c'.removeCount = c.removeCount
  next_le : c.nextSyshandle ≤ c'.nextSyshandle
  path : ∀ q < c.nextSyshandle, (c'.syshandle q).path = (c.syshandle q).path
  id : ∀ q < c.nextSyshandle,
    (c'.syshandle q).internalSubscriptionId = (c.syshandle q).internalSubscriptionId

theorem Keeps.refl (c : AgentConsolidator σ) : Keeps c c :=
  ⟨rfl, rfl, rfl, rfl, Nat.le_refl _, fun _ _ => rfl, fun _ _ => rfl⟩

theorem Keeps.trans {a b c : AgentConsolidator σ} (h : Keeps a b) (h' : Keeps b c) :
    Keeps a c where
  handles := h'.handles.trans h.handles
  nextHandle := h'.nextHandle.trans h.nextHandle
  addCount := h'.addCount.trans h.addCount
  removeCount := h'.removeCount.trans h.removeCount
  next_le := Nat.le_trans h.next_le h'.next_le
  path q hq := (h'.path q (Nat.lt_of_lt_of_le hq h.next_le)).trans (h.path q hq)
  id q hq := (h'.id q (Nat.lt_of_lt_of_le hq h.next_le)).trans (h.id q hq)

theorem keeps_setSyshandle (c : AgentConsolidator σ) (ptr : SystemHandlePtr)
    (h : AgentConsolidatorSystemHandle) (hp : h.path = (c.syshandle ptr).path)
    (hi : h.internalSubscriptionId = (c.syshandle ptr).internalSubscriptionId) :
    Keeps c (c.setSyshandle ptr h) where
  handles := rfl
  nextHandle := rfl
  addCount := rfl
  removeCount := rfl
  next_le := Nat.le_refl _
  path q _ := by
    by_cases hq : q = ptr
    · subst hq; simp [setSyshandle, hp]
    · simp [setSyshandle, hq]
  id q _ := by
    by_cases hq : q = ptr
    · subst hq; simp [setSyshandle, hi]
    · simp [setSyshandle, hq]

/-- Writing a system handle at the next free address touches no allocated one. -/
theorem update_next_of_lt (c : AgentConsolidator σ) (h : AgentConsolidatorSystemHandle)
    {q : SystemHandlePtr} (hq : q < c.nextSyshandle) :
    Function.update c.syshandle c.nextSyshandle h q = c.syshandle q :=
  Function.update_of_ne (Nat.ne_of_lt hq) _ _

theorem keeps_withEntry (c : AgentConsolidator σ) (p : Path) (s : σ) :
    Keeps c (c.withEntry getMessageString p s) where
  handles := rfl
  nextHandle := rfl
  addCount := rfl
  removeCount := rfl
  next_le := Nat.le_succ _
  path _ hq := congrArg _ (update_next_of_lt c _ hq)
  id _ hq := congrArg _ (update_next_of_lt c _ hq)

theorem keeps_refused (c : AgentConsolidator σ) (p : Path) (s : σ) : Keeps c (c.refused p s) where
  handles := rfl
  nextHandle := rfl
  addCount := rfl
  removeCount := rfl
  next_le := Nat.le_succ _
  path _ hq := congrArg _ (update_next_of_lt c _ hq)
  id _ hq := congrArg _ (update_next_of_lt c _ hq)

theorem keeps_create (c : AgentConsolidator σ) (p : Path) :
    Keeps c (create sys getMessageString c p).2 := by
  obtain ⟨ptr, _, h⟩ | ⟨_, s, _, h⟩ | ⟨_, s, _, h⟩ := create_cases sys getMessageString c p
  · rw [h]; exact keeps_setSyshandle c ptr _ rfl rfl
  · rw [h]; exact keeps_withEntry getMessageString c p s
  · rw [h]; exact keeps_refused c p s

theorem keeps_remove (c : AgentConsolidator σ) (p : Path) :
    Keeps c (remove sys getMessageString c p).2 := by
  obtain ⟨_, h⟩ | ⟨ptr, result, s, _, _, h⟩ := remove_cases sys getMessageString c p
  · rw [h]; exact Keeps.refl c
  · rw [h]
    exact ⟨rfl, rfl, rfl, rfl, Nat.le_refl _, fun _ _ => rfl, fun _ _ => rfl⟩

theorem keeps_destroy (c : AgentConsolidator σ) (ptr : SystemHandlePtr) :
    Keeps c (destroy sys getMessageString c ptr).2 := by
  have hdec : Keeps c (c.setSyshandle ptr (c.syshandle ptr).decRef) :=
    keeps_setSyshandle c ptr _ rfl rfl
  obtain ⟨_, h⟩ | ⟨_, h⟩ | ⟨_, h⟩ := destroy_cases sys getMessageString c ptr
  · rw [h]; exact Keeps.refl c
  · rw [h]; exact hdec
  · rw [h]; exact hdec.trans (keeps_remove sys getMessageString _ _)

theorem addPaths_cons_none {c c' : AgentConsolidator σ} {p : Path} (ps : List Path)
    (h : create sys getMessageString c p = (none, c')) :
    addPaths sys getMessageString c (p :: ps) = addPaths sys getMessageString c' ps := by
  rw [addPaths, h]

theorem addPaths_cons_some {c c' : AgentConsolidator σ} {p : Path} {ptr : SystemHandlePtr}
    (ps : List Path) (h : create sys getMessageString c p = (some ptr, c')) :
    addPaths sys getMessageString c (p :: ps) =
      ((ptr :: (addPaths sys getMessageString c' ps).1.1,
        p :: (addPaths sys getMessageString c' ps).1.2),
        (addPaths sys getMessageString c' ps).2) := by
  rw [addPaths, h]

theorem keeps_addPaths (c : AgentConsolidator σ) (ps : List Path) :
    Keeps c (addPaths sys getMessageString c ps).2 := by
  induction ps generalizing c with
  | nil => exact Keeps.refl c
  | cons p ps ih =>
    have hk := keeps_create sys getMessageString c p
    cases h : create sys getMessageString c p with
    | mk o c' =>
      rw [h] at hk
      cases o with
      | none =>
        rw [addPaths_cons_none sys getMessageString ps h]
        exact hk.trans (ih c')
      | some ptr =>
        rw [addPaths_cons_some sys getMessageString ps h]
        exact hk.trans (ih c')

theorem keeps_underflow (c : AgentConsolidator σ) (n : Nat) :
    Keeps c { c with errorCountUnderflow := n } :=
  ⟨rfl, rfl, rfl, rfl, Nat.le_refl _, fun _ _ => rfl, fun _ _ => rfl⟩

theorem keeps_destroyAll (c : AgentConsolidator σ) (ptrs : List SystemHandlePtr) :
    Keeps c (destroyAll sys getMessageString c ptrs) := by
  induction ptrs generalizing c with
  | nil => exact Keeps.refl c
  | cons ptr ptrs ih =>
    have hk := keeps_destroy sys getMessageString c ptr
    rw [destroyAll]
    split
    · rename_i c' h
      rw [h] at hk
      exact hk.trans (ih c')
    · rename_i c' h
      rw [h] at hk
      have hu : Keeps c { c' with errorCountUnderflow := c'.errorCountUnderflow + 1 } :=
        Keeps.trans hk (keeps_underflow c' _)
      exact hu.trans (ih _)

/-! ## The public operations -/

theorem addRequest_eq (c : AgentConsolidator σ) (id : Nat) (request : SubscriptionRequest) :
    addRequest sys getMessageString c true id request =
      ((some (addPaths sys getMessageString c request.pathList).2.nextHandle,
        (addPaths sys getMessageString c request.pathList).1.2),
        { (addPaths sys getMessageString c request.pathList).2 with
          handles := (addPaths sys getMessageString c request.pathList).2.handles.insert
            (addPaths sys getMessageString c request.pathList).2.nextHandle
            ⟨id, (addPaths sys getMessageString c request.pathList).1.1⟩
          nextHandle := (addPaths sys getMessageString c request.pathList).2.nextHandle + 1
          addCount := (addPaths sys getMessageString c request.pathList).2.addCount + 1 }) := rfl

theorem removeRequest_eq {c : AgentConsolidator σ} {ptr : HandlePtr} {h : AgentConsolidatorHandle}
    (hl : c.handles[ptr]? = some h) :
    removeRequest sys getMessageString c (some ptr) =
      { destroyAll sys getMessageString c h.consolidatorsyshandles with
        handles := (destroyAll sys getMessageString c h.consolidatorsyshandles).handles.erase ptr
        removeCount :=
          (destroyAll sys getMessageString c h.consolidatorsyshandles).removeCount + 1 } := by
  simp only [removeRequest, hl]

/-- `addRequest` stores one handle, at the next free address. -/
theorem addRequest_handles (c : AgentConsolidator σ) (id : Nat) (request : SubscriptionRequest) :
    (addRequest sys getMessageString c true id request).1.1 = some c.nextHandle ∧
      (addRequest sys getMessageString c true id request).2.handles =
        c.handles.insert c.nextHandle
          ⟨id, (addPaths sys getMessageString c request.pathList).1.1⟩ ∧
      (addRequest sys getMessageString c true id request).2.nextHandle = c.nextHandle + 1 := by
  have hk := keeps_addPaths sys getMessageString c request.pathList
  rw [addRequest_eq, hk.nextHandle, hk.handles]
  exact ⟨rfl, rfl, rfl⟩

/-- `removeRequest` deletes the handle it is given and no other. -/
theorem removeRequest_handles {c : AgentConsolidator σ} {ptr : HandlePtr}
    {h : AgentConsolidatorHandle} (hl : c.handles[ptr]? = some h) :
    (removeRequest sys getMessageString c (some ptr)).handles = c.handles.erase ptr ∧
      (removeRequest sys getMessageString c (some ptr)).nextHandle = c.nextHandle := by
  have hk := keeps_destroyAll sys getMessageString c h.consolidatorsyshandles
  rw [removeRequest_eq sys getMessageString hl, hk.handles]
  exact ⟨rfl, hk.nextHandle⟩

end AgentConsolidator

end TelemetryAgent
