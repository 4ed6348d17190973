/-
  The consolidator's operations seen through `sysdb`.

  `entry c t` is the internal id and the path of the entry at `t`. `create_entry` and
  `destroy_entry` say what one iteration of each loop does to the entries, to
  `InternalIdGenerator` and to the system; the addresses of the system handles no longer
  occur. They hold where the reference counts do (`RefInv`).
-/
import TelemetryAgent.Consolidator.Refs

namespace TelemetryAgent

open Std TelemetryAgent.Lib

variable {σ : Type}

namespace AgentConsolidator

open AgentConsolidatorSystemHandle

/-- Internal id and path of the `sysdb` entry at `t`. -/
def entry (c : AgentConsolidator σ) (t : String) : Option (Nat × Path) :=
  c.sysdb[t]?.map fun ptr =>
    ((c.syshandle ptr).internalSubscriptionId, (c.syshandle ptr).path)

/-- Internal id of the `sysdb` entry at `t`. -/
def entryId (c : AgentConsolidator σ) (t : String) : Option Nat := (c.entry t).map Prod.fst

variable {sys : AgentSystem σ} {getMessageString : Path → String} {c c' : AgentConsolidator σ}
  {l : List SystemHandlePtr}

theorem entry_new (s : σ) : (new s).entry = fun _ => none := by
  funext t
  simp [entry, new]

theorem entry_eq_some {t : String} {ip : Nat × Path} (h : c.entry t = some ip) :
    ∃ ptr, c.sysdb[t]? = some ptr ∧
      ip = ((c.syshandle ptr).internalSubscriptionId, (c.syshandle ptr).path) := by
  obtain ⟨ptr, hp, he⟩ := Option.map_eq_some_iff.mp h
  exact ⟨ptr, hp, he.symm⟩

theorem entry_eq_none {t : String} : c.entry t = none ↔ c.sysdb[t]? = none := by
  unfold entry
  exact Option.map_eq_none_iff

/-- An entry sits under the text of its path. -/
theorem RefInv.entry_text (h : RefInv getMessageString c l) {t : String} {ip : Nat × Path}
    (he : c.entry t = some ip) : getMessageString ip.2 = t := by
  obtain ⟨ptr, hp, rfl⟩ := entry_eq_some he
  exact h.text hp

theorem entry_setSyshandle (ptr : SystemHandlePtr) (x : AgentConsolidatorSystemHandle)
    (hp : x.path = (c.syshandle ptr).path)
    (hi : x.internalSubscriptionId = (c.syshandle ptr).internalSubscriptionId) :
    (c.setSyshandle ptr x).entry = c.entry := by
  funext t
  unfold entry
  show (c.sysdb[t]?).map _ = (c.sysdb[t]?).map _
  cases c.sysdb[t]? with
  | none => rfl
  | some q =>
    by_cases hq : q = ptr
    · subst hq; simp [setSyshandle, hp, hi]
    · simp [setSyshandle, hq]

theorem RefInv.entry_withEntry (h : RefInv getMessageString c l) (p : Path) (s : σ) :
    (c.withEntry getMessageString p s).entry =
      Function.update c.entry (getMessageString p)
        (some (c.internalIdGenerator.allocate.1, p)) := by
  funext t
  by_cases ht : t = getMessageString p
  · subst ht
    simp [entry, withEntry]
  · rw [Function.update_of_ne ht]
    simp only [entry, withEntry, getElem?_insert_of_ne _ (Ne.symm ht)]
    cases hq : c.sysdb[t]? with
    | none => rfl
    | some q => simp [update_next_of_lt c _ (h.fresh hq)]

theorem RefInv.entry_refused (h : RefInv getMessageString c l) (p : Path) (s : σ) :
    (c.refused p s).entry = c.entry := by
  funext t
  simp only [entry, refused]
  cases hq : c.sysdb[t]? with
  | none => rfl
  | some q => simp [update_next_of_lt c _ (h.fresh hq)]

theorem entry_withoutEntry (p : Path) (ptr : SystemHandlePtr) (s : σ) :
    (c.withoutEntry getMessageString p ptr s).entry =
      Function.update c.entry (getMessageString p) none := by
  funext t
  by_cases ht : t = getMessageString p
  · subst ht
    simp [entry, withoutEntry]
  · rw [Function.update_of_ne ht]
    simp only [entry, withoutEntry, getElem?_erase_of_ne _ (Ne.symm ht)]

variable (sys) in
/-- What an iteration of `addRequest` does: a hit changes no entry; a miss asks the system
    and either adds the entry or gives the id back. -/
theorem create_entry (h : RefInv getMessageString c l) (p : Path) {o : Option SystemHandlePtr}
    (he : create sys getMessageString c p = (o, c')) :
    (c.entry (getMessageString p) ≠ none ∧ o ≠ none ∧ c'.entry = c.entry ∧
      c'.internalIdGenerator = c.internalIdGenerator ∧ c'.sysHandle = c.sysHandle) ∨
    (c.entry (getMessageString p) = none ∧ o ≠ none ∧
      sys.systemAdd c.internalIdGenerator.allocate.1 p c.sysHandle = (true, c'.sysHandle) ∧
      c'.entry = Function.update c.entry (getMessageString p)
        (some (c.internalIdGenerator.allocate.1, p)) ∧
      c'.internalIdGenerator = c.internalIdGenerator.allocate.2) ∨
    (c.entry (getMessageString p) = none ∧ o = none ∧
      sys.systemAdd c.internalIdGenerator.allocate.1 p c.sysHandle = (false, c'.sysHandle) ∧
      c'.entry = c.entry ∧
      c'.internalIdGenerator =
        (c.internalIdGenerator.allocate.2.deallocate c.internalIdGenerator.allocate.1).2) := by
  obtain ⟨ptr, hp, hc⟩ | ⟨hp, s, hs, hc⟩ | ⟨hp, s, hs, hc⟩ :=
    create_cases sys getMessageString c p
  · left
    rw [hc] at he
    obtain ⟨rfl, rfl⟩ := Prod.mk.inj he
    refine ⟨?_, Option.some_ne_none _, entry_setSyshandle ptr _ rfl rfl, rfl, rfl⟩
    intro hn
    rw [entry_eq_none, hp] at hn
    exact Option.some_ne_none _ hn
  · right; left
    rw [hc] at he
    obtain ⟨rfl, rfl⟩ := Prod.mk.inj he
    exact ⟨entry_eq_none.mpr hp, Option.some_ne_none _, hs, h.entry_withEntry p s, rfl⟩
  · right; right
    rw [hc] at he
    obtain ⟨rfl, rfl⟩ := Prod.mk.inj he
    exact ⟨entry_eq_none.mpr hp, rfl, hs, h.entry_refused p s, rfl⟩

variable (sys) in
/-- What an iteration of `removeRequest` does: either no entry changes, or the system is
    asked to remove the entry of the last reference, which goes with its id whatever the
    answer. -/
theorem destroy_entry {ptr : SystemHandlePtr} (h : RefInv getMessageString c (ptr :: l)) :
    ((c.syshandle ptr).refcount ≠ 1 ∧
      (destroy sys getMessageString c ptr).2.entry = c.entry ∧
      (destroy sys getMessageString c ptr).2.internalIdGenerator = c.internalIdGenerator ∧
      (destroy sys getMessageString c ptr).2.sysHandle = c.sysHandle) ∨
    ((c.syshandle ptr).refcount = 1 ∧ ∃ id p, id = (c.syshandle ptr).internalSubscriptionId ∧
      p = (c.syshandle ptr).path ∧ c.entry (getMessageString p) = some (id, p) ∧
      (destroy sys getMessageString c ptr).2.sysHandle =
        (sys.systemRemove id p c.sysHandle).2 ∧
      (destroy sys getMessageString c ptr).2.entry =
        Function.update c.entry (getMessageString p) none ∧
      (destroy sys getMessageString c ptr).2.internalIdGenerator =
        (c.internalIdGenerator.deallocate id).2) := by
  have hheld := h.held ptr List.mem_cons_self
  have hdec : (c.setSyshandle ptr (c.syshandle ptr).decRef).entry = c.entry :=
    entry_setSyshandle ptr _ rfl rfl
  obtain ⟨h0, he⟩ | ⟨h2, he⟩ | ⟨h1, he⟩ := destroy_cases sys getMessageString c ptr
  · left
    rw [he]
    exact ⟨by omega, rfl, rfl, rfl⟩
  · left
    rw [he]
    exact ⟨by omega, hdec, rfl, rfl⟩
  · right
    rw [he]
    have hptr : ((c.setSyshandle ptr (c.syshandle ptr).decRef).syshandle ptr) =
        (c.syshandle ptr).decRef := Function.update_self _ _ _
    obtain ⟨hn, _⟩ | ⟨q, result, s, hq, hs, hr⟩ := remove_cases sys getMessageString
        (c.setSyshandle ptr (c.syshandle ptr).decRef) (c.syshandle ptr).path
    · have : c.sysdb[getMessageString (c.syshandle ptr).path]? = none := hn
      rw [hheld] at this
      exact absurd this (Option.some_ne_none _)
    · have hq' : c.sysdb[getMessageString (c.syshandle ptr).path]? = some q := hq
      rw [hheld] at hq'
      obtain rfl := Option.some.inj hq'
      rw [hptr] at hs
      rw [hr]
      refine ⟨h1, _, _, rfl, rfl, ?_, ?_, ?_, ?_⟩
      · simp [entry, hheld]
      · exact (congrArg Prod.snd hs).symm
      · rw [entry_withoutEntry, hdec]
      · simp only [withoutEntry, hptr]
        rfl

end AgentConsolidator

end TelemetryAgent
