/-
  Reference counting in the consolidator.

  `RefInv c l` says that `sysdb` is the reference-counted set of the system handles in the
  list `l`: its entries are exactly the members of `l`, each under the text of its path,
  each with as many references as it has occurrences in `l`. Inside `addRequest` and
  `removeRequest` the list is what the live consolidator handles hold together with what
  the loop still has in hand, so the invariant covers the states between two iterations.

  * `refInv_create`, `refInv_destroy`: one iteration of either loop.
  * `inv_addRequest`, `inv_removeRequest`: one operation.
  * `refcounts_of_run`: every run of the two operations, whatever the system answers.
-/
import TelemetryAgent.Lib.Run
import TelemetryAgent.Lib.OrderedMap
import TelemetryAgent.AgentUtils
import TelemetryAgent.Consolidator.Spec

namespace TelemetryAgent

open Std TelemetryAgent.Lib

variable {σ : Type}

namespace AgentConsolidator

open AgentConsolidatorSystemHandle

/-- The system handles that the live consolidator handles hold, with repetitions. -/
def heldHandles (c : AgentConsolidator σ) : List SystemHandlePtr :=
  c.handles.toList.flatMap fun e => e.2.consolidatorsyshandles

/-- The paths that the live consolidator handles hold, with repetitions. -/
def heldPaths (c : AgentConsolidator σ) : List Path :=
  c.heldHandles.map fun ptr => (c.syshandle ptr).path

variable (sys : AgentSystem σ) (getMessageString : Path → String)

structure RefInv (c : AgentConsolidator σ) (l : List SystemHandlePtr) : Prop where
  text : ∀ {t : String} {ptr}, c.sysdb[t]? = some ptr → getMessageString (c.syshandle ptr).path = t
  fresh : ∀ {t : String} {ptr}, c.sysdb[t]? = some ptr → ptr < c.nextSyshandle
  held : ∀ ptr ∈ l, c.sysdb[getMessageString (c.syshandle ptr).path]? = some ptr
  mem : ∀ {t : String} {ptr}, c.sysdb[t]? = some ptr → ptr ∈ l
  count : ∀ {t : String} {ptr}, c.sysdb[t]? = some ptr → (c.syshandle ptr).refcount = l.count ptr
  underflow : c.errorCountUnderflow = 0

variable {getMessageString} {c : AgentConsolidator σ} {l : List SystemHandlePtr}

theorem RefInv.lt_next (h : RefInv getMessageString c l) {ptr : SystemHandlePtr} (hm : ptr ∈ l) :
    ptr < c.nextSyshandle := h.fresh (h.held ptr hm)

theorem RefInv.perm (h : RefInv getMessageString c l) {l' : List SystemHandlePtr}
    (hp : l.Perm l') : RefInv getMessageString c l' where
  text := h.text
  fresh := h.fresh
  held ptr hm := h.held ptr (hp.mem_iff.mpr hm)
  mem ht := hp.mem_iff.mp (h.mem ht)
  count ht := (h.count ht).trans (hp.count_eq _)
  underflow := h.underflow

/-- It depends on the system handles and their table only. -/
theorem RefInv.of_eq (h : RefInv getMessageString c l) {c' : AgentConsolidator σ}
    (hdb : c'.sysdb = c.sysdb) (hsys : c'.syshandle = c.syshandle)
    (hnext : c'.nextSyshandle = c.nextSyshandle)
    (herror : c'.errorCountUnderflow = c.errorCountUnderflow) : RefInv getMessageString c' l := by
  constructor
  · rw [hdb, hsys]
    exact h.text
  · rw [hdb, hnext]
    exact h.fresh
  · rw [hdb, hsys]
    exact h.held
  · rw [hdb]
    exact h.mem
  · rw [hdb, hsys]
    exact h.count
  · rw [herror]
    exact h.underflow

/-- Two held handles with the same path text are the same handle. -/
theorem RefInv.eq_of_text (h : RefInv getMessageString c l) {p q : SystemHandlePtr} (hp : p ∈ l)
    (hq : q ∈ l)
    (he : getMessageString (c.syshandle p).path = getMessageString (c.syshandle q).path) :
    p = q := by
  have h1 := h.held p hp
  rw [he, h.held q hq] at h1
  exact (Option.some.inj h1).symm

theorem refInv_new (s : σ) : RefInv getMessageString (new s) [] where
  text h := by simp [new] at h
  fresh h := by simp [new] at h
  held _ h := by simp at h
  mem h := by simp [new] at h
  count h := by simp [new] at h
  underflow := rfl

/-! ## One iteration -/

/-- A handle written back with its path and another count. -/
theorem refInv_setSyshandle (h : RefInv getMessageString c l) {ptr : SystemHandlePtr}
    {x : AgentConsolidatorSystemHandle} {l' : List SystemHandlePtr}
    (hx : x.path = (c.syshandle ptr).path)
    (hmem : ∀ q, q ∈ l' ↔ q ∈ l) (hc : x.refcount = l'.count ptr)
    (hne : ∀ q, q ≠ ptr → l'.count q = l.count q) :
    RefInv getMessageString (c.setSyshandle ptr x) l' := by
  have hpath : ∀ q, ((c.setSyshandle ptr x).syshandle q).path = (c.syshandle q).path := by
    intro q
    by_cases hq : q = ptr
    · subst hq; simp [setSyshandle, hx]
    · simp [setSyshandle, hq]
  refine ⟨fun {t q} ht => ?_, fun ht => h.fresh ht, fun q hq => ?_, fun ht => ?_,
    fun {t q} ht => ?_, h.underflow⟩
  · rw [hpath]; exact h.text ht
  · rw [hpath]; exact h.held q ((hmem q).mp hq)
  · exact (hmem _).mpr (h.mem ht)
  · by_cases hq : q = ptr
    · subst hq; simp [setSyshandle, hc]
    · simp only [setSyshandle, Function.update_of_ne hq]
      rw [hne q hq]
      exact h.count ht

theorem refInv_withEntry (h : RefInv getMessageString c l) {p : Path} (s : σ)
    (hp : c.sysdb[getMessageString p]? = none) :
    RefInv getMessageString (c.withEntry getMessageString p s) (c.nextSyshandle :: l) := by
  have hold : ∀ q, q < c.nextSyshandle →
      (c.withEntry getMessageString p s).syshandle q = c.syshandle q :=
    fun q hq => update_next_of_lt c _ hq
  have hnew : (c.withEntry getMessageString p s).syshandle c.nextSyshandle =
      ⟨p, c.internalIdGenerator.allocate.1, 1⟩ := Function.update_self _ _ _
  have hdb : ∀ t, (c.withEntry getMessageString p s).sysdb[t]? =
      if getMessageString p = t then some c.nextSyshandle else c.sysdb[t]? := by
    intro t
    simp [withEntry, ExtTreeMap.getElem?_insert]
  have hnotin : c.nextSyshandle ∉ l := fun hm => Nat.lt_irrefl _ (h.lt_next hm)
  refine ⟨fun {t q} ht => ?_, fun {t q} ht => ?_, fun q hq => ?_, fun {t q} ht => ?_,
    fun {t q} ht => ?_, h.underflow⟩
  · rw [hdb] at ht
    split at ht
    · rename_i he
      rw [← Option.some.inj ht, hnew]
      exact he
    · rw [hold q (h.fresh ht)]
      exact h.text ht
  · rw [hdb] at ht
    split at ht
    · rw [← Option.some.inj ht]
      exact Nat.lt_succ_self _
    · exact Nat.lt_succ_of_lt (h.fresh ht)
  · rw [hdb]
    rcases List.mem_cons.mp hq with rfl | hq
    · rw [hnew, if_pos rfl]
    · rw [hold q (h.lt_next hq)]
      have hne : getMessageString p ≠ getMessageString (c.syshandle q).path := by
        intro he
        rw [he, h.held q hq] at hp
        exact Option.some_ne_none _ hp
      rw [if_neg hne]
      exact h.held q hq
  · rw [hdb] at ht
    split at ht
    · rw [← Option.some.inj ht]
      exact List.mem_cons_self
    · exact List.mem_cons_of_mem _ (h.mem ht)
  · rw [hdb] at ht
    split at ht
    · rw [← Option.some.inj ht, hnew, List.count_cons_self, List.count_eq_zero_of_not_mem hnotin]
    · have hlt := h.fresh ht
      rw [hold q hlt, List.count_cons_of_ne (Nat.ne_of_gt hlt)]
      exact h.count ht

theorem refInv_refused (h : RefInv getMessageString c l) (p : Path) (s : σ) :
    RefInv getMessageString (c.refused p s) l := by
  have hold : ∀ q, q < c.nextSyshandle → (c.refused p s).syshandle q = c.syshandle q :=
    fun q hq => update_next_of_lt c _ hq
  refine ⟨fun {t q} ht => ?_, fun ht => Nat.lt_succ_of_lt (h.fresh ht), fun q hq => ?_,
    fun ht => h.mem ht, fun {t q} ht => ?_, h.underflow⟩
  · rw [hold q (h.fresh ht)]; exact h.text ht
  · rw [hold q (h.lt_next hq)]; exact h.held q hq
  · rw [hold q (h.fresh ht)]; exact h.count ht

/-- `create` adds the handle it returns to what is held. -/
theorem refInv_create (h : RefInv getMessageString c l) (p : Path) :
    match create sys getMessageString c p with
    | (some ptr, c') => RefInv getMessageString c' (ptr :: l)
    | (none, c') => RefInv getMessageString c' l := by
  obtain ⟨ptr, hp, he⟩ | ⟨hp, s, _, he⟩ | ⟨_, s, _, he⟩ :=
    create_cases sys getMessageString c p
  · rw [he]
    refine refInv_setSyshandle h rfl (fun q => ?_) ?_ (fun q hq => ?_)
    · rw [List.mem_cons, or_iff_right_of_imp]
      rintro rfl
      exact h.mem hp
    · rw [List.count_cons_self, ← h.count hp]
      rfl
    · exact List.count_cons_of_ne (Ne.symm hq)
  · rw [he]
    exact refInv_withEntry h s hp
  · rw [he]
    exact refInv_refused h p s

/-- `destroy` of a held handle does not underflow and takes it from what is held. -/
theorem refInv_destroy {ptr : SystemHandlePtr} (h : RefInv getMessageString c (ptr :: l)) :
    (destroy sys getMessageString c ptr).1 = true ∧
      RefInv getMessageString (destroy sys getMessageString c ptr).2 l := by
  have hheld := h.held ptr List.mem_cons_self
  have hcount := h.count hheld
  rw [List.count_cons_self] at hcount
  obtain ⟨h0, _⟩ | ⟨h2, he⟩ | ⟨h1, he⟩ := destroy_cases sys getMessageString c ptr
  · omega
  · rw [he]
    refine ⟨rfl, refInv_setSyshandle h rfl (fun q => ?_) ?_ (fun q hq => ?_)⟩
    · rw [List.mem_cons, or_iff_right_of_imp]
      rintro rfl
      exact List.count_pos_iff.mp (by omega)
    · simp only [decRef]
      omega
    · exact (List.count_cons_of_ne (Ne.symm hq)).symm
  · rw [he]
    refine ⟨rfl, ?_⟩
    -- the last reference: `remove` finds this very entry and erases it
    have hnotin : ptr ∉ l := List.count_eq_zero.mp (by omega)
    have hdec : (c.setSyshandle ptr (c.syshandle ptr).decRef).sysdb[getMessageString
        (c.syshandle ptr).path]? = some ptr := hheld
    obtain ⟨hn, _⟩ | ⟨q, result, s, hq, _, hr⟩ := remove_cases sys getMessageString
        (c.setSyshandle ptr (c.syshandle ptr).decRef) (c.syshandle ptr).path
    · rw [hdec] at hn
      exact absurd hn (Option.some_ne_none _)
    · rw [hdec] at hq
      obtain rfl := Option.some.inj hq
      rw [hr]
      have hsys : ∀ q, q ≠ ptr → ((c.setSyshandle ptr (c.syshandle ptr).decRef).withoutEntry
          getMessageString (c.syshandle ptr).path ptr s).syshandle q = c.syshandle q :=
        fun q hq => Function.update_of_ne hq _ _
      have hdb : ∀ (t : String) q, ((c.setSyshandle ptr (c.syshandle ptr).decRef).withoutEntry
          getMessageString (c.syshandle ptr).path ptr s).sysdb[t]? = some q →
          q ≠ ptr ∧ c.sysdb[t]? = some q := by
        intro t q ht
        simp only [withoutEntry, setSyshandle, getElem?_erase_eq] at ht
        split at ht
        · exact absurd ht (by simp)
        · rename_i hne
          refine ⟨?_, ht⟩
          rintro rfl
          exact hne (h.text ht)
      refine ⟨fun {t q} ht => ?_, fun {t q} ht => h.fresh (hdb t q ht).2, fun q hq => ?_,
        fun {t q} ht => ?_, fun {t q} ht => ?_, h.underflow⟩
      · rw [hsys q (hdb t q ht).1]
        exact h.text (hdb t q ht).2
      · have hne : q ≠ ptr := fun e => hnotin (e ▸ hq)
        have hqm := List.mem_cons_of_mem ptr hq
        rw [hsys q hne]
        simp only [withoutEntry, setSyshandle]
        rw [getElem?_erase_of_ne]
        · exact h.held q hqm
        · intro he
          exact hne (h.eq_of_text hqm List.mem_cons_self he.symm)
      · rcases List.mem_cons.mp (h.mem (hdb t q ht).2) with rfl | hm
        · exact absurd rfl (hdb t q ht).1
        · exact hm
      · rw [hsys q (hdb t q ht).1, h.count (hdb t q ht).2,
          List.count_cons_of_ne (Ne.symm (hdb t q ht).1)]

/-! ## The loops

Both loops are runs of their one iteration. The rules below carry a property of the state
through a loop, where the invariant may be used at each iteration, and say what follows
when some iteration does not meet a condition. -/

variable (getMessageString) in
def createStep (c : AgentConsolidator σ) (p : Path) : Option (AgentConsolidator σ) :=
  some (create sys getMessageString c p).2

variable (getMessageString) in
def destroyStep (c : AgentConsolidator σ) (ptr : SystemHandlePtr) : Option (AgentConsolidator σ) :=
  some (destroy sys getMessageString c ptr).2

theorem addPaths_cons_snd (p : Path) (ps : List Path) :
    (addPaths sys getMessageString c (p :: ps)).2 =
      (addPaths sys getMessageString (create sys getMessageString c p).2 ps).2 := by
  cases he : create sys getMessageString c p with
  | mk o c' =>
    cases o with
    | none => rw [addPaths_cons_none sys getMessageString ps he]
    | some ptr => rw [addPaths_cons_some sys getMessageString ps he]

theorem refInv_addPaths (ps : List Path) (h : RefInv getMessageString c l) :
    RefInv getMessageString (addPaths sys getMessageString c ps).2
      ((addPaths sys getMessageString c ps).1.1 ++ l) := by
  induction ps generalizing c l with
  | nil => exact h
  | cons p ps ih =>
    have hc := refInv_create sys h p
    cases he : create sys getMessageString c p with
    | mk o c' =>
      rw [he] at hc
      cases o with
      | none =>
        rw [addPaths_cons_none sys getMessageString ps he]
        exact ih hc
      | some ptr =>
        rw [addPaths_cons_some sys getMessageString ps he]
        exact (ih hc).perm List.perm_middle

theorem exists_refInv_create (h : RefInv getMessageString c l) (p : Path) :
    ∃ l', RefInv getMessageString (create sys getMessageString c p).2 l' := by
  have hc := refInv_create sys h p
  cases he : create sys getMessageString c p with
  | mk o c' =>
    rw [he] at hc
    cases o with
    | none => exact ⟨_, hc⟩
    | some ptr => exact ⟨_, hc⟩

theorem addPaths_invariant {P : AgentConsolidator σ → Prop}
    {cond : AgentConsolidator σ → Path → Prop}
    (hstep : ∀ c l p, RefInv getMessageString c l → P c → cond c p →
      P (create sys getMessageString c p).2) {ps : List Path} (hr : RefInv getMessageString c l)
    (h : P c) (hc : Meets (createStep sys getMessageString) cond c ps) :
    P (addPaths sys getMessageString c ps).2 := by
  induction ps generalizing c l with
  | nil => exact h
  | cons p ps ih =>
    obtain ⟨l', hr'⟩ := exists_refInv_create sys hr p
    rw [addPaths_cons_snd]
    exact ih hr' (hstep c l p hr h hc.1) (hc.2 _ rfl)

/-- `Q` is what an iteration that misses the condition leads to and no later one undoes. -/
theorem addPaths_of_not_meets {P Q : AgentConsolidator σ → Prop}
    {cond : AgentConsolidator σ → Path → Prop}
    (hstep : ∀ c l p, RefInv getMessageString c l → P c → cond c p →
      P (create sys getMessageString c p).2)
    (hbad : ∀ c l p, RefInv getMessageString c l → P c → ¬ cond c p →
      Q (create sys getMessageString c p).2)
    (hkeep : ∀ c l p, RefInv getMessageString c l → Q c → True →
      Q (create sys getMessageString c p).2) {ps : List Path}
    (hr : RefInv getMessageString c l) (h : P c)
    (hn : ¬ Meets (createStep sys getMessageString) cond c ps) :
    Q (addPaths sys getMessageString c ps).2 := by
  induction ps generalizing c l with
  | nil => exact absurd trivial hn
  | cons p ps ih =>
    obtain ⟨l', hr'⟩ := exists_refInv_create sys hr p
    rw [meets_cons_of_step rfl, not_and_or] at hn
    rw [addPaths_cons_snd]
    by_cases hc : cond c p
    · exact ih hr' (hstep c l p hr h hc) (hn.resolve_left (not_not_intro hc))
    · exact addPaths_invariant sys hkeep hr' (hbad c l p hr h hc) (meets_true _ _ _)

theorem destroyAll_cons (ptrs : List SystemHandlePtr) {ptr : SystemHandlePtr}
    (hr : RefInv getMessageString c (ptr :: l)) :
    destroyAll sys getMessageString c (ptr :: ptrs) =
      destroyAll sys getMessageString (destroy sys getMessageString c ptr).2 ptrs := by
  obtain ⟨hok, _⟩ := refInv_destroy sys hr
  rw [destroyAll]
  split
  · rename_i c' he
    rw [he]
  · rename_i c' he
    rw [he] at hok
    exact absurd hok (by simp)

theorem refInv_destroyAll (ptrs : List SystemHandlePtr)
    (h : RefInv getMessageString c (ptrs ++ l)) :
    RefInv getMessageString (destroyAll sys getMessageString c ptrs) l := by
  induction ptrs generalizing c with
  | nil => exact h
  | cons ptr ptrs ih =>
    rw [destroyAll_cons sys ptrs h]
    exact ih (refInv_destroy sys h).2

theorem destroyAll_invariant {P : AgentConsolidator σ → Prop}
    {cond : AgentConsolidator σ → SystemHandlePtr → Prop}
    (hstep : ∀ c l ptr, RefInv getMessageString c (ptr :: l) → P c → cond c ptr →
      P (destroy sys getMessageString c ptr).2) {ptrs : List SystemHandlePtr}
    (hr : RefInv getMessageString c (ptrs ++ l)) (h : P c)
    (hc : Meets (destroyStep sys getMessageString) cond c ptrs) :
    P (destroyAll sys getMessageString c ptrs) := by
  induction ptrs generalizing c with
  | nil => exact h
  | cons ptr ptrs ih =>
    rw [destroyAll_cons sys ptrs hr]
    exact ih (refInv_destroy sys hr).2 (hstep c _ ptr hr h hc.1) (hc.2 _ rfl)

theorem destroyAll_of_not_meets {P Q : AgentConsolidator σ → Prop}
    {cond : AgentConsolidator σ → SystemHandlePtr → Prop}
    (hstep : ∀ c l ptr, RefInv getMessageString c (ptr :: l) → P c → cond c ptr →
      P (destroy sys getMessageString c ptr).2)
    (hbad : ∀ c l ptr, RefInv getMessageString c (ptr :: l) → P c → ¬ cond c ptr →
      Q (destroy sys getMessageString c ptr).2)
    (hkeep : ∀ c l ptr, RefInv getMessageString c (ptr :: l) → Q c → True →
      Q (destroy sys getMessageString c ptr).2) {ptrs : List SystemHandlePtr}
    (hr : RefInv getMessageString c (ptrs ++ l)) (h : P c)
    (hn : ¬ Meets (destroyStep sys getMessageString) cond c ptrs) :
    Q (destroyAll sys getMessageString c ptrs) := by
  induction ptrs generalizing c with
  | nil => exact absurd trivial hn
  | cons ptr ptrs ih =>
    have hr' := (refInv_destroy sys hr).2
    rw [meets_cons_of_step rfl, not_and_or] at hn
    rw [destroyAll_cons sys ptrs hr]
    by_cases hc : cond c ptr
    · exact ih hr' (hstep c _ ptr hr h hc) (hn.resolve_left (not_not_intro hc))
    · exact destroyAll_invariant sys hkeep hr' (hbad c _ ptr hr h hc) (meets_true _ _ _)

/-! ## The operations -/

/-- The invariant of the consolidator between operations: reference counts, fresh handle
    addresses and the two operation counters. -/
structure Inv (getMessageString : Path → String) (c : AgentConsolidator σ) : Prop where
  refs : RefInv getMessageString c c.heldHandles
  handle_lt : ∀ {ptr : HandlePtr} {h}, c.handles[ptr]? = some h → ptr < c.nextHandle
  counts : c.addCount = c.removeCount + c.handles.size

theorem inv_new (s : σ) : Inv getMessageString (new s) where
  refs := refInv_new s
  handle_lt h := by simp [new] at h
  counts := rfl

/-- The handles held after a consolidator handle has been stored at a fresh address. -/
theorem heldHandles_insert (c' : AgentConsolidator σ) {ptr : HandlePtr}
    (h : AgentConsolidatorHandle) (hn : c.handles[ptr]? = none)
    (hh : c'.handles = c.handles.insert ptr h) :
    (h.consolidatorsyshandles ++ c.heldHandles).Perm c'.heldHandles := by
  unfold heldHandles
  rw [hh]
  exact ((toList_insert_perm c.handles h hn).flatMap_right
    fun e => e.2.consolidatorsyshandles).symm

theorem heldHandles_erase (c' : AgentConsolidator σ) {ptr : HandlePtr}
    {h : AgentConsolidatorHandle} (hl : c.handles[ptr]? = some h)
    (hh : c'.handles = c.handles.erase ptr) :
    c.heldHandles.Perm (h.consolidatorsyshandles ++ c'.heldHandles) := by
  unfold heldHandles
  rw [hh]
  exact (toList_erase_perm c.handles hl).flatMap_right fun e => e.2.consolidatorsyshandles

theorem handle_fresh (h : Inv getMessageString c) : c.handles[c.nextHandle]? = none := by
  cases hn : c.handles[c.nextHandle]? with
  | none => rfl
  | some x => exact absurd (h.handle_lt hn) (Nat.lt_irrefl _)

theorem inv_addRequest (h : Inv getMessageString c) (alloc : Bool) (id : Nat)
    (request : SubscriptionRequest) :
    Inv getMessageString (addRequest sys getMessageString c alloc id request).2 := by
  cases alloc with
  | false => exact ⟨h.refs.of_eq rfl rfl rfl rfl, h.handle_lt, h.counts⟩
  | true =>
    have hk := keeps_addPaths sys getMessageString c request.pathList
    have hr := refInv_addPaths sys request.pathList h.refs
    have hfresh := handle_fresh h
    rw [addRequest_eq]
    refine ⟨?_, fun {ptr x} hx => ?_, ?_⟩
    · have hp := heldHandles_insert (addRequest sys getMessageString c true id request).2
        ⟨id, (addPaths sys getMessageString c request.pathList).1.1⟩ hfresh
        (by rw [addRequest_eq, hk.handles, hk.nextHandle])
      exact (hr.perm hp).of_eq rfl rfl rfl rfl
    · simp only [hk.handles, hk.nextHandle, getElem?_insert_eq] at hx ⊢
      split at hx
      · rename_i he
        rw [← he]
        exact Nat.lt_succ_self _
      · exact Nat.lt_succ_of_lt (h.handle_lt hx)
    · simp only [hk.handles, hk.nextHandle, hk.addCount, hk.removeCount,
        size_insert_of_none _ _ hfresh]
      have := h.counts
      omega

theorem inv_removeRequest (h : Inv getMessageString c) {ptr : HandlePtr}
    {x : AgentConsolidatorHandle} (hl : c.handles[ptr]? = some x) :
    Inv getMessageString (removeRequest sys getMessageString c (some ptr)) := by
  have hk := keeps_destroyAll sys getMessageString c x.consolidatorsyshandles
  have heq := removeRequest_eq sys getMessageString hl
  have hp := heldHandles_erase (removeRequest sys getMessageString c (some ptr)) hl
    (by rw [heq, hk.handles])
  have hr := refInv_destroyAll sys x.consolidatorsyshandles (h.refs.perm hp)
  rw [heq] at hr ⊢
  refine ⟨hr.of_eq rfl rfl rfl rfl, fun {q y} hy => ?_, ?_⟩
  · simp only [hk.handles, hk.nextHandle, ExtTreeMap.getElem?_erase] at hy ⊢
    split at hy
    · exact absurd hy (by simp)
    · exact h.handle_lt hy
  · have hsize := size_erase_of_some c.handles hl
    have := h.counts
    simp only [hk.handles, hk.addCount, hk.removeCount]
    omega

/-- A handle that stays keeps the paths and internal ids of its system handles. -/
theorem getHandles_of_keeps {c' : AgentConsolidator σ} (h : Inv getMessageString c)
    (hk : ∀ q < c.nextSyshandle, (c'.syshandle q).path = (c.syshandle q).path ∧
      (c'.syshandle q).internalSubscriptionId = (c.syshandle q).internalSubscriptionId)
    {ptr : HandlePtr} (hp : c'.handles[ptr]? = c.handles[ptr]?) :
    (c'.getHandles ptr).map (·.internalSubscriptionId) =
      (c.getHandles ptr).map (·.internalSubscriptionId) ∧
    (c'.getHandles ptr).map (·.path) = (c.getHandles ptr).map (·.path) := by
  unfold getHandles
  rw [hp]
  cases hx : c.handles[ptr]? with
  | none => exact ⟨rfl, rfl⟩
  | some x =>
    have hlt : ∀ q ∈ x.consolidatorsyshandles, q < c.nextSyshandle := by
      intro q hq
      apply h.refs.lt_next
      exact List.mem_flatMap.mpr
        ⟨(ptr, x), ExtTreeMap.mem_toList_iff_getElem?_eq_some.mpr hx, hq⟩
    simp only [Option.map_some, Option.getD_some, List.map_map]
    constructor
    · exact List.map_congr_left fun q hq => (hk q (hlt q hq)).2
    · exact List.map_congr_left fun q hq => (hk q (hlt q hq)).1

theorem getHandles_addRequest (h : Inv getMessageString c) (id : Nat)
    (request : SubscriptionRequest) {ptr : HandlePtr} (hp : ptr ∈ c.handles) :
    ((addRequest sys getMessageString c true id request).2.getHandles ptr).map
        (·.internalSubscriptionId) = (c.getHandles ptr).map (·.internalSubscriptionId) ∧
      ((addRequest sys getMessageString c true id request).2.getHandles ptr).map (·.path) =
        (c.getHandles ptr).map (·.path) := by
  have hk := keeps_addPaths sys getMessageString c request.pathList
  obtain ⟨_, hh, _⟩ := addRequest_handles sys getMessageString c id request
  apply getHandles_of_keeps h
  · intro q hq
    rw [addRequest_eq]
    exact ⟨hk.path q hq, hk.id q hq⟩
  have hne : c.nextHandle ≠ ptr := by
    intro he
    rw [← he, ExtTreeMap.mem_iff_isSome_getElem?, handle_fresh h] at hp
    exact absurd hp (by simp)
  rw [hh, getElem?_insert_of_ne _ hne]

theorem getHandles_removeRequest (h : Inv getMessageString c) {ptr ptr' : HandlePtr}
    {x : AgentConsolidatorHandle} (hl : c.handles[ptr']? = some x) (hp : ptr ≠ ptr') :
    ((removeRequest sys getMessageString c (some ptr')).getHandles ptr).map
        (·.internalSubscriptionId) = (c.getHandles ptr).map (·.internalSubscriptionId) ∧
      ((removeRequest sys getMessageString c (some ptr')).getHandles ptr).map (·.path) =
        (c.getHandles ptr).map (·.path) := by
  have hk := keeps_destroyAll sys getMessageString c x.consolidatorsyshandles
  have heq := removeRequest_eq sys getMessageString hl
  obtain ⟨hh, _⟩ := removeRequest_handles sys getMessageString hl
  apply getHandles_of_keeps h
  · intro q hq
    rw [heq]
    exact ⟨hk.path q hq, hk.id q hq⟩
  · rw [hh, getElem?_erase_of_ne _ (Ne.symm hp)]

/-! ## Runs -/

/-- A call on the consolidator. -/
inductive Call where
  | addRequest (alloc : Bool) (subscriptionId : Nat) (request : SubscriptionRequest)
  | removeRequest (handle : HandlePtr)
  deriving DecidableEq, Repr

variable (getMessageString) in
/-- `removeRequest` is called on live handles only. -/
def step (c : AgentConsolidator σ) : Call → Option (AgentConsolidator σ)
  | .addRequest alloc id request => some (addRequest sys getMessageString c alloc id request).2
  | .removeRequest ptr =>
    if ptr ∈ c.handles then some (removeRequest sys getMessageString c (some ptr)) else none

theorem step_removeRequest {c' : AgentConsolidator σ} {ptr : HandlePtr}
    (h : step sys getMessageString c (.removeRequest ptr) = some c') :
    (∃ x, c.handles[ptr]? = some x) ∧
      c' = removeRequest sys getMessageString c (some ptr) := by
  simp only [step] at h
  split at h
  · rename_i hm
    rw [ExtTreeMap.mem_iff_isSome_getElem?] at hm
    exact ⟨Option.isSome_iff_exists.mp hm, (Option.some.inj h).symm⟩
  · exact absurd h (by simp)

theorem step_eq_none {e : Call} (h : step sys getMessageString c e = none) :
    ∃ ptr, e = .removeRequest ptr ∧ c.handles[ptr]? = none := by
  cases e with
  | addRequest alloc id request => exact absurd h (by simp [step])
  | removeRequest ptr =>
    refine ⟨ptr, rfl, ?_⟩
    simp only [step] at h
    split at h
    · exact absurd h (by simp)
    · rename_i hm
      rw [ExtTreeMap.mem_iff_isSome_getElem?] at hm
      simpa using hm

/-- Where `removeRequest` is enabled, the handle's system handles are held, and the result
    differs from what the loop leaves by the handle and a counter. -/
theorem step_removeRequest_refs {c' : AgentConsolidator σ} {ptr : HandlePtr}
    (hi : Inv getMessageString c)
    (hs : step sys getMessageString c (.removeRequest ptr) = some c') :
    ∃ x, c.handles[ptr]? = some x ∧
      RefInv getMessageString c (x.consolidatorsyshandles ++
        (removeRequest sys getMessageString c (some ptr)).heldHandles) ∧
      c' = { destroyAll sys getMessageString c x.consolidatorsyshandles with
        handles :=
          (destroyAll sys getMessageString c x.consolidatorsyshandles).handles.erase ptr
        removeCount :=
          (destroyAll sys getMessageString c x.consolidatorsyshandles).removeCount + 1 } := by
  obtain ⟨⟨x, hx⟩, rfl⟩ := step_removeRequest sys hs
  have hk := keeps_destroyAll sys getMessageString c x.consolidatorsyshandles
  have heq := removeRequest_eq sys getMessageString hx
  have hp := heldHandles_erase (removeRequest sys getMessageString c (some ptr)) hx
    (by rw [heq, hk.handles])
  exact ⟨x, hx, hi.refs.perm hp, heq⟩

theorem inv_step {c' : AgentConsolidator σ} {e : Call} (h : Inv getMessageString c)
    (hs : step sys getMessageString c e = some c') : Inv getMessageString c' := by
  cases e with
  | addRequest alloc id request =>
    rw [← Option.some.inj hs]
    exact inv_addRequest sys h alloc id request
  | removeRequest ptr =>
    obtain ⟨⟨x, hx⟩, rfl⟩ := step_removeRequest sys hs
    exact inv_removeRequest sys h hx

theorem inv_of_run {s : σ} {es : List Call}
    (hr : run (step sys getMessageString) (new s) es = some c) : Inv getMessageString c :=
  run_invariant_of_step (fun _ _ _ h hs => inv_step sys h hs) (inv_new s) hr

/-! ## The reference counts of every run -/

/-- A path occurs among the held paths as often as its system handle is held. -/
theorem RefInv.count_path (h : RefInv getMessageString c c.heldHandles) {ptr : SystemHandlePtr}
    (hm : ptr ∈ c.heldHandles) :
    c.heldPaths.count (c.syshandle ptr).path = c.heldHandles.count ptr := by
  unfold heldPaths
  rw [List.count, List.count, List.countP_map]
  apply List.countP_congr
  intro q hq
  simp only [Function.comp_apply, beq_iff_eq]
  constructor
  · intro he
    exact h.eq_of_text hq hm (congrArg _ he)
  · intro he
    rw [he]

theorem RefInv.mem_sysdb_iff (h : RefInv getMessageString c c.heldHandles) (t : String) :
    t ∈ c.sysdb ↔ ∃ p ∈ c.heldPaths, getMessageString p = t := by
  rw [ExtTreeMap.mem_iff_isSome_getElem?, Option.isSome_iff_exists]
  constructor
  · intro hexists
    obtain ⟨ptr, ht⟩ := hexists
    exact ⟨_, List.mem_map.mpr ⟨ptr, h.mem ht, rfl⟩, h.text ht⟩
  · intro hexists
    obtain ⟨p, hp, ht⟩ := hexists
    obtain ⟨ptr, hm, rfl⟩ := List.mem_map.mp hp
    exact ⟨ptr, ht ▸ h.held ptr hm⟩

/-- A system handle of a live consolidator handle is held. -/
theorem mem_heldHandles {ptr : HandlePtr} {x : AgentConsolidatorHandle} {q : SystemHandlePtr}
    (hx : c.handles[ptr]? = some x) (hq : q ∈ x.consolidatorsyshandles) : q ∈ c.heldHandles :=
  List.mem_flatMap.mpr ⟨(ptr, x), ExtTreeMap.mem_toList_iff_getElem?_eq_some.mpr hx, hq⟩

/-- Removing one consolidator handle leaves the entries that another one holds. -/
theorem Inv.removeRequest_keeps_held (h : Inv getMessageString c) {ptr ptr' : HandlePtr}
    {x x' : AgentConsolidatorHandle} (hx : c.handles[ptr]? = some x)
    (hx' : c.handles[ptr']? = some x') (hne : ptr ≠ ptr') {q : SystemHandlePtr}
    (hq : q ∈ x'.consolidatorsyshandles) :
    (removeRequest sys getMessageString c (some ptr)).sysdb[
      getMessageString (c.syshandle q).path]? = some q := by
  have hinv := inv_removeRequest sys h hx
  have hk := keeps_destroyAll sys getMessageString c x.consolidatorsyshandles
  have heq := removeRequest_eq sys getMessageString hx
  have hlive : (removeRequest sys getMessageString c (some ptr)).handles[ptr']? = some x' := by
    rw [heq]
    simp only [hk.handles]
    rw [getElem?_erase_of_ne _ hne]
    exact hx'
  have hpath : ((removeRequest sys getMessageString c (some ptr)).syshandle q).path =
      (c.syshandle q).path := by
    rw [heq]
    exact hk.path q (h.refs.lt_next (mem_heldHandles hx' hq))
  have hheld := hinv.refs.held q (mem_heldHandles hlive hq)
  rwa [hpath] at hheld

/-- **Reference counts.** After every run of `addRequest` and of `removeRequest` on live
    handles, whatever the system answers to each call: the keys of `sysdb` are the texts of
    the held paths; an entry's count is positive and is the number of times its path is
    held; `destroy` has never underflowed; the operation counters differ by the number of
    live handles; and removing any live handle keeps the entries held by the others. -/
theorem refcounts_of_run (s : σ) (es : List Call) (c : AgentConsolidator σ)
    (hr : run (step sys getMessageString) (new s) es = some c) :
    (∀ t, t ∈ c.sysdb ↔ ∃ p ∈ c.heldPaths, getMessageString p = t) ∧
    (∀ (t : String) ptr, c.sysdb[t]? = some ptr →
      getMessageString (c.syshandle ptr).path = t ∧
      0 < (c.syshandle ptr).refcount ∧
      (c.syshandle ptr).refcount = c.heldPaths.count (c.syshandle ptr).path) ∧
    c.errorCountUnderflow = 0 ∧
    (c.addCount : Int) - c.removeCount = c.handles.size ∧
    (∀ (ptr ptr' : HandlePtr) x x', c.handles[ptr]? = some x → c.handles[ptr']? = some x' →
      ptr ≠ ptr' → ∀ q ∈ x'.consolidatorsyshandles,
        (removeRequest sys getMessageString c (some ptr)).sysdb[
          getMessageString (c.syshandle q).path]? = some q) := by
  have h := inv_of_run sys hr
  refine ⟨h.refs.mem_sysdb_iff, fun t ptr ht => ⟨h.refs.text ht, ?_, ?_⟩, h.refs.underflow, ?_,
    fun ptr ptr' x x' hx hx' hne q hq => h.removeRequest_keeps_held sys hx hx' hne hq⟩
  · rw [h.refs.count ht]
    exact List.count_pos_iff.mpr (h.refs.mem ht)
  · rw [h.refs.count ht, h.refs.count_path (h.refs.mem ht)]
  · have := h.counts
    omega

/-- A system that accepts a call while `0 < s` and then refuses. -/
def countdownSystem : AgentSystem Nat where
  systemAdd _ _ s := (decide (0 < s), s - 1)
  systemRemove _ _ s := (decide (0 < s), s - 1)

theorem refcounts_of_run_firewall :
    ∃ c, run (step countdownSystem singleLineText) (new 2)
        [.addRequest true 1 { pathList := [{ path := "firewall" }, { path := "firewall" }] },
         .addRequest true 2 { pathList := [{ path := "firewall" }, { path := "port" },
           { path := "optics" }] },
         .removeRequest 0] = some c ∧
      c.heldPaths = [{ path := "firewall" }, { path := "port" }] ∧
      c.errorCountUnderflow = 0 := by
  have hrun : (run (step countdownSystem singleLineText) (new 2)
      [.addRequest true 1 { pathList := [{ path := "firewall" }, { path := "firewall" }] },
       .addRequest true 2 { pathList := [{ path := "firewall" }, { path := "port" },
         { path := "optics" }] },
       .removeRequest 0]).map heldPaths =
      some [{ path := "firewall" }, { path := "port" }] := by decide +kernel
  obtain ⟨c, hc, hp⟩ := Option.map_eq_some_iff.mp hrun
  exact ⟨c, hc, hp, (refcounts_of_run countdownSystem 2 _ c hc).2.2.1⟩

end AgentConsolidator

end TelemetryAgent
