/-
  `addRequest` followed at once by `removeRequest` of its handle.

  The loop of `removeRequest` visits the system handles in the order in which they were made,
  so it does not undo `addRequest` step by step backwards. What it leaves is found from the
  invariants at the end: `RefInv` determines `sysdb` and the counts from the handles held
  (`RefInv.sysdb_eq`), and the marked ids are the old ones together with the ids of the
  entries made since (`idsSince`).

  * `restored_of_addRequest_removeRequest`: `sysdb`, its entries and `InternalIdGenerator`
    are as they were, whatever the system answers to each call.
  * The accepted paths are those whose `create` succeeded, and the handle's i-th entry is the
    entry of the i-th accepted path.
-/
import TelemetryAgent.Consolidator.Ids

namespace TelemetryAgent

open Std TelemetryAgent.Lib

variable {σ : Type}

namespace AgentServerIdManager

variable {n minId : Nat} {m : AgentServerIdManager n minId}

theorem ext_present {m' : AgentServerIdManager n minId} (h : ∀ i, m.present i = m'.present i) :
    m = m' := by
  have he : m.idSpace = m'.idSpace := BitVec.eq_of_getLsbD_eq fun i _ => h i
  cases m
  cases m'
  exact congrArg _ he

/-- A free id that is marked and given back leaves the ids as they were. -/
theorem deallocate_set {i : Nat} (hi : i < n) (hp : m.present i = false) :
    ((m.set i).deallocate i).2 = m := by
  apply ext_present
  intro j
  simp only [AgentServerIdManager.deallocate, present_reset, present_set, hi, decide_true,
    Bool.true_and]
  by_cases hij : i = j
  · subst hij
    simp [hp]
  · simp [hij]

/-- No id below the space is marked. -/
def Bounded (m : AgentServerIdManager n minId) : Prop := ∀ i, m.present i = true → minId ≤ i

theorem bounded_new : (new n minId).Bounded := by
  intro i h
  rw [present_new] at h
  exact absurd h (by simp)

theorem Bounded.allocate (hn : 0 < n) (h : m.Bounded) : m.allocate.2.Bounded := by
  intro i hi
  obtain ⟨j, h1, h2, _, _, he⟩ | ⟨_, he⟩ := allocate_cases hn m
  · rw [he, present_set_of_lt h2] at hi
    obtain hi | rfl := hi
    · exact h i hi
    · exact h1
  · rw [he] at hi
    exact h i hi

theorem Bounded.deallocate (h : m.Bounded) (id : Nat) : (m.deallocate id).2.Bounded := by
  intro i hi
  simp only [AgentServerIdManager.deallocate, present_reset, Bool.and_eq_true] at hi
  exact h i hi.1

theorem Bounded.null (h : m.Bounded) (hmin : 0 < minId) : m.present getNullIdentifier = false := by
  rw [Bool.eq_false_iff]
  intro hp
  have := h _ hp
  simp only [getNullIdentifier] at this
  omega

end AgentServerIdManager

namespace AgentConsolidator

open AgentConsolidatorSystemHandle

variable {sys : AgentSystem σ} {getMessageString : Path → String} {c c' c₀ : AgentConsolidator σ}
  {l : List SystemHandlePtr}

/-- Every system handle of `c` is in `c'`, with its path and its id. -/
structure Extends (c c' : AgentConsolidator σ) : Prop where
  next_le : c.nextSyshandle ≤ c'.nextSyshandle
  path : ∀ q < c.nextSyshandle, (c'.syshandle q).path = (c.syshandle q).path
  id : ∀ q < c.nextSyshandle,
    (c'.syshandle q).internalSubscriptionId = (c.syshandle q).internalSubscriptionId

theorem Keeps.toExtends (h : Keeps c c') : Extends c c' := ⟨h.next_le, h.path, h.id⟩

theorem Extends.trans {a b c : AgentConsolidator σ} (h : Extends a b) (h' : Extends b c) :
    Extends a c where
  next_le := Nat.le_trans h.next_le h'.next_le
  path q hq := (h'.path q (Nat.lt_of_lt_of_le hq h.next_le)).trans (h.path q hq)
  id q hq := (h'.id q (Nat.lt_of_lt_of_le hq h.next_le)).trans (h.id q hq)

/-! ## `sysdb` from what is held -/

theorem RefInv.getElem?_sysdb_iff (h : RefInv getMessageString c l) (t : String)
    (ptr : SystemHandlePtr) :
    c.sysdb[t]? = some ptr ↔ ptr ∈ l ∧ getMessageString (c.syshandle ptr).path = t := by
  constructor
  · intro ht
    exact ⟨h.mem ht, h.text ht⟩
  · rintro ⟨hm, rfl⟩
    exact h.held ptr hm

/-- Two states that hold the same have the same `sysdb`. -/
theorem RefInv.sysdb_eq (h₀ : RefInv getMessageString c₀ l) (h : RefInv getMessageString c l)
    (hk : Extends c₀ c) : c.sysdb = c₀.sysdb := by
  refine ExtTreeMap.ext_getElem? fun t => Option.ext fun ptr => ?_
  rw [h.getElem?_sysdb_iff, h₀.getElem?_sysdb_iff]
  refine and_congr_right fun hm => ?_
  rw [hk.path ptr (h₀.lt_next hm)]

theorem RefInv.syshandle_eq (h₀ : RefInv getMessageString c₀ l) (h : RefInv getMessageString c l)
    (hk : Extends c₀ c) {ptr : SystemHandlePtr} (hm : ptr ∈ l) :
    c.syshandle ptr = c₀.syshandle ptr := by
  have hlt := h₀.lt_next hm
  have hpath := hk.path ptr hlt
  have hid := hk.id ptr hlt
  have hcount := (h.count (h.held ptr hm)).trans (h₀.count (h₀.held ptr hm)).symm
  rcases hx : c.syshandle ptr with ⟨p, id, n⟩
  rcases hy : c₀.syshandle ptr with ⟨p', id', n'⟩
  simp only [hx, hy] at hpath hid hcount
  rw [hpath, hid, hcount]

/-- An entry held before the operation is there in each state of it. -/
theorem RefInv.entry_kept (h₀ : RefInv getMessageString c₀ l) {l' : List SystemHandlePtr}
    (h : RefInv getMessageString c (l' ++ l)) (hk : Extends c₀ c) {t : String} {ip : Nat × Path}
    (he : c₀.entry t = some ip) : c.entry t = some ip := by
  obtain ⟨ptr, ht, rfl⟩ := entry_eq_some he
  have hm := h₀.mem ht
  have hlt := h₀.fresh ht
  have hheld := h.held ptr (List.mem_append_right l' hm)
  rw [hk.path ptr hlt, h₀.text ht] at hheld
  unfold entry
  rw [hheld, Option.map_some, hk.path ptr hlt, hk.id ptr hlt]

theorem RefInv.entry_eq (h₀ : RefInv getMessageString c₀ l) (h : RefInv getMessageString c l)
    (hk : Extends c₀ c) : c.entry = c₀.entry := by
  funext t
  unfold entry
  rw [h₀.sysdb_eq h hk]
  rcases ht : c₀.sysdb[t]? with _ | ptr
  · rfl
  · rw [Option.map_some, Option.map_some, h₀.syshandle_eq h hk (h₀.mem ht)]

/-! ## The ids of the entries made since -/

/-- The id of an entry made since `c₀`. An entry made without a free id has none. -/
def newId (c₀ c : AgentConsolidator σ) (t : String) : Option Nat :=
  match c₀.entry t with
  | some _ => none
  | none => (c.entryId t).filter fun i => i != AgentServerIdManager.getNullIdentifier

/-- What each id marked in `c` is for: an entry made since `c₀`, or it was marked in `c₀`. -/
def idsSince (c₀ c : AgentConsolidator σ) : String ⊕ Nat → Option Nat
  | .inl t => newId c₀ c t
  | .inr i => if c₀.internalIdGenerator.present i then some i else none

theorem newId_update {x : Option (Nat × Path)} {t : String} (hn : c₀.entry t = none)
    (he : c'.entry = Function.update c.entry t x) :
    newId c₀ c' = Function.update (newId c₀ c) t
      ((x.map Prod.fst).filter fun i => i != AgentServerIdManager.getNullIdentifier) := by
  funext t'
  unfold newId
  rw [entryId_of_entry_update he]
  by_cases ht : t' = t
  · rw [ht, hn, Function.update_self, Function.update_self]
  · rw [Function.update_of_ne ht, Function.update_of_ne ht]

theorem idsSince_of_newId_update {x : Option Nat} {t : String}
    (h : newId c₀ c' = Function.update (newId c₀ c) t x) :
    idsSince c₀ c' = Function.update (idsSince c₀ c) (.inl t) x := by
  funext k
  rcases k with t' | i
  · rw [idsSince, h]
    by_cases ht : t' = t
    · rw [ht, Function.update_self, Function.update_self]
    · rw [Function.update_of_ne ht, Function.update_of_ne (fun hk => ht (Sum.inl.inj hk)), idsSince]
  · rw [Function.update_of_ne Sum.inr_ne_inl]
    rfl

theorem idsSince_of_entry (he : c'.entry = c.entry) : idsSince c₀ c' = idsSince c₀ c := by
  funext k
  rcases k with t | i
  · rw [idsSince, idsSince, newId, newId, entryId_of_entry he]
  · rfl

/-- Before the operation every marked id is an old one. -/
theorem exact_idsSince_self (hb : c₀.internalIdGenerator.Bounded) (h : c.entry = c₀.entry) :
    c₀.internalIdGenerator.Exact (idsSince c₀ c) := by
  have hnone : ∀ t, newId c₀ c t = none := by
    intro t
    unfold newId entryId
    rw [h]
    rcases ht : c₀.entry t with _ | ip <;> rfl
  have hold : ∀ k i, idsSince c₀ c k = some i ↔
      k = .inr i ∧ c₀.internalIdGenerator.present i = true := by
    intro k i
    rcases k with t | j
    · simp [idsSince, hnone]
    · simp only [idsSince, Option.ite_none_right_eq_some, Option.some.injEq, Sum.inr.injEq]
      refine ⟨fun ⟨hp, hj⟩ => ⟨hj, hj ▸ hp⟩, fun ⟨hj, hp⟩ => ⟨hj ▸ hp, hj⟩⟩
  refine ⟨fun k k' i hk hk' => ?_, fun {k i} hk => ?_, fun i => ?_⟩
  · rw [((hold k i).mp hk).1, ((hold k' i).mp hk').1]
  · exact hb i ((hold k i).mp hk).2
  · refine ⟨fun hp => ⟨.inr i, (hold _ i).mpr ⟨rfl, hp⟩⟩, fun ⟨k, hk⟩ => ((hold k i).mp hk).2⟩

variable (sys) in
theorem exact_idsSince_create (hr : RefInv getMessageString c l)
    (hb : c.internalIdGenerator.Bounded) (hold : ∀ t ip, c₀.entry t = some ip → c.entry t = some ip)
    (h : c.internalIdGenerator.Exact (idsSince c₀ c)) (p : Path) :
    (create sys getMessageString c p).2.internalIdGenerator.Exact
      (idsSince c₀ (create sys getMessageString c p).2) := by
  cases hc : create sys getMessageString c p with
  | mk o c' =>
  show c'.internalIdGenerator.Exact (idsSince c₀ c')
  have hnull := hb.null (by decide)
  obtain ⟨-, -, he, hg, -⟩ | ⟨hn, -, -, he, hg⟩ | ⟨-, -, -, he, hg⟩ := create_entry sys hr p hc
  · rw [hg, idsSince_of_entry he]
    exact h
  · have hn₀ : c₀.entry (getMessageString p) = none := by
      rcases h₀ : c₀.entry (getMessageString p) with _ | ip
      · rfl
      · rw [hold _ ip h₀] at hn
        exact absurd hn (by simp)
    have hnone : idsSince c₀ c (.inl (getMessageString p)) = none := by
      rw [idsSince, newId, hn₀]
      unfold entryId
      rw [hn]
      rfl
    rw [hg, idsSince_of_newId_update (newId_update hn₀ he)]
    obtain ⟨i, h1, h2, hp, -, ha⟩ | ⟨-, ha⟩ :=
      AgentServerIdManager.allocate_cases (by decide) c.internalIdGenerator
    · have hne : i ≠ AgentServerIdManager.getNullIdentifier := by
        rintro rfl
        exact absurd h1 (by decide)
      rw [ha, Option.map_some, Option.filter_some, if_pos (bne_iff_ne.mpr hne)]
      exact h.set hnone h1 h2 hp
    · rw [ha, Option.map_some, Option.filter_some, if_neg (by simp)]
      rw [← hnone, Function.update_eq_self]
      exact h
  · rw [hg, idsSince_of_entry he]
    exact h.congr fun i => AgentServerIdManager.present_allocate_deallocate (by decide) hnull i

variable (sys) in
theorem exact_idsSince_destroy {ptr : SystemHandlePtr}
    (hr : RefInv getMessageString c (ptr :: l)) (hb : c.internalIdGenerator.Bounded)
    (hold : ∀ t ip, c₀.entry t = some ip →
      (destroy sys getMessageString c ptr).2.entry t = some ip)
    (h : c.internalIdGenerator.Exact (idsSince c₀ c)) :
    (destroy sys getMessageString c ptr).2.internalIdGenerator.Exact
      (idsSince c₀ (destroy sys getMessageString c ptr).2) := by
  obtain ⟨-, he, hg, -⟩ | ⟨-, id, p, -, -, hent, -, he, hg⟩ := destroy_entry sys hr
  · rw [hg, idsSince_of_entry he]
    exact h
  · have hn₀ : c₀.entry (getMessageString p) = none := by
      rcases h₀ : c₀.entry (getMessageString p) with _ | ip
      · rfl
      · have hgone := hold _ ip h₀
        rw [he, Function.update_self] at hgone
        exact absurd hgone (by simp)
    have hid : idsSince c₀ c (.inl (getMessageString p)) =
        if id != AgentServerIdManager.getNullIdentifier then some id else none := by
      rw [idsSince, newId, hn₀]
      unfold entryId
      rw [hent, Option.map_some, Option.filter_some]
    rw [hg, idsSince_of_newId_update (newId_update hn₀ he)]
    by_cases hne : id = AgentServerIdManager.getNullIdentifier
    · -- giving the null identifier back frees nothing
      rw [if_neg (by simp [hne])] at hid
      rw [Option.map_none, Option.filter_none, ← hid, Function.update_eq_self]
      refine h.congr fun i => ?_
      have hnull := hb.null (by decide)
      simp only [AgentServerIdManager.deallocate, AgentServerIdManager.present_reset, hne]
      by_cases hi : AgentServerIdManager.getNullIdentifier = i
      · rw [← hi, hnull]
        rfl
      · simp [hi]
    · rw [if_pos (bne_iff_ne.mpr hne)] at hid
      exact h.deallocate hid

/-! ## The two loops -/

variable (sys) in
theorem bounded_create (hr : RefInv getMessageString c l) (h : c.internalIdGenerator.Bounded)
    (p : Path) : (create sys getMessageString c p).2.internalIdGenerator.Bounded := by
  cases hc : create sys getMessageString c p with
  | mk o c' =>
  show c'.internalIdGenerator.Bounded
  obtain ⟨-, -, -, hg, -⟩ | ⟨-, -, -, -, hg⟩ | ⟨-, -, -, -, hg⟩ := create_entry sys hr p hc
  · rw [hg]
    exact h
  · rw [hg]
    exact h.allocate (by decide)
  · rw [hg]
    exact (h.allocate (by decide)).deallocate _

variable (sys) in
theorem bounded_destroy {ptr : SystemHandlePtr} (hr : RefInv getMessageString c (ptr :: l))
    (h : c.internalIdGenerator.Bounded) :
    (destroy sys getMessageString c ptr).2.internalIdGenerator.Bounded := by
  obtain ⟨-, -, hg, -⟩ | ⟨-, id, p, -, -, -, -, -, hg⟩ := destroy_entry sys hr
  · rw [hg]
    exact h
  · rw [hg]
    exact h.deallocate id

theorem bounded_of_run {s : σ} {es : List Call}
    (hr : run (step sys getMessageString) (new s) es = some c) :
    c.internalIdGenerator.Bounded := by
  have hstart : Inv getMessageString (new s) ∧ (new s).internalIdGenerator.Bounded :=
    ⟨inv_new s, AgentServerIdManager.bounded_new⟩
  have hstep : ∀ (c : AgentConsolidator σ) e c',
      Inv getMessageString c ∧ c.internalIdGenerator.Bounded →
      step sys getMessageString c e = some c' →
      Inv getMessageString c' ∧ c'.internalIdGenerator.Bounded := by
    intro c e c' h hs
    refine ⟨inv_step sys h.1 hs, ?_⟩
    match e with
    | .addRequest false id request =>
      rw [← Option.some.inj hs]
      exact h.2
    | .addRequest true id request =>
      rw [← Option.some.inj hs]
      exact addPaths_invariant sys (P := fun c => c.internalIdGenerator.Bounded)
        (fun c l p hr hb _ => bounded_create sys hr hb p) h.1.refs h.2 (meets_true _ _ _)
    | .removeRequest ptr =>
      obtain ⟨x, hx, hr, rfl⟩ := step_removeRequest_refs sys h.1 hs
      exact destroyAll_invariant sys (P := fun c => c.internalIdGenerator.Bounded)
        (fun c l ptr hr hb _ => bounded_destroy sys hr hb) hr h.2 (meets_true _ _ _)
  exact (run_invariant_of_step hstep hstart hr).2

variable (sys) in
/-- The loop of `addRequest` marks the ids of the entries it makes. -/
theorem exact_idsSince_addPaths (hr : RefInv getMessageString c l)
    (hb : c.internalIdGenerator.Bounded) (ps : List Path) :
    (addPaths sys getMessageString c ps).2.internalIdGenerator.Bounded ∧
      (addPaths sys getMessageString c ps).2.internalIdGenerator.Exact
        (idsSince c (addPaths sys getMessageString c ps).2) := by
  have hstart : c.internalIdGenerator.Bounded ∧
      (∀ t ip, c.entry t = some ip → c.entry t = some ip) ∧
      c.internalIdGenerator.Exact (idsSince c c) :=
    ⟨hb, fun t ip he => he, exact_idsSince_self hb rfl⟩
  obtain ⟨hb', -, hex⟩ := addPaths_invariant sys
    (P := fun c' : AgentConsolidator σ => c'.internalIdGenerator.Bounded ∧
      (∀ t ip, c.entry t = some ip → c'.entry t = some ip) ∧
      c'.internalIdGenerator.Exact (idsSince c c'))
    (fun c' l' p hr' ⟨hb', hold, hex⟩ _ => ⟨bounded_create sys hr' hb' p,
      fun t ip he => entry_create sys hr' (hold t ip he) p,
      exact_idsSince_create sys hr' hb' hold hex p⟩) hr hstart (meets_true _ _ ps)
  exact ⟨hb', hex⟩

variable (sys) in
/-- The loop of `removeRequest` gives back the ids of the entries it ends. -/
theorem exact_idsSince_destroyAll (h₀ : RefInv getMessageString c₀ l) (hk : Extends c₀ c)
    {ptrs : List SystemHandlePtr} (hr : RefInv getMessageString c (ptrs ++ l))
    (hb : c.internalIdGenerator.Bounded) (h : c.internalIdGenerator.Exact (idsSince c₀ c)) :
    (destroyAll sys getMessageString c ptrs).internalIdGenerator.Exact
      (idsSince c₀ (destroyAll sys getMessageString c ptrs)) := by
  induction ptrs generalizing c with
  | nil => exact h
  | cons ptr ptrs ih =>
    have hr' := (refInv_destroy sys hr).2
    have hk' := hk.trans (keeps_destroy sys getMessageString c ptr).toExtends
    rw [destroyAll_cons sys ptrs hr]
    apply ih hk' hr' (bounded_destroy sys hr hb)
    exact exact_idsSince_destroy sys hr hb (fun t ip he => h₀.entry_kept hr' hk' he) h

/-! ## The accepted paths -/

variable (sys getMessageString) in
/-- What `create` answers for each path of the request in turn. -/
def createResults (c : AgentConsolidator σ) : List Path → List (Option SystemHandlePtr)
  | [] => []
  | p :: ps =>
    (create sys getMessageString c p).1 ::
      createResults (create sys getMessageString c p).2 ps

variable (sys getMessageString) in
/-- The paths whose `create` succeeded. -/
def createdPaths (c : AgentConsolidator σ) (ps : List Path) : List Path :=
  ((ps.zip (createResults sys getMessageString c ps)).filter fun r => r.2.isSome).map Prod.fst

variable (sys) in
theorem length_createResults (ps : List Path) :
    (createResults sys getMessageString c ps).length = ps.length := by
  induction ps generalizing c with
  | nil => rfl
  | cons p ps ih => rw [createResults, List.length_cons, List.length_cons, ih]

variable (sys) in
theorem createdPaths_sublist (ps : List Path) :
    (createdPaths sys getMessageString c ps).Sublist ps := by
  have h := (List.filter_sublist (p := fun r : Path × Option SystemHandlePtr => r.2.isSome)
    (l := ps.zip (createResults sys getMessageString c ps))).map Prod.fst
  rwa [List.map_fst_zip (length_createResults sys ps).ge] at h

variable (sys) in
theorem addPaths_fst (ps : List Path) :
    (addPaths sys getMessageString c ps).1 =
      ((createResults sys getMessageString c ps).reduceOption,
        createdPaths sys getMessageString c ps) := by
  induction ps generalizing c with
  | nil => rfl
  | cons p ps ih =>
    unfold createdPaths
    cases he : create sys getMessageString c p with
    | mk o c' =>
      rcases o with _ | ptr
      · rw [addPaths_cons_none sys getMessageString ps he, ih, createResults, he]
        rfl
      · rw [addPaths_cons_some sys getMessageString ps he, ih, createResults, he]
        rfl

variable (sys) in
theorem getElem?_sysdb_create (hr : RefInv getMessageString c l) {t : String}
    {ptr : SystemHandlePtr} (h : c.sysdb[t]? = some ptr) (p : Path) :
    (create sys getMessageString c p).2.sysdb[t]? = some ptr := by
  have hk := keeps_create sys getMessageString c p
  have hc := refInv_create sys hr p
  have hheld : ∀ {c' : AgentConsolidator σ} {l'}, RefInv getMessageString c' l' → Keeps c c' →
      ptr ∈ l' → c'.sysdb[t]? = some ptr := by
    intro c' l' hr' hk' hm
    have := hr'.held ptr hm
    rwa [hk'.path ptr (hr.fresh h), hr.text h] at this
  cases he : create sys getMessageString c p with
  | mk o c' =>
    rw [he] at hc hk
    rcases o with _ | q
    · exact hheld hc hk (hr.mem h)
    · exact hheld hc hk (List.mem_cons_of_mem q (hr.mem h))

variable (sys) in
/-- The i-th handle stored is the entry of the i-th accepted path. -/
theorem forall₂_addPaths (hr : RefInv getMessageString c l) (ps : List Path) :
    List.Forall₂
      (fun q p => (addPaths sys getMessageString c ps).2.sysdb[getMessageString p]? = some q)
      (addPaths sys getMessageString c ps).1.1 (addPaths sys getMessageString c ps).1.2 := by
  induction ps generalizing c l with
  | nil => exact .nil
  | cons p ps ih =>
    have hc := refInv_create sys hr p
    obtain ⟨l', hr'⟩ := exists_refInv_create sys hr p
    cases he : create sys getMessageString c p with
    | mk o c' =>
      rw [he] at hc hr'
      rcases o with _ | ptr
      · rw [addPaths_cons_none sys getMessageString ps he]
        exact ih hc
      · rw [addPaths_cons_some sys getMessageString ps he]
        refine .cons ?_ (ih hc)
        have hnew : c'.sysdb[getMessageString p]? = some ptr := by
          obtain ⟨q, hq, hcr⟩ | ⟨hn, s, -, hcr⟩ | ⟨hn, s, -, hcr⟩ :=
            create_cases sys getMessageString c p
          · rw [he, Prod.mk.injEq, Option.some.injEq] at hcr
            rw [hcr.1, hcr.2]
            exact hq
          · rw [he, Prod.mk.injEq, Option.some.injEq] at hcr
            rw [hcr.1, hcr.2]
            exact ExtTreeMap.getElem?_insert_self
          · rw [he, Prod.mk.injEq] at hcr
            exact absurd hcr.1 (by simp)
        exact addPaths_invariant sys
          (P := fun c : AgentConsolidator σ => c.sysdb[getMessageString p]? = some ptr)
          (fun c l q hr h _ => getElem?_sysdb_create sys hr h q) hr' hnew (meets_true _ _ _)

variable (sys) in
/-- The system handles of a new handle are of the accepted paths, as texts. -/
theorem texts_addRequest (h : Inv getMessageString c) (id : Nat) (request : SubscriptionRequest) :
    ((addRequest sys getMessageString c true id request).2.getHandles c.nextHandle).map
        (fun x => getMessageString x.path) =
      (addRequest sys getMessageString c true id request).1.2.map getMessageString := by
  have hr := refInv_addPaths sys request.pathList h.refs
  have hall := forall₂_addPaths sys h.refs request.pathList
  have htexts : List.Forall₂ (fun q p => getMessageString
      ((addPaths sys getMessageString c request.pathList).2.syshandle q).path = getMessageString p)
      (addPaths sys getMessageString c request.pathList).1.1
      (addPaths sys getMessageString c request.pathList).1.2 := hall.imp fun q p hq => hr.text hq
  obtain ⟨-, hhandles, -⟩ := addRequest_handles sys getMessageString c id request
  unfold getHandles
  rw [hhandles, ExtTreeMap.getElem?_insert_self, Option.map_some, Option.getD_some, List.map_map,
    ← List.forall₂_eq_eq_eq, List.forall₂_map_left_iff, List.forall₂_map_right_iff]
  exact htexts

/-! ## Add and remove -/

variable (sys) in
/-- The loop of `removeRequest` over all that was stored since `c₀`. -/
theorem restored_of_destroyAll (h₀ : RefInv getMessageString c₀ l)
    (hb₀ : c₀.internalIdGenerator.Bounded) (hk : Extends c₀ c) {ptrs : List SystemHandlePtr}
    (hr : RefInv getMessageString c (ptrs ++ l)) (hb : c.internalIdGenerator.Bounded)
    (hex : c.internalIdGenerator.Exact (idsSince c₀ c))
    (h : c' = destroyAll sys getMessageString c ptrs) :
    c'.sysdb = c₀.sysdb ∧ (∀ (t : String) ptr, c₀.sysdb[t]? = some ptr →
      c'.syshandle ptr = c₀.syshandle ptr) ∧ c'.internalIdGenerator = c₀.internalIdGenerator := by
  have hk' := hk.trans (keeps_destroyAll sys getMessageString c ptrs).toExtends
  have hr' := refInv_destroyAll sys ptrs hr
  have hex' := exact_idsSince_destroyAll sys h₀ hk hr hb hex
  rw [← h] at hk' hr' hex'
  refine ⟨h₀.sysdb_eq hr' hk', fun t ptr ht => h₀.syshandle_eq hr' hk' (h₀.mem ht), ?_⟩
  -- nothing made since is left, so the ids marked are the old ones
  have hex₀ := exact_idsSince_self hb₀ (h₀.entry_eq hr' hk')
  apply AgentServerIdManager.ext_present
  intro i
  rw [Bool.eq_iff_iff, hex'.present_iff, hex₀.present_iff]

/-- **Undo.** In every state of every run, `addRequest` and `removeRequest` of the handle it
    returns leave `sysdb`, its entries and the marked ids as they were. The accepted paths are
    those of the request whose `create` succeeded, in order, and the system handles of the
    new handle are their entries, position by position. -/
theorem restored_of_addRequest_removeRequest (sys : AgentSystem σ)
    (getMessageString : Path → String) (s : σ) (es : List Call) (c : AgentConsolidator σ)
    (hr : run (step sys getMessageString) (new s) es = some c) (alloc : Bool)
    (subscriptionId : Nat) (request : SubscriptionRequest) (handle : Option HandlePtr)
    (accepted : List Path) (c₁ c₂ : AgentConsolidator σ)
    (hadd : addRequest sys getMessageString c alloc subscriptionId request =
      ((handle, accepted), c₁))
    (hremove : removeRequest sys getMessageString c₁ handle = c₂) :
    c₂.sysdb = c.sysdb ∧
    (∀ (t : String) ptr, c.sysdb[t]? = some ptr → c₂.syshandle ptr = c.syshandle ptr) ∧
    c₂.internalIdGenerator = c.internalIdGenerator ∧
    (∀ ptr, handle = some ptr → ∃ x, c₁.handles[ptr]? = some x ∧
      accepted = createdPaths sys getMessageString c request.pathList ∧
      accepted.Sublist request.pathList ∧
      x.consolidatorsyshandles =
        (createResults sys getMessageString c request.pathList).reduceOption ∧
      List.Forall₂ (fun q p => c₁.sysdb[getMessageString p]? = some q ∧
        getMessageString (c₁.syshandle q).path = getMessageString p)
        x.consolidatorsyshandles accepted) := by
  have hinv := inv_of_run sys hr
  cases alloc with
  | false =>
    obtain ⟨⟨rfl, rfl⟩, rfl⟩ : (none = handle ∧ [] = accepted) ∧ _ = c₁ := by
      simpa [addRequest] using hadd
    subst hremove
    exact ⟨rfl, fun _ _ _ => rfl, rfl, fun ptr h => absurd h (by simp)⟩
  | true =>
    obtain ⟨hhandle, hhandles, -⟩ :=
      addRequest_handles sys getMessageString c subscriptionId request
    have heq := addRequest_eq sys getMessageString c subscriptionId request
    have hr₁ := refInv_addPaths sys request.pathList hinv.refs
    have hall := forall₂_addPaths sys hinv.refs request.pathList
    rw [hadd] at hhandle hhandles heq
    obtain rfl : handle = some c.nextHandle := hhandle
    have hx : c₁.handles[c.nextHandle]? = some
        ⟨subscriptionId, (addPaths sys getMessageString c request.pathList).1.1⟩ := by
      rw [hhandles, ExtTreeMap.getElem?_insert_self]
    rw [Prod.mk.injEq, Prod.mk.injEq] at heq
    obtain ⟨⟨-, rfl⟩, hc₁⟩ := heq
    have hk := keeps_addPaths sys getMessageString c request.pathList
    obtain ⟨hb, hex⟩ := exact_idsSince_addPaths sys hinv.refs (bounded_of_run hr) request.pathList
    have hext : Extends c c₁ := by
      rw [hc₁]
      exact ⟨hk.next_le, hk.path, hk.id⟩
    have hrefs : RefInv getMessageString c₁
        ((addPaths sys getMessageString c request.pathList).1.1 ++ c.heldHandles) := by
      rw [hc₁]
      exact hr₁.of_eq rfl rfl rfl rfl
    obtain ⟨h1, h2, h3⟩ := restored_of_destroyAll sys hinv.refs (bounded_of_run hr) hext hrefs
      (by rw [hc₁]; exact hb) (by rw [hc₁]; exact hex) rfl
    rw [← hremove, removeRequest_eq sys getMessageString hx]
    refine ⟨h1, h2, h3, fun ptr hptr => ?_⟩
    rw [← Option.some.inj hptr]
    refine ⟨_, hx, ?_, ?_, ?_, hall.imp fun q p hq => ?_⟩
    · rw [addPaths_fst]
    · rw [addPaths_fst]
      exact createdPaths_sublist sys request.pathList
    · rw [addPaths_fst]
    · have hq₁ : c₁.sysdb[getMessageString p]? = some q := by
        rw [hc₁]
        exact hq
      exact ⟨hq₁, hrefs.text hq₁⟩

/-- The system accepts `firewall` and the first `optics`, and refuses `port`. -/
theorem restored_of_addRequest_removeRequest_firewall :
    ∃ c handle accepted c₁ c₂, run (step countdownSystem singleLineText) (new 2)
        [.addRequest true 1 { pathList := [{ path := "firewall" }] }] = some c ∧
      addRequest countdownSystem singleLineText c true 2 { pathList :=
        [{ path := "optics" }, { path := "firewall" }, { path := "optics" },
          { path := "port" }] } = ((handle, accepted), c₁) ∧
      removeRequest countdownSystem singleLineText c₁ handle = c₂ ∧ c₂.sysdb = c.sysdb := by
  have hrun : (run (step countdownSystem singleLineText) (new 2)
      [.addRequest true 1 { pathList := [{ path := "firewall" }] }]).isSome = true := by
    decide +kernel
  obtain ⟨c, hc⟩ := Option.isSome_iff_exists.mp hrun
  obtain ⟨⟨⟨handle, accepted⟩, c₁⟩, hadd⟩ : ∃ r, addRequest countdownSystem singleLineText c true 2
      { pathList := [{ path := "optics" }, { path := "firewall" }, { path := "optics" },
        { path := "port" }] } = r := ⟨_, rfl⟩
  exact ⟨c, handle, accepted, c₁, _, hc, hadd, rfl,
    (restored_of_addRequest_removeRequest countdownSystem singleLineText 2 _ c hc true 2 _ handle
      accepted c₁ _ hadd rfl).1⟩

end AgentConsolidator

end TelemetryAgent
