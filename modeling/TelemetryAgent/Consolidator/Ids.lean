/-
  Internal subscription ids.

  `IdsExact c`: the entries of `sysdb` have distinct ids inside the bounds of
  `InternalIdGenerator`, and these are the ids it has marked. `create` does not look at
  what `allocate` answers, so a run keeps `IdsExact` exactly as long as every new entry is
  made while an id is free (`idsExact_iff_freeId`). With the space exhausted the next
  entry gets the null identifier (`ids_not_exact_exhausted`: 7197 paths in one request).
-/
import Std.Data.String.ToNat
import TelemetryAgent.Consolidator.Entries

namespace TelemetryAgent

open Std TelemetryAgent.Lib

variable {σ : Type}

namespace AgentConsolidator

open AgentConsolidatorSystemHandle

structure IdsExact (c : AgentConsolidator σ) : Prop where
  distinct : ∀ t t' i, c.entryId t = some i → c.entryId t' = some i → t = t'
  inBounds : ∀ t i, c.entryId t = some i →
    c.internalIdGenerator.getBounds.1 ≤ i ∧ i ≤ c.internalIdGenerator.getBounds.2 ∧
      i ≠ AgentServerIdManager.getNullIdentifier
  allocated : ∀ i, c.internalIdGenerator.present i = true ↔ ∃ t, c.entryId t = some i

variable {sys : AgentSystem σ} {getMessageString : Path → String} {c c' : AgentConsolidator σ}
  {l : List SystemHandlePtr}

theorem idsExact_iff : c.IdsExact ↔ c.internalIdGenerator.Exact c.entryId := by
  constructor
  · intro h
    exact ⟨fun _ _ _ ha hb => h.distinct _ _ _ ha hb, fun ha => (h.inBounds _ _ ha).1, h.allocated⟩
  · intro h
    refine ⟨fun _ _ _ ha hb => h.distinct ha hb, fun t i ht => ?_, h.present_iff⟩
    have h1 := h.min_le ht
    have h2 := h.lt ht
    refine ⟨h1, ?_, ?_⟩
    · simp only [AgentServerIdManager.getBounds]
      omega
    · simp only [AgentServerIdManager.getNullIdentifier]
      unfold internalSubscriptionIdSpaceMin at h1
      omega

theorem entryId_new (s : σ) : (new s).entryId = fun _ => none := by
  unfold entryId
  rw [entry_new]
  rfl

theorem entryId_of_entry (h : c'.entry = c.entry) : c'.entryId = c.entryId := by
  unfold entryId
  rw [h]

theorem entryId_of_entry_update {t : String} {x : Option (Nat × Path)}
    (h : c'.entry = Function.update c.entry t x) :
    c'.entryId = Function.update c.entryId t (x.map Prod.fst) := by
  funext t'
  unfold entryId
  rw [h]
  by_cases ht : t' = t
  · subst ht; simp
  · simp [ht]

/-- The null identifier lies below the space, so it is never marked. -/
theorem present_null (h : c.internalIdGenerator.Exact c.entryId) :
    c.internalIdGenerator.present AgentServerIdManager.getNullIdentifier = false := by
  cases hp : c.internalIdGenerator.present AgentServerIdManager.getNullIdentifier with
  | false => rfl
  | true =>
    obtain ⟨t, ht⟩ := (h.present_iff _).mp hp
    have := h.min_le ht
    unfold internalSubscriptionIdSpaceMin AgentServerIdManager.getNullIdentifier at this
    omega

/-! ## The condition: an id is free for every new entry -/

variable (sys getMessageString) in
/-- If the path gets a new entry, `InternalIdGenerator` has a free id. -/
def CreatesWithFreeId (c : AgentConsolidator σ) (p : Path) : Prop :=
  c.entry (getMessageString p) = none →
    (sys.systemAdd c.internalIdGenerator.allocate.1 p c.sysHandle).1 = true →
    c.internalIdGenerator.HasFree

variable (sys getMessageString) in
/-- So it is for each path of the request when its turn comes. -/
def FreeIdStep (c : AgentConsolidator σ) : Call → Prop
  | .addRequest true _ request =>
    Meets (createStep sys getMessageString) (CreatesWithFreeId sys getMessageString) c
      request.pathList
  | .addRequest false _ _ => True
  | .removeRequest _ => True

/-! ## With a free id for every new entry, the ids stay exact -/

variable (sys) in
theorem exact_create (hr : RefInv getMessageString c l) (h : c.internalIdGenerator.Exact c.entryId)
    {p : Path} (hfree : CreatesWithFreeId sys getMessageString c p) :
    (create sys getMessageString c p).2.internalIdGenerator.Exact
      (create sys getMessageString c p).2.entryId := by
  cases hc : create sys getMessageString c p with
  | mk o c' =>
  show c'.internalIdGenerator.Exact c'.entryId
  obtain ⟨_, _, he, hg, _⟩ | ⟨hn, _, hs, he, hg⟩ | ⟨_, _, _, he, hg⟩ :=
    create_entry sys hr p hc
  · rw [hg, entryId_of_entry he]
    exact h
  · obtain ⟨i, h1, h2, hp, ha⟩ := AgentServerIdManager.allocate_of_hasFree (by decide)
      (hfree hn (by rw [hs]))
    have hnone : c.entryId (getMessageString p) = none := by
      unfold entryId
      rw [hn]
      rfl
    rw [hg, entryId_of_entry_update he, ha]
    exact h.set hnone h1 h2 hp
  · rw [hg, entryId_of_entry he]
    exact h.congr fun i =>
      AgentServerIdManager.present_allocate_deallocate (by decide) (present_null h) i

variable (sys) in
theorem exact_destroy {ptr : SystemHandlePtr} (hr : RefInv getMessageString c (ptr :: l))
    (h : c.internalIdGenerator.Exact c.entryId) :
    (destroy sys getMessageString c ptr).2.internalIdGenerator.Exact
      (destroy sys getMessageString c ptr).2.entryId := by
  obtain ⟨_, he, hg, _⟩ | ⟨_, id, p, _, _, hent, _, he, hg⟩ := destroy_entry sys hr
  · rw [hg, entryId_of_entry he]
    exact h
  · rw [hg, entryId_of_entry_update he]
    apply h.deallocate
    unfold entryId
    rw [hent]
    rfl

theorem exact_step {e : Call} (hi : Inv getMessageString c)
    (h : c.internalIdGenerator.Exact c.entryId) (hc : FreeIdStep sys getMessageString c e)
    (hs : step sys getMessageString c e = some c') : c'.internalIdGenerator.Exact c'.entryId := by
  cases e with
  | addRequest alloc id request =>
    rw [← Option.some.inj hs]
    cases alloc with
    | false => exact h
    | true =>
      exact addPaths_invariant sys (fun c l p hr h hc => exact_create sys hr h hc) hi.refs h hc
  | removeRequest ptr =>
    obtain ⟨x, hx, hr, rfl⟩ := step_removeRequest_refs sys hi hs
    exact destroyAll_invariant sys (fun c l ptr hr h _ => exact_destroy sys hr h) hr h
      (meets_true _ _ _)

/-! ## Without one, the null identifier is handed out -/

def HasNullEntry (c : AgentConsolidator σ) : Prop :=
  ∃ t, c.entryId t = some AgentServerIdManager.getNullIdentifier

variable (sys) in
/-- `create` keeps every entry. -/
theorem entry_create (hr : RefInv getMessageString c l) {t : String} {ip : Nat × Path}
    (h : c.entry t = some ip) (p : Path) :
    (create sys getMessageString c p).2.entry t = some ip := by
  cases hc : create sys getMessageString c p with
  | mk o c' =>
  show c'.entry t = some ip
  obtain ⟨_, _, hent, _⟩ | ⟨hn, _, _, hent, _⟩ | ⟨_, _, _, hent, _⟩ := create_entry sys hr p hc
  · rw [hent]
    exact h
  · rw [hent, Function.update_of_ne]
    · exact h
    · intro ht
      rw [ht, hn] at h
      exact absurd h (by simp)
  · rw [hent]
    exact h

variable (sys) in
theorem hasNullEntry_create (hr : RefInv getMessageString c l) (h : c.HasNullEntry) (p : Path) :
    (create sys getMessageString c p).2.HasNullEntry := by
  obtain ⟨t, ht⟩ := h
  obtain ⟨ip, hip, hi⟩ := Option.map_eq_some_iff.mp ht
  refine ⟨t, ?_⟩
  unfold entryId
  rw [entry_create sys hr hip p, ← hi]
  rfl

variable (sys) in
theorem hasNullEntry_of_not_free (hr : RefInv getMessageString c l) {p : Path}
    (h : ¬ CreatesWithFreeId sys getMessageString c p) :
    (create sys getMessageString c p).2.HasNullEntry := by
  unfold CreatesWithFreeId at h
  push Not at h
  obtain ⟨hn, ha, hf⟩ := h
  cases hc : create sys getMessageString c p with
  | mk o c' =>
  show c'.HasNullEntry
  obtain ⟨hs, _⟩ | ⟨_, _, _, he, _⟩ | ⟨_, _, hs, _⟩ := create_entry sys hr p hc
  · exact absurd hn hs
  · refine ⟨getMessageString p, ?_⟩
    rw [entryId_of_entry_update he, Function.update_self,
      AgentServerIdManager.allocate_of_not_hasFree (by decide) hf]
    rfl
  · rw [hs] at ha
    exact absurd ha (by simp)

theorem freeIdStep_of_exact {e : Call} (hi : Inv getMessageString c)
    (hs : step sys getMessageString c e = some c') (h : c'.IdsExact) :
    FreeIdStep sys getMessageString c e := by
  cases e with
  | removeRequest ptr => trivial
  | addRequest alloc id request =>
    cases alloc with
    | false => trivial
    | true =>
      by_contra hn
      have hnull : (addPaths sys getMessageString c request.pathList).2.HasNullEntry :=
        addPaths_of_not_meets sys (P := fun _ => True) (fun _ _ _ _ _ _ => trivial)
          (fun c l p hr _ hc => hasNullEntry_of_not_free sys hr hc)
          (fun c l p hr h _ => hasNullEntry_create sys hr h p) hi.refs trivial hn
      obtain ⟨t, ht⟩ := hnull
      rw [← Option.some.inj hs] at h
      exact (h.inBounds t _ ht).2.2 rfl

/-! ## Runs -/

/-- **Internal ids.** The ids are exact in every state of a run if and only if every new
    entry of the run is made while `InternalIdGenerator` has a free id. -/
theorem idsExact_iff_freeId (s : σ) (es : List Call) :
    (∀ pre suf c', es = pre ++ suf →
      run (step sys getMessageString) (new s) pre = some c' → c'.IdsExact) ↔
    Meets (step sys getMessageString) (FreeIdStep sys getMessageString) (new s) es := by
  apply forall_reached_iff_meets
    (fun c (h : Inv getMessageString c ∧ c.internalIdGenerator.Exact c.entryId) =>
      idsExact_iff.mpr h.2)
  · intro c e c' h hc hs
    exact ⟨inv_step sys h.1 hs, exact_step h.1 h.2 hc hs⟩
  · intro c e c' h hs h'
    exact freeIdStep_of_exact h.1 hs h'
  · intro c e _ hs
    obtain ⟨ptr, rfl, _⟩ := step_eq_none sys hs
    trivial
  · refine ⟨inv_new s, ?_⟩
    show (AgentServerIdManager.new _ _).Exact (new s).entryId
    rw [entryId_new]
    exact AgentServerIdManager.exact_new

/-! ## The exhausted space -/

variable (sys) in
/-- A system that accepts every path leaves an entry for every requested path. -/
theorem entry_addPaths_of_accepts (hacc : ∀ id p s, (sys.systemAdd id p s).1 = true)
    (ps : List Path) (hr : RefInv getMessageString c l) :
    ∀ p ∈ ps, (addPaths sys getMessageString c ps).2.entry (getMessageString p) ≠ none := by
  induction ps generalizing c l with
  | nil => intro p hp; exact absurd hp (by simp)
  | cons q ps ih =>
    intro p hp
    obtain ⟨l', hr'⟩ := exists_refInv_create sys hr q
    rw [addPaths_cons_snd]
    obtain rfl | hp := List.mem_cons.mp hp
    · have hp : (create sys getMessageString c p).2.entry (getMessageString p) ≠ none := by
        cases hc : create sys getMessageString c p with
        | mk o c' =>
        show c'.entry (getMessageString p) ≠ none
        obtain ⟨hn, _, hent, _⟩ | ⟨_, _, _, hent, _⟩ | ⟨_, _, hs, _⟩ := create_entry sys hr p hc
        · rw [hent]
          exact hn
        · rw [hent, Function.update_self]
          exact Option.some_ne_none _
        · exact absurd (hacc _ p _) (by rw [hs]; simp)
      obtain ⟨ip, hip⟩ := Option.ne_none_iff_exists'.mp hp
      have hkept : (addPaths sys getMessageString (create sys getMessageString c p).2 ps).2.entry
          (getMessageString p) = some ip :=
        addPaths_invariant sys (fun c l q hr h _ => entry_create sys hr h q) hr' hip
          (meets_true _ _ _)
      rw [hkept]
      exact Option.some_ne_none _
    · exact ih hr' p hp

/-- The path `firewall` once every `i` milliseconds. -/
def firewallEvery (i : Nat) : Path := { path := "firewall", sampleFrequency := .ofNat i }

theorem text_firewallEvery_inj {i j : Nat} (hi : 0 < i) (hi' : i < 2 ^ 32) (hj : 0 < j)
    (hj' : j < 2 ^ 32)
    (h : singleLineText (firewallEvery i) = singleLineText (firewallEvery j)) : i = j := by
  have hne : ∀ k : Nat, 0 < k → k < 2 ^ 32 → UInt32.ofNat k ≠ 0 := by
    intro k hk hk' he
    have := congrArg UInt32.toNat he
    rw [UInt32.toNat_ofNat_of_lt' hk'] at this
    simp at this
    omega
  unfold singleLineText firewallEvery at h
  simp only [hne i hi hi', hne j hj hj', if_false, UInt32.toNat_ofNat_of_lt' hi',
    UInt32.toNat_ofNat_of_lt' hj'] at h
  rw [String.append_right_inj, String.append_left_inj, String.append_right_inj] at h
  exact Nat.repr_inj.mp h

/-- A request for `k` different paths, on a system that accepts them all, ends with exact
    ids only if the space has that many. -/
theorem le_of_idsExact {k : Nat} (hk : k < 2 ^ 32 - 1)
    (h : ∀ c, run (step agentSystemNull singleLineText) (new {})
      [.addRequest true 1 { pathList := (List.range k).map fun i => firewallEvery (i + 1) }] =
        some c → c.IdsExact) :
    k ≤ internalSubscriptionIdSpaceSize - internalSubscriptionIdSpaceMin := by
  have hex := idsExact_iff.mp (h _ rfl)
  apply hex.card_le k fun i => singleLineText (firewallEvery (i + 1))
  · intro i j hi hj hij
    have := text_firewallEvery_inj (by omega) (by omega) (by omega) (by omega) hij
    omega
  · intro i hi hn
    have hent := entry_addPaths_of_accepts agentSystemNull (fun _ _ _ => rfl)
      ((List.range k).map fun i => firewallEvery (i + 1))
      (refInv_new _ : RefInv singleLineText (new (SystemCounts.mk 0 0 0)) [])
      (firewallEvery (i + 1)) (List.mem_map.mpr ⟨i, List.mem_range.mpr hi, rfl⟩)
    exact hent (Option.map_eq_none_iff.mp hn)

theorem ids_not_exact_exhausted :
    ¬ ∀ c, run (step agentSystemNull singleLineText) (new {})
      [.addRequest true 1 { pathList := (List.range 7197).map fun i => firewallEvery (i + 1) }] =
        some c → c.IdsExact := by
  intro h
  exact absurd (le_of_idsExact (by decide) h) (by decide)

end AgentConsolidator

end TelemetryAgent
