/-
  Histories of an `AgentServerIdManager` (AgentServerIdManager.hpp): calls of `allocate` and
  `deallocate`, in any order, on a new manager.

  An id is outstanding from the call that returned it until it is given back. The history knows
  this from what the calls return, and the manager from its bit string.

  * `Agrees`: the marked ids are those outstanding, each once, and they lie in the space.
  * `agrees_call`: a call keeps that.
  * `serves_after`: so at any time the next call does what it is to do.
-/
import TelemetryAgent.IdManager

namespace TelemetryAgent

namespace AgentServerIdManager

variable {n minId : Nat}

/-- `_id_space.count()` -/
def count (m : AgentServerIdManager n minId) : Nat := (List.range n).countP m.present

/-- In the arithmetic of `size_t`. -/
def freeCount (m : AgentServerIdManager n minId) : Nat := (m.getSize + 2 ^ 64 - m.count) % 2 ^ 64

/-- What the caller of `allocate` gets: the id, converted to `id_idx_t`. -/
def allocated (m : AgentServerIdManager n minId) : Nat := m.allocate.1 % 2 ^ 32

end AgentServerIdManager

open AgentServerIdManager (getNullIdentifier)

/-! ## Histories -/

/-- `std::bitset` throws for an id that is not below its size. -/
inductive IdCall (n : Nat)
  | allocate
  | deallocate (id : Fin n)

structure IdHistory (n minId : Nat) where
  manager : AgentServerIdManager n minId
  outstanding : List Nat

namespace IdHistory

variable {n minId : Nat}

def new (n minId : Nat) : IdHistory n minId := ⟨.new n minId, []⟩

def call (s : IdHistory n minId) : IdCall n → IdHistory n minId
  | .allocate => {
      manager := s.manager.allocate.2
      outstanding :=
        if s.manager.allocated = getNullIdentifier then s.outstanding
        else s.manager.allocated :: s.outstanding }
  | .deallocate id => {
      manager := (s.manager.deallocate id).2
      outstanding := s.outstanding.erase id }

def after (n minId : Nat) (calls : List (IdCall n)) : IdHistory n minId :=
  calls.foldl call (new n minId)

/-- The bit string agrees with the history. -/
structure Agrees (s : IdHistory n minId) : Prop where
  nodup : s.outstanding.Nodup
  present_iff : ∀ i, s.manager.present i = true ↔ i ∈ s.outstanding
  bounds : ∀ i ∈ s.outstanding, minId ≤ i ∧ i < n

/-- What the calls do next. `least` and `exhausted` are for `allocate`. -/
structure Serves (s : IdHistory n minId) : Prop extends Agrees s where
  least : ∀ i, minId ≤ i → i < n → i ∉ s.outstanding →
    (∀ j, minId ≤ j → j < i → j ∈ s.outstanding) →
    s.manager.allocated = i ∧ (s.call .allocate).outstanding = i :: s.outstanding
  exhausted : s.manager.allocated = getNullIdentifier ↔
    ∀ i, minId ≤ i → i < n → i ∈ s.outstanding
  unchanged : s.manager.allocated = getNullIdentifier → s.call .allocate = s
  badId : ∀ id : Fin n, (s.manager.deallocate id).1 = true ↔ id.val ∉ s.outstanding
  freed : ∀ (id : Fin n) (j : Nat),
    j ∈ (s.call (.deallocate id)).outstanding ↔ j ≠ id ∧ j ∈ s.outstanding
  counts : s.manager.count + s.manager.freeCount = s.manager.getSize

/-! ## The next call -/

/-- `allocate` by what is outstanding. -/
theorem allocate_cases {s : IdHistory n minId} (h : s.Agrees) (hmin : 1 ≤ minId)
    (hn : minId ≤ n) (hsize : n < 2 ^ 32) :
    (∃ i, minId ≤ i ∧ i < n ∧ i ∉ s.outstanding ∧
      (∀ j, minId ≤ j → j < i → j ∈ s.outstanding) ∧ s.manager.allocated = i ∧
      s.call .allocate = ⟨s.manager.set i, i :: s.outstanding⟩) ∨
    ((∀ i, minId ≤ i → i < n → i ∈ s.outstanding) ∧
      s.manager.allocated = getNullIdentifier ∧ s.call .allocate = s) := by
  obtain ⟨i, h1, h2, hfree, hless, he⟩ | ⟨hall, he⟩ :=
    AgentServerIdManager.allocate_cases (by omega) s.manager
  · left
    have hid : s.manager.allocated = i := by
      rw [AgentServerIdManager.allocated, he, Nat.mod_eq_of_lt (by omega)]
    have hnull : i ≠ getNullIdentifier := by
      unfold getNullIdentifier
      omega
    refine ⟨i, h1, h2, fun hmem => ?_, fun j hj hji => (h.present_iff j).mp (hless j hj hji),
      hid, ?_⟩
    · rw [(h.present_iff i).mpr hmem] at hfree
      cases hfree
    · rw [call, hid, if_neg hnull, he]
  · right
    have hid : s.manager.allocated = getNullIdentifier := by
      rw [AgentServerIdManager.allocated, he]
      rfl
    refine ⟨fun i hi hlt => (h.present_iff i).mp (hall i hi hlt), hid, ?_⟩
    rw [call, hid, if_pos rfl, he]

theorem agrees_new : (new n minId).Agrees where
  nodup := List.nodup_nil
  present_iff i := by simp [new]
  bounds i hi := by cases hi

/-- The step lemma. -/
theorem agrees_call {s : IdHistory n minId} (h : s.Agrees) (hmin : 1 ≤ minId) (hn : minId ≤ n)
    (hsize : n < 2 ^ 32) (c : IdCall n) : (s.call c).Agrees := by
  cases c with
  | allocate =>
    obtain ⟨i, h1, h2, hfree, -, -, he⟩ | ⟨-, -, he⟩ := allocate_cases h hmin hn hsize
    · rw [he]
      refine ⟨List.nodup_cons.mpr ⟨hfree, h.nodup⟩, fun j => ?_, ?_⟩
      · rw [AgentServerIdManager.present_set_of_lt h2, h.present_iff, List.mem_cons, or_comm,
          eq_comm]
      · rw [List.forall_mem_cons]
        exact ⟨⟨h1, h2⟩, h.bounds⟩
    · rw [he]
      exact h
  | deallocate id =>
    refine ⟨h.nodup.erase _, fun j => ?_, fun j hj => h.bounds j (List.mem_of_mem_erase hj)⟩
    rw [call, h.nodup.mem_erase_iff, ← h.present_iff]
    simp only [AgentServerIdManager.deallocate, AgentServerIdManager.present_reset,
      Bool.and_eq_true, Bool.not_eq_true', decide_eq_false_iff_not]
    rw [and_comm, ne_comm]

/-- The run lemma. -/
theorem agrees_after (hmin : 1 ≤ minId) (hn : minId ≤ n) (hsize : n < 2 ^ 32)
    (calls : List (IdCall n)) : (after n minId calls).Agrees :=
  List.foldlRecOn calls call agrees_new fun _ h c _ => agrees_call h hmin hn hsize c

/-! ## Counting -/

theorem count_eq {s : IdHistory n minId} (h : s.Agrees) :
    s.manager.count = s.outstanding.length := by
  rw [AgentServerIdManager.count, List.countP_eq_length_filter]
  apply List.Perm.length_eq
  rw [List.perm_ext_iff_of_nodup (List.nodup_range.filter _) h.nodup]
  intro i
  rw [List.mem_filter, List.mem_range, h.present_iff]
  exact ⟨And.right, fun hi => ⟨(h.bounds i hi).2, hi⟩⟩

theorem length_outstanding_le {s : IdHistory n minId} (h : s.Agrees) :
    s.outstanding.length ≤ n - minId := by
  have hsub : s.outstanding ⊆ List.range' minId (n - minId) := by
    intro i hi
    have hbounds := h.bounds i hi
    rw [List.mem_range'_1]
    omega
  simpa using (List.subperm_of_subset h.nodup hsub).length_le

theorem count_add_freeCount {s : IdHistory n minId} (h : s.Agrees) (hsize : n < 2 ^ 32) :
    s.manager.count + s.manager.freeCount = s.manager.getSize := by
  have hle := length_outstanding_le h
  rw [AgentServerIdManager.freeCount, count_eq h, AgentServerIdManager.getSize]
  omega

/-! ## Every history -/

/-- At any time the manager answers by what is outstanding. -/
theorem serves_after (hmin : 1 ≤ minId) (hn : minId ≤ n) (hsize : n < 2 ^ 32)
    (calls : List (IdCall n)) : (after n minId calls).Serves := by
  have h := agrees_after hmin hn hsize calls
  generalize after n minId calls = s at h
  refine ⟨h, fun i h1 h2 hi hless => ?_, ⟨fun hnull => ?_, fun hall => ?_⟩, fun hnull => ?_,
    fun id => ?_, fun id j => ?_, count_add_freeCount h hsize⟩
  · obtain ⟨i', h1', h2', hi', hless', hid, he⟩ | ⟨hall, -⟩ := allocate_cases h hmin hn hsize
    · have heq : i' = i := by
        by_contra hne
        rcases Nat.lt_or_gt_of_ne hne with hlt | hlt
        · exact hi' (hless i' h1' hlt)
        · exact hi (hless' i h1 hlt)
      rw [he, hid, heq]
      exact ⟨rfl, rfl⟩
    · exact absurd (hall i h1 h2) hi
  · obtain ⟨i, h1, -, -, -, hid, -⟩ | ⟨hall, -⟩ := allocate_cases h hmin hn hsize
    · rw [hid, getNullIdentifier] at hnull
      omega
    · exact hall
  · obtain ⟨i, h1, h2, hi, -⟩ | ⟨-, hid, -⟩ := allocate_cases h hmin hn hsize
    · exact absurd (hall i h1 h2) hi
    · exact hid
  · obtain ⟨i, h1, -, -, -, hid, -⟩ | ⟨-, -, he⟩ := allocate_cases h hmin hn hsize
    · rw [hid, getNullIdentifier] at hnull
      omega
    · exact he
  · rw [← h.present_iff]
    simp [AgentServerIdManager.deallocate]
  · rw [call, h.nodup.mem_erase_iff]

/-- A space of three ids, all given out, and one given back. -/
theorem serves_after_four :
    (after 4 1 [.allocate, .allocate, .allocate, .allocate, .deallocate 2]).outstanding = [3, 1] ∧
      (after 4 1 [.allocate, .allocate, .allocate, .allocate, .deallocate 2]).Serves :=
  ⟨by decide, serves_after (by decide) (by decide) (by decide) _⟩

end IdHistory

end TelemetryAgent
