/-
  `AgentServerIdManager<std::bitset<n>>` (AgentServerIdManager.hpp): the allocator of
  subscription ids and of internal subscription ids.

  The bit string is a `BitVec n`. `allocate` scans the bounds of the space upwards and
  marks the first free id; it answers the null identifier 0 when there is none.
  `std::bitset::reset` and `test` throw for a position outside the string; the callers
  pass ids they got from `allocate`, or 0, and both are inside.

  `allocate_cases` is the one fact about `allocate` that the other modules use. `Exact`
  relates the allocator to whatever its ids name: the marked ids are the names in use, and
  no two things share one. It is kept by naming a new thing with a fresh id, by giving a
  fresh id back, and by unnaming a thing.
-/
import Mathlib.Data.List.Range
import Mathlib.Data.BitVec
import Mathlib.Data.Finset.Card
import Mathlib.Order.Interval.Finset.Nat
import TelemetryAgent.Lib.Naming

namespace TelemetryAgent

open TelemetryAgent.Lib

/-- `SUBSCRIPTION_ID_SPACE_SIZE` -/
abbrev subscriptionIdSpaceSize : Nat := 64

/-- `INTERNAL_SUBSCRIPTION_ID_SPACE_SIZE` -/
abbrev internalSubscriptionIdSpaceSize : Nat := 8196

/-- `INTERNAL_SUBSCRIPTION_ID_SPACE_MIN` -/
abbrev internalSubscriptionIdSpaceMin : Nat := 1000

/-- `n` is the size of the bit string, `minId` the constructor's `min_id`. -/
structure AgentServerIdManager (n minId : Nat) where
  idSpace : BitVec n
  deriving DecidableEq

namespace AgentServerIdManager

variable {n minId : Nat}

/-- The constructor: no id is allocated. -/
def new (n minId : Nat) : AgentServerIdManager n minId := ⟨0⟩

def getNullIdentifier : Nat := 0

def getSize (_ : AgentServerIdManager n minId) : Nat := n - minId

/-- First and last id of the space. -/
def getBounds (_ : AgentServerIdManager n minId) : Nat × Nat := (minId, n - 1)

/-- `_id_space.test(pos)` -/
def present (m : AgentServerIdManager n minId) (pos : Nat) : Bool := m.idSpace.getLsbD pos

/-- `_id_space.set(i)` -/
def set (m : AgentServerIdManager n minId) (i : Nat) : AgentServerIdManager n minId :=
  ⟨m.idSpace ||| BitVec.twoPow n i⟩

/-- `_id_space.reset(i)` -/
def reset (m : AgentServerIdManager n minId) (i : Nat) : AgentServerIdManager n minId :=
  ⟨m.idSpace &&& ~~~BitVec.twoPow n i⟩

/-- The first free id of the space, now marked, or the null identifier. -/
def allocate (m : AgentServerIdManager n minId) : Nat × AgentServerIdManager n minId :=
  let (start, last) := m.getBounds
  match (List.range' start (last + 1 - start)).find? fun i => !m.present i with
  | some i => (i, m.set i)
  | none => (getNullIdentifier, m)

/-- The first component is `*bad_id`: the id was not allocated. -/
def deallocate (m : AgentServerIdManager n minId) (id : Nat) :
    Bool × AgentServerIdManager n minId :=
  (!m.present id, m.reset id)

@[simp] theorem present_new (i : Nat) : (new n minId).present i = false := by
  simp [new, present]

theorem present_lt {m : AgentServerIdManager n minId} {i : Nat} (h : m.present i = true) :
    i < n := BitVec.lt_of_getLsbD h

theorem present_set (m : AgentServerIdManager n minId) (i j : Nat) :
    (m.set i).present j = (m.present j || (decide (i < n) && decide (i = j))) := by
  simp only [set, present, BitVec.getLsbD_or, BitVec.getLsbD_twoPow]

@[simp] theorem present_reset (m : AgentServerIdManager n minId) (i j : Nat) :
    (m.reset i).present j = (m.present j && !decide (i = j)) := by
  simp only [reset, present, BitVec.getLsbD_and, BitVec.getLsbD_not, BitVec.getLsbD_twoPow]
  by_cases hj : j < n
  · by_cases hij : i = j <;> simp [hj, hij]
  · simp [BitVec.getLsbD_of_ge _ _ (Nat.le_of_not_lt hj)]

theorem present_set_of_lt {m : AgentServerIdManager n minId} {i : Nat} (h : i < n) (j : Nat) :
    (m.set i).present j = true ↔ m.present j = true ∨ i = j := by
  simp [present_set, h]

/-- `allocate` marks the least free id of the space, or finds every id taken and
    changes nothing. -/
theorem allocate_cases (hn : 0 < n) (m : AgentServerIdManager n minId) :
    (∃ i, minId ≤ i ∧ i < n ∧ m.present i = false ∧
      (∀ j, minId ≤ j → j < i → m.present j = true) ∧ m.allocate = (i, m.set i)) ∨
    ((∀ i, minId ≤ i → i < n → m.present i = true) ∧
      m.allocate = (getNullIdentifier, m)) := by
  have hlen : n - 1 + 1 - minId = n - minId := by omega
  unfold allocate getBounds
  simp only [hlen]
  cases hf : (List.range' minId (n - minId)).find? fun i => !m.present i with
  | some i =>
    left
    rw [List.find?_range'_eq_some] at hf
    obtain ⟨hp, hi, hlt⟩ := hf
    rw [List.mem_range'_1] at hi
    refine ⟨i, hi.1, by omega, by simpa using hp, fun j hj hji => ?_, rfl⟩
    simpa using hlt j hj hji
  | none =>
    right
    rw [List.find?_range'_eq_none] at hf
    refine ⟨fun i h1 h2 => ?_, rfl⟩
    simpa using hf i h1 (by omega)

/-- Some id of the space is free. -/
def HasFree (m : AgentServerIdManager n minId) : Prop :=
  ∃ i, m.getBounds.1 ≤ i ∧ i ≤ m.getBounds.2 ∧ m.present i = false

theorem allocate_of_hasFree (hn : 0 < n) {m : AgentServerIdManager n minId} (h : m.HasFree) :
    ∃ i, minId ≤ i ∧ i < n ∧ m.present i = false ∧ m.allocate = (i, m.set i) := by
  obtain ⟨i, h1, h2, hp, _, he⟩ | ⟨hall, _⟩ := allocate_cases hn m
  · exact ⟨i, h1, h2, hp, he⟩
  · obtain ⟨i, h1, h2, hp⟩ := h
    simp only [getBounds] at h1 h2
    rw [hall i h1 (by omega)] at hp
    exact absurd hp (by simp)

theorem allocate_of_not_hasFree (hn : 0 < n) {m : AgentServerIdManager n minId}
    (h : ¬ m.HasFree) : m.allocate = (getNullIdentifier, m) := by
  obtain ⟨i, h1, h2, hp, _⟩ | ⟨_, he⟩ := allocate_cases hn m
  · exact absurd ⟨i, h1, by simp only [getBounds]; omega, hp⟩ h
  · exact he

/-! ## What the ids name -/

/-- The marked ids are the ids in use by `name`, one for each thing named. -/
structure Exact {κ : Type} (m : AgentServerIdManager n minId) (name : κ → Option Nat) : Prop where
  distinct : Distinct name
  min_le : ∀ {k i}, name k = some i → minId ≤ i
  present_iff : ∀ i, m.present i = true ↔ ∃ k, name k = some i

variable {κ : Type} {m : AgentServerIdManager n minId} {name : κ → Option Nat}

theorem Exact.lt (h : m.Exact name) {k : κ} {i : Nat} (hk : name k = some i) : i < n :=
  present_lt ((h.present_iff i).mpr ⟨k, hk⟩)

/-- The space bounds how many different things the ids name. -/
theorem Exact.card_le (h : m.Exact name) (k : Nat) (f : Nat → κ)
    (hf : ∀ i j, i < k → j < k → f i = f j → i = j) (hs : ∀ i < k, name (f i) ≠ none) :
    k ≤ n - minId := by
  have hle : (Finset.range k).card ≤ (Finset.Ico minId n).card := by
    apply Finset.card_le_card_of_injOn (fun i => (name (f i)).getD 0)
    · intro i hi
      obtain ⟨a, ha⟩ := Option.ne_none_iff_exists'.mp (hs i (Finset.mem_range.mp hi))
      simp only [ha, Option.getD_some, Finset.coe_Ico, Set.mem_Ico]
      exact ⟨h.min_le ha, h.lt ha⟩
    · intro i hi j hj hij
      rw [Finset.mem_coe, Finset.mem_range] at hi hj
      obtain ⟨a, ha⟩ := Option.ne_none_iff_exists'.mp (hs i hi)
      obtain ⟨b, hb⟩ := Option.ne_none_iff_exists'.mp (hs j hj)
      simp only [ha, hb, Option.getD_some] at hij
      subst hij
      exact hf i j hi hj (h.distinct ha hb)
  rwa [Finset.card_range, Nat.card_Ico] at hle

theorem exact_new : (new n minId).Exact fun _ : κ => none where
  distinct _ _ _ h := absurd h (by simp)
  min_le h := absurd h (by simp)
  present_iff i := by simp

theorem Exact.congr (h : m.Exact name) {m' : AgentServerIdManager n minId}
    (hm : ∀ i, m'.present i = m.present i) : m'.Exact name where
  distinct := h.distinct
  min_le := h.min_le
  present_iff i := by rw [hm]; exact h.present_iff i

variable [DecidableEq κ]

theorem Exact.set (h : m.Exact name) {k : κ} {i : Nat} (hk : name k = none) (h1 : minId ≤ i)
    (h2 : i < n) (hp : m.present i = false) :
    (m.set i).Exact (Function.update name k (some i)) := by
  refine ⟨h.distinct.update_some ?_, fun {a j} ha => ?_, fun j => ?_⟩
  · intro k' he
    rw [(h.present_iff i).mpr ⟨k', he⟩] at hp
    exact absurd hp (by simp)
  · obtain ⟨_, rfl⟩ | ⟨_, ha⟩ := update_some_eq_some.mp ha
    · exact h1
    · exact h.min_le ha
  · rw [present_set_of_lt h2, h.present_iff, exists_update_some hk, or_comm]

theorem Exact.deallocate (h : m.Exact name) {k : κ} {i : Nat} (hk : name k = some i) :
    (m.deallocate i).2.Exact (Function.update name k none) := by
  refine ⟨h.distinct.update_none, fun {a j} ha => ?_, fun j => ?_⟩
  · exact h.min_le (update_none_eq_some.mp ha).2
  · rw [h.distinct.exists_update_none hk, ← h.present_iff]
    simp only [AgentServerIdManager.deallocate, present_reset, Bool.and_eq_true,
      Bool.not_eq_true', decide_eq_false_iff_not]
    exact and_comm

/-- An id allocated and given back leaves the marked ids as they were. The null identifier
    is not in the space, so giving it back frees nothing. -/
theorem present_allocate_deallocate (hn : 0 < n) (h0 : m.present getNullIdentifier = false)
    (i : Nat) : (m.allocate.2.deallocate m.allocate.1).2.present i = m.present i := by
  obtain ⟨j, _, hj, hp, _, he⟩ | ⟨_, he⟩ := allocate_cases hn m
  · rw [he]
    simp only [AgentServerIdManager.deallocate, present_reset, present_set, hj, decide_true,
      Bool.true_and]
    by_cases hij : j = i
    · subst hij; simp [hp]
    · simp [hij]
  · rw [he]
    simp only [AgentServerIdManager.deallocate, present_reset]
    by_cases hi : getNullIdentifier = i
    · rw [← hi, h0]; rfl
    · simp [hi]

end AgentServerIdManager

end TelemetryAgent
