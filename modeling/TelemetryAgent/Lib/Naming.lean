/-
  Partial maps that name each thing at most once.

  `Distinct name`: no two keys have the same value. It is kept by giving a key a value no
  key has (`Distinct.update_some`) and by taking a key's value away
  (`Distinct.update_none`). `exists_update_some` and `exists_update_none` say which values
  occur afterwards.

  `Inverse t name` and, for a table, `Tracks t name`: `t` gives back the key of each value.
  They are kept by naming a key with a new value and by taking a key's value away, in both.
-/
import Mathlib.Logic.Function.Basic
import TelemetryAgent.Lib.OrderedMap

namespace TelemetryAgent.Lib

open Std

universe u v w
variable {κ : Type u} {β : Type v}

def Distinct (name : κ → Option β) : Prop :=
  ∀ ⦃k k' b⦄, name k = some b → name k' = some b → k = k'

theorem distinct_none : Distinct fun _ : κ => (none : Option β) := by
  intro k k' b h
  exact absurd h (Option.some_ne_none b).symm

/-- `t` gives back the key of each value. -/
def Inverse (t : β → Option κ) (name : κ → Option β) : Prop :=
  ∀ b k, t b = some k ↔ name k = some b

/-- The table `t` is the inverse of `name`. -/
def Tracks {cmp : β → β → Ordering} [TransCmp cmp] (t : ExtTreeMap β κ cmp)
    (name : κ → Option β) : Prop := Inverse (fun b => t[b]?) name

section Inverse

variable {t : β → Option κ} {name : κ → Option β}

theorem Inverse.distinct (h : Inverse t name) : Distinct name := by
  intro k k' b hk hk'
  rw [← h] at hk hk'
  exact Option.some.inj (hk.symm.trans hk')

theorem Inverse.eq_none (h : Inverse t name) {b : β} (hb : ∀ k, name k ≠ some b) :
    t b = none := by
  cases hk : t b with
  | none => rfl
  | some k => exact absurd ((h b k).mp hk) (hb k)

theorem inverse_none : Inverse (fun _ : β => (none : Option κ)) fun _ => none := by
  intro b k
  simp

end Inverse

section Table

variable {cmp : β → β → Ordering} [TransCmp cmp] {t : ExtTreeMap β κ cmp} {name : κ → Option β}

theorem Tracks.mem_iff (h : Tracks t name) (b : β) : b ∈ t ↔ ∃ k, name k = some b := by
  rw [ExtTreeMap.mem_iff_isSome_getElem?, Option.isSome_iff_exists]
  exact exists_congr fun k => h b k

theorem tracks_empty : Tracks (∅ : ExtTreeMap β κ cmp) fun _ => none := by
  intro b k
  simp

/-- Where nothing is named the table is empty. -/
theorem Tracks.eq_empty [LawfulEqCmp cmp] (h : Tracks t name) (hn : ∀ k, name k = none) :
    t = ∅ := by
  apply ExtTreeMap.ext_getElem?
  intro b
  rw [ExtTreeMap.getElem?_empty]
  refine Inverse.eq_none h fun k hk => ?_
  rw [hn k] at hk
  exact absurd hk (Option.some_ne_none b).symm

end Table

/-! ## Updates -/

variable [DecidableEq κ] {name : κ → Option β} {k : κ} {b : β}

theorem update_none_eq_some {k' : κ} {b' : β} :
    Function.update name k none k' = some b' ↔ k' ≠ k ∧ name k' = some b' := by
  by_cases h : k' = k
  · rw [h, Function.update_self]
    simp
  · rw [Function.update_of_ne h]
    simp [h]

theorem update_some_eq_some {k' : κ} {b' : β} :
    Function.update name k (some b) k' = some b' ↔
      (k' = k ∧ b = b') ∨ (k' ≠ k ∧ name k' = some b') := by
  by_cases h : k' = k
  · rw [h, Function.update_self]
    simp
  · rw [Function.update_of_ne h]
    simp [h]

theorem Distinct.update_none (h : Distinct name) : Distinct (Function.update name k none) := by
  intro a a' x ha ha'
  exact h (update_none_eq_some.mp ha).2 (update_none_eq_some.mp ha').2

theorem Distinct.update_some (h : Distinct name) (hb : ∀ k', name k' ≠ some b) :
    Distinct (Function.update name k (some b)) := by
  intro a a' x ha ha'
  obtain ⟨rfl, rfl⟩ | ⟨_, ha⟩ := update_some_eq_some.mp ha
  · obtain ⟨rfl, _⟩ | ⟨_, ha'⟩ := update_some_eq_some.mp ha'
    · rfl
    · exact absurd ha' (hb a')
  · obtain ⟨_, rfl⟩ | ⟨_, ha'⟩ := update_some_eq_some.mp ha'
    · exact absurd ha (hb a)
    · exact h ha ha'

/-- Naming a key that had no name adds one value. -/
theorem exists_update_some (hk : name k = none) {b' : β} :
    (∃ k', Function.update name k (some b) k' = some b') ↔ b = b' ∨ ∃ k', name k' = some b' := by
  constructor
  · intro hexists
    obtain ⟨k', h⟩ := hexists
    obtain ⟨_, hb⟩ | ⟨_, h⟩ := update_some_eq_some.mp h
    · exact Or.inl hb
    · exact Or.inr ⟨k', h⟩
  · intro h
    obtain rfl | ⟨k', h⟩ := h
    · exact ⟨k, Function.update_self _ _ _⟩
    · refine ⟨k', update_some_eq_some.mpr (Or.inr ⟨?_, h⟩)⟩
      intro hkk
      rw [hkk, hk] at h
      exact absurd h (by simp)

/-- Taking a key's name away takes its value away, when the values are distinct. -/
theorem Distinct.exists_update_none (h : Distinct name) (hk : name k = some b) {b' : β} :
    (∃ k', Function.update name k none k' = some b') ↔ b ≠ b' ∧ ∃ k', name k' = some b' := by
  constructor
  · intro hexists
    obtain ⟨k', hk'⟩ := hexists
    obtain ⟨hne, hk'⟩ := update_none_eq_some.mp hk'
    refine ⟨fun hb => hne (h hk' (hb ▸ hk)), k', hk'⟩
  · intro hboth
    obtain ⟨hb, k', hk'⟩ := hboth
    refine ⟨k', update_none_eq_some.mpr ⟨fun hkk => hb ?_, hk'⟩⟩
    rw [hkk, hk] at hk'
    exact Option.some.inj hk'

/-! ## Functions of an updated family -/

section Family

variable {ρ : Type w} (g : κ → ρ) (k : κ) (r : ρ)

theorem comp_update (f : ρ → β) :
    (fun x => f (Function.update g k r x)) = Function.update (fun x => f (g x)) k (f r) :=
  Function.comp_update f g k r

end Family

/-! ## Updates of a map and its inverse -/

section

variable [DecidableEq β] {t : β → Option κ}

theorem Inverse.set (h : Inverse t name) (hk : name k = none) (hb : ∀ k', name k' ≠ some b) :
    Inverse (Function.update t b (some k)) (Function.update name k (some b)) := by
  intro b' k'
  rw [update_some_eq_some, update_some_eq_some, ← h]
  constructor
  · intro ht
    obtain ⟨rfl, rfl⟩ | ⟨hne, ht⟩ := ht
    · exact Or.inl ⟨rfl, rfl⟩
    · refine Or.inr ⟨fun hkk => ?_, ht⟩
      rw [h, hkk, hk] at ht
      exact absurd ht (by simp)
  · intro ht
    obtain ⟨rfl, rfl⟩ | ⟨hne, ht⟩ := ht
    · exact Or.inl ⟨rfl, rfl⟩
    · refine Or.inr ⟨fun hbb => ?_, ht⟩
      rw [h, hbb] at ht
      exact absurd ht (hb k')

theorem Inverse.clear (h : Inverse t name) (hk : name k = some b) :
    Inverse (Function.update t b none) (Function.update name k none) := by
  intro b' k'
  rw [update_none_eq_some, update_none_eq_some, ← h]
  have hkb : t b = some k := (h b k).mpr hk
  constructor
  · intro hboth
    obtain ⟨hne, ht⟩ := hboth
    refine ⟨fun hkk => hne ?_, ht⟩
    rw [h, hkk, hk] at ht
    exact (Option.some.inj ht).symm
  · intro hboth
    obtain ⟨hne, ht⟩ := hboth
    refine ⟨fun hbb => hne ?_, ht⟩
    rw [hbb, hkb] at ht
    exact (Option.some.inj ht).symm

end

section Table

variable {cmp : β → β → Ordering} [TransCmp cmp] [LawfulEqCmp cmp] [DecidableEq β]
  {t : ExtTreeMap β κ cmp}

omit [DecidableEq κ] in
theorem getElem?_insert_eq_update (t : ExtTreeMap β κ cmp) (b : β) (k : κ) :
    (fun b' => (t.insert b k)[b']?) = Function.update (fun b' => t[b']?) b (some k) := by
  funext b'
  by_cases hb : b' = b
  · rw [hb, Function.update_self, ExtTreeMap.getElem?_insert_self]
  · rw [Function.update_of_ne hb, getElem?_insert_of_ne t (Ne.symm hb)]

omit [DecidableEq κ] in
theorem getElem?_erase_eq_update (t : ExtTreeMap β κ cmp) (b : β) :
    (fun b' => (t.erase b)[b']?) = Function.update (fun b' => t[b']?) b none := by
  funext b'
  by_cases hb : b' = b
  · rw [hb, Function.update_self, ExtTreeMap.getElem?_erase_self]
  · rw [Function.update_of_ne hb, getElem?_erase_of_ne t (Ne.symm hb)]

theorem Tracks.insert (h : Tracks t name) (hk : name k = none) (hb : ∀ k', name k' ≠ some b) :
    Tracks (t.insert b k) (Function.update name k (some b)) := by
  unfold Tracks
  rw [getElem?_insert_eq_update]
  exact Inverse.set h hk hb

theorem Tracks.erase (h : Tracks t name) (hk : name k = some b) :
    Tracks (t.erase b) (Function.update name k none) := by
  unfold Tracks
  rw [getElem?_erase_eq_update]
  exact Inverse.clear h hk

end Table

end TelemetryAgent.Lib
