/-
  Facts about `Std.ExtTreeMap` (the model of `std::map`) that its library does not state:
  up to order, inserting a new key adds one entry to `toList` and erasing a key takes its
  entry out. The sum of the values (`sumValues`), counts and the size follow the map through
  these. What is at a key after an update, and membership, are stated with equality of keys.
  `upperBound` is the step of an iterator: from an entry it gives the next one of `toList`.
-/
import Mathlib.Algebra.GroupWithZero.Nat
import Mathlib.Data.List.Nodup
import Mathlib.Data.List.Perm.Basic
import Std.Data.ExtTreeMap

namespace TelemetryAgent.Lib

open Std

universe u v
variable {α : Type u} {β : Type v} {cmp : α → α → Ordering} [TransCmp cmp] [LawfulEqCmp cmp]

theorem nodup_toList (m : ExtTreeMap α β cmp) : m.toList.Nodup := by
  refine List.Pairwise.imp ?_ m.distinct_keys_toList
  rintro a b hab rfl
  exact hab ReflCmp.compare_self

theorem mem_insert_iff (m : ExtTreeMap α β cmp) {k a : α} {v : β} :
    a ∈ m.insert k v ↔ a = k ∨ a ∈ m := by
  rw [ExtTreeMap.mem_insert, LawfulEqCmp.compare_eq_iff_eq, eq_comm]

theorem mem_erase_iff (m : ExtTreeMap α β cmp) {k a : α} :
    a ∈ m.erase k ↔ a ≠ k ∧ a ∈ m := by
  rw [ExtTreeMap.mem_erase, Ne, LawfulEqCmp.compare_eq_iff_eq, eq_comm]

theorem getElem?_insert_eq [DecidableEq α] (m : ExtTreeMap α β cmp) (k a : α) (v : β) :
    (m.insert k v)[a]? = if k = a then some v else m[a]? := by
  rw [ExtTreeMap.getElem?_insert]
  exact if_congr LawfulEqCmp.compare_eq_iff_eq rfl rfl

theorem getElem?_erase_eq [DecidableEq α] (m : ExtTreeMap α β cmp) (k a : α) :
    (m.erase k)[a]? = if k = a then none else m[a]? := by
  rw [ExtTreeMap.getElem?_erase]
  exact if_congr LawfulEqCmp.compare_eq_iff_eq rfl rfl

theorem getElem?_insert_of_ne (m : ExtTreeMap α β cmp) {k a : α} (h : k ≠ a) (v : β) :
    (m.insert k v)[a]? = m[a]? := by
  rw [ExtTreeMap.getElem?_insert, if_neg fun he => h (LawfulEqCmp.eq_of_compare he)]

theorem getElem?_erase_of_ne (m : ExtTreeMap α β cmp) {k a : α} (h : k ≠ a) :
    (m.erase k)[a]? = m[a]? := by
  rw [ExtTreeMap.getElem?_erase, if_neg fun he => h (LawfulEqCmp.eq_of_compare he)]

theorem insert_erase (m : ExtTreeMap α β cmp) (k : α) (v : β) :
    (m.erase k).insert k v = m.insert k v := by
  refine ExtTreeMap.ext_getElem? fun a => ?_
  rw [ExtTreeMap.getElem?_insert, ExtTreeMap.getElem?_insert, ExtTreeMap.getElem?_erase]
  split
  · rfl
  · rfl

theorem insert_eq_self (m : ExtTreeMap α β cmp) {k : α} {v : β} (hk : m[k]? = some v) :
    m.insert k v = m := by
  refine ExtTreeMap.ext_getElem? fun a => ?_
  by_cases h : k = a
  · rw [← h, ExtTreeMap.getElem?_insert_self, hk]
  · rw [getElem?_insert_of_ne m h]

theorem toList_insert_perm (m : ExtTreeMap α β cmp) {k : α} (v : β) (hk : m[k]? = none) :
    (m.insert k v).toList.Perm ((k, v) :: m.toList) := by
  have hmem : (k, v) ∉ m.toList := by
    rw [ExtTreeMap.mem_toList_iff_getElem?_eq_some, hk]
    exact Option.some_ne_none _ ∘ Eq.symm
  rw [List.perm_ext_iff_of_nodup (nodup_toList _) (List.nodup_cons.mpr ⟨hmem, nodup_toList m⟩)]
  rintro ⟨a, b⟩
  rw [List.mem_cons, ExtTreeMap.mem_toList_iff_getElem?_eq_some,
    ExtTreeMap.mem_toList_iff_getElem?_eq_some, Prod.mk.injEq]
  by_cases h : k = a
  · subst h
    simp [hk, eq_comm]
  · simp [getElem?_insert_of_ne m h, Ne.symm h]

theorem toList_erase_perm (m : ExtTreeMap α β cmp) {k : α} {v : β} (hk : m[k]? = some v) :
    m.toList.Perm ((k, v) :: (m.erase k).toList) := by
  have h := toList_insert_perm (m.erase k) v ExtTreeMap.getElem?_erase_self
  rwa [insert_erase, insert_eq_self m hk] at h

theorem size_insert_of_none (m : ExtTreeMap α β cmp) {k : α} (v : β) (hk : m[k]? = none) :
    (m.insert k v).size = m.size + 1 := by
  rw [← ExtTreeMap.length_toList, ← ExtTreeMap.length_toList,
    (toList_insert_perm m v hk).length_eq, List.length_cons]

theorem size_erase_of_some (m : ExtTreeMap α β cmp) {k : α} {v : β} (hk : m[k]? = some v) :
    m.size = (m.erase k).size + 1 := by
  rw [← ExtTreeMap.length_toList, ← ExtTreeMap.length_toList,
    (toList_erase_perm m hk).length_eq, List.length_cons]

/-! ## Sums -/

/-- The sum of what `f` reads from the values. -/
def sumValues (f : β → Nat) (m : ExtTreeMap α β cmp) : Nat := (m.toList.map fun e => f e.2).sum

omit [LawfulEqCmp cmp] in
@[simp] theorem sumValues_empty (f : β → Nat) : sumValues f (∅ : ExtTreeMap α β cmp) = 0 := by
  have hnil : (∅ : ExtTreeMap α β cmp).toList = [] := by
    rw [← List.length_eq_zero_iff, ExtTreeMap.length_toList, ExtTreeMap.size_empty]
  rw [sumValues, hnil]
  rfl

theorem sumValues_erase (f : β → Nat) (m : ExtTreeMap α β cmp) {k : α} {v : β}
    (hk : m[k]? = some v) : sumValues f m = f v + sumValues f (m.erase k) := by
  rw [sumValues, ((toList_erase_perm m hk).map fun e => f e.2).sum_nat]
  rfl

theorem sumValues_insert_of_none (f : β → Nat) (m : ExtTreeMap α β cmp) {k : α} (v : β)
    (hk : m[k]? = none) : sumValues f (m.insert k v) = f v + sumValues f m := by
  rw [sumValues, ((toList_insert_perm m v hk).map fun e => f e.2).sum_nat]
  rfl

/-- An entry that is created with zero when it is missing grows by `n`, and so does the sum. -/
theorem sumValues_insert_add (f : β → Nat) (m : ExtTreeMap α β cmp) {k : α} {v d : β} {n : Nat}
    (hd : f d = 0) (hv : f v = f (m[k]?.getD d) + n) :
    sumValues f (m.insert k v) = sumValues f m + n := by
  cases hk : m[k]? with
  | none =>
    rw [hk, Option.getD_none, hd] at hv
    rw [sumValues_insert_of_none f m v hk, hv]
    omega
  | some w =>
    rw [hk, Option.getD_some] at hv
    have herase : (m.erase k)[k]? = none := ExtTreeMap.getElem?_erase_self
    rw [← insert_erase, sumValues_insert_of_none f _ v herase, sumValues_erase f m hk, hv]
    omega

theorem le_sumValues (f : β → Nat) (m : ExtTreeMap α β cmp) {k : α} {d : β} (hd : f d = 0) :
    f (m[k]?.getD d) ≤ sumValues f m := by
  cases hk : m[k]? with
  | none =>
    rw [Option.getD_none, hd]
    exact Nat.zero_le _
  | some w =>
    rw [Option.getD_some, sumValues_erase f m hk]
    exact Nat.le_add_right _ _

/-! ## Loops -/

/-- A table that is filled in a loop: a key has the value that its last turn gave it. -/
theorem getElem?_foldl_insert {ι : Type*} {key : ι → α} {value : ι → β} {l : List ι}
    {m : ExtTreeMap α β cmp} {i : ι} {v : β} (hv : ∀ j ∈ l, key j = key i → value j = v)
    (h : i ∈ l ∨ m[key i]? = some v) :
    (l.foldl (fun m j => m.insert (key j) (value j)) m)[key i]? = some v := by
  induction l generalizing m with
  | nil => exact h.resolve_left List.not_mem_nil
  | cons j l ih =>
    rw [List.foldl_cons]
    apply ih fun k hk => hv k (List.mem_cons_of_mem j hk)
    by_cases hj : key j = key i
    · right
      rw [hj, ExtTreeMap.getElem?_insert_self, hv j List.mem_cons_self hj]
    · rw [getElem?_insert_of_ne m hj]
      refine h.imp_left fun hmem => (List.mem_cons.mp hmem).resolve_left ?_
      rintro rfl
      exact hj rfl

/-- The table after the loop: the last turn for a key counts. -/
theorem getElem?_foldl_insert_last [DecidableEq α] {ι : Type*} (key : ι → α) (value : ι → β)
    (l : List ι) (m : ExtTreeMap α β cmp) (k : α) :
    (l.foldl (fun m j => m.insert (key j) (value j)) m)[k]? =
      ((l.reverse.find? fun j => key j = k).map value).or m[k]? := by
  induction l generalizing m with
  | nil => rfl
  | cons j l ih =>
    rw [List.foldl_cons, ih, List.reverse_cons, List.find?_append, Option.map_or, Option.or_assoc]
    congr 1
    by_cases hj : key j = k
    · rw [hj, ExtTreeMap.getElem?_insert_self, List.find?_cons_of_pos (by simpa using hj)]
      rfl
    · rw [getElem?_insert_of_ne m hj, List.find?_cons_of_neg (by simpa using hj)]
      rfl

theorem getElem?_foldl_erase (l : List (α × β)) (m : ExtTreeMap α β cmp) (k : α) :
    (l.foldl (fun m e => m.erase e.1) m)[k]? = none ∨
      (∀ e ∈ l, e.1 ≠ k) ∧ (l.foldl (fun m e => m.erase e.1) m)[k]? = m[k]? := by
  induction l generalizing m with
  | nil => exact .inr ⟨by simp, rfl⟩
  | cons e l ih =>
    rw [List.foldl_cons]
    obtain h | ⟨hl, h⟩ := ih (m.erase e.1)
    · exact .inl h
    · rw [h, ExtTreeMap.getElem?_erase]
      split
      · exact .inl rfl
      · rename_i he
        refine .inr ⟨fun d hd => ?_, rfl⟩
        obtain rfl | hd := List.mem_cons.mp hd
        · rintro rfl
          exact he ReflCmp.compare_self
        · exact hl d hd

/-- All entries erased in turn. -/
theorem foldl_erase_toList (m : ExtTreeMap α β cmp) :
    m.toList.foldl (fun m e => m.erase e.1) m = ∅ := by
  refine ExtTreeMap.ext_getElem? fun k => ?_
  rw [ExtTreeMap.getElem?_empty]
  obtain h | ⟨hl, h⟩ := getElem?_foldl_erase m.toList m k
  · exact h
  · rw [h]
    cases hk : m[k]? with
    | none => rfl
    | some v =>
      have hmem := ExtTreeMap.mem_toList_iff_getElem?_eq_some.mpr hk
      exact absurd rfl (hl _ hmem)

/-! ## Iterators -/

/-- The entries before an entry have other keys, and so have those after it. -/
theorem ne_of_toList_append {m : ExtTreeMap α β cmp} {k : α} {v : β} {pre suf : List (α × β)}
    (h : m.toList = pre ++ (k, v) :: suf) :
    (∀ e ∈ pre, e.1 ≠ k) ∧ ∀ e ∈ suf, e.1 ≠ k := by
  have hs := m.distinct_keys_toList
  rw [h, List.pairwise_append, List.pairwise_cons] at hs
  obtain ⟨-, ⟨hsuf, -⟩, hpre⟩ := hs
  constructor
  · rintro e he rfl
    exact hpre e he _ List.mem_cons_self ReflCmp.compare_self
  · rintro e he rfl
    exact hsuf e he ReflCmp.compare_self

/-- A key has one entry. -/
theorem filter_toList [DecidableEq α] (m : ExtTreeMap α β cmp) (k : α) :
    m.toList.filter (fun e => e.1 = k) = (m[k]?.map fun v => (k, v)).toList := by
  cases hk : m[k]? with
  | none =>
    rw [Option.map_none, Option.toList_none, List.filter_eq_nil_iff]
    rintro ⟨a, v⟩ he ha
    obtain rfl : a = k := of_decide_eq_true ha
    rw [ExtTreeMap.mem_toList_iff_getElem?_eq_some, hk] at he
    exact Option.some_ne_none _ he.symm
  | some v =>
    obtain ⟨pre, suf, h⟩ := List.append_of_mem
      (ExtTreeMap.mem_toList_iff_getElem?_eq_some.mpr hk)
    obtain ⟨hpre, hsuf⟩ := ne_of_toList_append h
    rw [h, List.filter_append, List.filter_cons_of_pos (by simp),
      List.filter_eq_nil_iff.mpr fun e he => by simpa using hpre e he,
      List.filter_eq_nil_iff.mpr fun e he => by simpa using hsuf e he]
    rfl

/-- `upper_bound`: the first entry with a greater key. `begin` is the head of `toList`. -/
def upperBound (m : ExtTreeMap α β cmp) (k : α) : Option (α × β) :=
  m.toList.find? fun e => (cmp e.1 k).isGT

theorem upperBound_of_toList {m : ExtTreeMap α β cmp} {k : α} {v : β} {pre suf : List (α × β)}
    (h : m.toList = pre ++ (k, v) :: suf) : upperBound m k = suf.head? := by
  have hs := m.ordered_keys_toList
  rw [h, List.pairwise_append, List.pairwise_cons] at hs
  obtain ⟨-, ⟨hsuf, -⟩, hpre⟩ := hs
  have hpre' : pre.find? (fun e => (cmp e.1 k).isGT) = none := by
    rw [List.find?_eq_none]
    intro e he
    rw [hpre e he (k, v) List.mem_cons_self]
    simp
  have hself : (cmp k k).isGT = false := by
    have he : cmp k k = .eq := ReflCmp.compare_self
    rw [he]
    rfl
  rw [upperBound, h, List.find?_append, hpre', Option.none_or,
    List.find?_cons_of_neg (by simp [hself])]
  cases suf with
  | nil => rfl
  | cons e suf =>
    have he : (cmp e.1 k).isGT = true := by
      rw [OrientedCmp.gt_of_lt (hsuf e List.mem_cons_self)]
      rfl
    exact List.find?_cons_of_pos he

end TelemetryAgent.Lib
