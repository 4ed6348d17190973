/-
  Texts put together with delimiters: when two that are written in the same way are equal.

  A part that may hold any text is not held apart by the delimiter after it
  (`append_delimiter_eq_iff`). A part without the separator is (`append_separator_inj`), from the
  end of the text. `nodup_flatMap_labels` is for lists that write each element with several labels,
  `flatMap_eq_flatMap_iff` for lists that leave something out.
-/
import Mathlib.Data.List.Flatten
import Mathlib.Data.List.Nodup
import Mathlib.Data.List.Perm.Subperm

namespace TelemetryAgent.Lib

variable {α : Type*}

/-! ## A delimiter between two parts -/

/-- The delimiter after `a` reads on into `b` as the delimiter after `a'`: `a'` continues `a`. -/
def Shifts (d a b a' b' : List α) : Prop :=
  ∃ w, w ≠ [] ∧ a' = a ++ w ∧ d ++ b = w ++ (d ++ b')

theorem append_delimiter_eq_iff (d a b a' b' : List α) :
    a ++ (d ++ b) = a' ++ (d ++ b') ↔
      (a = a' ∧ b = b') ∨ Shifts d a b a' b' ∨ Shifts d a' b' a b := by
  constructor
  · intro h
    obtain ⟨w, rfl, hw⟩ | ⟨w, rfl, hw⟩ := List.append_eq_append_iff.mp h
    · by_cases hnil : w = []
      · subst hnil
        rw [List.nil_append] at hw
        exact .inl ⟨(List.append_nil a).symm, List.append_cancel_left hw⟩
      · exact .inr (.inl ⟨w, hnil, rfl, hw⟩)
    · by_cases hnil : w = []
      · subst hnil
        rw [List.nil_append] at hw
        exact .inl ⟨List.append_nil a', (List.append_cancel_left hw).symm⟩
      · exact .inr (.inr ⟨w, hnil, rfl, hw⟩)
  · rintro (⟨rfl, rfl⟩ | ⟨w, -, rfl, h⟩ | ⟨w, -, rfl, h⟩)
    · rfl
    · rw [h, List.append_assoc]
    · rw [h, List.append_assoc]

/-! ## A separator before the last part -/

theorem append_separator_inj {c : α} {x y u v : List α} (hu : c ∉ u) (hv : c ∉ v) :
    x ++ c :: u = y ++ c :: v ↔ x = y ∧ u = v := by
  constructor
  · intro h
    obtain ⟨w, hy, hw⟩ | ⟨w, hx, hw⟩ := List.append_eq_append_iff.mp h
    · cases w with
      | nil => exact ⟨by rw [hy, List.append_nil], (List.cons.inj hw).2⟩
      | cons a w =>
        rw [List.cons_append, List.cons.injEq] at hw
        exact absurd (hw.2 ▸ List.mem_append_right w List.mem_cons_self) hu
    · cases w with
      | nil => exact ⟨by rw [hx, List.append_nil], (List.cons.inj hw).2.symm⟩
      | cons a w =>
        rw [List.cons_append, List.cons.injEq] at hw
        exact absurd (hw.2 ▸ List.mem_append_right w List.mem_cons_self) hv
  · rintro ⟨rfl, rfl⟩
    rfl

/-! ## Lists of labelled elements -/

theorem nodup_map_iff_of_injOn {β : Type*} {f : α → β} {l : List α}
    (hf : ∀ x ∈ l, ∀ y ∈ l, f x = f y → x = y) : (l.map f).Nodup ↔ l.Nodup :=
  ⟨List.Nodup.of_map f, List.Nodup.map_on hf⟩

/-- Elements that are passed over write nothing. -/
theorem flatMap_ite_nil {ι : Type*} (p : ι → Prop) [DecidablePred p] (f : ι → List α)
    (l : List ι) :
    (l.flatMap fun x => if p x then [] else f x) = (l.filter fun x => ¬ p x).flatMap f := by
  induction l with
  | nil => rfl
  | cons x l ih =>
    rw [List.flatMap_cons, ih]
    by_cases hx : p x
    · rw [if_pos hx, List.filter_cons_of_neg (by simpa using hx), List.nil_append]
    · rw [if_neg hx, List.filter_cons_of_pos (by simpa using hx), List.flatMap_cons]

/-- What is written of each element is in its place, so nothing is left out of the whole exactly
    if nothing is left out of any element. -/
theorem flatMap_eq_flatMap_iff {ι : Type*} {f g : ι → List α} {l : List ι}
    (h : ∀ x ∈ l, (f x).Sublist (g x)) : l.flatMap f = l.flatMap g ↔ ∀ x ∈ l, f x = g x := by
  constructor
  · intro heq
    induction l with
    | nil => simp
    | cons x l ih =>
      have htail : ∀ y ∈ l, (f y).Sublist (g y) := fun y hy => h y (List.mem_cons_of_mem x hy)
      have hx := h x List.mem_cons_self
      have hl : (l.flatMap f).Sublist (l.flatMap g) := List.Sublist.flatMap_right l htail
      rw [List.flatMap_cons, List.flatMap_cons] at heq
      have hlength := congrArg List.length heq
      rw [List.length_append, List.length_append] at hlength
      have hxle := hx.length_le
      have hlle := hl.length_le
      have hfx : f x = g x := hx.eq_of_length (by omega)
      have hfl : l.flatMap f = l.flatMap g := hl.eq_of_length (by omega)
      exact List.forall_mem_cons.mpr ⟨hfx, ih htail hfl⟩
  · intro heq
    exact List.flatMap_congr heq

/-- A part of a list has all elements of the list, as often as they are in it, only if it is the
    whole list. -/
theorem subperm_iff_eq_of_sublist {l l' : List α} (h : l.Sublist l') : l'.Subperm l ↔ l = l' := by
  constructor
  · intro hsub
    exact h.eq_of_length_le hsub.length_le
  · rintro rfl
    exact List.Subperm.refl l

theorem nodup_flatMap_labels {ι γ : Type*} {f : ι → α} {labels : List γ} (hne : labels ≠ [])
    (hl : labels.Nodup) (l : List ι) :
    (l.flatMap fun x => labels.map fun g => (f x, g)).Nodup ↔ (l.map f).Nodup := by
  have hmap : (l.map f).Nodup ↔ l.Pairwise fun x y => f x ≠ f y := List.pairwise_map
  rw [List.nodup_flatMap, hmap, and_iff_right]
  · refine List.Pairwise.iff fun x y => ?_
    show (labels.map fun g => (f x, g)).Disjoint (labels.map fun g => (f y, g)) ↔ f x ≠ f y
    rw [List.disjoint_left]
    constructor
    · intro h he
      obtain ⟨g, labels, rfl⟩ := List.exists_cons_of_ne_nil hne
      apply h (a := (f x, g)) List.mem_cons_self
      rw [he]
      exact List.mem_cons_self
    · intro h p hx hy
      obtain ⟨g, -, rfl⟩ := List.mem_map.mp hx
      obtain ⟨g', -, he⟩ := List.mem_map.mp hy
      exact h (congrArg Prod.fst he).symm
  · intro x _
    exact hl.map fun g g' he => congrArg Prod.snd he

end TelemetryAgent.Lib
