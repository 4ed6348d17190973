/-
  A text cut at its leftmost occurrences of a search text that do not overlap.

  `Pieces p s ls`: `ls` are the pieces of `s` between the occurrences of `p`. Each occurrence is
  the first one of what is left, and the last piece has none. `pieces` computes them.

  * `Pieces.unique`, `pieces_spec`: there is exactly one such list.
  * `Pieces.intercalate_self`: with `p` between them the pieces are the text again.
  * `Pieces.replaceAll_eq`: with `r` between them they are what `replaceAll` makes of it.
-/
import TelemetryAgent.Lib.Text

namespace TelemetryAgent.Lib

universe u
variable {α : Type u}

inductive Pieces (p : List α) : List α → List (List α) → Prop
  | last {s : List α} (none : ¬ p <:+: s) : Pieces p s [s]
  | occurrence {l s t : List α} {ls : List (List α)} (eq : t = l ++ (p ++ s))
      (first : ∀ k < l.length, ¬ p <+: t.drop k) (rest : Pieces p s ls) : Pieces p t (l :: ls)

namespace Pieces

variable {p s t : List α} {ls ls' : List (List α)}

theorem ne_nil (h : Pieces p s ls) : ls ≠ [] := by
  cases h with
  | last _ => exact List.cons_ne_nil _ _
  | occurrence _ _ _ => exact List.cons_ne_nil _ _

/-- A character at which no occurrence begins belongs to the first piece. -/
theorem cons {c : α} {l : List α} (hc : ¬ p <+: c :: s) (h : Pieces p s (l :: ls)) :
    Pieces p (c :: s) ((c :: l) :: ls) := by
  cases h with
  | last hnone =>
    refine last fun hin => ?_
    obtain hpre | hin := List.infix_cons_iff.mp hin
    · exact hc hpre
    · exact hnone hin
  | occurrence heq hfirst hrest =>
    refine occurrence (by rw [heq, List.cons_append]) (fun k hk => ?_) hrest
    cases k with
    | zero => exact hc
    | succ k => exact hfirst k (Nat.lt_of_succ_lt_succ hk)

theorem intercalate_cons (r l : List α) (h : Pieces p s ls) :
    r.intercalate (l :: ls) = l ++ (r ++ r.intercalate ls) := by
  rw [List.intercalate_cons_of_ne_nil h.ne_nil, List.append_assoc]

theorem intercalate_self (h : Pieces p s ls) : p.intercalate ls = s := by
  induction h with
  | last _ => exact List.intercalate_singleton
  | occurrence heq _ hrest ih => rw [intercalate_cons _ _ hrest, ih, heq]

/-- Of two first occurrences neither is before the other. -/
theorem length_le {l l' s : List α} (heq : t = l ++ (p ++ s))
    (hfirst : ∀ k < l'.length, ¬ p <+: t.drop k) : l'.length ≤ l.length := by
  by_contra hlt
  refine hfirst l.length (Nat.not_le.mp hlt) ?_
  rw [heq, List.drop_left]
  exact List.prefix_append p s

theorem unique (h : Pieces p t ls) (h' : Pieces p t ls') : ls = ls' := by
  induction h generalizing ls' with
  | last hnone =>
    cases h' with
    | last _ => rfl
    | @occurrence l s _ _ heq _ _ => exact absurd ⟨l, s, by rw [heq, List.append_assoc]⟩ hnone
  | @occurrence l s t ls heq hfirst _ ih =>
    cases h' with
    | last hnone => exact absurd ⟨l, s, by rw [heq, List.append_assoc]⟩ hnone
    | @occurrence l' s' _ ls' heq' hfirst' hrest' =>
      have hlen : l.length = l'.length :=
        Nat.le_antisymm (length_le heq' hfirst) (length_le heq hfirst')
      obtain ⟨hl, hps⟩ := List.append_inj (heq.symm.trans heq') hlen
      rw [hl, ih (List.append_cancel_left hps ▸ hrest')]

variable [DecidableEq α]

theorem replaceAll_eq (hp : p ≠ []) (r : List α) (h : Pieces p s ls) :
    replaceAll p r s = r.intercalate ls := by
  induction h with
  | @last s hnone =>
    have hself : replaceAll p r s = s := replaceAll_of_not_infix hnone
    rw [hself, List.intercalate_singleton]
  | occurrence heq hfirst hrest ih =>
    rw [intercalate_cons _ _ hrest, ← ih, heq, replaceAll_skip (by rwa [← heq]),
      replaceAll_occurrence hp]

end Pieces

variable [DecidableEq α]

def pieces (p : List α) : List α → List (List α)
  | [] => [[]]
  | c :: s =>
    if p <+: c :: s then [] :: pieces p (s.drop (p.length - 1))
    else (pieces p s).modifyHead (c :: ·)
termination_by s => s.length

theorem pieces_spec {p : List α} (hp : p ≠ []) (s : List α) : Pieces p s (pieces p s) := by
  fun_induction pieces p s with
  | case1 => exact .last fun hin => hp (List.infix_nil.mp hin)
  | case2 c s hpre ih =>
    obtain ⟨t, ht⟩ := hpre
    obtain ⟨a, p, rfl⟩ := List.exists_cons_of_ne_nil hp
    rw [List.cons_append] at ht
    obtain ⟨-, rfl⟩ := List.cons.inj ht
    rw [List.length_cons, Nat.add_sub_cancel, List.drop_left] at ih ⊢
    exact .occurrence ht.symm (fun k hk => absurd hk (Nat.not_lt_zero k)) ih
  | case3 c s hpre ih =>
    obtain ⟨l, ls, hls⟩ := List.exists_cons_of_ne_nil ih.ne_nil
    rw [hls] at ih ⊢
    exact ih.cons hpre

end TelemetryAgent.Lib
