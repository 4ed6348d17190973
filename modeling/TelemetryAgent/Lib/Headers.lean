/-
  Flat lists with headers: the groups of a list of elements written out one after the other,
  each a header and its leaves. A reader of the flat list (`readFlat`) takes the last header
  that it has seen to be of the leaf that it reads.

  `attributed_flat_iff`: it is right about every leaf if and only if no leaf that looks like
  a header stands before one that does not, in the same group. `readFlat_flat`: what it reads
  then. `groups_flat`: cutting the list at the headers gives back the groups.
-/
import Mathlib.Data.List.Induction

namespace TelemetryAgent.Lib

variable {ε κ : Type}

section Headers

variable (header : ε → κ) (leaves : ε → List κ)

/-- The groups, one after the other. -/
def flat (elements : List ε) : List κ := elements.flatMap fun x => header x :: leaves x

@[simp] theorem flat_nil : flat header leaves [] = [] := rfl

@[simp] theorem flat_cons (x : ε) (xs : List ε) :
    flat header leaves (x :: xs) = header x :: (leaves x ++ flat header leaves xs) := rfl

@[simp] theorem flat_append (xs ys : List ε) :
    flat header leaves (xs ++ ys) = flat header leaves xs ++ flat header leaves ys :=
  List.flatMap_append

theorem flat_map {δ : Type} (f : δ → ε) (xs : List δ) :
    flat header leaves (xs.map f) = flat (header ∘ f) (leaves ∘ f) xs :=
  List.flatMap_map f _ xs

variable (isHeader : κ → Bool) (elements : List ε)

/-- Every entry of the list that is not a header is a leaf of an element, and the header of
    that element is the last one before it. -/
def Attributed (l : List κ) : Prop :=
  ∀ pre e post, l = pre ++ e :: post → isHeader e = false →
    ∃ xs x ys mid rest, elements = xs ++ x :: ys ∧ leaves x = mid ++ e :: rest ∧
      pre = flat header leaves xs ++ header x :: mid ∧ ∀ k ∈ mid, isHeader k = false

/-- No header stands before an entry that is not one. -/
def HeadersLast (l : List κ) : Prop :=
  l.Pairwise fun k e => isHeader k = true → isHeader e = true

variable {header leaves isHeader elements}

theorem headersLast_of_forall {l : List κ} (h : ∀ k ∈ l, isHeader k = false) :
    HeadersLast isHeader l := by
  refine List.pairwise_of_forall_mem_list fun k hk e _ hkt => ?_
  rw [h k hk] at hkt
  exact absurd hkt (by simp)

theorem HeadersLast.eq_false {pre post : List κ} {e k : κ}
    (h : HeadersLast isHeader (pre ++ e :: post)) (he : isHeader e = false) (hk : k ∈ pre) :
    isHeader k = false := by
  have hke := (List.pairwise_append.mp h).2.2 k hk e List.mem_cons_self
  rw [he] at hke
  simpa using hke

theorem headersLast_of_split {l : List κ}
    (h : ∀ pre e post, l = pre ++ e :: post → isHeader e = false →
      ∀ k ∈ pre, isHeader k = false) : HeadersLast isHeader l := by
  induction l with
  | nil => exact List.Pairwise.nil
  | cons k l ih =>
    refine List.pairwise_cons.mpr ⟨fun e he hk => ?_, ih fun pre e post hl he d hd => ?_⟩
    · obtain ⟨pre, post, rfl⟩ := List.append_of_mem he
      by_contra hcon
      rw [Bool.not_eq_true] at hcon
      rw [h (k :: pre) e post rfl hcon k List.mem_cons_self] at hk
      exact absurd hk (by simp)
    · exact h (k :: pre) e post (by rw [hl]; rfl) he d (List.mem_cons_of_mem k hd)

/-- Where an entry of the flat list is in the groups. -/
theorem flat_eq_append_cons (hh : ∀ x, isHeader (header x) = true) {pre post : List κ} {e : κ}
    (h : flat header leaves elements = pre ++ e :: post) (he : isHeader e = false) :
    ∃ xs x ys mid rest, elements = xs ++ x :: ys ∧ leaves x = mid ++ e :: rest ∧
      pre = flat header leaves xs ++ header x :: mid := by
  induction elements generalizing pre with
  | nil => exact absurd h (by simp)
  | cons x elements ih =>
    rw [flat_cons] at h
    cases pre with
    | nil =>
      rw [List.nil_append, List.cons.injEq] at h
      rw [← h.1, hh] at he
      exact absurd he (by simp)
    | cons k pre =>
      rw [List.cons_append, List.cons.injEq] at h
      obtain ⟨rfl, h⟩ := h
      obtain ⟨a, rfl, ha⟩ | ⟨b, hb, hpost⟩ := List.append_eq_append_iff.mp h
      · obtain ⟨xs, y, ys, mid, rest, hxs, hy, rfl⟩ := ih ha
        exact ⟨x :: xs, y, ys, mid, rest, by rw [hxs]; rfl, hy, by simp⟩
      · cases b with
        | nil =>
          rw [List.append_nil] at hb
          have hrest : flat header leaves elements = [] ++ e :: post := hpost.symm
          obtain ⟨xs, y, ys, mid, rest, -, -, hpre⟩ := ih hrest
          exact absurd hpre (by simp)
        | cons d b =>
          rw [List.cons_append, List.cons.injEq] at hpost
          obtain ⟨rfl, rfl⟩ := hpost
          exact ⟨[], x, elements, pre, b, rfl, hb, rfl⟩

theorem attributed_flat (hh : ∀ x, isHeader (header x) = true)
    (hl : ∀ x ∈ elements, HeadersLast isHeader (leaves x)) :
    Attributed header leaves isHeader elements (flat header leaves elements) := by
  intro pre e post h he
  obtain ⟨xs, x, ys, mid, rest, hxs, hx, hpre⟩ := flat_eq_append_cons hh h he
  have hmem : x ∈ elements := by
    rw [hxs]
    exact List.mem_append_right _ List.mem_cons_self
  have hlast := hl x hmem
  rw [hx] at hlast
  exact ⟨xs, x, ys, mid, rest, hxs, hx, hpre, fun k hk => hlast.eq_false he hk⟩

/-- The last header of a list is where one looks from its end. -/
theorem eq_of_last_header {pre pre' post post' : List κ} {k k' : κ}
    (h : pre ++ k :: post = pre' ++ k' :: post') (hk : isHeader k = true)
    (hk' : isHeader k' = true) (hpost : ∀ d ∈ post, isHeader d = false)
    (hpost' : ∀ d ∈ post', isHeader d = false) : k = k' := by
  have hlast : ∀ (pre post : List κ) (k : κ), isHeader k = true →
      (∀ d ∈ post, isHeader d = false) →
      (pre ++ k :: post).reverse.find? isHeader = some k := by
    intro pre post k hk hpost
    have hnone : post.reverse.find? isHeader = none := by
      rw [List.find?_eq_none]
      intro d hd
      rw [hpost d (List.mem_reverse.mp hd)]
      simp
    rw [List.reverse_append, List.reverse_cons, List.append_assoc, List.find?_append, hnone,
      Option.none_or, List.singleton_append, List.find?_cons_of_pos hk]
  have := hlast pre post k hk hpost
  rw [h, hlast pre' post' k' hk' hpost'] at this
  exact (Option.some.inj this).symm

theorem exists_last_header {l : List κ} {k : κ} (hk : k ∈ l) (h : isHeader k = true) :
    ∃ pre d post, l = pre ++ d :: post ∧ isHeader d = true ∧ ∀ d' ∈ post, isHeader d' = false := by
  induction l using List.reverseRecOn with
  | nil => exact absurd hk (by simp)
  | append_singleton l d ih =>
    cases hd : isHeader d with
    | true => exact ⟨l, d, [], rfl, hd, by simp⟩
    | false =>
      have hkl : k ∈ l := by
        obtain hkl | hkd := List.mem_append.mp hk
        · exact hkl
        · rw [List.mem_singleton.mp hkd, hd] at h
          exact absurd h (by simp)
      obtain ⟨pre, d', post, rfl, hd', hpost⟩ := ih hkl
      refine ⟨pre, d', post ++ [d], by simp, hd', fun x hx => ?_⟩
      obtain hx | hx := List.mem_append.mp hx
      · exact hpost x hx
      · rw [List.mem_singleton.mp hx]
        exact hd

/-- Where leaves and headers differ, the reader is right about every leaf exactly if the
    leaves that look like headers come last in their groups. -/
theorem attributed_flat_iff (hh : ∀ x, isHeader (header x) = true)
    (hne : ∀ x ∈ elements, ∀ y, header y ∉ leaves x) :
    Attributed header leaves isHeader elements (flat header leaves elements) ↔
      ∀ x ∈ elements, HeadersLast isHeader (leaves x) := by
  refine ⟨fun h x hx => headersLast_of_split fun a e b hleaves he k hk => ?_,
    attributed_flat hh⟩
  by_contra hcon
  rw [Bool.not_eq_false] at hcon
  obtain ⟨a₁, d, a₂, rfl, hd, hlast⟩ := exists_last_header hk hcon
  obtain ⟨xs, ys, rfl⟩ := List.append_of_mem hx
  have hflat : flat header leaves (xs ++ x :: ys) =
      ((flat header leaves xs ++ header x :: a₁) ++ d :: a₂) ++ e ::
        (b ++ flat header leaves ys) := by
    simp [hleaves]
  obtain ⟨xs', x', ys', mid, rest, -, -, hpre, hmid⟩ := h _ e _ hflat he
  have hdx := eq_of_last_header hpre hd (hh x') hlast hmid
  apply hne x hx x'
  rw [← hdx, hleaves]
  simp

/-! ## The reader -/

/-- Each entry that is not a header, with the label of the last header before it; `cur` is what
    counts before the first. -/
def readFlat {τ : Type} (isHeader : κ → Bool) (label : κ → τ) (cur : τ) : List κ → List (τ × κ)
  | [] => []
  | k :: l =>
    if isHeader k then readFlat isHeader label (label k) l
    else (cur, k) :: readFlat isHeader label cur l

variable {τ : Type} {label : κ → τ}

/-- The label that counts after the list is read. -/
def lastLabel (isHeader : κ → Bool) (label : κ → τ) (cur : τ) (l : List κ) : τ :=
  l.foldl (fun c k => if isHeader k then label k else c) cur

theorem readFlat_append (cur : τ) (l l' : List κ) :
    readFlat isHeader label cur (l ++ l') =
      readFlat isHeader label cur l ++
        readFlat isHeader label (lastLabel isHeader label cur l) l' := by
  induction l generalizing cur with
  | nil => rfl
  | cons k l ih =>
    cases hk : isHeader k with
    | true => simpa [readFlat, lastLabel, hk] using ih (label k)
    | false => simpa [readFlat, lastLabel, hk] using ih cur

theorem readFlat_of_headersLast {l : List κ} (h : HeadersLast isHeader l) (cur : τ) :
    readFlat isHeader label cur l = (l.filter (!isHeader ·)).map (cur, ·) := by
  induction l generalizing cur with
  | nil => rfl
  | cons k l ih =>
    obtain ⟨hkl, hl⟩ := List.pairwise_cons.mp h
    cases hk : isHeader k with
    | true =>
      -- every later entry is a header too
      have hnone : l.filter (!isHeader ·) = [] := by
        rw [List.filter_eq_nil_iff]
        intro e he
        simp [hkl e he hk]
      rw [readFlat, if_pos hk, ih hl, List.filter_cons_of_neg (by simp [hk]), hnone]
      rfl
    | false =>
      rw [readFlat, if_neg (by simp [hk]), ih hl, List.filter_cons_of_pos (by simp [hk])]
      rfl

/-- The reader of a flat list gets the leaves of each element with that element's header. -/
theorem readFlat_flat (hh : ∀ x, isHeader (header x) = true)
    (hl : ∀ x ∈ elements, HeadersLast isHeader (leaves x)) (cur : τ) :
    readFlat isHeader label cur (flat header leaves elements) =
      elements.flatMap fun x =>
        ((leaves x).filter (!isHeader ·)).map (label (header x), ·) := by
  induction elements generalizing cur with
  | nil => rfl
  | cons x elements ih =>
    rw [flat_cons, readFlat, if_pos (hh x), readFlat_append,
      readFlat_of_headersLast (hl x List.mem_cons_self),
      ih fun y hy => hl y (List.mem_cons_of_mem x hy), List.flatMap_cons]

/-! ## The groups -/

/-- Each header with the entries after it up to the next one. -/
def groups (isHeader : κ → Bool) : List κ → List (κ × List κ)
  | [] => []
  | k :: l =>
    if isHeader k then (k, l.takeWhile (!isHeader ·)) :: groups isHeader l
    else groups isHeader l

theorem groups_append_of_forall {l : List κ} (h : ∀ e ∈ l, isHeader e = false) (l' : List κ) :
    groups isHeader (l ++ l') = groups isHeader l' := by
  induction l with
  | nil => rfl
  | cons e l ih =>
    rw [List.cons_append, groups, if_neg (by simp [h e List.mem_cons_self]),
      ih fun e he => h e (List.mem_cons_of_mem _ he)]

theorem takeWhile_append_flat (hh : ∀ x, isHeader (header x) = true) {l : List κ}
    (h : ∀ e ∈ l, isHeader e = false) (elements : List ε) :
    (l ++ flat header leaves elements).takeWhile (!isHeader ·) = l := by
  have htail : (flat header leaves elements).takeWhile (!isHeader ·) = [] := by
    cases elements with
    | nil => rfl
    | cons x elements =>
      rw [flat_cons, List.takeWhile_cons_of_neg (by simp [hh x])]
  rw [List.takeWhile_append_of_pos fun e he => by simp [h e he], htail, List.append_nil]

/-- The groups of a flat list are those it was written from. -/
theorem groups_flat (hh : ∀ x, isHeader (header x) = true)
    (hl : ∀ x, ∀ e ∈ leaves x, isHeader e = false) (elements : List ε) :
    groups isHeader (flat header leaves elements) =
      elements.map fun x => (header x, leaves x) := by
  induction elements with
  | nil => rfl
  | cons x elements ih =>
    rw [flat_cons, groups, if_pos (hh x), takeWhile_append_flat hh (hl x),
      groups_append_of_forall (hl x), ih, List.map_cons]

end Headers

end TelemetryAgent.Lib
