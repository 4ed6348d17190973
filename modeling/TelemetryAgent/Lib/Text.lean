/-
  Text as lists of characters: the left-to-right replacement of a search text, C strings
  and decimal numbers.

  `replaceAll p r` scans a text once. What it puts in is not searched again. A replacement
  that is shorter than the search text leaves a text alone exactly when the search text does
  not occur in it (`replaceAll_eq_self_iff`).

  A text is often replaced after it has been encoded character by character. Where the
  encoding is transparent to the search text, the replacement goes through it
  (`replaceAll_flatMap`), so it can be done on the plain text.
-/
import Mathlib.Data.List.Infix
import Mathlib.Data.List.TakeWhile
import Mathlib.Tactic.NormNum

namespace TelemetryAgent.Lib

universe u
variable {α : Type u}

theorem flatMap_of_forall {e : α → List α} {s : List α} (h : ∀ c ∈ s, e c = [c]) : s.flatMap e = s := by
  induction s with
  | nil => rfl
  | cons c s ih =>
    rw [List.flatMap_cons, h c List.mem_cons_self, ih fun d hd => h d (List.mem_cons_of_mem c hd)]
    rfl

variable [DecidableEq α]

/-- Every occurrence of `p` that does not overlap one further left becomes `r`. -/
def replaceAll (p r : List α) : List α → List α
  | [] => []
  | c :: s =>
    if p <+: c :: s then r ++ replaceAll p r (s.drop (p.length - 1))
    else c :: replaceAll p r s
termination_by s => s.length

variable {p r s : List α}

@[simp] theorem replaceAll_nil : replaceAll p r [] = [] := by rw [replaceAll]

theorem replaceAll_occurrence (hp : p ≠ []) (s : List α) :
    replaceAll p r (p ++ s) = r ++ replaceAll p r s := by
  obtain ⟨a, p, rfl⟩ := List.exists_cons_of_ne_nil hp
  have h : a :: p <+: a :: (p ++ s) := List.prefix_append (a :: p) s
  rw [List.cons_append, replaceAll, if_pos h, List.length_cons, Nat.add_sub_cancel,
    List.drop_left]

theorem replaceAll_self (hp : p ≠ []) : replaceAll p r p = r := by
  have h := replaceAll_occurrence (r := r) hp []
  rwa [List.append_nil, replaceAll_nil, List.append_nil] at h

theorem replaceAll_cons {c : α} (h : ¬ p <+: c :: s) :
    replaceAll p r (c :: s) = c :: replaceAll p r s := by
  rw [replaceAll, if_neg h]

/-- Text in which no occurrence begins is passed over. -/
theorem replaceAll_skip {l : List α} (h : ∀ k < l.length, ¬ p <+: (l ++ s).drop k) :
    replaceAll p r (l ++ s) = l ++ replaceAll p r s := by
  induction l with
  | nil => rfl
  | cons c l ih =>
    have hc : ¬ p <+: c :: (l ++ s) := h 0 (Nat.zero_lt_succ _)
    rw [List.cons_append, replaceAll_cons hc, ih fun k hk => h (k + 1) (Nat.succ_lt_succ hk)]
    rfl

/-- Text without the first character of the search text is passed over. -/
theorem replaceAll_append (hp : p ≠ []) {l : List α} (hl : p.head hp ∉ l) (s : List α) :
    replaceAll p r (l ++ s) = l ++ replaceAll p r s := by
  induction l with
  | nil => rfl
  | cons c l ih =>
    rw [List.mem_cons, not_or] at hl
    have hc : ¬ p <+: c :: (l ++ s) := by
      obtain ⟨a, p, rfl⟩ := List.exists_cons_of_ne_nil hp
      rw [List.cons_prefix_cons]
      exact fun h => hl.1 h.1
    rw [List.cons_append, replaceAll_cons hc, ih hl.2, List.cons_append]

theorem replaceAll_cons_of_ne (hp : p ≠ []) {c : α} (hc : p.head hp ≠ c) (s : List α) :
    replaceAll p r (c :: s) = c :: replaceAll p r s :=
  replaceAll_append hp (l := [c]) (by simpa using hc) s

theorem replaceAll_of_not_prefix_drop (h : ∀ k < s.length, ¬ p <+: s.drop k) :
    replaceAll p r s = s := by
  have := replaceAll_skip (p := p) (r := r) (s := []) (l := s) (by rwa [List.append_nil])
  rwa [List.append_nil, replaceAll_nil, List.append_nil] at this

theorem replaceAll_of_not_infix (h : ¬ p <:+: s) : replaceAll p r s = s :=
  replaceAll_of_not_prefix_drop fun k _ hp => h (hp.isInfix.trans (List.drop_suffix k s).isInfix)

theorem replaceAll_of_head_not_mem (hp : p ≠ []) (h : p.head hp ∉ s) : replaceAll p r s = s := by
  have := replaceAll_append (r := r) hp h []
  rwa [List.append_nil, replaceAll_nil, List.append_nil] at this

theorem length_replaceAll_le (hp : p ≠ []) (hr : r.length ≤ p.length) (s : List α) :
    (replaceAll p r s).length ≤ s.length := by
  fun_induction replaceAll p r s with
  | case1 => exact Nat.le_refl _
  | case2 c s h ih =>
    have h1 := h.length_le
    have h2 := List.length_pos_of_ne_nil hp
    simp only [List.length_append, List.length_cons, List.length_drop] at ih h1 ⊢
    omega
  | case3 c s _ ih =>
    simp only [List.length_cons]
    omega

theorem length_replaceAll_lt (hp : p ≠ []) (hr : r.length < p.length) (h : p <:+: s) :
    (replaceAll p r s).length < s.length := by
  have hle := fun t => length_replaceAll_le hp (Nat.le_of_lt hr) t
  fun_induction replaceAll p r s with
  | case1 => exact absurd (List.infix_nil.mp h) hp
  | case2 c s h' _ =>
    have h1 := h'.length_le
    have h2 := hle (s.drop (p.length - 1))
    simp only [List.length_append, List.length_cons, List.length_drop] at h1 h2 ⊢
    omega
  | case3 c s h' ih =>
    have hs : p <:+: s := by
      obtain hpre | hin := List.infix_cons_iff.mp h
      · exact absurd hpre h'
      · exact hin
    have := ih hs
    simp only [List.length_cons]
    omega

theorem replaceAll_eq_self_iff (hp : p ≠ []) (hr : r.length < p.length) :
    replaceAll p r s = s ↔ ¬ p <:+: s := by
  constructor
  · intro h hi
    have := length_replaceAll_lt hp hr hi
    rw [h] at this
    omega
  · exact replaceAll_of_not_infix

theorem replaceAll_eq_nil_iff (hp : p ≠ []) (hr : r ≠ []) : replaceAll p r s = [] ↔ s = [] := by
  refine ⟨fun h => ?_, fun h => by rw [h, replaceAll_nil]⟩
  rcases s with _ | ⟨c, s⟩
  · rfl
  · by_cases hc : p <+: c :: s
    · obtain ⟨t, ht⟩ := hc
      rw [← ht, replaceAll_occurrence hp] at h
      exact absurd (List.append_eq_nil_iff.mp h).1 hr
    · rw [replaceAll_cons hc] at h
      exact absurd h (List.cons_ne_nil _ _)

theorem infix_replaceAll (hp : p ≠ []) (h : p <:+: s) : r <:+: replaceAll p r s := by
  fun_induction replaceAll p r s with
  | case1 => exact absurd (List.infix_nil.mp h) hp
  | case2 c s _ _ => exact (List.prefix_append r _).isInfix
  | case3 c s h' ih =>
    obtain hpre | hin := List.infix_cons_iff.mp h
    · exact absurd hpre h'
    · exact List.infix_cons (ih hin)

/-! ## Replacement in an encoded text -/

/-- The characters of `p` encode to themselves, and no other character's code begins with a
    character of `p` or contains its first one. -/
structure Transparent (e : α → List α) (p : List α) (hp : p ≠ []) : Prop where
  keep : ∀ c ∈ p, e c = [c]
  other : ∀ c, c ∉ p → ∃ d s, e c = d :: s ∧ d ∉ p ∧ p.head hp ∉ s

variable {e : α → List α}

/-- `q` stands for the character that ends the encoded text. -/
theorem Transparent.prefix_iff {hp : p ≠ []} (h : Transparent e p hp) {q : α} (hq : q ∉ p)
    (p' s rest : List α) (hsub : p' ⊆ p) : p' <+: s.flatMap e ++ q :: rest ↔ p' <+: s := by
  induction p' generalizing s with
  | nil => simp
  | cons a p' ih =>
    have ha : a ∈ p := hsub List.mem_cons_self
    have hsub' : p' ⊆ p := fun _ hx => hsub (List.mem_cons_of_mem _ hx)
    match s with
    | [] =>
      have : a ≠ q := fun he => hq (he ▸ ha)
      simp [List.cons_prefix_cons, this]
    | c :: s =>
      by_cases hc : c ∈ p
      · rw [List.flatMap_cons, h.keep c hc, List.singleton_append, List.cons_append,
          List.cons_prefix_cons, List.cons_prefix_cons, ih s hsub']
      · obtain ⟨d, t, he, hd, _⟩ := h.other c hc
        have h1 : a ≠ d := fun heq => hd (heq ▸ ha)
        have h2 : a ≠ c := fun heq => hc (heq ▸ ha)
        simp [he, List.cons_prefix_cons, h1, h2]

theorem replaceAll_flatMap {hp : p ≠ []} (h : Transparent e p hp) (hr : ∀ c ∈ r, e c = [c])
    {q : α} (hq : q ∉ p) (s rest : List α) :
    replaceAll p r (s.flatMap e ++ q :: rest) =
      (replaceAll p r s).flatMap e ++ q :: replaceAll p r rest := by
  fun_induction replaceAll p r s with
  | case1 =>
    have hq' : p.head hp ≠ q := fun he => hq (he ▸ List.head_mem hp)
    rw [List.flatMap_nil, List.nil_append, replaceAll_cons_of_ne hp hq']
    rfl
  | case2 c s hpre ih =>
    obtain ⟨t, ht⟩ := hpre
    have hs : s.drop (p.length - 1) = t := by
      obtain ⟨a, p, rfl⟩ := List.exists_cons_of_ne_nil hp
      obtain ⟨-, rfl⟩ := List.cons.inj ht
      exact List.drop_left
    rw [hs] at ih ⊢
    rw [← ht, List.flatMap_append, List.flatMap_append, flatMap_of_forall h.keep,
      flatMap_of_forall hr, List.append_assoc, replaceAll_occurrence hp, ih, List.append_assoc]
  | case3 c s hpre ih =>
    have hpre' := mt (h.prefix_iff hq p (c :: s) rest (List.Subset.refl p)).mp hpre
    rw [List.flatMap_cons, List.append_assoc] at hpre' ⊢
    rw [List.flatMap_cons, List.append_assoc, ← ih]
    by_cases hc : c ∈ p
    · rw [h.keep c hc] at hpre' ⊢
      exact replaceAll_cons hpre'
    · obtain ⟨d, t, he, hd, ht⟩ := h.other c hc
      have hmem : p.head hp ∉ d :: t := by
        rw [List.mem_cons, not_or]
        exact ⟨fun heq => hd (heq ▸ List.head_mem hp), ht⟩
      rw [he]
      exact replaceAll_append hp hmem _

/-! ## C strings -/

/-- The `std::string` made of the characters up to the first NUL. -/
def cString (s : List Char) : List Char := s.takeWhile (· ≠ '\x00')

theorem length_cString_le (s : List Char) : (cString s).length ≤ s.length :=
  (List.takeWhile_prefix _).length_le

theorem cString_eq_self_iff {s : List Char} : cString s = s ↔ '\x00' ∉ s := by
  unfold cString
  rw [List.takeWhile_eq_self_iff]
  constructor
  · intro h hmem
    simpa using h _ hmem
  · intro h c hc
    rw [decide_eq_true_eq]
    exact fun he => h (he ▸ hc)

/-! ## Decimal numbers -/

/-- `std::stoi`: leading white space, a sign and decimal digits; `none` is an exception. -/
def stoi (s : List Char) : Option Int :=
  let s := s.dropWhile fun c => c = ' ' || ('\t' ≤ c && c ≤ '\r')
  let (negative, s) := match s with
    | '-' :: s => (true, s)
    | '+' :: s => (false, s)
    | s => (false, s)
  let digits := s.takeWhile Char.isDigit
  let n : Int := digits.foldl (fun n c => 10 * n + (c.toNat - '0'.toNat : Nat)) 0
  let n := if negative then -n else n
  if digits.isEmpty || n < -2 ^ 31 || 2 ^ 31 ≤ n then none else some n

theorem foldl_digits (l : List Char) (k : Nat) :
    l.foldl (fun (n : Int) c => 10 * n + (c.toNat - '0'.toNat : Nat)) k =
      (Nat.ofDigitChars 10 l k : Nat) := by
  induction l generalizing k with
  | nil => simp
  | cons c l ih =>
    rw [List.foldl_cons, Nat.ofDigitChars_cons, ← ih]
    push_cast
    rfl

theorem stoi_digits {l : List Char} (hl : l ≠ []) (hdig : ∀ c ∈ l, c.isDigit = true)
    (hn : Nat.ofDigitChars 10 l 0 < 2 ^ 31) : stoi l = some (Nat.ofDigitChars 10 l 0 : Int) := by
  have hval := foldl_digits l 0
  have htake : l.takeWhile Char.isDigit = l := List.takeWhile_eq_self_iff.mpr hdig
  obtain ⟨c, t, rfl⟩ := List.exists_cons_of_ne_nil hl
  have hc := Char.isDigit_iff_toNat.mp (hdig c List.mem_cons_self)
  -- a digit is neither white space nor a sign
  have hne : ∀ d : Char, d.toNat < '0'.toNat → c ≠ d := by
    rintro d hd rfl
    omega
  have hspace : (decide (c = ' ') || (decide ('\t' ≤ c) && decide (c ≤ '\r'))) = false := by
    have h1 : ¬ c ≤ '\r' := by
      rw [Char.le_def, UInt32.le_iff_toNat_le, Nat.not_le]
      exact Nat.lt_of_lt_of_le (by decide) hc.1
    simp [hne ' ' (by decide), h1]
  have hsign : (match (motive := List Char → Bool × List Char) c :: t with
      | '-' :: s => (true, s)
      | '+' :: s => (false, s)
      | s => (false, s)) = (false, c :: t) := by
    split
    · next h => exact absurd (List.cons.inj h).1 (hne '-' (by decide))
    · next h => exact absurd (List.cons.inj h).1 (hne '+' (by decide))
    · rfl
  unfold stoi
  rw [List.dropWhile_cons_of_neg (by simpa using hspace)]
  rw [Nat.cast_zero] at hval
  dsimp only
  rw [hsign, htake, hval]
  simp only [List.isEmpty_cons, Bool.false_or, Bool.false_eq_true, if_false]
  rw [if_neg]
  simp only [Bool.or_eq_true, decide_eq_true_eq]
  omega

/-- `std::stoi` undoes `std::to_string`. -/
theorem stoi_toString {n : Nat} (hn : n < 2 ^ 31) : stoi (toString n).toList = some (n : Int) := by
  have hlist : (toString n).toList = Nat.toDigits 10 n := Nat.toList_repr
  have hval : Nat.ofDigitChars 10 (Nat.toDigits 10 n) 0 = n := Nat.ofDigitChars_ten_toDigits
  have h := stoi_digits (l := Nat.toDigits 10 n) Nat.toDigits_ne_nil
    (fun c hc => Nat.isDigit_of_mem_toDigits (by decide) (by decide) hc) (by rwa [hval])
  rw [hlist, h, hval]

end TelemetryAgent.Lib
