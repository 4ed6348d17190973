/-
  Functions of the C library on text, over lists of characters: white space, lines and numbers.

  `fgetsAll` is what a loop over `fgets` stores. A text of lines that fit in the buffer comes back
  line by line (`fgetsAll_lines`). `strtol` reads a number whose base is given by its first
  characters, and undoes the decimal printing of every number of its range (`strtol_toString`).
-/
import Mathlib.Data.List.DropRight
import TelemetryAgent.Lib.Text

namespace TelemetryAgent.Lib

/-! ## White space -/

/-- `isspace` of the C locale. -/
def isspace (c : Char) : Bool := c = ' ' || ('\t' ≤ c && c ≤ '\r')

theorem rdropWhile_append_of_forall {α : Type*} {p : α → Bool} {s t : List α}
    (ht : ∀ c ∈ t, p c = true) : (s ++ t).rdropWhile p = s.rdropWhile p := by
  induction t using List.reverseRecOn with
  | nil => rw [List.append_nil]
  | append_singleton t c ih =>
    rw [← List.append_assoc, List.rdropWhile_concat_pos _ _ _ (ht c (by simp))]
    exact ih fun d hd => ht d (List.mem_append_left _ hd)

/-! ## Lines -/

/-- At most `n` characters, up to the first newline and with it, and what is left. -/
def takeLine : Nat → List Char → List Char × List Char
  | 0, s => ([], s)
  | _, [] => ([], [])
  | n + 1, c :: s =>
    if c = '\n' then ([c], s)
    else
      let r := takeLine n s
      (c :: r.1, r.2)

/-- `fgets(str, size, stream)`: what is stored, and the rest of the stream. `none` is `NULL`, at
    the end of the stream. -/
def fgets (size : Nat) (stream : List Char) : Option (List Char × List Char) :=
  if stream = [] then none else some (takeLine (size - 1) stream)

/-- What `fuel` turns of a loop over `fgets` store. -/
def fgetsAll (size : Nat) : Nat → List Char → List (List Char)
  | 0, _ => []
  | fuel + 1, stream =>
    match fgets size stream with
    | none => []
    | some (str, stream) => str :: fgetsAll size fuel stream

theorem takeLine_append (n : Nat) (s : List Char) : (takeLine n s).1 ++ (takeLine n s).2 = s := by
  fun_induction takeLine n s with
  | case1 s => rfl
  | case2 n => rfl
  | case3 n s => rfl
  | case4 n c s hc r ih => exact congrArg (c :: ·) ih

theorem takeLine_line {n : Nat} {line : List Char} (rest : List Char) (hline : '\n' ∉ line)
    (hn : line.length < n) : takeLine n (line ++ '\n' :: rest) = (line ++ ['\n'], rest) := by
  induction line generalizing n with
  | nil =>
    obtain ⟨n, rfl⟩ := Nat.exists_eq_add_one_of_ne_zero (Nat.ne_of_gt hn)
    rfl
  | cons c line ih =>
    obtain ⟨n, rfl⟩ := Nat.exists_eq_add_one_of_ne_zero (Nat.ne_of_gt (Nat.zero_lt_of_lt hn))
    rw [List.mem_cons, not_or] at hline
    rw [List.cons_append, takeLine, if_neg (Ne.symm hline.1), ih hline.2 (Nat.lt_of_succ_lt_succ hn)]
    rfl

/-- Every turn takes a character, so there are no more turns than characters. -/
theorem length_fgets_lt {size : Nat} (hsize : 2 ≤ size) {stream str rest : List Char}
    (h : fgets size stream = some (str, rest)) : rest.length < stream.length := by
  unfold fgets at h
  split_ifs at h with hnil
  obtain ⟨c, s, rfl⟩ := List.exists_cons_of_ne_nil hnil
  obtain ⟨n, hn⟩ : ∃ n, size - 1 = n + 1 := ⟨size - 2, by omega⟩
  have happ : str ++ rest = c :: s := by
    have := takeLine_append (size - 1) (c :: s)
    rwa [Option.some.inj h] at this
  have hpos : 0 < str.length := by
    rw [hn, takeLine, Option.some.injEq] at h
    split_ifs at h with hc
    · rw [← (Prod.mk.inj h).1]
      exact Nat.one_pos
    · rw [← (Prod.mk.inj h).1]
      exact Nat.succ_pos _
  rw [← happ, List.length_append]
  omega

theorem fgetsAll_of_le {size : Nat} (hsize : 2 ≤ size) {n m : Nat} {stream : List Char}
    (hn : stream.length ≤ n) (hm : stream.length ≤ m) :
    fgetsAll size n stream = fgetsAll size m stream := by
  induction n generalizing m stream with
  | zero =>
    obtain rfl := List.length_eq_zero_iff.mp (Nat.le_zero.mp hn)
    cases m <;> rfl
  | succ n ih =>
    cases m with
    | zero =>
      obtain rfl := List.length_eq_zero_iff.mp (Nat.le_zero.mp hm)
      rfl
    | succ m =>
      rw [fgetsAll, fgetsAll]
      cases h : fgets size stream with
      | none => rfl
      | some r =>
        have hlt := length_fgets_lt hsize h
        exact congrArg (r.1 :: ·) (ih (by omega) (by omega))

/-- Lines that fit come back with their newlines. -/
theorem fgetsAll_lines (size : Nat) (lines : List (List Char))
    (hlines : ∀ line ∈ lines, '\n' ∉ line ∧ line.length + 1 < size) :
    fgetsAll size (lines.flatMap (· ++ ['\n'])).length (lines.flatMap (· ++ ['\n'])) =
      lines.map (· ++ ['\n']) := by
  induction lines with
  | nil => rfl
  | cons line lines ih =>
    obtain ⟨⟨hmem, hlen⟩, hrest⟩ := List.forall_mem_cons.mp hlines
    have htext : (line :: lines).flatMap (· ++ ['\n']) =
        line ++ '\n' :: lines.flatMap (· ++ ['\n']) := by
      rw [List.flatMap_cons, List.append_assoc]
      rfl
    have hfgets : fgets size (line ++ '\n' :: lines.flatMap (· ++ ['\n'])) =
        some (line ++ ['\n'], lines.flatMap (· ++ ['\n'])) := by
      rw [fgets, if_neg (by simp), takeLine_line _ hmem (by omega)]
    have hfuel : (line ++ '\n' :: lines.flatMap (· ++ ['\n'])).length =
        line.length + (lines.flatMap (· ++ ['\n'])).length + 1 := by
      rw [List.length_append, List.length_cons]
      omega
    rw [htext, hfuel, fgetsAll, hfgets, List.map_cons]
    dsimp only
    rw [fgetsAll_of_le (by omega) (Nat.le_add_left _ _) (Nat.le_refl _), ih hrest]

/-! ## Numbers -/

/-- The value of a digit of a base. -/
def digitValue (base : Nat) (c : Char) : Option Nat :=
  let d :=
    if c.isDigit then c.toNat - '0'.toNat
    else if c.isLower then c.toNat - 'a'.toNat + 10
    else if c.isUpper then c.toNat - 'A'.toNat + 10
    else base
  if d < base then some d else none

/-- The values of the digits that a text begins with. -/
def digitsOf (base : Nat) : List Char → List Nat
  | [] => []
  | c :: s =>
    match digitValue base c with
    | some d => d :: digitsOf base s
    | none => []

/-- The base that the first characters tell, and the text with the digits. -/
def baseOf : List Char → Nat × List Char
  | '0' :: x :: t =>
    if (x = 'x' || x = 'X') && digitsOf 16 t ≠ [] then (16, t) else (8, '0' :: x :: t)
  | ['0'] => (8, ['0'])
  | s => (10, s)

/-- The sign, and what is behind it. -/
def signOf : List Char → Bool × List Char
  | '-' :: s => (true, s)
  | '+' :: s => (false, s)
  | s => (false, s)

/-- `strtol(str, &end, 0)`. `none` is no conversion. What is out of the range of `long` becomes the
    end of it. -/
def strtol (str : List Char) : Option Int :=
  let (negative, s) := signOf (str.dropWhile isspace)
  let (base, s) := baseOf s
  let digits := digitsOf base s
  let n := digits.foldl (fun n d => base * n + d) 0
  if digits = [] then none
  else some (max (-2 ^ 63) (min (2 ^ 63 - 1) (if negative then -(n : Int) else n)))

theorem digitValue_of_isDigit {c : Char} (h : c.isDigit = true) :
    digitValue 10 c = some (c.toNat - '0'.toNat) := by
  have hc := Char.isDigit_iff_toNat.mp h
  rw [digitValue, if_pos h]
  exact if_pos (by have : '0'.toNat = 48 := rfl; have : '9'.toNat = 57 := rfl; omega)

theorem digitsOf_of_isDigit {l : List Char} (h : ∀ c ∈ l, c.isDigit = true) :
    digitsOf 10 l = l.map fun c => c.toNat - '0'.toNat := by
  induction l with
  | nil => rfl
  | cons c l ih =>
    obtain ⟨hc, hl⟩ := List.forall_mem_cons.mp h
    rw [digitsOf, digitValue_of_isDigit hc, ih hl]
    rfl

theorem foldl_digitsOf (l : List Char) (k : Nat) :
    (l.map fun c => c.toNat - '0'.toNat).foldl (fun n d => 10 * n + d) k =
      Nat.ofDigitChars 10 l k := by
  induction l generalizing k with
  | nil => simp
  | cons c l ih =>
    rw [List.map_cons, List.foldl_cons, Nat.ofDigitChars_cons, ih]

/-- `atoi(str)`: as `strtol(str, NULL, 10)`, cast to `int`. -/
def atoi (str : List Char) : Int :=
  let (negative, s) := signOf (str.dropWhile isspace)
  let n : Nat := (digitsOf 10 s).foldl (fun n d => 10 * n + d) 0
  Int.bmod (max (-2 ^ 63) (min (2 ^ 63 - 1) (if negative then -(n : Int) else n))) (2 ^ 32)

/-- A number is not written with a zero in front. -/
theorem head_toDigits_ne_zero {n : Nat} (hn : 0 < n) :
    (Nat.toDigits 10 n).head Nat.toDigits_ne_nil ≠ '0' := by
  induction n using Nat.strongRecOn with
  | ind n ih =>
    by_cases hlt : n < 10
    · have hdigit : ∀ d < 10, 0 < d → d.digitChar ≠ '0' := by decide
      simp only [Nat.toDigits_of_lt_base hlt, List.head_cons]
      exact hdigit n hlt hn
    · have hdiv : 0 < n / 10 := Nat.div_pos (Nat.not_lt.mp hlt) (by decide)
      have h := ih (n / 10) (Nat.div_lt_self hn (by decide)) hdiv
      simpa only [Nat.toDigits_of_base_le (b := 10) (by decide) (Nat.not_lt.mp hlt),
        List.head_append_of_ne_nil Nat.toDigits_ne_nil] using h

theorem baseOf_toDigits (n : Nat) :
    baseOf (Nat.toDigits 10 n) = (if n = 0 then 8 else 10, Nat.toDigits 10 n) := by
  by_cases hn : n = 0
  · subst hn
    rfl
  · have hhead := head_toDigits_ne_zero (Nat.pos_of_ne_zero hn)
    rw [if_neg hn]
    unfold baseOf
    split
    · next h => simp [h] at hhead
    · next h => simp [h] at hhead
    · rfl

theorem digitsOf_toDigits (n : Nat) :
    digitsOf (if n = 0 then 8 else 10) (Nat.toDigits 10 n) =
      (Nat.toDigits 10 n).map fun c => c.toNat - '0'.toNat := by
  by_cases hn : n = 0
  · subst hn
    rfl
  · rw [if_neg hn]
    exact digitsOf_of_isDigit fun c hc => Nat.isDigit_of_mem_toDigits (by decide) (by decide) hc

theorem foldl_toDigits (n : Nat) :
    ((Nat.toDigits 10 n).map fun c => c.toNat - '0'.toNat).foldl
      (fun m d => (if n = 0 then 8 else 10) * m + d) 0 = n := by
  by_cases hn : n = 0
  · subst hn
    rfl
  · rw [if_neg hn, foldl_digitsOf, Nat.ofDigitChars_ten_toDigits]

/-- A text whose sign is known, with the decimal digits of a number. -/
theorem strtol_of_signOf {str : List Char} {negative : Bool} {n : Nat}
    (h : signOf (str.dropWhile isspace) = (negative, Nat.toDigits 10 n)) :
    strtol str =
      some (max (-2 ^ 63) (min (2 ^ 63 - 1) (if negative then -(n : Int) else n))) := by
  unfold strtol
  simp only [h, baseOf_toDigits, digitsOf_toDigits, foldl_toDigits]
  rw [if_neg]
  rw [List.map_eq_nil_iff]
  exact Nat.toDigits_ne_nil

theorem isDigit_head_toDigits (n : Nat) :
    ((Nat.toDigits 10 n).head Nat.toDigits_ne_nil).isDigit = true :=
  Nat.isDigit_of_mem_toDigits (by decide) (by decide) (List.head_mem _)

theorem isspace_of_isDigit {c : Char} (h : c.isDigit = true) : isspace c = false := by
  have hc := Char.isDigit_iff_toNat.mp h
  have hne : c ≠ ' ' := by
    rintro rfl
    exact absurd h (by decide)
  have hle : ¬ c ≤ '\r' := by
    rw [Char.le_def, UInt32.le_iff_toNat_le, Nat.not_le]
    exact Nat.lt_of_lt_of_le (by decide) hc.1
  simp [isspace, hne, hle]

theorem signOf_toDigits (m : Nat) :
    signOf ((Nat.toDigits 10 m).dropWhile isspace) = (false, Nat.toDigits 10 m) := by
  have hdigit := isDigit_head_toDigits m
  obtain ⟨c, l, hl⟩ := List.exists_cons_of_ne_nil (Nat.toDigits_ne_nil (n := m) (b := 10))
  have hc : c.isDigit = true := by simpa only [hl, List.head_cons] using hdigit
  rw [hl, List.dropWhile_cons_of_neg (by simp [isspace_of_isDigit hc]), signOf]
  · intro s h
    rw [(List.cons.inj h).1] at hc
    exact absurd hc (by decide)
  · intro s h
    rw [(List.cons.inj h).1] at hc
    exact absurd hc (by decide)

/-- `atoi` undoes the printing of a number, cut to the bits of an `int`. -/
theorem atoi_toString {n : Nat} (hn : n < 2 ^ 63) :
    atoi (toString n).toList = Int.bmod n (2 ^ 32) := by
  have htext : (toString n).toList = Nat.toDigits 10 n := Nat.toList_repr
  have hdigits : digitsOf 10 (Nat.toDigits 10 n) =
      (Nat.toDigits 10 n).map fun c => c.toNat - '0'.toNat :=
    digitsOf_of_isDigit fun c hc => Nat.isDigit_of_mem_toDigits (by decide) (by decide) hc
  unfold atoi
  simp only [htext, signOf_toDigits, hdigits, foldl_digitsOf, Nat.ofDigitChars_ten_toDigits,
    Bool.false_eq_true, if_false]
  rw [min_eq_right (by omega), max_eq_right (by omega)]

/-- `strtol` undoes the printing of a `long`. -/
theorem strtol_toString {n : Int} (hlo : -2 ^ 63 ≤ n) (hhi : n < 2 ^ 63) :
    strtol (toString n).toList = some n := by
  cases n with
  | ofNat m =>
    have htext : (toString (Int.ofNat m)).toList = Nat.toDigits 10 m := Nat.toList_repr
    have hsign : signOf ((toString (Int.ofNat m)).toList.dropWhile isspace) =
        (false, Nat.toDigits 10 m) := by
      rw [htext, signOf_toDigits]
    rw [strtol_of_signOf hsign, if_neg Bool.false_ne_true, ← Int.ofNat_eq_natCast,
      min_eq_right (Int.le_sub_one_of_lt hhi), max_eq_right hlo]
  | negSucc m =>
    have htext : (toString (Int.negSucc m)).toList = '-' :: Nat.toDigits 10 (m + 1) := by
      show ("-" ++ (m + 1).repr).toList = _
      rw [String.toList_append, Nat.toList_repr]
      rfl
    have hsign : signOf ((toString (Int.negSucc m)).toList.dropWhile isspace) =
        (true, Nat.toDigits 10 (m + 1)) := by
      rw [htext]
      rfl
    have hneg : -((m + 1 : Nat) : Int) = Int.negSucc m := rfl
    rw [strtol_of_signOf hsign, if_pos rfl, hneg, min_eq_right (Int.le_sub_one_of_lt hhi),
      max_eq_right hlo]

end TelemetryAgent.Lib
