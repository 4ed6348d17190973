/-
  The protobuf text printer on a `Path`, in single-line mode. `getMessageString` is a
  parameter of the model; where a result needs that the printer tells paths apart,
  `textFormat` is a printer that does (`textFormat_injective`).
-/
import Mathlib.Tactic.Common
import TelemetryAgent.AgentUtils

namespace TelemetryAgent

namespace TextFormat

def octalDigit (n : UInt8) : Char := .ofNat ('0'.toNat + n.toNat)

/-- `CEscape`: how a byte of a string is printed. -/
def cEscape (b : UInt8) : List Char :=
  if b = 10 then ['\\', 'n']
  else if b = 13 then ['\\', 'r']
  else if b = 9 then ['\\', 't']
  else if b = 34 ∨ b = 39 ∨ b = 92 then ['\\', .ofNat b.toNat]
  else if 32 ≤ b ∧ b < 127 then [.ofNat b.toNat]
  else ['\\', octalDigit (b / 64), octalDigit (b / 8 % 8), octalDigit (b % 8)]

def octalValue (c : Char) : UInt8 := .ofNat (c.toNat - '0'.toNat)

/-- The byte that an escaped text starts with. -/
def cUnescape : List Char → Option (UInt8 × List Char)
  | [] => none
  | '\\' :: c :: s =>
    if c = 'n' then some (10, s)
    else if c = 'r' then some (13, s)
    else if c = 't' then some (9, s)
    else if c.isDigit then
      match s with
      | d :: e :: s => some (octalValue c * 64 + octalValue d * 8 + octalValue e, s)
      | _ => none
    else some (.ofNat c.toNat, s)
  | c :: s => some (.ofNat c.toNat, s)

theorem forall_byte {P : UInt8 → Prop} (h : ∀ n < 256, P (.ofNat n)) (b : UInt8) : P b := by
  have hb := h b.toNat b.toNat_lt
  rwa [UInt8.ofNat_toNat] at hb

theorem isDigit_octalDigit (b : UInt8) : (octalDigit (b / 64)).isDigit = true := by
  revert b
  exact forall_byte (by decide +kernel)

theorem octalValue_octalDigit (b : UInt8) : octalValue (octalDigit (b / 64)) * 64 +
    octalValue (octalDigit (b / 8 % 8)) * 8 + octalValue (octalDigit (b % 8)) = b := by
  revert b
  exact forall_byte (by decide +kernel)

theorem toNat_ofNat_byte (b : UInt8) : UInt8.ofNat (Char.ofNat b.toNat).toNat = b := by
  revert b
  exact forall_byte (by decide +kernel)

theorem cUnescape_cEscape (b : UInt8) (s : List Char) :
    cUnescape (cEscape b ++ s) = some (b, s) := by
  unfold cEscape
  split_ifs with h1 h2 h3 h4 h5
  · rw [h1]
    rfl
  · rw [h2]
    rfl
  · rw [h3]
    rfl
  · obtain rfl | rfl | rfl := h4
    · rfl
    · rfl
    · rfl
  · have hc : Char.ofNat b.toNat ≠ '\\' := by
      intro hc
      have := toNat_ofNat_byte b
      rw [hc] at this
      exact h4 (.inr (.inr this.symm))
    simp [cUnescape, hc, toNat_ofNat_byte]
  · have hd := isDigit_octalDigit b
    have hn : octalDigit (b / 64) ≠ 'n' := fun h => absurd (h ▸ hd) (by decide)
    have hr : octalDigit (b / 64) ≠ 'r' := fun h => absurd (h ▸ hd) (by decide)
    have ht : octalDigit (b / 64) ≠ 't' := fun h => absurd (h ▸ hd) (by decide)
    simp [cUnescape, hn, hr, ht, hd, octalValue_octalDigit]

theorem cEscape_append_inj {b d : UInt8} {r r' : List Char}
    (h : cEscape b ++ r = cEscape d ++ r') : b = d ∧ r = r' := by
  have hd := congrArg cUnescape h
  rw [cUnescape_cEscape, cUnescape_cEscape, Option.some.injEq, Prod.mk.injEq] at hd
  exact hd

/-- A quote inside a string is printed after a backslash. -/
theorem cEscape_append_ne_quote (b : UInt8) (r r' : List Char) : cEscape b ++ r ≠ '"' :: r' := by
  intro h
  have hd := congrArg cUnescape h
  rw [cUnescape_cEscape] at hd
  obtain rfl : b = 34 := congrArg Prod.fst (Option.some.inj hd)
  exact absurd (List.cons.inj h).1 (by decide)

theorem flatMap_cEscape_append_inj {l l' : List UInt8} {r r' : List Char}
    (h : l.flatMap cEscape ++ '"' :: r = l'.flatMap cEscape ++ '"' :: r') : l = l' ∧ r = r' := by
  induction l generalizing l' with
  | nil =>
    cases l' with
    | nil => exact ⟨rfl, (List.cons.inj h).2⟩
    | cons b l' =>
      rw [List.flatMap_cons, List.append_assoc] at h
      exact absurd h.symm (cEscape_append_ne_quote b _ _)
  | cons b l ih =>
    cases l' with
    | nil =>
      rw [List.flatMap_cons, List.append_assoc] at h
      exact absurd h (cEscape_append_ne_quote b _ _)
    | cons d l' =>
      rw [List.flatMap_cons, List.flatMap_cons, List.append_assoc, List.append_assoc] at h
      obtain ⟨rfl, ht⟩ := cEscape_append_inj h
      obtain ⟨rfl, rfl⟩ := ih ht
      exact ⟨rfl, rfl⟩

/-! ## The fields -/

def escape (s : String) : List Char := s.toUTF8.data.toList.flatMap cEscape

def stringField (tag : String) (s : String) (rest : List Char) : List Char :=
  if s = "" then rest else tag.toList ++ '"' :: (escape s ++ '"' :: ' ' :: rest)

def numberField (tag : String) (n : UInt32) (rest : List Char) : List Char :=
  if n = 0 then rest else tag.toList ++ ((toString n.toNat).toList ++ ' ' :: rest)

def boolField (tag : String) (b : Bool) (rest : List Char) : List Char :=
  if b then tag.toList ++ rest else rest

variable {tag : String} {rest rest' : List Char}

theorem escape_append_inj {s s' : String} {r r' : List Char}
    (h : escape s ++ '"' :: r = escape s' ++ '"' :: r') : s = s' ∧ r = r' := by
  obtain ⟨hb, hr⟩ := flatMap_cEscape_append_inj h
  refine ⟨String.toByteArray_inj.mp ?_, hr⟩
  exact ByteArray.ext (Array.toList_inj.mp hb)

/-- A field is read back from what is printed, if what follows it does not start with its
    name. -/
theorem stringField_inj {s s' : String} (ht : ¬ tag.toList <+: rest) (ht' : ¬ tag.toList <+: rest')
    (h : stringField tag s rest = stringField tag s' rest') : s = s' ∧ rest = rest' := by
  unfold stringField at h
  split_ifs at h with h1 h2 h2
  · exact ⟨h1.trans h2.symm, h⟩
  · exact absurd ⟨_, h.symm⟩ ht
  · exact absurd ⟨_, h⟩ ht'
  · obtain ⟨rfl, hr⟩ := escape_append_inj (List.cons.inj (List.append_cancel_left h)).2
    exact ⟨rfl, (List.cons.inj hr).2⟩

theorem boolField_inj {b b' : Bool} (ht : ¬ tag.toList <+: rest) (ht' : ¬ tag.toList <+: rest')
    (h : boolField tag b rest = boolField tag b' rest') : b = b' ∧ rest = rest' := by
  cases b <;> cases b'
  · exact ⟨rfl, h⟩
  · exact absurd ⟨_, h.symm⟩ ht
  · exact absurd ⟨_, h⟩ ht'
  · exact ⟨rfl, List.append_cancel_left h⟩

theorem toString_append_inj {n n' : Nat} {r r' : List Char}
    (h : (toString n).toList ++ ' ' :: r = (toString n').toList ++ ' ' :: r') :
    n = n' ∧ r = r' := by
  have hlist : ∀ n : Nat, (toString n).toList = Nat.toDigits 10 n := fun n => Nat.toList_repr
  have htake : ∀ (n : Nat) (r : List Char),
      (Nat.toDigits 10 n ++ ' ' :: r).takeWhile Char.isDigit = Nat.toDigits 10 n := by
    intro n r
    rw [List.takeWhile_append_of_pos fun c hc =>
      Nat.isDigit_of_mem_toDigits (by decide) (by decide) hc]
    exact List.append_nil _
  rw [hlist, hlist] at h
  have hd : Nat.toDigits 10 n = Nat.toDigits 10 n' := by
    rw [← htake n r, h, htake]
  have hn : n = n' := by
    rw [← Nat.ofDigitChars_ten_toDigits (n := n), hd, Nat.ofDigitChars_ten_toDigits]
  rw [hd] at h
  exact ⟨hn, (List.cons.inj (List.append_cancel_left h)).2⟩

theorem numberField_inj {n n' : UInt32} (ht : ¬ tag.toList <+: rest)
    (ht' : ¬ tag.toList <+: rest') (h : numberField tag n rest = numberField tag n' rest') :
    n = n' ∧ rest = rest' := by
  unfold numberField at h
  split_ifs at h with h1 h2 h2
  · exact ⟨h1.trans h2.symm, h⟩
  · exact absurd ⟨_, h.symm⟩ ht
  · exact absurd ⟨_, h⟩ ht'
  · obtain ⟨hn, hr⟩ := toString_append_inj (List.append_cancel_left h)
    exact ⟨UInt32.toNat_inj.mp hn, hr⟩

end TextFormat

open TextFormat

/-- The printer. -/
def textFormat (p : Path) : String :=
  .ofList (stringField "path: " p.path (stringField "filter: " p.filter
    (boolField "suppress_unchanged: true " p.suppressUnchanged
      (numberField "max_silent_interval: " p.maxSilentInterval
        (numberField "sample_frequency: " p.sampleFrequency [])))))

theorem textFormat_injective : Function.Injective textFormat := by
  intro p q h
  obtain ⟨path, filter, suppress, silent, frequency⟩ := p
  obtain ⟨path', filter', suppress', silent', frequency'⟩ := q
  have h := String.ofList_injective h
  -- no field's name starts what is printed after the field
  have hpath : ∀ f b m n, ¬ "path: ".toList <+: stringField "filter: " f
      (boolField "suppress_unchanged: true " b (numberField "max_silent_interval: " m
        (numberField "sample_frequency: " n []))) := by
    intro f b m n
    unfold stringField boolField numberField
    split_ifs <;> simp
  have hfilter : ∀ b m n, ¬ "filter: ".toList <+: boolField "suppress_unchanged: true " b
      (numberField "max_silent_interval: " m (numberField "sample_frequency: " n [])) := by
    intro b m n
    unfold boolField numberField
    split_ifs <;> simp
  have hsuppress : ∀ m n, ¬ "suppress_unchanged: true ".toList <+:
      numberField "max_silent_interval: " m (numberField "sample_frequency: " n []) := by
    intro m n
    unfold numberField
    split_ifs <;> simp
  have hsilent : ∀ n, ¬ "max_silent_interval: ".toList <+:
      numberField "sample_frequency: " n [] := by
    intro n
    unfold numberField
    split_ifs <;> simp
  have hend : ¬ "sample_frequency: ".toList <+: [] := by simp
  obtain ⟨rfl, h⟩ := stringField_inj (hpath _ _ _ _) (hpath _ _ _ _) h
  obtain ⟨rfl, h⟩ := stringField_inj (hfilter _ _ _) (hfilter _ _ _) h
  obtain ⟨rfl, h⟩ := boolField_inj (hsuppress _ _) (hsuppress _ _) h
  obtain ⟨rfl, h⟩ := numberField_inj (hsilent _) (hsilent _) h
  obtain ⟨rfl, -⟩ := numberField_inj hend hend h
  rfl

example : textFormat { path := "/a'b", sampleFrequency := 30 } =
    "path: \"/a\\'b\" sample_frequency: 30 " := by
  decide +kernel

end TelemetryAgent
