/-
  A reader of JSON documents without numbers, and the spelling it undoes.

  White space may stand between any two tokens. `read_write`: the reader gives the value of
  every document that `write` writes. The fuel of `readValue` bounds the nesting and the number of
  items; the length of the text is enough.
-/
import TelemetryAgent.Lib.Json

namespace TelemetryAgent.Lib.Json

variable {ν β : Type}

/-! ## Strings -/

def hexDigit (n : Nat) : Char := Nat.digitChar n

def hexValue (c : Char) : Nat :=
  if c.isDigit then c.toNat - '0'.toNat else c.toLower.toNat - 'a'.toNat + 10

/-- The quote, the backslash and the control characters are escaped. -/
def escapeChar (c : Char) : List Char :=
  if c = '"' then ['\\', '"']
  else if c = '\\' then ['\\', '\\']
  else if c.toNat < 32 then ['\\', 'u', '0', '0', hexDigit (c.toNat / 16), hexDigit (c.toNat % 16)]
  else [c]

def plainSpelling : Spelling Empty where
  escape := escapeChar
  number n := n.elim

/-- The character that an escape of one letter stands for. -/
def unescapeChar : Char → Char
  | 'b' => '\x08'
  | 'f' => '\x0c'
  | 'n' => '\n'
  | 'r' => '\r'
  | 't' => '\t'
  | c => c

/-- The string up to the closing quote, and what follows it. -/
def readString : List Char → Option (List Char × List Char)
  | [] => none
  | '"' :: s => some ([], s)
  | '\\' :: 'u' :: h1 :: h2 :: h3 :: h4 :: s =>
    (readString s).map fun (t, s) =>
      (.ofNat (((hexValue h1 * 16 + hexValue h2) * 16 + hexValue h3) * 16 + hexValue h4) :: t, s)
  | '\\' :: c :: s => (readString s).map fun (t, s) => (unescapeChar c :: t, s)
  | c :: s => (readString s).map fun (t, s) => (c :: t, s)

theorem hexValue_hexDigit : ∀ n < 16, hexValue (hexDigit n) = n := by decide

theorem readString_escapeChar (c : Char) (s : List Char) :
    readString (escapeChar c ++ s) = (readString s).map fun (t, s) => (c :: t, s) := by
  unfold escapeChar
  split_ifs with h1 h2 h3
  · subst h1
    simp [readString, unescapeChar]
  · subst h2
    simp [readString, unescapeChar]
  · have hval : ((hexValue '0' * 16 + hexValue '0') * 16 + hexValue (hexDigit (c.toNat / 16))) * 16 +
        hexValue (hexDigit (c.toNat % 16)) = c.toNat := by
      rw [hexValue_hexDigit _ (by omega), hexValue_hexDigit _ (by omega),
        show hexValue '0' = 0 from rfl]
      omega
    simp only [List.cons_append, List.nil_append, readString, hval, Char.ofNat_toNat]
  · simp [readString, h2]

theorem readString_flatMap (t rest : List Char) :
    readString (t.flatMap escapeChar ++ '"' :: rest) = some (t, rest) := by
  induction t with
  | nil => simp [readString]
  | cons c t ih =>
    rw [List.flatMap_cons, List.append_assoc, readString_escapeChar, ih]
    rfl

/-! ## Values -/

def isSpace (c : Char) : Bool := c = ' ' || c = '\t' || c = '\n' || c = '\r'

def skipSpace (s : List Char) : List Char := s.dropWhile isSpace

/-- What follows the first item of a bracket, up to the closing character. -/
def readTail (close : Char) (item : List Char → Option (β × List Char)) :
    Nat → List Char → Option (List β × List Char)
  | 0, _ => none
  | n + 1, s =>
    match skipSpace s with
    | [] => none
    | c :: s =>
      if c = close then some ([], s)
      else if c = ',' then do
        let (b, s) ← item s
        let (bs, s) ← readTail close item n s
        some (b :: bs, s)
      else none

/-- What follows the opening character of a bracket. -/
def readBracket (close : Char) (item : List Char → Option (β × List Char)) (n : Nat)
    (s : List Char) : Option (List β × List Char) :=
  match skipSpace s with
  | [] => none
  | c :: t =>
    if c = close then some ([], t)
    else do
      let (b, s) ← item (c :: t)
      let (bs, s) ← readTail close item n s
      some (b :: bs, s)

def readMember (value : List Char → Option (Json ν × List Char)) (s : List Char) :
    Option ((String × Json ν) × List Char) :=
  match skipSpace s with
  | '"' :: s => do
    let (k, s) ← readString s
    match skipSpace s with
    | ':' :: s => do
      let (j, s) ← value s
      some ((.ofList k, j), s)
    | _ => none
  | _ => none

def readValue : Nat → List Char → Option (Json ν × List Char)
  | 0, _ => none
  | n + 1, s =>
    match skipSpace s with
    | 'n' :: 'u' :: 'l' :: 'l' :: s => some (null, s)
    | 't' :: 'r' :: 'u' :: 'e' :: s => some (bool true, s)
    | 'f' :: 'a' :: 'l' :: 's' :: 'e' :: s => some (bool false, s)
    | '"' :: s => (readString s).map fun (t, s) => (str (.ofList t), s)
    | '[' :: s => (readBracket ']' (readValue n) n s).map fun (js, s) => (arr js, s)
    | '{' :: s => (readBracket '}' (readMember (readValue n)) n s).map fun (ms, s) => (obj ms, s)
    | _ => none

/-- The value of a text that holds one document and nothing else. -/
def read (s : List Char) : Option (Json ν) :=
  match readValue s.length s with
  | some (j, rest) => if skipSpace rest = [] then some j.normalize else none
  | none => none

/-! ## The reader undoes the writer -/

theorem writeItems_eq (sp : Spelling ν) (js : List (Json ν)) :
    writeItems sp js = js.flatMap (fun j => ',' :: write sp j) ++ [']'] := by
  induction js with
  | nil => rfl
  | cons j js ih => simp [writeItems, ih]

theorem writeMembers_eq (sp : Spelling ν) (ms : List (String × Json ν)) :
    writeMembers sp ms =
      ms.flatMap (fun m => ',' :: (sp.quote m.1 ++ ':' :: write sp m.2)) ++ ['}'] := by
  induction ms with
  | nil => rfl
  | cons m ms ih => simp [writeMembers, ih]

theorem skipSpace_cons {c : Char} (h : isSpace c = false) (s : List Char) :
    skipSpace (c :: s) = c :: s := by
  rw [skipSpace, List.dropWhile_cons_of_neg (by simp [h])]

/-- `w b` is the text of the item `b`. -/
theorem readTail_flatMap {close : Char} {item : List Char → Option (β × List Char)}
    {w : β → List Char} (hspace : isSpace close = false) (hclose : close ≠ ',') (rest : List Char)
    (bs : List β) (hitem : ∀ b ∈ bs, ∀ s, item (w b ++ s) = some (b, s)) (n : Nat)
    (hn : bs.length < n) :
    readTail close item n (bs.flatMap (fun b => ',' :: w b) ++ close :: rest) =
      some (bs, rest) := by
  induction bs generalizing n with
  | nil =>
    obtain ⟨n, rfl⟩ : ∃ k, n = k + 1 := ⟨n - 1, by simp at hn; omega⟩
    simp [readTail, skipSpace_cons hspace]
  | cons b bs ih =>
    obtain ⟨n, rfl⟩ : ∃ k, n = k + 1 := ⟨n - 1, by simp at hn; omega⟩
    have hb := hitem b List.mem_cons_self (bs.flatMap (fun b => ',' :: w b) ++ close :: rest)
    have ih := ih (fun b' hb' => hitem b' (List.mem_cons_of_mem b hb')) n (by simpa using hn)
    rw [List.flatMap_cons, List.cons_append, List.cons_append, List.append_assoc, readTail,
      skipSpace_cons (by decide)]
    simp [Ne.symm hclose, hb, ih]

theorem readBracket_cons {close : Char} {item : List Char → Option (β × List Char)}
    {w : β → List Char} (hspace : isSpace close = false) (hclose : close ≠ ',') (rest : List Char)
    (b : β) (bs : List β) (hitem : ∀ b' ∈ b :: bs, ∀ s, item (w b' ++ s) = some (b', s)) (n : Nat)
    (hn : bs.length < n) {c : Char} {t : List Char} (hw : w b = c :: t) (hc : isSpace c = false)
    (hne : c ≠ close) :
    readBracket close item n (w b ++ (bs.flatMap (fun b => ',' :: w b) ++ close :: rest)) =
      some (b :: bs, rest) := by
  have hb := hitem b List.mem_cons_self (bs.flatMap (fun b => ',' :: w b) ++ close :: rest)
  have htail := readTail_flatMap hspace hclose rest bs
    (fun b' hb' => hitem b' (List.mem_cons_of_mem b hb')) n hn
  rw [readBracket]
  rw [hw, List.cons_append] at hb ⊢
  rw [skipSpace_cons hc]
  simp [hne, hb, htail]

/-- The first character of a written document. -/
theorem write_eq_cons (j : Json Empty) :
    ∃ c t, j.write plainSpelling = c :: t ∧ isSpace c = false ∧ c ≠ ']' := by
  match j with
  | null => exact ⟨_, _, rfl, by decide, by decide⟩
  | bool true => exact ⟨_, _, rfl, by decide, by decide⟩
  | bool false => exact ⟨_, _, rfl, by decide, by decide⟩
  | num n => exact n.elim
  | str s => exact ⟨_, _, rfl, by decide, by decide⟩
  | arr [] => exact ⟨_, _, rfl, by decide, by decide⟩
  | arr (j :: js) => exact ⟨_, _, rfl, by decide, by decide⟩
  | obj [] => exact ⟨_, _, rfl, by decide, by decide⟩
  | obj ((k, j) :: ms) => exact ⟨_, _, rfl, by decide, by decide⟩

theorem readMember_quote {value : List Char → Option (Json Empty × List Char)} (k : String)
    (j : Json Empty) (hj : ∀ s, value (j.write plainSpelling ++ s) = some (j, s)) (s : List Char) :
    readMember value (plainSpelling.quote k ++ ':' :: j.write plainSpelling ++ s) =
      some ((k, j), s) := by
  have hk := readString_flatMap k.toList (':' :: (j.write plainSpelling ++ s))
  rw [readMember, Spelling.quote]
  simp only [List.cons_append, List.append_assoc, List.nil_append]
  rw [skipSpace_cons (by decide)]
  simp only [plainSpelling] at hk hj ⊢
  simp [hk, hj, skipSpace_cons (show isSpace ':' = false by decide)]

theorem length_le_length_flatMap {b : β} {bs : List β} (h : b ∈ bs) (w : β → List Char) :
    (w b).length ≤ (bs.flatMap w).length := by
  induction bs with
  | nil => exact absurd h List.not_mem_nil
  | cons b' bs ih =>
    rw [List.flatMap_cons, List.length_append]
    obtain rfl | h := List.mem_cons.mp h
    · omega
    · have := ih h
      omega

theorem length_le_flatMap_cons (bs : List β) (c : Char) (w : β → List Char) :
    bs.length ≤ (bs.flatMap fun b => c :: w b).length := by
  induction bs with
  | nil => exact Nat.le_refl 0
  | cons b bs ih =>
    simp only [List.flatMap_cons, List.length_append, List.length_cons]
    omega

theorem readValue_write (n : Nat) : ∀ (j : Json Empty) (rest : List Char),
    (j.write plainSpelling).length ≤ n → readValue n (j.write plainSpelling ++ rest) = some (j, rest) := by
  induction n with
  | zero =>
    intro j rest hn
    obtain ⟨c, t, hw, -⟩ := write_eq_cons j
    rw [hw] at hn
    exact absurd hn (Nat.not_succ_le_zero _)
  | succ n ih =>
    intro j rest hn
    match j with
    | null => rfl
    | bool true => rfl
    | bool false => rfl
    | num n => exact n.elim
    | str s =>
      have hs := readString_flatMap s.toList rest
      rw [write, Spelling.quote, readValue, List.cons_append, skipSpace_cons (by decide)]
      simp only [plainSpelling, List.append_assoc, List.singleton_append, hs, Option.map_some,
        String.ofList_toList]
    | arr [] => rfl
    | arr (j :: js) =>
      rw [write, writeItems_eq] at hn ⊢
      simp only [List.length_cons, List.length_append, List.length_nil] at hn
      have hitem : ∀ b ∈ j :: js, ∀ s,
          readValue n (b.write plainSpelling ++ s) = some (b, s) := by
        intro b hb s
        apply ih b s
        obtain rfl | hb := List.mem_cons.mp hb
        · omega
        · have := length_le_length_flatMap hb fun j => ',' :: j.write plainSpelling
          rw [List.length_cons] at this
          omega
      have hlen : js.length < n := by
        have := length_le_flatMap_cons js ',' fun j => j.write plainSpelling
        omega
      obtain ⟨c, t, hw, hc, hne⟩ := write_eq_cons j
      have h := readBracket_cons (by decide) (by decide) rest j js hitem n hlen hw hc hne
      rw [readValue, List.cons_append, skipSpace_cons (by decide)]
      simp only [List.append_assoc, List.singleton_append, h, Option.map_some]
    | obj [] => rfl
    | obj ((k, j) :: ms) =>
      rw [write, writeMembers_eq] at hn ⊢
      simp only [List.length_cons, List.length_append, List.length_nil] at hn
      have hitem : ∀ m ∈ (k, j) :: ms, ∀ s,
          readMember (readValue n) (plainSpelling.quote m.1 ++ ':' :: m.2.write plainSpelling ++ s) =
            some (m, s) := by
        intro m hm s
        apply readMember_quote m.1 m.2
        intro s
        apply ih m.2 s
        obtain rfl | hm := List.mem_cons.mp hm
        · dsimp only
          omega
        · have := length_le_length_flatMap hm fun m =>
            ',' :: (plainSpelling.quote m.1 ++ ':' :: m.2.write plainSpelling)
          simp only [List.length_cons, List.length_append] at this
          omega
      have hlen : ms.length < n := by
        have := length_le_flatMap_cons ms ',' fun m =>
          plainSpelling.quote m.1 ++ ':' :: m.2.write plainSpelling
        omega
      have hw : plainSpelling.quote k ++ ':' :: j.write plainSpelling =
        '"' :: (k.toList.flatMap plainSpelling.escape ++ ['"'] ++ ':' :: j.write plainSpelling) := rfl
      have h := readBracket_cons (show isSpace '}' = false by decide) (by decide) rest (k, j) ms
        hitem n hlen hw (by decide) (by decide)
      rw [readValue, List.cons_append, skipSpace_cons (by decide)]
      simp only [List.append_assoc, List.cons_append, List.nil_append] at h ⊢
      simp only [h, Option.map_some]

theorem read_write (j : Json Empty) : read (j.write plainSpelling) = some j.normalize := by
  have h := readValue_write _ j [] (Nat.le_refl _)
  rw [List.append_nil] at h
  rw [read, h]
  rfl

/-- To know what the reader makes of a text it is enough to write that again. -/
theorem read_ofList {s : List Char} {j : Json Empty}
    (h : (readValue s.length s).map (fun x => (x.1.write plainSpelling, skipSpace x.2)) =
      some (j.write plainSpelling, [])) : read (String.ofList s).toList = some j.normalize := by
  obtain ⟨⟨j', rest⟩, hv, he⟩ := Option.map_eq_some_iff.mp h
  obtain ⟨hw, hrest⟩ := Prod.mk.inj he
  have h1 := readValue_write _ j [] (Nat.le_refl _)
  rw [← hw, readValue_write _ j' [] (Nat.le_refl _)] at h1
  obtain ⟨rfl, -⟩ := Prod.mk.inj (Option.some.inj h1)
  rw [String.toList_ofList, read, hv]
  simp [hrest]

end TelemetryAgent.Lib.Json
