/-
  The texts that `ini_parse_stream` is for, as lists of laid out lines, and what it makes of them.

  An `Entry` is a line with all that may be chosen freely in it: the white space, the separator,
  what is behind a `;`. `iniParseStream_layout`: for a handler that takes every value the reader
  returns the number of the first line that makes no sense, or 0, and gives the handler the values
  of the other lines in order, each with the section and the name that it stands under.
-/
import TelemetryAgent.Inih.Ini

namespace TelemetryAgent

open Lib

namespace Ini

/-! ## The lines -/

inductive Entry where
  | blank (space : List Char)
  | comment (space : List Char) (mark : Char) (text : List Char)
  | heading (name trail : List Char)
  | pair (name gap : List Char) (separator : Char) (lead value trail : List Char)
      (note : Option (List Char))
  /-- The next line of a value. -/
  | more (space text trail : List Char)
  | nonsense (text : List Char)
  deriving DecidableEq, Repr

def inlineComment : Option (List Char) → List Char
  | none => []
  | some text => ';' :: text

def Entry.text : Entry → List Char
  | .blank space => space
  | .comment space mark text => space ++ mark :: text
  | .heading name trail => '[' :: (name ++ ']' :: trail)
  | .pair name gap separator lead value trail note =>
    name ++ gap ++ separator :: (lead ++ value ++ trail ++ inlineComment note)
  | .more space text trail => space ++ text ++ trail
  | .nonsense text => text

def Blank (s : List Char) : Prop := ∀ c ∈ s, isspace c = true

/-- No white space at either end. -/
def Trimmed (s : List Char) : Prop :=
  (∀ c ∈ s.head?, isspace c = false) ∧ ∀ c ∈ s.getLast?, isspace c = false

/-- No semicolon is behind a white space. `wasSpace` is that one is in front of the text. -/
def NoComment (wasSpace : Bool) : List Char → Prop
  | [] => True
  | c :: s => ¬ (wasSpace = true ∧ c = ';') ∧ NoComment (isspace c) s

/-- The text begins with none of the characters. -/
def NotAt (chars : List Char) (s : List Char) : Prop := ∀ c ∈ s.head?, c ∉ chars

def Entry.Sound : Entry → Prop
  | .blank space => Blank space
  | .comment space mark _ => Blank space ∧ mark ∈ [';', '#']
  | .heading name _ => ']' ∉ name ∧ NoComment false name ∧ name.length < maxSection
  | .pair name gap separator lead value trail note =>
    name ≠ [] ∧ Trimmed name ∧ NotAt [';', '#', '['] name ∧ (∀ c ∈ name, c ∉ ['=', ':']) ∧
      NoComment false name ∧ name.length < maxName ∧ Blank gap ∧ separator ∈ ['=', ':'] ∧
      Blank lead ∧ Trimmed value ∧ NoComment false value ∧ Blank trail ∧
      (note ≠ none → value ≠ [] ∧ trail ≠ [])
  | .more space text trail =>
    space ≠ [] ∧ Blank space ∧ text ≠ [] ∧ Trimmed text ∧ NotAt [';', '#'] text ∧ Blank trail
  | .nonsense text =>
    text ≠ [] ∧ Trimmed text ∧ NotAt [';', '#'] text ∧
      if text.head? = some '[' then ']' ∉ text else ∀ c ∈ text, c ∉ ['=', ':']

/-- The text of the line fits in the buffer, and is a C string on one line. -/
def Entry.Fits (e : Entry) : Prop :=
  '\n' ∉ e.text ∧ '\x00' ∉ e.text ∧ e.text.length + 1 < iniMaxLine ∧ ¬ Parser.bom <+: e.text

/-- A value is continued only below a value of the same section. -/
def Placed (below : Bool) : List Entry → Prop
  | [] => True
  | .heading _ _ :: es => Placed false es
  | .pair _ _ _ _ _ _ _ :: es => Placed true es
  | .more _ _ _ :: es => below = true ∧ Placed below es
  | _ :: es => Placed below es

instance (s : List Char) : Decidable (Blank s) := List.decidableBAll (fun c => isspace c = true) s

instance (s : List Char) : Decidable (Trimmed s) :=
  @instDecidableAnd _ _ (Option.decidableForallMem _) (Option.decidableForallMem _)

instance NoComment.decidable : (wasSpace : Bool) → (s : List Char) → Decidable (NoComment wasSpace s)
  | _, [] => isTrue trivial
  | _, c :: s => @instDecidableAnd _ _ inferInstance (NoComment.decidable (isspace c) s)

instance (chars s : List Char) : Decidable (NotAt chars s) :=
  Option.decidableForallMem s.head?

instance : DecidablePred Entry.Sound := fun e => by
  -- By the characters of the text; another instance goes through all that there are.
  haveI : ∀ s chars : List Char, Decidable (∀ c ∈ s, c ∉ chars) := fun s _ =>
    List.decidableBAll _ s
  cases e <;> unfold Entry.Sound <;> infer_instance

instance : DecidablePred Entry.Fits := fun e => by
  unfold Entry.Fits
  infer_instance

instance Placed.decidable : (below : Bool) → (es : List Entry) → Decidable (Placed below es)
  | _, [] => isTrue trivial
  | _, .heading _ _ :: es => Placed.decidable false es
  | _, .pair _ _ _ _ _ _ _ :: es => Placed.decidable true es
  | below, .more _ _ _ :: es => @instDecidableAnd _ _ inferInstance (Placed.decidable below es)
  | below, .blank _ :: es => Placed.decidable below es
  | below, .comment _ _ _ :: es => Placed.decidable below es
  | below, .nonsense _ :: es => Placed.decidable below es

def layout (es : List Entry) : List Char := es.flatMap fun e => e.text ++ ['\n']

/-! ## What they say -/

/-- A value, with its section and its name. -/
structure Setting where
  inSection : List Char
  name : List Char
  value : List Char
  deriving DecidableEq, Repr

/-- The settings of the lines, below the name `prevName` of a section. -/
def settings (inSection prevName : List Char) : List Entry → List Setting
  | [] => []
  | .heading name _ :: es => settings name [] es
  | .pair name _ _ _ value _ _ :: es => ⟨inSection, name, value⟩ :: settings inSection name es
  | .more _ text _ :: es => ⟨inSection, prevName, text⟩ :: settings inSection prevName es
  | _ :: es => settings inSection prevName es

/-- The number of the first line that makes no sense, where the first line is `lineno`. -/
def firstNonsense (lineno : Nat) : List Entry → Nat
  | [] => 0
  | .nonsense _ :: _ => lineno
  | _ :: es => firstNonsense (lineno + 1) es

/-- What is behind `user` when the handler has been given the settings in order. -/
def collect {υ : Type} (handler : Handler υ) (user : υ) (l : List Setting) : υ :=
  l.foldl (fun u x => (handler u x.inSection x.name x.value).2) user

/-! ## Stripping -/

theorem rstrip_append_blank {s t : List Char} (ht : Blank t) : rstrip (s ++ t) = rstrip s :=
  rdropWhile_append_of_forall ht

theorem rstrip_blank {s : List Char} (hs : Blank s) : rstrip s = [] :=
  List.rdropWhile_eq_nil_iff.mpr hs

theorem lskip_blank_append {s t : List Char} (hs : Blank s) : lskip (s ++ t) = lskip t :=
  List.dropWhile_append_of_pos hs

theorem lskip_cons {c : Char} (hc : isspace c = false) (s : List Char) : lskip (c :: s) = c :: s :=
  List.dropWhile_cons_of_neg (by simp [hc])

theorem rstrip_append_cons {c : Char} (hc : isspace c = false) (s t : List Char) :
    rstrip (s ++ c :: t) = s ++ c :: rstrip t := by
  induction t using List.reverseRecOn with
  | nil => exact List.rdropWhile_concat_neg _ _ _ (by simp [hc])
  | append_singleton t d ih =>
    unfold rstrip at ih ⊢
    rw [← List.cons_append, ← List.append_assoc, List.rdropWhile_concat, List.rdropWhile_concat]
    split_ifs with hd
    · exact ih
    · rw [List.append_assoc, List.cons_append]

theorem Trimmed.rstrip_eq {s : List Char} (h : Trimmed s) : rstrip s = s := by
  rw [rstrip, List.rdropWhile_eq_self_iff]
  intro hs
  simp [h.2 _ (List.getLast?_eq_getLast_of_ne_nil hs)]

theorem Trimmed.lskip_append {s : List Char} (h : Trimmed s) (hs : s ≠ []) (t : List Char) :
    lskip (s ++ t) = s ++ t := by
  obtain ⟨c, s, rfl⟩ := List.exists_cons_of_ne_nil hs
  exact lskip_cons (h.1 c rfl) _

theorem Trimmed.lskip_eq {s : List Char} (h : Trimmed s) : lskip s = s := by
  cases s with
  | nil => rfl
  | cons c s => exact lskip_cons (h.1 c rfl) s

/-! ## Searching -/

/-- A text with none of the characters and no comment is passed over. -/
theorem findCharsOrComment_append {chars s : List Char} {wasSpace : Bool} (t : List Char)
    (hs : ∀ c ∈ s, c ∉ chars) (hn : NoComment wasSpace s) :
    findCharsOrComment chars wasSpace (s ++ t) =
      (s ++ (findCharsOrComment chars (s.foldl (fun _ c => isspace c) wasSpace) t).1,
        (findCharsOrComment chars (s.foldl (fun _ c => isspace c) wasSpace) t).2) := by
  induction s generalizing wasSpace with
  | nil => rfl
  | cons c s ih =>
    obtain ⟨hc, hs⟩ := List.forall_mem_cons.mp hs
    have hpass : ¬ ((c ∈ chars || (wasSpace && c ∈ iniInlineCommentPrefixes)) = true) := by
      have := hn.1
      simpa [iniInlineCommentPrefixes, hc] using this
    rw [List.cons_append, findCharsOrComment, if_neg hpass, ih hs hn.2]
    rfl

theorem findCharsOrComment_self {chars s : List Char} {wasSpace : Bool}
    (hs : ∀ c ∈ s, c ∉ chars) (hn : NoComment wasSpace s) :
    findCharsOrComment chars wasSpace s = (s, []) := by
  have h := findCharsOrComment_append (t := []) hs hn
  rwa [List.append_nil, findCharsOrComment, List.append_nil] at h

theorem findCharsOrComment_found {chars : List Char} {c : Char} (hc : c ∈ chars)
    (wasSpace : Bool) (s : List Char) :
    findCharsOrComment chars wasSpace (c :: s) = ([], c :: s) := by
  rw [findCharsOrComment, if_pos (by simp [hc])]

theorem noComment_append {s t : List Char} {wasSpace : Bool} :
    NoComment wasSpace (s ++ t) ↔
      NoComment wasSpace s ∧ NoComment (s.foldl (fun _ c => isspace c) wasSpace) t := by
  induction s generalizing wasSpace with
  | nil => simp [NoComment]
  | cons c s ih =>
    rw [List.cons_append, NoComment, NoComment, ih, and_assoc]
    rfl

theorem Blank.not_mem {s : List Char} (hs : Blank s) {c : Char} (hc : isspace c = false) :
    c ∉ s := by
  intro hmem
  rw [hs c hmem] at hc
  exact absurd hc (by simp)

theorem Blank.noComment {s : List Char} (hs : Blank s) (wasSpace : Bool) : NoComment wasSpace s := by
  induction s generalizing wasSpace with
  | nil => trivial
  | cons c s ih =>
    refine ⟨?_, ih (fun d hd => hs d (List.mem_cons_of_mem c hd)) _⟩
    rintro ⟨-, rfl⟩
    exact absurd (hs ';' List.mem_cons_self) (by decide)

theorem Blank.foldl_isspace {s : List Char} (hs : Blank s) (hne : s ≠ []) (wasSpace : Bool) :
    s.foldl (fun _ c => isspace c) wasSpace = true := by
  obtain ⟨s, c, rfl⟩ := (List.eq_nil_or_concat' s).resolve_left hne
  rw [List.foldl_append]
  exact hs c (by simp)

theorem Trimmed.rstrip_append {s : List Char} (h : Trimmed s) (hs : s ≠ []) (t : List Char) :
    rstrip (t ++ s) = t ++ s := by
  obtain ⟨s, c, rfl⟩ := (List.eq_nil_or_concat' s).resolve_left hs
  have hc : isspace c = false := h.2 c (by simp)
  rw [← List.append_assoc]
  exact List.rdropWhile_concat_neg _ _ _ (by simp [hc])

/-! ## A line -/

variable {υ : Type} {handler : Handler υ}

/-- What the reader does on the line, below its number. -/
def Entry.act (handler : Handler υ) (p : Parser υ) : Entry → Parser υ
  | .heading name _ => { p with inSection := name, prevName := [] }
  | .pair name _ _ _ value _ _ =>
    { p with prevName := name, user := (handler p.user p.inSection name value).2 }
  | .more _ text _ => { p with user := (handler p.user p.inSection p.prevName text).2 }
  | .nonsense _ => p.fail
  | _ => p

/-- The handler takes every value. -/
def Accepts (handler : Handler υ) : Prop := ∀ u a b c, (handler u a b c).1 = true

theorem call_of_accepts (h : Accepts handler) (p : Parser υ) (name value : List Char) :
    p.call handler name value =
      { p with user := (handler p.user p.inSection name value).2 } := by
  unfold Parser.call
  simp only [h p.user p.inSection name value, if_true]

theorem strncpy0_of_lt {s : List Char} {size : Nat} (h : s.length < size) :
    strncpy0 s size = s := List.take_of_length_le (Nat.le_sub_one_of_lt h)

/-- A line that is not indented and no comment. -/
theorem statement_cons {c : Char} (hc : isspace c = false) (hmark : c ∉ [';', '#'])
    (p : Parser υ) (s : List Char) :
    p.statement handler false (c :: s) =
      if c = '[' then p.heading s else p.pair handler (c :: s) := by
  have hcomment : ¬ ((c = ';' || c = '#') = true) := by simpa using hmark
  unfold Parser.statement
  simp only [lskip_cons hc, if_neg hcomment, ne_eq, not_true_eq_false, decide_false, Bool.or_self,
    Bool.and_false, Bool.false_eq_true, if_false]

theorem heading_of_sound {name trail : List Char} (h : (Entry.heading name trail).Sound)
    (p : Parser υ) (rest : List Char) :
    p.heading (name ++ ']' :: rest) = { p with inSection := name, prevName := [] } := by
  obtain ⟨hname, hnote, hlen⟩ := h
  have hfind : findCharsOrComment [']'] false (name ++ ']' :: rest) = (name, ']' :: rest) := by
    rw [findCharsOrComment_append _ (fun c hc => by
        rw [List.mem_singleton]
        rintro rfl
        exact hname hc) hnote, findCharsOrComment_found (List.mem_singleton_self _),
      List.append_nil]
  unfold Parser.heading
  rw [hfind]
  simp only [strncpy0_of_lt hlen]

/-- What is behind the separator, stripped and without its comment, is the value. -/
theorem value_of_sound {lead value trail : List Char} {note : Option (List Char)}
    (hlead : Blank lead) (hvalue : Trimmed value) (hclean : NoComment false value)
    (htrail : Blank trail) (hnote : note ≠ none → value ≠ [] ∧ trail ≠ []) :
    rstrip (findCharsOrComment [] false
      (lskip (rstrip (lead ++ value ++ trail ++ inlineComment note)))).1 = value := by
  cases note with
  | none =>
    rw [inlineComment, List.append_nil, rstrip_append_blank htrail]
    by_cases hnil : value = []
    · subst hnil
      rw [List.append_nil, rstrip_blank hlead]
      rfl
    · rw [hvalue.rstrip_append hnil, lskip_blank_append hlead, hvalue.lskip_eq,
        findCharsOrComment_self (by simp) hclean, hvalue.rstrip_eq]
  | some text =>
    obtain ⟨hnil, hspace⟩ := hnote (by simp)
    rw [inlineComment, rstrip_append_cons (by decide), List.append_assoc lead,
      List.append_assoc lead, lskip_blank_append hlead, List.append_assoc value,
      hvalue.lskip_append hnil, findCharsOrComment_append _ (by simp) hclean,
      findCharsOrComment_append _ (by simp) (htrail.noComment _), htrail.foldl_isspace hspace,
      findCharsOrComment, if_pos (by decide)]
    simp only [List.append_nil]
    rw [rstrip_append_blank htrail, hvalue.rstrip_eq]

theorem pair_of_sound {name gap lead value trail : List Char} {separator : Char}
    {note : Option (List Char)} (haccepts : Accepts handler)
    (h : (Entry.pair name gap separator lead value trail note).Sound) (p : Parser υ) :
    p.pair handler
        (name ++ gap ++ separator :: rstrip (lead ++ value ++ trail ++ inlineComment note)) =
      { p with prevName := name, user := (handler p.user p.inSection name value).2 } := by
  obtain ⟨hnil, htrim, -, hchars, hclean, hlen, hgap, hsep, hlead, hvalue, hvclean, htrail, hnote⟩ := h
  have hpass : ∀ c ∈ name ++ gap, c ∉ ['=', ':'] := by
    intro c hc
    obtain hc | hc := List.mem_append.mp hc
    · exact hchars c hc
    · intro hmem
      have hspace : isspace c = false := by
        simp only [List.mem_cons, List.not_mem_nil, or_false] at hmem
        obtain rfl | rfl := hmem
        · decide
        · decide
      exact hgap.not_mem hspace hc
  have hfind := findCharsOrComment_append
    (separator :: rstrip (lead ++ value ++ trail ++ inlineComment note)) hpass
    (noComment_append.mpr ⟨hclean, hgap.noComment _⟩)
  rw [findCharsOrComment_found hsep, List.append_nil] at hfind
  have hsep' : separator = '=' ∨ separator = ':' := by simpa using hsep
  unfold Parser.pair
  rw [hfind]
  simp only [Bool.or_eq_true, decide_eq_true_eq, if_pos hsep']
  rw [value_of_sound hlead hvalue hvclean htrail hnote, rstrip_append_blank hgap, htrim.rstrip_eq,
    strncpy0_of_lt hlen, call_of_accepts haccepts]

/-- Nothing is lost. -/
theorem append_findCharsOrComment (chars : List Char) (wasSpace : Bool) (s : List Char) :
    (findCharsOrComment chars wasSpace s).1 ++ (findCharsOrComment chars wasSpace s).2 = s := by
  fun_induction findCharsOrComment chars wasSpace s with
  | case1 => rfl
  | case2 => rfl
  | case3 wasSpace c s h r ih => exact congrArg (c :: ·) ih

/-- What is found has been there. -/
theorem mem_of_findCharsOrComment {chars s before rest : List Char} {wasSpace : Bool} {c : Char}
    (h : findCharsOrComment chars wasSpace s = (before, c :: rest)) : c ∈ s := by
  have := append_findCharsOrComment chars wasSpace s
  rw [h] at this
  rw [← this]
  exact List.mem_append_right _ List.mem_cons_self

theorem heading_fail {s : List Char} (hs : ']' ∉ s) (p : Parser υ) : p.heading s = p.fail := by
  unfold Parser.heading
  split
  · next h => exact absurd (mem_of_findCharsOrComment h) hs
  · rfl

theorem pair_fail {s : List Char} (hs : ∀ c ∈ s, c ∉ ['=', ':']) (p : Parser υ) :
    p.pair handler s = p.fail := by
  unfold Parser.pair
  split
  · next c _ h =>
    have hc := hs c (mem_of_findCharsOrComment h)
    rw [if_neg (by simpa using hc)]
  · rfl

theorem NotAt.head {chars s : List Char} {c : Char} (h : NotAt chars (c :: s)) : c ∉ chars := h c rfl

/-- What the reader does on the text of a line. -/
theorem statement_entry (haccepts : Accepts handler) {e : Entry} (he : e.Sound) (p : Parser υ)
    (hplace : ∀ space text trail, e = .more space text trail → p.prevName ≠ []) :
    p.statement handler false (rstrip e.text) = e.act handler p := by
  cases e with
  | blank space =>
    rw [Entry.text, rstrip_blank he]
    rfl
  | comment space mark text =>
    obtain ⟨hspace, hmark⟩ := he
    have hc : isspace mark = false := by
      simp only [List.mem_cons, List.not_mem_nil, or_false] at hmark
      obtain rfl | rfl := hmark
      · decide
      · decide
    have hcomment : (mark = ';' || mark = '#') = true := by simpa using hmark
    unfold Parser.statement
    simp only [Entry.text, rstrip_append_cons hc, lskip_blank_append hspace, lskip_cons hc,
      if_pos hcomment]
    rfl
  | heading name trail =>
    have htext : rstrip (Entry.heading name trail).text = '[' :: (name ++ ']' :: rstrip trail) := by
      rw [Entry.text, ← List.cons_append, rstrip_append_cons (by decide)]
      rfl
    rw [htext, statement_cons (by decide) (by decide), if_pos rfl, heading_of_sound he]
    rfl
  | pair name gap separator lead value trail note =>
    obtain ⟨hnil, htrim, hat, -, -, -, -, hsep, -⟩ := id he
    obtain ⟨c, rest, hname⟩ := List.exists_cons_of_ne_nil hnil
    have hc : isspace separator = false := by
      simp only [List.mem_cons, List.not_mem_nil, or_false] at hsep
      obtain rfl | rfl := hsep
      · decide
      · decide
    have hat' := (hname ▸ hat).head
    simp only [List.mem_cons, List.not_mem_nil, or_false, not_or] at hat'
    have hpair := pair_of_sound haccepts he p
    rw [Entry.text, rstrip_append_cons hc]
    rw [hname, List.cons_append, List.cons_append] at hpair ⊢
    rw [statement_cons (htrim.1 c (by rw [hname]; rfl)) (by simp [hat'.1, hat'.2.1]),
      if_neg hat'.2.2, hpair]
    rfl
  | more space text trail =>
    obtain ⟨hne, hspace, hnil, htrim, hat, htrail⟩ := he
    obtain ⟨c, rest, rfl⟩ := List.exists_cons_of_ne_nil hnil
    have hc : isspace c = false := htrim.1 c rfl
    have hat' := hat.head
    have hcomment : ¬ ((c = ';' || c = '#') = true) := by simpa using hat'
    have hindent : c :: rest ≠ space ++ c :: rest := by
      intro h
      have := congrArg List.length h
      rw [List.length_append] at this
      exact hne (List.length_eq_zero_iff.mp (by omega))
    unfold Parser.statement
    simp only [Entry.text, rstrip_append_blank htrail, htrim.rstrip_append hnil,
      lskip_blank_append hspace, lskip_cons hc, if_neg hcomment, ne_eq, hplace _ _ _ rfl, hindent,
      not_false_eq_true, decide_true, Bool.or_true, Bool.and_self, if_true]
    rw [call_of_accepts haccepts]
    rfl
  | nonsense text =>
    obtain ⟨hnil, htrim, hat, hchars⟩ := he
    obtain ⟨c, rest, rfl⟩ := List.exists_cons_of_ne_nil hnil
    have hc : isspace c = false := htrim.1 c rfl
    rw [Entry.text, htrim.rstrip_eq, statement_cons hc hat.head]
    split_ifs with hopen
    · rw [if_pos (by rw [hopen]; rfl)] at hchars
      exact heading_fail (fun hmem => hchars (List.mem_cons_of_mem c hmem)) p
    · rw [if_neg (by simpa using hopen)] at hchars
      exact pair_fail hchars p

/-! ## The text -/

/-- What the buffer holds is a C string again without its NUL. -/
theorem turn_line {e : Entry} (he : e.Sound) (hfits : e.Fits) (haccepts : Accepts handler)
    (p : Parser υ) (hplace : ∀ space text trail, e = .more space text trail → p.prevName ≠ []) :
    p.turn handler (e.text ++ ['\n']) = e.act handler { p with lineno := p.lineno + 1 } := by
  obtain ⟨hline, hnul, -, hbom⟩ := hfits
  have hcstr : cString (e.text ++ ['\n']) = e.text ++ ['\n'] :=
    cString_eq_self_iff.mpr (by simpa using hnul)
  have hmarked : Parser.bom.isPrefixOf (e.text ++ ['\n']) = false := by
    rw [Bool.eq_false_iff, ne_eq, List.isPrefixOf_iff_prefix, List.prefix_concat_iff]
    rintro (heq | hpre)
    · have hlast := congrArg List.getLast? heq
      rw [List.getLast?_concat] at hlast
      exact absurd hlast (by decide)
    · exact hbom hpre
  unfold Parser.turn
  simp only [hcstr, hmarked, Bool.and_false, Bool.false_eq_true, if_false]
  rw [rstrip_append_blank (t := ['\n']) (by simp [Blank]; decide)]
  exact statement_entry haccepts he _ hplace

/-- The loop over the lines of a text. -/
theorem foldl_turn (haccepts : Accepts handler) {es : List Entry} {below : Bool}
    (hsound : ∀ e ∈ es, e.Sound ∧ e.Fits) (hplaced : Placed below es) {p : Parser υ}
    (hbelow : below = true → p.prevName ≠ []) :
    let q := (es.map fun e => e.text ++ ['\n']).foldl (Parser.turn handler) p
    q.error = (if p.error = 0 then firstNonsense (p.lineno + 1) es else p.error) ∧
      q.user = collect handler p.user (settings p.inSection p.prevName es) := by
  induction es generalizing below p with
  | nil => simp [firstNonsense, settings, collect]
  | cons e es ih =>
    obtain ⟨⟨he, hfits⟩, hrest⟩ := List.forall_mem_cons.mp hsound
    have hturn : p.turn handler (e.text ++ ['\n']) =
        e.act handler { p with lineno := p.lineno + 1 } := by
      refine turn_line he hfits haccepts p fun space text trail h => ?_
      subst h
      exact hbelow hplaced.1
    rw [List.map_cons, List.foldl_cons, hturn]
    cases e with
    | blank space => exact ih hrest hplaced hbelow
    | comment space mark text => exact ih hrest hplaced hbelow
    | heading name trail => exact ih hrest hplaced (fun h => absurd h (by decide))
    | pair name gap separator lead value trail note => exact ih hrest hplaced (fun _ => he.1)
    | more space text trail => exact ih hrest hplaced.2 hbelow
    | nonsense text =>
      by_cases herror : p.error = 0
      · have hfail : Entry.act handler { p with lineno := p.lineno + 1 } (.nonsense text) =
            { p with lineno := p.lineno + 1, error := p.lineno + 1 } := if_pos herror
        rw [hfail, if_pos herror]
        exact ih hrest hplaced hbelow
      · have hfail : Entry.act handler { p with lineno := p.lineno + 1 } (.nonsense text) =
            { p with lineno := p.lineno + 1 } := if_neg herror
        rw [hfail, if_neg herror]
        have h := ih (p := { p with lineno := p.lineno + 1 }) hrest hplaced hbelow
        simp only [if_neg herror] at h
        exact h

/-- The reader undoes the layout: it finds the first line that makes no sense, and gives the
    settings of the others to the handler. -/
theorem iniParseStream_layout (haccepts : Accepts handler) {es : List Entry}
    (hsound : ∀ e ∈ es, e.Sound ∧ e.Fits) (hplaced : Placed false es) (user : υ) :
    iniParseStream handler user (layout es) =
      (firstNonsense 1 es, collect handler user (settings [] [] es)) := by
  have hlines := fgetsAll_lines iniMaxLine (es.map Entry.text) fun line hline => by
    obtain ⟨e, he, rfl⟩ := List.mem_map.mp hline
    exact ⟨(hsound e he).2.1, (hsound e he).2.2.2.1⟩
  have htext : (es.map Entry.text).flatMap (· ++ ['\n']) = layout es := List.flatMap_map ..
  rw [htext, List.map_map] at hlines
  obtain ⟨herror, huser⟩ := foldl_turn haccepts hsound hplaced (p := { user := user })
    (fun h => absurd h (by decide))
  unfold iniParseStream
  rw [hlines]
  exact Prod.ext herror huser

end Ini

end TelemetryAgent
