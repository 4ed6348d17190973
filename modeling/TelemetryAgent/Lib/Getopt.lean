/-
  Command lines with single-letter options, as `getopt` reads them.

  `loop kind body` is the loop over `getopt` with a body that may end it. `kind` says of a letter
  whether it is an option, and one with an argument. A word that is no option ends the options, and
  so does `--`; here the line is refused if there is anything behind the options.

  A `Cluster` is a word of options without arguments and at most one with an argument at its end,
  which is the rest of the word or the next word. `loop_eq_some_iff`: the lines that are read to
  the end are those of sound clusters, perhaps with a `--` behind them, and the body has the
  options of the clusters in order.
-/
import Mathlib.Data.List.Basic
import Mathlib.Data.List.TakeWhile

namespace TelemetryAgent.Lib

namespace Getopt

variable {α : Type} (kind : Char → Option Bool) (body : α → Char → Option (List Char) → Option α)

/-- `nextchar` is what is left of the current word. -/
def loop : List Char → List (List Char) → α → Option α
  | [], [], a => some a
  | [], ('-' :: c :: nextchar) :: args, a =>
    if c = '-' ∧ nextchar = [] then if args = [] then some a else none
    else loop (c :: nextchar) args a
  | [], _ :: _, _ => none
  | c :: nextchar, args, a =>
    match kind c with
    | none => none
    | some false => (body a c none).bind (loop nextchar args)
    | some true =>
      if nextchar ≠ [] then (body a c (some nextchar)).bind (loop [] args)
      else
        match args with
        | [] => none
        | optarg :: args => (body a c (some optarg)).bind (loop [] args)
termination_by nextchar args => (args.length, nextchar.length)

/-- The kind of a letter in an `optstring`: a colon stands behind those that have an argument. -/
def kindOf (optstring : List Char) (c : Char) : Option Bool :=
  if c = ':' then none
  else
    match optstring.dropWhile (· ≠ c) with
    | [] => none
    | _ :: rest => some (rest.head? = some ':')

theorem mem_of_kindOf {optstring : List Char} {c : Char} {b : Bool}
    (h : kindOf optstring c = some b) : c ∈ optstring := by
  by_contra hc
  have hdrop : optstring.dropWhile (· ≠ c) = [] := by
    rw [List.dropWhile_eq_nil_iff]
    exact fun d hd => decide_eq_true (ne_of_mem_of_not_mem hd hc)
  rw [kindOf, hdrop] at h
  split_ifs at h

/-! ## Clusters -/

/-- Options of one word: letters without arguments, and perhaps one with an argument. -/
structure Cluster where
  flags : List Char
  last : Option (Char × List Char) := none
  attached : Bool := false

namespace Cluster

variable (k : Cluster)

def text : List Char :=
  k.flags ++
    match k.last with
    | none => []
    | some (c, arg) => c :: if k.attached then arg else []

/-- The argument, if it is a word of its own. -/
def more : List (List Char) :=
  match k.last with
  | none => []
  | some (_, arg) => if k.attached then [] else [arg]

def words : List (List Char) := ('-' :: k.text) :: k.more

def options : List (Char × Option (List Char)) :=
  k.flags.map (·, none) ++
    match k.last with
    | none => []
    | some (c, arg) => [(c, some arg)]

/-- The letters are of their kinds, and an argument in the word can be seen. -/
structure Lettered : Prop where
  flags : ∀ c ∈ k.flags, kind c = some false
  last : ∀ c arg, k.last = some (c, arg) → kind c = some true ∧ (k.attached = true → arg ≠ [])

structure Sound : Prop extends Lettered kind k where
  nonempty : k.text ≠ []

end Cluster

/-- The words of a line. -/
def lineOf (ks : List Cluster) (dashes : Bool) : List (List Char) :=
  ks.flatMap Cluster.words ++ if dashes then [['-', '-']] else []

theorem lineOf_cons (k : Cluster) (ks : List Cluster) (dashes : Bool) :
    lineOf (k :: ks) dashes = k.words ++ lineOf ks dashes := by
  rw [lineOf, List.flatMap_cons, List.append_assoc]
  rfl

def optionsOf (ks : List Cluster) : List (Char × Option (List Char)) := ks.flatMap Cluster.options

/-- The body for each of the options in turn. -/
def runBody : α → List (Char × Option (List Char)) → Option α
  | a, [] => some a
  | a, (c, arg) :: os => (body a c arg).bind fun a => runBody a os

variable {kind body}

theorem runBody_singleton (a : α) (c : Char) (arg : Option (List Char)) :
    runBody body a [(c, arg)] = body a c arg := by
  rw [runBody]
  exact Option.bind_fun_some _

theorem runBody_append (a : α) (os os' : List (Char × Option (List Char))) :
    runBody body a (os ++ os') = (runBody body a os).bind fun a => runBody body a os' := by
  induction os generalizing a with
  | nil => rfl
  | cons o os ih =>
    rw [List.cons_append, runBody, runBody, Option.bind_assoc]
    exact congrArg _ (funext fun a => ih a)

/-! ## Lines that are read -/

theorem loop_flag {c : Char} (hc : kind c = some false) (nextchar : List Char)
    (args : List (List Char)) (a : α) :
    loop kind body (c :: nextchar) args a =
      (body a c none).bind (loop kind body nextchar args) := by
  rw [loop.eq_def]
  simp only [hc]

theorem loop_attached {c : Char} (hc : kind c = some true) {arg : List Char} (harg : arg ≠ [])
    (args : List (List Char)) (a : α) :
    loop kind body (c :: arg) args a = (body a c (some arg)).bind (loop kind body [] args) := by
  rw [loop.eq_def]
  simp only [hc, harg, ne_eq, not_false_eq_true, if_true]

theorem loop_separate {c : Char} (hc : kind c = some true) (arg : List Char)
    (args : List (List Char)) (a : α) :
    loop kind body [c] (arg :: args) a = (body a c (some arg)).bind (loop kind body [] args) := by
  rw [loop.eq_def]
  simp only [hc, ne_eq, not_true_eq_false, if_false]

theorem loop_flags {fs : List Char} (h : ∀ c ∈ fs, kind c = some false) (nextchar : List Char)
    (args : List (List Char)) (a : α) :
    loop kind body (fs ++ nextchar) args a =
      (runBody body a (fs.map (·, none))).bind (loop kind body nextchar args) := by
  induction fs generalizing a with
  | nil => rfl
  | cons c fs ih =>
    obtain ⟨hc, hfs⟩ := List.forall_mem_cons.mp h
    rw [List.cons_append, loop_flag hc, List.map_cons, runBody, Option.bind_assoc]
    exact congrArg _ (funext fun a => ih hfs a)

theorem loop_text {k : Cluster} (hk : k.Lettered kind) (args : List (List Char)) (a : α) :
    loop kind body k.text (k.more ++ args) a =
      (runBody body a k.options).bind (loop kind body [] args) := by
  rw [Cluster.text, Cluster.more, Cluster.options, loop_flags hk.flags, runBody_append,
    Option.bind_assoc]
  refine congrArg _ (funext fun a => ?_)
  cases hlast : k.last with
  | none => rfl
  | some o =>
    obtain ⟨c, arg⟩ := o
    obtain ⟨hc, harg⟩ := hk.last c arg hlast
    cases hat : k.attached with
    | true =>
      simp only [if_true, List.nil_append]
      rw [runBody_singleton, loop_attached hc (harg hat)]
    | false =>
      simp only [Bool.false_eq_true, if_false, List.singleton_append]
      rw [runBody_singleton, loop_separate hc]

theorem kind_of_text {k : Cluster} (hk : k.Lettered kind) {c : Char} {cs : List Char}
    (h : k.text = c :: cs) : kind c ≠ none := by
  rw [Cluster.text] at h
  cases hflags : k.flags with
  | cons d fs =>
    rw [hflags, List.cons_append, List.cons.injEq] at h
    rw [← h.1, hk.flags d (hflags ▸ List.mem_cons_self)]
    exact Option.some_ne_none _
  | nil =>
    cases hlast : k.last with
    | none =>
      rw [hflags, hlast] at h
      exact absurd h.symm (List.cons_ne_nil c cs)
    | some o =>
      rw [hflags, hlast, List.nil_append, List.cons.injEq] at h
      rw [← h.1, (hk.last o.1 o.2 hlast).1]
      exact Option.some_ne_none _

theorem loop_words (hdash : kind '-' = none) {k : Cluster} (hk : k.Sound kind)
    (args : List (List Char)) (a : α) :
    loop kind body [] (k.words ++ args) a =
      (runBody body a k.options).bind (loop kind body [] args) := by
  obtain ⟨c, cs, htext⟩ := List.exists_cons_of_ne_nil hk.nonempty
  have hc : c ≠ '-' := by
    rintro rfl
    exact kind_of_text hk.toLettered htext hdash
  rw [← loop_text hk.toLettered, Cluster.words, htext, List.cons_append, loop,
    if_neg fun h => hc h.1]

theorem loop_lineOf (hdash : kind '-' = none) {ks : List Cluster} (hks : ∀ k ∈ ks, k.Sound kind)
    (dashes : Bool) (a : α) :
    loop kind body [] (lineOf ks dashes) a = runBody body a (optionsOf ks) := by
  induction ks generalizing a with
  | nil =>
    cases dashes with
    | true => simp [lineOf, optionsOf, loop, runBody]
    | false => simp [lineOf, optionsOf, loop, runBody]
  | cons k ks ih =>
    obtain ⟨hk, hks⟩ := List.forall_mem_cons.mp hks
    rw [lineOf_cons, loop_words hdash hk, optionsOf, List.flatMap_cons, runBody_append]
    exact congrArg _ (funext fun a => ih hks a)

theorem kind_of_mem_options {k : Cluster} (hk : k.Lettered kind)
    {o : Char × Option (List Char)} (ho : o ∈ k.options) : kind o.1 = some o.2.isSome := by
  obtain ho | ho := List.mem_append.mp ho
  · obtain ⟨c, hc, rfl⟩ := List.mem_map.mp ho
    exact hk.flags c hc
  · cases hlast : k.last with
    | none =>
      rw [hlast] at ho
      exact absurd ho List.not_mem_nil
    | some l =>
      rw [hlast] at ho
      obtain rfl := List.mem_singleton.mp ho
      exact (hk.last l.1 l.2 hlast).1

/-- The options that have an argument are those that should. -/
theorem kind_of_mem_optionsOf {ks : List Cluster} (hks : ∀ k ∈ ks, k.Sound kind)
    {o : Char × Option (List Char)} (ho : o ∈ optionsOf ks) : kind o.1 = some o.2.isSome := by
  obtain ⟨k, hk, ho⟩ := List.mem_flatMap.mp ho
  exact kind_of_mem_options (hks k hk).toLettered ho

/-! ## Lines that are refused -/

theorem more_of_text_eq_nil {k : Cluster} (h : [] = k.text) : k.more = [] := by
  rw [Cluster.text] at h
  obtain ⟨-, hlast⟩ := List.append_eq_nil_iff.mp h.symm
  rw [Cluster.more]
  cases hk : k.last with
  | none => rfl
  | some o =>
    rw [hk] at hlast
    exact absurd hlast (List.cons_ne_nil _ _)

theorem lettered_nil : Cluster.Lettered kind ⟨[], none, false⟩ where
  flags _ h := absurd h List.not_mem_nil
  last _ _ h := absurd h.symm (Option.some_ne_none _)

theorem lettered_last {c : Char} (hc : kind c = some true) {arg : List Char} {attached : Bool}
    (harg : attached = true → arg ≠ []) : Cluster.Lettered kind ⟨[], some (c, arg), attached⟩ where
  flags _ h := absurd h List.not_mem_nil
  last d arg' h := by
    obtain ⟨rfl, rfl⟩ := Prod.mk.inj (Option.some.inj h)
    exact ⟨hc, harg⟩

/-- What is left of a word, and the words behind it, are read to the end only as those of a
    cluster and of clusters behind it. -/
theorem exists_lineOf {nextchar : List Char} {args : List (List Char)} {a b : α}
    (h : loop kind body nextchar args a = some b) :
    ∃ (k : Cluster) (ks : List Cluster) (dashes : Bool), k.Lettered kind ∧
      (∀ k ∈ ks, k.Sound kind) ∧ nextchar = k.text ∧ args = k.more ++ lineOf ks dashes := by
  fun_induction loop kind body nextchar args a with
  | case1 a => exact ⟨⟨[], none, false⟩, [], false, lettered_nil, by simp, rfl, rfl⟩
  | case2 c nextchar a hc =>
    obtain ⟨rfl, rfl⟩ := hc
    exact ⟨⟨[], none, false⟩, [], true, lettered_nil, by simp, rfl, rfl⟩
  | case4 c nextchar args a hc ih =>
    obtain ⟨k, ks, dashes, hk, hks, htext, rfl⟩ := ih h
    have hsound : k.Sound kind := ⟨hk, htext ▸ List.cons_ne_nil c nextchar⟩
    refine ⟨⟨[], none, false⟩, k :: ks, dashes, lettered_nil,
      List.forall_mem_cons.mpr ⟨hsound, hks⟩, rfl, ?_⟩
    rw [htext, lineOf_cons]
    rfl
  | case7 c nextchar args a hc ih =>
    obtain ⟨a', -, hloop⟩ := Option.bind_eq_some_iff.mp h
    obtain ⟨k, ks, dashes, hk, hks, rfl, rfl⟩ := ih a' hloop
    exact ⟨{ k with flags := c :: k.flags }, ks, dashes,
      ⟨List.forall_mem_cons.mpr ⟨hc, hk.flags⟩, hk.last⟩, hks, rfl, rfl⟩
  | case8 c nextchar args a hc harg ih =>
    obtain ⟨a', -, hloop⟩ := Option.bind_eq_some_iff.mp h
    obtain ⟨k, ks, dashes, -, hks, htext, rfl⟩ := ih a' hloop
    rw [more_of_text_eq_nil htext]
    exact ⟨⟨[], some (c, nextchar), true⟩, ks, dashes, lettered_last hc fun _ => harg, hks, rfl, rfl⟩
  | case10 c nextchar a hc hnext optarg args ih =>
    obtain ⟨a', -, hloop⟩ := Option.bind_eq_some_iff.mp h
    obtain ⟨k, ks, dashes, -, hks, htext, rfl⟩ := ih a' hloop
    obtain rfl := not_not.mp hnext
    rw [more_of_text_eq_nil htext]
    exact ⟨⟨[], some (c, optarg), false⟩, ks, dashes, lettered_last hc (by simp), hks, rfl, rfl⟩
  | case3 | case5 | case6 | case9 => exact absurd h.symm (Option.some_ne_none b)

/-- The lines that are read to the end, and what the body has made of them. -/
theorem loop_eq_some_iff (hdash : kind '-' = none) {args : List (List Char)} {a b : α} :
    loop kind body [] args a = some b ↔
      ∃ (ks : List Cluster) (dashes : Bool), (∀ k ∈ ks, k.Sound kind) ∧ args = lineOf ks dashes ∧
        runBody body a (optionsOf ks) = some b := by
  constructor
  · intro h
    obtain ⟨k, ks, dashes, -, hks, htext, rfl⟩ := exists_lineOf h
    rw [more_of_text_eq_nil htext, List.nil_append] at h ⊢
    exact ⟨ks, dashes, hks, rfl, loop_lineOf hdash hks dashes a ▸ h⟩
  · rintro ⟨ks, dashes, hks, rfl, h⟩
    rw [loop_lineOf hdash hks, h]

end Getopt

end TelemetryAgent.Lib
