/-
  `AgentParser` and `CommandContext` (AgentClientParser.hpp): what a line of input writes to the
  two arrays of `MAX_ARGS` pointers, `cmd` of the parser and `arguments` of the context.

  Nothing in the source compares the number of tokens with `MAX_ARGS`, and the terminating NULL
  takes one more element. `safe_iff`: the stores are in the arrays and the vector passed on has
  its NULL exactly if there are fewer than `MAX_ARGS` tokens, or as many for a command that the
  parser handles itself.
-/
import Mathlib.Logic.Function.Basic
import TelemetryAgent.Lib.Text

namespace TelemetryAgent

open Lib

/-- `MAX_BUFFER` -/
def maxBuffer : Nat := 1024

/-- `MAX_ARGS` -/
def maxArgs : Nat := 40

abbrev Token := List Char

/-- A store to an element of an array of C strings; `none` is NULL. -/
structure Store where
  index : Nat
  value : Option Token
  deriving DecidableEq

/-- An array as it is read; it is read outside of its bounds too. -/
abbrev Argv := Nat → Option Token

namespace AgentParser

/-! ## The commands -/

/-- `agent_client_commands`: the name of each command and its `e_argc`. -/
def agentClientCommands : List (String × Nat) :=
  [("subscribe", 4), ("set-server", 2), ("get-server", 1), ("subscribe_limits", 6),
    ("subscribe_n", 4), ("subscribe_telegraf", 4), ("unsubscribe", 2), ("unsubscribe_id", 2),
    ("list-all", 1), ("list", 2), ("get-oper-all", 1), ("get-oper", 2), ("get-oper-mgmt", 1),
    ("print", 1), ("build-lag", 3), ("clean-lag", 1), ("print-lag", 2)]

/-- `lookupCmd`: the `e_argc` of the command. The names are distinct. -/
def lookupCmd (cmd : Token) : Option Nat :=
  (agentClientCommands.find? fun e => e.1.toList = cmd).map Prod.snd

def isHelp (cmd : Token) : Bool := cmd = "help".toList || cmd = "?".toList

def isExit (cmd : Token) : Bool := cmd = "exit".toList || cmd = "quit".toList

/-! ## A line -/

/-- What `strtok` with the delimiter `" "` returns in turn: the pieces between spaces that are
    not empty. -/
def strtok (input : List Char) : List Token := (input.splitOn ' ').filter fun t => t ≠ []

/-- The loop of `parseArg` from the index `i` on: the stores to `cmd`, and the index after the
    last one. -/
def storeTokens (i : Nat) : List Token → List Store × Nat
  | [] => ([], i)
  | cnd :: rest =>
    let (stores, argc) := storeTokens (i + 1) rest
    (⟨i, some cnd⟩ :: stores, argc)

/-- `parseArg` on the line that is in `input`, a C string. -/
def parseArg (input : List Char) : List Store × Nat := storeTokens 0 (strtok (cString input))

/-- `cmd` after `clean` and the stores. -/
def cells (stores : List Store) : Argv :=
  stores.foldl (fun cmd s => Function.update cmd s.index s.value) fun _ => none

/-- The stores of the constructor of `CommandContext` to `arguments`. -/
def commandContext (argc : Nat) (argv : Argv) : List Store :=
  (List.range argc).map (fun i => ⟨i, argv i⟩) ++ [⟨argc, none⟩]

/-- `execute`: the stores of the context, if there is one. -/
def execute (argc : Nat) (argv : Argv) : List Store :=
  match argv 0 with
  | none => []
  | some cmd =>
    match lookupCmd cmd with
    | none => []
    | some eArgc => if argc < eArgc then [] else commandContext argc argv

/-- How a turn of `parseLoop` ends. -/
inductive TurnEnd
  | again
  | leave
  | run (argc : Nat) (argv : Argv)

/-- A turn of `parseLoop` once the line is in `input`: the stores to `cmd`, and what comes. -/
def turn (input : List Char) : List Store × TurnEnd :=
  let (stores, argc) := parseArg input
  let argv := cells stores
  match argv 0 with
  | none => (stores, .again)
  | some cmd =>
    if isHelp cmd then (stores, .again)
    else if isExit cmd then (stores, .leave)
    else (stores, .run argc argv)

def InBounds (l : List Store) : Prop := ∀ s ∈ l, s.index < maxArgs

instance : DecidablePred InBounds := fun _ => inferInstanceAs (Decidable (∀ _ ∈ _, _))

/-- The vector has its NULL in the array. -/
def Terminated (argv : Argv) : Prop := ∃ i < maxArgs, argv i = none

/-- All stores are in the arrays, and what `execute` is passed is terminated in its own. -/
structure Safe (input : List Char) : Prop where
  cmd : InBounds (turn input).1
  argv : ∀ argc argv, (turn input).2 = .run argc argv → Terminated argv
  arguments : ∀ argc argv, (turn input).2 = .run argc argv → InBounds (execute argc argv)

/-! ## The stores -/

/-- The tokens of a line, of which `argc` is the number. -/
def tokensOf (input : List Char) : List Token := strtok (cString input)

theorem storeTokens_snd (i : Nat) (l : List Token) : (storeTokens i l).2 = i + l.length := by
  induction l generalizing i with
  | nil => rfl
  | cons cnd rest ih =>
    rw [storeTokens, ih, List.length_cons, Nat.add_assoc, Nat.add_comm 1]

theorem inBounds_storeTokens_iff {i : Nat} (hi : i ≤ maxArgs) (l : List Token) :
    InBounds (storeTokens i l).1 ↔ i + l.length ≤ maxArgs := by
  induction l generalizing i with
  | nil => simpa [InBounds, storeTokens] using hi
  | cons cnd rest ih =>
    rw [storeTokens, InBounds, List.forall_mem_cons, List.length_cons]
    constructor
    · rintro ⟨hlt, hrest⟩
      have hlt : i < maxArgs := hlt
      have hle := (ih hlt).mp hrest
      omega
    · intro hle
      have hlt : i < maxArgs := by omega
      exact ⟨hlt, (ih hlt).mpr (by omega)⟩

/-- The stores from the index `i` on leave what is below it. -/
theorem foldl_storeTokens (i : Nat) (l : List Token) (cmd : Argv) (j : Nat) :
    (storeTokens i l).1.foldl (fun cmd s => Function.update cmd s.index s.value) cmd j =
      (if i ≤ j then l[j - i]? else none).or (cmd j) := by
  induction l generalizing i cmd with
  | nil => simp [storeTokens]
  | cons cnd rest ih =>
    rw [storeTokens, List.foldl_cons, ih]
    obtain hlt | rfl | hgt := Nat.lt_trichotomy i j
    · have hsub : j - i = j - (i + 1) + 1 := by omega
      rw [if_pos (Nat.succ_le_of_lt hlt), if_pos hlt.le, hsub, List.getElem?_cons_succ,
        Function.update_of_ne hlt.ne']
    · rw [if_neg (Nat.not_succ_le_self i), if_pos (Nat.le_refl i), Nat.sub_self,
        List.getElem?_cons_zero, Function.update_self]
      rfl
    · rw [if_neg (by omega), if_neg (by omega), Function.update_of_ne hgt.ne]

/-- The elements of `cmd` are the tokens, and NULL after them. -/
theorem cells_parseArg (input : List Char) (j : Nat) :
    cells (parseArg input).1 j = (tokensOf input)[j]? := by
  rw [cells, parseArg, foldl_storeTokens, if_pos (Nat.zero_le j), Option.or_none, Nat.sub_zero]
  rfl

theorem parseArg_snd (input : List Char) : (parseArg input).2 = (tokensOf input).length := by
  rw [parseArg, storeTokens_snd, Nat.zero_add]
  rfl

theorem inBounds_parseArg_iff (input : List Char) :
    InBounds (parseArg input).1 ↔ (tokensOf input).length ≤ maxArgs := by
  rw [parseArg, inBounds_storeTokens_iff (Nat.zero_le maxArgs), Nat.zero_add]
  rfl

theorem terminated_cells_iff (input : List Char) :
    Terminated (cells (parseArg input).1) ↔ (tokensOf input).length < maxArgs := by
  unfold Terminated
  simp only [cells_parseArg, List.getElem?_eq_none_iff]
  constructor
  · rintro ⟨i, hi, hle⟩
    exact Nat.lt_of_le_of_lt hle hi
  · intro hlt
    exact ⟨_, hlt, Nat.le_refl _⟩

theorem inBounds_commandContext_iff (argc : Nat) (argv : Argv) :
    InBounds (commandContext argc argv) ↔ argc < maxArgs := by
  rw [InBounds, commandContext, List.forall_mem_append]
  constructor
  · rintro ⟨-, h⟩
    exact h ⟨argc, none⟩ List.mem_cons_self
  · intro h
    constructor
    · intro s hs
      obtain ⟨i, hi, rfl⟩ := List.mem_map.mp hs
      exact Nat.lt_trans (List.mem_range.mp hi) h
    · intro s hs
      rw [List.mem_singleton.mp hs]
      exact h

theorem inBounds_execute {argc : Nat} (h : argc < maxArgs) (argv : Argv) :
    InBounds (execute argc argv) := by
  unfold execute
  split
  · simp [InBounds]
  · split
    · simp [InBounds]
    · split
      · simp [InBounds]
      · exact (inBounds_commandContext_iff argc argv).mpr h

/-! ## A turn -/

/-- The line is for the parser itself: help, or the end of the loop. -/
def BuiltIn (input : List Char) : Prop :=
  ∃ cmd ∈ (tokensOf input).head?, isHelp cmd = true ∨ isExit cmd = true

theorem turn_fst (input : List Char) : (turn input).1 = (parseArg input).1 := by
  unfold turn
  simp only []
  split
  · rfl
  · split
    · rfl
    · split <;> rfl

/-- A line whose first token is not the parser's own is run with its tokens. -/
theorem turn_snd_eq_run_iff (input : List Char) (argc : Nat) (argv : Argv) :
    (turn input).2 = .run argc argv ↔
      tokensOf input ≠ [] ∧ ¬ BuiltIn input ∧ argc = (tokensOf input).length ∧
        argv = cells (parseArg input).1 := by
  have hzero := cells_parseArg input 0
  rw [← List.head?_eq_getElem?] at hzero
  unfold turn BuiltIn
  simp only [hzero]
  cases htokens : tokensOf input with
  | nil => simp
  | cons cmd rest =>
    simp only [List.head?_cons, Option.mem_def, Option.some.injEq, exists_eq_left']
    cases hhelp : isHelp cmd with
    | true => simp
    | false =>
      cases hexit : isExit cmd with
      | true => simp
      | false =>
        have hargc := parseArg_snd input
        rw [htokens] at hargc
        simp [hargc, eq_comm]

/-- For every line: all stores are in the arrays, and the vector passed to `execute` has its NULL,
    exactly if there are fewer than 40 tokens, or 40 of which the first is the parser's own. -/
theorem safe_iff (input : List Char) :
    Safe input ↔ (tokensOf input).length < maxArgs ∨
      ((tokensOf input).length = maxArgs ∧ BuiltIn input) := by
  have hcmd : InBounds (turn input).1 ↔ (tokensOf input).length ≤ maxArgs := by
    rw [turn_fst, inBounds_parseArg_iff]
  constructor
  · intro h
    by_cases hlt : (tokensOf input).length < maxArgs
    · exact .inl hlt
    · have heq : (tokensOf input).length = maxArgs :=
        Nat.le_antisymm (hcmd.mp h.cmd) (Nat.not_lt.mp hlt)
      refine .inr ⟨heq, Classical.not_not.mp fun hb => hlt ?_⟩
      have hne : tokensOf input ≠ [] := fun hnil => by simp [hnil, maxArgs] at heq
      have hrun := (turn_snd_eq_run_iff input _ _).mpr ⟨hne, hb, rfl, rfl⟩
      exact (terminated_cells_iff input).mp (h.argv _ _ hrun)
  · rintro (hlt | ⟨heq, hb⟩)
    · refine ⟨hcmd.mpr hlt.le, ?_, ?_⟩
      · intro argc argv hrun
        obtain ⟨-, -, -, rfl⟩ := (turn_snd_eq_run_iff input argc argv).mp hrun
        exact (terminated_cells_iff input).mpr hlt
      · intro argc argv hrun
        obtain ⟨-, -, rfl, -⟩ := (turn_snd_eq_run_iff input argc argv).mp hrun
        exact inBounds_execute hlt argv
    · refine ⟨hcmd.mpr heq.le, ?_, ?_⟩
      · intro argc argv hrun
        exact absurd hb ((turn_snd_eq_run_iff input argc argv).mp hrun).2.1
      · intro argc argv hrun
        exact absurd hb ((turn_snd_eq_run_iff input argc argv).mp hrun).2.1

/-- A subscription to 37 paths. -/
def fortyTokens : List Char :=
  "subscribe a 1".toList ++ (List.replicate 37 [' ', 'p']).flatten

/-- The vector of its 40 tokens has no NULL, and the context stores one behind the array. -/
theorem not_safe_fortyTokens : ¬ ∀ input : List Char, input.length < maxBuffer → Safe input := by
  intro h
  have hlength : (tokensOf fortyTokens).length = maxArgs := by decide +kernel
  have hhead : (tokensOf fortyTokens).head? = some "subscribe".toList := by decide +kernel
  have hne : tokensOf fortyTokens ≠ [] := fun hnil => by simp [hnil, maxArgs] at hlength
  have hb : ¬ BuiltIn fortyTokens := by
    rintro ⟨cmd, hcmd, hbuiltIn⟩
    rw [hhead] at hcmd
    obtain rfl := Option.some.inj hcmd
    exact absurd hbuiltIn (by decide)
  have hrun := (turn_snd_eq_run_iff fortyTokens _ _).mpr ⟨hne, hb, rfl, rfl⟩
  have hargv := (h fortyTokens (by decide +kernel)).argv _ _ hrun
  rw [terminated_cells_iff, hlength] at hargv
  exact Nat.lt_irrefl _ hargv

end AgentParser

end TelemetryAgent
