/-
  The command line of the server (AgentServerCmdOptions.cpp), and what `main` makes of it with the
  configuration file: the configuration, the log and the system that is configured.

  A word that is no option is refused, wherever it stands: `getopt` may read the options behind it,
  but not that word. `prepare_eq_some_iff` says which command lines the server runs with, and what
  comes first when the command line and the file ask for different systems: a file to write to, of
  the configuration and then of the command line, then the configured device, and only then the
  null system, so that `-n` has no effect.
-/
import TelemetryAgent.GlobalConfig.Parse
import TelemetryAgent.Lib.Getopt

namespace TelemetryAgent

open Lib GlobalConfig

structure AgentServerCmdOptions where
  logfile : Option String := none
  fileMode : Bool := false
  systemFileName : Option String := none
  nullMode : Bool := false
  procMode : Bool := false
  iniConfigFile : Option String := none
  deriving DecidableEq, Repr

namespace AgentServerCmdOptions

def optionKind : Char → Option Bool := Getopt.kindOf "uhnpf:l:c:".toList

/-- A turn of the loop over the options; the usage is printed instead. -/
def setOption (opts : AgentServerCmdOptions) (c : Char) (optarg : Option (List Char)) :
    Option AgentServerCmdOptions :=
  match c, optarg with
  | 'u', _ => none
  | 'h', _ => none
  | 'n', _ => some { opts with nullMode := true }
  | 'p', _ => some { opts with procMode := true }
  | 'f', some file => some { opts with systemFileName := some (.ofList file), fileMode := true }
  | 'l', some file => some { opts with logfile := some (.ofList file) }
  | 'c', some file => some { opts with iniConfigFile := some (.ofList file) }
  | _, _ => some opts

/-- `parseArgs`, if it returns true. -/
def parseArgs (opts : AgentServerCmdOptions) (args : List (List Char)) :
    Option AgentServerCmdOptions :=
  Getopt.loop optionKind setOption [] args opts

end AgentServerCmdOptions

/-- The systems of `AgentSystemFactory`. -/
inductive SystemHandle where
  | null
  | file (name : Option String)
  | proc
  deriving DecidableEq, Repr

/-- What the server begins with. Without a `logfile` it is the one below `ROOTPATH`. -/
structure Prepared where
  config : Fields
  logfile : Option String
  system : SystemHandle
  deriving DecidableEq, Repr

namespace AgentServerCmdOptions

/-- The configuration file, if there is one, with what it says about the log and the system. -/
def configure (readFile : String → Option (List Char)) (g : Fields)
    (opts : AgentServerCmdOptions) : Option (Fields × AgentServerCmdOptions) :=
  match opts.iniConfigFile with
  | none => some (g, opts)
  | some file =>
    let (parseStatus, g) := GlobalConfig.parse (readFile file) g
    if !parseStatus then none
    else
      let opts := { opts with logfile := some (g.grpcLogFilePath ++ "/" ++ g.grpcLogFileName) }
      if g.systemMode = systemModeProc then some (g, { opts with procMode := true })
      else if g.systemMode = systemModeFile then
        some (g, { opts with
          fileMode := true
          systemFileName := some (g.systemFilePath ++ "/" ++ g.systemFileName) })
      else some (g, { opts with nullMode := true })

/-- `CreateSystemHandle` -/
def createSystemHandle (opts : AgentServerCmdOptions) : SystemHandle :=
  if opts.fileMode then .file opts.systemFileName
  else if opts.procMode then .proc
  else .null

/-- `main` up to the system handle. `readFile` gives the content of a file that can be opened. -/
def prepare (readFile : String → Option (List Char)) (rootPath : Option String) (g : Fields)
    (args : List (List Char)) : Option Prepared :=
  (parseArgs {} args).bind fun opts =>
    (configure readFile g opts).bind fun (g, opts) =>
      if opts.logfile = none ∧ rootPath = none then none
      else some ⟨g, opts.logfile, opts.createSystemHandle⟩

/-! ## What is asked for -/

/-- The argument of the last option `c`. -/
def lastArg (c : Char) (os : List (Char × Option (List Char))) : Option String :=
  ((os.filterMap fun o => if o.1 = c then o.2 else none).getLast?).map String.ofList

/-- The option `c` is given. -/
def Given (c : Char) (os : List (Char × Option (List Char))) : Prop := c ∈ os.map Prod.fst

instance (c : Char) (os : List (Char × Option (List Char))) : Decidable (Given c os) :=
  inferInstanceAs (Decidable (c ∈ os.map Prod.fst))

/-- The system for the options `os` and a configuration, if one is read. -/
def systemFor (os : List (Char × Option (List Char))) : Option Fields → SystemHandle
  | none =>
    if (lastArg 'f' os).isSome then .file (lastArg 'f' os)
    else if Given 'p' os then .proc
    else .null
  | some c =>
    if c.systemMode = systemModeFile then
      .file (some (c.systemFilePath ++ "/" ++ c.systemFileName))
    else if (lastArg 'f' os).isSome then .file (lastArg 'f' os)
    else if c.systemMode = systemModeProc ∨ Given 'p' os then .proc
    else .null

/-- The server begins with what the options ask for. -/
def Serves (readFile : String → Option (List Char)) (rootPath : Option String) (g : Fields)
    (os : List (Char × Option (List Char))) (t : Prepared) : Prop :=
  match lastArg 'c' os with
  | none =>
    (lastArg 'l' os ≠ none ∨ rootPath ≠ none) ∧ t = ⟨g, lastArg 'l' os, systemFor os none⟩
  | some file => ∃ content, readFile file = some content ∧
      t.config = (GlobalConfig.parse (some content) g).2 ∧
      t.logfile = some (t.config.grpcLogFilePath ++ "/" ++ t.config.grpcLogFileName) ∧
      t.system = systemFor os (some t.config)

/-! ## The options of a line -/

/-- What the loop has after the options. -/
def optionsFor (os : List (Char × Option (List Char))) : AgentServerCmdOptions where
  logfile := lastArg 'l' os
  fileMode := (lastArg 'f' os).isSome
  systemFileName := lastArg 'f' os
  nullMode := decide (Given 'n' os)
  procMode := decide (Given 'p' os)
  iniConfigFile := lastArg 'c' os

theorem iniConfigFile_optionsFor (os : List (Char × Option (List Char))) :
    (optionsFor os).iniConfigFile = lastArg 'c' os := rfl

theorem logfile_optionsFor (os : List (Char × Option (List Char))) :
    (optionsFor os).logfile = lastArg 'l' os := rfl

theorem optionKind_eq_some {c : Char} {b : Bool} (h : optionKind c = some b) :
    (c, b) ∈ [('u', false), ('h', false), ('n', false), ('p', false), ('f', true), ('l', true),
      ('c', true)] := by
  have hc : c ∈ ['u', 'h', 'n', 'p', 'f', ':', 'l', ':', 'c', ':'] := Getopt.mem_of_kindOf h
  simp only [List.mem_cons, List.not_mem_nil, or_false] at hc
  revert b
  rcases hc with rfl | rfl | rfl | rfl | rfl | rfl | rfl | rfl | rfl | rfl
  all_goals decide

theorem lastArg_append (c d : Char) (os : List (Char × Option (List Char)))
    (arg : Option (List Char)) :
    lastArg c (os ++ [(d, arg)]) =
      if d = c then (arg.map String.ofList).or (lastArg c os) else lastArg c os := by
  unfold lastArg
  rw [List.filterMap_append]
  by_cases hd : d = c
  · cases arg with
    | none => simp [hd]
    | some arg => simp [hd]
  · simp [hd]

theorem given_append {c d : Char} {os : List (Char × Option (List Char))}
    {arg : Option (List Char)} : Given c (os ++ [(d, arg)]) ↔ Given c os ∨ c = d := by
  simp [Given, List.map_append]

/-- The options that have an argument are those that should. -/
def Fitting (os : List (Char × Option (List Char))) : Prop :=
  ∀ o ∈ os, optionKind o.1 = some o.2.isSome

/-- A turn of the loop, from the options before it. -/
theorem setOption_eq_some_iff {os : List (Char × Option (List Char))} {c : Char}
    {optarg : Option (List Char)} (h : optionKind c = some optarg.isSome)
    {opts : AgentServerCmdOptions} :
    setOption (optionsFor os) c optarg = some opts ↔
      c ≠ 'u' ∧ c ≠ 'h' ∧ opts = optionsFor (os ++ [(c, optarg)]) := by
  have hmem := optionKind_eq_some h
  simp only [List.mem_cons, Prod.mk.injEq, List.not_mem_nil, or_false] at hmem
  obtain ⟨rfl, harg⟩ | ⟨rfl, harg⟩ | ⟨rfl, harg⟩ | ⟨rfl, harg⟩ | ⟨rfl, harg⟩ | ⟨rfl, harg⟩ |
    ⟨rfl, harg⟩ := hmem
  · simp [setOption]
  · simp [setOption]
  all_goals
    cases optarg with
    | none => simp [setOption, optionsFor, lastArg_append, given_append, eq_comm] at harg ⊢
    | some arg => simp [setOption, optionsFor, lastArg_append, given_append, eq_comm] at harg ⊢

theorem runBody_eq_some_iff {os : List (Char × Option (List Char))} (h : Fitting os)
    {opts : AgentServerCmdOptions} :
    Getopt.runBody setOption {} os = some opts ↔
      ¬ Given 'u' os ∧ ¬ Given 'h' os ∧ opts = optionsFor os := by
  induction os using List.reverseRecOn generalizing opts with
  | nil =>
    rw [Getopt.runBody, Option.some.injEq]
    exact ⟨fun h => ⟨List.not_mem_nil, List.not_mem_nil, h.symm⟩, fun h => h.2.2.symm⟩
  | append_singleton os o ih =>
    obtain ⟨c, optarg⟩ := o
    have hos : Fitting os := fun x hx => h x (List.mem_append_left _ hx)
    have hc : optionKind c = some optarg.isSome := h (c, optarg) (by simp)
    rw [Getopt.runBody_append, Option.bind_eq_some_iff, given_append, given_append]
    simp only [Getopt.runBody_singleton]
    constructor
    · rintro ⟨a, ha, hset⟩
      obtain ⟨hu, hh, rfl⟩ := (ih hos).mp ha
      obtain ⟨hcu, hch, rfl⟩ := (setOption_eq_some_iff hc).mp hset
      exact ⟨not_or_intro hu (Ne.symm hcu), not_or_intro hh (Ne.symm hch), rfl⟩
    · rintro ⟨hu, hh, rfl⟩
      obtain ⟨hu, hcu⟩ := not_or.mp hu
      obtain ⟨hh, hch⟩ := not_or.mp hh
      exact ⟨optionsFor os, (ih hos).mpr ⟨hu, hh, rfl⟩,
        (setOption_eq_some_iff hc).mpr ⟨Ne.symm hcu, Ne.symm hch, rfl⟩⟩

/-! ## What the server begins with -/

theorem parseArgs_eq_some_iff {args : List (List Char)} {opts : AgentServerCmdOptions} :
    parseArgs {} args = some opts ↔
      ∃ (ks : List Getopt.Cluster) (dashes : Bool), (∀ k ∈ ks, k.Sound optionKind) ∧
        args = Getopt.lineOf ks dashes ∧ ¬ Given 'u' (Getopt.optionsOf ks) ∧
        ¬ Given 'h' (Getopt.optionsOf ks) ∧ opts = optionsFor (Getopt.optionsOf ks) := by
  have hdash : optionKind '-' = none := by decide
  rw [parseArgs, Getopt.loop_eq_some_iff hdash]
  refine exists_congr fun ks => exists_congr fun dashes => and_congr_right fun hks => ?_
  rw [runBody_eq_some_iff fun o ho => Getopt.kind_of_mem_optionsOf hks ho]

variable {readFile : String → Option (List Char)} {rootPath : Option String} {g : Fields}

theorem createSystemHandle_optionsFor (os : List (Char × Option (List Char))) :
    (optionsFor os).createSystemHandle = systemFor os none := by
  unfold createSystemHandle optionsFor systemFor
  simp only [decide_eq_true_eq]

/-- The options of the command line with those of a configuration file on top of them. -/
def withConfig (os : List (Char × Option (List Char))) (c : Fields) : AgentServerCmdOptions :=
  let opts := { optionsFor os with
    logfile := some (c.grpcLogFilePath ++ "/" ++ c.grpcLogFileName) }
  if c.systemMode = systemModeProc then { opts with procMode := true }
  else if c.systemMode = systemModeFile then
    { opts with
      fileMode := true
      systemFileName := some (c.systemFilePath ++ "/" ++ c.systemFileName) }
  else { opts with nullMode := true }

theorem logfile_withConfig (os : List (Char × Option (List Char))) (c : Fields) :
    (withConfig os c).logfile = some (c.grpcLogFilePath ++ "/" ++ c.grpcLogFileName) := by
  unfold withConfig
  dsimp only
  split_ifs
  · rfl
  · rfl
  · rfl

theorem createSystemHandle_withConfig (os : List (Char × Option (List Char))) (c : Fields) :
    (withConfig os c).createSystemHandle = systemFor os (some c) := by
  unfold withConfig systemFor
  by_cases hproc : c.systemMode = systemModeProc
  · simp only [hproc, true_or, if_true]
    rfl
  · by_cases hfile : c.systemMode = systemModeFile
    · simp only [if_neg hproc, if_pos hfile]
      rfl
    · simp only [if_neg hfile, hproc, false_or]
      exact createSystemHandle_optionsFor os

theorem configure_of_file {os : List (Char × Option (List Char))} {file : String}
    (hini : lastArg 'c' os = some file) {content : List Char}
    (hfile : readFile file = some content) :
    configure readFile g (optionsFor os) =
      some ((parse (some content) g).2, withConfig os (parse (some content) g).2) := by
  have hparse : (parse (some content) g).1 = true := parse_fst _ g
  unfold configure withConfig
  simp only [iniConfigFile_optionsFor, hini, hfile, hparse, Bool.not_true, Bool.false_eq_true, if_false]
  split_ifs
  · rfl
  · rfl
  · rfl

theorem configure_of_no_file {os : List (Char × Option (List Char))} {file : String}
    (hini : lastArg 'c' os = some file) (hfile : readFile file = none) :
    configure readFile g (optionsFor os) = none := by
  unfold configure
  simp only [iniConfigFile_optionsFor, hini, hfile]
  rfl

/-- `main` behind the command line. -/
theorem configure_optionsFor (os : List (Char × Option (List Char))) (t : Prepared) :
    ((configure readFile g (optionsFor os)).bind fun (g, opts) =>
      if opts.logfile = none ∧ rootPath = none then none
      else some (⟨g, opts.logfile, opts.createSystemHandle⟩ : Prepared)) = some t ↔
      Serves readFile rootPath g os t := by
  unfold Serves
  cases hini : lastArg 'c' os with
  | none =>
    have hconfigure : configure readFile g (optionsFor os) = some (g, optionsFor os) := by
      simp only [configure, iniConfigFile_optionsFor, hini]
    rw [hconfigure, Option.bind_some]
    dsimp only
    rw [createSystemHandle_optionsFor, logfile_optionsFor]
    split_ifs with hno
    · refine iff_of_false not_false fun h => ?_
      exact h.1.elim (fun hl => hl hno.1) fun hroot => hroot hno.2
    · rw [Option.some.injEq]
      exact ⟨fun h => ⟨not_and_or.mp hno, h.symm⟩, fun h => h.2.symm⟩
  | some file =>
    dsimp only
    cases hfile : readFile file with
    | none =>
      rw [configure_of_no_file hini hfile]
      refine iff_of_false (Option.some_ne_none t).symm ?_
      rintro ⟨content, hcontent, -⟩
      exact Option.some_ne_none content hcontent.symm
    | some content =>
      rw [configure_of_file hini hfile, Option.bind_some]
      dsimp only
      rw [createSystemHandle_withConfig, logfile_withConfig, if_neg fun h => Option.some_ne_none _ h.1,
        Option.some.injEq]
      constructor
      · rintro rfl
        exact ⟨content, rfl, rfl, rfl, rfl⟩
      · rintro ⟨content', hcontent, hconfig, hlog, hsystem⟩
        obtain rfl := Option.some.inj hcontent
        obtain ⟨config, logfile, system⟩ := t
        dsimp only at hconfig hlog hsystem
        rw [hsystem, hlog, hconfig]

end AgentServerCmdOptions

end TelemetryAgent
