/-
  The commands of the client that subscribe (AgentClientParser.cpp), with the request that
  `AgentClient::subscribeTelemetry` makes of them.

  `typed` follows a line through `strtok`, the arguments that the context copies and the handler
  to the requests. `typed_of_spells`: a command that is typed with any blanks between its words
  asks for what it names, with the numbers of all 32 bits. A limit is an `int32` of the request,
  so the server has that of the command exactly below 2^31 (`limitsOf_requestOf_iff`).

  The commands run in threads of their own, and those of every `subscribe_n` take the numbers of
  their clients from one atomic, `some_id`, which each of them sets back after five seconds.
  `nodup_clientNames`: the clients of a command have names of their own if it is not set back
  between the first and the last number that its threads take.
-/
import Std.Data.String.ToInt
import TelemetryAgent.Client.AgentClientParser
import TelemetryAgent.Lib.CText
import TelemetryAgent.Subscription.Model

namespace TelemetryAgent

open Lib

/-! ## The request -/

/-- What a handler asks of the client that it creates, if there is none of the name. -/
structure Subscribing where
  clientName : String
  request : SubscriptionRequest
  telegraf : Bool
  deriving DecidableEq, Repr

namespace AgentClient

/-- The request of `subscribeTelemetry`. A limit is set if it is not zero. -/
def subscribeTelemetry (pathList : List String) (sampleFrequency limitRecords limitSeconds : UInt32) :
    SubscriptionRequest where
  pathList := pathList.map fun path => { path := path, sampleFrequency := sampleFrequency }
  additionalConfig :=
    { limitRecords := if limitRecords ≠ 0 then limitRecords.toInt32 else 0
      limitTimeSeconds := if limitSeconds ≠ 0 then limitSeconds.toInt32 else 0 }

end AgentClient

namespace AgentParser

/-! ## The handlers -/

/-- The strings of `argv` from the index `i` on, up to the NULL. `none` is a read behind the
    array. -/
def pathsFrom (argv : Argv) : Nat → Nat → Option (List String)
  | 0, _ => none
  | fuel + 1, i =>
    match argv i with
    | none => some []
    | some path => (pathsFrom argv fuel (i + 1)).map (String.ofList path :: ·)

/-- `uint32_t n = atoi(argv[i])` -/
def number (argv : Argv) (i : Nat) : Option UInt32 := (argv i).map fun s => .ofInt (atoi s)

/-- What the handlers have in common: the client, the frequency and limits, and the paths, which
    begin at the index `first`. `none` is undefined. -/
def subscribing (argv : Argv) (clientName : Option Token)
    (sampleFrequency limitRecords limitSeconds : Option UInt32) (first : Nat) (telegraf : Bool) :
    Option Subscribing := do
  let pathList ← pathsFrom argv (maxArgs - first) first
  return ⟨String.ofList (← clientName), AgentClient.subscribeTelemetry pathList (← sampleFrequency)
    (← limitRecords) (← limitSeconds), telegraf⟩

def handleSubscribe (argv : Argv) : Option Subscribing :=
  subscribing argv (argv 1) (number argv 2) (some 0) (some 0) 3 false

def handleSubscribeTelegraf (argv : Argv) : Option Subscribing :=
  subscribing argv (argv 1) (number argv 2) (some 0) (some 0) 3 true

def handleSubscribeLimits (argv : Argv) : Option Subscribing :=
  subscribing argv (argv 1) (number argv 2) (number argv 3) (number argv 4) 5 false

/-- A thread takes a number, or a command sets `some_id` back. The threads of the command that is
    looked at are `some k`, those of the others `none`. -/
inductive SomeIdEvent
  | take (thread : Option Nat)
  | store
  deriving DecidableEq, Repr

/-- The numbers that the threads take by `some_id++`, from the value `id` on. -/
def taken (id : Int32) : List SomeIdEvent → List (Option Nat × Int32)
  | [] => []
  | .take thread :: es => (thread, id) :: taken (id + 1) es
  | .store :: es => taken 0 es

/-- `proc`, with the number that it takes from `some_id`. -/
def proc (argv : Argv) (someId : Int32) : Option Subscribing :=
  subscribing argv ((argv 2).map (· ++ (toString someId.toInt).toList)) (number argv 3) (some 0)
    (some 0) 4 false

/-- Thread `k` takes the number `someId k`. -/
def handleSubscribeMultiple (argv : Argv) (someId : Nat → Int32) : Option (List Subscribing) := do
  let count ← number argv 1
  (List.range count.toNat).mapM fun k => proc argv (someId k)

/-- `e_handler` of a command that subscribes. -/
def eHandler (cmd : Token) (someId : Nat → Int32) : Option (Argv → Option (List Subscribing)) :=
  if cmd = "subscribe".toList then some fun argv => (handleSubscribe argv).map ([·])
  else if cmd = "subscribe_limits".toList then
    some fun argv => (handleSubscribeLimits argv).map ([·])
  else if cmd = "subscribe_n".toList then some fun argv => handleSubscribeMultiple argv someId
  else if cmd = "subscribe_telegraf".toList then
    some fun argv => (handleSubscribeTelegraf argv).map ([·])
  else none

/-- The subscriptions of a line that is in `input`. -/
def typed (input : List Char) (someId : Nat → Int32) : Option (List Subscribing) :=
  match (turn input).2 with
  | .run argc argv =>
    match execute argc argv with
    | [] => none
    | arguments => do
      let handler ← eHandler (← argv 0) someId
      handler (cells arguments)
  | _ => none

/-! ## A line of words -/

/-- A word of the line is not empty, and has no blank and no NUL in it. -/
def Word (t : Token) : Prop := t ≠ [] ∧ ' ' ∉ t ∧ '\x00' ∉ t

instance : DecidablePred Word := fun _ => inferInstanceAs (Decidable (_ ∧ _ ∧ _))

/-- The line has the words, with one blank or more between two, and any number around them. -/
inductive Spells : List Char → List Token → Prop
  | empty : Spells [] []
  | blank {line : List Char} {ts : List Token} (rest : Spells line ts) : Spells (' ' :: line) ts
  | last {t : Token} (word : Word t) : Spells t [t]
  | word {t : Token} {line : List Char} {ts : List Token} (word : Word t) (rest : Spells line ts) :
      Spells (t ++ ' ' :: line) (t :: ts)

theorem Spells.nul_not_mem {line : List Char} {ts : List Token} (h : Spells line ts) :
    '\x00' ∉ line := by
  induction h with
  | empty => exact List.not_mem_nil
  | blank _ ih => exact List.not_mem_cons_of_ne_of_not_mem (by decide) ih
  | last hword => exact hword.2.2
  | word hword _ ih =>
    rw [List.mem_append, List.mem_cons]
    rintro (h | h | h)
    · exact hword.2.2 h
    · exact absurd h (by decide)
    · exact ih h

theorem Spells.strtok_eq {line : List Char} {ts : List Token} (h : Spells line ts) :
    strtok line = ts := by
  induction h with
  | empty => rfl
  | @blank line ts _ ih =>
    have hsplit : (' ' :: line).splitOn ' ' = [] :: line.splitOn ' ' :=
      List.splitOn_append_cons_self [] line
    rw [← ih, strtok, hsplit, List.filter_cons_of_neg (by simp)]
    rfl
  | last hword =>
    rw [strtok, List.splitOn_eq_singleton hword.2.1, List.filter_cons_of_pos (by simpa using hword.1),
      List.filter_nil]
  | word hword _ ih =>
    rw [← ih, strtok, List.splitOn_append_cons_self_of_not_mem hword.2.1,
      List.filter_cons_of_pos (by simpa using hword.1)]
    rfl

theorem Spells.tokensOf_eq {line : List Char} {ts : List Token} (h : Spells line ts) :
    tokensOf line = ts := by
  rw [tokensOf, cString_eq_self_iff.mpr h.nul_not_mem, h.strtok_eq]

/-! ## What a command asks for -/

inductive SubscribeCommand where
  | subscribe (name : Token) (sampleFrequency : UInt32) (paths : List Token)
  | telegraf (name : Token) (sampleFrequency : UInt32) (paths : List Token)
  | limits (name : Token) (sampleFrequency limitRecords limitSeconds : UInt32) (paths : List Token)
  | multiple (count : UInt32) (name : Token) (sampleFrequency : UInt32) (paths : List Token)

def digits (n : UInt32) : Token := (toString n.toNat).toList

namespace SubscribeCommand

/-- The words of the command, as its usage has them. -/
def tokens : SubscribeCommand → List Token
  | subscribe name frequency paths => "subscribe".toList :: name :: digits frequency :: paths
  | telegraf name frequency paths => "subscribe_telegraf".toList :: name :: digits frequency :: paths
  | limits name frequency records seconds paths =>
    "subscribe_limits".toList :: name :: digits frequency :: digits records :: digits seconds :: paths
  | multiple count name frequency paths =>
    "subscribe_n".toList :: digits count :: name :: digits frequency :: paths

/-- Every path at the one frequency, with the limits. -/
def requestOf (paths : List Token) (frequency records seconds : UInt32) : SubscriptionRequest where
  pathList := paths.map fun path => { path := String.ofList path, sampleFrequency := frequency }
  additionalConfig := { limitRecords := records.toInt32, limitTimeSeconds := seconds.toInt32 }

def asks (someId : Nat → Int32) : SubscribeCommand → List Subscribing
  | subscribe name frequency paths =>
    [⟨String.ofList name, requestOf paths frequency 0 0, false⟩]
  | telegraf name frequency paths => [⟨String.ofList name, requestOf paths frequency 0 0, true⟩]
  | limits name frequency records seconds paths =>
    [⟨String.ofList name, requestOf paths frequency records seconds, false⟩]
  | multiple count name frequency paths =>
    (List.range count.toNat).map fun k =>
      ⟨String.ofList (name ++ (toString (someId k).toInt).toList), requestOf paths frequency 0 0,
        false⟩

/-- The threads of the command that take a number. -/
def threads : SubscribeCommand → Nat
  | multiple count _ _ _ => count.toNat
  | _ => 0

/-- Arguments are missing: there is no path. The usage of `subscribe_n` wants one too, but its count
    of arguments lets it have none, and it asks for none then. -/
def Missing : SubscribeCommand → Prop
  | subscribe _ _ paths | telegraf _ _ paths | limits _ _ _ _ paths => paths = []
  | multiple _ _ _ _ => False

instance : DecidablePred Missing := fun c => by
  cases c <;> unfold Missing <;> infer_instance

def cmd : SubscribeCommand → String
  | subscribe .. => "subscribe"
  | telegraf .. => "subscribe_telegraf"
  | limits .. => "subscribe_limits"
  | multiple .. => "subscribe_n"

def eArgc : SubscribeCommand → Nat
  | limits .. => 6
  | _ => 4

theorem tokens_eq (c : SubscribeCommand) : ∃ rest, c.tokens = c.cmd.toList :: rest := by
  cases c <;> exact ⟨_, rfl⟩

theorem lookupCmd_cmd (c : SubscribeCommand) : lookupCmd c.cmd.toList = some c.eArgc := by
  cases c with
  | subscribe => exact (by decide : lookupCmd "subscribe".toList = some 4)
  | telegraf => exact (by decide : lookupCmd "subscribe_telegraf".toList = some 4)
  | limits => exact (by decide : lookupCmd "subscribe_limits".toList = some 6)
  | multiple => exact (by decide : lookupCmd "subscribe_n".toList = some 4)

theorem not_builtIn_cmd (c : SubscribeCommand) :
    isHelp c.cmd.toList = false ∧ isExit c.cmd.toList = false := by
  have hcmds : ∀ s ∈ ["subscribe", "subscribe_telegraf", "subscribe_limits", "subscribe_n"],
      isHelp s.toList = false ∧ isExit s.toList = false := by decide
  apply hcmds
  cases c <;> simp [cmd]

theorem missing_iff (c : SubscribeCommand) : c.Missing ↔ c.tokens.length < c.eArgc := by
  cases c with
  | multiple count name frequency paths =>
    refine iff_of_false id ?_
    simp only [tokens, eArgc, List.length_cons]
    omega
  | _ =>
    simp only [Missing, tokens, eArgc, List.length_cons, ← List.length_eq_zero_iff]
    omega

end SubscribeCommand

/-! ## The arguments of a handler -/

/-- The context has the first `argc` elements, and NULL. -/
theorem cells_commandContext (argc : Nat) (argv : Argv) (j : Nat) :
    cells (commandContext argc argv) j = if j < argc then argv j else none := by
  have hrange : ∀ n, (((List.range n).map fun i => (⟨i, argv i⟩ : Store)).foldl
      (fun cmd s => Function.update cmd s.index s.value) fun _ => none) j =
      if j < n then argv j else none := by
    intro n
    induction n with
    | zero => rfl
    | succ n ih =>
      rw [List.range_succ, List.map_append, List.foldl_append, List.map_singleton,
        List.foldl_cons, List.foldl_nil]
      by_cases hj : j = n
      · rw [hj, Function.update_self, if_pos (Nat.lt_succ_self n)]
      · rw [Function.update_of_ne hj, ih]
        exact if_congr (by omega) rfl rfl
  rw [cells, commandContext, List.foldl_append, List.foldl_cons, List.foldl_nil]
  by_cases hj : j = argc
  · rw [hj, Function.update_self, if_neg (Nat.lt_irrefl argc)]
  · rw [Function.update_of_ne hj, hrange]

/-- An array with the words of a list, and NULL behind them. -/
def argvOf (l : List Token) : Argv := fun j => l[j]?

theorem pathsFrom_argvOf (l : List Token) {fuel i : Nat} (hi : i ≤ l.length)
    (hfuel : l.length < i + fuel) :
    pathsFrom (argvOf l) fuel i = some ((l.drop i).map String.ofList) := by
  induction fuel generalizing i with
  | zero => exact absurd hfuel (Nat.not_lt.mpr hi)
  | succ fuel ih =>
    rw [pathsFrom, argvOf]
    by_cases hlt : i < l.length
    · rw [List.getElem?_eq_getElem hlt]
      show (pathsFrom (argvOf l) fuel (i + 1)).map _ = _
      rw [ih hlt (by omega), Option.map_some, List.drop_eq_getElem_cons hlt, List.map_cons]
    · rw [List.getElem?_eq_none (Nat.not_lt.mp hlt), List.drop_eq_nil_of_le (Nat.not_lt.mp hlt)]
      rfl

theorem number_digits {argv : Argv} {i : Nat} {n : UInt32} (h : argv i = some (digits n)) :
    number argv i = some n := by
  have hn : n.toNat < 2 ^ 32 := n.toNat_lt
  rw [number, h, Option.map_some, digits, atoi_toString (by omega)]
  apply congrArg some
  have hmod : (Int.bmod n.toNat (2 ^ 32) % 2 ^ 32).toNat = n.toNat := by
    have hemod : Int.bmod n.toNat (2 ^ 32) % 2 ^ 32 = n.toNat % 2 ^ 32 := Int.bmod_emod
    omega
  rw [UInt32.ofInt, hmod, UInt32.ofNat_toNat]

/-! ## The handlers on the words of a command -/

open SubscribeCommand

variable {someId : Nat → Int32}

/-- A limit that is not set is zero. -/
theorem subscribeTelemetry_eq (paths : List Token) (frequency records seconds : UInt32) :
    AgentClient.subscribeTelemetry (paths.map String.ofList) frequency records seconds =
      requestOf paths frequency records seconds := by
  have hlimit : ∀ n : UInt32, (if n ≠ 0 then n.toInt32 else 0) = n.toInt32 := by
    intro n
    split_ifs with h
    · rfl
    · rw [Classical.not_not.mp h]
      rfl
  rw [AgentClient.subscribeTelemetry, requestOf, hlimit, hlimit, List.map_map]
  rfl

theorem subscribing_argvOf {l : List Token} {first : Nat} (hfirst : first ≤ l.length)
    (hlen : l.length < maxArgs) (name : Token) (frequency records seconds : UInt32)
    (telegraf : Bool) :
    subscribing (argvOf l) (some name) (some frequency) (some records) (some seconds) first
        telegraf =
      some ⟨String.ofList name, requestOf (l.drop first) frequency records seconds, telegraf⟩ := by
  rw [subscribing, pathsFrom_argvOf l hfirst (by omega), ← subscribeTelemetry_eq]
  rfl

variable (someId) in
/-- A command that has all its words is handled as it asks for. -/
theorem eHandler_tokens (c : SubscribeCommand) (hlen : c.tokens.length < maxArgs) :
    ∃ handler, eHandler c.cmd.toList someId = some handler ∧
      handler (argvOf c.tokens) = some (c.asks someId) := by
  have hnumber : ∀ i n, argvOf c.tokens i = some (digits n) →
      number (argvOf c.tokens) i = some n := fun i n h => number_digits h
  cases c with
  | subscribe name frequency paths =>
    refine ⟨fun argv => (handleSubscribe argv).map ([·]), if_pos rfl, ?_⟩
    show (handleSubscribe _).map _ = _
    rw [handleSubscribe, hnumber 2 frequency rfl]
    exact congrArg (Option.map ([·]))
      (subscribing_argvOf (by simp [tokens]) hlen name frequency 0 0 false)
  | telegraf name frequency paths =>
    refine ⟨fun argv => (handleSubscribeTelegraf argv).map ([·]), ?_, ?_⟩
    · rw [eHandler, cmd, if_neg (by decide), if_neg (by decide), if_neg (by decide), if_pos rfl]
    show (handleSubscribeTelegraf _).map _ = _
    rw [handleSubscribeTelegraf, hnumber 2 frequency rfl]
    exact congrArg (Option.map ([·]))
      (subscribing_argvOf (by simp [tokens]) hlen name frequency 0 0 true)
  | limits name frequency records seconds paths =>
    refine ⟨fun argv => (handleSubscribeLimits argv).map ([·]), ?_, ?_⟩
    · rw [eHandler, cmd, if_neg (by decide), if_pos rfl]
    show (handleSubscribeLimits _).map _ = _
    rw [handleSubscribeLimits, hnumber 2 frequency rfl, hnumber 3 records rfl,
      hnumber 4 seconds rfl]
    exact congrArg (Option.map ([·]))
      (subscribing_argvOf (by simp [tokens]) hlen name frequency records seconds false)
  | multiple count name frequency paths =>
    refine ⟨fun argv => handleSubscribeMultiple argv someId, ?_, ?_⟩
    · rw [eHandler, cmd, if_neg (by decide), if_neg (by decide), if_pos rfl]
    have hproc : (fun k => proc (argvOf (tokens (.multiple count name frequency paths)))
        (someId k)) = fun k => some ⟨String.ofList (name ++ (toString (someId k).toInt).toList),
          requestOf paths frequency 0 0, false⟩ := by
      funext k
      rw [proc, hnumber 3 frequency rfl]
      exact subscribing_argvOf (by simp [tokens]) hlen _ frequency 0 0 false
    show handleSubscribeMultiple _ someId = _
    rw [handleSubscribeMultiple, hnumber 1 count rfl, hproc]
    exact List.mapM_pure

/-! ## What is typed -/

theorem SubscribeCommand.argvOf_tokens_zero (c : SubscribeCommand) :
    argvOf c.tokens 0 = some c.cmd.toList := by
  obtain ⟨rest, hrest⟩ := c.tokens_eq
  rw [argvOf, hrest]
  rfl

theorem execute_tokens (c : SubscribeCommand) :
    execute c.tokens.length (argvOf c.tokens) =
      if c.Missing then [] else commandContext c.tokens.length (argvOf c.tokens) := by
  rw [execute, c.argvOf_tokens_zero]
  simp only [c.lookupCmd_cmd, ← c.missing_iff]

theorem cells_tokens (l : List Token) : cells (commandContext l.length (argvOf l)) = argvOf l := by
  funext j
  rw [cells_commandContext]
  split_ifs with hj
  · rfl
  · exact (List.getElem?_eq_none (Nat.not_lt.mp hj)).symm

theorem turn_of_spells {line : List Char} {c : SubscribeCommand} (h : Spells line c.tokens) :
    (turn line).2 = .run c.tokens.length (argvOf c.tokens) := by
  obtain ⟨rest, hrest⟩ := c.tokens_eq
  have htokens : tokensOf line = c.tokens := h.tokensOf_eq
  rw [turn_snd_eq_run_iff, htokens]
  refine ⟨by rw [hrest]; exact List.cons_ne_nil _ _, ?_, rfl, ?_⟩
  · rintro ⟨cmd, hcmd, hbuiltIn⟩
    rw [htokens, hrest, List.head?_cons, Option.mem_some_iff] at hcmd
    subst hcmd
    obtain ⟨hhelp, hexit⟩ := c.not_builtIn_cmd
    rw [hhelp, hexit] at hbuiltIn
    exact hbuiltIn.elim Bool.false_ne_true Bool.false_ne_true
  · funext j
    rw [cells_parseArg, htokens, argvOf]

theorem typed_of_spells {line : List Char} {c : SubscribeCommand} (h : Spells line c.tokens)
    (hlen : c.tokens.length < maxArgs) :
    typed line someId = if c.Missing then none else some (c.asks someId) := by
  obtain ⟨handler, hhandler, hasks⟩ := eHandler_tokens someId c hlen
  rw [typed, turn_of_spells h]
  simp only [execute_tokens]
  split_ifs with hmissing
  · rfl
  · split
    · next hnil => simp [commandContext] at hnil
    · rw [c.argvOf_tokens_zero, Option.bind_eq_bind, Option.bind_some, hhandler,
        Option.bind_eq_bind, Option.bind_some, cells_tokens, hasks]

/-! ## The limits at the server -/

theorem toUInt64_toInt32_eq_iff (n : UInt32) : toUInt64 n.toInt32 = n.toNat ↔ n.toNat < 2 ^ 31 := by
  have hlt : n.toNat < 2 ^ 32 := n.toNat_lt
  have hint : n.toInt32.toInt = Int.bmod n.toNat (2 ^ 32) := BitVec.toInt_eq_toNat_bmod n.toBitVec
  rw [toUInt64, hint, Int.bmod_def]
  omega

theorem limitsOf_requestOf_iff (paths : List Token) (frequency records seconds : UInt32) :
    AgentSubscription.limitsOf (requestOf paths frequency records seconds).additionalConfig =
        .new records.toNat seconds.toNat ↔
      records.toNat < 2 ^ 31 ∧ seconds.toNat < 2 ^ 31 := by
  rw [← toUInt64_toInt32_eq_iff, ← toUInt64_toInt32_eq_iff, AgentSubscription.limitsOf, requestOf,
    AgentSubscriptionLimits.new, AgentSubscriptionLimits.new, AgentSubscriptionLimits.mk.injEq]
  simp

/-- The records and seconds of the command; zero is no limit. -/
def SubscribeCommand.limitsOf : SubscribeCommand → UInt32 × UInt32
  | limits _ _ records seconds _ => (records, seconds)
  | _ => (0, 0)

theorem limitsOf_asks_iff {c : SubscribeCommand} {s : Subscribing} (hs : s ∈ c.asks someId) :
    AgentSubscription.limitsOf s.request.additionalConfig =
        .new c.limitsOf.1.toNat c.limitsOf.2.toNat ↔
      c.limitsOf.1.toNat < 2 ^ 31 ∧ c.limitsOf.2.toNat < 2 ^ 31 := by
  cases c with
  | multiple count name frequency paths =>
    obtain ⟨k, -, rfl⟩ := List.mem_map.mp hs
    exact limitsOf_requestOf_iff paths frequency 0 0
  | _ =>
    obtain rfl := List.mem_singleton.mp hs
    exact limitsOf_requestOf_iff _ _ _ _

/-! ## The numbers of the clients -/

/-- Without a reset the numbers are taken one after the other. -/
theorem mem_taken {id : Int32} {es : List SomeIdEvent} (hes : .store ∉ es) {thread : Option Nat}
    {n : Int32} (h : (thread, n) ∈ taken id es) :
    ∃ j, es[j]? = some (.take thread) ∧ n = id + .ofNat j := by
  induction es generalizing id with
  | nil => exact absurd h List.not_mem_nil
  | cons e es ih =>
    rw [List.mem_cons, not_or] at hes
    cases e with
    | store => exact absurd rfl hes.1
    | take first =>
      obtain heq | h := List.mem_cons.mp h
      · obtain ⟨rfl, rfl⟩ := Prod.mk.inj heq
        exact ⟨0, rfl, (Int32.add_zero _).symm⟩
      · obtain ⟨j, hj, rfl⟩ := ih hes.2 h
        refine ⟨j + 1, hj, ?_⟩
        rw [Int32.ofNat_add, Int32.add_assoc, Int32.add_comm 1]
        rfl

/-- Two threads that take one number are the same, before the numbers come round. -/
theorem thread_unique {id n : Int32} {es : List SomeIdEvent} (hes : .store ∉ es)
    (hlen : es.length ≤ 2 ^ 32) {thread thread' : Option Nat} (h : (thread, n) ∈ taken id es)
    (h' : (thread', n) ∈ taken id es) : thread = thread' := by
  obtain ⟨j, hj, hn⟩ := mem_taken hes h
  obtain ⟨j', hj', hn'⟩ := mem_taken hes h'
  have hlt : j < es.length := (List.getElem?_eq_some_iff.mp hj).1
  have hlt' : j' < es.length := (List.getElem?_eq_some_iff.mp hj').1
  have hsame : j = j' := by
    have hint := congrArg Int32.toInt ((Int32.add_right_inj id).mp (hn.symm.trans hn'))
    rw [Int32.toInt_ofNat', Int32.toInt_ofNat', Int.bmod_def, Int.bmod_def, Int32.size] at hint
    omega
  rw [hsame, hj'] at hj
  exact (SomeIdEvent.take.inj (Option.some.inj hj)).symm

-- Two threads take one number if it is set back in between.
example : taken 0 [.take (some 0), .store, .take (some 1)] = [(some 0, 0), (some 1, 0)] := rfl

/-- The clients of a command have different names if `some_id` is not set back while its threads
    take their numbers. -/
theorem nodup_clientNames (c : SubscribeCommand) {id : Int32} {es : List SomeIdEvent}
    (hes : .store ∉ es) (hlen : es.length ≤ 2 ^ 32)
    (htaken : ∀ k < c.threads, (some k, someId k) ∈ taken id es) :
    ((c.asks someId).map Subscribing.clientName).Nodup := by
  cases c with
  | multiple count name frequency paths =>
    rw [asks, List.map_map]
    refine List.Nodup.map_on (fun k hk k' hk' hname => ?_) List.nodup_range
    have hlist := List.append_cancel_left (String.ofList_injective hname)
    have hid : someId k = someId k' :=
      Int32.toInt_inj.mp (Int.repr_inj.mp (String.toList_inj.mp hlist))
    have hk := htaken k (List.mem_range.mp hk)
    rw [hid] at hk
    exact Option.some.inj (thread_unique hes hlen hk (htaken k' (List.mem_range.mp hk')))
  | _ => exact List.nodup_singleton _

/-- A limit of 2^31 seconds. -/
def longCommand : SubscribeCommand :=
  .limits ['a'] 30 5 0x80000000 ["/lsp".toList, "firewall".toList]

end AgentParser

end TelemetryAgent
