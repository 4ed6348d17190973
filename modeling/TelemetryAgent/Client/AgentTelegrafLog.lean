/-
  The log of the client for Telegraf (AgentTelegrafLog.hpp): one line for each message of an
  interface, with the name cut from the prefix that the agent has put before its entries.

  The macros of oc.hpp put the name between `[name='` and `']/`. `updateStats` takes what is
  between the first `=` and the first `]` after it, with the first quote, and with the last one
  or without a part of the name.

  * `updateStats_eq`: the line of a message. The name in it is `cutName`.
  * `not_logsName`: the line is never that of the name.
-/
import TelemetryAgent.AgentUtils
import TelemetryAgent.OpenConfig.Oc

namespace TelemetryAgent

/-! ## The log -/

/-- `uint_value()` -/
def KeyValue.uintValue (kv : KeyValue) : UInt64 :=
  match kv.value with
  | .uint n => n
  | _ => 0

/-- `telemetry::OpenConfigData`, with the fields that only this log reads. -/
structure SampleData extends OpenConfigData where
  systemId : String := ""
  timestamp : UInt64 := 0
  deriving DecidableEq, Repr, Inhabited

namespace AgentTelegrafLog

open AgentUtils (find)

def buildLine (resource sysname ifname : String) (ts : UInt64) : String :=
  resource ++ "," ++ sysname ++ "," ++ ifname ++ " " ++ toString ts.toNat

/-- The interface name in a prefix. -/
def ifnameOf (portName : List Char) : List Char :=
  match find ['='] portName 0 with
  | some pos =>
    let ifname := portName.drop (pos + 1)
    match find [']'] ifname 0 with
    | some pos => ifname.take pos
    | none => ifname
  | none => "XXXX".toList

/-- The time of a sample: that of the message, or of its first entry. -/
def timeOf (data : SampleData) (kv : KeyValue) : UInt64 :=
  if kv.key = "__timestamp__" then kv.uintValue else data.timestamp

/-- The line of a name. -/
def lineOf (data : SampleData) (kv : KeyValue) (ifname : List Char) : String :=
  buildLine "interface" ("sysname=" ++ data.systemId) ("ifname=" ++ .ofList ifname)
    (timeOf data kv)

/-- The line that is logged, if there is one. -/
def updateStats (data : SampleData) : Option String :=
  match data.kv with
  | kv :: kv1 :: _ =>
    if kv1.key ≠ "__prefix__" then none
    else some (lineOf data kv (ifnameOf kv1.strValue.toList))
  | _ => none

/-! ## The two searches -/

theorem find_delimiter {c : Char} {a : List Char} (ha : c ∉ a) (b : List Char) :
    find [c] (a ++ c :: b) 0 = some a.length := by
  rw [find, List.find?_range'_eq_some]
  refine ⟨?_, ?_, fun i _ hi => ?_⟩
  · simp
  · rw [List.mem_range'_1, List.length_append, List.length_cons]
    omega
  · obtain ⟨d, hd⟩ : ∃ d, d = a[i] := ⟨_, rfl⟩
    have hne : c ≠ d := fun heq => ha (heq ▸ hd ▸ List.getElem_mem hi)
    have hdrop : (a ++ c :: b).drop i = d :: (a.drop (i + 1) ++ c :: b) := by
      rw [List.drop_append_of_le_length (by omega), hd, List.drop_eq_getElem_cons hi]
      rfl
    simp [hdrop, hne]

theorem ifnameOf_append {a b : List Char} (ha : '=' ∉ a) (hb : ']' ∉ b) (rest : List Char) :
    ifnameOf (a ++ '=' :: (b ++ ']' :: rest)) = b := by
  have hdrop : (a ++ '=' :: (b ++ ']' :: rest)).drop (a.length + 1) = b ++ ']' :: rest := by
    rw [← List.drop_drop, List.drop_left]
    rfl
  rw [ifnameOf, find_delimiter ha]
  dsimp only
  rw [hdrop, find_delimiter hb]
  exact List.take_left

/-- The text before a delimiter ends at its own first one. -/
theorem exists_eq_takeWhile_append (c : Char) (l rest : List Char) :
    ∃ rest', l ++ c :: rest = l.takeWhile (· ≠ c) ++ c :: rest' := by
  induction l with
  | nil => exact ⟨rest, rfl⟩
  | cons d l ih =>
    by_cases hd : d = c
    · subst hd
      exact ⟨l ++ d :: rest, by simp⟩
    · obtain ⟨rest', hrest⟩ := ih
      exact ⟨rest', by simp [hd, hrest]⟩

/-! ## Prefixes -/

/-- The prefix of `oc_set_prefix`, or without an attribute that of `oc_set_prefix_no_attr`. -/
def setPrefix (baseStr nameStr : String) : Option String → KeyValue
  | some ocAttr => ocSetPrefix baseStr nameStr ocAttr
  | none => ocSetPrefixNoAttr baseStr nameStr

/-- The name as the log has it. -/
def cutName (name : List Char) : List Char :=
  ('\'' :: name ++ ['\'']).takeWhile (· ≠ ']')

theorem key_setPrefix (base name : String) (attr : Option String) :
    (setPrefix base name attr).key = "__prefix__" := by
  cases attr <;> rfl

/-- Both prefixes have the quoted name between `=` and `]`. -/
theorem toList_setPrefix (base name : String) (attr : Option String) :
    ∃ rest, (setPrefix base name attr).strValue.toList =
      (base.toList ++ "[name".toList) ++
        '=' :: (('\'' :: name.toList ++ ['\'']) ++ ']' :: rest) := by
  cases attr with
  | none => exact ⟨['/'], by simp [setPrefix, ocSetPrefixNoAttr, KeyValue.ofStr,
      KeyValue.strValue]⟩
  | some attr => exact ⟨'/' :: (attr.toList ++ ['/']), by simp [setPrefix, ocSetPrefix,
      KeyValue.ofStr, KeyValue.strValue]⟩

theorem ifnameOf_setPrefix {base : String} (hbase : '=' ∉ base.toList) (name : String)
    (attr : Option String) :
    ifnameOf (setPrefix base name attr).strValue.toList = cutName name.toList := by
  obtain ⟨rest, hlist⟩ := toList_setPrefix base name attr
  obtain ⟨rest', hcut⟩ :=
    exists_eq_takeWhile_append ']' ('\'' :: name.toList ++ ['\'']) rest
  have hstart : '=' ∉ base.toList ++ "[name".toList := by
    rw [List.mem_append, not_or]
    exact ⟨hbase, by decide⟩
  have hend : ']' ∉ cutName name.toList := by
    intro hmem
    simpa using List.mem_takeWhile_imp hmem
  rw [hlist, hcut]
  exact ifnameOf_append hstart hend rest'

/-- A name with a bracket loses what is after it, and any other has the quotes. -/
theorem cutName_ne (name : List Char) : cutName name ≠ name := by
  intro h
  by_cases hmem : ']' ∈ name
  · have hmem' : ']' ∈ cutName name := by rwa [h]
    simpa using List.mem_takeWhile_imp hmem'
  · have hwhole : cutName name = '\'' :: name ++ ['\''] := by
      rw [cutName, List.takeWhile_eq_self_iff]
      intro c hc
      have hne : c ≠ ']' := by
        rintro rfl
        simp [hmem] at hc
      simpa using hne
    have hlen := congrArg List.length (h.symm.trans hwhole)
    simp only [List.length_append, List.length_cons, List.length_nil] at hlen
    omega

/-! ## The name in the log -/

/-- The message begins with a time and the prefix of a name. -/
def Streamed (data : SampleData) (kv : KeyValue) (base name : String) (attr : Option String) :
    Prop :=
  kv.key = "__timestamp__" ∧ ∃ entries, data.kv = kv :: setPrefix base name attr :: entries

/-- The line logged is that of the name. -/
def LogsName (data : SampleData) (kv : KeyValue) (name : String) : Prop :=
  updateStats data = some (lineOf data kv name.toList)

theorem updateStats_eq {data : SampleData} {kv : KeyValue} {base name : String}
    {attr : Option String} (hbase : '=' ∉ base.toList) (h : Streamed data kv base name attr) :
    updateStats data = some (lineOf data kv (cutName name.toList)) := by
  obtain ⟨_, entries, hkv⟩ := h
  rw [updateStats, hkv]
  dsimp only
  rw [if_neg (fun hne => hne (key_setPrefix base name attr)), ifnameOf_setPrefix hbase]

theorem lineOf_inj {data : SampleData} {kv : KeyValue} {a b : List Char}
    (h : lineOf data kv a = lineOf data kv b) : a = b := by
  have hlist := congrArg String.toList h
  simpa [lineOf, buildLine] using hlist

/-- No name is read from its prefix as it was. -/
theorem not_logsName (data : SampleData) (kv : KeyValue) (base name : String)
    (attr : Option String) (hbase : '=' ∉ base.toList)
    (h : Streamed data kv base name attr) : ¬ LogsName data kv name := by
  intro hlogs
  rw [LogsName, updateStats_eq hbase h, Option.some.injEq] at hlogs
  exact cutName_ne name.toList (lineOf_inj hlogs)

/-- A sample of one port. -/
def portSample : SampleData where
  kv := [.ofUint "__timestamp__" 5, ocSetPrefixNoAttr "/oc-path/interfaces/interface" "ge-0/0/0"]
  systemId := "r1"

example : updateStats portSample = some "interface,sysname=r1,ifname='ge-0/0/0' 5" := by decide

theorem streamed_portSample : Streamed portSample (.ofUint "__timestamp__" 5)
    "/oc-path/interfaces/interface" "ge-0/0/0" none :=
  ⟨rfl, [], rfl⟩

theorem not_logsName_portSample :
    ¬ LogsName portSample (.ofUint "__timestamp__" 5) "ge-0/0/0" :=
  not_logsName _ _ "/oc-path/interfaces/interface" _ none (by decide) streamed_portSample

/-- The names are not read as they are. -/
theorem not_forall_logsName :
    ¬ ∀ (data : SampleData) (kv : KeyValue) (base name : String) (attr : Option String),
      '=' ∉ base.toList → Streamed data kv base name attr → LogsName data kv name := by
  intro h
  have hlogs := h _ _ _ _ _ (by decide) streamed_portSample
  rw [LogsName, updateStats_eq (by decide) streamed_portSample, Option.some.injEq] at hlogs
  exact cutName_ne _ (lineOf_inj hlogs)

end AgentTelegrafLog

end TelemetryAgent
