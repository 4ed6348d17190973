/-
  The LAG database of the client (AgentClientLag.cpp, AgentClientLag.hpp): `build` makes its
  members, `updateStats` counts the packets of a member from the data that the agent streams.
  A map holds the objects themselves where the code holds pointers: `build` puts each object
  into one map.

  `grown_iff`: a message of the ports counts for no member, so the counts are right only
  where there is nothing to count. The agent and the client spell the key of the counter
  differently, and the prefix of an interface as well.
-/
import Mathlib.Data.UInt
import Std.Data.String.ToNat
import TelemetryAgent.Lib.OrderedMap
import TelemetryAgent.OpenConfig.Interfaces

namespace TelemetryAgent

open Std TelemetryAgent.Lib OpenConfigData

/-! ## The database -/

/-- `AgentMemberInterface` -/
structure AgentMemberInterface where
  name : String
  packets : UInt64 := 0
  deriving DecidableEq, Inhabited

/-- `AgentLag` -/
structure AgentLag where
  name : String
  interfaces : ExtTreeMap String AgentMemberInterface := ∅
  deriving Inhabited

/-- `lag_db` -/
abbrev LagDb := ExtTreeMap String AgentLag

namespace AgentMemberInterface

def incPackets (member : AgentMemberInterface) (n : UInt64) : AgentMemberInterface :=
  { member with packets := member.packets + n }

end AgentMemberInterface

namespace AgentLag

def addMember (lag : AgentLag) (child : AgentMemberInterface) : AgentLag :=
  { lag with interfaces := lag.interfaces.insert child.name child }

def findMember (lag : AgentLag) (name : String) : Option AgentMemberInterface :=
  lag.interfaces[name]?

def addLag (lagDb : LagDb) (lag : AgentLag) : LagDb := lagDb.insert lag.name lag

def findLag (lagDb : LagDb) (lagName : String) : Option AgentLag := lagDb[lagName]?

/-- The name of a LAG, as `build` and the operator spell it. -/
def aeName (i : Nat) : String := "ae" ++ toString i

/-- The name of a member, with the path that `build` gives it. -/
def cname (i j : Nat) : String :=
  "oc-path/interfaces/xe-" ++ toString j ++ "/0/" ++ toString i ++ "/"

def buildLag (lcCount i : Nat) : AgentLag :=
  (List.range lcCount).foldl (fun lag j => lag.addMember { name := cname i j })
    { name := aeName i }

/-- `build`, into the database that there is. -/
def build (lagCount lcCount : Nat) (lagDb : LagDb) : LagDb :=
  (List.range lagCount).foldl (fun lagDb i => addLag lagDb (buildLag lcCount i)) lagDb

/-! ## Counting -/

/-- What `updateStats` carries from one entry to the next. -/
structure Update where
  memberName : String := ""
  lagName : String := ""
  packets : UInt64 := 0
  lagDb : LagDb

/-- One turn of the loop of `updateStats`. -/
def updateEntry (s : Update) (kv : KeyValue) : Update :=
  let s := if kv.key = "__prefix__" then { s with memberName := kv.strValue } else s
  let s := if kv.key = "parent_ae_name" then { s with lagName := kv.strValue } else s
  if kv.key = "output_packets" then
    let s := { s with packets := kv.intValue.toUInt64 }
    match findLag s.lagDb s.lagName with
    | none => s
    | some lag =>
      match lag.findMember s.memberName with
      | none => s
      | some member =>
        let lag := { lag with
          interfaces := lag.interfaces.insert s.memberName (member.incPackets s.packets) }
        { s with lagDb := s.lagDb.insert s.lagName lag }
  else s

def updateStats (lagDb : LagDb) (data : OpenConfigData) : LagDb :=
  (data.kv.foldl updateEntry { lagDb }).lagDb

/-- The count of a member of a LAG. -/
def packets (lagDb : LagDb) (lagName memberName : String) : Option UInt64 :=
  (findLag lagDb lagName).bind fun lag => (lag.findMember memberName).map (·.packets)

/-! ## What `build` makes -/

theorem aeName_inj {i i' : Nat} : aeName i = aeName i' ↔ i = i' := by
  rw [aeName, aeName, String.append_right_inj]
  exact Nat.repr_inj

theorem name_foldl_addMember (l : List Nat) (i : Nat) (lag : AgentLag) :
    (l.foldl (fun lag j => lag.addMember { name := cname i j }) lag).name = lag.name := by
  induction l generalizing lag with
  | nil => rfl
  | cons j l ih => rw [List.foldl_cons, ih, addMember]

theorem interfaces_foldl_addMember (l : List Nat) (i : Nat) (lag : AgentLag) :
    (l.foldl (fun lag j => lag.addMember { name := cname i j }) lag).interfaces =
      l.foldl (fun m j => m.insert (cname i j) { name := cname i j }) lag.interfaces := by
  induction l generalizing lag with
  | nil => rfl
  | cons j l ih => rw [List.foldl_cons, ih, List.foldl_cons, addMember]

@[simp] theorem name_buildLag (m i : Nat) : (buildLag m i).name = aeName i :=
  name_foldl_addMember _ i _

theorem findMember_buildLag {m j : Nat} (i : Nat) (hj : j < m) :
    (buildLag m i).findMember (cname i j) = some { name := cname i j } := by
  rw [findMember, buildLag, interfaces_foldl_addMember]
  exact getElem?_foldl_insert (fun j' _ hj' => by rw [hj']) (.inl (List.mem_range.mpr hj))

theorem findLag_build {n i : Nat} (m : Nat) (lagDb : LagDb) (hi : i < n) :
    findLag (build n m lagDb) (aeName i) = some (buildLag m i) := by
  simp only [findLag, build, addLag, name_buildLag]
  refine getElem?_foldl_insert (fun i' _ hi' => ?_) (.inl (List.mem_range.mpr hi))
  rw [aeName_inj.mp hi']

/-- Each member of each LAG is there, and has counted nothing. -/
theorem packets_build {n m i j : Nat} (lagDb : LagDb) (hi : i < n) (hj : j < m) :
    packets (build n m lagDb) (aeName i) (cname i j) = some 0 := by
  rw [packets, findLag_build m lagDb hi, Option.bind_some, findMember_buildLag i hj,
    Option.map_some]

/-! ## What the stream of the ports counts -/

/-- The data that `on_message` sends for a message of the ports. -/
def translate (componentId : UInt32) (mstime : UInt64) (message : GPort) : OpenConfigData :=
  OpenConfigPort.iterate message (insertExportTimestamp { componentId } mstime)

/-- The packets out of an interface of a LAG, of the entries that have octets. -/
def egressPackets (message : GPort) (ifName aeName : String) : UInt64 :=
  ((message.interfaceStats.filter fun x =>
    x.ifName = ifName ∧ x.parentAeName = aeName ∧ x.egressStats.ifOctets ≠ 0).map
      (·.egressStats.ifPkts)).sum

/-- The interface of member `j` of LAG `i`. -/
def xeName (i j : Nat) : String := "xe-" ++ toString j ++ "/0/" ++ toString i

/-- The counts of the `n` LAGs with `m` members have grown by what the message says, and no
    other count has changed. -/
def Grown (n m : Nat) (message : GPort) (lagDb lagDb' : LagDb) : Prop :=
  (∀ i < n, ∀ j < m, ∃ c, packets lagDb (aeName i) (cname i j) = some c ∧
    packets lagDb' (aeName i) (cname i j) =
      some (c + egressPackets message (xeName i j) (aeName i))) ∧
  ∀ lagName memberName, (¬ ∃ i < n, ∃ j < m, lagName = aeName i ∧ memberName = cname i j) →
    packets lagDb' lagName memberName = packets lagDb lagName memberName

theorem lagDb_updateEntry {s : Update} {kv : KeyValue} (h : kv.key ≠ "output_packets") :
    (updateEntry s kv).lagDb = s.lagDb := by
  rw [updateEntry]
  dsimp only
  rw [if_neg h]
  split <;> split <;> rfl

theorem lagDb_foldl_updateEntry {l : List KeyValue} {s : Update}
    (h : ∀ kv ∈ l, kv.key ≠ "output_packets") : (l.foldl updateEntry s).lagDb = s.lagDb := by
  induction l generalizing s with
  | nil => rfl
  | cons kv l ih =>
    rw [List.foldl_cons, ih fun kv' hkv => h kv' (List.mem_cons_of_mem kv hkv),
      lagDb_updateEntry (h kv List.mem_cons_self)]

theorem updateStats_eq {lagDb : LagDb} {data : OpenConfigData}
    (h : ∀ kv ∈ data.kv, kv.key ≠ "output_packets") : updateStats lagDb data = lagDb :=
  lagDb_foldl_updateEntry h

/-- No entry of an interface has the key that the client counts. -/
theorem key_entries_ne {x : InterfaceInfos} :
    ∀ kv ∈ OpenConfigPort.setPrefix x :: OpenConfigPort.entries x,
      kv.key ≠ "output_packets" := by
  rw [OpenConfigPort.setPrefix, ocSetPrefixNoAttr, OpenConfigPort.entries,
    OpenConfigPort.egress, OpenConfigPort.ingress]
  split_ifs <;> simp [prefixKey]

theorem updateStats_translate (lagDb : LagDb) (componentId : UInt32) (mstime : UInt64)
    (message : GPort) : updateStats lagDb (translate componentId mstime message) = lagDb := by
  refine updateStats_eq fun kv hkv => ?_
  rw [translate, OpenConfigPort.iterate, iterateElements_eq] at hkv
  obtain hkv | hkv := List.mem_append.mp hkv
  · obtain rfl : kv = .ofUint "__timestamp__" mstime := by
      simpa [insertExportTimestamp] using hkv
    simp
  · obtain ⟨x, -, hx⟩ := List.mem_flatMap.mp hkv
    exact key_entries_ne kv hx

theorem head?_toList_append {a b : String} {c : Char} (h : a.toList.head? = some c) :
    (a ++ b).toList.head? = some c := by
  rw [String.toList_append, List.head?_append, h, Option.some_or]

/-- Nor would a member be found: the prefix of an interface is no name that `build` gives. -/
theorem setPrefix_ne_cname (x : InterfaceInfos) (i j : Nat) :
    (OpenConfigPort.setPrefix x).strValue ≠ cname i j := by
  have hprefix : (OpenConfigPort.setPrefix x).strValue.toList.head? = some '/' :=
    head?_toList_append (head?_toList_append (head?_toList_append (by decide)))
  have hname : (cname i j).toList.head? = some 'o' :=
    head?_toList_append (head?_toList_append (head?_toList_append
      (head?_toList_append (by decide))))
  intro h
  rw [h, hname] at hprefix
  exact absurd hprefix (by decide)

/-- The client's loop over the messages of the ports that it reads, as they were sent. -/
def readStream (lagDb : LagDb) (stream : List (UInt32 × UInt64 × GPort)) : LagDb :=
  stream.foldl (fun lagDb sent => updateStats lagDb (translate sent.1 sent.2.1 sent.2.2)) lagDb

theorem readStream_eq (lagDb : LagDb) (stream : List (UInt32 × UInt64 × GPort)) :
    readStream lagDb stream = lagDb := by
  unfold readStream
  induction stream with
  | nil => rfl
  | cons sent stream ih => rw [List.foldl_cons, updateStats_translate, ih]

/-- For every database that `build` makes, after whatever the client has read into it, and
    every message of the ports: the counts grow as they should exactly if the message has no
    packets for a member of the LAGs. -/
theorem grown_iff (n m : Nat) (lagDb : LagDb) (earlier : List (UInt32 × UInt64 × GPort))
    (componentId : UInt32) (mstime : UInt64) (message : GPort) :
    Grown n m message (readStream (build n m lagDb) earlier)
        (updateStats (readStream (build n m lagDb) earlier)
          (translate componentId mstime message)) ↔
      ∀ i < n, ∀ j < m, egressPackets message (xeName i j) (aeName i) = 0 := by
  rw [updateStats_translate, readStream_eq]
  constructor
  · rintro ⟨hmembers, -⟩ i hi j hj
    obtain ⟨c, hc, hgrown⟩ := hmembers i hi j hj
    rw [hc, Option.some.injEq] at hgrown
    exact UInt64.left_eq_add.mp hgrown
  · intro h
    refine ⟨fun i hi j hj => ⟨0, packets_build lagDb hi hj, ?_⟩, fun _ _ _ => rfl⟩
    rw [packets_build lagDb hi hj, h i hi j hj]
    rfl

/-- Five packets out of the only member of the only LAG. -/
theorem exists_not_grown : ¬ ∀ (n m : Nat) (lagDb : LagDb) (componentId : UInt32)
    (mstime : UInt64) (message : GPort),
    Grown n m message (build n m lagDb)
      (updateStats (build n m lagDb) (translate componentId mstime message)) := by
  intro h
  obtain ⟨hmembers, -⟩ := h 1 1 ∅ 0 0
    ⟨[{ ifName := "xe-0/0/0", parentAeName := "ae0",
        egressStats := { ifPkts := 5, ifOctets := 640 } }]⟩
  obtain ⟨c, hc, hgrown⟩ := hmembers 0 (by decide) 0 (by decide)
  rw [updateStats_translate, hc, Option.some.injEq, UInt64.left_eq_add] at hgrown
  exact absurd hgrown (by decide +kernel)

end AgentLag

end TelemetryAgent
