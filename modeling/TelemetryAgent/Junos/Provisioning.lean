/-
  What a system that sends the generated documents has on the device.

  `Provisions sys tables`: a call of `sys` that succeeds does to the tables of the device what its
  document says, and one that fails does nothing to them. Over such a system the consolidator keeps
  one export profile and one sensor for each entry of `sysdb` and no others (`Shows`), as long as no
  new entry is made without a free id and no removal is refused (`provisioned_step`).
-/
import TelemetryAgent.Consolidator.Ids
import TelemetryAgent.Junos.AgentSystemProc
import TelemetryAgent.Junos.DeviceTables

namespace TelemetryAgent

open Std TelemetryAgent.Lib JunosTelemetryJson

variable {ν σ : Type} {lib : Jsoncpp ν}

namespace JunosTelemetryJsonGenerator

/-! ## The documents on the tables -/

def AnalyticsTables.empty : AnalyticsTables ν := ⟨fun _ => none, fun _ => none, fun _ => none⟩

/-- A document with the delete operation on the analytics configuration itself deletes all of
    it. -/
def applyDocument (lib : Jsoncpp ν) (tables : AnalyticsTables ν) (text : String) :
    Option (AnalyticsTables ν) := do
  let json ← lib.parse (withoutTags text)
  let json ← json.key "configuration"
  let json ← json.key "services"
  match ← json.key "analytics" with
  | .obj ms => if isDelete ms then some .empty else applyConfig lib tables text
  | _ => none

def profileRow (udp : Bool) (id : Nat) : List (String × Json ν) :=
  [("name", .str ("export_" ++ toString id)), ("transport", .str (if udp then "udp" else "grpc"))]

def collectorRow (config : GlobalConfig) : List (String × Json ν) :=
  [("name", .str grpcUdpCollectorName),
    ("remote-address", .str (.ofList (replaceName config.udpServerIp.toList))),
    ("remote-port", .str (toString (config.udpServerPort % 2 ^ 32).toNat))]

/-- The tables with the configuration of an id. -/
def AnalyticsTables.add (config : GlobalConfig) (tables : AnalyticsTables ν) (id : Nat)
    (path : Path) : AnalyticsTables ν where
  exportProfile := Function.update tables.exportProfile ("export_" ++ toString id)
    (some (profileRow config.udpServerModule id))
  sensor := Function.update tables.sensor ("sensor_" ++ toString id)
    (some (readSensor replaceName config.udpServerModule id path))
  streamingServer :=
    if config.udpServerModule then
      Function.update tables.streamingServer grpcUdpCollectorName (some (collectorRow config))
    else tables.streamingServer

/-- The tables without it. The collector stays. -/
def AnalyticsTables.remove (tables : AnalyticsTables ν) (id : Nat) : AnalyticsTables ν where
  exportProfile := Function.update tables.exportProfile ("export_" ++ toString id) none
  sensor := Function.update tables.sensor ("sensor_" ++ toString id) none
  streamingServer := tables.streamingServer

variable {config : GlobalConfig} {tables : AnalyticsTables ν} {text : String} {id : Nat}
  {path : Path}

theorem applyDocument_analytics {ms : List (String × Json ν)}
    (hparse : lib.parse (withoutTags text) = some (analytics ms)) :
    applyDocument lib tables text =
      if isDelete ms then some .empty else applyConfig lib tables text := by
  simp only [applyDocument, hparse, analytics, Json.key, lookup_cons, if_true, Option.getD_some,
    Option.bind_eq_bind, Option.bind_some]

theorem isDelete_readConfig (f : List Char → List Char) (add udp : Bool) (ip : String)
    (port id : Nat) (path : Path) :
    isDelete (readConfig f add udp ip port id path : List (String × Json ν)) = false := by
  unfold isDelete readConfig
  cases udp <;> cases add <;> simp [entry, lookup_cons]

theorem applyList_row (table : Table ν) (ms : List (String × Json ν)) {n : String}
    (hname : ms.lookup "name" = some (.str n)) (hdelete : ms.lookup "@" = none) :
    applyList table (.arr [.obj ms]) = some (Function.update table n (some ms)) := by
  rw [applyList_entry hname]
  simp [isDelete, hdelete]

theorem lookup_profile_readConfig (f : List Char → List Char) (udp : Bool) (ip : String)
    (port id : Nat) (path : Path) :
    (readConfig f true udp ip port id path : List (String × Json ν)).lookup "export-profile" =
      some (.arr [.obj (profileRow udp id)]) := by
  simp [readConfig, entry, profileRow]

theorem lookup_collector_readConfig (udp : Bool) (id : Nat) (path : Path) :
    (readConfig replaceName true udp config.udpServerIp (config.udpServerPort % 2 ^ 32).toNat id
        path : List (String × Json ν)).lookup "streaming-server" =
      if udp then some (.arr [.obj (collectorRow config)]) else none := by
  cases udp <;> simp [readConfig, entry, collectorRow, lookup_cons]

theorem applyDocument_add (hl : lib.Lawful) (ht : ReadsTemplates lib)
    (htext : AgentSystemProc.junosConfigFor config lib true id path = some text) :
    applyDocument lib tables text = some (tables.add config (id % 2 ^ 32) path) := by
  obtain ⟨text', htext', hparse⟩ := parse_generated hl ht true config.udpServerModule
    config.udpServerIp (config.udpServerPort % 2 ^ 32).toNat (id % 2 ^ 32) path
  obtain rfl : text = text' := Option.some.inj (htext.symm.trans htext')
  have hprofile := applyList_row tables.exportProfile
    (profileRow config.udpServerModule (id % 2 ^ 32)) (n := "export_" ++ toString (id % 2 ^ 32))
    (by simp [profileRow]) (by simp [profileRow, lookup_cons])
  have hsensor := applyList_row tables.sensor
    (readSensor replaceName config.udpServerModule (id % 2 ^ 32) path)
    (n := "sensor_" ++ toString (id % 2 ^ 32)) (by simp [lookup_readSensor])
    (by simp [lookup_readSensor])
  have hserver := applyList_row tables.streamingServer (collectorRow config)
    (n := grpcUdpCollectorName) (by simp [collectorRow]) (by simp [collectorRow, lookup_cons])
  rw [applyDocument_analytics hparse, isDelete_readConfig, if_neg Bool.false_ne_true,
    applyConfig_analytics hparse, lookup_profile_readConfig,
    AgentSystemProc.lookup_sensor_readConfig, lookup_collector_readConfig, AnalyticsTables.add]
  simp only [Option.getD_some, hprofile, hsensor, Option.bind_eq_bind, Option.bind_some]
  split_ifs
  · rw [Option.getD_some, hserver, Option.bind_some]
  · rfl

theorem applyDocument_remove (hl : lib.Lawful) (ht : ReadsTemplates lib)
    (htext : AgentSystemProc.junosConfigFor config lib false id path = some text) :
    applyDocument lib tables text = some (tables.remove (id % 2 ^ 32)) := by
  obtain ⟨text', htext', hparse⟩ := parse_generated hl ht false config.udpServerModule
    config.udpServerIp (config.udpServerPort % 2 ^ 32).toNat (id % 2 ^ 32) path
  obtain rfl : text = text' := Option.some.inj (htext.symm.trans htext')
  rw [applyDocument_analytics hparse, isDelete_readConfig, if_neg Bool.false_ne_true]
  exact applyConfig_remove hl ht htext

variable (tables) in
theorem applyDocument_clearAll (hl : lib.Lawful) (ht : ReadsTemplates lib) :
    applyDocument lib tables (generateJsonClearAllJunosConfig lib) = some .empty := by
  have htext : generateJsonClearAllJunosConfig lib =
      AgentSystemProc.tagged ((analytics [deleteOperation]).write lib.toSpelling) := by
    rw [generateJsonClearAllJunosConfig, JsonUtils.parseStringToJsonObj, ht.clearAllConfig]
    rfl
  have hparse : lib.parse (withoutTags (generateJsonClearAllJunosConfig lib)) =
      some (analytics [deleteOperation]) := by
    rw [htext, withoutTags_tagged, hl.parse_write]
    rfl
  rw [applyDocument_analytics hparse, if_pos (by rfl)]

/-! ## The rows of the entries -/

section Rows

variable {β : Type} {table : Table ν} {entry : String → Option (Nat × Path)} {name : Nat → String}
  {row : Nat × Path → List (String × Json ν)} {k : String}

/-- The table has a row for each entry, under the name of its id, and no others. -/
def Lists (table : Table ν) (entry : String → Option (Nat × Path)) (name : Nat → String)
    (row : Nat × Path → List (String × Json ν)) : Prop :=
  ∀ n ms, table n = some ms ↔ ∃ ip, (∃ k, entry k = some ip) ∧ n = name ip.1 ∧ ms = row ip

theorem lists_empty : Lists (fun _ => none : Table ν) (fun _ => none) name row := by
  intro n ms
  simp

theorem Lists.add (h : Lists table entry name row) (ip : Nat × Path) (hname : Function.Injective name)
    (hk : entry k = none) (hid : ∀ k' ip', entry k' = some ip' → ip'.1 ≠ ip.1) :
    Lists (Function.update table (name ip.1) (some (row ip))) (Function.update entry k (some ip))
      name row := by
  intro n ms
  simp only [exists_update_some hk]
  constructor
  · intro hn
    obtain ⟨rfl, rfl⟩ | ⟨-, hn⟩ := update_some_eq_some.mp hn
    · exact ⟨ip, Or.inl rfl, rfl, rfl⟩
    · obtain ⟨ip', hip', hrow⟩ := (h n ms).mp hn
      exact ⟨ip', Or.inr hip', hrow⟩
  · rintro ⟨ip', rfl | ⟨k', hk'⟩, rfl, rfl⟩
    · exact Function.update_self _ _ _
    · rw [Function.update_of_ne fun he => hid k' ip' hk' (hname he)]
      exact (h _ _).mpr ⟨ip', ⟨k', hk'⟩, rfl, rfl⟩

theorem Lists.remove (h : Lists table entry name row) (ip : Nat × Path) (hname : Function.Injective name)
    (hk : entry k = some ip)
    (hid : ∀ k' ip', entry k' = some ip' → ip'.1 = ip.1 → k' = k) :
    Lists (Function.update table (name ip.1) none) (Function.update entry k none) name row := by
  intro n ms
  rw [update_none_eq_some, h]
  constructor
  · rintro ⟨hne, ip', ⟨k', hk'⟩, rfl, rfl⟩
    refine ⟨ip', ⟨k', update_none_eq_some.mpr ⟨?_, hk'⟩⟩, rfl, rfl⟩
    rintro rfl
    rw [hk, Option.some.injEq] at hk'
    exact hne (by rw [hk'])
  · rintro ⟨ip', ⟨k', hk'⟩, rfl, rfl⟩
    obtain ⟨hne, hk'⟩ := update_none_eq_some.mp hk'
    exact ⟨fun he => hne (hid k' ip' hk' (hname he)), ip', ⟨k', hk'⟩, rfl, rfl⟩

end Rows

/-- The analytics configuration is that of the entries. -/
structure Shows (config : GlobalConfig) (tables : AnalyticsTables ν)
    (entry : String → Option (Nat × Path)) : Prop where
  sensor : Lists tables.sensor entry ("sensor_" ++ toString ·)
    fun ip => readSensor replaceName config.udpServerModule ip.1 ip.2
  exportProfile : Lists tables.exportProfile entry ("export_" ++ toString ·)
    fun ip => profileRow config.udpServerModule ip.1
  /-- There is no streaming server but the collector. -/
  collector : ∀ n ms, tables.streamingServer n = some ms →
    config.udpServerModule = true ∧ n = grpcUdpCollectorName ∧ ms = collectorRow config
  /-- With udp every sensor has its collector. -/
  served : config.udpServerModule = true → (∃ k, entry k ≠ none) →
    tables.streamingServer grpcUdpCollectorName = some (collectorRow config)

variable {entry : String → Option (Nat × Path)} {k : String}

theorem append_toString_injective (s : String) : Function.Injective fun n : Nat => s ++ toString n := by
  intro n m h
  exact Nat.repr_inj.mp ((String.append_right_inj s).mp h)

theorem shows_empty : Shows config (.empty : AnalyticsTables ν) fun _ => none where
  sensor := lists_empty
  exportProfile := lists_empty
  collector n ms h := absurd h (by simp [AnalyticsTables.empty])
  served _ h := absurd h (by simp)

theorem Shows.add (h : Shows config tables entry) (hk : entry k = none)
    (hid : ∀ k' ip', entry k' = some ip' → ip'.1 ≠ id) :
    Shows config (tables.add config id path) (Function.update entry k (some (id, path))) where
  sensor := h.sensor.add (id, path) (append_toString_injective "sensor_") hk hid
  exportProfile := h.exportProfile.add (id, path) (append_toString_injective "export_") hk hid
  collector n ms hn := by
    unfold AnalyticsTables.add at hn
    dsimp only at hn
    split_ifs at hn with hudp
    · obtain ⟨rfl, rfl⟩ | ⟨-, hn⟩ := update_some_eq_some.mp hn
      · exact ⟨hudp, rfl, rfl⟩
      · exact h.collector n ms hn
    · exact h.collector n ms hn
  served hudp _ := by
    unfold AnalyticsTables.add
    dsimp only
    rw [if_pos hudp, Function.update_self]

theorem Shows.remove (h : Shows config tables entry) (hk : entry k = some (id, path))
    (hid : ∀ k' ip', entry k' = some ip' → ip'.1 = id → k' = k) :
    Shows config (tables.remove id) (Function.update entry k none) where
  sensor := h.sensor.remove (id, path) (append_toString_injective "sensor_") hk hid
  exportProfile := h.exportProfile.remove (id, path) (append_toString_injective "export_")
    hk hid
  collector := h.collector
  served hudp _ := h.served hudp ⟨k, by simp [hk]⟩

end JunosTelemetryJsonGenerator

/-! ## Behind the consolidator -/

open JunosTelemetryJsonGenerator

/-- The calls of the system do to the tables what their documents say, where they succeed. -/
structure Provisions (config : GlobalConfig) (sys : AgentSystem σ) (tables : σ → AnalyticsTables ν) :
    Prop where
  add : ∀ id p s, tables (sys.systemAdd id p s).2 =
    if (sys.systemAdd id p s).1 then (tables s).add config (id % 2 ^ 32) p else tables s
  remove : ∀ id p s, tables (sys.systemRemove id p s).2 =
    if (sys.systemRemove id p s).1 then (tables s).remove (id % 2 ^ 32) else tables s

namespace AgentConsolidator

open AgentConsolidatorSystemHandle

variable {config : GlobalConfig} {sys : AgentSystem σ} {tables : σ → AnalyticsTables ν}
  {getMessageString : Path → String} {c c' : AgentConsolidator σ} {l : List SystemHandlePtr}

variable (sys) in
/-- If this is the last reference, the system takes the removal. -/
def RemoveTaken (c : AgentConsolidator σ) (ptr : SystemHandlePtr) : Prop :=
  (c.syshandle ptr).refcount = 1 →
    (sys.systemRemove (c.syshandle ptr).internalSubscriptionId (c.syshandle ptr).path
      c.sysHandle).1 = true

variable (sys getMessageString) in
/-- New entries are made with a free id, and removals are taken. -/
def ShowsStep (c : AgentConsolidator σ) (e : Call) : Prop :=
  FreeIdStep sys getMessageString c e ∧
    match e with
    | .addRequest _ _ _ => True
    | .removeRequest ptr => ∀ x, c.handles[ptr]? = some x →
      Meets (destroyStep sys getMessageString) (RemoveTaken sys) c x.consolidatorsyshandles

/-- The tables of the device are those of the entries, and the ids are exact. -/
structure Provisioned (config : GlobalConfig) (tables : σ → AnalyticsTables ν)
    (c : AgentConsolidator σ) : Prop where
  exact : c.internalIdGenerator.Exact c.entryId
  shows : Shows config (tables c.sysHandle) c.entry

theorem id_mod_of_lt {i : Nat} (h : i < internalSubscriptionIdSpaceSize) : i % 2 ^ 32 = i :=
  Nat.mod_eq_of_lt (Nat.lt_trans h (by decide))

theorem entryId_of_entry_some {t : String} {ip : Nat × Path} (h : c.entry t = some ip) :
    c.entryId t = some ip.1 := congrArg (Option.map Prod.fst) h

theorem provisioned_create (hp : Provisions config sys tables) (hr : RefInv getMessageString c l)
    (h : Provisioned config tables c) {p : Path}
    (hfree : CreatesWithFreeId sys getMessageString c p) :
    Provisioned config tables (create sys getMessageString c p).2 := by
  refine ⟨exact_create sys hr h.exact hfree, ?_⟩
  cases he : create sys getMessageString c p with
  | mk o c' =>
  show Shows config (tables c'.sysHandle) c'.entry
  obtain ⟨_, _, hent, _, hs⟩ | ⟨hn, _, hs, hent, _⟩ | ⟨_, _, hs, hent, _⟩ := create_entry sys hr p he
  · rw [hent, hs]
    exact h.shows
  · obtain ⟨i, _, hlt, hnew, ha⟩ := AgentServerIdManager.allocate_of_hasFree (by decide)
      (hfree hn (by rw [hs]))
    have htables := hp.add c.internalIdGenerator.allocate.1 p c.sysHandle
    rw [hs, if_pos rfl, ha, id_mod_of_lt hlt] at htables
    rw [htables, hent, ha]
    refine h.shows.add hn fun k' ip' hk' hid => ?_
    have hpresent := (h.exact.present_iff i).mpr ⟨k', hid ▸ entryId_of_entry_some hk'⟩
    rw [hnew] at hpresent
    exact Bool.false_ne_true hpresent
  · have htables := hp.add c.internalIdGenerator.allocate.1 p c.sysHandle
    rw [hs, if_neg Bool.false_ne_true] at htables
    rw [htables, hent]
    exact h.shows

theorem provisioned_destroy (hp : Provisions config sys tables) {ptr : SystemHandlePtr}
    (hr : RefInv getMessageString c (ptr :: l)) (h : Provisioned config tables c)
    (htaken : RemoveTaken sys c ptr) :
    Provisioned config tables (destroy sys getMessageString c ptr).2 := by
  refine ⟨exact_destroy sys hr h.exact, ?_⟩
  obtain ⟨_, hent, _, hs⟩ | ⟨h1, id, p, rfl, rfl, hk, hs, hent, _⟩ := destroy_entry sys hr
  · rw [hent, hs]
    exact h.shows
  · have htables := hp.remove (c.syshandle ptr).internalSubscriptionId (c.syshandle ptr).path
      c.sysHandle
    rw [if_pos (htaken h1), id_mod_of_lt (h.exact.lt (entryId_of_entry_some hk))] at htables
    rw [hs, htables, hent]
    refine h.shows.remove hk fun k' ip' hk' hid => ?_
    exact h.exact.distinct (entryId_of_entry_some hk') (hid ▸ entryId_of_entry_some hk)

theorem provisioned_step (hp : Provisions config sys tables) {e : Call}
    (hi : Inv getMessageString c) (h : Provisioned config tables c)
    (hc : ShowsStep sys getMessageString c e) (hs : step sys getMessageString c e = some c') :
    Provisioned config tables c' := by
  cases e with
  | addRequest alloc id request =>
    rw [← Option.some.inj hs]
    cases alloc with
    | false => exact ⟨h.exact, h.shows⟩
    | true =>
      have h' := addPaths_invariant sys
        (fun c l p hr h hc => provisioned_create hp hr h hc) hi.refs h hc.1
      exact ⟨h'.exact, h'.shows⟩
  | removeRequest ptr =>
    obtain ⟨x, hx, hr, rfl⟩ := step_removeRequest_refs sys hi hs
    have h' := destroyAll_invariant sys
      (fun c l ptr hr h hc => provisioned_destroy hp hr h hc) hr h (hc.2 x hx)
    exact ⟨h'.exact, h'.shows⟩

/-- A first entry has a free id. -/
theorem hasFree_new (s : σ) : (new s).internalIdGenerator.HasFree :=
  ⟨internalSubscriptionIdSpaceMin, Nat.le_refl _, show 1000 ≤ 8196 - 1 by decide,
    AgentServerIdManager.present_new _⟩

theorem provisioned_new {s : σ} (h : tables s = .empty) :
    Provisioned config tables (new s) where
  exact := by
    rw [entryId_new]
    exact AgentServerIdManager.exact_new
  shows := by
    rw [entry_new]
    exact h ▸ shows_empty

end AgentConsolidator

end TelemetryAgent
