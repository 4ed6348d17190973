/-
  What the generated documents do to a device.

  The analytics configuration of the device is three tables, keyed by name. A document deletes
  the entry that it names with the delete operation, and inserts or replaces any other
  (`applyConfig`). `restored_of_add_remove`: the documents that add and then delete one id leave
  the export profiles and the sensors as they were, and change of the streaming servers at most
  the collector that all ids share.
-/
import Mathlib.Logic.Function.Basic
import TelemetryAgent.Junos.Generated

namespace TelemetryAgent

open TelemetryAgent.Lib JunosTelemetryJson

variable {ν : Type} {lib : Jsoncpp ν}

namespace JunosTelemetryJsonGenerator

/-- The entries of one table, with their members. -/
abbrev Table (ν : Type) := String → Option (List (String × Json ν))

structure AnalyticsTables (ν : Type) where
  exportProfile : Table ν
  sensor : Table ν
  streamingServer : Table ν

/-- The entry carries the delete operation. -/
def isDelete (ms : List (String × Json ν)) : Bool :=
  match ms.lookup "@" with
  | some (.obj os) =>
    match os.lookup "operation" with
    | some (.str operation) => operation = "delete"
    | _ => false
  | _ => false

/-- `none` is an entry without a name. -/
def applyEntry (table : Table ν) : Json ν → Option (Table ν)
  | .obj ms => do
    let name ← (← ms.lookup "name").str?
    some (Function.update table name (if isDelete ms then none else some ms))
  | _ => none

/-- The entries of one list, in order. A list that is not there changes nothing. -/
def applyList (table : Table ν) : Json ν → Option (Table ν)
  | .null => some table
  | .arr items => items.foldlM applyEntry table
  | _ => none

def applyConfig (lib : Jsoncpp ν) (dev : AnalyticsTables ν) (text : String) :
    Option (AnalyticsTables ν) := do
  let json ← lib.parse (withoutTags text)
  let json ← json.key "configuration"
  let json ← json.key "services"
  let json ← json.key "analytics"
  some {
    exportProfile := ← applyList dev.exportProfile (← json.key "export-profile")
    sensor := ← applyList dev.sensor (← json.key "sensor")
    streamingServer := ← applyList dev.streamingServer (← json.key "streaming-server") }

/-! ## The two documents -/

variable {dev : AnalyticsTables ν} {text : String}

theorem applyConfig_analytics {ms : List (String × Json ν)}
    (hparse : lib.parse (withoutTags text) = some (analytics ms)) :
    applyConfig lib dev text = (do
      some {
        exportProfile :=
          ← applyList dev.exportProfile ((ms.lookup "export-profile").getD .null)
        sensor := ← applyList dev.sensor ((ms.lookup "sensor").getD .null)
        streamingServer :=
          ← applyList dev.streamingServer ((ms.lookup "streaming-server").getD .null) }) := by
  simp only [applyConfig, hparse, analytics, Json.key, lookup_cons, if_true, Option.getD_some,
    Option.bind_eq_bind, Option.bind_some]

theorem applyList_entry {table : Table ν} {ms : List (String × Json ν)} {n : String}
    (hname : ms.lookup "name" = some (.str n)) :
    applyList table (.arr [.obj ms]) =
      some (Function.update table n (if isDelete ms then none else some ms)) := by
  simp only [applyList, List.foldlM_cons, List.foldlM_nil, applyEntry, hname, Json.str?,
    Option.bind_eq_bind, Option.bind_some, Option.pure_def]

/-- The entry that a delete document has for a name. -/
def deleteEntry (name : String) : List (String × Json ν) := [deleteOperation, ("name", .str name)]

theorem applyList_deleteEntry (table : Table ν) (name : String) :
    applyList table (.arr [.obj (deleteEntry name)]) =
      some (Function.update table name none) := by
  rw [applyList_entry (n := name) (by simp [deleteEntry, deleteOperation, lookup_cons])]
  simp [isDelete, deleteEntry, deleteOperation]

variable (dev) in
/-- The document that adds an id puts one export profile and one sensor into the tables, and
    with udp the collector. -/
theorem applyConfig_add (hl : lib.Lawful) (ht : ReadsTemplates lib) {udp : Bool} {ip : String}
    {port id : Nat} {path : Path}
    (htext : generateJsonJunosConfig lib true udp ip port id path = some text) :
    ∃ profile sensor server, applyConfig lib dev text = some {
      exportProfile := Function.update dev.exportProfile ("export_" ++ toString id) (some profile)
      sensor := Function.update dev.sensor ("sensor_" ++ toString id) (some sensor)
      streamingServer :=
        if udp then Function.update dev.streamingServer grpcUdpCollectorName (some server)
        else dev.streamingServer } := by
  obtain ⟨text', htext', hparse⟩ := parse_generated hl ht true udp ip port id path
  obtain rfl : text = text' := Option.some.inj (htext.symm.trans htext')
  let profile : List (String × Json ν) :=
    [("name", .str ("export_" ++ toString id)), ("transport", .str (if udp then "udp" else "grpc"))]
  let sensor : List (String × Json ν) := readSensor replaceName udp id path
  let server : List (String × Json ν) :=
    [("name", .str grpcUdpCollectorName),
      ("remote-address", .str (.ofList (replaceName ip.toList))),
      ("remote-port", .str (toString port))]
  have hprofile : applyList dev.exportProfile (.arr [.obj profile]) =
      some (Function.update dev.exportProfile ("export_" ++ toString id) (some profile)) := by
    rw [applyList_entry (n := "export_" ++ toString id) (by simp [profile])]
    simp [isDelete, profile, lookup_cons]
  have hsensor : applyList dev.sensor (.arr [.obj sensor]) =
      some (Function.update dev.sensor ("sensor_" ++ toString id) (some sensor)) := by
    rw [applyList_entry (n := "sensor_" ++ toString id) (by simp [sensor, lookup_readSensor])]
    simp [isDelete, sensor, lookup_readSensor]
  have hserver : applyList dev.streamingServer (.arr [.obj server]) =
      some (Function.update dev.streamingServer grpcUdpCollectorName (some server)) := by
    rw [applyList_entry (n := grpcUdpCollectorName) (by simp [server])]
    simp [isDelete, server, lookup_cons]
  refine ⟨profile, sensor, server, ?_⟩
  rw [applyConfig_analytics hparse]
  cases udp with
  | false =>
    simp only [readConfig, entry, if_true, Bool.false_and, Bool.false_eq_true, if_false,
      List.append_nil, lookup_cons, List.lookup_nil, String.reduceEq, Option.getD_some,
      Option.getD_none]
    rw [show applyList dev.streamingServer .null = some dev.streamingServer from rfl]
    simp only [profile, sensor, Bool.false_eq_true, if_false] at hprofile hsensor
    simp only [hprofile, hsensor, Option.bind_eq_bind, Option.bind_some, profile, sensor,
      Bool.false_eq_true, if_false]
  | true =>
    simp only [readConfig, entry, if_true, Bool.true_and, List.cons_append, List.nil_append,
      lookup_cons, List.lookup_nil, String.reduceEq, if_false, Option.getD_some]
    simp only [profile, sensor, server, if_true] at hprofile hsensor hserver
    simp only [hprofile, hsensor, hserver, Option.bind_eq_bind, Option.bind_some, profile, sensor,
      server, if_true]

theorem applyConfig_remove (hl : lib.Lawful) (ht : ReadsTemplates lib) {udp : Bool} {ip : String}
    {port id : Nat} {path : Path}
    (htext : generateJsonJunosConfig lib false udp ip port id path = some text) :
    applyConfig lib dev text = some {
      exportProfile := Function.update dev.exportProfile ("export_" ++ toString id) none
      sensor := Function.update dev.sensor ("sensor_" ++ toString id) none
      streamingServer := dev.streamingServer } := by
  obtain ⟨text', htext', hparse⟩ := parse_generated hl ht false udp ip port id path
  obtain rfl : text = text' := Option.some.inj (htext.symm.trans htext')
  have hprofile := applyList_deleteEntry dev.exportProfile ("export_" ++ toString id)
  have hsensor := applyList_deleteEntry dev.sensor ("sensor_" ++ toString id)
  simp only [deleteEntry] at hprofile hsensor
  rw [applyConfig_analytics hparse]
  simp only [readConfig, entry, Bool.false_eq_true, if_false, Bool.and_false, List.append_nil,
    lookup_cons, String.reduceEq, if_true, Option.getD_some, List.lookup_nil, Option.getD_none]
  rw [show applyList dev.streamingServer .null = some dev.streamingServer from rfl]
  simp only [hprofile, hsensor, Option.bind_eq_bind, Option.bind_some]

theorem update_update_none {table : Table ν} {name : String} (h : table name = none)
    (entry : Option (List (String × Json ν))) :
    Function.update (Function.update table name entry) name none = table := by
  rw [Function.update_idem, ← h, Function.update_eq_self]

/-- For a device without the entries of the id. -/
theorem restored_of_add_remove (hl : lib.Lawful) (ht : ReadsTemplates lib)
    (dev : AnalyticsTables ν) (udp : Bool) (ip : String) (port id : Nat) (path : Path)
    (hprofile : dev.exportProfile ("export_" ++ toString id) = none)
    (hsensor : dev.sensor ("sensor_" ++ toString id) = none) :
    ∃ add remove dev1 dev2,
      generateJsonJunosConfig lib true udp ip port id path = some add ∧
      generateJsonJunosConfig lib false udp ip port id path = some remove ∧
      applyConfig lib dev add = some dev1 ∧ applyConfig lib dev1 remove = some dev2 ∧
      dev2.exportProfile = dev.exportProfile ∧ dev2.sensor = dev.sensor ∧
      (∀ name, name ≠ grpcUdpCollectorName →
        dev1.streamingServer name = dev.streamingServer name ∧
        dev2.streamingServer name = dev.streamingServer name) ∧
      (∀ name, name ≠ "export_" ++ toString id →
        dev1.exportProfile name = dev.exportProfile name) ∧
      (∀ name, name ≠ "sensor_" ++ toString id → dev1.sensor name = dev.sensor name) := by
  obtain ⟨add, hadd, -⟩ := parse_generated hl ht true udp ip port id path
  obtain ⟨remove, hremove, -⟩ := parse_generated hl ht false udp ip port id path
  obtain ⟨profile, sensor, server, h1⟩ := applyConfig_add dev hl ht hadd
  refine ⟨add, remove, _, _, hadd, hremove, h1, applyConfig_remove hl ht hremove, ?_, ?_, ?_, ?_,
    ?_⟩
  · exact update_update_none hprofile _
  · exact update_update_none hsensor _
  · intro name hname
    cases udp with
    | false => exact ⟨rfl, rfl⟩
    | true => exact ⟨Function.update_of_ne hname _ _, Function.update_of_ne hname _ _⟩
  · intro name hname
    exact Function.update_of_ne hname _ _
  · intro name hname
    exact Function.update_of_ne hname _ _

/-- A device with a sensor of id 1001. -/
def deviceWithSensor : AnalyticsTables Empty where
  exportProfile _ := none
  sensor name := if name = "sensor_1001" then some [] else none
  streamingServer _ := none

theorem restored_of_add_remove_udp :
    ∃ add remove dev1 dev2,
      generateJsonJunosConfig plainJsoncpp true true "1.1.1.1" 10000 1000 { path := "firewall" } =
        some add ∧
      generateJsonJunosConfig plainJsoncpp false true "1.1.1.1" 10000 1000 { path := "firewall" } =
        some remove ∧
      applyConfig plainJsoncpp deviceWithSensor add = some dev1 ∧
      applyConfig plainJsoncpp dev1 remove = some dev2 ∧
      dev2.exportProfile = deviceWithSensor.exportProfile ∧
      dev2.sensor = deviceWithSensor.sensor := by
  obtain ⟨add, remove, dev1, dev2, h1, h2, h3, h4, h5, h6, -⟩ :=
    restored_of_add_remove plainJsoncpp_lawful plainJsoncpp_readsTemplates deviceWithSensor
      true "1.1.1.1" 10000 1000 { path := "firewall" } rfl (by decide)
  exact ⟨add, remove, dev1, dev2, h1, h2, h3, h4, h5, h6⟩

end JunosTelemetryJsonGenerator

end TelemetryAgent
