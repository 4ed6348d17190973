/-
  `JunosTelemetryJsonGenerator` (JunosTelemetryJsonGenerator.cpp): the configuration that is
  sent to the device for one internal subscription id.

  `generateJsonJunosConfig_eq`: it is the text of one document, `junosConfig`, with the text
  `@name@` replaced in every string of it, between two tags. The tags come off again
  in `systemGet` (`stripTags_tagged`), and with them every other occurrence of theirs.
-/
import TelemetryAgent.AgentUtils
import TelemetryAgent.Junos.JunosTelemetryJson

namespace TelemetryAgent

open TelemetryAgent.Lib JsonUtils JunosTelemetryJson

variable {ν : Type}

namespace JunosTelemetryJsonGenerator

def grpcUdpCollectorName : String := "grpc_udp_collector"

def millisecsToSecs (msec : UInt32) : UInt32 := msec / 1000

/-- The streaming server of the configuration. The first `none` is a failed assertion, the
    second a parse error. -/
def streamingServerJson (lib : Jsoncpp ν) (add udp : Bool) (udpServerIp : String)
    (udpServerPort : Nat) : Option (Option (Json ν)) :=
  if udp then
    match parseStringToJsonObj lib streamingServer with
    | none => some none
    | some json => do
      let json ← setJsonStreamingServer json add grpcUdpCollectorName udpServerIp udpServerPort
      -- the udp streaming server is never deleted
      some (some (if add then json else .null))
  else some (some .null)

/-- The empty string stands for a parse error. -/
def generateJsonJunosConfig (lib : Jsoncpp ν) (add udp : Bool) (udpServerIp : String)
    (udpServerPort internalSubscriptionId : Nat) (path : Path) : Option String := do
  let some exportProfileJson := parseStringToJsonObj lib exportProfile | return ""
  let exportProfileName := "export_" ++ toString internalSubscriptionId
  let exportProfileJson ←
    setJsonExportProfile exportProfileJson add exportProfileName (if udp then "udp" else "grpc")
  let some streamingServerJson ← streamingServerJson lib add udp udpServerIp udpServerPort
    | return ""
  let some sensorConfigJson := parseStringToJsonObj lib sensorConfig | return ""
  let sensorName := "sensor_" ++ toString internalSubscriptionId
  let sensorConfigJson ←
    setJsonSensorConfig sensorConfigJson add udp sensorName grpcUdpCollectorName exportProfileName
      path.path path.filter (millisecsToSecs path.sampleFrequency).toNat internalSubscriptionId
  let finalJson ← mergeJsonObjects .null exportProfileJson
  let finalJson ← mergeJsonObjects finalJson streamingServerJson
  let finalJson ← mergeJsonObjects finalJson sensorConfigJson
  let finalStr := writeJsonObjToString lib finalJson
  let finalStr := AgentUtils.searchNReplaceString finalStr "@name@" "name"
  return "<configuration-json>" ++ finalStr ++ "</configuration-json>"

def generateJsonClearAllJunosConfig (lib : Jsoncpp ν) : String :=
  match parseStringToJsonObj lib clearAllConfig with
  | none => ""
  | some clearAllJson =>
    "<configuration-json>" ++ writeJsonObjToString lib clearAllJson ++ "</configuration-json>"

/-! ## The document -/

/-- The members of the `analytics` object of the configuration. -/
def junosConfig (add udp : Bool) (udpServerIp : String) (udpServerPort id : Nat) (path : Path) :
    List (String × Json ν) :=
  [entry "export-profile"
      (exportProfileMembers add ("export_" ++ toString id) (if udp then "udp" else "grpc")),
    entry "sensor"
      (sensorMembers add udp ("sensor_" ++ toString id) grpcUdpCollectorName
        ("export_" ++ toString id) path.path path.filter
        (millisecsToSecs path.sampleFrequency).toNat id)] ++
  if udp && add then
    [entry "streaming-server"
      (streamingServerMembers true grpcUdpCollectorName udpServerIp udpServerPort)]
  else []

/-- The replacement of the generator. -/
def replaceName (s : List Char) : List Char := replaceAll "@name@".toList "name".toList s

theorem merge_null (ms : List (String × Json ν)) :
    mergeJsonObjects .null (analytics ms) = some (analytics ms) := by
  simp [analytics, mergeJsonObjects, mergeMembers, Json.modifyKey]

theorem merge_entry (ms ms' : List (String × Json ν)) (list : String) :
    mergeJsonObjects (analytics ms) (analytics [entry list ms']) =
      some (analytics (insertMember list (.arr [.obj ms']) ms)) := by
  simp [analytics, entry, mergeJsonObjects, mergeMembers, Json.modifyKey, insertMember]

variable {lib : Jsoncpp ν}

theorem streamingServerJson_eq (ht : ReadsTemplates lib) (add udp : Bool) (ip : String)
    (port : Nat) :
    streamingServerJson lib add udp ip port =
      some (some (if udp && add then
        analytics [entry "streaming-server"
          (streamingServerMembers true grpcUdpCollectorName ip port)]
        else .null)) := by
  cases udp with
  | false => rfl
  | true =>
    simp only [streamingServerJson, parseStringToJsonObj, ht.streamingServer,
      setJsonStreamingServer_template, if_true, Option.bind_eq_bind, Option.bind_some,
      Bool.true_and]
    cases add <;> rfl

theorem merge_junosConfig (add udp : Bool) (ip : String) (port id : Nat) (path : Path) :
    (do
      let finalJson ← mergeJsonObjects .null
        (analytics [entry "export-profile"
          (exportProfileMembers add ("export_" ++ toString id) (if udp then "udp" else "grpc"))])
      let finalJson ← mergeJsonObjects finalJson
        (if udp && add then
          analytics [entry "streaming-server"
            (streamingServerMembers true grpcUdpCollectorName ip port)]
          else .null)
      mergeJsonObjects finalJson
        (analytics [entry "sensor"
          (sensorMembers add udp ("sensor_" ++ toString id) grpcUdpCollectorName
            ("export_" ++ toString id) path.path path.filter
            (millisecsToSecs path.sampleFrequency).toNat id)])) =
      (some (analytics (junosConfig add udp ip port id path)) : Option (Json ν)) := by
  cases h : udp && add with
  | false =>
    simp only [merge_null, merge_entry, mergeJsonObjects, Bool.false_eq_true, if_false,
      Option.bind_eq_bind, Option.bind_some]
    simp [junosConfig, h, insertMember, -String.lt_iff_ltb, entry]
  | true =>
    simp only [merge_null, merge_entry, if_true, Option.bind_eq_bind, Option.bind_some]
    simp [junosConfig, h, insertMember, -String.lt_iff_ltb, entry]

theorem sealed_name (hl : lib.Lawful) :
    Json.Sealed lib.toSpelling "@name@".toList (by decide) :=
  hl.sealed (by decide) (List.all_eq_true.mp (by decide)) (by decide) (by decide) (by decide)

theorem generateJsonJunosConfig_eq (hl : lib.Lawful) (ht : ReadsTemplates lib) (add udp : Bool)
    (ip : String) (port id : Nat) (path : Path) :
    generateJsonJunosConfig lib add udp ip port id path =
      some ("<configuration-json>" ++
        .ofList (((analytics (junosConfig add udp ip port id path)).mapText replaceName).write
          lib.toSpelling) ++ "</configuration-json>") := by
  have hmerge := merge_junosConfig (ν := ν) add udp ip port id path
  have hname := Json.replaceAll_write (r := "name".toList) (sealed_name hl)
    (fun c hc => hl.escape_plain c (List.all_eq_true.mp (by decide) c hc))
    (analytics (junosConfig add udp ip port id path)) []
  simp only [List.append_nil, replaceAll_nil] at hname
  simp only [generateJsonJunosConfig, parseStringToJsonObj, ht.exportProfile, ht.sensorConfig,
    setJsonExportProfile_template, setJsonSensorConfig_template, streamingServerJson_eq ht,
    Option.bind_eq_bind, Option.bind_some] at hmerge ⊢
  obtain ⟨j1, h1, hmerge⟩ := Option.bind_eq_some_iff.mp hmerge
  obtain ⟨j2, h2, h3⟩ := Option.bind_eq_some_iff.mp hmerge
  rw [h1, Option.bind_some, h2, Option.bind_some, h3, Option.bind_some, writeJsonObjToString,
    AgentUtils.searchNReplaceString_ofList (by decide), hname]
  rfl

/-! ## What is read back -/

/-- A change of the strings of a configuration that turns the marker key into `name` and leaves
    a string without a marker or a tag alone. -/
structure Renames (f : List Char → List Char) : Prop where
  name : f "@name@".toList = "name".toList
  other : ∀ s, ¬ "@name@".toList <:+: s → '<' ∉ s → f s = s

theorem renames_replaceName : Renames replaceName where
  name := replaceAll_self (by decide)
  other _ h _ := replaceAll_of_not_infix h

variable {f : List Char → List Char}

theorem Renames.ofList_name (hf : Renames f) : String.ofList (f "@name@".toList) = "name" := by
  rw [hf.name]
  rfl

theorem Renames.ofList_other (hf : Renames f) (s : String)
    (h1 : ¬ "@name@".toList <:+: s.toList) (h2 : '<' ∉ s.toList) :
    String.ofList (f s.toList) = s := by
  rw [hf.other _ h1 h2, String.ofList_toList]

theorem not_infix_of_not_mem {s : List Char} (h : '@' ∉ s) : ¬ "@name@".toList <:+: s :=
  fun hi => h (hi.subset (by decide))

theorem isDigit_of_mem_toString {n : Nat} {c : Char} (h : c ∈ (toString n).toList) :
    c.isDigit = true :=
  Nat.isDigit_of_mem_toDigits (by decide) (by decide) (Nat.toList_repr ▸ h)

/-- A number, or a name made with one, is left alone. -/
theorem Renames.ofList_append_toString (hf : Renames f) (s : String) (n : Nat)
    (h1 : '@' ∉ s.toList) (h2 : '<' ∉ s.toList) :
    String.ofList (f (s ++ toString n).toList) = s ++ toString n := by
  have hmem : ∀ c ∈ (s ++ toString n).toList, c ∉ s.toList → c.isDigit = true := by
    intro c hc hs
    rw [String.toList_append, List.mem_append] at hc
    exact isDigit_of_mem_toString (hc.resolve_left hs)
  apply hf.ofList_other
  · exact not_infix_of_not_mem fun hc => absurd (hmem _ hc h1) (by decide)
  · exact fun hc => absurd (hmem _ hc h2) (by decide)

theorem Renames.ofList_toString (hf : Renames f) (n : Nat) :
    String.ofList (f (toString n).toList) = toString n := by
  have h := hf.ofList_append_toString "" n (by decide) (by decide)
  rwa [String.empty_append] at h

/-- The members of the sensor of an added configuration, read back. -/
def readSensor (f : List Char → List Char) (udp : Bool) (id : Nat) (path : Path) :
    List (String × Json ν) :=
  [("export-name", .str ("export_" ++ toString id)), ("name", .str ("sensor_" ++ toString id)),
    ("reporting-rate", .str (toString (millisecsToSecs path.sampleFrequency).toNat)),
    ("resource", .str (.ofList (f path.path.toList)))] ++
  (if path.filter = "" then []
    else [("resource-filter", .str (.ofList (f path.filter.toList)))]) ++
  (if udp then [("server-name", .str grpcUdpCollectorName)] else []) ++
  [("subscription-id", .str (toString id))]

/-- The members of the `analytics` object as the reader gives them, in the order of their keys.
    `f` has been applied to the strings that are not the generator's own. -/
def readConfig (f : List Char → List Char) (add udp : Bool) (udpServerIp : String)
    (udpServerPort id : Nat) (path : Path) : List (String × Json ν) :=
  [entry "export-profile"
      (if add then
        [("name", .str ("export_" ++ toString id)),
          ("transport", .str (if udp then "udp" else "grpc"))]
      else [deleteOperation, ("name", .str ("export_" ++ toString id))]),
    entry "sensor"
      (if add then readSensor f udp id path
      else [deleteOperation, ("name", .str ("sensor_" ++ toString id))])] ++
  if udp && add then
    [entry "streaming-server"
      [("name", .str grpcUdpCollectorName),
        ("remote-address", .str (.ofList (f udpServerIp.toList))),
        ("remote-port", .str (toString udpServerPort))]]
  else []

theorem normalize_analytics (hf : Renames f) (ms : List (String × Json ν)) :
    ((analytics ms).mapText f).normalize =
      analytics (Json.normalizeMembers (Json.mapMembers f ms) []) := by
  simp (disch := decide) only [analytics, Json.mapText, Json.mapMembers, Json.normalize,
    Json.normalizeMembers, insertMember, hf.ofList_other]

/-- The members of one list element, read back. -/
def readMembers (f : List Char → List Char) (ms : List (String × Json ν)) :
    List (String × Json ν) :=
  Json.normalizeMembers (Json.mapMembers f ms) []

theorem normalizeMembers_entry (hf : Renames f) (list : String)
    (hlist : ¬ "@name@".toList <:+: list.toList) (hlist' : '<' ∉ list.toList)
    (ms : List (String × Json ν)) (ms' acc : List (String × Json ν)) :
    Json.normalizeMembers (Json.mapMembers f (entry list ms :: ms')) acc =
      Json.normalizeMembers (Json.mapMembers f ms')
        (insertMember list (.arr [.obj (readMembers f ms)]) acc) := by
  simp only [entry, Json.mapMembers, Json.mapText, Json.mapItems, Json.normalizeMembers,
    Json.normalize, Json.normalizeItems, hf.ofList_other _ hlist hlist', readMembers]

theorem readMembers_exportProfile (hf : Renames f) (add udp : Bool) (id : Nat) :
    readMembers f (exportProfileMembers add ("export_" ++ toString id)
        (if udp then "udp" else "grpc")) =
      (if add then
        [("name", .str ("export_" ++ toString id)),
          ("transport", .str (if udp then "udp" else "grpc"))]
      else [deleteOperation, ("name", .str ("export_" ++ toString id))] :
        List (String × Json ν)) := by
  have hid := hf.ofList_append_toString "export_" id (by decide) (by decide)
  cases add <;> cases udp <;>
    simp (disch := decide) only [exportProfileMembers, readMembers, deleteOperation,
      Json.mapMembers, Json.mapText, Json.normalizeMembers, Json.normalize, insertMember,
      hf.ofList_other, hf.ofList_name, hid, if_true, Bool.false_eq_true, if_false,
      String.reduceEq, String.reduceLT]

theorem readMembers_streamingServer (hf : Renames f) (ip : String) (port : Nat) :
    readMembers f (streamingServerMembers true grpcUdpCollectorName ip port) =
      ([("name", .str grpcUdpCollectorName), ("remote-address", .str (.ofList (f ip.toList))),
        ("remote-port", .str (toString port))] : List (String × Json ν)) := by
  simp (disch := decide) only [streamingServerMembers, readMembers, grpcUdpCollectorName,
    Json.mapMembers, Json.mapText, Json.normalizeMembers, Json.normalize, insertMember,
    hf.ofList_other, hf.ofList_name, hf.ofList_toString, if_true, if_false, String.reduceEq,
    String.reduceLT]

theorem readMembers_sensor (hf : Renames f) (add udp : Bool) (id : Nat) (path : Path) :
    readMembers f (sensorMembers add udp ("sensor_" ++ toString id) grpcUdpCollectorName
        ("export_" ++ toString id) path.path path.filter
        (millisecsToSecs path.sampleFrequency).toNat id) =
      (if add then readSensor f udp id path
      else [deleteOperation, ("name", .str ("sensor_" ++ toString id))] :
        List (String × Json ν)) := by
  have hid := hf.ofList_append_toString "sensor_" id (by decide) (by decide)
  have hprofile := hf.ofList_append_toString "export_" id (by decide) (by decide)
  by_cases hfilter : path.filter = "" <;> cases add <;> cases udp <;>
    simp (disch := decide) only [sensorMembers, readMembers, readSensor, deleteOperation,
      grpcUdpCollectorName, Json.mapMembers, Json.mapText, Json.normalizeMembers,
      Json.normalize, insertMember, hf.ofList_other, hf.ofList_name, hf.ofList_toString, hid,
      hprofile, hfilter, if_true, Bool.false_eq_true, if_false, String.reduceEq, String.reduceLT,
      List.cons_append, List.nil_append, List.append_nil]

theorem normalize_junosConfig (hf : Renames f) (add udp : Bool) (ip : String) (port id : Nat)
    (path : Path) :
    ((analytics (junosConfig add udp ip port id path)).mapText f).normalize =
      (analytics (readConfig f add udp ip port id path) : Json ν) := by
  rw [normalize_analytics hf, junosConfig, List.cons_append, List.cons_append, List.nil_append,
    normalizeMembers_entry hf _ (by decide) (by decide),
    normalizeMembers_entry hf _ (by decide) (by decide), readMembers_exportProfile hf,
    readMembers_sensor hf]
  cases h : udp && add with
  | false =>
    simp only [readConfig, h, Json.mapMembers, Json.normalizeMembers, insertMember,
      Bool.false_eq_true, if_false, String.reduceEq, String.reduceLT, entry, List.append_nil]
  | true =>
    simp only [if_true]
    rw [normalizeMembers_entry hf _ (by decide) (by decide), readMembers_streamingServer hf]
    simp only [readConfig, h, Json.mapMembers, Json.normalizeMembers, insertMember, if_true,
      if_false, String.reduceEq, String.reduceLT, entry, List.cons_append, List.nil_append]

end JunosTelemetryJsonGenerator

end TelemetryAgent
