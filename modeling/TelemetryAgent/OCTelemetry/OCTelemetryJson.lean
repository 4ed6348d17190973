/-
  `OCTelemetryJson` and `OCTelemetryJsonGenerator` (OCTelemetryJson.cpp,
  OCTelemetryJsonGenerator.cpp): the configuration of one internal subscription id in the
  OpenConfig build.

  `ReadsOCTemplates` says which documents the reader makes of the templates. `ocConfig` is what
  the generator makes of them, and its text is what is sent (`generateJsonOcConfig_eq`). Two
  requests have one text only if they agree in everything that a configuration is made of
  (`generateJsonOcConfig_inj`): no string of a request is taken for a part of the template.
-/
import Std.Data.String.ToNat
import TelemetryAgent.Junos.PlainJsoncpp
import TelemetryAgent.Protos

namespace TelemetryAgent

open TelemetryAgent.Lib JsonUtils

variable {ν : Type}

namespace OCTelemetryJson

/-! ## The templates -/

def sensorGroups : String := "
\x7b
    \"sensor-groups\" : \x7b
        \"sensor-group\" : \x7b
            \"config\" : \x7b
                \"sensor-group-id\": \"__SENSOR_GROUP_NAME__\"
            \x7d
        \x7d,
        \"sensor-paths\":
        [
            \x7b
                \"sensor-path\": \x7b
                    \"config\" : \x7b
                        \"path\" : \"__PATH_path__\",
                        \"exclude-filter\" : \"__PATH_filter__\"
                    \x7d
                \x7d
            \x7d
        ]
    \x7d
\x7d
"

def subscriptionsMqtt : String := "
\x7b
    \"subscriptions\" : \x7b
        \"persistent\" : \x7b
            \"subscription\" : \x7b
                \"config\" : \x7b
                    \"subscription-id\" : \"__INTERNAL_SUBSCRIPTION_ID__\"
                \x7d,
                \"sensor-profiles\" : \x7b
                    \"sensor-profile\" : \x7b
                        \"config\" : \x7b
                            \"sensor-group\" : \"__SENSOR_GROUP_NAME__\",
                            \"sample-interval\" : \"__PATH_sample_frequency__\"
                        \x7d
                    \x7d
                \x7d
            \x7d
        \x7d
    \x7d
\x7d
"

def subscriptionsUdp : String := "
\x7b
    \"subscriptions\" : \x7b
        \"persistent\" : \x7b
            \"subscription\" : \x7b
                \"config\" : \x7b
                    \"subscription-id\" : \"__INTERNAL_SUBSCRIPTION_ID__\"
                \x7d,
                \"sensor-profiles\" : \x7b
                    \"sensor-profile\" : \x7b
                        \"config\" : \x7b
                            \"sensor-group\" : \"__SENSOR_GROUP_NAME__\",
                            \"sample-interval\" : \"__PATH_sample_frequency__\"
                        \x7d
                    \x7d
                \x7d,
                \"destination-groups\" : \x7b
                    \"destination-group\" : \x7b
                        \"config\" : \x7b
                            \"group-id\" : \"__DESTINATION_GROUP_NAME__\"
                        \x7d
                    \x7d
                \x7d
            \x7d
        \x7d
    \x7d
\x7d
"

/-! ## The setters -/

/-- `["sensor-groups"]["sensor-group"]["config"]` -/
def sensorGroupConfig : List Json.Step :=
  [.key "sensor-groups", .key "sensor-group", .key "config"]

/-- `["sensor-groups"]["sensor-paths"][0]["sensor-path"]["config"]` -/
def sensorPathConfig : List Json.Step :=
  [.key "sensor-groups", .key "sensor-paths", .idx 0, .key "sensor-path", .key "config"]

/-- `["subscriptions"]["persistent"]["subscription"]` and what follows. -/
def inSubscription (path : List Json.Step) : List Json.Step :=
  [.key "subscriptions", .key "persistent", .key "subscription"] ++ path

variable (json : Json ν)

def setJsonSensorGroup (sensorGroupName path filter : String) : Option (Json ν) := do
  let json ← json.modifyAt sensorGroupConfig (Json.assign "sensor-group-id" (.str sensorGroupName))
  let json ← json.modifyAt sensorPathConfig (Json.assign "path" (.str path))
  if filter.length ≠ 0 then
    json.modifyAt sensorPathConfig (Json.assign "exclude-filter" (.str filter))
  else json.modifyAt sensorPathConfig (Json.removeMember "exclude-filter")

def setJsonSubscription (mqtt : Bool) (internalSubscriptionId : Nat) (sensorGroupName : String)
    (sampleFrequency : Nat) (destinationGroupName : String) : Option (Json ν) := do
  let profile := [.key "sensor-profiles", .key "sensor-profile", .key "config"]
  let json ← json.modifyAt (inSubscription [.key "config"])
    (Json.assign "subscription-id" (.str (toString internalSubscriptionId)))
  let json ← json.modifyAt (inSubscription profile)
    (Json.assign "sensor-group" (.str sensorGroupName))
  let json ← json.modifyAt (inSubscription profile)
    (Json.assign "sample-interval" (.str (toString sampleFrequency)))
  if !mqtt then
    json.modifyAt
      (inSubscription [.key "destination-groups", .key "destination-group", .key "config"])
      (Json.assign "group-id" (.str destinationGroupName))
  else some json

end OCTelemetryJson

namespace OCTelemetryJsonGenerator

open OCTelemetryJson

/-- The empty string stands for a parse error. -/
def generateJsonOcConfig (lib : Jsoncpp ν) (mqtt : Bool) (internalSubscriptionId : Nat)
    (path : Path) : Option String := do
  let some sensorGroupsJson := parseStringToJsonObj lib sensorGroups | return ""
  let sensorGroupName := "Sensor_" ++ toString internalSubscriptionId
  let sensorGroupsJson ←
    setJsonSensorGroup sensorGroupsJson sensorGroupName path.path path.filter
  -- the destination groups are left out
  let destinationGroupsJson : Json ν := .null
  let some subscriptionsJson :=
    parseStringToJsonObj lib (if mqtt then subscriptionsMqtt else subscriptionsUdp) | return ""
  let subscriptionsJson ← setJsonSubscription subscriptionsJson mqtt internalSubscriptionId
    sensorGroupName path.sampleFrequency.toNat "GRPC_UDP_COLLECTOR"
  let finalJson ← mergeJsonObjects .null sensorGroupsJson
  let finalJson ← mergeJsonObjects finalJson destinationGroupsJson
  let finalJson ← mergeJsonObjects finalJson subscriptionsJson
  return writeJsonObjToString lib finalJson

end OCTelemetryJsonGenerator

namespace OCTelemetryJson

/-! ## The templates as documents -/

/-- An object with one member. -/
def single (k : String) (j : Json ν) : Json ν := .obj [(k, j)]

def sensorGroupsMember (sensorGroupName : String) (config : List (String × Json ν)) :
    String × Json ν :=
  ("sensor-groups", .obj
    [("sensor-group", single "config" (single "sensor-group-id" (.str sensorGroupName))),
      ("sensor-paths", .arr [single "sensor-path" (single "config" (.obj config))])])

/-- The destination group is between the two members that are always there. -/
def subscriptionsMember (subscriptionId sensorGroupName sampleInterval : String)
    (destinationGroup : List (String × Json ν)) : String × Json ν :=
  ("subscriptions", single "persistent" (single "subscription" (.obj
    (("config", single "subscription-id" (.str subscriptionId)) :: (destinationGroup ++
      [("sensor-profiles", single "sensor-profile" (single "config" (.obj
        [("sample-interval", .str sampleInterval), ("sensor-group", .str sensorGroupName)])))])))))

def destinationGroupMember (destinationGroupName : String) : String × Json ν :=
  ("destination-groups", single "destination-group" (single "config"
    (single "group-id" (.str destinationGroupName))))

/-- What the reader makes of the templates. -/
structure ReadsOCTemplates (lib : Jsoncpp ν) : Prop where
  sensorGroups : lib.parse sensorGroups.toList =
    some (.obj [sensorGroupsMember "__SENSOR_GROUP_NAME__"
      [("exclude-filter", .str "__PATH_filter__"), ("path", .str "__PATH_path__")]])
  subscriptionsMqtt : lib.parse subscriptionsMqtt.toList =
    some (.obj [subscriptionsMember "__INTERNAL_SUBSCRIPTION_ID__" "__SENSOR_GROUP_NAME__"
      "__PATH_sample_frequency__" []])
  subscriptionsUdp : lib.parse subscriptionsUdp.toList =
    some (.obj [subscriptionsMember "__INTERNAL_SUBSCRIPTION_ID__" "__SENSOR_GROUP_NAME__"
      "__PATH_sample_frequency__" [destinationGroupMember "__DESTINATION_GROUP_NAME__"]])

theorem setJsonSensorGroup_template (name path filter : String) :
    setJsonSensorGroup (.obj [sensorGroupsMember "__SENSOR_GROUP_NAME__"
        [("exclude-filter", .str "__PATH_filter__"), ("path", .str "__PATH_path__")]] : Json ν)
        name path filter =
      some (.obj [sensorGroupsMember name
        ((if filter = "" then [] else [("exclude-filter", .str filter)]) ++
          [("path", .str path)])]) := by
  by_cases hf : filter = "" <;>
    simp [setJsonSensorGroup, sensorGroupsMember, single, sensorGroupConfig, sensorPathConfig,
      Json.modifyAt, Json.modifyKey, Json.modifyIdx, Json.assign, Json.removeMember, insertMember,
      eraseMember, lookup_cons, -String.lt_iff_ltb, hf]

theorem setJsonSubscription_template (mqtt : Bool) (id : Nat) (name : String) (frequency : Nat)
    (destination : String) :
    setJsonSubscription (.obj [subscriptionsMember "__INTERNAL_SUBSCRIPTION_ID__"
        "__SENSOR_GROUP_NAME__" "__PATH_sample_frequency__"
        (if mqtt then [] else [destinationGroupMember "__DESTINATION_GROUP_NAME__"])] : Json ν)
        mqtt id name frequency destination =
      some (.obj [subscriptionsMember (toString id) name (toString frequency)
        (if mqtt then [] else [destinationGroupMember destination])]) := by
  cases mqtt <;>
    simp [setJsonSubscription, subscriptionsMember, destinationGroupMember, single, inSubscription,
      Json.modifyAt, Json.modifyKey, Json.assign, insertMember, lookup_cons, -String.lt_iff_ltb]

end OCTelemetryJson

namespace OCTelemetryJsonGenerator

open OCTelemetryJson

/-! ## The document -/

def filterMember (filter : String) : List (String × Json ν) :=
  if filter = "" then [] else [("exclude-filter", .str filter)]

def ocConfig (mqtt : Bool) (internalSubscriptionId : Nat) (path : Path) : Json ν :=
  .obj [sensorGroupsMember ("Sensor_" ++ toString internalSubscriptionId)
      (filterMember path.filter ++ [("path", .str path.path)]),
    subscriptionsMember (toString internalSubscriptionId)
      ("Sensor_" ++ toString internalSubscriptionId) (toString path.sampleFrequency.toNat)
      (if mqtt then [] else [destinationGroupMember "GRPC_UDP_COLLECTOR"])]

theorem merge_members (a b : Json ν) :
    (do
      let finalJson ← mergeJsonObjects .null (.obj [("sensor-groups", a)])
      let finalJson ← mergeJsonObjects finalJson .null
      mergeJsonObjects finalJson (.obj [("subscriptions", b)])) =
      some (.obj [("sensor-groups", a), ("subscriptions", b)]) := by
  simp [mergeJsonObjects, mergeMembers, Json.modifyKey, insertMember, lookup_cons,
    -String.lt_iff_ltb]

theorem generateJsonOcConfig_eq {lib : Jsoncpp ν} (ht : ReadsOCTemplates lib) (mqtt : Bool)
    (id : Nat) (path : Path) :
    generateJsonOcConfig lib mqtt id path =
      some (writeJsonObjToString lib (ocConfig mqtt id path)) := by
  have hsubscriptions : lib.parse (if mqtt then subscriptionsMqtt else subscriptionsUdp).toList =
      some (.obj [subscriptionsMember "__INTERNAL_SUBSCRIPTION_ID__" "__SENSOR_GROUP_NAME__"
        "__PATH_sample_frequency__"
        (if mqtt then [] else [destinationGroupMember "__DESTINATION_GROUP_NAME__"])]) := by
    cases mqtt
    · exact ht.subscriptionsUdp
    · exact ht.subscriptionsMqtt
  have hmerge := merge_members
    (sensorGroupsMember ("Sensor_" ++ toString id)
      (filterMember path.filter ++ [("path", (.str path.path : Json ν))])).2
    (subscriptionsMember (toString id) ("Sensor_" ++ toString id)
      (toString path.sampleFrequency.toNat)
      (if mqtt then [] else [destinationGroupMember "GRPC_UDP_COLLECTOR"])).2
  simp only [generateJsonOcConfig, parseStringToJsonObj, ht.sensorGroups, hsubscriptions,
    setJsonSensorGroup_template, setJsonSubscription_template, Option.bind_eq_bind,
    Option.bind_some] at hmerge ⊢
  obtain ⟨j1, h1, hmerge⟩ := Option.bind_eq_some_iff.mp hmerge
  obtain ⟨j2, h2, h3⟩ := Option.bind_eq_some_iff.mp hmerge
  simp only [filterMember, sensorGroupsMember, subscriptionsMember, ocConfig] at h1 h2 h3 ⊢
  rw [h1, Option.bind_some, h2, Option.bind_some, h3, Option.bind_some]
  rfl

/-- The members stand in the order of their keys. -/
theorem normalize_ocConfig (mqtt : Bool) (id : Nat) (path : Path) :
    (ocConfig mqtt id path : Json ν).normalize = ocConfig mqtt id path := by
  by_cases hfilter : path.filter = "" <;> cases mqtt <;>
    simp only [ocConfig, sensorGroupsMember, subscriptionsMember, destinationGroupMember,
      filterMember, single, hfilter, Json.normalize, Json.normalizeMembers, Json.normalizeItems,
      insertMember, if_true, Bool.false_eq_true, if_false, String.reduceEq, String.reduceLT,
      List.cons_append, List.nil_append]

theorem filterMember_append_inj {filter filter' : String} {j j' : Json ν} :
    filterMember filter ++ [("path", j)] = filterMember filter' ++ [("path", j')] ↔
      filter = filter' ∧ j = j' := by
  by_cases h : filter = "" <;> by_cases h' : filter' = "" <;> simp [filterMember, h, h', eq_comm]

theorem ocConfig_inj {mqtt mqtt' : Bool} {id id' : Nat} {path path' : Path} :
    (ocConfig mqtt id path : Json ν) = ocConfig mqtt' id' path' ↔
      mqtt = mqtt' ∧ id = id' ∧ path.path = path'.path ∧ path.filter = path'.filter ∧
        path.sampleFrequency = path'.sampleFrequency := by
  constructor
  · intro h
    simp only [ocConfig, sensorGroupsMember, subscriptionsMember, single, Json.obj.injEq,
      Json.arr.injEq, Json.str.injEq, List.cons.injEq, Prod.mk.injEq, filterMember_append_inj,
      true_and, and_true] at h
    obtain ⟨⟨-, hfilter, hpath⟩, hid, hmembers⟩ := h
    obtain ⟨hdestination, hprofiles⟩ := List.append_inj' hmembers rfl
    have hmqtt : mqtt = mqtt' := by cases mqtt <;> cases mqtt' <;> simp_all
    simp only [Json.obj.injEq, Json.str.injEq, List.cons.injEq, Prod.mk.injEq, true_and,
      and_true] at hprofiles
    exact ⟨hmqtt, Nat.repr_inj.mp hid, hpath, hfilter, UInt32.toNat_inj.mp (Nat.repr_inj.mp hprofiles.1)⟩
  · rintro ⟨rfl, rfl, h1, h2, h3⟩
    rw [ocConfig, ocConfig, h1, h2, h3]

/-- The text of a configuration tells the request apart from every other. -/
theorem generateJsonOcConfig_inj {lib : Jsoncpp ν} (hl : lib.Lawful) (ht : ReadsOCTemplates lib)
    {mqtt mqtt' : Bool} {id id' : Nat} {path path' : Path} :
    generateJsonOcConfig lib mqtt id path = generateJsonOcConfig lib mqtt' id' path' ↔
      mqtt = mqtt' ∧ id = id' ∧ path.path = path'.path ∧ path.filter = path'.filter ∧
        path.sampleFrequency = path'.sampleFrequency := by
  rw [generateJsonOcConfig_eq ht, generateJsonOcConfig_eq ht, Option.some.injEq,
    ← ocConfig_inj (ν := ν)]
  constructor
  · intro h
    have hparse := congrArg lib.parse (String.ofList_injective h)
    rwa [hl.parse_write, hl.parse_write, Option.some.injEq, normalize_ocConfig,
      normalize_ocConfig] at hparse
  · exact congrArg _

/-! ## The templates in the plain reader -/

/-- The text of a subscription has the members in another order. -/
def subscriptionsText (destinationGroup : List (String × Json Empty)) : Json Empty :=
  .obj [("subscriptions", single "persistent" (single "subscription" (.obj
    ([("config", single "subscription-id" (.str "__INTERNAL_SUBSCRIPTION_ID__")),
      ("sensor-profiles", single "sensor-profile" (single "config" (.obj
        [("sensor-group", .str "__SENSOR_GROUP_NAME__"),
          ("sample-interval", .str "__PATH_sample_frequency__")])))] ++ destinationGroup))))]

set_option maxRecDepth 20000 in
theorem read_sensorGroups : Json.read sensorGroups.toList =
    some (.obj [sensorGroupsMember "__SENSOR_GROUP_NAME__"
      [("exclude-filter", .str "__PATH_filter__"), ("path", .str "__PATH_path__")]] :
        Json Empty) := by
  have h : Json.read sensorGroups.toList =
      some (.obj [sensorGroupsMember "__SENSOR_GROUP_NAME__"
        [("path", .str "__PATH_path__"), ("exclude-filter", .str "__PATH_filter__")]] :
          Json Empty).normalize :=
    Json.read_ofList (by decide +kernel)
  rw [h]
  simp only [sensorGroupsMember, single, Json.normalizeMembers, Json.normalizeItems,
    Json.normalize, insertMember, String.reduceEq, String.reduceLT, if_true, if_false]

set_option maxRecDepth 20000 in
theorem read_subscriptionsMqtt : Json.read subscriptionsMqtt.toList =
    some (.obj [subscriptionsMember "__INTERNAL_SUBSCRIPTION_ID__" "__SENSOR_GROUP_NAME__"
      "__PATH_sample_frequency__" []] : Json Empty) := by
  have h : Json.read subscriptionsMqtt.toList = some (subscriptionsText []).normalize :=
    Json.read_ofList (by decide +kernel)
  rw [h]
  simp only [subscriptionsText, subscriptionsMember, single, Json.normalizeMembers,
    Json.normalize, insertMember, String.reduceEq, String.reduceLT, if_true, if_false,
    List.append_nil, List.nil_append]

set_option maxRecDepth 20000 in
theorem read_subscriptionsUdp : Json.read subscriptionsUdp.toList =
    some (.obj [subscriptionsMember "__INTERNAL_SUBSCRIPTION_ID__" "__SENSOR_GROUP_NAME__"
      "__PATH_sample_frequency__" [destinationGroupMember "__DESTINATION_GROUP_NAME__"]] :
        Json Empty) := by
  have h : Json.read subscriptionsUdp.toList =
      some (subscriptionsText
        [destinationGroupMember "__DESTINATION_GROUP_NAME__"]).normalize :=
    Json.read_ofList (by decide +kernel)
  rw [h]
  simp only [subscriptionsText, subscriptionsMember, destinationGroupMember, single,
    Json.normalizeMembers, Json.normalize, insertMember, String.reduceEq, String.reduceLT,
    if_true, if_false, List.cons_append, List.nil_append]

theorem plainJsoncpp_readsOCTemplates : ReadsOCTemplates plainJsoncpp where
  sensorGroups := plainJsoncpp_parse ▸ read_sensorGroups
  subscriptionsMqtt := plainJsoncpp_parse ▸ read_subscriptionsMqtt
  subscriptionsUdp := plainJsoncpp_parse ▸ read_subscriptionsUdp

theorem generateJsonOcConfig_inj_firewall :
    generateJsonOcConfig plainJsoncpp true 1000 { path := "firewall", sampleFrequency := 2000 } ≠
      generateJsonOcConfig plainJsoncpp true 1000 { path := "firewall", sampleFrequency := 2001 } :=
  fun h => absurd ((generateJsonOcConfig_inj plainJsoncpp_lawful plainJsoncpp_readsOCTemplates).mp
    h).2.2.2.2 (by decide)

end OCTelemetryJsonGenerator

end TelemetryAgent
