/-
  `JunosTelemetryJson` (JunosTelemetryJson.cpp): the templates of the Junos configuration
  and the functions that fill them in.

  Each setter works on the first element of one list of the `analytics` object. `fill_assign`
  and `fill_removeMember` reduce it to what it does to the members of that element.
  `ReadsTemplates` says what the reader makes of the four texts.
-/
import TelemetryAgent.JsonUtils

namespace TelemetryAgent

open TelemetryAgent.Lib

variable {ν : Type}

namespace JunosTelemetryJson

/-! ## The templates -/

/-- Junos export-profile configuration -/
def exportProfile : String := "
\x7b
    \"configuration\" : \x7b
        \"services\" : \x7b
            \"analytics\" : \x7b
                \"export-profile\" :
                [
                    \x7b
                        \"@\" : \x7b \"operation\" : \"delete\" \x7d,
                        \"@name@\" : \"__EXPORT_PROFILE_NAME__\",
                         \"transport\" : \"__TRANSPORT__\"
                    \x7d
                ]
            \x7d
        \x7d
    \x7d
\x7d
"

/-- Junos streaming-server configuration -/
def streamingServer : String := "
\x7b
    \"configuration\" : \x7b
        \"services\" : \x7b
            \"analytics\" : \x7b
                \"streaming-server\" :
                [
                    \x7b
                        \"@\" : \x7b \"operation\" : \"delete\" \x7d,
                        \"@name@\" : \"__STREAMING_SERVER_NAME__\",
                        \"remote-address\" : \"__GRPC_UDP_IP__\",
                        \"remote-port\" : \"__GRPC_UDP_PORT__\"
                    \x7d
                ]
            \x7d
        \x7d
    \x7d
\x7d
"

/-- Junos sensor configuration -/
def sensorConfig : String := "
\x7b
    \"configuration\" : \x7b
        \"services\" : \x7b
            \"analytics\" : \x7b
                \"sensor\" :
                [
                    \x7b
                        \"@\" : \x7b \"operation\" : \"delete\" \x7d,
                        \"@name@\" : \"__SENSOR_NAME__\",
                        \"server-name\" : \"__STREAMING_SERVER_NAME__\",
                        \"export-name\" : \"__EXPORT_PROFILE_NAME__\",
                        \"resource\" : \"__PATH_path__\",
                        \"resource-filter\" : \"__PATH_filter__\",
                        \"reporting-rate\" : \"__PATH_sample_frequency__\",
                        \"subscription-id\" : \"__INTERNAL_SUBSCRIPTION_ID__\"
                    \x7d
                ]
            \x7d
        \x7d
    \x7d
\x7d
"

/-- Junos analytics configuration -/
def clearAllConfig : String := "
\x7b
    \"configuration\" : \x7b
        \"services\" : \x7b
            \"analytics\" : \x7b
                \"@\" : \x7b \"operation\" : \"delete\" \x7d
            \x7d
        \x7d
    \x7d
\x7d
"

/-! ## The templates as documents -/

/-- The document with these members of the `analytics` object. -/
def analytics (ms : List (String × Json ν)) : Json ν :=
  .obj [("configuration", .obj [("services", .obj [("analytics", .obj ms)])])]

/-- A list of the `analytics` object with one element. -/
def entry (list : String) (ms : List (String × Json ν)) : String × Json ν :=
  (list, .arr [.obj ms])

def deleteOperation : String × Json ν := ("@", .obj [("operation", .str "delete")])

def exportProfileTemplate : List (String × Json ν) :=
  [deleteOperation, ("@name@", .str "__EXPORT_PROFILE_NAME__"), ("transport", .str "__TRANSPORT__")]

def streamingServerTemplate : List (String × Json ν) :=
  [deleteOperation, ("@name@", .str "__STREAMING_SERVER_NAME__"),
    ("remote-address", .str "__GRPC_UDP_IP__"), ("remote-port", .str "__GRPC_UDP_PORT__")]

def sensorTemplate : List (String × Json ν) :=
  [deleteOperation, ("@name@", .str "__SENSOR_NAME__"),
    ("export-name", .str "__EXPORT_PROFILE_NAME__"),
    ("reporting-rate", .str "__PATH_sample_frequency__"), ("resource", .str "__PATH_path__"),
    ("resource-filter", .str "__PATH_filter__"),
    ("server-name", .str "__STREAMING_SERVER_NAME__"),
    ("subscription-id", .str "__INTERNAL_SUBSCRIPTION_ID__")]

/-- What the reader makes of the templates. -/
structure ReadsTemplates (lib : Jsoncpp ν) : Prop where
  exportProfile : lib.parse exportProfile.toList =
    some (analytics [entry "export-profile" exportProfileTemplate])
  streamingServer : lib.parse streamingServer.toList =
    some (analytics [entry "streaming-server" streamingServerTemplate])
  sensorConfig : lib.parse sensorConfig.toList = some (analytics [entry "sensor" sensorTemplate])
  clearAllConfig : lib.parse clearAllConfig.toList = some (analytics [deleteOperation])

/-! ## The setters -/

/-- `["configuration"]["services"]["analytics"][list][0]` -/
def firstOf (list : String) : List Json.Step :=
  [.key "configuration", .key "services", .key "analytics", .key list, .idx 0]

variable (json : Json ν)

def setJsonExportProfile (add : Bool) (exportProfileName transport : String) : Option (Json ν) := do
  let json ← json.modifyAt (firstOf "export-profile") (Json.assign "@name@" (.str exportProfileName))
  if add then
    let json ← json.modifyAt (firstOf "export-profile") (Json.removeMember "@")
    json.modifyAt (firstOf "export-profile") (Json.assign "transport" (.str transport))
  else
    json.modifyAt (firstOf "export-profile") (Json.removeMember "transport")

def setJsonStreamingServer (add : Bool) (streamingServerName grpcUdpIp : String)
    (grpcUdpPort : Nat) : Option (Json ν) := do
  let json ←
    json.modifyAt (firstOf "streaming-server") (Json.assign "@name@" (.str streamingServerName))
  if add then
    let json ← json.modifyAt (firstOf "streaming-server") (Json.removeMember "@")
    let json ←
      json.modifyAt (firstOf "streaming-server") (Json.assign "remote-address" (.str grpcUdpIp))
    json.modifyAt (firstOf "streaming-server")
      (Json.assign "remote-port" (.str (toString grpcUdpPort)))
  else
    let json ← json.modifyAt (firstOf "streaming-server") (Json.removeMember "remote-address")
    json.modifyAt (firstOf "streaming-server") (Json.removeMember "remote-port")

def setJsonSensorConfig (add udp : Bool)
    (sensorName streamingServerName exportProfileName path filter : String)
    (sampleFrequencyInSecs internalSubscriptionId : Nat) : Option (Json ν) := do
  let json ← json.modifyAt (firstOf "sensor") (Json.assign "@name@" (.str sensorName))
  if add then
    let json ← json.modifyAt (firstOf "sensor") (Json.removeMember "@")
    let json ← json.modifyAt (firstOf "sensor")
      (if udp then Json.assign "server-name" (.str streamingServerName)
        else Json.removeMember "server-name")
    let json ← json.modifyAt (firstOf "sensor") (Json.assign "export-name" (.str exportProfileName))
    let json ← json.modifyAt (firstOf "sensor") (Json.assign "resource" (.str path))
    let json ← json.modifyAt (firstOf "sensor")
      (if filter.length ≠ 0 then Json.assign "resource-filter" (.str filter)
        else Json.removeMember "resource-filter")
    let json ← json.modifyAt (firstOf "sensor")
      (Json.assign "reporting-rate" (.str (toString sampleFrequencyInSecs)))
    json.modifyAt (firstOf "sensor")
      (Json.assign "subscription-id" (.str (toString internalSubscriptionId)))
  else
    let json ← json.modifyAt (firstOf "sensor") (Json.removeMember "server-name")
    let json ← json.modifyAt (firstOf "sensor") (Json.removeMember "export-name")
    let json ← json.modifyAt (firstOf "sensor") (Json.removeMember "resource")
    let json ← json.modifyAt (firstOf "sensor") (Json.removeMember "resource-filter")
    let json ← json.modifyAt (firstOf "sensor") (Json.removeMember "reporting-rate")
    json.modifyAt (firstOf "sensor") (Json.removeMember "subscription-id")

/-! ## What the setters make of the templates -/

@[simp] theorem fill_assign (list k : String) (v : Json ν) (ms : List (String × Json ν)) :
    (analytics [entry list ms]).modifyAt (firstOf list) (Json.assign k v) =
      some (analytics [entry list (insertMember k v ms)]) := by
  simp [analytics, entry, firstOf, Json.modifyAt, Json.modifyKey, Json.modifyIdx, Json.assign,
    insertMember]

@[simp] theorem fill_removeMember (list k : String) (ms : List (String × Json ν)) :
    (analytics [entry list ms]).modifyAt (firstOf list) (Json.removeMember k) =
      some (analytics [entry list (eraseMember k ms)]) := by
  simp [analytics, entry, firstOf, Json.modifyAt, Json.modifyKey, Json.modifyIdx,
    Json.removeMember, insertMember]

def exportProfileMembers (add : Bool) (exportProfileName transport : String) :
    List (String × Json ν) :=
  if add then [("@name@", .str exportProfileName), ("transport", .str transport)]
  else [deleteOperation, ("@name@", .str exportProfileName)]

def streamingServerMembers (add : Bool) (streamingServerName grpcUdpIp : String)
    (grpcUdpPort : Nat) : List (String × Json ν) :=
  if add then
    [("@name@", .str streamingServerName), ("remote-address", .str grpcUdpIp),
      ("remote-port", .str (toString grpcUdpPort))]
  else [deleteOperation, ("@name@", .str streamingServerName)]

def sensorMembers (add udp : Bool)
    (sensorName streamingServerName exportProfileName path filter : String)
    (sampleFrequencyInSecs internalSubscriptionId : Nat) : List (String × Json ν) :=
  if add then
    [("@name@", .str sensorName), ("export-name", .str exportProfileName),
      ("reporting-rate", .str (toString sampleFrequencyInSecs)), ("resource", .str path)] ++
    (if filter = "" then [] else [("resource-filter", .str filter)]) ++
    (if udp then [("server-name", .str streamingServerName)] else []) ++
    [("subscription-id", .str (toString internalSubscriptionId))]
  else [deleteOperation, ("@name@", .str sensorName)]

theorem setJsonExportProfile_template (add : Bool) (name transport : String) :
    setJsonExportProfile (analytics [entry "export-profile" exportProfileTemplate] : Json ν) add
        name transport =
      some (analytics [entry "export-profile" (exportProfileMembers add name transport)]) := by
  cases add <;>
    simp [setJsonExportProfile, exportProfileMembers, exportProfileTemplate, deleteOperation,
      insertMember, eraseMember, -String.lt_iff_ltb]

theorem setJsonStreamingServer_template (add : Bool) (name ip : String) (port : Nat) :
    setJsonStreamingServer (analytics [entry "streaming-server" streamingServerTemplate] : Json ν)
        add name ip port =
      some (analytics [entry "streaming-server" (streamingServerMembers add name ip port)]) := by
  cases add <;>
    simp [setJsonStreamingServer, streamingServerMembers, streamingServerTemplate,
      deleteOperation, insertMember, eraseMember, -String.lt_iff_ltb]

theorem setJsonSensorConfig_template (add udp : Bool)
    (name server profile path filter : String) (secs id : Nat) :
    setJsonSensorConfig (analytics [entry "sensor" sensorTemplate] : Json ν) add udp name server
        profile path filter secs id =
      some (analytics [entry "sensor"
        (sensorMembers add udp name server profile path filter secs id)]) := by
  cases add with
  | false =>
    simp [setJsonSensorConfig, sensorMembers, sensorTemplate, deleteOperation, insertMember,
      eraseMember, -String.lt_iff_ltb]
  | true =>
    by_cases hf : filter = "" <;> cases udp <;>
      simp [setJsonSensorConfig, sensorMembers, sensorTemplate, deleteOperation, insertMember,
        eraseMember, -String.lt_iff_ltb, hf]

end JunosTelemetryJson

end TelemetryAgent
