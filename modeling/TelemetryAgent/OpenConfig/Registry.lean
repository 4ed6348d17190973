/-
  The translators by name, as `on_message` (AgentSubscription.cpp) finds them: each registers
  itself under a name (OpenConfig.cpp), and `get_oc_extension_type` (oc.cpp) gives the name of the
  first extension that a stream has.

  `find_eq_some_iff`: after `lib_oc_init` a stream has a translator exactly if it has one of the
  extensions, the translator is the one that reads the first of them, and the others are not
  looked at. `conveys_ocData`: the data that `on_message` makes of it are read back as the time of
  the export, followed by what was read from the elements of that extension.
-/
import TelemetryAgent.Client.AgentTelegrafLog
import TelemetryAgent.Lib.OrderedMap
import TelemetryAgent.OpenConfig.Attribution
import TelemetryAgent.OpenConfig.Keyvalue
import TelemetryAgent.Subscription.Model

namespace TelemetryAgent

open Std Lib

/-! ## Streams -/

/-- `JuniperNetworksSensors` with its extensions. -/
structure SensorExtensions where
  jnprNpuUtilizationExt : Option NetworkProcessorUtilization := none
  jnprFirewallExt : Option Firewall := none
  jnprPacketStatisticsExt : Option PacketStatistics := none
  jnprInterfaceExt : Option GPort := none
  jnprLogicalInterfaceExt : Option GLogicalPort := none
  npuMemoryExt : Option NetworkProcessorMemoryUtilization := none
  cpuMemoryUtilExt : Option CpuMemoryUtilization := none
  jnprOpticsExt : Option Optics := none
  jnprLspStatisticsExt : Option LspStats := none
  kvresponseExt : Option Kvresponse := none
  inlineJflowStatsExt : Option InlineJflow := none

/-- `TelemetryStream`. The fields of a stream without a `juniperNetworks` are those of an empty
    one. -/
structure TelemetryStream where
  systemId : String := ""
  componentId : UInt32 := 0
  subComponentId : UInt32 := 0
  sensorName : String := ""
  sequenceNumber : UInt32 := 0
  timestamp : UInt64 := 0
  juniperNetworks : SensorExtensions := {}

/-- `telemetry::OpenConfigData` with all its fields. -/
structure CollectorData extends SampleData where
  subComponentId : UInt32 := 0
  path : String := ""
  sequenceNumber : UInt64 := 0
  deriving DecidableEq, Repr, Inhabited

/-- `get_oc_extension_type` -/
def getOcExtensionType (handle : SensorExtensions) : String :=
  if handle.jnprNpuUtilizationExt.isSome then "jnpr_npu_utilization_ext"
  else if handle.jnprFirewallExt.isSome then "jnpr_firewall_ext"
  else if handle.jnprPacketStatisticsExt.isSome then "jnpr_packet_statistics_ext"
  else if handle.jnprInterfaceExt.isSome then "jnpr_interface_ext"
  else if handle.jnprLogicalInterfaceExt.isSome then "jnprLogicalInterfaceExt"
  else if handle.npuMemoryExt.isSome then "npu_memory_ext"
  else if handle.cpuMemoryUtilExt.isSome then "cpu_memory_util_ext"
  else if handle.jnprOpticsExt.isSome then "jnpr_optics_ext"
  else if handle.jnprLspStatisticsExt.isSome then "jnpr_lsp_statistics_ext"
  else if handle.kvresponseExt.isSome then "kvresponseExt"
  else if handle.inlineJflowStatsExt.isSome then "inline_jflow_stats_ext"
  else "unknown"

/-! ## Translators -/

/-- The classes of translators. -/
inductive OpenConfig where
  | npuUtilization
  | firewall
  | packetStats
  | port
  | logicalPort
  | npuMem
  | cpuMemoryUtilization
  | optics
  | lspStats
  | keyvalue
  | inlineJflow
  deriving DecidableEq, Repr

namespace OpenConfig

/-- The name under which the constructor registers the object. -/
def registeredName : OpenConfig → String
  | npuUtilization => "jnpr_npu_utilization_ext"
  | firewall => "jnpr_firewall_ext"
  | packetStats => "jnpr_packet_statistics_ext"
  | port => "jnpr_interface_ext"
  | logicalPort => "jnprLogicalInterfaceExt"
  | npuMem => "npu_memory_ext"
  | cpuMemoryUtilization => "cpu_memory_util_ext"
  | optics => "jnpr_optics_ext"
  | lspStats => "jnpr_lsp_statistics_ext"
  | keyvalue => "kvresponseExt"
  | inlineJflow => "inline_jflow_stats_ext"

/-- `iterate`. `MutableExtension` of an extension that is not there makes it. -/
def iterate (handle : SensorExtensions) : OpenConfig → OpenConfigData → OpenConfigData
  | npuUtilization => OpenConfigNpuUtilization.iterate (handle.jnprNpuUtilizationExt.getD {})
  | firewall => OpenConfigFirewall.iterate (handle.jnprFirewallExt.getD {})
  | packetStats => OpenConfigPacketStats.iterate (handle.jnprPacketStatisticsExt.getD {})
  | port => OpenConfigPort.iterate (handle.jnprInterfaceExt.getD {})
  | logicalPort => OpenConfigLogicalPort.iterate (handle.jnprLogicalInterfaceExt.getD {})
  | npuMem => OpenConfigNpuMem.iterate (handle.npuMemoryExt.getD {})
  | cpuMemoryUtilization =>
    OpenConfigCpuMemoryUtilization.iterate (handle.cpuMemoryUtilExt.getD {})
  | optics => OpenConfigOptics.iterate (handle.jnprOpticsExt.getD {})
  | lspStats => OpenConfigLspStats.iterate (handle.jnprLspStatisticsExt.getD {})
  | keyvalue => OpenConfigKeyvalue.iterate (handle.kvresponseExt.getD {})
  | inlineJflow => OpenConfigInlineJflow.iterate (handle.inlineJflowStatsExt.getD {})

/-- `openconfig_registry` -/
abbrev Registry := ExtTreeMap String OpenConfig

def registerSelf (registry : Registry) (handler : OpenConfig) : Registry :=
  registry.insert handler.registeredName handler

def find (registry : Registry) (name : String) : Option OpenConfig := registry[name]?

/-- The objects in the order in which `lib_oc_init` makes them. -/
def translators : List OpenConfig :=
  [npuUtilization, firewall, packetStats, port, logicalPort, npuMem, cpuMemoryUtilization, optics,
    lspStats, keyvalue, inlineJflow]

/-- `lib_oc_init` -/
def libOcInit : Registry := translators.foldl registerSelf ∅

end OpenConfig

namespace AgentSubscription

/-- The data that `on_message` builds for the collector, at the time `mstime`. -/
def ocData (config : GlobalConfig) (oc : OpenConfig) (stream : TelemetryStream) (mstime : UInt64)
    (topic : String) : CollectorData where
  toOpenConfigData :=
    let ocData : OpenConfigData := { componentId := stream.componentId }
    oc.iterate stream.juniperNetworks (ocData.insertExportTimestamp mstime)
  systemId := stream.systemId
  subComponentId := stream.subComponentId
  path := match config.subscribeTopicName with
    | .path => topic
    | .internalSubscriptionId => stream.sensorName
    | .other => ""
  sequenceNumber := stream.sequenceNumber.toUInt64
  timestamp := stream.timestamp

/-- `on_message`, with the data that is written to the transport. `parse` is `ParseFromString`. -/
def conveyMessage (config : GlobalConfig) (registry : OpenConfig.Registry)
    (parse : List UInt8 → Option TelemetryStream) (sub : AgentSubscription)
    (handles : List AgentConsolidatorSystemHandle) (now : Int) (mstime : UInt64)
    (message : MosquittoMessage) : Option CollectorData × AgentSubscription :=
  let sub := sub.countMessage config handles now message
  match parse message.payload with
  | none => (none, { sub with streamParseFailures := sub.streamParseFailures + 1 })
  | some stream =>
    match OpenConfig.find registry (getOcExtensionType stream.juniperNetworks) with
    | none => (none, { sub with ocLookupFailures := sub.ocLookupFailures + 1 })
    | some oc =>
      (if sub.active then some (ocData config oc stream mstime message.topic) else none, sub)

/-- What becomes of a payload. -/
def translation (registry : OpenConfig.Registry) (parse : List UInt8 → Option TelemetryStream)
    (message : MosquittoMessage) : Translation :=
  match parse message.payload with
  | none => .parseFailure
  | some stream =>
    match OpenConfig.find registry (getOcExtensionType stream.juniperNetworks) with
    | none => .lookupFailure
    | some _ => .record

/-- `onMessage` is `on_message` without the data. -/
theorem onMessage_translation (config : GlobalConfig) (registry : OpenConfig.Registry)
    (parse : List UInt8 → Option TelemetryStream) (sub : AgentSubscription)
    (handles : List AgentConsolidatorSystemHandle) (now : Int) (mstime : UInt64)
    (message : MosquittoMessage) :
    sub.onMessage config (translation registry parse) handles now message =
      ((sub.conveyMessage config registry parse handles now mstime message).1.isSome,
        (sub.conveyMessage config registry parse handles now mstime message).2) := by
  unfold onMessage conveyMessage translation
  cases parse message.payload with
  | none => rfl
  | some stream =>
    dsimp only
    cases OpenConfig.find registry (getOcExtensionType stream.juniperNetworks) with
    | none => rfl
    | some oc =>
      dsimp only
      cases (sub.countMessage config handles now message).active <;> rfl

end AgentSubscription

/-! ## What is meant -/

namespace OpenConfig

/-- `HasExtension` of the extension that the translator reads. -/
def hasExtension (handle : SensorExtensions) : OpenConfig → Bool
  | npuUtilization => handle.jnprNpuUtilizationExt.isSome
  | firewall => handle.jnprFirewallExt.isSome
  | packetStats => handle.jnprPacketStatisticsExt.isSome
  | port => handle.jnprInterfaceExt.isSome
  | logicalPort => handle.jnprLogicalInterfaceExt.isSome
  | npuMem => handle.npuMemoryExt.isSome
  | cpuMemoryUtilization => handle.cpuMemoryUtilExt.isSome
  | optics => handle.jnprOpticsExt.isSome
  | lspStats => handle.jnprLspStatisticsExt.isSome
  | keyvalue => handle.kvresponseExt.isSome
  | inlineJflow => handle.inlineJflowStatsExt.isSome

/-- The stream has the extension of the translator, and none of those before it. -/
def First (handle : SensorExtensions) (oc : OpenConfig) : Prop :=
  oc.hasExtension handle = true ∧ ∃ before after, translators = before ++ oc :: after ∧
    ∀ x ∈ before, x.hasExtension handle = false

/-- The message that a translator reads; that of `OpenConfigKeyvalue` has no elements. -/
def sensors (handle : SensorExtensions) : OpenConfig → Option JuniperNetworksSensors
  | npuUtilization => some (.npuUtilization (handle.jnprNpuUtilizationExt.getD {}))
  | firewall => some (.firewall (handle.jnprFirewallExt.getD {}))
  | packetStats => some (.packetStats (handle.jnprPacketStatisticsExt.getD {}))
  | port => some (.port (handle.jnprInterfaceExt.getD {}))
  | logicalPort => some (.logicalPort (handle.jnprLogicalInterfaceExt.getD {}))
  | npuMem => some (.npuMem (handle.npuMemoryExt.getD {}))
  | cpuMemoryUtilization => some (.cpuMemoryUtilization (handle.cpuMemoryUtilExt.getD {}))
  | optics => some (.optics (handle.jnprOpticsExt.getD {}))
  | lspStats => some (.lspStats (handle.jnprLspStatisticsExt.getD {}))
  | keyvalue => none
  | inlineJflow => some (.inlineJflow (handle.inlineJflowStatsExt.getD {}))

/-- The pairs of a stream for `OpenConfigKeyvalue`. -/
def kvpairs (handle : SensorExtensions) : List Keyvalue := (handle.kvresponseExt.getD {}).kvpairs

/-- What a reader should get of the sensors of a line card: each value under the key of its
    element, or under that of its pair. -/
def content (handle : SensorExtensions) (componentId : UInt32) (oc : OpenConfig) :
    List (String × KeyValue.Value) :=
  match oc.sensors handle with
  | some sensors => (sensors.elements { componentId := componentId }).finalKeys
  | none => (kvpairs handle).map fun p => (p.key.getD "", OpenConfigKeyvalue.value p)

/-- No name in the message is taken for a prefix. -/
def Readable (handle : SensorExtensions) (oc : OpenConfig) : Prop :=
  match oc.sensors handle with
  | some sensors => sensors.ClassNamesOk
  | none => ∀ p ∈ kvpairs handle, p.key ≠ some "__prefix__"

end OpenConfig

/-! ## The registry -/

namespace OpenConfig

theorem find?_registeredName (oc : OpenConfig) :
    translators.find? (·.registeredName = oc.registeredName) = some oc := by
  cases oc <;> decide

theorem registeredName_inj {oc oc' : OpenConfig} (h : oc.registeredName = oc'.registeredName) :
    oc = oc' := by
  have hfind := find?_registeredName oc
  rw [h, find?_registeredName oc', Option.some.injEq] at hfind
  exact hfind.symm

/-- The last of a name is found, and here each name is there once. -/
theorem find_foldl_registerSelf {l : List OpenConfig} (hl : l.Nodup) (registry : Registry)
    (name : String) : find (l.foldl registerSelf registry) name =
      (l.find? (·.registeredName = name)).or (find registry name) := by
  induction l generalizing registry with
  | nil => rfl
  | cons oc l ih =>
    obtain ⟨hoc, hl⟩ := List.nodup_cons.mp hl
    rw [List.foldl_cons, ih hl, find, registerSelf, getElem?_insert_eq]
    by_cases hname : oc.registeredName = name
    · have hnone : l.find? (·.registeredName = name) = none := by
        rw [List.find?_eq_none]
        intro x hx hxname
        rw [decide_eq_true_eq, ← hname] at hxname
        exact hoc (registeredName_inj hxname ▸ hx)
      rw [if_pos hname, hnone, List.find?_cons_of_pos (by simpa using hname)]
      rfl
    · rw [if_neg hname, List.find?_cons_of_neg (by simpa using hname)]
      rfl

theorem find_libOcInit (name : String) :
    find libOcInit name = translators.find? (·.registeredName = name) := by
  rw [libOcInit, find_foldl_registerSelf (by decide)]
  exact Option.or_none

/-- The tests stand in the order of the registrations. -/
theorem getOcExtensionType_eq (handle : SensorExtensions) :
    getOcExtensionType handle =
      ((translators.find? (·.hasExtension handle)).map registeredName).getD "unknown" := by
  have hfold : ∀ l : List OpenConfig,
      l.foldr (fun oc type => if oc.hasExtension handle then oc.registeredName else type) "unknown" =
        ((l.find? (·.hasExtension handle)).map registeredName).getD "unknown" := by
    intro l
    induction l with
    | nil => rfl
    | cons oc l ih =>
      rw [List.foldr_cons, ih]
      cases hoc : oc.hasExtension handle with
      | true => rw [List.find?_cons_of_pos hoc, if_pos rfl]; rfl
      | false => rw [List.find?_cons_of_neg (by simp [hoc]), if_neg Bool.false_ne_true]
  exact hfold translators

theorem find_getOcExtensionType (handle : SensorExtensions) :
    find libOcInit (getOcExtensionType handle) =
      translators.find? (·.hasExtension handle) := by
  rw [find_libOcInit, getOcExtensionType_eq]
  cases hfind : translators.find? (·.hasExtension handle) with
  | none => decide
  | some oc => exact find?_registeredName oc

/-- The translator that `on_message` finds is that of the first extension of the stream. -/
theorem find_eq_some_iff (handle : SensorExtensions) (oc : OpenConfig) :
    find libOcInit (getOcExtensionType handle) = some oc ↔ oc.First handle := by
  rw [find_getOcExtensionType, List.find?_eq_some_iff_append, First]
  simp

theorem exists_first_iff (handle : SensorExtensions) :
    (∃ oc : OpenConfig, oc.First handle) ↔ translators.any (·.hasExtension handle) = true := by
  rw [List.any_eq_true, ← List.find?_isSome, Option.isSome_iff_exists]
  exact exists_congr fun oc => by rw [← find_eq_some_iff, find_getOcExtensionType]

end OpenConfig

/-! ## What a reader gets -/

namespace JuniperNetworksSensors

/-- Only the number of the line card is read from the data. -/
theorem elements_congr (sensors : JuniperNetworksSensors) {d d' : OpenConfigData}
    (h : d.componentId = d'.componentId) : sensors.elements d = sensors.elements d' := by
  obtain ⟨c, kv⟩ := d
  obtain ⟨c', kv'⟩ := d'
  obtain rfl : c = c' := h
  cases sensors <;> rfl

theorem headersLast_of_classNamesOk {sensors : JuniperNetworksSensors} (d : OpenConfigData)
    (h : sensors.ClassNamesOk) :
    ∀ x ∈ (sensors.elements d).elements, HeadersLast KeyValue.isPrefix
      ((sensors.elements d).entries x) := by
  by_cases hs : ∃ m, sensors = packetStats m
  · obtain ⟨m, rfl⟩ := hs
    refine (Elements.forall_onLineCard _ _ _ _ _ _).mpr ?_
    simp only [headersLast_flatMap_entry]
    exact h
  · intro x _
    exact headersLast_of_forall (noPrefix_entries sensors d (fun m hm => hs ⟨m, hm⟩) x)

end JuniperNetworksSensors

/-- The reader takes entries that are no prefixes, at the beginning, as they stand. -/
theorem finalKeys_append_of_noPrefix {l : List KeyValue} (h : NoPrefix l) (l' : List KeyValue) :
    finalKeys (l ++ l') = l.map (fun kv => (kv.key, kv.value)) ++ finalKeys l' := by
  unfold finalKeys
  induction l with
  | nil => rfl
  | cons kv l ih =>
    have hkv : kv.isPrefix = false := h kv List.mem_cons_self
    rw [List.cons_append, readFlat, if_neg (by simp [hkv]), List.map_cons, List.map_cons,
      List.cons_append, ih fun k hk => h k (List.mem_cons_of_mem kv hk)]
    simp

namespace OpenConfig

variable {handle : SensorExtensions} {oc : OpenConfig}

theorem iterate_of_sensors {sensors : JuniperNetworksSensors} (h : oc.sensors handle = some sensors)
    (d : OpenConfigData) : oc.iterate handle d = sensors.iterate d := by
  cases oc with
  | keyvalue => exact absurd h.symm (Option.some_ne_none sensors)
  | _ =>
    obtain rfl := Option.some.inj h
    rfl

theorem iterate_of_keyvalue (h : oc.sensors handle = none) (d : OpenConfigData) :
    oc.iterate handle d = d.addKv ((kvpairs handle).map OpenConfigKeyvalue.entry) := by
  cases oc with
  | keyvalue => rfl
  | _ => exact absurd h (Option.some_ne_none _)

theorem noPrefix_of_readable (h : oc.sensors handle = none) (hr : oc.Readable handle) :
    NoPrefix ((kvpairs handle).map OpenConfigKeyvalue.entry) := by
  rw [Readable, h] at hr
  intro kv hkv
  obtain ⟨p, hp, rfl⟩ := List.mem_map.mp hkv
  have hkey := hr p hp
  rw [KeyValue.isPrefix, OpenConfigKeyvalue.entry, beq_eq_false_iff_ne, prefixKey]
  cases hpk : p.key with
  | none => simp
  | some k =>
    rintro rfl
    exact hkey hpk

/-- What is read behind entries that are no prefixes is the content of the stream. -/
theorem finalKeys_iterate (hr : oc.Readable handle) {d : OpenConfigData} (hd : NoPrefix d.kv) :
    finalKeys (oc.iterate handle d).kv =
      d.kv.map (fun kv => (kv.key, kv.value)) ++ oc.content handle d.componentId := by
  cases hs : oc.sensors handle with
  | none =>
    have hl := noPrefix_of_readable hs hr
    rw [iterate_of_keyvalue hs, OpenConfigData.kv_addKv, finalKeys_append_of_noPrefix hd,
      ← List.append_nil ((kvpairs handle).map OpenConfigKeyvalue.entry),
      finalKeys_append_of_noPrefix hl, content, hs, List.map_map]
    simp only [finalKeys, readFlat, List.map_nil, List.append_nil]
    rfl
  | some sensors =>
    rw [Readable, hs] at hr
    rw [iterate_of_sensors hs, JuniperNetworksSensors.iterate_eq,
      Elements.finalKeys_addKv_flat (JuniperNetworksSensors.wellFormed_elements sensors d)
        (JuniperNetworksSensors.headersLast_of_classNamesOk d hr),
      ← List.append_nil d.kv, finalKeys_append_of_noPrefix hd, content, hs]
    simp only [finalKeys, readFlat, List.map_nil, List.append_nil]
    have hcard : sensors.elements d = sensors.elements { componentId := d.componentId } :=
      sensors.elements_congr rfl
    rw [hcard]

end OpenConfig

namespace AgentSubscription

open OpenConfig

variable {config : GlobalConfig} {parse : List UInt8 → Option TelemetryStream}

/-- The data for the collector: the header of the stream, and entries that are read back as the
    time of the export and the content of the extension that `oc` translates. -/
structure Conveys (config : GlobalConfig) (mstime : UInt64) (topic : String)
    (stream : TelemetryStream) (oc : OpenConfig) (data : CollectorData) : Prop where
  systemId : data.systemId = stream.systemId
  componentId : data.componentId = stream.componentId
  subComponentId : data.subComponentId = stream.subComponentId
  sequenceNumber : data.sequenceNumber.toNat = stream.sequenceNumber.toNat
  timestamp : data.timestamp = stream.timestamp
  path : config.subscribeTopicName = .path → data.path = topic
  sensorName : config.subscribeTopicName = .internalSubscriptionId → data.path = stream.sensorName
  read : oc.Readable stream.juniperNetworks → finalKeys data.kv =
    ("__timestamp__", .uint mstime) :: oc.content stream.juniperNetworks stream.componentId

theorem componentId_iterate (handle : SensorExtensions) (oc : OpenConfig) (d : OpenConfigData) :
    (oc.iterate handle d).componentId = d.componentId := by
  cases hs : oc.sensors handle with
  | none => rw [iterate_of_keyvalue hs]; rfl
  | some sensors => rw [iterate_of_sensors hs, JuniperNetworksSensors.iterate_eq]; rfl

/-- The data that are built for the first extension of a stream convey it. -/
theorem conveys_ocData (config : GlobalConfig) (mstime : UInt64) (topic : String)
    (stream : TelemetryStream) (oc : OpenConfig) :
    Conveys config mstime topic stream oc (ocData config oc stream mstime topic) := by
  refine ⟨rfl, componentId_iterate _ _ _, rfl, UInt32.toNat_toUInt64 _, rfl, fun h => ?_,
    fun h => ?_, fun hr => ?_⟩
  · simp only [ocData, h]
  · simp only [ocData, h]
  · have hd : NoPrefix [KeyValue.ofUint "__timestamp__" mstime] := by
      simp
    exact finalKeys_iterate hr hd

theorem translation_eq_record_iff {m : MosquittoMessage} :
    translation libOcInit parse m = .record ↔
      ∃ (stream : TelemetryStream) (oc : OpenConfig), parse m.payload = some stream ∧
        oc.First stream.juniperNetworks := by
  unfold translation
  cases hparse : parse m.payload with
  | none => simp
  | some stream =>
    cases hfind : find libOcInit (getOcExtensionType stream.juniperNetworks) with
    | none =>
      refine iff_of_false (by simp [hfind]) ?_
      rintro ⟨stream', oc, hstream, hoc⟩
      obtain rfl := Option.some.inj hstream
      rw [(find_eq_some_iff _ oc).mpr hoc] at hfind
      exact Option.some_ne_none oc hfind
    | some oc =>
      exact iff_of_true (by simp [hfind]) ⟨stream, oc, rfl, (find_eq_some_iff _ oc).mp hfind⟩

/-- An active subscription writes, for a message whose stream has an extension, data that convey
    the first one. -/
theorem conveyMessage_of_first {m : MosquittoMessage} {stream : TelemetryStream} {oc : OpenConfig}
    (hparse : parse m.payload = some stream) (hoc : oc.First stream.juniperNetworks)
    {sub : AgentSubscription} (hactive : sub.active = true)
    (handles : List AgentConsolidatorSystemHandle) (now : Int) (mstime : UInt64) :
    ∃ data, (sub.conveyMessage config libOcInit parse handles now mstime m).1 = some data ∧
      Conveys config mstime m.topic stream oc data := by
  refine ⟨ocData config oc stream mstime m.topic, ?_, conveys_ocData _ _ _ _ _⟩
  have hcounted : (sub.countMessage config handles now m).active = true := hactive
  rw [conveyMessage, hparse]
  simp only [(find_eq_some_iff _ oc).mpr hoc, hcounted, if_true]

end AgentSubscription

end TelemetryAgent
