/-
  The translators of the messages about components: OpenConfigCpuMemoryUtilization,
  OpenConfigNpuMem, OpenConfigNpuUtilization, OpenConfigPacketStats and OpenConfigInlineJflow,
  with the fields of their proto files that they read. Three of them begin with a prefix for
  the line card.
-/
import TelemetryAgent.OpenConfig.Oc

namespace TelemetryAgent

open OpenConfigData

/-- The base path of the five: each spells it out again. -/
def baseOcPathComponent : String := "/oc-path/components/component/subcomponents/subcomponent"

/-! ## Memory of the line card -/

/-- `CpuMemoryUtilizationPerApplication` -/
structure CpuMemoryUtilizationPerApplication where
  name : String := ""
  bytesAllocated : UInt64 := 0
  allocations : UInt64 := 0
  frees : UInt64 := 0
  allocationsFailed : UInt64 := 0
  deriving DecidableEq, Inhabited

/-- `CpuMemoryUtilizationSummary` -/
structure CpuMemoryUtilizationSummary where
  name : String := ""
  size : UInt64 := 0
  bytesAllocated : UInt64 := 0
  utilization : Int32 := 0
  applicationUtilization : List CpuMemoryUtilizationPerApplication := []
  deriving DecidableEq, Inhabited

/-- `CpuMemoryUtilization` -/
structure CpuMemoryUtilization where
  utilization : List CpuMemoryUtilizationSummary := []
  deriving DecidableEq, Inhabited

namespace OpenConfigCpuMemoryUtilization

def setPrefix (datap : OpenConfigData) : KeyValue :=
  ocSetPrefix baseOcPathComponent (lineCardName datap) "memory_utilization"

def application (name : String) (app : CpuMemoryUtilizationPerApplication) : List KeyValue :=
  if app.bytesAllocated = 0 then []
  else
    [.ofUint (name ++ "/applications/" ++ app.name ++ "/bytes_allocated") app.bytesAllocated,
      .ofUint (name ++ "/applications/" ++ app.name ++ "/allocations") app.allocations,
      .ofUint (name ++ "/applications/" ++ app.name ++ "/frees") app.frees,
      .ofUint (name ++ "/applications/" ++ app.name ++ "/allocations_failed")
        app.allocationsFailed]

def summary (s : CpuMemoryUtilizationSummary) : List KeyValue :=
  if s.bytesAllocated = 0 then []
  else
    [.ofUint (s.name ++ "/size") s.size,
      .ofUint (s.name ++ "/bytes_allocated") s.bytesAllocated,
      ⟨s.name ++ "/utilization", .int s.utilization.toInt64⟩] ++
    s.applicationUtilization.flatMap (application s.name)

def entries (message : CpuMemoryUtilization) : List KeyValue :=
  message.utilization.flatMap summary

/-- There is no other prefix than that of the line card. -/
def iterate (message : CpuMemoryUtilization) (datap : OpenConfigData) : OpenConfigData :=
  datap.addKv (setPrefix datap :: entries message)

theorem noPrefix_application (n : String) (a : CpuMemoryUtilizationPerApplication) :
    NoPrefix (application n a) := by
  simp [application]

theorem noPrefix_entries (m : CpuMemoryUtilization) : NoPrefix (entries m) := by
  simp [entries, summary, noPrefix_application]

end OpenConfigCpuMemoryUtilization

/-! ## Memory of the NPUs -/

/-- `NpuMemorySummary` -/
structure NpuMemorySummary where
  resourceName : String := ""
  size : UInt64 := 0
  allocated : UInt64 := 0
  utilization : Int32 := 0
  deriving DecidableEq, Inhabited

/-- `NpuMemoryPartition` -/
structure NpuMemoryPartition where
  name : String := ""
  applicationName : String := ""
  bytesAllocated : UInt32 := 0
  allocationCount : UInt32 := 0
  freeCount : UInt32 := 0
  deriving DecidableEq, Inhabited

/-- `NpuMemory` -/
structure NpuMemory where
  identifier : String
  summary : List NpuMemorySummary := []
  partitions : List NpuMemoryPartition := []
  deriving DecidableEq, Inhabited

/-- `NetworkProcessorMemoryUtilization` -/
structure NetworkProcessorMemoryUtilization where
  memoryStats : List NpuMemory := []
  deriving DecidableEq, Inhabited

namespace OpenConfigNpuMem

def setPrefix (npu : NpuMemory) : KeyValue :=
  ocSetPrefix baseOcPathComponent npu.identifier "memory"

def summary (s : NpuMemorySummary) : List KeyValue :=
  if s.allocated = 0 then []
  else
    [.ofUint ("summary/" ++ s.resourceName ++ "/size") s.size,
      .ofUint ("summary/" ++ s.resourceName ++ "/allocated") s.allocated,
      ⟨"summary/" ++ s.resourceName ++ "/utilization", .int s.utilization.toInt64⟩]

def partition (p : NpuMemoryPartition) : List KeyValue :=
  if p.bytesAllocated = 0 then []
  else
    [.ofStr ("partition/" ++ p.applicationName ++ "/partition_name") p.name,
      .ofInt ("partition/" ++ p.applicationName ++ "/bytes_allocated")
        p.bytesAllocated.toUInt64,
      .ofInt ("partition/" ++ p.applicationName ++ "/allocation_count")
        p.allocationCount.toUInt64,
      .ofInt ("partition/" ++ p.applicationName ++ "/free_count") p.freeCount.toUInt64]

def entries (npu : NpuMemory) : List KeyValue :=
  npu.summary.flatMap summary ++ npu.partitions.flatMap partition

def iterate (message : NetworkProcessorMemoryUtilization) (datap : OpenConfigData) :
    OpenConfigData :=
  iterateElements setPrefix entries message.memoryStats datap

theorem noPrefix_entries (x : NpuMemory) : NoPrefix (entries x) := by
  simp [entries, summary, partition]

end OpenConfigNpuMem

/-! ## Load of the NPUs -/

/-- `MemoryLoad` -/
structure MemoryLoad where
  name : String := ""
  averageUtil : UInt32 := 0
  highestUtil : UInt32 := 0
  lowestUtil : UInt32 := 0
  averageCacheHitRate : UInt32 := 0
  highestCacheHitRate : UInt32 := 0
  lowestCacheHitRate : UInt32 := 0
  deriving DecidableEq, Inhabited

/-- `PacketLoad` -/
structure PacketLoad where
  identifier : String
  rate : UInt64 := 0
  deriving DecidableEq, Inhabited

/-- `Utilization` -/
structure Utilization where
  identifier : String
  utilization : UInt32 := 0
  packets : List PacketLoad := []
  memory : List MemoryLoad := []
  deriving DecidableEq, Inhabited

/-- `NetworkProcessorUtilization` -/
structure NetworkProcessorUtilization where
  npuUtilStats : List Utilization := []
  deriving DecidableEq, Inhabited

namespace OpenConfigNpuUtilization

def setPrefix (util : Utilization) : KeyValue :=
  ocSetPrefix baseOcPathComponent util.identifier "utilization"

def memory (mem : MemoryLoad) : List KeyValue :=
  [.ofInt ("memory/" ++ mem.name ++ "/average_util") mem.averageUtil.toUInt64,
    .ofInt ("memory/" ++ mem.name ++ "/highest_util") mem.highestUtil.toUInt64,
    .ofInt ("memory/" ++ mem.name ++ "/lowest_util") mem.lowestUtil.toUInt64,
    .ofInt ("memory/" ++ mem.name ++ "/average_cache_hit_rate") mem.averageCacheHitRate.toUInt64,
    .ofInt ("memory/" ++ mem.name ++ "/highest_cache_hit_rate") mem.highestCacheHitRate.toUInt64,
    .ofInt ("memory/" ++ mem.name ++ "/lowest_cache_hit_rate") mem.lowestCacheHitRate.toUInt64]

def packet (p : PacketLoad) : List KeyValue :=
  if p.rate = 0 then [] else [.ofUint ("packet/" ++ p.identifier ++ "/rate") p.rate]

def entries (util : Utilization) : List KeyValue :=
  .ofInt "metric" util.utilization.toUInt64 ::
    (util.memory.flatMap memory ++ util.packets.flatMap packet)

def iterate (message : NetworkProcessorUtilization) (datap : OpenConfigData) : OpenConfigData :=
  iterateElements setPrefix entries message.npuUtilStats datap

theorem noPrefix_entries (x : Utilization) : NoPrefix (entries x) := by
  simp [entries, memory, packet]

end OpenConfigNpuUtilization

/-! ## Packets -/

/-- `PacketStatsClass`; `packetCount` is the field of its `counter`. -/
structure PacketStatsClass where
  name : String
  packetCount : UInt64
  deriving DecidableEq, Inhabited

/-- `PacketStatsPacketForwardingEngine` -/
structure PacketStatsPacketForwardingEngine where
  pfeIdentifier : String
  packetStats : List PacketStatsClass := []
  deriving DecidableEq, Inhabited

/-- `PacketStatistics` -/
structure PacketStatistics where
  packetStats : List PacketStatsClass := []
  packetStatsPfe : List PacketStatsPacketForwardingEngine := []
  deriving DecidableEq, Inhabited

namespace OpenConfigPacketStats

def setPrefix (name : String) : KeyValue :=
  ocSetPrefix baseOcPathComponent name "packet_statistics"

/-- The key is the name of the class alone. -/
def entry (classp : PacketStatsClass) : List KeyValue :=
  if classp.packetCount = 0 then [] else [.ofInt classp.name classp.packetCount]

def iterate (message : PacketStatistics) (datap : OpenConfigData) : OpenConfigData :=
  iterateElements (fun pfe => setPrefix pfe.pfeIdentifier) (fun pfe => pfe.packetStats.flatMap entry)
    message.packetStatsPfe
    (datap.addKv (setPrefix (lineCardName datap) :: message.packetStats.flatMap entry))

end OpenConfigPacketStats

/-! ## Flow monitoring -/

/-- The value of a `float` as a `double`, both as the bits that store them: a subnormal
    becomes normal, and the bit that makes a NaN quiet is set. -/
def floatToDouble (bits : UInt32) : UInt64 :=
  let sign : UInt64 := (bits >>> 31).toUInt64 <<< 63
  let exponent : UInt64 := (bits >>> 23 &&& 0xff).toUInt64
  let fraction : UInt64 := (bits &&& 0x7fffff).toUInt64
  let shifted : UInt64 := fraction <<< 29
  if exponent = 0xff then
    sign + 0x7ff0000000000000 + if fraction = 0 then 0 else shifted ||| 0x8000000000000
  else if exponent ≠ 0 then sign + (exponent + 896) * 0x10000000000000 + shifted
  else if fraction = 0 then sign
  else
    let top : UInt64 := fraction.log2
    sign + (top + 873) * 0x10000000000000 + fraction <<< (52 - top)

/-- The counters of one family, the fields `<family>_…` of `InlineJflowNpuStats`. -/
structure FlowStats where
  flowPackets : UInt64 := 0
  flowBytes : UInt64 := 0
  totalFlows : UInt64 := 0
  activeFlows : UInt64 := 0
  flowsExported : UInt64 := 0
  packetsExported : UInt64 := 0
  flowsInactiveTimedOut : UInt64 := 0
  flowsActiveTimedOut : UInt64 := 0
  flowCreateFailure : UInt64 := 0
  routeLookupFailure : UInt64 := 0
  autonomousSystemLookupFailure : UInt64 := 0
  flowPacketExportFailure : UInt64 := 0
  flowTableUtilization : UInt32 := 0
  flowInsertCount : UInt64 := 0
  deriving DecidableEq, Inhabited

/-- `InlineJflowNpuStats` -/
structure InlineJflowNpuStats where
  npuIdentifier : UInt32
  ipv4 : FlowStats := {}
  ipv6 : FlowStats := {}
  vpls : FlowStats := {}
  mpls : FlowStats := {}
  deriving DecidableEq, Inhabited

/-- `InlineJflow` -/
structure InlineJflow where
  ipv4FlowsExportFormat : String := ""
  ipv4RouteRecordCnt : UInt32 := 0
  ipv6RouteRecordCnt : UInt32 := 0
  mplsRouteRecordCnt : UInt32 := 0
  memoryAllocFailCnt : UInt32 := 0
  lastClearTimestamp : UInt32 := 0
  npuStats : List InlineJflowNpuStats := []
  deriving DecidableEq, Inhabited

namespace OpenConfigInlineJflow

def setPrefix (name : String) : KeyValue :=
  ocSetPrefix baseOcPathComponent name "jflow"

/-- The name of an NPU. Its two slots are of type `u_int8_t`. -/
def npuName (datap : OpenConfigData) (npu : InlineJflowNpuStats) : String :=
  let lcSlot := datap.componentId.toUInt8
  let pfeSlot := (npu.npuIdentifier &&& 0xf).toUInt8
  "FPC" ++ toString lcSlot ++ ":" ++ "NPU" ++ toString pfeSlot

/-- A counter that is reported unless it is zero. -/
def counter (key : String) (n : UInt64) : List KeyValue :=
  if n ≠ 0 then [.ofUint key n] else []

/-- A `float` is zero whatever its sign is. -/
def gauge (key : String) (bits : UInt32) : List KeyValue :=
  if bits &&& 0x7fffffff ≠ 0 then [.ofDouble key (floatToDouble bits)] else []

def flows (family : String) (stats : FlowStats) : List KeyValue :=
  counter (family ++ "_flow_packets") stats.flowPackets ++
  counter (family ++ "_flow_bytes") stats.flowBytes ++
  counter (family ++ "_total_flows") stats.totalFlows ++
  counter (family ++ "_active_flows") stats.activeFlows ++
  counter (family ++ "_flows_exported") stats.flowsExported ++
  counter (family ++ "_packets_exported") stats.packetsExported ++
  counter (family ++ "_flows_inactive_timed_out") stats.flowsInactiveTimedOut ++
  counter (family ++ "_flows_active_timed_out") stats.flowsActiveTimedOut ++
  counter (family ++ "_flow_create_failure") stats.flowCreateFailure ++
  counter (family ++ "_route_lookup_failure") stats.routeLookupFailure ++
  counter (family ++ "_autonomous_system_lookup_failure") stats.autonomousSystemLookupFailure ++
  counter (family ++ "_flow_packet_export_failure") stats.flowPacketExportFailure ++
  gauge (family ++ "_flow_table_utilization") stats.flowTableUtilization ++
  counter (family ++ "_flow_insert_count") stats.flowInsertCount

def npuEntries (npu : InlineJflowNpuStats) : List KeyValue :=
  flows "ipv4" npu.ipv4 ++ flows "ipv6" npu.ipv6 ++ flows "vpls" npu.vpls ++
  flows "mpls" npu.mpls

def cardEntries (message : InlineJflow) : List KeyValue :=
  .ofStr "ipv4_flows_export_format" message.ipv4FlowsExportFormat ::
  (counter "ipv4_route_record_cnt" message.ipv4RouteRecordCnt.toUInt64 ++
  counter "ipv6_route_record_cnt" message.ipv6RouteRecordCnt.toUInt64 ++
  counter "mpls_route_record_cnt" message.mplsRouteRecordCnt.toUInt64 ++
  counter "memory_alloc_fail_cnt" message.memoryAllocFailCnt.toUInt64 ++
  counter "last_clear_timestamp" message.lastClearTimestamp.toUInt64)

def iterate (message : InlineJflow) (datap : OpenConfigData) : OpenConfigData :=
  iterateElements (fun npu => setPrefix (npuName datap npu)) npuEntries message.npuStats
    (datap.addKv (setPrefix (lineCardName datap) :: cardEntries message))

@[simp] theorem noPrefix_counter {key : String} {n : UInt64} (hk : key ≠ "__prefix__") :
    NoPrefix (counter key n) := by
  simp [counter, hk]

@[simp] theorem noPrefix_gauge {key : String} {bits : UInt32} (hk : key ≠ "__prefix__") :
    NoPrefix (gauge key bits) := by
  simp [gauge, hk]

theorem noPrefix_npuEntries (npu : InlineJflowNpuStats) : NoPrefix (npuEntries npu) := by
  simp [npuEntries, flows]

theorem noPrefix_cardEntries (m : InlineJflow) : NoPrefix (cardEntries m) := by
  simp [cardEntries]

end OpenConfigInlineJflow

end TelemetryAgent
