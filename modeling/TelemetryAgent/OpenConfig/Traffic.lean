/-
  The translators of the messages about traffic: OpenConfigFirewall and OpenConfigLspStats,
  with the fields of firewall.proto and lsp_stats.proto that they read.
-/
import TelemetryAgent.OpenConfig.Oc

namespace TelemetryAgent

open Lib OpenConfigData

/-! ## Firewall -/

/-- `MemoryUsage` -/
structure MemoryUsage where
  name : String
  allocated : UInt64 := 0
  deriving DecidableEq, Inhabited

/-- `CounterStats` -/
structure CounterStats where
  name : String
  packets : UInt64 := 0
  bytes : UInt64 := 0
  deriving DecidableEq, Inhabited

/-- `PolicerStats` -/
structure PolicerStats where
  name : String
  outOfSpecPackets : UInt64 := 0
  outOfSpecBytes : UInt64 := 0
  deriving DecidableEq, Inhabited

/-- `FirewallStats` -/
structure FirewallStats where
  filterName : String
  timestamp : UInt64 := 0
  memoryUsage : List MemoryUsage := []
  counterStats : List CounterStats := []
  policerStats : List PolicerStats := []
  deriving DecidableEq, Inhabited

/-- `Firewall` -/
structure Firewall where
  firewallStats : List FirewallStats := []
  deriving DecidableEq, Inhabited

namespace OpenConfigFirewall

def setPrefix (filter : FirewallStats) : KeyValue :=
  ocSetPrefixNoAttr "/oc-path/firewalls/" filter.filterName

def memory (mem : MemoryUsage) : List KeyValue :=
  if mem.allocated = 0 then [] else [.ofInt ("memory_usage/" ++ mem.name) mem.allocated]

def counter (cntr : CounterStats) : List KeyValue :=
  if cntr.packets = 0 then []
  else
    [.ofInt ("counters/packets/" ++ cntr.name) cntr.packets,
      .ofInt ("counters/bytes/" ++ cntr.name) cntr.bytes]

def policer (pol : PolicerStats) : List KeyValue :=
  if pol.outOfSpecPackets = 0 then []
  else
    [.ofInt ("policers/out-of-spec-packets/" ++ pol.name) pol.outOfSpecPackets,
      .ofInt ("policers/out-of-spec-bytes/" ++ pol.name) pol.outOfSpecBytes]

def entries (filter : FirewallStats) : List KeyValue :=
  .ofInt "timestamp" filter.timestamp ::
    (filter.memoryUsage.flatMap memory ++ filter.counterStats.flatMap counter ++
      filter.policerStats.flatMap policer)

def iterate (message : Firewall) (datap : OpenConfigData) : OpenConfigData :=
  iterateElements setPrefix entries message.firewallStats datap

theorem noPrefix_entries (x : FirewallStats) : NoPrefix (entries x) := by
  simp [entries, memory, counter, policer]

end OpenConfigFirewall

/-! ## Label-switched paths -/

/-- `LspStatsRecord` -/
structure LspStatsRecord where
  name : String
  instanceIdentifier : UInt32
  counterName : String
  packets : UInt64 := 0
  bytes : UInt64 := 0
  deriving DecidableEq, Inhabited

/-- `LspStats` -/
structure LspStats where
  lspStatsRecords : List LspStatsRecord := []
  deriving DecidableEq, Inhabited

namespace OpenConfigLspStats

def setPrefix (record : LspStatsRecord) : KeyValue :=
  ocSetPrefix "/mpls/lsps/constrained-path/tunnels/tunnel" record.name "state/counters"

def entries (record : LspStatsRecord) : List KeyValue :=
  [.ofInt (record.counterName ++ "/packets") record.packets,
    .ofInt (record.counterName ++ "/bytes") record.bytes]

/-- The `continue` for a record without packets stands before its prefix is added. -/
def step (datap : OpenConfigData) (record : LspStatsRecord) : OpenConfigData :=
  if record.packets = 0 then datap else datap.addKv (setPrefix record :: entries record)

def iterate (message : LspStats) (datap : OpenConfigData) : OpenConfigData :=
  message.lspStatsRecords.foldl step datap

/-- The records that the code translates. -/
def translated (message : LspStats) : List LspStatsRecord :=
  message.lspStatsRecords.filter (·.packets ≠ 0)

theorem noPrefix_entries (x : LspStatsRecord) : NoPrefix (entries x) := by
  simp [entries]

theorem iterate_eq (m : LspStats) (d : OpenConfigData) :
    iterate m d = d.addKv (flat setPrefix entries (translated m)) := by
  unfold iterate translated
  induction m.lspStatsRecords generalizing d with
  | nil => rw [List.foldl_nil, List.filter_nil, flat_nil, addKv_nil]
  | cons x records ih =>
    rw [List.foldl_cons, ih]
    by_cases hx : x.packets = 0
    · rw [step, if_pos hx, List.filter_cons_of_neg (by simp [hx])]
    · rw [step, if_neg hx, List.filter_cons_of_pos (by simp [hx]), addKv_addKv, flat_cons,
        List.cons_append]

end OpenConfigLspStats

end TelemetryAgent
