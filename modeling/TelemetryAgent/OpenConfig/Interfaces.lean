/-
  The translators of the messages about interfaces: OpenConfigPort, OpenConfigLogicalPort and
  OpenConfigOptics, with the fields of port.proto, logical_port.proto and optics.proto that
  they read. A submessage that is not set reads as its default; where the code asks whether a
  field is set, it is an `Option`. A double is the 64 bits that store it.
-/
import TelemetryAgent.OpenConfig.Oc

namespace TelemetryAgent

open OpenConfigData

/-! ## Port -/

/-- `InterfaceStats` -/
structure InterfaceStats where
  ifPkts : UInt64 := 0
  ifOctets : UInt64 := 0
  ifUcPkts : UInt64 := 0
  ifMcPkts : UInt64 := 0
  ifBcPkts : UInt64 := 0
  ifError : UInt64 := 0
  deriving DecidableEq, Inhabited

/-- `InterfaceInfos`; of `ingress_errors` the code reads `if_in_errors`. -/
structure InterfaceInfos where
  ifName : String
  initTime : UInt64 := 0
  snmpIfIndex : UInt32 := 0
  parentAeName : String := ""
  ingressStats : InterfaceStats := {}
  egressStats : InterfaceStats := {}
  ifInErrors : UInt64 := 0
  deriving DecidableEq, Inhabited

/-- `GPort` -/
structure GPort where
  interfaceStats : List InterfaceInfos := []
  deriving DecidableEq, Inhabited

namespace OpenConfigPort

def setPrefix (ifdInfo : InterfaceInfos) : KeyValue :=
  ocSetPrefixNoAttr "/oc-path/interfaces/interface" ifdInfo.ifName

def egress (stats : InterfaceStats) : List KeyValue :=
  if stats.ifOctets ≠ 0 then
    [.ofInt "counters/out_octets" stats.ifOctets,
      .ofInt "counters/out_packets" stats.ifPkts,
      .ofInt "counters/out-unicast-pkts" stats.ifUcPkts,
      .ofInt "counters/out-multicast-pkts" stats.ifMcPkts,
      .ofInt "counters/out-broadcast-pkts" stats.ifBcPkts,
      .ofInt "counters/out-discards" stats.ifError]
  else []

def ingress (stats : InterfaceStats) : List KeyValue :=
  if stats.ifOctets ≠ 0 then
    [.ofInt "counters/in-octets" stats.ifOctets,
      .ofInt "counters/in-packets" stats.ifPkts,
      .ofInt "counters/in-unicast-pkts" stats.ifUcPkts,
      .ofInt "counters/in-multicast-pkts" stats.ifMcPkts,
      .ofInt "counters/in-broadcast-pkts" stats.ifBcPkts]
  else []

/-- `parent_ae_name` is there also when it is empty: `c_str()` is never null. -/
def entries (ifdInfo : InterfaceInfos) : List KeyValue :=
  [.ofInt "init_time" ifdInfo.initTime,
    .ofInt "snmp_index" ifdInfo.snmpIfIndex.toUInt64,
    .ofStr "parent_ae_name" ifdInfo.parentAeName] ++
  egress ifdInfo.egressStats ++ ingress ifdInfo.ingressStats ++
  if ifdInfo.ifInErrors ≠ 0 then [.ofInt "counters/in-errors" ifdInfo.ifInErrors] else []

def iterate (portp : GPort) (datap : OpenConfigData) : OpenConfigData :=
  iterateElements setPrefix entries portp.interfaceStats datap

theorem noPrefix_entries (x : InterfaceInfos) : NoPrefix (entries x) := by
  simp [entries, egress, ingress]

end OpenConfigPort

/-! ## Logical port -/

/-- `IngressInterfaceStats` -/
structure IngressInterfaceStats where
  ifPkts : UInt64 := 0
  ifOctets : UInt64 := 0
  ifUcastPkts : UInt64 := 0
  ifMcastPkts : UInt64 := 0
  deriving DecidableEq, Inhabited

/-- `EgressInterfaceStats` -/
structure EgressInterfaceStats where
  ifPkts : UInt64 := 0
  ifOctets : UInt64 := 0
  deriving DecidableEq, Inhabited

/-- `LogicalInterfaceInfo`; `operationalStatus` is the field of its `op_state`. -/
structure LogicalInterfaceInfo where
  ifName : String
  initTime : UInt64 := 0
  snmpIfIndex : UInt32 := 0
  parentAeName : String := ""
  ingressStats : IngressInterfaceStats := {}
  egressStats : EgressInterfaceStats := {}
  operationalStatus : String := ""
  deriving DecidableEq, Inhabited

/-- `GLogicalPort` -/
structure GLogicalPort where
  interfaceInfo : List LogicalInterfaceInfo := []
  deriving DecidableEq, Inhabited

namespace OpenConfigLogicalPort

/-- The name of the port and the unit: what stands before and after the first `.`. -/
def splitName (iflName : String) : String × String :=
  match iflName.toList.span (· ≠ '.') with
  | (port, _ :: unit) => (.ofList port, .ofList unit)
  | (_, []) => (iflName, "0")

def setPrefix (iflInfo : LogicalInterfaceInfo) : KeyValue :=
  ocSetPrefix "/oc-path/interfaces/interface" (splitName iflInfo.ifName).1
    ("subinterfaces/subinterface[index='" ++ (splitName iflInfo.ifName).2 ++ "']")

def egress (stats : EgressInterfaceStats) : List KeyValue :=
  if stats.ifOctets ≠ 0 then
    [.ofInt "counters/out_octets" stats.ifOctets,
      .ofInt "counters/out_packets" stats.ifPkts]
  else []

def ingress (stats : IngressInterfaceStats) : List KeyValue :=
  if stats.ifOctets ≠ 0 then
    [.ofInt "counters/in-octets" stats.ifOctets,
      .ofInt "counters/in-packets" stats.ifPkts,
      .ofInt "counters/in-unicast-pkts" stats.ifUcastPkts,
      .ofInt "counters/in-multicast-pkts" stats.ifMcastPkts]
  else []

def entries (iflInfo : LogicalInterfaceInfo) : List KeyValue :=
  [.ofInt "init_time" iflInfo.initTime,
    .ofInt "snmp_index" iflInfo.snmpIfIndex.toUInt64,
    .ofStr "parent_ae_name" iflInfo.parentAeName,
    .ofStr "operational_state" iflInfo.operationalStatus] ++
  egress iflInfo.egressStats ++ ingress iflInfo.ingressStats

def iterate (portp : GLogicalPort) (datap : OpenConfigData) : OpenConfigData :=
  iterateElements setPrefix entries portp.interfaceInfo datap

theorem noPrefix_entries (x : LogicalInterfaceInfo) : NoPrefix (entries x) := by
  simp [entries, egress, ingress]

end OpenConfigLogicalPort

/-! ## Optics -/

/-- The two alarms and the two warnings that a measured value can have. -/
structure Alarms (α : Type) where
  highAlarm : Option α := none
  lowAlarm : Option α := none
  highWarning : Option α := none
  lowWarning : Option α := none
  deriving DecidableEq, Inhabited

/-- `OpticsDiagLaneStats` -/
structure OpticsDiagLaneStats where
  laneNumber : Option UInt32 := none
  laneLaserTemperature : Option UInt64 := none
  laneLaserOutputPowerDbm : Option UInt64 := none
  laneLaserReceiverPowerDbm : Option UInt64 := none
  laneLaserBiasCurrent : Option UInt64 := none
  laneLaserOutputPower : Alarms Bool := {}
  laneLaserReceiverPower : Alarms Bool := {}
  laneLaserBiasCurrentAlarms : Alarms Bool := {}
  laneTxLossOfSignalAlarm : Option Bool := none
  laneRxLossOfSignalAlarm : Option Bool := none
  laneTxLaserDisabledAlarm : Option Bool := none
  deriving DecidableEq, Inhabited

/-- `OpticsDiagStats`; the thresholds that end in `_dbm` are those of the powers. -/
structure OpticsDiagStats where
  opticsType : Option UInt32 := none
  moduleTemp : Option UInt64 := none
  moduleTempThreshold : Alarms UInt64 := {}
  laserOutputPowerThresholdDbm : Alarms UInt64 := {}
  laserRxPowerThresholdDbm : Alarms UInt64 := {}
  laserBiasCurrentThreshold : Alarms UInt64 := {}
  moduleTempAlarms : Alarms Bool := {}
  opticsLaneDiagStats : List OpticsDiagLaneStats := []
  deriving DecidableEq, Inhabited

/-- `OpticsInfos` -/
structure OpticsInfos where
  ifName : String
  opticsDiagStats : OpticsDiagStats := {}
  deriving DecidableEq, Inhabited

/-- `Optics` -/
structure Optics where
  opticsDiag : List OpticsInfos := []
  deriving DecidableEq, Inhabited

namespace OpenConfigOptics

def setPrefix (element : OpticsInfos) : KeyValue :=
  ocSetPrefix "/oc-path/interfaces/interface" element.ifName "optics"

/-- An entry for a field that is set. -/
def optional (key : String) (v : Option KeyValue.Value) : List KeyValue :=
  v.toList.map (KeyValue.mk key)

/-- The four fields `<name>_{high,low}_{alarm,warning}<suffix>`, in the order of the code. -/
def alarms {α : Type} (set : α → KeyValue.Value) (name suffix : String) (a : Alarms α) :
    List KeyValue :=
  optional (name ++ "_high_alarm" ++ suffix) (a.highAlarm.map set) ++
  optional (name ++ "_low_alarm" ++ suffix) (a.lowAlarm.map set) ++
  optional (name ++ "_high_warning" ++ suffix) (a.highWarning.map set) ++
  optional (name ++ "_low_warning" ++ suffix) (a.lowWarning.map set)

def lane (lanediags : OpticsDiagLaneStats) : List KeyValue :=
  let lanenumber := lanediags.laneNumber.elim "unknown" toString
  let key := "lanediags/" ++ lanenumber
  optional (key ++ "/lane_number") (lanediags.laneNumber.map fun n => .uint n.toUInt64) ++
  optional (key ++ "/lane_laser_temperature") (lanediags.laneLaserTemperature.map .double) ++
  optional (key ++ "/lane_laser_output_power_dbm")
    (lanediags.laneLaserOutputPowerDbm.map .double) ++
  optional (key ++ "/lane_laser_receiver_power_dbm")
    (lanediags.laneLaserReceiverPowerDbm.map .double) ++
  optional (key ++ "/lane_laser_bias_current") (lanediags.laneLaserBiasCurrent.map .double) ++
  alarms .bool (key ++ "/lane_laser_output_power") "" lanediags.laneLaserOutputPower ++
  alarms .bool (key ++ "/lane_laser_receiver_power") "" lanediags.laneLaserReceiverPower ++
  alarms .bool (key ++ "/lane_laser_bias_current") "" lanediags.laneLaserBiasCurrentAlarms ++
  optional (key ++ "/lane_tx_loss_of_signal_alarm")
    (lanediags.laneTxLossOfSignalAlarm.map .bool) ++
  optional (key ++ "/lane_rx_loss_of_signal_alarm")
    (lanediags.laneRxLossOfSignalAlarm.map .bool) ++
  optional (key ++ "/lane_tx_laser_disabled_alarm")
    (lanediags.laneTxLaserDisabledAlarm.map .bool)

def entries (element : OpticsInfos) : List KeyValue :=
  let diags := element.opticsDiagStats
  optional "optics_type" (diags.opticsType.map fun n => .uint n.toUInt64) ++
  optional "module_temp" (diags.moduleTemp.map .double) ++
  alarms .double "module_temp" "_threshold" diags.moduleTempThreshold ++
  alarms .double "laser_output_power" "_threshold_dbm" diags.laserOutputPowerThresholdDbm ++
  alarms .double "laser_rx_power" "_threshold_dbm" diags.laserRxPowerThresholdDbm ++
  alarms .double "laser_bias_current" "_threshold" diags.laserBiasCurrentThreshold ++
  alarms .bool "module_temp" "" diags.moduleTempAlarms ++
  diags.opticsLaneDiagStats.flatMap lane

def iterate (message : Optics) (datap : OpenConfigData) : OpenConfigData :=
  iterateElements setPrefix entries message.opticsDiag datap

@[simp] theorem noPrefix_optional {key : String} {v : Option KeyValue.Value}
    (hk : key ≠ "__prefix__") : NoPrefix (optional key v) := by
  cases v with
  | none => exact noPrefix_nil
  | some v => simp [optional, hk]

theorem noPrefix_lane (l : OpticsDiagLaneStats) : NoPrefix (lane l) := by
  simp [lane, alarms]

theorem noPrefix_entries (x : OpticsInfos) : NoPrefix (entries x) := by
  simp [entries, alarms, noPrefix_lane]

end OpenConfigOptics

end TelemetryAgent
