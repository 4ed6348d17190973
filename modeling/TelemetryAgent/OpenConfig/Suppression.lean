/-
  What the translators of the ports leave out: a counter is reported only if the counter that
  the code asks about, its guard, is not zero.

  `publishes_iff`: a counter that is not zero is in the group of its interface with its value
  exactly if its guard is not zero either, and it is below 2^63. The input errors are their own
  guard; the guard of all the others is the number of octets.
-/
import Mathlib.Algebra.Group.Nat.Defs
import TelemetryAgent.OpenConfig.Keys

namespace TelemetryAgent

open Lib OpenConfigData

/-! ## Counters -/

/-- A counter of an element: the value that the code asks about before it reports the counter,
    the key that it is reported with and its value. -/
structure PortCounter where
  guard : UInt64
  key : String
  value : UInt64
  deriving DecidableEq

namespace PortCounter

def entry (c : PortCounter) : KeyValue := .ofInt c.key c.value

/-- What is reported of the counters. -/
def reported (counters : List PortCounter) : List KeyValue :=
  (counters.filter fun c => c.guard ≠ 0).map entry

/-- If the counter is not zero, then it is reported, and its value is not negative there. -/
def Guarded (c : PortCounter) : Prop := c.value ≠ 0 → c.guard ≠ 0 ∧ c.value.toNat < 2 ^ 63

/-- Among the entries there is one for the counter, which reads as its value. -/
def Published (l : List KeyValue) (c : PortCounter) : Prop :=
  ∃ v : Int64, ⟨c.key, .int v⟩ ∈ l ∧ v.toInt = c.value.toNat

/-- The entries hide only zeros. -/
def HidesOnlyZeros (l : List KeyValue) (counters : List PortCounter) : Prop :=
  ∀ c ∈ counters, c.value ≠ 0 → c.Published l

theorem toInt_toInt64_eq_iff (n : UInt64) : n.toInt64.toInt = n.toNat ↔ n.toNat < 2 ^ 63 := by
  have hcond : n.toInt64.toInt =
      if 2 * n.toNat < 2 ^ 64 then (n.toNat : Int) else (n.toNat : Int) - (2 ^ 64 : Nat) :=
    BitVec.toInt_eq_toNat_cond n.toBitVec
  rw [hcond]
  split <;> omega

theorem mem_reported {counters : List PortCounter} {kv : KeyValue} :
    kv ∈ reported counters ↔ ∃ c ∈ counters, c.guard ≠ 0 ∧ c.entry = kv := by
  simp [reported, and_assoc]

@[simp] theorem reported_append (l l' : List PortCounter) :
    reported (l ++ l') = reported l ++ reported l' := by
  simp [reported]

/-- Counters with one guard are reported together. -/
theorem reported_map {g : UInt64} (l : List (String × UInt64)) :
    reported (l.map fun c => ⟨g, c.1, c.2⟩) =
      if g ≠ 0 then l.map fun c => .ofInt c.1 c.2 else [] := by
  rw [reported]
  split
  · next hg => simp [List.filter_map, Function.comp_def, hg, entry]
  · next hg => simp [List.filter_map, Function.comp_def, not_not.mp hg]

/-- With the keys of an element distinct, an entry is that of one counter. -/
theorem published_iff {base : List KeyValue} {counters : List PortCounter}
    (hbase : ∀ c ∈ counters, ∀ kv ∈ base, kv.key ≠ c.key) (hkeys : (counters.map key).Nodup)
    {c : PortCounter} (hc : c ∈ counters) :
    c.Published (base ++ reported counters) ↔ c.guard ≠ 0 ∧ c.value.toNat < 2 ^ 63 := by
  constructor
  · rintro ⟨v, hmem, hv⟩
    obtain hmem | hmem := List.mem_append.mp hmem
    · exact absurd rfl (hbase c hc _ hmem)
    · obtain ⟨c', hc', hguard, he⟩ := mem_reported.mp hmem
      obtain ⟨hkey, hvalue⟩ := KeyValue.mk.inj he
      obtain rfl := List.inj_on_of_nodup_map hkeys hc' hc hkey
      rw [← KeyValue.Value.int.inj hvalue, toInt_toInt64_eq_iff] at hv
      exact ⟨hguard, hv⟩
  · rintro ⟨hguard, hlt⟩
    refine ⟨c.value.toInt64, List.mem_append_right base ?_, (toInt_toInt64_eq_iff _).mpr hlt⟩
    exact mem_reported.mpr ⟨c, hc, hguard, rfl⟩

theorem hidesOnlyZeros_iff {base : List KeyValue} {counters : List PortCounter}
    (hbase : ∀ c ∈ counters, ∀ kv ∈ base, kv.key ≠ c.key) (hkeys : (counters.map key).Nodup) :
    HidesOnlyZeros (base ++ reported counters) counters ↔ ∀ c ∈ counters, c.Guarded :=
  forall₂_congr fun _ hc => imp_congr_right fun _ => published_iff hbase hkeys hc

end PortCounter

open PortCounter

/-! ## Groups of the emitted entries -/

/-- There is one group for each element, with its prefix, and it hides only zeros of it. -/
def Publishes {ε : Type} (setPrefix : ε → KeyValue) (counters : ε → List PortCounter)
    (elements : List ε) (l : List KeyValue) : Prop :=
  List.Forall₂ (fun x group => group.1 = setPrefix x ∧ HidesOnlyZeros group.2 (counters x))
    elements (groups KeyValue.isPrefix l)

theorem publishes_flat_iff {ε : Type} {setPrefix : ε → KeyValue} {entries : ε → List KeyValue}
    {counters : ε → List PortCounter} (hp : ∀ x, (setPrefix x).isPrefix = true)
    (hn : ∀ x, NoPrefix (entries x))
    (h : ∀ x, HidesOnlyZeros (entries x) (counters x) ↔ ∀ c ∈ counters x, c.Guarded)
    (elements : List ε) :
    Publishes setPrefix counters elements (flat setPrefix entries elements) ↔
      ∀ x ∈ elements, ∀ c ∈ counters x, c.Guarded := by
  rw [Publishes, groups_flat hp hn, List.forall₂_map_right_iff, List.forall₂_same]
  simp only [true_and, h]

/-! ## Port -/

namespace OpenConfigPort

def counters (ifdInfo : InterfaceInfos) : List PortCounter :=
  let egress := ifdInfo.egressStats
  let ingress := ifdInfo.ingressStats
  ([("counters/out_octets", egress.ifOctets), ("counters/out_packets", egress.ifPkts),
    ("counters/out-unicast-pkts", egress.ifUcPkts),
    ("counters/out-multicast-pkts", egress.ifMcPkts),
    ("counters/out-broadcast-pkts", egress.ifBcPkts),
    ("counters/out-discards", egress.ifError)].map fun c => ⟨egress.ifOctets, c.1, c.2⟩) ++
  ([("counters/in-octets", ingress.ifOctets), ("counters/in-packets", ingress.ifPkts),
    ("counters/in-unicast-pkts", ingress.ifUcPkts),
    ("counters/in-multicast-pkts", ingress.ifMcPkts),
    ("counters/in-broadcast-pkts", ingress.ifBcPkts)].map fun c =>
      ⟨ingress.ifOctets, c.1, c.2⟩) ++
  ([("counters/in-errors", ifdInfo.ifInErrors)].map fun c => ⟨ifdInfo.ifInErrors, c.1, c.2⟩)

/-- The entries that are no counters. -/
def states (ifdInfo : InterfaceInfos) : List KeyValue :=
  [.ofInt "init_time" ifdInfo.initTime, .ofInt "snmp_index" ifdInfo.snmpIfIndex.toUInt64,
    .ofStr "parent_ae_name" ifdInfo.parentAeName]

theorem entries_eq (x : InterfaceInfos) : entries x = states x ++ reported (counters x) := by
  rw [counters, reported_append, reported_append, reported_map, reported_map, reported_map]
  simp only [entries, egress, ingress, states, List.append_assoc, List.map_cons, List.map_nil]

theorem hidesOnlyZeros_entries_iff (x : InterfaceInfos) :
    HidesOnlyZeros (entries x) (counters x) ↔ ∀ c ∈ counters x, c.Guarded := by
  rw [entries_eq]
  apply hidesOnlyZeros_iff
  · simp [counters, states]
  · simp [counters]

theorem publishes_port_iff (m : GPort) (d : OpenConfigData) :
    Publishes setPrefix counters m.interfaceStats (emitted (iterate m) d) ↔
      ∀ x ∈ m.interfaceStats, ∀ c ∈ counters x, c.Guarded := by
  have hi : iterate m d = d.addKv (flat setPrefix entries m.interfaceStats) :=
    iterateElements_eq _ _ _ d
  rw [emitted_of_eq hi]
  exact publishes_flat_iff (fun x => isPrefix_ocSetPrefixNoAttr _ _) noPrefix_entries
    hidesOnlyZeros_entries_iff m.interfaceStats

end OpenConfigPort

/-! ## Logical port -/

namespace OpenConfigLogicalPort

def counters (iflInfo : LogicalInterfaceInfo) : List PortCounter :=
  let egress := iflInfo.egressStats
  let ingress := iflInfo.ingressStats
  ([("counters/out_octets", egress.ifOctets), ("counters/out_packets", egress.ifPkts)].map
    fun c => ⟨egress.ifOctets, c.1, c.2⟩) ++
  ([("counters/in-octets", ingress.ifOctets), ("counters/in-packets", ingress.ifPkts),
    ("counters/in-unicast-pkts", ingress.ifUcastPkts),
    ("counters/in-multicast-pkts", ingress.ifMcastPkts)].map fun c =>
      ⟨ingress.ifOctets, c.1, c.2⟩)

/-- The entries that are no counters. -/
def states (iflInfo : LogicalInterfaceInfo) : List KeyValue :=
  [.ofInt "init_time" iflInfo.initTime, .ofInt "snmp_index" iflInfo.snmpIfIndex.toUInt64,
    .ofStr "parent_ae_name" iflInfo.parentAeName,
    .ofStr "operational_state" iflInfo.operationalStatus]

theorem entries_eq (x : LogicalInterfaceInfo) :
    entries x = states x ++ reported (counters x) := by
  rw [counters, reported_append, reported_map, reported_map]
  simp only [entries, egress, ingress, states, List.append_assoc, List.map_cons, List.map_nil]

theorem hidesOnlyZeros_entries_iff (x : LogicalInterfaceInfo) :
    HidesOnlyZeros (entries x) (counters x) ↔ ∀ c ∈ counters x, c.Guarded := by
  rw [entries_eq]
  apply hidesOnlyZeros_iff
  · simp [counters, states]
  · simp [counters]

theorem publishes_logicalPort_iff (m : GLogicalPort) (d : OpenConfigData) :
    Publishes setPrefix counters m.interfaceInfo (emitted (iterate m) d) ↔
      ∀ x ∈ m.interfaceInfo, ∀ c ∈ counters x, c.Guarded := by
  have hi : iterate m d = d.addKv (flat setPrefix entries m.interfaceInfo) :=
    iterateElements_eq _ _ _ d
  rw [emitted_of_eq hi]
  exact publishes_flat_iff (fun x => isPrefix_ocSetPrefix _ _ _) noPrefix_entries
    hidesOnlyZeros_entries_iff m.interfaceInfo

end OpenConfigLogicalPort

/-! ## Both -/

/-- For every message of the ports and every one of the logical ports, and every data: the
    entries hide only zeros exactly if the guard of each counter that is not zero is not zero
    either, and no counter is 2^63 or more. -/
theorem publishes_iff (port : GPort) (logicalPort : GLogicalPort) (datap : OpenConfigData) :
    (Publishes OpenConfigPort.setPrefix OpenConfigPort.counters port.interfaceStats
        (emitted (OpenConfigPort.iterate port) datap) ↔
      ∀ x ∈ port.interfaceStats, ∀ c ∈ OpenConfigPort.counters x, c.Guarded) ∧
    (Publishes OpenConfigLogicalPort.setPrefix OpenConfigLogicalPort.counters
        logicalPort.interfaceInfo (emitted (OpenConfigLogicalPort.iterate logicalPort) datap) ↔
      ∀ x ∈ logicalPort.interfaceInfo, ∀ c ∈ OpenConfigLogicalPort.counters x, c.Guarded) :=
  ⟨OpenConfigPort.publishes_port_iff port datap,
    OpenConfigLogicalPort.publishes_logicalPort_iff logicalPort datap⟩

/-- An interface that has sent nothing and discarded five packets. -/
theorem not_publishes_discards : ¬ ∀ (port : GPort) (logicalPort : GLogicalPort)
    (datap : OpenConfigData),
    Publishes OpenConfigPort.setPrefix OpenConfigPort.counters port.interfaceStats
        (emitted (OpenConfigPort.iterate port) datap) ∧
      Publishes OpenConfigLogicalPort.setPrefix OpenConfigLogicalPort.counters
        logicalPort.interfaceInfo
        (emitted (OpenConfigLogicalPort.iterate logicalPort) datap) := by
  intro h
  let ifdInfo : InterfaceInfos := { ifName := "xe-0/0/0", egressStats := { ifError := 5 } }
  have hguarded := (OpenConfigPort.publishes_port_iff ⟨[ifdInfo]⟩ {}).mp (h _ ⟨[]⟩ {}).1
  have hmem : ⟨0, "counters/out-discards", 5⟩ ∈ OpenConfigPort.counters ifdInfo := by decide
  obtain ⟨hguard, -⟩ := hguarded ifdInfo List.mem_cons_self _ hmem (by decide)
  exact hguard rfl

end TelemetryAgent
