/-
  The translators together, as `on_message` (AgentSubscription.cpp) dispatches to them: what
  they append, and to which element each entry belongs.

  `attributes_iff`: the entries of a message belong to the elements they were read from, for
  every reader that goes by the last prefix, unless the message has packet statistics in which
  a class named `__prefix__` comes before another one.
-/
import TelemetryAgent.OpenConfig.Interfaces
import TelemetryAgent.OpenConfig.Components
import TelemetryAgent.OpenConfig.Traffic

namespace TelemetryAgent

open Lib OpenConfigData

/-- `JuniperNetworksSensors`: the extension by which `get_oc_extension_type` dispatches. -/
inductive JuniperNetworksSensors where
  | npuUtilization (message : NetworkProcessorUtilization)
  | firewall (message : Firewall)
  | packetStats (message : PacketStatistics)
  | port (message : GPort)
  | logicalPort (message : GLogicalPort)
  | npuMem (message : NetworkProcessorMemoryUtilization)
  | cpuMemoryUtilization (message : CpuMemoryUtilization)
  | optics (message : Optics)
  | lspStats (message : LspStats)
  | inlineJflow (message : InlineJflow)

/-- `oc->iterate`, for the translator of the extension. -/
def JuniperNetworksSensors.iterate :
    JuniperNetworksSensors → OpenConfigData → OpenConfigData
  | npuUtilization message => OpenConfigNpuUtilization.iterate message
  | firewall message => OpenConfigFirewall.iterate message
  | packetStats message => OpenConfigPacketStats.iterate message
  | port message => OpenConfigPort.iterate message
  | logicalPort message => OpenConfigLogicalPort.iterate message
  | npuMem message => OpenConfigNpuMem.iterate message
  | cpuMemoryUtilization message => OpenConfigCpuMemoryUtilization.iterate message
  | optics message => OpenConfigOptics.iterate message
  | lspStats message => OpenConfigLspStats.iterate message
  | inlineJflow message => OpenConfigInlineJflow.iterate message

/-! ## Elements -/

/-- The elements of a message: the prefix that is built from each and the entries that are
    read from it. -/
structure Elements where
  ε : Type
  setPrefix : ε → KeyValue
  entries : ε → List KeyValue
  elements : List ε

namespace Elements

/-- The line card, which is `none`, and then the elements on it. -/
def onLineCard {ε : Type} (setPrefix : ε → KeyValue) (entries : ε → List KeyValue)
    (elements : List ε) (cardPrefix : KeyValue) (cardEntries : List KeyValue) : Elements where
  ε := Option ε
  setPrefix x := x.elim cardPrefix setPrefix
  entries x := x.elim cardEntries entries
  elements := none :: elements.map some

variable (es : Elements)

def flat : List KeyValue := Lib.flat es.setPrefix es.entries es.elements

@[simp] theorem flat_onLineCard {ε : Type} (p : ε → KeyValue) (l : ε → List KeyValue)
    (xs : List ε) (cp : KeyValue) (cl : List KeyValue) :
    (onLineCard p l xs cp cl).flat = cp :: (cl ++ Lib.flat p l xs) := by
  rw [flat, onLineCard, flat_cons, flat_map]
  rfl

theorem forall_onLineCard {ε : Type} (P : List KeyValue → Prop) (p : ε → KeyValue)
    (l : ε → List KeyValue) (xs : List ε) (cp : KeyValue) (cl : List KeyValue) :
    (∀ x ∈ (onLineCard p l xs cp cl).elements, P ((onLineCard p l xs cp cl).entries x)) ↔
      P cl ∧ ∀ x ∈ xs, P (l x) := by
  refine List.forall_mem_cons.trans (and_congr_right fun _ => ?_)
  exact List.forall_mem_map

/-- What a reader of the entries should get: the entries of each element below its prefix. -/
def finalKeys : List (String × KeyValue.Value) :=
  es.elements.flatMap fun x =>
    ((es.entries x).filter (!·.isPrefix)).map fun kv =>
      ((es.setPrefix x).strValue ++ kv.key, kv.value)

/-- The data are `datap` with more entries, each of which stands below the prefix of the
    element it was read from, and so a reader gets what it should. -/
def Attributes (datap datap' : OpenConfigData) : Prop :=
  ∃ l, datap' = datap.addKv l ∧
    Attributed es.setPrefix es.entries KeyValue.isPrefix es.elements l ∧
    TelemetryAgent.finalKeys datap'.kv = TelemetryAgent.finalKeys datap.kv ++ es.finalKeys

/-- Every prefix is read as one, and no entry is the prefix of an element. -/
structure WellFormed : Prop where
  isPrefix_setPrefix : ∀ x, (es.setPrefix x).isPrefix = true
  not_mem_entries : ∀ x y, es.setPrefix y ∉ es.entries x

variable {es}

theorem wellFormed_of_noPrefix (h : ∀ x, (es.setPrefix x).isPrefix = true)
    (hn : ∀ x, NoPrefix (es.entries x)) : es.WellFormed := by
  refine ⟨h, fun x y hmem => ?_⟩
  have hfalse := hn x _ hmem
  rw [h y] at hfalse
  exact absurd hfalse (by simp)

theorem finalKeys_addKv_flat (hwf : es.WellFormed)
    (h : ∀ x ∈ es.elements, HeadersLast KeyValue.isPrefix (es.entries x)) (d : OpenConfigData) :
    TelemetryAgent.finalKeys (d.addKv es.flat).kv =
      TelemetryAgent.finalKeys d.kv ++ es.finalKeys := by
  rw [TelemetryAgent.finalKeys, kv_addKv, readFlat_append, flat,
    readFlat_flat hwf.isPrefix_setPrefix h, List.map_append, List.map_flatMap, finalKeys]
  simp only [List.map_map]
  rfl

/-- The entries that look like prefixes decide, as each element has its own. -/
theorem attributes_addKv_flat_iff (hwf : es.WellFormed) (d : OpenConfigData) :
    es.Attributes d (d.addKv es.flat) ↔
      ∀ x ∈ es.elements, HeadersLast KeyValue.isPrefix (es.entries x) := by
  have hiff : Attributed es.setPrefix es.entries KeyValue.isPrefix es.elements es.flat ↔
      ∀ x ∈ es.elements, HeadersLast KeyValue.isPrefix (es.entries x) :=
    attributed_flat_iff hwf.isPrefix_setPrefix fun x _ y => hwf.not_mem_entries x y
  constructor
  · rintro ⟨l, hl, hattr, -⟩
    have heq : l = es.flat := (List.append_cancel_left (congrArg OpenConfigData.kv hl)).symm
    rw [heq] at hattr
    exact hiff.mp hattr
  · intro h
    exact ⟨es.flat, rfl, hiff.mpr h, finalKeys_addKv_flat hwf h d⟩

end Elements

/-! ## The translators -/

/-- Once a class that counts is named `__prefix__`, all the others after it are. -/
def PrefixNamesLast (classes : List PacketStatsClass) : Prop :=
  (classes.filter (·.packetCount ≠ 0)).Pairwise fun b c =>
    b.name = "__prefix__" → c.name = "__prefix__"

namespace JuniperNetworksSensors

/-- The elements that the translators go through; a LSP record without packets is left out. -/
def elements (datap : OpenConfigData) : JuniperNetworksSensors → Elements
  | npuUtilization message =>
    ⟨_, OpenConfigNpuUtilization.setPrefix, OpenConfigNpuUtilization.entries,
      message.npuUtilStats⟩
  | firewall message =>
    ⟨_, OpenConfigFirewall.setPrefix, OpenConfigFirewall.entries, message.firewallStats⟩
  | packetStats message =>
    .onLineCard (fun pfe => OpenConfigPacketStats.setPrefix pfe.pfeIdentifier)
      (fun pfe => pfe.packetStats.flatMap OpenConfigPacketStats.entry) message.packetStatsPfe
      (OpenConfigPacketStats.setPrefix (lineCardName datap))
      (message.packetStats.flatMap OpenConfigPacketStats.entry)
  | port message =>
    ⟨_, OpenConfigPort.setPrefix, OpenConfigPort.entries, message.interfaceStats⟩
  | logicalPort message =>
    ⟨_, OpenConfigLogicalPort.setPrefix, OpenConfigLogicalPort.entries, message.interfaceInfo⟩
  | npuMem message =>
    ⟨_, OpenConfigNpuMem.setPrefix, OpenConfigNpuMem.entries, message.memoryStats⟩
  | cpuMemoryUtilization message =>
    .onLineCard (fun x : Empty => x.elim) (fun x => x.elim) []
      (OpenConfigCpuMemoryUtilization.setPrefix datap)
      (OpenConfigCpuMemoryUtilization.entries message)
  | optics message =>
    ⟨_, OpenConfigOptics.setPrefix, OpenConfigOptics.entries, message.opticsDiag⟩
  | lspStats message =>
    ⟨_, OpenConfigLspStats.setPrefix, OpenConfigLspStats.entries,
      OpenConfigLspStats.translated message⟩
  | inlineJflow message =>
    .onLineCard
      (fun npu => OpenConfigInlineJflow.setPrefix (OpenConfigInlineJflow.npuName datap npu))
      OpenConfigInlineJflow.npuEntries message.npuStats
      (OpenConfigInlineJflow.setPrefix (lineCardName datap))
      (OpenConfigInlineJflow.cardEntries message)

theorem iterate_eq (sensors : JuniperNetworksSensors) (d : OpenConfigData) :
    sensors.iterate d = d.addKv (sensors.elements d).flat := by
  cases sensors with
  | packetStats m =>
    simp [iterate, elements, OpenConfigPacketStats.iterate, iterateElements_eq]
  | inlineJflow m =>
    simp [iterate, elements, OpenConfigInlineJflow.iterate, iterateElements_eq]
  | cpuMemoryUtilization m =>
    simp [iterate, elements, OpenConfigCpuMemoryUtilization.iterate]
  | lspStats m => exact OpenConfigLspStats.iterate_eq m d
  | npuUtilization m => exact iterateElements_eq _ _ _ d
  | firewall m => exact iterateElements_eq _ _ _ d
  | port m => exact iterateElements_eq _ _ _ d
  | logicalPort m => exact iterateElements_eq _ _ _ d
  | npuMem m => exact iterateElements_eq _ _ _ d
  | optics m => exact iterateElements_eq _ _ _ d

theorem isPrefix_setPrefix (sensors : JuniperNetworksSensors) (d : OpenConfigData)
    (x : (sensors.elements d).ε) : ((sensors.elements d).setPrefix x).isPrefix = true := by
  cases sensors with
  | packetStats m => cases x <;> exact isPrefix_ocSetPrefix _ _ _
  | inlineJflow m => cases x <;> exact isPrefix_ocSetPrefix _ _ _
  | cpuMemoryUtilization m =>
    cases x with
    | none => exact isPrefix_ocSetPrefix _ _ _
    | some x => exact x.elim
  | firewall m => exact isPrefix_ocSetPrefixNoAttr _ _
  | port m => exact isPrefix_ocSetPrefixNoAttr _ _
  | lspStats m => exact isPrefix_ocSetPrefix _ _ _
  | npuUtilization m => exact isPrefix_ocSetPrefix _ _ _
  | logicalPort m => exact isPrefix_ocSetPrefix _ _ _
  | npuMem m => exact isPrefix_ocSetPrefix _ _ _
  | optics m => exact isPrefix_ocSetPrefix _ _ _

/-- All but the packet statistics: their names stand in longer keys. -/
theorem noPrefix_entries (sensors : JuniperNetworksSensors) (d : OpenConfigData)
    (hs : ∀ m, sensors ≠ packetStats m) (x : (sensors.elements d).ε) :
    NoPrefix ((sensors.elements d).entries x) := by
  cases sensors with
  | packetStats m => exact absurd rfl (hs m)
  | inlineJflow m =>
    cases x with
    | none => exact OpenConfigInlineJflow.noPrefix_cardEntries m
    | some x => exact OpenConfigInlineJflow.noPrefix_npuEntries x
  | cpuMemoryUtilization m =>
    cases x with
    | none => exact OpenConfigCpuMemoryUtilization.noPrefix_entries m
    | some x => exact x.elim
  | firewall m => exact OpenConfigFirewall.noPrefix_entries x
  | port m => exact OpenConfigPort.noPrefix_entries x
  | lspStats m => exact OpenConfigLspStats.noPrefix_entries x
  | npuUtilization m => exact OpenConfigNpuUtilization.noPrefix_entries x
  | logicalPort m => exact OpenConfigLogicalPort.noPrefix_entries x
  | npuMem m => exact OpenConfigNpuMem.noPrefix_entries x
  | optics m => exact OpenConfigOptics.noPrefix_entries x

end JuniperNetworksSensors

/-! ## The classes of the packet statistics -/

theorem flatMap_entry (classes : List PacketStatsClass) :
    classes.flatMap OpenConfigPacketStats.entry =
      (classes.filter (·.packetCount ≠ 0)).map fun c => .ofInt c.name c.packetCount := by
  induction classes with
  | nil => rfl
  | cons c classes ih =>
    rw [List.flatMap_cons, ih]
    by_cases hc : c.packetCount = 0
    · rw [OpenConfigPacketStats.entry, if_pos hc, List.filter_cons_of_neg (by simp [hc])]
      rfl
    · rw [OpenConfigPacketStats.entry, if_neg hc, List.filter_cons_of_pos (by simp [hc])]
      rfl

theorem headersLast_flatMap_entry (classes : List PacketStatsClass) :
    HeadersLast KeyValue.isPrefix (classes.flatMap OpenConfigPacketStats.entry) ↔
      PrefixNamesLast classes := by
  rw [flatMap_entry, HeadersLast, List.pairwise_map, PrefixNamesLast]
  simp [KeyValue.isPrefix, prefixKey]

/-- The value of a prefix is a string, that of an entry is an integer. -/
theorem setPrefix_not_mem_flatMap_entry (name : String) (classes : List PacketStatsClass) :
    OpenConfigPacketStats.setPrefix name ∉ classes.flatMap OpenConfigPacketStats.entry := by
  rw [flatMap_entry]
  simp [OpenConfigPacketStats.setPrefix, ocSetPrefix, KeyValue.ofStr, KeyValue.ofInt]

namespace JuniperNetworksSensors

theorem wellFormed_elements (sensors : JuniperNetworksSensors) (d : OpenConfigData) :
    (sensors.elements d).WellFormed := by
  by_cases hs : ∃ m, sensors = packetStats m
  · obtain ⟨m, rfl⟩ := hs
    refine ⟨isPrefix_setPrefix _ d, fun x y => ?_⟩
    cases x <;> cases y <;> exact setPrefix_not_mem_flatMap_entry _ _
  · refine Elements.wellFormed_of_noPrefix (isPrefix_setPrefix sensors d) ?_
    exact noPrefix_entries sensors d fun m hm => hs ⟨m, hm⟩

/-- The condition on a message: it is one on the packet statistics alone. -/
def ClassNamesOk : JuniperNetworksSensors → Prop
  | packetStats message =>
    PrefixNamesLast message.packetStats ∧
      ∀ pfe ∈ message.packetStatsPfe, PrefixNamesLast pfe.packetStats
  | _ => True

/-- For every message and every data: each entry that a translator appends stands below the
    prefix of the element that it was read from, exactly if the classes of packet statistics
    that count are not named `__prefix__`, or not before others in their element. -/
theorem attributes_iff (sensors : JuniperNetworksSensors) (datap : OpenConfigData) :
    (sensors.elements datap).Attributes datap (sensors.iterate datap) ↔
      sensors.ClassNamesOk := by
  rw [iterate_eq, Elements.attributes_addKv_flat_iff (wellFormed_elements sensors datap)]
  by_cases hs : ∃ m, sensors = packetStats m
  · obtain ⟨m, rfl⟩ := hs
    refine (Elements.forall_onLineCard _ _ _ _ _ _).trans ?_
    simp only [headersLast_flatMap_entry, ClassNamesOk]
  · have hok : sensors.ClassNamesOk := by
      cases sensors with
      | packetStats m => exact absurd ⟨m, rfl⟩ hs
      | _ => trivial
    refine iff_of_true (fun x _ => headersLast_of_forall ?_) hok
    exact noPrefix_entries sensors datap (fun m hm => hs ⟨m, hm⟩) x

/-- A class of a PFE that is named `__prefix__`: the packets of the next one are read below
    the empty string. -/
theorem exists_not_attributes : ¬ ∀ (sensors : JuniperNetworksSensors) (datap : OpenConfigData),
    (sensors.elements datap).Attributes datap (sensors.iterate datap) := by
  intro h
  obtain ⟨-, -, -, hkeys⟩ :=
    h (.packetStats { packetStatsPfe := [⟨"FPC0:NPU0", [⟨"__prefix__", 5⟩, ⟨"ttl", 7⟩]⟩] }) {}
  exact absurd hkeys (by decide)

end JuniperNetworksSensors

end TelemetryAgent
