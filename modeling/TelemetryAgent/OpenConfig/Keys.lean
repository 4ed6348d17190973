/-
  The keys and the prefixes that a translator emits: when no two of them are the same.

  A collector takes two leaves with one full key for one leaf, and two groups with one prefix
  for one element. The names in a key are written between delimiters and are not escaped.

  * `nodup_fullKeys_lspStats_iff`: the instance of a record is in no key.
  * `nodup_fullKeys_npuMem_iff`: the name of a partition is in no key.
  * `nodup_prefixes_inlineJflow_iff`: an NPU goes by four bits.
  * `nodup_prefixes_logicalPort_iff`: a name without a `.` is that of unit 0.
-/
import Std.Data.String.ToNat
import TelemetryAgent.Lib.Delimited
import TelemetryAgent.OpenConfig.Attribution

namespace TelemetryAgent

open Lib OpenConfigData

/-! ## What is emitted -/

/-- The entries that a translator appends to the data. -/
def emitted (iterate : OpenConfigData → OpenConfigData) (datap : OpenConfigData) :
    List KeyValue :=
  (iterate datap).kv.drop datap.kv.length

/-- The full keys of the leaves: the current prefix followed by the key. -/
def fullKeys (l : List KeyValue) : List String := (finalKeys l).map Prod.fst

/-- The values of the prefixes. -/
def emittedPrefixes (l : List KeyValue) : List String :=
  (l.filter KeyValue.isPrefix).map KeyValue.strValue

theorem emitted_of_eq {iterate : OpenConfigData → OpenConfigData} {d : OpenConfigData}
    {l : List KeyValue} (h : iterate d = d.addKv l) : emitted iterate d = l := by
  rw [emitted, h, kv_addKv, List.drop_left]

section Flat

variable {ε : Type} {setPrefix : ε → KeyValue} {entries : ε → List KeyValue}

theorem fullKeys_flat (hp : ∀ x, (setPrefix x).isPrefix = true) (hn : ∀ x, NoPrefix (entries x))
    (elements : List ε) :
    fullKeys (flat setPrefix entries elements) =
      elements.flatMap fun x => (entries x).map fun kv => (setPrefix x).strValue ++ kv.key := by
  have hl : ∀ x ∈ elements, HeadersLast KeyValue.isPrefix (entries x) := fun x _ =>
    headersLast_of_forall (hn x)
  have hfilter : ∀ x, (entries x).filter (!KeyValue.isPrefix ·) = entries x := fun x =>
    List.filter_eq_self.mpr fun kv hkv => by simp [hn x kv hkv]
  rw [fullKeys, finalKeys, readFlat_flat hp hl, List.map_map, List.map_flatMap]
  simp only [hfilter, List.map_map]
  rfl

theorem emittedPrefixes_flat (hp : ∀ x, (setPrefix x).isPrefix = true)
    (hn : ∀ x, NoPrefix (entries x)) (elements : List ε) :
    emittedPrefixes (flat setPrefix entries elements) =
      elements.map fun x => (setPrefix x).strValue := by
  have hfilter : ∀ x, (entries x).filter KeyValue.isPrefix = [] := fun x =>
    List.filter_eq_nil_iff.mpr fun kv hkv => by simp [hn x kv hkv]
  induction elements with
  | nil => rfl
  | cons x elements ih =>
    rw [emittedPrefixes] at ih ⊢
    rw [flat_cons, List.filter_cons_of_pos (hp x), List.filter_append, hfilter,
      List.nil_append, List.map_cons, ih, List.map_cons]

end Flat

/-! ## Keys with a `/` before the last part -/

theorem slash_inj {a b x y : String} (hb : '/' ∉ b.toList) (hy : '/' ∉ y.toList) :
    a ++ "/" ++ b = x ++ "/" ++ y ↔ a = x ∧ b = y := by
  have h := append_separator_inj (x := a.toList) (y := x.toList) hb hy
  rw [String.toList_inj, String.toList_inj] at h
  rw [← h, ← String.toList_inj]
  simp

/-- The keys of groups of leaves, each group with the same names for its leaves. -/
theorem nodup_flatMap_slash {ι : Type*} {f : ι → String} {labels : List String}
    (hne : labels ≠ []) (hnd : labels.Nodup) (hs : ∀ g ∈ labels, '/' ∉ g.toList) (l : List ι) :
    (l.flatMap fun x => labels.map fun g => f x ++ "/" ++ g).Nodup ↔ (l.map f).Nodup := by
  rw [← nodup_flatMap_labels hne hnd, ← nodup_map_iff_of_injOn
    (f := fun p : String × String => p.1 ++ "/" ++ p.2)]
  · rw [List.map_flatMap]
    simp only [List.map_map]
    rfl
  · intro p hp q hq he
    obtain ⟨x, -, hx⟩ := List.mem_flatMap.mp hp
    obtain ⟨g, hg, rfl⟩ := List.mem_map.mp hx
    obtain ⟨y, -, hy⟩ := List.mem_flatMap.mp hq
    obtain ⟨g', hg', rfl⟩ := List.mem_map.mp hy
    obtain ⟨hf, hgg⟩ := (slash_inj (hs g hg) (hs g' hg')).mp he
    exact Prod.ext hf hgg

/-! ## Label-switched paths -/

namespace OpenConfigLspStats

/-- What lsp_stats.proto declares to be the key of a record. -/
def declaredKey (record : LspStatsRecord) : String × UInt32 × String :=
  (record.name, record.instanceIdentifier, record.counterName)

/-- What stands in a full key between the name of the path and that of the counter. -/
def delimiter : String := "']/state/counters/"

/-- The text of the two names of a record in its full keys is that of the other record. -/
def SameNames (x y : LspStatsRecord) : Prop :=
  (x.name = y.name ∧ x.counterName = y.counterName) ∨
    Shifts delimiter.toList x.name.toList x.counterName.toList y.name.toList
      y.counterName.toList ∨
    Shifts delimiter.toList y.name.toList y.counterName.toList x.name.toList
      x.counterName.toList

/-- The full key of a leaf of a record, up to the last `/`. -/
def counterPath (record : LspStatsRecord) : String :=
  (setPrefix record).strValue ++ record.counterName

theorem counterPath_eq_iff (x y : LspStatsRecord) :
    counterPath x = counterPath y ↔ SameNames x y := by
  have htext : ∀ r : LspStatsRecord, counterPath r =
      "/mpls/lsps/constrained-path/tunnels/tunnel[name='" ++
        (r.name ++ (delimiter ++ r.counterName)) := by
    intro r
    simp [counterPath, setPrefix, ocSetPrefix, KeyValue.ofStr, KeyValue.strValue, delimiter,
      String.append_assoc]
  rw [htext x, htext y, String.append_right_inj, ← String.toList_inj]
  simp only [String.toList_append]
  rw [append_delimiter_eq_iff, String.toList_inj, String.toList_inj, SameNames]

theorem fullKeys_emitted (m : LspStats) (d : OpenConfigData) :
    fullKeys (emitted (iterate m) d) =
      (translated m).flatMap fun x =>
        ["packets", "bytes"].map fun g => counterPath x ++ "/" ++ g := by
  have hp : ∀ x, (setPrefix x).isPrefix = true := fun x => isPrefix_ocSetPrefix _ _ _
  rw [emitted_of_eq (iterate_eq m d), fullKeys_flat hp noPrefix_entries]
  simp [entries, counterPath, String.append_assoc]

/-- For every message and every data: the full keys of the leaves are pairwise distinct exactly
    if no two of the records with packets have the same names. -/
theorem nodup_fullKeys_lspStats_iff (m : LspStats) (datap : OpenConfigData) :
    (fullKeys (emitted (iterate m) datap)).Nodup ↔
      (translated m).Pairwise fun x y => ¬ SameNames x y := by
  rw [fullKeys_emitted, nodup_flatMap_slash (by decide) (by decide) (by decide), List.Nodup,
    List.pairwise_map]
  simp only [ne_eq, counterPath_eq_iff]

/-- Two instances of one path with one counter. -/
theorem not_nodup_two_instances : ¬ ∀ (m : LspStats) (datap : OpenConfigData),
    (m.lspStatsRecords.map declaredKey).Nodup →
      (fullKeys (emitted (iterate m) datap)).Nodup := by
  intro h
  have hkeys := h ⟨[⟨"lsp1", 0, "c1", 10, 1000⟩, ⟨"lsp1", 1, "c1", 20, 2000⟩]⟩ {} (by decide)
  exact absurd hkeys (by decide)

end OpenConfigLspStats

/-! ## Memory of the NPUs -/

namespace OpenConfigNpuMem

/-- The names in a message are as they should be: the partitions of an NPU differ in their name
    or in their application. -/
structure WellNamed (message : NetworkProcessorMemoryUtilization) : Prop where
  identifiers : (message.memoryStats.map (·.identifier)).Nodup
  resources : ∀ npu ∈ message.memoryStats, (npu.summary.map (·.resourceName)).Nodup
  partitions : ∀ npu ∈ message.memoryStats,
    (npu.partitions.map fun p => (p.name, p.applicationName)).Nodup
  resourceNames : ∀ npu ∈ message.memoryStats, ∀ s ∈ npu.summary, '/' ∉ s.resourceName.toList
  partitionNames : ∀ npu ∈ message.memoryStats, ∀ p ∈ npu.partitions,
    '/' ∉ p.name.toList ∧ '/' ∉ p.applicationName.toList

/-- What is in a full key: the NPU, the kind of the leaf, the name that it has and its label. -/
abbrev Leaf := (String × String × String) × String

def fullKey (leaf : Leaf) : String :=
  baseOcPathComponent ++ "[name='" ++ leaf.1.1 ++ "']/memory" ++ "/" ++ leaf.1.2.1 ++ "/" ++
    leaf.1.2.2 ++ "/" ++ leaf.2

/-- The leaves of one kind: each of the names with each of the labels. -/
def leavesOf (identifier kind : String) (labels names : List String) : List Leaf :=
  names.flatMap fun name => labels.map fun g => ((identifier, kind, name), g)

def summaryLeaves (npu : NpuMemory) : List Leaf :=
  leavesOf npu.identifier "summary" ["size", "allocated", "utilization"]
    ((npu.summary.filter fun s => ¬ s.allocated = 0).map (·.resourceName))

def partitionLeaves (npu : NpuMemory) : List Leaf :=
  leavesOf npu.identifier "partition"
    ["partition_name", "bytes_allocated", "allocation_count", "free_count"]
    ((npu.partitions.filter fun p => ¬ p.bytesAllocated = 0).map (·.applicationName))

def leaves (npu : NpuMemory) : List Leaf := summaryLeaves npu ++ partitionLeaves npu

theorem mem_leavesOf {identifier kind : String} {labels names : List String} {leaf : Leaf}
    (h : leaf ∈ leavesOf identifier kind labels names) :
    ∃ name ∈ names, leaf.1 = (identifier, kind, name) ∧ leaf.2 ∈ labels := by
  obtain ⟨name, hname, hleaf⟩ := List.mem_flatMap.mp h
  obtain ⟨g, hg, rfl⟩ := List.mem_map.mp hleaf
  exact ⟨name, hname, rfl, hg⟩

theorem nodup_leavesOf_iff {labels : List String} (hne : labels ≠ []) (hnd : labels.Nodup)
    (identifier kind : String) (names : List String) :
    (leavesOf identifier kind labels names).Nodup ↔ names.Nodup := by
  rw [leavesOf, nodup_flatMap_labels hne hnd]
  refine nodup_map_iff_of_injOn fun x _ y _ he => ?_
  exact congrArg (fun t => t.2.2) he

theorem fullKeys_emitted (m : NetworkProcessorMemoryUtilization) (d : OpenConfigData) :
    fullKeys (emitted (iterate m) d) = (m.memoryStats.flatMap leaves).map fullKey := by
  have hp : ∀ x, (setPrefix x).isPrefix = true := fun x => isPrefix_ocSetPrefix _ _ _
  have hi : iterate m d = d.addKv (flat setPrefix entries m.memoryStats) :=
    iterateElements_eq _ _ _ d
  rw [emitted_of_eq hi, fullKeys_flat hp noPrefix_entries, List.map_flatMap]
  congr 1
  funext npu
  rw [entries, leaves, List.map_append, List.map_append, summaryLeaves, partitionLeaves, leavesOf,
    leavesOf, List.flatMap_map, List.flatMap_map, ← flatMap_ite_nil, ← flatMap_ite_nil]
  simp only [List.map_flatMap]
  congr 1
  · congr 1
    funext s
    rw [summary]
    split
    · rfl
    · simp [fullKey, setPrefix, ocSetPrefix, KeyValue.ofStr, KeyValue.strValue,
        ← String.toList_inj]
  · congr 1
    funext p
    rw [partition]
    split
    · rfl
    · simp [fullKey, setPrefix, ocSetPrefix, KeyValue.ofStr, KeyValue.strValue,
        ← String.toList_inj]

/-- What the parts of the key after the identifier are free of. -/
def Leaf.NoSlash (leaf : Leaf) : Prop :=
  '/' ∉ leaf.1.2.1.toList ∧ '/' ∉ leaf.1.2.2.toList ∧ '/' ∉ leaf.2.toList

theorem fullKey_inj {x y : Leaf} (hx : x.NoSlash) (hy : y.NoSlash) (h : fullKey x = fullKey y) :
    x = y := by
  obtain ⟨h, hlabel⟩ := (slash_inj hx.2.2 hy.2.2).mp h
  obtain ⟨h, hname⟩ := (slash_inj hx.2.1 hy.2.1).mp h
  obtain ⟨h, hkind⟩ := (slash_inj hx.1 hy.1).mp h
  have hid : x.1.1 = y.1.1 := by
    rw [String.append_left_inj, String.append_right_inj] at h
    exact h
  exact Prod.ext (Prod.ext hid (Prod.ext hkind hname)) hlabel

theorem identifier_of_mem_leaves {npu : NpuMemory} {leaf : Leaf} (h : leaf ∈ leaves npu) :
    leaf.1.1 = npu.identifier := by
  obtain h | h := List.mem_append.mp h
  · obtain ⟨name, -, he, -⟩ := mem_leavesOf h
    rw [he]
  · obtain ⟨name, -, he, -⟩ := mem_leavesOf h
    rw [he]

theorem noSlash_of_mem_leavesOf {identifier kind : String} {labels names : List String}
    (hkind : '/' ∉ kind.toList) (hlabels : ∀ g ∈ labels, '/' ∉ g.toList)
    (hnames : ∀ name ∈ names, '/' ∉ name.toList) {leaf : Leaf}
    (h : leaf ∈ leavesOf identifier kind labels names) : leaf.NoSlash := by
  obtain ⟨name, hname, he, hg⟩ := mem_leavesOf h
  rw [Leaf.NoSlash, he]
  exact ⟨hkind, hnames name hname, hlabels _ hg⟩

theorem WellNamed.noSlash {m : NetworkProcessorMemoryUtilization} (hm : WellNamed m)
    {npu : NpuMemory} (hnpu : npu ∈ m.memoryStats) {leaf : Leaf} (h : leaf ∈ leaves npu) :
    leaf.NoSlash := by
  obtain h | h := List.mem_append.mp h
  · refine noSlash_of_mem_leavesOf (by decide) (by decide) (List.forall_mem_map.mpr ?_) h
    intro s hs
    exact hm.resourceNames npu hnpu s (List.mem_of_mem_filter hs)
  · refine noSlash_of_mem_leavesOf (by decide) (by decide) (List.forall_mem_map.mpr ?_) h
    intro p hp
    exact (hm.partitionNames npu hnpu p (List.mem_of_mem_filter hp)).2

theorem nodup_partitionLeaves_iff (npu : NpuMemory) :
    (partitionLeaves npu).Nodup ↔
      (npu.partitions.filter fun p => ¬ p.bytesAllocated = 0).Pairwise fun x y =>
        x.applicationName ≠ y.applicationName := by
  rw [partitionLeaves, nodup_leavesOf_iff (by decide) (by decide), List.Nodup, List.pairwise_map]

/-- A summary is never a partition, so the partitions decide. -/
theorem nodup_leaves_iff {npu : NpuMemory} (h : (npu.summary.map (·.resourceName)).Nodup) :
    (leaves npu).Nodup ↔ (partitionLeaves npu).Nodup := by
  have hsummary : (summaryLeaves npu).Nodup := by
    rw [summaryLeaves, nodup_leavesOf_iff (by decide) (by decide)]
    exact h.sublist (List.filter_sublist.map _)
  rw [leaves, List.nodup_append', and_iff_right hsummary, and_iff_left]
  intro leaf hs hp
  obtain ⟨name, -, he, -⟩ := mem_leavesOf hs
  obtain ⟨name', -, he', -⟩ := mem_leavesOf hp
  have hkind : "summary" = "partition" := congrArg (fun t => t.2.1) (he.symm.trans he')
  exact absurd hkind (by decide)

theorem nodup_flatMap_leaves_iff {npus : List NpuMemory}
    (h : (npus.map (·.identifier)).Nodup) :
    (npus.flatMap leaves).Nodup ↔ ∀ npu ∈ npus, (leaves npu).Nodup := by
  rw [List.nodup_flatMap, and_iff_left]
  rw [List.Nodup, List.pairwise_map] at h
  refine h.imp ?_
  intro x y hne leaf hx hy
  exact hne ((identifier_of_mem_leaves hx).symm.trans (identifier_of_mem_leaves hy))

/-- For every message whose names are as they should be and every data: the full keys of the
    leaves are pairwise distinct exactly if in no NPU two partitions that have bytes are of one
    application. -/
theorem nodup_fullKeys_npuMem_iff (m : NetworkProcessorMemoryUtilization) (datap : OpenConfigData)
    (hm : WellNamed m) :
    (fullKeys (emitted (iterate m) datap)).Nodup ↔
      ∀ npu ∈ m.memoryStats,
        (npu.partitions.filter fun p => ¬ p.bytesAllocated = 0).Pairwise fun x y =>
          x.applicationName ≠ y.applicationName := by
  have hinj : ∀ x ∈ m.memoryStats.flatMap leaves, ∀ y ∈ m.memoryStats.flatMap leaves,
      fullKey x = fullKey y → x = y := by
    intro x hx y hy
    obtain ⟨npu, hnpu, hx⟩ := List.mem_flatMap.mp hx
    obtain ⟨npu', hnpu', hy⟩ := List.mem_flatMap.mp hy
    exact fullKey_inj (hm.noSlash hnpu hx) (hm.noSlash hnpu' hy)
  rw [fullKeys_emitted, nodup_map_iff_of_injOn hinj, nodup_flatMap_leaves_iff hm.identifiers]
  refine forall₂_congr fun npu hnpu => ?_
  rw [nodup_leaves_iff (hm.resources npu hnpu), nodup_partitionLeaves_iff]

/-- Two partitions with bytes for one application. -/
def sharedApplication : NetworkProcessorMemoryUtilization where
  memoryStats := [
    { identifier := "npu-0/0"
      summary := [⟨"DMEM", 100, 60, 60⟩]
      partitions := [⟨"p1", "FW", 10, 1, 0⟩, ⟨"p2", "FW", 50, 5, 0⟩] }]

theorem wellNamed_sharedApplication : WellNamed sharedApplication where
  identifiers := by decide
  resources := by decide
  partitions := by decide
  resourceNames := by decide
  partitionNames := by decide

theorem nodup_fullKeys_npuMem_iff_sharedApplication :
    (fullKeys (emitted (iterate sharedApplication) {})).Nodup ↔
      ∀ npu ∈ sharedApplication.memoryStats,
        (npu.partitions.filter fun p => ¬ p.bytesAllocated = 0).Pairwise fun x y =>
          x.applicationName ≠ y.applicationName :=
  nodup_fullKeys_npuMem_iff sharedApplication {} wellNamed_sharedApplication

theorem not_nodup_sharedApplication : ¬ ∀ (m : NetworkProcessorMemoryUtilization)
    (datap : OpenConfigData), WellNamed m → (fullKeys (emitted (iterate m) datap)).Nodup := by
  intro h
  exact absurd (h sharedApplication {} wellNamed_sharedApplication) (by decide)

end OpenConfigNpuMem

/-! ## Flows of the NPUs -/

namespace OpenConfigInlineJflow

/-- The fields of `npu_identifier` that inline_jflow.proto declares:
    `<fpcslot><luinst><pfeinst>`, of 8, 4 and 4 bits. -/
def fpcslot (npu : InlineJflowNpuStats) : UInt32 := npu.npuIdentifier >>> 8 &&& 0xff

def pfeinst (npu : InlineJflowNpuStats) : UInt32 := npu.npuIdentifier &&& 0xf

/-- The entries of the NPUs are from one card, and no two are of the same NPU. -/
structure OneCard (message : InlineJflow) (slot : UInt32) : Prop where
  fpcslot : ∀ npu ∈ message.npuStats, fpcslot npu = slot ∧ npu.npuIdentifier < 0x10000
  identifiers : (message.npuStats.map (·.npuIdentifier)).Nodup

theorem pfeinst_lt (npu : InlineJflowNpuStats) : (pfeinst npu).toNat < 256 := by
  have hle : pfeinst npu ≤ 0xf := UInt32.and_le_right
  have hnat := UInt32.le_iff_toNat_le.mp hle
  exact Nat.lt_of_le_of_lt hnat (by decide)

/-- The slot is the same in all names, and the four bits fit into a `u_int8_t`. -/
theorem npuName_eq_iff (d : OpenConfigData) (x y : InlineJflowNpuStats) :
    npuName d x = npuName d y ↔ pfeinst x = pfeinst y := by
  have hname : ∀ npu, npuName d npu =
      "FPC" ++ toString d.componentId.toUInt8 ++ ":" ++ "NPU" ++ (pfeinst npu).toNat.repr := by
    intro npu
    have hnat : (pfeinst npu).toUInt8.toNat = (pfeinst npu).toNat := by
      rw [UInt32.toNat_toUInt8, Nat.mod_eq_of_lt (pfeinst_lt npu)]
    rw [← hnat]
    rfl
  rw [hname x, hname y, String.append_right_inj, Nat.repr_inj, UInt32.toNat_inj]

theorem emittedPrefixes_emitted (m : InlineJflow) (d : OpenConfigData) :
    emittedPrefixes (emitted (iterate m) d) =
      (setPrefix (lineCardName d)).strValue ::
        m.npuStats.map fun npu => (setPrefix (npuName d npu)).strValue := by
  have hi : iterate m d = d.addKv ((JuniperNetworksSensors.inlineJflow m).elements d).flat :=
    JuniperNetworksSensors.iterate_eq (.inlineJflow m) d
  have hp := JuniperNetworksSensors.isPrefix_setPrefix (.inlineJflow m) d
  have hn := JuniperNetworksSensors.noPrefix_entries (.inlineJflow m) d (by simp)
  rw [emitted_of_eq hi, Elements.flat, emittedPrefixes_flat hp hn]
  rw [JuniperNetworksSensors.elements, Elements.onLineCard, List.map_cons, List.map_map]
  rfl

/-- For every message and every data: the prefixes of the NPUs, which are those after the prefix
    of the line card, are pairwise distinct exactly if no two NPUs have the same `pfeinst`. -/
theorem nodup_prefixes_inlineJflow_iff (m : InlineJflow) (datap : OpenConfigData) :
    (emittedPrefixes (emitted (iterate m) datap)).tail.Nodup ↔
      m.npuStats.Pairwise fun x y => pfeinst x ≠ pfeinst y := by
  have hprefix : ∀ a b : String, (setPrefix a).strValue = (setPrefix b).strValue ↔ a = b := by
    intro a b
    simp [setPrefix, ocSetPrefix, KeyValue.ofStr, KeyValue.strValue]
  rw [emittedPrefixes_emitted, List.tail_cons, List.Nodup, List.pairwise_map]
  simp only [ne_eq, hprefix, npuName_eq_iff]

/-- Two lookup units of the card in slot 0, each with its first forwarding engine. -/
theorem not_nodup_two_luinst : ¬ ∀ (m : InlineJflow) (slot : UInt32) (datap : OpenConfigData),
    OneCard m slot → (emittedPrefixes (emitted (iterate m) datap)).tail.Nodup := by
  intro h
  have hcard : OneCard { npuStats := [{ npuIdentifier := 0x00 }, { npuIdentifier := 0x10 }] } 0 :=
    ⟨by decide, by decide⟩
  exact absurd (h _ 0 {} hcard) (by decide)

end OpenConfigInlineJflow

/-! ## Logical interfaces -/

namespace OpenConfigLogicalPort

/-- What stands in a prefix between the name of the port and the unit. -/
def delimiter : String := "']/subinterfaces/subinterface[index='"

/-- Two names have the same port and the same unit. -/
def SameUnit (x y : String) : Prop := splitName x = splitName y

/-- The port and the unit of the one name read on as those of the other. -/
def UnitShifts (x y : String) : Prop :=
  Shifts delimiter.toList (splitName x).1.toList (splitName x).2.toList
    (splitName y).1.toList (splitName y).2.toList

theorem strValue_setPrefix_eq_iff (x y : LogicalInterfaceInfo) :
    (setPrefix x).strValue = (setPrefix y).strValue ↔
      SameUnit x.ifName y.ifName ∨ UnitShifts x.ifName y.ifName ∨
        UnitShifts y.ifName x.ifName := by
  have htext : ∀ r : LogicalInterfaceInfo, (setPrefix r).strValue =
      "/oc-path/interfaces/interface[name='" ++
        ((splitName r.ifName).1 ++ (delimiter ++ (splitName r.ifName).2)) ++ "']/" := by
    intro r
    simp [setPrefix, ocSetPrefix, KeyValue.ofStr, KeyValue.strValue, delimiter,
      ← String.toList_inj]
  rw [htext x, htext y, String.append_left_inj, String.append_right_inj, ← String.toList_inj]
  simp only [String.toList_append]
  rw [append_delimiter_eq_iff, String.toList_inj, String.toList_inj, SameUnit, Prod.ext_iff]
  rfl

/-- For every message and every data: the prefixes are pairwise distinct exactly if no two
    entries have the same port and unit, or have them written in the same text. -/
theorem nodup_prefixes_logicalPort_iff (m : GLogicalPort) (datap : OpenConfigData) :
    (emittedPrefixes (emitted (iterate m) datap)).Nodup ↔
      m.interfaceInfo.Pairwise fun x y =>
        ¬ SameUnit x.ifName y.ifName ∧ ¬ UnitShifts x.ifName y.ifName ∧
          ¬ UnitShifts y.ifName x.ifName := by
  have hp : ∀ x, (setPrefix x).isPrefix = true := fun x => isPrefix_ocSetPrefix _ _ _
  have hi : iterate m datap = datap.addKv (flat setPrefix entries m.interfaceInfo) :=
    iterateElements_eq _ _ _ datap
  rw [emitted_of_eq hi, emittedPrefixes_flat hp noPrefix_entries, List.Nodup, List.pairwise_map]
  simp only [ne_eq, strValue_setPrefix_eq_iff, not_or]

/-- The port itself is reported with the prefix of its unit 0. -/
theorem not_nodup_port_and_unit : ¬ ∀ (m : GLogicalPort) (datap : OpenConfigData),
    (m.interfaceInfo.map (·.ifName)).Nodup →
      (emittedPrefixes (emitted (iterate m) datap)).Nodup := by
  intro h
  have hprefixes := h ⟨[{ ifName := "xe-0/0/0" }, { ifName := "xe-0/0/0.0" }]⟩ {} (by decide)
  exact absurd hprefixes (by decide)

end OpenConfigLogicalPort

end TelemetryAgent
