/-
  The document that the generator adds for a subscription, read back without its tags.

  `generated_iff`: it describes one sensor with the path, the filter, the id and the names of
  the request exactly when neither the path string nor the filter holds the marker `@name@`. The
  marker stands for a key of the templates, but the generator replaces it in the whole text.
-/
import TelemetryAgent.Junos.RoundTrip

namespace TelemetryAgent

open TelemetryAgent.Lib JsonUtils JunosTelemetryJson AgentSystemProc

variable {ν : Type} {lib : Jsoncpp ν}

namespace JunosTelemetryJsonGenerator

/-- The text between the two tags. -/
def withoutTags (s : String) : List Char :=
  (s.toList.drop openTag.length).take (s.toList.length - openTag.length - closeTag.length)

theorem withoutTags_tagged (w : List Char) : withoutTags (tagged w) = w := by
  have h : (openTag ++ (w ++ closeTag)).length - openTag.length - closeTag.length = w.length := by
    simp only [List.length_append]
    omega
  rw [withoutTags, tagged_eq, String.toList_ofList, List.drop_left, h, List.take_left]

/-- The sensors of a configuration. -/
def sensors (json : Json ν) : Option (List (Json ν)) := do
  let json ← json.key "configuration"
  let json ← json.key "services"
  let json ← json.key "analytics"
  let json ← json.key "sensor"
  json.items?

/-- The values that the templates hold for the setters to replace. -/
def placeholders : List String :=
  ["__EXPORT_PROFILE_NAME__", "__TRANSPORT__", "__STREAMING_SERVER_NAME__", "__GRPC_UDP_IP__",
    "__GRPC_UDP_PORT__", "__SENSOR_NAME__", "__PATH_path__", "__PATH_filter__",
    "__PATH_sample_frequency__", "__INTERNAL_SUBSCRIPTION_ID__"]

/-- The members of the sensor of a subscription. -/
structure Describes (ms : List (String × Json ν)) (id : Nat) (path : Path) : Prop where
  resource : ms.lookup "resource" = some (.str path.path)
  resourceFilter :
    ms.lookup "resource-filter" = if path.filter = "" then none else some (.str path.filter)
  subscriptionId : ms.lookup "subscription-id" = some (.str (toString id))
  name : ms.lookup "name" = some (.str ("sensor_" ++ toString id))
  exportName : ms.lookup "export-name" = some (.str ("export_" ++ toString id))
  marker : ms.lookup "@name@" = none

/-- The generated document describes the sensor, and a placeholder in it is a string that the
    generator was given. -/
def Generated (lib : Jsoncpp ν) (udp : Bool) (ip : String) (port id : Nat) (path : Path) : Prop :=
  ∃ text json ms, generateJsonJunosConfig lib true udp ip port id path = some text ∧
    lib.parse (withoutTags text) = some json ∧ sensors json = some [.obj ms] ∧
    Describes ms id path ∧
    ∀ t ∈ json.strings, t ∈ placeholders →
      t = path.path ∨ t = path.filter ∨ (udp = true ∧ t = ip)

/-- What the reader makes of the generated document. -/
theorem parse_generated (hl : lib.Lawful) (ht : ReadsTemplates lib) (add udp : Bool) (ip : String)
    (port id : Nat) (path : Path) :
    ∃ text, generateJsonJunosConfig lib add udp ip port id path = some text ∧
      lib.parse (withoutTags text) =
        some (analytics (readConfig replaceName add udp ip port id path)) :=
  ⟨_, generate_eq_tagged hl ht add udp ip port id path, by
    rw [withoutTags_tagged, hl.parse_write, normalize_junosConfig renames_replaceName]⟩

theorem sensors_readConfig (f : List Char → List Char) (udp : Bool) (ip : String) (port id : Nat)
    (path : Path) :
    sensors (analytics (readConfig f true udp ip port id path) : Json ν) =
      some [.obj (readSensor f udp id path)] := by
  have h := lookup_sensor_readConfig (ν := ν) f udp ip port id path
  simp only [sensors, analytics, Json.key, lookup_cons, if_true, Option.getD_some,
    Option.bind_eq_bind, Option.bind_some, h, Json.items?]

theorem ofList_replaceName_eq_iff (s : String) :
    String.ofList (replaceName s.toList) = s ↔ ¬ "@name@".toList <:+: s.toList := by
  rw [← String.toList_inj, String.toList_ofList]
  exact replaceAll_eq_self_iff (by decide) (by decide)

theorem lookup_readSensor (f : List Char → List Char) (udp : Bool) (id : Nat) (path : Path)
    (k : String) :
    (readSensor f udp id path : List (String × Json ν)).lookup k =
      if k = "export-name" then some (.str ("export_" ++ toString id))
      else if k = "name" then some (.str ("sensor_" ++ toString id))
      else if k = "reporting-rate" then
        some (.str (toString (millisecsToSecs path.sampleFrequency).toNat))
      else if k = "resource" then some (.str (.ofList (f path.path.toList)))
      else if k = "resource-filter" then
        if path.filter = "" then none else some (.str (.ofList (f path.filter.toList)))
      else if k = "server-name" then
        if udp then some (.str grpcUdpCollectorName) else none
      else if k = "subscription-id" then some (.str (toString id))
      else none := by
  unfold readSensor
  cases udp <;> by_cases hf : path.filter = "" <;>
    simp only [hf, if_true, if_false, Bool.false_eq_true, List.append_nil, List.cons_append,
      List.nil_append, lookup_cons, List.lookup_nil] <;>
    split_ifs <;> simp_all

theorem describes_readSensor_iff (udp : Bool) (id : Nat) (path : Path) :
    Describes (readSensor replaceName udp id path : List (String × Json ν)) id path ↔
      ¬ "@name@".toList <:+: path.path.toList ∧ ¬ "@name@".toList <:+: path.filter.toList := by
  rw [← ofList_replaceName_eq_iff, ← ofList_replaceName_eq_iff]
  constructor
  · intro h
    have h1 := h.resource
    have h2 := h.resourceFilter
    simp only [lookup_readSensor, String.reduceEq, if_true, if_false, Option.some.injEq,
      Json.str.injEq] at h1 h2
    refine ⟨h1, ?_⟩
    by_cases hf : path.filter = ""
    · rw [hf]
      exact (ofList_replaceName_eq_iff "").mpr (by decide)
    · simpa [hf] using h2
  · rintro ⟨h1, h2⟩
    constructor <;> simp [lookup_readSensor, h1, h2]

/-- A string that the generator changes is none of the placeholders. -/
theorem ofList_replaceName_eq_of_mem {s : String}
    (h : String.ofList (replaceName s.toList) ∈ placeholders) :
    String.ofList (replaceName s.toList) = s := by
  rw [ofList_replaceName_eq_iff]
  intro hi
  have hin : "name".toList <:+: replaceName s.toList := infix_replaceAll (by decide) hi
  rw [← String.toList_ofList (l := replaceName s.toList)] at hin
  have hno : ∀ t ∈ placeholders, ¬ "name".toList <:+: t.toList := by decide
  exact hno _ h hin

theorem append_toString_not_mem (s : String) (n : Nat) : s ++ toString n ∉ placeholders := by
  intro hm
  have hall : (placeholders.all fun t => t.toList.all fun c => !c.isDigit) = true := by decide
  have hno : ∀ t ∈ placeholders, ∀ c ∈ t.toList, c.isDigit = false := by
    simpa only [List.all_eq_true, Bool.not_eq_true'] using hall
  obtain ⟨c, l, hcl⟩ := List.exists_cons_of_ne_nil (Nat.toDigits_ne_nil (n := n) (b := 10))
  have hc : c ∈ (toString n).toList := by
    change c ∈ n.repr.toList
    rw [Nat.toList_repr, hcl]
    exact List.mem_cons_self
  have hdig := isDigit_of_mem_toString hc
  rw [hno _ hm c (by rw [String.toList_append]; exact List.mem_append_right _ hc)] at hdig
  exact absurd hdig (by decide)

theorem toString_not_mem (n : Nat) : toString n ∉ placeholders := by
  have h := append_toString_not_mem "" n
  rwa [String.empty_append] at h

/-- The strings that the generator takes from the templates. -/
def ownStrings : List String :=
  ["configuration", "services", "analytics", "export-profile", "sensor", "streaming-server", "name",
    "transport", "udp", "grpc", "export-name", "reporting-rate", "resource", "resource-filter",
    "server-name", "subscription-id", "remote-address", "remote-port", "grpc_udp_collector"]

theorem ownStrings_not_mem : ∀ a ∈ ownStrings, a ∉ placeholders := by decide

theorem strings_readConfig (udp : Bool) (ip : String) (port id : Nat) (path : Path) (t : String)
    (hmem : t ∈ (analytics (readConfig replaceName true udp ip port id path) : Json ν).strings)
    (ht : t ∈ placeholders) :
    t = path.path ∨ t = path.filter ∨ (udp = true ∧ t = ip) := by
  have hlit : ∀ a, a ∉ placeholders → t ≠ a := fun a ha he => ha (he ▸ ht)
  have hnum : ∀ n, t ≠ toString n := fun n => hlit _ (toString_not_mem n)
  have hname : ∀ a n, t ≠ a ++ toString n := fun a n => hlit _ (append_toString_not_mem a n)
  have hval : ∀ s : String, t = String.ofList (replaceName s.toList) → t = s :=
    fun s hs => hs.trans (ofList_replaceName_eq_of_mem (hs ▸ ht))
  have hown : ∀ a ∈ ownStrings, t ≠ a := fun a ha => hlit a (ownStrings_not_mem a ha)
  simp only [ownStrings, List.forall_mem_cons] at hown
  cases udp <;> by_cases hf : path.filter = "" <;>
    simp only [analytics, readConfig, readSensor, entry, Json.strings, Json.stringsMembers,
      Json.stringsItems, grpcUdpCollectorName, hf, hown, hnum, hname, if_true, if_false,
      Bool.false_eq_true, Bool.and_true, List.append_nil, List.cons_append, List.nil_append,
      List.mem_cons, List.not_mem_nil, false_or, or_false] at hmem
  · exact .inl (hval _ hmem)
  · obtain h | h := hmem
    · exact .inl (hval _ h)
    · exact .inr (.inl (hval _ h))
  · obtain h | h := hmem
    · exact .inl (hval _ h)
    · exact .inr (.inr ⟨rfl, hval _ h⟩)
  · obtain h | h | h := hmem
    · exact .inl (hval _ h)
    · exact .inr (.inl (hval _ h))
    · exact .inr (.inr ⟨rfl, hval _ h⟩)

theorem generated_iff (hl : lib.Lawful) (ht : ReadsTemplates lib) (udp : Bool) (ip : String)
    (port id : Nat) (path : Path) :
    Generated lib udp ip port id path ↔
      ¬ "@name@".toList <:+: path.path.toList ∧ ¬ "@name@".toList <:+: path.filter.toList := by
  obtain ⟨text, htext, hparse⟩ := parse_generated hl ht true udp ip port id path
  have hsensors := sensors_readConfig (ν := ν) replaceName udp ip port id path
  rw [← describes_readSensor_iff (ν := ν) udp id path]
  constructor
  · rintro ⟨text', json, ms, htext', hparse', hms, hdesc, -⟩
    rw [htext, Option.some.injEq] at htext'
    rw [← htext', hparse, Option.some.injEq] at hparse'
    rw [← hparse', hsensors, Option.some.injEq, List.cons.injEq, Json.obj.injEq] at hms
    rwa [hms.1]
  · intro hdesc
    exact ⟨text, _, _, htext, hparse, hsensors, hdesc,
      fun t hm hp => strings_readConfig udp ip port id path t hm hp⟩

theorem generated_iff_firewall :
    Generated plainJsoncpp false "0.0.0.0" 10000 1000 { path := "firewall" } :=
  (generated_iff plainJsoncpp_lawful plainJsoncpp_readsTemplates _ _ _ _ _).mpr
    ⟨by decide, by decide⟩

/-- The path string `@name@` comes out as `name`. -/
theorem not_generated_marker :
    ¬ Generated plainJsoncpp false "0.0.0.0" 10000 1000 { path := "@name@" } := by
  rintro ⟨text', json, ms, htext', hparse', hms, hdesc, -⟩
  obtain ⟨text, htext, hparse⟩ := parse_generated plainJsoncpp_lawful
    plainJsoncpp_readsTemplates true false "0.0.0.0" 10000 1000 { path := "@name@" }
  rw [htext, Option.some.injEq] at htext'
  rw [← htext', hparse, Option.some.injEq] at hparse'
  rw [← hparse', sensors_readConfig, Option.some.injEq, List.cons.injEq, Json.obj.injEq] at hms
  rw [← hms.1, describes_readSensor_iff] at hdesc
  exact absurd hdesc.1 (by decide)

end JunosTelemetryJsonGenerator

end TelemetryAgent
