/-
  `systemGet` after `systemAdd`.

  The generator wraps the document in two tags, and `systemGet` removes the tags wherever they
  stand, in the strings of the document too (`stripTags_tagged`). What it reads back is the
  path string without markers and tags, cut at a NUL, and the reporting rate in seconds
  (`pathOfConfig_tagged`).

  `returned_of_systemAdd_iff`: `systemGet` answers the path string and the sample frequency that
  were added exactly when the frequency is zero and the path string holds no marker, no tag and
  no NUL. The reporting rate is never turned back into milliseconds.
-/
import TelemetryAgent.Junos.AgentSystemProc
import TelemetryAgent.Junos.PlainJsoncpp

namespace TelemetryAgent

open Std TelemetryAgent.Lib JsonUtils JunosTelemetryJson JunosTelemetryJsonGenerator

variable {ν : Type} {lib : Jsoncpp ν}

namespace AgentSystemProc

/-! ## The tags -/

def openTag : List Char := "<configuration-json>".toList

def closeTag : List Char := "</configuration-json>".toList

/-- What `systemGet` does to a text. -/
def removeTags (s : List Char) : List Char := replaceAll closeTag [] (replaceAll openTag [] s)

/-- What becomes of a string on its way through both. -/
def decodeText (s : List Char) : List Char := removeTags (replaceName s)

theorem sealed_openTag (hl : lib.Lawful) : Json.Sealed lib.toSpelling openTag (by decide) :=
  hl.sealed (by decide) (List.all_eq_true.mp (by decide)) (by decide) (by decide) (by decide)

theorem sealed_closeTag (hl : lib.Lawful) : Json.Sealed lib.toSpelling closeTag (by decide) :=
  hl.sealed (by decide) (List.all_eq_true.mp (by decide)) (by decide) (by decide) (by decide)

/-- A document between the two tags. -/
def tagged (w : List Char) : String :=
  "<configuration-json>" ++ .ofList w ++ "</configuration-json>"

theorem tagged_eq (w : List Char) : tagged w = .ofList (openTag ++ (w ++ closeTag)) := by
  have h : ∀ a b : String, a ++ .ofList w ++ b = .ofList (a.toList ++ (w ++ b.toList)) := by
    intro a b
    rw [String.ofList_append, String.ofList_append, String.ofList_toList, String.ofList_toList,
      String.append_assoc]
  exact h _ _

theorem stripTags_tagged (hl : lib.Lawful) (j : Json ν) :
    stripTags (tagged (j.write lib.toSpelling)) =
      .ofList ((j.mapText removeTags).write lib.toSpelling) := by
  have hopen := Json.replaceAll_write (r := []) (sealed_openTag hl) (by simp) j closeTag
  have hclose := Json.replaceAll_write (r := []) (sealed_closeTag hl) (by simp)
    (j.mapText (replaceAll openTag [])) closeTag
  have hrest : replaceAll openTag [] closeTag = closeTag := replaceAll_of_not_infix (by decide)
  have hend : replaceAll closeTag [] closeTag = [] := replaceAll_self (by decide)
  rw [hrest] at hopen
  rw [hend, List.append_nil, Json.mapText_mapText] at hclose
  rw [stripTags, tagged_eq, AgentUtils.searchNReplaceString_ofList (by decide),
    AgentUtils.searchNReplaceString_ofList (by decide)]
  change String.ofList (replaceAll closeTag [] (replaceAll openTag [] (openTag ++ _))) = _
  rw [replaceAll_occurrence (by decide), List.nil_append, hopen, hclose]
  rfl

theorem renames_decodeText : Renames decodeText where
  name := by
    rw [decodeText, removeTags, renames_replaceName.name,
      replaceAll_of_head_not_mem (p := openTag) (by decide) (by decide),
      replaceAll_of_head_not_mem (p := closeTag) (by decide) (by decide)]
  other s h1 h2 := by
    have hname : replaceName s = s := replaceAll_of_not_infix h1
    rw [decodeText, removeTags, hname, replaceAll_of_head_not_mem (p := openTag) (by decide) h2,
      replaceAll_of_head_not_mem (p := closeTag) (by decide) h2]

/-! ## What is read back -/

theorem sensorString_analytics (ms : List (String × Json ν)) (ms' : List (String × Json ν))
    (hms : ms.lookup "sensor" = some (.arr [.obj ms'])) (k : String) (v : String)
    (hv : ms'.lookup k = some (.str v)) :
    sensorString (analytics ms) k = some (cString v.toList) := by
  simp [sensorString, analytics, Json.key, Json.idx, Json.str?, hms, hv]

theorem ofInt_toNat (n : UInt32) : UInt32.ofInt (n.toNat : Int) = n := by
  have hlt := n.toNat_lt
  have h : ((n.toNat : Int) % 2 ^ 32).toNat = n.toNat := by omega
  rw [UInt32.ofInt, h, UInt32.ofNat_toNat]

theorem stoi_cString_toString (n : UInt32) (h : n.toNat < 2 ^ 31) :
    stoi (cString (toString n.toNat).toList) = some (n.toNat : Int) := by
  have hnul : '\x00' ∉ (toString n.toNat).toList :=
    fun hc => absurd (isDigit_of_mem_toString hc) (by decide)
  rw [cString_eq_self_iff.mpr hnul, stoi_toString h]

theorem lookup_sensor_readConfig (f : List Char → List Char) (udp : Bool) (ip : String)
    (port id : Nat) (path : Path) :
    (readConfig f true udp ip port id path : List (String × Json ν)).lookup "sensor" =
      some (.arr [.obj (readSensor f udp id path)]) := by
  simp [readConfig, readSensor, entry, lookup_cons]

theorem pathOfConfig_tagged (hl : lib.Lawful) (udp : Bool) (ip : String) (port id : Nat)
    (path : Path) :
    pathOfConfig lib (tagged (((analytics (junosConfig true udp ip port id path)).mapText
        replaceName).write lib.toSpelling)) =
      some { path := .ofList (cString (decodeText path.path.toList))
             sampleFrequency := path.sampleFrequency / 1000 } := by
  have hconfig := normalize_junosConfig (ν := ν) renames_decodeText true udp ip port id path
  have hsensor := lookup_sensor_readConfig (ν := ν) decodeText udp ip port id path
  have hrate : (millisecsToSecs path.sampleFrequency).toNat < 2 ^ 31 := by
    have := path.sampleFrequency.toNat_lt
    rw [millisecsToSecs, UInt32.toNat_div]
    simp only [UInt32.reduceToNat]
    omega
  rw [pathOfConfig, stripTags_tagged hl, parseStringToJsonObj, String.toList_ofList,
    hl.parse_write, Json.mapText_mapText]
  change (do
    let json ← some (((analytics (junosConfig true udp ip port id path)).mapText decodeText).normalize)
    _) = _
  rw [hconfig]
  simp only [Option.bind_eq_bind, Option.bind_some]
  rw [sensorString_analytics _ _ hsensor "resource" (.ofList (decodeText path.path.toList))
      (by simp [readSensor, lookup_cons]),
    sensorString_analytics _ _ hsensor "reporting-rate"
      (toString (millisecsToSecs path.sampleFrequency).toNat) (by simp [readSensor, lookup_cons]),
    Option.bind_some, Option.bind_some, stoi_cString_toString _ hrate, Option.bind_some,
    ofInt_toNat, String.toList_ofList]
  rfl

theorem generate_eq_tagged (hl : lib.Lawful) (ht : ReadsTemplates lib) (add udp : Bool)
    (ip : String) (port id : Nat) (path : Path) :
    generateJsonJunosConfig lib add udp ip port id path =
      some (tagged (((analytics (junosConfig add udp ip port id path)).mapText replaceName).write
        lib.toSpelling)) :=
  generateJsonJunosConfig_eq hl ht add udp ip port id path

variable {config : GlobalConfig} {s s' : AgentSystemProc (Option EphConfigDB)} {id : Nat}
  {path : Path}

theorem systemGet_of_systemAdd (hl : lib.Lawful) (ht : ReadsTemplates lib)
    (hadd : s.systemAdd mgdServerRpc config lib id path = some (true, s')) :
    s'.systemGet mgdServerRpc config lib id =
      some (some { path := .ofList (cString (decodeText path.path.toList))
                   sampleFrequency := path.sampleFrequency / 1000 }, s') := by
  obtain ⟨hp, json, db, hjson, -, hd⟩ := systemAdd_ok hadd
  rw [junosConfigFor, generate_eq_tagged hl ht, Option.some.injEq] at hjson
  rw [systemGet_of_stored hp hd (by rw [ExtTreeMap.getElem?_insert_self]), ← hjson,
    pathOfConfig_tagged hl]
  rfl

/-! ## When the path comes back -/

/-- Nothing in the string is taken for a marker, a tag or the end of a C string. -/
def Untouched (s : List Char) : Prop :=
  ¬ "@name@".toList <:+: s ∧ ¬ openTag <:+: s ∧ ¬ closeTag <:+: s ∧ '\x00' ∉ s

instance (s : List Char) : Decidable (Untouched s) := by unfold Untouched; infer_instance

/-- Each replacement shortens a string or leaves it alone, so the string comes back only if
    all of them leave it alone. -/
theorem cString_decodeText_eq_iff (s : List Char) : cString (decodeText s) = s ↔ Untouched s := by
  constructor
  · intro h
    have hlen : (cString (decodeText s)).length = s.length := by rw [h]
    have h1 : (replaceName s).length ≤ s.length := length_replaceAll_le (by decide) (by decide) s
    have h2 : (replaceAll openTag [] (replaceName s)).length ≤ (replaceName s).length :=
      length_replaceAll_le (by decide) (by decide) _
    have h3 : (decodeText s).length ≤ (replaceAll openTag [] (replaceName s)).length :=
      length_replaceAll_le (by decide) (by decide) _
    have h4 := length_cString_le (decodeText s)
    have hname : ¬ "@name@".toList <:+: s := by
      intro hi
      have : (replaceName s).length < s.length := length_replaceAll_lt (by decide) (by decide) hi
      omega
    have hname' : replaceName s = s := replaceAll_of_not_infix hname
    rw [hname'] at h2 h3
    have hopen : ¬ openTag <:+: s := by
      intro hi
      have : (replaceAll openTag [] s).length < s.length :=
        length_replaceAll_lt (by decide) (by decide) hi
      omega
    have hopen' : replaceAll openTag [] s = s := replaceAll_of_not_infix hopen
    rw [hopen'] at h3
    have hdecode : decodeText s = replaceAll closeTag [] s := by
      rw [decodeText, removeTags, hname', hopen']
    have hclose : ¬ closeTag <:+: s := by
      intro hi
      have : (replaceAll closeTag [] s).length < s.length :=
        length_replaceAll_lt (by decide) (by decide) hi
      rw [← hdecode] at this
      omega
    rw [hdecode, replaceAll_of_not_infix hclose] at h
    exact ⟨hname, hopen, hclose, cString_eq_self_iff.mp h⟩
  · rintro ⟨hname, hopen, hclose, hnul⟩
    rw [decodeText, removeTags, replaceName, replaceAll_of_not_infix hname,
      replaceAll_of_not_infix hopen, replaceAll_of_not_infix hclose, cString_eq_self_iff.mpr hnul]

/-- `systemGet` answers the path string and the sample frequency of `path`. -/
def Returned (lib : Jsoncpp ν) (config : GlobalConfig) (s : AgentSystemProc (Option EphConfigDB))
    (id : Nat) (path : Path) : Prop :=
  ∃ q s', s.systemGet mgdServerRpc config lib id = some (some q, s') ∧ q.path = path.path ∧
    q.sampleFrequency = path.sampleFrequency

theorem div_thousand_eq_self {n : UInt32} : n / 1000 = n ↔ n = 0 := by
  rw [← UInt32.toNat_inj, ← UInt32.toNat_inj, UInt32.toNat_div]
  simp only [UInt32.reduceToNat]
  omega

theorem returned_of_systemAdd_iff (hl : lib.Lawful) (ht : ReadsTemplates lib)
    (hadd : s.systemAdd mgdServerRpc config lib id path = some (true, s')) :
    Returned lib config s' id path ↔ path.sampleFrequency = 0 ∧ Untouched path.path.toList := by
  have hget := systemGet_of_systemAdd hl ht hadd
  have hpath : String.ofList (cString (decodeText path.path.toList)) = path.path ↔
      Untouched path.path.toList := by
    rw [← cString_decodeText_eq_iff, ← String.toList_inj, String.toList_ofList]
  rw [← hpath, ← div_thousand_eq_self, and_comm]
  constructor
  · rintro ⟨q, s1, hq, h1, h2⟩
    rw [hget, Option.some.injEq, Prod.mk.injEq, Option.some.injEq] at hq
    obtain ⟨rfl, -⟩ := hq
    exact ⟨h1, h2⟩
  · rintro ⟨h1, h2⟩
    exact ⟨_, _, hget, h1, h2⟩

/-- The agent off the box with the settings it starts with, and a device with nothing stored. -/
def freshProc : AgentSystemProc (Option EphConfigDB) := { device := some ∅ }

theorem exists_systemAdd_freshProc (id : Nat) (path : Path) :
    ∃ s', freshProc.systemAdd mgdServerRpc {} plainJsoncpp id path = some (true, s') :=
  systemAdd_of_passes (fun _ => ⟨rfl, rfl⟩) rfl
    (generate_eq_tagged plainJsoncpp_lawful plainJsoncpp_readsTemplates _ _ _ _ _ _)

theorem returned_of_systemAdd_firewall :
    ∃ s', freshProc.systemAdd mgdServerRpc {} plainJsoncpp 1000 { path := "firewall" } =
        some (true, s') ∧
      Returned plainJsoncpp {} s' 1000 { path := "firewall" } := by
  obtain ⟨s', hadd⟩ := exists_systemAdd_freshProc 1000 { path := "firewall" }
  exact ⟨s', hadd, (returned_of_systemAdd_iff plainJsoncpp_lawful plainJsoncpp_readsTemplates
    hadd).mpr ⟨rfl, by decide⟩⟩

/-- Two seconds come back as two milliseconds. -/
theorem not_returned_two_seconds :
    ∃ s', freshProc.systemAdd mgdServerRpc {} plainJsoncpp 1000
          { path := "firewall", sampleFrequency := 2000 } = some (true, s') ∧
      ¬ Returned plainJsoncpp {} s' 1000 { path := "firewall", sampleFrequency := 2000 } := by
  obtain ⟨s', hadd⟩ :=
    exists_systemAdd_freshProc 1000 { path := "firewall", sampleFrequency := 2000 }
  refine ⟨s', hadd, ?_⟩
  rintro ⟨q, s1, hq, -, hfreq⟩
  rw [systemGet_of_systemAdd plainJsoncpp_lawful plainJsoncpp_readsTemplates hadd,
    Option.some.injEq, Prod.mk.injEq, Option.some.injEq] at hq
  obtain ⟨rfl, -⟩ := hq
  exact absurd hfreq (by decide)

end AgentSystemProc

end TelemetryAgent
