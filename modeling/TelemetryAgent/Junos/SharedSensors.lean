/-
  Which requests share a sensor.

  `sysdb` shares an entry between requests whose whole paths have the same text. The sensor
  that the generator makes of a path depends on less (`sensorProfile_eq_iff`): on the path
  string and the filter after the renaming, and on the whole seconds of the frequency. So two
  entries may put the same sensor on the device. `distinctSensors_of_run_iff`: no two entries
  do so in any state of a run exactly when every new entry is for a path whose profile
  (`SameProfile`) no entry has yet.
-/
import TelemetryAgent.Consolidator.Ids
import TelemetryAgent.Junos.Generated

namespace TelemetryAgent

open Std TelemetryAgent.Lib JunosTelemetryJson AgentSystemProc

variable {ν : Type} {lib : Jsoncpp ν} {σ : Type}

namespace JunosTelemetryJsonGenerator

/-- What the device streams for a sensor, and how often. -/
structure SensorProfile (ν : Type) where
  resource : Option (Json ν)
  resourceFilter : Option (Json ν)
  reportingRate : Option (Json ν)

def SensorProfile.ofMembers (ms : List (String × Json ν)) : SensorProfile ν where
  resource := ms.lookup "resource"
  resourceFilter := ms.lookup "resource-filter"
  reportingRate := ms.lookup "reporting-rate"

/-- The profile of the sensor in the document generated for an entry. -/
def sensorProfile (config : GlobalConfig) (lib : Jsoncpp ν) (id : Nat) (path : Path) :
    Option (SensorProfile ν) := do
  let text ← junosConfigFor config lib true id path
  let json ← lib.parse (withoutTags text)
  match ← sensors json with
  | [.obj ms] => some (.ofMembers ms)
  | _ => none

/-- The paths agree on all that the generator makes a sensor of. -/
def SameProfile (p q : Path) : Prop :=
  replaceName p.path.toList = replaceName q.path.toList ∧
  replaceName p.filter.toList = replaceName q.filter.toList ∧
  millisecsToSecs p.sampleFrequency = millisecsToSecs q.sampleFrequency

theorem SameProfile.symm {p q : Path} (h : SameProfile p q) : SameProfile q p :=
  ⟨h.1.symm, h.2.1.symm, h.2.2.symm⟩

theorem replaceName_eq_nil_iff (s : String) : replaceName s.toList = [] ↔ s = "" := by
  rw [replaceName, replaceAll_eq_nil_iff (by decide) (by decide), String.toList_eq_nil_iff]

theorem sensorProfile_eq (hl : lib.Lawful) (ht : ReadsTemplates lib) (config : GlobalConfig)
    (id : Nat) (path : Path) :
    sensorProfile config lib id path = some
      { resource := some (.str (.ofList (replaceName path.path.toList)))
        resourceFilter := if path.filter = "" then none
          else some (.str (.ofList (replaceName path.filter.toList)))
        reportingRate := some (.str (toString (millisecsToSecs path.sampleFrequency).toNat)) } := by
  obtain ⟨text, htext, hparse⟩ := parse_generated hl ht true config.udpServerModule
    config.udpServerIp (config.udpServerPort % 2 ^ 32).toNat (id % 2 ^ 32) path
  simp only [sensorProfile, junosConfigFor, htext, hparse, sensors_readConfig,
    Option.bind_eq_bind, Option.bind_some, SensorProfile.ofMembers, lookup_readSensor,
    String.reduceEq, if_true, if_false]

theorem sensorProfile_eq_iff (hl : lib.Lawful) (ht : ReadsTemplates lib) (config : GlobalConfig)
    (id id' : Nat) (p q : Path) :
    sensorProfile config lib id p = sensorProfile config lib id' q ↔ SameProfile p q := by
  have hrate : ∀ a b : UInt32, toString a.toNat = toString b.toNat ↔ a = b := fun a b =>
    Nat.repr_inj.trans UInt32.toNat_inj
  rw [sensorProfile_eq hl ht, sensorProfile_eq hl ht, SameProfile]
  simp only [Option.some.injEq, SensorProfile.mk.injEq, Json.str.injEq, String.ofList_inj, hrate]
  refine and_congr_right fun _ => and_congr_left fun _ => ?_
  by_cases hp : p.filter = "" <;> by_cases hq : q.filter = ""
  · simp [hp, hq]
  · rw [hp, (replaceName_eq_nil_iff "").mpr rfl, eq_comm (a := []), replaceName_eq_nil_iff]
    simp [hq]
  · rw [hq, (replaceName_eq_nil_iff "").mpr rfl, replaceName_eq_nil_iff]
    simp [hp]
  · simp [hp, hq, String.ofList_inj]

end JunosTelemetryJsonGenerator

namespace AgentConsolidator

open AgentConsolidatorSystemHandle JunosTelemetryJsonGenerator

/-- No two entries put sensors of one profile on the device. -/
def DistinctSensors (config : GlobalConfig) (lib : Jsoncpp ν) (c : AgentConsolidator σ) : Prop :=
  ∀ t t' ip ip', c.entry t = some ip → c.entry t' = some ip' → t ≠ t' →
    sensorProfile config lib ip.1 ip.2 ≠ sensorProfile config lib ip'.1 ip'.2

/-- The same, of the paths of the entries. -/
def DistinctProfiles (c : AgentConsolidator σ) : Prop :=
  ∀ t t' ip ip', c.entry t = some ip → c.entry t' = some ip' → SameProfile ip.2 ip'.2 → t = t'

variable {sys : AgentSystem σ} {getMessageString : Path → String} {c c' : AgentConsolidator σ}
  {l : List SystemHandlePtr}

theorem distinctSensors_iff (hl : lib.Lawful) (ht : ReadsTemplates lib) (config : GlobalConfig) :
    DistinctSensors config lib c ↔ DistinctProfiles c := by
  refine forall_congr' fun t => forall_congr' fun t' => forall_congr' fun ip =>
    forall_congr' fun ip' => forall_congr' fun _ => forall_congr' fun _ => ?_
  rw [Ne, Ne, sensorProfile_eq_iff hl ht]
  exact not_imp_not

variable (sys getMessageString) in
/-- If the path gets a new entry, no entry has its profile. -/
def CreatesNewProfile (c : AgentConsolidator σ) (p : Path) : Prop :=
  c.entry (getMessageString p) = none →
    (sys.systemAdd c.internalIdGenerator.allocate.1 p c.sysHandle).1 = true →
    ∀ t ip, c.entry t = some ip → ¬ SameProfile ip.2 p

variable (sys getMessageString) in
/-- So it is for each path of the request when its turn comes. -/
def NewProfileStep (c : AgentConsolidator σ) : Call → Prop
  | .addRequest true _ request =>
    Meets (createStep sys getMessageString) (CreatesNewProfile sys getMessageString) c
      request.pathList
  | .addRequest false _ _ => True
  | .removeRequest _ => True

theorem DistinctProfiles.of_entry (h : DistinctProfiles c) (he : c'.entry = c.entry) :
    DistinctProfiles c' := by
  unfold DistinctProfiles
  rw [he]
  exact h

variable (sys) in
theorem distinctProfiles_create (hr : RefInv getMessageString c l) (h : DistinctProfiles c)
    {p : Path} (hc : CreatesNewProfile sys getMessageString c p) :
    DistinctProfiles (create sys getMessageString c p).2 := by
  cases he : create sys getMessageString c p with
  | mk o c' =>
  show DistinctProfiles c'
  obtain ⟨-, -, hent, -⟩ | ⟨hn, -, hs, hent, -⟩ | ⟨-, -, -, hent, -⟩ := create_entry sys hr p he
  · exact h.of_entry hent
  · have hnew := hc hn (by rw [hs])
    intro t t' ip ip' ht ht' hsame
    rw [hent] at ht ht'
    obtain ⟨rfl, rfl⟩ | ⟨-, ht⟩ := update_some_eq_some.mp ht <;>
      obtain ⟨rfl, rfl⟩ | ⟨-, ht'⟩ := update_some_eq_some.mp ht'
    · rfl
    · exact absurd hsame.symm (hnew t' ip' ht')
    · exact absurd hsame (hnew t ip ht)
    · exact h t t' ip ip' ht ht' hsame
  · exact h.of_entry hent

variable (sys) in
theorem distinctProfiles_destroy {ptr : SystemHandlePtr}
    (hr : RefInv getMessageString c (ptr :: l)) (h : DistinctProfiles c) :
    DistinctProfiles (destroy sys getMessageString c ptr).2 := by
  obtain ⟨-, hent, -⟩ | ⟨-, id, p, -, -, -, -, hent, -⟩ := destroy_entry sys hr
  · exact h.of_entry hent
  · intro t t' ip ip' ht ht'
    rw [hent] at ht ht'
    exact h t t' ip ip' (update_none_eq_some.mp ht).2 (update_none_eq_some.mp ht').2

theorem distinctProfiles_step {e : Call} (hi : Inv getMessageString c) (h : DistinctProfiles c)
    (hc : NewProfileStep sys getMessageString c e)
    (hs : step sys getMessageString c e = some c') : DistinctProfiles c' := by
  match e with
  | .addRequest false id request =>
    rw [← Option.some.inj hs]
    exact h
  | .addRequest true id request =>
    rw [← Option.some.inj hs]
    exact addPaths_invariant sys (fun c l p hr h hc => distinctProfiles_create sys hr h hc)
      hi.refs h hc
  | .removeRequest ptr =>
    obtain ⟨x, hx, hr, rfl⟩ := step_removeRequest_refs sys hi hs
    exact destroyAll_invariant sys (fun c l ptr hr h _ => distinctProfiles_destroy sys hr h) hr h
      (meets_true _ _ _)

/-! ## Without the condition -/

variable (sys) in
/-- `addRequest` keeps every entry, so two entries that share a profile stay. -/
theorem not_distinctProfiles_create (hr : RefInv getMessageString c l)
    (h : ¬ DistinctProfiles c) (p : Path) :
    ¬ DistinctProfiles (create sys getMessageString c p).2 := by
  intro hd
  apply h
  intro t t' ip ip' ht ht' hsame
  exact hd t t' ip ip' (entry_create sys hr ht p) (entry_create sys hr ht' p) hsame

variable (sys) in
theorem not_distinctProfiles_of_shared (hr : RefInv getMessageString c l) {p : Path}
    (h : ¬ CreatesNewProfile sys getMessageString c p) :
    ¬ DistinctProfiles (create sys getMessageString c p).2 := by
  unfold CreatesNewProfile at h
  push Not at h
  obtain ⟨hn, ha, t, ip, ht, hsame⟩ := h
  have hkept := entry_create sys hr ht p
  cases he : create sys getMessageString c p with
  | mk o c' =>
  rw [he] at hkept
  show ¬ DistinctProfiles c'
  obtain ⟨hs, -⟩ | ⟨-, -, -, hent, -⟩ | ⟨-, -, hs, -⟩ := create_entry sys hr p he
  · exact absurd hn hs
  · intro hd
    have hnew : c'.entry (getMessageString p) =
        some (c.internalIdGenerator.allocate.1, p) := by rw [hent, Function.update_self]
    obtain rfl := hd t _ ip _ hkept hnew hsame
    rw [hn] at ht
    exact absurd ht (by simp)
  · rw [hs] at ha
    exact absurd ha (by simp)

theorem newProfileStep_of_distinct {e : Call} (hi : Inv getMessageString c)
    (hs : step sys getMessageString c e = some c') (h : DistinctProfiles c') :
    NewProfileStep sys getMessageString c e := by
  match e with
  | .removeRequest ptr => trivial
  | .addRequest false id request => trivial
  | .addRequest true id request =>
    by_contra hn
    have hbad : ¬ DistinctProfiles (addPaths sys getMessageString c request.pathList).2 :=
      addPaths_of_not_meets sys (P := fun _ => True) (Q := fun c => ¬ DistinctProfiles c)
        (fun _ _ _ _ _ _ => trivial)
        (fun c l p hr _ hc => not_distinctProfiles_of_shared sys hr hc)
        (fun c l p hr h _ => not_distinctProfiles_create sys hr h p) hi.refs trivial hn
    rw [← Option.some.inj hs] at h
    exact hbad h

/-! ## Runs -/

/-- **Shared sensors.** No two entries put sensors of one profile on the device in any state
    of a run if and only if every new entry of the run is for a path whose profile no entry
    has. -/
theorem distinctSensors_of_run_iff (sys : AgentSystem σ) (getMessageString : Path → String)
    (hl : lib.Lawful) (ht : ReadsTemplates lib) (config : GlobalConfig) (s : σ)
    (es : List Call) :
    (∀ pre suf c', es = pre ++ suf →
      run (step sys getMessageString) (new s) pre = some c' →
        DistinctSensors config lib c') ↔
    Meets (step sys getMessageString) (NewProfileStep sys getMessageString) (new s) es := by
  simp only [distinctSensors_iff hl ht]
  apply forall_reached_iff_meets
    (fun c (h : Inv getMessageString c ∧ DistinctProfiles c) => h.2)
  · intro c e c' h hc hs
    exact ⟨inv_step sys h.1 hs, distinctProfiles_step h.1 h.2 hc hs⟩
  · intro c e c' h hs h'
    exact newProfileStep_of_distinct h.1 hs h'
  · intro c e _ hs
    obtain ⟨ptr, rfl, _⟩ := step_eq_none sys hs
    trivial
  · refine ⟨inv_new s, fun t t' ip ip' h => ?_⟩
    rw [entry_new] at h
    exact absurd h (by simp)

/-- The path `firewall` by itself. -/
theorem distinctSensors_of_run_iff_firewall :
    ∃ c, run (step agentSystemNull singleLineText) (new {})
        [.addRequest true 1 { pathList := [{ path := "firewall" }] }] = some c ∧
      DistinctSensors {} plainJsoncpp c := by
  refine ⟨_, rfl, ?_⟩
  have h := (distinctSensors_of_run_iff agentSystemNull singleLineText plainJsoncpp_lawful
    plainJsoncpp_readsTemplates {} {}
    [.addRequest true 1 { pathList := [{ path := "firewall" }] }]).mpr
  refine h ⟨⟨fun _ _ t ip ht => ?_, fun _ _ => trivial⟩, fun _ _ => trivial⟩ _ [] _
    (List.append_nil _).symm rfl
  rw [entry_new] at ht
  exact absurd ht (by simp)

/-- The frequencies 2000 and 2500 give one reporting rate and two entries. -/
theorem not_distinctSensors_same_rate :
    ¬ ∀ c, run (step agentSystemNull singleLineText) (new {})
        [.addRequest true 1 { pathList := [{ path := "firewall", sampleFrequency := 2000 }] },
         .addRequest true 2 { pathList := [{ path := "firewall", sampleFrequency := 2500 }] }] =
        some c → DistinctSensors {} plainJsoncpp c := by
  intro h
  have hd := (distinctSensors_iff plainJsoncpp_lawful plainJsoncpp_readsTemplates {}).mp
    (h _ rfl) "path: \"firewall\" sample_frequency: 2000 "
      "path: \"firewall\" sample_frequency: 2500 "
      (1000, { path := "firewall", sampleFrequency := 2000 })
      (1001, { path := "firewall", sampleFrequency := 2500 }) (by decide +kernel)
      (by decide +kernel) ⟨rfl, rfl, by decide⟩
  exact absurd hd (by decide)

end AgentConsolidator

end TelemetryAgent
