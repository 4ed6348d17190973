/-
  `JsonUtils::merge_json_objects` (JsonUtils.cpp) on the two values that it is called with.

  `mergeRefs` is the function on its two references: a subscript makes the member that is
  missing, and what is done to a member is done to the value that it is in. The fuel is the depth
  of the calls. JsonUtils has the function as it is used: what it makes of `super`.

  * `exists_deepMerge`: what JsonUtils makes of values that are null or objects is the merge of
    the two.
  * `mergeAll_perm`: the fragments of a configuration may be merged in any order.
  * `mergeJsonObjects_correct`: both.
-/
import Mathlib.Data.List.Perm.Basic
import TelemetryAgent.Junos.JunosTelemetryJsonGenerator
import TelemetryAgent.Junos.PlainJsoncpp
import TelemetryAgent.Lib.JsonMembers

namespace TelemetryAgent

open TelemetryAgent.Lib Json

variable {ν : Type}

namespace JsonUtils

/-! ## The function on its references -/

/-- `operator[]`: the value, in which a missing member is made, and the member. -/
def subscript (key : String) : Json ν → Option (Json ν × Json ν)
  | .null => some (.obj [(key, .null)], .null)
  | .obj ms =>
    match ms.lookup key with
    | some v => some (.obj ms, v)
    | none => some (.obj (insertMember key .null ms), .null)
  | _ => none

def getMemberNames : Json ν → Option (List String)
  | .null => some []
  | .obj ms => some (ms.map Prod.fst)
  | _ => none

/-- One turn of the loop. `merge` is the function itself. -/
def mergeKey (merge : Json ν → Json ν → Option (Json ν × Json ν)) (s : Json ν × Json ν)
    (key : String) : Option (Json ν × Json ν) := do
  let (super, old) ← subscript key s.1
  let (sub, new) ← subscript key s.2
  if old.isObject && new.isObject then
    let (old, new) ← merge old new
    return (← assign key old super, ← assign key new sub)
  else return (← assign key new super, sub)

def mergeRefs : Nat → Json ν → Json ν → Option (Json ν × Json ν)
  | 0, _, _ => none
  | n + 1, super, sub => do
    (← getMemberNames sub).foldlM (mergeKey (mergeRefs n)) (super, sub)

/-- What a turn puts into `super`. -/
def mergeMember (old v : Json ν) : Option (Json ν) :=
  match old, v with
  | .obj _, .obj _ => mergeJsonObjects old v
  | _, _ => some v

theorem mergeMembers_cons (super : Json ν) (k : String) (v : Json ν)
    (ms : List (String × Json ν)) :
    mergeMembers super ((k, v) :: ms) =
      (super.modifyKey k fun old => mergeMember old v).bind fun super => mergeMembers super ms := by
  rw [mergeMembers]
  rfl

theorem mergeMember_of_not_object {old v : Json ν} (h : (old.isObject && v.isObject) = false) :
    mergeMember old v = some v := by
  unfold mergeMember
  split
  · cases h
  · rfl

/-- A member may be made and then assigned, or assigned at once. -/
theorem subscript_eq {j : Json ν} (hj : j.HasKeys) (hv : j.IsValue) (key : String) :
    ∃ j', subscript key j = some (j', (j.member? key).getD .null) ∧ j'.HasKeys ∧
      ∀ v, j'.setMember key v = j.setMember key v := by
  obtain rfl | ⟨ms, rfl⟩ := hj
  · refine ⟨_, rfl, .inr ⟨_, rfl⟩, fun v => ?_⟩
    simp [setMember, insertMember]
  · have hs := (isValue_obj.mp hv).1
    cases hk : ms.lookup key with
    | some v =>
      refine ⟨.obj ms, ?_, .inr ⟨_, rfl⟩, fun _ => rfl⟩
      simp [subscript, member?, hk]
    | none =>
      refine ⟨.obj (insertMember key .null ms), ?_, .inr ⟨_, rfl⟩, fun v => ?_⟩
      · simp [subscript, member?, hk]
      · rw [setMember, setMember, insertMember_insertMember key v .null hs]

theorem subscript_of_mem {ms : List (String × Json ν)} (hs : Sorted ms) {key : String}
    {v : Json ν} (h : (key, v) ∈ ms) : subscript key (.obj ms) = some (.obj ms, v) := by
  simp [subscript, lookup_of_mem hs h]

/-- A turn for a member of `sub`. -/
theorem mergeKey_eq {merge : Json ν → Json ν → Option (Json ν × Json ν)} {super : Json ν}
    (hsuper : super.HasKeys) (hvalue : super.IsValue) {ms : List (String × Json ν)}
    (hs : Sorted ms) {key : String} {v : Json ν} (h : (key, v) ∈ ms) :
    mergeKey merge (super, .obj ms) key =
      if ((super.member? key).getD .null).isObject && v.isObject then
        (merge ((super.member? key).getD .null) v).map fun s =>
          (super.setMember key s.1, (obj ms).setMember key s.2)
      else some (super.setMember key v, .obj ms) := by
  obtain ⟨super', hsubscript, hsuper', hset⟩ := subscript_eq hsuper hvalue key
  have hsub : (obj ms).HasKeys := .inr ⟨ms, rfl⟩
  simp only [mergeKey, hsubscript, subscript_of_mem hs h, Option.bind_eq_bind, Option.bind_some]
  split
  · cases merge ((super.member? key).getD .null) v with
    | none => rfl
    | some s => simp [assign_eq hsuper', assign_eq hsub, hset]
  · simp [assign_eq hsuper', hset]

/-! ## The calls -/

/-- What is shown for the calls of a depth less than `n`. -/
def Merges (ν : Type) (n : Nat) : Prop :=
  ∀ super sub : Json ν, super.HasKeys → super.IsValue → sub.HasKeys → sub.IsValue →
    sizeOf sub < n → ∃ r, mergeJsonObjects super sub = some r ∧
      mergeRefs n super sub = some (r, sub) ∧ r.IsValue ∧ DeepMerge super sub r

/-- The step lemma: what a turn makes of the member. -/
theorem exists_mergeMember {n : Nat} (ih : Merges ν n) {old : Option (Json ν)}
    (hold : ∀ w, old = some w → w.IsValue) {v : Json ν} (hv : v.IsValue) (hsize : sizeOf v < n) :
    ∃ j, mergeMember (old.getD .null) v = some j ∧ j.IsValue ∧
      MergedMember old (some v) (some j) ∧
      (if (old.getD .null).isObject && v.isObject then mergeRefs n (old.getD .null) v = some (j, v)
        else j = v) := by
  cases hkind : (old.getD .null).isObject && v.isObject with
  | true =>
    obtain ⟨hold', hv'⟩ := Bool.and_eq_true_iff.mp hkind
    obtain ⟨ms, hms⟩ := isObject_iff.mp hold'
    obtain rfl := getD_eq_obj.mp hms
    obtain ⟨ms', rfl⟩ := isObject_iff.mp hv'
    obtain ⟨j, hmerge, hrefs, hj, hdeep⟩ :=
      ih (obj ms) (obj ms') (.inr ⟨ms, rfl⟩) (hold _ rfl) (.inr ⟨ms', rfl⟩) hv hsize
    refine ⟨j, hmerge, hj, ⟨j, rfl, fun a b ha hb => ?_, fun hnot => ?_⟩, hrefs⟩
    · obtain rfl := obj.inj (Option.some.inj ha)
      obtain rfl := obj.inj hb
      exact hdeep
    · exact absurd rfl (hnot ms ms' rfl)
  | false =>
    refine ⟨v, mergeMember_of_not_object hkind, hv, ⟨v, rfl, ?_, fun _ => rfl⟩, rfl⟩
    rintro ms ms' rfl rfl
    cases hkind

/-- The run lemma: what the loop makes of `super`, over any members of `sub` that are left. -/
theorem exists_mergeMembers {n : Nat} (ih : Merges ν n) {ms : List (String × Json ν)}
    (hms : (obj ms).IsValue) (hsize : ∀ m ∈ ms, sizeOf m.2 < n) (rest : List (String × Json ν))
    (super : Json ν) (hrest : rest ⊆ ms) (hsorted : Sorted rest) (hsuper : super.HasKeys)
    (hvalue : super.IsValue) :
    ∃ r, mergeMembers super rest = some r ∧
      (rest.map Prod.fst).foldlM (mergeKey (mergeRefs n)) (super, .obj ms) = some (r, .obj ms) ∧
      r.HasKeys ∧ r.IsValue ∧ (r.isObject ↔ super.isObject ∨ ∃ k, rest.lookup k ≠ none) ∧
      ∀ k, MergedMember (super.member? k) (rest.lookup k) (r.member? k) := by
  induction rest generalizing super with
  | nil =>
    exact ⟨super, by rw [mergeMembers], rfl, hsuper, hvalue, by simp, fun k => rfl⟩
  | cons m rest ihrest =>
    obtain ⟨k, v⟩ := m
    obtain ⟨hlt, hsorted'⟩ := sorted_cons.mp hsorted
    have hmem : (k, v) ∈ ms := hrest List.mem_cons_self
    obtain ⟨j, hmerge, hj, hmember, hrefs⟩ := exists_mergeMember ih
      (fun w hw => isValue_of_member hvalue hw) ((isValue_obj.mp hms).2 _ hmem) (hsize _ hmem)
    have hturn : mergeKey (mergeRefs n) (super, .obj ms) k =
        some (super.setMember k j, .obj ms) := by
      rw [mergeKey_eq hsuper hvalue (isValue_obj.mp hms).1 hmem]
      split at hrefs
      · next hkind =>
        rw [if_pos hkind, hrefs, Option.map_some, setMember_of_member (isValue_obj.mp hms).1 hmem]
      · next hkind => rw [if_neg hkind, hrefs]
    obtain ⟨r, hr, hrun, hkeys, hrvalue, hobject, hmembers⟩ := ihrest (super.setMember k j)
      (fun m hm => hrest (List.mem_cons_of_mem _ hm)) hsorted' hasKeys_setMember
      (isValue_setMember hj hvalue)
    refine ⟨r, ?_, ?_, hkeys, hrvalue, ?_, fun a => ?_⟩
    · rw [mergeMembers_cons, modifyKey_eq hsuper, hmerge, Option.map_some, Option.bind_some, hr]
    · rw [List.map_cons, List.foldlM_cons, hturn]
      exact hrun
    · rw [hobject]
      simp only [isObject_setMember, true_or, true_iff]
      exact .inr ⟨k, by simp⟩
    · have hrest := hmembers a
      rw [member_setMember] at hrest
      rw [lookup_cons]
      by_cases ha : a = k
      · subst ha
        have hnone : rest.lookup a = none :=
          lookup_eq_none_of_not_mem fun hin => lt_irrefl a (hlt a hin)
        rw [if_pos rfl, hnone] at hrest
        rw [if_pos rfl, hrest]
        exact hmember
      · rw [if_neg ha] at hrest ⊢
        exact hrest

theorem merges (n : Nat) : Merges ν n := by
  induction n with
  | zero => exact fun _ _ _ _ _ _ h => absurd h (Nat.not_lt_zero _)
  | succ n ih =>
    intro super sub hsuper hvalue hsub hsubvalue hsize
    obtain rfl | ⟨ms, rfl⟩ := hsub
    · refine ⟨super, by rw [mergeJsonObjects], rfl, hvalue, ?_⟩
      exact .of_members hsuper (by simp [member?]) fun k => rfl
    · have hmembers : ∀ m ∈ ms, sizeOf m.2 < n := by
        intro m hm
        have hlt := List.sizeOf_lt_of_mem hm
        have hpair : sizeOf m = 1 + sizeOf m.1 + sizeOf m.2 := rfl
        have hobj : sizeOf (obj ms) = 1 + sizeOf ms := obj.sizeOf_spec ms
        omega
      obtain ⟨r, hr, hrun, hkeys, hrvalue, hobject, hentries⟩ := exists_mergeMembers ih hsubvalue
        hmembers ms super (List.Subset.refl ms) (isValue_obj.mp hsubvalue).1 hsuper hvalue
      exact ⟨r, by rw [mergeJsonObjects, hr], hrun, hrvalue, .of_members hkeys hobject hentries⟩

theorem exists_deepMerge {super sub : Json ν} (hsuper : super.HasKeys) (hvalue : super.IsValue)
    (hsub : sub.HasKeys) (hsubvalue : sub.IsValue) :
    ∃ r, mergeJsonObjects super sub = some r ∧ r.HasKeys ∧ r.IsValue ∧ DeepMerge super sub r := by
  obtain ⟨r, hr, -, hrvalue, hdeep⟩ :=
    merges (sizeOf sub + 1) super sub hsuper hvalue hsub hsubvalue (Nat.lt_succ_self _)
  have hkeys : r.HasKeys := by
    obtain ⟨hkeys, -⟩ := hdeep
    exact hkeys
  exact ⟨r, hr, hkeys, hrvalue, hdeep⟩

/-! ## Merging one after the other -/

/-- The documents are merged into null. -/
def mergeAll (l : List (Json ν)) : Option (Json ν) := l.foldlM mergeJsonObjects .null

theorem exists_foldlM_merge {l : List (Json ν)} (hl : ∀ j ∈ l, j.HasKeys ∧ j.IsValue)
    {super : Json ν} (hsuper : super.HasKeys) (hvalue : super.IsValue) :
    ∃ r, l.foldlM mergeJsonObjects super = some r ∧ r.HasKeys ∧ r.IsValue := by
  induction l generalizing super with
  | nil => exact ⟨super, rfl, hsuper, hvalue⟩
  | cons j l ih =>
    rw [List.forall_mem_cons] at hl
    obtain ⟨r, hr, hkeys, hrvalue, -⟩ := exists_deepMerge hsuper hvalue hl.1.1 hl.1.2
    obtain ⟨r', hr', h⟩ := ih hl.2 hkeys hrvalue
    exact ⟨r', by rw [List.foldlM_cons, hr]; exact hr', h⟩

/-- The last document that is merged loses no member. -/
theorem within_of_mergeAll_append {l : List (Json ν)} {j r : Json ν}
    (hl : ∀ j ∈ l, j.HasKeys ∧ j.IsValue) (hj : j.HasKeys ∧ j.IsValue)
    (h : mergeAll (l ++ [j]) = some r) : j.Within r := by
  obtain ⟨a, ha, hkeys, hvalue⟩ := exists_foldlM_merge hl (.inl rfl) isValue_null
  obtain ⟨r', hr', -, -, hdeep⟩ := exists_deepMerge hkeys hvalue hj.1 hj.2
  rw [mergeAll, List.foldlM_append, ha] at h
  simp only [Option.bind_eq_bind, Option.bind_some, List.foldlM_cons, hr', List.foldlM_nil,
    pure, Option.some.injEq] at h
  exact h ▸ hdeep.within

end JsonUtils

namespace JunosTelemetryJsonGenerator

open JsonUtils JunosTelemetryJson

/-! ## Fragments -/

/-- A list of the `analytics` object, by its name and the members of its element. -/
abbrev Part (ν : Type) := String × List (String × Json ν)

/-- The document with one list, or null. -/
def fragment : Option (Part ν) → Json ν
  | some p => analytics [entry p.1 p.2]
  | none => .null

/-- What a fragment puts into the `analytics` object. -/
def putPart (ms : List (String × Json ν)) : Option (Part ν) → List (String × Json ν)
  | some p => insertMember p.1 (.arr [.obj p.2]) ms
  | none => ms

/-- The document with some lists, which is null if there are none. -/
def ofMembers : List (String × Json ν) → Json ν
  | [] => .null
  | m :: ms => analytics (m :: ms)

theorem ofMembers_insertMember (k : String) (v : Json ν) (ms : List (String × Json ν)) :
    ofMembers (insertMember k v ms) = analytics (insertMember k v ms) := by
  cases h : insertMember k v ms with
  | nil =>
    have hmem : k ∈ (insertMember k v ms).map Prod.fst := mem_keys_insertMember.mpr (.inl rfl)
    rw [h] at hmem
    cases hmem
  | cons m ms => rfl

theorem merge_fragment (ms : List (String × Json ν)) (p : Option (Part ν)) :
    mergeJsonObjects (ofMembers ms) (fragment p) = some (ofMembers (putPart ms p)) := by
  cases p with
  | none => rw [fragment, mergeJsonObjects, putPart]
  | some p =>
    rw [putPart, ofMembers_insertMember, fragment]
    cases ms with
    | nil => exact merge_null _
    | cons m ms => exact merge_entry _ _ _

theorem foldlM_fragment (l : List (Option (Part ν))) (ms : List (String × Json ν)) :
    (l.map fragment).foldlM mergeJsonObjects (ofMembers ms) =
      some (ofMembers (l.foldl putPart ms)) := by
  induction l generalizing ms with
  | nil => rfl
  | cons p l ih =>
    rw [List.map_cons, List.foldlM_cons, merge_fragment]
    exact ih _

/-- The names of the lists. -/
def Distinct (p q : Option (Part ν)) : Prop := ∀ a ∈ p, ∀ b ∈ q, a.1 ≠ b.1

theorem sorted_putPart {ms : List (String × Json ν)} (hs : Sorted ms) (p : Option (Part ν)) :
    Sorted (putPart ms p) := by
  cases p with
  | none => exact hs
  | some p => exact sorted_insertMember _ _ hs

theorem putPart_comm {ms : List (String × Json ν)} (hs : Sorted ms) {p q : Option (Part ν)}
    (h : Distinct p q) : putPart (putPart ms p) q = putPart (putPart ms q) p := by
  cases p with
  | none => rfl
  | some p =>
    cases q with
    | none => rfl
    | some q => exact insertMember_comm (Ne.symm (h p rfl q rfl)) _ _ hs

theorem foldl_putPart_perm {l l' : List (Option (Part ν))} (h : l.Perm l')
    (hl : l.Pairwise Distinct) {ms : List (String × Json ν)} (hs : Sorted ms) :
    l.foldl putPart ms = l'.foldl putPart ms := by
  induction h generalizing ms with
  | nil => rfl
  | cons p _ ih => exact ih (List.pairwise_cons.mp hl).2 (sorted_putPart hs p)
  | swap p q l =>
    have hqp : Distinct q p := (List.pairwise_cons.mp hl).1 p List.mem_cons_self
    simp only [List.foldl_cons, putPart_comm hs hqp]
  | trans h1 _ ih1 ih2 =>
    have hsymm : ∀ {p q : Option (Part ν)}, Distinct p q → Distinct q p :=
      fun h b hb a ha => Ne.symm (h a ha b hb)
    rw [ih1 hl hs, ih2 ((h1.pairwise_iff hsymm).mp hl) hs]

/-- Fragments with different lists may be merged in any order. -/
theorem mergeAll_perm {l : List (Option (Part ν))} (hl : l.Pairwise Distinct)
    {js : List (Json ν)} (h : js.Perm (l.map fragment)) :
    mergeAll js = mergeAll (l.map fragment) := by
  have hfragments : List.Forall₂ (fun j p => j = fragment p) (l.map fragment) l :=
    List.forall₂_map_left_iff.mpr (List.forall₂_same.mpr fun _ _ => rfl)
  obtain ⟨l', hl', hperm⟩ := List.perm_comp_forall₂ h hfragments
  have hjs : js = l'.map fragment := by
    rw [← List.forall₂_eq_eq_eq]
    exact List.forall₂_map_right_iff.mpr hl'
  have hnull : (Json.null : Json ν) = ofMembers [] := rfl
  rw [mergeAll, mergeAll, hjs, hnull, foldlM_fragment, foldlM_fragment,
    foldl_putPart_perm hperm.symm hl sorted_nil]

/-! ## The fragments of a configuration -/

/-- The three documents of `generate_json_junos_config` before they are merged. -/
def fragments (lib : Jsoncpp ν) (add udp : Bool) (udpServerIp : String)
    (udpServerPort internalSubscriptionId : Nat) (path : Path) : Option (List (Json ν)) := do
  let exportProfileJson ← parseStringToJsonObj lib exportProfile
  let exportProfileName := "export_" ++ toString internalSubscriptionId
  let exportProfileJson ←
    setJsonExportProfile exportProfileJson add exportProfileName (if udp then "udp" else "grpc")
  let streamingServerJson ← (← streamingServerJson lib add udp udpServerIp udpServerPort)
  let sensorConfigJson ← parseStringToJsonObj lib sensorConfig
  let sensorName := "sensor_" ++ toString internalSubscriptionId
  let sensorConfigJson ←
    setJsonSensorConfig sensorConfigJson add udp sensorName grpcUdpCollectorName exportProfileName
      path.path path.filter (millisecsToSecs path.sampleFrequency).toNat internalSubscriptionId
  return [exportProfileJson, streamingServerJson, sensorConfigJson]

/-- They are what the generator merges, one after the other. -/
theorem generateJsonJunosConfig_of_fragments {lib : Jsoncpp ν} {add udp : Bool} {ip : String}
    {port id : Nat} {path : Path} {l : List (Json ν)} {doc : Json ν}
    (hl : fragments lib add udp ip port id path = some l) (hdoc : mergeAll l = some doc) :
    generateJsonJunosConfig lib add udp ip port id path = some ("<configuration-json>" ++
      AgentUtils.searchNReplaceString (writeJsonObjToString lib doc) "@name@" "name" ++
      "</configuration-json>") := by
  simp only [fragments, Option.bind_eq_bind, Option.bind_eq_some_iff] at hl
  obtain ⟨profile, hprofile, profile', hprofile', servers, hservers, server, hserver, sensor,
    hsensor, sensor', hsensor', heq⟩ := hl
  obtain rfl := Option.some.inj heq
  simp only [mergeAll, List.foldlM_cons, List.foldlM_nil, Option.bind_eq_bind,
    Option.bind_eq_some_iff] at hdoc
  obtain ⟨j1, h1, j2, h2, j3, h3, heq⟩ := hdoc
  obtain rfl := Option.some.inj heq
  rw [hserver] at hservers
  simp only [generateJsonJunosConfig, hprofile, hprofile', hservers, hsensor, hsensor', h1, h2, h3,
    Option.bind_eq_bind, Option.bind_some]
  rfl

/-- Their lists. -/
def parts (add udp : Bool) (ip : String) (port id : Nat) (path : Path) : List (Option (Part ν)) :=
  [some ("export-profile",
      exportProfileMembers add ("export_" ++ toString id) (if udp then "udp" else "grpc")),
    if udp && add then
      some ("streaming-server", streamingServerMembers true grpcUdpCollectorName ip port)
    else none,
    some ("sensor",
      sensorMembers add udp ("sensor_" ++ toString id) grpcUdpCollectorName
        ("export_" ++ toString id) path.path path.filter
        (millisecsToSecs path.sampleFrequency).toNat id)]

theorem fragments_eq {lib : Jsoncpp ν} (ht : ReadsTemplates lib) (add udp : Bool) (ip : String)
    (port id : Nat) (path : Path) :
    fragments lib add udp ip port id path =
      some ((parts add udp ip port id path).map fragment) := by
  simp only [fragments, parseStringToJsonObj, ht.exportProfile, ht.sensorConfig,
    setJsonExportProfile_template, setJsonSensorConfig_template, streamingServerJson_eq ht,
    Option.bind_eq_bind, Option.bind_some, parts]
  cases udp && add <;> rfl

theorem distinct_parts (add udp : Bool) (ip : String) (port id : Nat) (path : Path) :
    (parts add udp ip port id path : List (Option (Part ν))).Pairwise Distinct := by
  cases h : udp && add <;> simp [parts, h, Distinct]

theorem mergeAll_parts (add udp : Bool) (ip : String) (port id : Nat) (path : Path) :
    mergeAll ((parts add udp ip port id path).map fragment) =
      some (analytics (junosConfig add udp ip port id path) : Json ν) := by
  rw [← merge_junosConfig]
  cases h : udp && add <;> simp [mergeAll, parts, h, fragment]

theorem isValue_fragment {p : Option (Part ν)} (h : ∀ a ∈ p, (obj a.2).IsValue) :
    (fragment p).HasKeys ∧ (fragment p).IsValue := by
  cases p with
  | none => exact ⟨.inl rfl, isValue_null⟩
  | some p =>
    refine ⟨.inr ⟨_, rfl⟩, ?_⟩
    simpa [fragment, analytics, entry] using h p rfl

theorem isValue_exportProfileMembers (add : Bool) (name transport : String) :
    (obj (exportProfileMembers add name transport) : Json ν).IsValue := by
  cases add <;> simp [exportProfileMembers, deleteOperation, -String.lt_iff_ltb]

theorem isValue_streamingServerMembers (add : Bool) (name ip : String) (port : Nat) :
    (obj (streamingServerMembers add name ip port) : Json ν).IsValue := by
  cases add <;> simp [streamingServerMembers, deleteOperation, -String.lt_iff_ltb]

theorem isValue_sensorMembers (add udp : Bool) (name server profile path filter : String)
    (secs id : Nat) :
    (obj (sensorMembers add udp name server profile path filter secs id) : Json ν).IsValue := by
  cases add with
  | false => simp [sensorMembers, deleteOperation, -String.lt_iff_ltb]
  | true =>
    by_cases hf : filter = "" <;> cases udp <;>
      simp [sensorMembers, hf, -String.lt_iff_ltb]

theorem isValue_parts (add udp : Bool) (ip : String) (port id : Nat) (path : Path) :
    ∀ p ∈ (parts add udp ip port id path : List (Option (Part ν))),
      ∀ a ∈ p, (obj a.2).IsValue := by
  simp only [parts, List.forall_mem_cons, List.not_mem_nil, false_implies, implies_true, and_true]
  refine ⟨?_, ?_, ?_⟩
  · rintro a ⟨⟩
    exact isValue_exportProfileMembers _ _ _
  · intro a ha
    split at ha
    · cases ha
      exact isValue_streamingServerMembers true grpcUdpCollectorName ip port
    · cases ha
  · rintro a ⟨⟩
    exact isValue_sensorMembers _ _ _ _ _ _ _ _ _

/-- In any order the fragments make one document, which has each member of each of them. It is the
    one that the generator writes. -/
theorem mergeAll_fragments {lib : Jsoncpp ν} (ht : ReadsTemplates lib) (add udp : Bool)
    (ip : String) (port id : Nat) (path : Path) :
    ∃ l doc, fragments lib add udp ip port id path = some l ∧
      generateJsonJunosConfig lib add udp ip port id path = some ("<configuration-json>" ++
        AgentUtils.searchNReplaceString (writeJsonObjToString lib doc) "@name@" "name" ++
        "</configuration-json>") ∧
      (∀ l' : List (Json ν), l'.Perm l → mergeAll l' = some doc) ∧ ∀ j ∈ l, j.Within doc := by
  have hperm : ∀ l' : List (Json ν), l'.Perm ((parts add udp ip port id path).map fragment) →
      mergeAll l' = some (analytics (junosConfig add udp ip port id path)) := by
    intro l' h
    rw [mergeAll_perm (distinct_parts add udp ip port id path) h, mergeAll_parts]
  have hvalue : ∀ j ∈ (parts add udp ip port id path : List (Option (Part ν))).map fragment,
      j.HasKeys ∧ j.IsValue := by
    intro j hj
    obtain ⟨p, hp, rfl⟩ := List.mem_map.mp hj
    exact isValue_fragment (isValue_parts add udp ip port id path p hp)
  have hl := fragments_eq ht add udp ip port id path
  have hwritten := generateJsonJunosConfig_of_fragments hl (hperm _ (List.Perm.refl _))
  refine ⟨_, _, hl, hwritten, hperm, fun j hj => ?_⟩
  -- the order with this fragment at the end
  obtain ⟨l1, l2, hl⟩ := List.append_of_mem hj
  have hlast : (l1 ++ l2 ++ [j]).Perm ((parts add udp ip port id path).map fragment) := by
    rw [hl, List.append_assoc]
    exact (List.perm_append_singleton j l2).append_left l1
  refine within_of_mergeAll_append (fun i hi => hvalue i ?_) (hvalue j hj) (hperm _ hlast)
  rw [hl]
  rcases List.mem_append.mp hi with hi | hi
  · exact List.mem_append_left _ hi
  · exact List.mem_append_right _ (List.mem_cons_of_mem _ hi)

/-- `Json::Value` -/
abbrev JsonValue (ν : Type) := {j : Json ν // j.IsValue}

/-- The function returns with the merge in `super` and `sub` as it was, so the fragments of a
    configuration are merged without a loss, in any order, into the document that the generator
    writes. -/
theorem mergeJsonObjects_correct (ν : Type) :
    (∀ super sub : JsonValue ν, super.val.HasKeys → sub.val.HasKeys → ∃ r : JsonValue ν,
      (∀ n, sizeOf sub.val < n → mergeRefs n super.val sub.val = some (r.val, sub.val)) ∧
      mergeJsonObjects super.val sub.val = some r.val ∧
      DeepMerge super.val sub.val r.val ∧
      ∀ r' : JsonValue ν, DeepMerge super.val sub.val r'.val → r' = r) ∧
    ∀ lib : Jsoncpp ν, ReadsTemplates lib →
      ∀ (add udp : Bool) (ip : String) (port id : Nat) (path : Path),
      ∃ l doc, fragments lib add udp ip port id path = some l ∧
        generateJsonJunosConfig lib add udp ip port id path = some ("<configuration-json>" ++
          AgentUtils.searchNReplaceString (writeJsonObjToString lib doc) "@name@" "name" ++
          "</configuration-json>") ∧
        (∀ l' : List (Json ν), l'.Perm l → mergeAll l' = some doc) ∧ ∀ j ∈ l, j.Within doc := by
  refine ⟨fun super sub hsuper hsub => ?_, fun lib ht => mergeAll_fragments ht⟩
  obtain ⟨r, hr, -, hvalue, hdeep⟩ := exists_deepMerge hsuper super.property hsub sub.property
  refine ⟨⟨r, hvalue⟩, fun n hn => ?_, hr, hdeep, fun r' h => ?_⟩
  · obtain ⟨s, hs, hrefs, -⟩ := merges n _ _ hsuper super.property hsub sub.property hn
    obtain rfl := Option.some.inj (hr.symm.trans hs)
    exact hrefs
  · exact Subtype.ext (h.unique hdeep r'.property hvalue)

/-- Two objects with a member in common, and a configuration read by the plain library. -/
theorem mergeJsonObjects_correct_plain :
    (∃ r : JsonValue Empty,
      mergeJsonObjects (analytics [("a", .null)]) (analytics [("b", .null)]) = some r.val) ∧
    ∃ l doc, fragments plainJsoncpp true true "127.0.0.1" 10000 7 { path := "/interfaces/" } =
      some l ∧ mergeAll l.reverse = some doc := by
  have hvalue : ∀ k, (analytics [(k, .null)] : Json Empty).IsValue := by
    intro k
    simp [analytics]
  obtain ⟨hmerge, hfragments⟩ := mergeJsonObjects_correct Empty
  obtain ⟨r, -, hr, -⟩ := hmerge ⟨_, hvalue "a"⟩ ⟨_, hvalue "b"⟩ (.inr ⟨_, rfl⟩) (.inr ⟨_, rfl⟩)
  obtain ⟨l, doc, hl, -, hperm, -⟩ := hfragments plainJsoncpp plainJsoncpp_readsTemplates true true
    "127.0.0.1" 10000 7 { path := "/interfaces/" }
  exact ⟨⟨r, hr⟩, l, doc, hl, hperm _ l.reverse_perm⟩

end JunosTelemetryJsonGenerator

end TelemetryAgent
