/-
  `PathValidator` (PathValidator.cpp): the requested paths against the capabilities of the
  device, which `path_information_db` holds under the path string. A value of the map is a
  shared pointer; `none` is the null pointer that a subscript on a missing key stores.

  A request that misses changes the database, which is the same for all requests. What is kept
  (`Extends`): the entries it was built with, and nothing but null pointers elsewhere. So each
  request is answered from the database as it was built (`validatePaths_of_extends`).
-/
import Std.Data.ExtTreeMap
import TelemetryAgent.JsonUtils
import TelemetryAgent.Lib.OrderedMap
import TelemetryAgent.Protos

namespace TelemetryAgent

open Std TelemetryAgent.Lib

structure PathInformation where
  path : String
  filterSupport : Bool := true
  suppressUnchangedSupport : Bool := false
  maxSilentIntervalSupport : Bool := false
  sampleFrequencyMin : UInt32 := 2000
  sampleFrequencyMax : UInt32 := 3600000
  deriving DecidableEq, Repr

abbrev PathInformationDB := ExtTreeMap String (Option PathInformation)

namespace PathValidator

/-- The sum wraps, as the source's does. -/
def roundToThousandths (num max : UInt32) : UInt32 :=
  let num := (num + 500) / 1000 * 1000
  if num > max then max else num

/-- The subscript of `std::map`: a missing key is stored with a null pointer. -/
def subscript (db : PathInformationDB) (path : String) :
    Option PathInformation × PathInformationDB :=
  match db[path]? with
  | some info => (info, db)
  | none => (none, db.insert path none)

def validateFrequency (info : PathInformation) (sampleFrequency : UInt32) : UInt32 :=
  if sampleFrequency < info.sampleFrequencyMin then info.sampleFrequencyMin
  else if sampleFrequency > info.sampleFrequencyMax then info.sampleFrequencyMax
  else roundToThousandths sampleFrequency info.sampleFrequencyMax

/-- An unknown path is cleared. -/
def validatePath (db : PathInformationDB) (path : Path) : Path × PathInformationDB :=
  match subscript db path.path with
  | (none, db) => ({}, db)
  | (some info, db) =>
    ({ path with
      filter := if info.filterSupport then path.filter else ""
      suppressUnchanged := if info.suppressUnchangedSupport then path.suppressUnchanged else false
      maxSilentInterval := if info.maxSilentIntervalSupport then path.maxSilentInterval else 0
      sampleFrequency := validateFrequency info path.sampleFrequency }, db)

/-- The loop of `telemetrySubscribe` over the requested paths: a path whose `ByteSize` is
    zero after validation is left out. -/
def validatePaths (db : PathInformationDB) : List Path → List Path × PathInformationDB
  | [] => ([], db)
  | p :: ps =>
    let (path, db) := validatePath db p
    let (paths, db) := validatePaths db ps
    (if path = {} then paths else path :: paths, db)

/-! ## Building the database -/

/-- The conversions of `Json::Value`; `none` is an exception. -/
structure JsonConversions (ν : Type) where
  asString : Json ν → Option String
  asBool : Json ν → Option Bool
  asInt : Json ν → Option Int

variable {ν : Type} (lib : Jsoncpp ν) (conv : JsonConversions ν)

/-- A member that is null leaves the default. -/
def unlessNull {α : Type} (value : Json ν) (as : Json ν → Option α) (default : α) : Option α :=
  match value with
  | .null => some default
  | value => as value

/-- The entry of an element of the list, whose member `path` is not null. -/
def pathInformationOf (obj : Json ν) : Option PathInformation := do
  let path ← conv.asString (← obj.key "path")
  let info : PathInformation := { path := path }
  let filterSupport ←
    unlessNull (← obj.key "filter_support") conv.asBool info.filterSupport
  let suppressUnchangedSupport ←
    unlessNull (← obj.key "suppress_unchanged_support") conv.asBool info.suppressUnchangedSupport
  let maxSilentIntervalSupport ←
    unlessNull (← obj.key "max_silent_interval_support") conv.asBool info.maxSilentIntervalSupport
  let sampleFrequency ← obj.key "sample_frequency"
  let sampleFrequencyMin ← unlessNull (← sampleFrequency.key "min")
    (fun value => (conv.asInt value).map UInt32.ofInt) info.sampleFrequencyMin
  let sampleFrequencyMax ← unlessNull (← sampleFrequency.key "max")
    (fun value => (conv.asInt value).map UInt32.ofInt) info.sampleFrequencyMax
  some { info with
    filterSupport := filterSupport
    suppressUnchangedSupport := suppressUnchangedSupport
    maxSilentIntervalSupport := maxSilentIntervalSupport
    sampleFrequencyMin := sampleFrequencyMin
    sampleFrequencyMax := sampleFrequencyMax }

/-- The loop over the list. An element without a path ends it; the entries before it stay. -/
def addPathInformation (db : PathInformationDB) :
    List (Json ν) → Option (Bool × PathInformationDB)
  | [] => some (true, db)
  | obj :: objs => do
    match ← obj.key "path" with
    | .null => some (false, db)
    | _ =>
      let info ← pathInformationOf conv obj
      addPathInformation (db.insert info.path (some info)) objs

/-- `text` is the content of the file, empty when it cannot be read. -/
def buildPathInformationDb (db : PathInformationDB) (text : List Char) :
    Option (Bool × PathInformationDB) :=
  match lib.parse text with
  | none => some (false, db)
  | some json => do
    match ← json.key "valid_paths" with
    | .arr objs => addPathInformation conv db objs
    | _ => some (false, db)

/-- Every entry is there, under its own path. -/
def Filed (db : PathInformationDB) : Prop :=
  ∀ (k : String) v, db[k]? = some v → ∃ info, v = some info ∧ info.path = k

theorem filed_empty : Filed ∅ := by
  intro k v h
  exact absurd h (by simp)

variable {lib conv} {db db' built : PathInformationDB}

theorem Filed.insert (h : Filed db) (info : PathInformation) :
    Filed (db.insert info.path (some info)) := by
  intro k v hv
  rw [getElem?_insert_eq] at hv
  split_ifs at hv with hk
  · exact ⟨info, (Option.some.inj hv).symm, hk⟩
  · exact h k v hv

theorem filed_addPathInformation (h : Filed db) {objs : List (Json ν)} {status : Bool}
    (hb : addPathInformation conv db objs = some (status, db')) : Filed db' := by
  induction objs generalizing db with
  | nil =>
    obtain ⟨-, rfl⟩ := Prod.mk.inj (Option.some.inj hb)
    exact h
  | cons obj objs ih =>
    simp only [addPathInformation, Option.bind_eq_bind, Option.bind_eq_some_iff] at hb
    obtain ⟨path, -, hb⟩ := hb
    split at hb
    · obtain ⟨-, rfl⟩ := Prod.mk.inj (Option.some.inj hb)
      exact h
    · obtain ⟨info, -, hb⟩ := Option.bind_eq_some_iff.mp hb
      exact ih (h.insert info) hb

theorem filed_build (h : Filed db) {text : List Char} {status : Bool}
    (hb : buildPathInformationDb lib conv db text = some (status, db')) : Filed db' := by
  unfold buildPathInformationDb at hb
  split at hb
  · obtain ⟨-, rfl⟩ := Prod.mk.inj (Option.some.inj hb)
    exact h
  · obtain ⟨json, -, hb⟩ := Option.bind_eq_some_iff.mp hb
    split at hb
    · exact filed_addPathInformation h hb
    · obtain ⟨-, rfl⟩ := Prod.mk.inj (Option.some.inj hb)
      exact h

/-! ## Validation -/

/-- `db` is `built` with null pointers for some keys that were not there. -/
def Extends (built db : PathInformationDB) : Prop :=
  ∀ k : String, db[k]? = built[k]? ∨ (built[k]? = none ∧ db[k]? = some none)

theorem Extends.refl (db : PathInformationDB) : Extends db db := fun _ => .inl rfl

/-- A subscript reads what the database was built with. -/
theorem Extends.subscript (h : Extends built db) (path : String) :
    (subscript db path).1 = (built[path]?).join ∧ Extends built (subscript db path).2 := by
  unfold PathValidator.subscript
  rcases hp : db[path]? with _ | v
  · obtain hb | ⟨-, hb⟩ := h path
    · rw [hp] at hb
      refine ⟨by rw [← hb]; rfl, fun k => ?_⟩
      rw [getElem?_insert_eq]
      split_ifs with hk
      · rw [← hk]
        exact .inr ⟨hb.symm, rfl⟩
      · exact h k
    · rw [hp] at hb
      exact absurd hb (by simp)
  · refine ⟨?_, h⟩
    obtain hb | ⟨hn, hb⟩ := h path
    · rw [← hb, hp]
      rfl
    · rw [hp] at hb
      rw [hn, Option.some.inj hb]
      rfl

/-- The frequency for a request of `sampleFrequency`, which depends on the bounds only. -/
def frequencyWithin (min max sampleFrequency : UInt32) : UInt32 :=
  if sampleFrequency < min then min
  else if sampleFrequency > max then max
  else roundToThousandths sampleFrequency max

/-- `q` is what validation makes of the path `p` that is a key of the database. -/
structure Validated (built : PathInformationDB) (p q : Path) (info : PathInformation) : Prop where
  entry : built[p.path]? = some (some info)
  path : q.path = p.path
  filter : q.filter = if info.filterSupport then p.filter else ""
  suppressUnchanged :
    q.suppressUnchanged = if info.suppressUnchangedSupport then p.suppressUnchanged else false
  maxSilentInterval :
    q.maxSilentInterval = if info.maxSilentIntervalSupport then p.maxSilentInterval else 0
  sampleFrequency : q.sampleFrequency =
    frequencyWithin info.sampleFrequencyMin info.sampleFrequencyMax p.sampleFrequency

theorem validatePath_of_extends (hf : Filed built) (h : Extends built db) (p : Path) :
    Extends built (validatePath db p).2 ∧
      if p.path ∈ built then ∃ info, Validated built p (validatePath db p).1 info
      else (validatePath db p).1 = {} := by
  obtain ⟨hread, hext⟩ := h.subscript p.path
  unfold validatePath
  rcases hs : PathValidator.subscript db p.path with ⟨o, db'⟩
  rw [hs] at hread hext
  replace hread : o = (built[p.path]?).join := hread
  rcases hb : built[p.path]? with _ | v
  · have hnot : p.path ∉ built := by
      rw [ExtTreeMap.mem_iff_isSome_getElem?, hb]
      simp
    obtain rfl : o = none := by rw [hread, hb]; rfl
    rw [if_neg hnot]
    exact ⟨hext, rfl⟩
  · have hin : p.path ∈ built := by
      rw [ExtTreeMap.mem_iff_isSome_getElem?, hb]
      rfl
    obtain ⟨info, rfl, -⟩ := hf p.path v hb
    obtain rfl : o = some info := by rw [hread, hb]; rfl
    rw [if_pos hin]
    exact ⟨hext, info, ⟨hb, rfl, rfl, rfl, rfl, rfl⟩⟩

/-- What is kept are the paths that are keys of the database as it was built, each validated
    against its entry. -/
theorem validatePaths_of_extends (hf : Filed built) (hne : "" ∉ built) (h : Extends built db)
    (ps : List Path) :
    Extends built (validatePaths db ps).2 ∧
      List.Forall₂ (fun p q => ∃ info, Validated built p q info)
        (ps.filter fun p => p.path ∈ built) (validatePaths db ps).1 := by
  induction ps generalizing db with
  | nil => exact ⟨h, .nil⟩
  | cons p ps ih =>
    obtain ⟨hext, hval⟩ := validatePath_of_extends hf h p
    obtain ⟨hext', hall⟩ := ih hext
    refine ⟨hext', ?_⟩
    show List.Forall₂ _ _ (if (validatePath db p).1 = {} then _ else _)
    by_cases hp : p.path ∈ built
    · rw [if_pos hp] at hval
      obtain ⟨info, hinfo⟩ := hval
      -- the path string is not empty, so neither is the message
      have hkept : (validatePath db p).1 ≠ {} := by
        intro he
        rw [← hinfo.path, he] at hp
        exact hne hp
      rw [if_neg hkept, List.filter_cons_of_pos (by simpa using hp)]
      exact .cons ⟨info, hinfo⟩ hall
    · rw [if_neg hp] at hval
      rw [if_pos hval, List.filter_cons_of_neg (by simpa using hp)]
      exact hall

/-- A path is validated in one way. -/
theorem Validated.unique {p q q' : Path} {info info' : PathInformation}
    (h : Validated built p q info) (h' : Validated built p q' info') : q = q' := by
  obtain rfl : info = info' := by
    have := h.entry.symm.trans h'.entry
    simpa using this
  rcases hq : q with ⟨a, b, c, d, e⟩
  rcases hq' : q' with ⟨a', b', c', d', e'⟩
  have h1 := h.path.trans h'.path.symm
  have h2 := h.filter.trans h'.filter.symm
  have h3 := h.suppressUnchanged.trans h'.suppressUnchanged.symm
  have h4 := h.maxSilentInterval.trans h'.maxSilentInterval.symm
  have h5 := h.sampleFrequency.trans h'.sampleFrequency.symm
  rw [hq, hq'] at h1 h2 h3 h4 h5
  simp only at h1 h2 h3 h4 h5
  rw [h1, h2, h3, h4, h5]

end PathValidator

end TelemetryAgent
