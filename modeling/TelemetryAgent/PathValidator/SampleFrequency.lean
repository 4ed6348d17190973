/-
  The sampling interval of a validated path: `_roundToThousandths` and the bounds of an entry.

  A request outside the bounds is moved to the bound, one inside is rounded to a multiple of
  1000 and held below the upper bound. The lower bound was compared before the rounding, which
  can go below it: `withinBounds_iff` says when. A bound that is no multiple of 1000 is rounded
  when it comes back as a request: `revalidated_iff` says when a validated path stays as it is.
-/
import TelemetryAgent.Lib.JsonReader
import TelemetryAgent.PathValidator

namespace TelemetryAgent

open Std TelemetryAgent.Lib

namespace PathValidator

/-! ## Rounding, as numbers -/

/-- The nearest multiple of 1000, halves up, but 0 where the sum of the source wraps. -/
def nearest (n : Nat) : Nat := (n + 500) % 2 ^ 32 / 1000 * 1000

theorem toNat_roundToThousandths (num max : UInt32) :
    (roundToThousandths num max).toNat = min (nearest num.toNat) max.toNat := by
  have hnum : ((num + 500) / 1000 * 1000).toNat = nearest num.toNat := by
    have hle : (num.toNat + 500) % 2 ^ 32 / 1000 * 1000 < 2 ^ 32 := by omega
    simp only [UInt32.toNat_mul, UInt32.toNat_div, UInt32.toNat_add, UInt32.reduceToNat]
    rw [Nat.mod_eq_of_lt hle]
    rfl
  simp only [roundToThousandths, gt_iff_lt, UInt32.lt_iff_toNat_lt]
  split
  · omega
  · omega

variable {info : PathInformation} {f : UInt32}

theorem toNat_validateFrequency (info : PathInformation) (f : UInt32) :
    (validateFrequency info f).toNat =
      if f.toNat < info.sampleFrequencyMin.toNat then info.sampleFrequencyMin.toNat
      else if info.sampleFrequencyMax.toNat < f.toNat then info.sampleFrequencyMax.toNat
      else min (nearest f.toNat) info.sampleFrequencyMax.toNat := by
  simp only [validateFrequency, gt_iff_lt, UInt32.lt_iff_toNat_lt]
  split
  · rfl
  · split
    · rfl
    · exact toNat_roundToThousandths f info.sampleFrequencyMax

/-! ## The bounds -/

/-- A request within the bounds whose multiple of 1000 is below them: it is rounded down past
    the lower bound, or the sum wraps. -/
structure RoundsBelow (info : PathInformation) (f : UInt32) : Prop where
  min_le : info.sampleFrequencyMin ≤ f
  le_max : f ≤ info.sampleFrequencyMax
  below : f.toNat % 1000 < 500 ∧ f.toNat - f.toNat % 1000 < info.sampleFrequencyMin.toNat ∨
    2 ^ 32 ≤ f.toNat + 500 ∧ 0 < info.sampleFrequencyMin.toNat

theorem roundsBelow_iff : RoundsBelow info f ↔
    info.sampleFrequencyMin.toNat ≤ f.toNat ∧ f.toNat ≤ info.sampleFrequencyMax.toNat ∧
      nearest f.toNat < info.sampleFrequencyMin.toNat := by
  have hf := f.toNat_lt
  have hmin := info.sampleFrequencyMin.toNat_lt
  constructor
  · rintro ⟨h1, h2, h3⟩
    rw [UInt32.le_iff_toNat_le] at h1 h2
    refine ⟨h1, h2, ?_⟩
    unfold nearest
    omega
  · rintro ⟨h1, h2, h3⟩
    unfold nearest at h3
    refine ⟨UInt32.le_iff_toNat_le.mpr h1, UInt32.le_iff_toNat_le.mpr h2, ?_⟩
    omega

theorem validateFrequency_within_iff (hle : info.sampleFrequencyMin ≤ info.sampleFrequencyMax) :
    (info.sampleFrequencyMin ≤ validateFrequency info f ∧
      validateFrequency info f ≤ info.sampleFrequencyMax) ↔ ¬ RoundsBelow info f := by
  rw [roundsBelow_iff]
  simp only [UInt32.le_iff_toNat_le, toNat_validateFrequency] at hle ⊢
  split
  · omega
  · split
    · omega
    · omega

variable {db : PathInformationDB} {p : Path}

/-- What validation makes of a path whose entry is `info`. -/
def checked (info : PathInformation) (p : Path) : Path where
  path := p.path
  filter := if info.filterSupport then p.filter else ""
  suppressUnchanged := if info.suppressUnchangedSupport then p.suppressUnchanged else false
  maxSilentInterval := if info.maxSilentIntervalSupport then p.maxSilentInterval else 0
  sampleFrequency := validateFrequency info p.sampleFrequency

theorem validatePath_of_known (h : db[p.path]? = some (some info)) :
    validatePath db p = (checked info p, db) := by
  have hs : subscript db p.path = (some info, db) := by
    unfold subscript
    rw [h]
  unfold validatePath
  rw [hs]
  rfl

/-- **Bounds.** The frequency of a validated path lies within the bounds of its entry, unless
    the request does and is rounded below them. -/
theorem withinBounds_iff (db : PathInformationDB) (p : Path) (info : PathInformation)
    (hp : db[p.path]? = some (some info))
    (hle : info.sampleFrequencyMin ≤ info.sampleFrequencyMax) :
    (info.sampleFrequencyMin ≤ (validatePath db p).1.sampleFrequency ∧
      (validatePath db p).1.sampleFrequency ≤ info.sampleFrequencyMax) ↔
      ¬ RoundsBelow info p.sampleFrequency := by
  rw [validatePath_of_known hp]
  exact validateFrequency_within_iff hle

/-! Concrete files: a JSON library that knows one file, the conversions of strings, Booleans and
numbers, and a file that gives the path `firewall` the bounds 2400 and 10000. -/

def intSpelling : Json.Spelling Int where
  escape := Json.escapeChar
  number n := (toString n).toList

def fileJsoncpp (file : Json Int) : Jsoncpp Int where
  toSpelling := intSpelling
  parse text := if text = file.write intSpelling then some file else none

theorem fileJsoncpp_parse (file : Json Int) :
    (fileJsoncpp file).parse (file.write intSpelling) = some file := by
  simp only [fileJsoncpp, if_true]

def intConversions : JsonConversions Int where
  asString := Json.str?
  asBool
    | .bool b => some b
    | _ => none
  asInt
    | .num n => some n
    | _ => none

def boundedPaths : Json Int :=
  .obj [("valid_paths", .arr [.obj [("path", .str "firewall"),
    ("sample_frequency", .obj [("max", .num 10000), ("min", .num 2400)])]])]

def boundedEntry : PathInformation :=
  { path := "firewall", sampleFrequencyMin := 2400, sampleFrequencyMax := 10000 }

theorem build_boundedPaths :
    buildPathInformationDb (fileJsoncpp boundedPaths) intConversions ∅
        (boundedPaths.write intSpelling) =
      some (true, (∅ : PathInformationDB).insert "firewall" (some boundedEntry)) := by
  unfold buildPathInformationDb
  rw [fileJsoncpp_parse]
  rfl

theorem withinBounds_iff_firewall :
    boundedEntry.sampleFrequencyMin ≤ (validatePath
        ((∅ : PathInformationDB).insert "firewall" (some boundedEntry))
        { path := "firewall", sampleFrequency := 2600 }).1.sampleFrequency ∧
      (validatePath ((∅ : PathInformationDB).insert "firewall" (some boundedEntry))
        { path := "firewall", sampleFrequency := 2600 }).1.sampleFrequency ≤
        boundedEntry.sampleFrequencyMax :=
  (withinBounds_iff _ { path := "firewall", sampleFrequency := 2600 } boundedEntry
    (by decide +kernel) (by decide)).mpr fun h => absurd h.below (by decide)

/-- The lowest request that is allowed, 2400, is rounded to 2000. -/
theorem not_withinBounds_at_min :
    ∃ built : PathInformationDB,
      buildPathInformationDb (fileJsoncpp boundedPaths) intConversions ∅
        (boundedPaths.write intSpelling) = some (true, built) ∧
      built["firewall"]? = some (some boundedEntry) ∧
      boundedEntry.sampleFrequencyMin ≤ boundedEntry.sampleFrequencyMax ∧
      ¬ boundedEntry.sampleFrequencyMin ≤
        (validatePath built { path := "firewall", sampleFrequency := 2400 }).1.sampleFrequency :=
  ⟨_, build_boundedPaths, by decide +kernel, by decide, by decide +kernel⟩

/-! ## Validating again -/

/-- Rounding leaves the frequency `x` as it is. -/
def Rests (info : PathInformation) (x : UInt32) : Prop :=
  x.toNat + 500 < 2 ^ 32 ∧
    (1000 ∣ x.toNat ∨ x = info.sampleFrequencyMax ∧ 500 ≤ x.toNat % 1000)

theorem validateFrequency_eq_self_iff {x : UInt32} : validateFrequency info x = x ↔
    info.sampleFrequencyMin ≤ x ∧ x ≤ info.sampleFrequencyMax ∧ Rests info x := by
  have hx := x.toNat_lt
  rw [← UInt32.toNat_inj, toNat_validateFrequency, UInt32.le_iff_toNat_le, UInt32.le_iff_toNat_le,
    Rests, ← UInt32.toNat_inj, nearest]
  split
  · omega
  · split
    · omega
    · omega

/-- What a request must be like for its answer to be left as it is. -/
structure Settles (info : PathInformation) (f : UInt32) : Prop where
  low : f < info.sampleFrequencyMin → Rests info info.sampleFrequencyMin
  high : info.sampleFrequencyMax < f → Rests info info.sampleFrequencyMax
  within : ¬ RoundsBelow info f
  /-- The sum of the source does not wrap at the second time. -/
  top : ¬ (2 ^ 32 ≤ f.toNat + 796 ∧ f.toNat + 500 < 2 ^ 32 ∧
    2 ^ 32 ≤ info.sampleFrequencyMax.toNat + 500)

theorem settles_below (hle : info.sampleFrequencyMin ≤ info.sampleFrequencyMax)
    (hlow : f < info.sampleFrequencyMin) :
    Settles info f ↔ Rests info info.sampleFrequencyMin := by
  refine ⟨fun h => h.low hlow, fun hr => ⟨fun _ => hr, fun h => ?_, fun h => ?_, fun h => ?_⟩⟩
  · exact absurd (UInt32.lt_of_lt_of_le hlow hle) (UInt32.lt_asymm h)
  · exact absurd hlow (UInt32.not_lt.mpr h.min_le)
  · rw [UInt32.lt_iff_toNat_lt] at hlow
    rw [Rests, ← UInt32.toNat_inj] at hr
    omega

theorem settles_above (hle : info.sampleFrequencyMin ≤ info.sampleFrequencyMax)
    (hhigh : info.sampleFrequencyMax < f) :
    Settles info f ↔ Rests info info.sampleFrequencyMax := by
  refine ⟨fun h => h.high hhigh, fun hr => ⟨fun h => ?_, fun _ => hr, fun h => ?_, fun h => ?_⟩⟩
  · exact absurd (UInt32.lt_of_lt_of_le h hle) (UInt32.lt_asymm hhigh)
  · exact absurd hhigh (UInt32.not_lt.mpr h.le_max)
  · rw [UInt32.lt_iff_toNat_lt] at hhigh
    omega

/-- Within the bounds the answer is a multiple of 1000 or the upper bound. -/
theorem settles_within (hmin : info.sampleFrequencyMin ≤ f) (hmax : f ≤ info.sampleFrequencyMax) :
    Settles info f ↔
      info.sampleFrequencyMin.toNat ≤ nearest f.toNat ∧
        min (nearest f.toNat) info.sampleFrequencyMax.toNat + 500 < 2 ^ 32 := by
  have hf := f.toNat_lt
  have hm := info.sampleFrequencyMax.toNat_lt
  rw [UInt32.le_iff_toNat_le] at hmin hmax
  have hbelow : RoundsBelow info f ↔ nearest f.toNat < info.sampleFrequencyMin.toNat := by
    rw [roundsBelow_iff]
    omega
  constructor
  · intro h
    have hw := h.within
    have ht := h.top
    rw [hbelow] at hw
    unfold nearest at hw ⊢
    omega
  · rintro ⟨h1, h2⟩
    refine ⟨fun h => ?_, fun h => ?_, hbelow.not.mpr (by omega), fun h => ?_⟩
    · rw [UInt32.lt_iff_toNat_lt] at h
      omega
    · rw [UInt32.lt_iff_toNat_lt] at h
      omega
    · unfold nearest at h2
      omega

theorem validateFrequency_validateFrequency_iff
    (hle : info.sampleFrequencyMin ≤ info.sampleFrequencyMax) :
    validateFrequency info (validateFrequency info f) = validateFrequency info f ↔
      Settles info f := by
  rw [validateFrequency_eq_self_iff]
  by_cases hlow : f < info.sampleFrequencyMin
  · rw [settles_below hle hlow, validateFrequency, if_pos hlow]
    exact ⟨fun h => h.2.2, fun h => ⟨UInt32.le_refl _, hle, h⟩⟩
  · by_cases hhigh : info.sampleFrequencyMax < f
    · rw [settles_above hle hhigh, validateFrequency, if_neg hlow, if_pos hhigh]
      exact ⟨fun h => h.2.2, fun h => ⟨hle, UInt32.le_refl _, h⟩⟩
    · have hv := toNat_roundToThousandths f info.sampleFrequencyMax
      rw [UInt32.not_lt] at hlow hhigh
      rw [settles_within hlow hhigh, validateFrequency, if_neg (UInt32.not_lt.mpr hlow),
        if_neg (UInt32.not_lt.mpr hhigh)]
      rw [UInt32.le_iff_toNat_le] at hlow hhigh hle
      rw [UInt32.le_iff_toNat_le, UInt32.le_iff_toNat_le, Rests, ← UInt32.toNat_inj, hv]
      unfold nearest
      omega

/-- A miss stores a null pointer, which is read as a miss. -/
theorem validatePath_of_unknown (h : (db[p.path]?).join = none) :
    (validatePath db p).1 = {} ∧
      ∀ k : String, ((validatePath db p).2[k]?).join = (db[k]?).join := by
  unfold validatePath subscript
  cases hp : db[p.path]? with
  | none =>
    refine ⟨rfl, fun k => ?_⟩
    simp only [getElem?_insert_eq]
    split
    · rename_i hk
      rw [← hk, hp]
      rfl
    · rfl
  | some v =>
    rw [hp] at h
    obtain rfl : v = none := h
    exact ⟨rfl, fun k => rfl⟩

theorem checked_checked_iff (info : PathInformation) (p : Path) :
    checked info (checked info p) = checked info p ↔
      validateFrequency info (validateFrequency info p.sampleFrequency) =
        validateFrequency info p.sampleFrequency := by
  constructor
  · intro h
    exact congrArg Path.sampleFrequency h
  · intro h
    unfold checked
    rw [Path.mk.injEq]
    refine ⟨rfl, ?_, ?_, ?_, h⟩
    · split <;> rfl
    · split <;> rfl
    · split <;> rfl

/-- When the answer for a path is answered with itself. An unknown path is answered with the
    empty one, which may be known. -/
def SettlesIn (db : PathInformationDB) (p : Path) : Prop :=
  match (db[p.path]?).join with
  | some info => Settles info p.sampleFrequency
  | none => ∀ info, db[""]? = some (some info) → info.sampleFrequencyMin = 0

theorem eq_some_of_join {k : String} (h : (db[k]?).join = some info) :
    db[k]? = some (some info) := Option.join_eq_some_iff.mp h

/-- **Validating again.** A validated path is validated as itself exactly if its frequency
    settles. -/
theorem revalidated_iff (db : PathInformationDB)
    (hle : ∀ (k : String) info, db[k]? = some (some info) →
      info.sampleFrequencyMin ≤ info.sampleFrequencyMax) (p : Path) :
    (validatePath (validatePath db p).2 (validatePath db p).1).1 = (validatePath db p).1 ↔
      SettlesIn db p := by
  unfold SettlesIn
  cases hp : (db[p.path]?).join with
  | some info =>
    have hknown := eq_some_of_join hp
    rw [validatePath_of_known hknown, validatePath_of_known (p := checked info p) hknown]
    exact (checked_checked_iff info p).trans
      (validateFrequency_validateFrequency_iff (hle _ _ hknown))
  | none =>
    obtain ⟨hfirst, hread⟩ := validatePath_of_unknown hp
    rw [hfirst]
    cases hempty : (db[""]?).join with
    | none =>
      refine iff_of_true (validatePath_of_unknown ((hread _).trans hempty)).1 fun info h => ?_
      rw [h] at hempty
      exact absurd hempty (by simp)
    | some info =>
      have hknown := eq_some_of_join hempty
      rw [validatePath_of_known (p := {}) (eq_some_of_join ((hread _).trans hempty)), checked,
        Path.mk.injEq]
      have hzero : validateFrequency info 0 = 0 ↔ info.sampleFrequencyMin = 0 := by
        rw [validateFrequency_eq_self_iff, UInt32.le_zero_iff]
        exact ⟨fun h => h.1, fun h => ⟨h, UInt32.zero_le, by simp [Rests]⟩⟩
      constructor
      · rintro ⟨-, -, -, -, h⟩ info' h'
        rw [hknown] at h'
        rw [← Option.some.inj (Option.some.inj h')]
        exact hzero.mp h
      · intro h
        exact ⟨rfl, ite_self _, ite_self _, ite_self _, hzero.mpr (h info hknown)⟩

/-- The entry of `firewall` is the only one. -/
theorem entry_boundedPaths {k : String} {info : PathInformation}
    (h : ((∅ : PathInformationDB).insert "firewall" (some boundedEntry))[k]? =
      some (some info)) : info = boundedEntry := by
  rw [ExtTreeMap.getElem?_insert] at h
  split at h
  · exact (Option.some.inj (Option.some.inj h)).symm
  · exact absurd h (by simp)

/-- A request for 2600 is answered with 3000, and this with itself. -/
theorem revalidated_iff_firewall :
    (validatePath ((∅ : PathInformationDB).insert "firewall" (some boundedEntry))
        (validatePath ((∅ : PathInformationDB).insert "firewall" (some boundedEntry))
          { path := "firewall", sampleFrequency := 2600 }).1).1 =
      { path := "firewall", sampleFrequency := 3000 } := by
  have hs : Settles boundedEntry 2600 :=
    ⟨fun h => absurd h (by decide), fun h => absurd h (by decide),
      fun h => absurd h.below (by decide), by decide⟩
  refine ((revalidated_iff ((∅ : PathInformationDB).insert "firewall" (some boundedEntry))
    (fun k info h => ?_) { path := "firewall", sampleFrequency := 2600 }).mpr ?_).trans ?_
  · rw [entry_boundedPaths h]
    decide
  · exact hs
  · decide +kernel

/-- A request for 100 is answered with 2400, the lower bound, and this with 2000. -/
theorem not_revalidated_below_min :
    ∃ built : PathInformationDB,
      buildPathInformationDb (fileJsoncpp boundedPaths) intConversions ∅
        (boundedPaths.write intSpelling) = some (true, built) ∧
      (∀ (k : String) info, built[k]? = some (some info) →
        info.sampleFrequencyMin ≤ info.sampleFrequencyMax) ∧
      (validatePath built { path := "firewall", sampleFrequency := 100 }).1 =
        { path := "firewall", sampleFrequency := 2400 } ∧
      (validatePath (validatePath built { path := "firewall", sampleFrequency := 100 }).2
        { path := "firewall", sampleFrequency := 2400 }).1 =
        { path := "firewall", sampleFrequency := 2000 } := by
  refine ⟨_, build_boundedPaths, fun k info h => ?_, by decide +kernel, by decide +kernel⟩
  rw [entry_boundedPaths h]
  decide

end PathValidator

end TelemetryAgent
