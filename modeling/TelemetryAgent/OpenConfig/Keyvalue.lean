/-
  OpenConfigKeyvalue: the pairs of keyvalue.proto as entries. Which of its values a pair has is
  told from the values: the first that is not the default of its type is taken.

  `translated_iff`: if each pair has a key and one value, then the entries carry the pairs, and
  the pairs can be read back from them, exactly if no value is zero or the empty string.
-/
import TelemetryAgent.OpenConfig.Keys

namespace TelemetryAgent

open OpenConfigData

/-! ## The message and its translator -/

/-- `keyvalue`. The accessor of a field that is not set returns the default of its type. -/
structure Keyvalue where
  key : Option String := none
  int32Val : Option Int32 := none
  uint64Val : Option UInt64 := none
  stringVal : Option String := none
  deriving DecidableEq, Inhabited

/-- `kvresponse` -/
structure Kvresponse where
  kvpairs : List Keyvalue := []
  deriving DecidableEq, Inhabited

namespace OpenConfigKeyvalue

def value (kvpair : Keyvalue) : KeyValue.Value :=
  if kvpair.stringVal.getD "" ≠ "" then .str (kvpair.stringVal.getD "")
  else if kvpair.int32Val.getD 0 ≠ 0 then .int (kvpair.int32Val.getD 0).toInt64
  else if kvpair.uint64Val.getD 0 ≠ 0 then .uint (kvpair.uint64Val.getD 0)
  else .notSet

def entry (kvpair : Keyvalue) : KeyValue := ⟨kvpair.key.getD "", value kvpair⟩

/-- There are no prefixes. -/
def iterate (message : Kvresponse) (datap : OpenConfigData) : OpenConfigData :=
  datap.addKv (message.kvpairs.map entry)

/-! ## What the entries are to carry -/

/-- The pair has a key and exactly one of the values. -/
def OneValue (kvpair : Keyvalue) : Prop :=
  kvpair.key.isSome ∧ [kvpair.int32Val.isSome, kvpair.uint64Val.isSome,
    kvpair.stringVal.isSome].count true = 1

instance : DecidablePred OneValue := fun _ => inferInstanceAs (Decidable (_ ∧ _))

/-- The entry has the key of the pair, and the value that is set in it as the alternative of its
    type. -/
structure Carries (kvpair : Keyvalue) (kv : KeyValue) : Prop where
  key : kvpair.key = some kv.key
  int : ∀ v, kvpair.int32Val = some v → ∃ w, kv.value = .int w ∧ w.toInt = v.toInt
  uint : ∀ v, kvpair.uint64Val = some v → kv.value = .uint v
  str : ∀ s, kvpair.stringVal = some s → kv.value = .str s

/-- The pair that an entry is read back as. -/
def readPair (kv : KeyValue) : Keyvalue :=
  match kv.value with
  | .int v => { key := some kv.key, int32Val := some v.toInt32 }
  | .uint v => { key := some kv.key, uint64Val := some v }
  | .str s => { key := some kv.key, stringVal := some s }
  | _ => { key := some kv.key }

/-- There is one entry for each pair, in order, and the pairs can be read back from them. -/
structure Translated (message : Kvresponse) (l : List KeyValue) : Prop where
  carries : List.Forall₂ Carries message.kvpairs l
  recovered : l.map readPair = message.kvpairs

/-- No value of the pair is the default of its type. -/
structure NoDefault (kvpair : Keyvalue) : Prop where
  int : kvpair.int32Val ≠ some 0
  uint : kvpair.uint64Val ≠ some 0
  str : kvpair.stringVal ≠ some ""

/-! ## One pair -/

theorem OneValue.cases {kvpair : Keyvalue} (h : OneValue kvpair) :
    ∃ key, (∃ v, kvpair = { key := some key, int32Val := some v }) ∨
      (∃ v, kvpair = { key := some key, uint64Val := some v }) ∨
      ∃ s, kvpair = { key := some key, stringVal := some s } := by
  obtain ⟨key, int, uint, str⟩ := kvpair
  obtain ⟨hkey, hcount⟩ := h
  obtain ⟨key, rfl⟩ := Option.isSome_iff_exists.mp hkey
  refine ⟨key, ?_⟩
  cases int <;> cases uint <;> cases str <;> simp at hcount ⊢

theorem carries_int_iff (key : String) (v : Int32) :
    Carries { key := some key, int32Val := some v }
      (entry { key := some key, int32Val := some v }) ↔ v ≠ 0 := by
  constructor
  · rintro h rfl
    obtain ⟨w, hw, -⟩ := h.int 0 rfl
    exact KeyValue.Value.noConfusion hw
  · intro hv
    have hvalue : value { key := some key, int32Val := some v } = .int v.toInt64 := by
      simp [value, hv]
    exact ⟨rfl, fun v' hv' => ⟨v.toInt64, hvalue, by simp [Option.some.inj hv']⟩, by simp, by simp⟩

theorem carries_uint_iff (key : String) (v : UInt64) :
    Carries { key := some key, uint64Val := some v }
      (entry { key := some key, uint64Val := some v }) ↔ v ≠ 0 := by
  constructor
  · rintro h rfl
    exact KeyValue.Value.noConfusion (h.uint 0 rfl)
  · intro hv
    have hvalue : value { key := some key, uint64Val := some v } = .uint v := by
      simp [value, hv]
    exact ⟨rfl, by simp, fun v' hv' => Option.some.inj hv' ▸ hvalue, by simp⟩

theorem carries_str_iff (key s : String) :
    Carries { key := some key, stringVal := some s }
      (entry { key := some key, stringVal := some s }) ↔ s ≠ "" := by
  constructor
  · rintro h rfl
    exact KeyValue.Value.noConfusion (h.str "" rfl)
  · intro hs
    have hvalue : value { key := some key, stringVal := some s } = .str s := by
      simp [value, hs]
    exact ⟨rfl, by simp, by simp, fun s' hs' => Option.some.inj hs' ▸ hvalue⟩

theorem carries_entry_iff {kvpair : Keyvalue} (h : OneValue kvpair) :
    Carries kvpair (entry kvpair) ↔ NoDefault kvpair := by
  obtain ⟨key, ⟨v, rfl⟩ | ⟨v, rfl⟩ | ⟨s, rfl⟩⟩ := h.cases
  · rw [carries_int_iff]
    exact ⟨fun hv => ⟨by simpa using hv, by simp, by simp⟩, fun hn => by simpa using hn.int⟩
  · rw [carries_uint_iff]
    exact ⟨fun hv => ⟨by simp, by simpa using hv, by simp⟩, fun hn => by simpa using hn.uint⟩
  · rw [carries_str_iff]
    exact ⟨fun hs => ⟨by simp, by simp, by simpa using hs⟩, fun hn => by simpa using hn.str⟩

/-- An entry that carries the pair tells it. -/
theorem readPair_of_carries {kvpair : Keyvalue} {kv : KeyValue} (h : OneValue kvpair)
    (hc : Carries kvpair kv) : readPair kv = kvpair := by
  obtain ⟨key, ⟨v, rfl⟩ | ⟨v, rfl⟩ | ⟨s, rfl⟩⟩ := h.cases
  · obtain ⟨w, hw, hint⟩ := hc.int v rfl
    have hwv : w = v.toInt64 := Int64.toInt_inj.mp (by rw [hint, Int32.toInt_toInt64])
    rw [readPair, hw, hwv, Option.some.inj hc.key]
    simp
  · rw [readPair, hc.uint v rfl, Option.some.inj hc.key]
  · rw [readPair, hc.str s rfl, Option.some.inj hc.key]

/-! ## The message -/

theorem emitted_iterate (m : Kvresponse) (d : OpenConfigData) :
    emitted (iterate m) d = m.kvpairs.map entry :=
  emitted_of_eq rfl

/-- For every message whose pairs each have a key and one value, and every data: each pair has
    its entry, and can be read back, exactly if no value is the default of its type. -/
theorem translated_iff (m : Kvresponse) (datap : OpenConfigData)
    (hm : ∀ kvpair ∈ m.kvpairs, OneValue kvpair) :
    Translated m (emitted (iterate m) datap) ↔ ∀ kvpair ∈ m.kvpairs, NoDefault kvpair := by
  have hcarries : List.Forall₂ Carries m.kvpairs (m.kvpairs.map entry) ↔
      ∀ kvpair ∈ m.kvpairs, NoDefault kvpair := by
    rw [List.forall₂_map_right_iff, List.forall₂_same]
    exact forall₂_congr fun kvpair hk => carries_entry_iff (hm kvpair hk)
  rw [emitted_iterate, ← hcarries]
  constructor
  · exact Translated.carries
  · intro h
    refine ⟨h, ?_⟩
    rw [List.map_map, List.map_congr_left, List.map_id]
    intro kvpair hk
    exact readPair_of_carries (hm kvpair hk)
      ((carries_entry_iff (hm kvpair hk)).mpr (hcarries.mp h kvpair hk))

/-- A pair of each type. -/
def onePairEach : Kvresponse where
  kvpairs := [{ key := some "a", int32Val := some (-1) }, { key := some "b", uint64Val := some 2 },
    { key := some "c", stringVal := some "up" }]

theorem translated_iff_onePairEach :
    Translated onePairEach (emitted (iterate onePairEach) {}) ↔
      ∀ kvpair ∈ onePairEach.kvpairs, NoDefault kvpair :=
  translated_iff onePairEach {} (by decide)

/-- A pair whose value is the number 0: the entry has no value. -/
theorem not_translated_zero : ¬ ∀ (m : Kvresponse) (datap : OpenConfigData),
    (∀ kvpair ∈ m.kvpairs, OneValue kvpair) → Translated m (emitted (iterate m) datap) := by
  intro h
  let kvpair : Keyvalue := { key := some "a", int32Val := some 0 }
  have hrecovered := (h ⟨[kvpair]⟩ {} (by decide)).recovered
  exact absurd hrecovered (by decide)

end OpenConfigKeyvalue

end TelemetryAgent
