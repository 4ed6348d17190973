/-
  What the translators of lib-oc share: the prefixes of oc.hpp, the setters of `KeyValue` and
  `insertExportTimestamp` (OpenConfig.cpp). A turn of a translator's loop appends the prefix
  of its element and then the entries read from the element. `finalKeys` is the reader of the
  flat list (agent_test_oc.cpp): it puts the last prefix before each key.
-/
import TelemetryAgent.Lib.Headers
import TelemetryAgent.Protos

namespace TelemetryAgent

open Lib

/-! ## Entries -/

def prefixKey : String := "__prefix__"

namespace KeyValue

/-- `set_int_value` of an unsigned number, which converts to `int64`. -/
def ofInt (key : String) (n : UInt64) : KeyValue := ⟨key, .int n.toInt64⟩

/-- `set_uint_value` -/
def ofUint (key : String) (n : UInt64) : KeyValue := ⟨key, .uint n⟩

/-- `set_double_value` -/
def ofDouble (key : String) (bits : UInt64) : KeyValue := ⟨key, .double bits⟩

/-- `set_bool_value` -/
def ofBool (key : String) (b : Bool) : KeyValue := ⟨key, .bool b⟩

/-- `set_str_value` -/
def ofStr (key s : String) : KeyValue := ⟨key, .str s⟩

@[simp] theorem key_ofInt (key : String) (n : UInt64) : (ofInt key n).key = key := rfl

@[simp] theorem key_ofUint (key : String) (n : UInt64) : (ofUint key n).key = key := rfl

@[simp] theorem key_ofDouble (key : String) (n : UInt64) : (ofDouble key n).key = key := rfl

@[simp] theorem key_ofBool (key : String) (b : Bool) : (ofBool key b).key = key := rfl

@[simp] theorem key_ofStr (key s : String) : (ofStr key s).key = key := rfl

/-- How a reader tells a prefix from the other entries. -/
def isPrefix (kv : KeyValue) : Bool := kv.key == prefixKey

end KeyValue

/-- `oc_set_prefix_no_attr`: the entry that it adds. -/
def ocSetPrefixNoAttr (baseStr nameStr : String) : KeyValue :=
  .ofStr prefixKey (baseStr ++ "[name='" ++ nameStr ++ "']/")

/-- `oc_set_prefix` -/
def ocSetPrefix (baseStr nameStr ocAttr : String) : KeyValue :=
  .ofStr prefixKey (baseStr ++ "[name='" ++ nameStr ++ "']/" ++ ocAttr ++ "/")

/-- The component of a line card: `"FPC" + std::to_string(component_id) + ":CPU0"`. -/
def lineCardName (datap : OpenConfigData) : String :=
  "FPC" ++ toString datap.componentId ++ ":CPU0"

@[simp] theorem isPrefix_ocSetPrefixNoAttr (b n : String) :
    (ocSetPrefixNoAttr b n).isPrefix = true := by
  simp [ocSetPrefixNoAttr, KeyValue.isPrefix]

@[simp] theorem isPrefix_ocSetPrefix (b n a : String) :
    (ocSetPrefix b n a).isPrefix = true := by
  simp [ocSetPrefix, KeyValue.isPrefix]

/-! ## The data being built -/

namespace OpenConfigData

/-- `add_kv` for each of the entries. -/
def addKv (datap : OpenConfigData) (l : List KeyValue) : OpenConfigData :=
  { datap with kv := datap.kv ++ l }

@[simp] theorem kv_addKv (d : OpenConfigData) (l : List KeyValue) :
    (d.addKv l).kv = d.kv ++ l := rfl

@[simp] theorem addKv_nil (d : OpenConfigData) : d.addKv [] = d := by
  simp [addKv]

@[simp] theorem addKv_addKv (d : OpenConfigData) (l l' : List KeyValue) :
    (d.addKv l).addKv l' = d.addKv (l ++ l') := by
  simp [addKv]

/-- The loop of a translator: each element adds its prefix and then its entries. -/
def iterateElements {ε : Type} (setPrefix : ε → KeyValue) (entries : ε → List KeyValue)
    (elements : List ε) (datap : OpenConfigData) : OpenConfigData :=
  elements.foldl (fun datap x => datap.addKv (setPrefix x :: entries x)) datap

theorem iterateElements_eq {ε : Type} (setPrefix : ε → KeyValue) (entries : ε → List KeyValue)
    (elements : List ε) (d : OpenConfigData) :
    iterateElements setPrefix entries elements d =
      d.addKv (flat setPrefix entries elements) := by
  unfold iterateElements
  induction elements generalizing d with
  | nil => rw [List.foldl_nil, flat_nil, addKv_nil]
  | cons x elements ih => rw [List.foldl_cons, ih, addKv_addKv, flat_cons, List.cons_append]

/-- `insertExportTimestamp`, at the time `mstime`. -/
def insertExportTimestamp (datap : OpenConfigData) (mstime : UInt64) : OpenConfigData :=
  datap.addKv [.ofUint "__timestamp__" mstime]

end OpenConfigData

/-! ## Entries that are not prefixes -/

/-- None of the entries is read as a prefix. -/
def NoPrefix (l : List KeyValue) : Prop := ∀ kv ∈ l, kv.isPrefix = false

@[simp] theorem noPrefix_nil : NoPrefix [] := fun _ h => absurd h (by simp)

@[simp] theorem noPrefix_cons {kv : KeyValue} {l : List KeyValue} :
    NoPrefix (kv :: l) ↔ kv.key ≠ "__prefix__" ∧ NoPrefix l := by
  simp [NoPrefix, KeyValue.isPrefix, prefixKey]

@[simp] theorem noPrefix_append {l l' : List KeyValue} :
    NoPrefix (l ++ l') ↔ NoPrefix l ∧ NoPrefix l' := by
  simp [NoPrefix, or_imp, forall_and]

@[simp] theorem noPrefix_flatMap {ε : Type} {f : ε → List KeyValue} {l : List ε} :
    NoPrefix (l.flatMap f) ↔ ∀ x ∈ l, NoPrefix (f x) := by
  simp only [NoPrefix, List.mem_flatMap]
  exact ⟨fun h x hx kv hkv => h kv ⟨x, hx, hkv⟩, fun h kv ⟨x, hx, hkv⟩ => h x hx kv hkv⟩

@[simp] theorem noPrefix_ite {c : Prop} [Decidable c] {l l' : List KeyValue}
    (h : NoPrefix l) (h' : NoPrefix l') : NoPrefix (if c then l else l') := by
  split
  · exact h
  · exact h'

/-- The names of the sensors stand in keys beside a `/`, which `__prefix__` does not have. -/
@[simp] theorem append_ne_of_slash {a b : String} (h : '/' ∈ a.toList ∨ '/' ∈ b.toList) :
    a ++ b ≠ "__prefix__" := by
  intro heq
  have hmem : '/' ∈ (a ++ b).toList := by
    rw [String.toList_append]
    exact List.mem_append.mpr h
  rw [heq] at hmem
  exact absurd hmem (by decide)

/-! ## The reader -/

/-- What the reader takes the entries for: the key with the current prefix before it. -/
def finalKeys (l : List KeyValue) : List (String × KeyValue.Value) :=
  (readFlat KeyValue.isPrefix KeyValue.strValue "" l).map fun (pre, kv) =>
    (pre ++ kv.key, kv.value)

end TelemetryAgent
