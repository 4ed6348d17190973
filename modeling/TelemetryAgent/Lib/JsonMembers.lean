/-
  What a JSON value has under its keys, and the merge of two values.

  `IsValue`: each object in the value has its members in increasing order of their keys, each
  key once. That is how the values are kept in memory, and how a document is read.

  `DeepMerge super sub r`: `r` has the members of `super` and of `sub`. Where both have a key,
  `r` has the merge of the two members if both are objects, and otherwise that of `sub`.

  * `insertMember_comm`: members with different keys may be put in in any order.
-/
import Mathlib.Data.List.Sort
import TelemetryAgent.Lib.Json

namespace TelemetryAgent.Lib

universe u v

/-! ## Members -/

section Members

variable {β : Type v} {k : String} {b : β} {ms : List (String × β)}

theorem lookup_insertMember (k : String) (b : β) (ms : List (String × β)) (a : String) :
    (insertMember k b ms).lookup a = if a = k then some b else ms.lookup a := by
  induction ms with
  | nil => exact lookup_cons a k b []
  | cons m ms ih =>
    obtain ⟨k', b'⟩ := m
    unfold insertMember
    split
    · next h =>
      subst h
      rw [lookup_cons, lookup_cons]
      split <;> rfl
    · split
      · rw [lookup_cons]
      · next hne _ =>
        rw [lookup_cons, lookup_cons, ih]
        by_cases ha : a = k
        · subst ha
          simp [hne]
        · simp [ha]

theorem mem_keys_insertMember {a : String} :
    a ∈ (insertMember k b ms).map Prod.fst ↔ a = k ∨ a ∈ ms.map Prod.fst := by
  induction ms with
  | nil => simp [insertMember]
  | cons m ms ih =>
    obtain ⟨k', b'⟩ := m
    unfold insertMember
    split
    · next h => simp [h]
    · split
      · simp
      · rw [List.map_cons, List.mem_cons, ih, List.map_cons, List.mem_cons]
        tauto

/-- The members stand in increasing order of their keys, each key once. -/
def Sorted (ms : List (String × β)) : Prop := (ms.map Prod.fst).Pairwise (· < ·)

@[simp] theorem sorted_nil : Sorted ([] : List (String × β)) := List.Pairwise.nil

@[simp] theorem sorted_cons {m : String × β} :
    Sorted (m :: ms) ↔ (∀ a ∈ ms.map Prod.fst, m.1 < a) ∧ Sorted ms := by
  rw [Sorted, List.map_cons, List.pairwise_cons]
  rfl

theorem sorted_insertMember (k : String) (b : β) (h : Sorted ms) :
    Sorted (insertMember k b ms) := by
  induction ms with
  | nil => exact sorted_cons.mpr ⟨by simp, sorted_nil⟩
  | cons m ms ih =>
    obtain ⟨k', b'⟩ := m
    obtain ⟨hlt, hms⟩ := sorted_cons.mp h
    unfold insertMember
    split
    · next heq => exact sorted_cons.mpr ⟨by rw [heq]; exact hlt, hms⟩
    · split
      · next hk =>
        refine sorted_cons.mpr ⟨fun a ha => ?_, h⟩
        rw [List.map_cons, List.mem_cons] at ha
        rcases ha with rfl | ha
        · exact hk
        · exact lt_trans hk (hlt a ha)
      · next hne hk =>
        refine sorted_cons.mpr ⟨fun a ha => ?_, ih hms⟩
        rcases mem_keys_insertMember.mp ha with rfl | ha
        · exact lt_of_le_of_ne (not_lt.mp hk) (Ne.symm hne)
        · exact hlt a ha

theorem lookup_eq_none_of_not_mem {a : String} (h : a ∉ ms.map Prod.fst) :
    ms.lookup a = none := by
  rw [List.lookup_eq_none_iff]
  intro m hm
  have hne : a ≠ m.1 := fun heq => h (heq ▸ List.mem_map_of_mem hm)
  simpa using hne

theorem lookup_of_mem (hs : Sorted ms) (h : (k, b) ∈ ms) : ms.lookup k = some b := by
  induction ms with
  | nil => cases h
  | cons m ms ih =>
    obtain ⟨k', b'⟩ := m
    obtain ⟨hlt, hms⟩ := sorted_cons.mp hs
    rw [lookup_cons]
    rcases List.mem_cons.mp h with heq | hmem
    · obtain ⟨rfl, rfl⟩ := Prod.mk.inj heq
      rw [if_pos rfl]
    · have hk : k' < k := hlt k (List.mem_map_of_mem hmem)
      rw [if_neg (ne_of_gt hk), ih hms hmem]

/-- What is there already is left as it is. -/
theorem insertMember_of_mem (hs : Sorted ms) (h : (k, b) ∈ ms) : insertMember k b ms = ms := by
  induction ms with
  | nil => cases h
  | cons m ms ih =>
    obtain ⟨k', b'⟩ := m
    obtain ⟨hlt, hms⟩ := sorted_cons.mp hs
    unfold insertMember
    rcases List.mem_cons.mp h with heq | hmem
    · obtain ⟨rfl, rfl⟩ := Prod.mk.inj heq
      rw [if_pos rfl]
    · have hk : k' < k := hlt k (List.mem_map_of_mem hmem)
      rw [if_neg (ne_of_gt hk), if_neg (not_lt_of_gt hk), ih hms hmem]

/-- Sorted members are known by what is found under the keys. -/
theorem eq_of_lookup_eq {ms' : List (String × β)} (h : Sorted ms) (h' : Sorted ms')
    (heq : ∀ a, ms.lookup a = ms'.lookup a) : ms = ms' := by
  have hmem : ∀ {l l' : List (String × β)}, Sorted l → (∀ a, l.lookup a = l'.lookup a) →
      ∀ m ∈ l, m ∈ l' := by
    intro l l' hl hll' m hm
    have hlook : l'.lookup m.1 = some m.2 := by rw [← hll', lookup_of_mem hl hm]
    obtain ⟨l1, l2, rfl, -⟩ := List.lookup_eq_some_iff.mp hlook
    simp
  have hirrefl : Std.Irrefl fun m m' : String × β => m.1 < m'.1 := ⟨fun m => lt_irrefl m.1⟩
  have hasymm : Std.Asymm fun m m' : String × β => m.1 < m'.1 := ⟨fun m m' => lt_asymm⟩
  exact (List.pairwise_map.mp h).eq_of_mem_iff (List.pairwise_map.mp h')
    fun m => ⟨hmem h heq m, hmem h' (fun a => (heq a).symm) m⟩

/-- The later of two values with one key stays. -/
theorem insertMember_insertMember (k : String) (b b' : β) (hs : Sorted ms) :
    insertMember k b (insertMember k b' ms) = insertMember k b ms := by
  refine eq_of_lookup_eq (sorted_insertMember _ _ (sorted_insertMember _ _ hs))
    (sorted_insertMember _ _ hs) fun a => ?_
  simp only [lookup_insertMember]
  split <;> rfl

theorem insertMember_comm {k k' : String} (hne : k ≠ k') (b b' : β) (hs : Sorted ms) :
    insertMember k b (insertMember k' b' ms) = insertMember k' b' (insertMember k b ms) := by
  refine eq_of_lookup_eq (sorted_insertMember _ _ (sorted_insertMember _ _ hs))
    (sorted_insertMember _ _ (sorted_insertMember _ _ hs)) fun a => ?_
  simp only [lookup_insertMember]
  by_cases ha : a = k
  · rw [if_pos ha, if_pos ha, if_neg (fun h => hne (ha.symm.trans h))]
  · rw [if_neg ha, if_neg ha]

end Members

namespace Json

variable {ν : Type u}

/-! ## Values -/

mutual

def IsValue : Json ν → Prop
  | arr js => AreValues js
  | obj ms => Sorted ms ∧ MembersAreValues ms
  | _ => True

def AreValues : List (Json ν) → Prop
  | [] => True
  | j :: js => IsValue j ∧ AreValues js

def MembersAreValues : List (String × Json ν) → Prop
  | [] => True
  | (_, j) :: ms => IsValue j ∧ MembersAreValues ms

end

theorem membersAreValues_iff {ms : List (String × Json ν)} :
    MembersAreValues ms ↔ ∀ m ∈ ms, m.2.IsValue := by
  induction ms with
  | nil => simp [MembersAreValues]
  | cons m ms ih =>
    obtain ⟨k, j⟩ := m
    rw [MembersAreValues, ih, List.forall_mem_cons]

theorem areValues_iff {js : List (Json ν)} : AreValues js ↔ ∀ j ∈ js, j.IsValue := by
  induction js with
  | nil => simp [AreValues]
  | cons j js ih => rw [AreValues, ih, List.forall_mem_cons]

@[simp] theorem isValue_str (s : String) : (str s : Json ν).IsValue := by simp [IsValue]

@[simp] theorem isValue_arr {js : List (Json ν)} : (arr js).IsValue ↔ ∀ j ∈ js, j.IsValue := by
  rw [IsValue, areValues_iff]

@[simp] theorem isValue_null : (null : Json ν).IsValue := by simp [IsValue]

@[simp] theorem isValue_obj {ms : List (String × Json ν)} :
    (obj ms).IsValue ↔ Sorted ms ∧ ∀ m ∈ ms, m.2.IsValue := by
  rw [IsValue, membersAreValues_iff]

theorem isValue_insertMember {k : String} {j : Json ν} {ms : List (String × Json ν)}
    (hj : j.IsValue) (h : (obj ms).IsValue) : (obj (insertMember k j ms)).IsValue := by
  obtain ⟨hs, hms⟩ := isValue_obj.mp h
  refine isValue_obj.mpr ⟨sorted_insertMember k j hs, fun m hm => ?_⟩
  have hlook : (insertMember k j ms).lookup m.1 = some m.2 :=
    lookup_of_mem (sorted_insertMember k j hs) hm
  rw [lookup_insertMember] at hlook
  split at hlook
  · exact Option.some.inj hlook ▸ hj
  · obtain ⟨l1, l2, rfl, -⟩ := List.lookup_eq_some_iff.mp hlook
    exact hms m (by simp)

/-! ## Members of a value -/

/-- The member, if there is one. -/
def member? (k : String) : Json ν → Option (Json ν)
  | obj ms => ms.lookup k
  | _ => none

def isObject : Json ν → Bool
  | obj _ => true
  | _ => false

theorem isObject_iff {j : Json ν} : j.isObject = true ↔ ∃ ms, j = obj ms := by
  cases j with
  | obj ms => exact ⟨fun _ => ⟨ms, rfl⟩, fun _ => rfl⟩
  | _ => simp [isObject]

theorem getD_eq_obj {o : Option (Json ν)} {ms : List (String × Json ν)} :
    o.getD null = obj ms ↔ o = some (obj ms) := by
  cases o with
  | none => simp
  | some j => simp

/-- Null or an object. -/
def HasKeys (j : Json ν) : Prop := j = null ∨ ∃ ms, j = obj ms

theorem isValue_of_member {k : String} {j v : Json ν} (h : j.IsValue) (hv : j.member? k = some v) :
    v.IsValue := by
  cases j with
  | obj ms =>
    obtain ⟨l1, l2, rfl, -⟩ := List.lookup_eq_some_iff.mp hv
    exact (isValue_obj.mp h).2 (k, v) (by simp)
  | _ => cases hv

/-- The member is put in, into null as into an empty object. -/
def setMember (j : Json ν) (k : String) (v : Json ν) : Json ν :=
  match j with
  | obj ms => obj (insertMember k v ms)
  | _ => obj [(k, v)]

section Set

variable {k : String} {v j : Json ν}

theorem member_setMember (j : Json ν) (k : String) (v : Json ν) (a : String) :
    (j.setMember k v).member? a = if a = k then some v else j.member? a := by
  cases j with
  | obj ms => exact lookup_insertMember k v ms a
  | _ => exact lookup_cons a k v []

@[simp] theorem isObject_setMember : (j.setMember k v).isObject = true := by
  cases j <;> rfl

theorem hasKeys_setMember : (j.setMember k v).HasKeys := by
  cases j <;> exact .inr ⟨_, rfl⟩

theorem isValue_setMember (hv : v.IsValue) (hj : j.IsValue) : (j.setMember k v).IsValue := by
  cases j with
  | obj ms => exact isValue_insertMember hv hj
  | _ => exact isValue_insertMember hv (isValue_obj.mpr ⟨sorted_nil, by simp⟩)

theorem modifyKey_eq (hj : j.HasKeys) (k : String) (f : Json ν → Option (Json ν)) :
    j.modifyKey k f = (f ((j.member? k).getD null)).map fun v => j.setMember k v := by
  obtain rfl | ⟨ms, rfl⟩ := hj
  · rfl
  · rfl

theorem assign_eq (hj : j.HasKeys) : assign k v j = some (j.setMember k v) :=
  modifyKey_eq hj k _

theorem setMember_of_member {ms : List (String × Json ν)} (hs : Sorted ms) (h : (k, v) ∈ ms) :
    (obj ms).setMember k v = obj ms := by
  rw [setMember, insertMember_of_mem hs h]

end Set

/-- Values that have keys are known by their members, up to null and the empty object. -/
theorem eq_of_member_eq {j j' : Json ν} (h : j.IsValue) (h' : j'.IsValue) (hj : j.HasKeys)
    (hj' : j'.HasKeys) (hobject : j.isObject = j'.isObject)
    (heq : ∀ k, j.member? k = j'.member? k) : j = j' := by
  obtain rfl | ⟨ms, rfl⟩ := hj
  · obtain rfl | ⟨ms', rfl⟩ := hj'
    · rfl
    · cases hobject
  · obtain rfl | ⟨ms', rfl⟩ := hj'
    · cases hobject
    · rw [eq_of_lookup_eq (isValue_obj.mp h).1 (isValue_obj.mp h').1 heq]

/-! ## The merge -/

inductive DeepMerge : Json ν → Json ν → Json ν → Prop
  | intro {super sub r : Json ν} (hasKeys : r.HasKeys)
      (isObject : r.isObject ↔ super.isObject ∨ ∃ k, sub.member? k ≠ none)
      (keep : ∀ k, sub.member? k = none → r.member? k = super.member? k)
      (both : ∀ k ms ms', super.member? k = some (obj ms) → sub.member? k = some (obj ms') →
        r.member? k ≠ none)
      (deep : ∀ k ms ms' j, super.member? k = some (obj ms) → sub.member? k = some (obj ms') →
        r.member? k = some j → DeepMerge (obj ms) (obj ms') j)
      (replace : ∀ k v, sub.member? k = some v →
        (∀ ms ms', super.member? k = some (obj ms) → v ≠ obj ms') → r.member? k = some v) :
      DeepMerge super sub r

/-- What a merge has under one key. -/
def MergedMember (old new out : Option (Json ν)) : Prop :=
  match new with
  | none => out = old
  | some v => ∃ j, out = some j ∧
    (∀ ms ms', old = some (obj ms) → v = obj ms' → DeepMerge (obj ms) (obj ms') j) ∧
    ((∀ ms ms', old = some (obj ms) → v ≠ obj ms') → j = v)

theorem DeepMerge.of_members {super sub r : Json ν} (hkeys : r.HasKeys)
    (hobject : r.isObject ↔ super.isObject ∨ ∃ k, sub.member? k ≠ none)
    (h : ∀ k, MergedMember (super.member? k) (sub.member? k) (r.member? k)) :
    DeepMerge super sub r := by
  refine .intro hkeys hobject (fun k hk => ?_) (fun k ms ms' _ hk => ?_)
    (fun k ms ms' j hsuper hk hj => ?_) fun k v hk hnot => ?_
  · have hmember := h k
    rwa [hk] at hmember
  · have hmember := h k
    rw [hk] at hmember
    obtain ⟨j, hj, -⟩ := hmember
    rw [hj]
    exact Option.some_ne_none j
  · have hmember := h k
    rw [hk] at hmember
    obtain ⟨j', hj', hdeep, -⟩ := hmember
    rw [hj', Option.some.injEq] at hj
    exact hj ▸ hdeep ms ms' hsuper rfl
  · have hmember := h k
    rw [hk] at hmember
    obtain ⟨j, hj, -, hreplace⟩ := hmember
    rw [hj, hreplace hnot]

/-- There is only one merge of two values. -/
theorem DeepMerge.unique {super sub r r' : Json ν} (h : DeepMerge super sub r)
    (h' : DeepMerge super sub r') (hr : r.IsValue) (hr' : r'.IsValue) : r = r' := by
  induction h generalizing r' with
  | @intro super sub r hkeys hobject hkeep hboth hdeep hreplace ih =>
    obtain ⟨hkeys', hobject', hkeep', hboth', hdeep', hreplace'⟩ := h'
    refine eq_of_member_eq hr hr' hkeys hkeys' ?_ fun k => ?_
    · rw [Bool.eq_iff_iff, hobject, hobject']
    · cases hsub : sub.member? k with
      | none => rw [hkeep k hsub, hkeep' k hsub]
      | some v =>
        by_cases hobj : ∃ ms ms', super.member? k = some (obj ms) ∧ v = obj ms'
        · obtain ⟨ms, ms', hsuper, rfl⟩ := hobj
          obtain ⟨j, hj⟩ := Option.ne_none_iff_exists'.mp (hboth k ms ms' hsuper hsub)
          obtain ⟨j', hj'⟩ := Option.ne_none_iff_exists'.mp (hboth' k ms ms' hsuper hsub)
          rw [hj, hj', ih k ms ms' j hsuper hsub hj (hdeep' k ms ms' j' hsuper hsub hj')
            (isValue_of_member hr hj) (isValue_of_member hr' hj')]
        · have hnot : ∀ ms ms', super.member? k = some (obj ms) → v ≠ obj ms' :=
            fun ms ms' hsuper hv => hobj ⟨ms, ms', hsuper, hv⟩
          rw [hreplace k v hsub hnot, hreplace' k v hsub hnot]

/-! ## Members at any depth -/

/-- What is under one key after the other. -/
def get? : List String → Json ν → Option (Json ν)
  | [], j => some j
  | k :: path, j => (j.member? k).bind (get? path)

/-- Each member of `j`, at any depth, is in `j'` as it is, or both are objects. -/
def Within (j j' : Json ν) : Prop :=
  ∀ k path v, j.get? (k :: path) = some v →
    ∃ v', j'.get? (k :: path) = some v' ∧ (v' = v ∨ v.isObject ∧ v'.isObject)

theorem DeepMerge.within {super sub r : Json ν} (h : DeepMerge super sub r) : sub.Within r := by
  induction h with
  | @intro super sub r _ _ _ hboth hdeep hreplace ih =>
    intro k path v hv
    obtain ⟨w, hw, hpath⟩ := Option.bind_eq_some_iff.mp hv
    by_cases hobj : ∃ ms ms', super.member? k = some (obj ms) ∧ w = obj ms'
    · obtain ⟨ms, ms', hsuper, rfl⟩ := hobj
      obtain ⟨j, hj⟩ := Option.ne_none_iff_exists'.mp (hboth k ms ms' hsuper hw)
      have hr : r.get? (k :: path) = j.get? path := by rw [get?, hj, Option.bind_some]
      rw [hr]
      cases path with
      | nil =>
        obtain ⟨-, hobject, -⟩ := hdeep k ms ms' j hsuper hw hj
        obtain rfl := Option.some.inj hpath
        exact ⟨j, rfl, .inr ⟨rfl, hobject.mpr (.inl rfl)⟩⟩
      | cons k' path => exact ih k ms ms' j hsuper hw hj k' path v hpath
    · have hnot : ∀ ms ms', super.member? k = some (obj ms) → w ≠ obj ms' :=
        fun ms ms' hsuper he => hobj ⟨ms, ms', hsuper, he⟩
      refine ⟨v, ?_, .inl rfl⟩
      rw [get?, hreplace k w hw hnot, Option.bind_some, hpath]

end Json

end TelemetryAgent.Lib
