/-
  `INIReader` (INIReader.cpp): the values of a configuration file, by section and name.

  A value that is continued, or stands in the file again, is appended behind a newline. Case makes
  no difference in a section or a name. `get_new_layout` says what is found in a laid out text,
  whatever the order and the layout of its lines.
-/
import TelemetryAgent.Inih.Layout
import TelemetryAgent.Lib.OrderedMap

namespace TelemetryAgent

open Lib Std

namespace Ini

/-- The fields `_error` and `_values`. -/
structure INIReader where
  error : Int
  values : ExtTreeMap String String

namespace INIReader

def makeKey (inSection name : List Char) : String :=
  String.ofList ((inSection ++ '=' :: name).map Char.toLower)

/-- `+=` with a newline in between, if there is something already. -/
def appendValue (old value : String) : String :=
  (if 0 < old.length then old ++ "\n" else old) ++ value

def valueHandler : Handler (ExtTreeMap String String) := fun values inSection name value =>
  let key := makeKey inSection name
  (true, values.insert key (appendValue (values.getD key "") (String.ofList value)))

/-- The constructor, with the content of the file. -/
def new (file : Option (List Char)) : INIReader :=
  let (error, values) := iniParse valueHandler ∅ file
  ⟨error, values⟩

def parseError (reader : INIReader) : Int := reader.error

def get (reader : INIReader) (inSection name defaultValue : String) : String :=
  (reader.values[makeKey inSection.toList name.toList]?).getD defaultValue

def getInteger (reader : INIReader) (inSection name : String) (defaultValue : Int) : Int :=
  (strtol (reader.get inSection name "").toList).getD defaultValue

def getBoolean (reader : INIReader) (inSection name : String) (defaultValue : Bool) : Bool :=
  let valstr := String.ofList ((reader.get inSection name "").toList.map Char.toLower)
  if valstr = "true" ∨ valstr = "yes" ∨ valstr = "on" ∨ valstr = "1" then true
  else if valstr = "false" ∨ valstr = "no" ∨ valstr = "off" ∨ valstr = "0" then false
  else defaultValue

/-! ## What is found -/

/-- The values that a text gives for a key, in order. -/
def valuesOf (l : List Setting) (key : String) : List String :=
  (l.filter fun x => makeKey x.inSection x.name = key).map fun x => String.ofList x.value

/-- What is left of the values of a key: the lines from the first one on that is not empty. -/
def joined (values : List String) : String := "\n".intercalate (values.dropWhile (· = ""))

/-- What a lookup finds in the settings. -/
def lookup (l : List Setting) (inSection name defaultValue : String) : String :=
  match valuesOf l (makeKey inSection.toList name.toList) with
  | [] => defaultValue
  | values => joined values

theorem valuesOf_cons_self (x : Setting) (l : List Setting) :
    valuesOf (x :: l) (makeKey x.inSection x.name) =
      String.ofList x.value :: valuesOf l (makeKey x.inSection x.name) := by
  rw [valuesOf, List.filter_cons_of_pos (by simp), List.map_cons]
  rfl

theorem valuesOf_cons_of_ne {x : Setting} {key : String} (h : makeKey x.inSection x.name ≠ key)
    (l : List Setting) : valuesOf (x :: l) key = valuesOf l key := by
  rw [valuesOf, List.filter_cons_of_neg (by simpa using h)]
  rfl

/-- A key that is there once has one value. -/
theorem valuesOf_of_nodup {l : List Setting}
    (hl : (l.map fun x => makeKey x.inSection x.name).Nodup) {x : Setting} (hx : x ∈ l) :
    valuesOf l (makeKey x.inSection x.name) = [String.ofList x.value] := by
  induction l with
  | nil => exact absurd hx List.not_mem_nil
  | cons y l ih =>
    rw [List.map_cons, List.nodup_cons] at hl
    obtain rfl | hx := List.mem_cons.mp hx
    · have hrest : valuesOf l (makeKey x.inSection x.name) = [] := by
        rw [valuesOf, List.map_eq_nil_iff, List.filter_eq_nil_iff]
        intro y hy h
        exact hl.1 (List.mem_map.mpr ⟨y, hy, by simpa using h⟩)
      rw [valuesOf_cons_self, hrest]
    · rw [valuesOf_cons_of_ne fun h => hl.1 (List.mem_map.mpr ⟨x, hx, h.symm⟩), ih hl.2 hx]

theorem foldl_appendValue (values : List String) {old : String} (hold : 0 < old.length) :
    values.foldl appendValue old = "\n".intercalate (old :: values) := by
  induction values generalizing old with
  | nil => exact String.intercalate_singleton.symm
  | cons value values ih =>
    have hpos : 0 < (old ++ "\n" ++ value).length := by
      rw [String.length_append, String.length_append]
      omega
    rw [List.foldl_cons, appendValue, if_pos hold, ih hpos, String.intercalate_cons_append,
      String.intercalate_cons_cons]

theorem foldl_appendValue_empty (values : List String) :
    values.foldl appendValue "" = joined values := by
  induction values with
  | nil => exact String.intercalate_nil.symm
  | cons value values ih =>
    have hfirst : appendValue "" value = value := String.empty_append
    rw [joined, List.foldl_cons, hfirst]
    by_cases hv : value = ""
    · rw [hv, List.dropWhile_cons_of_pos (by simp)]
      exact ih
    · rw [List.dropWhile_cons_of_neg (by simpa using hv)]
      exact foldl_appendValue values (Nat.pos_of_ne_zero fun h => hv (String.length_eq_zero_iff.mp h))

/-- The handler keeps, under each key, what it had and the new values. -/
theorem getElem?_collect (values : ExtTreeMap String String) (l : List Setting) (key : String) :
    (collect valueHandler values l)[key]? =
      if valuesOf l key = [] then values[key]?
      else some ((valuesOf l key).foldl appendValue (values[key]?.getD "")) := by
  induction l generalizing values with
  | nil => rfl
  | cons x l ih =>
    rw [collect, List.foldl_cons]
    change (collect valueHandler (valueHandler values x.inSection x.name x.value).2 l)[key]? = _
    rw [ih, valueHandler]
    dsimp only
    rw [getElem?_insert_eq, ExtTreeMap.getD_eq_getD_getElem?]
    by_cases hkey : makeKey x.inSection x.name = key
    · subst hkey
      rw [if_pos rfl, valuesOf_cons_self, if_neg (List.cons_ne_nil _ _), List.foldl_cons,
        Option.getD_some]
      split_ifs with hnil
      · rw [hnil, List.foldl_nil]
      · rfl
    · rw [if_neg hkey, valuesOf_cons_of_ne hkey]

theorem get_collect (error : Int) (l : List Setting) (inSection name defaultValue : String) :
    (INIReader.mk error (collect valueHandler ∅ l)).get inSection name defaultValue =
      lookup l inSection name defaultValue := by
  rw [get, getElem?_collect, lookup]
  split_ifs with hnil
  · rw [hnil, ExtTreeMap.getElem?_empty, Option.getD_none]
  · split
    · next h => exact absurd h hnil
    · rw [ExtTreeMap.getElem?_empty, Option.getD_none, Option.getD_some, foldl_appendValue_empty]

theorem new_layout {es : List Entry} (hsound : ∀ e ∈ es, e.Sound ∧ e.Fits)
    (hplaced : Placed false es) :
    new (some (layout es)) =
      ⟨firstNonsense 1 es, collect valueHandler ∅ (settings [] [] es)⟩ := by
  rw [new, iniParse, iniParseStream_layout (fun _ _ _ _ => rfl) hsound hplaced]

/-- In a laid out text a lookup finds the values of the key, whatever the case of its letters, and
    the error is the first line that makes no sense. -/
theorem get_new_layout {es : List Entry} (hsound : ∀ e ∈ es, e.Sound ∧ e.Fits)
    (hplaced : Placed false es) :
    (new (some (layout es))).parseError = firstNonsense 1 es ∧
      ∀ inSection name defaultValue : String,
        (new (some (layout es))).get inSection name defaultValue =
          lookup (settings [] [] es) inSection name defaultValue := by
  rw [new_layout hsound hplaced]
  exact ⟨rfl, get_collect _ _⟩

/-- A value of three parts, under one name in two spellings, with a line of no meaning between. -/
def continuedFile : List Entry :=
  [.comment [] '#' " global".toList, .blank [' '], .heading "udp".toList [],
    .pair "Ip".toList [' '] '=' [' '] "c; d".toList [' '] (some " e".toList), .nonsense "f".toList,
    .more ['\t'] "g = h".toList [], .nonsense "[i".toList, .heading "j".toList " k".toList,
    .pair "l".toList [] ':' [] [] [] none, .heading "UDP".toList [],
    .pair "ip".toList [] '=' [] "last".toList [] none]

theorem get_new_layout_continued :
    (new (some (layout continuedFile))).parseError = 5 ∧
      (new (some (layout continuedFile))).get "udp" "IP" "none" = "c; d\ng = h\nlast" := by
  have hsound : ∀ e ∈ continuedFile, e.Sound ∧ e.Fits := by decide
  have h := get_new_layout hsound (by decide)
  exact ⟨h.1, (h.2 "udp" "IP" "none").trans (by decide)⟩

end INIReader

end Ini

end TelemetryAgent
