/-
  JSON documents: values, updates in place, compact text.

  The members of an object stand in the order of the text. A value has them in increasing
  order of their keys, each key once; `normalize` is the value of a document. `key` and `idx`
  select a part of a value and `modifyAt` changes it in place, creating what is missing;
  `none` means that the value has the wrong type for it.

  `write` is the compact text. How the characters of a string and the numbers are spelled is
  a parameter. Where a search text can only lie inside a string (`Sealed`), replacing it in the
  written text replaces it in the strings of the document (`replaceAll_write`).
-/
import Mathlib.Data.String.Basic
import TelemetryAgent.Lib.Text

namespace TelemetryAgent.Lib

universe u v

inductive Json (ν : Type u) where
  | null
  | bool (b : Bool)
  | num (n : ν)
  | str (s : String)
  | arr (items : List (Json ν))
  | obj (members : List (String × Json ν))
  deriving Inhabited

/-! ## Members in order of their keys -/

section Members

variable {β : Type v}

/-- The value of a key that is there is replaced. -/
def insertMember (k : String) (b : β) : List (String × β) → List (String × β)
  | [] => [(k, b)]
  | (k', b') :: ms =>
    if k = k' then (k, b) :: ms
    else if k < k' then (k, b) :: (k', b') :: ms
    else (k', b') :: insertMember k b ms

theorem lookup_cons (a k : String) (b : β) (ms : List (String × β)) :
    ((k, b) :: ms).lookup a = if a = k then some b else ms.lookup a := by
  rw [List.lookup_cons]
  by_cases h : a = k
  · simp [h]
  · simp [beq_false_of_ne h, h]

def eraseMember (k : String) (ms : List (String × β)) : List (String × β) :=
  ms.filter fun m => m.1 ≠ k

end Members

namespace Json

variable {ν : Type u}

/-! ## Parts of a value -/

/-- A missing member is null, and null has no members. -/
def key (k : String) : Json ν → Option (Json ν)
  | null => some null
  | obj ms => some ((ms.lookup k).getD null)
  | _ => none

def idx (i : Nat) : Json ν → Option (Json ν)
  | null => some null
  | arr js => some (js.getD i null)
  | _ => none

def str? : Json ν → Option String
  | str s => some s
  | _ => none

def items? : Json ν → Option (List (Json ν))
  | arr js => some js
  | _ => none

mutual

/-- The strings of a document, the keys included. -/
def strings : Json ν → List String
  | str s => [s]
  | arr js => stringsItems js
  | obj ms => stringsMembers ms
  | _ => []

def stringsItems : List (Json ν) → List String
  | [] => []
  | j :: js => strings j ++ stringsItems js

def stringsMembers : List (String × Json ν) → List String
  | [] => []
  | (k, j) :: ms => k :: (strings j ++ stringsMembers ms)

end

def modifyKey (k : String) (f : Json ν → Option (Json ν)) : Json ν → Option (Json ν)
  | null => (f null).map fun j => obj [(k, j)]
  | obj ms => (f ((ms.lookup k).getD null)).map fun j => obj (insertMember k j ms)
  | _ => none

/-- An array that is too short is filled up with nulls. -/
def modifyIdx (i : Nat) (f : Json ν → Option (Json ν)) : Json ν → Option (Json ν)
  | null => (f null).map fun j => arr (List.replicate i null ++ [j])
  | arr js =>
    (f (js.getD i null)).map fun j => arr ((js ++ List.replicate (i + 1 - js.length) null).set i j)
  | _ => none

def assign (k : String) (v : Json ν) : Json ν → Option (Json ν) := modifyKey k fun _ => some v

def removeMember (k : String) : Json ν → Option (Json ν)
  | null => some null
  | obj ms => some (obj (eraseMember k ms))
  | _ => none

inductive Step where
  | key (k : String)
  | idx (i : Nat)

def modifyAt : List Step → (Json ν → Option (Json ν)) → Json ν → Option (Json ν)
  | [], f => f
  | .key k :: path, f => modifyKey k (modifyAt path f)
  | .idx i :: path, f => modifyIdx i (modifyAt path f)

/-! ## The value of a document -/

mutual

def normalize : Json ν → Json ν
  | null => null
  | bool b => bool b
  | num n => num n
  | str s => str s
  | arr js => arr (normalizeItems js)
  | obj ms => obj (normalizeMembers ms [])

def normalizeItems : List (Json ν) → List (Json ν)
  | [] => []
  | j :: js => normalize j :: normalizeItems js

/-- Of two members with one key the later counts. -/
def normalizeMembers : List (String × Json ν) → List (String × Json ν) → List (String × Json ν)
  | [], acc => acc
  | (k, j) :: ms, acc => normalizeMembers ms (insertMember k (normalize j) acc)

end

/-! ## Text -/

/-- How a writer spells what is inside a string, and a number. -/
structure Spelling (ν : Type u) where
  escape : Char → List Char
  number : ν → List Char

def Spelling.quote (sp : Spelling ν) (s : String) : List Char :=
  '"' :: (s.toList.flatMap sp.escape ++ ['"'])

mutual

def write (sp : Spelling ν) : Json ν → List Char
  | null => ['n', 'u', 'l', 'l']
  | bool true => ['t', 'r', 'u', 'e']
  | bool false => ['f', 'a', 'l', 's', 'e']
  | num n => sp.number n
  | str s => sp.quote s
  | arr [] => ['[', ']']
  | arr (j :: js) => '[' :: (write sp j ++ writeItems sp js)
  | obj [] => ['{', '}']
  | obj ((k, j) :: ms) => '{' :: (sp.quote k ++ ':' :: (write sp j ++ writeMembers sp ms))

/-- The items after the first. -/
def writeItems (sp : Spelling ν) : List (Json ν) → List Char
  | [] => [']']
  | j :: js => ',' :: (write sp j ++ writeItems sp js)

def writeMembers (sp : Spelling ν) : List (String × Json ν) → List Char
  | [] => ['}']
  | (k, j) :: ms => ',' :: (sp.quote k ++ ':' :: (write sp j ++ writeMembers sp ms))

end

/-! ## Replacement in the text of a document -/

mutual

/-- `f` on every string of the document, the keys included. -/
def mapText (f : List Char → List Char) : Json ν → Json ν
  | null => null
  | bool b => bool b
  | num n => num n
  | str s => str (String.ofList (f s.toList))
  | arr js => arr (mapItems f js)
  | obj ms => obj (mapMembers f ms)

def mapItems (f : List Char → List Char) : List (Json ν) → List (Json ν)
  | [] => []
  | j :: js => mapText f j :: mapItems f js

def mapMembers (f : List Char → List Char) : List (String × Json ν) → List (String × Json ν)
  | [] => []
  | (k, j) :: ms => (String.ofList (f k.toList), mapText f j) :: mapMembers f ms

end

mutual

theorem mapText_mapText (f g : List Char → List Char) :
    ∀ j : Json ν, (j.mapText f).mapText g = j.mapText (g ∘ f)
  | null => by simp only [mapText]
  | bool _ => by simp only [mapText]
  | num _ => by simp only [mapText]
  | str _ => by simp only [mapText, String.toList_ofList, Function.comp_apply]
  | arr js => by simp only [mapText, mapItems_mapItems f g js]
  | obj ms => by simp only [mapText, mapMembers_mapMembers f g ms]

theorem mapItems_mapItems (f g : List Char → List Char) :
    ∀ js : List (Json ν), mapItems g (mapItems f js) = mapItems (g ∘ f) js
  | [] => rfl
  | j :: js => by simp only [mapItems, mapText_mapText f g j, mapItems_mapItems f g js]

theorem mapMembers_mapMembers (f g : List Char → List Char) :
    ∀ ms : List (String × Json ν), mapMembers g (mapMembers f ms) = mapMembers (g ∘ f) ms
  | [] => rfl
  | (k, j) :: ms => by
    simp only [mapMembers, mapText_mapText f g j, mapMembers_mapMembers f g ms,
      String.toList_ofList, Function.comp_apply]

end

/-- The characters of a written document outside its strings and numbers, and the quote. -/
def syntaxChars : List Char :=
  ['"', '{', '}', '[', ']', ',', ':', 'n', 'u', 'l', 't', 'r', 'e', 'f', 'a', 's']

/-- `p` is found in a written document only inside a string, where it reads as in the plain
    string. -/
structure Sealed (sp : Spelling ν) (p : List Char) (hp : p ≠ []) : Prop where
  transparent : Transparent sp.escape p hp
  quote : '"' ∉ p
  syntaxChars : p.head hp ∉ syntaxChars
  number : ∀ n, p.head hp ∉ sp.number n

section Replace

variable {sp : Spelling ν} {p r : List Char} {hp : p ≠ []}

theorem Sealed.replaceAll_cons (h : Sealed sp p hp) {c : Char} (hc : c ∈ Json.syntaxChars)
    (s : List Char) : replaceAll p r (c :: s) = c :: replaceAll p r s :=
  replaceAll_cons_of_ne hp (fun he => h.syntaxChars (he ▸ hc)) s

theorem Sealed.replaceAll_literal (h : Sealed sp p hp) {l : List Char}
    (hl : l ⊆ Json.syntaxChars) (s : List Char) :
    replaceAll p r (l ++ s) = l ++ replaceAll p r s :=
  replaceAll_append hp (fun hm => h.syntaxChars (hl hm)) s

theorem Sealed.replaceAll_quote (h : Sealed sp p hp) (hr : ∀ c ∈ r, sp.escape c = [c])
    (s : String) (rest : List Char) :
    replaceAll p r (sp.quote s ++ rest) =
      sp.quote (String.ofList (replaceAll p r s.toList)) ++ replaceAll p r rest := by
  unfold Spelling.quote
  rw [List.cons_append, List.append_assoc, List.singleton_append,
    h.replaceAll_cons (by decide), replaceAll_flatMap h.transparent hr h.quote]
  simp

mutual

theorem replaceAll_write (h : Sealed sp p hp) (hr : ∀ c ∈ r, sp.escape c = [c]) :
    ∀ (j : Json ν) (rest : List Char),
    replaceAll p r (j.write sp ++ rest) =
      (j.mapText (replaceAll p r)).write sp ++ replaceAll p r rest
  | null, rest => h.replaceAll_literal (l := ['n', 'u', 'l', 'l']) (by decide) rest
  | bool true, rest => h.replaceAll_literal (l := ['t', 'r', 'u', 'e']) (by decide) rest
  | bool false, rest => h.replaceAll_literal (l := ['f', 'a', 'l', 's', 'e']) (by decide) rest
  | num n, rest => replaceAll_append hp (h.number n) rest
  | str s, rest => h.replaceAll_quote hr s rest
  | arr [], rest => h.replaceAll_literal (l := ['[', ']']) (by decide) rest
  | arr (j :: js), rest => by
    simp only [write, mapText, mapItems, List.cons_append, List.append_assoc]
    rw [h.replaceAll_cons (by decide), replaceAll_write h hr j, replaceAll_writeItems h hr js]
  | obj [], rest => h.replaceAll_literal (l := ['{', '}']) (by decide) rest
  | obj ((k, j) :: ms), rest => by
    simp only [write, mapText, mapMembers, List.cons_append, List.append_assoc]
    rw [h.replaceAll_cons (by decide), h.replaceAll_quote hr, h.replaceAll_cons (by decide),
      replaceAll_write h hr j, replaceAll_writeMembers h hr ms]

theorem replaceAll_writeItems (h : Sealed sp p hp) (hr : ∀ c ∈ r, sp.escape c = [c]) :
    ∀ (js : List (Json ν)) (rest : List Char),
    replaceAll p r (writeItems sp js ++ rest) =
      writeItems sp (mapItems (replaceAll p r) js) ++ replaceAll p r rest
  | [], rest => h.replaceAll_literal (l := [']']) (by decide) rest
  | j :: js, rest => by
    simp only [writeItems, mapItems, List.cons_append, List.append_assoc]
    rw [h.replaceAll_cons (by decide), replaceAll_write h hr j, replaceAll_writeItems h hr js]

theorem replaceAll_writeMembers (h : Sealed sp p hp) (hr : ∀ c ∈ r, sp.escape c = [c]) :
    ∀ (ms : List (String × Json ν)) (rest : List Char),
    replaceAll p r (writeMembers sp ms ++ rest) =
      writeMembers sp (mapMembers (replaceAll p r) ms) ++ replaceAll p r rest
  | [], rest => h.replaceAll_literal (l := ['}']) (by decide) rest
  | (k, j) :: ms, rest => by
    simp only [writeMembers, mapMembers, List.cons_append, List.append_assoc]
    rw [h.replaceAll_cons (by decide), h.replaceAll_quote hr, h.replaceAll_cons (by decide),
      replaceAll_write h hr j, replaceAll_writeMembers h hr ms]

end

end Replace

end Json

end TelemetryAgent.Lib
