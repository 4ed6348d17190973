/-
  `JsonUtils` (JsonUtils.cpp), over the JSON library that it calls.

  The library is a parameter: how `Json::FastWriter` spells the inside of a string and a
  number, and `Json::Reader`. `Jsoncpp.Lawful` says what the configuration code relies on:
  printable ASCII stands for itself inside a string, every other character is written raw or as
  an escape, and reading what was written gives the value of the document.

  `none` is a failed assertion of `Json::Value`.
-/
import TelemetryAgent.Lib.Json

namespace TelemetryAgent

open TelemetryAgent.Lib

/-- `parse` is `Json::Reader::parse`; `none` is a parse error. -/
structure Jsoncpp (ν : Type) extends Json.Spelling ν where
  parse : List Char → Option (Json ν)

variable {ν : Type}

namespace Jsoncpp

/-- Printable ASCII but for the quote and the backslash. -/
def isPlain (c : Char) : Bool := 32 ≤ c.toNat && c.toNat ≤ 126 && c ≠ '"' && c ≠ '\\'

/-- The characters of an escape after its backslash. -/
def isEscapeTail (c : Char) : Bool := c.isAlphanum || c = '\\' || c = '"' || c = '/'

def isNumberChar (c : Char) : Bool := c.isAlphanum || c = '-' || c = '+' || c = '.'

structure Lawful (lib : Jsoncpp ν) : Prop where
  escape_plain : ∀ c, isPlain c = true → lib.escape c = [c]
  escape_other : ∀ c, isPlain c = false →
    lib.escape c = [c] ∨ ∃ s, lib.escape c = '\\' :: s ∧ ∀ d ∈ s, isEscapeTail d = true
  number : ∀ n, ∀ c ∈ lib.number n, isNumberChar c = true
  parse_write : ∀ j : Json ν, lib.parse (j.write lib.toSpelling) = some j.normalize

/-- A search text of plain characters that begins with none of the syntax is found in a
    written document only inside its strings. -/
theorem Lawful.sealed {lib : Jsoncpp ν} (h : lib.Lawful) {p : List Char} (hp : p ≠ [])
    (hplain : ∀ c ∈ p, isPlain c = true) (htail : isEscapeTail (p.head hp) = false)
    (hnumber : isNumberChar (p.head hp) = false) (hsyn : p.head hp ∉ Json.syntaxChars) :
    Json.Sealed lib.toSpelling p hp where
  transparent :=
    { keep := fun c hc => h.escape_plain c (hplain c hc)
      other := by
        intro c hc
        by_cases hpl : isPlain c = true
        · exact ⟨c, [], h.escape_plain c hpl, hc, List.not_mem_nil⟩
        · obtain he | ⟨s, he, hs⟩ := h.escape_other c (by simpa using hpl)
          · exact ⟨c, [], he, hc, List.not_mem_nil⟩
          · refine ⟨'\\', s, he, fun hm => ?_, fun hm => ?_⟩
            · exact absurd (hplain _ hm) (by decide)
            · rw [hs _ hm] at htail
              exact absurd htail (by decide) }
  quote hq := absurd (hplain _ hq) (by decide)
  syntaxChars := hsyn
  number n hn := by
    rw [h.number n _ hn] at hnumber
    exact absurd hnumber (by decide)

end Jsoncpp

namespace JsonUtils

variable (lib : Jsoncpp ν)

def parseStringToJsonObj (str : String) : Option (Json ν) := lib.parse str.toList

def writeJsonObjToString (json : Json ν) : String := .ofList (json.write lib.toSpelling)

mutual

/-- Merges `sub` into `super`. -/
def mergeJsonObjects (super : Json ν) : Json ν → Option (Json ν)
  | .null => some super
  | .obj ms => mergeMembers super ms
  | _ => none

/-- The loop over the member names of `sub`. -/
def mergeMembers (super : Json ν) : List (String × Json ν) → Option (Json ν)
  | [] => some super
  | (k, v) :: ms => do
    let super ← super.modifyKey k fun old =>
      match old, v with
      | .obj _, .obj _ => mergeJsonObjects old v
      | _, _ => some v
    mergeMembers super ms

end

end JsonUtils

end TelemetryAgent
