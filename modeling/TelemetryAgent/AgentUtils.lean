/-
  `AgentUtils` (AgentUtils.cpp). `getMessageString` prints a message with the protobuf text
  printer and is a parameter wherever it is used. `singleLineText` is what that printer
  writes, in single-line mode, for a `Path` whose strings need no escape; concrete runs
  use it.

  The loop of `SearchNReplaceString` moves a position through the text that it changes. It
  replaces the occurrences from left to right and does not search what it has put in
  (`searchNReplaceLoop_eq`).
-/
import TelemetryAgent.Protos
import TelemetryAgent.Lib.Text

namespace TelemetryAgent

open TelemetryAgent.Lib

/-- A field left at its default is not printed. -/
def singleLineText (p : Path) : String :=
  (if p.path = "" then "" else "path: \"" ++ p.path ++ "\" ") ++
  (if p.filter = "" then "" else "filter: \"" ++ p.filter ++ "\" ") ++
  (if p.suppressUnchanged then "suppress_unchanged: true " else "") ++
  (if p.maxSilentInterval = 0 then ""
    else "max_silent_interval: " ++ toString p.maxSilentInterval.toNat ++ " ") ++
  (if p.sampleFrequency = 0 then ""
    else "sample_frequency: " ++ toString p.sampleFrequency.toNat ++ " ")

namespace AgentUtils

/-- `subject.find(search, pos)`; `none` is `npos`. -/
def find (search subject : List Char) (pos : Nat) : Option Nat :=
  (List.range' pos (subject.length + 1 - pos)).find? fun i => search <+: subject.drop i

theorem find_eq_some {search subject : List Char} {pos i : Nat}
    (h : find search subject pos = some i) :
    pos ≤ i ∧ search <+: subject.drop i ∧ ∀ k, pos ≤ k → k < i → ¬ search <+: subject.drop k := by
  rw [find, List.find?_range'_eq_some] at h
  obtain ⟨hp, hi, hlt⟩ := h
  rw [List.mem_range'_1] at hi
  exact ⟨hi.1, by simpa using hp, fun k h1 h2 => by simpa using hlt k h1 h2⟩

theorem find_eq_none {search subject : List Char} {pos : Nat}
    (h : find search subject pos = none) (k : Nat) (hk : pos ≤ k) (hle : k ≤ subject.length) :
    ¬ search <+: subject.drop k := by
  rw [find, List.find?_range'_eq_none] at h
  simpa using h k hk (by omega)

theorem find_add_length_le {search subject : List Char} {pos i : Nat} (hs : search ≠ [])
    (h : find search subject pos = some i) : i + search.length ≤ subject.length := by
  have hlen := (find_eq_some h).2.1.length_le
  have hpos := List.length_pos_of_ne_nil hs
  rw [List.length_drop] at hlen
  omega

/-- The loop of `SearchNReplaceString`, from the position `pos` of the text on. -/
def searchNReplaceLoop (search replace : List Char) (hs : search ≠ []) (subject : List Char)
    (pos : Nat) : List Char :=
  match _h : find search subject pos with
  | none => subject
  | some i =>
    searchNReplaceLoop search replace hs
      (subject.take i ++ replace ++ subject.drop (i + search.length)) (i + replace.length)
termination_by subject.length - pos
decreasing_by
  have h1 := (find_eq_some _h).1
  have h2 := find_add_length_le hs _h
  have h3 := List.length_pos_of_ne_nil hs
  simp only [List.length_append, List.length_take, List.length_drop]
  omega

/-- Where the search text is empty the loop of the source does not end; no caller does that. -/
def searchNReplaceString (subject search replace : String) : String :=
  if hs : search.toList ≠ [] then
    .ofList (searchNReplaceLoop search.toList replace.toList hs subject.toList 0)
  else subject

theorem searchNReplaceLoop_eq (search replace : List Char) (hs : search ≠ []) (subject : List Char)
    (pos : Nat) (hpos : pos ≤ subject.length) :
    searchNReplaceLoop search replace hs subject pos =
      subject.take pos ++ replaceAll search replace (subject.drop pos) := by
  fun_induction searchNReplaceLoop search replace hs subject pos with
  | case1 subject pos h =>
    have hno : ∀ k < (subject.drop pos).length, ¬ search <+: (subject.drop pos).drop k := by
      intro k hk
      rw [List.length_drop] at hk
      rw [List.drop_drop]
      exact find_eq_none h (pos + k) (by omega) (by omega)
    rw [replaceAll_of_not_prefix_drop hno, List.take_append_drop]
  | case2 subject pos i h ih =>
    obtain ⟨hpi, ⟨rest, hrest⟩, hno⟩ := find_eq_some h
    have hi := find_add_length_le hs h
    -- the text from `pos` on: what is passed over, the occurrence, the rest
    have hsplit : subject.drop pos = (subject.drop pos).take (i - pos) ++ (search ++ rest) := by
      conv_lhs => rw [← List.take_append_drop (i - pos) (subject.drop pos)]
      rw [List.drop_drop, show pos + (i - pos) = i by omega, hrest]
    have hdrop : subject.drop (i + search.length) = rest := by
      rw [← List.drop_drop, ← hrest, List.drop_left]
    have htake : subject.take i = subject.take pos ++ (subject.drop pos).take (i - pos) := by
      rw [← List.take_add, show pos + (i - pos) = i by omega]
    have hskip : ∀ k < ((subject.drop pos).take (i - pos)).length,
        ¬ search <+: ((subject.drop pos).take (i - pos) ++ (search ++ rest)).drop k := by
      intro k hk
      rw [List.length_take] at hk
      rw [← hsplit, List.drop_drop]
      exact hno (pos + k) (by omega) (by omega)
    have hlen : i + replace.length = (subject.take i ++ replace).length := by
      rw [List.length_append, List.length_take]
      omega
    rw [ih (by simp only [List.length_append, List.length_take, List.length_drop]; omega), hdrop,
      hlen, List.take_left, List.drop_left, hsplit, replaceAll_skip hskip, replaceAll_occurrence hs,
      htake]
    simp only [List.append_assoc]

theorem searchNReplaceString_ofList {search : String} (hs : search.toList ≠ [])
    (subject : List Char) (replace : String) :
    searchNReplaceString (.ofList subject) search replace =
      .ofList (replaceAll search.toList replace.toList subject) := by
  rw [searchNReplaceString, dif_pos hs, searchNReplaceLoop_eq _ _ _ _ _ (Nat.zero_le _),
    String.toList_ofList]
  rfl

end AgentUtils

end TelemetryAgent
