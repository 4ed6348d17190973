/-
  The loop of `AgentUtils::SearchNReplaceString` (AgentUtils.cpp), turn by turn.

  A turn looks for the search text from `pos` on, puts the replacement in its place and moves
  `pos` behind it. The text may grow, but what is behind `pos` gets shorter with each turn
  (`unscanned_turn`), so the loop ends if the search text is not empty.

  * `run_eq`: with a turn for each character of the text and one more, the loop ends, and its
    result is that of `searchNReplaceLoop`.
  * `run_of_search_nil`: with an empty search text it does not end.
  * `searchNReplaceString_pieces`: the result is the pieces of the text with the replacement
    between them.
-/
import TelemetryAgent.AgentUtils
import TelemetryAgent.Lib.Pieces

namespace TelemetryAgent.AgentUtils

open TelemetryAgent.Lib

/-- The variables of the loop. -/
structure Scan where
  subject : List Char
  pos : Nat := 0
  deriving DecidableEq, Repr

namespace Scan

variable {search replace : List Char}

/-- The condition of the loop, and its body if it holds. -/
def turn (search replace : List Char) (s : Scan) : Option Scan :=
  match find search s.subject s.pos with
  | some pos => some {
      subject := s.subject.take pos ++ replace ++ s.subject.drop (pos + search.length)
      pos := pos + replace.length }
  | none => none

/-- The loop, for at most `n` evaluations of its condition. -/
def run (search replace : List Char) : Nat → Scan → Option (List Char)
  | 0, _ => none
  | n + 1, s =>
    match s.turn search replace with
    | some s' => run search replace n s'
    | none => some s.subject

/-- What is behind `pos`. -/
def unscanned (s : Scan) : Nat := s.subject.length - s.pos

theorem turn_eq_some {s s' : Scan} (h : s.turn search replace = some s') :
    ∃ pos, find search s.subject s.pos = some pos ∧ s' = {
      subject := s.subject.take pos ++ replace ++ s.subject.drop (pos + search.length)
      pos := pos + replace.length } := by
  unfold turn at h
  split at h
  · next pos hpos => exact ⟨pos, hpos, (Option.some.inj h).symm⟩
  · cases h

theorem turn_eq_none {s : Scan} (h : s.turn search replace = none) :
    find search s.subject s.pos = none := by
  unfold turn at h
  split at h
  · cases h
  · next hpos => exact hpos

/-- The occurrence is no longer behind `pos`, and nothing comes to stand there. -/
theorem unscanned_turn (hs : search ≠ []) {s s' : Scan} (h : s.turn search replace = some s') :
    s'.unscanned + search.length ≤ s.unscanned := by
  obtain ⟨pos, hpos, rfl⟩ := turn_eq_some h
  have hle := (find_eq_some hpos).1
  have hend := find_add_length_le hs hpos
  simp only [unscanned, List.length_append, List.length_take, List.length_drop]
  omega

theorem searchNReplaceLoop_turn (hs : search ≠ []) {s s' : Scan}
    (h : s.turn search replace = some s') :
    searchNReplaceLoop search replace hs s.subject s.pos =
      searchNReplaceLoop search replace hs s'.subject s'.pos := by
  obtain ⟨pos, hpos, rfl⟩ := turn_eq_some h
  conv_lhs => unfold searchNReplaceLoop
  split
  · next hnone => rw [hpos] at hnone; cases hnone
  · next i hi =>
    rw [hpos, Option.some.injEq] at hi
    rw [hi]

theorem searchNReplaceLoop_end (hs : search ≠ []) {s : Scan} (h : s.turn search replace = none) :
    searchNReplaceLoop search replace hs s.subject s.pos = s.subject := by
  have hpos := turn_eq_none h
  unfold searchNReplaceLoop
  split
  · rfl
  · next i hi => rw [hpos] at hi; cases hi

theorem run_eq (hs : search ≠ []) {n : Nat} {s : Scan} (hn : s.unscanned < n) :
    s.run search replace n = some (searchNReplaceLoop search replace hs s.subject s.pos) := by
  induction n generalizing s with
  | zero => exact absurd hn (Nat.not_lt_zero _)
  | succ n ih =>
    unfold run
    cases hturn : s.turn search replace with
    | none => rw [searchNReplaceLoop_end hs hturn]
    | some s' =>
      have hless := unscanned_turn hs hturn
      have hpos := List.length_pos_of_ne_nil hs
      rw [searchNReplaceLoop_turn hs hturn]
      exact ih (by omega)

/-- The empty text is found at once, wherever the search begins. -/
theorem turn_of_search_nil (replace : List Char) {s : Scan} (hpos : s.pos ≤ s.subject.length) :
    ∃ s', s.turn [] replace = some s' ∧ s'.pos ≤ s'.subject.length := by
  have hfind : find [] s.subject s.pos = some s.pos := by
    rw [find, List.find?_range'_eq_some, List.mem_range'_1]
    refine ⟨by simp, by omega, fun k h1 h2 => by omega⟩
  refine ⟨_, by rw [turn, hfind], ?_⟩
  simp only [List.length_append, List.length_take, List.length_drop]
  omega

theorem run_of_search_nil {s : Scan} (hpos : s.pos ≤ s.subject.length) (n : Nat) :
    s.run [] replace n = none := by
  induction n generalizing s with
  | zero => rfl
  | succ n ih =>
    obtain ⟨s', hturn, hpos'⟩ := turn_of_search_nil replace hpos
    unfold run
    rw [hturn]
    exact ih hpos'

end Scan

theorem searchNReplaceLoop_pieces {search : List Char} (hs : search ≠ [])
    (replace subject : List Char) :
    searchNReplaceLoop search replace hs subject 0 =
      replace.intercalate (pieces search subject) := by
  rw [searchNReplaceLoop_eq _ _ _ _ _ (Nat.zero_le _), List.take_zero, List.nil_append,
    List.drop_zero, (pieces_spec hs subject).replaceAll_eq hs]

/-- The loop ends, and leaves the pieces of the text with the replacement between them. -/
theorem searchNReplaceString_pieces (subject search replace : String) (hs : search ≠ "") :
    ∃ ls, Pieces search.toList subject.toList ls ∧
      (∀ ls', Pieces search.toList subject.toList ls' → ls' = ls) ∧
      searchNReplaceString subject search replace = .ofList (replace.toList.intercalate ls) ∧
      ∀ n, subject.length < n → Scan.run search.toList replace.toList n ⟨subject.toList, 0⟩ =
        some (replace.toList.intercalate ls) := by
  have hs' : search.toList ≠ [] := fun h => hs (String.toList_eq_nil_iff.mp h)
  have hpieces := pieces_spec hs' subject.toList
  refine ⟨_, hpieces, fun ls' h => h.unique hpieces, ?_, fun n hn => ?_⟩
  · rw [searchNReplaceString, dif_pos hs', searchNReplaceLoop_pieces]
  · rw [Scan.run_eq hs' (by rwa [← String.length_toList] at hn), searchNReplaceLoop_pieces]

example : Scan.run "an".toList "anan".toList 7 ⟨"banana".toList, 0⟩ =
    some "banananana".toList := by decide

/-- The replacement may have the search text in it. -/
theorem searchNReplaceString_pieces_banana :
    ∃ ls, Pieces "an".toList "banana".toList ls ∧
      searchNReplaceString "banana" "an" "anan" = .ofList ("anan".toList.intercalate ls) := by
  obtain ⟨ls, hpieces, -, hvalue, -⟩ :=
    searchNReplaceString_pieces "banana" "an" "anan" (by decide)
  exact ⟨ls, hpieces, hvalue⟩

/-- A text replaced by itself is left as it is. -/
theorem searchNReplaceString_self (subject : String) {search : String} (hs : search ≠ "") :
    searchNReplaceString subject search search = subject := by
  have hs' : search.toList ≠ [] := fun h => hs (String.toList_eq_nil_iff.mp h)
  rw [searchNReplaceString, dif_pos hs', searchNReplaceLoop_pieces,
    (pieces_spec hs' subject.toList).intercalate_self, String.ofList_toList]

end TelemetryAgent.AgentUtils
