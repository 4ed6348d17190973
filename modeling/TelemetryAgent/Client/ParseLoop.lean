/-
  `AgentParser::parseLoop` (AgentClientParser.hpp) on a finite input.

  A line is read by `std::istream::getline` into a buffer of `MAX_BUFFER` characters. Once the
  input is at its end, or a line did not fit, the stream has failed, and each further `getline`
  stores an empty line, on which the loop goes on. `stored` lists what is stored before that, and
  `returns_iff`: the loop returns exactly if one of these lines is `exit` or `quit`, with no line
  up to it that is too long for the arrays.
-/
import TelemetryAgent.Client.AgentClientParser

namespace TelemetryAgent

namespace AgentParser

/-! ## The stream -/

/-- `std::cin`: what is not read yet, and whether no error or end of file has been met. -/
structure Istream where
  rest : List Char
  good : Bool := true

variable (overlong : List Char → List Char)

/-- `getline(input, MAX_BUFFER)`: the stored line. Of a line that does not fit it is
    `overlong line`, in the standard library its first `MAX_BUFFER - 1` characters. -/
def getline (s : Istream) : List Char × Istream :=
  if s.good then
    let line := s.rest.takeWhile (· ≠ '\n')
    if line.length < maxBuffer then
      match s.rest.dropWhile (· ≠ '\n') with
      | [] => (line, { rest := [], good := false })
      | _ :: rest => (line, { rest := rest })
    else (overlong line, { rest := s.rest.drop (maxBuffer - 1), good := false })
  else ([], s)

/-- The lines of an input, the last of which has no newline after it. -/
def linesOf : List Char → List (List Char)
  | [] => [[]]
  | c :: l =>
    if c = '\n' then [] :: linesOf l
    else
      match linesOf l with
      | [] => [[c]]
      | first :: rest => (c :: first) :: rest

/-- What is stored of lines until the first that does not fit. -/
def stored : List (List Char) → List (List Char)
  | [] => []
  | line :: rest => if line.length < maxBuffer then line :: stored rest else [overlong line]

/-! ## The loop -/

/-- A store of the turn is behind the end of an array. -/
def overruns (input : List Char) : Bool :=
  match turn input with
  | (stores, .run argc argv) => ¬ (InBounds stores ∧ InBounds (execute argc argv))
  | (stores, _) => ¬ InBounds stores

/-- The loop returns, or has a turn whose behaviour is undefined. -/
inductive LoopEnd
  | returned
  | undefined
  deriving DecidableEq, Repr

/-- At most `fuel` turns of the loop. The commands that it starts run in threads of their own. -/
def parseLoop : Nat → Istream → Option LoopEnd
  | 0, _ => none
  | fuel + 1, s =>
    let (input, s) := getline overlong s
    if overruns input then some .undefined
    else
      match (turn input).2 with
      | .leave => some .returned
      | .again => parseLoop fuel s
      | .run _ _ => parseLoop fuel s

/-- The first token is `exit` or `quit`. -/
def ExitLine (input : List Char) : Prop := ∃ cmd ∈ (tokensOf input).head?, isExit cmd = true

/-! ## What is read -/

theorem linesOf_eq (l : List Char) :
    linesOf l = l.takeWhile (· ≠ '\n') ::
      match l.dropWhile (· ≠ '\n') with
      | [] => []
      | _ :: rest => linesOf rest := by
  induction l with
  | nil => rfl
  | cons c l ih =>
    rw [linesOf]
    by_cases hc : c = '\n'
    · simp [hc]
    · rw [if_neg hc, ih]
      simp [hc]

/-- What is still to be stored from a stream before only empty lines are. -/
def pending (s : Istream) : List (List Char) :=
  if s.good then stored overlong (linesOf s.rest) else []

theorem getline_eq (s : Istream) :
    (getline overlong s).1 = (pending overlong s).headD [] ∧
      pending overlong (getline overlong s).2 = (pending overlong s).tail := by
  unfold getline pending
  cases hgood : s.good with
  | false => simp [hgood]
  | true =>
    rw [linesOf_eq, stored]
    simp only [if_true]
    split
    · split
      · simp [stored]
      · simp
    · simp

theorem turn_exitLine {input : List Char} (h : ExitLine input) : (turn input).2 = .leave := by
  obtain ⟨cmd, hcmd, hexit⟩ := h
  have hzero := cells_parseArg input 0
  rw [← List.head?_eq_getElem?, hcmd] at hzero
  have hhelp : isHelp cmd = false := by
    simp only [isExit, Bool.or_eq_true, decide_eq_true_eq] at hexit
    obtain rfl | rfl := hexit
    · decide
    · decide
  unfold turn
  simp only [hzero, hhelp, hexit, Bool.false_eq_true, if_false, if_true]

theorem exitLine_of_turn {input : List Char} (h : (turn input).2 = .leave) : ExitLine input := by
  have hzero := cells_parseArg input 0
  rw [← List.head?_eq_getElem?] at hzero
  unfold turn at h
  simp only [hzero] at h
  split at h
  · exact absurd h (by simp)
  · next cmd hcmd =>
    split at h
    · exact absurd h (by simp)
    · split at h
      · next hexit => exact ⟨cmd, hcmd, hexit⟩
      · exact absurd h (by simp)

theorem not_exitLine_nil : ¬ ExitLine [] := by
  rintro ⟨cmd, hcmd, -⟩
  exact absurd hcmd (by simp [tokensOf, strtok, Lib.cString])

/-! ## The turns of the loop -/

variable {overlong}

theorem parseLoop_succ (fuel : Nat) (s : Istream) :
    parseLoop overlong (fuel + 1) s =
      if overruns ((pending overlong s).headD []) then some .undefined
      else
        match (turn ((pending overlong s).headD [])).2 with
        | .leave => some .returned
        | .again => parseLoop overlong fuel (getline overlong s).2
        | .run _ _ => parseLoop overlong fuel (getline overlong s).2 := by
  rw [parseLoop, ← (getline_eq overlong s).1]

theorem parseLoop_of_exitLine {s : Istream} {fuel : Nat}
    (hover : overruns ((pending overlong s).headD []) = false)
    (h : ExitLine ((pending overlong s).headD [])) :
    parseLoop overlong (fuel + 1) s = some .returned := by
  rw [parseLoop_succ, hover, turn_exitLine h]
  rfl

/-- Any other line is a turn after which the loop goes on. -/
theorem parseLoop_of_not_exitLine {s : Istream} {fuel : Nat}
    (hover : overruns ((pending overlong s).headD []) = false)
    (h : ¬ ExitLine ((pending overlong s).headD [])) :
    parseLoop overlong (fuel + 1) s = parseLoop overlong fuel (getline overlong s).2 := by
  rw [parseLoop_succ, hover]
  simp only [Bool.false_eq_true, if_false]
  split
  · next hleave => exact absurd (exitLine_of_turn hleave) h
  · rfl
  · rfl

/-- One of the lines is an exit line, and none up to it overruns the arrays. -/
def LeavesAt (lines : List (List Char)) : Prop :=
  ∃ pre line suf, lines = pre ++ line :: suf ∧ ExitLine line ∧
    ∀ l ∈ pre ++ [line], overruns l = false

theorem leavesAt_cons {line : List Char} {lines : List (List Char)}
    (hover : overruns line = false) (h : LeavesAt lines) : LeavesAt (line :: lines) := by
  obtain ⟨pre, exit, suf, rfl, hexit, hpre⟩ := h
  exact ⟨line :: pre, exit, suf, rfl, hexit, List.forall_mem_cons.mpr ⟨hover, hpre⟩⟩

theorem leavesAt_of_returned {fuel : Nat} {s : Istream}
    (h : parseLoop overlong fuel s = some .returned) : LeavesAt (pending overlong s) := by
  induction fuel generalizing s with
  | zero => exact absurd h (by simp [parseLoop])
  | succ fuel ih =>
    cases hover : overruns ((pending overlong s).headD []) with
    | true =>
      rw [parseLoop_succ, hover] at h
      exact absurd h (by simp)
    | false =>
      by_cases hexit : ExitLine ((pending overlong s).headD [])
      · cases hlines : pending overlong s with
        | nil =>
          rw [hlines] at hexit
          exact absurd hexit not_exitLine_nil
        | cons line lines =>
          rw [hlines] at hover hexit
          exact ⟨[], line, lines, rfl, hexit, List.forall_mem_singleton.mpr hover⟩
      · rw [parseLoop_of_not_exitLine hover hexit] at h
        have htail := ih h
        rw [(getline_eq overlong s).2] at htail
        cases hlines : pending overlong s with
        | nil =>
          rw [hlines] at htail
          exact htail
        | cons line lines =>
          rw [hlines] at hover htail
          exact leavesAt_cons hover htail

theorem returned_of_leavesAt {s : Istream} (h : LeavesAt (pending overlong s)) :
    ∃ fuel, parseLoop overlong fuel s = some .returned := by
  obtain ⟨pre, line, suf, hlines, hexit, hpre⟩ := h
  induction pre generalizing s with
  | nil =>
    have hhead : (pending overlong s).headD [] = line := by rw [hlines]; rfl
    refine ⟨1, parseLoop_of_exitLine ?_ ?_⟩
    · rw [hhead]
      exact hpre line List.mem_cons_self
    · rw [hhead]
      exact hexit
  | cons first pre ih =>
    have hhead : (pending overlong s).headD [] = first := by rw [hlines]; rfl
    have hover : overruns ((pending overlong s).headD []) = false := by
      rw [hhead]
      exact hpre first List.mem_cons_self
    by_cases hfirst : ExitLine ((pending overlong s).headD [])
    · exact ⟨1, parseLoop_of_exitLine hover hfirst⟩
    · have htail : pending overlong (getline overlong s).2 = pre ++ line :: suf := by
        rw [(getline_eq overlong s).2, hlines]
        rfl
      obtain ⟨fuel, hfuel⟩ := ih htail fun l hl => hpre l (List.mem_cons_of_mem first hl)
      exact ⟨fuel + 1, (parseLoop_of_not_exitLine hover hfirst).trans hfuel⟩

variable (overlong)

/-- For every finite input, and whatever is stored of a line that does not fit: the loop returns
    exactly if an exit line is stored before the stream fails, or by the line at which it does, and
    no line up to it overruns the arrays. -/
theorem returns_iff (input : List Char) :
    (∃ fuel, parseLoop overlong fuel { rest := input } = some .returned) ↔
      ∃ pre line suf, stored overlong (linesOf input) = pre ++ line :: suf ∧ ExitLine line ∧
        ∀ l ∈ pre ++ [line], overruns l = false := by
  have hpending : pending overlong { rest := input } = stored overlong (linesOf input) := rfl
  rw [← hpending]
  constructor
  · intro h
    obtain ⟨fuel, hfuel⟩ := h
    exact leavesAt_of_returned hfuel
  · exact returned_of_leavesAt

/-- At the end of an input without any line the loop reads on. -/
theorem not_returns_empty : ¬ ∀ (overlong : List Char → List Char) (input : List Char),
    ∃ fuel, parseLoop overlong fuel { rest := input } = some .returned := by
  intro h
  obtain ⟨fuel, hfuel⟩ := h (fun _ => []) []
  obtain ⟨pre, line, suf, hlines, hexit, -⟩ := leavesAt_of_returned hfuel
  have hpending : pending (fun _ => []) { rest := [] } = [[]] := rfl
  rw [hpending] at hlines
  have hline : line ∈ [([] : List Char)] := hlines ▸ List.mem_append_right pre List.mem_cons_self
  rw [List.mem_singleton.mp hline] at hexit
  exact not_exitLine_nil hexit

end AgentParser

end TelemetryAgent
