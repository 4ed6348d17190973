/-
  `pid_lock` (PidFileUtils.cpp) in the processes of one machine: each opens the file, takes the
  lock of the system on it and writes its number at the beginning. The lock is held until the
  process ends, however it does. A step is one of the calls of a process.

  The file is not cut off before it is written, so that behind the number of a process there can
  be what is left of a longer one.

  `alone_of_run`: in every run at most one process is past the lock, the first line of the file is
  its number as soon as it has written it, and when there is none every process can go through.
-/
import Mathlib.Data.List.TakeWhile
import Mathlib.Data.Nat.Digits.Defs
import Mathlib.Logic.Function.Basic
import TelemetryAgent.Lib.Run

namespace TelemetryAgent

open Lib

/-- A process by its number, which is a positive `int`. -/
abbrev Pid := Fin (2 ^ 31)

/-- Where a process is. One that has failed is as one that has not begun. -/
inductive PidPc where
  | idle
  | opened
  | locked
  | running
  deriving DecidableEq, Repr

/-- `file` is the content of the file, and `holder` the process whose descriptor has the lock. -/
structure PidSystem where
  file : List Char
  holder : Option Pid
  pc : Pid → PidPc

/-- Whether `open`, or `lseek` with `write`, succeeds is for the system to say. -/
inductive PidEvent where
  | pidOpen (p : Pid) (success : Bool)
  | flock (p : Pid)
  | pidUpdate (p : Pid) (success : Bool)
  | exit (p : Pid)
  deriving DecidableEq

namespace PidSystem

/-- The file is not there. -/
def start : PidSystem where
  file := []
  holder := none
  pc _ := .idle

def setPc (s : PidSystem) (p : Pid) (pc : PidPc) : PidSystem :=
  { s with pc := Function.update s.pc p pc }

@[simp] theorem pc_setPc (s : PidSystem) (p : Pid) (pc : PidPc) :
    (s.setPc p pc).pc = Function.update s.pc p pc := rfl

def digits (p : Pid) : List Char := Nat.toDigits 10 p

/-- `snprintf` with a buffer for ten characters. -/
def pidBuf (p : Pid) : List Char := (digits p ++ ['\n']).take 10

/-- `write` at the beginning of the file. -/
def writeAt (file buf : List Char) : List Char := buf ++ file.drop buf.length

/-- The descriptor is closed, and with it goes the lock. -/
def close (s : PidSystem) (p : Pid) : PidSystem :=
  { s.setPc p .idle with holder := if s.holder = some p then none else s.holder }

/-- `open` with `O_CREAT` -/
def pidOpen (s : PidSystem) (p : Pid) (success : Bool) : Option PidSystem :=
  match s.pc p with
  | .idle => some (if success then s.setPc p .opened else s)
  | _ => none

/-- `flock` with `LOCK_EX | LOCK_NB` -/
def flock (s : PidSystem) (p : Pid) : Option PidSystem :=
  match s.pc p with
  | .opened =>
    some (if s.holder = none then { s.setPc p .locked with holder := some p } else s.close p)
  | _ => none

/-- `_pid_update` -/
def pidUpdate (s : PidSystem) (p : Pid) (success : Bool) : Option PidSystem :=
  match s.pc p with
  | .locked =>
    some (if success then { s.setPc p .running with file := writeAt s.file (pidBuf p) }
      else s.close p)
  | _ => none

def step (s : PidSystem) : PidEvent → Option PidSystem
  | .pidOpen p success => s.pidOpen p success
  | .flock p => s.flock p
  | .pidUpdate p success => s.pidUpdate p success
  | .exit p => some (s.close p)

def firstLine (file : List Char) : List Char := file.takeWhile (· ≠ '\n')

/-- The process is past the lock. -/
def Holds (s : PidSystem) (p : Pid) : Prop := s.pc p = .locked ∨ s.pc p = .running

/-! ## The number in the file -/

theorem length_digits (p : Pid) : (digits p).length ≤ 10 := by
  have hp : (p : Nat) < 2 ^ 31 := p.isLt
  exact Nat.toDigits_length 10 p 10 (by decide) (by omega)

theorem newline_not_mem_digits (p : Pid) : '\n' ∉ digits p := by
  intro h
  have hdigit := Nat.isDigit_of_mem_toDigits (by decide) (by decide) h
  exact absurd hdigit (by decide)

theorem length_pidBuf (p : Pid) : (pidBuf p).length ≤ 10 := by
  rw [pidBuf, List.length_take]
  exact Nat.min_le_left _ _

theorem length_writeAt {file buf : List Char} (h : file.length ≤ 10) (hbuf : buf.length ≤ 10) :
    (writeAt file buf).length ≤ 10 := by
  rw [writeAt, List.length_append, List.length_drop]
  omega

theorem firstLine_append {l : List Char} (h : '\n' ∉ l) (rest : List Char) :
    firstLine (l ++ '\n' :: rest) = l := by
  rw [firstLine, List.takeWhile_append_of_pos (by simpa using fun c hc => ne_of_mem_of_not_mem hc h),
    List.takeWhile_cons_of_neg (by simp), List.append_nil]

/-- A number of ten digits fills the file. -/
theorem firstLine_writeAt {file : List Char} (h : file.length ≤ 10) (p : Pid) :
    firstLine (writeAt file (pidBuf p)) = digits p := by
  have hnewline := newline_not_mem_digits p
  obtain hlt | heq := Nat.lt_or_eq_of_le (length_digits p)
  · have hbuf : pidBuf p = digits p ++ ['\n'] := by
      rw [pidBuf, List.take_of_length_le]
      rw [List.length_append, List.length_singleton]
      omega
    rw [writeAt, hbuf, List.append_assoc, List.singleton_append, firstLine_append hnewline]
  · have hbuf : pidBuf p = digits p := by
      rw [pidBuf, ← heq, List.take_left]
    rw [writeAt, hbuf, List.drop_of_length_le (by omega), List.append_nil, firstLine,
      List.takeWhile_eq_self_iff]
    simpa using fun c hc => ne_of_mem_of_not_mem hc hnewline

/-! ## One step -/

/-- The lock is with the process that is past it, and the file has its number. -/
structure Inv (s : PidSystem) : Prop where
  holder : ∀ p, s.holder = some p ↔ s.Holds p
  length : s.file.length ≤ 10
  file : ∀ p, s.pc p = .running → firstLine s.file = digits p

variable {s s' : PidSystem}

theorem inv_start : Inv start where
  holder p := by simp [start, Holds]
  length := Nat.zero_le _
  file p h := PidPc.noConfusion h

theorem Inv.unique (h : Inv s) {p q : Pid} (hp : s.Holds p) (hq : s.Holds q) : p = q := by
  have hholder := (h.holder p).mpr hp
  rw [(h.holder q).mpr hq, Option.some.injEq] at hholder
  exact hholder.symm

theorem holds_setPc {p q : Pid} {pc : PidPc} :
    (s.setPc p pc).Holds q ↔ if q = p then pc = .locked ∨ pc = .running else s.Holds q := by
  unfold Holds setPc
  by_cases hq : q = p
  · rw [if_pos hq, hq]
    simp only [Function.update_self]
  · rw [if_neg hq]
    simp only [Function.update_of_ne hq]

/-- A process that does not have the lock goes elsewhere. -/
theorem Inv.setPc (h : Inv s) {p : Pid} {pc : PidPc} (hp : ¬ s.Holds p) (hidle : pc ≠ .locked)
    (hrunning : pc ≠ .running) : Inv (s.setPc p pc) where
  holder q := by
    rw [holds_setPc]
    split_ifs with hq
    · subst hq
      exact iff_of_false (fun hh => hp ((h.holder q).mp hh)) (not_or_intro hidle hrunning)
    · exact h.holder q
  length := h.length
  file q hq := by
    apply h.file q
    by_cases hqp : q = p
    · rw [hqp, pc_setPc, Function.update_self] at hq
      exact absurd hq hrunning
    · rwa [pc_setPc, Function.update_of_ne hqp] at hq

theorem Inv.close (h : Inv s) (p : Pid) : Inv (s.close p) := by
  by_cases hp : s.Holds p
  · have hother : ∀ q, q ≠ p → ¬ s.Holds q := fun q hq hh => hq (h.unique hh hp)
    have hpc : ∀ q, (s.close p).pc q ≠ .locked ∧ (s.close p).pc q ≠ .running := by
      intro q
      show Function.update s.pc p .idle q ≠ _ ∧ Function.update s.pc p .idle q ≠ _
      by_cases hq : q = p
      · rw [hq, Function.update_self]
        exact ⟨PidPc.noConfusion, PidPc.noConfusion⟩
      · rw [Function.update_of_ne hq]
        exact not_or.mp (hother q hq)
    refine ⟨fun q => ?_, h.length, fun q hq => absurd hq (hpc q).2⟩
    refine iff_of_false ?_ (not_or_intro (hpc q).1 (hpc q).2)
    rw [PidSystem.close, if_pos ((h.holder p).mpr hp)]
    exact (Option.some_ne_none q).symm
  · have hclose : s.close p = s.setPc p .idle := by
      rw [PidSystem.close, if_neg fun hh => hp ((h.holder p).mp hh)]
      rfl
    rw [hclose]
    exact h.setPc hp PidPc.noConfusion PidPc.noConfusion

theorem not_holds_of_pc {p : Pid} {pc : PidPc} (h : s.pc p = pc) (hl : pc ≠ .locked)
    (hr : pc ≠ .running) : ¬ s.Holds p := by
  unfold Holds
  rw [h]
  exact not_or_intro hl hr

theorem inv_flock {p : Pid} (h : Inv s) (hs : s.flock p = some s') : Inv s' := by
  unfold flock at hs
  split at hs
  · next hpc =>
    obtain rfl := Option.some.inj hs
    split_ifs with hfree
    · have hnone : ∀ q, ¬ s.Holds q := by
        intro q hq
        rw [(h.holder q).mpr hq] at hfree
        exact Option.some_ne_none q hfree
      refine ⟨fun q => ?_, h.length, fun q hq => ?_⟩
      · show some p = some q ↔ (s.setPc p .locked).Holds q
        rw [holds_setPc, Option.some.injEq]
        split_ifs with hq
        · exact iff_of_true hq.symm (Or.inl rfl)
        · exact iff_of_false (fun heq => hq heq.symm) (hnone q)
      · by_cases hqp : q = p
        · rw [hqp] at hq
          simp [setPc] at hq
        · refine absurd (Or.inr ?_) (hnone q)
          simpa [setPc, hqp] using hq
    · exact h.close p
  · exact absurd hs (Option.some_ne_none s').symm

theorem inv_pidUpdate {p : Pid} {success : Bool} (h : Inv s) (hs : s.pidUpdate p success = some s') :
    Inv s' := by
  unfold pidUpdate at hs
  split at hs
  · next hpc =>
    obtain rfl := Option.some.inj hs
    have hp : s.Holds p := Or.inl hpc
    split_ifs
    · refine ⟨fun q => ?_, length_writeAt h.length (length_pidBuf p), fun q hq => ?_⟩
      · show s.holder = some q ↔ (s.setPc p .running).Holds q
        rw [holds_setPc]
        split_ifs with hqp
        · rw [hqp]
          exact iff_of_true ((h.holder p).mpr hp) (Or.inr rfl)
        · exact h.holder q
      · have hqp : q = p := by
          by_contra hqp
          have hrunning : s.pc q = .running := by simpa [setPc, hqp] using hq
          exact hqp (h.unique (Or.inr hrunning) hp)
        rw [hqp]
        exact firstLine_writeAt h.length p
    · exact h.close p
  · exact absurd hs (Option.some_ne_none s').symm

theorem inv_step {e : PidEvent} (h : Inv s) (hs : s.step e = some s') : Inv s' := by
  cases e with
  | pidOpen p success =>
    simp only [step, pidOpen] at hs
    split at hs
    · next hpc =>
      obtain rfl := Option.some.inj hs
      split_ifs
      · exact h.setPc (not_holds_of_pc hpc PidPc.noConfusion PidPc.noConfusion) PidPc.noConfusion
          PidPc.noConfusion
      · exact h
    · exact absurd hs (Option.some_ne_none s').symm
  | flock p => exact inv_flock h hs
  | pidUpdate p success => exact inv_pidUpdate h hs
  | exit p => exact Option.some.inj hs ▸ h.close p

/-! ## Runs -/

/-- Without a holder nothing stops a process. -/
theorem reaches_running (h : s.holder = none) {p : Pid} (hp : s.pc p = .idle) :
    ∃ t, run step s [.pidOpen p true, .flock p, .pidUpdate p true] = some t ∧
      t.pc p = .running := by
  refine ⟨⟨writeAt s.file (pidBuf p), some p, Function.update s.pc p .running⟩, ?_,
    Function.update_self ..⟩
  simp [run, step, pidOpen, flock, pidUpdate, hp, h, setPc]

/-- **One at a time.** In every run of any processes, at most one of them is past the lock, and
    the first line of the file is its number when it runs. When none is past it, each that has not
    begun can come to run. -/
theorem alone_of_run (es : List PidEvent) (s : PidSystem) (hr : run step start es = some s) :
    (∀ p q, s.Holds p → s.Holds q → p = q) ∧
      (∀ p, s.pc p = .running → firstLine s.file = digits p) ∧
      ((∀ p, ¬ s.Holds p) → ∀ p, s.pc p = .idle →
        ∃ t, run step s [.pidOpen p true, .flock p, .pidUpdate p true] = some t ∧
          t.pc p = .running) := by
  have h : Inv s := run_invariant_of_step (fun _ _ _ h hs => inv_step h hs) inv_start hr
  refine ⟨fun p q hp hq => h.unique hp hq, h.file, fun hfree p hp => reaches_running ?_ hp⟩
  rw [Option.eq_none_iff_forall_not_mem]
  exact fun q hq => hfree q ((h.holder q).mp hq)

/-- A process is refused while another runs, and one with a shorter number runs after it. -/
theorem alone_of_run_refused :
    ∃ s, run step start [.pidOpen 12345 true, .pidOpen 678 true, .flock 12345, .flock 678,
        .pidUpdate 12345 true, .exit 12345, .pidOpen 99 true, .flock 99, .pidUpdate 99 true] = some s ∧
      s.pc 99 = .running ∧ firstLine s.file = digits 99 := by
  have hrun : ((run step start [.pidOpen 12345 true, .pidOpen 678 true, .flock 12345, .flock 678,
      .pidUpdate 12345 true, .exit 12345, .pidOpen 99 true, .flock 99, .pidUpdate 99 true]).map
        fun s => s.pc 99) = some .running := by
    decide +kernel
  obtain ⟨s, hs, hpc⟩ := Option.map_eq_some_iff.mp hrun
  exact ⟨s, hs, hpc, (alone_of_run _ s hs).2.1 99 hpc⟩

end PidSystem

end TelemetryAgent
