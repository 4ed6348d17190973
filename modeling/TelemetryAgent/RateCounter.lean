/-
  The whole of `Counter` (Counter.hpp): its totals, the values of them that it remembers, and the
  rates that `computeRate` makes of the differences.

  `reset` and `decrement` lower the totals and leave the remembered values, so the difference may
  wrap. Between two `computeRate` a `Ledger` adds up what the calls put in and what they take out.

  * `Agrees`: the totals are those of the ledger, and a remembered value with what was put in
    since is the total with what was taken out.
  * `sound_iff_covered`: each `computeRate` finds the totals not less than the remembered values
    exactly if no more was taken out before it than put in.
-/
import TelemetryAgent.Lib.Run
import TelemetryAgent.Udp.Datagrams

namespace TelemetryAgent

open Lib

/-! ## The class -/

/-- `Counter` without its thread. The conversions and the division of the rates are `perSecond`,
    of a difference and the elapsed time. -/
structure RateCounter extends Counter64 where
  packetsReference : UInt64 := 0
  bytesReference : UInt64 := 0
  packetRate : UInt64 := 0
  byteRate : UInt64 := 0
  lastUpdateTime : Int
  deriving DecidableEq, Repr

/-- A call, with what `time` gives to `computeRate`. -/
inductive CounterCall
  | increment (n size : UInt64)
  | decrement (n size : UInt64)
  | reset
  | computeRate (seconds : UInt64) (current : Int)
  deriving DecidableEq, Repr

namespace RateCounter

/-- The constructor, which leaves the time as it is. -/
def new (name : String) (lastUpdateTime : Int) : RateCounter where
  name := name
  lastUpdateTime := lastUpdateTime

def increment (c : RateCounter) (n size : UInt64) : RateCounter :=
  { c with toCounter64 := c.toCounter64.increment n size }

def decrement (c : RateCounter) (n size : UInt64) : RateCounter :=
  if c.packets < n || c.bytes < size then c
  else { c with packets := c.packets - n, bytes := c.bytes - size }

/-- `seconds` is not read. -/
def computeRate (perSecond : UInt64 → Int → UInt64) (c : RateCounter) (_seconds : UInt64)
    (current : Int) : RateCounter :=
  let elapsed := current - c.lastUpdateTime
  { c with
    lastUpdateTime := current
    packetRate := perSecond (c.packets - c.packetsReference) elapsed
    byteRate := perSecond (c.bytes - c.bytesReference) elapsed
    packetsReference := c.packets
    bytesReference := c.bytes }

def reset (c : RateCounter) : RateCounter :=
  { c with packets := 0, bytes := 0, packetRate := 0, byteRate := 0 }

def call (perSecond : UInt64 → Int → UInt64) (c : RateCounter) : CounterCall → RateCounter
  | .increment n size => c.increment n size
  | .decrement n size => c.decrement n size
  | .reset => c.reset
  | .computeRate seconds current => c.computeRate perSecond seconds current

def step (perSecond : UInt64 → Int → UInt64) (c : RateCounter) (e : CounterCall) :
    Option RateCounter :=
  some (c.call perSecond e)

/-- Before `computeRate` neither difference wraps, and `decrement` takes from both totals what it
    is told to, or from none. -/
def Sound (c : RateCounter) : CounterCall → Prop
  | .computeRate _ _ =>
    c.packetsReference ≤ c.packets ∧ c.bytesReference ≤ c.bytes ∧
      (c.packets - c.packetsReference).toNat = c.packets.toNat - c.packetsReference.toNat ∧
      (c.bytes - c.bytesReference).toNat = c.bytes.toNat - c.bytesReference.toNat
  | .decrement n size =>
    c.decrement n size = c ∨
      ((c.decrement n size).packets.toNat + n.toNat = c.packets.toNat ∧
        (c.decrement n size).bytes.toNat + size.toNat = c.bytes.toNat)
  | _ => True

end RateCounter

/-! ## The ledger -/

/-- The totals as numbers, and what was put in and taken out since the last `computeRate`. -/
structure Ledger where
  packets : Nat := 0
  bytes : Nat := 0
  packetsIn : Nat := 0
  bytesIn : Nat := 0
  packetsOut : Nat := 0
  bytesOut : Nat := 0
  deriving DecidableEq, Repr

namespace Ledger

def call (l : Ledger) : CounterCall → Ledger
  | .increment n size => { l with
      packets := l.packets + n.toNat
      bytes := l.bytes + size.toNat
      packetsIn := l.packetsIn + n.toNat
      bytesIn := l.bytesIn + size.toNat }
  | .decrement n size =>
    if l.packets < n.toNat || l.bytes < size.toNat then l
    else { l with
      packets := l.packets - n.toNat
      bytes := l.bytes - size.toNat
      packetsOut := l.packetsOut + n.toNat
      bytesOut := l.bytesOut + size.toNat }
  | .reset => { l with
      packets := 0
      bytes := 0
      packetsOut := l.packetsOut + l.packets
      bytesOut := l.bytesOut + l.bytes }
  | .computeRate _ _ => { l with packetsIn := 0, bytesIn := 0, packetsOut := 0, bytesOut := 0 }

def step (l : Ledger) (e : CounterCall) : Option Ledger := some (l.call e)

/-- The call leaves the totals below 2^64. -/
def Small (l : Ledger) (e : CounterCall) : Prop :=
  (l.call e).packets < 2 ^ 64 ∧ (l.call e).bytes < 2 ^ 64

/-- Before `computeRate` no more was taken out than put in. -/
def Covered (l : Ledger) : CounterCall → Prop
  | .computeRate _ _ => l.packetsOut ≤ l.packetsIn ∧ l.bytesOut ≤ l.bytesIn
  | _ => True

instance (l : Ledger) (e : CounterCall) : Decidable (l.Small e) :=
  inferInstanceAs (Decidable (_ ∧ _))

instance (l : Ledger) : (e : CounterCall) → Decidable (l.Covered e)
  | .computeRate _ _ => inferInstanceAs (Decidable (_ ∧ _))
  | .increment _ _ => .isTrue trivial
  | .decrement _ _ => .isTrue trivial
  | .reset => .isTrue trivial

end Ledger

/-! ## The counter and the ledger -/

namespace RateCounter

structure Agrees (c : RateCounter) (l : Ledger) : Prop where
  packets : c.packets.toNat = l.packets
  bytes : c.bytes.toNat = l.bytes
  packetsReference : c.packetsReference.toNat + l.packetsIn = l.packets + l.packetsOut
  bytesReference : c.bytesReference.toNat + l.bytesIn = l.bytes + l.bytesOut

theorem agrees_new (name : String) (lastUpdateTime : Int) :
    (new name lastUpdateTime).Agrees {} := ⟨rfl, rfl, rfl, rfl⟩

/-- A decrement is refused, or it takes from both totals. -/
theorem decrement_cases (c : RateCounter) (n size : UInt64) :
    ((c.packets.toNat < n.toNat ∨ c.bytes.toNat < size.toNat) ∧ c.decrement n size = c) ∨
    (n.toNat ≤ c.packets.toNat ∧ size.toNat ≤ c.bytes.toNat ∧
      (c.packets - n).toNat = c.packets.toNat - n.toNat ∧
      (c.bytes - size).toNat = c.bytes.toNat - size.toNat ∧
      c.decrement n size = { c with packets := c.packets - n, bytes := c.bytes - size }) := by
  by_cases h : (c.packets < n || c.bytes < size) = true
  · left
    refine ⟨?_, if_pos h⟩
    simpa only [Bool.or_eq_true, decide_eq_true_eq, UInt64.lt_iff_toNat_lt] using h
  · right
    have hle : n ≤ c.packets ∧ size ≤ c.bytes := by
      simpa only [Bool.or_eq_true, decide_eq_true_eq, not_or, UInt64.not_lt] using h
    exact ⟨UInt64.le_iff_toNat_le.mp hle.1, UInt64.le_iff_toNat_le.mp hle.2,
      UInt64.toNat_sub_of_le _ _ hle.1, UInt64.toNat_sub_of_le _ _ hle.2, if_neg h⟩

theorem agrees_increment {c : RateCounter} {l : Ledger} (h : c.Agrees l) {n size : UInt64}
    (hsmall : l.Small (.increment n size)) :
    (c.increment n size).Agrees (l.call (.increment n size)) := by
  obtain ⟨hp, hb, hpr, hbr⟩ := h
  have hps : l.packets + n.toNat < 2 ^ 64 := hsmall.1
  have hbs : l.bytes + size.toNat < 2 ^ 64 := hsmall.2
  refine ⟨?_, ?_, ?_, ?_⟩
  · show (c.packets + n).toNat = l.packets + n.toNat
    rw [UInt64.toNat_add, hp, Nat.mod_eq_of_lt hps]
  · show (c.bytes + size).toNat = l.bytes + size.toNat
    rw [UInt64.toNat_add, hb, Nat.mod_eq_of_lt hbs]
  · show c.packetsReference.toNat + (l.packetsIn + n.toNat) = l.packets + n.toNat + l.packetsOut
    omega
  · show c.bytesReference.toNat + (l.bytesIn + size.toNat) = l.bytes + size.toNat + l.bytesOut
    omega

theorem agrees_decrement {c : RateCounter} {l : Ledger} (h : c.Agrees l) (n size : UInt64) :
    (c.decrement n size).Agrees (l.call (.decrement n size)) := by
  have hagrees := h
  obtain ⟨hp, hb, hpr, hbr⟩ := h
  rw [Ledger.call]
  obtain ⟨hlt, he⟩ | ⟨hn, hsize, hpackets, hbytes, he⟩ := decrement_cases c n size
  · have hrefused : (l.packets < n.toNat || l.bytes < size.toNat) = true := by
      rw [Bool.or_eq_true, decide_eq_true_eq, decide_eq_true_eq]
      omega
    rw [he, if_pos hrefused]
    exact hagrees
  · have htaken : ¬ (l.packets < n.toNat || l.bytes < size.toNat) = true := by
      rw [Bool.or_eq_true, decide_eq_true_eq, decide_eq_true_eq]
      omega
    rw [he, if_neg htaken]
    refine ⟨hpackets.trans (by rw [hp]), hbytes.trans (by rw [hb]), ?_, ?_⟩
    · show c.packetsReference.toNat + l.packetsIn = l.packets - n.toNat + (l.packetsOut + n.toNat)
      omega
    · show c.bytesReference.toNat + l.bytesIn = l.bytes - size.toNat + (l.bytesOut + size.toNat)
      omega

theorem agrees_reset {c : RateCounter} {l : Ledger} (h : c.Agrees l) :
    c.reset.Agrees (l.call .reset) := by
  obtain ⟨hp, hb, hpr, hbr⟩ := h
  refine ⟨rfl, rfl, ?_, ?_⟩
  · show c.packetsReference.toNat + l.packetsIn = 0 + (l.packetsOut + l.packets)
    omega
  · show c.bytesReference.toNat + l.bytesIn = 0 + (l.bytesOut + l.bytes)
    omega

/-- The step lemma. -/
theorem agrees_call (perSecond : UInt64 → Int → UInt64) {c : RateCounter} {l : Ledger}
    (h : c.Agrees l) {e : CounterCall} (hsmall : l.Small e) :
    (c.call perSecond e).Agrees (l.call e) := by
  cases e with
  | increment n size => exact agrees_increment h hsmall
  | decrement n size => exact agrees_decrement h n size
  | reset => exact agrees_reset h
  | computeRate seconds current => exact ⟨h.packets, h.bytes, h.packets, h.bytes⟩

/-- Before one call. -/
theorem sound_iff_of_agrees {c : RateCounter} {l : Ledger} (h : c.Agrees l) (e : CounterCall) :
    c.Sound e ↔ l.Covered e := by
  obtain ⟨hp, hb, hpr, hbr⟩ := h
  cases e with
  | increment n size => exact Iff.rfl
  | decrement n size =>
    refine iff_of_true ?_ trivial
    obtain ⟨-, he⟩ | ⟨hn, hsize, hpackets, hbytes, he⟩ := decrement_cases c n size
    · exact .inl he
    · right
      rw [he]
      constructor
      · show (c.packets - n).toNat + n.toNat = c.packets.toNat
        omega
      · show (c.bytes - size).toNat + size.toNat = c.bytes.toNat
        omega
  | reset => exact Iff.rfl
  | computeRate seconds current =>
    have hpackets : c.packetsReference ≤ c.packets ↔ l.packetsOut ≤ l.packetsIn := by
      rw [UInt64.le_iff_toNat_le]
      omega
    have hbytes : c.bytesReference ≤ c.bytes ↔ l.bytesOut ≤ l.bytesIn := by
      rw [UInt64.le_iff_toNat_le]
      omega
    rw [Ledger.Covered, ← hpackets, ← hbytes]
    constructor
    · intro hsound
      exact ⟨hsound.1, hsound.2.1⟩
    · intro hle
      exact ⟨hle.1, hle.2, UInt64.toNat_sub_of_le _ _ hle.1, UInt64.toNat_sub_of_le _ _ hle.2⟩

/-- The run lemma. -/
theorem meets_sound_iff (perSecond : UInt64 → Int → UInt64) {c : RateCounter} {l : Ledger}
    (h : c.Agrees l) {calls : List CounterCall} (hsmall : Meets Ledger.step Ledger.Small l calls) :
    Meets (step perSecond) Sound c calls ↔ Meets Ledger.step Ledger.Covered l calls := by
  induction calls generalizing c l with
  | nil => exact Iff.rfl
  | cons e calls ih =>
    have hsmall' := (meets_cons_of_step rfl).mp hsmall
    rw [meets_cons_of_step rfl, meets_cons_of_step rfl, sound_iff_of_agrees h,
      ih (agrees_call perSecond h hsmall'.1) hsmall'.2]

/-- The rates of a new counter are of differences that do not wrap exactly if what resets and
    decrements take out between two `computeRate` is made up for by increments. -/
theorem sound_iff_covered (perSecond : UInt64 → Int → UInt64) (name : String)
    (lastUpdateTime : Int) (calls : List CounterCall)
    (hsmall : Meets Ledger.step Ledger.Small {} calls) :
    Meets (step perSecond) Sound (new name lastUpdateTime) calls ↔
      Meets Ledger.step Ledger.Covered {} calls :=
  meets_sound_iff perSecond (agrees_new name lastUpdateTime) hsmall

/-- A decrement that is made up for. -/
theorem sound_decrement :
    Meets (step fun n _ => n) Sound (new "static_counter_1" 0)
      [.increment 11 300, .computeRate 1 1, .decrement 9 50, .increment 9 60, .computeRate 1 2] :=
  (sound_iff_covered _ _ _ _ (by decide)).mpr (by decide)

/-- A reset that is not. -/
def afterReset : List CounterCall :=
  [.increment 11 300, .computeRate 1 1, .reset, .computeRate 1 2]

example (perSecond : UInt64 → Int → UInt64) :
    run (step perSecond) (new "static_counter_1" 0) afterReset = some {
      name := "static_counter_1"
      packetRate := perSecond 18446744073709551605 1
      byteRate := perSecond 18446744073709551316 1
      lastUpdateTime := 2 } := rfl

theorem not_sound_afterReset :
    ¬ ∀ (perSecond : UInt64 → Int → UInt64) (name : String) (lastUpdateTime : Int)
      (calls : List CounterCall), Meets Ledger.step Ledger.Small {} calls →
      Meets (step perSecond) Sound (new name lastUpdateTime) calls := by
  intro h
  have hsound := h (fun n _ => n) "static_counter_1" 0 afterReset (by decide)
  rw [meets_sound_iff _ (agrees_new _ _) (by decide)] at hsound
  exact absurd hsound (by decide)

end RateCounter

end TelemetryAgent
