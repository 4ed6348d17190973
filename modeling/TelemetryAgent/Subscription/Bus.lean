/-
  The message bus under a subscription: `Counter` (Counter.hpp), `AgentSubscriptionLimits`
  (AgentSubscriptionLimits.hpp), `Mqtt` and `MessageBus` (AgentMessageBus.hpp).

  The clock is the number of seconds that `time` answers, an integer. `difftime` and the
  comparison with `_seconds` are exact on the integers that a `double` holds, and further
  out rounding does not change the comparison. A counter is a natural number, and `Counter.wrap`
  is that of the source; its rates, which a thread of its own computes, are left out, as are the
  broker statistics.
-/
import Std.Data.ExtTreeMap

namespace TelemetryAgent

open Std

structure Counter where
  name : String := ""
  packets : Nat := 0
  bytes : Nat := 0
  deriving DecidableEq, Repr, Inhabited

def Counter.increment (c : Counter) (n size : Nat) : Counter :=
  { c with packets := c.packets + n, bytes := c.bytes + size }

/-- `Counter` in the arithmetic of its `uint64_t` fields. -/
structure Counter64 where
  name : String := ""
  packets : UInt64 := 0
  bytes : UInt64 := 0
  deriving DecidableEq, Repr, Inhabited

def Counter64.increment (c : Counter64) (n size : UInt64) : Counter64 :=
  { c with packets := c.packets + n, bytes := c.bytes + size }

/-- A counter of natural numbers, modulo 2^64. -/
def Counter.wrap (c : Counter) : Counter64 where
  name := c.name
  packets := .ofNat c.packets
  bytes := .ofNat c.bytes

theorem Counter.wrap_increment (c : Counter) (n size : Nat) :
    (c.increment n size).wrap = c.wrap.increment (.ofNat n) (.ofNat size) := by
  simp only [wrap, increment, Counter64.increment, UInt64.ofNat_add]

structure AgentSubscriptionLimits where
  records : Nat
  seconds : Nat
  startTime : Int
  deriving DecidableEq, Repr, Inhabited

namespace AgentSubscriptionLimits

def new (records seconds : Nat) : AgentSubscriptionLimits := ⟨records, seconds, 0⟩

def start (l : AgentSubscriptionLimits) (now : Int) : AgentSubscriptionLimits :=
  { l with startTime := now }

def expiredTime (l : AgentSubscriptionLimits) (now : Int) : Bool :=
  if l.seconds = 0 then false
  else if now - l.startTime < l.seconds then false
  else true

def expiredCount (l : AgentSubscriptionLimits) (currentRecords : Nat) : Bool :=
  if l.records = 0 then false
  else if currentRecords < l.records then false
  else true

def expired (l : AgentSubscriptionLimits) (now : Int) (currentRecords : Nat) : Bool :=
  l.expiredTime now || l.expiredCount currentRecords

end AgentSubscriptionLimits

structure MosquittoMessage where
  topic : String
  payload : List UInt8
  deriving DecidableEq, Repr

/-- `connected` is the state of the mosquitto client: messages arrive between `connect`
    with `loop_start` and `disconnect` with `loop_stop`. -/
structure Mqtt where
  name : String
  limits : AgentSubscriptionLimits
  limitsReached : Bool
  messages : Counter
  statsTopics : ExtTreeMap String Counter
  connected : Bool
  deriving Inhabited

namespace Mqtt

def new (name : String) (limits : AgentSubscriptionLimits) : Mqtt where
  name := name
  limits := limits
  limitsReached := false
  messages := { name := "MessageCount-" ++ name }
  statsTopics := ∅
  connected := false

/-- `BusConnect` of `MessageBus` -/
def busConnect (m : Mqtt) : Mqtt := { m with connected := true }

/-- `disconnect` and `loop_stop` -/
def busDisconnect (m : Mqtt) : Mqtt := { m with connected := false }

def onMessageCount (m : Mqtt) (now : Int) (topic : String) (message : MosquittoMessage) : Mqtt :=
  let size := message.payload.length
  let m := { m with messages := m.messages.increment 1 size }
  let counter := (m.statsTopics[topic]?).getD { name := topic }
  let m := { m with statsTopics := m.statsTopics.insert topic (counter.increment 1 size) }
  if m.limits.expired now m.messages.packets then { m with limitsReached := true } else m

variable (m : Mqtt) (now : Int) (topic : String) (message : MosquittoMessage)

@[simp] theorem limits_onMessageCount :
    (m.onMessageCount now topic message).limits = m.limits := by
  unfold onMessageCount
  simp only []
  split <;> rfl

@[simp] theorem packets_onMessageCount :
    (m.onMessageCount now topic message).messages.packets = m.messages.packets + 1 := by
  unfold onMessageCount
  simp only []
  split <;> rfl

/-- The flag is set when the limits have expired, and never cleared. -/
@[simp] theorem limitsReached_onMessageCount :
    (m.onMessageCount now topic message).limitsReached =
      (m.limitsReached || m.limits.expired now (m.messages.packets + 1)) := by
  unfold onMessageCount Counter.increment
  simp only []
  split
  · rename_i h
    rw [h, Bool.or_true]
  · rename_i h
    rw [Bool.not_eq_true] at h
    rw [h, Bool.or_false]

end Mqtt

end TelemetryAgent
