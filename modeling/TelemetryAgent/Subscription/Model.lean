/-
  `AgentSubscription` (AgentSubscription.hpp, AgentSubscription.cpp).

  `createSubscription` does not set `_active`; the model takes its first value as an
  argument. The store, which `createSubscription` also writes, belongs to the server. What
  `on_message` does with the payload once it is counted (the protobuf parser and the
  translators) is the parameter `translate`.
-/
import TelemetryAgent.Protos
import TelemetryAgent.GlobalConfig
import TelemetryAgent.Lib.Text
import TelemetryAgent.Subscription.Bus
import TelemetryAgent.Consolidator.Model

namespace TelemetryAgent

open TelemetryAgent.Lib

structure AgentSubscription extends Mqtt where
  id : Nat
  pathList : List String
  systemSubscription : HandlePtr
  ocLookupFailures : Nat
  streamParseFailures : Nat
  active : Bool
  deriving Inhabited

/-- What becomes of a payload: it does not parse, no translator knows it, or it is an
    `OpenConfigData` record. -/
inductive Translation where
  | parseFailure
  | lookupFailure
  | record
  deriving DecidableEq, Repr

/-- `int32` to `uint64_t`, as the arguments of the constructor of the limits convert. -/
def toUInt64 (n : Int32) : Nat := (n.toInt % 2 ^ 64).toNat

theorem toUInt64_of_nonneg {n : Int32} (h : 0 ≤ n.toInt) : (toUInt64 n : Int) = n.toInt := by
  have h1 : n.toInt < 2 ^ 31 := n.toInt_lt
  unfold toUInt64
  omega

namespace AgentSubscription

/-- The limits that `telemetrySubscribe` makes of the accepted request. -/
def limitsOf (config : SubscriptionAdditionalConfig) : AgentSubscriptionLimits :=
  .new (toUInt64 config.limitRecords) (toUInt64 config.limitTimeSeconds)

def createSubscription (id : Nat) (systemHandle : HandlePtr) (pathList : List String)
    (limits : AgentSubscriptionLimits) (active : Bool) : AgentSubscription where
  toMqtt := .new ("client-" ++ toString id) limits
  id := id
  pathList := pathList
  systemSubscription := systemHandle
  ocLookupFailures := 0
  streamParseFailures := 0
  active := active

/-- Connect to the message bus. -/
def enable (sub : AgentSubscription) : AgentSubscription :=
  { sub with toMqtt := sub.toMqtt.busConnect }

/-- `disconnect` and `loop_stop`; unsubscribing from the topics before that changes no
    field. -/
def disconnect (sub : AgentSubscription) : AgentSubscription :=
  { sub with toMqtt := sub.toMqtt.busDisconnect }

def expired (sub : AgentSubscription) : Bool := sub.limitsReached

def setActive (sub : AgentSubscription) (value : Bool) : AgentSubscription :=
  { sub with active := value }

/-- The topic under which a message is counted: in the internal-subscription-id mode the
    path of the system handle that the topic names. `handles` are the system handles of
    the subscription. -/
def currPath (config : GlobalConfig) (handles : List AgentConsolidatorSystemHandle)
    (message : MosquittoMessage) : String :=
  match config.subscribeTopicName with
  | .path => message.topic
  | .other => "not_found"
  | .internalSubscriptionId =>
    -- the number converts to `id_idx_t`, an unsigned 32-bit integer
    let isid := ((stoi (message.topic.toList.drop 1)).getD 0 % 2 ^ 32).toNat
    match handles.find? fun h => h.internalSubscriptionId == isid with
    | some h => h.path.path
    | none => "not_found"

/-- `_count_message` -/
def countMessage (config : GlobalConfig) (sub : AgentSubscription)
    (handles : List AgentConsolidatorSystemHandle) (now : Int) (message : MosquittoMessage) :
    AgentSubscription :=
  { sub with toMqtt := sub.toMqtt.onMessageCount now (currPath config handles message) message }

/-- The Boolean says whether a record is written to the transport. -/
def onMessage (config : GlobalConfig) (translate : MosquittoMessage → Translation)
    (sub : AgentSubscription) (handles : List AgentConsolidatorSystemHandle) (now : Int)
    (message : MosquittoMessage) : Bool × AgentSubscription :=
  let sub := sub.countMessage config handles now message
  match translate message with
  | .parseFailure => (false, { sub with streamParseFailures := sub.streamParseFailures + 1 })
  | .lookupFailure => (false, { sub with ocLookupFailures := sub.ocLookupFailures + 1 })
  | .record => (sub.active, sub)

variable (config : GlobalConfig) (translate : MosquittoMessage → Translation)
  (sub : AgentSubscription) (handles : List AgentConsolidatorSystemHandle) (now : Int)
  (message : MosquittoMessage)

/-- Counting is all that `on_message` does to the bus. -/
theorem toMqtt_onMessage : (sub.onMessage config translate handles now message).2.toMqtt =
    sub.toMqtt.onMessageCount now (currPath config handles message) message := by
  unfold onMessage
  cases translate message <;> rfl

theorem active_onMessage :
    (sub.onMessage config translate handles now message).2.active = sub.active := by
  unfold onMessage
  cases translate message <;> rfl

theorem id_onMessage :
    (sub.onMessage config translate handles now message).2.id = sub.id := by
  unfold onMessage
  cases translate message <;> rfl

theorem systemSubscription_onMessage :
    (sub.onMessage config translate handles now message).2.systemSubscription =
      sub.systemSubscription := by
  unfold onMessage
  cases translate message <;> rfl

theorem active_of_onMessage_fst (h : (sub.onMessage config translate handles now message).1 = true) :
    sub.active = true := by
  unfold onMessage at h
  cases ht : translate message with
  | parseFailure => simp [ht] at h
  | lookupFailure => simp [ht] at h
  | record => simpa [ht, countMessage] using h

theorem translate_of_onMessage_fst
    (h : (sub.onMessage config translate handles now message).1 = true) :
    translate message = .record := by
  unfold onMessage at h
  cases ht : translate message with
  | parseFailure => simp [ht] at h
  | lookupFailure => simp [ht] at h
  | record => rfl

/-- Payloads that did not parse or that no translator knew. -/
def failures (sub : AgentSubscription) : Nat := sub.streamParseFailures + sub.ocLookupFailures

/-- A message is written or a failure, or it comes while the subscription is inactive. -/
theorem failures_onMessage :
    (sub.onMessage config translate handles now message).2.failures +
      (if (sub.onMessage config translate handles now message).1 then 1 else 0) ≤
      sub.failures + 1 := by
  unfold onMessage failures countMessage
  cases translate message with
  | parseFailure =>
    simp only [Bool.false_eq_true, if_false]
    omega
  | lookupFailure =>
    simp only [Bool.false_eq_true, if_false]
    omega
  | record =>
    simp only []
    split
    · exact Nat.le_refl _
    · exact Nat.le_succ _

end AgentSubscription

end TelemetryAgent
