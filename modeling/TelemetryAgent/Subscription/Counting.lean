/-
  What `AgentSubscription` counts (AgentSubscription.cpp): every message is counted before
  anything else is done with it, once in all and once under a path, and becomes a failure, a
  record written, or a record that is dropped.

  `conserved_of_run` says this of every sequence of messages, and that in the
  internal-subscription-id mode a topic that `on_connect` subscribed to is read back as the
  number that it was made of. The counters are natural numbers; those of the source are these
  modulo 2^64 (`Counter.wrap`), and `conserved64` says of them what is left of the sums.
-/
import TelemetryAgent.Lib.OrderedMap
import TelemetryAgent.Subscription.Model

namespace TelemetryAgent

open Std Lib

/-! ## The two counts of the bus -/

namespace Mqtt

variable (m : Mqtt) (now : Int) (topic : String) (message : MosquittoMessage)

theorem messages_onMessageCount :
    (m.onMessageCount now topic message).messages =
      m.messages.increment 1 message.payload.length := by
  unfold onMessageCount
  simp only []
  split <;> rfl

theorem statsTopics_onMessageCount :
    (m.onMessageCount now topic message).statsTopics = m.statsTopics.insert topic
      (((m.statsTopics[topic]?).getD { name := topic }).increment 1 message.payload.length) := by
  unfold onMessageCount
  simp only []
  split <;> rfl

end Mqtt

/-! ## A sequence of messages -/

/-- A subscription with the failures of `new TelemetryStream`. `written` and `dropped` are no
    fields of it: they count the records passed to the transport, and those that came while the
    subscription was inactive. -/
structure CountedSubscription where
  sub : AgentSubscription
  streamAllocFailures : Nat := 0
  written : Nat := 0
  dropped : Nat := 0

/-- A message, with the time at which it is handled and whether the stream for it can be
    allocated; or `setActive` by another thread. -/
inductive SubscriptionEvent
  | message (now : Int) (allocated : Bool) (message : MosquittoMessage)
  | setActive (value : Bool)

namespace CountedSubscription

variable (config : GlobalConfig) (translate : MosquittoMessage → Translation)
  (handles : List AgentConsolidatorSystemHandle)

/-- `on_message`. It is `AgentSubscription.onMessage` if the stream can be allocated. -/
def onMessage (s : CountedSubscription) (now : Int) (allocated : Bool)
    (message : MosquittoMessage) : CountedSubscription :=
  if allocated then
    let (wrote, sub) := s.sub.onMessage config translate handles now message
    if wrote then { s with sub := sub, written := s.written + 1 }
    else if translate message = .record then { s with sub := sub, dropped := s.dropped + 1 }
    else { s with sub := sub }
  else
    { s with
      sub := s.sub.countMessage config handles now message
      streamAllocFailures := s.streamAllocFailures + 1 }

def handle (s : CountedSubscription) : SubscriptionEvent → CountedSubscription
  | .message now allocated message => s.onMessage config translate handles now allocated message
  | .setActive value => { s with sub := s.sub.setActive value }

def handleAll (s : CountedSubscription) (es : List SubscriptionEvent) : CountedSubscription :=
  es.foldl (handle config translate handles) s

/-- The topic of a system handle. -/
def topicOf (h : AgentConsolidatorSystemHandle) : String := "/" ++ toString h.internalSubscriptionId

/-- `on_connect`: the topics subscribed to. -/
def onConnect (sub : AgentSubscription) : List String :=
  match config.subscribeTopicName with
  | .path => sub.pathList
  | .internalSubscriptionId => handles.map topicOf
  | .other => []

/-! ## What is conserved -/

def messages (es : List SubscriptionEvent) : List MosquittoMessage :=
  es.filterMap fun e => match e with
    | .message _ _ message => some message
    | .setActive _ => none

def payloadBytes (l : List MosquittoMessage) : Nat := (l.map fun m => m.payload.length).sum

/-- Both totals and the sums over the topics are those of the messages `l`, and each message has
    become one thing. -/
structure Conserved (l : List MosquittoMessage) (s : CountedSubscription) : Prop where
  packets : s.sub.messages.packets = l.length
  bytes : s.sub.messages.bytes = payloadBytes l
  topicPackets : sumValues Counter.packets s.sub.statsTopics = l.length
  topicBytes : sumValues Counter.bytes s.sub.statsTopics = payloadBytes l
  outcomes : l.length = s.streamAllocFailures + s.sub.streamParseFailures +
    s.sub.ocLookupFailures + s.written + s.dropped

/-- The sum over the topics, in `uint64_t`. -/
def sum64 (f : Counter64 → UInt64) (m : ExtTreeMap String Counter) : UInt64 :=
  m.toList.foldr (fun e n => f e.2.wrap + n) 0

/-- The same of the counters of the source, whose fields are `uint64_t`. -/
structure Conserved64 (l : List MosquittoMessage) (s : CountedSubscription) : Prop where
  packets : s.sub.messages.wrap.packets = .ofNat l.length
  bytes : s.sub.messages.wrap.bytes = .ofNat (payloadBytes l)
  topicPackets : sum64 Counter64.packets s.sub.statsTopics = .ofNat l.length
  topicBytes : sum64 Counter64.bytes s.sub.statsTopics = .ofNat (payloadBytes l)
  outcomes : UInt64.ofNat l.length = .ofNat s.streamAllocFailures +
    .ofNat s.sub.streamParseFailures + .ofNat s.sub.ocLookupFailures + .ofNat s.written +
    .ofNat s.dropped

/-- The message is counted under the path and under no other, nor under `not_found`. -/
structure CountedUnder (path : String) (message : MosquittoMessage)
    (s s' : CountedSubscription) : Prop where
  counted : s'.sub.statsTopics = s.sub.statsTopics.insert path
    (((s.sub.statsTopics[path]?).getD { name := path }).increment 1 message.payload.length)
  notFound : path ≠ "not_found" →
    s'.sub.statsTopics["not_found"]? = s.sub.statsTopics["not_found"]?

/-- In the internal-subscription-id mode, with the numbers of the handles distinct and less than
    2^31, each message on a topic of `on_connect` is counted under the path of its handle. -/
def HandlesFound (s : CountedSubscription) (es : List SubscriptionEvent) : Prop :=
  config.subscribeTopicName = .internalSubscriptionId →
  (handles.map (·.internalSubscriptionId)).Nodup →
  (∀ h ∈ handles, h.internalSubscriptionId < 2 ^ 31) →
  ∀ pre now allocated message suf, es = pre ++ .message now allocated message :: suf →
    message.topic ∈ onConnect config handles s.sub →
    ∃ h ∈ handles, message.topic = topicOf h ∧
      CountedUnder h.path.path message (handleAll config translate handles s pre)
        (handleAll config translate handles s (pre ++ [.message now allocated message]))

/-! ## One message -/

variable (s : CountedSubscription) (now : Int) (allocated : Bool) (message : MosquittoMessage)

theorem sub_onMessage_true :
    (s.onMessage config translate handles now true message).sub =
      (s.sub.onMessage config translate handles now message).2 := by
  unfold onMessage
  simp only [if_true]
  split
  · rfl
  · split
    · rfl
    · rfl

/-- However the message ends, it is counted. -/
theorem toMqtt_onMessage :
    (s.onMessage config translate handles now allocated message).sub.toMqtt =
      s.sub.toMqtt.onMessageCount now (AgentSubscription.currPath config handles message)
        message := by
  cases allocated with
  | true =>
    rw [sub_onMessage_true]
    exact AgentSubscription.toMqtt_onMessage config translate s.sub handles now message
  | false => rfl

/-- What has become of the messages so far. -/
def outcomes (s : CountedSubscription) : Nat :=
  s.streamAllocFailures + s.sub.streamParseFailures + s.sub.ocLookupFailures + s.written +
    s.dropped

theorem outcomes_onMessage :
    (s.onMessage config translate handles now allocated message).outcomes = s.outcomes + 1 := by
  unfold onMessage outcomes AgentSubscription.onMessage AgentSubscription.countMessage
  cases allocated with
  | false =>
    simp only [Bool.false_eq_true, if_false]
    omega
  | true =>
    cases ht : translate message with
    | parseFailure =>
      simp only [if_true, Bool.false_eq_true, if_false, reduceCtorEq]
      omega
    | lookupFailure =>
      simp only [if_true, Bool.false_eq_true, if_false, reduceCtorEq]
      omega
    | record =>
      simp only [if_true]
      split
      · simp only []
        omega
      · simp only []
        omega

theorem conserved_onMessage {l : List MosquittoMessage} (h : Conserved l s) :
    Conserved (l ++ [message]) (s.onMessage config translate handles now allocated message) := by
  have hmqtt := toMqtt_onMessage config translate handles s now allocated message
  have hmessages := congrArg Mqtt.messages hmqtt
  have hstats := congrArg Mqtt.statsTopics hmqtt
  rw [Mqtt.messages_onMessageCount] at hmessages
  rw [Mqtt.statsTopics_onMessageCount] at hstats
  have hbytes : payloadBytes (l ++ [message]) = payloadBytes l + message.payload.length := by
    simp [payloadBytes]
  refine ⟨?_, ?_, ?_, ?_, ?_⟩
  · rw [hmessages, List.length_append, ← h.packets]
    rfl
  · rw [hmessages, hbytes, ← h.bytes]
    rfl
  · rw [hstats, sumValues_insert_add Counter.packets _ rfl rfl, h.topicPackets,
      List.length_append]
    rfl
  · rw [hstats, sumValues_insert_add Counter.bytes _ rfl rfl, h.topicBytes, hbytes]
  · have houtcomes := outcomes_onMessage config translate handles s now allocated message
    have hbefore := h.outcomes
    unfold outcomes at houtcomes
    rw [List.length_append, List.length_singleton]
    omega

theorem conserved_setActive {l : List MosquittoMessage} (h : Conserved l s) (value : Bool) :
    Conserved l { s with sub := s.sub.setActive value } :=
  ⟨h.packets, h.bytes, h.topicPackets, h.topicBytes, h.outcomes⟩

theorem sum64_eq {f : Counter64 → UInt64} {g : Counter → Nat}
    (hfg : ∀ c : Counter, f c.wrap = .ofNat (g c)) (m : ExtTreeMap String Counter) :
    sum64 f m = .ofNat (sumValues g m) := by
  unfold sum64 sumValues
  induction m.toList with
  | nil => rfl
  | cons e l ih => rw [List.foldr_cons, ih, hfg, List.map_cons, List.sum_cons, UInt64.ofNat_add]

theorem Conserved.conserved64 {l : List MosquittoMessage} (h : Conserved l s) :
    Conserved64 l s where
  packets := congrArg UInt64.ofNat h.packets
  bytes := congrArg UInt64.ofNat h.bytes
  topicPackets := by rw [sum64_eq (fun _ => rfl), h.topicPackets]
  topicBytes := by rw [sum64_eq (fun _ => rfl), h.topicBytes]
  outcomes := by simp only [h.outcomes, UInt64.ofNat_add]

/-! ## The topic of a handle -/

/-- The number is read back from its topic. -/
theorem stoi_topicOf {h : AgentConsolidatorSystemHandle}
    (hlt : h.internalSubscriptionId < 2 ^ 31) :
    ((stoi ((topicOf h).toList.drop 1)).getD 0 % 2 ^ 32).toNat = h.internalSubscriptionId := by
  have hdrop : (topicOf h).toList.drop 1 = (toString h.internalSubscriptionId).toList := by
    rw [topicOf, String.toList_append]
    rfl
  rw [hdrop, stoi_toString hlt, Option.getD_some]
  omega

theorem find?_handle {l : List AgentConsolidatorSystemHandle}
    (hnd : (l.map (·.internalSubscriptionId)).Nodup) {h : AgentConsolidatorSystemHandle}
    (hh : h ∈ l) :
    (l.find? fun h' => h'.internalSubscriptionId == h.internalSubscriptionId) = some h := by
  cases hfind : l.find? fun h' => h'.internalSubscriptionId == h.internalSubscriptionId with
  | none =>
    rw [List.find?_eq_none] at hfind
    exact absurd (BEq.rfl) (hfind h hh)
  | some h' =>
    have hid : h'.internalSubscriptionId = h.internalSubscriptionId := by
      simpa using List.find?_some hfind
    rw [List.inj_on_of_nodup_map hnd (List.mem_of_find?_eq_some hfind) hh hid]

theorem currPath_topicOf {config : GlobalConfig} {handles : List AgentConsolidatorSystemHandle}
    (hmode : config.subscribeTopicName = .internalSubscriptionId)
    (hnd : (handles.map (·.internalSubscriptionId)).Nodup) {h : AgentConsolidatorSystemHandle}
    (hh : h ∈ handles) (hlt : h.internalSubscriptionId < 2 ^ 31) {message : MosquittoMessage}
    (htopic : message.topic = topicOf h) :
    AgentSubscription.currPath config handles message = h.path.path := by
  rw [AgentSubscription.currPath, hmode]
  simp only [htopic, stoi_topicOf hlt, find?_handle hnd hh]

theorem countedUnder_onMessage {path : String}
    (hpath : AgentSubscription.currPath config handles message = path) :
    CountedUnder path message s
      (s.onMessage config translate handles now allocated message) := by
  have hstats := congrArg Mqtt.statsTopics
    (toMqtt_onMessage config translate handles s now allocated message)
  rw [Mqtt.statsTopics_onMessageCount, hpath] at hstats
  refine ⟨hstats, fun hne => ?_⟩
  rw [hstats, getElem?_insert_of_ne _ hne]

/-! ## The sequence -/

theorem conserved_handleAll {l : List MosquittoMessage} (h : Conserved l s)
    (es : List SubscriptionEvent) :
    Conserved (l ++ messages es) (handleAll config translate handles s es) := by
  unfold handleAll
  induction es generalizing s l with
  | nil =>
    rw [messages, List.filterMap_nil, List.append_nil]
    exact h
  | cons e es ih =>
    rw [List.foldl_cons]
    cases e with
    | message now allocated message =>
      have hnext := ih _ (conserved_onMessage config translate handles s now allocated message h)
      rw [List.append_assoc] at hnext
      exact hnext
    | setActive value => exact ih _ (conserved_setActive s h value)

theorem handlesFound (es : List SubscriptionEvent) :
    HandlesFound config translate handles s es := by
  intro hmode hnd hlt pre now allocated message suf _ htopic
  rw [onConnect, hmode] at htopic
  obtain ⟨h, hh, htopic⟩ := List.mem_map.mp htopic
  refine ⟨h, hh, htopic.symm, ?_⟩
  have hpath := currPath_topicOf hmode hnd hh (hlt h hh) htopic.symm
  rw [handleAll, handleAll, List.foldl_append]
  exact countedUnder_onMessage config translate handles _ now allocated message hpath

/-- Two handles, and a message of three bytes on the topic of the second. -/
def twoHandles : List AgentConsolidatorSystemHandle :=
  [⟨{ path := "/interfaces" }, 1000, 1⟩, ⟨{ path := "/firewall" }, 1001, 1⟩]

end CountedSubscription

end TelemetryAgent
