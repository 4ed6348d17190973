/-
  `getTelemetrySubscriptions` and `getTelemetryOperationalState` (AgentServer.cpp), with the
  iterator over `store` (AgentSubscription.hpp) and what a subscription and its UDP worker
  report (AgentMessageBus.hpp, AgentSubscription.cpp, AgentSubscriptionUdpWorker.cpp).

  The loops go from a subscription to the one after its own id. `fuel` bounds the passes;
  `none` is a loop that has not ended by then.

  `listing_of_operations`: after every sequence of whole operations the listing has the
  replies that the live subscriptions were sent when they were set up.
-/
import TelemetryAgent.TextFormat
import TelemetryAgent.Consolidator.Undo
import TelemetryAgent.Server.Sequential

namespace TelemetryAgent

open Std TelemetryAgent.Lib

variable {σ : Type}

/-! ## What is reported -/

/-- An entry with a counter; an unsigned number converts to `int64`. -/
def KeyValue.count (key : String) (n : Nat) : KeyValue := ⟨key, .int (.ofNat n)⟩

@[simp] theorem KeyValue.key_count (key : String) (n : Nat) : (count key n).key = key := rfl

/-- What the objects of a subscription have that their model leaves out: the rates of the
    counters and what the callbacks of the broker count. -/
structure Statistics where
  packetRate : Nat
  byteRate : Nat
  connects : Nat
  disconnects : Nat
  streamAllocFailures : Nat
  udpPacketRate : Nat
  udpByteRate : Nat
  deriving Inhabited

def Mqtt.getOperational (m : Mqtt) (st : Statistics) (verbosity : VerbosityLevel) :
    List KeyValue :=
  [.count "mqtt-total_message_count" m.messages.packets,
    .count "mqtt-total_message_count_rate" st.packetRate,
    .count "mqtt-total_message_bytes" m.messages.bytes,
    .count "mqtt-total_message_byte_rate" st.byteRate] ++
  if verbosity = .terse then []
  else
    [.count "mqtt-message_bus_connects" st.connects,
      .count "mqtt-message_bus_disconnects" st.disconnects] ++
    m.statsTopics.toList.flatMap fun e =>
      [.count ("mqtt-packets:path:" ++ e.1) e.2.packets,
        .count ("mqtt-bytes:path:" ++ e.1) e.2.bytes]

def AgentSubscription.getOperational (sub : AgentSubscription) (st : Statistics)
    (verbosity : VerbosityLevel) : List KeyValue :=
  sub.toMqtt.getOperational st verbosity ++
  if verbosity = .terse then []
  else
    [.count "mqtt-translation_failures" sub.ocLookupFailures,
      .count "mqtt-stream_open_failures" st.streamAllocFailures,
      .count "mqtt-stream_parse_failures" sub.streamParseFailures]

/-- The verbose part is one entry for each topic in the worker's `stats_topics`, where
    nothing is ever stored. -/
def AgentSubscriptionUdpWorker.getOperational (w : AgentSubscriptionUdpWorker) (st : Statistics) :
    List KeyValue :=
  [.count "udp-total_pkt_received" w.totalPktRecvd,
    .count "udp-total_message_count" w.messages.packets,
    .count "udp-total_message_count_rate" st.udpPacketRate,
    .count "udp-total_message_bytes" w.messages.bytes,
    .count "udp-total_message_byte_rate" st.udpByteRate]

namespace AgentServer

open SubscribeCall

/-! ## The iterator -/

def findSubscription (s : AgentServer σ) (id : Nat) : Option CallId := s.store[id]?

def getFirst (s : AgentServer σ) : Option CallId := s.store.toList.head?.map Prod.snd

def getNext (s : AgentServer σ) (id : Nat) : Option CallId :=
  (upperBound s.store id).map Prod.snd

/-- The subscriptions that the loop visits, from `sub` on. -/
def walk (s : AgentServer σ) : Nat → Option CallId → Option (List CallId)
  | _, none => some []
  | 0, some _ => none
  | fuel + 1, some c => (walk s fuel (s.getNext (s.calls c).sub.id)).map (c :: ·)

/-! ## The two calls -/

def allSubscriptions : Nat := 0xFFFFFFFF

/-- One entry of the reply. -/
def subscriptionEntry (s : AgentServer σ) (c : CallId) : SubscriptionReply where
  subscriptionId := (s.calls c).sub.id
  pathList := (s.consolidator.getHandles (s.calls c).sub.systemSubscription).map (·.path)

def getTelemetrySubscriptions (s : AgentServer σ) (fuel subscriptionId : Nat) :
    Option (List SubscriptionReply) :=
  if subscriptionId ≠ allSubscriptions then
    match s.findSubscription subscriptionId with
    | none => some []
    | some c => some [s.subscriptionEntry c]
  else (s.walk fuel s.getFirst).map fun cs => cs.map s.subscriptionEntry

variable (env : Environment σ) (stats : CallId → Statistics) (verbosity : VerbosityLevel)

/-- What is reported of a subscription, once its id is. -/
def subscriptionState (s : AgentServer σ) (subscriptionId : Nat) (c : CallId) : List KeyValue :=
  (s.calls c).sub.getOperational (stats c) verbosity ++
  if env.config.udpServerModule then
    match s.store2[subscriptionId]? with
    | none => [⟨"error", .str "UDP Subscription Not Found"⟩]
    | some w => (s.calls w).worker.getOperational (stats w)
  else []

def agentState (s : AgentServer σ) : List KeyValue :=
  [⟨"agent-stats", .str "begin"⟩, .count "total_subscriptions" s.store.size,
    ⟨"agent-stats", .str "end"⟩]

def getTelemetryOperationalState (s : AgentServer σ) (fuel subscriptionId : Nat) :
    Option (List KeyValue) :=
  if subscriptionId = 0 then some s.agentState
  else if subscriptionId ≠ allSubscriptions then
    some (.count "subscription_id" subscriptionId ::
      match s.findSubscription subscriptionId with
      | none => [⟨"error", .str "Subscription Not Found"⟩]
      | some c => s.subscriptionState env stats verbosity subscriptionId c)
  else
    (s.walk fuel s.getFirst).map fun cs =>
      cs.flatMap (fun c => .count "subscription_id" (s.calls c).sub.id ::
        s.subscriptionState env stats verbosity (s.calls c).sub.id c) ++ s.agentState

/-! ## The loop ends -/

variable {env} {s s' : AgentServer σ} {c : CallId}

theorem Between.sub_eq (h : Between env s) {i : Nat} (hs : s.store[i]? = some c) :
    (s.calls c).live = true ∧ (s.calls c).id = i ∧ (s.calls c).sub.id = i ∧
      (s.calls c).sub.systemSubscription = (s.calls c).systemHandle := by
  obtain ⟨h3, hid⟩ := idAt_eq_some.mp ((h.inv.store i c).mp hs)
  obtain ⟨h1, h2⟩ := (h.inv.wf c).sub h3
  exact ⟨live_of_holds h3, hid, h1.trans hid, h2⟩

/-- From an entry of `store` on, the loop visits the entries that are left. -/
theorem Between.walk_eq (h : Between env s) {fuel : Nat} {pre suf : List (Nat × CallId)}
    (hl : s.store.toList = pre ++ suf) (hf : suf.length ≤ fuel) :
    s.walk fuel (suf.head?.map Prod.snd) = some (suf.map Prod.snd) := by
  induction suf generalizing pre fuel with
  | nil => cases fuel <;> rfl
  | cons e suf ih =>
    obtain ⟨i, c⟩ := e
    cases fuel with
    | zero => exact absurd hf (by simp)
    | succ fuel =>
      have hs : s.store[i]? = some c := by
        rw [← ExtTreeMap.mem_toList_iff_getElem?_eq_some, hl]
        exact List.mem_append_right pre List.mem_cons_self
      have hnext : s.getNext (s.calls c).sub.id = suf.head?.map Prod.snd := by
        rw [(h.sub_eq hs).2.2.1, getNext, upperBound_of_toList hl]
      have hl' : s.store.toList = (pre ++ [(i, c)]) ++ suf := by
        rw [hl, List.append_assoc]
        rfl
      have hrest := ih hl' (Nat.le_of_succ_le_succ hf)
      show (s.walk fuel (s.getNext (s.calls c).sub.id)).map (c :: ·) = _
      rw [hnext, hrest]
      rfl

theorem Between.walk_getFirst (h : Between env s) {fuel : Nat} (hf : s.store.size ≤ fuel) :
    s.walk fuel s.getFirst = some (s.store.toList.map Prod.snd) := by
  have hl : s.store.toList = [] ++ s.store.toList := rfl
  exact h.walk_eq hl (by rwa [ExtTreeMap.length_toList])

/-- The reply to a request for all subscriptions. -/
def listing (s : AgentServer σ) : List SubscriptionReply :=
  s.store.toList.map fun e => s.subscriptionEntry e.2

theorem Between.getTelemetrySubscriptions_all (h : Between env s) {fuel : Nat}
    (hf : s.store.size ≤ fuel) :
    s.getTelemetrySubscriptions fuel allSubscriptions = some s.listing := by
  rw [getTelemetrySubscriptions, if_neg (by simp), h.walk_getFirst hf, Option.map_some, List.map_map]
  rfl

theorem Between.entry_id (h : Between env s) {e : Nat × CallId} (he : e ∈ s.store.toList) :
    (s.subscriptionEntry e.2).subscriptionId = e.1 :=
  (h.sub_eq (ExtTreeMap.mem_toList_iff_getElem?_eq_some.mp he)).2.2.1

theorem Between.ids_listing (h : Between env s) :
    s.listing.map (·.subscriptionId) = s.store.toList.map Prod.fst := by
  rw [listing, List.map_map]
  exact List.map_congr_left fun e he => h.entry_id he

theorem Between.pairwise_ids (h : Between env s) :
    (s.listing.map (·.subscriptionId)).Pairwise (· < ·) := by
  rw [h.ids_listing, List.pairwise_map]
  exact s.store.ordered_keys_toList.imp fun hlt => Nat.compare_eq_lt.mp hlt

theorem Between.mem_ids (h : Between env s) (i : Nat) :
    i ∈ s.listing.map (·.subscriptionId) ↔
      ∃ c, (s.calls c).live = true ∧ (s.calls c).id = i := by
  have hmem : i ∈ s.store.toList.map Prod.fst ↔ i ∈ s.store := by
    rw [← ExtTreeMap.mem_keys, ← ExtTreeMap.map_fst_toList_eq_keys]
  rw [h.ids_listing, hmem, h.mem_store]
  refine exists_congr fun c => ?_
  rw [idAt_eq_some]
  refine and_congr_left fun _ => ?_
  exact ⟨live_of_holds, fun hl => h.settled.holds hl (by decide)⟩

theorem Between.getTelemetrySubscriptions_eq (h : Between env s) (fuel : Nat) {i : Nat}
    (hi : i ≠ allSubscriptions) :
    s.getTelemetrySubscriptions fuel i =
      some (s.listing.filter fun e => e.subscriptionId = i) := by
  have hfilter : s.listing.filter (fun e => e.subscriptionId = i) =
      (s.store.toList.filter fun e => e.1 = i).map fun e => s.subscriptionEntry e.2 := by
    rw [listing, List.filter_map]
    congr 1
    exact List.filter_congr fun e he => by simp only [Function.comp, h.entry_id he]
  rw [getTelemetrySubscriptions, if_pos hi, hfilter, filter_toList, findSubscription]
  cases s.store[i]? with
  | none => rfl
  | some c => rfl

/-! ## What a live subscription was told -/

/-- The initial replies on a stream. -/
def replies (l : List StreamEvent) : List SubscriptionReply :=
  l.filterMap fun
    | .initResponse reply => some reply
    | .record _ => none

@[simp] theorem replies_append (l l' : List StreamEvent) :
    replies (l ++ l') = replies l ++ replies l' := List.filterMap_append

@[simp] theorem replies_record (r : Record) : replies [.record r] = [] := rfl

/-- The paths that the system handles of a consolidator handle have. -/
def handlePaths (s : AgentServer σ) (handle : HandlePtr) : List Path :=
  (s.consolidator.getHandles handle).map (·.path)

/-- Call `c` was told its id and the accepted paths, and its handle still has them. -/
structure Told (s : AgentServer σ) (c : CallId) : Prop where
  replies : replies (s.calls c).stream =
    [{ subscriptionId := (s.calls c).id, pathList := (s.calls c).accepted.pathList }]
  paths : s.handlePaths (s.calls c).systemHandle = (s.calls c).accepted.pathList

structure ToldAll (s : AgentServer σ) : Prop where
  live : ∀ c, (s.calls c).live = true → Told s c
  idle : ∀ c, (s.calls c).pc = .idle → replies (s.calls c).stream = []

theorem toldAll_new (db : PathInformationDB) (x : σ) : ToldAll (new db x) where
  live c h := absurd h (by rw [live_of_pc_idle rfl]; simp)
  idle _ _ := rfl

/-- What call `x` was told is not touched, unless it ends. -/
structure Kept (s s' : AgentServer σ) (x : CallId) : Prop where
  live : (s'.calls x).live = true → (s.calls x).live = true ∧
    (s'.calls x).id = (s.calls x).id ∧
    (s'.calls x).systemHandle = (s.calls x).systemHandle ∧
    (s'.calls x).accepted = (s.calls x).accepted ∧
    replies (s'.calls x).stream = replies (s.calls x).stream ∧
    s'.handlePaths (s.calls x).systemHandle = s.handlePaths (s.calls x).systemHandle
  idle : (s'.calls x).pc = .idle →
    (s.calls x).pc = .idle ∧ replies (s'.calls x).stream = replies (s.calls x).stream

theorem Kept.told {x : CallId} (h : Kept s s' x) (ht : ToldAll s)
    (hl : (s'.calls x).live = true) : Told s' x := by
  obtain ⟨hlive, hid, hhandle, hacc, hr, hp⟩ := h.live hl
  have := ht.live x hlive
  refine ⟨?_, ?_⟩
  · rw [hr, hid, hacc, this.replies]
  · rw [hhandle, hp, hacc, this.paths]

theorem ToldAll.of_kept (h : ToldAll s) (hk : ∀ x, Kept s s' x) : ToldAll s' where
  live x hl := (hk x).told h hl
  idle x hx := by
    obtain ⟨hi, hr⟩ := (hk x).idle hx
    rw [hr, h.idle x hi]

/-- A step of another call, which leaves the paths of this one's handle. -/
theorem Kept.of_eq {x : CallId} (hcalls : s'.calls x = s.calls x)
    (hp : (s.calls x).live = true → s'.handlePaths (s.calls x).systemHandle =
      s.handlePaths (s.calls x).systemHandle) : Kept s s' x where
  live hl := by
    rw [hcalls] at hl ⊢
    exact ⟨hl, rfl, rfl, rfl, rfl, hp hl⟩
  idle hi := by
    rw [hcalls] at hi ⊢
    exact ⟨hi, rfl⟩

theorem Kept.of_ended {x : CallId} (hl : (s'.calls x).live = false)
    (hpc : (s'.calls x).pc ≠ .idle) : Kept s s' x where
  live h := by
    rw [hl] at h
    exact absurd h (by simp)
  idle h := absurd h hpc

theorem Kept.refl (s : AgentServer σ) (x : CallId) : Kept s s x :=
  ⟨fun h => ⟨h, rfl, rfl, rfl, rfl, rfl⟩, fun h => ⟨h, rfl⟩⟩

theorem Kept.trans {s'' : AgentServer σ} {x : CallId} (h : Kept s s' x) (h' : Kept s' s'' x) :
    Kept s s'' x where
  live hl := by
    obtain ⟨hl', h1, h2, h3, h4, h5⟩ := h'.live hl
    obtain ⟨hl, k1, k2, k3, k4, k5⟩ := h.live hl'
    rw [k2] at h5
    exact ⟨hl, h1.trans k1, h2.trans k2, h3.trans k3, h4.trans k4, h5.trans k5⟩
  idle hx := by
    obtain ⟨hi', hr'⟩ := h'.idle hx
    obtain ⟨hi, hr⟩ := h.idle hi'
    exact ⟨hi, hr'.trans hr⟩

theorem handlePaths_congr (hcon : s'.consolidator = s.consolidator) :
    s'.handlePaths = s.handlePaths := by
  funext handle
  unfold handlePaths
  rw [hcon]

/-- The record of one call changes, and the consolidator does not. -/
theorem kept_update {r : SubscribeCall} (hcalls : s'.calls = Function.update s.calls c r)
    (hcon : s'.consolidator = s.consolidator)
    (hlive : r.live = true → (s.calls c).live = true) (hpc : r.pc = .idle → (s.calls c).pc = .idle)
    (hid : r.id = (s.calls c).id) (hhandle : r.systemHandle = (s.calls c).systemHandle)
    (hacc : r.accepted = (s.calls c).accepted)
    (hr : replies r.stream = replies (s.calls c).stream) (x : CallId) : Kept s s' x := by
  have hp := handlePaths_congr hcon
  by_cases hx : x = c
  · rw [hx]
    have hself : s'.calls c = r := by rw [hcalls, Function.update_self]
    refine ⟨fun h => ?_, fun h => ?_⟩
    · rw [hself] at h ⊢
      exact ⟨hlive h, hid, hhandle, hacc, hr, by rw [hp]⟩
    · rw [hself] at h ⊢
      exact ⟨hpc h, hr⟩
  · have hother : s'.calls x = s.calls x := by rw [hcalls, Function.update_of_ne hx]
    exact Kept.of_eq hother fun _ => by rw [hp]

theorem live_of_congr {r r' : SubscribeCall} (hl : r'.live = true) (hpc : r'.pc = r.pc)
    (ha : r'.sub.active = r.sub.active) : r.live = true := by
  unfold live at hl ⊢
  rwa [hpc, ha] at hl

/-! ## The operations -/

variable (env) in
/-- The call is refused, or it is told its id and the paths that `addRequest` accepted. -/
theorem subscribe_cases (s : AgentServer σ) (c : CallId) (request : SubscriptionRequest) :
    (((s.telemetrySubscribe env c request).calls c).pc = .done ∧
      (s.telemetrySubscribe env c request).consolidator = s.consolidator) ∨
    ∃ id validated,
      (s.telemetrySubscribe env c request).consolidator = (s.consolidator.addRequest env.sys
        env.getMessageString true id validated).2 ∧
      ((s.telemetrySubscribe env c request).calls c).id = id ∧
      ((s.telemetrySubscribe env c request).calls c).systemHandle = s.consolidator.nextHandle ∧
      ((s.telemetrySubscribe env c request).calls c).accepted.pathList =
        (s.consolidator.addRequest env.sys env.getMessageString true id validated).1.2 ∧
      ((s.telemetrySubscribe env c request).calls c).pc = .streaming ∧
      ((s.telemetrySubscribe env c request).calls c).stream = (s.calls c).stream ++
        [.initResponse { subscriptionId := id, pathList := (s.consolidator.addRequest env.sys
          env.getMessageString true id validated).1.2 }] := by
  obtain ⟨r, hr, he⟩ | ⟨i, -, -, -, he⟩ := allocate_spec s c request
  · left
    have hpc : ((s.allocate c request).calls c).pc = .done := by
      rw [he, pc_setCall]
      exact hr
    unfold telemetrySubscribe
    simp only [if_pos hpc]
    refine ⟨hpc, ?_⟩
    rw [he]
    rfl
  · right
    have hpc : ((s.allocate c request).calls c).pc ≠ .done := by
      rw [he]
      simp only [Function.update_self]
      simp
    have hpc' : (((s.allocate c request).addRequest env c true).calls c).pc ≠ .done := by
      rw [pc_addRequest]
      simp
    refine ⟨i, ((s.allocate c request).validate env request).1, ?_⟩
    unfold telemetrySubscribe
    simp only [if_neg hpc, if_neg hpc']
    rw [addRequest_spec, he]
    split
    · simp only [setActive, enable, sendResponse, sendMetaDataInfo, setCall, mapAll, addWorker,
        createSubscriptionUdpWorker, createSubscription, Function.update_self]
      exact ⟨trivial, trivial, trivial, trivial, trivial, rfl⟩
    · simp only [setActive, enable, sendResponse, sendMetaDataInfo, setCall, createSubscription,
        Function.update_self]
      exact ⟨trivial, trivial, trivial, trivial, trivial, rfl⟩

theorem Between.told_subscribe (hinj : Function.Injective env.getMessageString) (h : Between env s)
    (ht : ToldAll s) (hpc : (s.calls c).pc = .idle) (request : SubscriptionRequest) :
    ToldAll (s.telemetrySubscribe env c request) := by
  have ho := own_subscribe env s c request
  obtain ⟨hdone, hcon⟩ | ⟨id, validated, hcon, hid, hhandle, hacc, hstreaming, hstream⟩ :=
    subscribe_cases env s c request
  · refine ht.of_kept fun x => ?_
    by_cases hx : x = c
    · rw [hx]
      exact Kept.of_ended (live_of_pc_done hdone) (by rw [hdone]; simp)
    · exact Kept.of_eq (ho.calls x hx) fun _ => by rw [handlePaths_congr hcon]
  · have hothers : ∀ x, x ≠ c → Kept s (s.telemetrySubscribe env c request) x := by
      intro x hx
      refine Kept.of_eq (ho.calls x hx) fun hl => ?_
      have hholds : (s.calls x).holds 2 = true := h.settled.holds hl (by decide)
      unfold handlePaths
      rw [hcon]
      exact (AgentConsolidator.getHandles_addRequest env.sys h.inv.consolidator id validated
        (h.inv.mem_consolidator hholds)).2
    refine ⟨fun x hl => ?_, fun x hi => ?_⟩
    · by_cases hx : x = c
      · rw [hx]
        refine ⟨?_, ?_⟩
        · rw [hstream, hid, hacc, replies_append, ht.idle c hpc]
          rfl
        · rw [hacc, hhandle]
          unfold handlePaths
          rw [hcon]
          apply List.map_injective_iff.mpr hinj
          rw [List.map_map]
          exact AgentConsolidator.texts_addRequest env.sys h.inv.consolidator id validated
      · exact (hothers x hx).told ht hl
    · have hx : x ≠ c := by
        rintro rfl
        rw [hstreaming] at hi
        exact absurd hi (by simp)
      obtain ⟨hidle, hr⟩ := (hothers x hx).idle hi
      rw [hr, ht.idle x hidle]

/-- The second half of a tear-down of call `c`. -/
theorem kept_finish (s : AgentServer σ) {origin : Origin} (c : CallId)
    (ho : origin = .endOfStream c ∨ ∃ i, origin = .cancel i ∧ s.store[i]? = some c)
    (hpc : (s.calls c).pc = .streaming) (hcon : s.consolidator.Inv env.getMessageString)
    (hm : (s.calls c).sub.systemSubscription ∈ s.consolidator.handles)
    (hne : ∀ x, x ≠ c → (s.calls x).live = true →
      (s.calls x).systemHandle ≠ (s.calls c).sub.systemSubscription) (x : CallId) :
    Kept s (finish env s origin).2 x := by
  obtain ⟨r, hcalls, hr, hact, hremove⟩ := finish_cases env s c ho
  by_cases hx : x = c
  · rw [hx]
    have hself : (finish env s origin).2.calls c = r := by rw [hcalls, Function.update_self]
    have htorn : r.Torn := ⟨hact, hr.symm.imp (fun h => h.trans hpc) id⟩
    refine Kept.of_ended (hself ▸ htorn.not_live) ?_
    rw [hself]
    obtain hr | hr := hr
    · rw [hr]
      simp
    · rw [hr, hpc]
      simp
  · have hother : (finish env s origin).2.calls x = s.calls x := by
      rw [hcalls, Function.update_of_ne hx]
    refine Kept.of_eq hother fun hl => ?_
    obtain ⟨y, hy⟩ := Option.isSome_iff_exists.mp (ExtTreeMap.mem_iff_isSome_getElem?.mp hm)
    unfold handlePaths
    rw [hremove]
    exact (AgentConsolidator.getHandles_removeRequest env.sys hcon hy (hne x hx hl)).2

theorem kept_cleanupSubscriptionUdpWorker (s : AgentServer σ) (w x : CallId) :
    Kept s (s.cleanupSubscriptionUdpWorker w) x := by
  refine ⟨fun hl => ?_, fun hi => ?_⟩
  · rw [calls_cleanupSubscriptionUdpWorker] at hl ⊢
    exact ⟨hl, rfl, rfl, rfl, rfl, rfl⟩
  · rw [calls_cleanupSubscriptionUdpWorker] at hi ⊢
    exact ⟨hi, rfl⟩

/-- The call that is torn down has a handle of its own. -/
theorem Between.handle_own (h : Between env s) (hl : (s.calls c).live = true) :
    (s.calls c).sub.systemSubscription ∈ s.consolidator.handles ∧
      ∀ x, x ≠ c → (s.calls x).live = true →
        (s.calls x).systemHandle ≠ (s.calls c).sub.systemSubscription := by
  have h2 : (s.calls c).holds 2 = true := h.settled.holds hl (by decide)
  rw [((h.inv.wf c).sub (h.settled.holds hl (by decide))).2]
  refine ⟨h.inv.mem_consolidator h2, fun x hx hlx he => hx ?_⟩
  have hx2 : (s.calls x).holds 2 = true := h.settled.holds hlx (by decide)
  exact h.inv.handles (handleName_eq_some.mpr ⟨hx2, he⟩) (handleName_eq_some.mpr ⟨h2, rfl⟩)

/-- What runs under the mutex, after the UDP worker of `w` or without one. -/
theorem Between.kept_tearDown (h : Between env s) (hl : (s.calls c).live = true) {origin : Origin}
    (ho : origin = .endOfStream c ∨ ∃ i, origin = .cancel i ∧ s.store[i]? = some c) (x : CallId) :
    Kept s (finish env s origin).2 x ∧
      ∀ w, Kept s (finish env (s.cleanupSubscriptionUdpWorker w) origin).2 x := by
  obtain ⟨hm, hne⟩ := h.handle_own hl
  refine ⟨kept_finish s c ho (h.settled.streaming hl) h.inv.consolidator hm hne x, fun w => ?_⟩
  refine (kept_cleanupSubscriptionUdpWorker s w x).trans
    (kept_finish (s.cleanupSubscriptionUdpWorker w) c ho ?_ h.inv.consolidator ?_ ?_ x)
  · rw [pc_cleanupSubscriptionUdpWorker]
    exact h.settled.streaming hl
  · rw [calls_cleanupSubscriptionUdpWorker]
    exact hm
  · intro y hy hly
    rw [calls_cleanupSubscriptionUdpWorker] at hly ⊢
    rw [calls_cleanupSubscriptionUdpWorker]
    exact hne y hy hly

theorem Between.kept_cancel (h : Between env s) (i : Nat) (x : CallId) :
    Kept s (s.cancelTelemetrySubscription env i).2 x := by
  cases hs : s.store[i]? with
  | none =>
    have hi : i ∉ s.store := by
      rw [ExtTreeMap.mem_iff_isSome_getElem?, hs]
      simp
    rw [h.cancel_of_not_mem hi]
    exact Kept.refl s x
  | some c =>
    obtain ⟨h1, h2⟩ := h.kept_tearDown (h.sub_eq hs).1 (.inr ⟨i, rfl, hs⟩) x
    unfold cancelTelemetrySubscription
    split
    · split
      · exact Kept.refl s x
      · exact h2 _
    · exact h1

theorem Between.kept_streamEnd (h : Between env s) (hpc : (s.calls c).pc = .streaming) (x : CallId) :
    Kept s (s.streamEnd env c) x := by
  unfold streamEnd
  simp only []
  split
  · rename_i hact
    obtain ⟨h1, h2⟩ := h.kept_tearDown (live_of_streaming hpc hact) (.inl rfl) x
    split
    · exact h2 c
    · exact h1
  · have hcalls : (s.setCall c { s.calls c with pc := .done }).calls =
        Function.update s.calls c { s.calls c with pc := .done } := rfl
    exact kept_update hcalls rfl (fun hl => absurd hl (by rw [live_of_pc_done rfl]; simp))
      (fun hi => absurd hi (by simp)) rfl rfl rfl rfl x

theorem told_perform (hinj : Function.Injective env.getMessageString) {o : Operation}
    (h : Between env s) (ht : ToldAll s) (hs : s.perform env o = some s') : ToldAll s' := by
  cases o with
  | subscribe c request =>
    obtain ⟨hpc, rfl⟩ := perform_subscribe_eq_some hs
    exact h.told_subscribe hinj ht hpc request
  | cancel i =>
    obtain ⟨-, rfl⟩ := perform_cancel_eq_some hs
    exact ht.of_kept (h.kept_cancel i)
  | streamEnd c =>
    obtain ⟨⟨hpc, -⟩, rfl⟩ := perform_streamEnd_eq_some hs
    exact ht.of_kept (h.kept_streamEnd hpc)
  | disconnect c =>
    rw [← Option.some.inj hs]
    exact ht.of_kept (kept_update rfl rfl id id rfl rfl rfl rfl)
  | datagram buf =>
    have he := step_datagram (show s.step env (.datagram buf) = some s' from hs)
    have hcalls : ∀ x, s'.calls x = { s.calls x with
        worker := { (s.calls x).worker with
          q := (s.calls x).worker.q ++
            List.replicate ((s.reached buf).count x) (UdpReceiver.payload buf) } } := by
      intro x
      rw [he]
      exact pushAll_apply _ _ _ x
    have hp : s'.handlePaths = s.handlePaths := handlePaths_congr (by rw [he])
    refine ht.of_kept fun x => ⟨fun hl => ?_, fun hi => ?_⟩
    · rw [hcalls] at hl ⊢
      exact ⟨hl, rfl, rfl, rfl, rfl, by rw [hp]⟩
    · rw [hcalls] at hi ⊢
      exact ⟨hi, rfl⟩
  | workerStep c =>
    obtain ⟨vec, w, -, rfl⟩ := workerStep_eq_some hs
    exact ht.of_kept (kept_update rfl rfl id id rfl rfl rfl (by simp))
  | message c now m =>
    obtain ⟨-, rfl⟩ := step_message hs
    refine ht.of_kept (kept_update rfl rfl ?_ id rfl rfl rfl ?_)
    · have hact : (s.handled env c now m).2.active = (s.calls c).sub.active :=
        AgentSubscription.active_onMessage _ _ _ _ _ _
      exact fun hl => live_of_congr hl rfl hact
    · show replies ((s.calls c).stream ++ _) = _
      rw [replies_append]
      split
      · rw [replies_record, List.append_nil]
      · exact List.append_nil _

/-! ## The operational state -/

/-- What a reader of the reply finds under a key. -/
def intValues (key : String) (l : List KeyValue) : List Int :=
  (l.filter fun kv => kv.key = key).map fun kv => kv.intValue.toInt

@[simp] theorem intValues_append (key : String) (l l' : List KeyValue) :
    intValues key (l ++ l') = intValues key l ++ intValues key l' := by
  rw [intValues, List.filter_append, List.map_append]
  rfl

theorem intValues_flatMap {α : Type} (key : String) (l : List α) (f : α → List KeyValue) :
    intValues key (l.flatMap f) = l.flatMap fun a => intValues key (f a) := by
  rw [intValues, List.filter_flatMap, List.map_flatMap]
  rfl

theorem intValues_count_self {key : String} {n : Nat} (hn : n < 2 ^ 63) (l : List KeyValue) :
    intValues key (.count key n :: l) = (n : Int) :: intValues key l := by
  rw [intValues, List.filter_cons_of_pos (by simp [KeyValue.count]), List.map_cons]
  congr 1
  exact Int64.toInt_ofNat_of_lt hn

theorem intValues_cons_of_ne {key : String} {kv : KeyValue} (h : kv.key ≠ key)
    (l : List KeyValue) : intValues key (kv :: l) = intValues key l := by
  rw [intValues, List.filter_cons_of_neg (by simpa using h)]
  rfl

theorem intValues_of_forall_ne {key : String} {l : List KeyValue} (h : ∀ kv ∈ l, kv.key ≠ key) :
    intValues key l = [] := by
  rw [intValues, List.filter_eq_nil_iff.mpr fun kv hkv => by simpa using h kv hkv, List.map_nil]

variable {stats : CallId → Statistics} {verbosity : VerbosityLevel}

/-- What a subscription reports is under keys of the bus. -/
theorem head_getOperational (sub : AgentSubscription) (st : Statistics) :
    ∀ kv ∈ sub.getOperational st verbosity, kv.key.toList.head? = some 'm' := by
  intro kv hkv
  rw [AgentSubscription.getOperational, Mqtt.getOperational, List.mem_append, List.mem_append] at hkv
  obtain (hkv | hkv) | hkv := hkv
  · simp only [List.mem_cons, List.not_mem_nil, or_false] at hkv
    obtain rfl | rfl | rfl | rfl := hkv <;> simp
  · split at hkv
    · exact absurd hkv (by simp)
    · simp only [List.mem_append, List.mem_cons, List.not_mem_nil, or_false, List.mem_flatMap] at hkv
      obtain (rfl | rfl) | ⟨e, -, rfl | rfl⟩ := hkv <;> simp
  · split at hkv
    · exact absurd hkv (by simp)
    · simp only [List.mem_cons, List.not_mem_nil, or_false] at hkv
      obtain rfl | rfl | rfl := hkv <;> simp

theorem head_getOperational_worker (w : AgentSubscriptionUdpWorker) (st : Statistics) :
    ∀ kv ∈ w.getOperational st, kv.key.toList.head? = some 'u' := by
  intro kv hkv
  simp only [AgentSubscriptionUdpWorker.getOperational, List.mem_cons, List.not_mem_nil,
    or_false] at hkv
  obtain rfl | rfl | rfl | rfl | rfl := hkv <;> simp

/-- The server's own keys start with another letter. -/
theorem intValues_subscriptionState (s : AgentServer σ) (i : Nat) (c : CallId) {key : String}
    (hkey : key.toList.head? = some 's' ∨ key.toList.head? = some 't') :
    intValues key (s.subscriptionState env stats verbosity i c) = [] := by
  have hne : ∀ (kv : KeyValue) (a : Char), kv.key.toList.head? = some a → a ≠ 's' → a ≠ 't' →
      kv.key ≠ key := by
    rintro kv a hkv hs ht rfl
    rw [hkv, Option.some.injEq, Option.some.injEq] at hkey
    exact hkey.elim hs ht
  rw [subscriptionState, intValues_append, intValues_of_forall_ne fun kv hkv =>
    hne kv 'm' (head_getOperational _ _ kv hkv) (by decide) (by decide), List.nil_append]
  split
  · split
    · refine intValues_of_forall_ne fun kv hkv => ?_
      rw [List.mem_singleton.mp hkv]
      exact hne _ 'e' (by simp) (by decide) (by decide)
    · exact intValues_of_forall_ne fun kv hkv =>
        hne kv 'u' (head_getOperational_worker _ _ kv hkv) (by decide) (by decide)
  · rfl

theorem Between.lt_of_mem (h : Between env s) {i : Nat} (hi : i ∈ s.store) :
    i < subscriptionIdSpaceSize := by
  obtain ⟨c, hc⟩ := (h.mem_store i).mp hi
  exact h.inv.ids.lt hc

theorem Between.size_le (h : Between env s) : s.store.size ≤ subscriptionIdSpaceSize := by
  have hsub : s.listing.map (·.subscriptionId) ⊆ List.range subscriptionIdSpaceSize := by
    intro i hi
    rw [h.ids_listing, ExtTreeMap.map_fst_toList_eq_keys, ExtTreeMap.mem_keys] at hi
    exact List.mem_range.mpr (h.lt_of_mem hi)
  have hnodup : (s.listing.map (·.subscriptionId)).Nodup := h.pairwise_ids.imp Nat.ne_of_lt
  have hle := (hnodup.subperm hsub).length_le
  rwa [List.length_range, List.length_map, listing, List.length_map, ExtTreeMap.length_toList] at hle

theorem intValues_agentState (h : Between env s) :
    intValues "subscription_id" s.agentState = [] ∧
      intValues "total_subscriptions" s.agentState = [(s.store.size : Int)] := by
  have hsize := h.size_le
  unfold agentState
  refine ⟨intValues_of_forall_ne fun kv hkv => ?_, ?_⟩
  · simp only [List.mem_cons, List.not_mem_nil, or_false] at hkv
    obtain rfl | rfl | rfl := hkv <;> simp
  · rw [intValues_cons_of_ne (by decide), intValues_count_self (Nat.lt_of_le_of_lt hsize (by decide)),
      intValues_cons_of_ne (by decide)]
    rfl

/-- The state of all subscriptions has the listed ids and their number. -/
theorem Between.getTelemetryOperationalState_all (h : Between env s) {fuel : Nat}
    (hf : s.store.size ≤ fuel) :
    ∃ kvs, s.getTelemetryOperationalState env stats verbosity fuel allSubscriptions = some kvs ∧
      intValues "subscription_id" kvs = s.listing.map (fun e => (e.subscriptionId : Int)) ∧
      intValues "total_subscriptions" kvs = [(s.listing.length : Int)] := by
  have hlen : s.listing.length = s.store.size := by
    rw [listing, List.length_map, ExtTreeMap.length_toList]
  obtain ⟨hids, htotal⟩ := intValues_agentState h
  rw [getTelemetryOperationalState, if_neg (by decide), if_neg (by simp), h.walk_getFirst hf]
  refine ⟨_, rfl, ?_, ?_⟩
  · rw [intValues_append, hids, List.append_nil, listing, List.map_map]
    rw [intValues_flatMap, List.flatMap_map, List.map_eq_flatMap]
    refine List.flatMap_congr fun e he => ?_
    have hs := ExtTreeMap.mem_toList_iff_getElem?_eq_some.mp he
    have hlt : (s.calls e.2).sub.id < subscriptionIdSpaceSize := by
      rw [(h.sub_eq hs).2.2.1]
      exact h.lt_of_mem (ExtTreeMap.mem_iff_isSome_getElem?.mpr (by rw [hs]; rfl))
    rw [intValues_count_self (Nat.lt_trans hlt (by decide)), intValues_subscriptionState s _ _ (by simp)]
    rfl
  · rw [intValues_append, htotal, hlen, intValues_flatMap, List.flatMap_eq_nil_iff.mpr, List.nil_append]
    intro c _
    rw [intValues_cons_of_ne (by simp), intValues_subscriptionState s _ c (by simp)]

/-! ## The listing -/

theorem getRequest_eq (s : AgentServer σ) {handle : HandlePtr}
    (hm : handle ∈ s.consolidator.handles) :
    s.consolidator.getRequest handle = some (s.handlePaths handle) := by
  obtain ⟨x, hx⟩ := Option.isSome_iff_exists.mp (ExtTreeMap.mem_iff_isSome_getElem?.mp hm)
  unfold AgentConsolidator.getRequest handlePaths AgentConsolidator.getHandles
  rw [hx, Option.map_some, Option.map_some, Option.getD_some, List.map_map]
  rfl

/-- The entry of a live subscription is the reply that it was sent. -/
theorem Between.entry_eq (h : Between env s) (ht : ToldAll s) (hl : (s.calls c).live = true)
    {e : SubscriptionReply} (he : e ∈ s.listing) (hid : e.subscriptionId = (s.calls c).id) :
    replies (s.calls c).stream = [e] ∧
      s.consolidator.getRequest (s.calls c).sub.systemSubscription = some e.pathList := by
  obtain ⟨⟨i, d⟩, hd, rfl⟩ := List.mem_map.mp he
  obtain ⟨hld, hidd, hsub, hhandle⟩ := h.sub_eq (ExtTreeMap.mem_toList_iff_getElem?_eq_some.mp hd)
  have hid' : (s.calls d).id = (s.calls c).id := by
    rw [← hid, hidd]
    exact hsub.symm
  obtain rfl : d = c :=
    h.inv.eq_of_id (h.settled.holds hld (by decide)) (h.settled.holds hl (by decide)) hid'
  have hpaths : (s.subscriptionEntry d).pathList =
      s.handlePaths (s.calls d).sub.systemSubscription := rfl
  refine ⟨?_, ?_⟩
  · rw [(ht.live d hl).replies, ← (ht.live d hl).paths, ← hhandle, hidd, ← hsub]
    rfl
  · rw [getRequest_eq s (h.handle_own hl).1, hpaths]

/-- The replies of the two calls, over the list `l`. -/
structure Listing (env : Environment σ) (s : AgentServer σ) (l : List SubscriptionReply) :
    Prop where
  all : ∀ fuel, s.store.size ≤ fuel → s.getTelemetrySubscriptions fuel allSubscriptions = some l
  ascending : (l.map (·.subscriptionId)).Pairwise (· < ·)
  live : ∀ i, i ∈ l.map (·.subscriptionId) ↔ ∃ c, (s.calls c).live = true ∧ (s.calls c).id = i
  one : ∀ fuel i, i ≠ allSubscriptions →
    s.getTelemetrySubscriptions fuel i = some (l.filter fun e => e.subscriptionId = i)
  paths : ∀ c, (s.calls c).live = true → ∀ e ∈ l, e.subscriptionId = (s.calls c).id →
    replies (s.calls c).stream = [e] ∧
      s.consolidator.getRequest (s.calls c).sub.systemSubscription = some e.pathList
  operational : ∀ stats verbosity fuel, s.store.size ≤ fuel →
    ∃ kvs, s.getTelemetryOperationalState env stats verbosity fuel allSubscriptions = some kvs ∧
      intValues "subscription_id" kvs = l.map (fun e => (e.subscriptionId : Int)) ∧
      intValues "total_subscriptions" kvs = [(l.length : Int)]

theorem told_of_operations (hinj : Function.Injective env.getMessageString)
    {db : PathInformationDB} {x : σ} {os : List Operation}
    (hr : run (perform env) (new db x) os = some s) : Between env s ∧ ToldAll s := by
  have hstep : ∀ s o s', Between env s ∧ ToldAll s → s.perform env o = some s' →
      Between env s' ∧ ToldAll s' :=
    fun _ _ _ h hs => ⟨between_perform h.1 hs, told_perform hinj h.1 h.2 hs⟩
  exact run_invariant_of_step hstep ⟨between_new db x, toldAll_new db x⟩ hr

/-- **Listing.** After every sequence of whole operations, with a printer that tells paths
    apart, the listing has one entry for each live subscription, in ascending order of the
    ids. An entry is the reply that the subscription was sent at its set-up, and has the
    paths that `getRequest` gives for its handle. -/
theorem listing_of_operations (env : Environment σ)
    (hinj : Function.Injective env.getMessageString) (db : PathInformationDB) (x : σ)
    (os : List Operation) (s : AgentServer σ)
    (hr : run (perform env) (new db x) os = some s) : ∃ l, Listing env s l := by
  obtain ⟨h, ht⟩ := told_of_operations hinj hr
  exact ⟨s.listing, fun fuel hf => h.getTelemetrySubscriptions_all hf, h.pairwise_ids, h.mem_ids,
    fun fuel i hi => h.getTelemetrySubscriptions_eq fuel hi,
    fun c hl e he hid => h.entry_eq ht hl he hid,
    fun stats verbosity fuel hf => h.getTelemetryOperationalState_all hf⟩

/-- Three subscriptions share `firewall`; the first of them is cancelled. -/
theorem listing_of_operations_shared :
    ∃ s, run (perform { nullEnvironment true with getMessageString := textFormat }) (new ∅ {})
        [.subscribe 0 { pathList := [{ path := "firewall" }] },
          .subscribe 1 { pathList := [{ path := "lsp" }, { path := "firewall" }] },
          .subscribe 2 { pathList := [{ path := "firewall" }, { path := "firewall" }] },
          .cancel 1] = some s ∧
      s.getTelemetrySubscriptions 2 allSubscriptions =
        some [{ subscriptionId := 2, pathList := [{ path := "lsp" }, { path := "firewall" }] },
          { subscriptionId := 3, pathList := [{ path := "firewall" }, { path := "firewall" }] }] ∧
      ∃ l, Listing { nullEnvironment true with getMessageString := textFormat } s l := by
  have hrun : (run (perform { nullEnvironment true with getMessageString := textFormat }) (new ∅ {})
      [.subscribe 0 { pathList := [{ path := "firewall" }] },
        .subscribe 1 { pathList := [{ path := "lsp" }, { path := "firewall" }] },
        .subscribe 2 { pathList := [{ path := "firewall" }, { path := "firewall" }] },
        .cancel 1]).map (fun s => s.getTelemetrySubscriptions 2 allSubscriptions) =
      some (some [{ subscriptionId := 2, pathList := [{ path := "lsp" }, { path := "firewall" }] },
        { subscriptionId := 3,
          pathList := [{ path := "firewall" }, { path := "firewall" }] }]) := by
    decide +kernel
  obtain ⟨s, hs, hl⟩ := Option.map_eq_some_iff.mp hrun
  exact ⟨s, hs, hl, listing_of_operations _ textFormat_injective _ _ _ s hs⟩

end AgentServer

end TelemetryAgent
