/-
  The record limit of a subscription.

  `Mqtt::on_message_count` counts the messages that the bus hands over and sets
  `_limits_reached` when they are as many as the limit. `on_message` does not look at the
  flag: it writes as long as the subscription is active, which it is until the wait loop
  has seen the flag and the tear-down has run. A UDP worker writes into the same stream and
  keeps its own count, which no limit is compared with.

  `withinLimit_of_run`: the limit is kept in every run in which each record is handled while
  the two counts, less the messages that failed, are below it (`RoomLeft`).
  `hasRoom_of_not_limitsReached`: for a subscription without UDP traffic that is while the
  flag is not set, so the wait loop would have to see it before the next message comes. With
  a limit of one, two messages in a row break it (`not_withinLimit_two_messages`).
-/
import TelemetryAgent.Server.TearDown
import TelemetryAgent.Server.Steps

namespace TelemetryAgent

open Std TelemetryAgent.Lib

variable {σ : Type}

namespace SubscribeCall

/-- `limit_records` of the accepted request. -/
def limitRecords (r : SubscribeCall) : Int := r.accepted.additionalConfig.limitRecords.toInt

/-- No more records are written than the limit allows. -/
def WithinLimit (r : SubscribeCall) : Prop :=
  0 < r.limitRecords → ((AgentServer.records r.stream).length : Int) ≤ r.limitRecords

/-- The messages that did not fail and the payloads of the UDP worker are below the limit. -/
def HasRoom (r : SubscribeCall) : Prop :=
  0 < r.limitRecords →
    (r.sub.messages.packets + r.worker.totalPktRecvd : Int) < r.limitRecords + r.sub.failures

instance (r : SubscribeCall) : Decidable r.HasRoom :=
  inferInstanceAs (Decidable (_ → _))

end SubscribeCall

namespace AgentServer

open SubscribeCall

/-- A record is handled while there is room for it. -/
def RoomLeft (env : Environment σ) (s : AgentServer σ) : Event → Prop
  | .workerStep c => HasRoom (s.calls c)
  | .message c _ m => (s.calls c).sub.active = true → env.translate m = .record →
      HasRoom (s.calls c)
  | _ => True

instance (env : Environment σ) (s : AgentServer σ) : ∀ e, Decidable (RoomLeft env s e)
  | .workerStep c => inferInstanceAs (Decidable (HasRoom (s.calls c)))
  | .message c _ m => inferInstanceAs (Decidable ((s.calls c).sub.active = true →
      env.translate m = .record → HasRoom (s.calls c)))
  | .subscribe _ _ => .isTrue trivial
  | .proceed _ => .isTrue trivial
  | .disconnect _ => .isTrue trivial
  | .cancel _ => .isTrue trivial
  | .cleanup => .isTrue trivial
  | .datagram _ => .isTrue trivial

/-- `count`: every record written is in one of the two counts, and no failure is written.
    `limits`: the bus has the limits of the accepted request. `flag`: it is set when the
    messages are as many as the limit. -/
structure Counted (r : SubscribeCall) : Prop where
  count : (records r.stream).length + r.sub.failures ≤
    r.sub.messages.packets + r.worker.totalPktRecvd
  failures : r.sub.failures ≤ r.sub.messages.packets
  limits : 3 ≤ r.pc.rank → r.sub.limits = AgentSubscription.limitsOf r.accepted.additionalConfig
  idle : r.pc.rank < 2 → r.accepted.additionalConfig = {} ∧
    r.sub.limits = AgentSubscription.limitsOf {}
  flag : r.sub.limitsReached = false → 0 < r.sub.limits.records →
    r.sub.messages.packets < r.sub.limits.records

variable {env : Environment σ} {s s' : AgentServer σ} {c : CallId}

theorem Counted.control {r r' : SubscribeCall} (h : Counted r) (he : Early r)
    (hc : Control env r r') : Counted r' := by
  have hl := h.limits
  have hi := h.idle
  cases hc with
  | same => exact h
  | disconnect => exact ⟨h.count, h.failures, hl, hi, h.flag⟩
  | reject request reply hpc =>
    obtain ⟨h1, h2⟩ := hi (by simp [hpc, Pc.rank])
    refine ⟨?_, h.failures, fun _ => ?_, fun h2 => absurd h2 (by simp [Pc.rank]), h.flag⟩
    · rw [records_append, records_initResponse, List.append_nil]
      exact h.count
    · rw [h2, h1]
  | allocate request id hpc =>
    exact ⟨h.count, h.failures, fun h3 => absurd h3 (by simp [Pc.rank]),
      fun _ => hi (by simp [hpc, Pc.rank]), h.flag⟩
  | addRequest handle accepted hcfg hpc =>
    exact ⟨h.count, h.failures, fun h3 => absurd h3 (by simp [Pc.rank]),
      fun h2 => absurd h2 (by simp [Pc.rank]), h.flag⟩
  | createSubscription active hpc =>
    refine ⟨?_, Nat.le_refl _, fun _ => rfl, fun h2 => absurd h2 (by simp [Pc.rank]),
      fun _ h0 => h0⟩
    rw [he.stream (by simp [hpc, Pc.rank])]
    exact Nat.zero_le _
  | createSubscriptionUdpWorker hpc =>
    refine ⟨?_, h.failures, fun _ => hl (by simp [hpc, Pc.rank]),
      fun h2 => absurd h2 (by simp [Pc.rank]), h.flag⟩
    rw [he.stream (by simp [hpc, Pc.rank])]
    show 0 + r.sub.failures ≤ r.sub.messages.packets + 0
    rw [Nat.zero_add]
    exact h.failures
  | sendResponse reply hpc =>
    refine ⟨?_, h.failures, fun _ => hl ?_, fun h2 => absurd h2 (by simp [Pc.rank]), h.flag⟩
    · rw [records_append, records_initResponse, List.append_nil]
      exact h.count
    · obtain hpc | ⟨k, hpc⟩ := hpc
      · simp [hpc, Pc.rank]
      · simp [hpc, Pc.rank]
  | tearDown t a pc hpc =>
    have hl' : 3 ≤ pc.rank →
        r.sub.limits = AgentSubscription.limitsOf r.accepted.additionalConfig := by
      intro h3
      obtain rfl | ⟨hpc, _⟩ := hpc
      · exact hl h3
      · exact hl (by simp [hpc, Pc.rank])
    have hi' : pc.rank < 2 → r.accepted.additionalConfig = {} ∧
        r.sub.limits = AgentSubscription.limitsOf {} := by
      intro h2
      obtain rfl | ⟨_, rfl⟩ := hpc
      · exact hi h2
      · exact absurd h2 (by simp [Pc.rank])
    cases t <;> cases a <;> exact ⟨h.count, h.failures, hl', hi', h.flag⟩
  | _ =>
    rename_i hpc
    exact ⟨h.count, h.failures, fun _ => hl (by simp [hpc, Pc.rank]),
      fun h2 => absurd h2 (by simp [Pc.rank]), h.flag⟩

/-- A step of the data plane that leaves the call where it is. -/
theorem Counted.of_data {r r' : SubscribeCall} (h : Counted r) (hpc : r'.pc = r.pc)
    (ha : r'.accepted = r.accepted) (hs : r'.sub.limits = r.sub.limits)
    (hcount : (records r'.stream).length + r'.sub.failures ≤
      r'.sub.messages.packets + r'.worker.totalPktRecvd)
    (hfail : r'.sub.failures ≤ r'.sub.messages.packets)
    (hflag : r'.sub.limitsReached = false → 0 < r'.sub.limits.records →
      r'.sub.messages.packets < r'.sub.limits.records) : Counted r' := by
  refine ⟨hcount, hfail, fun h3 => ?_, fun h2 => ?_, hflag⟩
  · rw [hs, ha]
    exact h.limits (hpc ▸ h3)
  · rw [hs, ha]
    exact h.idle (hpc ▸ h2)

theorem Counted.message {r : SubscribeCall} (h : Counted r) (now : Int) (m : MosquittoMessage)
    (handles : List AgentConsolidatorSystemHandle) :
    Counted { r with
      sub := (r.sub.onMessage env.config env.translate handles now m).2
      stream := r.stream ++
        if (r.sub.onMessage env.config env.translate handles now m).1 then [.record (.mqtt m)]
        else [] } := by
  have hm := AgentSubscription.toMqtt_onMessage env.config env.translate r.sub handles now m
  have hf := AgentSubscription.failures_onMessage env.config env.translate r.sub handles now m
  have hcount := h.count
  have hfail := h.failures
  have hp : (r.sub.onMessage env.config env.translate handles now m).2.messages.packets =
      r.sub.messages.packets + 1 := by
    rw [hm, Mqtt.packets_onMessageCount]
  refine h.of_data ?_ ?_ ?_ ?_ ?_ ?_
  · rfl
  · rfl
  · show (AgentSubscription.onMessage _ _ _ _ _ _).2.limits = _
    rw [hm, Mqtt.limits_onMessageCount]
  · rw [records_append, List.length_append]
    show _ + _ + (AgentSubscription.onMessage _ _ _ _ _ _).2.failures ≤
      (AgentSubscription.onMessage _ _ _ _ _ _).2.messages.packets + r.worker.totalPktRecvd
    rw [hp]
    split at hf
    · rename_i hw
      rw [if_pos hw, records_record, List.length_singleton]
      omega
    · rename_i hw
      rw [if_neg hw]
      show _ + 0 + _ ≤ _
      omega
  · show (AgentSubscription.onMessage _ _ _ _ _ _).2.failures ≤
      (AgentSubscription.onMessage _ _ _ _ _ _).2.messages.packets
    omega
  · show (AgentSubscription.onMessage _ _ _ _ _ _).2.limitsReached = false →
      0 < (AgentSubscription.onMessage _ _ _ _ _ _).2.limits.records →
      (AgentSubscription.onMessage _ _ _ _ _ _).2.messages.packets <
        (AgentSubscription.onMessage _ _ _ _ _ _).2.limits.records
    rw [hp, hm, Mqtt.limitsReached_onMessageCount, Mqtt.limits_onMessageCount]
    intro hr h0
    rw [Bool.or_eq_false_iff] at hr
    have he := hr.2
    unfold AgentSubscriptionLimits.expired AgentSubscriptionLimits.expiredCount at he
    rw [Bool.or_eq_false_iff, if_neg (Nat.ne_of_gt h0)] at he
    by_contra hlt
    rw [if_neg hlt] at he
    exact absurd he.2 (by simp)

theorem Counted.workerStep {r : SubscribeCall} (h : Counted r) {vec : List UInt8}
    {w : AgentSubscriptionUdpWorker} (hn : r.worker.next = some (vec, w)) :
    Counted { r with worker := w, stream := r.stream ++ [.record (.udp vec)] } := by
  obtain ⟨_, _, _, _, _, ht⟩ := AgentSubscriptionUdpWorker.next_eq_some hn
  have hcount := h.count
  refine h.of_data ?_ ?_ ?_ ?_ h.failures h.flag
  · rfl
  · rfl
  · rfl
  · rw [records_append, List.length_append, records_record, List.length_singleton]
    show _ + 1 + r.sub.failures ≤ r.sub.messages.packets + w.totalPktRecvd
    omega

/-- What holds of every call in every run. -/
structure CountedAll (s : AgentServer σ) : Prop where
  quiet : Quiet s
  counted : ∀ c, Counted (s.calls c)

theorem countedAll_new (db : PathInformationDB) (x : σ) : CountedAll (new db x) where
  quiet := quiet_new db x
  counted c := by
    refine ⟨Nat.le_refl _, Nat.le_refl _, fun h3 => absurd h3 ?_, fun _ => ⟨rfl, ?_⟩,
      fun _ h0 => h0⟩
    · show ¬ 3 ≤ Pc.idle.rank
      decide
    · show (default : SubscribeCall).sub.limits = _
      decide

theorem counted_update (h : ∀ x, Counted (s.calls x)) {r : SubscribeCall} (hr : Counted r)
    (x : CallId) : Counted (Function.update s.calls c r x) := by
  refine (Function.forall_update_iff s.calls fun _ => Counted).mpr ⟨hr, ?_⟩ x
  exact fun y _ => h y

theorem countedAll_step {e : Event} (h : CountedAll s) (hs : s.step env e = some s') :
    CountedAll s' := by
  refine ⟨quiet_step h.quiet hs, fun x => ?_⟩
  cases e with
  | datagram buf =>
    rw [step_datagram hs]
    show Counted (pushAll _ _ _ x)
    rw [pushAll_apply]
    have hx := h.counted x
    exact ⟨hx.count, hx.failures, hx.limits, hx.idle, hx.flag⟩
  | workerStep c =>
    obtain ⟨vec, w, hn, rfl⟩ := workerStep_eq_some hs
    exact counted_update h.counted ((h.counted c).workerStep hn) x
  | message c now m =>
    obtain ⟨_, rfl⟩ := step_message hs
    exact counted_update h.counted ((h.counted c).message now m _) x
  | _ => exact (h.counted x).control (h.quiet.early x) (control_of_step h.quiet.ending rfl hs x)

theorem countedAll_of_run {db : PathInformationDB} {x : σ} {es : List Event}
    (hr : run (step env) (new db x) es = some s) : CountedAll s :=
  run_invariant_of_step (fun _ _ _ h hs => countedAll_step h hs) (countedAll_new db x) hr

/-- The limit that the bus compares with is the one of the request. -/
theorem Counted.limit_eq {r : SubscribeCall} (h : Counted r) (h3 : 3 ≤ r.pc.rank)
    (h0 : 0 < r.limitRecords) : (r.sub.limits.records : Int) = r.limitRecords := by
  rw [h.limits h3]
  exact toUInt64_of_nonneg (Int.le_of_lt h0)

/-- Without UDP traffic there is room until the bus has set the flag that the wait loop
    looks at. -/
theorem hasRoom_of_not_limitsReached {db : PathInformationDB} {x : σ} {es : List Event}
    (hr : run (step env) (new db x) es = some s) (hpc : 3 ≤ (s.calls c).pc.rank)
    (hudp : (s.calls c).worker.totalPktRecvd = 0) (hf : (s.calls c).sub.expired = false) :
    HasRoom (s.calls c) := by
  intro h0
  have h := (countedAll_of_run hr).counted c
  have hl := h.limit_eq hpc h0
  have := h.flag hf (by omega)
  rw [hudp]
  omega

/-! ## The limit -/

/-- Under the condition the limit holds along the run. -/
structure Limited (s : AgentServer σ) : Prop where
  counted : CountedAll s
  within : ∀ c, WithinLimit (s.calls c)

theorem withinLimit_control {r r' : SubscribeCall} (h : WithinLimit r) (he : Early r)
    (hc : Control env r r') : WithinLimit r' := by
  unfold WithinLimit
  rw [hc.records_eq]
  cases hc with
  | addRequest handle accepted hcfg hpc =>
    intro h0
    rw [he.stream (by simp [hpc, Pc.rank])]
    exact Int.le_of_lt h0
  | _ => exact h

theorem withinLimit_update (h : ∀ x, WithinLimit (s.calls x)) {r : SubscribeCall}
    (hr : WithinLimit r) (x : CallId) : WithinLimit (Function.update s.calls c r x) := by
  refine (Function.forall_update_iff s.calls fun _ => WithinLimit).mpr ⟨hr, ?_⟩ x
  exact fun y _ => h y

/-- One more record, written while there is room. -/
theorem Counted.withinLimit_append {r r' : SubscribeCall} (h : Counted r) (hroom : HasRoom r)
    (ha : r'.accepted = r.accepted) {e : Record} (hs : r'.stream = r.stream ++ [.record e]) :
    WithinLimit r' := by
  have hl : r'.limitRecords = r.limitRecords := by
    unfold limitRecords
    rw [ha]
  intro h0
  rw [hl] at h0 ⊢
  have := hroom h0
  have := h.count
  rw [hs, records_append, List.length_append, records_record, List.length_singleton]
  omega

theorem limited_step {e : Event} (h : Limited s) (hc : RoomLeft env s e)
    (hs : s.step env e = some s') : Limited s' := by
  refine ⟨countedAll_step h.counted hs, fun x => ?_⟩
  cases e with
  | datagram buf =>
    rw [step_datagram hs]
    show WithinLimit (pushAll _ _ _ x)
    rw [pushAll_apply]
    exact h.within x
  | workerStep c =>
    obtain ⟨vec, w, hn, rfl⟩ := workerStep_eq_some hs
    apply withinLimit_update h.within
    exact (h.counted.counted c).withinLimit_append hc rfl rfl
  | message c now m =>
    obtain ⟨_, rfl⟩ := step_message hs
    apply withinLimit_update h.within
    cases hw : (s.handled env c now m).1 with
    | false =>
      rw [if_neg (by simp), List.append_nil]
      exact h.within c
    | true =>
      rw [if_pos rfl]
      refine (h.counted.counted c).withinLimit_append (hc ?_ ?_) rfl rfl
      · exact AgentSubscription.active_of_onMessage_fst _ _ _ _ _ _ hw
      · exact AgentSubscription.translate_of_onMessage_fst _ _ _ _ _ _ hw
  | _ =>
    exact withinLimit_control (h.within x) (h.counted.quiet.early x)
      (control_of_step h.counted.quiet.ending rfl hs x)

/-- **The record limit.** In every run whose records are handled while there is room, no
    subscription writes more records than its limit. -/
theorem withinLimit_of_run (env : Environment σ) (db : PathInformationDB) (x : σ)
    (es : List Event) (hc : Meets (step env) (RoomLeft env) (new db x) es) (s : AgentServer σ)
    (hr : run (step env) (new db x) es = some s) (c : CallId) : WithinLimit (s.calls c) := by
  have hnew : Limited (new db x) := ⟨countedAll_new db x, fun _ h0 => Int.le_of_lt h0⟩
  have hstep : ∀ s e s', Limited s → RoomLeft env s e → s.step env e = some s' → Limited s' :=
    fun _ _ _ h hc hs => limited_step h hc hs
  exact (run_invariant hstep hnew hc hr).within c

/-- A subscription to `firewall` for `n` records, up to the wait loop, without UDP. -/
def subscribeRecords (n : Int32) : List Event :=
  .subscribe 0 { pathList := [{ path := "firewall" }], additionalConfig := { limitRecords := n } } ::
    List.replicate 5 (.proceed 0)

theorem withinLimit_of_run_one_message :
    ∃ s, run (step (nullEnvironment false)) (new ∅ {})
        (subscribeRecords 1 ++ [.message 0 0 ⟨"t", [7]⟩, .proceed 0]) = some s ∧
      WithinLimit (s.calls 0) := by
  have hrun : (run (step (nullEnvironment false)) (new ∅ {})
      (subscribeRecords 1 ++ [.message 0 0 ⟨"t", [7]⟩, .proceed 0])).map
      (fun s => (s.calls 0).pc) = some .done := by decide +kernel
  obtain ⟨s, hs, _⟩ := Option.map_eq_some_iff.mp hrun
  exact ⟨s, hs, withinLimit_of_run _ _ _ _ (by decide +kernel) s hs 0⟩

/-- Two messages come before the wait loop looks. -/
theorem not_withinLimit_two_messages :
    ¬ ∀ s, run (step (nullEnvironment false)) (new ∅ {})
        (subscribeRecords 1 ++ [.message 0 0 ⟨"t", [7]⟩, .message 0 0 ⟨"t", [8]⟩]) = some s →
      WithinLimit (s.calls 0) := by
  intro h
  have hrun : (run (step (nullEnvironment false)) (new ∅ {})
      (subscribeRecords 1 ++ [.message 0 0 ⟨"t", [7]⟩, .message 0 0 ⟨"t", [8]⟩])).map
      (fun s => ((s.calls 0).limitRecords, (records (s.calls 0).stream).length)) =
      some (1, 2) := by decide +kernel
  obtain ⟨s, hs, hv⟩ := Option.map_eq_some_iff.mp hrun
  have hw := h s hs
  obtain ⟨hl, hn⟩ := Prod.mk.inj hv
  unfold WithinLimit at hw
  rw [hl, hn] at hw
  exact absurd (hw (by decide)) (by decide)

end AgentServer

end TelemetryAgent
