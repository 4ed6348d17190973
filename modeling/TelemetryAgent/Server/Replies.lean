/-
  The reply that a stream begins with names the call.

  `Replied r`: a stream begins with a reply only when it has been sent, and while the call is live
  the reply has its id. `Answers.lookup_iff`: the id of that reply leads to the call, in `store`
  and with the UDP module in `store2`, exactly while the call is live. `answers_step`: it is so in
  every run without an early cancel.
-/
import TelemetryAgent.Server.Steps

namespace TelemetryAgent

open Std TelemetryAgent.Lib

variable {σ : Type}

namespace AgentServer

open SubscribeCall

structure Replied (r : SubscribeCall) : Prop where
  before : r.pc.rank < Pc.metaSent.rank → ∀ reply l, r.stream ≠ .initResponse reply :: l
  named : r.live = true → ∀ reply l, r.stream = .initResponse reply :: l →
    reply.subscriptionId = r.id

variable {env : Environment σ} {s s' : AgentServer σ} {c : CallId} {r r' : SubscribeCall}

theorem Replied.sent (h : Replied r) {reply : SubscriptionReply} {l : List StreamEvent}
    (hs : r.stream = .initResponse reply :: l) : Pc.metaSent.rank ≤ r.pc.rank := by
  by_contra hlt
  exact h.before (Nat.not_le.mp hlt) reply l hs

/-! ## One step -/

/-- What is written behind the reply, or before it, leaves the first reply the first. -/
theorem Replied.of_stream (h : Replied r) {l : List Record}
    (hs : r'.stream = r.stream ++ l.map .record) (hrank : r.pc.rank ≤ r'.pc.rank)
    (hkept : Pc.metaSent.rank ≤ r.pc.rank → r'.id = r.id ∧ (r'.live = true → r.live = true)) :
    Replied r' := by
  have hhead : ∀ reply l', r'.stream = .initResponse reply :: l' →
      ∃ l', r.stream = .initResponse reply :: l' := by
    intro reply l' h'
    rw [hs] at h'
    cases hr : r.stream with
    | nil =>
      rw [hr, List.nil_append] at h'
      obtain ⟨record, -, hrecord⟩ := List.mem_map.mp (h' ▸ List.mem_cons_self)
      exact absurd hrecord (by simp)
    | cons e t =>
      rw [hr, List.cons_append, List.cons.injEq] at h'
      exact ⟨t, by rw [h'.1]⟩
  constructor
  · intro hlt reply l' h'
    obtain ⟨l', hr⟩ := hhead reply l' h'
    exact h.before (Nat.lt_of_le_of_lt hrank hlt) reply l' hr
  · intro hlive reply l' h'
    obtain ⟨l', hr⟩ := hhead reply l' h'
    obtain ⟨hid, hl⟩ := hkept (h.sent hr)
    rw [hid]
    exact h.named (hl hlive) reply l' hr

theorem Replied.same (h : Replied r) (hs : r'.stream = r.stream) (hpc : r'.pc = r.pc)
    (hid : r'.id = r.id) (hactive : r'.sub.active = true → r.sub.active = true) : Replied r' :=
  h.of_stream (l := []) (by rw [hs, List.map_nil, List.append_nil])
    (Nat.le_of_eq (by rw [hpc])) fun _ => ⟨hid, live_of_same hpc hactive⟩

/-- A point of the set-up before the reply. -/
theorem Replied.early (h : Replied r) (hs : r'.stream = r.stream) (hpc : r.pc.rank ≤ r'.pc.rank)
    (hlt : r.pc.rank < Pc.metaSent.rank) : Replied r' :=
  h.of_stream (l := []) (by rw [hs, List.map_nil, List.append_nil]) hpc
    fun hle => absurd hlt (Nat.not_lt.mpr hle)

/-- The reply is sent. -/
theorem Replied.reply (h : Replied r) {reply : SubscriptionReply}
    (hs : r'.stream = r.stream ++ [.initResponse reply]) (hlt : r.pc.rank < Pc.metaSent.rank)
    (hle : Pc.metaSent.rank ≤ r'.pc.rank) (hid : r'.live = true → reply.subscriptionId = r'.id) :
    Replied r' := by
  refine ⟨fun hlt' => absurd hle (Nat.not_le.mpr hlt'), fun hlive reply' l h' => ?_⟩
  rw [hs] at h'
  cases hr : r.stream with
  | nil =>
    rw [hr, List.nil_append, List.cons.injEq, StreamEvent.initResponse.injEq] at h'
    rw [← h'.1]
    exact hid hlive
  | cons e t =>
    rw [hr, List.cons_append, List.cons.injEq] at h'
    exact absurd (by rw [hr, h'.1]) (h.before hlt reply' t)

/-- What the threads do to a call, apart from the reply that it sends. -/
theorem Replied.control (h : Replied r) (hc : Control env r r')
    (hid : ∀ reply, r'.stream = r.stream ++ [.initResponse reply] → r'.live = true →
      reply.subscriptionId = r'.id) : Replied r' := by
  have hrank := hc.rank_le
  cases hc with
  | same => exact h
  | disconnect => exact h.same rfl rfl rfl id
  | reject request reply hpc =>
    exact h.reply rfl (by simp [hpc, Pc.rank]) (by simp [Pc.rank]) (hid reply rfl)
  | sendResponse reply hpc =>
    refine h.reply rfl ?_ (Nat.le_refl _) (hid reply rfl)
    obtain hpc | ⟨k, hpc⟩ := hpc
    · simp [hpc, Pc.rank]
    · simp [hpc, Pc.rank]
  | enable hpc =>
    exact h.of_stream (l := []) (List.append_nil _).symm hrank fun _ =>
      ⟨rfl, fun _ => live_of_rank (by rw [hpc]; decide) (by rw [hpc]; decide)⟩
  | setActive hpc =>
    exact h.of_stream (l := []) (List.append_nil _).symm hrank fun _ =>
      ⟨rfl, fun _ => live_of_rank (by rw [hpc]; decide) (by rw [hpc]; decide)⟩
  | tearDown t a pc hpc =>
    obtain rfl | ⟨hpc, rfl⟩ := hpc
    · cases a with
      | false => exact h.same rfl rfl rfl id
      | true => exact h.same rfl rfl rfl fun hactive => absurd hactive Bool.false_ne_true
    · exact h.of_stream (l := []) (List.append_nil _).symm hrank fun _ =>
        ⟨rfl, fun hl => absurd hl Bool.false_ne_true⟩
  | _ =>
    rename_i hpc
    exact h.early rfl hrank (by simp [hpc, Pc.rank])

theorem stream_update (hcalls : s'.calls = Function.update s.calls c r)
    (hr : r.stream = (s.calls c).stream) (x : CallId) :
    (s'.calls x).stream = (s.calls x).stream := by
  rw [hcalls]
  by_cases hx : x = c
  · rw [hx, Function.update_self, hr]
  · rw [Function.update_of_ne hx]

variable (env) in
theorem stream_finish (s : AgentServer σ) (origin : Origin) (hpc : ∀ c, origin = .endOfStream c →
      (s.calls c).pc = .streaming) (x : CallId) :
    ((finish env s origin).2.calls x).stream = (s.calls x).stream := by
  obtain h | ⟨c, pc, -, h⟩ := calls_finish env s origin hpc
  · rw [h]
  · exact stream_update h rfl x

theorem stream_endOfStream (hpc : (s.calls c).pc = .streaming)
    (hs : s.endOfStream env c = some s') (x : CallId) :
    (s'.calls x).stream = (s.calls x).stream := by
  obtain ⟨-, -, ⟨-, -, rfl⟩ | ⟨-, -, rfl⟩ | ⟨-, rfl⟩⟩ := endOfStream_cases hs
  · rfl
  · exact stream_finish env s _ (fun c' hc' => Origin.endOfStream.inj hc' ▸ hpc) x
  · exact stream_update rfl (by rfl) x

theorem stream_cleanupStep (he : s.Ending) (hs : s.cleanupStep env = some s') (x : CallId) :
    (s'.calls x).stream = (s.calls x).stream := by
  obtain ⟨origin, w, k, -, rfl⟩ | ⟨origin, w, -, rfl⟩ | ⟨origin, w, hcl, -, rfl⟩ :=
    cleanupStep_cases hs
  · unfold unmap
    simp only []
    split
    · rfl
    · rfl
  · show ((s.setTerminate w).calls x).stream = _
    rw [calls_setTerminate]
  · exact stream_finish env { s.deleteUdpSubscription w with cleanup := none } origin
      (fun c ho => he c _ (ho ▸ hcl)) x

/-- The reply that a call sends when it is set up. -/
theorem stream_sendResponse (x : CallId) :
    ((s.sendResponse c).calls x).stream = (s.calls x).stream ∨
      (x = c ∧ ((s.sendResponse c).calls x).id = (s.calls c).id ∧
        ((s.sendResponse c).calls x).stream = (s.calls x).stream ++
          [.initResponse ⟨(s.calls c).sub.id, (s.calls c).accepted.pathList⟩]) := by
  have hcalls : (s.sendResponse c).calls = Function.update s.calls c { s.calls c with
      pc := .metaSent
      stream := (s.calls c).stream ++
        [.initResponse ⟨(s.calls c).sub.id, (s.calls c).accepted.pathList⟩] } := rfl
  rw [hcalls]
  by_cases hx : x = c
  · subst hx
    rw [Function.update_self]
    exact Or.inr ⟨rfl, rfl, rfl⟩
  · rw [Function.update_of_ne hx]
    exact Or.inl rfl

/-- A step of the threads writes nothing, or the reply of a call that returns, or that of a call
    that goes on. -/
theorem stream_of_step {e : Event} (hq : Quiet s) (hctl : e.control = true)
    (hs : s.step env e = some s') (x : CallId) :
    (s'.calls x).stream = (s.calls x).stream ∨ (s'.calls x).live = false ∨
      ((s'.calls x).id = (s.calls x).id ∧ 3 ≤ (s.calls x).pc.rank ∧ (s.calls x).pc.rank < 8 ∧
        (s'.calls x).stream = (s.calls x).stream ++
          [.initResponse ⟨(s.calls x).sub.id, (s.calls x).accepted.pathList⟩]) := by
  cases e with
  | subscribe c request =>
    obtain ⟨-, rfl⟩ := step_subscribe hs
    obtain ⟨r, hr, he⟩ | ⟨i, -, -, -, he⟩ := allocate_spec s c request
    · rw [he]
      by_cases hx : x = c
      · subst hx
        refine Or.inr (Or.inl (live_of_pc_done ?_))
        show (Function.update s.calls x r x).pc = .done
        rw [Function.update_self, hr]
      · left
        show (Function.update s.calls c r x).stream = _
        rw [Function.update_of_ne hx]
    · rw [he]
      exact Or.inl (stream_update rfl (by rfl) x)
  | proceed c =>
    obtain ⟨pc, hpc, hp⟩ := proceedStep_of_proceed hs
    have hsent : 3 ≤ (s.calls c).pc.rank → (s.calls c).pc.rank < 8 →
        ((s.sendResponse c).calls x).stream = (s.calls x).stream ∨
        ((s.sendResponse c).calls x).live = false ∨
        (((s.sendResponse c).calls x).id = (s.calls x).id ∧ 3 ≤ (s.calls x).pc.rank ∧
          (s.calls x).pc.rank < 8 ∧
          ((s.sendResponse c).calls x).stream = (s.calls x).stream ++
            [.initResponse ⟨(s.calls x).sub.id, (s.calls x).accepted.pathList⟩]) := by
      intro h3 h8
      obtain h | ⟨rfl, hid, h⟩ := stream_sendResponse (s := s) (c := c) x
      · exact Or.inl h
      · exact Or.inr (Or.inr ⟨hid, h3, h8, h⟩)
    cases hp with
    | sendResponse _ => exact hsent (by simp [hpc, Pc.rank]) (by simp [hpc, Pc.rank])
    | addMapping k =>
      unfold addMapping
      simp only []
      split
      · exact Or.inl (stream_update rfl (by rfl) x)
      · exact hsent (by simp [hpc, Pc.rank]) (by simp [hpc, Pc.rank])
    | addRequest =>
      rw [addRequest_spec]
      exact Or.inl (stream_update rfl (by rfl) x)
    | endOfStream hs => exact Or.inl (stream_endOfStream hpc hs x)
    | _ => exact Or.inl (stream_update rfl (by rfl) x)
  | disconnect c => exact Or.inl (Option.some.inj hs ▸ stream_update rfl (by rfl) x)
  | cancel i =>
    left
    obtain ⟨-, ⟨-, -, rfl⟩ | ⟨w, -, -, rfl⟩ | ⟨-, rfl⟩⟩ := cancel_cases hs
    · rfl
    · rfl
    · exact stream_finish env s _ (fun c h => absurd h (by simp)) x
  | cleanup => exact Or.inl (stream_cleanupStep hq.ending hs x)
  | datagram buf => exact absurd hctl (by simp [Event.control])
  | workerStep c => exact absurd hctl (by simp [Event.control])
  | message c now m => exact absurd hctl (by simp [Event.control])

theorem Control.stream_extends (hc : Control env r r') : ∃ l, r'.stream = r.stream ++ l := by
  cases hc with
  | reject => exact ⟨_, rfl⟩
  | sendResponse => exact ⟨_, rfl⟩
  | _ => exact ⟨[], (List.append_nil _).symm⟩

/-- A stream only grows. -/
theorem stream_grows {e : Event} (hq : Quiet s) (hs : s.step env e = some s') (x : CallId) :
    ∃ l, (s'.calls x).stream = (s.calls x).stream ++ l := by
  have hupdate : ∀ {c : CallId} {r : SubscribeCall} {l : List StreamEvent},
      r.stream = (s.calls c).stream ++ l →
      ∃ l, (Function.update s.calls c r x).stream = (s.calls x).stream ++ l := by
    intro c r l hr
    by_cases hx : x = c
    · exact ⟨l, by rw [hx, Function.update_self, hr]⟩
    · exact ⟨[], by rw [Function.update_of_ne hx, List.append_nil]⟩
  cases e with
  | datagram buf =>
    refine ⟨[], ?_⟩
    rw [step_datagram hs]
    show (pushAll _ _ _ x).stream = _
    rw [pushAll_apply, List.append_nil]
  | workerStep c =>
    obtain ⟨vec, w, -, rfl⟩ := workerStep_eq_some hs
    exact hupdate (by rfl)
  | message c now m =>
    obtain ⟨-, rfl⟩ := step_message hs
    exact hupdate (by rfl)
  | _ => exact (control_of_step hq.ending rfl hs x).stream_extends

theorem id_of_reply {e : Event} (h : Inv env s) (hq : Quiet s) (hctl : e.control = true)
    (hs : s.step env e = some s') (x : CallId) {reply : SubscriptionReply}
    (hstream : (s'.calls x).stream = (s.calls x).stream ++ [.initResponse reply])
    (hlive : (s'.calls x).live = true) : reply.subscriptionId = (s'.calls x).id := by
  obtain hsame | hdead | ⟨hid, h3, h8, hsent⟩ := stream_of_step hq hctl hs x
  · rw [hsame, List.self_eq_append_right] at hstream
    exact absurd hstream (List.cons_ne_nil _ _)
  · rw [hdead] at hlive
    exact absurd hlive Bool.false_ne_true
  · rw [hsent, List.append_cancel_left_eq, List.cons.injEq, StreamEvent.initResponse.injEq]
      at hstream
    rw [← hstream.1, hid]
    exact ((h.wf x).sub (holds_of_rank (by omega) h8 h3)).1

theorem replied_update (h : ∀ x, Replied (s.calls x)) (hr : Replied r) (x : CallId) :
    Replied (Function.update s.calls c r x) := by
  refine (Function.forall_update_iff s.calls fun _ => Replied).mpr ⟨hr, ?_⟩ x
  exact fun y _ => h y

theorem replied_step {e : Event} (h : Inv env s) (hq : Quiet s) (hr : ∀ x, Replied (s.calls x))
    (hs : s.step env e = some s') (x : CallId) : Replied (s'.calls x) := by
  cases e with
  | datagram buf =>
    rw [step_datagram hs]
    show Replied (pushAll _ _ _ x)
    rw [pushAll_apply]
    exact (hr x).same rfl rfl rfl id
  | workerStep c =>
    obtain ⟨vec, w, hn, rfl⟩ := workerStep_eq_some hs
    apply replied_update hr
    exact (hr c).of_stream (l := [.udp vec]) rfl (Nat.le_refl _) fun _ => ⟨rfl, id⟩
  | message c now m =>
    obtain ⟨-, rfl⟩ := step_message hs
    apply replied_update hr
    refine (hr c).of_stream (l := if (s.handled env c now m).1 then [.mqtt m] else []) ?_
      (Nat.le_refl _) fun _ => ⟨rfl, live_of_same rfl fun hactive => ?_⟩
    · split_ifs
      · rfl
      · rfl
    · rwa [← AgentSubscription.active_onMessage env.config env.translate _ _ now m]
  | _ =>
    exact (hr x).control (control_of_step hq.ending rfl hs x) fun reply => id_of_reply h hq rfl hs x

/-! ## Runs -/

/-- What is known of the replies, with what it rests on. -/
structure Answers (env : Environment σ) (s : AgentServer σ) : Prop where
  inv : Inv env s
  quiet : Quiet s
  replied : ∀ c, Replied (s.calls c)

variable (env) in
theorem answers_new (db : PathInformationDB) (x : σ) : Answers env (new db x) where
  inv := inv_new db x
  quiet := quiet_new db x
  replied _ := ⟨fun _ _ _ h => absurd h (List.cons_ne_nil _ _).symm,
    fun h => absurd h Bool.false_ne_true⟩

theorem answers_step {e : Event} (h : Answers env s) (hc : NoEarlyCancel env s e)
    (hs : s.step env e = some s') : Answers env s' where
  inv := inv_step h.inv hc hs
  quiet := quiet_step h.quiet hs
  replied := replied_step h.inv h.quiet h.replied hs

/-- The id of the reply leads to the call exactly while it is live. -/
theorem Answers.lookup_iff (h : Answers env s) {reply : SubscriptionReply} {l : List StreamEvent}
    (hs : (s.calls c).stream = .initResponse reply :: l) :
    (s.store[reply.subscriptionId]? = some c ↔ (s.calls c).live = true) ∧
      (env.config.udpServerModule = true →
        (s.store2[reply.subscriptionId]? = some c ↔ (s.calls c).live = true)) := by
  have hsent := (h.replied c).sent hs
  have hidAt : (s.calls c).live = true → ∀ n ≤ Pc.metaSent.rank,
      (s.calls c).idAt n = some reply.subscriptionId := fun hl n hn =>
    idAt_eq_some.mpr ⟨holds_iff.mpr ⟨hl, Nat.le_trans hn hsent⟩,
      ((h.replied c).named hl reply l hs).symm⟩
  constructor
  · exact ⟨fun hstore => (h.inv.live_of_store hstore).1,
      fun hl => (h.inv.store _ c).mpr (hidAt hl 3 (by decide))⟩
  · intro hudp
    refine ⟨fun hstore2 => (h.inv.live_of_store2 hudp hstore2).1, fun hl => (h.inv.store2 _ c).mpr ?_⟩
    rw [hudp, store2Name_true]
    exact hidAt hl 4 (by decide)

end AgentServer

end TelemetryAgent
