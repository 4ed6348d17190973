/-
  The reply comes first on every stream.

  `ResponseFirst l`: each record of the stream `l` has an initial response before it.
  `responseFirst_iff`: it holds of all streams in all states of a run if and only if no UDP
  worker writes before its call has sent the reply (`RespondedPasses`). The bus is connected
  after the reply, so messages are never early; the receiver knows the worker from
  `add_worker` on and reaches it from the first `add_mapping` on, which both come before.
  It is enough that no datagram comes for a worker whose call has not sent its reply
  (`respondedPasses_of_datagrams`).
-/
import TelemetryAgent.Server.TearDown
import TelemetryAgent.Server.Steps

namespace TelemetryAgent

open Std TelemetryAgent.Lib

variable {σ : Type}

namespace AgentServer

open SubscribeCall

def ResponseFirst (l : List StreamEvent) : Prop :=
  ∀ pre r suf, l = pre ++ .record r :: suf → ∃ reply, .initResponse reply ∈ pre

theorem responseFirst_nil : ResponseFirst [] := by
  intro pre r suf h
  exact absurd h (by simp)

theorem responseFirst_cons (reply : SubscriptionReply) (l : List StreamEvent) :
    ResponseFirst (.initResponse reply :: l) := by
  intro pre r suf h
  cases pre with
  | nil => exact absurd h (by simp)
  | cons e pre =>
    rw [List.cons_append, List.cons.injEq] at h
    exact ⟨reply, h.1 ▸ List.mem_cons_self⟩

theorem not_responseFirst_record (r : Record) (l : List StreamEvent) :
    ¬ ResponseFirst (.record r :: l) := by
  intro h
  obtain ⟨_, hm⟩ := h [] r l rfl
  exact absurd hm (by simp)

/-- A UDP worker that writes belongs to a call that has sent its reply. -/
def RespondedPasses (s : AgentServer σ) : Event → Prop
  | .workerStep c => (s.calls c).worker.next.isSome = true → Pc.metaSent.rank ≤ (s.calls c).pc.rank
  | _ => True

/-- The stream is empty up to the reply and starts with it from then on. -/
structure Opened (r : SubscribeCall) : Prop where
  before : r.pc.rank < Pc.metaSent.rank → r.stream = []
  after : Pc.metaSent.rank ≤ r.pc.rank → ∃ reply l, r.stream = .initResponse reply :: l

variable {env : Environment σ} {s s' : AgentServer σ} {c : CallId}

theorem Opened.responseFirst {r : SubscribeCall} (h : Opened r) : ResponseFirst r.stream := by
  obtain hlt | hle := Nat.lt_or_ge r.pc.rank Pc.metaSent.rank
  · rw [h.before hlt]
    exact responseFirst_nil
  · obtain ⟨reply, l, hl⟩ := h.after hle
    rw [hl]
    exact responseFirst_cons reply l

theorem Opened.control {r r' : SubscribeCall} (h : Opened r) (hc : Control env r r') :
    Opened r' := by
  have hb := h.before
  have ha := h.after
  cases hc with
  | same => exact h
  | disconnect => exact ⟨hb, ha⟩
  | reject request reply hpc =>
    refine ⟨fun h6 => absurd h6 (by simp [Pc.rank]), fun _ => ⟨reply, [], ?_⟩⟩
    show r.stream ++ _ = _
    rw [hb (by simp [hpc, Pc.rank])]
    rfl
  | sendResponse reply hpc =>
    refine ⟨fun h6 => absurd h6 (by simp [Pc.rank]), fun _ => ⟨reply, [], ?_⟩⟩
    show r.stream ++ _ = _
    obtain hpc | ⟨k, hpc⟩ := hpc
    · rw [hb (by simp [hpc, Pc.rank])]
      rfl
    · rw [hb (by simp [hpc, Pc.rank])]
      rfl
  | tearDown t a pc hpc =>
    obtain rfl | ⟨hpc, rfl⟩ := hpc
    · exact ⟨hb, ha⟩
    · refine ⟨fun h6 => absurd h6 (by simp [Pc.rank]), fun _ => ha (by simp [hpc, Pc.rank])⟩
  | enable hpc =>
    exact ⟨fun h6 => absurd h6 (by simp [Pc.rank]), fun _ => ha (by simp [hpc, Pc.rank])⟩
  | setActive hpc =>
    exact ⟨fun h6 => absurd h6 (by simp [Pc.rank]), fun _ => ha (by simp [hpc, Pc.rank])⟩
  | _ =>
    rename_i hpc
    exact ⟨fun _ => hb (by simp [hpc, Pc.rank]), fun h6 => absurd h6 (by simp [Pc.rank])⟩

/-- Once the reply is sent, the stream may grow. -/
theorem Opened.append {r r' : SubscribeCall} (h : Opened r) (hpc : r'.pc = r.pc)
    (hr : Pc.metaSent.rank ≤ r.pc.rank) {l : List StreamEvent} (hl : r'.stream = r.stream ++ l) :
    Opened r' := by
  refine ⟨fun h6 => ?_, fun _ => ?_⟩
  · rw [hpc] at h6
    omega
  · obtain ⟨reply, l', hl'⟩ := h.after hr
    exact ⟨reply, l' ++ l, by rw [hl, hl']; rfl⟩

/-- `Opened` for every call, with what holds in every run. -/
structure OpenedAll (s : AgentServer σ) : Prop where
  quiet : Quiet s
  opened : ∀ c, Opened (s.calls c)

theorem openedAll_new (db : PathInformationDB) (x : σ) : OpenedAll (new db x) where
  quiet := quiet_new db x
  opened c := ⟨fun _ => rfl, fun h => absurd h (by show ¬ Pc.metaSent.rank ≤ Pc.idle.rank; decide)⟩

theorem opened_update (h : ∀ x, Opened (s.calls x)) {r : SubscribeCall} (hr : Opened r)
    (x : CallId) : Opened (Function.update s.calls c r x) := by
  refine (Function.forall_update_iff s.calls fun _ => Opened).mpr ⟨hr, ?_⟩ x
  exact fun y _ => h y

theorem openedAll_step {e : Event} (h : OpenedAll s) (hc : RespondedPasses s e)
    (hs : s.step env e = some s') : OpenedAll s' := by
  refine ⟨quiet_step h.quiet hs, fun x => ?_⟩
  cases e with
  | datagram buf =>
    rw [step_datagram hs]
    show Opened (pushAll _ _ _ x)
    rw [pushAll_apply]
    exact ⟨(h.opened x).before, (h.opened x).after⟩
  | workerStep c =>
    obtain ⟨vec, w, hn, rfl⟩ := workerStep_eq_some hs
    have hr := hc (by rw [hn]; rfl)
    apply opened_update h.opened
    exact (h.opened c).append rfl hr rfl
  | message c now m =>
    obtain ⟨hcon, rfl⟩ := step_message hs
    have hr : Pc.metaSent.rank ≤ (s.calls c).pc.rank :=
      Nat.le_of_succ_le (h.quiet.rank_of_connected hcon)
    apply opened_update h.opened
    exact (h.opened c).append rfl hr rfl
  | _ => exact (h.opened x).control (control_of_step h.quiet.ending rfl hs x)

/-- A pass before the reply puts a record at the head of the stream. -/
theorem respondedPasses_of_step {e : Event} (h : OpenedAll s) (hs : s.step env e = some s')
    (hf : ∀ c, ResponseFirst (s'.calls c).stream) : RespondedPasses s e := by
  cases e with
  | workerStep c =>
    obtain ⟨vec, w, hn, rfl⟩ := workerStep_eq_some hs
    intro _
    by_contra hlt
    have hfc := hf c
    simp only [setCall, Function.update_self] at hfc
    rw [(h.opened c).before (by omega)] at hfc
    exact not_responseFirst_record _ _ hfc
  | _ => trivial

theorem respondedPasses_of_stuck {e : Event} (hs : s.step env e = none) : RespondedPasses s e := by
  cases e with
  | workerStep c =>
    intro hn
    simp only [step, workerStep, Option.map_eq_none_iff] at hs
    rw [hs] at hn
    exact absurd hn (by simp)
  | _ => trivial

/-- No datagram comes for a worker whose call has not sent its reply. -/
def RespondedDatagrams (s : AgentServer σ) : Event → Prop
  | .datagram buf => ∀ w ∈ s.reached buf, Pc.metaSent.rank ≤ (s.calls w).pc.rank
  | _ => True

/-- Nothing is queued before the reply. -/
structure Unqueued (s : AgentServer σ) : Prop where
  quiet : Quiet s
  queue : ∀ c, (s.calls c).pc.rank < Pc.metaSent.rank → (s.calls c).worker.q = []

theorem queue_control {r r' : SubscribeCall} (h : r.pc.rank < Pc.metaSent.rank → r.worker.q = [])
    (hc : Control env r r') (hr : r'.pc.rank < Pc.metaSent.rank) : r'.worker.q = [] :=
  hc.queue_nil (h (Nat.lt_of_le_of_lt hc.rank_le hr))

theorem unqueued_step {e : Event} (h : Unqueued s) (hc : RespondedDatagrams s e)
    (hs : s.step env e = some s') : Unqueued s' := by
  refine ⟨quiet_step h.quiet hs, fun x => ?_⟩
  cases e with
  | datagram buf =>
    rw [step_datagram hs]
    show (pushAll _ _ _ x).pc.rank < _ → (pushAll _ _ _ x).worker.q = []
    rw [pushAll_apply]
    intro hr
    have hx : x ∉ s.reached buf := fun hm => absurd (hc x hm) (Nat.not_le_of_lt hr)
    show (s.calls x).worker.q ++ _ = []
    rw [h.queue x hr, List.count_eq_zero_of_not_mem hx]
    rfl
  | workerStep c =>
    obtain ⟨vec, w, hn, rfl⟩ := workerStep_eq_some hs
    obtain ⟨_, hq, _⟩ := AgentSubscriptionUdpWorker.next_eq_some hn
    simp only [setCall]
    by_cases hx : x = c
    · subst hx
      rw [Function.update_self]
      intro hr
      rw [h.queue x hr] at hq
      exact absurd hq (by simp)
    · rw [Function.update_of_ne hx]
      exact h.queue x
  | message c now m =>
    obtain ⟨_, rfl⟩ := step_message hs
    simp only [setCall]
    by_cases hx : x = c
    · subst hx
      rw [Function.update_self]
      exact h.queue x
    · rw [Function.update_of_ne hx]
      exact h.queue x
  | _ => exact queue_control (h.queue x) (control_of_step h.quiet.ending rfl hs x)

theorem respondedPasses_of_datagrams (env : Environment σ) (db : PathInformationDB) (x : σ)
    (es : List Event) (h : Meets (step env) RespondedDatagrams (new db x) es) :
    Meets (step env) RespondedPasses (new db x) es := by
  have hnew : Unqueued (new db x) := ⟨quiet_new db x, fun _ _ => rfl⟩
  have hstep : ∀ s e s', Unqueued s → RespondedDatagrams s e → s.step env e = some s' →
      Unqueued s' := fun _ _ _ hi hc hs => unqueued_step hi hc hs
  apply Meets.imp hstep ?_ hnew h
  intro s e hi _
  cases e with
  | workerStep c =>
    intro hn
    obtain ⟨⟨vec, w⟩, hn⟩ := Option.isSome_iff_exists.mp hn
    obtain ⟨_, hq, _⟩ := AgentSubscriptionUdpWorker.next_eq_some hn
    by_contra hlt
    rw [hi.queue c (by omega)] at hq
    exact absurd hq (by simp)
  | _ => trivial

/-- **The reply comes first.** Every stream has its reply before its records, in every state
    of the run, if and only if no UDP worker writes before its call has replied; and none does if
    no datagram comes for a worker whose call has not. -/
theorem responseFirst_iff (env : Environment σ) (db : PathInformationDB) (x : σ)
    (es : List Event) :
    ((∀ pre suf t, es = pre ++ suf → run (step env) (new db x) pre = some t →
      ∀ c, ResponseFirst (t.calls c).stream) ↔
    Meets (step env) RespondedPasses (new db x) es) ∧
    (Meets (step env) RespondedDatagrams (new db x) es →
      Meets (step env) RespondedPasses (new db x) es) := by
  refine ⟨?_, respondedPasses_of_datagrams env db x es⟩
  exact forall_reached_iff_meets (fun _ h c => (h.opened c).responseFirst)
    (fun _ _ _ h hc hs => openedAll_step h hc hs)
    (fun _ _ _ h hs hf => respondedPasses_of_step h hs hf)
    (fun _ _ _ hs => respondedPasses_of_stuck hs) (openedAll_new db x) es

/-- Call 0 has added its mapping and not sent its reply when a datagram of the sensor comes,
    and its worker is faster. -/
theorem not_responseFirst_datagram :
    ¬ ∀ s, run (step (nullEnvironment true)) (new ∅ {})
      (.subscribe 0 { pathList := [{ path := "firewall" }] } ::
        (List.replicate 5 (.proceed 0) ++ [.datagram [0, 0, 3, 232, 42], .workerStep 0])) = some s →
      ∀ c, ResponseFirst (s.calls c).stream := by
  intro h
  have hrun : (run (step (nullEnvironment true)) (new ∅ {})
      (.subscribe 0 { pathList := [{ path := "firewall" }] } ::
        (List.replicate 5 (.proceed 0) ++ [.datagram [0, 0, 3, 232, 42], .workerStep 0]))).map
      (fun s => (s.calls 0).stream) = some [.record (.udp [42])] := by decide +kernel
  obtain ⟨s, hs, hl⟩ := Option.map_eq_some_iff.mp hrun
  have := h s hs 0
  rw [hl] at this
  exact not_responseFirst_record _ _ this

end AgentServer

end TelemetryAgent
