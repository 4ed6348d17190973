/-
  What a subscription receives from the message bus, through the translators.

  `collected parse env c s es`: the messages that come to call `c` along the run `es` from `s`
  while its subscription is active, and whose streams have an extension.

  `collected_of_run`: in every run these, in order, are what is written to the stream of the call,
  each with data that are read back as the time of the export and the content of the first
  extension of its stream.
-/
import TelemetryAgent.OpenConfig.Registry
import TelemetryAgent.Server.Steps
import TelemetryAgent.Server.TearDown

namespace TelemetryAgent

open Std Lib

variable {σ : Type}

/-- The environment in which the payloads are parsed by `parse` and `lib_oc_init` has run. -/
def Environment.withLibOc (env : Environment σ) (parse : List UInt8 → Option TelemetryStream) :
    Environment σ :=
  { env with translate := AgentSubscription.translation OpenConfig.libOcInit parse }

namespace AgentServer

open AgentSubscription

/-- The messages whose data the subscription has written to the stream. -/
def mqttMessages (l : List StreamEvent) : List MosquittoMessage :=
  (records l).filterMap fun
    | .mqtt m => some m
    | .udp _ => none

@[simp] theorem mqttMessages_append (l l' : List StreamEvent) :
    mqttMessages (l ++ l') = mqttMessages l ++ mqttMessages l' := by
  rw [mqttMessages, records_append, List.filterMap_append]
  rfl

@[simp] theorem mqttMessages_udp (vec : List UInt8) : mqttMessages [.record (.udp vec)] = [] := rfl

@[simp] theorem mqttMessages_mqtt (m : MosquittoMessage) :
    mqttMessages [.record (.mqtt m)] = [m] := rfl

/-- The payload parses, and its stream has an extension that is known. -/
def HasContent (parse : List UInt8 → Option TelemetryStream) (m : MosquittoMessage) : Bool :=
  (parse m.payload).any fun stream =>
    OpenConfig.translators.any (·.hasExtension stream.juniperNetworks)

/-- What an event brings to call `c`. -/
def collectedOf (parse : List UInt8 → Option TelemetryStream) (s : AgentServer σ) (c : CallId) :
    Event → List MosquittoMessage
  | .message d _ m =>
    if d = c ∧ (s.calls c).sub.active = true ∧ HasContent parse m = true then [m] else []
  | _ => []

def collected (parse : List UInt8 → Option TelemetryStream) (env : Environment σ) (c : CallId) :
    AgentServer σ → List Event → List MosquittoMessage
  | _, [] => []
  | s, e :: es =>
    s.collectedOf parse c e ++ match s.step env e with
      | some s' => collected parse env c s' es
      | none => []

variable {env : Environment σ} {parse : List UInt8 → Option TelemetryStream} {s s' : AgentServer σ}
  {c : CallId}

theorem collected_cons_of_step {e : Event} {es : List Event} (hs : s.step env e = some s') :
    collected parse env c s (e :: es) =
      s.collectedOf parse c e ++ collected parse env c s' es := by
  rw [collected, hs]

/-! ## One step -/

theorem hasContent_iff {m : MosquittoMessage} :
    HasContent parse m = true ↔ ∃ (stream : TelemetryStream) (oc : OpenConfig),
      parse m.payload = some stream ∧ oc.First stream.juniperNetworks := by
  rw [HasContent, Option.any_eq_true]
  refine exists_congr fun stream => ?_
  rw [← OpenConfig.exists_first_iff]
  exact exists_and_left.symm

theorem Control.mqttMessages_eq {r r' : SubscribeCall} (h : Control env r r') :
    mqttMessages r'.stream = mqttMessages r.stream := by
  rw [mqttMessages, h.records_eq]
  rfl

/-- A call that changes without a message. -/
theorem mqttMessages_update (calls : CallId → SubscribeCall) {d : CallId} {r : SubscribeCall}
    (h : mqttMessages r.stream = mqttMessages (calls d).stream) (c : CallId) :
    mqttMessages (Function.update calls d r c).stream = mqttMessages (calls c).stream ++ [] := by
  rw [List.append_nil]
  by_cases hc : c = d
  · subst hc
    rw [Function.update_self, h]
  · rw [Function.update_of_ne hc]

theorem handled_fst (d : CallId) (now : Int) (m : MosquittoMessage) :
    (s.handled (env.withLibOc parse) d now m).1 =
      ((s.calls d).sub.active && HasContent parse m) := by
  have hcontent : translation OpenConfig.libOcInit parse m = .record ↔ HasContent parse m = true :=
    translation_eq_record_iff.trans hasContent_iff.symm
  unfold handled onMessage
  dsimp only [Environment.withLibOc]
  cases htrans : translation OpenConfig.libOcInit parse m with
  | record =>
    rw [hcontent.mp htrans, Bool.and_true]
    rfl
  | _ =>
    have hno : HasContent parse m = false := by
      rw [← Bool.not_eq_true, ← hcontent, htrans]
      exact Translation.noConfusion
    rw [hno, Bool.and_false]

theorem mqttMessages_step {e : Event} (hq : Quiet s)
    (hs : s.step (env.withLibOc parse) e = some s') (c : CallId) :
    mqttMessages (s'.calls c).stream = mqttMessages (s.calls c).stream ++ s.collectedOf parse c e := by
  cases e with
  | datagram buf =>
    rw [step_datagram hs]
    show mqttMessages (pushAll _ _ _ c).stream = _
    rw [pushAll_apply]
    exact (List.append_nil _).symm
  | workerStep d =>
    obtain ⟨vec, w, -, rfl⟩ := workerStep_eq_some hs
    refine mqttMessages_update s.calls ?_ c
    rw [mqttMessages_append, mqttMessages_udp, List.append_nil]
  | message d now m =>
    obtain ⟨-, rfl⟩ := step_message hs
    rw [handled_fst]
    by_cases hd : d = c
    · subst hd
      show mqttMessages (Function.update s.calls d _ d).stream = _
      rw [Function.update_self, mqttMessages_append, collectedOf]
      simp only [true_and, Bool.and_eq_true]
      split_ifs
      · rfl
      · rfl
    · show mqttMessages (Function.update s.calls d _ c).stream = _
      rw [Function.update_of_ne (Ne.symm hd), collectedOf, if_neg fun h => hd h.1, List.append_nil]
  | _ =>
    rw [(control_of_step hq.ending rfl hs c).mqttMessages_eq]
    exact (List.append_nil _).symm

theorem mqttMessages_run {es : List Event} (hq : Quiet s)
    (hr : run (step (env.withLibOc parse)) s es = some s') (c : CallId) :
    mqttMessages (s'.calls c).stream =
      mqttMessages (s.calls c).stream ++ collected parse (env.withLibOc parse) c s es := by
  induction es generalizing s with
  | nil =>
    rw [run_nil, Option.some.injEq] at hr
    rw [hr]
    exact (List.append_nil _).symm
  | cons e es ih =>
    obtain ⟨s₁, hs, hr'⟩ := run_cons_eq_some.mp hr
    rw [ih (quiet_step hq hs) hr', mqttMessages_step hq hs c, List.append_assoc,
      collected_cons_of_step hs]

theorem hasContent_of_mem_collected {es : List Event} {m : MosquittoMessage}
    (h : m ∈ collected parse env c s es) : HasContent parse m = true := by
  induction es generalizing s with
  | nil => exact absurd h List.not_mem_nil
  | cons e es ih =>
    rw [collected, List.mem_append] at h
    obtain h | h := h
    · cases e with
      | message d now m' =>
        rw [collectedOf] at h
        split_ifs at h with hm'
        · exact List.mem_singleton.mp h ▸ hm'.2.2
        · exact absurd h List.not_mem_nil
      | _ => exact absurd h List.not_mem_nil
    · split at h
      · exact ih h
      · exact absurd h List.not_mem_nil

/-- **What is collected.** In every run, the messages that came to a call while its subscription
    was active, and whose streams have an extension, are what the call has written, each once and
    in order, and what is written for such a message conveys its stream. -/
theorem collected_of_run (env : Environment σ) (parse : List UInt8 → Option TelemetryStream)
    (db : PathInformationDB) (x : σ) (es : List Event) (s : AgentServer σ)
    (hr : run (step (env.withLibOc parse)) (new db x) es = some s) (c : CallId) :
    mqttMessages (s.calls c).stream = collected parse (env.withLibOc parse) c (new db x) es ∧
      ∀ m ∈ mqttMessages (s.calls c).stream, ∃ (stream : TelemetryStream) (oc : OpenConfig),
        parse m.payload = some stream ∧ oc.First stream.juniperNetworks ∧
        ∀ (sub : AgentSubscription) (handles : List AgentConsolidatorSystemHandle) (now : Int)
          (mstime : UInt64), sub.active = true →
          ∃ data, (sub.conveyMessage env.config OpenConfig.libOcInit parse handles now mstime m).1 =
              some data ∧
            Conveys env.config mstime m.topic stream oc data := by
  have hcollected := mqttMessages_run (quiet_new db x) hr c
  rw [show mqttMessages ((new db x).calls c).stream = [] from rfl, List.nil_append] at hcollected
  refine ⟨hcollected, fun m hm => ?_⟩
  rw [hcollected] at hm
  obtain ⟨stream, oc, hparse, hoc⟩ := hasContent_iff.mp (hasContent_of_mem_collected hm)
  exact ⟨stream, oc, hparse, hoc, fun sub handles now mstime hactive =>
    conveyMessage_of_first hparse hoc hactive handles now mstime⟩

/-- The bytes of a stream with a record of a label-switched path and a pair. -/
def lspPayload : List UInt8 :=
  [0x0a, 1, 0x72, 0xaa, 6, 28, 0xe2, 0xa4, 1, 24, 0x2a, 12, 0x0a, 10, 0x0a, 1, 0x6c, 0x10, 0, 0x1a,
    1, 0x63, 0x20, 3, 0x82, 0x7d, 7, 0x0a, 5, 0x0a, 1, 0x61, 0x10, 7]

def lspStream : TelemetryStream where
  systemId := "r"
  juniperNetworks := {
    jnprLspStatisticsExt := some ⟨[⟨"l", 0, "c", 3, 0⟩]⟩
    kvresponseExt := some ⟨[{ key := some "a", int32Val := some 7 }]⟩ }

def parseLsp (payload : List UInt8) : Option TelemetryStream :=
  if payload = lspPayload then some lspStream else none

/-- A message that has content comes before one that is cut off. -/
theorem collected_of_run_lsp :
    ∃ s, run (step ((nullEnvironment false).withLibOc parseLsp)) (new ∅ {})
        (.subscribe 0 { pathList := [{ path := "lsp" }] } :: List.replicate 5 (.proceed 0) ++
          [.message 0 1 ⟨"lsp", lspPayload⟩, .message 0 2 ⟨"lsp", lspPayload.take 9⟩]) = some s ∧
      mqttMessages (s.calls 0).stream = [⟨"lsp", lspPayload⟩] ∧
      ∃ (stream : TelemetryStream) (oc : OpenConfig) (data : CollectorData),
        parseLsp lspPayload = some stream ∧ oc.First stream.juniperNetworks ∧
        Conveys {} 1000 "lsp" stream oc data := by
  have hrun : (run (step ((nullEnvironment false).withLibOc parseLsp)) (new ∅ {})
      (.subscribe 0 { pathList := [{ path := "lsp" }] } :: List.replicate 5 (.proceed 0) ++
        [.message 0 1 ⟨"lsp", lspPayload⟩, .message 0 2 ⟨"lsp", lspPayload.take 9⟩])).map
      (fun s => mqttMessages (s.calls 0).stream) = some [⟨"lsp", lspPayload⟩] := by
    decide +kernel
  obtain ⟨s, hs, hm⟩ := Option.map_eq_some_iff.mp hrun
  obtain ⟨-, hconvey⟩ := collected_of_run _ parseLsp _ _ _ s hs 0
  obtain ⟨stream, oc, hparse, hoc, hdata⟩ := hconvey ⟨"lsp", lspPayload⟩ (by simp [hm])
  obtain ⟨data, -, hconveys⟩ := hdata { (default : AgentSubscription) with active := true } [] 0 1000 rfl
  exact ⟨s, hs, hm, stream, oc, data, hparse, hoc, hconveys⟩

end AgentServer

end TelemetryAgent
