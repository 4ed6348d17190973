/-
  The routing tables of the UDP receiver, in every state of the server.

  `Routed`: each external id in a list of the mapping store has a worker, the receiver has
  never missed a worker or found one in the way, and no stored list is empty. Between the
  set-ups and tear-downs (`Settled`) the lists are those of the subscriptions in `store`.
  It holds in every run in which no cancel finds a subscription that is being set up
  (`routed_of_run`). That cancel unmaps the worker while the other thread goes on to map it
  (`not_routed_early_cancel`).
-/
import TelemetryAgent.Server.Sequential

namespace TelemetryAgent

open Std TelemetryAgent.Lib

variable {σ : Type}

namespace AgentServer

open SubscribeCall UdpReceiver

structure Routed (s : AgentServer σ) : Prop where
  hasWorker : ∀ (i : Nat) v, s.udpreceiver.intToExtListStore[i]? = some v →
    ∀ e ∈ v, e ∈ s.udpreceiver.extIdWorkerStore
  workerNotFound : s.udpreceiver.workerNotFound = 0
  workerAddError : s.udpreceiver.workerAddError = 0
  nonempty : ∀ (i : Nat) v, s.udpreceiver.intToExtListStore[i]? = some v → v ≠ []
  settled : s.Settled → ∀ e i, e ∈ s.udpreceiver.extIds i ↔
    ∃ c, s.store[e]? = some c ∧ i ∈ s.internalIds (s.calls c).sub.systemSubscription

variable {env : Environment σ} {s s' : AgentServer σ} {c : CallId}

theorem Registered.hasWorker (h : Registered s) {e i : Nat} (he : e ∈ s.udpreceiver.extIds i) :
    e ∈ s.udpreceiver.extIdWorkerStore := by
  obtain ⟨c, hc⟩ := (h.mapped e i).mp he
  obtain ⟨rfl, hi⟩ := mem_mappings.mp hc
  exact (h.workers.mem_iff _).mpr ⟨c, workerName_of_mem_mappedIds hi⟩

/-- What a call has mapped when nothing is in progress. -/
theorem mem_mappings_of_settled (h : s.Settled) {e i : Nat} :
    (e, i) ∈ s.mappings c ↔
      (s.calls c).idAt 3 = some e ∧ i ∈ s.internalIds (s.calls c).systemHandle := by
  have hd : ∀ cl, s.cleanup = some cl → cl.stage.worker ≠ c := by
    intro cl hcl
    rw [h.cleanup] at hcl
    exact absurd hcl (by simp)
  rw [mem_mappings, idAt_eq_some]
  by_cases hl : (s.calls c).live = true
  · have hpc := h.streaming hl
    rw [mappedIds_eq_added (h.holds hl (by decide)) hd, hpc, h.holds hl (by decide), added]
    · tauto
    · simp
  · have hdead : (s.calls c).live = false := Bool.eq_false_iff.mpr hl
    rw [mappedIds_of_not_holds (holds_of_not_live hdead 5), holds_of_not_live hdead 3]
    simp

theorem extIds_of_settled (hi : Inv env s) (h : Registered s) (hs : s.Settled) (e i : Nat) :
    e ∈ s.udpreceiver.extIds i ↔
      ∃ c, s.store[e]? = some c ∧ i ∈ s.internalIds (s.calls c).sub.systemSubscription := by
  rw [h.mapped]
  refine exists_congr fun c => ?_
  rw [mem_mappings_of_settled hs, ← hi.store e c]
  refine and_congr_right fun hc => ?_
  have h3 := (idAt_eq_some.mp ((hi.store e c).mp hc)).1
  rw [((hi.wf c).sub h3).2]

/-! ## The counters, step by step -/

theorem sane_addWorker (hi : Inv env s) (h : Registered s) (hu : s.udpreceiver.Sane)
    (hpc : (s.calls c).pc = .workerCreated) : (s.addWorker c).udpreceiver.Sane := by
  -- the id is this call's own, so no other worker is registered under it
  have hfree : ∀ x, s.workerName x ≠ some (s.calls c).sub.id := by
    rw [hi.subId_of_workerCreated hpc]
    exact hi.workerName_ne hpc
  exact hu.addWorker c (Inverse.eq_none h.workers hfree)

theorem sane_addMapping (hu : s.udpreceiver.Sane) (c : CallId) (k : Nat) :
    (s.addMapping c k).udpreceiver.Sane := by
  unfold addMapping
  simp only []
  split
  · exact hu.addMapping
  · exact hu

theorem sane_endOfStream (hu : s.udpreceiver.Sane) (hs : s.endOfStream env c = some s') :
    s'.udpreceiver.Sane := by
  obtain ⟨-, -, ⟨-, -, rfl⟩ | ⟨-, -, rfl⟩ | ⟨-, rfl⟩⟩ := endOfStream_cases hs
  · exact hu
  · rw [(finish_keeps env s _).2]
    exact hu
  · exact hu

theorem sane_proceed (hi : Inv env s) (h : Registered s) (hu : s.udpreceiver.Sane)
    (hs : s.proceed env c = some s') : s'.udpreceiver.Sane := by
  obtain ⟨pc, hpc, hp⟩ := proceedStep_of_proceed hs
  cases hp with
  | addRequest =>
    rw [addRequest_spec]
    exact hu
  | createSubscription | createSubscriptionUdpWorker | sendResponse | enable | setActive =>
    exact hu
  | addWorker => exact sane_addWorker hi h hu hpc
  | addMapping k => exact sane_addMapping hu c k
  | endOfStream hs => exact sane_endOfStream hu hs

theorem sane_cancel (hu : s.udpreceiver.Sane) {i : Nat} (hs : s.cancel env i = some s') :
    s'.udpreceiver.Sane := by
  obtain ⟨-, ⟨-, -, rfl⟩ | ⟨w, -, -, rfl⟩ | ⟨-, rfl⟩⟩ := cancel_cases hs
  · exact hu
  · exact hu
  · rw [(finish_keeps env s _).2]
    exact hu

theorem sane_cleanupStep (hu : s.udpreceiver.Sane) (hs : s.cleanupStep env = some s') :
    s'.udpreceiver.Sane := by
  obtain ⟨origin, w, k, -, rfl⟩ | ⟨origin, w, -, rfl⟩ | ⟨origin, w, -, -, rfl⟩ :=
    cleanupStep_cases hs
  · unfold unmap
    simp only []
    split
    · exact hu.delMapping
    · exact hu.delWorker
  · exact hu
  · rw [(finish_keeps env _ _).2]
    exact hu

theorem sane_step {e : Event} (hi : Inv env s) (h : Registered s) (hu : s.udpreceiver.Sane)
    (hs : s.step env e = some s') : s'.udpreceiver.Sane := by
  match e with
  | .subscribe c request =>
    obtain ⟨-, rfl⟩ := step_subscribe hs
    obtain ⟨r, -, he⟩ | ⟨i, -, -, -, he⟩ := allocate_spec s c request
    · rw [he]
      exact hu
    · rw [he]
      exact hu
  | .proceed c => exact sane_proceed hi h hu hs
  | .disconnect c => exact Option.some.inj hs ▸ hu
  | .cancel i => exact sane_cancel hu hs
  | .cleanup => exact sane_cleanupStep hu hs
  | .datagram buf =>
    rw [step_datagram hs]
    exact hu.receive buf fun e he => h.hasWorker he
  | .workerStep c =>
    obtain ⟨vec, w, -, rfl⟩ := workerStep_eq_some hs
    exact hu
  | .message c now m =>
    obtain ⟨-, rfl⟩ := step_message hs
    exact hu

/-! ## Runs -/

theorem routed_of_sane (hi : Inv env s) (h : Registered s) (hu : s.udpreceiver.Sane) :
    Routed s where
  hasWorker i v hv e he := h.hasWorker (i := i) (by rw [extIds, hv]; exact he)
  workerNotFound := hu.workerNotFound
  workerAddError := hu.workerAddError
  nonempty i v hv := hu.nonempty hv
  settled hs := extIds_of_settled hi h hs

/-- **Routing.** With the UDP module on, the routing tables are sound in every state of every
    run in which no cancel finds a subscription that its own call has not made active. -/
theorem routed_of_run (env : Environment σ) (hudp : env.config.udpServerModule = true)
    (db : PathInformationDB) (x : σ) (es : List Event)
    (hc : Meets (step env) (NoEarlyCancel env) (new db x) es) (s : AgentServer σ)
    (hr : run (step env) (new db x) es = some s) : Routed s := by
  have hstep : ∀ s e s', (Inv env s ∧ Registered s ∧ s.udpreceiver.Sane) →
      NoEarlyCancel env s e → s.step env e = some s' →
      Inv env s' ∧ Registered s' ∧ s'.udpreceiver.Sane := by
    intro s e s' hinv hc hs
    obtain ⟨hi, h, hu⟩ := hinv
    exact ⟨inv_step hi hc hs, registered_step hudp hi h hs, sane_step hi h hu hs⟩
  obtain ⟨hi, h, hu⟩ := run_invariant hstep ⟨inv_new db x, registered_new db x, sane_new⟩ hc hr
  exact routed_of_sane hi h hu

theorem routed_of_run_firewall :
    ∃ s, run (step (nullEnvironment true)) (new ∅ {})
        (.subscribe 0 { pathList := [{ path := "firewall" }, { path := "firewall" }] } ::
          List.replicate 9 (.proceed 0) ++ [.datagram [0, 0, 3, 232, 42], .cancel 1, .cleanup]) =
        some s ∧ Routed s := by
  have hrun : (run (step (nullEnvironment true)) (new ∅ {})
      (.subscribe 0 { pathList := [{ path := "firewall" }, { path := "firewall" }] } ::
        List.replicate 9 (.proceed 0) ++
          [.datagram [0, 0, 3, 232, 42], .cancel 1, .cleanup])).isSome = true := by
    decide +kernel
  obtain ⟨s, hs⟩ := Option.isSome_iff_exists.mp hrun
  exact ⟨s, hs, routed_of_run _ rfl _ _ _ (by decide +kernel) s hs⟩

/-- A cancel finds call 0 before its mapping, and takes its worker out of the receiver. -/
theorem not_routed_early_cancel :
    ¬ ∀ s, run (step (nullEnvironment true)) (new ∅ {})
      (.subscribe 0 { pathList := [{ path := "firewall" }] } :: List.replicate 4 (.proceed 0) ++
        [.cancel 1, .cleanup, .cleanup, .proceed 0]) = some s → Routed s := by
  intro h
  have hrun : (run (step (nullEnvironment true)) (new ∅ {})
      (.subscribe 0 { pathList := [{ path := "firewall" }] } :: List.replicate 4 (.proceed 0) ++
        [.cancel 1, .cleanup, .cleanup, .proceed 0])).map (fun s =>
          (s.udpreceiver.intToExtListStore[1000]?, s.udpreceiver.extIdWorkerStore.contains 1)) =
      some (some [1], false) := by decide +kernel
  obtain ⟨s, hs, ht⟩ := Option.map_eq_some_iff.mp hrun
  obtain ⟨hlist, hworker⟩ := Prod.mk.inj ht
  have hmem := (h s hs).hasWorker 1000 [1] hlist 1 List.mem_cons_self
  rw [← ExtTreeMap.contains_iff_mem, hworker] at hmem
  exact absurd hmem (by simp)

end AgentServer

end TelemetryAgent
