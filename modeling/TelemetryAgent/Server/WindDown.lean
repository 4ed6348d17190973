/-
  When the server can be wound down.

  Only a client that stays, and the thread that holds `_delete_initiate_mutex`, keep a thread of
  the server waiting; and that thread waits for the UDP worker that it joins. `reaches_unlocked`:
  a hold of the mutex ends, if the worker's thread ends. `reaches_over`: a call comes to its end,
  once its client has gone and no one else holds the mutex. `winds_down_iff`: from a state of a
  run without an early cancel the threads, with the clients leaving, bring every call to its end
  exactly if the worker of each live call ends, and nothing is left then.
-/
import TelemetryAgent.Server.Quiescence

namespace TelemetryAgent

open Std TelemetryAgent.Lib

variable {σ : Type}

namespace AgentServer

open SubscribeCall

/-- A thread goes on, or a client leaves. -/
def Event.winds : Event → Bool
  | .proceed _ => true
  | .disconnect _ => true
  | .cleanup => true
  | _ => false

/-- The thread has not started or has come to its end. -/
def Over (r : SubscribeCall) : Prop := r.pc = .idle ∨ r.pc = .done

variable {env : Environment σ} {s s' t : AgentServer σ} {c : CallId}

variable (env) in
/-- `t` is reached when the server is only wound down. -/
def Winds (s t : AgentServer σ) : Prop := Reaches (step env) (fun _ e => e.winds = true) s t

variable (env) in
/-- `t` is reached by the thread that holds the mutex alone. -/
def Holds (s t : AgentServer σ) : Prop := Reaches (step env) (fun _ e => e = .cleanup) s t

theorem Winds.trans (h : Winds env s s') (h' : Winds env s' t) : Winds env s t :=
  Reaches.trans h h'

theorem Holds.trans (h : Holds env s s') (h' : Holds env s' t) : Holds env s t :=
  Reaches.trans h h'

theorem Holds.winds (h : Holds env s t) : Winds env s t :=
  Reaches.imp (by rintro _ _ rfl; rfl) h

theorem winds_proceed (hs : s.proceed env c = some t) : Winds env s t :=
  Reaches.of_step (e := .proceed c) rfl hs

theorem holds_cleanup (hs : s.cleanupStep env = some t) : Holds env s t :=
  Reaches.of_step (e := .cleanup) rfl hs

theorem noEarlyCancel_of_winds {e : Event} (hw : e.winds = true) : NoEarlyCancel env s e := by
  cases e with
  | cancel i => exact absurd hw (by simp [Event.winds])
  | _ => trivial

theorem Winds.accounted {x : σ} (h : Winds env s t) (ha : Accounted env x s) :
    Accounted env x t :=
  Reaches.invariant (fun _ _ _ ha hw hs => accounted_step ha (noEarlyCancel_of_winds hw) hs) h ha

/-! ## Live calls -/

theorem live_of_winds_step {e : Event} (he : s.Ending) (hw : e.winds = true)
    (hs : s.step env e = some s') (hl : (s'.calls c).live = true) : (s.calls c).live = true := by
  have hne : ∀ request, e ≠ .subscribe c request := by
    rintro request rfl
    exact absurd hw Bool.false_ne_true
  refine live_of_step he hs (fun hidle => ?_) hl
  rw [live_of_pc_idle (idle_of_step he hidle hne hs)] at hl
  exact absurd hl Bool.false_ne_true

variable (env) in
/-- The thread of the worker of each live call ends when it is told to. -/
structure Joinable (s : AgentServer σ) : Prop where
  inv : Inv env s
  quiet : Quiet s
  ends : env.config.udpServerModule = true → ∀ c, (s.calls c).live = true →
    env.workerEnds c = true

theorem Inv.live_of_cleanup (hi : Inv env s) {cl : Cleanup} (hcl : s.cleanup = some cl) :
    (s.calls cl.stage.worker).live = true := by
  obtain ⟨-, hpc, hact, -⟩ := hi.cleanup cl hcl
  exact live_of_streaming hpc hact

theorem Joinable.hold (h : Joinable env s) {cl : Cleanup} (hcl : s.cleanup = some cl) :
    env.workerEnds cl.stage.worker = true :=
  h.ends (h.inv.cleanup cl hcl).1 _ (h.inv.live_of_cleanup hcl)

theorem Winds.joinable (h : Winds env s t) (hj : Joinable env s) : Joinable env t := by
  refine Reaches.invariant (fun s e s' hj hw hs => ?_) h hj
  exact ⟨inv_step hj.inv (noEarlyCancel_of_winds hw) hs, quiet_step hj.quiet hs,
    fun hudp c hl => hj.ends hudp c (live_of_winds_step hj.quiet.ending hw hs hl)⟩

theorem Settles.trans (h : Settles s s') (h' : Settles s' t) : Settles s t := by
  intro x
  obtain hx' | ⟨hstream, hdone⟩ := h' x
  · rw [hx']
    exact h x
  · obtain hx | ⟨-, hx⟩ := h x
    · exact Or.inr ⟨hx ▸ hstream, hdone⟩
    · rw [hx] at hstream
      exact absurd hstream (by simp)

theorem Settles.done (h : Settles s t) (hpc : (s.calls c).pc = .done) : (t.calls c).pc = .done := by
  obtain hsame | ⟨-, hdone⟩ := h c
  · exact hsame.trans hpc
  · exact hdone

theorem Settles.isOver (h : Settles s t) (ho : Over (s.calls c)) : Over (t.calls c) := by
  obtain hsame | ⟨-, hdone⟩ := h c
  · rwa [Over, hsame]
  · exact Or.inr hdone

/-! ## A hold of the mutex -/

/-- A hold ends: the mutex is free, and the thread of a stream has come to its end. -/
structure Unlocked (s t : AgentServer σ) : Prop where
  settles : Settles s t
  mutex : t.cleanup = none
  ended : ∀ x stage, s.cleanup = some ⟨.endOfStream x, stage⟩ → (t.calls x).pc = .done

theorem cleanupStep_join {origin : Origin} {w : CallId} (hends : env.workerEnds w = true)
    (hcl : s.cleanup = some ⟨origin, .terminated w⟩) : s.cleanupStep env =
      some (finish env { s.deleteUdpSubscription w with cleanup := none } origin).2 := by
  rw [cleanupStep, hcl]
  exact if_pos hends

theorem unlocked_finish {origin : Origin} {w : CallId} (hends : env.workerEnds w = true)
    (hcl : s.cleanup = some ⟨origin, .terminated w⟩) (he : s.Ending) :
    Unlocked s (finish env { s.deleteUdpSubscription w with cleanup := none } origin).2 where
  settles := settles_cleanupStep env he (cleanupStep_join hends hcl)
  mutex := (finish_keeps env _ origin).1
  ended x stage hx := by
    rw [hcl, Option.some.injEq, Cleanup.mk.injEq] at hx
    rw [hx.1]
    simp only [finish, setCall, Function.update_self]

theorem Unlocked.of_next {origin : Origin} {stage stage' : CleanupStage} (h : Unlocked s' t)
    (hsettles : Settles s s') (hcl : s.cleanup = some ⟨origin, stage⟩)
    (hcl' : s'.cleanup = some ⟨origin, stage'⟩) : Unlocked s t where
  settles := hsettles.trans h.settles
  mutex := h.mutex
  ended x stage hx := by
    rw [hcl, Option.some.injEq, Cleanup.mk.injEq] at hx
    exact h.ended x stage' (hx.1 ▸ hcl')

theorem reaches_joined {origin : Origin} {w : CallId} (he : s.Ending)
    (hends : env.workerEnds w = true) (hcl : s.cleanup = some ⟨origin, .unregistered w⟩) :
    ∃ t, Holds env s t ∧ Unlocked s t := by
  let s' : AgentServer σ := { s.setTerminate w with cleanup := some ⟨origin, .terminated w⟩ }
  have hnext : s.cleanupStep env = some s' := by rw [cleanupStep, hcl]
  have hu := unlocked_finish (s := s') hends rfl (ending_cleanupStep he hnext).1
  exact ⟨_, (holds_cleanup hnext).trans (holds_cleanup (cleanupStep_join hends rfl)),
    hu.of_next (settles_cleanupStep env he hnext) hcl rfl⟩

theorem reaches_unmapped {origin : Origin} {w : CallId} {k : Nat} (he : s.Ending)
    (hends : env.workerEnds w = true) (hcl : s.cleanup = some ⟨origin, .unmapping w k⟩) :
    ∃ t, Holds env s t ∧ Unlocked s t := by
  -- by induction on the number of mappings that are left
  induction hn : (s.internalIds (s.calls w).worker.systemSubscription).length - k
    generalizing s k with
  | zero =>
    have hk : (s.internalIds (s.calls w).worker.systemSubscription)[k]? = none :=
      List.getElem?_eq_none_iff.mpr (by omega)
    let s' : AgentServer σ := { s with
      udpreceiver := s.udpreceiver.delWorker (s.calls w).worker.id
      cleanup := some ⟨origin, .unregistered w⟩ }
    have hnext : s.cleanupStep env = some s' := by
      simp only [cleanupStep, hcl, unmap, hk]
      rfl
    obtain ⟨t, hholds, hu⟩ :=
      reaches_joined (s := s') (ending_cleanupStep he hnext).1 hends rfl
    exact ⟨t, (holds_cleanup hnext).trans hholds,
      hu.of_next (settles_cleanupStep env he hnext) hcl rfl⟩
  | succ n ih =>
    have hlt : k < (s.internalIds (s.calls w).worker.systemSubscription).length := by omega
    let s' := s.unmapNext origin w k (s.internalIds (s.calls w).worker.systemSubscription)[k]
    have hnext : s.cleanupStep env = some s' := by
      simp only [cleanupStep, hcl, unmap, List.getElem?_eq_getElem hlt]
      rfl
    have hlen : (s'.internalIds (s'.calls w).worker.systemSubscription).length - (k + 1) = n := by
      show (s.internalIds (s.calls w).worker.systemSubscription).length - (k + 1) = n
      omega
    obtain ⟨t, hholds, hu⟩ := ih (ending_cleanupStep he hnext).1 rfl hlen
    exact ⟨t, (holds_cleanup hnext).trans hholds,
      hu.of_next (settles_cleanupStep env he hnext) hcl rfl⟩

theorem reaches_unlocked (he : s.Ending)
    (hends : ∀ cl, s.cleanup = some cl → env.workerEnds cl.stage.worker = true) :
    ∃ t, Holds env s t ∧ Unlocked s t := by
  match hcl : s.cleanup with
  | none =>
    refine ⟨s, Reaches.refl s, Settles.refl s, hcl, fun x stage hx => ?_⟩
    rw [hcl] at hx
    exact absurd hx (by simp)
  | some ⟨origin, .unmapping w k⟩ => exact reaches_unmapped he (hends _ hcl) hcl
  | some ⟨origin, .unregistered w⟩ => exact reaches_joined he (hends _ hcl) hcl
  | some ⟨origin, .terminated w⟩ =>
    exact ⟨_, holds_cleanup (cleanupStep_join (hends _ hcl) hcl),
      unlocked_finish (hends _ hcl) hcl he⟩

theorem Joinable.reaches_unlocked (h : Joinable env s) : ∃ t, Winds env s t ∧ Unlocked s t := by
  obtain ⟨t, hholds, hu⟩ := AgentServer.reaches_unlocked h.quiet.ending fun _ hcl => h.hold hcl
  exact ⟨t, hholds.winds, hu⟩

/-! ## A call -/

/-- What bringing call `c` to its end does to the others. -/
structure Ended (c : CallId) (s t : AgentServer σ) : Prop where
  isOver : Over (t.calls c)
  others : ∀ x, x ≠ c → Over (s.calls x) → Over (t.calls x)

theorem Ended.of_settles (h : Ended c s' t) (hs : Settles s s') : Ended c s t where
  isOver := h.isOver
  others x hx ho := h.others x hx (hs.isOver ho)

theorem Ended.of_update (h : Ended c s' t) {r : SubscribeCall}
    (hcalls : s'.calls = Function.update s.calls c r) : Ended c s t where
  isOver := h.isOver
  others x hx ho := by
    apply h.others x hx
    rwa [hcalls, Function.update_of_ne hx]

theorem ended_of_settles (hs : Settles s t) (hc : (t.calls c).pc = .done) : Ended c s t where
  isOver := Or.inr hc
  others _ _ ho := hs.isOver ho

/-- The wait loop is left and the mutex is free. -/
theorem reaches_ended_of_left (hj : Joinable env s) (hpc : (s.calls c).pc = .streaming)
    (hw : waiting (s.calls c) = false) (hcl : s.cleanup = none) :
    ∃ t, Winds env s t ∧ Ended c s t := by
  have hnext : ∃ s', s.endOfStream env c = some s' := by
    simp only [endOfStream, hw, hcl, Option.isSome_none, Bool.or_self, Bool.false_eq_true, if_false]
    split_ifs
    · exact ⟨_, rfl⟩
    · exact ⟨_, rfl⟩
    · exact ⟨_, rfl⟩
  obtain ⟨s', hs'⟩ := hnext
  have hproceed : s.proceed env c = some s' := by rw [proceed, hpc]; exact hs'
  have hsettles := settles_endOfStream hpc hs'
  obtain ⟨t, hwinds, hu⟩ := ((winds_proceed hproceed).joinable hj).reaches_unlocked
  refine ⟨t, (winds_proceed hproceed).trans hwinds,
    ended_of_settles (hsettles.trans hu.settles) ?_⟩
  obtain ⟨-, -, ⟨-, -, rfl⟩ | ⟨-, -, rfl⟩ | ⟨-, rfl⟩⟩ := endOfStream_cases hs'
  · exact hu.ended c _ rfl
  · apply hu.settles.done
    simp only [finish, setCall, Function.update_self]
  · exact hu.settles.done (pc_setCall s c _)

theorem reaches_ended_of_streaming (hj : Joinable env s) (hpc : (s.calls c).pc = .streaming) :
    ∃ t, Winds env s t ∧ Ended c s t := by
  obtain ⟨s', hwinds, hu⟩ := hj.reaches_unlocked
  obtain hsame | ⟨-, hdone⟩ := hu.settles c
  · have hpc' : (s'.calls c).pc = .streaming := hsame.trans hpc
    cases hw : waiting (s'.calls c) with
    | false =>
      obtain ⟨t, ht, hended⟩ := reaches_ended_of_left (hwinds.joinable hj) hpc' hw hu.mutex
      exact ⟨t, hwinds.trans ht, hended.of_settles hu.settles⟩
    | true =>
      -- the client leaves
      let s'' := s'.setCall c { s'.calls c with isCancelled := true }
      have hleave : Winds env s' s'' := Reaches.of_step (e := .disconnect c) rfl rfl
      have hcall : s''.calls c = { s'.calls c with isCancelled := true } :=
        Function.update_self _ _ _
      obtain ⟨t, ht, hended⟩ := reaches_ended_of_left ((hwinds.trans hleave).joinable hj)
        (by rw [hcall]; exact hpc') (by rw [hcall, waiting]; simp) hu.mutex
      exact ⟨t, (hwinds.trans hleave).trans ht, (hended.of_update rfl).of_settles hu.settles⟩
  · exact ⟨s', hwinds, ended_of_settles hu.settles hdone⟩

/-- The call takes a step before its stream. -/
theorem reaches_ended_of_proceed (hs : s.proceed env c = some s')
    (hne : (s.calls c).pc ≠ .streaming) (h : ∃ t, Winds env s' t ∧ Ended c s' t) :
    ∃ t, Winds env s t ∧ Ended c s t := by
  obtain ⟨t, hw, hended⟩ := h
  obtain ⟨hstream, -⟩ | ⟨-, -, ⟨r, hcalls⟩, -⟩ := proceed_cases hs
  · exact absurd hstream hne
  · exact ⟨t, (winds_proceed hs).trans hw, hended.of_update hcalls⟩

theorem reaches_ended_of_metaSent (hj : Joinable env s) (hpc : (s.calls c).pc = .metaSent) :
    ∃ t, Winds env s t ∧ Ended c s t := by
  have h1 : s.proceed env c = some (s.enable c) := by rw [proceed, hpc]
  have hpc1 : ((s.enable c).calls c).pc = .enabled := pc_setCall s c _
  have h2 : (s.enable c).proceed env c = some ((s.enable c).setActive c) := by rw [proceed, hpc1]
  have hj2 := ((winds_proceed h1).trans (winds_proceed h2)).joinable hj
  refine reaches_ended_of_proceed h1 (by rw [hpc]; simp) ?_
  refine reaches_ended_of_proceed h2 (by rw [hpc1]; simp) ?_
  exact reaches_ended_of_streaming hj2 (pc_setCall _ c _)

theorem reaches_ended_of_mapping {k : Nat} (hj : Joinable env s) (hpc : (s.calls c).pc = .mapping k) :
    ∃ t, Winds env s t ∧ Ended c s t := by
  -- by induction on the number of internal ids that are left
  induction hn : (s.internalIds (s.calls c).systemHandle).length - k generalizing s k with
  | zero =>
    have hk : (s.internalIds (s.calls c).systemHandle)[k]? = none :=
      List.getElem?_eq_none_iff.mpr (by omega)
    have hnext : s.proceed env c = some (s.sendResponse c) := by
      simp only [proceed, hpc, addMapping, hk]
    refine reaches_ended_of_proceed hnext (by rw [hpc]; simp) ?_
    exact reaches_ended_of_metaSent ((winds_proceed hnext).joinable hj) (pc_setCall s c _)
  | succ n ih =>
    have hlt : k < (s.internalIds (s.calls c).systemHandle).length := by omega
    have hnext : s.proceed env c =
        some (s.mapNext c k (s.internalIds (s.calls c).systemHandle)[k]) := by
      simp only [proceed, hpc, addMapping, List.getElem?_eq_getElem hlt]
      rfl
    have hcall := calls_mapNext s c k (s.internalIds (s.calls c).systemHandle)[k]
    have hlen : (s.internalIds (s.calls c).systemHandle).length - (k + 1) = n := by omega
    refine reaches_ended_of_proceed hnext (by rw [hpc]; simp) ?_
    exact ih ((winds_proceed hnext).joinable hj) (by rw [hcall]) (by rw [hcall]; exact hlen)

theorem reaches_ended_of_created (hj : Joinable env s) (hpc : (s.calls c).pc = .created) :
    ∃ t, Winds env s t ∧ Ended c s t := by
  cases hudp : env.config.udpServerModule with
  | false =>
    have h1 : s.proceed env c = some (s.sendResponse c) := by
      simp only [proceed, hpc, hudp, Bool.false_eq_true, if_false]
    refine reaches_ended_of_proceed h1 (by rw [hpc]; simp) ?_
    exact reaches_ended_of_metaSent ((winds_proceed h1).joinable hj) (pc_setCall s c _)
  | true =>
    have h1 : s.proceed env c = some (s.createSubscriptionUdpWorker c) := by
      simp only [proceed, hpc, hudp, if_true]
    have hpc1 : ((s.createSubscriptionUdpWorker c).calls c).pc = .workerCreated :=
      pc_setCall s c _
    have h2 : (s.createSubscriptionUdpWorker c).proceed env c =
        some ((s.createSubscriptionUdpWorker c).addWorker c) := by rw [proceed, hpc1]
    have hj2 := ((winds_proceed h1).trans (winds_proceed h2)).joinable hj
    refine reaches_ended_of_proceed h1 (by rw [hpc]; simp) ?_
    refine reaches_ended_of_proceed h2 (by rw [hpc1]; simp) ?_
    exact reaches_ended_of_mapping hj2 (pc_setCall _ c _)

theorem reaches_ended_of_added (hj : Joinable env s) (hpc : (s.calls c).pc = .added) :
    ∃ t, Winds env s t ∧ Ended c s t := by
  have h1 : s.proceed env c = some (s.createSubscription env c) := by rw [proceed, hpc]
  refine reaches_ended_of_proceed h1 (by rw [hpc]; simp) ?_
  exact reaches_ended_of_created ((winds_proceed h1).joinable hj) (pc_setCall s c _)

variable (c) in
theorem reaches_ended (hj : Joinable env s) : ∃ t, Winds env s t ∧ Ended c s t := by
  have hover : Over (s.calls c) → ∃ t, Winds env s t ∧ Ended c s t :=
    fun ho => ⟨s, Reaches.refl s, ho, fun _ _ ho => ho⟩
  match hpc : (s.calls c).pc with
  | .idle => exact hover (Or.inl hpc)
  | .allocated =>
    have h1 : s.proceed env c = some (s.addRequest env c true) := by rw [proceed, hpc]
    refine reaches_ended_of_proceed h1 (by rw [hpc]; simp) ?_
    exact reaches_ended_of_added ((winds_proceed h1).joinable hj) (pc_addRequest env s c)
  | .added => exact reaches_ended_of_added hj hpc
  | .created => exact reaches_ended_of_created hj hpc
  | .workerCreated =>
    have h1 : s.proceed env c = some (s.addWorker c) := by rw [proceed, hpc]
    refine reaches_ended_of_proceed h1 (by rw [hpc]; simp) ?_
    exact reaches_ended_of_mapping ((winds_proceed h1).joinable hj) (pc_setCall s c _)
  | .mapping k => exact reaches_ended_of_mapping hj hpc
  | .metaSent => exact reaches_ended_of_metaSent hj hpc
  | .enabled =>
    have h1 : s.proceed env c = some (s.setActive c) := by rw [proceed, hpc]
    refine reaches_ended_of_proceed h1 (by rw [hpc]; simp) ?_
    exact reaches_ended_of_streaming ((winds_proceed h1).joinable hj) (pc_setCall s c _)
  | .streaming => exact reaches_ended_of_streaming hj hpc
  | .done => exact hover (Or.inr hpc)

/-! ## All calls -/

/-- The calls of a list come to their ends one after the other. -/
theorem reaches_over (cs : List CallId) (hj : Joinable env s) :
    ∃ t, Winds env s t ∧ (∀ c ∈ cs, Over (t.calls c)) ∧
      ∀ x, Over (s.calls x) → Over (t.calls x) := by
  induction cs generalizing s with
  | nil => exact ⟨s, Reaches.refl s, fun c hc => absurd hc (by simp), fun _ ho => ho⟩
  | cons c cs ih =>
    obtain ⟨s', hw, hended⟩ := reaches_ended c hj
    obtain ⟨t, hw', hcs, hkept⟩ := ih (hw.joinable hj)
    refine ⟨t, hw.trans hw', fun x hx => ?_, fun x ho => ?_⟩
    · obtain rfl | hx := List.mem_cons.mp hx
      · exact hkept x hended.isOver
      · exact hcs x hx
    · by_cases hx : x = c
      · exact hkept x (hx ▸ hended.isOver)
      · exact hkept x (hended.others x hx ho)

theorem not_live_of_over {r : SubscribeCall} (h : Over r) : r.live = false := by
  obtain hpc | hpc := h
  · exact live_of_pc_idle hpc
  · exact live_of_pc_done hpc

/-! ## Workers that do not end -/

theorem live_update {r : SubscribeCall} (hl : (s.calls c).live = true) {d : CallId}
    (hr : d = c → r.live = true) : (Function.update s.calls d r c).live = true := by
  by_cases hd : d = c
  · rw [← hd, Function.update_self]
    exact hr hd
  · rwa [Function.update_of_ne (Ne.symm hd)]

theorem live_proceed (hudp : env.config.udpServerModule = true) {d : CallId}
    (hl : (s.calls c).live = true) (hs : s.proceed env d = some s') : (s'.calls c).live = true := by
  obtain ⟨pc, hpc, hp⟩ := proceedStep_of_proceed hs
  cases hp with
  | addRequest =>
    rw [addRequest_spec]
    exact live_update hl fun _ => rfl
  | createSubscription | createSubscriptionUdpWorker | sendResponse | addWorker | enable
  | setActive => exact live_update hl fun _ => rfl
  | addMapping k =>
    unfold addMapping
    dsimp only
    split
    · exact live_update hl fun _ => rfl
    · exact live_update hl fun _ => rfl
  | endOfStream hs =>
    obtain ⟨-, -, ⟨-, -, rfl⟩ | ⟨-, hno, -⟩ | ⟨hact, rfl⟩⟩ := endOfStream_cases hs
    · exact hl
    · exact absurd hudp (by simp [hno])
    · refine live_update hl fun hd => ?_
      rw [hd] at hpc hact
      rw [active_of_live hl hpc] at hact
      exact absurd hact (by simp)

/-- While a call is torn down its id still leads to it. -/
theorem Inv.store_of_cleanup (hi : Inv env s) {cl : Cleanup} (hcl : s.cleanup = some cl) :
    s.store[(s.calls cl.stage.worker).id]? = some cl.stage.worker := by
  obtain ⟨-, hpc, hact, -⟩ := hi.cleanup cl hcl
  exact (hi.store _ _).mpr (idAt_eq_some.mpr ⟨holds_of_streaming hpc hact (by decide), rfl⟩)

/-- The join ends the call whose worker it is, and changes no other. -/
theorem calls_join {origin : Origin} {w : CallId} (hi : Inv env s)
    (hcl : s.cleanup = some ⟨origin, .terminated w⟩) :
    ∃ r, (finish env { s.deleteUdpSubscription w with cleanup := none } origin).2.calls =
      Function.update s.calls w r ∧ r.live = false := by
  obtain ⟨-, hpc, -, ho⟩ := hi.cleanup _ hcl
  obtain ⟨r, hcalls, hr, hoff, -⟩ := finish_cases env
    { s.deleteUdpSubscription w with cleanup := none } w
    (ho.imp id fun ho => ⟨_, ho, hi.store_of_cleanup hcl⟩)
  refine ⟨r, hcalls, ?_⟩
  obtain hdone | hstream := hr
  · exact live_of_pc_done hdone
  · rw [live, hstream.trans hpc]
    exact hoff

theorem live_cleanupStep (hi : Inv env s) (hends : env.workerEnds c = false)
    (hl : (s.calls c).live = true) (hs : s.cleanupStep env = some s') :
    (s'.calls c).live = true := by
  obtain ⟨origin, w, k, -, rfl⟩ | ⟨origin, w, -, rfl⟩ | ⟨origin, w, hcl, hw, rfl⟩ :=
    cleanupStep_cases hs
  · unfold unmap
    dsimp only
    split
    · exact hl
    · exact hl
  · have hsame := sameCore_setTerminate s w c
    exact live_of_same hsame.pc.symm (fun hact => hsame.active.trans hact) hl
  · -- the hold is not of `c`, whose worker is never joined
    obtain ⟨r, hcalls, -⟩ := calls_join hi hcl
    rw [hcalls, Function.update_of_ne]
    · exact hl
    · rintro rfl
      rw [hends] at hw
      exact absurd hw Bool.false_ne_true

/-- A call whose worker does not end stays as the server is wound down. -/
theorem Winds.live (h : Winds env s t) (hi : Inv env s)
    (hudp : env.config.udpServerModule = true) (hends : env.workerEnds c = false)
    (hl : (s.calls c).live = true) : (t.calls c).live = true := by
  have hstep : ∀ s e s', Inv env s ∧ (s.calls c).live = true → e.winds = true →
      step env s e = some s' → Inv env s' ∧ (s'.calls c).live = true := by
    intro s e s' hboth hw hs
    refine ⟨inv_step hboth.1 (noEarlyCancel_of_winds hw) hs, ?_⟩
    cases e with
    | proceed d => exact live_proceed hudp hboth.2 hs
    | disconnect d =>
      rw [← Option.some.inj hs]
      exact live_update hboth.2 fun hd => hd ▸ hboth.2
    | cleanup => exact live_cleanupStep hboth.1 hends hboth.2 hs
    | _ => exact absurd hw Bool.false_ne_true
  exact (Reaches.invariant hstep h ⟨hi, hl⟩).2

end AgentServer

end TelemetryAgent
