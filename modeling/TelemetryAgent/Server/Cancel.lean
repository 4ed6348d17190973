/-
  What the cancel of an id does.

  `torn` is the call that the cancel finds, and `Tearing` that the cancel holds the mutex to tear
  it down. `torn_cancel`: the cancel of an id whose call is found ends that call at once or begins
  such a hold. `over_or_tearing_step`: the hold goes on until the call is over, and no call comes
  back to life. `reaches_torn`: it comes to an end if the worker of the call does.
-/
import TelemetryAgent.Server.Replies
import TelemetryAgent.Server.WindDown

namespace TelemetryAgent

open Std TelemetryAgent.Lib

variable {σ : Type}

namespace AgentServer

open SubscribeCall

variable (env : Environment σ)

/-- The stream of call `c` begins with the reply. -/
structure Sent (c : CallId) (reply : SubscriptionReply) (s : AgentServer σ) : Prop where
  answers : Answers env s
  stream : ∃ l, (s.calls c).stream = .initResponse reply :: l

/-- The call that a cancel of an id tears down. -/
def torn (s : AgentServer σ) (id : Nat) : Option CallId :=
  if env.config.udpServerModule then s.store2[id]? else s.store[id]?

/-- The cancel of `id` has the mutex and tears call `c` down. -/
def Tearing (id : Nat) (c : CallId) (s : AgentServer σ) : Prop :=
  ∃ stage, s.cleanup = some ⟨.cancel id, stage⟩ ∧ stage.worker = c

variable {env} {s s' t : AgentServer σ} {c : CallId} {i : Nat}

variable {reply : SubscriptionReply}

theorem Sent.begun (h : Sent env c reply s) : (s.calls c).pc ≠ .idle := by
  obtain ⟨l, hl⟩ := h.stream
  have hsent := (h.answers.replied c).sent hl
  intro hidle
  rw [hidle] at hsent
  exact absurd hsent (by decide)

theorem sent_step {e : Event} (h : Sent env c reply s) (hc : NoEarlyCancel env s e)
    (hs : s.step env e = some s') : Sent env c reply s' where
  answers := answers_step h.answers hc hs
  stream := by
    obtain ⟨l, hl⟩ := h.stream
    obtain ⟨l', hl'⟩ := stream_grows h.answers.quiet hs c
    exact ⟨l ++ l', by rw [hl', hl, List.cons_append]⟩

/-- A cancel of the id that the reply has finds the call exactly while it is live. -/
theorem Sent.torn_iff (h : Sent env c reply s) :
    torn env s reply.subscriptionId = some c ↔ (s.calls c).live = true := by
  obtain ⟨l, hl⟩ := h.stream
  obtain ⟨hstore, hstore2⟩ := h.answers.lookup_iff hl
  unfold torn
  split_ifs with hudp
  · exact hstore2 hudp
  · exact hstore

/-! ## The hold of the mutex -/

/-- A hold only changes the call whose worker it is about. -/
theorem calls_cleanupStep {cl : Cleanup} (hi : Inv env s) (hcl : s.cleanup = some cl)
    (hs : s.cleanupStep env = some s') {x : CallId} (hx : x ≠ cl.stage.worker) :
    s'.calls x = s.calls x := by
  obtain ⟨origin, w, k, -, rfl⟩ | ⟨origin, w, hcl', rfl⟩ | ⟨origin, w, hcl', -, rfl⟩ :=
    cleanupStep_cases hs
  · unfold unmap
    dsimp only
    split
    · rfl
    · rfl
  · rw [hcl, Option.some.injEq] at hcl'
    rw [hcl'] at hx
    exact Function.update_of_ne hx _ _
  · obtain ⟨r, hcalls, -⟩ := calls_join hi hcl'
    rw [hcl, Option.some.injEq] at hcl'
    rw [hcl'] at hx
    rw [hcalls]
    exact Function.update_of_ne hx _ _

/-- The others wait for the thread that has the mutex. -/
theorem cleanup_of_step {e : Event} {cl : Cleanup} (hcl : s.cleanup = some cl) (he : e ≠ .cleanup)
    (hs : s.step env e = some s') : s'.cleanup = some cl := by
  have hheld : s.cleanup ≠ none := by
    rw [hcl]
    exact Option.some_ne_none cl
  cases e with
  | subscribe d request =>
    obtain ⟨-, rfl⟩ := step_subscribe hs
    obtain ⟨r, -, h⟩ | ⟨i, -, -, -, h⟩ := allocate_spec s d request
    · rw [h]
      exact hcl
    · rw [h]
      exact hcl
  | proceed d =>
    obtain ⟨-, hend⟩ | ⟨-, hsame, -⟩ := proceed_cases hs
    · exact absurd (endOfStream_cases hend).2.1 hheld
    · exact hsame.trans hcl
  | cancel i => exact absurd (cancel_cases hs).1 hheld
  | cleanup => exact absurd rfl he
  | disconnect d => exact Option.some.inj hs ▸ hcl
  | datagram buf =>
    rw [step_datagram hs]
    exact hcl
  | workerStep d =>
    obtain ⟨vec, w, -, rfl⟩ := workerStep_eq_some hs
    exact hcl
  | message d now m =>
    obtain ⟨-, rfl⟩ := step_message hs
    exact hcl

/-- The hold goes on, or it ends with the join, and the call is over. -/
theorem tearing_cleanupStep (hi : Inv env s) (h : Tearing i c s)
    (hs : s.cleanupStep env = some s') : Tearing i c s' ∨
      s.cleanup = some ⟨.cancel i, .terminated c⟩ ∧ s'.cleanup = none ∧
        (s'.calls c).live = false := by
  obtain ⟨stage, hcl, rfl⟩ := h
  obtain ⟨origin, w, k, hcl', rfl⟩ | ⟨origin, w, hcl', rfl⟩ | ⟨origin, w, hcl', -, rfl⟩ :=
    cleanupStep_cases hs
  · rw [hcl, Option.some.injEq, Cleanup.mk.injEq] at hcl'
    obtain ⟨rfl, rfl⟩ := hcl'
    left
    unfold unmap
    dsimp only
    split
    · exact ⟨_, rfl, rfl⟩
    · exact ⟨_, rfl, rfl⟩
  · rw [hcl, Option.some.injEq, Cleanup.mk.injEq] at hcl'
    obtain ⟨rfl, rfl⟩ := hcl'
    exact Or.inl ⟨_, rfl, rfl⟩
  · obtain ⟨r, hcalls, hdead⟩ := calls_join hi hcl'
    rw [hcl, Option.some.injEq, Cleanup.mk.injEq] at hcl'
    obtain ⟨rfl, rfl⟩ := hcl'
    refine Or.inr ⟨hcl, (finish_keeps env _ _).1, ?_⟩
    rw [hcalls]
    show (Function.update s.calls w r w).live = false
    rw [Function.update_self]
    exact hdead

theorem Tearing.live (hi : Inv env s) (h : Tearing i c s) : (s.calls c).live = true := by
  obtain ⟨stage, hcl, rfl⟩ := h
  exact hi.live_of_cleanup hcl

/-- The cancel of a call that is torn down is answered `SUCCESS`. -/
theorem code_join (hi : Inv env s) (hcl : s.cleanup = some ⟨.cancel i, .terminated c⟩) :
    (finish env { s.deleteUdpSubscription c with cleanup := none } (.cancel i)).1 = .success := by
  obtain ⟨-, -, -, ho⟩ := hi.cleanup _ hcl
  have hid : i = (s.calls c).id := by
    obtain ho | ho := ho
    · exact Origin.noConfusion ho
    · exact Origin.cancel.inj ho
  have hstore : (s.deleteUdpSubscription c).store[i]? = some c := by
    rw [hid]
    exact hi.store_of_cleanup hcl
  simp only [finish, hstore]

/-- A call that is over stays over. -/
theorem Sent.over_step {e : Event} (hsent : Sent env c reply s)
    (hdead : (s.calls c).live = false) (hs : s.step env e = some s') :
    (s'.calls c).live = false := by
  by_contra hlive
  rw [Bool.not_eq_false] at hlive
  rw [live_of_step hsent.answers.quiet.ending hs hsent.begun hlive] at hdead
  exact absurd hdead.symm Bool.false_ne_true

theorem over_or_tearing_step {e : Event} (hsent : Sent env c reply s)
    (h : (s.calls c).live = false ∨ Tearing i c s) (hs : s.step env e = some s') :
    (s'.calls c).live = false ∨ Tearing i c s' := by
  obtain hdead | htears := h
  · exact Or.inl (hsent.over_step hdead hs)
  · by_cases hcl : e = .cleanup
    · subst hcl
      obtain htears | ⟨-, -, hdead⟩ := tearing_cleanupStep hsent.answers.inv htears hs
      · exact Or.inr htears
      · exact Or.inl hdead
    · obtain ⟨stage, hhold, hw⟩ := htears
      exact Or.inr ⟨stage, cleanup_of_step hhold hcl hs, hw⟩

/-- The thread that has the mutex, left to itself, brings the call to its end. -/
theorem reaches_torn (hsent : Sent env c reply s) (h : Tearing i c s)
    (hends : env.workerEnds c = true) : ∃ t, Holds env s t ∧ (t.calls c).live = false := by
  have hhold : ∀ cl, s.cleanup = some cl → env.workerEnds cl.stage.worker = true := by
    obtain ⟨stage, hcl, rfl⟩ := h
    intro cl hcl'
    rw [hcl, Option.some.injEq] at hcl'
    exact hcl' ▸ hends
  obtain ⟨t, hholds, hu⟩ := reaches_unlocked hsent.answers.quiet.ending hhold
  have hstep : ∀ s e s', Sent env c reply s ∧ ((s.calls c).live = false ∨ Tearing i c s) →
      e = .cleanup → step env s e = some s' →
      Sent env c reply s' ∧ ((s'.calls c).live = false ∨ Tearing i c s') := by
    intro s e s' hboth he hs
    subst he
    exact ⟨sent_step (e := .cleanup) hboth.1 trivial hs, over_or_tearing_step hboth.1 hboth.2 hs⟩
  obtain hdead | ⟨stage, hcl, -⟩ := (Reaches.invariant hstep hholds ⟨hsent, Or.inr h⟩).2
  · exact ⟨t, hholds, hdead⟩
  · rw [hu.mutex] at hcl
    exact absurd hcl.symm (Option.some_ne_none _)

/-! ## The cancel -/

/-- The tear-down of the call that the cancel finds begins, or is over at once and answered
    `SUCCESS`. -/
theorem torn_cancel (hcancel : NoEarlyCancel env s (.cancel i)) (htorn : torn env s i = some c)
    (hs : s.cancel env i = some s') :
    (∀ x, x ≠ c → s'.calls x = s.calls x) ∧ (Tearing i c s' ∨
      env.config.udpServerModule = false ∧ s'.cleanup = none ∧
        (finish env s (.cancel i)).1 = .success ∧ (s'.calls c).live = false) := by
  have hpc : (s.calls c).pc = .streaming := hcancel c htorn
  obtain ⟨hcl, ⟨hudp, hnone, rfl⟩ | ⟨w, hudp, hw, rfl⟩ | ⟨hudp, rfl⟩⟩ := cancel_cases hs
  · rw [torn, if_pos hudp, hnone] at htorn
    exact absurd htorn.symm (Option.some_ne_none c)
  · rw [torn, if_pos hudp, hw, Option.some.injEq] at htorn
    exact ⟨fun _ _ => rfl, Or.inl ⟨_, rfl, htorn⟩⟩
  · rw [torn, hudp, if_neg Bool.false_ne_true] at htorn
    obtain ⟨r, hcalls, hr, hoff, -⟩ := finish_cases env s c (Or.inr ⟨i, rfl, htorn⟩)
    refine ⟨fun x hx => by rw [hcalls, Function.update_of_ne hx], Or.inr ⟨hudp, ?_, ?_, ?_⟩⟩
    · rw [(finish_keeps env s _).1, hcl]
    · simp only [finish, htorn]
    · rw [hcalls, Function.update_self]
      obtain hdone | hstream := hr
      · exact live_of_pc_done hdone
      · rw [live, hstream.trans hpc]
        exact hoff

end AgentServer

end TelemetryAgent
