/-
  Tear-downs under every interleaving.

  `Orderly s`: so far no handle has been removed twice, every id given back was allocated to
  the call it was given back for and not given back yet, no tear-down has erased the entry
  of another subscription, and no subscription whose cancel succeeded is active.

  `orderly_of_run`: it holds in every run in which no cancel finds a subscription that its
  own call has not made active. `telemetrySubscribe` enters the subscription in the store
  three points before that, outside the mutex, and then sets `_active` without looking; a
  cancel in between is undone (`not_orderly_early_cancel`), and when the stream ends the
  handle is removed again and the id and the entry of the client that has the id by then
  are taken away.
-/
import TelemetryAgent.Server.Ownership

namespace TelemetryAgent

open Std TelemetryAgent.Lib

variable {σ : Type}

namespace AgentServer

structure Orderly (s : AgentServer σ) : Prop where
  removed : s.trace.removed.Nodup
  freed : ∀ x ∈ s.trace.freed, x.2 = some x.1
  erased : ∀ x ∈ s.trace.erased, ∀ c ∈ x.2, c = x.1
  succeeded : ∀ c ∈ s.trace.succeeded, (s.calls c).sub.active = false

theorem Inv.orderly {env : Environment σ} {s : AgentServer σ} (h : Inv env s) : Orderly s where
  removed := h.removed
  freed := h.freed
  erased x hx _ hc := Option.some.inj (hc.symm.trans (h.erased x hx))
  succeeded _ hc := (h.succeeded _ hc).1

/-- **Tear-downs.** In every run whose cancels find only subscriptions that are active, or
    none, every state is orderly. -/
theorem orderly_of_run (env : Environment σ) (db : PathInformationDB) (x : σ) (es : List Event)
    (hc : Meets (step env) (NoEarlyCancel env) (new db x) es) (s : AgentServer σ)
    (hr : run (step env) (new db x) es = some s) : Orderly s :=
  (inv_of_run hc hr).orderly

/-- The server of the examples: no device, the UDP module on or off. -/
def nullEnvironment (udp : Bool) : Environment SystemCounts where
  config := { udpServerModule := udp }
  sys := agentSystemNull
  getMessageString := singleLineText
  translate := fun _ => .record
  initialActive := fun _ => false

/-- A request for `firewall`, up to the point where the call waits for the end. -/
def subscribeFirewall (c : CallId) : List Event :=
  .subscribe c { pathList := [{ path := "firewall" }] } ::
    List.replicate 5 (.proceed c)

theorem orderly_of_run_firewall :
    ∃ s, run (step (nullEnvironment false)) (new ∅ {})
        (subscribeFirewall 0 ++ [.cancel 1, .proceed 0]) = some s ∧ Orderly s := by
  have hrun : (run (step (nullEnvironment false)) (new ∅ {})
      (subscribeFirewall 0 ++ [.cancel 1, .proceed 0])).map (·.trace.succeeded) = some [0] := by
    decide +kernel
  obtain ⟨s, hs, _⟩ := Option.map_eq_some_iff.mp hrun
  exact ⟨s, hs, orderly_of_run _ _ _ _ (by decide +kernel) s hs⟩

/-- Call 0 is cancelled between its entry in the store and its activation, call 1 gets its
    id, and then the client of call 0 leaves. -/
theorem not_orderly_early_cancel :
    ¬ ∀ s, run (step (nullEnvironment false)) (new ∅ {})
      ([.subscribe 0 { pathList := [{ path := "firewall" }] }, .proceed 0, .proceed 0, .cancel 1] ++
        subscribeFirewall 1 ++
        [.proceed 0, .proceed 0, .proceed 0, .disconnect 0, .proceed 0]) = some s → Orderly s := by
  intro h
  have hrun : (run (step (nullEnvironment false)) (new ∅ {})
      ([.subscribe 0 { pathList := [{ path := "firewall" }] }, .proceed 0, .proceed 0, .cancel 1] ++
        subscribeFirewall 1 ++
        [.proceed 0, .proceed 0, .proceed 0, .disconnect 0, .proceed 0])).map
      (fun s => (s.trace.removed, s.trace.freed, s.trace.erased)) =
      some ([0, 0], [(0, some 1), (0, some 0)], [(0, some 1), (0, some 0)]) := by decide +kernel
  obtain ⟨s, hs, ht⟩ := Option.map_eq_some_iff.mp hrun
  have := (h s hs).removed
  rw [(Prod.mk.inj ht).1] at this
  exact absurd this (by decide)

end AgentServer

end TelemetryAgent
