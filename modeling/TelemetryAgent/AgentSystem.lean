/-
  `AgentSystem` (AgentSystem.hpp): the interface of the system on which telemetry
  resources are provisioned. The virtual functions are fields; `σ` is the state of the
  implementation (counters, the device behind it). The consolidator is modelled against
  any implementation, so a fact about it holds for every choice of success and failure of
  each call.

  `agentSystemNull` is the implementation of the null mode (AgentSystemNull.cpp), which
  only counts the calls of the base class (AgentSystem.cpp).
-/
import TelemetryAgent.Protos

namespace TelemetryAgent

/-- The calls of the interface that the consolidator makes, with the `SystemId` given as a
    number. The Boolean is the call's return value. -/
structure AgentSystem (σ : Type) where
  systemAdd : Nat → Path → σ → Bool × σ
  systemRemove : Nat → Path → σ → Bool × σ

/-- The statistics of the base class. -/
structure SystemCounts where
  addSystemCount : Nat := 0
  removeSystemCount : Nat := 0
  errorSystemCount : Nat := 0
  deriving DecidableEq, Repr

def agentSystemNull : AgentSystem SystemCounts where
  systemAdd _ _ s := (true, { s with addSystemCount := s.addSystemCount + 1 })
  systemRemove _ _ s := (true, { s with removeSystemCount := s.removeSystemCount + 1 })

end TelemetryAgent
