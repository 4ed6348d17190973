/-
  What `telemetrySubscribe` passes to the consolidator when the paths are validated.

  All calls share the path database, and a request for an unknown path changes it. In every
  run it extends the database that was built at the start (`extends_of_run`), so a request is
  validated as if it were the first (`validated_of_run`).
-/
import TelemetryAgent.Lib.Run
import TelemetryAgent.Server.Steps
import TelemetryAgent.Server.TearDown
import TelemetryAgent.Junos.PlainJsoncpp

namespace TelemetryAgent

open Std TelemetryAgent.Lib

variable {σ : Type}

namespace AgentServer

open PathValidator

variable {env : Environment σ} {s s' : AgentServer σ} {c : CallId} {built : PathInformationDB}

theorem extends_validate (hf : Filed built) (hne : "" ∉ built)
    (h : Extends built s.pathInformationDb) (request : SubscriptionRequest) :
    Extends built (s.validate env request).2 := by
  unfold validate
  split
  · exact (validatePaths_of_extends hf hne h request.pathList).1
  · exact h

theorem pathInformationDb_finish (s : AgentServer σ) (origin : Origin) :
    (finish env s origin).2.pathInformationDb = s.pathInformationDb := by
  unfold finish
  split
  · rfl
  · split <;> rfl

/-- Only the validation of a request changes the database. -/
theorem pathInformationDb_step {e : Event} (hs : s.step env e = some s') :
    s'.pathInformationDb = s.pathInformationDb ∨
      ∃ request, s'.pathInformationDb = (s.validate env request).2 := by
  cases sharedStep_of_step hs with
  | addRequest c =>
    right
    exact ⟨(s.calls c).request, by rw [addRequest_spec]⟩
  | finish t origin ht =>
    left
    rw [pathInformationDb_finish]
    exact congrArg Prod.fst ht
  | same t ht => exact .inl (congrArg Prod.fst ht)

theorem extends_of_run (hf : Filed built) (hne : "" ∉ built) {x : σ} {es : List Event}
    (hr : run (step env) (new built x) es = some s) : Extends built s.pathInformationDb := by
  have hstep : ∀ (s : AgentServer σ) e s', Extends built s.pathInformationDb →
      s.step env e = some s' → Extends built s'.pathInformationDb := by
    intro s e s' h hs
    obtain he | ⟨request, he⟩ := pathInformationDb_step hs
    · rw [he]
      exact h
    · rw [he]
      exact extends_validate hf hne h request
  exact run_invariant_of_step hstep (Extends.refl built) hr

/-- **Validation.** After every run of the server over the database that was built, the
    request passed to the consolidator has the paths of the client's request that are keys of
    that database, in order, each validated against its entry. It is the one that a server
    with no history passes. -/
theorem validated_of_run {ν : Type} (lib : Jsoncpp ν) (conv : JsonConversions ν)
    (text : List Char) (status : Bool) (built : PathInformationDB)
    (hbuild : buildPathInformationDb lib conv ∅ text = some (status, built))
    (hne : "" ∉ built) (env : Environment σ) (hconfig : env.config.validateOcpaths = true)
    (x : σ) (es : List Event) (s : AgentServer σ)
    (hr : run (step env) (new built x) es = some s) (request : SubscriptionRequest) :
    List.Forall₂ (fun p q => ∃ info, Validated built p q info)
        (request.pathList.filter fun p => p.path ∈ built)
        (s.validate env request).1.pathList ∧
      (s.validate env request).1 = ((new built x).validate env request).1 := by
  have hf := filed_build filed_empty hbuild
  have hpaths : ∀ s : AgentServer σ, (s.validate env request).1 =
      { request with pathList := (validatePaths s.pathInformationDb request.pathList).1 } := by
    intro s
    unfold validate
    rw [if_pos hconfig]
  have hall := (validatePaths_of_extends hf hne (extends_of_run hf hne hr) request.pathList).2
  have hall₀ := (validatePaths_of_extends hf hne (Extends.refl built) request.pathList).2
  have hone : Relator.RightUnique fun p q => ∃ info, Validated built p q info :=
    fun _ _ _ ⟨_, h⟩ ⟨_, h'⟩ => h.unique h'
  have hsame := List.right_unique_forall₂' hone hall hall₀
  rw [hpaths, hpaths, hsame]
  exact ⟨hall₀, rfl⟩

/-- The file that lists the path `firewall`, with the defaults. -/
def firewallPaths : Json Empty :=
  .obj [("valid_paths", .arr [.obj [("path", .str "firewall")]])]

/-- The conversions of strings and of booleans. -/
def plainConversions : JsonConversions Empty where
  asString := Json.str?
  asBool
    | .bool b => some b
    | _ => none
  asInt _ := none

theorem build_firewallPaths :
    buildPathInformationDb plainJsoncpp plainConversions ∅
        (firewallPaths.write Json.plainSpelling) =
      some (true, (∅ : PathInformationDB).insert "firewall" (some { path := "firewall" })) := by
  unfold buildPathInformationDb
  rw [plainJsoncpp_parse, Json.read_write]
  simp only [firewallPaths, Json.normalize, Json.normalizeMembers, Json.normalizeItems,
    insertMember]
  rfl

/-- A second request for a path that is not listed, beside `firewall`. -/
theorem validated_of_run_firewall :
    ∃ s, run (step { nullEnvironment false with config := { validateOcpaths := true } })
        (new ((∅ : PathInformationDB).insert "firewall" (some { path := "firewall" })) {})
        [.subscribe 0 { pathList := [{ path := "port" }] }, .proceed 0] = some s ∧
      (s.validate { nullEnvironment false with config := { validateOcpaths := true } }
        { pathList := [{ path := "port" }, { path := "firewall" }] }).1 =
          { pathList := [{ path := "firewall", sampleFrequency := 2000 }] } := by
  have hrun : (run (step { nullEnvironment false with config := { validateOcpaths := true } })
      (new ((∅ : PathInformationDB).insert "firewall" (some { path := "firewall" })) {})
      [.subscribe 0 { pathList := [{ path := "port" }] }, .proceed 0]).isSome = true := by
    decide +kernel
  obtain ⟨s, hs⟩ := Option.isSome_iff_exists.mp hrun
  refine ⟨s, hs, (validated_of_run plainJsoncpp plainConversions _ _ _ build_firewallPaths
    (by decide +kernel) _ rfl {} _ s hs _).2.trans ?_⟩
  decide +kernel

end AgentServer

end TelemetryAgent
