/-
  `AgentSystemFile` (AgentSystemFile.cpp) in the Junos configuration build: the system that writes
  its documents to a file, and answers every call with success.

  `shows_replay_of_run`: at every point of a run the file configures any device for the sensors of
  `sysdb` and no others.
-/
import TelemetryAgent.Junos.Provisioning
import TelemetryAgent.Junos.PlainJsoncpp

namespace TelemetryAgent

open TelemetryAgent.Lib JunosTelemetryJson JunosTelemetryJsonGenerator

variable {ν : Type}

/-- What has been written to `_outputFile`: the line in front of each document, and the document. -/
structure AgentSystemFile extends SystemCounts where
  outputFile : List (String × String) := []
  deriving DecidableEq, Repr

namespace AgentSystemFile

variable (config : GlobalConfig) (lib : Jsoncpp ν)

/-- The content of the file. -/
def content (s : AgentSystemFile) : String :=
  String.join (s.outputFile.map fun record => record.1 ++ "\n" ++ record.2 ++ "\n")

def write (s : AgentSystemFile) (line config : String) : AgentSystemFile :=
  { s with outputFile := s.outputFile ++ [(line, config)] }

def systemAdd (s : AgentSystemFile) (id : Nat) (requestPath : Path) :
    Option (Bool × AgentSystemFile) := do
  let s := { s with addSystemCount := s.addSystemCount + 1 }
  let json ← AgentSystemProc.junosConfigFor config lib true id requestPath
  some (true, s.write ("Push config (" ++ toString id ++ "):") json)

def systemRemove (s : AgentSystemFile) (id : Nat) (requestPath : Path) :
    Option (Bool × AgentSystemFile) := do
  let s := { s with removeSystemCount := s.removeSystemCount + 1 }
  let json ← AgentSystemProc.junosConfigFor config lib false id requestPath
  some (true, s.write ("Remove config (" ++ toString id ++ "):") json)

def systemClearAll (s : AgentSystemFile) : Bool × AgentSystemFile :=
  (true, s.write "ClearAll config: " (generateJsonClearAllJunosConfig lib))

/-- The system that the consolidator calls. With a library that reads the templates no call ends
    the process. -/
def agentSystemFile : AgentSystem AgentSystemFile where
  systemAdd id path s := (s.systemAdd config lib id path).getD (false, s)
  systemRemove id path s := (s.systemRemove config lib id path).getD (false, s)

/-! ## The file on a device -/

/-- The device is given the documents in order, and refuses what it cannot apply. -/
def replay (tables : AnalyticsTables ν) (outputFile : List (String × String)) : AnalyticsTables ν :=
  outputFile.foldl (fun tables record => (applyDocument lib tables record.2).getD tables) tables

theorem replay_write (tables : AnalyticsTables ν) (s : AgentSystemFile) (line text : String) :
    replay lib tables (s.write line text).outputFile =
      (applyDocument lib (replay lib tables s.outputFile) text).getD
        (replay lib tables s.outputFile) := by
  rw [replay, write, List.foldl_append]
  rfl

variable {config lib}

theorem agentSystemFile_systemAdd {id : Nat} {path : Path} {text : String}
    (htext : AgentSystemProc.junosConfigFor config lib true id path = some text)
    (s : AgentSystemFile) :
    ∃ counts, (agentSystemFile config lib).systemAdd id path s =
      (true, { toSystemCounts := counts, outputFile :=
        (s.write ("Push config (" ++ toString id ++ "):") text).outputFile }) := by
  simp only [agentSystemFile, systemAdd, htext, Option.bind_eq_bind, Option.bind_some,
    Option.getD_some]
  exact ⟨_, rfl⟩

theorem agentSystemFile_systemRemove {id : Nat} {path : Path} {text : String}
    (htext : AgentSystemProc.junosConfigFor config lib false id path = some text)
    (s : AgentSystemFile) :
    ∃ counts, (agentSystemFile config lib).systemRemove id path s =
      (true, { toSystemCounts := counts, outputFile :=
        (s.write ("Remove config (" ++ toString id ++ "):") text).outputFile }) := by
  simp only [agentSystemFile, systemRemove, htext, Option.bind_eq_bind, Option.bind_some,
    Option.getD_some]
  exact ⟨_, rfl⟩

/-- No call is refused. -/
theorem provisions_agentSystemFile (hl : lib.Lawful) (ht : ReadsTemplates lib)
    (tables : AnalyticsTables ν) :
    Provisions config (agentSystemFile config lib) fun s => replay lib tables s.outputFile where
  add id path s := by
    have htext := AgentSystemProc.generate_eq_tagged hl ht true config.udpServerModule
      config.udpServerIp (config.udpServerPort % 2 ^ 32).toNat (id % 2 ^ 32) path
    obtain ⟨counts, hcall⟩ := agentSystemFile_systemAdd htext s
    rw [hcall]
    exact (replay_write lib tables s _ _).trans
      (by rw [applyDocument_add hl ht htext, Option.getD_some, if_pos rfl])
  remove id path s := by
    have htext := AgentSystemProc.generate_eq_tagged hl ht false config.udpServerModule
      config.udpServerIp (config.udpServerPort % 2 ^ 32).toNat (id % 2 ^ 32) path
    obtain ⟨counts, hcall⟩ := agentSystemFile_systemRemove htext s
    rw [hcall]
    exact (replay_write lib tables s _ _).trans
      (by rw [applyDocument_remove hl ht htext, Option.getD_some, if_pos rfl])

open AgentConsolidator

variable {getMessageString : Path → String} {c : AgentConsolidator AgentSystemFile}

theorem removeTaken_agentSystemFile (hl : lib.Lawful) (ht : ReadsTemplates lib)
    (c : AgentConsolidator AgentSystemFile) (ptr : SystemHandlePtr) :
    RemoveTaken (agentSystemFile config lib) c ptr := by
  intro _
  have htext := AgentSystemProc.generate_eq_tagged hl ht false config.udpServerModule
    config.udpServerIp (config.udpServerPort % 2 ^ 32).toNat
    ((c.syshandle ptr).internalSubscriptionId % 2 ^ 32) (c.syshandle ptr).path
  obtain ⟨counts, hcall⟩ := agentSystemFile_systemRemove htext c.sysHandle
  rw [hcall]

theorem showsStep_of_freeIdStep (hl : lib.Lawful) (ht : ReadsTemplates lib) {e : Call}
    (h : FreeIdStep (agentSystemFile config lib) getMessageString c e) :
    ShowsStep (agentSystemFile config lib) getMessageString c e := by
  refine ⟨h, ?_⟩
  cases e with
  | addRequest alloc id request => trivial
  | removeRequest ptr =>
    intro x _
    exact (meets_true _ _ _).imp (fun _ _ _ _ _ _ => trivial)
      (fun c ptr (_ : True) _ => removeTaken_agentSystemFile hl ht c ptr) trivial

/-- The file of a run, given to any device, leaves it with the sensors of `sysdb` and no others. -/
theorem shows_replay_of_run (hl : lib.Lawful) (ht : ReadsTemplates lib)
    (tables : AnalyticsTables ν) {es : List Call}
    (hc : Meets (step (agentSystemFile config lib) getMessageString)
      (FreeIdStep (agentSystemFile config lib) getMessageString) (new (systemClearAll lib {}).2) es)
    (hr : run (step (agentSystemFile config lib) getMessageString) (new (systemClearAll lib {}).2) es =
      some c) :
    Shows config (replay lib tables c.sysHandle.outputFile) c.entry := by
  have hclear : replay lib tables (systemClearAll lib {}).2.outputFile = .empty := by
    rw [systemClearAll, replay_write, applyDocument_clearAll _ hl ht, Option.getD_some]
  have hstep : ∀ (c : AgentConsolidator AgentSystemFile) (e : Call) c',
      (Inv getMessageString c ∧
        Provisioned config (fun s : AgentSystemFile => replay lib tables s.outputFile) c) →
      FreeIdStep (agentSystemFile config lib) getMessageString c e →
      step (agentSystemFile config lib) getMessageString c e = some c' →
      Inv getMessageString c' ∧
        Provisioned config (fun s : AgentSystemFile => replay lib tables s.outputFile) c' := by
    rintro c e c' ⟨hinv, hp⟩ hc hs
    exact ⟨inv_step _ hinv hs, provisioned_step (provisions_agentSystemFile hl ht tables) hinv hp
      (showsStep_of_freeIdStep hl ht hc) hs⟩
  exact (run_invariant hstep ⟨inv_new _, provisioned_new hclear⟩ hc hr).2.shows

theorem shows_replay_of_run_firewall :
    ∃ c, run (step (agentSystemFile {} plainJsoncpp) singleLineText)
        (new (systemClearAll plainJsoncpp {}).2)
        [.addRequest true 1 { pathList := [{ path := "firewall" }] }] = some c ∧
      Shows {} (replay plainJsoncpp deviceWithSensor c.sysHandle.outputFile) c.entry := by
  obtain ⟨c, hcall⟩ : ∃ c, step (agentSystemFile {} plainJsoncpp) singleLineText
      (new (systemClearAll plainJsoncpp {}).2)
      (.addRequest true 1 { pathList := [{ path := "firewall" }] }) = some c := ⟨_, rfl⟩
  have hrun := run_cons_eq_some.mpr ⟨c, hcall, run_nil _ _⟩
  have hfree : Meets (step (agentSystemFile {} plainJsoncpp) singleLineText)
      (FreeIdStep (agentSystemFile {} plainJsoncpp) singleLineText)
      (new (systemClearAll plainJsoncpp {}).2)
      [.addRequest true 1 { pathList := [{ path := "firewall" }] }] :=
    ⟨⟨fun _ _ => hasFree_new _, fun _ _ => trivial⟩, fun _ _ => trivial⟩
  exact ⟨c, hrun, shows_replay_of_run plainJsoncpp_lawful plainJsoncpp_readsTemplates
    deviceWithSensor hfree hrun⟩

end AgentSystemFile

end TelemetryAgent
