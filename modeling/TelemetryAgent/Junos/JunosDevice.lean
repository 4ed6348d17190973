/-
  The agent on a Junos device, over restarts.

  `Applies` is what the agent relies on: the device does what the documents of the edits say that it
  takes, and an edit that fails leaves it as it was. `shows_of_run`: whatever has happened before,
  from a start of the agent on the analytics configuration of the device is that of `sysdb`, through
  every run of requests, removals and further starts in which no id is missing and no removal is
  refused.
-/
import TelemetryAgent.Junos.Provisioning
import TelemetryAgent.Startup.AgentRestart

namespace TelemetryAgent

open TelemetryAgent.Lib JunosTelemetryJson JunosTelemetryJsonGenerator GlobalConfig

variable {ν δ ε : Type}

/-- The device has taken an edit with one operation. -/
def taken (r : Status × EditEphemeralConfigResponse) : Bool :=
  r.1.isOk && r.2.response.head?.any fun first => first.status = .success

/-- `tables` is the analytics configuration of the device. -/
structure Applies (lib : Jsoncpp ν) (dev : DeviceRpc δ) (tables : δ → AnalyticsTables ν) : Prop where
  loginCheck : ∀ request d, tables (dev.loginCheck request d).2 = tables d
  edit : ∀ id cmd d r d',
    dev.editEphemeralConfig { requestId := id, ephConfigOperations := [cmd] } d = (r, d') →
      if taken r then applyDocument lib (tables d) cmd.jsonConfig = some (tables d')
      else tables d' = tables d

namespace AgentSystemProc

variable {lib : Jsoncpp ν} {dev : DeviceRpc δ} {tables : δ → AnalyticsTables ν}
  {config : GlobalConfig}

variable (config) in
theorem tables_login (happ : Applies lib dev tables) (s : AgentSystemProc δ) :
    tables (s.login dev config).2.device = tables s.device := by
  have hlogin := happ.loginCheck
    { userName := config.deviceUserName, password := config.devicePassword } s.device
  unfold login authenticateChannel
  dsimp only
  split_ifs
  · exact hlogin
  · exact hlogin
  · rfl

/-- A message is applied if it succeeds, and has no effect if it does not. -/
theorem tables_send (happ : Applies lib dev tables) {s s' : AgentSystemProc δ} {json : String}
    {id : Nat} {cmdcode : ConfigCommands} {status : Status}
    (h : s.sendJunosMessagetoMgd dev config json id cmdcode = (status, s')) :
    if status.isOk then applyDocument lib (tables s.device) json = some (tables s'.device)
    else tables s'.device = tables s.device := by
  have hlogin := tables_login config happ s
  unfold sendJunosMessagetoMgd at h
  match hl : s.login dev config with
  | (st, s1) =>
    rw [hl] at hlogin
    simp only [hl] at h
    by_cases hst : st.isOk = true
    · match he : dev.editEphemeralConfig { requestId := id, ephConfigOperations :=
          [{ operationId := "0", operation := cmdcode, path := "/", jsonConfig := json }] }
          s1.device with
      | ((st2, response), d) =>
        have hedit := happ.edit _ _ _ _ _ he
        rw [hlogin] at hedit
        simp only [hst, Bool.not_true, Bool.false_eq_true, if_false, he] at h
        by_cases hst2 : st2.isOk = true
        · cases hr : response.response with
          | nil =>
            simp only [hst2, hr, Bool.not_true, Bool.false_eq_true, if_false, Prod.mk.injEq] at h
            simp only [taken, hr, List.head?_nil, Option.any_none, Bool.and_false,
              Bool.false_eq_true, if_false] at hedit
            obtain ⟨rfl, rfl⟩ := h
            exact hedit
          | cons first rest =>
            by_cases hfirst : first.status = .success
            · simp only [hst2, hr, hfirst, Bool.not_true, Bool.false_eq_true, if_false, ne_eq,
                not_true_eq_false, Prod.mk.injEq] at h
              simp only [taken, hst2, hr, hfirst, List.head?_cons, Option.any_some, decide_true,
                Bool.and_self, if_true] at hedit
              obtain ⟨rfl, rfl⟩ := h
              rw [if_pos hst2]
              exact hedit
            · simp only [hst2, hr, hfirst, Bool.not_true, Bool.false_eq_true, if_false, ne_eq,
                not_false_eq_true, if_true, Prod.mk.injEq] at h
              simp only [taken, hr, hfirst, List.head?_cons, Option.any_some, decide_false,
                Bool.and_false, Bool.false_eq_true, if_false] at hedit
              obtain ⟨rfl, rfl⟩ := h
              exact hedit
        · simp only [hst2, Bool.not_false, if_true, Prod.mk.injEq] at h
          simp only [taken, hst2, Bool.false_and, Bool.false_eq_true, if_false] at hedit
          obtain ⟨rfl, rfl⟩ := h
          rw [if_neg hst2]
          exact hedit
    · rw [if_pos (by simpa using hst)] at h
      obtain ⟨rfl, rfl⟩ := Prod.mk.inj h
      rw [if_neg hst]
      exact hlogin

/-- The request that `systemAdd` and `systemRemove` make, each with its own document. -/
theorem tables_request (happ : Applies lib dev tables) {add : Bool} {s : AgentSystemProc δ}
    {id : Nat} {path : Path} {text : String}
    (htext : junosConfigFor config lib add id path = some text) :
    ∃ b s', (do
        let json ← junosConfigFor config lib add id path
        let (status, s) := s.sendJunosMessagetoMgd dev config json id .updateConfig
        if status.isOk then some (true, { s with addSystemCount := s.addSystemCount + 1 })
        else some (false, s)) = some (b, s') ∧
      if b then applyDocument lib (tables s.device) text = some (tables s'.device)
      else tables s'.device = tables s.device := by
  match hsend : s.sendJunosMessagetoMgd dev config text id .updateConfig with
  | (status, s') =>
    have htables := tables_send happ hsend
    simp only [htext, Option.bind_eq_bind, Option.bind_some, hsend]
    by_cases hok : status.isOk = true
    · rw [if_pos hok] at htables
      exact ⟨true, _, if_pos hok, htables⟩
    · rw [if_neg hok] at htables
      exact ⟨false, s', if_neg hok, htables⟩

/-- The system that the consolidator calls. With a library that reads the templates no call ends
    the process. -/
def agentSystemProc (dev : DeviceRpc δ) (config : GlobalConfig) (lib : Jsoncpp ν) :
    AgentSystem (AgentSystemProc δ) where
  systemAdd id path s := (s.systemAdd dev config lib id path).getD (false, s)
  systemRemove id path s := (s.systemRemove dev config lib id path).getD (false, s)

theorem provisions_agentSystemProc (hl : lib.Lawful) (ht : ReadsTemplates lib)
    (happ : Applies lib dev tables) :
    Provisions config (agentSystemProc dev config lib) (fun s => tables s.device) where
  add id path s := by
    have htext := generate_eq_tagged hl ht true config.udpServerModule config.udpServerIp
      (config.udpServerPort % 2 ^ 32).toNat (id % 2 ^ 32) path
    obtain ⟨b, s', hcall, htables⟩ := tables_request (s := s) happ htext
    have hadd : (agentSystemProc dev config lib).systemAdd id path s = (b, s') :=
      congrArg (fun r => Option.getD r (false, s)) hcall
    rw [hadd]
    cases b with
    | false => exact htables
    | true => exact Option.some.inj (htables.symm.trans (applyDocument_add hl ht htext))
  remove id path s := by
    have htext := generate_eq_tagged hl ht false config.udpServerModule config.udpServerIp
      (config.udpServerPort % 2 ^ 32).toNat (id % 2 ^ 32) path
    obtain ⟨b, s', hcall, htables⟩ := tables_request (s := s) happ htext
    have hremove : (agentSystemProc dev config lib).systemRemove id path s = (b, s') :=
      congrArg (fun r => Option.getD r (false, s)) hcall
    rw [hremove]
    cases b with
    | false => exact htables
    | true => exact Option.some.inj (htables.symm.trans (applyDocument_remove hl ht htext))

theorem systemClearAll_of_send {s s' : AgentSystemProc δ} {status : Status}
    (h : s.sendJunosMessagetoMgd dev config (generateJsonClearAllJunosConfig lib) 0 .updateConfig =
      (status, s')) : s.systemClearAll dev config lib = (status.isOk, s') := by
  simp only [systemClearAll, h]

theorem tables_systemClearAll (hl : lib.Lawful) (ht : ReadsTemplates lib)
    (happ : Applies lib dev tables) {s s' : AgentSystemProc δ}
    (h : s.systemClearAll dev config lib = (true, s')) : tables s'.device = .empty := by
  match hsend : s.sendJunosMessagetoMgd dev config (generateJsonClearAllJunosConfig lib) 0
      .updateConfig with
  | (status, s1) =>
    have htables := tables_send happ hsend
    rw [systemClearAll_of_send hsend, Prod.mk.injEq] at h
    obtain ⟨hok, rfl⟩ := h
    rw [if_pos hok, applyDocument_clearAll _ hl ht] at htables
    exact (Option.some.inj htables).symm

end AgentSystemProc

/-! ## Starts and requests -/

/-- The agent, with what is behind the RPCs to JSD. -/
structure RunningAgent (δ ε : Type) where
  consolidator : AgentConsolidator (AgentSystemProc δ)
  jsd : ε

namespace RunningAgent

/-- A restart comes with the content of the registration file. -/
inductive Event where
  | call (e : AgentConsolidator.Call)
  | restart (file : List Char)
  deriving DecidableEq, Repr

variable (dev : DeviceRpc δ) (jsd : JsdRpc ε) (g : Fields) (lib : Jsoncpp ν)
  (getMessageString : Path → String)

/-- An agent that does not start serves no requests. -/
def step (a : RunningAgent δ ε) : Event → Option (RunningAgent δ ε)
  | .call e =>
    (AgentConsolidator.step (AgentSystemProc.agentSystemProc dev g.config lib) getMessageString
      a.consolidator e).map fun c => { a with consolidator := c }
  | .restart file =>
    let started := AgentRestart.onStartup jsd g lib
      (fun s : AgentSystemProc δ => s.systemClearAll dev g.config lib) file
      { device := a.consolidator.sysHandle.device } a.jsd
    if started.1 then some ⟨.new started.2.1, started.2.2⟩ else none

/-- No id is missing and no removal is refused. -/
def ShowsStep (a : RunningAgent δ ε) : Event → Prop
  | .call e =>
    AgentConsolidator.ShowsStep (AgentSystemProc.agentSystemProc dev g.config lib) getMessageString
      a.consolidator e
  | .restart _ => True

structure Inv (tables : δ → AnalyticsTables ν) (a : RunningAgent δ ε) : Prop where
  refs : AgentConsolidator.Inv getMessageString a.consolidator
  provisioned : AgentConsolidator.Provisioned g.config (fun s : AgentSystemProc δ => tables s.device)
    a.consolidator

variable {dev jsd g lib getMessageString} {tables : δ → AnalyticsTables ν} {a a' : RunningAgent δ ε}

theorem step_restart {file : List Char} {s : AgentSystemProc δ} {d : ε}
    (h : AgentRestart.onStartup jsd g lib
      (fun s : AgentSystemProc δ => s.systemClearAll dev g.config lib) file
      { device := a.consolidator.sysHandle.device } a.jsd = (true, s, d)) :
    step dev jsd g lib getMessageString a (.restart file) = some ⟨.new s, d⟩ := by
  unfold step
  simp only [h, if_true]

theorem inv_restart (hl : lib.Lawful) (ht : ReadsTemplates lib) (happ : Applies lib dev tables)
    {file : List Char} (hs : step dev jsd g lib getMessageString a (.restart file) = some a') :
    Inv g getMessageString tables a' := by
  unfold step at hs
  dsimp only at hs
  split_ifs at hs with hok
  obtain rfl := Option.some.inj hs
  refine ⟨AgentConsolidator.inv_new _, AgentConsolidator.provisioned_new ?_⟩
  rw [AgentRestart.onStartup_snd_fst]
  exact AgentSystemProc.tables_systemClearAll hl ht happ
    (Prod.ext ((AgentRestart.onStartup_fst_iff _ _ _ _ _ _ _).mp hok).1 rfl)

theorem inv_step (hl : lib.Lawful) (ht : ReadsTemplates lib) (happ : Applies lib dev tables)
    {e : Event} (h : Inv g getMessageString tables a)
    (hc : ShowsStep dev g lib getMessageString a e)
    (hs : step dev jsd g lib getMessageString a e = some a') : Inv g getMessageString tables a' := by
  cases e with
  | call e =>
    obtain ⟨c, hc', rfl⟩ := Option.map_eq_some_iff.mp hs
    exact ⟨AgentConsolidator.inv_step _ h.refs hc', AgentConsolidator.provisioned_step
      (AgentSystemProc.provisions_agentSystemProc hl ht happ) h.refs h.provisioned hc hc'⟩
  | restart file => exact inv_restart hl ht happ hs

/-- From a start of the agent on, the device runs the sensors of `sysdb` and no others, whatever it
    ran before and whatever was in `sysdb`. -/
theorem shows_of_run (hl : lib.Lawful) (ht : ReadsTemplates lib) (happ : Applies lib dev tables)
    {file : List Char} {es : List Event}
    (hc : Meets (step dev jsd g lib getMessageString) (ShowsStep dev g lib getMessageString) a
      (.restart file :: es))
    (hr : run (step dev jsd g lib getMessageString) a (.restart file :: es) = some a') :
    Shows g.config (tables a'.consolidator.sysHandle.device) a'.consolidator.entry := by
  obtain ⟨a₀, hstart, hrun⟩ := run_cons_eq_some.mp hr
  have hinv : Inv g getMessageString tables a' :=
    run_invariant (fun _ _ _ h hc hs => inv_step hl ht happ h hc hs) (inv_restart hl ht happ hstart)
      (hc.2 a₀ hstart) hrun
  exact hinv.provisioned.shows

/-! ## A device that takes every edit -/

/-- It refuses what it cannot apply. -/
def takingDevice : DeviceRpc (AnalyticsTables Empty) where
  loginCheck _ tables := ((.ok, { result := true }), tables)
  editEphemeralConfig request tables :=
    match request.ephConfigOperations.head?.bind fun cmd =>
        applyDocument plainJsoncpp tables cmd.jsonConfig with
    | some tables => ((.ok, { requestId := request.requestId, response := [⟨"0", .success, ""⟩] }), tables)
    | none => ((.unavailable, {}), tables)
  getEphemeralConfig _ tables := ((.unavailable, {}), tables)

theorem applies_takingDevice : Applies plainJsoncpp takingDevice id where
  loginCheck _ _ := rfl
  edit id cmd d r d' h := by
    cases happly : applyDocument plainJsoncpp d cmd.jsonConfig with
    | none =>
      simp only [takingDevice, List.head?_cons, Option.bind_some, happly, Prod.mk.injEq] at h
      obtain ⟨rfl, rfl⟩ := h
      rfl
    | some tables =>
      simp only [takingDevice, List.head?_cons, Option.bind_some, happly, Prod.mk.injEq] at h
      obtain ⟨rfl, rfl⟩ := h
      exact happly

/-- The agent on a device with sensors that nobody has asked this agent for. -/
def strayAgent : RunningAgent (AnalyticsTables Empty) Unit where
  consolidator := .new { device := deviceWithSensor }
  jsd := ()

theorem send_takingDevice {s : AgentSystemProc (AnalyticsTables Empty)} {text : String}
    {tables : AnalyticsTables Empty} (h : applyDocument plainJsoncpp s.device text = some tables)
    (config : GlobalConfig) (id : Nat) (cmdcode : ConfigCommands) :
    s.sendJunosMessagetoMgd takingDevice config text id cmdcode =
      (.ok, { s with device := tables }) := by
  simp only [AgentSystemProc.sendJunosMessagetoMgd, AgentSystemProc.login,
    AgentSystemProc.authenticateChannel, takingDevice, Status.isOk_ok, Bool.and_self, if_true,
    ite_self, Bool.not_true, Bool.false_eq_true, if_false, List.head?_cons, Option.bind_some, h,
    ne_eq, not_true_eq_false]

theorem exists_start_strayAgent :
    ∃ s, step takingDevice mgdServerJsd {} plainJsoncpp singleLineText strayAgent (.restart []) =
      some ⟨.new s, ()⟩ := by
  have hdocument := applyDocument_clearAll deviceWithSensor plainJsoncpp_lawful
    plainJsoncpp_readsTemplates
  have hsend := send_takingDevice (s := { device := deviceWithSensor }) hdocument
    ({} : Fields).config 0 .updateConfig
  have hclear := AgentSystemProc.systemClearAll_of_send hsend
  exact ⟨_, step_restart (AgentRestart.onStartup_of_clear _ _ _ _ _ hclear rfl)⟩

theorem shows_of_run_firewall :
    ∃ a', run (step takingDevice mgdServerJsd {} plainJsoncpp singleLineText) strayAgent
        [.restart [], .call (.addRequest true 1 { pathList := [{ path := "firewall" }] })] = some a' ∧
      Shows ({} : Fields).config a'.consolidator.sysHandle.device a'.consolidator.entry := by
  obtain ⟨s, hstart⟩ := exists_start_strayAgent
  let request : SubscriptionRequest := { pathList := [{ path := "firewall" }] }
  obtain ⟨a', hcall⟩ : ∃ a', step takingDevice mgdServerJsd {} plainJsoncpp singleLineText
      ⟨.new s, ()⟩ (.call (.addRequest true 1 request)) = some a' := ⟨_, rfl⟩
  have hrun := run_cons_eq_some.mpr ⟨_, hstart, run_cons_eq_some.mpr ⟨a', hcall, run_nil _ _⟩⟩
  refine ⟨a', hrun, shows_of_run plainJsoncpp_lawful plainJsoncpp_readsTemplates
    applies_takingDevice ⟨trivial, fun a₁ ha₁ => ?_⟩ hrun⟩
  obtain rfl := Option.some.inj (hstart.symm.trans ha₁)
  exact ⟨⟨⟨fun _ _ => AgentConsolidator.hasFree_new s, fun _ _ => trivial⟩, trivial⟩,
    fun _ _ => trivial⟩

end RunningAgent

end TelemetryAgent
