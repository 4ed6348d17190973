/-
  `AgentSystemProc` in the Junos configuration build (AgentSystemProc.cpp): the system that
  configures a device over its management RPCs.

  A call that needs the device logs in first when the agent runs off the box. `none` is the end
  of the agent process: a failed assertion of `Json::Value`, an exception of `std::stoi`, an
  element of a reply that is not there, a document that does not parse and so has no sensor.
-/
import TelemetryAgent.GlobalConfig
import TelemetryAgent.AgentSystem
import TelemetryAgent.Junos.MgdServer
import TelemetryAgent.Junos.JunosTelemetryJsonGenerator

namespace TelemetryAgent

open TelemetryAgent.Lib JsonUtils JunosTelemetryJsonGenerator

variable {ν δ : Type}

/-- `device` is the state of the device. -/
structure AgentSystemProc (δ : Type) extends SystemCounts where
  authenticationFailure : Nat := 0
  device : δ

namespace AgentSystemProc

variable (dev : DeviceRpc δ) (config : GlobalConfig) (lib : Jsoncpp ν)

/-- `_authenticateChannel` -/
def authenticateChannel (s : AgentSystemProc δ) : Status × AgentSystemProc δ :=
  let request := { userName := config.deviceUserName, password := config.devicePassword }
  let ((status, reply), device) := dev.loginCheck request s.device
  let s := { s with device := device }
  if status.isOk && reply.result then (status, s)
  else (.cancelled, { s with authenticationFailure := s.authenticationFailure + 1 })

/-- The login that off-box mode requires. -/
def login (s : AgentSystemProc δ) : Status × AgentSystemProc δ :=
  if config.runningMode = .offBox then s.authenticateChannel dev config else (.ok, s)

def countError (s : AgentSystemProc δ) : AgentSystemProc δ :=
  { s with errorSystemCount := s.errorSystemCount + 1 }

/-- `_sendJunosMessagetoMgd` -/
def sendJunosMessagetoMgd (s : AgentSystemProc δ) (json : String) (id : Nat)
    (cmdcode : ConfigCommands) : Status × AgentSystemProc δ :=
  let (status, s) := s.login dev config
  if !status.isOk then (status, s)
  else
    let cmd := { operationId := "0", operation := cmdcode, path := "/", jsonConfig := json }
    let ((status, response), device) :=
      dev.editEphemeralConfig { requestId := id, ephConfigOperations := [cmd] } s.device
    let s := { s with device := device }
    if !status.isOk then (status, s.countError)
    else
      match response.response with
      | [] => (.unknown, s.countError)
      | first :: _ => if first.status ≠ .success then (.unknown, s.countError) else (status, s)

/-- The configuration for the id of a call, which converts to 32 bits. -/
def junosConfigFor (add : Bool) (id : Nat) (requestPath : Path) : Option String :=
  generateJsonJunosConfig lib add config.udpServerModule config.udpServerIp
    (config.udpServerPort % 2 ^ 32).toNat (id % 2 ^ 32) requestPath

def systemAdd (s : AgentSystemProc δ) (id : Nat) (requestPath : Path) :
    Option (Bool × AgentSystemProc δ) := do
  let json ← junosConfigFor config lib true id requestPath
  let (status, s) := s.sendJunosMessagetoMgd dev config json id .updateConfig
  if status.isOk then some (true, { s with addSystemCount := s.addSystemCount + 1 })
  else some (false, s)

def systemRemove (s : AgentSystemProc δ) (id : Nat) (requestPath : Path) :
    Option (Bool × AgentSystemProc δ) := do
  let json ← junosConfigFor config lib false id requestPath
  let (status, s) := s.sendJunosMessagetoMgd dev config json id .updateConfig
  -- the source counts a removal as an addition
  if status.isOk then some (true, { s with addSystemCount := s.addSystemCount + 1 })
  else some (false, s)

def systemClearAll (s : AgentSystemProc δ) : Bool × AgentSystemProc δ :=
  let json := generateJsonClearAllJunosConfig lib
  let (status, s) := s.sendJunosMessagetoMgd dev config json 0 .updateConfig
  (status.isOk, s)

/-- The two special tags are removed wherever they stand. -/
def stripTags (s : String) : String :=
  AgentUtils.searchNReplaceString (AgentUtils.searchNReplaceString s "<configuration-json>" "")
    "</configuration-json>" ""

/-- The string at a key of the first sensor. -/
def sensorString (json : Json ν) (key : String) : Option (List Char) := do
  let json ← json.key "configuration"
  let json ← json.key "services"
  let json ← json.key "analytics"
  let json ← json.key "sensor"
  let json ← json.idx 0
  let json ← json.key key
  -- the string is assigned through `asCString`
  json.str?.map fun s => cString s.toList

/-- The `Path` that the configuration in a reply stands for. -/
def pathOfConfig (value : String) : Option Path := do
  let json ← parseStringToJsonObj lib (stripTags value)
  let pathStr ← sensorString json "resource"
  let sampleFrequency ← (← sensorString json "reporting-rate") |> stoi
  some { path := .ofList pathStr, sampleFrequency := .ofInt sampleFrequency }

/-- The inner `none` is the null pointer. -/
def systemGet (s : AgentSystemProc δ) (id : Nat) :
    Option (Option Path × AgentSystemProc δ) := do
  let (status, s) := s.login dev config
  if !status.isOk then some (none, s)
  else
    let request := { operationId := "0", path := "/" }
    let ((_, response), device) :=
      dev.getEphemeralConfig { requestId := id, ephConfigRequests := [request] } s.device
    let s := { s with device := device }
    if response.requestId ≠ id then some (none, s)
    else
      let first ← response.response.head?
      if first.path ≠ "/" then some (none, s)
      else
        let path ← pathOfConfig lib first.value
        some (some path, s)

/-! ## On the configuration server -/

/-- The server accepts the configured user when a login is needed. -/
def LoginPasses : Prop :=
  config.runningMode = .offBox →
    config.deviceUserName = "regress" ∧ config.devicePassword = "MaRtInI"

variable {config} {s s' : AgentSystemProc (Option EphConfigDB)} {status : Status}

/-- A login that succeeds changes nothing. -/
theorem login_ok (h : s.login mgdServerRpc config = (status, s')) (hok : status.isOk = true) :
    LoginPasses config ∧ s' = s := by
  unfold login at h
  by_cases hmode : config.runningMode = .offBox
  · rw [if_pos hmode, authenticateChannel] at h
    match hd : s.device with
    | none =>
      simp only [mgdServerRpc, hd, Status.isOk_unavailable, Bool.false_and, Bool.false_eq_true,
        if_false, Prod.mk.injEq] at h
      rw [← h.1] at hok
      exact absurd hok (by decide)
    | some db =>
      by_cases hlogin : config.deviceUserName = "regress" ∧ config.devicePassword = "MaRtInI"
      · simp only [mgdServerRpc, hd, LoginServer.loginCheck, if_pos hlogin, Status.isOk_ok,
          Bool.and_self, if_true, Prod.mk.injEq] at h
        obtain ⟨-, rfl⟩ := h
        exact ⟨fun _ => hlogin, by rw [← hd]⟩
      · simp only [mgdServerRpc, hd, LoginServer.loginCheck, if_neg hlogin, Status.isOk_cancelled,
          Bool.and_self, Bool.false_eq_true, if_false, Prod.mk.injEq] at h
        rw [← h.1] at hok
        exact absurd hok (by decide)
  · rw [if_neg hmode] at h
    obtain ⟨rfl, rfl⟩ := Prod.mk.inj h
    exact ⟨fun he => absurd he hmode, rfl⟩

theorem login_of_passes (hp : LoginPasses config) {db : EphConfigDB} (hd : s.device = some db) :
    s.login mgdServerRpc config = (.ok, s) := by
  unfold login
  split_ifs with hmode
  · simp only [authenticateChannel, mgdServerRpc, hd, LoginServer.loginCheck, if_pos (hp hmode),
      Status.isOk_ok, Bool.and_self, if_true]
    rw [← hd]
  · rfl

/-- The operation that carries a configuration. -/
def configOperation (cmdcode : ConfigCommands) (json : String) : ConfigOperation :=
  { operationId := "0", operation := cmdcode, path := "/", jsonConfig := json }

/-- A message that succeeds has been stored under its request id. -/
theorem send_ok {json : String} {id : Nat}
    (h : s.sendJunosMessagetoMgd mgdServerRpc config json id .updateConfig = (status, s'))
    (hok : status.isOk = true) :
    LoginPasses config ∧ ∃ db, s.device = some db ∧
      s' = { s with device := some (db.insert id (some (configOperation .updateConfig json))) } := by
  unfold sendJunosMessagetoMgd at h
  match hlogin : s.login mgdServerRpc config with
  | (st, s1) =>
    simp only [hlogin] at h
    by_cases hst : st.isOk = true
    · obtain ⟨hp, rfl⟩ := login_ok hlogin hst
      refine ⟨hp, ?_⟩
      match hd : s1.device with
      | none =>
        simp only [hst, mgdServerRpc, hd, Option.bind_none, Status.isOk_unavailable, Bool.not_true,
          Bool.not_false, Bool.false_eq_true, if_true, if_false, Prod.mk.injEq] at h
        rw [← h.1] at hok
        exact absurd hok (by decide)
      | some db =>
        simp only [hst, mgdServerRpc, hd, Option.bind_some, MgdServer.editEphemeralConfig,
          List.head?_cons, Option.bind_eq_bind, true_or, Status.isOk_ok, Bool.not_true,
          Bool.false_eq_true, if_true, if_false, ne_eq, not_true_eq_false, Prod.mk.injEq] at h
        exact ⟨db, rfl, h.2.symm⟩
    · rw [if_pos (by simpa using hst)] at h
      obtain ⟨rfl, -⟩ := Prod.mk.inj h
      exact absurd hok hst

variable {lib : Jsoncpp ν} {id : Nat} {path : Path}

/-- The request that `systemAdd` and `systemRemove` make, each with its own configuration. -/
theorem configRequest_ok {add : Bool}
    (h : (do
      let json ← junosConfigFor config lib add id path
      let (status, s) := s.sendJunosMessagetoMgd mgdServerRpc config json id .updateConfig
      if status.isOk then some (true, { s with addSystemCount := s.addSystemCount + 1 })
      else some (false, s)) = some (true, s')) :
    LoginPasses config ∧ ∃ json db, junosConfigFor config lib add id path = some json ∧
      s.device = some db ∧
      s'.device = some (db.insert id (some (configOperation .updateConfig json))) := by
  obtain ⟨json, hjson, h⟩ := Option.bind_eq_some_iff.mp h
  match hsend : s.sendJunosMessagetoMgd mgdServerRpc config json id .updateConfig with
  | (status, s1) =>
    simp only [hsend] at h
    split_ifs at h with hok
    · obtain ⟨hp, db, hd, rfl⟩ := send_ok hsend hok
      obtain ⟨-, rfl⟩ := Prod.mk.inj (Option.some.inj h)
      exact ⟨hp, json, db, hjson, hd, rfl⟩
    · simp at h

theorem systemAdd_ok (h : s.systemAdd mgdServerRpc config lib id path = some (true, s')) :
    LoginPasses config ∧ ∃ json db, junosConfigFor config lib true id path = some json ∧
      s.device = some db ∧
      s'.device = some (db.insert id (some (configOperation .updateConfig json))) :=
  configRequest_ok h

theorem systemRemove_ok (h : s.systemRemove mgdServerRpc config lib id path = some (true, s')) :
    LoginPasses config ∧ ∃ json db, junosConfigFor config lib false id path = some json ∧
      s.device = some db ∧
      s'.device = some (db.insert id (some (configOperation .updateConfig json))) :=
  configRequest_ok h

theorem systemClearAll_ok (h : s.systemClearAll mgdServerRpc config lib = (true, s')) :
    LoginPasses config ∧ ∃ db, s.device = some db ∧
      s'.device = some (db.insert 0
        (some (configOperation .updateConfig (generateJsonClearAllJunosConfig lib)))) := by
  match hsend : s.sendJunosMessagetoMgd mgdServerRpc config (generateJsonClearAllJunosConfig lib) 0
      .updateConfig with
  | (status, s1) =>
    simp only [systemClearAll, hsend, Prod.mk.injEq] at h
    obtain ⟨hp, db, hd, rfl⟩ := send_ok hsend h.1
    exact ⟨hp, db, hd, by rw [← h.2]⟩

theorem send_of_passes (hp : LoginPasses config) {db : EphConfigDB} (hd : s.device = some db)
    (json : String) (id : Nat) :
    s.sendJunosMessagetoMgd mgdServerRpc config json id .updateConfig =
      (.ok, { s with
        device := some (db.insert id (some (configOperation .updateConfig json))) }) := by
  rw [sendJunosMessagetoMgd, login_of_passes hp hd]
  simp only [mgdServerRpc, hd, MgdServer.editEphemeralConfig, List.head?_cons,
    Option.bind_eq_bind, Option.bind_some, Status.isOk_ok, Bool.not_true, Bool.false_eq_true,
    true_or, if_true, if_false, ne_eq, not_true_eq_false, configOperation]

theorem systemAdd_of_passes (hp : LoginPasses config) {db : EphConfigDB}
    (hd : s.device = some db) {json : String}
    (hjson : junosConfigFor config lib true id path = some json) :
    ∃ s', s.systemAdd mgdServerRpc config lib id path = some (true, s') := by
  rw [systemAdd, hjson, Option.bind_eq_bind, Option.bind_some, send_of_passes hp hd]
  exact ⟨_, rfl⟩

theorem systemRemove_of_passes (hp : LoginPasses config) {db : EphConfigDB}
    (hd : s.device = some db) {json : String}
    (hjson : junosConfigFor config lib false id path = some json) :
    ∃ s', s.systemRemove mgdServerRpc config lib id path = some (true, s') := by
  rw [systemRemove, hjson, Option.bind_eq_bind, Option.bind_some, send_of_passes hp hd]
  exact ⟨_, rfl⟩

variable (lib) in
theorem systemClearAll_of_passes (hp : LoginPasses config) {db : EphConfigDB}
    (hd : s.device = some db) :
    ∃ s', s.systemClearAll mgdServerRpc config lib = (true, s') := by
  rw [systemClearAll, send_of_passes hp hd]
  exact ⟨_, rfl⟩

/-- What `systemGet` answers for an id whose configuration is stored. -/
theorem systemGet_of_stored (hp : LoginPasses config) {db : EphConfigDB}
    (hd : s.device = some db) {cmdcode : ConfigCommands} {json : String}
    (hid : db[id]? = some (some (configOperation cmdcode json))) :
    s.systemGet mgdServerRpc config lib id =
      (pathOfConfig lib json).map fun path => (some path, s) := by
  rw [systemGet, login_of_passes hp hd]
  simp only [mgdServerRpc, hd, MgdServer.getEphemeralConfig, MgdServer.subscript, hid,
    configOperation, List.head?_cons, Option.bind_eq_bind, Option.bind_some, Status.isOk_ok,
    Bool.not_true, Bool.false_eq_true, if_false, ne_eq, not_true_eq_false]
  cases pathOfConfig lib json with
  | none => rfl
  | some path => rw [Option.bind_some, Option.map_some, ← hd]

end AgentSystemProc

end TelemetryAgent
