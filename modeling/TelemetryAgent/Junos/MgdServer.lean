/-
  `MgdServer` and `LoginServer` (MgdServer.cpp), and the RPCs of the device seen from the
  agent.

  The configuration of each request is held in `eph_config_db` under its request id; the value
  of the map is a pointer and `none` is the null pointer. A handler that reads an element
  that is not there, or through the null pointer, ends the process.

  `DeviceRpc` is what the agent calls. It may be anything; `mgdServerRpc` is this server behind a
  channel that delivers every call.
-/
import Std.Data.ExtTreeMap

namespace TelemetryAgent

open Std

/-- `grpc::Status` -/
structure Status where
  errorCode : Nat
  deriving DecidableEq, Repr

namespace Status

def ok : Status := ⟨0⟩
def cancelled : Status := ⟨1⟩
def unknown : Status := ⟨2⟩
def unavailable : Status := ⟨14⟩

def isOk (s : Status) : Bool := s.errorCode = 0

@[simp] theorem isOk_ok : ok.isOk = true := rfl
@[simp] theorem isOk_cancelled : cancelled.isOk = false := rfl
@[simp] theorem isOk_unknown : unknown.isOk = false := rfl
@[simp] theorem isOk_unavailable : unavailable.isOk = false := rfl

end Status

/-! ## The messages -/

/-- `ConfigCommands` -/
inductive ConfigCommands where
  | updateConfig
  | replaceConfig
  | deleteConfig
  deriving DecidableEq, Repr

/-- `JunosRpcResponseTypes` -/
inductive JunosRpcResponseTypes where
  | success
  | nok
  | unsupportedPath
  | invalidPath
  | invalidConfiguration
  | unsupportedEncoding
  deriving DecidableEq, Repr

/-- `EditEphemeralConfigRequest::ConfigOperationList` -/
structure ConfigOperation where
  operationId : String
  operation : ConfigCommands
  path : String
  jsonConfig : String
  deriving DecidableEq, Repr

structure EditEphemeralConfigRequest where
  requestId : Nat
  ephConfigOperations : List ConfigOperation
  deriving DecidableEq, Repr

/-- `EditEphemeralConfigResponse::ResponseList` -/
structure EditResponse where
  operationId : String
  status : JunosRpcResponseTypes
  message : String
  deriving DecidableEq, Repr

structure EditEphemeralConfigResponse where
  requestId : Nat := 0
  response : List EditResponse := []
  deriving DecidableEq, Repr

structure EphConfigRequestList where
  operationId : String
  path : String
  deriving DecidableEq, Repr

structure GetEphemeralConfigRequest where
  requestId : Nat
  ephConfigRequests : List EphConfigRequestList
  deriving DecidableEq, Repr

/-- `GetEphemeralConfigResponse::ResponseList` -/
structure GetResponse where
  operationId : String
  path : String
  value : String
  status : JunosRpcResponseTypes
  message : String
  deriving DecidableEq, Repr

structure GetEphemeralConfigResponse where
  requestId : Nat := 0
  response : List GetResponse := []
  deriving DecidableEq, Repr

structure LoginRequest where
  userName : String
  password : String
  deriving DecidableEq, Repr

structure LoginReply where
  result : Bool := false
  deriving DecidableEq, Repr

/-! ## The server -/

abbrev EphConfigDB := ExtTreeMap Nat (Option ConfigOperation)

namespace MgdServer

/-- `none` is the end of the process. -/
def editEphemeralConfig (request : EditEphemeralConfigRequest) (db : EphConfigDB) :
    Option (EditEphemeralConfigResponse × EphConfigDB) := do
  let cmd ← request.ephConfigOperations.head?
  let db :=
    if cmd.operation = .updateConfig ∨ cmd.operation = .replaceConfig then
      db.insert request.requestId (some cmd)
    else if request.requestId = 0 then ∅
    else db.erase request.requestId
  let response := { operationId := cmd.operationId, status := .success, message := "Success" }
  some ({ requestId := request.requestId, response := [response] }, db)

/-- The subscript of `std::map`: a missing key is stored with a null pointer. -/
def subscript (db : EphConfigDB) (id : Nat) : Option ConfigOperation × EphConfigDB :=
  match db[id]? with
  | some cmd => (cmd, db)
  | none => (none, db.insert id none)

def getEphemeralConfig (request : GetEphemeralConfigRequest) (db : EphConfigDB) :
    Option (GetEphemeralConfigResponse × EphConfigDB) := do
  let first ← request.ephConfigRequests.head?
  -- the answer prepared for a missing request id is written over below
  let (cmd, db) := subscript db request.requestId
  let cmd ← cmd
  let response :=
    { operationId := "0", path := first.path, value := cmd.jsonConfig, status := .success,
      message := "Success" }
  some ({ requestId := request.requestId, response := [response] }, db)

end MgdServer

def LoginServer.loginCheck (request : LoginRequest) : Status × LoginReply :=
  if request.userName = "regress" ∧ request.password = "MaRtInI" then (.ok, { result := true })
  else (.cancelled, { result := false })

/-! ## The device -/

/-- The RPCs that the agent makes, with the state `δ` behind them. -/
structure DeviceRpc (δ : Type) where
  loginCheck : LoginRequest → δ → (Status × LoginReply) × δ
  editEphemeralConfig : EditEphemeralConfigRequest → δ → (Status × EditEphemeralConfigResponse) × δ
  getEphemeralConfig : GetEphemeralConfigRequest → δ → (Status × GetEphemeralConfigResponse) × δ

/-- A process that has ended (`none`) answers no call. -/
def mgdServerRpc : DeviceRpc (Option EphConfigDB) where
  loginCheck request := fun
    | none => ((.unavailable, {}), none)
    | some db => (LoginServer.loginCheck request, some db)
  editEphemeralConfig request db :=
    match db.bind (MgdServer.editEphemeralConfig request) with
    | none => ((.unavailable, {}), none)
    | some (response, db) => ((.ok, response), some db)
  getEphemeralConfig request db :=
    match db.bind (MgdServer.getEphemeralConfig request) with
    | none => ((.unavailable, {}), none)
    | some (response, db) => ((.ok, response), some db)

end TelemetryAgent
