/-
  What `MgdServer::GetEphemeralConfig` (MgdServer.cpp) answers, in runs of edits and gets.

  For a request id that is no key it sets an answer, and then goes on to read through the null
  pointer that `eph_config_db[request_id]` has just stored. `answered_iff_meets`: every get of a
  run answers and leaves the database exactly if each asks for an id that is a key by then.
-/
import TelemetryAgent.Lib.Run
import TelemetryAgent.Junos.MgdServer

namespace TelemetryAgent

open Std Lib

namespace MgdServer

/-! ## Calls -/

inductive MgdCall
  | edit (request : EditEphemeralConfigRequest)
  | get (request : GetEphemeralConfigRequest)
  deriving DecidableEq, Repr

/-- The database after the call, if the process is still there. -/
def step (db : EphConfigDB) : MgdCall → Option EphConfigDB
  | .edit request => (editEphemeralConfig request db).map Prod.snd
  | .get request => (getEphemeralConfig request db).map Prod.snd

/-- The database with the given configurations, none of them null. -/
def pointers (content : ExtTreeMap Nat ConfigOperation) : EphConfigDB :=
  content.map fun _ cmd => some cmd

/-- The one element of the answer: the stored configuration with `SUCCESS`, or an empty value with
    `NOK` for an id that is no key. -/
structure AnswersElement (db : EphConfigDB) (id : Nat) (r : GetResponse) : Prop where
  stored : ∀ cmd, db[id]? = some (some cmd) → r.value = cmd.jsonConfig ∧ r.status = .success
  missing : id ∉ db → r.value = "" ∧ r.status = .nok

/-- The get answers, and leaves the database as it is. -/
def Answers (db : EphConfigDB) (request : GetEphemeralConfigRequest) : Prop :=
  ∃ response r, getEphemeralConfig request db = some (response, db) ∧
    response.requestId = request.requestId ∧ response.response = [r] ∧
    AnswersElement db request.requestId r

/-- Every get with at least one config request answers. -/
def Answered (db : EphConfigDB) : MgdCall → Prop
  | .edit _ => True
  | .get request => request.ephConfigRequests ≠ [] → Answers db request

/-- Every get with at least one config request asks for an id that is a key. -/
def KeyPresent (db : EphConfigDB) : MgdCall → Prop
  | .edit _ => True
  | .get request => request.ephConfigRequests ≠ [] → request.requestId ∈ db

/-! ## One call -/

/-- No key has a null pointer. -/
def NoNull (db : EphConfigDB) : Prop := ∀ id : Nat, db[id]? ≠ some none

theorem noNull_pointers (content : ExtTreeMap Nat ConfigOperation) :
    NoNull (pointers content) := by
  intro id h
  rw [pointers, ExtTreeMap.getElem?_map] at h
  obtain ⟨cmd, -, hcmd⟩ := Option.map_eq_some_iff.mp h
  exact Option.some_ne_none cmd hcmd

theorem noNull_insert {db : EphConfigDB} (h : NoNull db) (id : Nat) (cmd : ConfigOperation) :
    NoNull (db.insert id (some cmd)) := by
  intro k hk
  rw [ExtTreeMap.getElem?_insert] at hk
  split at hk
  · exact Option.some_ne_none cmd (Option.some.inj hk)
  · exact h k hk

theorem noNull_erase {db : EphConfigDB} (h : NoNull db) (id : Nat) : NoNull (db.erase id) := by
  intro k hk
  rw [ExtTreeMap.getElem?_erase] at hk
  split at hk
  · exact Option.some_ne_none _ hk.symm
  · exact h k hk

theorem noNull_edit {db db' : EphConfigDB} {request : EditEphemeralConfigRequest}
    (h : NoNull db) (hs : step db (.edit request) = some db') : NoNull db' := by
  obtain ⟨⟨response, db₁⟩, hedit, rfl⟩ := Option.map_eq_some_iff.mp hs
  obtain ⟨cmd, -, hedit⟩ := Option.bind_eq_some_iff.mp hedit
  obtain ⟨-, rfl⟩ := Prod.mk.inj (Option.some.inj hedit)
  split
  · exact noNull_insert h _ cmd
  · split
    · intro id hid
      rw [ExtTreeMap.getElem?_empty] at hid
      exact Option.some_ne_none _ hid.symm
    · exact noNull_erase h _

theorem get_of_stored {db : EphConfigDB} {request : GetEphemeralConfigRequest}
    {first : EphConfigRequestList} {rest : List EphConfigRequestList} {cmd : ConfigOperation}
    (hfirst : request.ephConfigRequests = first :: rest)
    (hcmd : db[request.requestId]? = some (some cmd)) :
    getEphemeralConfig request db = some
      ({ requestId := request.requestId
         response := [{ operationId := "0", path := first.path, value := cmd.jsonConfig,
                        status := .success, message := "Success" }] }, db) := by
  rw [getEphemeralConfig, hfirst, subscript, hcmd]
  rfl

/-- The null pointer is read. -/
theorem get_of_missing {db : EphConfigDB} {request : GetEphemeralConfigRequest}
    (h : request.requestId ∉ db) : getEphemeralConfig request db = none := by
  rw [getEphemeralConfig, subscript, ExtTreeMap.getElem?_eq_none h]
  cases request.ephConfigRequests with
  | nil => rfl
  | cons first rest => rfl

theorem exists_of_mem {db : EphConfigDB} (hdb : NoNull db) {id : Nat} (h : id ∈ db) :
    ∃ cmd, db[id]? = some (some cmd) := by
  obtain ⟨v, hv⟩ := Option.isSome_iff_exists.mp (ExtTreeMap.mem_iff_isSome_getElem?.mp h)
  cases v with
  | none => exact absurd hv (hdb id)
  | some cmd => exact ⟨cmd, hv⟩

theorem answered_iff {db : EphConfigDB} (hdb : NoNull db) (c : MgdCall) :
    Answered db c ↔ KeyPresent db c := by
  cases c with
  | edit request => exact Iff.rfl
  | get request =>
    refine forall_congr' fun hne => ?_
    constructor
    · rintro ⟨response, r, hget, -⟩
      refine Classical.not_not.mp fun hmissing => ?_
      rw [get_of_missing hmissing] at hget
      exact Option.some_ne_none _ hget.symm
    · intro hmem
      obtain ⟨first, rest, hfirst⟩ := List.exists_cons_of_ne_nil hne
      obtain ⟨cmd, hcmd⟩ := exists_of_mem hdb hmem
      refine ⟨_, _, get_of_stored hfirst hcmd, rfl, rfl, ?_, fun hn => absurd hmem hn⟩
      intro cmd' hcmd'
      obtain rfl := Option.some.inj (Option.some.inj (hcmd.symm.trans hcmd'))
      exact ⟨rfl, rfl⟩

/-- A call that leaves the process alive leaves no null pointer. -/
theorem noNull_step {db db' : EphConfigDB} {c : MgdCall} (h : NoNull db)
    (hs : step db c = some db') : NoNull db' := by
  cases c with
  | edit request => exact noNull_edit h hs
  | get request =>
    obtain ⟨⟨response, db₁⟩, hget, rfl⟩ := Option.map_eq_some_iff.mp hs
    by_cases hmem : request.requestId ∈ db
    · obtain ⟨cmd, hcmd⟩ := exists_of_mem h hmem
      cases hrequests : request.ephConfigRequests with
      | nil =>
        rw [getEphemeralConfig, hrequests] at hget
        exact absurd hget (Option.some_ne_none _).symm
      | cons first rest =>
        rw [get_of_stored hrequests hcmd, Option.some.injEq, Prod.mk.injEq] at hget
        exact hget.2 ▸ h
    · rw [get_of_missing hmem] at hget
      exact absurd hget (Option.some_ne_none _).symm

/-! ## Runs -/

/-- For every content of the database and every sequence of edits and gets: each get answers as
    it is to, with the database unchanged, exactly if each asks for an id that is a key when its
    turn comes. -/
theorem answered_iff_meets (content : ExtTreeMap Nat ConfigOperation) (calls : List MgdCall) :
    Meets step Answered (pointers content) calls ↔
      Meets step KeyPresent (pointers content) calls := by
  have hs : NoNull (pointers content) := noNull_pointers content
  constructor
  · exact Meets.imp (fun _ _ _ h _ => noNull_step h)
      (fun db c h => (answered_iff h c).mp) hs
  · exact Meets.imp (fun _ _ _ h _ => noNull_step h)
      (fun db c h => (answered_iff h c).mpr) hs

/-- A get of an id that was never stored. -/
theorem not_answered_missing : ¬ ∀ (content : ExtTreeMap Nat ConfigOperation)
    (calls : List MgdCall), Meets step Answered (pointers content) calls := by
  intro h
  let request : GetEphemeralConfigRequest :=
    { requestId := 5, ephConfigRequests := [{ operationId := "0", path := "/" }] }
  obtain ⟨hanswered, -⟩ := h ∅ [.get request]
  obtain ⟨response, r, hget, -⟩ := hanswered (by decide)
  have hmissing : getEphemeralConfig request (pointers ∅) = none := get_of_missing (by decide)
  rw [hmissing] at hget
  exact Option.some_ne_none _ hget.symm

end MgdServer

end TelemetryAgent
