/-
  Runs of calls of the agent on the configuration server, each of which succeeds.

  `History` adds to the agent and its device what the calls so far should have left in the
  database: the configuration of the last `systemAdd` of an id, nothing once the id is removed
  or everything is cleared. `inSync_of_run_iff`: the database agrees with it at every point of a
  run exactly when the run only adds. A removal and a clear are sent with the update command,
  so the server stores them like a configuration.
-/
import TelemetryAgent.Lib.Run
import TelemetryAgent.Junos.RoundTrip

namespace TelemetryAgent

open Std TelemetryAgent.Lib

variable {ν : Type}

namespace AgentSystemProc

inductive Call where
  | systemAdd (id : Nat) (path : Path)
  | systemRemove (id : Nat) (path : Path)
  | systemClearAll
  deriving DecidableEq, Repr

def Call.isAdd : Call → Bool
  | .systemAdd _ _ => true
  | _ => false

/-- `added` is the configuration of the last addition of each id that is still there. -/
structure History where
  proc : AgentSystemProc (Option EphConfigDB)
  added : Nat → Option String

variable (config : GlobalConfig) (lib : Jsoncpp ν)

/-- What the call does to the ids that are there. -/
def record (added : Nat → Option String) : Call → Nat → Option String
  | .systemAdd id path => Function.update added id (junosConfigFor config lib true id path)
  | .systemRemove id _ => Function.update added id none
  | .systemClearAll => fun _ => none

def call (s : AgentSystemProc (Option EphConfigDB)) :
    Call → Option (Bool × AgentSystemProc (Option EphConfigDB))
  | .systemAdd id path => s.systemAdd mgdServerRpc config lib id path
  | .systemRemove id path => s.systemRemove mgdServerRpc config lib id path
  | .systemClearAll => some (s.systemClearAll mgdServerRpc config lib)

/-- One call that succeeds. -/
def succeed (h : History) (c : Call) : Option History :=
  match h.proc.call config lib c with
  | some (true, proc) => some { proc := proc, added := record config lib h.added c }
  | _ => none

/-- The keys are the ids that are there, each with its configuration. -/
def InSync (h : History) : Prop :=
  ∃ db, h.proc.device = some db ∧
    ∀ id, db[id]?.map (Option.map ConfigOperation.jsonConfig) = (h.added id).map some

variable {config lib} {h h' : History}

theorem succeed_eq_some {c : Call} (hs : succeed config lib h c = some h') :
    h.proc.call config lib c = some (true, h'.proc) ∧ h'.added = record config lib h.added c := by
  unfold succeed at hs
  split at hs
  · next heq =>
    rw [Option.some.injEq] at hs
    exact ⟨by rw [heq, ← hs], by rw [← hs]⟩
  · exact absurd hs (by simp)

/-- A call stores a configuration under its request id, whatever the call is. -/
theorem stored_of_succeed {c : Call} (hs : succeed config lib h c = some h') :
    ∃ db json, h.proc.device = some db ∧
      match c with
      | .systemAdd id path => junosConfigFor config lib true id path = some json ∧
          h'.proc.device = some (db.insert id (some (configOperation .updateConfig json)))
      | .systemRemove id _ =>
          h'.proc.device = some (db.insert id (some (configOperation .updateConfig json)))
      | .systemClearAll =>
          h'.proc.device = some (db.insert 0 (some (configOperation .updateConfig json))) := by
  obtain ⟨hcall, -⟩ := succeed_eq_some hs
  match c with
  | .systemAdd id path =>
    obtain ⟨-, json, db, hjson, hd, hd'⟩ := systemAdd_ok hcall
    exact ⟨db, json, hd, hjson, hd'⟩
  | .systemRemove id path =>
    obtain ⟨-, json, db, -, hd, hd'⟩ := systemRemove_ok hcall
    exact ⟨db, json, hd, hd'⟩
  | .systemClearAll =>
    obtain ⟨-, db, hd, hd'⟩ := systemClearAll_ok (Option.some.inj hcall)
    exact ⟨db, _, hd, hd'⟩

theorem inSync_of_add {c : Call} (hc : c.isAdd = true) (hs : succeed config lib h c = some h')
    (hi : InSync h) : InSync h' := by
  obtain ⟨db, json, hd, hst⟩ := stored_of_succeed hs
  obtain ⟨db', hd', hdb⟩ := hi
  obtain rfl : db = db' := Option.some.inj (hd.symm.trans hd')
  match c with
  | .systemAdd id path =>
    obtain ⟨hjson, hst⟩ := hst
    refine ⟨_, hst, fun i => ?_⟩
    rw [(succeed_eq_some hs).2, record, ExtTreeMap.getElem?_insert]
    by_cases hi : id = i
    · subst hi
      rw [Function.update_self, hjson, if_pos compare_self]
      rfl
    · rw [Function.update_of_ne (Ne.symm hi), if_neg (by simpa using hi), hdb]

theorem not_inSync_of_not_add {c : Call} (hc : c.isAdd = false)
    (hs : succeed config lib h c = some h') : ¬ InSync h' := by
  obtain ⟨db, json, hd, hst⟩ := stored_of_succeed hs
  rintro ⟨db', hd', hdb⟩
  match c with
  | .systemRemove id path =>
    obtain rfl := Option.some.inj (hst.symm.trans hd')
    have := hdb id
    rw [(succeed_eq_some hs).2, record, Function.update_self, ExtTreeMap.getElem?_insert_self] at this
    exact absurd this (by simp)
  | .systemClearAll =>
    obtain rfl := Option.some.inj (hst.symm.trans hd')
    have := hdb 0
    rw [(succeed_eq_some hs).2, record, ExtTreeMap.getElem?_insert_self] at this
    exact absurd this (by simp)

/-! ## Whole runs -/

/-- On a running server that accepts the user no call fails. -/
theorem exists_succeed (hl : lib.Lawful) (ht : JunosTelemetryJson.ReadsTemplates lib)
    (hp : LoginPasses config) {db : EphConfigDB} (hd : h.proc.device = some db) (c : Call) :
    ∃ h' db', succeed config lib h c = some h' ∧ h'.proc.device = some db' := by
  have hcall : ∃ s', h.proc.call config lib c = some (true, s') := by
    match c with
    | .systemAdd id path =>
      exact systemAdd_of_passes hp hd (generate_eq_tagged hl ht _ _ _ _ _ _)
    | .systemRemove id path =>
      exact systemRemove_of_passes hp hd (generate_eq_tagged hl ht _ _ _ _ _ _)
    | .systemClearAll =>
      obtain ⟨s', hs'⟩ := systemClearAll_of_passes lib hp hd
      exact ⟨s', congrArg some hs'⟩
  obtain ⟨s', hs'⟩ := hcall
  have hsucceed : succeed config lib h c =
      some { proc := s', added := record config lib h.added c } := by
    rw [succeed, hs']
  obtain ⟨db1, json, -, hst⟩ := stored_of_succeed hsucceed
  match c with
  | .systemAdd id path => exact ⟨_, _, hsucceed, hst.2⟩
  | .systemRemove id path => exact ⟨_, _, hsucceed, hst⟩
  | .systemClearAll => exact ⟨_, _, hsucceed, hst⟩

theorem exists_run (hl : lib.Lawful) (ht : JunosTelemetryJson.ReadsTemplates lib)
    (hp : LoginPasses config) (calls : List Call) {db : EphConfigDB}
    (hd : h.proc.device = some db) : ∃ h', run (succeed config lib) h calls = some h' := by
  induction calls generalizing h db with
  | nil => exact ⟨h, rfl⟩
  | cons c calls ih =>
    obtain ⟨h1, db1, hc, hd1⟩ := exists_succeed hl ht hp hd c
    obtain ⟨h', hrun⟩ := ih hd1
    exact ⟨h', run_cons_eq_some.mpr ⟨h1, hc, hrun⟩⟩

theorem inSync_of_run_iff (hi : InSync h) {calls : List Call}
    (hrun : run (succeed config lib) h calls = some h') :
    (∀ pre suf h1, calls = pre ++ suf → run (succeed config lib) h pre = some h1 → InSync h1) ↔
      ∀ c ∈ calls, c.isAdd = true := by
  constructor
  · intro hall c hc
    by_contra hadd
    obtain ⟨pre, suf, rfl⟩ := List.append_of_mem hc
    obtain ⟨h1, hpre, hsuf⟩ := run_append_eq_some.mp hrun
    obtain ⟨h2, hstep, -⟩ := run_cons_eq_some.mp hsuf
    have hrun2 : run (succeed config lib) h (pre ++ [c]) = some h2 :=
      run_append_eq_some.mpr ⟨h1, hpre, run_cons_eq_some.mpr ⟨h2, hstep, rfl⟩⟩
    exact not_inSync_of_not_add (by simpa using hadd) hstep
      (hall (pre ++ [c]) suf h2 (by simp) hrun2)
  · rintro hadd pre suf h1 rfl hpre
    have hmeets : Meets (succeed config lib) (fun _ c => c.isAdd = true) h pre :=
      meets_of_forall (fun c hc => hadd c (List.mem_append_left suf hc)) h
    exact run_invariant (fun _ _ _ hi hc hs => inSync_of_add hc hs hi) hi hmeets hpre

/-- Nothing has been added yet. -/
def freshHistory : History := { proc := freshProc, added := fun _ => none }

theorem inSync_freshHistory : InSync freshHistory :=
  ⟨∅, rfl, fun id => by rw [ExtTreeMap.getElem?_empty]; rfl⟩

theorem exists_run_freshHistory (calls : List Call) :
    ∃ h', run (succeed {} plainJsoncpp) freshHistory calls = some h' :=
  exists_run plainJsoncpp_lawful plainJsoncpp_readsTemplates (fun _ => ⟨rfl, rfl⟩) calls rfl

theorem inSync_of_run_iff_firewall :
    ∃ h', run (succeed {} plainJsoncpp) freshHistory
        [.systemAdd 1000 { path := "firewall" }, .systemAdd 1001 { path := "bgp" }] = some h' ∧
      InSync h' := by
  obtain ⟨h', hrun⟩ := exists_run_freshHistory
    [.systemAdd 1000 { path := "firewall" }, .systemAdd 1001 { path := "bgp" }]
  exact ⟨h', hrun, (inSync_of_run_iff inSync_freshHistory hrun).mpr (by decide) _ [] h'
    (List.append_nil _).symm hrun⟩

/-- A removed id keeps its key. -/
theorem not_inSync_removed :
    ∃ h', run (succeed {} plainJsoncpp) freshHistory
        [.systemAdd 1000 { path := "firewall" }, .systemRemove 1000 { path := "firewall" }] =
          some h' ∧
      ¬ InSync h' := by
  obtain ⟨h', hrun⟩ := exists_run_freshHistory
    [.systemAdd 1000 { path := "firewall" }, .systemRemove 1000 { path := "firewall" }]
  obtain ⟨h1, -, hrun1⟩ := run_cons_eq_some.mp hrun
  obtain ⟨h2, hremove, hnil⟩ := run_cons_eq_some.mp hrun1
  obtain rfl := Option.some.inj hnil
  exact ⟨h2, hrun, not_inSync_of_not_add rfl hremove⟩

end AgentSystemProc

end TelemetryAgent
