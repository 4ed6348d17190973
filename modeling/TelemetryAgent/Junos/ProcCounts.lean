/-
  The counters of `AgentSystemProc` (AgentSystemProc.cpp) against what its calls return.

  `Accepts` is what the login and the RPC that edits the configuration must answer for a call to
  return true; otherwise the call returns false, and exactly one of the counters of errors and of
  failed logins grows. `counted_iff_meets`: the counters are right in every state of a run exactly
  if the device accepts no removal, for one that it accepts is counted as an addition.
-/
import TelemetryAgent.Lib.Run
import TelemetryAgent.Junos.RoundTrip

namespace TelemetryAgent

open Lib

variable {ν δ : Type}

namespace AgentSystemProc

variable (dev : DeviceRpc δ) (config : GlobalConfig) (lib : Jsoncpp ν)

/-! ## What the device answers -/

/-- The answer to the login, and the device after it. -/
def loginAnswer (device : δ) : (Status × LoginReply) × δ :=
  dev.loginCheck { userName := config.deviceUserName, password := config.devicePassword } device

/-- Off the box the login is answered with success and a true result. -/
def LoginAccepted (device : δ) : Prop :=
  config.runningMode = .offBox →
    (loginAnswer dev config device).1.1.isOk = true ∧
      (loginAnswer dev config device).1.2.result = true

def deviceAfterLogin (device : δ) : δ :=
  if config.runningMode = .offBox then (loginAnswer dev config device).2 else device

/-- The answer to the edit, once the login is accepted. -/
def editAnswer (json : String) (id : Nat) (device : δ) :
    (Status × EditEphemeralConfigResponse) × δ :=
  dev.editEphemeralConfig
    { requestId := id, ephConfigOperations := [configOperation .updateConfig json] }
    (deviceAfterLogin dev config device)

/-- The answer is a success, with a first element that says so. -/
def EditAccepted (json : String) (id : Nat) (device : δ) : Prop :=
  (editAnswer dev config json id device).1.1.isOk = true ∧
    ∃ first rest, (editAnswer dev config json id device).1.2.response = first :: rest ∧
      first.status = .success

def Accepts (json : String) (id : Nat) (device : δ) : Prop :=
  LoginAccepted dev config device ∧ EditAccepted dev config json id device

/-! ## One call -/

/-- The failures that the calls are counted as. -/
def failures (s : AgentSystemProc δ) : Nat := s.errorSystemCount + s.authenticationFailure

/-- One more failure is counted, and nothing else is. -/
structure CountsFailure (s s' : AgentSystemProc δ) : Prop where
  addSystemCount : s'.addSystemCount = s.addSystemCount
  removeSystemCount : s'.removeSystemCount = s.removeSystemCount
  failures : s'.failures = s.failures + 1

variable {dev config lib}

theorem login_accepted {s : AgentSystemProc δ} (h : LoginAccepted dev config s.device) :
    ∃ status, s.login dev config =
      (status, { s with device := deviceAfterLogin dev config s.device }) ∧
      status.isOk = true := by
  unfold login deviceAfterLogin
  by_cases hmode : config.runningMode = .offBox
  · obtain ⟨hok, hresult⟩ := h hmode
    refine ⟨(loginAnswer dev config s.device).1.1, ?_, hok⟩
    rw [if_pos hmode, if_pos hmode, authenticateChannel]
    unfold loginAnswer at hok hresult ⊢
    simp only [hok, hresult, Bool.and_self, if_true]
  · refine ⟨.ok, ?_, rfl⟩
    rw [if_neg hmode, if_neg hmode]

theorem login_refused {s : AgentSystemProc δ} (h : ¬ LoginAccepted dev config s.device) :
    ∃ s', s.login dev config = (.cancelled, s') ∧ CountsFailure s s' := by
  unfold LoginAccepted at h
  rw [Classical.not_imp] at h
  obtain ⟨hmode, hrefused⟩ := h
  refine ⟨{ s with
    device := (loginAnswer dev config s.device).2
    authenticationFailure := s.authenticationFailure + 1 }, ?_, rfl, rfl, ?_⟩
  · rw [login, if_pos hmode, authenticateChannel]
    unfold loginAnswer at hrefused ⊢
    simp only [Bool.and_eq_true, hrefused, if_false]
  · exact (Nat.add_assoc _ _ _).symm

theorem send_accepted {s : AgentSystemProc δ} {json : String} {id : Nat}
    (h : Accepts dev config json id s.device) :
    ∃ status device, s.sendJunosMessagetoMgd dev config json id .updateConfig =
      (status, { s with device := device }) ∧ status.isOk = true := by
  obtain ⟨hlogin, hok, first, rest, hresponse, hfirst⟩ := h
  obtain ⟨status, hs, hstatus⟩ := login_accepted hlogin
  refine ⟨(editAnswer dev config json id s.device).1.1, (editAnswer dev config json id s.device).2,
    ?_, hok⟩
  rw [sendJunosMessagetoMgd, hs]
  unfold editAnswer configOperation at hok hresponse ⊢
  simp only [hstatus, hok, hresponse, hfirst, Bool.not_true, Bool.false_eq_true, if_false, ne_eq,
    not_true_eq_false]

theorem countsFailure_countError (s : AgentSystemProc δ) (device : δ) :
    CountsFailure s ({ s with device := device } : AgentSystemProc δ).countError where
  addSystemCount := rfl
  removeSystemCount := rfl
  failures := Nat.add_right_comm _ _ _

/-- A message that is not accepted is one failure. -/
theorem send_refused {s : AgentSystemProc δ} {json : String} {id : Nat}
    (h : ¬ Accepts dev config json id s.device) :
    ∃ status s', s.sendJunosMessagetoMgd dev config json id .updateConfig = (status, s') ∧
      status.isOk = false ∧ CountsFailure s s' := by
  by_cases hlogin : LoginAccepted dev config s.device
  · obtain ⟨status, hs, hstatus⟩ := login_accepted hlogin
    have hedit : ¬ EditAccepted dev config json id s.device := fun he => h ⟨hlogin, he⟩
    have hcount := countsFailure_countError s (editAnswer dev config json id s.device).2
    rw [sendJunosMessagetoMgd, hs]
    unfold EditAccepted at hedit
    unfold editAnswer configOperation at hedit hcount
    simp only [hstatus, Bool.not_true, Bool.false_eq_true, if_false]
    by_cases hok : (dev.editEphemeralConfig
        { requestId := id, ephConfigOperations :=
          [{ operationId := "0", operation := .updateConfig, path := "/", jsonConfig := json }] }
        (deviceAfterLogin dev config s.device)).1.1.isOk = true
    · simp only [hok, true_and, Bool.not_true, Bool.false_eq_true, if_false] at hedit ⊢
      split
      · exact ⟨.unknown, _, rfl, rfl, hcount⟩
      · next first rest hresponse =>
        have hfirst : first.status ≠ .success := fun he => hedit ⟨first, rest, hresponse, he⟩
        rw [if_pos hfirst]
        exact ⟨.unknown, _, rfl, rfl, hcount⟩
    · rw [Bool.not_eq_true] at hok
      simp only [hok, Bool.not_false, if_true]
      exact ⟨_, _, rfl, hok, hcount⟩
  · obtain ⟨s', hs, hcount⟩ := login_refused hlogin
    refine ⟨.cancelled, s', ?_, rfl, hcount⟩
    rw [sendJunosMessagetoMgd, hs]
    rfl

/-- What a call returns and counts. An accepted configuration is counted as an addition in
    both calls, so the request is the one of `configRequest_ok`. -/
theorem configRequest_cases {s s' : AgentSystemProc δ} {add : Bool} {id : Nat} {path : Path}
    {result : Bool}
    (h : (do
      let json ← junosConfigFor config lib add id path
      let (status, s) := s.sendJunosMessagetoMgd dev config json id .updateConfig
      if status.isOk then some (true, { s with addSystemCount := s.addSystemCount + 1 })
      else some (false, s)) = some (result, s')) :
    ∃ json, junosConfigFor config lib add id path = some json ∧
      ((Accepts dev config json id s.device ∧ result = true ∧ ∃ device,
          s' = { s with device := device, addSystemCount := s.addSystemCount + 1 }) ∨
        (¬ Accepts dev config json id s.device ∧ result = false ∧ CountsFailure s s')) := by
  obtain ⟨json, hjson, h⟩ := Option.bind_eq_some_iff.mp h
  refine ⟨json, hjson, ?_⟩
  by_cases ha : Accepts dev config json id s.device
  · obtain ⟨status, device, hsend, hok⟩ := send_accepted ha
    simp only [hsend, hok, if_true, Option.some.injEq, Prod.mk.injEq] at h
    exact .inl ⟨ha, h.1.symm, device, h.2.symm⟩
  · obtain ⟨status, s₁, hsend, hok, hcount⟩ := send_refused ha
    simp only [hsend, hok, Bool.false_eq_true, if_false, Option.some.injEq, Prod.mk.injEq] at h
    obtain ⟨rfl, rfl⟩ := h
    exact .inr ⟨ha, rfl, hcount⟩

/-! ## Calls and what they returned -/

inductive ProcCall
  | systemAdd (id : Nat) (path : Path)
  | systemRemove (id : Nat) (path : Path)
  deriving DecidableEq, Repr

/-- The agent, with the calls so far by what they returned. -/
structure Tally (δ : Type) where
  proc : AgentSystemProc δ
  added : Nat := 0
  removed : Nat := 0
  failed : Nat := 0

namespace Tally

/-- The tally after a call that returned `result`. -/
def record (s : Tally δ) (c : ProcCall) (result : Bool) (proc : AgentSystemProc δ) : Tally δ :=
  match c, result with
  | .systemAdd _ _, true => { s with proc := proc, added := s.added + 1 }
  | .systemRemove _ _, true => { s with proc := proc, removed := s.removed + 1 }
  | _, false => { s with proc := proc, failed := s.failed + 1 }

variable (dev config lib)

def call (s : AgentSystemProc δ) : ProcCall → Option (Bool × AgentSystemProc δ)
  | .systemAdd id path => s.systemAdd dev config lib id path
  | .systemRemove id path => s.systemRemove dev config lib id path

def step (s : Tally δ) (c : ProcCall) : Option (Tally δ) :=
  (call dev config lib s.proc c).map fun (result, proc) => s.record c result proc

/-- The counters are the calls that returned true, and the failures those that returned
    false. -/
structure Right (s : Tally δ) : Prop where
  added : s.proc.addSystemCount = s.added
  removed : s.proc.removeSystemCount = s.removed
  failed : s.proc.errorSystemCount + s.proc.authenticationFailure = s.failed

/-- If the call is a removal, then the device does not accept its configuration. -/
def NotAccepted (s : Tally δ) : ProcCall → Prop
  | .systemAdd _ _ => True
  | .systemRemove id path => ∀ json, junosConfigFor config lib false id path = some json →
    ¬ Accepts dev config json id s.proc.device

variable {dev config lib} {s s' : Tally δ}

theorem right_of_countsFailure {proc : AgentSystemProc δ} (hs : Right s)
    (h : CountsFailure s.proc proc) : Right { s with proc := proc, failed := s.failed + 1 } where
  added := h.addSystemCount.trans hs.added
  removed := h.removeSystemCount.trans hs.removed
  failed := h.failures.trans (congrArg (· + 1) hs.failed)

theorem right_step {c : ProcCall} (hs : Right s) (hc : NotAccepted dev config lib s c)
    (h : step dev config lib s c = some s') : Right s' := by
  obtain ⟨⟨result, proc⟩, hcall, rfl⟩ := Option.map_eq_some_iff.mp h
  cases c with
  | systemAdd id path =>
    obtain ⟨json, -, ⟨-, rfl, device, rfl⟩ | ⟨-, rfl, hcount⟩⟩ := configRequest_cases hcall
    · exact ⟨congrArg (· + 1) hs.added, hs.removed, hs.failed⟩
    · exact right_of_countsFailure hs hcount
  | systemRemove id path =>
    obtain ⟨json, hjson, ⟨ha, -⟩ | ⟨-, rfl, hcount⟩⟩ := configRequest_cases hcall
    · exact absurd ha (hc json hjson)
    · exact right_of_countsFailure hs hcount

/-- A removal that returns true is counted as an addition. -/
theorem not_right_of_removed {id : Nat} {path : Path} {proc : AgentSystemProc δ} (hs : Right s)
    (h : s.proc.systemRemove dev config lib id path = some (true, proc)) :
    ¬ Right (s.record (.systemRemove id path) true proc) := by
  intro hs'
  obtain ⟨-, -, ⟨-, -, device, rfl⟩ | ⟨-, hresult, -⟩⟩ := configRequest_cases h
  · have hadded : s.proc.addSystemCount + 1 = s.added := hs'.added
    rw [hs.added] at hadded
    exact absurd hadded (Nat.succ_ne_self _)
  · exact absurd hresult (by simp)

theorem notAccepted_of_right {c : ProcCall} (hs : Right s)
    (h : step dev config lib s c = some s') (hs' : Right s') :
    NotAccepted dev config lib s c := by
  obtain ⟨⟨result, proc⟩, hcall, rfl⟩ := Option.map_eq_some_iff.mp h
  cases c with
  | systemAdd id path => trivial
  | systemRemove id path =>
    intro json hjson ha
    obtain ⟨json', hjson', ⟨-, rfl, -⟩ | ⟨hn, -⟩⟩ := configRequest_cases hcall
    · exact not_right_of_removed hs hcall hs'
    · rw [hjson, Option.some.injEq] at hjson'
      exact hn (hjson' ▸ ha)

/-- A call that does not return, because its configuration cannot be made, is not accepted. -/
theorem notAccepted_of_step_eq_none {c : ProcCall} (h : step dev config lib s c = none) :
    NotAccepted dev config lib s c := by
  cases c with
  | systemAdd id path => trivial
  | systemRemove id path =>
    intro json hjson
    rw [step, Option.map_eq_none_iff, call, systemRemove, hjson, Option.bind_eq_bind,
      Option.bind_some] at h
    split at h
    split at h
    · exact absurd h (Option.some_ne_none _)
    · exact absurd h (Option.some_ne_none _)

/-- No call has been made yet. -/
def start (device : δ) : Tally δ := { proc := { device := device } }

variable (dev config lib)

/-- For every device, whatever it answers, and every sequence of calls: the counters are right in
    every state reached exactly if the device never accepts the configuration of a removal. -/
theorem counted_iff_meets (device : δ) (calls : List ProcCall) :
    (∀ pre suf t, calls = pre ++ suf →
        run (step dev config lib) (start device) pre = some t → Right t) ↔
      Meets (step dev config lib) (NotAccepted dev config lib) (start device) calls := by
  have hs : Right (start device) := ⟨rfl, rfl, rfl⟩
  exact forall_reached_iff_meets (fun _ h => h) (fun _ _ _ => right_step)
    (fun _ _ _ => notAccepted_of_right) (fun _ _ _ => notAccepted_of_step_eq_none) hs calls

/-- One removal on a configuration server that accepts it. -/
theorem not_right_removed : ¬ ∀ (device : Option EphConfigDB) (calls : List ProcCall)
    (t : Tally (Option EphConfigDB)),
    run (step mgdServerRpc {} plainJsoncpp) (start device) calls = some t → Right t := by
  intro h
  obtain ⟨proc, hremove⟩ : ∃ proc, freshProc.systemRemove mgdServerRpc {} plainJsoncpp 1000
      { path := "firewall" } = some (true, proc) :=
    systemRemove_of_passes (fun _ => ⟨rfl, rfl⟩) rfl
      (generate_eq_tagged plainJsoncpp_lawful plainJsoncpp_readsTemplates _ _ _ _ _ _)
  have hs : Right (start (some ∅ : Option EphConfigDB)) := ⟨rfl, rfl, rfl⟩
  have hstep : step mgdServerRpc {} plainJsoncpp (start (some ∅))
      (.systemRemove 1000 { path := "firewall" }) =
        some (record (start (some ∅)) (.systemRemove 1000 { path := "firewall" }) true proc) :=
    Option.map_eq_some_iff.mpr ⟨(true, proc), hremove, rfl⟩
  have hrun := run_cons_eq_some.mpr ⟨_, hstep, run_nil _ _⟩
  exact not_right_of_removed hs hremove (h (some ∅) _ _ hrun)

end Tally

end AgentSystemProc

end TelemetryAgent
