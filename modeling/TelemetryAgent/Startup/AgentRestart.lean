/-
  `on_startup` (AgentRestart.cpp): what the agent does before it serves. It clears the system that
  it configures, and if it is asked to it registers with JSD, in a number of attempts.

  `JsdRpc` is what the agent calls of JSD. It may be anything; `mgdServerJsd` is the one of
  MgdServer.cpp. `onStartup_spec` says when the agent starts and how many attempts are made, and
  `onStartup_mgdServer_iff` what that comes to on the configuration server.
-/
import TelemetryAgent.GlobalConfig.Parse
import TelemetryAgent.Junos.AgentSystemProc
import TelemetryAgent.Junos.PlainJsoncpp

namespace TelemetryAgent

open TelemetryAgent.Lib JsonUtils GlobalConfig

variable {ν δ σ : Type}

/-- The oneof `input_type` of `RegisterRequest`. -/
inductive InputType where
  | notSet
  | jsonInput (text : String)
  | fileInput (path : String)
  deriving DecidableEq, Repr

structure RegisterRequest where
  inputType : InputType := .notSet
  target : String := ""
  registerId : String := ""
  skipAuthentication : Bool := false
  deriving DecidableEq, Repr

structure RegisterReply where
  result : Bool := false
  error : String := ""
  deriving DecidableEq, Repr

/-- The RPCs that the agent makes to JSD, with the state `δ` behind them. -/
structure JsdRpc (δ : Type) where
  loginCheck : LoginRequest → δ → (Status × LoginReply) × δ
  registerService : RegisterRequest → δ → (Status × RegisterReply) × δ

namespace RegisterServer

def registerService (request : RegisterRequest) : Status × RegisterReply :=
  if request.registerId.length = 0 then (.ok, { error := "Missing register_id" })
  else if request.target.length = 0 then (.ok, { error := "Missing target" })
  else if !request.skipAuthentication then (.ok, { error := "Missing skip_authentication" })
  else
    match request.inputType with
    | .fileInput path =>
      if path.length = 0 then (.ok, { error := "File input cannot be empty" })
      else (.ok, { result := true })
    | .jsonInput text =>
      if text.length = 0 then (.ok, { error := "Json input cannot be empty" })
      else (.ok, { result := true })
    | .notSet => (.ok, { result := true })

end RegisterServer

/-- `LoginServer` and `RegisterServer` keep nothing. -/
def mgdServerJsd : JsdRpc δ where
  loginCheck request d := (LoginServer.loginCheck request, d)
  registerService request d := (RegisterServer.registerService request, d)

namespace AgentRestart

variable (jsd : JsdRpc δ) (g : Fields) (lib : Jsoncpp ν)

/-- `_authenticateChannel` -/
def authenticateChannel (d : δ) : Status × δ :=
  let request := { userName := g.deviceUserName, password := g.devicePassword }
  let ((status, reply), d) := jsd.loginCheck request d
  if status.isOk && reply.result then (status, d) else (.cancelled, d)

/-- The request to register the services of a document. -/
def registerRequest (registrationObj : Json ν) : RegisterRequest where
  inputType := .jsonInput (writeJsonObjToString lib registrationObj)
  target :=
    if g.runningMode = runningModeOffBox then g.grpcServerIp ++ ":" ++ toString g.grpcServerPort
    else "unix:" ++ g.grpcServerUnixSocket
  registerId := "na-grpcd"
  skipAuthentication := true

/-- `_jsd_register` -/
def jsdRegister (registrationObj : Json ν) (d : δ) : Bool × δ :=
  let (status, d) :=
    if g.runningMode = runningModeOffBox then authenticateChannel jsd g d else (.ok, d)
  if !status.isOk then (false, d)
  else
    let ((status, reply), d) := jsd.registerService (registerRequest g lib registrationObj) d
    if !status.isOk then (false, d) else (reply.result, d)

/-- The loop over the attempts, with the number of those that are left. -/
def retries (attempt : δ → Bool × δ) : Nat → δ → Bool × δ
  | 0, d => (false, d)
  | n + 1, d =>
    match attempt d with
    | (true, d) => (true, d)
    | (false, d) => retries attempt n d

/-- `on_startup`, with the content of the registration file (nothing if it cannot be opened).
    `systemClearAll` is that of the system handle. -/
def onStartup (systemClearAll : σ → Bool × σ) (file : List Char) (s : σ) (d : δ) :
    Bool × σ × δ :=
  let (result, s) := systemClearAll s
  if !result then (false, s, d)
  else if g.jsdInitRegistration then
    match lib.parse file with
    | none => (false, s, d)
    | some registrationContentJson =>
      let (result, d) :=
        retries (jsdRegister jsd g lib registrationContentJson) g.jsdNumOfRetries.toNat d
      (result, s, d)
  else (true, s, d)

/-! ## The attempts -/

section Retries

variable {attempt : δ → Bool × δ} {n : Nat} {d : δ}

/-- What is behind the RPCs after a number of attempts. -/
def after (attempt : δ → Bool × δ) (k : Nat) (d : δ) : δ := (fun d => (attempt d).2)^[k] d

theorem after_succ (attempt : δ → Bool × δ) (k : Nat) (d : δ) :
    after attempt (k + 1) d = after attempt k (attempt d).2 := rfl

/-- The attempts end with the first one that succeeds. -/
theorem retries_of_success {k : Nat} (hk : k < n)
    (hfail : ∀ j < k, (attempt (after attempt j d)).1 = false)
    (hok : (attempt (after attempt k d)).1 = true) :
    retries attempt n d = (true, after attempt (k + 1) d) := by
  induction k generalizing n d with
  | zero =>
    obtain ⟨n, rfl⟩ := Nat.exists_eq_add_one_of_ne_zero (Nat.ne_of_gt hk)
    have hfirst : attempt d = (true, (attempt d).2) := Prod.ext hok rfl
    rw [retries, hfirst]
    rfl
  | succ k ih =>
    obtain ⟨n, rfl⟩ := Nat.exists_eq_add_one_of_ne_zero (Nat.ne_of_gt (Nat.zero_lt_of_lt hk))
    have hfirst : attempt d = (false, (attempt d).2) :=
      Prod.ext (hfail 0 (Nat.succ_pos k)) rfl
    rw [retries, hfirst, after_succ]
    exact ih (Nat.lt_of_succ_lt_succ hk) (fun j hj => hfail (j + 1) (Nat.succ_lt_succ hj)) hok

/-- Or all of them fail. -/
theorem retries_of_failure (hfail : ∀ j < n, (attempt (after attempt j d)).1 = false) :
    retries attempt n d = (false, after attempt n d) := by
  induction n generalizing d with
  | zero => rfl
  | succ n ih =>
    have hfirst : attempt d = (false, (attempt d).2) :=
      Prod.ext (hfail 0 (Nat.succ_pos n)) rfl
    rw [retries, hfirst, after_succ]
    exact ih fun j hj => hfail (j + 1) (Nat.succ_lt_succ hj)

variable (attempt n d) in
theorem retries_cases :
    (∃ k < n, (attempt (after attempt k d)).1 = true ∧
      (∀ j < k, (attempt (after attempt j d)).1 = false) ∧
      retries attempt n d = (true, after attempt (k + 1) d)) ∨
    ((∀ j < n, (attempt (after attempt j d)).1 = false) ∧
      retries attempt n d = (false, after attempt n d)) := by
  by_cases h : ∃ k < n, (attempt (after attempt k d)).1 = true
  · obtain ⟨k, hk, hok⟩ := h
    have hex : ∃ k, (attempt (after attempt k d)).1 = true := ⟨k, hok⟩
    have hlt : Nat.find hex < n := Nat.lt_of_le_of_lt (Nat.find_min' hex hok) hk
    have hfail : ∀ j < Nat.find hex, (attempt (after attempt j d)).1 = false :=
      fun j hj => Bool.eq_false_iff.mpr (Nat.find_min hex hj)
    exact Or.inl ⟨_, hlt, Nat.find_spec hex, hfail, retries_of_success hlt hfail (Nat.find_spec hex)⟩
  · push Not at h
    have hfail : ∀ j < n, (attempt (after attempt j d)).1 = false :=
      fun j hj => Bool.eq_false_iff.mpr (h j hj)
    exact Or.inr ⟨hfail, retries_of_failure hfail⟩

theorem retries_fst_iff :
    (retries attempt n d).1 = true ↔ ∃ k < n, (attempt (after attempt k d)).1 = true := by
  obtain ⟨k, hk, hok, -, hr⟩ | ⟨hfail, hr⟩ := retries_cases attempt n d
  · rw [hr]
    exact iff_of_true rfl ⟨k, hk, hok⟩
  · rw [hr]
    refine iff_of_false Bool.false_ne_true ?_
    rintro ⟨k, hk, hok⟩
    rw [hfail k hk] at hok
    exact Bool.false_ne_true hok

variable (attempt n d) in
theorem exists_retries_snd :
    ∃ m ≤ n, (retries attempt n d).2 = after attempt m d ∧
      ∀ j, j + 1 < m → (attempt (after attempt j d)).1 = false := by
  obtain ⟨k, hk, -, hfail, hr⟩ | ⟨hfail, hr⟩ := retries_cases attempt n d
  · exact ⟨k + 1, hk, congrArg Prod.snd hr, fun j hj => hfail j (Nat.lt_of_succ_lt_succ hj)⟩
  · exact ⟨n, Nat.le_refl n, congrArg Prod.snd hr,
      fun j hj => hfail j (Nat.lt_of_succ_lt hj)⟩

end Retries

variable (systemClearAll : σ → Bool × σ) (file : List Char) (s : σ) (d : δ)

theorem onStartup_fst_iff :
    (onStartup jsd g lib systemClearAll file s d).1 = true ↔
      (systemClearAll s).1 = true ∧ (g.jsdInitRegistration = true →
        ∃ obj, lib.parse file = some obj ∧ ∃ k < g.jsdNumOfRetries.toNat,
          (jsdRegister jsd g lib obj (after (jsdRegister jsd g lib obj) k d)).1 = true) := by
  unfold onStartup
  cases systemClearAll s with
  | mk result s' =>
  cases result with
  | false => simp
  | true =>
    by_cases hinit : g.jsdInitRegistration = true
    · cases lib.parse file with
      | none => simp [hinit]
      | some obj =>
        simp only [Bool.not_true, Bool.false_eq_true, if_false, hinit, if_true, true_and,
          forall_true_left, Option.some.injEq, exists_eq_left']
        exact retries_fst_iff
    · simp [hinit]

/-- Without registration there is nothing left to do. -/
theorem onStartup_of_clear {systemClearAll : σ → Bool × σ} {s s' : σ}
    (h : systemClearAll s = (true, s')) (hinit : g.jsdInitRegistration = false) :
    onStartup jsd g lib systemClearAll file s d = (true, s', d) := by
  simp only [onStartup, h, hinit, Bool.not_true, Bool.false_eq_true, if_false]

/-- The system is left as it has been cleared. -/
theorem onStartup_snd_fst :
    (onStartup jsd g lib systemClearAll file s d).2.1 = (systemClearAll s).2 := by
  unfold onStartup
  cases systemClearAll s with
  | mk result s' =>
  cases result with
  | false => rfl
  | true =>
    by_cases hinit : g.jsdInitRegistration = true
    · cases lib.parse file with
      | none => simp [hinit]
      | some obj => simp [hinit]
    · simp [hinit]

/-- Registration is tried if the system is cleared, it is asked for and the file parses. -/
def Registers (obj : Json ν) : Prop :=
  (systemClearAll s).1 = true ∧ g.jsdInitRegistration = true ∧ lib.parse file = some obj

variable {systemClearAll file s} in
theorem onStartup_of_registers {obj : Json ν} (h : Registers g lib systemClearAll file s obj) :
    (onStartup jsd g lib systemClearAll file s d).2.2 =
      (retries (jsdRegister jsd g lib obj) g.jsdNumOfRetries.toNat d).2 := by
  obtain ⟨hclear, hinit, hparse⟩ := h
  simp only [onStartup, hclear, hinit, hparse, Bool.not_true, Bool.false_eq_true, if_false, if_true]

variable {systemClearAll file s} in
theorem onStartup_of_not_registers (h : ∀ obj, ¬ Registers g lib systemClearAll file s obj) :
    (onStartup jsd g lib systemClearAll file s d).2.2 = d := by
  cases hclear : systemClearAll s with
  | mk result s' =>
  cases result with
  | false => simp [onStartup, hclear]
  | true =>
    by_cases hinit : g.jsdInitRegistration = true
    · cases hparse : lib.parse file with
      | none => simp [onStartup, hclear, hinit, hparse]
      | some obj => exact absurd ⟨by rw [hclear], hinit, hparse⟩ (h obj)
    · simp [onStartup, hclear, hinit]

/-- What is behind the RPCs is what some attempts have left, and only the last one can have
    succeeded. -/
theorem exists_onStartup_snd :
    ∃ n ≤ g.jsdNumOfRetries.toNat, ∃ obj, (n ≠ 0 → Registers g lib systemClearAll file s obj) ∧
      (onStartup jsd g lib systemClearAll file s d).2.2 = after (jsdRegister jsd g lib obj) n d ∧
      ∀ j, j + 1 < n →
        (jsdRegister jsd g lib obj (after (jsdRegister jsd g lib obj) j d)).1 = false := by
  by_cases h : ∃ obj, Registers g lib systemClearAll file s obj
  · obtain ⟨obj, hobj⟩ := h
    obtain ⟨n, hn, hafter, hfail⟩ :=
      exists_retries_snd (jsdRegister jsd g lib obj) g.jsdNumOfRetries.toNat d
    exact ⟨n, hn, obj, fun _ => hobj, (onStartup_of_registers jsd g lib d hobj).trans hafter, hfail⟩
  · push Not at h
    exact ⟨0, Nat.zero_le _, .null, fun hzero => absurd rfl hzero,
      onStartup_of_not_registers jsd g lib d h, fun j hj => absurd hj (Nat.not_lt_zero _)⟩

/-- The agent starts if the system is cleared and, where it is asked to register, its file parses
    and an attempt succeeds. There are no attempts before the system is cleared and the file read,
    and none after the first that succeeds. -/
theorem onStartup_spec :
    ((onStartup jsd g lib systemClearAll file s d).1 = true ↔
      (systemClearAll s).1 = true ∧ (g.jsdInitRegistration = true →
        ∃ obj, lib.parse file = some obj ∧ ∃ k < g.jsdNumOfRetries.toNat,
          (jsdRegister jsd g lib obj (after (jsdRegister jsd g lib obj) k d)).1 = true)) ∧
    ∃ n ≤ g.jsdNumOfRetries.toNat, ∃ obj, (n ≠ 0 → Registers g lib systemClearAll file s obj) ∧
      (onStartup jsd g lib systemClearAll file s d).2.2 = after (jsdRegister jsd g lib obj) n d ∧
      ∀ j, j + 1 < n →
        (jsdRegister jsd g lib obj (after (jsdRegister jsd g lib obj) j d)).1 = false :=
  ⟨onStartup_fst_iff jsd g lib systemClearAll file s d,
    exists_onStartup_snd jsd g lib systemClearAll file s d⟩

/-! ## On the configuration server -/

variable {g lib}

theorem write_ne_nil {sp : Json.Spelling ν} (hnumber : ∀ n, sp.number n ≠ []) (obj : Json ν) :
    obj.write sp ≠ [] := by
  cases obj with
  | null => exact List.cons_ne_nil _ _
  | bool b => cases b <;> exact List.cons_ne_nil _ _
  | num n => exact hnumber n
  | str s => exact List.cons_ne_nil _ _
  | arr js => cases js <;> exact List.cons_ne_nil _ _
  | obj ms => cases ms <;> exact List.cons_ne_nil _ _

/-- The request of the agent is complete. -/
theorem registerService_registerRequest (hnumber : ∀ n, lib.number n ≠ []) (obj : Json ν) :
    RegisterServer.registerService (registerRequest g lib obj) = (.ok, { result := true }) := by
  have htarget : (registerRequest g lib obj).target.length ≠ 0 := by
    unfold registerRequest
    dsimp only
    split_ifs
    · rw [String.length_append, String.length_append]
      have : ":".length = 1 := rfl
      omega
    · rw [String.length_append]
      have : "unix:".length = 5 := rfl
      omega
  have htext : (writeJsonObjToString lib obj).length ≠ 0 := by
    rw [writeJsonObjToString, String.length_ofList, ne_eq, List.length_eq_zero_iff]
    exact write_ne_nil hnumber obj
  have hid : (registerRequest g lib obj).registerId.length ≠ 0 :=
    show "na-grpcd".length ≠ 0 by decide
  have hskip : ¬ (!(registerRequest g lib obj).skipAuthentication) = true := Bool.false_ne_true
  rw [RegisterServer.registerService, if_neg hid, if_neg htarget, if_neg hskip]
  exact if_neg htext

theorem loginPasses_config_iff :
    AgentSystemProc.LoginPasses g.config ↔
      (g.runningMode = runningModeOffBox →
        g.deviceUserName = "regress" ∧ g.devicePassword = "MaRtInI") := by
  unfold AgentSystemProc.LoginPasses Fields.config
  dsimp only
  split_ifs with hmode
  · simp [hmode]
  · simp [hmode]

theorem jsdRegister_mgdServer (hnumber : ∀ n, lib.number n ≠ []) (obj : Json ν) (d : δ) :
    (jsdRegister mgdServerJsd g lib obj d).2 = d ∧
      ((jsdRegister mgdServerJsd g lib obj d).1 = true ↔ AgentSystemProc.LoginPasses g.config) := by
  rw [loginPasses_config_iff]
  unfold jsdRegister authenticateChannel
  simp only [mgdServerJsd, LoginServer.loginCheck, registerService_registerRequest hnumber]
  by_cases hmode : g.runningMode = runningModeOffBox
  · by_cases hlogin : g.deviceUserName = "regress" ∧ g.devicePassword = "MaRtInI"
    · simp [hmode, hlogin]
    · simp [hmode, hlogin]
  · simp [hmode]

theorem systemClearAll_mgdServer_iff {config : GlobalConfig}
    {s : AgentSystemProc (Option EphConfigDB)} :
    (s.systemClearAll mgdServerRpc config lib).1 = true ↔
      AgentSystemProc.LoginPasses config ∧ ∃ db, s.device = some db := by
  constructor
  · intro h
    obtain ⟨hp, db, hd, -⟩ := AgentSystemProc.systemClearAll_ok
      (show s.systemClearAll mgdServerRpc config lib = (true, _) from Prod.ext h rfl)
    exact ⟨hp, db, hd⟩
  · rintro ⟨hp, db, hd⟩
    obtain ⟨s', hs⟩ := AgentSystemProc.systemClearAll_of_passes lib hp hd
    rw [hs]

variable (lib g) in
/-- A single attempt decides. -/
theorem onStartup_mgdServer_iff (hnumber : ∀ n, lib.number n ≠ []) (file : List Char)
    (s : AgentSystemProc (Option EphConfigDB)) (d : δ) :
    (onStartup mgdServerJsd g lib (fun s => s.systemClearAll mgdServerRpc g.config lib) file s d).1 =
        true ↔
      AgentSystemProc.LoginPasses g.config ∧ (∃ db, s.device = some db) ∧
        (g.jsdInitRegistration = true → (lib.parse file).isSome = true ∧ 0 < g.jsdNumOfRetries) := by
  have hafter : ∀ obj k, after (jsdRegister mgdServerJsd g lib obj) k d = d := by
    intro obj k
    induction k with
    | zero => rfl
    | succ k ih => rw [after_succ, (jsdRegister_mgdServer hnumber obj d).1, ih]
  rw [onStartup_fst_iff, systemClearAll_mgdServer_iff, and_assoc]
  refine and_congr_right fun hp => and_congr_right fun _ => imp_congr_right fun _ => ?_
  simp only [hafter, (jsdRegister_mgdServer hnumber _ d).2, hp, and_true,
    Option.isSome_iff_exists]
  constructor
  · rintro ⟨obj, hobj, k, hk⟩
    exact ⟨⟨obj, hobj⟩, by omega⟩
  · rintro ⟨⟨obj, hobj⟩, hk⟩
    exact ⟨obj, hobj, 0, by omega⟩

/-- The default configuration, with registration. -/
def registering : Fields := { jsdInitRegistration := true }

theorem onStartup_mgdServer_registered :
    (onStartup mgdServerJsd registering plainJsoncpp
      (fun s : AgentSystemProc (Option EphConfigDB) =>
        s.systemClearAll mgdServerRpc registering.config plainJsoncpp) "null".toList
      { device := some ∅ } ()).1 = true :=
  (onStartup_mgdServer_iff registering plainJsoncpp Empty.rec "null".toList
    { device := some ∅ } ()).mpr ⟨fun _ => ⟨rfl, rfl⟩, ⟨∅, rfl⟩, fun _ => ⟨by decide, by decide⟩⟩

end AgentRestart

end TelemetryAgent
