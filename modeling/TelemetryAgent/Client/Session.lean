/-
  Clients with their subscriptions at a server: `AgentClient` (AgentClient.cpp) over the handlers
  of ActiveClients and the server.

  A client learns the id of its subscription from the reply, in the initial metadata of the
  stream. `unsubscribe` runs in a command thread of its own: it finds the client, tests whether
  there is an id, reads it and sends it, and the server looks it up. Each is a step, so that the
  client may be deleted, or the id given to another call, in between. A thread that uses a client
  that has been deleted has no step: what it reads there is undefined. The steps of the clients,
  the commands and the server come in any order, and other programs may call the server too
  (`server`).

  `unsubscribe_of_run`: a client that has its reply is found under its name, and what is sent for
  it is an id that the server takes for its call exactly while that call is live; a cancel that
  arrives then tears down this call, and no other.
-/
import TelemetryAgent.Client.ActiveClients
import TelemetryAgent.Server.Cancel

namespace TelemetryAgent

open Std Lib

variable {σ : Type}

/-- What a client has of its subscription. `call` is the RPC that it reads from. -/
structure ClientState where
  call : Option CallId := none
  subscriptionIdValid : Bool := false
  subscriptionId : Nat := 0
  /-- The reply has been parsed. -/
  parsed : Bool := false
  active : Bool := true
  /-- `subscribeTelemetry` has returned. -/
  returned : Bool := false
  deriving DecidableEq, Repr

/-- Where `handle_unsubscribe`, with `cancelSubscribeTelemetry`, is. -/
inductive UnsubscribePc
  | idle
  | found (client : Nat)
  | valid (client : Nat)
  /-- The RPC has been called. -/
  | sent (client id : Nat)
  | replied (client : Nat) (code : ReturnCode)
  | finished
  deriving DecidableEq, Repr

/-- `state` is by the pointer of the client, `unsubscribe` by command thread. `holder` is the
    thread whose cancel has the mutex. -/
structure Session (σ : Type) where
  clients : AgentClients
  state : Nat → ClientState
  unsubscribe : Nat → UnsubscribePc
  holder : Option Nat
  server : AgentServer σ

inductive SessionEvent where
  | clients (e : ClientEvent)
  | subscribeTelemetry (h : Nat) (c : CallId) (request : SubscriptionRequest)
  | metadata (client : Nat)
  | parse (client : Nat)
  | finish (client : Nat)
  | findClient (u : Nat) (clientName : String)
  | testValid (u : Nat)
  | readId (u : Nat)
  | cancel (u : Nat)
  | reply (u : Nat)
  | server (e : AgentServer.Event)
  deriving DecidableEq

namespace Session

variable (env : Environment σ)

def start (mgmt : Nat) (s : AgentServer σ) : Session σ where
  clients := .start mgmt
  state _ := {}
  unsubscribe _ := .idle
  holder := none
  server := s

def setState (t : Session σ) (client : Nat) (st : ClientState) : Session σ :=
  { t with state := Function.update t.state client st }

def setUnsubscribe (t : Session σ) (u : Nat) (pc : UnsubscribePc) : Session σ :=
  { t with unsubscribe := Function.update t.unsubscribe u pc }

/-! ### `subscribeTelemetry` -/

/-- A handler looks its name up, creates its client, or deletes it when `subscribeTelemetry` has
    returned. -/
def clientsStep (t : Session σ) (e : ClientEvent) : Option (Session σ) :=
  match e with
  | .find _ _ => (t.clients.step e).map fun clients => { t with clients := clients }
  | .create _ client =>
    (t.clients.step e).map fun clients => { t.setState client {} with clients := clients }
  | .destroy h =>
    match t.clients.handler h with
    | .stream client =>
      if (t.state client).returned then
        (t.clients.step e).map fun clients => { t.setState client {} with clients := clients }
      else none
    | _ => none

/-- The call of `telemetrySubscribe` by the client of the handler `h`. -/
def subscribeTelemetry (t : Session σ) (h : Nat) (c : CallId) (request : SubscriptionRequest) :
    Option (Session σ) :=
  match t.clients.handler h with
  | .stream client =>
    if (t.state client).call = none ∧ (t.state client).returned = false then
      (t.server.step env (.subscribe c request)).map fun server =>
        { t.setState client { t.state client with call := some c } with server := server }
    else none
  | _ => none

/-- The initial metadata comes back. A stream that begins with a record has none with a reply:
    the client returns, and its RPC is cancelled. -/
def metadata (t : Session σ) (client : Nat) : Option (Session σ) :=
  let st := t.state client
  match st.call with
  | none => none
  | some c =>
    match (t.server.calls c).stream with
    | [] => none
    | .initResponse _ :: _ => some (t.setState client { st with subscriptionIdValid := true })
    | .record _ :: _ =>
      (t.server.step env (.disconnect c)).map fun server =>
        { t.setState client { st with call := none, returned := true } with server := server }

/-- The reply in the metadata is parsed. -/
def parse (t : Session σ) (client : Nat) : Option (Session σ) :=
  let st := t.state client
  match st.call with
  | none => none
  | some c =>
    match (t.server.calls c).stream with
    | .initResponse reply :: _ =>
      if st.subscriptionIdValid then
        some (t.setState client { st with subscriptionId := reply.subscriptionId, parsed := true })
      else none
    | _ => none

/-- The read loop is left and `Finish` has the status of the RPC. -/
def finish (t : Session σ) (client : Nat) : Option (Session σ) :=
  let st := t.state client
  match st.call with
  | none => none
  | some c =>
    if st.parsed ∧ (t.server.calls c).pc = .done then
      some (t.setState client { st with returned := true })
    else none

/-! ### `handle_unsubscribe` -/

/-- `AgentClient::find` of the name that was typed -/
def findClient (t : Session σ) (u : Nat) (clientName : String) : Option (Session σ) :=
  match t.unsubscribe u with
  | .idle =>
    if clientName = AgentClients.agentClientMgmt then some (t.setUnsubscribe u .finished)
    else
      match t.clients.find clientName with
      | none => some (t.setUnsubscribe u .finished)
      | some client => some (t.setUnsubscribe u (.found client))
  | _ => none

/-- `getServerIdValid` -/
def testValid (t : Session σ) (u : Nat) : Option (Session σ) :=
  match t.unsubscribe u with
  | .found client =>
    if t.clients.name client = none then none
    else if (t.state client).subscriptionIdValid then some (t.setUnsubscribe u (.valid client))
    else some (t.setUnsubscribe u .finished)
  | _ => none

/-- `getServerId`, for the request that is sent -/
def readId (t : Session σ) (u : Nat) : Option (Session σ) :=
  match t.unsubscribe u with
  | .valid client =>
    if t.clients.name client = none then none
    else some (t.setUnsubscribe u (.sent client (t.state client).subscriptionId))
  | _ => none

/-- The code that `cancelTelemetrySubscription` answers at once. -/
def cancelCode (s : AgentServer σ) (id : Nat) : ReturnCode :=
  if env.config.udpServerModule then .noSubscriptionEntry
  else (AgentServer.finish env s (.cancel id)).1

/-- The answer of `cancelTelemetrySubscription` comes back. -/
def answer (t : Session σ) (u : Nat) (code : ReturnCode) : Session σ :=
  match t.unsubscribe u with
  | .sent client _ => t.setUnsubscribe u (.replied client code)
  | _ => t

/-- `cancelTelemetrySubscription` of the id that was sent, which blocks while the mutex is held. -/
def cancel (t : Session σ) (u : Nat) : Option (Session σ) :=
  match t.unsubscribe u with
  | .sent _ id =>
    (t.server.cancel env id).map fun server =>
      if server.cleanup.isSome then { t with server := server, holder := some u }
      else answer { t with server := server } u (cancelCode env t.server id)
  | _ => none

/-- The read loop of the client ends with `SUCCESS`. -/
def reply (t : Session σ) (u : Nat) : Option (Session σ) :=
  match t.unsubscribe u with
  | .replied client .success =>
    if t.clients.name client = none then none
    else some
      ((t.setState client { t.state client with active := false }).setUnsubscribe u .finished)
  | .replied _ _ => some (t.setUnsubscribe u .finished)
  | _ => none

/-! ### The session -/

/-- A step of the server. A hold of the mutex that ends is answered. -/
def serverStep (t : Session σ) (e : AgentServer.Event) : Option (Session σ) :=
  (t.server.step env e).map fun server =>
    match t.server.cleanup, t.holder, server.cleanup with
    | some ⟨origin, .terminated w⟩, some u, none =>
      answer { t with server := server, holder := none } u
        (AgentServer.finish env { t.server.deleteUdpSubscription w with cleanup := none } origin).1
    | _, _, _ => { t with server := server }

def step (t : Session σ) : SessionEvent → Option (Session σ)
  | .clients e => t.clientsStep e
  | .subscribeTelemetry h c request => t.subscribeTelemetry env h c request
  | .metadata client => t.metadata env client
  | .parse client => t.parse client
  | .finish client => t.finish client
  | .findClient u clientName => t.findClient u clientName
  | .testValid u => t.testValid u
  | .readId u => t.readId u
  | .cancel u => t.cancel env u
  | .reply u => t.reply u
  | .server e => t.serverStep env e

/-- What the command thread has sent to the server. -/
def sent (t : Session σ) (u : Nat) : Option AgentServer.Event :=
  match t.unsubscribe u with
  | .sent _ id => some (.cancel id)
  | _ => none

/-- A name is free when its client is created, and no cancel is early. -/
def Orderly (t : Session σ) : SessionEvent → Prop
  | .clients e => t.clients.NameFree e
  | .cancel u => ∀ e ∈ t.sent u, AgentServer.NoEarlyCancel env t.server e
  | .server e => AgentServer.NoEarlyCancel env t.server e
  | _ => True

end Session

instance AgentClients.decidableNameFree (s : AgentClients) : ∀ e, Decidable (s.NameFree e)
  | .find _ _ => .isTrue trivial
  | .destroy _ => .isTrue trivial
  | .create h client =>
    match hpc : s.handler h with
    | .create n => decidable_of_iff (s.name client = none → s.find n = none)
        ⟨fun hfree _ hn => HandlerPc.create.inj (hpc.symm.trans hn) ▸ hfree,
          fun hfree => hfree n hpc⟩
    | .idle => .isTrue fun _ hn => absurd (hpc.symm.trans hn) HandlerPc.noConfusion
    | .stream _ => .isTrue fun _ hn => absurd (hpc.symm.trans hn) HandlerPc.noConfusion
    | .finished => .isTrue fun _ hn => absurd (hpc.symm.trans hn) HandlerPc.noConfusion

instance Session.decidableOrderly (env : Environment σ) (t : Session σ) :
    ∀ e, Decidable (t.Orderly env e)
  | .clients e => inferInstanceAs (Decidable (t.clients.NameFree e))
  | .cancel u =>
    Option.decidableForallMem (p := AgentServer.NoEarlyCancel env t.server) (o := t.sent u)
  | .server e => inferInstanceAs (Decidable (AgentServer.NoEarlyCancel env t.server e))
  | .subscribeTelemetry _ _ _ => .isTrue trivial
  | .metadata _ => .isTrue trivial
  | .parse _ => .isTrue trivial
  | .finish _ => .isTrue trivial
  | .findClient _ _ => .isTrue trivial
  | .testValid _ => .isTrue trivial
  | .readId _ => .isTrue trivial
  | .reply _ => .isTrue trivial

/-! ## The handlers and their clients -/

namespace AgentClients

variable {s s' : AgentClients} {h : Nat}

theorem handler_findName {n : String} (hs : s.findName h n = some s') :
    s.handler h = .idle ∧ ∃ next, (∀ k, next ≠ .stream k) ∧
      s'.handler = Function.update s.handler h next := by
  unfold findName at hs
  split at hs
  · next hidle =>
    obtain rfl := Option.some.inj hs
    refine ⟨hidle, _, fun k => ?_, rfl⟩
    split <;> exact HandlerPc.noConfusion
  · exact absurd hs (Option.some_ne_none s').symm

theorem handler_create {client : Nat} (hs : s.create h client = some s') :
    (∀ k, s.handler h ≠ .stream k) ∧ s'.handler = Function.update s.handler h (.stream client) := by
  unfold create at hs
  split at hs
  · next n hcreate hname =>
    obtain rfl := Option.some.inj hs
    exact ⟨fun k => by rw [hcreate]; exact HandlerPc.noConfusion, rfl⟩
  · exact absurd hs (Option.some_ne_none s').symm

theorem handler_destroy (hs : s.destroy h = some s') :
    s'.handler = Function.update s.handler h .finished := by
  unfold destroy at hs
  split at hs
  · split at hs
    · obtain rfl := Option.some.inj hs
      rfl
    · exact absurd hs (Option.some_ne_none s').symm
  · exact absurd hs (Option.some_ne_none s').symm

/-- Each client that streams has a name and a handler of its own, and is not the management
    client. -/
structure Manned (mgmt : Nat) (s : AgentClients) : Prop where
  matched : Matched s
  management : s.name mgmt = some agentClientMgmt
  named : ∀ h k, s.handler h = .stream k → k ≠ mgmt ∧ ∃ n, s.name k = some n
  alone : ∀ h h' k, s.handler h = .stream k → s.handler h' = .stream k → h = h'

variable {mgmt : Nat}

theorem manned_start : Manned mgmt (start mgmt) where
  matched := matched_start mgmt
  management := by simp [start]
  named h k hk := absurd hk HandlerPc.noConfusion
  alone h h' k hk := absurd hk HandlerPc.noConfusion

/-- The name of a client that streams leads to it, and is not that of the management client. -/
theorem Manned.find (hs : Manned mgmt s) {k : Nat} (hk : s.handler h = .stream k) :
    ∃ n, s.find n = some k ∧ n ≠ agentClientMgmt := by
  obtain ⟨hne, n, hn⟩ := hs.named h k hk
  have hfind := hs.matched.registered k n hn
  refine ⟨n, hfind, ?_⟩
  rintro rfl
  rw [hs.matched.registered mgmt _ hs.management, Option.some.injEq] at hfind
  exact hne hfind.symm

theorem manned_step {e : ClientEvent} (hs : Manned mgmt s) (hc : NameFree s e)
    (h : s.step e = some s') : Manned mgmt s' := by
  have hmatched := matched_step hs.matched hc h
  cases e with
  | find i n =>
    obtain ⟨hidle, next, hnext, hhandler⟩ := handler_findName h
    obtain ⟨-, hname⟩ := findName_eq_some h
    have hold : ∀ j k, s'.handler j = .stream k → s.handler j = .stream k := by
      intro j k hk
      rw [hhandler] at hk
      by_cases hj : j = i
      · rw [hj, Function.update_self] at hk
        exact absurd hk (hnext k)
      · rwa [Function.update_of_ne hj] at hk
    exact ⟨hmatched, hname ▸ hs.management, fun j k hk => hname ▸ hs.named j k (hold j k hk),
      fun j j' k hk hk' => hs.alone j j' k (hold j k hk) (hold j' k hk')⟩
  | create i client =>
    obtain ⟨-, hhandler⟩ := handler_create h
    obtain ⟨n, -, hfresh, -, hname⟩ := create_eq_some h
    have hmgmt : client ≠ mgmt := by
      rintro rfl
      rw [hs.management] at hfresh
      exact absurd hfresh (Option.some_ne_none _)
    have hold : ∀ j k, s'.handler j = .stream k → (j = i ∧ k = client) ∨
        (k ≠ client ∧ s.handler j = .stream k) := by
      intro j k hk
      rw [hhandler] at hk
      by_cases hj : j = i
      · rw [hj, Function.update_self, HandlerPc.stream.injEq] at hk
        exact Or.inl ⟨hj, hk.symm⟩
      · rw [Function.update_of_ne hj] at hk
        refine Or.inr ⟨?_, hk⟩
        rintro rfl
        obtain ⟨-, n', hn'⟩ := hs.named j _ hk
        rw [hfresh] at hn'
        exact absurd hn'.symm (Option.some_ne_none _)
    refine ⟨hmatched, ?_, fun j k hk => ?_, fun j j' k hk hk' => ?_⟩
    · rw [hname, Function.update_of_ne hmgmt.symm, hs.management]
    · obtain ⟨-, rfl⟩ | ⟨hne, hk⟩ := hold j k hk
      · exact ⟨hmgmt, n, by rw [hname, Function.update_self]⟩
      · rw [hname, Function.update_of_ne hne]
        exact hs.named j k hk
    · obtain ⟨rfl, rfl⟩ | ⟨hne, hk⟩ := hold j k hk
      · obtain ⟨rfl, -⟩ | ⟨hne, -⟩ := hold j' _ hk'
        · rfl
        · exact absurd rfl hne
      · obtain ⟨-, rfl⟩ | ⟨-, hk'⟩ := hold j' k hk'
        · exact absurd rfl hne
        · exact hs.alone j j' k hk hk'
  | destroy i =>
    have hhandler := handler_destroy h
    obtain ⟨client, n, hstream, -, -, hname⟩ := destroy_eq_some h
    obtain ⟨hmgmt, -⟩ := hs.named i client hstream
    have hold : ∀ j k, s'.handler j = .stream k → k ≠ client ∧ s.handler j = .stream k := by
      intro j k hk
      rw [hhandler] at hk
      by_cases hj : j = i
      · rw [hj, Function.update_self] at hk
        exact absurd hk HandlerPc.noConfusion
      · rw [Function.update_of_ne hj] at hk
        refine ⟨?_, hk⟩
        rintro rfl
        exact hj (hs.alone j i _ hk hstream)
    refine ⟨hmatched, ?_, fun j k hk => ?_, fun j j' k hk hk' => ?_⟩
    · rw [hname, Function.update_of_ne hmgmt.symm, hs.management]
    · obtain ⟨hne, hk⟩ := hold j k hk
      rw [hname, Function.update_of_ne hne]
      exact hs.named j k hk
    · exact hs.alone j j' k (hold j k hk).2 (hold j' k hk').2

end AgentClients

/-! ## One step of a session -/

namespace Session

open AgentServer AgentClients

variable {env : Environment σ} {mgmt : Nat} {t t' : Session σ} {s s' : AgentServer σ}
  {clients : AgentClients} {k u : Nat} {st : ClientState}

/-! ### The server -/

theorem server_answer (t : Session σ) (u : Nat) (code : ReturnCode) :
    (t.answer u code).server = t.server := by
  unfold answer
  split
  · rfl
  · rfl

theorem server_serverStep {e : AgentServer.Event} (hs : t.serverStep env e = some t') :
    t.server.step env e = some t'.server := by
  obtain ⟨s', hs', rfl⟩ := Option.map_eq_some_iff.mp hs
  dsimp only
  split
  · rw [server_answer]
    exact hs'
  · exact hs'

theorem clientsStep_keeps {e : ClientEvent} (hs : t.clientsStep e = some t') :
    t'.unsubscribe = t.unsubscribe ∧ t'.holder = t.holder ∧ t'.server = t.server := by
  cases e with
  | find i n =>
    obtain ⟨clients, -, rfl⟩ := Option.map_eq_some_iff.mp hs
    exact ⟨rfl, rfl, rfl⟩
  | create i client =>
    obtain ⟨clients, -, rfl⟩ := Option.map_eq_some_iff.mp hs
    exact ⟨rfl, rfl, rfl⟩
  | destroy i =>
    simp only [clientsStep] at hs
    split at hs
    · split_ifs at hs
      obtain ⟨clients, -, rfl⟩ := Option.map_eq_some_iff.mp hs
      exact ⟨rfl, rfl, rfl⟩
    · exact absurd hs (Option.some_ne_none _).symm

theorem subscribeTelemetry_cases {i : Nat} {c : CallId} {request : SubscriptionRequest}
    (hs : t.subscribeTelemetry env i c request = some t') :
    ∃ client s', t.clients.handler i = .stream client ∧ (t.state client).call = none ∧
      t.server.step env (.subscribe c request) = some s' ∧
      t' = { t.setState client { t.state client with call := some c } with server := s' } := by
  unfold subscribeTelemetry at hs
  split at hs
  · next client hstream =>
    split_ifs at hs with hnew
    obtain ⟨s', hs', rfl⟩ := Option.map_eq_some_iff.mp hs
    exact ⟨client, s', hstream, hnew.1, hs', rfl⟩
  · exact absurd hs (Option.some_ne_none _).symm

theorem metadata_cases {client : Nat} (hs : t.metadata env client = some t') :
    ∃ c, (t.state client).call = some c ∧
      ((∃ reply l, (t.server.calls c).stream = .initResponse reply :: l ∧
        t' = t.setState client { t.state client with subscriptionIdValid := true }) ∨
      ∃ record l s', (t.server.calls c).stream = .record record :: l ∧
        t.server.step env (.disconnect c) = some s' ∧
        t' = { t.setState client { t.state client with call := none, returned := true } with
          server := s' }) := by
  unfold metadata at hs
  dsimp only at hs
  split at hs
  · exact absurd hs (Option.some_ne_none _).symm
  · next c hcall =>
    refine ⟨c, hcall, ?_⟩
    split at hs
    · exact absurd hs (Option.some_ne_none _).symm
    · next reply l hstream => exact Or.inl ⟨reply, l, hstream, (Option.some.inj hs).symm⟩
    · next record l hstream =>
      obtain ⟨s', hs', rfl⟩ := Option.map_eq_some_iff.mp hs
      exact Or.inr ⟨record, l, s', hstream, hs', rfl⟩

theorem parse_cases {client : Nat} (hs : t.parse client = some t') :
    ∃ c reply l, (t.state client).call = some c ∧
      (t.server.calls c).stream = .initResponse reply :: l ∧
      (t.state client).subscriptionIdValid = true ∧
      t' = t.setState client { t.state client with
        subscriptionId := reply.subscriptionId, parsed := true } := by
  unfold parse at hs
  dsimp only at hs
  split at hs
  · exact absurd hs (Option.some_ne_none _).symm
  · next c hcall =>
    split at hs
    · next reply l hstream =>
      split_ifs at hs with hvalid
      exact ⟨c, reply, l, hcall, hstream, hvalid, (Option.some.inj hs).symm⟩
    · exact absurd hs (Option.some_ne_none _).symm

theorem finish_eq_some {client : Nat} (hs : t.finish client = some t') :
    t' = t.setState client { t.state client with returned := true } := by
  unfold finish at hs
  dsimp only at hs
  split at hs
  · exact absurd hs (Option.some_ne_none _).symm
  · split_ifs at hs
    exact (Option.some.inj hs).symm

/-- The steps of a command before its RPC only move its thread on. -/
theorem findClient_cases {n : String} (hs : t.findClient u n = some t') :
    t.unsubscribe u = .idle ∧ ∃ pc, t' = t.setUnsubscribe u pc := by
  unfold findClient at hs
  split at hs
  · next hidle =>
    split_ifs at hs
    · exact ⟨hidle, _, (Option.some.inj hs).symm⟩
    · split at hs
      · exact ⟨hidle, _, (Option.some.inj hs).symm⟩
      · exact ⟨hidle, _, (Option.some.inj hs).symm⟩
  · exact absurd hs (Option.some_ne_none _).symm

theorem testValid_cases (hs : t.testValid u = some t') :
    ∃ client pc, t.unsubscribe u = .found client ∧ t' = t.setUnsubscribe u pc := by
  unfold testValid at hs
  split at hs
  · next client hfound =>
    split_ifs at hs
    · exact ⟨client, _, hfound, (Option.some.inj hs).symm⟩
    · exact ⟨client, _, hfound, (Option.some.inj hs).symm⟩
  · exact absurd hs (Option.some_ne_none _).symm

theorem readId_cases (hs : t.readId u = some t') :
    ∃ client pc, t.unsubscribe u = .valid client ∧ t' = t.setUnsubscribe u pc := by
  unfold readId at hs
  split at hs
  · next client hvalid =>
    split_ifs at hs
    exact ⟨client, _, hvalid, (Option.some.inj hs).symm⟩
  · exact absurd hs (Option.some_ne_none _).symm

theorem cancel_cases (hs : t.cancel env u = some t') :
    ∃ client id s', t.unsubscribe u = .sent client id ∧ t.server.cancel env id = some s' ∧
      (s'.cleanup.isSome = true ∧ t' = { t with server := s', holder := some u } ∨
        s'.cleanup = none ∧ t' = ({ t with server := s' } : Session σ).setUnsubscribe u
          (.replied client (cancelCode env t.server id))) := by
  unfold cancel at hs
  split at hs
  · next client id hsent =>
    obtain ⟨s', hs', rfl⟩ := Option.map_eq_some_iff.mp hs
    refine ⟨client, id, s', hsent, hs', ?_⟩
    split_ifs with hhold
    · exact Or.inl ⟨hhold, rfl⟩
    · rw [Option.not_isSome_iff_eq_none] at hhold
      refine Or.inr ⟨hhold, ?_⟩
      simp only [answer, hsent]
  · exact absurd hs (Option.some_ne_none _).symm

theorem reply_cases (hs : t.reply u = some t') :
    ∃ client code, t.unsubscribe u = .replied client code ∧
      (t' = (t.setState client { t.state client with active := false }).setUnsubscribe u .finished ∨
        t' = t.setUnsubscribe u .finished) := by
  unfold reply at hs
  split at hs
  · next client hreplied =>
    split_ifs at hs
    exact ⟨client, _, hreplied, Or.inl (Option.some.inj hs).symm⟩
  · next client code _ hreplied =>
    exact ⟨client, code, hreplied, Or.inr (Option.some.inj hs).symm⟩
  · exact absurd hs (Option.some_ne_none _).symm

variable (env) in
/-- What a step is to the command threads and to the server. -/
inductive CommandStep (t t' : Session σ) : SessionEvent → Prop where
  | client (e : SessionEvent) (hcommands : t'.unsubscribe = t.unsubscribe)
      (hholder : t'.holder = t.holder)
      (hserver : t'.server = t.server ∨ ∃ d, d ≠ .cleanup ∧ NoEarlyCancel env t.server d ∧
        t.server.step env d = some t'.server) : CommandStep t t' e
  | command (e : SessionEvent) (u : Nat) (pc : UnsubscribePc)
      (hcommands : t'.unsubscribe = Function.update t.unsubscribe u pc)
      (hsent : ∀ client id, t.unsubscribe u ≠ .sent client id)
      (hreplied : ∀ client code, t.unsubscribe u = .replied client code → pc = .finished)
      (hfinished : t.unsubscribe u ≠ .finished) (hholder : t'.holder = t.holder)
      (hserver : t'.server = t.server) : CommandStep t t' e
  | cancel (u : Nat) (hs : t.cancel env u = some t') : CommandStep t t' (.cancel u)
  | server (d : AgentServer.Event) (hs : t.serverStep env d = some t') : CommandStep t t' (.server d)

/-- A command that has not called its RPC. -/
theorem CommandStep.of_setUnsubscribe {e : SessionEvent} {pc : UnsubscribePc}
    (hsent : ∀ client id, t.unsubscribe u ≠ .sent client id)
    (hreplied : ∀ client code, t.unsubscribe u ≠ .replied client code)
    (hfinished : t.unsubscribe u ≠ .finished) : CommandStep env t (t.setUnsubscribe u pc) e :=
  .command e u pc rfl hsent (fun client code h => absurd h (hreplied client code)) hfinished rfl rfl

theorem commandStep_of_step {e : SessionEvent} (hs : t.step env e = some t') :
    CommandStep env t t' e := by
  cases e with
  | clients e =>
    obtain ⟨hcommands, hholder, hserver⟩ := clientsStep_keeps hs
    exact .client _ hcommands hholder (Or.inl hserver)
  | subscribeTelemetry i c request =>
    obtain ⟨client, s', -, -, hs', rfl⟩ := subscribeTelemetry_cases hs
    exact .client _ rfl rfl (Or.inr ⟨.subscribe c request, by simp, trivial, hs'⟩)
  | metadata client =>
    obtain ⟨c, -, ⟨reply, l, -, rfl⟩ | ⟨record, l, s', -, hs', rfl⟩⟩ := metadata_cases hs
    · exact .client _ rfl rfl (Or.inl rfl)
    · exact .client _ rfl rfl (Or.inr ⟨.disconnect c, by simp, trivial, hs'⟩)
  | parse client =>
    obtain ⟨c, reply, l, -, -, -, rfl⟩ := parse_cases hs
    exact .client _ rfl rfl (Or.inl rfl)
  | finish client =>
    rw [finish_eq_some hs]
    exact .client _ rfl rfl (Or.inl rfl)
  | findClient u n =>
    obtain ⟨hidle, pc, rfl⟩ := findClient_cases hs
    exact .of_setUnsubscribe (by simp [hidle]) (by simp [hidle]) (by simp [hidle])
  | testValid u =>
    obtain ⟨client, pc, hfound, rfl⟩ := testValid_cases hs
    exact .of_setUnsubscribe (by simp [hfound]) (by simp [hfound]) (by simp [hfound])
  | readId u =>
    obtain ⟨client, pc, hvalid, rfl⟩ := readId_cases hs
    exact .of_setUnsubscribe (by simp [hvalid]) (by simp [hvalid]) (by simp [hvalid])
  | cancel u => exact .cancel u hs
  | reply u =>
    obtain ⟨client, code, hreplied, rfl | rfl⟩ := reply_cases hs
    · exact .command _ u .finished rfl (by simp [hreplied]) (fun _ _ _ => rfl) (by simp [hreplied])
        rfl rfl
    · exact .command _ u .finished rfl (by simp [hreplied]) (fun _ _ _ => rfl) (by simp [hreplied])
        rfl rfl
  | server d => exact .server d hs

/-- A step of the session is a step of the server, or leaves the server as it is. -/
theorem server_of_step {e : SessionEvent} (hc : Orderly env t e) (hs : t.step env e = some t') :
    t'.server = t.server ∨
      ∃ d, NoEarlyCancel env t.server d ∧ t.server.step env d = some t'.server := by
  cases commandStep_of_step hs with
  | client _ _ _ hserver => exact hserver.imp id fun ⟨d, _, hd, hs'⟩ => ⟨d, hd, hs'⟩
  | command _ _ _ _ _ _ _ _ hserver => exact Or.inl hserver
  | cancel u hs =>
    obtain ⟨client, id, s', hsent, hs', ⟨-, rfl⟩ | ⟨-, rfl⟩⟩ := cancel_cases hs
    · exact Or.inr ⟨.cancel id, hc _ (by rw [sent, hsent]; rfl), hs'⟩
    · exact Or.inr ⟨.cancel id, hc _ (by rw [sent, hsent]; rfl), hs'⟩
  | server d hs => exact Or.inr ⟨d, hc, server_serverStep hs⟩

/-! ### The clients -/

/-- What a client has as its id came in the reply of its call, and one with a call is known to its
    handler. -/
structure Kept (clients : AgentClients) (s : AgentServer σ) (k : Nat) (st : ClientState) :
    Prop where
  streams : ∀ c, st.call = some c → ∃ h, clients.handler h = .stream k
  knows : st.parsed = true → st.subscriptionIdValid = true ∧ ∃ c reply l, st.call = some c ∧
    (s.calls c).stream = .initResponse reply :: l ∧ st.subscriptionId = reply.subscriptionId

variable (env) in
structure Inv (mgmt : Nat) (t : Session σ) : Prop where
  manned : Manned mgmt t.clients
  answers : Answers env t.server
  kept : ∀ k, Kept t.clients t.server k (t.state k)

theorem kept_new (clients : AgentClients) (s : AgentServer σ) (k : Nat) : Kept clients s k {} where
  streams c hc := absurd hc.symm (Option.some_ne_none c)
  knows h := absurd h Bool.false_ne_true

theorem inv_start (db : PathInformationDB) (x : σ) : Inv env mgmt (start mgmt (.new db x)) where
  manned := manned_start
  answers := answers_new env db x
  kept := kept_new _ _

/-- A step of the server leaves the replies that the clients have read where they are. -/
theorem Kept.grow (h : Kept clients s k st) (hq : Quiet s) {e : AgentServer.Event}
    (hs : s.step env e = some s') : Kept clients s' k st where
  streams := h.streams
  knows hparsed := by
    obtain ⟨hvalid, c, reply, l, hcall, hstream, hid⟩ := h.knows hparsed
    obtain ⟨l', hl'⟩ := stream_grows hq hs c
    exact ⟨hvalid, c, reply, l ++ l', hcall, by rw [hl', hstream, List.cons_append], hid⟩

/-- What does not concern the id. -/
theorem Kept.of_same {st' : ClientState} (h : Kept clients s k st) (hcall : st'.call = st.call)
    (hparsed : st'.parsed = st.parsed) (hid : st'.subscriptionId = st.subscriptionId)
    (hvalid : st.subscriptionIdValid = true → st'.subscriptionIdValid = true) :
    Kept clients s k st' where
  streams c hc := h.streams c (hcall ▸ hc)
  knows hp := by
    obtain ⟨hv, hknown⟩ := h.knows (hparsed ▸ hp)
    rw [hcall, hid]
    exact ⟨hvalid hv, hknown⟩

/-- A handler that is not the client's goes on. -/
theorem Kept.of_handler {clients' : AgentClients} (h : Kept clients s k st) {i : Nat}
    {next : HandlerPc} (hhandler : clients'.handler = Function.update clients.handler i next)
    (hne : clients.handler i ≠ .stream k) : Kept clients' s k st where
  streams c hc := by
    obtain ⟨j, hj⟩ := h.streams c hc
    refine ⟨j, ?_⟩
    rw [hhandler, Function.update_of_ne, hj]
    rintro rfl
    exact hne hj
  knows := h.knows

theorem kept_update {state : Nat → ClientState} {client : Nat}
    (h : ∀ k, k ≠ client → Kept clients s k (state k)) (hst : Kept clients s client st) (k : Nat) :
    Kept clients s k (Function.update state client st k) := by
  by_cases hk : k = client
  · rw [hk, Function.update_self]
    exact hst
  · rw [Function.update_of_ne hk]
    exact h k hk

theorem inv_setState {client : Nat} (h : Inv env mgmt t)
    (hst : Kept t.clients t.server client st) : Inv env mgmt (t.setState client st) where
  manned := h.manned
  answers := h.answers
  kept := kept_update (fun k _ => h.kept k) hst

theorem inv_setUnsubscribe (h : Inv env mgmt t) (pc : UnsubscribePc) :
    Inv env mgmt (t.setUnsubscribe u pc) := ⟨h.manned, h.answers, h.kept⟩

theorem inv_answer (h : Inv env mgmt t) (code : ReturnCode) : Inv env mgmt (t.answer u code) := by
  unfold answer
  split
  · exact inv_setUnsubscribe h _
  · exact h

/-- A step of the server alone. -/
theorem Inv.of_server (h : Inv env mgmt t) {e : AgentServer.Event}
    (hc : NoEarlyCancel env t.server e) (hs : t.server.step env e = some s') (holder : Option Nat) :
    Inv env mgmt { t with server := s', holder := holder } where
  manned := h.manned
  answers := answers_step h.answers hc hs
  kept k := (h.kept k).grow h.answers.quiet hs

theorem inv_clientsStep {e : ClientEvent} (h : Inv env mgmt t) (hc : t.clients.NameFree e)
    (hs : t.clientsStep e = some t') : Inv env mgmt t' := by
  cases e with
  | find i n =>
    obtain ⟨clients, hclients, rfl⟩ := Option.map_eq_some_iff.mp hs
    obtain ⟨hidle, next, -, hhandler⟩ := handler_findName hclients
    refine ⟨manned_step h.manned hc hclients, h.answers, fun k => (h.kept k).of_handler hhandler ?_⟩
    rw [hidle]
    exact HandlerPc.noConfusion
  | create i client =>
    obtain ⟨clients, hclients, rfl⟩ := Option.map_eq_some_iff.mp hs
    obtain ⟨hne, hhandler⟩ := handler_create hclients
    refine ⟨manned_step h.manned hc hclients, h.answers, ?_⟩
    exact kept_update (fun k _ => (h.kept k).of_handler hhandler (hne k)) (kept_new _ _ _)
  | destroy i =>
    simp only [clientsStep] at hs
    split at hs
    · next client hstream =>
      split_ifs at hs with hreturned
      obtain ⟨clients, hclients, rfl⟩ := Option.map_eq_some_iff.mp hs
      refine ⟨manned_step h.manned hc hclients, h.answers, ?_⟩
      refine kept_update (fun k hk => (h.kept k).of_handler (handler_destroy hclients) ?_)
        (kept_new _ _ _)
      rw [hstream]
      exact fun heq => hk (HandlerPc.stream.inj heq).symm
    · exact absurd hs (Option.some_ne_none _).symm

theorem inv_subscribeTelemetry {i : Nat} {c : CallId} {request : SubscriptionRequest}
    (h : Inv env mgmt t) (hs : t.subscribeTelemetry env i c request = some t') :
    Inv env mgmt t' := by
  obtain ⟨client, s', hstream, hnone, hs', rfl⟩ := subscribeTelemetry_cases hs
  have hgrown := h.of_server (e := .subscribe c request) trivial hs' t.holder
  refine inv_setState hgrown ⟨fun _ _ => ⟨i, hstream⟩, fun hparsed => ?_⟩
  obtain ⟨-, c', -, -, hcall, -⟩ := (h.kept client).knows hparsed
  rw [hnone] at hcall
  exact absurd hcall.symm (Option.some_ne_none c')

theorem inv_metadata {client : Nat} (h : Inv env mgmt t)
    (hs : t.metadata env client = some t') : Inv env mgmt t' := by
  obtain ⟨c, hcall, ⟨reply, l, -, rfl⟩ | ⟨record, l, s', hstream, hs', rfl⟩⟩ := metadata_cases hs
  · exact inv_setState h ((h.kept client).of_same rfl rfl rfl fun _ => rfl)
  · have hgrown := h.of_server (e := .disconnect c) trivial hs' t.holder
    refine inv_setState hgrown
      ⟨fun c hc => absurd hc.symm (Option.some_ne_none c), fun hparsed => ?_⟩
    obtain ⟨-, c', reply, l', hcall', hstream', -⟩ := (h.kept client).knows hparsed
    rw [hcall, Option.some.injEq] at hcall'
    rw [← hcall', hstream] at hstream'
    exact absurd hstream' (by simp)

theorem inv_parse {client : Nat} (h : Inv env mgmt t) (hs : t.parse client = some t') :
    Inv env mgmt t' := by
  obtain ⟨c, reply, l, hcall, hstream, hvalid, rfl⟩ := parse_cases hs
  exact inv_setState h
    ⟨(h.kept client).streams, fun _ => ⟨hvalid, c, reply, l, hcall, hstream, rfl⟩⟩

theorem inv_cancel (h : Inv env mgmt t) (hc : Orderly env t (.cancel u))
    (hs : t.cancel env u = some t') : Inv env mgmt t' := by
  obtain ⟨client, id, s', hsent, hs', hcase⟩ := cancel_cases hs
  have hearly : NoEarlyCancel env t.server (.cancel id) := hc _ (by rw [sent, hsent]; rfl)
  obtain ⟨-, rfl⟩ | ⟨-, rfl⟩ := hcase
  · exact h.of_server hearly hs' (some u)
  · exact inv_setUnsubscribe (h.of_server hearly hs' t.holder) _

theorem inv_reply (h : Inv env mgmt t) (hs : t.reply u = some t') : Inv env mgmt t' := by
  obtain ⟨client, code, -, rfl | rfl⟩ := reply_cases hs
  · refine inv_setUnsubscribe (inv_setState h ?_) _
    exact (h.kept client).of_same rfl rfl rfl id
  · exact inv_setUnsubscribe h _

theorem inv_serverStep {e : AgentServer.Event} (h : Inv env mgmt t)
    (hc : NoEarlyCancel env t.server e) (hs : t.serverStep env e = some t') :
    Inv env mgmt t' := by
  obtain ⟨s', hs', rfl⟩ := Option.map_eq_some_iff.mp hs
  dsimp only
  split
  · exact inv_answer (h.of_server hc hs' none) _
  · exact h.of_server hc hs' t.holder

theorem inv_step {e : SessionEvent} (h : Inv env mgmt t) (hc : Orderly env t e)
    (hs : t.step env e = some t') : Inv env mgmt t' := by
  cases e with
  | clients e => exact inv_clientsStep h hc hs
  | subscribeTelemetry i c request => exact inv_subscribeTelemetry h hs
  | metadata client => exact inv_metadata h hs
  | parse client => exact inv_parse h hs
  | finish client =>
    rw [finish_eq_some hs]
    exact inv_setState h ((h.kept client).of_same rfl rfl rfl id)
  | findClient u n =>
    obtain ⟨-, pc, rfl⟩ := findClient_cases hs
    exact inv_setUnsubscribe h pc
  | testValid u =>
    obtain ⟨client, pc, -, rfl⟩ := testValid_cases hs
    exact inv_setUnsubscribe h pc
  | readId u =>
    obtain ⟨client, pc, -, rfl⟩ := readId_cases hs
    exact inv_setUnsubscribe h pc
  | cancel u => exact inv_cancel h hc hs
  | reply u => exact inv_reply h hs
  | server e => exact inv_serverStep h hc hs

/-! ## What an unsubscribe does -/

/-- `c` is the call of a client, whose reply has been sent. -/
structure Known (env : Environment σ) (mgmt : Nat) (c : CallId) (reply : SubscriptionReply)
    (t : Session σ) : Prop where
  inv : Inv env mgmt t
  sent : Sent env c reply t.server

variable {c : CallId} {reply : SubscriptionReply} {client id : Nat}

theorem known_step {e : SessionEvent} (h : Known env mgmt c reply t) (hc : Orderly env t e)
    (hs : t.step env e = some t') : Known env mgmt c reply t' where
  inv := inv_step h.inv hc hs
  sent := by
    obtain hsame | ⟨d, hd, hs'⟩ := server_of_step hc hs
    · rw [hsame]
      exact h.sent
    · exact sent_step h.sent hd hs'

/-- The command of thread `u`, which has sent its cancel, has been answered `SUCCESS`. -/
def Answered (u client : Nat) (t : Session σ) : Prop :=
  t.unsubscribe u = .replied client .success ∨ t.unsubscribe u = .finished

/-- The cancel of thread `u` has the mutex and tears call `c` down. -/
structure Held (u client id : Nat) (c : CallId) (t : Session σ) : Prop where
  tearing : Tearing id c t.server
  holder : t.holder = some u
  sent : t.unsubscribe u = .sent client id

/-- From the cancel on: the call is torn down, or it is over and the command answered. -/
def Cancelled (u client id : Nat) (c : CallId) (t : Session σ) : Prop :=
  Held u client id c t ∨ (t.server.calls c).live = false ∧ Answered u client t

/-- A thread that waits for no answer is answered none. -/
theorem unsubscribe_answer {v : Nat} (code : ReturnCode)
    (hu : ∀ client id, t.unsubscribe u ≠ .sent client id) :
    (t.answer v code).unsubscribe u = t.unsubscribe u := by
  unfold answer
  split
  · next client id hv =>
    refine Function.update_of_ne ?_ _ _
    rintro rfl
    exact hu client id hv
  · rfl

theorem Answered.not_sent (h : Answered u client t) (k i : Nat) : t.unsubscribe u ≠ .sent k i := by
  intro hsent
  obtain hreplied | hfinished := h
  · exact UnsubscribePc.noConfusion (hreplied.symm.trans hsent)
  · exact UnsubscribePc.noConfusion (hfinished.symm.trans hsent)

theorem Answered.of_same (h : Answered u client t) (hu : t'.unsubscribe u = t.unsubscribe u) :
    Answered u client t' := by
  unfold Answered
  rw [hu]
  exact h

theorem answered_step {e : SessionEvent} (h : Answered u client t) (hs : t.step env e = some t') :
    Answered u client t' := by
  cases commandStep_of_step hs with
  | client _ hcommands => exact h.of_same (by rw [hcommands])
  | command _ v pc hcommands _ hreplied hfinished =>
    by_cases hv : u = v
    · subst hv
      right
      rw [hcommands, Function.update_self]
      obtain hu | hu := h
      · exact hreplied client _ hu
      · exact absurd hu hfinished
    · exact h.of_same (by rw [hcommands, Function.update_of_ne hv])
  | cancel v hs =>
    obtain ⟨k, i, s', hsent, -, ⟨-, rfl⟩ | ⟨-, rfl⟩⟩ := cancel_cases hs
    · exact h
    · refine h.of_same (Function.update_of_ne ?_ _ _)
      rintro rfl
      exact h.not_sent k i hsent
  | server d hs =>
    obtain ⟨s', -, rfl⟩ := Option.map_eq_some_iff.mp hs
    dsimp only
    split
    · refine h.of_same ?_
      rw [unsubscribe_answer]
      exact h.not_sent
    · exact h

/-- The thread that has the mutex goes on, or the call is over and the command answered. -/
theorem held_serverStep {d : AgentServer.Event} (hinv : Inv env mgmt t)
    (h : Held u client id c t) (hs : t.serverStep env d = some t') :
    Cancelled u client id c t' := by
  obtain ⟨stage, hcl, hw⟩ := h.tearing
  obtain ⟨s', hs', rfl⟩ := Option.map_eq_some_iff.mp hs
  have hnext : Tearing id c s' ∨ t.server.cleanup = some ⟨.cancel id, .terminated c⟩ ∧
      s'.cleanup = none ∧ (s'.calls c).live = false := by
    by_cases hd : d = .cleanup
    · subst hd
      exact tearing_cleanupStep hinv.answers.inv h.tearing hs'
    · exact Or.inl ⟨stage, cleanup_of_step hcl hd hs', hw⟩
  obtain ⟨stage', hcl', hw'⟩ | ⟨hjoin, hnone, hdead⟩ := hnext
  · left
    dsimp only
    split
    · next hnone =>
      rw [hcl'] at hnone
      exact absurd hnone (Option.some_ne_none _)
    · exact ⟨⟨stage', hcl', hw'⟩, h.holder, h.sent⟩
  · right
    have hcode := code_join hinv.answers.inv hjoin
    simp only [hjoin, h.holder, hnone, hcode, answer, h.sent]
    exact ⟨hdead, Or.inl (Function.update_self _ _ _)⟩

theorem held_step {e : SessionEvent} (hinv : Inv env mgmt t) (h : Held u client id c t)
    (hs : t.step env e = some t') : Cancelled u client id c t' := by
  obtain ⟨stage, hcl, hw⟩ := h.tearing
  cases commandStep_of_step hs with
  | client _ hcommands hholder hserver =>
    refine Or.inl ⟨⟨stage, ?_, hw⟩, hholder.trans h.holder, by rw [hcommands, h.sent]⟩
    obtain hsame | ⟨d, hd, -, hs'⟩ := hserver
    · rw [hsame, hcl]
    · exact cleanup_of_step hcl hd hs'
  | command _ v pc hcommands hsent _ _ hholder hserver =>
    refine Or.inl ⟨⟨stage, by rw [hserver, hcl], hw⟩, hholder.trans h.holder, ?_⟩
    rw [hcommands, Function.update_of_ne, h.sent]
    rintro rfl
    exact hsent client id h.sent
  | cancel v hs =>
    obtain ⟨-, i, s', -, hs', -⟩ := cancel_cases hs
    rw [(AgentServer.cancel_cases hs').1] at hcl
    exact absurd hcl.symm (Option.some_ne_none _)
  | server d hs => exact held_serverStep hinv h hs

theorem cancelled_step {e : SessionEvent} (hk : Known env mgmt c reply t) (hc : Orderly env t e)
    (h : Cancelled u client id c t) (hs : t.step env e = some t') :
    Cancelled u client id c t' := by
  obtain hheld | ⟨hdead, hanswered⟩ := h
  · exact held_step hk.inv hheld hs
  · refine Or.inr ⟨?_, answered_step hanswered hs⟩
    obtain hsame | ⟨d, -, hs'⟩ := server_of_step hc hs
    · rw [hsame, hdead]
    · exact hk.sent.over_step hdead hs'

/-- A client's call after the cancel. -/
structure Followed (env : Environment σ) (mgmt : Nat) (c : CallId) (reply : SubscriptionReply)
    (u client id : Nat) (t : Session σ) : Prop where
  known : Known env mgmt c reply t
  cancelled : Cancelled u client id c t

theorem followed_step {e : SessionEvent} (h : Followed env mgmt c reply u client id t)
    (hc : Orderly env t e) (hs : t.step env e = some t') :
    Followed env mgmt c reply u client id t' :=
  ⟨known_step h.known hc hs, cancelled_step h.known hc h.cancelled hs⟩

theorem Followed.reaches (h : Followed env mgmt c reply u client id t)
    (hr : Reaches (step env) (Orderly env) t t') : Followed env mgmt c reply u client id t' :=
  Reaches.invariant (fun _ _ _ h hc hs => followed_step h hc hs) hr h

/-- The thread of the server that has the mutex goes on in the session. -/
theorem reaches_of_holds {s : AgentServer σ} (h : Holds env t.server s) :
    ∃ t', Reaches (step env) (fun _ e => e = .server .cleanup) t t' ∧ t'.server = s := by
  obtain ⟨es, hm, hr⟩ := h
  induction es generalizing t with
  | nil => exact ⟨t, Reaches.refl t, Option.some.inj hr⟩
  | cons e es ih =>
    obtain ⟨s', hs', hr'⟩ := run_cons_eq_some.mp hr
    obtain rfl : e = .cleanup := hm.1
    obtain ⟨t₁, ht₁⟩ : ∃ t₁, t.step env (.server .cleanup) = some t₁ := by
      rw [step, serverStep, hs']
      exact ⟨_, rfl⟩
    have hsame : t₁.server = s' := Option.some.inj ((server_serverStep ht₁).symm.trans hs')
    obtain ⟨t', hreach, ht'⟩ := ih (t := t₁) (by rw [hsame]; exact hm.2 s' hs')
      (by rw [hsame]; exact hr')
    have hone : Reaches (step env) (fun _ e => e = .server .cleanup) t t₁ :=
      Reaches.of_step rfl ht₁
    exact ⟨t', hone.trans hreach, ht'⟩

/-- Call `c` is over and the command of thread `u` answered `SUCCESS`; or, with the UDP module, its
    worker is being taken down under the mutex, which changes no other call and comes to its end
    if the worker does. -/
structure TearsDown (env : Environment σ) (u client id : Nat) (c : CallId) (t : Session σ) :
    Prop where
  progress : ((t.server.calls c).live = false ∧ Answered u client t) ∨
    (env.config.udpServerModule = true ∧ Held u client id c t)
  others : Held u client id c t → ∀ t', t.step env (.server .cleanup) = some t' →
    ∀ x, x ≠ c → t'.server.calls x = t.server.calls x
  ends : Held u client id c t → env.workerEnds c = true →
    ∃ t', Reaches (step env) (fun _ e => e = .server .cleanup) t t' ∧
      (t'.server.calls c).live = false ∧ Answered u client t'

theorem Followed.tearsDown (h : Followed env mgmt c reply u client id t) :
    TearsDown env u client id c t where
  progress := by
    obtain hheld | hover := h.cancelled
    · obtain ⟨stage, hcl, -⟩ := hheld.tearing
      exact Or.inr ⟨(h.known.inv.answers.inv.cleanup _ hcl).1, hheld⟩
    · exact Or.inl hover
  others hheld t' hs x hx := by
    obtain ⟨stage, hcl, rfl⟩ := hheld.tearing
    exact calls_cleanupStep h.known.inv.answers.inv hcl (server_serverStep hs) hx
  ends hheld hends := by
    obtain ⟨s, hholds, hdead⟩ := reaches_torn h.known.sent hheld.tearing hends
    obtain ⟨t', hreach, rfl⟩ := reaches_of_holds hholds
    have horderly : Reaches (step env) (Orderly env) t t' :=
      Reaches.imp (by rintro _ _ rfl; trivial) hreach
    obtain ⟨hk', hheld' | ⟨-, hanswered⟩⟩ := h.reaches horderly
    · rw [hheld'.tearing.live hk'.inv.answers.inv] at hdead
      exact absurd hdead.symm Bool.false_ne_true
    · exact ⟨t', hreach, hdead, hanswered⟩

/-- The cancel that arrives while the call of its id is live. -/
theorem cancelled_cancel (hk : Known env mgmt c reply t)
    (hsent : t.unsubscribe u = .sent client reply.subscriptionId)
    (hlive : (t.server.calls c).live = true) (hc : Orderly env t (.cancel u))
    (hs : t.cancel env u = some t') :
    (∀ x, x ≠ c → t'.server.calls x = t.server.calls x) ∧
      Cancelled u client reply.subscriptionId c t' := by
  obtain ⟨k, i, s', hsent', hs', hcase⟩ := cancel_cases hs
  obtain ⟨rfl, rfl⟩ := UnsubscribePc.sent.inj (hsent.symm.trans hsent')
  have hearly : NoEarlyCancel env t.server (.cancel reply.subscriptionId) :=
    hc _ (by rw [sent, hsent]; rfl)
  obtain ⟨hothers, htears⟩ := torn_cancel hearly (hk.sent.torn_iff.mpr hlive) hs'
  obtain ⟨hhold, rfl⟩ | ⟨hfree, rfl⟩ := hcase
  · refine ⟨hothers, Or.inl ?_⟩
    obtain htears | ⟨-, hnone, -⟩ := htears
    · exact ⟨htears, rfl, hsent⟩
    · rw [hnone] at hhold
      exact absurd hhold Bool.false_ne_true
  · refine ⟨hothers, Or.inr ?_⟩
    obtain ⟨stage, hcl, -⟩ | ⟨hudp, -, hcode, hdead⟩ := htears
    · rw [hfree] at hcl
      exact absurd hcl.symm (Option.some_ne_none _)
    · refine ⟨hdead, Or.inl ?_⟩
      rw [cancelCode, hudp, if_neg Bool.false_ne_true, hcode]
      exact Function.update_self _ _ _

/-- **Each client its own.** In every run of clients, commands and server in which each name is
    free when its client is created and no cancel is early, a client that has read its reply is
    found under a name, and what is read and sent for it is the id of its reply. Later the server
    takes that id for the client's call exactly while this call is live; and a cancel that arrives
    then tears down this call, and no other. -/
theorem unsubscribe_of_run (env : Environment σ) (mgmt : Nat) (db : PathInformationDB) (x : σ)
    {es : List SessionEvent} (hc : Meets (step env) (Orderly env) (start mgmt (.new db x)) es)
    (hr : run (step env) (start mgmt (.new db x)) es = some t) {client : Nat} {c : CallId}
    (hcall : (t.state client).call = some c) (hparsed : (t.state client).parsed = true) :
    (∃ n, n ≠ agentClientMgmt ∧ t.clients.find n = some client ∧ ∀ u, t.unsubscribe u = .idle →
      t.step env (.findClient u n) = some (t.setUnsubscribe u (.found client))) ∧
    (∀ u, t.unsubscribe u = .found client →
      t.step env (.testValid u) = some (t.setUnsubscribe u (.valid client))) ∧
    (∀ u, t.unsubscribe u = .valid client → t.step env (.readId u) =
      some (t.setUnsubscribe u (.sent client (t.state client).subscriptionId))) ∧
    ∀ t₁, Reaches (step env) (Orderly env) t t₁ →
      (torn env t₁.server (t.state client).subscriptionId = some c ↔
        (t₁.server.calls c).live = true) ∧
      ∀ u t₂, t₁.unsubscribe u = .sent client (t.state client).subscriptionId →
        (t₁.server.calls c).live = true → Orderly env t₁ (.cancel u) →
        t₁.step env (.cancel u) = some t₂ →
        (∀ x, x ≠ c → t₂.server.calls x = t₁.server.calls x) ∧
        ∀ t₃, Reaches (step env) (Orderly env) t₂ t₃ →
          TearsDown env u client (t.state client).subscriptionId c t₃ := by
  have hinv : Inv env mgmt t :=
    run_invariant (fun _ _ _ h hc hs => inv_step h hc hs) (inv_start db x) hc hr
  obtain ⟨i, hstream⟩ := (hinv.kept client).streams c hcall
  obtain ⟨n, hfind, hmgmt⟩ := hinv.manned.find hstream
  have hname : t.clients.name client ≠ none := by
    rw [hinv.manned.matched.reached n client hfind]
    exact Option.some_ne_none n
  obtain ⟨hvalid, c', reply, l, hcall', hreply, hid⟩ := (hinv.kept client).knows hparsed
  rw [hcall, Option.some.injEq] at hcall'
  subst hcall'
  have hk : Known env mgmt c reply t := ⟨hinv, hinv.answers, l, hreply⟩
  refine ⟨⟨n, hmgmt, hfind, fun u hu => ?_⟩, fun u hu => ?_, fun u hu => ?_, fun t₁ h₁ => ?_⟩
  · simp only [step, findClient, hu, if_neg hmgmt, hfind]
  · simp only [step, testValid, hu, if_neg hname, hvalid, if_true]
  · simp only [step, readId, hu, if_neg hname]
  · have hk₁ := Reaches.invariant (fun _ _ _ h hc hs => known_step h hc hs) h₁ hk
    rw [hid]
    refine ⟨hk₁.sent.torn_iff, fun u t₂ hu hlive ho h₂ => ?_⟩
    obtain ⟨hothers, hcancelled⟩ := cancelled_cancel hk₁ hu hlive ho h₂
    have hfollowed : Followed env mgmt c reply u client reply.subscriptionId t₂ :=
      ⟨known_step hk₁ ho h₂, hcancelled⟩
    exact ⟨hothers, fun t₃ h₃ => (hfollowed.reaches h₃).tearsDown⟩

/-- One client beside a call of another program. Its reply has come, and a command has sent what
    it read. -/
def besideOther : List SessionEvent :=
  [.clients (.find 1 "a"), .server (.subscribe 7 { pathList := [{ path := "lsp" }] }),
    .clients (.create 1 5), .subscribeTelemetry 1 8 { pathList := [{ path := "firewall" }] }] ++
    List.replicate 6 (.server (.proceed 8)) ++
    [.server (.proceed 7), .metadata 5, .findClient 3 "a", .testValid 3, .parse 5, .readId 3] ++ List.replicate 2 (.server (.proceed 8))

theorem unsubscribe_of_run_besideOther :
    ∃ t t₁ t', run (step (nullEnvironment true)) (start 0 (.new ∅ {})) besideOther = some t ∧
      step (nullEnvironment true) t (.cancel 3) = some t₁ ∧
      Reaches (step (nullEnvironment true)) (fun _ e => e = .server .cleanup) t₁ t' ∧
      (t'.server.calls 8).live = false ∧ Answered 3 5 t' := by
  have hrun : (run (step (nullEnvironment true)) (start 0 (.new ∅ {})) besideOther).map (fun t =>
      ((t.state 5).call, (t.state 5).parsed, (t.state 5).subscriptionId, t.unsubscribe 3,
        (t.server.calls 8).live)) = some (some 8, true, 2, .sent 5 2, true) := by
    decide +kernel
  have hcancel : (run (step (nullEnvironment true)) (start 0 (.new ∅ {}))
      (besideOther ++ [.cancel 3])).map (fun t => (t.server.calls 8).live) = some true := by
    decide +kernel
  obtain ⟨t, ht, heq⟩ := Option.map_eq_some_iff.mp hrun
  simp only [Prod.mk.injEq] at heq
  obtain ⟨hcall, hparsed, hid, hsent, hlive⟩ := heq
  obtain ⟨t₁, ht₁, hlive₁⟩ := Option.map_eq_some_iff.mp hcancel
  have hmeets : Meets (step (nullEnvironment true)) (Orderly (nullEnvironment true))
      (start 0 (.new ∅ {})) (besideOther ++ [.cancel 3]) := by
    decide +kernel
  obtain ⟨hmeets, horderly⟩ := meets_append.mp hmeets
  obtain ⟨t₀, ht₀, hcancelled⟩ := run_append_eq_some.mp ht₁
  obtain rfl := Option.some.inj (ht₀.symm.trans ht)
  have hstep : step (nullEnvironment true) t₀ (.cancel 3) = some t₁ := by
    rw [run_cons_eq_some] at hcancelled
    obtain ⟨t₂, hs, hnil⟩ := hcancelled
    rw [hs, ← hnil]
    rfl
  obtain ⟨-, -, -, hlater⟩ := unsubscribe_of_run (nullEnvironment true) 0 ∅ {} hmeets ht hcall hparsed
  rw [hid] at hlater
  obtain ⟨-, htears⟩ := hlater t₀ (Reaches.refl t₀)
  obtain ⟨-, hafter⟩ := htears 3 t₁ hsent hlive (horderly t₀ ht).1 hstep
  have hdown := hafter t₁ (Reaches.refl t₁)
  obtain ⟨hdead, -⟩ | ⟨-, hheld⟩ := hdown.progress
  · rw [hlive₁] at hdead
    exact absurd hdead.symm Bool.false_ne_true
  · obtain ⟨t', hreach, hover⟩ := hdown.ends hheld rfl
    exact ⟨t₀, t₁, t', ht, hstep, hreach, hover⟩

end Session

end TelemetryAgent
