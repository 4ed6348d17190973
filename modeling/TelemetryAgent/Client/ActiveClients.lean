/-
  `active_clients` (AgentClient.cpp) under the command threads of the client
  (AgentClientParser.cpp). `handle_subscribe`, its two variants and `proc` of `subscribe_n` each
  look their name up, create a client, stream and destroy it; a step is one of these.

  `find` and `create` are two steps, and `create` overwrites an entry of the same name;
  `~AgentClient` erases the entry of its name, whoever is in it. `sound_iff_meets`: the entries are
  those of the live clients in every state of a run exactly if each name is still free when its
  client is created.
-/
import Mathlib.Logic.Function.Basic
import TelemetryAgent.Lib.OrderedMap
import TelemetryAgent.Lib.Run

namespace TelemetryAgent

open Std Lib

/-! ## The threads -/

/-- Where the handler of a command is. -/
inductive HandlerPc
  | idle
  | create (clientName : String)
  | stream (client : Nat)
  | finished
  deriving DecidableEq

/-- A client is known by its pointer; `name` is the `_name` of each client that is there. -/
structure AgentClients where
  activeClients : ExtTreeMap String Nat
  name : Nat → Option String
  handler : Nat → HandlerPc

inductive ClientEvent
  | find (h : Nat) (clientName : String)
  | create (h client : Nat)
  | destroy (h : Nat)
  deriving DecidableEq

namespace AgentClients

def agentClientMgmt : String := "Management-Client"

/-- `main` has created the management client. -/
def start (mgmt : Nat) : AgentClients where
  activeClients := (∅ : ExtTreeMap String Nat).insert agentClientMgmt mgmt
  name := Function.update (fun _ => none) mgmt (some agentClientMgmt)
  handler _ := .idle

/-- `AgentClient::find` -/
def find (s : AgentClients) (clientName : String) : Option Nat := s.activeClients[clientName]?

/-- The handler looks the name of its command up, and goes on if it is free. -/
def findName (s : AgentClients) (h : Nat) (clientName : String) : Option AgentClients :=
  match s.handler h with
  | .idle =>
    let next := if (s.find clientName).isSome then .finished else .create clientName
    some { s with handler := Function.update s.handler h next }
  | _ => none

/-- `AgentClient::create`. `new` gives a pointer that no client has. -/
def create (s : AgentClients) (h client : Nat) : Option AgentClients :=
  match s.handler h, s.name client with
  | .create clientName, none => some
    { activeClients := s.activeClients.insert clientName client
      name := Function.update s.name client (some clientName)
      handler := Function.update s.handler h (.stream client) }
  | _, _ => none

/-- `delete client`, with `~AgentClient` -/
def destroy (s : AgentClients) (h : Nat) : Option AgentClients :=
  match s.handler h with
  | .stream client =>
    match s.name client with
    | some clientName => some
      { activeClients := s.activeClients.erase clientName
        name := Function.update s.name client none
        handler := Function.update s.handler h .finished }
    | none => none
  | _ => none

def step (s : AgentClients) : ClientEvent → Option AgentClients
  | .find h clientName => s.findName h clientName
  | .create h client => s.create h client
  | .destroy h => s.destroy h

/-- Each client that is there is the one of its name, so that its name leads to a client that is
    there, and what a handler erases is the entry of its own client. -/
structure Sound (s : AgentClients) : Prop where
  registered : ∀ client n, s.name client = some n → s.find n = some client
  reached : ∀ n client, s.find n = some client → s.name client = some n
  kept : ∀ h s', s.destroy h = some s' → ∀ n client, s.find n = some client →
    s.handler h ≠ .stream client → s'.find n = some client

/-- When a client is created, there is none of its name. -/
def NameFree (s : AgentClients) : ClientEvent → Prop
  | .create h client => ∀ n, s.handler h = .create n → s.name client = none → s.find n = none
  | _ => True

/-! ## One step -/

/-- The entries are the clients, each under its name. -/
structure Matched (s : AgentClients) : Prop where
  registered : ∀ client n, s.name client = some n → s.find n = some client
  reached : ∀ n client, s.find n = some client → s.name client = some n

variable {s s' : AgentClients} {h : Nat}

theorem findName_eq_some {n : String} (hs : s.findName h n = some s') :
    s'.activeClients = s.activeClients ∧ s'.name = s.name := by
  unfold findName at hs
  split at hs
  · obtain rfl := Option.some.inj hs
    exact ⟨rfl, rfl⟩
  · exact absurd hs (Option.some_ne_none s').symm

theorem create_eq_some {client : Nat} (hs : s.create h client = some s') :
    ∃ n, s.handler h = .create n ∧ s.name client = none ∧
      s'.activeClients = s.activeClients.insert n client ∧
      s'.name = Function.update s.name client (some n) := by
  unfold create at hs
  split at hs
  · next n hhandler hname =>
    obtain rfl := Option.some.inj hs
    exact ⟨n, hhandler, hname, rfl, rfl⟩
  · exact absurd hs (Option.some_ne_none s').symm

theorem destroy_eq_some (hs : s.destroy h = some s') :
    ∃ client n, s.handler h = .stream client ∧ s.name client = some n ∧
      s'.activeClients = s.activeClients.erase n ∧
      s'.name = Function.update s.name client none := by
  unfold destroy at hs
  split at hs
  · next client hhandler =>
    split at hs
    · next n hname =>
      obtain rfl := Option.some.inj hs
      exact ⟨client, n, hhandler, hname, rfl, rfl⟩
    · exact absurd hs (Option.some_ne_none s').symm
  · exact absurd hs (Option.some_ne_none s').symm

theorem Matched.sound (hs : Matched s) : Sound s where
  registered := hs.registered
  reached := hs.reached
  kept := by
    intro h s' hstep n client hfind hne
    obtain ⟨own, k, hhandler, hname, hactive, -⟩ := destroy_eq_some hstep
    rw [find, hactive, getElem?_erase_eq, if_neg]
    · exact hfind
    · intro hk
      have hown := hs.registered own k hname
      rw [hk, hfind, Option.some.injEq] at hown
      rw [hown] at hne
      exact hne hhandler

theorem matched_create {client : Nat} {n : String} (hs : Matched s) (hfree : s.find n = none)
    (hfresh : s.name client = none) (hactive : s'.activeClients = s.activeClients.insert n client)
    (hname : s'.name = Function.update s.name client (some n)) : Matched s' := by
  constructor
  · intro c k hc
    rw [find, hactive, getElem?_insert_eq]
    rw [hname] at hc
    by_cases hcc : c = client
    · subst hcc
      rw [Function.update_self] at hc
      rw [if_pos (Option.some.inj hc)]
    · rw [Function.update_of_ne hcc] at hc
      have hk := hs.registered c k hc
      rw [if_neg, ← hk]
      · rfl
      · intro hnk
        rw [← hnk, hfree] at hk
        exact Option.some_ne_none c hk.symm
  · intro k c hc
    rw [find, hactive, getElem?_insert_eq] at hc
    rw [hname]
    split at hc
    · next hnk =>
      rw [← Option.some.inj hc, Function.update_self, hnk]
    · have hk := hs.reached k c hc
      rw [Function.update_of_ne, hk]
      intro hcc
      rw [hcc, hfresh] at hk
      exact Option.some_ne_none k hk.symm

theorem matched_destroy {client : Nat} {n : String} (hs : Matched s)
    (hclient : s.name client = some n) (hactive : s'.activeClients = s.activeClients.erase n)
    (hname : s'.name = Function.update s.name client none) : Matched s' := by
  have hown := hs.registered client n hclient
  constructor
  · intro c k hc
    rw [find, hactive, getElem?_erase_eq]
    rw [hname] at hc
    by_cases hcc : c = client
    · subst hcc
      rw [Function.update_self] at hc
      exact absurd hc.symm (Option.some_ne_none k)
    · rw [Function.update_of_ne hcc] at hc
      have hk := hs.registered c k hc
      rw [if_neg, ← hk]
      · rfl
      · intro hnk
        rw [← hnk, hown, Option.some.injEq] at hk
        exact hcc hk.symm
  · intro k c hc
    rw [find, hactive, getElem?_erase_eq] at hc
    rw [hname]
    split at hc
    · exact absurd hc.symm (Option.some_ne_none c)
    · next hnk =>
      have hk := hs.reached k c hc
      rw [Function.update_of_ne, hk]
      intro hcc
      rw [hcc, hclient, Option.some.injEq] at hk
      exact hnk hk

theorem matched_step {e : ClientEvent} (hs : Matched s) (hc : NameFree s e)
    (h : s.step e = some s') : Matched s' := by
  cases e with
  | find h' n =>
    obtain ⟨hactive, hname⟩ := findName_eq_some h
    refine ⟨?_, ?_⟩
    · rw [hname]
      unfold find
      rw [hactive]
      exact hs.registered
    · rw [hname]
      unfold find
      rw [hactive]
      exact hs.reached
  | create h' client =>
    obtain ⟨n, hhandler, hfresh, hactive, hname⟩ := create_eq_some h
    exact matched_create hs (hc n hhandler hfresh) hfresh hactive hname
  | destroy h' =>
    obtain ⟨client, n, -, hclient, hactive, hname⟩ := destroy_eq_some h
    exact matched_destroy hs hclient hactive hname

/-- The client that is overwritten is still there. -/
theorem nameFree_of_sound {e : ClientEvent} (hs : Matched s) (h : s.step e = some s')
    (hs' : Sound s') : NameFree s e := by
  cases e with
  | find h' n => trivial
  | destroy h' => trivial
  | create h' client =>
    intro n hhandler hfresh
    obtain ⟨k, hhandler', -, hactive, hname⟩ := create_eq_some h
    rw [hhandler, HandlerPc.create.injEq] at hhandler'
    subst hhandler'
    cases hfind : s.find n with
    | none => rfl
    | some other =>
      have hother := hs.reached n other hfind
      have hne : other ≠ client := by
        intro heq
        rw [heq, hfresh] at hother
        exact Option.some_ne_none n hother.symm
      have hafter := hs'.registered other n (by rw [hname, Function.update_of_ne hne, hother])
      rw [find, hactive, getElem?_insert_eq, if_pos rfl, Option.some.injEq] at hafter
      exact absurd hafter.symm hne

/-! ## Runs -/

theorem matched_start (mgmt : Nat) : Matched (start mgmt) := by
  refine matched_create (s := ⟨∅, fun _ => none, fun _ => .idle⟩) ⟨?_, ?_⟩ ?_ rfl rfl rfl
  · intro client n hclient
    exact absurd hclient.symm (Option.some_ne_none n)
  · intro n client hfind
    rw [find, ExtTreeMap.getElem?_empty] at hfind
    exact absurd hfind.symm (Option.some_ne_none client)
  · exact ExtTreeMap.getElem?_empty

/-- For every interleaving of the handlers, after `main` has created the management client: in
    each state reached the live clients are those that their names lead to, and no handler would
    erase the entry of another's client, exactly if each name is free when a client of it is
    created. -/
theorem sound_iff_meets (mgmt : Nat) (es : List ClientEvent) :
    (∀ pre suf t, es = pre ++ suf → run step (start mgmt) pre = some t → Sound t) ↔
      Meets step NameFree (start mgmt) es := by
  refine forall_reached_iff_meets (fun _ => Matched.sound) (fun _ _ _ => matched_step)
    (fun _ _ _ => nameFree_of_sound) ?_ (matched_start mgmt) es
  intro s e _ hnone
  cases e with
  | find h n => trivial
  | destroy h => trivial
  | create h client =>
    intro n hhandler hfresh
    simp [step, create, hhandler, hfresh] at hnone

/-- Two subscriptions of one name: both find it free before either creates its client. -/
def twoOfOneName : List ClientEvent :=
  [.find 1 "a", .find 2 "a", .create 1 101, .create 2 102]

theorem not_sound_twoOfOneName : ¬ ∀ (mgmt : Nat) (es : List ClientEvent) (t : AgentClients),
    run step (start mgmt) es = some t → Sound t := by
  intro h
  have hrun : ∃ t, run step (start 0) twoOfOneName = some t ∧ t.name 101 = some "a" ∧
      t.find "a" = some 102 := ⟨_, rfl, by decide, by decide⟩
  obtain ⟨t, ht, hname, hfind⟩ := hrun
  have hregistered := (h 0 twoOfOneName t ht).registered 101 "a" hname
  rw [hfind] at hregistered
  exact absurd hregistered (by decide)

end AgentClients

end TelemetryAgent
