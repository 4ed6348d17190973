/-
  `UdpReceiver` (UdpReceiver.hpp, UdpReceiver.cpp) and the worker objects that it queues
  payloads to (AgentSubscriptionUdpWorker.hpp, AgentSubscriptionUdpWorker.cpp).

  A worker is known by its pointer. Each function below is one hold of
  `_udpreceiver_mutex`, so it is atomic: `addWorker`, `delWorker`, `addMapping`,
  `delMapping`, and `receive`, which is what the receiver's loop does with a datagram that
  has its four-byte header. The queues are in the worker objects; `receive` answers the
  workers that the payload is pushed to, in order. A list in the mapping store is never
  empty in the source's own terms: `delMapping` deletes one that becomes empty.
-/
import TelemetryAgent.Lib.OrderedMap
import TelemetryAgent.Subscription.Bus

namespace TelemetryAgent

open Std

structure AgentSubscriptionUdpWorker where
  id : Nat
  pathList : List String
  systemSubscription : Nat
  q : List (List UInt8)
  dontTerminate : Bool
  totalPktRecvd : Nat
  messages : Counter
  deriving DecidableEq, Repr, Inhabited

namespace AgentSubscriptionUdpWorker

def new (id systemHandle : Nat) (pathList : List String) : AgentSubscriptionUdpWorker where
  id := id
  pathList := pathList
  systemSubscription := systemHandle
  q := []
  dontTerminate := true
  totalPktRecvd := 0
  messages := { name := "MessageCount-client-" ++ toString id }

/-- `_q.push` by the receiver. -/
def push (w : AgentSubscriptionUdpWorker) (vec : List UInt8) : AgentSubscriptionUdpWorker :=
  { w with q := w.q ++ [vec] }

def setTerminate (w : AgentSubscriptionUdpWorker) : AgentSubscriptionUdpWorker :=
  { w with dontTerminate := false }

/-- One pass of the worker's loop over a queue that is not empty: the front is counted,
    written to the transport and popped. -/
def next (w : AgentSubscriptionUdpWorker) : Option (List UInt8 × AgentSubscriptionUdpWorker) :=
  if w.dontTerminate then
    match w.q with
    | [] => none
    | vec :: q => some (vec, { w with
        q := q
        totalPktRecvd := w.totalPktRecvd + 1
        messages := w.messages.increment 1 vec.length })
  else none

theorem next_eq_some {w w' : AgentSubscriptionUdpWorker} {vec : List UInt8}
    (h : w.next = some (vec, w')) : w.dontTerminate = true ∧ w.q = vec :: w'.q ∧
      w'.id = w.id ∧ w'.systemSubscription = w.systemSubscription ∧
      w'.dontTerminate = w.dontTerminate ∧ w'.totalPktRecvd = w.totalPktRecvd + 1 := by
  unfold next at h
  split at h
  · rename_i hd
    split at h
    · exact absurd h (by simp)
    · rename_i vec' q hq
      simp only [Option.some.injEq, Prod.mk.injEq] at h
      obtain ⟨rfl, rfl⟩ := h
      exact ⟨hd, hq, rfl, rfl, rfl, rfl⟩
  · exact absurd h (by simp)

end AgentSubscriptionUdpWorker

/-- `W` is the type of worker pointers. -/
structure UdpReceiver (W : Type) where
  extIdWorkerStore : ExtTreeMap Nat W
  intToExtListStore : ExtTreeMap Nat (List Nat)
  messages : Counter
  statsTopics : ExtTreeMap Nat Counter
  totalPktsReceived : Nat
  workerNotFound : Nat
  intToExtListNotFound : Nat
  workerAddError : Nat
  workerDelError : Nat

namespace UdpReceiver

variable {W : Type}

def new : UdpReceiver W where
  extIdWorkerStore := ∅
  intToExtListStore := ∅
  messages := { name := "UdpReceiver-MessageCounter" }
  statsTopics := ∅
  totalPktsReceived := 0
  workerNotFound := 0
  intToExtListNotFound := 0
  workerAddError := 0
  workerDelError := 0

def addWorker (u : UdpReceiver W) (extId : Nat) (wp : W) : UdpReceiver W :=
  match u.extIdWorkerStore[extId]? with
  | some _ => { u with workerAddError := u.workerAddError + 1 }
  | none => { u with extIdWorkerStore := u.extIdWorkerStore.insert extId wp }

def delWorker (u : UdpReceiver W) (extId : Nat) : UdpReceiver W :=
  match u.extIdWorkerStore[extId]? with
  | some _ => { u with extIdWorkerStore := u.extIdWorkerStore.erase extId }
  | none => { u with workerDelError := u.workerDelError + 1 }

/-- The external ids that an internal id is mapped to; none when it has no list. -/
def extIds (u : UdpReceiver W) (intId : Nat) : List Nat := (u.intToExtListStore[intId]?).getD []

/-- The list is not searched for the id before it is added. -/
def addMapping (u : UdpReceiver W) (extId intId : Nat) : UdpReceiver W :=
  match u.intToExtListStore[intId]? with
  | some v => { u with intToExtListStore := u.intToExtListStore.insert intId (v ++ [extId]) }
  | none => { u with intToExtListStore := u.intToExtListStore.insert intId [extId] }

def delMapping (u : UdpReceiver W) (extId intId : Nat) : UdpReceiver W :=
  match u.intToExtListStore[intId]? with
  | some v =>
    let v := v.filter fun e => e != extId
    if v.isEmpty then { u with intToExtListStore := u.intToExtListStore.erase intId }
    else { u with intToExtListStore := u.intToExtListStore.insert intId v }
  | none => u

/-- The loop over the list of external ids. -/
def deliver (u : UdpReceiver W) : List Nat → List W × UdpReceiver W
  | [] => ([], u)
  | extId :: v =>
    match u.extIdWorkerStore[extId]? with
    | some wp =>
      let (wps, u) := deliver u v
      (wp :: wps, u)
    | none => deliver { u with workerNotFound := u.workerNotFound + 1 } v

/-- `ntohl` of the first four bytes. -/
def header (buf : List UInt8) : Nat :=
  (buf.take 4).foldl (fun n b => 256 * n + b.toNat) 0

def payload (buf : List UInt8) : List UInt8 := buf.drop 4

def countPacket (u : UdpReceiver W) (buf : List UInt8) : UdpReceiver W :=
  let intId := header buf
  let counter := (u.statsTopics[intId]?).getD { name := toString intId }
  { u with
    totalPktsReceived := u.totalPktsReceived + 1
    messages := u.messages.increment 1 buf.length
    statsTopics := u.statsTopics.insert intId (counter.increment 1 (buf.length - 4)) }

def receive (u : UdpReceiver W) (buf : List UInt8) : List W × UdpReceiver W :=
  let u := u.countPacket buf
  match u.intToExtListStore[header buf]? with
  | some v => deliver u v
  | none => ([], { u with intToExtListNotFound := u.intToExtListNotFound + 1 })

/-! ## What the functions do to the two stores -/

theorem workers_addWorker (u : UdpReceiver W) {extId : Nat} (wp : W)
    (h : u.extIdWorkerStore[extId]? = none) :
    (u.addWorker extId wp).extIdWorkerStore = u.extIdWorkerStore.insert extId wp := by
  unfold addWorker
  rw [h]

theorem extIds_addWorker (u : UdpReceiver W) (extId : Nat) (wp : W) :
    (u.addWorker extId wp).extIds = u.extIds := by
  unfold addWorker
  split <;> rfl

theorem workers_delWorker (u : UdpReceiver W) (extId : Nat) :
    (u.delWorker extId).extIdWorkerStore = u.extIdWorkerStore.erase extId := by
  unfold delWorker
  split
  · rfl
  · rename_i h
    ext k
    grind

theorem extIds_delWorker (u : UdpReceiver W) (extId : Nat) :
    (u.delWorker extId).extIds = u.extIds := by
  unfold delWorker
  split <;> rfl

@[simp] theorem workers_addMapping (u : UdpReceiver W) (extId intId : Nat) :
    (u.addMapping extId intId).extIdWorkerStore = u.extIdWorkerStore := by
  unfold addMapping
  split <;> rfl

theorem extIds_addMapping (u : UdpReceiver W) (extId intId i : Nat) :
    (u.addMapping extId intId).extIds i =
      if i = intId then u.extIds i ++ [extId] else u.extIds i := by
  by_cases hi : i = intId
  · subst hi
    rw [if_pos rfl]
    unfold addMapping extIds
    cases h : u.intToExtListStore[i]? with
    | none => simp
    | some v => simp
  · rw [if_neg hi]
    unfold addMapping extIds
    cases h : u.intToExtListStore[intId]? with
    | none => simp only [Lib.getElem?_insert_of_ne _ (Ne.symm hi)]
    | some v => simp only [Lib.getElem?_insert_of_ne _ (Ne.symm hi)]

@[simp] theorem workers_delMapping (u : UdpReceiver W) (extId intId : Nat) :
    (u.delMapping extId intId).extIdWorkerStore = u.extIdWorkerStore := by
  unfold delMapping
  split
  · simp only []
    split <;> rfl
  · rfl

theorem extIds_delMapping (u : UdpReceiver W) (extId intId i : Nat) :
    (u.delMapping extId intId).extIds i =
      if i = intId then (u.extIds i).filter fun e => e != extId else u.extIds i := by
  by_cases hi : i = intId
  · subst hi
    rw [if_pos rfl]
    unfold delMapping extIds
    cases h : u.intToExtListStore[i]? with
    | none => simp [h]
    | some v =>
      simp only [Option.getD_some]
      split
      · rename_i he
        rw [List.isEmpty_iff] at he
        simp [he]
      · simp
  · rw [if_neg hi]
    unfold delMapping extIds
    cases h : u.intToExtListStore[intId]? with
    | none => rfl
    | some v =>
      simp only []
      split
      · simp only [Lib.getElem?_erase_of_ne _ (Ne.symm hi)]
      · simp only [Lib.getElem?_insert_of_ne _ (Ne.symm hi)]

/-- The workers reached, in the order of the list. -/
theorem deliver_fst (u : UdpReceiver W) (v : List Nat) :
    (u.deliver v).1 = v.filterMap fun e => u.extIdWorkerStore[e]? := by
  induction v generalizing u with
  | nil => rfl
  | cons e v ih =>
    unfold deliver
    cases h : u.extIdWorkerStore[e]? with
    | none =>
      rw [List.filterMap_cons_none h]
      exact ih _
    | some wp =>
      rw [List.filterMap_cons_some h]
      exact congrArg _ (ih u)

theorem deliver_stores (u : UdpReceiver W) (v : List Nat) :
    (u.deliver v).2.extIdWorkerStore = u.extIdWorkerStore ∧
      (u.deliver v).2.intToExtListStore = u.intToExtListStore := by
  induction v generalizing u with
  | nil => exact ⟨rfl, rfl⟩
  | cons e v ih =>
    unfold deliver
    split
    · exact ih u
    · exact ih { u with workerNotFound := u.workerNotFound + 1 }

/-- A datagram goes to the registered workers of the external ids of its internal id. -/
theorem receive_fst (u : UdpReceiver W) (buf : List UInt8) :
    (u.receive buf).1 = (u.extIds (header buf)).filterMap fun e => u.extIdWorkerStore[e]? := by
  unfold receive extIds
  show (match u.intToExtListStore[header buf]? with
    | some v => (u.countPacket buf).deliver v
    | none => ([], _)).1 = _
  cases h : u.intToExtListStore[header buf]? with
  | none => rfl
  | some v => exact deliver_fst (u.countPacket buf) v

theorem receive_stores (u : UdpReceiver W) (buf : List UInt8) :
    (u.receive buf).2.extIdWorkerStore = u.extIdWorkerStore ∧
      (u.receive buf).2.extIds = u.extIds := by
  unfold receive
  simp only []
  split
  · obtain ⟨h1, h2⟩ := deliver_stores (u.countPacket buf) ‹_›
    refine ⟨h1, ?_⟩
    unfold extIds
    rw [h2]
    rfl
  · exact ⟨rfl, rfl⟩

/-! ## No lookup goes wrong -/

/-- Every external id looked up so far had its worker, and no list is empty. -/
structure Sane (u : UdpReceiver W) : Prop where
  workerNotFound : u.workerNotFound = 0
  workerAddError : u.workerAddError = 0
  nonempty : ∀ {i : Nat} {v}, u.intToExtListStore[i]? = some v → v ≠ []

variable {u : UdpReceiver W} {extId intId : Nat}

theorem sane_new : (new : UdpReceiver W).Sane where
  workerNotFound := rfl
  workerAddError := rfl
  nonempty h := absurd h (by simp [new])

theorem Sane.addWorker (h : u.Sane) (wp : W) (hn : u.extIdWorkerStore[extId]? = none) :
    (u.addWorker extId wp).Sane := by
  unfold UdpReceiver.addWorker
  rw [hn]
  exact ⟨h.workerNotFound, h.workerAddError, h.nonempty⟩

theorem Sane.delWorker (h : u.Sane) : (u.delWorker extId).Sane := by
  unfold UdpReceiver.delWorker
  split <;> exact ⟨h.workerNotFound, h.workerAddError, h.nonempty⟩

/-- A list stored under an id, where no other one is touched. -/
theorem Sane.insert_list (h : u.Sane) {l : List Nat} (hl : l ≠ []) :
    { u with intToExtListStore := u.intToExtListStore.insert intId l }.Sane := by
  refine ⟨h.workerNotFound, h.workerAddError, fun {i v} hv => ?_⟩
  rw [ExtTreeMap.getElem?_insert] at hv
  split at hv
  · rw [← Option.some.inj hv]
    exact hl
  · exact h.nonempty hv

theorem Sane.addMapping (h : u.Sane) : (u.addMapping extId intId).Sane := by
  unfold UdpReceiver.addMapping
  split
  · exact h.insert_list (by simp)
  · exact h.insert_list (by simp)

theorem Sane.delMapping (h : u.Sane) : (u.delMapping extId intId).Sane := by
  unfold UdpReceiver.delMapping
  split
  · simp only []
    split
    · refine ⟨h.workerNotFound, h.workerAddError, fun {i v} hv => ?_⟩
      rw [ExtTreeMap.getElem?_erase] at hv
      split at hv
      · exact absurd hv (by simp)
      · exact h.nonempty hv
    · next he => exact h.insert_list fun hnil => he (List.isEmpty_iff.mpr hnil)
  · exact h

/-- When each external id has its worker, the loop changes nothing. -/
theorem deliver_snd {v : List Nat} (h : ∀ e ∈ v, e ∈ u.extIdWorkerStore) :
    (u.deliver v).2 = u := by
  induction v with
  | nil => rfl
  | cons e v ih =>
    obtain ⟨wp, hwp⟩ := Option.isSome_iff_exists.mp
      (ExtTreeMap.mem_iff_isSome_getElem?.mp (h e List.mem_cons_self))
    unfold deliver
    rw [hwp]
    exact ih fun d hd => h d (List.mem_cons_of_mem e hd)

theorem Sane.receive (h : u.Sane) (buf : List UInt8)
    (hw : ∀ e ∈ u.extIds (header buf), e ∈ u.extIdWorkerStore) : (u.receive buf).2.Sane := by
  have hc : (u.countPacket buf).Sane := ⟨h.workerNotFound, h.workerAddError, h.nonempty⟩
  unfold UdpReceiver.receive
  simp only []
  split
  · next v hv =>
    have hv' : u.intToExtListStore[header buf]? = some v := hv
    have hall : ∀ e ∈ v, e ∈ (u.countPacket buf).extIdWorkerStore := by
      intro e he
      apply hw e
      rw [extIds, hv']
      exact he
    rw [deliver_snd hall]
    exact hc
  · exact ⟨hc.workerNotFound, hc.workerAddError, hc.nonempty⟩

end UdpReceiver

end TelemetryAgent
