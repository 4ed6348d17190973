/-
  `AgentServer` (AgentServer.cpp): the threads that serve `telemetrySubscribe` and
  `cancelTelemetrySubscription`, with the objects and tables they share.

  Each call of `telemetrySubscribe` has a number. It creates at most one subscription, one
  UDP worker and one transport, so the pointers to these objects are the call's number.
  `pc` is the point its thread has reached. Between two points the thread runs without a
  step of another thread that matters: a point stands after each access to a shared table.

  `_delete_initiate_mutex` is held while `cleanup` is not `none`. Under it the UDP worker
  is unmapped entry by entry, taken from the receiver and told to terminate, each a step of
  its own because the receiver and the worker run beside it. The join comes back only if the
  worker's thread ends, which `workerEnds` decides; with the rest of the hold (`store2`,
  `_cleanupSubscription`) it is one step. A pass that the worker is in when it is told to
  terminate comes before that step if it writes its record, and is left out if not.

  `new` returns an object: `alloc` is true in `step`, and an argument where the source
  tests for a null pointer. `trace` is not in the source. It records what the tear-downs
  do, for the statements about them.
-/
import TelemetryAgent.PathValidator
import TelemetryAgent.Subscription.Model
import TelemetryAgent.Udp.Receiver

namespace TelemetryAgent

open Std

/-- Number of a call of `telemetrySubscribe`. -/
abbrev CallId := Nat

/-- Where a thread in `telemetrySubscribe` stands. -/
inductive Pc where
  | idle
  | allocated
  | added
  | created
  | workerCreated
  /-- `k` of the mappings have been added. -/
  | mapping (k : Nat)
  | metaSent
  | enabled
  | streaming
  | done
  deriving DecidableEq, Repr, Inhabited

/-- A record that the transport writes to the stream. -/
inductive Record where
  | mqtt (message : MosquittoMessage)
  | udp (payload : List UInt8)
  deriving DecidableEq, Repr

/-- What the client receives on the stream, in order. -/
inductive StreamEvent where
  | initResponse (reply : SubscriptionReply)
  | record (r : Record)
  deriving DecidableEq, Repr

/-- The local variables and objects of one call. `sub` and `worker` mean nothing before
    they are created. -/
structure SubscribeCall where
  pc : Pc
  request : SubscriptionRequest
  id : Nat
  systemHandle : HandlePtr
  accepted : SubscriptionRequest
  sub : AgentSubscription
  worker : AgentSubscriptionUdpWorker
  /-- `IsCancelled` of the server context: the client has gone. -/
  isCancelled : Bool
  stream : List StreamEvent
  deriving Inhabited

/-- Who tears a subscription down: the thread of a call whose stream has ended, or
    `cancelTelemetrySubscription` of an id. -/
inductive Origin where
  | endOfStream (c : CallId)
  | cancel (id : Nat)
  deriving DecidableEq, Repr

/-- How far `_cleanupSubscriptionUdpWorker` of the worker `w` is: `k` of its mappings are
    deleted, it has left the receiver, or it has been told to terminate and is joined. -/
inductive CleanupStage where
  | unmapping (w : CallId) (k : Nat)
  | unregistered (w : CallId)
  | terminated (w : CallId)
  deriving DecidableEq, Repr

structure Cleanup where
  origin : Origin
  stage : CleanupStage
  deriving DecidableEq, Repr

/-- Telemetry return codes of a cancel. -/
inductive ReturnCode where
  | success
  | noSubscriptionEntry
  deriving DecidableEq, Repr

/-- `owner` is the call whose allocation of an id is outstanding. `removed` are the handles
    passed to `removeRequest`. For each id given back and each entry of `store` erased,
    `freed` and `erased` have the call that did it and the call whose it was.
    `succeeded` are the subscriptions whose cancel was answered `SUCCESS`. -/
structure Trace where
  owner : Nat → Option CallId
  removed : List HandlePtr
  freed : List (CallId × Option CallId)
  erased : List (CallId × Option CallId)
  succeeded : List CallId

structure AgentServer (σ : Type) where
  idManager : AgentServerIdManager subscriptionIdSpaceSize 1
  pathInformationDb : PathInformationDB
  consolidator : AgentConsolidator σ
  store : ExtTreeMap Nat CallId
  store2 : ExtTreeMap Nat CallId
  udpreceiver : UdpReceiver CallId
  calls : CallId → SubscribeCall
  cleanup : Option Cleanup
  trace : Trace

/-- What the server runs on. `initialActive` is the value `_active` of a call's
    subscription has before it is set. `workerEnds` says of a call whether the thread of its
    UDP worker ends once it is told to: one that misses the notification does not
    (Udp/Wakeup), and its join never comes back. -/
structure Environment (σ : Type) where
  config : GlobalConfig
  sys : AgentSystem σ
  getMessageString : Path → String
  translate : MosquittoMessage → Translation
  initialActive : CallId → Bool
  workerEnds : CallId → Bool := fun _ => true

variable {σ : Type}

namespace AgentServer

def new (db : PathInformationDB) (s : σ) : AgentServer σ where
  idManager := .new _ _
  pathInformationDb := db
  consolidator := .new s
  store := ∅
  store2 := ∅
  udpreceiver := .new
  calls := fun _ => default
  cleanup := none
  trace := { owner := fun _ => none, removed := [], freed := [], erased := [], succeeded := [] }

def setCall (s : AgentServer σ) (c : CallId) (r : SubscribeCall) : AgentServer σ :=
  { s with calls := Function.update s.calls c r }

/-- `_sendMetaDataInfo` -/
def sendMetaDataInfo (s : AgentServer σ) (c : CallId) (reply : SubscriptionReply) (pc : Pc) :
    AgentServer σ :=
  s.setCall c { s.calls c with pc := pc, stream := (s.calls c).stream ++ [.initResponse reply] }

/-- `_id_manager.deallocate` of the id of call `c` -/
def deallocateId (s : AgentServer σ) (c : CallId) (id : Nat) : AgentServer σ :=
  { s with
    idManager := (s.idManager.deallocate id).2
    trace := { s.trace with
      owner := Function.update s.trace.owner id none
      freed := (c, s.trace.owner id) :: s.trace.freed } }

variable (env : Environment σ)

/-! ## `telemetrySubscribe`, point by point -/

/-- The path list is tested and an id allocated. -/
def allocate (s : AgentServer σ) (c : CallId) (request : SubscriptionRequest) : AgentServer σ :=
  let s := s.setCall c { s.calls c with request := request }
  let nullReply : SubscriptionReply :=
    { subscriptionId := AgentServerIdManager.getNullIdentifier }
  if request.pathList = [] then s.sendMetaDataInfo c nullReply .done
  else
    let (id, idManager) := s.idManager.allocate
    let s := { s with idManager := idManager }
    if id = AgentServerIdManager.getNullIdentifier then s.sendMetaDataInfo c nullReply .done
    else
      let s := s.setCall c { s.calls c with pc := .allocated, id := id }
      { s with trace := { s.trace with owner := Function.update s.trace.owner id (some c) } }

def validate (s : AgentServer σ) (request : SubscriptionRequest) :
    SubscriptionRequest × PathInformationDB :=
  if env.config.validateOcpaths then
    let (paths, db) := PathValidator.validatePaths s.pathInformationDb request.pathList
    ({ request with pathList := paths }, db)
  else (request, s.pathInformationDb)

/-- The request is validated and given to the consolidator. -/
def addRequest (s : AgentServer σ) (c : CallId) (alloc : Bool) : AgentServer σ :=
  let r := s.calls c
  let (validated, db) := s.validate env r.request
  let ((systemHandle, accepted), consolidator) :=
    s.consolidator.addRequest env.sys env.getMessageString alloc r.id validated
  let s := { s with pathInformationDb := db, consolidator := consolidator }
  match systemHandle with
  | none =>
    (s.deallocateId c r.id).sendMetaDataInfo c
      { subscriptionId := AgentServerIdManager.getNullIdentifier } .done
  | some handle =>
    s.setCall c { r with
      pc := .added
      systemHandle := handle
      accepted := { validated with pathList := accepted } }

def finalPathList (r : SubscribeCall) : List String := r.accepted.pathList.map Path.path

/-- `AgentSubscription::createSubscription`, with the entry of `store` -/
def createSubscription (s : AgentServer σ) (c : CallId) : AgentServer σ :=
  let r := s.calls c
  let sub := AgentSubscription.createSubscription r.id r.systemHandle (finalPathList r)
    (AgentSubscription.limitsOf r.accepted.additionalConfig) (env.initialActive c)
  { s.setCall c { r with pc := .created, sub := sub } with store := s.store.insert r.id c }

/-- `createSubscriptionUdpWorker`, with the entry of `store2` -/
def createSubscriptionUdpWorker (s : AgentServer σ) (c : CallId) : AgentServer σ :=
  let r := s.calls c
  let worker := AgentSubscriptionUdpWorker.new r.id r.systemHandle (finalPathList r)
  { s.setCall c { r with pc := .workerCreated, worker := worker } with
    store2 := s.store2.insert r.id c }

def addWorker (s : AgentServer σ) (c : CallId) : AgentServer σ :=
  let r := s.calls c
  { s.setCall c { r with pc := .mapping 0 } with
    udpreceiver := s.udpreceiver.addWorker r.sub.id c }

/-- Internal ids of the system handles of a consolidator handle, in order. -/
def internalIds (s : AgentServer σ) (handle : HandlePtr) : List Nat :=
  (s.consolidator.getHandles handle).map (·.internalSubscriptionId)

/-- The reply with the id and the accepted paths. -/
def sendResponse (s : AgentServer σ) (c : CallId) : AgentServer σ :=
  let r := s.calls c
  s.sendMetaDataInfo c { subscriptionId := r.sub.id, pathList := r.accepted.pathList } .metaSent

/-- The loop that adds the mappings; after the last one the reply is sent. -/
def addMapping (s : AgentServer σ) (c : CallId) (k : Nat) : AgentServer σ :=
  let r := s.calls c
  match (s.internalIds r.systemHandle)[k]? with
  | some intId =>
    { s.setCall c { r with pc := .mapping (k + 1) } with
      udpreceiver := s.udpreceiver.addMapping r.worker.id intId }
  | none => s.sendResponse c

def enable (s : AgentServer σ) (c : CallId) : AgentServer σ :=
  let r := s.calls c
  s.setCall c { r with pc := .enabled, sub := r.sub.enable }

def setActive (s : AgentServer σ) (c : CallId) : AgentServer σ :=
  let r := s.calls c
  s.setCall c { r with pc := .streaming, sub := r.sub.setActive true }

/-! ## Tear-down, under the mutex -/

/-- `_cleanupSubscription` -/
def cleanupSubscription (s : AgentServer σ) (c : CallId) : AgentServer σ :=
  let r := s.calls c
  let sub := r.sub.disconnect
  let s := { s with
    consolidator :=
      s.consolidator.removeRequest env.sys env.getMessageString (some sub.systemSubscription)
    trace := { s.trace with removed := sub.systemSubscription :: s.trace.removed } }
  let s := { s with
    store := s.store.erase sub.id
    trace := { s.trace with erased := (c, s.store[sub.id]?) :: s.trace.erased } }
  let s := s.deallocateId c sub.id
  s.setCall c { r with sub := sub.setActive false }

/-- The second half of a hold, after the UDP worker: the stream's own thread goes on to
    delete its objects, a cancel answers its client. -/
def finish (s : AgentServer σ) : Origin → ReturnCode × AgentServer σ
  | .endOfStream c =>
    let s := s.cleanupSubscription env c
    (.success, s.setCall c { s.calls c with pc := .done })
  | .cancel id =>
    match s.store[id]? with
    | none => (.noSubscriptionEntry, s)
    | some c =>
      let s := s.cleanupSubscription env c
      (.success, { s with trace := { s.trace with succeeded := c :: s.trace.succeeded } })

/-- `del_mapping` of entry `k` of the worker `w`, or `del_worker` after the last one -/
def unmap (s : AgentServer σ) (origin : Origin) (w : CallId) (k : Nat) : AgentServer σ :=
  let worker := (s.calls w).worker
  match (s.internalIds worker.systemSubscription)[k]? with
  | some intId =>
    { s with
      udpreceiver := s.udpreceiver.delMapping worker.id intId
      cleanup := some ⟨origin, .unmapping w (k + 1)⟩ }
  | none =>
    { s with
      udpreceiver := s.udpreceiver.delWorker worker.id
      cleanup := some ⟨origin, .unregistered w⟩ }

/-- The worker is told to terminate. -/
def setTerminate (s : AgentServer σ) (w : CallId) : AgentServer σ :=
  let r := s.calls w
  s.setCall w { r with worker := r.worker.setTerminate }

/-- `AgentSubscriptionUdpWorker::deleteSubscription` -/
def deleteUdpSubscription (s : AgentServer σ) (w : CallId) : AgentServer σ :=
  { s with store2 := s.store2.erase (s.calls w).worker.id }

/-- The next step of the thread that holds the mutex. -/
def cleanupStep (s : AgentServer σ) : Option (AgentServer σ) :=
  match s.cleanup with
  | none => none
  | some ⟨origin, .unmapping w k⟩ => some (s.unmap origin w k)
  | some ⟨origin, .unregistered w⟩ =>
    some { s.setTerminate w with cleanup := some ⟨origin, .terminated w⟩ }
  | some ⟨origin, .terminated w⟩ =>
    -- the join
    if env.workerEnds w then
      some (finish env { s.deleteUdpSubscription w with cleanup := none } origin).2
    else none

/-- The condition of the wait loop. -/
def waiting (r : SubscribeCall) : Bool := !r.sub.expired && !r.isCancelled && r.sub.active

/-- The wait loop is left and the mutex taken: an active subscription is torn down, one
    that a cancel has torn down is deleted. -/
def endOfStream (s : AgentServer σ) (c : CallId) : Option (AgentServer σ) :=
  let r := s.calls c
  if waiting r || s.cleanup.isSome then none
  else if r.sub.active then
    if env.config.udpServerModule then
      some { s with cleanup := some ⟨.endOfStream c, .unmapping c 0⟩ }
    else some (finish env s (.endOfStream c)).2
  else some (s.setCall c { r with pc := .done })

/-- `cancelTelemetrySubscription` takes the mutex and looks the id up. -/
def cancel (s : AgentServer σ) (id : Nat) : Option (AgentServer σ) :=
  if s.cleanup.isSome then none
  else if env.config.udpServerModule then
    match s.store2[id]? with
    | none => some s
    | some w => some { s with cleanup := some ⟨.cancel id, .unmapping w 0⟩ }
  else some (finish env s (.cancel id)).2

/-! ## The step relation -/

/-- The next step of the thread of call `c`. -/
def proceed (s : AgentServer σ) (c : CallId) : Option (AgentServer σ) :=
  match (s.calls c).pc with
  | .idle => none
  | .allocated => some (s.addRequest env c true)
  | .added => some (s.createSubscription env c)
  | .created =>
    if env.config.udpServerModule then some (s.createSubscriptionUdpWorker c)
    else some (s.sendResponse c)
  | .workerCreated => some (s.addWorker c)
  | .mapping k => some (s.addMapping c k)
  | .metaSent => some (s.enable c)
  | .enabled => some (s.setActive c)
  | .streaming => s.endOfStream env c
  | .done => none

/-- The payload is pushed to the queue of each worker of the list in turn. -/
def pushAll (calls : CallId → SubscribeCall) (vec : List UInt8) :
    List CallId → CallId → SubscribeCall
  | [] => calls
  | w :: ws =>
    pushAll (Function.update calls w { calls w with worker := (calls w).worker.push vec }) vec ws

/-- The receiver takes a datagram. -/
def receive (s : AgentServer σ) (buf : List UInt8) : AgentServer σ :=
  let (workers, udpreceiver) := s.udpreceiver.receive buf
  { s with
    udpreceiver := udpreceiver
    calls := pushAll s.calls (UdpReceiver.payload buf) workers }

/-- A pass of the worker thread of call `c`. -/
def workerStep (s : AgentServer σ) (c : CallId) : Option (AgentServer σ) :=
  let r := s.calls c
  r.worker.next.map fun (vec, worker) =>
    s.setCall c { r with worker := worker, stream := r.stream ++ [.record (.udp vec)] }

/-- The bus hands a message to the subscription of call `c`. -/
def message (s : AgentServer σ) (c : CallId) (now : Int) (m : MosquittoMessage) : AgentServer σ :=
  let r := s.calls c
  let (written, sub) := r.sub.onMessage env.config env.translate
    (s.consolidator.getHandles r.sub.systemSubscription) now m
  s.setCall c { r with
    sub := sub
    stream := if written then r.stream ++ [.record (.mqtt m)] else r.stream }

inductive Event where
  | subscribe (c : CallId) (request : SubscriptionRequest)
  | proceed (c : CallId)
  | disconnect (c : CallId)
  | cancel (id : Nat)
  | cleanup
  | datagram (buf : List UInt8)
  | workerStep (c : CallId)
  | message (c : CallId) (now : Int) (m : MosquittoMessage)
  deriving DecidableEq, Repr

/-- Datagrams are well formed: they have the four bytes of the header. -/
def step (s : AgentServer σ) : Event → Option (AgentServer σ)
  | .subscribe c request => if (s.calls c).pc = .idle then some (s.allocate c request) else none
  | .proceed c => s.proceed env c
  | .disconnect c => some (s.setCall c { s.calls c with isCancelled := true })
  | .cancel id => s.cancel env id
  | .cleanup => s.cleanupStep env
  | .datagram buf => if 4 ≤ buf.length then some (s.receive buf) else none
  | .workerStep c => s.workerStep c
  | .message c now m =>
    if (s.calls c).sub.connected then some (s.message env c now m) else none

end AgentServer

end TelemetryAgent
