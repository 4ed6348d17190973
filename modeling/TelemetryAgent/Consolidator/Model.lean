/-
  The consolidator: `AgentConsolidatorSystemHandle` (AgentConsolidatorSystem.cpp) and
  `AgentConsolidator` (AgentConsolidator.cpp).

  A system handle is an object on the heap that `sysdb` and the consolidator handles share
  by pointer. The heap is `syshandle`, a pointer is a number, `nextSyshandle` is the next
  fresh one. `sysdb` and `InternalIdGenerator`, globals of the source, are fields here.
  `handles` holds the `AgentConsolidatorHandle` objects that have not been deleted.
  Every public function of `AgentConsolidator` runs under `_consolidator_mutex`, so each is
  one transition.

  `getMessageString` is the protobuf text printer (`AgentUtils::getMessageString`), a
  parameter. `alloc` stands for `new` returning an object, which `addRequest` tests.
  Log lines are left out; nothing reads them.
-/
import Mathlib.Logic.Function.Basic
import Std.Data.ExtTreeMap
import TelemetryAgent.IdManager
import TelemetryAgent.AgentSystem

namespace TelemetryAgent

open Std

/-- Address of an `AgentConsolidatorSystemHandle`. -/
abbrev SystemHandlePtr := Nat

/-- Address of an `AgentConsolidatorHandle`. -/
abbrev HandlePtr := Nat

structure AgentConsolidatorSystemHandle where
  path : Path
  internalSubscriptionId : Nat
  refcount : Nat
  deriving DecidableEq, Repr, Inhabited

structure AgentConsolidatorHandle where
  subscriptionId : Nat
  consolidatorsyshandles : List SystemHandlePtr
  deriving DecidableEq, Repr, Inhabited

abbrev InternalIdGenerator :=
  AgentServerIdManager internalSubscriptionIdSpaceSize internalSubscriptionIdSpaceMin

structure AgentConsolidator (σ : Type) where
  sysHandle : σ
  internalIdGenerator : InternalIdGenerator
  sysdb : ExtTreeMap String SystemHandlePtr
  syshandle : SystemHandlePtr → AgentConsolidatorSystemHandle
  nextSyshandle : SystemHandlePtr
  handles : ExtTreeMap HandlePtr AgentConsolidatorHandle
  nextHandle : HandlePtr
  addCount : Nat
  removeCount : Nat
  errorCountNoMem : Nat
  errorCountBadHandle : Nat
  errorCountUnderflow : Nat

variable {σ : Type}

namespace AgentConsolidator

/-- The constructor, over a system in state `s`, with nothing in `sysdb`. -/
def new (s : σ) : AgentConsolidator σ where
  sysHandle := s
  internalIdGenerator := .new _ _
  sysdb := ∅
  syshandle := fun _ => default
  nextSyshandle := 0
  handles := ∅
  nextHandle := 0
  addCount := 0
  removeCount := 0
  errorCountNoMem := 0
  errorCountBadHandle := 0
  errorCountUnderflow := 0

/-- Write through a system handle pointer. -/
def setSyshandle (c : AgentConsolidator σ) (ptr : SystemHandlePtr)
    (h : AgentConsolidatorSystemHandle) : AgentConsolidator σ :=
  { c with syshandle := Function.update c.syshandle ptr h }

end AgentConsolidator

namespace AgentConsolidatorSystemHandle

def incRef (h : AgentConsolidatorSystemHandle) : AgentConsolidatorSystemHandle :=
  { h with refcount := h.refcount + 1 }

def decRef (h : AgentConsolidatorSystemHandle) : AgentConsolidatorSystemHandle :=
  { h with refcount := h.refcount - 1 }

variable (sys : AgentSystem σ) (getMessageString : Path → String)

def find (c : AgentConsolidator σ) (requestPath : Path) : Option SystemHandlePtr :=
  c.sysdb[getMessageString requestPath]?

/-- Store the handle, provision it, and take it out again when the system refuses. -/
def insert (c : AgentConsolidator σ) (requestPath : Path) (ptr : SystemHandlePtr) :
    Bool × AgentConsolidator σ :=
  let requestPathStr := getMessageString requestPath
  let c := { c with sysdb := c.sysdb.insert requestPathStr ptr }
  let (result, s) :=
    sys.systemAdd (c.syshandle ptr).internalSubscriptionId requestPath c.sysHandle
  let c := { c with sysHandle := s }
  if result then (true, c)
  else (false, { c with sysdb := c.sysdb.erase requestPathStr })

/-- Take the entry of the path out of the system and of `sysdb` and free its id. The
    entry goes whether or not the system took the removal. -/
def remove (c : AgentConsolidator σ) (requestPath : Path) : Bool × AgentConsolidator σ :=
  let requestPathStr := getMessageString requestPath
  match c.sysdb[requestPathStr]? with
  | none => (false, c)
  | some ptr =>
    let id := (c.syshandle ptr).internalSubscriptionId
    let (result, s) := sys.systemRemove id requestPath c.sysHandle
    (result, { c with
      sysHandle := s
      internalIdGenerator := (c.internalIdGenerator.deallocate id).2
      sysdb := c.sysdb.erase requestPathStr })

/-- One more reference to the entry of the path, or a new entry. The id is not compared
    with the null identifier. -/
def create (c : AgentConsolidator σ) (requestPath : Path) :
    Option SystemHandlePtr × AgentConsolidator σ :=
  match find getMessageString c requestPath with
  | some ptr => (some ptr, c.setSyshandle ptr (c.syshandle ptr).incRef)
  | none =>
    let ptr := c.nextSyshandle
    let (id, generator) := c.internalIdGenerator.allocate
    let c := { c with nextSyshandle := ptr + 1, internalIdGenerator := generator }
    let c := c.setSyshandle ptr
      { path := requestPath, internalSubscriptionId := id, refcount := 1 }
    let (result, c) := insert sys getMessageString c requestPath ptr
    if result then (some ptr, c)
    else (none, { c with internalIdGenerator := (c.internalIdGenerator.deallocate id).2 })

/-- Drop one reference; the last one removes the entry. -/
def destroy (c : AgentConsolidator σ) (ptr : SystemHandlePtr) : Bool × AgentConsolidator σ :=
  if (c.syshandle ptr).refcount = 0 then (false, c)
  else
    let c := c.setSyshandle ptr (c.syshandle ptr).decRef
    if (c.syshandle ptr).refcount ≠ 0 then (true, c)
    else (true, (remove sys getMessageString c (c.syshandle ptr).path).2)

end AgentConsolidatorSystemHandle

namespace AgentConsolidator

open AgentConsolidatorSystemHandle

variable (sys : AgentSystem σ) (getMessageString : Path → String)

/-- The loop of `addRequest` over the requested paths: the system handles it stores and
    the paths it copies to the accepted request. -/
def addPaths (c : AgentConsolidator σ) :
    List Path → (List SystemHandlePtr × List Path) × AgentConsolidator σ
  | [] => (([], []), c)
  | p :: ps =>
    match create sys getMessageString c p with
    | (none, c) => addPaths c ps
    | (some ptr, c) =>
      let r := addPaths c ps
      ((ptr :: r.1.1, p :: r.1.2), r.2)

/-- The result is the new handle (`NULL` without memory) and the accepted paths. -/
def addRequest (c : AgentConsolidator σ) (alloc : Bool) (subscriptionId : Nat)
    (request : SubscriptionRequest) : (Option HandlePtr × List Path) × AgentConsolidator σ :=
  if !alloc then ((none, []), { c with errorCountNoMem := c.errorCountNoMem + 1 })
  else
    let ((ptrs, accepted), c) := addPaths sys getMessageString c request.pathList
    let ptr := c.nextHandle
    ((some ptr, accepted), { c with
      handles := c.handles.insert ptr ⟨subscriptionId, ptrs⟩
      nextHandle := ptr + 1
      addCount := c.addCount + 1 })

/-- The loop of `removeRequest` over the system handles. -/
def destroyAll (c : AgentConsolidator σ) : List SystemHandlePtr → AgentConsolidator σ
  | [] => c
  | ptr :: ptrs =>
    match destroy sys getMessageString c ptr with
    | (true, c) => destroyAll c ptrs
    | (false, c) => destroyAll { c with errorCountUnderflow := c.errorCountUnderflow + 1 } ptrs

/-- `handle = none` is a null pointer. A deleted handle must not be passed: its vector has
    been cleared, and what the source does with it is undefined; here nothing happens. -/
def removeRequest (c : AgentConsolidator σ) (handle : Option HandlePtr) : AgentConsolidator σ :=
  match handle with
  | none => { c with errorCountBadHandle := c.errorCountBadHandle + 1 }
  | some ptr =>
    match c.handles[ptr]? with
    | none => c
    | some h =>
      let c := destroyAll sys getMessageString c h.consolidatorsyshandles
      { c with handles := c.handles.erase ptr, removeCount := c.removeCount + 1 }

/-- The system handles that `getHandle(0)`, ..., `getHandle(getHandleCount() - 1)` of a
    consolidator handle give. A deleted handle gives none here, where the source reads freed
    memory; without an early cancel none is asked (Server/Ownership). -/
def getHandles (c : AgentConsolidator σ) (ptr : HandlePtr) : List AgentConsolidatorSystemHandle :=
  ((c.handles[ptr]?.map (·.consolidatorsyshandles)).getD []).map c.syshandle

/-- `getRequest` with `cached = true`: the paths of a live handle. -/
def getRequest (c : AgentConsolidator σ) (ptr : HandlePtr) : Option (List Path) :=
  c.handles[ptr]?.map fun h => h.consolidatorsyshandles.map fun p => (c.syshandle p).path

end AgentConsolidator

end TelemetryAgent
