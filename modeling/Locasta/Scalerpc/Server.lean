import Locasta.Data.Run
import Mathlib.Algebra.Order.Ring.Nat

namespace Locasta.Scalerpc

open Data Function

/-! The ScaleRPC server: groups of connections that take turns, and two pools of slots that are swapped
when they do.

The clock is an input of each method that looks at it. What the clients write, and what the RDMA READs
of the server bring, are inputs, too.
-/

structure Request where
  reqId : Nat
  /-- `sender_conn_id` -/
  connId : Nat
  slotSeq : Nat
deriving DecidableEq

/-- A slot has a request if the valid flag and the length of its trailer are not zero. -/
abbrev MessagePool := Nat → Option Request

structure GroupScheduler where
  groups : List (List Nat)
  currentGroup : Nat
  nextGroup : Nat
  contextSwitchSeq : Nat

namespace GroupScheduler

def new (numGroups : Nat) : GroupScheduler where
  groups := List.replicate numGroups []
  currentGroup := 0
  nextGroup := if numGroups > 1 then 1 else 0
  contextSwitchSeq := 0

def connectionsOf (scheduler : GroupScheduler) (group : Nat) : List Nat :=
  scheduler.groups.getD group []

def currentGroupConnections (scheduler : GroupScheduler) : List Nat :=
  scheduler.connectionsOf scheduler.currentGroup

def nextGroupConnections (scheduler : GroupScheduler) : List Nat :=
  scheduler.connectionsOf scheduler.nextGroup

def shouldSwitch (scheduler : GroupScheduler) (elapsed : Bool) : Bool :=
  scheduler.groups.length > 1 && elapsed

def addConnection (scheduler : GroupScheduler) (connId : Nat) : GroupScheduler :=
  { scheduler with
    groups := scheduler.groups.modify (connId % scheduler.groups.length) (· ++ [connId]) }

def skipEmpty (scheduler : GroupScheduler) : Nat → Nat → Nat
  | 0, next => next
  | turns + 1, next =>
    if scheduler.connectionsOf next ≠ [] then next
    else scheduler.skipEmpty turns ((next + 1) % scheduler.groups.length)

/-- `do_context_switch` and `context_switch` -/
def doContextSwitch (scheduler : GroupScheduler) : GroupScheduler :=
  let numGroups := scheduler.groups.length
  let next := scheduler.skipEmpty numGroups ((scheduler.currentGroup + 1) % numGroups)
  { scheduler with
    currentGroup := next
    nextGroup := (next + 1) % numGroups
    contextSwitchSeq := scheduler.contextSwitchSeq + 1 }

end GroupScheduler

@[ext]
structure EndpointEntry where
  batchSize : Nat
  seq : Nat
deriving DecidableEq

structure RpcServer where
  scheduler : GroupScheduler
  numSlots : Nat
  maxConnections : Nat
  processingPool : MessagePool
  warmupPool : MessagePool
  numConnections : Nat
  /-- The slots of each connection. -/
  mapping : Nat → List Nat
  nextExpectedSlot : Nat → Nat
  endpointEntries : Nat → EndpointEntry
  lastSeqs : Nat → Nat
  /-- The number of slots of the warmup buffers that are known. -/
  warmupBufferInfos : Nat → Option Nat
  pendingContextSwitch : Nat → Option (Nat × Nat)
  /-- Auxiliary: the connections whose batches were fetched since the pools were last swapped. -/
  batches : List Nat
  /-- Auxiliary: for each swap these connections and the group that was current after it. -/
  swaps : List (List Nat × Nat)
  /-- Auxiliary: how often the current group was set. -/
  switches : Nat
  /-- Auxiliary: the requests that came to a pool. -/
  arrived : List Request
  /-- Auxiliary: the requests that `poll_request` returned. -/
  returned : List Request
  /-- Auxiliary: the batches that were fetched, with the number of requests that were read. -/
  fetchedBatches : List (Nat × EndpointEntry)
  /-- Auxiliary: the events for clients with their `fetched_seq`. -/
  notified : List (Nat × Nat)

namespace RpcServer

def new (numSlots maxConnections numGroups : Nat) : RpcServer where
  scheduler := .new numGroups
  numSlots
  maxConnections
  processingPool _ := none
  warmupPool _ := none
  numConnections := 0
  mapping _ := []
  nextExpectedSlot _ := 0
  endpointEntries _ := { batchSize := 0, seq := 0 }
  lastSeqs _ := 0
  warmupBufferInfos _ := none
  pendingContextSwitch _ := none
  batches := []
  swaps := []
  switches := 0
  arrived := []
  returned := []
  fetchedBatches := []
  notified := []

def addConnection (server : RpcServer) : RpcServer :=
  let connId := server.numConnections
  if connId ≥ server.maxConnections then server
  else
    let slotsPerConn := server.numSlots / server.maxConnections
    { server with
      mapping := update server.mapping connId
        (List.range' (connId * slotsPerConn) slotsPerConn)
      numConnections := connId + 1
      scheduler := server.scheduler.addConnection connId
      nextExpectedSlot := update server.nextExpectedSlot connId 0 }

/-- The valid flag is cleared when the request is taken. -/
def checkSlotForRequest (server : RpcServer) (slot : Nat) : Option (Request × RpcServer) :=
  if slot < server.numSlots then
    (server.processingPool slot).map fun request =>
      (request,
        { server with
          processingPool := update server.processingPool slot none
          returned := server.returned ++ [request] })
  else none

/-- The expected slot of one connection, and then its others. -/
def pollConnection (server : RpcServer) (connId : Nat) : Option (Request × RpcServer) :=
  let slots := server.mapping connId
  let slotPos := server.nextExpectedSlot connId % slots.length
  (slotPos :: (List.range slots.length).filter (· ≠ slotPos)).findSome? fun idx =>
    (slots[idx]?).bind fun slot =>
      (server.checkSlotForRequest slot).map fun (request, server) =>
        (request,
          { server with
            nextExpectedSlot :=
              update server.nextExpectedSlot connId ((idx + 1) % slots.length) })

/-- `recv` -/
def pollRequest (server : RpcServer) : Option (Request × RpcServer) :=
  server.scheduler.currentGroupConnections.findSome? server.pollConnection

def switchGroup (server : RpcServer) : RpcServer :=
  { server with
    scheduler := server.scheduler.doContextSwitch
    switches := server.switches + 1 }

def clearPoolValidFlags (server : RpcServer) (pool : MessagePool) : MessagePool :=
  fun slot => if slot < server.numSlots then none else pool slot

def swapPools (server : RpcServer) : RpcServer :=
  { server with
    processingPool := server.warmupPool
    warmupPool := server.clearPoolValidFlags server.processingPool
    swaps := server.swaps ++ [(server.batches, server.scheduler.currentGroup)]
    batches := [] }

/-- An event is written over the start of a free slot of the processing pool. No other allocation is
made there, so it is always the last one of the free list. A request in it stays valid, and gets the
numbers of the event for its own. -/
def writeEvent (server : RpcServer) (connIds : List Nat) (fetchedSeq : Nat) : MessagePool :=
  let slot := server.numSlots - 1
  if connIds.any fun connId => (server.warmupBufferInfos connId).isSome then
    update server.processingPool slot ((server.processingPool slot).map fun request =>
      { request with
        reqId := fetchedSeq % 2 ^ 32 + 2 ^ 32 * (server.scheduler.contextSwitchSeq % 2 ^ 32) })
  else server.processingPool

def notifyContextSwitch (server : RpcServer) (connIds : List Nat) (fetchedSeq : Nat) : RpcServer :=
  { server with
    processingPool := server.writeEvent connIds fetchedSeq
    pendingContextSwitch := fun connId =>
      if connId ∈ connIds then some (server.scheduler.contextSwitchSeq, fetchedSeq)
      else server.pendingContextSwitch connId
    notified := server.notified ++ connIds.map fun connId => (connId, fetchedSeq) }

/-- `perform_context_switch` with the notification that follows it. -/
def performContextSwitch (server : RpcServer) (elapsed : Bool) : RpcServer :=
  if server.scheduler.shouldSwitch elapsed then
    let connBuf := server.scheduler.currentGroupConnections
    server.switchGroup.swapPools.notifyContextSwitch connBuf 0
  else server

/-- What the READs of a batch bring goes to the slots of the connection in the warmup pool. -/
def fetchInto (pool : MessagePool) (slots : List Nat) (contents : List (Option Request)) :
    MessagePool :=
  (slots.zip contents).foldl (fun pool entry => update pool entry.1 entry.2) pool

/-- `fetch_warmup_batch` of a connection, or the error of the READs, if `contents` is `none`. -/
def fetchBatch (server : RpcServer) (connId seq batchSize : Nat)
    (contents : Option (List (Option Request))) : Option RpcServer :=
  if batchSize = 0 then
    some { server with
      endpointEntries := update server.endpointEntries connId
        { server.endpointEntries connId with batchSize := 0 } }
  else
    match contents with
    | none => none
    | some contents =>
      if (server.mapping connId).length < batchSize then none
      else
        let contents := contents.take batchSize
        some { server with
          warmupPool := fetchInto server.warmupPool (server.mapping connId) contents
          endpointEntries := update server.endpointEntries connId
            { server.endpointEntries connId with batchSize := 0 }
          batches := server.batches ++ [connId]
          arrived := server.arrived ++ contents.filterMap id
          fetchedBatches := server.fetchedBatches ++ [(connId, { batchSize, seq })] }

/-- Whether the loop came to its end, how many requests were fetched and the last sequence number.
-/
def fetchLoop (reads : Nat → Option (List (Option Request))) :
    List Nat → RpcServer → Nat → Nat → Bool × RpcServer × Nat × Nat
  | [], server, fetched, lastSeq => (true, server, fetched, lastSeq)
  | connId :: rest, server, fetched, lastSeq =>
    let entry := server.endpointEntries connId
    if connId < server.maxConnections ∧ entry.seq > server.lastSeqs connId ∧ entry.batchSize > 0 then
      let server := { server with lastSeqs := update server.lastSeqs connId entry.seq }
      match server.warmupBufferInfos connId with
      | none => fetchLoop reads rest server fetched lastSeq
      | some slots =>
        let batchSize := min entry.batchSize slots
        match server.fetchBatch connId entry.seq batchSize (reads connId) with
        | none => (false, server, fetched, lastSeq)
        | some server => fetchLoop reads rest server (fetched + batchSize) entry.seq
    else fetchLoop reads rest server fetched lastSeq

/-- An error counts as nothing fetched. -/
def fetchWarmupRequests (server : RpcServer) (reads : Nat → Option (List (Option Request))) :
    RpcServer × Nat × Nat :=
  match fetchLoop reads server.scheduler.nextGroupConnections server 0 0 with
  | (true, result) => result
  | (false, server, _, _) => (server, 0, 0)

def resetNextExpectedSlots (server : RpcServer) (connIds : List Nat) : RpcServer :=
  { server with
    nextExpectedSlot := fun connId =>
      if connId ∈ connIds ∧ connId < server.numConnections then 0
      else server.nextExpectedSlot connId }

/-- `RpcServer::poll` up to the calls of `recv`. -/
def pollSwitch (server : RpcServer) (reads : Nat → Option (List (Option Request)))
    (elapsed : Bool) : RpcServer :=
  let (server, fetched, fetchedSeq) := server.fetchWarmupRequests reads
  if fetched > 0 then
    let server := server.switchGroup
    let connBuf := server.scheduler.currentGroupConnections
    (server.swapPools.resetNextExpectedSlots connBuf).notifyContextSwitch connBuf fetchedSeq
  else server.performContextSwitch elapsed

/-- The end of `process`, behind the calls of `poll_request`. -/
def processEnd (server : RpcServer) (elapsed : Bool) : RpcServer :=
  if server.scheduler.shouldSwitch elapsed then server.switchGroup else server

inductive Action where
  | addConnection
  /-- The client of the connection says how many slots its warmup buffer has, and where its event
  buffer is. -/
  | connectWarmup (connId slots : Nat)
  /-- A request of a client lands in a slot of the pool that has this role now. -/
  | write (toProcessing : Bool) (slot : Nat) (request : Request)
  | writeEntry (connId : Nat) (entry : EndpointEntry)
  | recv
  | performContextSwitch (elapsed : Bool)
  | processEnd (elapsed : Bool)
  | fetch (reads : Nat → Option (List (Option Request)))
  | poll (reads : Nat → Option (List (Option Request))) (elapsed : Bool)

def write (server : RpcServer) (toProcessing : Bool) (slot : Nat) (request : Request) : RpcServer :=
  if slot < server.numSlots then
    let server := { server with arrived := server.arrived ++ [request] }
    if toProcessing then
      { server with processingPool := update server.processingPool slot (some request) }
    else { server with warmupPool := update server.warmupPool slot (some request) }
  else server

def next (server : RpcServer) : Action → RpcServer
  | .addConnection => server.addConnection
  | .connectWarmup connId slots =>
    { server with warmupBufferInfos := update server.warmupBufferInfos connId (some slots) }
  | .write toProcessing slot request => server.write toProcessing slot request
  | .writeEntry connId entry =>
    { server with endpointEntries := update server.endpointEntries connId entry }
  | .recv => (server.pollRequest.map Prod.snd).getD server
  | .performContextSwitch elapsed => server.performContextSwitch elapsed
  | .processEnd elapsed => server.processEnd elapsed
  | .fetch reads => (server.fetchWarmupRequests reads).1
  | .poll reads elapsed => server.pollSwitch reads elapsed

/-- `RpcServer::poll`: the loop calls `recv` until it returns nothing, while requests may land. -/
def pollCalls (reads : Nat → Option (List (Option Request))) (elapsed : Bool) (turns : Nat) :
    List Action :=
  .poll reads elapsed :: List.replicate turns .recv

/-- `run_scheduler_iteration`: a switch, `process`, and a fetch. -/
def iterationCalls (first second : Bool) (turns : Nat)
    (reads : Nat → Option (List (Option Request))) : List Action :=
  .performContextSwitch first :: List.replicate turns .recv ++ [.processEnd second, .fetch reads]

end RpcServer

end Locasta.Scalerpc
