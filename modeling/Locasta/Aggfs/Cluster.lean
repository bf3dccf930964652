import Locasta.Aggfs.Daemon
import Locasta.Data.Queue

namespace Locasta.Aggfs

open Data Function

/-! Daemons and their clients.

A client has one request at a time, since its library calls block. A request is queued at the daemon
of the client, which serves or forwards it; a forwarded read or write goes on when its transfer is
complete. The steps of different requests come in any order.
-/

/-- How far a request has come. -/
inductive Phase where
  | queued
  | sent (executor : Nat)
  | fetching (executor pointer : Nat)
  | fetched (executor : Nat)
  | delivering (executor pointer actual : Nat)
  | returned (executor : Nat) (reply : RemoteReply)
  | answered (response : FsResponse)
deriving DecidableEq

structure Call where
  request : FsRequest
  phase : Phase
  /-- Auxiliary: the daemons whose store or metadata the request was executed on. -/
  executed : List Nat

structure Cluster where
  topology : Topology
  daemons : Nat → Daemon
  /-- The daemon that each client is attached to, its data area and the request it waits for. -/
  attached : Nat → Nat
  areas : Nat → Memory
  calls : Nat → Option Call
  /-- Auxiliary: the requests that were answered, in this order. -/
  log : List (FsRequest × FsResponse)

namespace Cluster

def new (topology : Topology) (attached : Nat → Nat) (stores : Nat → PmemStore) : Cluster where
  topology
  daemons id := .new (stores id)
  attached
  areas _ := fun _ => 0
  calls _ := none
  log := []

def setCall (cluster : Cluster) (client : Nat) (call : Option Call) : Cluster :=
  { cluster with calls := update cluster.calls client call }

def setDaemon (cluster : Cluster) (id : Nat) (daemon : Daemon) : Cluster :=
  { cluster with daemons := update cluster.daemons id daemon }

def setArea (cluster : Cluster) (client : Nat) (area : Memory) : Cluster :=
  { cluster with areas := update cluster.areas client area }

def answer (cluster : Cluster) (client : Nat) (call : Call) (response : FsResponse) : Cluster :=
  { cluster.setCall client (some { call with phase := .answered response }) with
    log := cluster.log ++ [(call.request, response)] }

inductive Action where
  /-- `call_blocking` with what the client has put into its data area -/
  | begin (client : Nat) (request : FsRequest) (area : Memory)
  | advance (client : Nat)
  /-- The copyrpc call of the daemon fails, or the client's memory is not registered. -/
  | refuse (client : Nat) (code : Int)
  /-- The client takes the response. -/
  | finish (client : Nat)

def dispatch (cluster : Cluster) (client : Nat) (call : Call) : Option Cluster :=
  let self := cluster.attached client
  let target := call.request.owner cluster.topology
  if target = self then
    ((cluster.daemons self).serve cluster.topology self (cluster.areas client) call.request).map
      fun (response, area, daemon) =>
        ((cluster.setDaemon self daemon).setArea client area).answer client
          { call with executed := call.executed ++ [self] } response
  else if call.request.forwarded then
    match cluster.topology.forward self target with
    | some executor => some (cluster.setCall client (some { call with phase := .sent executor }))
    | none => some (cluster.answer client call (.error (-2)))
  else some (cluster.answer client call (.error (-38)))

def receive (cluster : Cluster) (client : Nat) (call : Call) (executor : Nat) : Option Cluster :=
  ((cluster.daemons executor).receive call.request).map fun (received, daemon) =>
    let phase := match received with
      | .reply reply => .returned executor reply
      | .fetch pointer => .fetching executor pointer
      | .deliver pointer actual => .delivering executor pointer actual
    (cluster.setDaemon executor daemon).setCall client
      (some { call with phase, executed := call.executed ++ [executor] })

def fetch (cluster : Cluster) (client : Nat) (call : Call) (executor pointer : Nat) :
    Option Cluster :=
  match call.request with
  | .write _ _ _ len =>
    let daemon := (cluster.daemons executor).transfer pointer ((cluster.areas client).read 0 len)
    some ((cluster.setDaemon executor daemon).setCall client
      (some { call with phase := .fetched executor }))
  | _ => none

def commit (cluster : Cluster) (client : Nat) (call : Call) (executor : Nat) : Option Cluster :=
  match call.request with
  | .write pathHash chunkIndex offset len =>
    ((cluster.daemons executor).commit cluster.topology executor pathHash chunkIndex offset len).map
      fun daemon => (cluster.setDaemon executor daemon).setCall client
        (some { call with phase := .returned executor (.plain 0 len) })
  | _ => none

def deliver (cluster : Cluster) (client : Nat) (call : Call) (executor pointer actual : Nat) :
    Cluster :=
  let bytes := (cluster.daemons executor).store.region.read pointer actual
  (cluster.setArea client ((cluster.areas client).write 0 bytes)).setCall client
    (some { call with phase := .returned executor (.plain 0 actual) })

def complete (cluster : Cluster) (client : Nat) (call : Call) (reply : RemoteReply) : Cluster :=
  let self := cluster.attached client
  let (response, daemon) := (cluster.daemons self).complete cluster.topology self call.request reply
  (cluster.setDaemon self daemon).answer client call response

def advance (cluster : Cluster) (client : Nat) (call : Call) : Option Cluster :=
  match call.phase with
  | .queued => cluster.dispatch client call
  | .sent executor => cluster.receive client call executor
  | .fetching executor pointer => cluster.fetch client call executor pointer
  | .fetched executor => cluster.commit client call executor
  | .delivering executor pointer actual =>
    some (cluster.deliver client call executor pointer actual)
  | .returned _ reply => some (cluster.complete client call reply)
  | .answered _ => none

def step (cluster : Cluster) : Action → Option Cluster
  | .begin client request area =>
    match cluster.calls client with
    | none =>
      some ((cluster.setArea client area).setCall client
        (some { request, phase := .queued, executed := [] }))
    | some _ => none
  | .advance client =>
    match cluster.calls client with
    | some call => cluster.advance client call
    | none => none
  | .refuse client code =>
    match cluster.calls client with
    | some call =>
      if call.phase = .queued ∧ (code = -1 ∨ code = -11) ∧
          call.request.owner cluster.topology ≠ cluster.attached client then
        some (cluster.answer client call (.error code))
      else none
    | none => none
  | .finish client =>
    match cluster.calls client with
    | some { phase := .answered _, .. } => some (cluster.setCall client none)
    | _ => none

/-- A step that is not possible, or whose assertion fails, does not happen. -/
def next (cluster : Cluster) (action : Action) : Cluster := (cluster.step action).getD cluster

/-- `call_blocking` with nothing else going on. No request has more than five steps. -/
def callBlocking (cluster : Cluster) (client : Nat) (request : FsRequest) (area : Memory) :
    Option (FsResponse × Cluster) :=
  let after := run next cluster (.begin client request area :: List.replicate 5 (.advance client))
  match after.calls client with
  | some { phase := .answered response, .. } => some (response, after.next (.finish client))
  | _ => none

/-- A step begins a call, advances, refuses or finishes one, or does nothing. -/
theorem next_invariant {invariant : Cluster → Prop} {cluster : Cluster} {action : Action}
    (holds : invariant cluster)
    (begun : ∀ client request area, action = .begin client request area →
      cluster.calls client = none →
      invariant ((cluster.setArea client area).setCall client
        (some { request, phase := .queued, executed := [] })))
    (advanced : ∀ client call after, cluster.calls client = some call →
      cluster.advance client call = some after → invariant after)
    (refused : ∀ client call code, cluster.calls client = some call → call.phase = .queued →
      code = -1 ∨ code = -11 →
      invariant (cluster.answer client call (.error code)))
    (finished : ∀ client call response, cluster.calls client = some call →
      call.phase = .answered response → invariant (cluster.setCall client none)) :
    invariant (cluster.next action) := by
  unfold next
  cases action with
  | begin client request area =>
    unfold step
    dsimp only
    split
    · rename_i idle
      exact begun client request area rfl idle
    · exact holds
  | advance client =>
    unfold step
    dsimp only
    split
    · rename_i call busy
      cases result : cluster.advance client call with
      | none => exact holds
      | some after => exact advanced client call after busy result
    · exact holds
  | refuse client code =>
    unfold step
    dsimp only
    split
    · rename_i call busy
      split
      · rename_i allowed
        exact refused client call code busy allowed.1 allowed.2.1
      · exact holds
    · exact holds
  | finish client =>
    unfold step
    dsimp only
    split
    · rename_i request response executed busy
      exact finished client _ response busy rfl
    · exact holds

end Cluster

end Locasta.Aggfs
